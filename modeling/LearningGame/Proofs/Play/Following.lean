import LearningGame.Proofs.Play.Past
import LearningGame.Proofs.Play.Session

/-!
# Going on after a past

Whatever is done in a session does the same, with the same result, in that session with a past behind
it, and leaves the past as it is. This is shown for every operation by way of its parts. An operation
that deals with a seat or a countdown deals with the one that has the same place behind the past.
-/

namespace LearningGame.Play

open Content Schema Rules Act

namespace Session

/-- A computation does the same after a past as another one does without it. -/
def Follows {α : Type} (p : Past) (x' x : Act Session α) (w : Session) : Prop :=
  x'.runIn (w.withPast p) = ((x.runIn w).1, (x.runIn w).2.withPast p)

variable {α β : Type} {p : Past} {w : Session}

/-! ### Parts of computations -/

lemma follows_pure (a : α) : Follows p (pure a) (pure a) w := rfl

lemma follows_lift (r : Except Fault α) : Follows p (lift r) (lift r) w := rfl

lemma follows_modify {f' f : Session → Session} (h : f' (w.withPast p) = (f w).withPast p) :
    Follows p (modify f') (modify f) w := by
  unfold Follows
  rw [runIn_modify, h]
  rfl

lemma follows_bind {x' x : Act Session α} {f' f : α → Act Session β} (hx : Follows p x' x w)
    (hf : ∀ a v, Follows p (f' a) (f a) v) : Follows p (x' >>= f') (x >>= f) w := by
  unfold Follows at hx ⊢
  rw [runIn_bind, runIn_bind, hx]
  cases x.runIn w with
  | mk r v =>
    cases r with
    | ok a => exact hf a v
    | error e => rfl

/-- What goes on from the session may use what it looks like. -/
lemma follows_get_bind {f' f : Session → Act Session α}
    (hf : Follows p (f' (w.withPast p)) (f w) w) : Follows p (get >>= f') (get >>= f) w :=
  hf

lemma follows_modify_bind {g' g : Session → Session} {x' x : PUnit → Act Session α}
    (hg : g' (w.withPast p) = (g w).withPast p) (hx : Follows p (x' ⟨⟩) (x ⟨⟩) (g w)) :
    Follows p (modify g' >>= x') (modify g >>= x) w := by
  unfold Follows
  rw [runIn_modify_bind, hg]
  exact hx

/-- A computation whose result is dropped. -/
lemma follows_drop {x' x : Act Session α} (hx : Follows p x' x w) (b : β) :
    Follows p (x' >>= fun _ => pure b) (x >>= fun _ => pure b) w :=
  follows_bind hx fun _ _ => follows_pure b

/-! ### The table -/

lemma follows_tableNote (level : Log.Level) (source message : String) :
    Follows p (Table.note level source message) (Table.note level source message) w :=
  follows_modify rfl

lemma follows_take (x : Traced Fault α) : Follows p (Table.take x) (Table.take x) w := by
  have hnotes (notes : List Log.Record) (w : Session) :
      notes.foldl (fun w r => Table.write r w) (w.withPast p) =
        (notes.foldl (fun w r => Table.write r w) w).withPast p := by
    induction notes generalizing w with
    | nil => rfl
    | cons r rest ih => exact ih (Table.write r w)
  exact congrArg (Prod.mk x.result) (hnotes x.notes w)

lemma mapRegistry_withPast {f' f : Registry SessionAlarm → Registry SessionAlarm}
    (h : f' (w.table.registry.withPast p) = (f w.table.registry).withPast p) :
    Table.mapRegistry f' (w.withPast p) = (Table.mapRegistry f w).withPast p := by
  have hregistry : Table.mapRegistry f' (w.withPast p) =
      { w.withPast p with
        table := ⟨f' (w.table.registry.withPast p), w.table.notes ++ p.notes⟩ } :=
    rfl
  rw [hregistry, h]
  rfl

lemma follows_arm (name : String) (seconds : Int) (scope : Scope) (alarm : SessionAlarm) :
    Follows p (Table.arm name seconds scope (alarm.withPast p))
      (Table.arm name seconds scope alarm) w :=
  follows_modify_bind (mapRegistry_withPast (Registry.arm_withPast p _ name seconds scope alarm))
    (follows_tableNote _ _ _)

lemma follows_cancel (name : String) :
    Follows p (Table.cancel name) (Table.cancel name : Act Session Unit) w := by
  refine follows_get_bind ?_
  have hfind : (Table.registryOf (w.withPast p)).find? name =
      ((Table.registryOf w).find? name).map (·.withPast p) :=
    Registry.find?_withPast p _ name
  rw [hfind]
  cases (Table.registryOf w).find? name with
  | none => exact follows_pure _
  | some c =>
    exact follows_modify_bind (mapRegistry_withPast (Registry.cancel_withPast p _ name))
      (follows_tableNote _ _ _)

/-! ### Notes and phases -/

lemma follows_note (level : Log.Level) (message : String) :
    Follows p (note level message) (note level message) w :=
  follows_tableNote _ _ _

lemma follows_refuse (message : String) (a : α) :
    Follows p (warn message >>= fun _ => pure a) (warn message >>= fun _ => pure a) w :=
  follows_drop (follows_note _ _) a

lemma follows_whilePlaying (operation : String) (refused : α) {x' x : Act Session α}
    (hx : Follows p x' x w) :
    Follows p (whilePlaying operation refused x') (whilePlaying operation refused x) w := by
  refine follows_get_bind ?_
  rw [phase_withPast]
  split_ifs
  · exact hx
  · exact follows_refuse _ _

lemma follows_transition (e : PhaseEvent) : Follows p (transition e) (transition e) w := by
  refine follows_get_bind ?_
  rw [phase_withPast]
  cases w.phase.after? e with
  | none => exact follows_refuse _ _
  | some phase => rfl

lemma follows_change (f : GameState → GameState) : Follows p (change f) (change f) w :=
  follows_modify rfl

/-! ### The end -/

lemma follows_reportEnd : Follows p reportEnd reportEnd w := by
  refine follows_get_bind ?_
  rw [reported_withPast]
  split_ifs
  · exact follows_pure _
  · refine follows_modify ?_
    simp [withPast]

lemma follows_finish : Follows p finish finish w := by
  refine follows_modify_bind rfl (follows_bind (follows_get_bind (follows_take _)) fun tier v => ?_)
  refine follows_modify_bind rfl (follows_modify_bind rfl ?_)
  refine follows_bind (follows_transition _) fun _ v => follows_get_bind ?_
  exact follows_bind (follows_note _ _) fun _ _ => follows_reportEnd

lemma follows_stop : Follows p stop stop w :=
  follows_whilePlaying _ _ (follows_drop follows_finish true)

/-! ### Answers, hints and items -/

lemma follows_scheduleEnd : Follows p scheduleEnd scheduleEnd w := by
  refine follows_get_bind (follows_bind (follows_note _ _) fun _ v => ?_)
  show Follows p (if w.settings.graceSeconds ≤ 0 then _ else _)
    (if w.settings.graceSeconds ≤ 0 then _ else _) v
  split_ifs
  · exact follows_drop follows_stop ()
  · exact follows_arm _ _ _ .lifeLoss

lemma follows_loseLife : Follows p loseLife loseLife w := by
  refine follows_get_bind ?_
  rw [state_withPast]
  cases w.state.lives with
  | none => exact follows_pure _
  | some lives =>
    dsimp only
    split_ifs
    · exact follows_bind (follows_change _) fun _ _ => follows_scheduleEnd
    · exact follows_bind (follows_change _) fun _ _ => follows_pure _
    · exact follows_pure _

lemma follows_enterAnswer (x : Submission) : Follows p (enterAnswer x) (enterAnswer x) w := by
  refine follows_get_bind (follows_bind (follows_lift _) fun points v => ?_)
  refine follows_bind (follows_change _) fun _ v => follows_bind (follows_lift _) fun score v => ?_
  refine follows_bind (follows_change _) fun _ v => follows_bind (follows_note _ _) fun _ v => ?_
  split_ifs
  · exact follows_pure _
  · exact follows_bind follows_loseLife fun _ _ => follows_pure _

lemma follows_submitAnswer (x : Submission) : Follows p (submitAnswer x) (submitAnswer x) w :=
  follows_whilePlaying _ _ (follows_bind (follows_enterAnswer x) fun _ _ => follows_pure _)

lemma follows_useHint : Follows p useHint useHint w := by
  refine follows_whilePlaying _ _ (follows_get_bind ?_)
  rw [state_withPast]
  split_ifs
  · exact follows_pure _
  · exact follows_drop (follows_change _) true

lemma follows_updateVariables (patch : Fields) :
    Follows p (updateVariables patch) (updateVariables patch) w :=
  follows_whilePlaying _ _ (follows_change _)

lemma follows_addItem (item : String) : Follows p (addItem item) (addItem item) w :=
  follows_whilePlaying _ _ (follows_change _)

lemma follows_removeItem (item : String) : Follows p (removeItem item) (removeItem item) w :=
  follows_whilePlaying _ _ (follows_change _)

/-! ### Completing and navigating -/

section

variable {activate' activate : Act Session Unit} (hactivate : ∀ w, Follows p activate' activate w)

include hactivate

lemma follows_goTo (id : String) : Follows p (goTo activate' id) (goTo activate id) w :=
  follows_bind (follows_change _) fun _ _ => hactivate _

lemma follows_goOn (id : String) (place : Nat) :
    Follows p (goOn activate' id place) (goOn activate id place) w := by
  refine follows_bind (follows_note _ _) fun _ v => follows_get_bind ?_
  have hnext : (v.withPast p).nextAfter place = v.nextAfter place := rfl
  rw [hnext]
  cases v.nextAfter place with
  | none => exact follows_drop follows_stop ()
  | some next => exact follows_goTo hactivate next

lemma follows_completeAt (id : String) (place : Nat) :
    Follows p (completeAt activate' id place) (completeAt activate id place) w := by
  refine follows_get_bind ?_
  show Follows p (if w.isAhead place then _ else _) (if w.isAhead place then _ else _) w
  split_ifs
  · exact follows_bind (follows_change _) fun _ _ => follows_goOn hactivate id place
  · exact follows_bind (follows_note _ _) fun _ _ => follows_goOn hactivate id place

lemma follows_completeBy (id : String) :
    Follows p (completeBy activate' id) (completeBy activate id) w := by
  refine follows_whilePlaying _ _ (follows_get_bind ?_)
  rw [state_withPast]
  split_ifs
  · exact follows_refuse _ _
  · exact follows_refuse _ _
  · have hplace : (w.withPast p).place? id = w.place? id := rfl
    rw [hplace]
    cases w.place? id with
    | none => exact follows_bind (follows_note _ _) fun _ _ => follows_drop follows_stop true
    | some place => exact follows_drop (follows_completeAt hactivate id place) true

lemma follows_navigateBy (id : String) :
    Follows p (navigateBy activate' id) (navigateBy activate id) w := by
  refine follows_whilePlaying _ _ (follows_get_bind ?_)
  rw [game_withPast]
  cases w.game.section? id with
  | none => exact follows_refuse _ _
  | some s => exact follows_drop (follows_goTo hactivate id) true

/-! ### What sections ask -/

omit hactivate in
lemma follows_heard (seat : Seat) (operation : String) (refused : α) {x' x : Act Session α}
    (hx : Follows p x' x w) :
    Follows p (heard (seat.withPast p) operation refused x') (heard seat operation refused x) w := by
  refine follows_get_bind ?_
  have hcurrent : (seat.withPast p).epochs.current (w.withPast p).table.registry.epochs .ofSection =
      seat.epochs.current w.table.registry.epochs .ofSection :=
    Epochs.current_withPast p _ _ _
  rw [hcurrent]
  split_ifs
  · exact hx
  · exact follows_drop (follows_tableNote _ _ _) refused

lemma follows_reply (index : Nat) (seat : Seat) (r : Request) (w : Session) :
    Follows p (reply activate' (p.seats.length + index) (seat.withPast p) r)
      (reply activate index seat r) w := by
  cases r with
  | report item given isCorrect points time =>
    exact follows_heard seat _ _ (follows_drop (follows_submitAnswer _) ())
  | complete => exact follows_heard seat _ _ (follows_drop (follows_completeBy hactivate _) ())
  | spendHint => exact follows_heard seat _ _ follows_useHint
  | navigate id => exact follows_heard seat _ _ (follows_drop (follows_navigateBy hactivate id) ())
  | updateVariables patch => exact follows_heard seat _ _ (follows_updateVariables patch)
  | addItem item => exact follows_heard seat _ _ (follows_addItem item)
  | removeItem item => exact follows_heard seat _ _ (follows_removeItem item)
  | look => exact follows_get_bind (follows_pure _)
  | arm alarm seconds => exact follows_arm _ _ _ (.ofSeat index alarm)
  | cancel alarm => exact follows_cancel _
  | draw => rfl
  | now => exact follows_get_bind (follows_pure _)
  | note level message => exact follows_tableNote _ _ _

omit hactivate in
/-- A script gets the same replies. -/
lemma run_withPast {σ : Type} {answer' answer : (r : Request) → Act Session r.Reply}
    (hanswer : ∀ r w, Follows p (answer' r) (answer r) w) (x : Script σ α) (s : σ) (w : Session) :
    x.run answer' s (w.withPast p) =
      ((x.run answer s w).1, (x.run answer s w).2.1, (x.run answer s w).2.2.withPast p) := by
  induction x generalizing s w with
  | done a => rfl
  | fail e => rfl
  | get next ih => exact ih s s w
  | put t next ih => exact ih t w
  | ask r next ih =>
    have hr := hanswer r w
    unfold Follows at hr
    unfold Script.run
    rw [hr]
    cases (answer r).runIn w with
    | mk result v =>
      cases result with
      | ok a => exact ih a s v
      | error e => rfl

lemma follows_perform (index : Nat) (script : Setting → Player → Script Player α) :
    Follows p (perform activate' (p.seats.length + index) script) (perform activate index script)
      w := by
  unfold Follows
  cases hseat : w.seats[index]? with
  | none =>
    have hbehind : (w.withPast p).seats[p.seats.length + index]? = none := by simp [hseat]
    rw [perform, perform, runIn_ofFun, runIn_ofFun, hseat, hbehind]
  | some seat =>
    have hbehind : (w.withPast p).seats[p.seats.length + index]? = some (seat.withPast p) := by
      simp [hseat]
    have hrun := run_withPast (follows_reply hactivate index seat)
      (script seat.setting seat.player) seat.player w
    rw [runIn_perform activate' hbehind, runIn_perform activate hseat]
    show (_, putPlayer _ _ _) = _
    simp only [show (seat.withPast p).setting = seat.setting from rfl,
      show (seat.withPast p).player = seat.player from rfl, hrun, putPlayer_withPast]

end

/-! ### Beginning sections -/

/-- A seat is taken behind those of the past. -/
lemma runIn_takeSeat_withPast (s : Section) (w : Session) :
    (takeSeat s).runIn (w.withPast p) =
      match (takeSeat s).runIn w with
      | (.ok index, v) => (.ok (p.seats.length + index), v.withPast p)
      | (.error e, v) => (.error e, v.withPast p) := by
  have hsit : (sitDown s).runIn (w.withPast p) =
      (((sitDown s).runIn w).1, ((sitDown s).runIn w).2.withPast p) :=
    rfl
  rw [takeSeat, runIn_bind, runIn_bind, hsit]
  cases (sitDown s).runIn w with
  | mk r v =>
    cases r with
    | error e => rfl
    | ok player =>
      let seat : Seat := ⟨Setting.ofSection v.game v.settings s, v.table.registry.epochs, player⟩
      let active : Log.Record :=
        ⟨.debug, "edugame.session", "Section active: '" ++ s.id ++ "' (" ++ Named.name s.kind ++ ")"⟩
      have hseats : (v.withPast p).seats ++ [seat.withPast p] =
          p.seats ++ (v.seats ++ [seat]).map (·.withPast p) := by
        simp [withPast]
      have hcurrent : some (v.withPast p).seats.length =
          (some v.seats.length).map (p.seats.length + ·) := by
        simp
      exact Prod.ext (congrArg Except.ok (length_seats_withPast v p)) <| congrArg₂
        (fun seats current => ({ Table.write active (v.withPast p) with seats, current } : Session))
        hseats hcurrent

lemma follows_activateWithin (n : Nat) (w : Session) :
    Follows p (activateWithin n) (activateWithin n) w := by
  have hleave (w : Session) : leaveSection (w.withPast p) = (leaveSection w).withPast p := by
    rw [leaveSection, mapRegistry_withPast (Registry.nextSection_withPast p _)]
    rfl
  induction n generalizing w with
  | zero => exact follows_modify_bind (hleave w) rfl
  | succ n ih =>
    refine follows_modify_bind (hleave w) (follows_get_bind ?_)
    have hsection : ((leaveSection w).withPast p).game.section?
        ((leaveSection w).withPast p).state.sectionId =
          (leaveSection w).game.section? (leaveSection w).state.sectionId := rfl
    rw [hsection]
    cases (leaveSection w).game.section? (leaveSection w).state.sectionId with
    | none => exact follows_note _ _
    | some s =>
      unfold Follows
      dsimp only
      rw [runIn_bind, runIn_bind, runIn_takeSeat_withPast]
      cases (takeSeat s).runIn (leaveSection w) with
      | mk r v =>
        cases r with
        | ok index => exact follows_perform ih index Player.enter
        | error e => rfl

lemma follows_activate (w : Session) : Follows p activate activate w :=
  follows_get_bind (follows_activateWithin (longestChain w.game) w)

lemma follows_completeSection (id : String) :
    Follows p (completeSection id) (completeSection id) w :=
  follows_completeBy follows_activate id

lemma follows_navigateTo (id : String) : Follows p (navigateTo id) (navigateTo id) w :=
  follows_navigateBy follows_activate id

/-! ### The course of a session -/

lemma follows_armGame : Follows p armGame armGame w := by
  refine follows_get_bind ?_
  rw [state_withPast]
  cases w.state.timeRemaining with
  | none => exact follows_pure _
  | some seconds =>
    dsimp only
    split_ifs
    · exact follows_pure _
    · exact follows_arm _ _ _ .game

lemma follows_start : Follows p start start w := by
  refine follows_bind (follows_transition _) fun started v => ?_
  split_ifs
  · exact follows_get_bind (follows_bind (follows_note _ _) fun _ _ =>
      follows_bind follows_armGame fun _ _ => follows_drop (follows_activate _) true)
  · exact follows_pure _

lemma follows_restart : Follows p restart restart w := by
  refine follows_modify_bind rfl (follows_bind (follows_transition _) fun _ _ => ?_)
  exact follows_modify_bind rfl (follows_note _ _)

/-! ### Time -/

lemma follows_bellsTick (c : Countdown SessionAlarm) (left : Int) :
    Follows p (bells.tick (c.withPast p) left) (bells.tick c left) w := by
  unfold bells
  dsimp only
  rw [Countdown.alarm_withPast]
  cases c.alarm with
  | game => exact follows_change _
  | lifeLoss => exact follows_pure _
  | ofSeat index alarm => exact follows_perform follows_activate index _

lemma follows_bellsExpire (c : Countdown SessionAlarm) :
    Follows p (bells.expire (c.withPast p)) (bells.expire c) w := by
  unfold bells
  dsimp only
  rw [Countdown.alarm_withPast]
  cases c.alarm with
  | game => exact follows_bind (follows_note _ _) fun _ _ => follows_drop follows_stop ()
  | lifeLoss => exact follows_drop follows_stop ()
  | ofSeat index alarm => exact follows_perform follows_activate index _

lemma follows_goOff (c : Countdown SessionAlarm) :
    Follows p (Table.goOff bells (c.withPast p)) (Table.goOff bells c) w :=
  follows_modify_bind (mapRegistry_withPast (Registry.cancel_withPast p _ c.name))
    (follows_bind (follows_tableNote _ _ _) fun _ _ => follows_bellsExpire c)

lemma follows_advance (serial : Nat) :
    Follows p (Table.advance bells (p.armed + serial)) (Table.advance bells serial) w := by
  refine follows_get_bind ?_
  have hlive : (Table.registryOf (w.withPast p)).live? (p.armed + serial) =
      ((Table.registryOf w).live? serial).map (·.withPast p) :=
    Registry.live?_withPast p _ serial
  rw [hlive]
  cases (Table.registryOf w).live? serial with
  | none => exact follows_pure _
  | some c =>
    refine follows_modify_bind (mapRegistry_withPast (Registry.step_withPast p _ c)) ?_
    refine follows_bind (follows_bellsTick c _) fun _ v => follows_get_bind ?_
    have hleft : (Table.registryOf (v.withPast p)).left (c.withPast p) =
        (Table.registryOf v).left c :=
      Registry.left_withPast p _ c
    rw [hleft]
    split_ifs
    · exact follows_drop (follows_goOff c) (some c.name)
    · exact follows_pure _

lemma follows_advanceAll (serials : List Nat) (w : Session) :
    Follows p (Table.advanceAll bells (serials.map (p.armed + ·)))
      (Table.advanceAll bells serials) w := by
  induction serials generalizing w with
  | nil => exact follows_pure _
  | cons serial rest ih =>
    exact follows_bind (follows_advance serial) fun _ v =>
      follows_bind (ih v) fun _ _ => follows_pure _

lemma follows_tick : Follows p tick tick w := by
  refine follows_get_bind ?_
  rw [phase_withPast]
  split_ifs
  · refine follows_bind (follows_change _) fun _ v => follows_drop (follows_get_bind ?_) ()
    have hserials : (Table.registryOf (v.withPast p)).serials =
        (Table.registryOf v).serials.map (p.armed + ·) :=
      Registry.serials_withPast p _
    rw [hserials]
    exact follows_advanceAll _ v
  · exact follows_pure _

end Session

end LearningGame.Play
