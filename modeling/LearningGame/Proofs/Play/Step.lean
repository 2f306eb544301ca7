import LearningGame.Play.Session.Course
import LearningGame.Proofs.Play.Session

/-!
# The steps of a session

All that happens to a session between its start and its next restart is made up of a few kinds of
steps, each possible under conditions of its own: steps that are taken at once, and those by which
time goes by. What every step keeps is so kept by every operation, every second that goes by and
every move in a section, and only the steps have to be looked at.
-/

namespace LearningGame.Play

open Content Schema Rules Act

/-! ### Sitting down -/

lemma QuizSitting.completed_create (c : Setting) (quiz : Quiz) (started : Float) (dice : Dice) :
    (StateT.run (create c quiz started) dice).1.completed = false := by
  unfold create
  split_ifs <;> rfl

lemma FlashcardSitting.completed_create (c : Setting) (deck : Flashcards) (started : Float)
    (dice : Dice) : (StateT.run (create c deck started) dice).1.completed = false := by
  unfold create
  split_ifs <;> rfl

/-- One can sit down to a section whose content is of its kind, and then it is not finished. -/
lemma Player.sitDown_spec (c : Setting) (content : SectionContent) (started : Float) (dice : Dice) :
    (∃ player after, (sitDown c content started).runIn dice = (.ok player, after) ∧
        player.completed = false ∧ player.kind = c.kind) ∨
      ((sitDown c content started).runIn dice = (.error .contentMismatch, dice) ∧
        content.kind ≠ c.kind) := by
  by_cases hkind : content.kind = c.kind
  · left
    unfold sitDown
    rw [← hkind]
    cases content with
    | quiz x => exact ⟨_, _, rfl, QuizSitting.completed_create c x started dice, rfl⟩
    | flashcards x => exact ⟨_, _, rfl, FlashcardSitting.completed_create c x started dice, rfl⟩
    | _ => exact ⟨_, _, rfl, rfl, rfl⟩
  · unfold sitDown
    split
    case h_9 hinfo => exact .inl ⟨_, _, rfl, rfl, hinfo.symm⟩
    case h_10 => exact .inr ⟨rfl, hkind⟩
    all_goals
      rename_i heq
      exact absurd heq.symm hkind

/-- A player that has just sat down to a section. -/
def Player.SitsDown (c : Setting) (content : SectionContent) (player : Player) : Prop :=
  ∃ started dice after, (sitDown c content started).runIn dice = (.ok player, after)

/-- Whoever has just sat down has not finished, and plays a section of the kind. -/
lemma Player.SitsDown.fresh {c : Setting} {content : SectionContent} {player : Player}
    (h : player.SitsDown c content) : player.completed = false ∧ player.kind = c.kind := by
  obtain ⟨started, dice, after, hrun⟩ := h
  rcases sitDown_spec c content started dice with ⟨_, _, hspec, hfresh⟩ | ⟨hspec, -⟩
  · rw [hspec] at hrun
    cases hrun
    exact hfresh
  · rw [hspec] at hrun
    cases hrun

/-! ### The course of a game -/

/-- What answers, hints, variables and items leave as it is. -/
structure Course where
  sectionId : String
  itemIndex : Int
  timeElapsed : Int
  timeRemaining : Option Int
  completed : List String
  isComplete : Bool
  rating : Option RatingTier

/-- How far a game has come. -/
def GameState.course (s : GameState) : Course where
  sectionId := s.sectionId
  itemIndex := s.itemIndex
  timeElapsed := s.timeElapsed
  timeRemaining := s.timeRemaining
  completed := s.completed
  isComplete := s.isComplete
  rating := s.rating

namespace Session

/-! ### Steps -/

/-- A state at the end of the game. -/
def rated (s : GameState) (tier : RatingTier) : GameState :=
  { s with isComplete := true, rating := some tier }

/-- A session whose end has been reported, if it was not before. -/
def report (w : Session) : Session :=
  if w.reported then w
  else { w with reported := true, completions := w.completions ++ [w.state] }

/-- A session at the end of the game. -/
def finished (w : Session) (tier : RatingTier) (table : Table SessionAlarm) : Session :=
  report { w with state := rated w.state tier, table, current := none, phase := .outro }

section

variable (w : Session) (tier : RatingTier) (table : Table SessionAlarm)

@[simp] lemma game_finished : (w.finished tier table).game = w.game := by
  unfold finished report
  split_ifs <;> rfl

@[simp] lemma settings_finished : (w.finished tier table).settings = w.settings := by
  unfold finished report
  split_ifs <;> rfl

@[simp] lemma table_finished : (w.finished tier table).table = table := by
  unfold finished report
  split_ifs <;> rfl

@[simp] lemma phase_finished : (w.finished tier table).phase = .outro := by
  unfold finished report
  split_ifs <;> rfl

@[simp] lemma state_finished : (w.finished tier table).state = rated w.state tier := by
  unfold finished report
  split_ifs <;> rfl

@[simp] lemma seats_finished : (w.finished tier table).seats = w.seats := by
  unfold finished report
  split_ifs <;> rfl

@[simp] lemma current_finished : (w.finished tier table).current = none := by
  unfold finished report
  split_ifs <;> rfl

end

/-- A session in which a section has just been begun. -/
def seated (w : Session) (s : Section) (player : Player) (dice : Dice)
    (table : Table SessionAlarm) : Session :=
  { w with
    table
    dice
    seats := w.seats ++ [⟨Setting.ofSection w.game w.settings s, table.registry.epochs, player⟩]
    current := some w.seats.length }

/-- A session that has turned to an item of a section. -/
def turned (w : Session) (id : String) (index : Int) : Session :=
  { w with state := { w.state with sectionId := id, itemIndex := index } }

/-- Where a session can turn to: where it is, or to a section that the game names. -/
def Reaches (w : Session) (id : String) : Prop :=
  id = w.state.sectionId ∨ id ∈ w.game.order ∨ (w.game.section? id).isSome

/-- What happens to a session at once. -/
inductive Step : Session → Session → Prop
  /-- Notes are made, dice are thrown, the clock is moved. -/
  | aside {w : Session} (notes : List Log.Record) (dice : Dice) (clock : Float) :
      Step w { w with table := { w.table with notes }, dice, clock }
  /-- A countdown of a section is set. -/
  | arm {w : Session} (index : Nat) (alarm : Alarm) (sectionId : String) (seconds : Int) :
      Step w (Table.mapRegistry (fun r => r.arm (alarm.fullName sectionId) seconds .ofSection
        (SessionAlarm.ofSeat index alarm)) w)
  /-- A countdown of a section is taken out. -/
  | cancel {w : Session} (alarm : Alarm) (sectionId : String) :
      Step w (Table.mapRegistry (fun r => r.cancel (alarm.fullName sectionId)) w)
  /-- The game is to end for want of lives, after some time. -/
  | grant {w : Session} (hw : w.phase = .playing) (hlives : w.state.lives = some 0)
      (hgrace : 0 < w.settings.graceSeconds) :
      Step w (Table.mapRegistry (fun r => r.arm lifeLossName w.settings.graceSeconds .ofPlay
        SessionAlarm.lifeLoss) w)
  /-- Answers, hints, variables and items. -/
  | reckon {w : Session} (s : GameState) (hw : w.phase = .playing)
      (hs : s.course = w.state.course) (hstreak : 0 ≤ w.state.streak → 0 ≤ s.streak) :
      Step w { w with state := s }
  /-- A section is completed. -/
  | complete {w : Session} (id : String) (place : Nat) (hw : w.phase = .playing)
      (hplace : w.place? id = some place) (hahead : w.isAhead place = true) :
      Step w { w with state := { w.state with completed := w.state.completed ++ [id] } }
  /-- The current section is left and another one begun. -/
  | sit {w : Session} (id : String) (index : Int) (s : Section) (player : Player) (dice : Dice)
      (table : Table SessionAlarm) (hw : w.phase = .playing) (hs : w.game.section? id = some s)
      (hplayer : player.completed = false) (hkind : player.kind = s.kind)
      (htable : table.registry = w.table.registry.nextSection) :
      Step w ((w.turned id index).seated s player dice table)
  /-- The current section is left and no other one can be begun. -/
  | stray {w : Session} (id : String) (index : Int) (table : Table SessionAlarm)
      (hw : w.phase = .playing) (hid : w.Reaches id)
      (hs : ∀ s, w.game.section? id = some s → s.content.kind ≠ s.kind)
      (htable : table.registry = w.table.registry.nextSection) :
      Step w { w.turned id index with table, current := none }
  /-- The game ends. -/
  | finish {w : Session} (tier : RatingTier) (table : Table SessionAlarm) (hw : w.phase = .playing)
      (htier : rate w.game.scoring w.state.score = .ok tier)
      (htable : table.registry = w.table.registry.nextPhase) :
      Step w (w.finished tier table)

/-- What happens to a session as time goes by. -/
inductive Lapse : Session → Session → Prop
  | elapse {w : Session} (hw : w.phase = .playing) :
      Lapse w { w with state := { w.state with timeElapsed := w.state.timeElapsed + 1 } }
  /-- A countdown loses a second. -/
  | strike {w : Session} (serial : Nat) (c : Countdown SessionAlarm)
      (hc : w.table.registry.live? serial = some c) :
      Lapse w (Table.mapRegistry (fun r => r.step c) w)
  /-- The countdown of the game tells the time that is left. -/
  | remain {w : Session} (left : Int) :
      Lapse w { w with state := { w.state with timeRemaining := some left } }
  /-- A countdown that has run out is taken out. -/
  | expire {w : Session} (c : Countdown SessionAlarm) (hc : w.table.registry.left c ≤ 0) :
      Lapse w (Table.mapRegistry (fun r => r.cancel c.name) w)

/-- Notes are made and nothing else happens. -/
lemma Step.notes {w : Session} {table : Table SessionAlarm}
    (htable : table.registry = w.table.registry) : Step w { w with table } := by
  obtain ⟨registry, notes⟩ := table
  cases htable
  exact .aside notes w.dice w.clock

namespace Step

variable {w v : Session} (h : Step w v)

include h

/-- A session stays one of the same game. -/
lemma game_eq : v.game = w.game ∧ v.settings = w.settings := by
  cases h with
  | finish => simp
  | _ => exact ⟨rfl, rfl⟩

/-- No time goes by in a step. -/
lemma time_eq : v.state.timeElapsed = w.state.timeElapsed ∧
    v.state.timeRemaining = w.state.timeRemaining := by
  cases h with
  | reckon s _ hs => exact ⟨congrArg Course.timeElapsed hs, congrArg Course.timeRemaining hs⟩
  | finish => simp [rated]
  | _ => exact ⟨rfl, rfl⟩

/-- What a step makes of the countdowns. -/
lemma registry {R : Registry SessionAlarm → Prop} (hr : R w.table.registry)
    (harm : ∀ (index : Nat) (alarm : Alarm) (sectionId : String) (seconds : Int),
      R (w.table.registry.arm (alarm.fullName sectionId) seconds .ofSection (.ofSeat index alarm)))
    (hcancel : ∀ (alarm : Alarm) (sectionId : String),
      R (w.table.registry.cancel (alarm.fullName sectionId)))
    (hgrant : ∀ seconds : Int,
      R (w.table.registry.arm lifeLossName seconds .ofPlay SessionAlarm.lifeLoss))
    (hsection : R w.table.registry.nextSection) (hphase : R w.table.registry.nextPhase) :
    R v.table.registry := by
  cases h with
  | aside | reckon | complete => exact hr
  | arm index alarm sectionId seconds => exact harm index alarm sectionId seconds
  | cancel alarm sectionId => exact hcancel alarm sectionId
  | grant => exact hgrant _
  | sit id index s player dice table _ _ _ _ htable =>
    show R table.registry
    exact htable ▸ hsection
  | stray id index table _ _ _ htable =>
    show R table.registry
    exact htable ▸ hsection
  | finish tier table _ _ htable =>
    rw [table_finished, htable]
    exact hphase

end Step

/-- A session in which the score could not be rated when the game was to end. -/
def unrated (w : Session) (table : Table SessionAlarm) : Session :=
  { w with state := { w.state with isComplete := true }, table }

variable {w : Session}

/-! ### Notes and phases -/

/-- A table on which the session has made a note. -/
def noted (table : Table SessionAlarm) (level : Log.Level) (message : String) :
    Table SessionAlarm :=
  { table with notes := ⟨level, "edugame.session", message⟩ :: table.notes }

/-- Taking over a result adds notes. -/
lemma runIn_take {β : Type} (x : Traced Fault β) (w : Session) :
    ∃ table, table.registry = w.table.registry ∧
      (Table.take x).runIn w = (x.result, { w with table }) := by
  have hwrite (notes : List Log.Record) (w : Session) :
      ∃ table, table.registry = w.table.registry ∧
        notes.foldl (fun w r => Table.write r w) w = { w with table } := by
    induction notes generalizing w with
    | nil => exact ⟨w.table, rfl, rfl⟩
    | cons r rest ih =>
      obtain ⟨table, htable, hrest⟩ := ih (Table.write r w)
      exact ⟨table, htable, hrest⟩
  obtain ⟨table, htable, hnotes⟩ := hwrite x.notes w
  exact ⟨table, htable, by rw [Table.take, runIn_ofFun, hnotes]⟩

lemma runIn_transition {e : PhaseEvent} {p : Phase} (h : w.phase.after? e = some p) :
    ∃ table, table.registry = w.table.registry ∧
      (transition e).runIn w = (.ok true, { w with table, phase := p }) := by
  let table : Table SessionAlarm :=
    { w.table with notes := ⟨.debug, phaseSource, w.phase.changeNote p e⟩ :: w.table.notes }
  refine ⟨table, rfl, ?_⟩
  rw [transition, runIn_get_bind, h]
  rfl

lemma runIn_transition_refused {e : PhaseEvent} (h : w.phase.after? e = none) :
    ∃ table, table.registry = w.table.registry ∧
      (transition e).runIn w = (.ok false, { w with table }) := by
  refine ⟨noted w.table .warning (w.phase.refusal e), rfl, ?_⟩
  rw [transition, runIn_get_bind, h]
  rfl

/-! ### The end -/

/-- What is done at the end of the game once the score is rated. -/
def close (tier : RatingTier) : Act Session Unit := do
  change fun s => { s with rating := some tier }
  modify fun w => { Table.mapRegistry Registry.nextPhase w with current := none }
  let _ ← transition .finish
  let w ← get
  note .info ("Session complete: score " ++ w.state.score.text ++ "/" ++
    Number.intText w.game.scoring.maxScore ++ ", rating '" ++ tier.label ++ "'")
  reportEnd

lemma finish_eq_close :
    finish = (do
      change fun s => { s with isComplete := true }
      let tier ← rateScore
      close tier) :=
  rfl

lemma runIn_reportEnd : reportEnd.runIn w = (.ok (), w.report) := by
  rw [reportEnd, runIn_get_bind]
  unfold report
  split_ifs <;> rfl

lemma runIn_close (hw : w.phase = .playing) (tier : RatingTier) :
    ∃ table, table.registry = w.table.registry.nextPhase ∧
      (close tier).runIn w =
        (.ok (), report
          { w with
            state := { w.state with rating := some tier }
            table, current := none, phase := .outro }) := by
  let left : Session :=
    { Table.mapRegistry Registry.nextPhase w with
      state := { w.state with rating := some tier }
      current := none }
  have hafter : left.phase.after? .finish = some .outro := by
    show w.phase.after? .finish = some .outro
    rw [hw]
    rfl
  obtain ⟨table, htable, htransition⟩ := runIn_transition hafter
  refine ⟨noted table .info ("Session complete: score " ++ w.state.score.text ++ "/" ++
    Number.intText w.game.scoring.maxScore ++ ", rating '" ++ tier.label ++ "'"), htable, ?_⟩
  rw [close, change, runIn_modify_bind, runIn_modify_bind]
  show (transition .finish >>= _).runIn left = _
  rw [runIn_bind, htransition]
  exact runIn_reportEnd

/-- Ending the game, which is given up if the score cannot be rated. -/
lemma finish_spec (hw : w.phase = .playing) :
    (∃ e table, rate w.game.scoring w.state.score = .error e ∧
        table.registry = w.table.registry ∧ finish.runIn w = (.error e, w.unrated table)) ∨
      ∃ tier table, rate w.game.scoring w.state.score = .ok tier ∧
        table.registry = w.table.registry.nextPhase ∧
        finish.runIn w = (.ok (), w.finished tier table) := by
  rw [finish_eq_close, change, runIn_modify_bind, rateScore, runIn_bind, runIn_get_bind]
  obtain ⟨table, htable, htake⟩ := runIn_take (rateNoted w.game.scoring w.state.score)
    { w with state := { w.state with isComplete := true } }
  rw [htake, result_rateNoted]
  cases hrate : rate w.game.scoring w.state.score with
  | error e => exact .inl ⟨e, table, rfl, htable, rfl⟩
  | ok tier =>
    obtain ⟨after, hafter, hclose⟩ :=
      runIn_close (w := { w with state := { w.state with isComplete := true }, table }) hw tier
    exact .inr ⟨tier, after, rfl, hafter.trans (congrArg _ htable), hclose⟩

/-- Stopping a game that is being played. -/
lemma stop_spec (hw : w.phase = .playing) :
    (∃ e table, rate w.game.scoring w.state.score = .error e ∧
        table.registry = w.table.registry ∧ stop.runIn w = (.error e, w.unrated table)) ∨
      ∃ tier table, rate w.game.scoring w.state.score = .ok tier ∧
        table.registry = w.table.registry.nextPhase ∧
        stop.runIn w = (.ok true, w.finished tier table) := by
  have hstop : stop.runIn w = (finish >>= fun _ => pure true).runIn w :=
    runIn_whilePlaying hw _ _ _
  rw [hstop, runIn_bind]
  rcases finish_spec hw with ⟨e, table, hrate, htable, hrun⟩ | ⟨tier, table, hrate, htable, hrun⟩
  · exact .inl ⟨e, table, hrate, htable, by rw [hrun]⟩
  · exact .inr ⟨tier, table, hrate, htable, by rw [hrun]; rfl⟩

/-! ### Lives -/

/-- A session with so many lives left. -/
def withLives (w : Session) (lives : Int) : Session :=
  { w with state := { w.state with lives := some lives } }

/-- The game is to end after some time, or at once if none is granted. -/
lemma scheduleEnd_spec (w : Session) :
    (0 < w.settings.graceSeconds ∧ ∃ table,
        table.registry = w.table.registry.arm lifeLossName w.settings.graceSeconds .ofPlay
          SessionAlarm.lifeLoss ∧
        scheduleEnd.runIn w = (.ok (), { w with table })) ∨
      (w.settings.graceSeconds ≤ 0 ∧ ∃ table, table.registry = w.table.registry ∧
        scheduleEnd.runIn w = (stop >>= fun _ => pure ()).runIn { w with table }) := by
  let first : Table SessionAlarm := noted w.table .info
    ("Out of lives; ending game in " ++ Number.intText w.settings.graceSeconds ++ "s")
  by_cases hgrace : w.settings.graceSeconds ≤ 0
  · refine .inr ⟨hgrace, first, rfl, ?_⟩
    rw [scheduleEnd, runIn_get_bind]
    simp only [if_pos hgrace]
    rfl
  · let registry := w.table.registry.arm lifeLossName w.settings.graceSeconds .ofPlay
      SessionAlarm.lifeLoss
    let note : Log.Record :=
      ⟨.debug, countdownSource, armedNote lifeLossName (.int w.settings.graceSeconds) .ofPlay⟩
    refine .inl ⟨Int.not_le.1 hgrace, ⟨registry, note :: first.notes⟩, rfl, ?_⟩
    rw [scheduleEnd, runIn_get_bind]
    simp only [if_neg hgrace]
    rfl

/-- A life is lost if there is one, and with the last one the game is to end. -/
lemma loseLife_spec (w : Session) :
    ((∀ lives, w.state.lives = some lives → lives ≤ 0) ∧ loseLife.runIn w = (.ok (), w)) ∨
      (∃ lives, w.state.lives = some lives ∧ 1 < lives ∧
        loseLife.runIn w = (.ok (), w.withLives (lives - 1))) ∨
      (w.state.lives = some 1 ∧ loseLife.runIn w = scheduleEnd.runIn (w.withLives 0)) := by
  rw [loseLife, runIn_get_bind]
  cases hlives : w.state.lives with
  | none => exact .inl ⟨by simp, rfl⟩
  | some lives =>
    dsimp only
    by_cases hsome : 0 < lives
    · rw [if_pos hsome, change, runIn_modify_bind]
      by_cases hlast : lives - 1 = 0
      · obtain rfl : lives = 1 := by omega
        exact .inr (.inr ⟨rfl, by rw [if_pos hlast]; rfl⟩)
      · exact .inr (.inl ⟨lives, rfl, by omega, by rw [if_neg hlast]; rfl⟩)
    · rw [if_neg hsome]
      exact .inl ⟨fun n hn => by cases hn; omega, rfl⟩

/-! ### Beginning sections -/

/-- One takes a seat at a section whose content is of its kind. -/
lemma takeSeat_spec (s : Section) (w : Session) :
    (∃ player dice table, player.SitsDown (Setting.ofSection w.game w.settings s) s.content ∧
        table.registry = w.table.registry ∧
        (takeSeat s).runIn w = (.ok w.seats.length, w.seated s player dice table)) ∨
      (s.content.kind ≠ s.kind ∧ (takeSeat s).runIn w = (.error .contentMismatch, w)) := by
  rw [takeSeat, runIn_bind, sitDown, runIn_ofFun]
  rcases Player.sitDown_spec (Setting.ofSection w.game w.settings s) s.content w.clock w.dice with
    ⟨player, dice, hrun, -⟩ | ⟨hrun, hkind⟩
  · rw [hrun]
    exact .inl ⟨player, dice, noted w.table .debug ("Section active: '" ++ s.id ++ "' (" ++
      Named.name s.kind ++ ")"), ⟨_, _, _, hrun⟩, rfl, rfl⟩
  · rw [hrun]
    exact .inr ⟨hkind, rfl⟩

/-- The current section is left, and another one is begun unless there is none to sit down to. -/
lemma activateWithin_spec (n : Nat) (w : Session) :
    (∃ s player dice table, w.game.section? w.state.sectionId = some s ∧
        player.SitsDown (Setting.ofSection w.game w.settings s) s.content ∧
        table.registry = w.table.registry.nextSection ∧
        (activateWithin (n + 1)).runIn w =
          (perform (activateWithin n) w.seats.length Player.enter).runIn
            (w.seated s player dice table)) ∨
      ∃ r table, (∀ s, w.game.section? w.state.sectionId = some s → s.content.kind ≠ s.kind) ∧
        r ≠ .error .endless ∧ table.registry = w.table.registry.nextSection ∧
        (activateWithin (n + 1)).runIn w = (r, { w with table, current := none }) := by
  rw [activateWithin, runIn_modify_bind, runIn_get_bind]
  cases hs : (leaveSection w).game.section? (leaveSection w).state.sectionId with
  | none =>
    have hnone : w.game.section? w.state.sectionId = none := hs
    refine .inr ⟨_, _, fun s h => by simp [hnone] at h, ?_, ?_, rfl⟩
    · nofun
    · rfl
  | some s =>
    have hsome : w.game.section? w.state.sectionId = some s := hs
    dsimp only
    rw [runIn_bind]
    rcases takeSeat_spec s (leaveSection w) with
      ⟨player, dice, table, hsits, htable, hrun⟩ | ⟨hkind, hrun⟩
    · rw [hrun]
      exact .inl ⟨s, player, dice, table, hsome, hsits, htable, rfl⟩
    · rw [hrun]
      refine .inr ⟨_, _, fun t ht => ?_, ?_, ?_, rfl⟩
      · rw [hsome] at ht
        cases ht
        exact hkind
      · nofun
      · rfl

/-! ### Starts and restarts -/

/-- A session that begins to be played. -/
def begun (w : Session) (table : Table SessionAlarm) : Session :=
  { w with table, phase := .playing }

/-- A session that goes back to the introduction. -/
def restarted (w : Session) (table : Table SessionAlarm) : Session :=
  { w with
    table
    phase := .intro
    state := GameState.initial w.game
    current := none
    reported := false }

/-- A restart is always possible. -/
lemma restart_spec (w : Session) :
    ∃ table, table.registry = w.table.registry.nextPhase ∧
      restart.runIn w = (.ok (), w.restarted table) := by
  have hafter : (Table.mapRegistry Registry.nextPhase w).phase.after? .restart = some .intro := by
    show w.phase.after? .restart = some .intro
    cases w.phase <;> rfl
  obtain ⟨table, htable, hrun⟩ := runIn_transition hafter
  refine ⟨noted table .info "Session restarted", htable, ?_⟩
  rw [restart, runIn_modify_bind, runIn_bind, hrun]
  rfl

/-- The countdowns with which a play begins, if so much time is left. -/
def readied (r : Registry SessionAlarm) : Option Int → Registry SessionAlarm
  | none => r
  | some seconds =>
    if seconds = 0 then r else r.arm gameName seconds .ofPlay SessionAlarm.game

@[simp] lemma epochs_readied (r : Registry SessionAlarm) (left : Option Int) :
    (readied r left).epochs = r.epochs := by
  cases left with
  | none => rfl
  | some seconds => by_cases hseconds : seconds = 0 <;> simp [readied, hseconds, Registry.arm]

/-- Arming the countdown of the game leaves everything else as it is. -/
lemma runIn_armGame (w : Session) :
    ∃ table, table.registry = readied w.table.registry w.state.timeRemaining ∧
      armGame.runIn w = (.ok (), { w with table }) := by
  rw [armGame, runIn_get_bind]
  cases w.state.timeRemaining with
  | none => exact ⟨w.table, rfl, rfl⟩
  | some seconds =>
    by_cases hseconds : seconds = 0
    · exact ⟨w.table, by simp [readied, hseconds], by simp only [hseconds]; rfl⟩
    · let registry := w.table.registry.arm gameName seconds .ofPlay SessionAlarm.game
      let note : Log.Record :=
        ⟨.debug, countdownSource, armedNote gameName (.int seconds) .ofPlay⟩
      exact ⟨⟨registry, note :: w.table.notes⟩, by simp [readied, hseconds, registry],
        by simp only [if_neg hseconds]; rfl⟩

/-- A game can be started from the introduction only, and then its first section is begun. -/
lemma start_spec (w : Session) :
    (w.phase ≠ .intro ∧ ∃ table, table.registry = w.table.registry ∧
        start.runIn w = (.ok false, { w with table })) ∨
      (w.phase = .intro ∧ ∃ table,
        table.registry = readied w.table.registry w.state.timeRemaining ∧
        start.runIn w = (activate >>= fun _ => pure true).runIn (w.begun table)) := by
  by_cases hw : w.phase = .intro
  · have hafter : w.phase.after? .start = some .playing := by rw [hw]; rfl
    obtain ⟨table, htable, hrun⟩ := runIn_transition hafter
    let first : Table SessionAlarm :=
      noted table .info ("Session started: '" ++ w.game.metadata.title ++ "'")
    obtain ⟨armed, harmed, harm⟩ := runIn_armGame (w.begun first)
    refine .inr ⟨hw, armed, harmed.trans (congrArg (readied · _) htable), ?_⟩
    rw [start, runIn_bind, hrun]
    show (armGame >>= fun _ => activate >>= fun _ => pure true).runIn (w.begun first) = _
    rw [runIn_bind, harm]
    rfl
  · have hafter : w.phase.after? .start = none := by
      revert hw
      cases w.phase <;> simp [Phase.after?]
    obtain ⟨table, htable, hrun⟩ := runIn_transition_refused hafter
    refine .inl ⟨hw, table, htable, ?_⟩
    rw [start, runIn_bind, hrun]
    rfl

end Session

end LearningGame.Play
