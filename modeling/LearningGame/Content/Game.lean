import LearningGame.Content.Section
import LearningGame.Content.Frame

/-!
# Games

The full description of a game, and the order in which its sections are played.
-/

namespace LearningGame.Content

open Schema

/-- The screens and sections of a game. -/
structure Script where
  intro : Option Intro
  sections : List Section
  outro : Option Outro

/-- How screens and sections are written. -/
def Script.codec : Codec Script :=
  RecordOf.build Script.mk
    |>.apply (.optional "intro" Intro.codec (·.intro))
    |>.apply (.required "sections" Section.codec.list (·.sections))
    |>.apply (.optional "outro" Outro.codec (·.outro))
    |>.codec "GameContent"

end LearningGame.Content

namespace LearningGame

open Schema Content

/-- A game. -/
structure Game where
  version : String
  metadata : Metadata
  theme : Theme
  config : Config
  content : Script
  progression : Progression
  scoring : Scoring

namespace Game

/-- How games are written. -/
def codec : Codec Game :=
  RecordOf.build Game.mk
    |>.apply (.withDefault "version" .text "1.0" (·.version))
    |>.apply (.required "metadata" Metadata.codec (·.metadata))
    |>.apply (.required "theme" Theme.codec (·.theme))
    |>.apply (.required "config" Config.codec (·.config))
    |>.apply (.required "content" Script.codec (·.content))
    |>.apply (.required "progression" Progression.codec (·.progression))
    |>.apply (.required "scoring" Scoring.codec (·.scoring))
    |>.codec "GameSpec"

/-- The sections of a game. -/
def sections (g : Game) : List Section := g.content.sections

/-- The first section with an id. -/
def section? (g : Game) (id : String) : Option Section := g.sections.find? (·.id == id)

/-- The ids of the sections. -/
def sectionIds (g : Game) : List String := g.sections.map (·.id)

/-- The ids of the sections in the order of play: the given order if there is one that is not
empty, else the order of the sections. -/
def order (g : Game) : List String :=
  match g.progression.sectionOrder with
  | some (id :: rest) => id :: rest
  | _ => g.sectionIds

/-- The section in which play starts. -/
def firstSectionId (g : Game) : String :=
  match g.progression.sectionOrder with
  | some (id :: _) => id
  | _ =>
    let start := g.progression.startSection.getD ""
    if start != "" && (g.section? start).isSome then start else g.sectionIds.headD ""

/-- The document of a game; what is absent is left out. -/
def toDocument (g : Game) : Value := codec.write false g

/-- Whether two games are equal. -/
def same (a b : Game) : Bool := codec.same a b

end Game

end LearningGame
