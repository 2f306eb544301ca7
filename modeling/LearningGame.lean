import LearningGame.Catalogue
import LearningGame.CommandLine.Arguments
import LearningGame.CommandLine.Run
import LearningGame.Complaint
import LearningGame.Completion.Cards
import LearningGame.Completion.Challenge
import LearningGame.Completion.Defaults
import LearningGame.Completion.Document
import LearningGame.Completion.Entries
import LearningGame.Completion.Exploration
import LearningGame.Completion.Flat
import LearningGame.Completion.Info
import LearningGame.Completion.Narrative
import LearningGame.Completion.Quiz
import LearningGame.Completion.Section
import LearningGame.Completion.Simulation
import LearningGame.Content.Cards
import LearningGame.Content.Challenge
import LearningGame.Content.Exploration
import LearningGame.Content.Frame
import LearningGame.Content.Game
import LearningGame.Content.Info
import LearningGame.Content.Media
import LearningGame.Content.Narrative
import LearningGame.Content.Quiz
import LearningGame.Content.Section
import LearningGame.Content.Simulation
import LearningGame.Fault
import LearningGame.Json.Reader
import LearningGame.Json.Writer
import LearningGame.Loading
import LearningGame.Log
import LearningGame.Log.Line
import LearningGame.Log.Template
import LearningGame.Main
import LearningGame.Number.Arithmetic
import LearningGame.Number.Basic
import LearningGame.Number.Binary
import LearningGame.Number.Layout
import LearningGame.Number.Numeral
import LearningGame.Number.Places
import LearningGame.Number.Shortest
import LearningGame.Play.Agenda
import LearningGame.Play.Challenge
import LearningGame.Play.Countdown
import LearningGame.Play.Dice
import LearningGame.Play.Exploration
import LearningGame.Play.Flashcards
import LearningGame.Play.Matching
import LearningGame.Play.Narrative
import LearningGame.Play.Outro
import LearningGame.Play.Phase
import LearningGame.Play.Player
import LearningGame.Play.Quiz
import LearningGame.Play.Reading
import LearningGame.Play.Rehearsal
import LearningGame.Play.Script
import LearningGame.Play.Seat
import LearningGame.Play.Session.Basic
import LearningGame.Play.Session.Course
import LearningGame.Play.Session.Ledger
import LearningGame.Play.Session.Sections
import LearningGame.Play.Simulation
import LearningGame.Play.Sitting
import LearningGame.Play.Sorting
import LearningGame.Play.State
import LearningGame.Play.Table
import LearningGame.Rules.Comparison
import LearningGame.Rules.Grading
import LearningGame.Rules.Ranking
import LearningGame.Rules.Ranking.Merging
import LearningGame.Rules.Rating
import LearningGame.Schema.Codec
import LearningGame.Schema.Issue
import LearningGame.Schema.Numeral
import LearningGame.Schema.Record
import LearningGame.Settings
import LearningGame.Summary
import LearningGame.Text.LetterCase
import LearningGame.Text.Printable
import LearningGame.Text.Quoted
import LearningGame.Text.Characters
import LearningGame.Unplayable
import LearningGame.Value.Basic
import LearningGame.Value.Fields
import LearningGame.Value.Sequence
import LearningGame.Value.Text
import LearningGame.Proofs.Number.Float
import LearningGame.Proofs.Number.Rounding
import LearningGame.Proofs.Value.Document
import LearningGame.Proofs.Json.Reader
import LearningGame.Proofs.Traced
import LearningGame.Proofs.Completion.Entries
import LearningGame.Proofs.Schema.Reading
import LearningGame.Proofs.Completion.Section
import LearningGame.Proofs.Completion.Document
import LearningGame.Proofs.Content.Game
import LearningGame.Proofs.Loading.Basic
import LearningGame.Proofs.Loading.Playable
import LearningGame.Proofs.Completion.Faults
import LearningGame.Proofs.Loading.Faults
import LearningGame.Proofs.Play.Act
import LearningGame.Proofs.Play.Ledger
import LearningGame.Proofs.Play.Session
import LearningGame.Proofs.Play.Submission
import LearningGame.Proofs.Play.Deeds
import LearningGame.Proofs.Play.Contract
import LearningGame.Proofs.Play.Announcing.Basic
import LearningGame.Proofs.Play.Announcing.Sections
import LearningGame.Proofs.Play.Step
import LearningGame.Proofs.Play.Covers
import LearningGame.Proofs.Play.Path
import LearningGame.Proofs.Play.Progress
import LearningGame.Proofs.Play.Ending
import LearningGame.Proofs.Play.Seating
import LearningGame.Proofs.Play.Hearing
import LearningGame.Proofs.Play.Current
import LearningGame.Proofs.Play.Finished
import LearningGame.Proofs.Schema.Writing
import LearningGame.Proofs.Content.Exact
import LearningGame.Proofs.Content.Restored
import LearningGame.Proofs.Completion.Again
import LearningGame.Proofs.Text.Folded
import LearningGame.Proofs.Completion.Again.Quiz
import LearningGame.Proofs.Completion.Again.Cards
import LearningGame.Proofs.Completion.Again.Narrative
import LearningGame.Proofs.Completion.Again.Simulation
import LearningGame.Proofs.Completion.Again.Challenge
import LearningGame.Proofs.Completion.Again.Exploration
import LearningGame.Proofs.Completion.Again.Info
import LearningGame.Proofs.Completion.Again.Section
import LearningGame.Proofs.Completion.Again.Document
import LearningGame.Proofs.Loading.Reload
import LearningGame.Proofs.Play.InPlace
import LearningGame.Proofs.Play.Unheard
import LearningGame.Proofs.Play.Meddling
import LearningGame.Proofs.Play.Countdown
import LearningGame.Proofs.Play.TimeLimit
import LearningGame.Proofs.Play.Following
import LearningGame.Proofs.Play.Afresh
import LearningGame.Proofs.Play.Unrated
import LearningGame.Proofs.Play.LastLife
import LearningGame.Proofs.Play.Grace
import LearningGame.Proofs.Play.Diary
import LearningGame.Proofs.Play.Turns
import LearningGame.Proofs.Play.Onward
import LearningGame.Proofs.Play.Bounded
import LearningGame.Proofs.Play.Nesting
import LearningGame.Proofs.Play.Settling
import LearningGame.Proofs.Play.Entering
import LearningGame.Proofs.Play.Endless
import LearningGame.Proofs.Loading.FlatQuiz
import LearningGame.Proofs.Completion.Filled
import LearningGame.Proofs.Loading.Ids
import LearningGame.Proofs.Json.Names
import LearningGame.Proofs.Play.Variables
import LearningGame.Proofs.Completion.Fitting
import LearningGame.Proofs.Completion.Kept
import LearningGame.Proofs.Completion.Reduced
import LearningGame.Proofs.Loading.Reduced
import LearningGame.Proofs.Play.Rehearsing
import LearningGame.Proofs.Rules.Grading
import LearningGame.Proofs.Play.Quizzing
import LearningGame.Proofs.Play.Reviewing
import LearningGame.Proofs.Play.WayOut
import LearningGame.Proofs.Play.Choosing
import LearningGame.Proofs.Play.Overdrawing
import LearningGame.Proofs.Play.Maintaining
import LearningGame.Proofs.Play.Cooling
import LearningGame.Proofs.Play.Exploring
import LearningGame.Proofs.Rules.Points
import LearningGame.Proofs.Play.Challenging
import LearningGame.Proofs.Play.Prompting
import LearningGame.Proofs.Play.Pairing
import LearningGame.Proofs.Play.Placing
import LearningGame.Proofs.Play.Passing
import LearningGame.Proofs.Json.Extent
import LearningGame.Proofs.Loading.Fenced
import LearningGame.Proofs.Loading.References
import LearningGame.Proofs.Completion.Twice
import LearningGame.Proofs.Number.Levels
import LearningGame.Proofs.Rules.Tiers
import LearningGame.Proofs.Play.Outro
import LearningGame.Proofs.Completion.Pairs
import LearningGame.Proofs.Rules.Comparison
