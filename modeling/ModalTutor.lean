import ModalTutor.Unicode.Visible
import ModalTutor.Unicode.Lowercase
import ModalTutor.Text.Motion
import ModalTutor.Key.Script
import ModalTutor.Keymap.Bindings
import ModalTutor.Editor.Dispatch
import ModalTutor.Lesson.Catalog
import ModalTutor.Replay
import ModalTutor.Lesson.Tutorial
import ModalTutor.Json.Report
import ModalTutor.Text.Quoted
import ModalTutor.Toml.Value
import ModalTutor.Toml.Literal
import ModalTutor.Toml.Document
import ModalTutor.Lesson.Reading
import ModalTutor.Settings
import ModalTutor.Main
import ModalTutor.Proofs.KeyOutcome
import ModalTutor.Proofs.HistoryEffect
import ModalTutor.Proofs.CursorRange
import ModalTutor.Proofs.Soundness
import ModalTutor.Proofs.UndoRedo
import ModalTutor.Proofs.HistoryCoverage
import ModalTutor.Proofs.TypingUnits
import ModalTutor.Proofs.TypedText
import ModalTutor.Proofs.Segmentation
import ModalTutor.Proofs.Permission
import ModalTutor.Proofs.TextChange
import ModalTutor.Proofs.RecordedChanges
import ModalTutor.Proofs.ModeCoherence
import ModalTutor.Proofs.Mistakes
import ModalTutor.Proofs.ReplayExactness
import ModalTutor.Proofs.ReturnToNormal
import ModalTutor.Proofs.KeyNotation
import ModalTutor.Proofs.LineFeeds
import ModalTutor.Proofs.ReachableTargets
import ModalTutor.Proofs.Matches
import ModalTutor.Proofs.SearchLanding
import ModalTutor.Proofs.CleanResponses
import ModalTutor.Proofs.Walks
import ModalTutor.Proofs.Paragraphs
import ModalTutor.Proofs.LongestMatch
import ModalTutor.Proofs.Words
import ModalTutor.Proofs.CharacterCuts
import ModalTutor.Proofs.WholeLines
import ModalTutor.Proofs.EditKeys
import ModalTutor.Proofs.SelectedLines
import ModalTutor.Proofs.SelectedCharacters
import ModalTutor.Proofs.Timeline
import ModalTutor.Proofs.JoinedScripts
import ModalTutor.Proofs.CatalogConstruction
import ModalTutor.Proofs.FinalSigma
import ModalTutor.Proofs.CountedText
import ModalTutor.Proofs.MatchCycle
import ModalTutor.Proofs.BreakRules
import ModalTutor.Proofs.ColumnCuts
