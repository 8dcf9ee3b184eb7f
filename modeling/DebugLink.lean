import DebugLink.Log
import DebugLink.Main
import DebugLink.Mi.Debugger
import DebugLink.Proofs.Lockstep.Basic
import DebugLink.Proofs.Lockstep.Footing
import DebugLink.Proofs.Lockstep.Handler
import DebugLink.Proofs.Lockstep.Edit
import DebugLink.Proofs.Lockstep.Invariant
import DebugLink.Proofs.Settling
import DebugLink.Proofs.Lifetime
import DebugLink.Proofs.Barred
import DebugLink.Proofs.Race
import DebugLink.Proofs.Answer
import DebugLink.Proofs.Gentle
import DebugLink.Proofs.Pause
import DebugLink.Proofs.EditOverStop
import DebugLink.Proofs.Contract
import DebugLink.Proofs.Flag
import DebugLink.Proofs.EditContract
import DebugLink.Proofs.PolicyContract
import DebugLink.Proofs.EditFailure
import DebugLink.Proofs.Notice
import DebugLink.Proofs.IgnoreCount
import DebugLink.Proofs.Spare
import DebugLink.Proofs.UnaskedResume
import DebugLink.Proofs.HitStep
import DebugLink.Proofs.ExecutionStep
import DebugLink.Proofs.BreakAll
import DebugLink.Proofs.Tidy
import DebugLink.Proofs.ComparedHits
import DebugLink.Proofs.CountedHits
import DebugLink.Proofs.TidyOperation
import DebugLink.Proofs.StopDecision
import DebugLink.Proofs.Judgement
import DebugLink.Proofs.HitFate
import DebugLink.Proofs.StopNews
import DebugLink.Proofs.Bundling
import DebugLink.Proofs.Malformed
import DebugLink.Proofs.QuitTally
import DebugLink.Proofs.QuitCount
import DebugLink.Proofs.ExpectedPhases
import DebugLink.Proofs.StopInTime
import DebugLink.Proofs.Setup
import DebugLink.Proofs.ReportedHits
import DebugLink.Proofs.Written
import DebugLink.Proofs.TableLog
import DebugLink.Proofs.Echo
import DebugLink.Proofs.Details
import DebugLink.Proofs.AllottedNumbers
import DebugLink.Proofs.CreatedAnew
import DebugLink.Proofs.Obedience
import DebugLink.Proofs.ServedAnew
import DebugLink.Proofs.NumberingPeer
import DebugLink.Proofs.LiveNumbers
import DebugLink.Proofs.StreamText
import DebugLink.Proofs.Requests
import DebugLink.Proofs.ConsoleText
import DebugLink.Proofs.FieldSearch
import DebugLink.Proofs.Brackets
import DebugLink.Proofs.FieldText
import DebugLink.Proofs.NewsRecords
import DebugLink.Proofs.Announcements
import DebugLink.Proofs.AnnouncedNews
import DebugLink.Proofs.QuotedText
import DebugLink.Proofs.Tree
import DebugLink.Proofs.Lookalike
import DebugLink.Proofs.Separated
import DebugLink.Proofs.Dialogue
import DebugLink.Proofs.ListedFields
import DebugLink.Proofs.ListedVariables
import DebugLink.Proofs.ListedEntries
import DebugLink.Proofs.ListedChildren
import DebugLink.Proofs.FieldReading
import DebugLink.Proofs.RecordForms
import DebugLink.Proofs.Traced
import DebugLink.Proofs.FollowedPaths
import DebugLink.Proofs.ObjectExchanges
import DebugLink.Proofs.TendedObjects
import DebugLink.Proofs.ShownNames
import DebugLink.Proofs.LevelParts
import DebugLink.Proofs.AccessLevels
import DebugLink.Proofs.EvaluatedText
import DebugLink.Proofs.CutStrings
import DebugLink.Proofs.StringGarbage
import DebugLink.Proofs.ShownValues
import DebugLink.Proofs.HeldGates
import DebugLink.Proofs.BreakRequest
import DebugLink.Proofs.Orphans
import DebugLink.Proofs.Restored
import DebugLink.Proofs.UnsentResume
import DebugLink.Proofs.StrippedTwice
import DebugLink.Proofs.Ending
import DebugLink.Proofs.FiniteNesting
import DebugLink.Proofs.FramePlaces
import DebugLink.Proofs.ResolvedPaths
import DebugLink.Proofs.CombinedNames
import DebugLink.Proofs.AddedNodes
import DebugLink.Proofs.RefreshedNodes
import DebugLink.Proofs.MarkedChildren
import DebugLink.Proofs.RepeatedLookups
import DebugLink.Proofs.LeafFields
import DebugLink.Proofs.CursorCalls
import DebugLink.Proofs.CountedBytes
