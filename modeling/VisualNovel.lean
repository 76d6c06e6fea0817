import VisualNovel.AssetPath
import VisualNovel.Backlog
import VisualNovel.Comparison
import VisualNovel.Condition
import VisualNovel.Document.Basic
import VisualNovel.Document.KeyOrder
import VisualNovel.Document.Literal
import VisualNovel.Document.Reader
import VisualNovel.Document.Writer
import VisualNovel.LineId
import VisualNovel.Memory
import VisualNovel.Number.Binary64
import VisualNovel.Number.Decimal
import VisualNovel.Operation
import VisualNovel.OrderedMap
import VisualNovel.Playback.Basic
import VisualNovel.Playback.Branch
import VisualNovel.Playback.Event
import VisualNovel.Playback.Execution
import VisualNovel.Playback.Navigation
import VisualNovel.Playback.Outcome
import VisualNovel.Playback.Request
import VisualNovel.Playback.Saving
import VisualNovel.Playback.Stage
import VisualNovel.Proofs.Arithmetic
import VisualNovel.Proofs.AssetPath
import VisualNovel.Proofs.Backlog
import VisualNovel.Proofs.Condition
import VisualNovel.Proofs.Document
import VisualNovel.Proofs.Document.Canonical
import VisualNovel.Proofs.Document.Integer
import VisualNovel.Proofs.Document.Literal
import VisualNovel.Proofs.Document.Plain
import VisualNovel.Proofs.Document.RoundTrip
import VisualNovel.Proofs.Document.Text
import VisualNovel.Proofs.Except
import VisualNovel.Proofs.Number.Overflow
import VisualNovel.Proofs.Operation
import VisualNovel.Proofs.OrderedMap
import VisualNovel.Proofs.Playback.Branch
import VisualNovel.Proofs.Playback.Calls
import VisualNovel.Proofs.Playback.Choosing
import VisualNovel.Proofs.Playback.Course
import VisualNovel.Proofs.Playback.Display
import VisualNovel.Proofs.Playback.Footprint
import VisualNovel.Proofs.Playback.Head
import VisualNovel.Proofs.Playback.LastWriter
import VisualNovel.Proofs.Playback.Modification
import VisualNovel.Proofs.Playback.Notices
import VisualNovel.Proofs.Playback.Outcome
import VisualNovel.Proofs.Playback.Placement
import VisualNovel.Proofs.Playback.Range
import VisualNovel.Proofs.Playback.Refusal
import VisualNovel.Proofs.Playback.Resume
import VisualNovel.Proofs.Playback.SceneChange
import VisualNovel.Proofs.Playback.Session
import VisualNovel.Proofs.Playback.Writing
import VisualNovel.Proofs.Review.Address
import VisualNovel.Proofs.Review.Conflicts
import VisualNovel.Proofs.Review.KindTable
import VisualNovel.Proofs.Review.Kinds
import VisualNovel.Proofs.Review.Preorder
import VisualNovel.Proofs.Review.Reachability
import VisualNovel.Proofs.Review.Reports
import VisualNovel.Proofs.Review.Soundness
import VisualNovel.Proofs.Review.Structure
import VisualNovel.Proofs.Review.Unreachable
import VisualNovel.Proofs.Review.Walk
import VisualNovel.Proofs.Save.Canonical
import VisualNovel.Proofs.Save.Decoding
import VisualNovel.Proofs.Save.Loading
import VisualNovel.Proofs.Save.RoundTrip
import VisualNovel.Proofs.Save.Schema
import VisualNovel.Proofs.Storage.Damage
import VisualNovel.Proofs.Storage.Disk
import VisualNovel.Proofs.Storage.DocumentFile
import VisualNovel.Proofs.Storage.SlotFiles
import VisualNovel.Proofs.Storage.Slots
import VisualNovel.Proofs.Storage.UnlockFile
import VisualNovel.Review.Issue
import VisualNovel.Review.KindTable
import VisualNovel.Review.Reachability
import VisualNovel.Review.Visit
import VisualNovel.Save.Data
import VisualNovel.Save.Decoding
import VisualNovel.Save.Encoding
import VisualNovel.Script.Command
import VisualNovel.Script.Dialogue
import VisualNovel.Script.Scenario
import VisualNovel.Script.Transition
import VisualNovel.Settings
import VisualNovel.SortedSet
import VisualNovel.Sorting
import VisualNovel.Sorting.Merge
import VisualNovel.Sorting.Run
import VisualNovel.Sorting.Search
import VisualNovel.Storage.Disk
import VisualNovel.Storage.DocumentFile
import VisualNovel.Storage.Path
import VisualNovel.Storage.SettingsFile
import VisualNovel.Storage.SlotStore
import VisualNovel.Storage.UnlockFile
import VisualNovel.Storage.UserFolder
import VisualNovel.Text.CodePoint
import VisualNovel.Text.Pieces
import VisualNovel.Text.Printable
import VisualNovel.Text.Quoted
import VisualNovel.Text.Utf8
import VisualNovel.Unlocks
import VisualNovel.Value
