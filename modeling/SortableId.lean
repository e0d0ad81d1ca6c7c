import SortableId.Base32
import SortableId.Bytes
import SortableId.Calendar.Date
import SortableId.Calendar.DateTime
import SortableId.Calendar.Zone
import SortableId.Command.Arguments
import SortableId.Command.Clock
import SortableId.Command.Environment
import SortableId.Command.EnvironmentFile
import SortableId.Command.Failure
import SortableId.Command.Inspection
import SortableId.Command.Job
import SortableId.Command.Program
import SortableId.Command.Run
import SortableId.Command.World
import SortableId.Decimal.Integer
import SortableId.Decimal.Shortest
import SortableId.Decimal.Style
import SortableId.Error
import SortableId.Generator.Basic
import SortableId.Generator.Counter
import SortableId.Generator.Forwarded
import SortableId.Generator.Increment
import SortableId.Guarded
import SortableId.Instant
import SortableId.Json.Number
import SortableId.Json.Quoted
import SortableId.Json.Reader
import SortableId.Json.Skip
import SortableId.Layout
import SortableId.Main
import SortableId.Outcome
import SortableId.Pool.Basic
import SortableId.Pool.Call
import SortableId.Pool.Schedule
import SortableId.Pool.Source
import SortableId.Proofs.AllOrNothing
import SortableId.Proofs.Alphabet
import SortableId.Proofs.Calls
import SortableId.Proofs.Codec
import SortableId.Proofs.Command.Counting
import SortableId.Proofs.Command.Inspecting
import SortableId.Proofs.Command.Malformed
import SortableId.Proofs.Command.Attempts
import SortableId.Proofs.Command.Monotonic
import SortableId.Proofs.Command.Stamps
import SortableId.Proofs.Command.World
import SortableId.Proofs.Division
import SortableId.Proofs.Drawing
import SortableId.Proofs.EntropyValue
import SortableId.Proofs.Fields
import SortableId.Proofs.FileStem
import SortableId.Proofs.Fill
import SortableId.Proofs.Increasing
import SortableId.Proofs.Json.Reader
import SortableId.Proofs.Lenient
import SortableId.Proofs.LockOrder
import SortableId.Proofs.Order
import SortableId.Proofs.OverZeros
import SortableId.Proofs.Poisoning
import SortableId.Proofs.Pool.Crashes
import SortableId.Proofs.Pool.Errors
import SortableId.Proofs.Pool.Foreseen
import SortableId.Proofs.Pool.History
import SortableId.Proofs.Pool.Moves
import SortableId.Proofs.Pool.OneCaller
import SortableId.Proofs.Pool.Peak
import SortableId.Proofs.Pool.Places
import SortableId.Proofs.Pool.Replay
import SortableId.Proofs.Pool.Solo
import SortableId.Proofs.Positional
import SortableId.Proofs.Record.Binary
import SortableId.Proofs.Record.Json
import SortableId.Proofs.Record.OrderedMap
import SortableId.Proofs.SameMillisecond
import SortableId.Proofs.Slices
import SortableId.Proofs.TextBytes
import SortableId.Proofs.Unbiased
import SortableId.Record.Basic
import SortableId.Record.Binary
import SortableId.Record.Json
import SortableId.Record.Visit
import SortableId.Shared
import SortableId.Source.Basic
import SortableId.Source.Device
import SortableId.Source.Plain
import SortableId.Source.Reservoir
import SortableId.Source.SplitMix
import SortableId.Source.Survey
import SortableId.Source.Wrapped
import SortableId.Text.Alphanumeric
import SortableId.Text.Blank
import SortableId.Text.Extender
import SortableId.Text.FileStem
import SortableId.Text.Printable
import SortableId.Text.Quoted
import SortableId.UInt80
import SortableId.Ulid.Basic
import SortableId.Ulid.Construction
import SortableId.Ulid.Text
import SortableId.Proofs.Command.Paths
import SortableId.Proofs.Calendar.Forms
import SortableId.Proofs.Command.Formats
import SortableId.Proofs.Constructors
import SortableId.Proofs.Forwarding
import SortableId.Proofs.Additions
import SortableId.Proofs.FieldLaws
import SortableId.Proofs.Milliseconds
import SortableId.Proofs.Record.Visit
import SortableId.Proofs.FirstAccepted
