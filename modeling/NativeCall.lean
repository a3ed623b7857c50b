import NativeCall.Accessor
import NativeCall.CString
import NativeCall.CallError
import NativeCall.CallPath
import NativeCall.Config
import NativeCall.Config.Document
import NativeCall.Config.File
import NativeCall.Config.Format
import NativeCall.Decimal.Double
import NativeCall.Decimal.Nearest
import NativeCall.Decimal.Shortest
import NativeCall.Device
import NativeCall.Dispatch
import NativeCall.Errno
import NativeCall.Host
import NativeCall.Host.Embedding
import NativeCall.Host.Recording
import NativeCall.Host.Reentrant
import NativeCall.Host.Tracking
import NativeCall.Invocation
import NativeCall.Log
import NativeCall.Log.Filter
import NativeCall.Log.Pattern
import NativeCall.Machine
import NativeCall.Main
import NativeCall.Memory.Buffer
import NativeCall.Memory.Pointer
import NativeCall.Memory.Store
import NativeCall.Memory.View
import NativeCall.Net.Address
import NativeCall.Net.AddressInfo
import NativeCall.Net.Endpoint
import NativeCall.Net.Resolver
import NativeCall.Outcome
import NativeCall.Overflow
import NativeCall.Path
import NativeCall.Posix.Descriptors
import NativeCall.Posix.Environment
import NativeCall.Posix.FileTree
import NativeCall.Posix.Files
import NativeCall.Posix.Kernel
import NativeCall.Posix.Process
import NativeCall.Posix.Sockets
import NativeCall.Posix.State
import NativeCall.Posix.Walk
import NativeCall.Primitive
import NativeCall.Probe.Argument
import NativeCall.Probe.Call
import NativeCall.Probe.CommandLine
import NativeCall.Probe.Run
import NativeCall.Proofs.Arguments
import NativeCall.Proofs.Buffers
import NativeCall.Proofs.CallBlame
import NativeCall.Proofs.Calling
import NativeCall.Proofs.Calls
import NativeCall.Proofs.Choice
import NativeCall.Proofs.Conduct
import NativeCall.Proofs.Contents
import NativeCall.Proofs.Crossing
import NativeCall.Proofs.Decoding
import NativeCall.Proofs.DeviceNumbers
import NativeCall.Proofs.Dispatching
import NativeCall.Proofs.Documents
import NativeCall.Proofs.Erasure
import NativeCall.Proofs.Events
import NativeCall.Proofs.Exclusion
import NativeCall.Proofs.Figures
import NativeCall.Proofs.FileTrees
import NativeCall.Proofs.Filling
import NativeCall.Proofs.Formats
import NativeCall.Proofs.Groups
import NativeCall.Proofs.Handover
import NativeCall.Proofs.Ids
import NativeCall.Proofs.Integers
import NativeCall.Proofs.Keys
import NativeCall.Proofs.Lines
import NativeCall.Proofs.Listing
import NativeCall.Proofs.Lockstep
import NativeCall.Proofs.Narrowing
import NativeCall.Proofs.NilHost
import NativeCall.Proofs.Notices
import NativeCall.Proofs.Numerals
import NativeCall.Proofs.PathComplaints
import NativeCall.Proofs.Paths
import NativeCall.Proofs.Plans
import NativeCall.Proofs.Probing
import NativeCall.Proofs.Readers
import NativeCall.Proofs.Reading
import NativeCall.Proofs.Refusal
import NativeCall.Proofs.Regions
import NativeCall.Proofs.Register
import NativeCall.Proofs.Residence
import NativeCall.Proofs.Resolution
import NativeCall.Proofs.Reversal
import NativeCall.Proofs.Rows
import NativeCall.Proofs.Running
import NativeCall.Proofs.Series
import NativeCall.Proofs.Settings
import NativeCall.Proofs.Settling
import NativeCall.Proofs.Silence
import NativeCall.Proofs.SocketOptions
import NativeCall.Proofs.Spans
import NativeCall.Proofs.Storing
import NativeCall.Proofs.Substitution
import NativeCall.Proofs.Table
import NativeCall.Proofs.Threads
import NativeCall.Proofs.Trace
import NativeCall.Proofs.Undisturbed
import NativeCall.Proofs.VariableCalls
import NativeCall.Proofs.Variables
import NativeCall.Proofs.Verdict
import NativeCall.Proofs.Whereabouts
import NativeCall.Registry
import NativeCall.Request.Files
import NativeCall.Request.Memory
import NativeCall.Request.Process
import NativeCall.Request.Sockets
import NativeCall.Shape
import NativeCall.SocketConstant
import NativeCall.Span
import NativeCall.Table.BuiltIn
import NativeCall.Table.Script
import NativeCall.Text.Hex
import NativeCall.Text.Number
import NativeCall.Text.Printable
import NativeCall.Text.Quoted
import NativeCall.Text.Reader
import NativeCall.Text.Utf8
import NativeCall.Text.WhiteSpace
import NativeCall.Toml.Blank
import NativeCall.Toml.Date
import NativeCall.Toml.Document
import NativeCall.Toml.Edit
import NativeCall.Toml.Excerpt
import NativeCall.Toml.Node
import NativeCall.Toml.Number
import NativeCall.Toml.Quoted
import NativeCall.Toml.Value
import NativeCall.Variant
import NativeCall.World
