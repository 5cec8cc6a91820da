import Iouringd.Foundation.Bytes
import Iouringd.Foundation.SlotTable
import Iouringd.Foundation.RingBuffer
import Iouringd.Wire.Protocol
import Iouringd.Wire.Records
import Iouringd.Ring.Submit
import Iouringd.Daemon.State
import Iouringd.Daemon.Output
import Iouringd.Daemon.Resources
import Iouringd.Daemon.Replies
import Iouringd.Daemon.Decoder
import Iouringd.Daemon.Dispatch
import Iouringd.Daemon.Completion
import Iouringd.Daemon.Loop
import Iouringd.Daemon.System
import Iouringd.Daemon.Effects
import Iouringd.Daemon.Inversion
import Iouringd.Daemon.CompletionEffects
import Iouringd.Daemon.InputEffects
import Iouringd.Daemon.Shape
import Iouringd.Daemon.Ledger
import Iouringd.Daemon.Grammar
import Iouringd.Daemon.Decoding
import Iouringd.Daemon.Holds
import Iouringd.Daemon.Connection
import Iouringd.Daemon.Invariant
import Iouringd.Daemon.Accounting
import Iouringd.Daemon.Retention
import Iouringd.Ring.Queues
import Iouringd.Daemon.Submissions
import Iouringd.Daemon.World
import Iouringd.Daemon.Messages
import Iouringd.Daemon.Sessions
import Iouringd.Daemon.Discipline
import Iouringd.Daemon.Handshakes
import Iouringd.Lib.Handshake
import Iouringd.Foundation.KeyedQueue
import Iouringd.Lib.Validators
import Iouringd.Lib.Completions
import Iouringd.Lib.Deliveries
import Iouringd.Lib.Exchange
import Iouringd.Lib.Attribution
import Iouringd.Daemon.CompletionCases
import Iouringd.Daemon.FileMoves
import Iouringd.Daemon.Identifiers
import Iouringd.Daemon.FileTable
import Iouringd.Daemon.Isolation
import Iouringd.Daemon.Holdings
import Iouringd.Daemon.Arrivals
import Iouringd.Daemon.Custody
import Iouringd.Daemon.Trace
import Iouringd.Daemon.Admission
import Iouringd.Lib.Emissions
import Iouringd.Daemon.Reads
import Iouringd.Daemon.OutputQueue
import Iouringd.Daemon.Numbering
import Iouringd.Daemon.Allocation
import Iouringd.Daemon.Retrieval
import Iouringd.Daemon.Results
import Iouringd.Daemon.Sweeping
import Iouringd.Daemon.Reclaim
import Iouringd.Daemon.Stream
import Iouringd.Lib.Requests
import Iouringd.Lib.Lengths
import Iouringd.Daemon.Machine
import Iouringd.Daemon.Wakeups
import Iouringd.Daemon.Settlement
import Iouringd.Daemon.Refusals
import Iouringd.Daemon.Priorities
import Iouringd.Daemon.Overflow
import Iouringd.Daemon.InputBounds
import Iouringd.Lib.Payloads
import Iouringd.Lib.Sends
import Iouringd.Ring.Fifo
import Iouringd.Daemon.Hearing
import Iouringd.Daemon.Storage
import Iouringd.Daemon.Disclosure
import Iouringd.Daemon.Options
import Iouringd.Daemon.RingSetup
import Iouringd.Daemon.Workload
import Iouringd.Daemon.Network
import Iouringd.Lib.Dialogue
import Iouringd.Daemon.Startup
import Iouringd.Daemon.Shutdown
import Iouringd.Daemon.Supported
import Iouringd.Daemon.Bookkeeping
