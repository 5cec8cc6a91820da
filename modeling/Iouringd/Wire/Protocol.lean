import Iouringd.Foundation.Bytes

/-! # Protocol constants and enumerations

The vocabulary of `include/iouringd/protocol.h` and `include/iouringd/api.h`:
identifiers, error numbers, request kinds, priorities and capability bits. A
wire value outside an enumeration is kept as `unknown`, so decoding loses
nothing and every comparison the daemon makes can be made on the enumeration.
-/

namespace Iouringd

/-- The id of a task; a client learns it from the submit result. -/
abbrev TaskId := UInt64
/-- The id of a registered descriptor or buffer. -/
abbrev ResourceId := UInt32

/-- A descriptor; negative values mean that there is none. -/
abbrev Fd := Int32

/-- An error number, as `errno` holds it; results carry its negation. -/
abbrev Errno := Int32

def ENOENT : Errno := 2
def EIO : Errno := 5
def EBADF : Errno := 9
def EAGAIN : Errno := 11
def ENOMEM : Errno := 12
def EBUSY : Errno := 16
def EINVAL : Errno := 22
def EPIPE : Errno := 32
def EPROTO : Errno := 71
def EOVERFLOW : Errno := 75
def EMSGSIZE : Errno := 90
def ENOTSUP : Errno := 95
def ECANCELED : Errno := 125

/-- `IOURINGD_TASK_ID_INVALID`. -/
def taskIdInvalid : TaskId := 0
/-- `IOURINGD_RESOURCE_ID_INVALID`. -/
def resourceIdInvalid : ResourceId := 0

/-- `IOURINGD_TASK_ID_RESERVED_MIN`, that is `UINT64_MAX - 15`. -/
def taskIdReservedMin : TaskId := 18446744073709551600

/-- `IOURINGD_PROTOCOL_WIRE_MAGIC`. -/
def wireMagic : UInt32 := 0x31444f49
/-- The versions of `api.h`. -/
def protocolMajor : UInt16 := 1
@[inherit_doc protocolMajor]
def protocolMinor : UInt16 := 12
@[inherit_doc protocolMajor]
def abiMajor : UInt16 := 1
@[inherit_doc protocolMajor]
def abiMinor : UInt16 := 12

/-- The status of a handshake result. -/
def handshakeAccept : UInt16 := 0
@[inherit_doc handshakeAccept]
def handshakeReject : UInt16 := 1

/-- `IOURINGD_COMPLETION_RES_OK`. -/
def completionResOk : Int32 := 0

/-- Task kinds and control request kinds share one 16-bit field. -/
inductive RequestKind where
  | nop | timeout | cancel | sockRead | sockWrite | sockReadFixed | sockWriteFixed
  | fileRead | fileWrite | poll | connect | accept | openat | close
  | registerFd | releaseResource | registerBuffer | getStats | getTrace
  | unknown (raw : UInt16)
  deriving DecidableEq, Repr

namespace RequestKind

/-- The kind a raw field stands for. -/
def ofWire (raw : UInt16) : RequestKind :=
  match raw.toNat with
  | 1 => nop
  | 2 => timeout
  | 3 => cancel
  | 4 => sockRead
  | 5 => sockWrite
  | 6 => sockReadFixed
  | 7 => sockWriteFixed
  | 8 => fileRead
  | 9 => fileWrite
  | 10 => poll
  | 11 => connect
  | 12 => accept
  | 13 => openat
  | 14 => close
  | 256 => registerFd
  | 257 => releaseResource
  | 258 => registerBuffer
  | 259 => getStats
  | 260 => getTrace
  | _ => unknown raw

/-- The raw field of a kind. -/
def toWire : RequestKind → UInt16
  | nop => 1
  | timeout => 2
  | cancel => 3
  | sockRead => 4
  | sockWrite => 5
  | sockReadFixed => 6
  | sockWriteFixed => 7
  | fileRead => 8
  | fileWrite => 9
  | poll => 10
  | connect => 11
  | accept => 12
  | openat => 13
  | close => 14
  | registerFd => 256
  | releaseResource => 257
  | registerBuffer => 258
  | getStats => 259
  | getTrace => 260
  | unknown raw => raw

/-- `IOURINGD_TASK_KIND_NOP <= kind && kind < IOURINGD_TASK_KIND_MAX_V1`. -/
def isTask : RequestKind → Bool
  | nop | timeout | cancel | sockRead | sockWrite | sockReadFixed | sockWriteFixed
  | fileRead | fileWrite | poll | connect | accept | openat | close => true
  | _ => false

/-- `iouringd_request_kind_is_control`. -/
def isControl : RequestKind → Bool
  | registerFd | releaseResource | registerBuffer | getStats | getTrace => true
  | _ => false

/-- Decoding a kind keeps the wire value. -/
@[simp] theorem toWire_ofWire (raw : UInt16) : (ofWire raw).toWire = raw := by
  unfold ofWire
  split <;> first
    | rfl
    | (rename_i value; exact UInt16.toNat_inj.mp value.symm)

/-- Every kind of the enumeration survives the wire. -/
theorem ofWire_toWire (kind : RequestKind) (known : kind.isTask ∨ kind.isControl) :
    ofWire kind.toWire = kind := by
  cases kind with
  | unknown raw => simp only [isTask, isControl, Bool.false_eq_true, or_self] at known
  | _ => rfl

end RequestKind

/-- Submission priorities. -/
inductive Priority where
  | normal | low | high
  | unknown (raw : UInt16)
  deriving DecidableEq, Repr

namespace Priority

/-- The priority a raw field stands for. -/
def ofWire (raw : UInt16) : Priority :=
  match raw.toNat with
  | 0 => normal
  | 1 => low
  | 2 => high
  | _ => unknown raw

/-- The raw field of a priority. -/
def toWire : Priority → UInt16
  | normal => 0
  | low => 1
  | high => 2
  | unknown raw => raw

/-- `iouringd_submit_priority_is_valid`. -/
def isValid : Priority → Bool
  | normal | low | high => true
  | unknown _ => false

/-- Decoding a priority loses nothing. -/
@[simp] theorem toWire_ofWire (raw : UInt16) : (ofWire raw).toWire = raw := by
  unfold ofWire
  split <;> first
    | rfl
    | (rename_i value; exact UInt16.toNat_inj.mp value.symm)

end Priority

/-- The events of the trace ring. -/
inductive TraceEventKind where
  | submitAccept | submitReject | completion | resourceRegister | resourceRelease
  deriving DecidableEq, Repr

/-- The raw field of a kind of event. -/
def TraceEventKind.toWire : TraceEventKind → UInt16
  | submitAccept => 1
  | submitReject => 2
  | completion => 3
  | resourceRegister => 4
  | resourceRelease => 5

/-- The bit a task kind needs in the capability mask; kinds without one are
submitted without looking at the mask. -/
def RequestKind.capabilityBit : RequestKind → Option UInt32
  | .cancel => some ((1 : UInt32) <<< 4)
  | .sockRead | .fileRead => some ((1 : UInt32) <<< 2)
  | .sockWrite | .fileWrite => some ((1 : UInt32) <<< 3)
  | .poll => some ((1 : UInt32) <<< 7)
  | .connect => some ((1 : UInt32) <<< 8)
  | .accept => some ((1 : UInt32) <<< 9)
  | .openat => some ((1 : UInt32) <<< 10)
  | .close => some ((1 : UInt32) <<< 11)
  | .sockReadFixed => some ((1 : UInt32) <<< 5)
  | .sockWriteFixed => some ((1 : UInt32) <<< 6)
  | _ => none

/-- `IOURINGD_CAPABILITY_OP_MASK_V1`. -/
def capabilityOpMask : UInt32 := 0xfff

end Iouringd
