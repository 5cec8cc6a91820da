import Iouringd.Wire.Records

/-! # What the client library takes

The checks the library makes on everything it reads: completion records, submit and
resource results, trace events.
-/

namespace Iouringd

/-- `task_id_is_invalid`. -/
def taskIdIsInvalid (taskId : TaskId) : Bool :=
  taskId == taskIdInvalid || decide (taskIdReservedMin ≤ taskId)

/-- The kinds whose completions carry what was read. -/
def isReadKind (kind : UInt16) : Bool :=
  kind == RequestKind.sockRead.toWire || kind == RequestKind.sockReadFixed.toWire ||
    kind == RequestKind.fileRead.toWire

/-- `completion_record_is_valid`. -/
def completionRecordIsValid (record : CompletionRecord) : Bool :=
  if record.magic ≠ wireMagic || record.versionMajor ≠ protocolMajor ||
      record.versionMinor ≠ protocolMinor || taskIdIsInvalid record.taskId ||
      decide (record.taskKind < RequestKind.nop.toWire) || decide (15 ≤ record.taskKind) then false
  else if isReadKind record.taskKind then
    if record.res < 0 then record.payloadLength == 0
    else decide (record.res ≤ 65535) && record.payloadLength == record.res.toUInt32.toUInt16
  else if record.taskKind = RequestKind.accept.toWire then
    if record.res < 0 then record.payloadLength == 0 else decide (0 < record.res)
  else record.payloadLength == 0

/-- `submit_result_is_rejection`. -/
def submitResultIsRejection (result : SubmitResult) : Bool :=
  result.taskId == taskIdInvalid && decide (result.res < 0)

/-- `submit_result_is_valid`. -/
def submitResultIsValid (result : SubmitResult) : Bool :=
  submitResultIsRejection result ||
    (result.res == completionResOk && !taskIdIsInvalid result.taskId)

/-- `resource_result_is_rejection`. -/
def resourceResultIsRejection (result : ResourceResult) : Bool :=
  result.resourceId == resourceIdInvalid && decide (result.res < 0) && result.reserved == 0

/-- `resource_result_is_valid`. -/
def resourceResultIsValid (result : ResourceResult) : Bool :=
  resourceResultIsRejection result ||
    (result.reserved == 0 && result.res == completionResOk &&
      !(result.resourceId == resourceIdInvalid))

/-- `trace_event_is_valid`. -/
def traceEventIsValid (event : TraceEvent) : Bool :=
  !(decide (event.eventKind < TraceEventKind.submitAccept.toWire) ||
      decide (TraceEventKind.resourceRelease.toWire < event.eventKind)) &&
    !decide (15 ≤ event.taskKind) && (Priority.ofWire event.priority).isValid &&
    event.reserved1 == 0

end Iouringd
