import Rdc.Standalone
import Rdc.Lib.CString
import Mathlib.Data.List.DropRight

/-!
# Requests that read

`GetLatestFieldValue`, `GetFieldSince` and `GetJobStats`: the embedded handler and the server in
front of the cache. Each server function declares a buffer on its stack, has it filled, and copies
the members of the buffer into the reply. What the buffer holds before it is filled is an argument
here (`HandlerLocals`). For the first two calls there is also the client, which copies the reply
into the value of its caller.

No field has the type `BLOB`. A `str` that is read after `rdc_field_get_value_since` wrote `l_int`
is empty here.
-/

namespace Rdc

/-! ## The embedded handler -/

namespace EmbeddedHandler

/-- `rdc_field_get_latest_value`. -/
def rdcFieldGetLatestValue (c : CacheManager) (gpuIndex field : Nat) (value : RdcFieldValue) :
    Status × RdcFieldValue :=
  if isFieldValid field then c.rdcFieldGetLatestValue gpuIndex field value
  else (.notSupported, value)

/-- `rdc_field_get_value_since`. -/
def rdcFieldGetValueSince (c : CacheManager) (gpuIndex field since nextSince : Nat)
    (value : RdcFieldValue) : Status × Nat × RdcFieldValue :=
  if isFieldValid field then c.rdcFieldGetValueSince gpuIndex field since nextSince value
  else (.notSupported, nextSince, value)

end EmbeddedHandler

/-! ## Replies -/

/-- The `oneof value` of the two messages. Their `l_int` is unsigned. -/
inductive ReplyValue where
  | lInt (value : Nat)
  | dbl (bits : Nat)
  | str (bytes : List UInt8)
  deriving DecidableEq

/-- What `GetLatestFieldValueResponse` carries besides the status. -/
structure FieldValueReply where
  fieldId : Nat
  rdcStatus : Nat
  ts : Nat
  type : RdcFieldType
  value : ReplyValue
  deriving DecidableEq

/-- What `GetFieldSinceResponse` carries besides the status. -/
structure FieldSinceReply extends FieldValueReply where
  nextSinceTimeStamp : Nat
  deriving DecidableEq

/-- The member of the union that goes into the message; `setStr` is what is done to a string. -/
def ReplyValue.ofValue (setStr : List UInt8 → List UInt8) (value : RdcFieldValue) : ReplyValue :=
  match value.type with
  -- the `int64_t` of the union goes into a `uint64`
  | .integer => .lInt (u64OfInt value.value.lIntOf)
  | .double => .dbl value.value.dblOf
  | .string | .blob => .str (setStr value.value.strOf)

/-- The copy from the local value into the reply; `rdc_status` is a `uint32`. -/
def FieldValueReply.ofValue (setStr : List UInt8 → List UInt8) (value : RdcFieldValue) :
    FieldValueReply where
  fieldId := value.fieldId
  rdcStatus := (value.status % 2 ^ 32).toNat
  ts := value.ts
  type := value.type
  value := .ofValue setStr value

/-- `val_str[endpos + 1] = '\0'`, where `endpos` is the last byte that is not a blank. The string
keeps its length. -/
def cutTrailingBlanks (str : List UInt8) : List UInt8 :=
  str.set (str.rdropWhile (· == 32)).length 0

/-! ## The server -/

namespace ApiService

/-- `GetLatestFieldValue`. -/
def getLatestFieldValue (c : CacheManager) (gpuIndex field : Nat) (value : RdcFieldValue) :
    Except Status FieldValueReply :=
  let (status, value') := EmbeddedHandler.rdcFieldGetLatestValue c gpuIndex field value
  if status ≠ .ok then .error status else .ok (.ofValue id value')

/-- `GetFieldSince`. -/
def getFieldSince (c : CacheManager) (gpuIndex field since nextTimestamp : Nat)
    (value : RdcFieldValue) : Except Status FieldSinceReply :=
  let (status, next, value') :=
    EmbeddedHandler.rdcFieldGetValueSince c gpuIndex field since nextTimestamp value
  if status ≠ .ok then .error status
  else .ok ⟨.ofValue cutTrailingBlanks value', next⟩

end ApiService

/-- A request. -/
inductive ReadRequest where
  | getLatestFieldValue (gpuIndex field : Nat)
  | getFieldSince (gpuIndex field since : Nat)
  | getJobStats (jobId : JobId)

/-- What a reply to it carries besides the status. -/
inductive ReadReply where
  | latestFieldValue (reply : FieldValueReply)
  | fieldSince (reply : FieldSinceReply)
  | jobStats (reply : JobStatsReply)
  deriving DecidableEq

/-- What the local `value` or `job_info` of the server function holds before it is filled. -/
structure HandlerLocals where
  value : RdcFieldValue
  jobInfo : RdcJobInfo

/-- What the hardware and the clock answer during a request. -/
structure ReadAnswers where
  deviceCount : Nat
  query : Option Failure
  fetch : Nat → Nat → Except Failure Nat
  now : Nat

/-- The server. A request it refuses gets a status only. `nextTimestamp` is what the local
`next_timestamp` holds. -/
def ApiService.serve (sqrt : ℚ → ℚ) (answers : ReadAnswers) (c : CacheManager) (nextTimestamp : Nat)
    (request : ReadRequest) (locals : HandlerLocals) :
    Except Fault (Except Status ReadReply) :=
  match request with
  | .getLatestFieldValue gpuIndex field =>
    .ok ((getLatestFieldValue c gpuIndex field locals.value).map .latestFieldValue)
  | .getFieldSince gpuIndex field since =>
    .ok ((getFieldSince c gpuIndex field since nextTimestamp locals.value).map .fieldSince)
  | .getJobStats jobId =>
    (getJobStats sqrt answers.deviceCount answers.query answers.fetch c jobId answers.now
      locals.jobInfo).map fun reply => reply.map .jobStats

/-! ## The client

The transport delivers every message, and the receiver's library parses it. -/

/-- A `string` has to be UTF-8; otherwise the message is refused, and the call has failed. -/
def ReplyValue.parses : ReplyValue → Bool
  | .str bytes => CString.utf8 bytes
  | .lInt _ | .dbl _ => true

/-- `l_int()`. A member of the `oneof` that is not set has its default. -/
def ReplyValue.lIntOf : ReplyValue → Nat
  | .lInt value => value
  | .dbl _ | .str _ => 0

/-- `dbl()`. -/
def ReplyValue.dblOf : ReplyValue → Nat
  | .dbl bits => bits
  | .lInt _ | .str _ => 0

/-- `str()`. -/
def ReplyValue.strOf : ReplyValue → List UInt8
  | .str bytes => bytes
  | .lInt _ | .dbl _ => []

/-- The copy from the reply into the caller's value. -/
def FieldValueReply.received (reply : FieldValueReply) : RdcFieldValue where
  fieldId := reply.fieldId
  -- a `uint32` goes into an `int`, and below a `uint64` into an `int64_t`
  status := Int.bmod reply.rdcStatus (2 ^ 32)
  ts := reply.ts
  type := reply.type
  value :=
    match reply.type with
    | .integer => .lInt (asInt64 reply.value.lIntOf)
    | .double => .dbl reply.value.dblOf
    | .string | .blob => .str (strncpyWithNull (CString.cStr reply.value.strOf) rdcMaxStrLength)

namespace StandaloneHandler

/-- `rdc_field_get_latest_value`. `serverValue` is what the server's buffer holds before the call,
`value` what the caller's does. -/
def rdcFieldGetLatestValue (c : CacheManager) (gpuIndex field : Nat)
    (serverValue value : RdcFieldValue) : Status × RdcFieldValue :=
  match ApiService.getLatestFieldValue c gpuIndex field serverValue with
  | .error status => (status, value)
  | .ok reply =>
    if reply.value.parses then (.ok, reply.received) else (.clientError, value)

/-- `rdc_field_get_value_since`. `nextTimestamp` and `serverValue` are what the server's buffers
hold before the call, `nextSince` and `value` what the caller's do. -/
def rdcFieldGetValueSince (c : CacheManager) (gpuIndex field since nextTimestamp : Nat)
    (serverValue : RdcFieldValue) (nextSince : Nat) (value : RdcFieldValue) :
    Status × Nat × RdcFieldValue :=
  match ApiService.getFieldSince c gpuIndex field since nextTimestamp serverValue with
  | .error status => (status, nextSince, value)
  | .ok reply =>
    if reply.value.parses then (.ok, reply.nextSinceTimeStamp, reply.received)
    else (.clientError, nextSince, value)

end StandaloneHandler

end Rdc
