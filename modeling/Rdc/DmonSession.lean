import Rdc.Dmon
import Rdc.ReadRequests

/-!
# `rdci dmon` on a shared daemon

The client of `Rdc.Dmon` and the daemon of `Rdc.System` together. A call of the client is answered
by the embedded handler, and before it the daemon may have carried out any operations of others, so
that the client meets every interleaving. What was done, and in which state of the daemon, is
written down on the side.
-/

namespace Rdc

/-- What happens around one call of the client: what others do before it, how the daemon's query for
the devices ends, the daemon's clock, and whether the client has got a signal. -/
structure Turn where
  others : List Op
  query : Option Failure
  now : Nat
  terminating : Bool

/-- A step, with the daemon before it. -/
inductive SessionEvent where
  /-- An operation of somebody else. -/
  | other (before : Daemon) (op : Op)
  /-- The client calls `rdc_field_watch` on the pair. -/
  | watch (before : Daemon) (gkey : RdcFieldGroupKey)
  /-- Any other call of the client. -/
  | call (before : Daemon)

/-- The daemon, what happens around each call of the client, how many calls it has made, and all
steps so far. -/
structure Session where
  daemon : Daemon
  turns : Nat → Turn
  calls : Nat
  history : List SessionEvent

namespace Session

/-- The client connects. -/
def init (daemon : Daemon) (turns : Nat → Turn) : Session := ⟨daemon, turns, 0, []⟩

variable (tel : Telemetry)

/-- An operation of somebody else. -/
def otherStep (s : Session) (op : Op) : Session :=
  { s with
    daemon := (s.daemon.exec tel op).2
    history := s.history ++ [.other s.daemon op] }

/-- Others have their turn. -/
def othersTurn (s : Session) : Session := (s.turns s.calls).others.foldl (otherStep tel) s

/-- A call of the client. -/
def serve {α : Type} (event : Daemon → SessionEvent) (f : Turn → Daemon → α × Daemon)
    (s : Session) : α × Session :=
  let turn := s.turns s.calls
  let s := s.othersTurn tel
  let r := f turn s.daemon
  (r.1, { s with
    daemon := r.2
    calls := s.calls + 1
    history := s.history ++ [event s.daemon] })

/-- What a client gets: the value with `RDC_ST_OK`, and only the status otherwise. -/
def reply {α : Type} (status : Status) (value : α) : Except Failure α :=
  if h : status = .ok then .ok value else .error ⟨status, h⟩

/-- A lookup in the group store. -/
def lookup {α β : Type} (found : Except Status α) (members : α → List β) :
    Except Failure (List β) :=
  match found with
  | .error status => reply status []
  | .ok info => .ok (members info)

/-- "rdci-dmon-group". -/
def dmonGroupName : List UInt8 :=
  [114, 100, 99, 105, 45, 100, 109, 111, 110, 45, 103, 114, 111, 117, 112]

/-- "rdci-dmon-field-group". -/
def dmonFieldGroupName : List UInt8 :=
  [114, 100, 99, 105, 45, 100, 109, 111, 110, 45, 102, 105, 101, 108, 100, 45, 103, 114, 111, 117,
    112]

/-- The fields of a group; the handler has checked that all are in the table. -/
def knownFields (fieldIds : List Nat) : List KnownField :=
  fieldIds.filterMap fun field => if h : field ∈ fieldIdToDescript then some ⟨field, h⟩ else none

/-- The calls of the client. `deviceCount` is the number of GPUs, `uninit` the buffer of
`rdc_field_get_latest_value`. -/
def api (deviceCount : Nat) (uninit : RdcFieldValue) : RdcApi Session where
  rdcGroupGpuCreate := serve tel .call fun turn d =>
    let r := EmbeddedHandler.rdcGroupGpuCreate deviceCount d.groupSettings .empty dmonGroupName
      fun _ => turn.query
    (reply r.1 (r.2.1.getD 0), { d with groupSettings := r.2.2 })
  rdcGroupGpuAdd groupId gpuIndex := serve tel .call fun turn d =>
    d.onGroups
      (EmbeddedHandler.rdcGroupGpuAdd deviceCount d.groupSettings groupId gpuIndex turn.query)
  rdcGroupFieldCreate fieldIds := serve tel .call fun _ d =>
    let r := EmbeddedHandler.rdcGroupFieldCreate d.groupSettings fieldIds dmonFieldGroupName
    (reply r.1 (r.2.1.getD 0), { d with groupSettings := r.2.2 })
  rdcGroupGpuGetInfo groupId := serve tel .call fun _ d =>
    (lookup (d.groupSettings.rdcGroupGpuGetInfo groupId) (·.entityIds), d)
  rdcGroupFieldGetInfo fieldGroupId := serve tel .call fun _ d =>
    (lookup (d.groupSettings.rdcGroupFieldGetInfo fieldGroupId) (knownFields ·.fieldIds), d)
  rdcFieldWatch groupId fieldGroupId updateFreq maxKeepAge maxKeepSamples :=
    serve tel (.watch · (groupId, fieldGroupId)) fun _ d =>
      d.rdcFieldWatch tel groupId fieldGroupId updateFreq maxKeepAge maxKeepSamples
  rdcFieldUnwatch groupId fieldGroupId := serve tel .call fun turn d =>
    d.rdcFieldUnwatch groupId fieldGroupId turn.now
  rdcFieldGetValueSince gpuIndex fieldId since nextTs value := serve tel .call fun _ d =>
    (EmbeddedHandler.rdcFieldGetValueSince d.cacheMgr gpuIndex fieldId since nextTs value, d)
  rdcFieldGetLatestValue gpuIndex fieldId := serve tel .call fun _ d =>
    let r := EmbeddedHandler.rdcFieldGetLatestValue d.cacheMgr gpuIndex fieldId uninit
    (reply r.1 r.2, d)
  rdcGroupGpuDestroy groupId s := (serve tel .call
    (fun _ d => d.onGroups (d.groupSettings.rdcGroupGpuDestroy groupId)) s).2
  rdcGroupFieldDestroy fieldGroupId s := (serve tel .call
    (fun _ d => d.onGroups (d.groupSettings.rdcGroupFieldDestroy fieldGroupId)) s).2
  isTerminating := serve tel .call fun turn d => (turn.terminating, d)

end Session

end Rdc
