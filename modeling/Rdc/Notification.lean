import Rdc.WatchTable

/-!
# Events

`RdcNotificationImpl`: which events the driver is to report for each GPU, and how a report becomes
something that can be cached. The module sits between the daemon and the SMI library. What the
library answers is an argument of each call; what it was last told, the mask of each GPU, is kept
beside the module's own table (`smiMasks`).

The daemon never looks at this module's state, so the module runs on the log of the calls the daemon
has made to it.
-/

namespace Rdc

open Std

/-! ## Event types -/

/-- `amdsmi_evt_notification_type_t`: the types in `smi_event_notif_2_rdc_map`. -/
inductive SmiEvent where
  | vmfault
  | thermalThrottle
  | gpuPreReset
  | gpuPostReset
  | ringHang
  deriving DecidableEq, Repr

/-- The number of a type; `AMDSMI_EVT_NOTIF_VMFAULT` is also `AMDSMI_EVT_NOTIF_FIRST`. -/
def SmiEvent.index : SmiEvent → Nat
  | .vmfault => 1
  | .thermalThrottle => 2
  | .gpuPreReset => 3
  | .gpuPostReset => 4
  | .ringHang => 5

/-- `AMDSMI_EVENT_MASK_FROM_INDEX`. -/
def amdsmiEventMaskFromIndex (index : Nat) : Nat := 1 <<< (index - 1)

/-- `rdc_2_smi_event_notif_map`. -/
def rdc2SmiEventNotifMap (field : Nat) : Option SmiEvent :=
  if field = rdcEvntNotifVmfault then some .vmfault
  else if field = rdcEvntNotifThermalThrottle then some .thermalThrottle
  else if field = rdcEvntNotifPreReset then some .gpuPreReset
  else if field = rdcEvntNotifPostReset then some .gpuPostReset
  else if field = rdcEvntNotifRingHang then some .ringHang
  else none

/-- `smi_event_notif_2_rdc_map`. -/
def smiEventNotif2RdcMap : SmiEvent → Nat
  | .vmfault => rdcEvntNotifVmfault
  | .thermalThrottle => rdcEvntNotifThermalThrottle
  | .gpuPreReset => rdcEvntNotifPreReset
  | .gpuPostReset => rdcEvntNotifPostReset
  | .ringHang => rdcEvntNotifRingHang

/-- `is_notification_event` looks a field up in `rdc_2_smi_event_notif_map`. -/
theorem isNotificationEvent_iff (field : Nat) :
    isNotificationEvent field = true ↔ (rdc2SmiEventNotifMap field).isSome = true := by
  unfold isNotificationEvent rdc2SmiEventNotifKeys rdc2SmiEventNotifMap
  simp only [List.contains_iff_mem, List.mem_cons, List.not_mem_nil, or_false]
  split_ifs <;> simp_all

theorem rdc2SmiEventNotifMap_eq_some {field : Nat} {event : SmiEvent} :
    rdc2SmiEventNotifMap field = some event ↔ field = smiEventNotif2RdcMap event := by
  unfold rdc2SmiEventNotifMap
  split_ifs <;> cases event <;> simp_all [smiEventNotif2RdcMap] <;> decide

/-! ## Telling the driver what to report -/

/-- What the SMI library and the kernel answer to the calls made for one GPU. An error of the
library is given as the status `Smi2RdcError` makes of it. -/
structure SmiAnswers where
  /-- `get_processor_handle_from_id`. -/
  handle : Nat → Option Status
  /-- Acquiring `CAP_DAC_OVERRIDE`. -/
  acquired : Nat → Bool
  /-- `amdsmi_init_gpu_event_notification`. -/
  initialized : Nat → Bool
  /-- `amdsmi_set_gpu_event_notification_mask`. -/
  setMask : Nat → Option Status
  /-- Giving the capability back. -/
  relinquished : Nat → Bool
  /-- `amdsmi_stop_gpu_event_notification`. -/
  stopped : Nat → Bool

/-- Every call succeeds. -/
def SmiAnswers.success : SmiAnswers where
  handle _ := none
  acquired _ := true
  initialized _ := true
  setMask _ := none
  relinquished _ := true
  stopped _ := true

/-- `RdcNotificationImpl`, with the mask each GPU was last given. A GPU without an entry has the
mask zero in either table. -/
structure Notification where
  gpuEvntNotifMasks : IdMap Nat
  smiMasks : IdMap Nat
  deriving DecidableEq

namespace Notification

/-- The constructor. -/
def init : Notification := ⟨∅, ∅⟩

/-- One turn of the first loop of `set_listen_events`. -/
def addMask (masks : IdMap Nat) (key : RdcFieldKey) : IdMap Nat :=
  match rdc2SmiEventNotifMap key.2 with
  | none => masks
  | some event => masks.alter key.1 fun mask =>
    some (mask.getD 0 ||| amdsmiEventMaskFromIndex event.index)

/-- The first loop: one mask for each GPU that has an event among the fields. -/
def newMasks (fkArr : List RdcFieldKey) : IdMap Nat := fkArr.foldl addMask ∅

/-- The second loop, over the new masks in GPU order. -/
def setMasks (answers : SmiAnswers) : List (Nat × Nat) → Notification → Status × Notification
  | [], n => (.ok, n)
  | (gpu, mask) :: rest, n =>
    if mask = n.gpuEvntNotifMasks[gpu]?.getD 0 then setMasks answers rest n
    else
      match answers.handle gpu with
      | some result => (result, n)
      | none =>
        if answers.acquired gpu = false then (.permError, n)
        else if answers.initialized gpu = false then setMasks answers rest n
        else
          match answers.setMask gpu with
          | some result =>
            if answers.relinquished gpu = false then (.permError, n) else (result, n)
          | none =>
            let n := { n with smiMasks := n.smiMasks.insert gpu mask }
            -- the library has the new mask even if the module does not get to note it
            if answers.relinquished gpu = false then (.permError, n)
            else
              setMasks answers rest
                { n with gpuEvntNotifMasks := n.gpuEvntNotifMasks.insert gpu mask }

/-- `set_listen_events`. -/
def setListenEvents (answers : SmiAnswers) (n : Notification) (fkArr : List RdcFieldKey) :
    Status × Notification :=
  setMasks answers (newMasks fkArr).toList n

/-- `stop_listening`. A failure to clear the mask is only logged. -/
def stopListening (answers : SmiAnswers) (n : Notification) (gpu : Nat) : Status × Notification :=
  match answers.handle gpu with
  | some result => (result, n)
  | none =>
    let n :=
      if (answers.setMask gpu).isNone then { n with smiMasks := n.smiMasks.insert gpu 0 } else n
    if answers.stopped gpu then
      (.ok, { n with gpuEvntNotifMasks := n.gpuEvntNotifMasks.insert gpu 0 })
    else (.ok, n)

/-- One call of the daemon; calls to telemetry are not for this module. -/
def onCall (answers : SmiAnswers) (n : Notification) : ModuleCall → Notification
  | .setListenEvents fields => (n.setListenEvents answers fields).2
  | .stopListening gpu => (n.stopListening answers gpu).2
  | .fieldsWatch _ | .fieldsUnwatch _ | .fieldsValueGet _ => n

/-- The module after a log of calls. -/
def replay (answers : SmiAnswers) (calls : List ModuleCall) : Notification :=
  calls.foldl (onCall answers) init

/-- The mask the library has for a GPU. -/
def smiMask (n : Notification) (gpu : Nat) : Nat := n.smiMasks[gpu]?.getD 0

end Notification

/-! ## Reports -/

/-- `amdsmi_evt_notification_data_t`. -/
structure SmiNotification where
  processorHandle : Nat
  event : SmiEvent
  message : List UInt8
  deriving DecidableEq, Repr

/-- The GPUs as the library sees them: a handle for each index, and the BDF id of each handle, a
64-bit number made of PCI domain, bus, device and function. -/
structure Topology where
  /-- `all_processors` of `get_processor_handle_from_id`. -/
  processors : List Nat
  nodup : processors.Nodup
  /-- `amdsmi_get_gpu_bdf_id`. -/
  bdfId : Nat → Nat
  bdfId_lt : ∀ handle, bdfId handle < 2 ^ 64

/-- `kMaxRSMIEvents`. -/
def kMaxRSMIEvents : Nat := 64

/-- What `listen` makes of one report. The BDF id is assigned to the 32-bit `gpu_id`. -/
def Topology.notification (top : Topology) (now : Nat) (e : SmiNotification) :
    RdcEvntNotification where
  gpuId := top.bdfId e.processorHandle % 2 ^ 32
  field :=
    { fieldId := smiEventNotif2RdcMap e.event
      status := 0
      ts := now
      type := .string
      value := .str (strncpyWithNull e.message rdcMaxStrLength) }

/-- `listen`, for `numEvents` events at most, with what the library reports. -/
def Topology.listen (top : Topology) (numEvents : Nat)
    (answer : Except Status (List SmiNotification)) (now : Nat) :
    Status × List RdcEvntNotification :=
  if numEvents = 0 then (.badParameter, [])
  else
    match answer with
    | .error result => (result, [])
    | .ok reported =>
      (.ok, (reported.take (min numEvents kMaxRSMIEvents)).map (top.notification now))

/-- `rdc_field_listen_notif`. -/
def Daemon.rdcFieldListenNotif (d : Daemon) (top : Topology)
    (answer : Except Status (List SmiNotification)) (now : Nat) : Status × Daemon :=
  match top.listen kMaxRSMIEvents answer now with
  | (.ok, events) => if events = [] then (.ok, d) else d.rdcNotifUpdateCache events
  | (result, _) => (result, d)

end Rdc
