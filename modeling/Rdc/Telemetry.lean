import Rdc.Types

/-!
# What the telemetry modules support, and what is an event

`RdcTelemetryModule::rdc_telemetry_fields_query` concatenates the field lists of the loaded modules:
the fixed list of `RdcSmiLib`, and whatever part of the profiler's table the hardware has. Neither
ever contains a notification field, which is why `rdc_field_watch` can drop unsupported fields
without losing track of anything that is polled.
-/

namespace Rdc

/-- The keys of `rdc_2_smi_event_notif_map`. -/
def rdc2SmiEventNotifKeys : List Nat :=
  [rdcEvntNotifVmfault, rdcEvntNotifThermalThrottle, rdcEvntNotifPreReset, rdcEvntNotifPostReset,
    rdcEvntNotifRingHang]

/-- `RdcNotificationImpl::is_notification_event`. -/
def isNotificationEvent (field : Nat) : Bool := rdc2SmiEventNotifKeys.contains field

/-- The list in `RdcSmiLib::rdc_telemetry_fields_query`. -/
def smiFields : List Nat :=
  -- identifiers, clocks, temperatures, power, PCIe, utilisation and memory
  [1, 2, 100, 101, 200, 201, 300, 400, 401, 402, 500, 501, 502] ++
  -- the two ECC totals and the per-block counters `RDC_FI_ECC_FIRST` to `RDC_FI_ECC_LAST`
  List.range' 600 40 ++
  -- XGMI data sizes per link: reads, their total, writes, their total
  List.range' 700 8 ++ [716] ++ List.range' 708 8 ++ [717] ++
  -- XGMI counter events and throughputs
  List.range' 1000 8 ++ List.range' 1500 6 ++
  -- OAM id, multimedia engines and memory activity
  [3, 503, 504, 505]

/-- The keys of `temp_field_map_k` in `RdcRocpBase`: the profiler fields. -/
def rocpFields : List Nat := List.range' 800 11

/-- The supported fields: at most what the two modules can claim. -/
structure Telemetry where
  /-- `rdc_telemetry_fields_query`. -/
  fieldIds : List Nat
  not_notification : ∀ field ∈ fieldIds, isNotificationEvent field = false

namespace Telemetry

theorem modules_not_notification :
    ∀ field ∈ smiFields ++ rocpFields, isNotificationEvent field = false := by decide

/-- The telemetry of a daemon whose profiler module claims `claimed`. -/
def ofModules (claimed : List Nat) (h : ∀ field ∈ claimed, field ∈ rocpFields) : Telemetry where
  fieldIds := smiFields ++ claimed
  not_notification := by
    intro field hf
    rcases List.mem_append.mp hf with hs | hc
    · exact modules_not_notification field (List.mem_append_left _ hs)
    · exact modules_not_notification field (List.mem_append_right _ (h field hc))

/-- The telemetry of a daemon without the profiler module. -/
def smiOnly : Telemetry := ofModules [] (by simp)

/-- The search loop of `rdc_field_watch`. -/
def supports (tel : Telemetry) (field : Nat) : Bool := tel.fieldIds.contains field

theorem supports_iff {tel : Telemetry} {field : Nat} :
    tel.supports field = true ↔ field ∈ tel.fieldIds := List.contains_iff_mem

theorem not_notification_of_supports {tel : Telemetry} {field : Nat}
    (h : tel.supports field = true) : isNotificationEvent field = false :=
  tel.not_notification field (supports_iff.mp h)

end Telemetry

end Rdc
