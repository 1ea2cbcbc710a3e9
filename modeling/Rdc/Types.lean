import Rdc.Lib.OrdMap
import Mathlib.Algebra.Ring.Int.Defs
import Mathlib.Algebra.Ring.Nat

/-!
# The vocabulary of the daemon

Status codes, limits, field ids and field values, as `rdc.h` and `rdc_common.h` declare them, and
the device types of the HSA runtime.

Ids and counters are natural numbers; where the source's fixed width can be observed, the
operation that can wrap says so (`u64Add`, `u64Sub`). Field ids stay numbers rather than an
enumeration: the code receives them from clients as plain integers and looks them up in tables, so
ids outside `rdc_field_t` are inputs it really gets. A `char*` is the bytes before its terminator.
-/

namespace Rdc

/-- `rdc_status_t`. -/
inductive Status where
  | ok
  | notSupported
  | msiError
  | failLoadModule
  | invalidHandler
  | badParameter
  | notFound
  | conflict
  | clientError
  | alreadyExist
  | maxLimit
  | insuffResources
  | fileError
  | noData
  | permError
  | disabledModule
  | unknownError
  deriving DecidableEq, Repr

/-- `hsa_device_type_t`. -/
inductive HsaDeviceType where
  | cpu
  | gpu
  | dsp
  deriving DecidableEq

/-! ## Limits -/

/-- `RDC_MAX_STR_LENGTH`. -/
def rdcMaxStrLength : Nat := 256

/-- `RDC_GROUP_MAX_ENTITIES`. -/
def rdcGroupMaxEntities : Nat := 64

/-- `RDC_MAX_FIELD_IDS_PER_FIELD_GROUP`. -/
def rdcMaxFieldIdsPerFieldGroup : Nat := 128

/-- `RDC_MAX_NUM_GROUPS`. -/
def rdcMaxNumGroups : Nat := 64

/-- `RDC_MAX_NUM_FIELD_GROUPS`. -/
def rdcMaxNumFieldGroups : Nat := 64

/-- `JOB_FIELD_ID`: the field group every job watches. -/
def jobFieldId : Nat := 0

/-! ## Fixed-width arithmetic -/

/-- Addition of two `uint64_t`. -/
def u64Add (a b : Nat) : Nat := (a + b) % 2 ^ 64

/-- Subtraction of two `uint64_t`. -/
def u64Sub (a b : Nat) : Nat := (a + (2 ^ 64 - b % 2 ^ 64)) % 2 ^ 64

/-- Increment of a `uint32_t` id counter. -/
def u32Succ (a : Nat) : Nat := (a + 1) % 2 ^ 32

/-! ## Field ids -/

/-- `RDC_FI_GPU_CLOCK`. -/
def rdcFiGpuClock : Nat := 100

/-- `RDC_FI_MEM_CLOCK`. -/
def rdcFiMemClock : Nat := 101

/-- `RDC_FI_GPU_TEMP`. -/
def rdcFiGpuTemp : Nat := 201

/-- `RDC_FI_POWER_USAGE`. -/
def rdcFiPowerUsage : Nat := 300

/-- `RDC_FI_PCIE_TX`. -/
def rdcFiPcieTx : Nat := 400

/-- `RDC_FI_PCIE_RX`. -/
def rdcFiPcieRx : Nat := 401

/-- `RDC_FI_GPU_UTIL`. -/
def rdcFiGpuUtil : Nat := 500

/-- `RDC_FI_GPU_MEMORY_USAGE`. -/
def rdcFiGpuMemoryUsage : Nat := 501

/-- `RDC_FI_GPU_MEMORY_TOTAL`. -/
def rdcFiGpuMemoryTotal : Nat := 502

/-- `RDC_FI_ECC_CORRECT_TOTAL`. -/
def rdcFiEccCorrectTotal : Nat := 600

/-- `RDC_FI_ECC_UNCORRECT_TOTAL`. -/
def rdcFiEccUncorrectTotal : Nat := 601

/-- `RDC_EVNT_NOTIF_VMFAULT`, which is also `RDC_EVNT_NOTIF_FIRST`. -/
def rdcEvntNotifVmfault : Nat := 2000

/-- `RDC_EVNT_NOTIF_THERMAL_THROTTLE`. -/
def rdcEvntNotifThermalThrottle : Nat := 2001

/-- `RDC_EVNT_NOTIF_PRE_RESET`. -/
def rdcEvntNotifPreReset : Nat := 2002

/-- `RDC_EVNT_NOTIF_POST_RESET`. -/
def rdcEvntNotifPostReset : Nat := 2003

/-- `RDC_EVNT_NOTIF_RING_HANG`. -/
def rdcEvntNotifRingHang : Nat := 2004

/-! ## Keys -/

/-- `RdcFieldKey`: a GPU index and a field id. -/
abbrev RdcFieldKey := Nat × Nat

/-- `RdcFieldGroupKey`: a GPU group id and a field group id. -/
abbrev RdcFieldGroupKey := Nat × Nat

/-- A job id, as the bytes of its `std::string`. -/
abbrev JobId := List UInt8

/-- `std::map<RdcFieldKey, ν>`; also `std::map<RdcFieldGroupKey, ν>`. -/
abbrev KeyMap (ν : Type) := Std.ExtTreeMap (Nat × Nat) ν OrdMap.pairCmp

/-- `std::map<uint32_t, ν>`. -/
abbrev IdMap (ν : Type) := Std.ExtTreeMap Nat ν compare

/-- `std::map<std::string, ν>`. -/
abbrev JobMap (ν : Type) := Std.ExtTreeMap JobId ν compare

/-- `rdc_gpu_gauges_t`. -/
abbrev RdcGpuGauges := KeyMap Nat

/-! ## Field values -/

/-- `rdc_field_type_t`. -/
inductive RdcFieldType where
  | integer
  | double
  | string
  | blob
  deriving DecidableEq, Repr

/-- The little-endian number in a list of bytes. -/
def leNat : List UInt8 → Nat
  | [] => 0
  | b :: bs => b.toNat + 256 * leNat bs

/-- A 64-bit pattern read as `int64_t`. -/
def asInt64 (bits : Nat) : Int := Int.bmod bits (2 ^ 64)

/-- `rdc_field_value_data`: a union, kept as the member last written. -/
inductive RdcFieldValueData where
  | lInt (value : Int)
  | dbl (bits : Nat)
  | str (bytes : List UInt8)
  deriving DecidableEq, Repr

/-- Reading the union's `l_int`, whichever member was written. -/
def RdcFieldValueData.lIntOf : RdcFieldValueData → Int
  | .lInt value => value
  | .dbl bits => asInt64 bits
  | .str bytes => asInt64 (leNat (bytes.take 8))

/-- Reading the union's `dbl`, as its bits, whichever member was written. -/
def RdcFieldValueData.dblOf : RdcFieldValueData → Nat
  | .lInt value => (value % 2 ^ 64).toNat
  | .dbl bits => bits
  | .str bytes => leNat (bytes.take 8)

/-- Reading the union's `str`, which only ever happens when `str` was written. -/
def RdcFieldValueData.strOf : RdcFieldValueData → List UInt8
  | .lInt _ => []
  | .dbl _ => []
  | .str bytes => bytes

/-- `rdc_field_value`. Its status is an `int` that holds codes of several libraries; `0` is
`RDC_ST_OK`. -/
structure RdcFieldValue where
  fieldId : Nat
  status : Int
  ts : Nat
  type : RdcFieldType
  value : RdcFieldValueData
  deriving DecidableEq, Repr

/-- `rdc_gpu_field_value_t`. -/
structure RdcGpuFieldValue where
  gpuIndex : Nat
  fieldValue : RdcFieldValue
  deriving DecidableEq, Repr

/-- `rdc_evnt_notification_t`. -/
structure RdcEvntNotification where
  gpuId : Nat
  field : RdcFieldValue
  deriving DecidableEq, Repr

/-- The bytes of a text. -/
def text (s : String) : List UInt8 := s.toUTF8.toList

/-- `std::to_string`. -/
def decimal {α : Type} [ToString α] (n : α) : List UInt8 := text (toString n)

/-- `strncpy_with_null`: at most `n - 1` bytes, then the terminator. -/
def strncpyWithNull (src : List UInt8) (n : Nat) : List UInt8 := src.take (n - 1)

end Rdc
