import Rdc.Proof.BulkFetch

/-!
# The power of a GPU

The power comes from the metrics of the GPU if they are fetched in bulk, and from
`amdsmi_get_power_info` if it is fetched by itself. Both take the average, or the current power
where the average is 65535, the mark of a sensor that is not there; a power of zero in the metrics
is left to the other way. Only the single fetch looks at the current power for the mark, so that in
bulk a GPU without either sensor has 65535 watts.
-/

namespace Rdc.Proof

open MetricFetcher

/-! ## What is delivered -/

/-- The request for the power of a GPU. -/
def powerOf (gpu : Nat) : RdcFieldKey := (gpu, rdcFiPowerUsage)

/-- The values delivered for the power of a GPU, in bulk or by themselves. -/
def powerResults (gpu : Nat) (r : ValueGet) : List RdcFieldValue :=
  (r.bulk.filter fun v => v.key = powerOf gpu).map RdcGpuFieldValue.fieldValue
    ++ (r.delivered.flatten.filter fun d => d.request = powerOf gpu).map fun d => d.value.fieldValue

/-- Both are errors, or both are good and the same. -/
def SameReading (v w : RdcFieldValue) : Prop :=
  (v.status = AmdsmiStatus.success ↔ w.status = AmdsmiStatus.success)
    ∧ (v.status = AmdsmiStatus.success → v.value = w.value)

/-- Both calls deliver the power of the GPU, and every value of the one agrees with every value of
the other. -/
def SamePower (gpu : Nat) (r r' : ValueGet) : Prop :=
  powerResults gpu r ≠ [] ∧ powerResults gpu r' ≠ []
    ∧ ∀ v ∈ powerResults gpu r, ∀ w ∈ powerResults gpu r', SameReading v w

/-- What `amdsmi_get_power_info` answers where the power of the GPU is fetched by itself; the
callback takes everything. -/
structure ReadsPower (lib : SmiLib) (a : ValueGetAnswers) (fields : List RdcFieldKey)
    (gpu average current : Nat) : Prop where
  callback : ∀ n, a.callback n = .ok
  handle : ∀ i, (SmiLib.leftFields (lib.bulkFetch a fields).2 fields)[i]? = some (powerOf gpu) →
    (a.readings i).handle = AmdsmiStatus.success
  powerInfo : ∀ i, (SmiLib.leftFields (lib.bulkFetch a fields).2 fields)[i]? = some (powerOf gpu) →
    (a.readings i).powerInfo = (AmdsmiStatus.success, average, current)

/-! ## A single fetch -/

/-- The value of a single fetch. -/
def IsSinglePower (average current : Nat) (v : RdcFieldValue) : Prop :=
  if average ≠ 65535 then
    v.status = AmdsmiStatus.success ∧ v.value = .lInt (average * 1000000)
  else if current ≠ 65535 then
    v.status = AmdsmiStatus.success ∧ v.value = .lInt (current * 1000000)
  else v.status ≠ AmdsmiStatus.success

theorem fetched_isSinglePower {a : SmiReadings} {average current : Nat}
    (hhandle : a.handle = AmdsmiStatus.success)
    (hinfo : a.powerInfo = (AmdsmiStatus.success, average, current)) (gpu : Nat)
    (m : MetricFetcher) (value : RdcFieldValue) :
    IsSinglePower average current (fetchedInto m a (powerOf gpu) value).value.fieldValue := by
  have hread : (m.readAny a (powerOf gpu)).1 = a.readPower := rfl
  have hfetch : (fetchedInto m a (powerOf gpu) value).value.fieldValue
      = a.readPower.applyTo { value with ts := a.now, fieldId := rdcFiPowerUsage } := by
    have hvalid : ¬ isFieldValid (powerOf gpu).2 = false :=
      show ¬ isFieldValid rdcFiPowerUsage = false by decide
    unfold fetchedInto fetchSmiField
    dsimp only
    rw [if_neg (not_not.mpr hhandle), if_neg hvalid]
    dsimp only
    rw [hread]
    rfl
  have hscale : ∀ watts : Nat, (watts : Int) * 1000 * 1000 = watts * 1000000 := by
    intro watts
    omega
  rw [hfetch]
  unfold SmiReadings.readPower IsSinglePower
  rw [hinfo]
  dsimp only
  rw [if_neg (not_not.mpr rfl), hscale, hscale]
  split
  · exact ⟨rfl, rfl⟩
  · split
    · exact ⟨rfl, rfl⟩
    · show AmdsmiStatus.notSupported ≠ AmdsmiStatus.success
      decide

theorem IsSinglePower.same {average current : Nat} {v w : RdcFieldValue}
    (hv : IsSinglePower average current v) (hw : IsSinglePower average current w) :
    SameReading v w := by
  unfold IsSinglePower at hv hw
  split at hv
  · rw [if_pos ‹_›] at hw
    exact ⟨iff_of_true hv.1 hw.1, fun _ => hv.2.trans hw.2.symm⟩
  · rw [if_neg ‹_›] at hw
    split at hv
    · rw [if_pos ‹_›] at hw
      exact ⟨iff_of_true hv.1 hw.1, fun _ => hv.2.trans hw.2.symm⟩
    · rw [if_neg ‹_›] at hw
      exact ⟨iff_of_false hv hw, fun h => absurd h hv⟩

/-! ## A bulk fetch -/

/-- The power that the bulk fetch takes from the metrics. -/
def bulkPower (average current : Nat) : Nat := if average = 65535 then current else average

/-- The two ways agree unless both sensors are missing. -/
theorem bulkPower_same_iff {average current : Nat} {v w : RdcFieldValue}
    (hv : v.status = AmdsmiStatus.success)
    (hvalue : v.value = .lInt (bulkPower average current * 1000000))
    (hw : IsSinglePower average current w) :
    SameReading v w ↔ ¬ (average = 65535 ∧ current = 65535) := by
  unfold IsSinglePower at hw
  unfold bulkPower at hvalue
  by_cases haverage : average = 65535
  · rw [if_pos haverage] at hvalue
    rw [if_neg (not_not.mpr haverage)] at hw
    by_cases hcurrent : current = 65535
    · rw [if_neg (not_not.mpr hcurrent)] at hw
      exact iff_of_false (fun h => hw (h.1.mp hv)) fun h => h ⟨haverage, hcurrent⟩
    · rw [if_pos hcurrent] at hw
      refine iff_of_true ⟨iff_of_true hv hw.1, fun _ => hvalue.trans hw.2.symm⟩ fun h => ?_
      exact hcurrent h.2
  · rw [if_neg haverage] at hvalue
    rw [if_pos haverage] at hw
    refine iff_of_true ⟨iff_of_true hv hw.1, fun _ => hvalue.trans hw.2.symm⟩ fun h => ?_
    exact haverage h.1

theorem bulkData_power (metrics : AmdsmiGpuMetrics) :
    bulkData metrics rdcFiPowerUsage
      = if bulkPower metrics.averageSocketPower metrics.currentSocketPower = 0 then none
        else some ((bulkPower metrics.averageSocketPower metrics.currentSocketPower : Int)
          * 1000000) := rfl

/-! ## The whole call -/

section Call

variable {lib : SmiLib} {a : ValueGetAnswers} {fields : List RdcFieldKey}
  {gpu average current : Nat}

/-- With a callback that takes everything, a call is its bulk fetch and its loop. -/
theorem valueGet_eq (lib : SmiLib) (fields : List RdcFieldKey)
    (hok : ∀ n, a.callback n = .ok) :
    (lib.rdcTelemetryFieldsValueGet a fields).1.bulk = (lib.bulkFetch a fields).2
    ∧ ∃ callback : Nat → Status, (∀ n, callback n = .ok)
      ∧ (lib.rdcTelemetryFieldsValueGet a fields).1.delivered
        = (FetchLoop.loop a.readings callback
            (SmiLib.leftFields (lib.bulkFetch a fields).2 fields) 0
            ⟨lib.metricFetcher, a.values, [], []⟩).2.delivered := by
  have hgo : ¬ ((lib.bulkFetch a fields).2 ≠ [] ∧ a.callback 0 ≠ .ok) := fun h => h.2 (hok 0)
  unfold SmiLib.rdcTelemetryFieldsValueGet
  simp only [if_neg hgo]
  exact ⟨trivial, _, fun n => hok _, rfl⟩

/-- The power that is fetched by itself, and whether there is any. -/
theorem singlePower (h : ReadsPower lib a fields gpu average current) :
    (∀ d ∈ (lib.rdcTelemetryFieldsValueGet a fields).1.delivered.flatten,
      d.request = powerOf gpu → IsSinglePower average current d.value.fieldValue)
    ∧ ((∃ d ∈ (lib.rdcTelemetryFieldsValueGet a fields).1.delivered.flatten,
        d.request = powerOf gpu)
      ↔ powerOf gpu ∈ SmiLib.leftFields (lib.bulkFetch a fields).2 fields) := by
  obtain ⟨-, callback, hok, hdelivered⟩ :=
    valueGet_eq lib fields h.callback
  rw [hdelivered]
  constructor
  · refine loop_forall _ (fun j key hkey m value hrequest => ?_) (by simp [FetchLoop.deliveries])
    have hkey' : key = powerOf gpu := hrequest
    subst hkey'
    rw [Nat.zero_add]
    exact fetched_isSinglePower (h.handle j hkey) (h.powerInfo j hkey) gpu m value
  · refine List.mem_map.symm.trans ?_
    rw [loop_requests a.readings callback lib.metricFetcher a.values _ hok]

theorem mem_leftFields {bulk : List RdcGpuFieldValue} {key : RdcFieldKey} :
    key ∈ SmiLib.leftFields bulk fields
      ↔ key ∈ fields ∧ key ∉ bulk.map RdcGpuFieldValue.key := by
  unfold SmiLib.leftFields RdcGpuFieldValue.key
  simp [Prod.ext_iff]

theorem mem_powerResults {r : ValueGet} {v : RdcFieldValue} :
    v ∈ powerResults gpu r
      ↔ (∃ w ∈ r.bulk, w.key = powerOf gpu ∧ w.fieldValue = v)
        ∨ ∃ d ∈ r.delivered.flatten, d.request = powerOf gpu ∧ d.value.fieldValue = v := by
  unfold powerResults
  simp only [List.mem_append, List.mem_map, List.mem_filter, decide_eq_true_eq, and_assoc]

/-- The power of the GPU when the bulk fetch does not answer it. -/
theorem powerResults_of_single (h : ReadsPower lib a fields gpu average current)
    (hmem : powerOf gpu ∈ fields)
    (hbulk : powerOf gpu ∉ (lib.bulkFetch a fields).2.map RdcGpuFieldValue.key) :
    (∃ v, v ∈ powerResults gpu (lib.rdcTelemetryFieldsValueGet a fields).1)
    ∧ ∀ v ∈ powerResults gpu (lib.rdcTelemetryFieldsValueGet a fields).1,
        IsSinglePower average current v := by
  obtain ⟨hpower, hexists⟩ := singlePower h
  obtain ⟨hbulkEq, -⟩ := valueGet_eq lib fields h.callback
  constructor
  · obtain ⟨d, hd, hrequest⟩ := hexists.mpr (mem_leftFields.mpr ⟨hmem, hbulk⟩)
    exact ⟨_, mem_powerResults.mpr (.inr ⟨d, hd, hrequest, rfl⟩)⟩
  · intro v hv
    rcases mem_powerResults.mp hv with ⟨w, hw, hkey, -⟩ | ⟨d, hd, hrequest, rfl⟩
    · rw [hbulkEq] at hw
      exact absurd (List.mem_map.mpr ⟨w, hw, hkey⟩) hbulk
    · exact hpower d hd hrequest

theorem powerResults_of_bulk (h : ReadsPower lib a fields gpu average current)
    (haverage : (a.metrics gpu).2.averageSocketPower = average)
    (hcurrent : (a.metrics gpu).2.currentSocketPower = current)
    (hbulk : powerOf gpu ∈ (lib.bulkFetch a fields).2.map RdcGpuFieldValue.key) :
    (∃ v, v ∈ powerResults gpu (lib.rdcTelemetryFieldsValueGet a fields).1)
    ∧ ∀ v ∈ powerResults gpu (lib.rdcTelemetryFieldsValueGet a fields).1,
        v.status = AmdsmiStatus.success
        ∧ v.value = .lInt (bulkPower average current * 1000000) := by
  obtain ⟨-, hexists⟩ := singlePower h
  obtain ⟨hbulkEq, -⟩ := valueGet_eq lib fields h.callback
  constructor
  · obtain ⟨w, hw, hkey⟩ := List.mem_map.mp hbulk
    rw [← hbulkEq] at hw
    exact ⟨_, mem_powerResults.mpr (.inl ⟨w, hw, hkey, rfl⟩)⟩
  · intro v hv
    rcases mem_powerResults.mp hv with ⟨w, hw, hkey, rfl⟩ | ⟨d, hd, hrequest, -⟩
    · rw [hbulkEq] at hw
      obtain ⟨hgpu, hfield⟩ := Prod.ext_iff.mp hkey
      obtain ⟨hstatus, -, data, hdata, hvalue⟩ := mem_bulkFetch hw
      rw [show w.gpuIndex = gpu from hgpu, show w.fieldValue.fieldId = rdcFiPowerUsage from hfield,
        bulkData_power, haverage, hcurrent] at hdata
      split at hdata
      · cases hdata
      · refine ⟨hstatus, ?_⟩
        rw [hvalue, ← Option.some.inj hdata]
    · exact absurd hbulk (mem_leftFields.mp (hexists.mp ⟨d, hd, hrequest⟩)).2

/-- When the bulk fetch answers the request: it works, and the power in the metrics is not zero. -/
theorem power_mem_bulkFetch_iff (haverage : (a.metrics gpu).2.averageSocketPower = average)
    (hcurrent : (a.metrics gpu).2.currentSocketPower = current) (hmem : powerOf gpu ∈ fields) :
    powerOf gpu ∈ (lib.bulkFetch a fields).2.map RdcGpuFieldValue.key
      ↔ BulkAnswers lib a fields ∧ bulkPower average current ≠ 0 := by
  by_cases hanswers : BulkAnswers lib a fields
  · have hdata : hasBulkData a.metrics (powerOf gpu) = true ↔ bulkPower average current ≠ 0 := by
      unfold hasBulkData powerOf
      rw [bulkData_power, haverage, hcurrent]
      split
      · simp_all
      · simp_all
    have hbulk : rdcBulkFields.contains (powerOf gpu).2 = true :=
      show rdcBulkFields.contains rdcFiPowerUsage = true by decide
    rw [(map_key_bulkFetch hanswers).mem_iff, List.mem_filter, hbulk, Bool.and_true, hdata]
    simp [hmem, hanswers]
  · rw [bulkFetch_of_not_answers hanswers]
    simp [hanswers]

end Call

/-- **Bulk and single fetching report the same power** of a GPU, whatever else is requested, unless
the bulk fetch works and both sensors are missing. -/
theorem samePower_iff {on off : SmiLib} (hoff : off.bulkFetchEnabled = false)
    {a a' : ValueGetAnswers} {fields : List RdcFieldKey} {gpu average current : Nat}
    (hmem : powerOf gpu ∈ fields) (haverage : (a.metrics gpu).2.averageSocketPower = average)
    (hcurrent : (a.metrics gpu).2.currentSocketPower = current)
    (hon : ReadsPower on a fields gpu average current)
    (hsingle : ReadsPower off a' fields gpu average current) :
    SamePower gpu (on.rdcTelemetryFieldsValueGet a fields).1
        (off.rdcTelemetryFieldsValueGet a' fields).1
      ↔ ¬ (BulkAnswers on a fields ∧ average = 65535 ∧ current = 65535) := by
  have hnone : powerOf gpu ∉ (off.bulkFetch a' fields).2.map RdcGpuFieldValue.key := by
    rw [bulkFetch_of_not_answers fun h => Bool.false_ne_true (hoff.symm.trans h.1)]
    exact List.not_mem_nil
  obtain ⟨⟨w, hw⟩, hall'⟩ := powerResults_of_single hsingle hmem hnone
  unfold SamePower
  rw [and_iff_right (List.ne_nil_of_mem hw)]
  by_cases hbulk : powerOf gpu ∈ (on.bulkFetch a fields).2.map RdcGpuFieldValue.key
  · obtain ⟨⟨v, hv⟩, hall⟩ := powerResults_of_bulk hon haverage hcurrent hbulk
    obtain ⟨hanswers, -⟩ := (power_mem_bulkFetch_iff haverage hcurrent hmem).mp hbulk
    rw [and_iff_right (List.ne_nil_of_mem hv), and_iff_right hanswers]
    constructor
    · intro hsame
      exact (bulkPower_same_iff (hall v hv).1 (hall v hv).2 (hall' w hw)).mp (hsame v hv w hw)
    · intro hcond v hv w hw
      exact (bulkPower_same_iff (hall v hv).1 (hall v hv).2 (hall' w hw)).mpr hcond
  · obtain ⟨⟨v, hv⟩, hall⟩ := powerResults_of_single hon hmem hbulk
    rw [and_iff_right (List.ne_nil_of_mem hv)]
    refine iff_of_true (fun v hv w hw => (hall v hv).same (hall' w hw)) fun hcond => hbulk ?_
    -- with both sensors missing the power in the metrics is not zero
    refine (power_mem_bulkFetch_iff haverage hcurrent hmem).mpr ⟨hcond.1, ?_⟩
    unfold bulkPower
    rw [if_pos hcond.2.1, hcond.2.2]
    decide

/-- The same readings from both calls, for every GPU. -/
def powerReadings (average current : Nat) : ValueGetAnswers where
  bulkNow := 0
  metrics _ := (AmdsmiStatus.success,
    { (default : AmdsmiGpuMetrics) with
      averageSocketPower := average, currentSocketPower := current })
  readings _ :=
    { (default : SmiReadings) with
      handle := AmdsmiStatus.success, powerInfo := (AmdsmiStatus.success, average, current) }
  callback _ := .ok
  values := Vector.replicate bulkFieldsMax ⟨0, ⟨0, 0, 0, .integer, .lInt 0⟩⟩

theorem readsPower_powerReadings (lib : SmiLib) (fields : List RdcFieldKey)
    (gpu average current : Nat) :
    ReadsPower lib (powerReadings average current) fields gpu average current :=
  ⟨fun _ => rfl, fun _ _ => rfl, fun _ _ => rfl⟩

/-- A library that fetches in bulk, or does not. -/
def newSmiLib (bulk : Bool) : SmiLib := ⟨MetricFetcher.init, bulk, AmdsmiStatus.success⟩

/-- There is no average, and the current power is 150 watts. -/
theorem samePower_currentOnly :
    SamePower 1
      ((newSmiLib true).rdcTelemetryFieldsValueGet (powerReadings 65535 150) [powerOf 1]).1
      ((newSmiLib false).rdcTelemetryFieldsValueGet (powerReadings 65535 150) [powerOf 1]).1 :=
  (samePower_iff rfl (List.mem_cons_self ..) rfl rfl (readsPower_powerReadings _ _ 1 65535 150)
    (readsPower_powerReadings _ _ 1 65535 150)).mpr fun h => absurd h.2.2 (by decide)

/-- Without either sensor the bulk fetch reports 65535 watts and the single fetch an error. -/
theorem not_samePower_noSensor :
    ¬ SamePower 1
      ((newSmiLib true).rdcTelemetryFieldsValueGet (powerReadings 65535 65535) [powerOf 1]).1
      ((newSmiLib false).rdcTelemetryFieldsValueGet (powerReadings 65535 65535) [powerOf 1]).1 := by
  intro h
  have hbulk : (powerResults 1 ((newSmiLib true).rdcTelemetryFieldsValueGet
      (powerReadings 65535 65535) [powerOf 1]).1).map (fun v => (v.status, v.value))
      = [(AmdsmiStatus.success, .lInt 65535000000)] := by decide +kernel
  have hsingle : (powerResults 1 ((newSmiLib false).rdcTelemetryFieldsValueGet
      (powerReadings 65535 65535) [powerOf 1]).1).map (fun v => v.status)
      = [AmdsmiStatus.notSupported] := by decide +kernel
  obtain ⟨v, hv, hv'⟩ := List.mem_map.mp (hbulk ▸ List.mem_cons_self ..)
  obtain ⟨w, hw, hw'⟩ := List.mem_map.mp (hsingle ▸ List.mem_cons_self ..)
  have hok := (h.2.2 v hv w hw).1.mp (Prod.ext_iff.mp hv').1
  rw [hw'] at hok
  exact absurd hok (by decide)

end Rdc.Proof
