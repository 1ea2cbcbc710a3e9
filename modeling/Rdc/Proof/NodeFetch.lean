import Rdc.Node
import Rdc.Proof.RocpTelemetry
import Rdc.Proof.BulkFetch
import Rdc.Proof.Events
import Rdc.Proof.Bulk

/-!
# What a fetch brings

A fetch is dispatched to `RdcSmiLib` and to the profiler, and the values travel through parts,
batches and slots of an array that are used again and again. What arrives is nevertheless what a
reading of each field by itself gives: every field is answered once, labelled with it, and a good
value is complete, so nothing is left in it of what its slot held before (`fetch_spec`). It is
stamped with a clock reading that its module made during the fetch (`ts_mem_stamps`).
-/

namespace Rdc.Proof.Closed

open Std (ExtTreeMap)
open OrdMap Daemon Machine MetricFetcher Rdc.Proof.Rocp

/-! ## A successful read is complete -/

/-- A success writes a type and a value. -/
def Complete (w : FieldWrites) : Prop :=
  w.status = AmdsmiStatus.success → w.type.isSome = true ∧ w.value.isSome = true

/-- The usual branch: the value is written if the call that reads it succeeds. -/
theorem complete_read (status : AmdsmiStatus) (type : RdcFieldType) (value : RdcFieldValueData)
    (result : Option Status) :
    Complete ⟨status, some type, if status = AmdsmiStatus.success then some value else none,
      result⟩ := by
  intro h
  dsimp only at h ⊢
  rw [if_pos h]
  exact ⟨rfl, rfl⟩

theorem complete_integer (status : AmdsmiStatus) (value : Int) :
    Complete (FieldWrites.integer status value) := complete_read status .integer (.lInt value) none

theorem complete_statusOnly {status : AmdsmiStatus} (h : status ≠ AmdsmiStatus.success) :
    Complete (FieldWrites.statusOnly status) := fun hs => absurd hs h

theorem notSupported_ne_success : AmdsmiStatus.notSupported ≠ AmdsmiStatus.success := by decide

theorem complete_noData (type : Option RdcFieldType) : Complete (FieldWrites.noData type) :=
  fun hs => absurd hs notSupported_ne_success

theorem complete_ite {p : Prop} [Decidable p] {w w' : FieldWrites} (h : p → Complete w)
    (h' : ¬ p → Complete w') : Complete (if p then w else w') := by
  split
  · exact h ‹_›
  · exact h' ‹_›

theorem complete_getEcc (a : SmiReadings) (field : Nat) : Complete (a.getEcc field) := by
  unfold SmiReadings.getEcc
  refine complete_ite complete_statusOnly fun _ => ?_
  exact complete_ite complete_statusOnly fun _ => complete_integer _ _

theorem complete_readGpuMetrics (a : SmiReadings) (field : Nat) :
    Complete (a.readGpuMetrics field) := by
  unfold SmiReadings.readGpuMetrics
  refine complete_ite complete_statusOnly fun _ => ?_
  split
  · exact complete_statusOnly notSupported_ne_success
  · exact complete_ite (fun _ => complete_statusOnly notSupported_ne_success)
      fun _ => complete_integer _ _

theorem complete_readPower (a : SmiReadings) : Complete a.readPower := by
  unfold SmiReadings.readPower
  refine complete_ite (fun _ => complete_integer _ _) fun _ => ?_
  refine complete_ite (fun _ => complete_integer _ _) fun _ => ?_
  exact complete_ite (fun _ => complete_integer _ _) fun _ => complete_noData _

theorem complete_readField (a : SmiReadings) (field : Nat) : Complete (a.readField field) := by
  have hinteger : ∀ {p : Prop} (status : AmdsmiStatus) (value : Int),
      p → Complete (FieldWrites.integer status value) := fun _ _ _ => complete_integer _ _
  unfold SmiReadings.readField
  iterate 4 refine complete_ite (hinteger _ _) fun _ => ?_
  refine complete_ite (fun _ => complete_readPower a) fun _ => ?_
  iterate 3 refine complete_ite (hinteger _ _) fun _ => ?_
  refine complete_ite (fun _ => complete_read _ _ _ _) fun _ => ?_
  refine complete_ite (hinteger _ _) fun _ => ?_
  refine complete_ite (fun _ => complete_ite (hinteger _ _) (hinteger _ _)) fun _ => ?_
  refine complete_ite (fun _ => complete_noData _) fun _ => ?_
  iterate 2 refine complete_ite (hinteger _ _) fun _ => ?_
  refine complete_ite (fun _ => complete_getEcc a field) fun _ => ?_
  exact complete_ite (fun _ => complete_readGpuMetrics a field)
    fun _ => complete_statusOnly notSupported_ne_success

theorem complete_readAny (m : MetricFetcher) (a : SmiReadings) (key : RdcFieldKey) :
    Complete (m.readAny a key).1 := by
  unfold readAny
  split
  · unfold readPcie
    split
    · exact fun _ => ⟨rfl, rfl⟩
    · exact complete_statusOnly notSupported_ne_success
  · split
    · unfold readSmiCounter
      split
      · exact complete_statusOnly notSupported_ne_success
      · exact fun _ => ⟨rfl, rfl⟩
    · exact complete_readField a key.2

/-! ## Slots do not show -/

/-- Two values of one key that end the same way, and are the same if they are good. -/
structure SameReading (v v' : RdcGpuFieldValue) : Prop where
  key : v.key = v'.key
  status : v.fieldValue.status = v'.fieldValue.status
  good : v.fieldValue.status = 0 → v.fieldValue = v'.fieldValue

theorem applyTo_congr {w : FieldWrites} (hw : Complete w) (hok : w.status = AmdsmiStatus.success)
    {v v' : RdcFieldValue} (hid : v.fieldId = v'.fieldId) (hts : v.ts = v'.ts) :
    w.applyTo v = w.applyTo v' := by
  obtain ⟨htype, hvalue⟩ := hw hok
  obtain ⟨type, htype⟩ := Option.isSome_iff_exists.mp htype
  obtain ⟨data, hvalue⟩ := Option.isSome_iff_exists.mp hvalue
  unfold FieldWrites.applyTo
  rw [htype, hvalue, hid, hts]
  rfl

/-- What a fetch leaves of its slot can be seen only if it fails. -/
theorem fetchSmiField_sameReading (m : MetricFetcher) {a : SmiReadings} {key : RdcFieldKey}
    (h : ¬ ExitsEarly a key) (v v' : RdcFieldValue) :
    SameReading ⟨key.1, (m.fetchSmiField a key v).2.1⟩ ⟨key.1, (m.fetchSmiField a key v').2.1⟩
    ∧ (m.fetchSmiField a key v).2.2 = (m.fetchSmiField a key v').2.2 := by
  have hhandle : ¬ a.handle ≠ AmdsmiStatus.success := fun hne => h (Or.inl hne)
  have hvalid : ¬ isFieldValid key.2 = false := fun hne => h (Or.inr hne)
  unfold fetchSmiField
  simp only [if_neg hhandle, if_neg hvalid]
  refine ⟨⟨rfl, rfl, fun hok => ?_⟩, trivial⟩
  exact applyTo_congr (complete_readAny m a key) hok rfl rfl

/-- Zeros. -/
def blank : RdcFieldValue := ⟨0, 0, 0, .integer, .lInt 0⟩

/-- The readings of a list of fields, each into a value of its own. -/
def singleReads (readings : Nat → SmiReadings) :
    MetricFetcher → Nat → List RdcFieldKey → List RdcGpuFieldValue
  | _, _, [] => []
  | m, i, key :: keys =>
    ⟨key.1, (m.fetchSmiField (readings i) key blank).2.1⟩
      :: singleReads readings (m.fetchSmiField (readings i) key blank).2.2 (i + 1) keys

variable {keys fields : List RdcFieldKey} {k : RdcFieldKey} {values : List RdcGpuFieldValue}
  {v : RdcGpuFieldValue} {a : FetchAnswers}

section Loop

variable {readings : Nat → SmiReadings} {callback : Nat → Status}

/-- **The loop over slots and batches delivers the readings.** -/
theorem loop_singleReads (hok : ∀ n, callback n = .ok) {i : Nat}
    (hlabels : ∀ j key, keys[j]? = some key → ¬ ExitsEarly (readings (i + j)) key) (s : FetchLoop) :
    ∃ new, (FetchLoop.loop readings callback keys i s).2.delivered.flatten
        = s.delivered.flatten ++ s.deliveries ++ new
      ∧ List.Forall₂ SameReading (new.map Delivery.value)
          (singleReads readings s.metricFetcher i keys) := by
  induction keys generalizing i s with
  | nil =>
    refine ⟨[], ?_, .nil⟩
    unfold FetchLoop.loop
    split
    · next hnil => simp [FetchLoop.deliveries, hnil]
    · rw [flush_flatten, List.append_nil]
  | cons key keys ih =>
    have hkey : ¬ ExitsEarly (readings i) key := hlabels 0 key rfl
    have hnext : ∀ j key', keys[j]? = some key' → ¬ ExitsEarly (readings (i + 1 + j)) key' := by
      intro j key' hj
      rw [Nat.add_assoc, Nat.add_comm 1 j]
      exact hlabels (j + 1) key' hj
    -- one fetch into a free slot, and then the rest
    have hstep : ∀ t : FetchLoop, t.batch.length < bulkFieldsMax →
        t.metricFetcher = s.metricFetcher →
        ∃ new, (FetchLoop.loop readings callback keys (i + 1)
            (t.fetchOne (readings i) key)).2.delivered.flatten
          = t.delivered.flatten ++ t.deliveries ++ new
        ∧ List.Forall₂ SameReading (new.map Delivery.value)
            (singleReads readings s.metricFetcher i (key :: keys)) := by
      intro t hlt ht
      obtain ⟨new, hnew, hsame⟩ := ih hnext (t.fetchOne (readings i) key)
      obtain ⟨hread, hfetcher⟩ := fetchSmiField_sameReading t.metricFetcher hkey
        t.values[t.batch.length].fieldValue blank
      have hafter : (t.fetchOne (readings i) key).metricFetcher
          = (s.metricFetcher.fetchSmiField (readings i) key blank).2.2 := by
        rw [← ht, ← hfetcher]
        unfold FetchLoop.fetchOne
        rw [dif_pos hlt]
      rw [hafter] at hsame
      rw [fetchOne_delivered, fetchOne_deliveries _ _ _ hlt] at hnew
      refine ⟨fetchedInto t.metricFetcher (readings i) key
        t.values[t.batch.length].fieldValue :: new, ?_, ?_⟩
      · rw [hnew]
        simp only [List.append_assoc, List.singleton_append]
      · rw [List.map_cons]
        unfold singleReads
        rw [← ht] at hsame ⊢
        exact .cons hread hsame
    unfold FetchLoop.loop
    split
    · next hlt => exact hstep s hlt rfl
    · -- the array is full: the callback takes it, and the first slot is free again
      rw [if_neg (not_not.mpr (hok _))]
      obtain ⟨new, hnew, hsame⟩ := hstep s.flush (show 0 < bulkFieldsMax by decide) rfl
      refine ⟨new, ?_, hsame⟩
      have hnil : s.flush.deliveries = [] := rfl
      rw [hnew, hnil, List.append_nil, flush_flatten]

end Loop

/-! ## What one module gives to the callback -/

/-- The samples a list of values brings for a key. -/
def samplesIn (k : RdcFieldKey) (values : List RdcGpuFieldValue) : List RdcCacheEntry :=
  ((values.filter fun v => v.key = k).filter fun v => v.fieldValue.status = 0).map
    fun v => sampleOf v.fieldValue

theorem samplesIn_append (k : RdcFieldKey) (values values' : List RdcGpuFieldValue) :
    samplesIn k (values ++ values') = samplesIn k values ++ samplesIn k values' := by
  unfold samplesIn
  rw [List.filter_append, List.filter_append, List.map_append]

theorem samplesIn_singleton (k : RdcFieldKey) (v : RdcGpuFieldValue) :
    samplesIn k [v]
      = if v.key = k ∧ v.fieldValue.status = 0 then [sampleOf v.fieldValue] else [] := by
  unfold samplesIn
  by_cases hkey : v.key = k <;> by_cases hok : v.fieldValue.status = 0 <;> simp [hkey, hok]

theorem samplesIn_eq_nil (h : k ∉ values.map RdcGpuFieldValue.key) : samplesIn k values = [] := by
  have hnone : (values.filter fun v => v.key = k) = [] := by
    rw [List.filter_eq_nil_iff]
    intro v hv heq
    exact h (List.mem_map.mpr ⟨v, hv, of_decide_eq_true heq⟩)
  unfold samplesIn
  rw [hnone]
  rfl

theorem samplesIn_of_bad (h : ∀ v ∈ values, v.fieldValue.status ≠ 0) : samplesIn k values = [] := by
  have hnone :
      ((values.filter fun v => v.key = k).filter fun v => v.fieldValue.status = 0) = [] := by
    rw [List.filter_eq_nil_iff]
    intro v hv heq
    exact h v (List.mem_of_mem_filter hv) (of_decide_eq_true heq)
  unfold samplesIn
  rw [hnone]
  rfl

theorem samplesIn_flatMap_eq_nil {ι : Type} {parts : List ι} {reads : ι → List RdcGpuFieldValue}
    (h : ∀ p ∈ parts, samplesIn k (reads p) = []) : samplesIn k (parts.flatMap reads) = [] := by
  induction parts with
  | nil => rfl
  | cons p parts ih =>
    rw [List.flatMap_cons, samplesIn_append, h p (List.mem_cons_self ..),
      ih fun q hq => h q (List.mem_cons_of_mem _ hq)]
    rfl

theorem map_snd_handledAt (handled : Nat → Nat) (values : List RdcGpuFieldValue) :
    (Node.handledAt handled values).map Prod.snd = values := by
  unfold Node.handledAt
  rw [List.map_map]
  exact List.zipIdx_map_fst 0 values

theorem added_handledAt (k : RdcFieldKey) (handled : Nat → Nat) (values : List RdcGpuFieldValue) :
    added k (Node.handledAt handled values) = samplesIn k values := by
  have hadded : ∀ xs : List (Nat × RdcGpuFieldValue),
      added k xs = samplesIn k (xs.map Prod.snd) := by
    intro xs
    unfold added labelled samplesIn
    rw [List.filter_map, List.filter_map, List.map_map]
    rfl
  rw [hadded, map_snd_handledAt]

theorem samplesIn_congr {values values' : List RdcGpuFieldValue}
    (h : List.Forall₂ SameReading values values') : samplesIn k values = samplesIn k values' := by
  induction h with
  | nil => rfl
  | @cons v v' values values' hv _ ih =>
    have hone : samplesIn k [v] = samplesIn k [v'] := by
      rw [samplesIn_singleton, samplesIn_singleton, ← hv.key, ← hv.status]
      split
      · next hgood => rw [hv.good hgood.2]
      · rfl
    have hcons : ∀ (w : RdcGpuFieldValue) (ws : List RdcGpuFieldValue),
        samplesIn k (w :: ws) = samplesIn k [w] ++ samplesIn k ws :=
      fun w ws => samplesIn_append k [w] ws
    rw [hcons, hcons v', hone, ih]

theorem map_key_congr {values values' : List RdcGpuFieldValue}
    (h : List.Forall₂ SameReading values values') :
    values.map RdcGpuFieldValue.key = values'.map RdcGpuFieldValue.key := by
  induction h with
  | nil => rfl
  | cons hv _ ih => rw [List.map_cons, List.map_cons, hv.key, ih]

section Smi

variable (lib : SmiLib) (a : ValueGetAnswers)

/-- Every GPU can be resolved. -/
def Resolves : Prop := ∀ i, (a.readings i).handle = AmdsmiStatus.success

/-- The readings `RdcSmiLib` makes for a request, without slots and batches. -/
def smiReads (fields : List RdcFieldKey) : List RdcGpuFieldValue :=
  (lib.bulkFetch a fields).2
    ++ singleReads a.readings lib.metricFetcher 0
        (SmiLib.leftFields (lib.bulkFetch a fields).2 fields)

theorem map_key_singleReads {readings : Nat → SmiReadings} {i : Nat}
    (hlabels : ∀ j key, keys[j]? = some key → ¬ ExitsEarly (readings (i + j)) key)
    (m : MetricFetcher) : (singleReads readings m i keys).map RdcGpuFieldValue.key = keys := by
  induction keys generalizing i m with
  | nil => rfl
  | cons key keys ih =>
    have hkey : ¬ ExitsEarly (readings i) key := hlabels 0 key rfl
    have hlabel := (fetchSmiField_outcome m (readings i) key blank).2.1
    unfold singleReads
    rw [List.map_cons, ih]
    · have hfield : (m.fetchSmiField (readings i) key blank).2.1.fieldId = key.2 := by
        have hown : (outcomeOf m (readings i) key).label
            = some (key.2, (m.readAny (readings i) key).1.status) := if_neg hkey
        rw [hown, Option.getD_some] at hlabel
        exact congrArg Prod.fst hlabel
      exact congrArg (· :: keys) (Prod.ext rfl hfield)
    · intro j key' hj
      rw [Nat.add_assoc, Nat.add_comm 1 j]
      exact hlabels (j + 1) key' hj

variable {a}

/-- The fields of the module are known, so no fetch of them leaves early. -/
theorem not_exitsEarly_leftFields (hresolves : Resolves a)
    (hfields : ∀ k ∈ fields, k.2 ∈ smiFields) :
    ∀ j key, (SmiLib.leftFields (lib.bulkFetch a fields).2 fields)[j]? = some key →
      ¬ ExitsEarly (a.readings (0 + j)) key := by
  intro j key hj hearly
  have hvalid : ∀ field ∈ smiFields, isFieldValid field = true := by decide
  have hkey := hfields key (List.mem_of_mem_filter (List.mem_of_getElem? hj))
  rcases hearly with hhandle | hno
  · exact hhandle (hresolves _)
  · rw [hvalid key.2 hkey] at hno
    exact absurd hno (by decide)

/-- **`RdcSmiLib` answers each request once**, with what it has read for it. -/
theorem smi_fetch (hok : ∀ n, a.callback n = .ok) (hresolves : Resolves a)
    (hfields : ∀ k ∈ fields, k.2 ∈ smiFields) :
    let r := (lib.rdcTelemetryFieldsValueGet a fields).1
    List.Forall₂ SameReading (r.bulk ++ r.delivered.flatten.map Delivery.value)
        (smiReads lib a fields)
      ∧ ((smiReads lib a fields).map RdcGpuFieldValue.key).Perm fields := by
  intro r
  have hlabels := not_exitsEarly_leftFields lib hresolves hfields
  have hgo : ¬ ((lib.bulkFetch a fields).2 ≠ [] ∧ a.callback 0 ≠ .ok) := fun h => h.2 (hok 0)
  have hr : r = ⟨(FetchLoop.loop a.readings
        (fun n => a.callback ((if (lib.bulkFetch a fields).2 = [] then 0 else 1) + n))
        (SmiLib.leftFields (lib.bulkFetch a fields).2 fields) 0
        ⟨lib.metricFetcher, a.values, [], []⟩).1, (lib.bulkFetch a fields).2,
      (FetchLoop.loop a.readings
        (fun n => a.callback ((if (lib.bulkFetch a fields).2 = [] then 0 else 1) + n))
        (SmiLib.leftFields (lib.bulkFetch a fields).2 fields) 0
        ⟨lib.metricFetcher, a.values, [], []⟩).2.delivered⟩ := by
    show (lib.rdcTelemetryFieldsValueGet a fields).1 = _
    unfold SmiLib.rdcTelemetryFieldsValueGet
    simp only [if_neg hgo]
  obtain ⟨new, hnew, hsame⟩ := loop_singleReads (fun n => hok _) hlabels
    ⟨lib.metricFetcher, a.values, [], []⟩
  constructor
  · rw [hr]
    dsimp only
    rw [hnew]
    refine List.rel_append ?_ hsame
    exact List.forall₂_same.mpr fun v _ => ⟨rfl, rfl, fun _ => rfl⟩
  · unfold smiReads
    rw [List.map_append, map_key_singleReads hlabels]
    exact bulk_and_left_perm lib a fields

theorem ts_singleReads {readings : Nat → SmiReadings} {i : Nat}
    (hlabels : ∀ j key, keys[j]? = some key → ¬ ExitsEarly (readings (i + j)) key)
    {m : MetricFetcher} (hv : v ∈ singleReads readings m i keys) :
    ∃ j, v.fieldValue.ts = (readings j).now := by
  induction keys generalizing i m with
  | nil => exact absurd hv List.not_mem_nil
  | cons key keys ih =>
    unfold singleReads at hv
    rcases List.mem_cons.mp hv with rfl | hrest
    · have hkey : ¬ ExitsEarly (readings i) key := hlabels 0 key rfl
      refine ⟨i, ?_⟩
      dsimp only
      unfold fetchSmiField
      rw [if_neg fun hne => hkey (Or.inl hne), if_neg fun hne => hkey (Or.inr hne)]
      rfl
    · refine ih (fun j key' hj => ?_) hrest
      rw [Nat.add_assoc, Nat.add_comm 1 j]
      exact hlabels (j + 1) key' hj

theorem ts_smiReads (hresolves : Resolves a) (hfields : ∀ k ∈ fields, k.2 ∈ smiFields)
    (hv : v ∈ smiReads lib a fields) :
    v.fieldValue.ts = a.bulkNow ∨ ∃ j, v.fieldValue.ts = (a.readings j).now := by
  rcases List.mem_append.mp hv with hbulk | hsingle
  · exact Or.inl (mem_bulkFetch hbulk).2.1
  · exact Or.inr (ts_singleReads (not_exitsEarly_leftFields lib hresolves hfields) hsingle)

end Smi

section Profiler

variable (toBits : Option ℚ → Nat) (a : RocpValueGetAnswers)

/-- The readings of the profiler for a request, without batches. -/
def rocpReads (rocp : Option RocpModule) (fields : List RdcFieldKey) : List RdcGpuFieldValue :=
  (rocp.bind fun m => Batch.makeAll (RocpTelemetry.fetchOne toBits a) fields.zipIdx m).elim []
    Prod.fst

variable {toBits a}

theorem map_key_makeAll {fields : List (RdcFieldKey × Nat)} {m : RocpModule}
    {r : List RdcGpuFieldValue × RocpModule}
    (h : Batch.makeAll (RocpTelemetry.fetchOne toBits a) fields m = some r) :
    r.1.map RdcGpuFieldValue.key = fields.map Prod.fst := by
  induction fields generalizing m r with
  | nil =>
    obtain rfl := Option.some.inj h
    rfl
  | cons field fields ih =>
    obtain ⟨r₁, hone, hmap⟩ := Option.bind_eq_some_iff.mp h
    obtain ⟨r₂, hrest, rfl⟩ := Option.map_eq_some_iff.mp hmap
    obtain ⟨r₃, -, rfl⟩ := Option.map_eq_some_iff.mp hone
    rw [List.map_cons, List.map_cons, ih hrest]
    rfl

/-- The profiler reads the clock once for all its values. -/
theorem ts_makeAll {fields : List (RdcFieldKey × Nat)} {m : RocpModule}
    {r : List RdcGpuFieldValue × RocpModule}
    (h : Batch.makeAll (RocpTelemetry.fetchOne toBits a) fields m = some r) (hv : v ∈ r.1) :
    v.fieldValue.ts = a.curTime := by
  induction fields generalizing m r with
  | nil =>
    obtain rfl := Option.some.inj h
    exact absurd hv List.not_mem_nil
  | cons field fields ih =>
    obtain ⟨r₁, hone, hmap⟩ := Option.bind_eq_some_iff.mp h
    obtain ⟨r₂, hrest, rfl⟩ := Option.map_eq_some_iff.mp hmap
    obtain ⟨r₃, -, rfl⟩ := Option.map_eq_some_iff.mp hone
    rcases List.mem_cons.mp hv with rfl | hv
    · rfl
    · exact ih hrest hv

theorem ts_rocpReads {rocp : Option RocpModule} (hv : v ∈ rocpReads toBits a rocp fields) :
    v.fieldValue.ts = a.curTime := by
  unfold rocpReads at hv
  cases hmade : rocp.bind (Batch.makeAll (RocpTelemetry.fetchOne toBits a) fields.zipIdx) with
  | none =>
    rw [hmade] at hv
    exact absurd hv List.not_mem_nil
  | some r =>
    rw [hmade] at hv
    obtain ⟨m, -, hm⟩ := Option.bind_eq_some_iff.mp hmade
    exact ts_makeAll hm hv

variable (toBits)

/-- **The profiler answers each request once**, with what it has read for it. -/
theorem rocp_fetch {m : RocpModule} (hempty : AllEmpty m.base) (ops : List AverageOp)
    (hok : ∀ n, a.callback n = .ok) (hin : ∀ k ∈ fields, InTables m k)
    (hreads : ∀ i, (a.runs i).rawValue ≠ none) :
    ∃ status batches ops', RocpTelemetry.rdcTelemetryFieldsValueGet toBits a
        (some (withTable m ops)) fields = some (status, batches, some (withTable m ops'))
      ∧ batches.flatten = rocpReads toBits a (some (withTable m ops)) fields
      ∧ (rocpReads toBits a (some (withTable m ops)) fields).map RdcGpuFieldValue.key = fields := by
  obtain ⟨r, left, hr, hsplit, hends⟩ := loop_ends toBits hempty ops a hin hreads
  -- nothing is refused, so everything is looked up
  have hall : fields.zipIdx.take (lookedUp a fields) = fields.zipIdx := by
    have hlooked : lookedUp a fields = fields.length := by
      rw [← lookedUp_of_accepted a.curTime a.runs fields]
      unfold lookedUp
      rw [show a.callback = fun _ => Status.ok from funext hok]
    rw [hlooked, List.take_of_length_le (List.length_zipIdx ..).le]
  rw [hall] at hends
  obtain ⟨hstate, -⟩ := ends_values hempty hin hreads (hall ▸ hends)
  have hmade : rocpReads toBits a (some (withTable m ops)) fields = r.2.handed.flatten := by
    unfold rocpReads
    rw [Option.bind_some, hends.made]
    rfl
  refine ⟨r.1.getD .unknownError, r.2.handed, ops ++ (RocpCall.valueGet a fields).tableOps, ?_,
    hmade.symm, ?_⟩
  · unfold RocpTelemetry.rdcTelemetryFieldsValueGet
    dsimp only
    rw [hr, Option.map_some, hstate]
  · rw [hmade]
    refine (map_key_makeAll hends.made).trans ?_
    exact List.zipIdx_map_fst 0 fields

end Profiler

/-! ## A fetch of the whole -/

/-- The profiler module, if it was loaded, as the hardware's answers made it. -/
def Fresh (rocp : Option RocpModule) : Prop :=
  ∀ m, rocp = some m → AllEmpty m.base ∧ Offered m.base

/-- The profiler offers the field. -/
def offers (rocp : Option RocpModule) (field : Nat) : Bool :=
  rocp.any fun m => decide (field ∈ m.base.fieldToMetric)

/-- What stays the same while the node runs: the routes, and the tables of the profiler apart from
what is in its buffers. -/
structure Wired (rocp : Option RocpModule) (n : Node) : Prop where
  routed : FirstClaims (ProfilerSide.query rocp) daemonModules n.dispatcher.fieldsIdModule
  table : ∃ ops, n.rocp = rocp.map fun m => withTable m ops

section Whole

variable {rocp : Option RocpModule} {n : Node}

theorem firstClaim_cases (hfresh : Fresh rocp) (field : Nat) :
    (firstClaim (ProfilerSide.query rocp) daemonModules field = some .smi ↔ field ∈ smiFields)
    ∧ (firstClaim (ProfilerSide.query rocp) daemonModules field = some .rocp
        ↔ offers rocp field = true) := by
  have hsmi : claimed (ProfilerSide.query rocp) .smi = smiFields := rfl
  cases hrocp : rocp with
  | none =>
    have hnone : claimed (ProfilerSide.query none) .rocp = [] := rfl
    unfold firstClaim daemonModules
    rw [hrocp] at hsmi
    rw [List.find?_cons, List.find?_cons, List.find?_nil, hsmi, hnone]
    by_cases hs : field ∈ smiFields <;> simp [hs, offers]
  | some m =>
    obtain ⟨-, hoffered⟩ := hfresh m hrocp
    refine ⟨?_, ?_⟩
    · refine ⟨fun h => ?_, fun h => ?_⟩
      · unfold firstClaim at h
        have hclaims := List.find?_some h
        rw [hrocp] at hsmi
        rw [hsmi] at hclaims
        exact List.contains_iff_mem.mp hclaims
      · unfold firstClaim daemonModules
        rw [hrocp] at hsmi
        rw [List.find?_cons_of_pos]
        rw [hsmi]
        exact List.contains_iff_mem.mpr h
    · rw [firstClaim_rocp hoffered]
      simp [offers]

/-- The part of `RdcSmiLib`. -/
def smiPart (fields : List RdcFieldKey) : List RdcFieldKey := fields.filter fun k => k.2 ∈ smiFields

/-- The part of the profiler. -/
def rocpPart (rocp : Option RocpModule) (fields : List RdcFieldKey) : List RdcFieldKey :=
  fields.filter fun k => offers rocp k.2

/-- What is handed to a module. -/
def partOf (rocp : Option RocpModule) (fields : List RdcFieldKey) : TelemetryLib → List RdcFieldKey
  | .smi => smiPart fields
  | .rocp => rocpPart rocp fields

theorem partOf_eq (hfresh : Fresh rocp) (fields : List RdcFieldKey) (lib : TelemetryLib) :
    partOf rocp fields lib = fields.filter fun key =>
      firstClaim (ProfilerSide.query rocp) daemonModules key.2 = some lib := by
  cases lib with
  | smi =>
    unfold partOf smiPart
    simp only [(firstClaim_cases hfresh _).1]
  | rocp =>
    unfold partOf rocpPart
    simp only [(firstClaim_cases hfresh _).2, Bool.decide_eq_true]

theorem mem_partOf_unique (hfresh : Fresh rocp) {lib lib' : TelemetryLib}
    (h : k ∈ partOf rocp fields lib) (h' : k ∈ partOf rocp fields lib') : lib = lib' := by
  rw [partOf_eq hfresh] at h h'
  have hlib := of_decide_eq_true (List.mem_filter.mp h).2
  have hlib' := of_decide_eq_true (List.mem_filter.mp h').2
  exact Option.some.inj (hlib.symm.trans hlib')

/-- The readings of an update, each made by itself. -/
def plainReads (rocp : Option RocpModule) (n : Node) (a : FetchAnswers)
    (fields : List RdcFieldKey) : List RdcGpuFieldValue :=
  smiReads n.smiLib (Node.smiAnswers a) (smiPart fields)
    ++ rocpReads a.toBits (Node.rocpAnswers a) n.rocp (rocpPart rocp fields)

/-- A fetch fits: into the array of the dispatcher, and its profiler fields into the tables. And
every GPU can be resolved, and every run of a counter reads a number. -/
structure FetchFits (rocp : Option RocpModule) (a : FetchAnswers) (fields : List RdcFieldKey) :
    Prop where
  length : fields.length ≤ maxNumFields
  gpus : ∀ m, rocp = some m → ∀ k ∈ fields, k.2 ∈ m.base.fieldToMetric → k.1 < m.agentCount
  resolves : Resolves (Node.smiAnswers a)
  reads : ∀ i, ((Node.rocpAnswers a).runs i).rawValue ≠ none

/-- The readings of one part. -/
def partReads (n : Node) (a : FetchAnswers) (part : TelemetryLib × List RdcFieldKey) :
    List RdcGpuFieldValue :=
  match part.1 with
  | .smi => smiReads n.smiLib (Node.smiAnswers a) part.2
  | .rocp => rocpReads a.toBits (Node.rocpAnswers a) n.rocp part.2

/-- A part that a module can carry out. -/
def PartFits (rocp : Option RocpModule) (part : TelemetryLib × List RdcFieldKey) : Prop :=
  match part.1 with
  | .smi => ∀ k ∈ part.2, k.2 ∈ smiFields
  | .rocp => ∃ m, rocp = some m ∧ ∀ k ∈ part.2, InTables m k

theorem fetchPart_spec (hfresh : Fresh rocp) (hresolves : Resolves (Node.smiAnswers a))
    (hreads : ∀ i, ((Node.rocpAnswers a).runs i).rawValue ≠ none)
    {part : TelemetryLib × List RdcFieldKey} (hfits : PartFits rocp part) {s : Node.Fetching}
    {ops : List AverageOp} (hrocp : s.rocp = rocp.map fun m => withTable m ops)
    (hsmi : part.1 = .smi → s.smiLib = n.smiLib) (hown : part.1 = .rocp → s.rocp = n.rocp) :
    ∃ vals smiLib ops', Node.fetchPart a s part
        = some ⟨s.values ++ vals, smiLib, rocp.map fun m => withTable m ops'⟩
      ∧ (part.1 = .rocp → smiLib = s.smiLib) ∧ (part.1 = .smi → ops' = ops)
      ∧ List.Forall₂ SameReading vals (partReads n a part)
      ∧ ((partReads n a part).map RdcGpuFieldValue.key).Perm part.2 := by
  obtain ⟨lib, keys⟩ := part
  -- either module is asked in the state it had when the request came in
  cases lib with
  | smi =>
    have hfields : ∀ k ∈ keys, k.2 ∈ smiFields := hfits
    obtain ⟨hsame, hperm⟩ := smi_fetch n.smiLib (fun _ => rfl) hresolves hfields
    refine ⟨_, (n.smiLib.rdcTelemetryFieldsValueGet (Node.smiAnswers a) keys).2, ops, ?_,
      fun h => ?_, fun _ => rfl, hsame, hperm⟩
    · unfold Node.fetchPart
      dsimp only
      rw [hsmi rfl, hrocp]
    · cases h
  | rocp =>
    obtain ⟨m, hm, hin⟩ := hfits
    obtain ⟨hempty, -⟩ := hfresh m hm
    obtain ⟨status, batches, ops', hget, hflat, hkeys⟩ := rocp_fetch a.toBits
      (a := Node.rocpAnswers a) hempty ops (fun _ => rfl) hin hreads
    have hstate : s.rocp = some (withTable m ops) := by
      rw [hrocp, hm]
      rfl
    refine ⟨batches.flatten, s.smiLib, ops', ?_, fun _ => rfl, fun h => ?_, ?_, ?_⟩
    · unfold Node.fetchPart
      dsimp only
      rw [hstate, hget, Option.map_some, hm]
      rfl
    · cases h
    · unfold partReads
      dsimp only
      rw [← hown rfl, hstate, hflat]
      exact List.forall₂_same.mpr fun v _ => ⟨rfl, rfl, fun _ => rfl⟩
    · unfold partReads
      dsimp only
      rw [← hown rfl, hstate, hkeys]

/-- **Run.** Each module is asked once, so it is asked in the state it was in before. -/
theorem foldlM_fetchPart (hfresh : Fresh rocp) (hresolves : Resolves (Node.smiAnswers a))
    (hreads : ∀ i, ((Node.rocpAnswers a).runs i).rawValue ≠ none)
    {parts : List (TelemetryLib × List RdcFieldKey)} (honce : (parts.map Prod.fst).Nodup)
    (hfits : ∀ part ∈ parts, PartFits rocp part) {s : Node.Fetching} {ops : List AverageOp}
    (hrocp : s.rocp = rocp.map fun m => withTable m ops)
    (hsmi : .smi ∈ parts.map Prod.fst → s.smiLib = n.smiLib)
    (hown : .rocp ∈ parts.map Prod.fst → s.rocp = n.rocp) :
    ∃ vals smiLib ops', parts.foldlM (Node.fetchPart a) s
        = some ⟨s.values ++ vals, smiLib, rocp.map fun m => withTable m ops'⟩
      ∧ List.Forall₂ SameReading vals (parts.flatMap (partReads n a))
      ∧ ((parts.flatMap (partReads n a)).map RdcGpuFieldValue.key).Perm
          (parts.flatMap Prod.snd) := by
  induction parts generalizing s ops with
  | nil =>
    refine ⟨[], s.smiLib, ops, ?_, .nil, .nil⟩
    rw [List.append_nil, ← hrocp]
    rfl
  | cons part parts ih =>
    obtain ⟨hnew, honce'⟩ := List.nodup_cons.mp honce
    obtain ⟨vals, smiLib, ops', hpart, hlib, hops, hsame, hperm⟩ := fetchPart_spec hfresh
      hresolves hreads (hfits part (List.mem_cons_self ..)) hrocp
      (fun h => hsmi (h ▸ List.mem_cons_self ..)) (fun h => hown (h ▸ List.mem_cons_self ..))
    -- a module that comes later is not the one that was asked just now
    have hother : ∀ lib, lib ∈ parts.map Prod.fst → part.1 ≠ lib :=
      fun lib hmem heq => hnew (heq ▸ hmem)
    obtain ⟨vals', smiLib', ops'', hrest, hsame', hperm'⟩ := ih honce'
      (fun p hp => hfits p (List.mem_cons_of_mem _ hp))
      (s := ⟨s.values ++ vals, smiLib, rocp.map fun m => withTable m ops'⟩) rfl
      (fun hmem => by
        have hrocpPart : part.1 = .rocp := by
          cases hlib' : part.1 with
          | smi => exact absurd hlib' (hother .smi hmem)
          | rocp => rfl
        exact (hlib hrocpPart).trans (hsmi (List.mem_cons_of_mem _ hmem)))
      (fun hmem => by
        have hsmiPart : part.1 = .smi := by
          cases hlib' : part.1 with
          | smi => rfl
          | rocp => exact absurd hlib' (hother .rocp hmem)
        rw [hops hsmiPart, ← hrocp]
        exact hown (List.mem_cons_of_mem _ hmem))
    refine ⟨vals ++ vals', smiLib', ops'', ?_, ?_, ?_⟩
    · rw [List.foldlM_cons, hpart, ← List.append_assoc]
      exact hrest
    · rw [List.flatMap_cons]
      exact List.rel_append hsame hsame'
    · rw [List.flatMap_cons, List.flatMap_cons, List.map_append]
      exact hperm.append hperm'

section Parts

variable {a : FetchAnswers} {fields : List RdcFieldKey}

theorem partFits_partOf (hfits : FetchFits rocp a fields) {lib : TelemetryLib}
    (hne : partOf rocp fields lib ≠ []) : PartFits rocp (lib, partOf rocp fields lib) := by
  cases lib with
  | smi => exact fun k hk => of_decide_eq_true (List.mem_filter.mp hk).2
  | rocp =>
    cases hloaded : rocp with
    | none =>
      rw [hloaded] at hne
      exact absurd (by simp [partOf, rocpPart, offers]) hne
    | some m =>
      refine ⟨m, rfl, fun k hpart => ?_⟩
      obtain ⟨hk, hoffers⟩ := List.mem_filter.mp hpart
      have hfield : k.2 ∈ m.base.fieldToMetric := by simpa [offers] using hoffers
      exact ⟨hfits.gpus m hloaded k hk hfield, hfield⟩

variable (hfresh : Fresh rocp)
include hfresh

theorem map_key_partReads (hwired : Wired rocp n) (hfits : FetchFits rocp a fields)
    (lib : TelemetryLib) :
    ((partReads n a (lib, partOf rocp fields lib)).map RdcGpuFieldValue.key).Perm
      (partOf rocp fields lib) := by
  obtain ⟨ops, hrocp⟩ := hwired.table
  by_cases hne : partOf rocp fields lib = []
  · rw [hne]
    cases lib with
    | smi => exact (smi_fetch n.smiLib (fun _ => rfl) hfits.resolves (List.forall_mem_nil _)).2
    | rocp =>
      unfold partReads rocpReads
      cases n.rocp <;> exact .nil
  · obtain ⟨-, -, -, -, -, -, -, hperm⟩ := fetchPart_spec (s := ⟨[], n.smiLib, n.rocp⟩) hfresh
      hfits.resolves hfits.reads (partFits_partOf hfits hne) hrocp (fun _ => rfl) (fun _ => rfl)
    exact hperm

theorem mem_toModules {handed : Handed TelemetryLib}
    (h : Partitioned (ProfilerSide.query rocp) daemonModules fields handed) (lib : TelemetryLib)
    (keys : List RdcFieldKey) :
    (lib, keys) ∈ handed.toModules ↔ keys ≠ [] ∧ keys = partOf rocp fields lib := by
  rw [h.toModules, partOf_eq hfresh]

/-- **The order of the modules does not show.** A field is in one part at most, so what the parts
bring for it is what comes first from `RdcSmiLib` and then from the profiler. -/
theorem samplesIn_toModules {handed : Handed TelemetryLib}
    (h : Partitioned (ProfilerSide.query rocp) daemonModules fields handed)
    (hkeys : ∀ lib, ((partReads n a (lib, partOf rocp fields lib)).map RdcGpuFieldValue.key).Perm
      (partOf rocp fields lib)) (k : RdcFieldKey) :
    samplesIn k (handed.toModules.flatMap (partReads n a))
      = samplesIn k (plainReads rocp n a fields) := by
  have hnil : ∀ lib, k ∉ partOf rocp fields lib →
      samplesIn k (partReads n a (lib, partOf rocp fields lib)) = [] :=
    fun lib hk => samplesIn_eq_nil fun hmem => hk ((hkeys lib).subset hmem)
  have hplain : samplesIn k (plainReads rocp n a fields)
      = samplesIn k (partReads n a (.smi, partOf rocp fields .smi))
        ++ samplesIn k (partReads n a (.rocp, partOf rocp fields .rocp)) := samplesIn_append k _ _
  by_cases hex : ∃ lib, k ∈ partOf rocp fields lib
  · obtain ⟨lib, hk⟩ := hex
    have hothers : ∀ lib', lib' ≠ lib → k ∉ partOf rocp fields lib' :=
      fun lib' hne hk' => hne (mem_partOf_unique hfresh hk' hk)
    have hmem := (mem_toModules hfresh h lib _).mpr ⟨List.ne_nil_of_mem hk, rfl⟩
    -- the part with the key, and the parts before and after it, which bring nothing for the key
    obtain ⟨before, after, hsplit⟩ := List.append_of_mem hmem
    have honce := h.once
    rw [hsplit, List.map_append, List.map_cons, List.nodup_middle, List.nodup_cons,
      ← List.map_append] at honce
    have hrest : ∀ part ∈ before ++ after, samplesIn k (partReads n a part) = [] := by
      rintro ⟨lib', keys⟩ hpart
      have hne : lib' ≠ lib := fun heq => honce.1 (List.mem_map.mpr ⟨_, hpart, heq⟩)
      have hto : (lib', keys) ∈ handed.toModules := by
        rw [hsplit]
        exact (List.mem_append.mp hpart).elim (List.mem_append_left _)
          fun hafter => List.mem_append_right _ (List.mem_cons_of_mem _ hafter)
      obtain ⟨-, rfl⟩ := (mem_toModules hfresh h lib' keys).mp hto
      exact hnil lib' (hothers lib' hne)
    rw [hsplit, List.flatMap_append, List.flatMap_cons, samplesIn_append, samplesIn_append,
      samplesIn_flatMap_eq_nil fun p hp => hrest p (List.mem_append_left _ hp),
      samplesIn_flatMap_eq_nil fun p hp => hrest p (List.mem_append_right _ hp), List.nil_append,
      List.append_nil, hplain]
    cases lib with
    | smi => rw [hnil .rocp (hothers .rocp (by decide)), List.append_nil]
    | rocp => rw [hnil .smi (hothers .smi (by decide)), List.nil_append]
  · have hall : ∀ lib, k ∉ partOf rocp fields lib := fun lib hk => hex ⟨lib, hk⟩
    rw [hplain, hnil .smi (hall .smi), hnil .rocp (hall .rocp)]
    refine samplesIn_flatMap_eq_nil fun part hpart => ?_
    obtain ⟨lib, keys⟩ := part
    obtain ⟨-, rfl⟩ := (mem_toModules hfresh h lib keys).mp hpart
    exact hnil lib (hall lib)

/-- **What a fetch brings.** Every field is answered once, whoever answers it, and with what a
reading by itself gives. -/
theorem fetch_spec (hwired : Wired rocp n) (hfits : FetchFits rocp a fields) :
    ∃ values n', n.rdcTelemetryFieldsValueGet a fields = some (values, n')
      ∧ Wired rocp n' ∧ (values.map RdcGpuFieldValue.key).Perm fields
      ∧ ∀ k, samplesIn k values = samplesIn k (plainReads rocp n a fields) := by
  obtain ⟨ops, hrocp⟩ := hwired.table
  obtain ⟨handed, hhanded, hpart⟩ := (dispatch_partitioned_iff hwired.routed
    (.fieldsValueGet fields a.uninit)).mpr fun ptr => (List.length_filter_le ..).trans hfits.length
  have hto : ∀ part ∈ handed.toModules,
      part.2 ≠ [] ∧ part = (part.1, partOf rocp fields part.1) := fun part hmem => by
    obtain ⟨hne, heq⟩ := (mem_toModules hfresh hpart part.1 part.2).mp hmem
    exact ⟨hne, Prod.ext rfl heq⟩
  obtain ⟨vals, smiLib, ops', hfold, hsame, hperm⟩ := foldlM_fetchPart (n := n) hfresh
    hfits.resolves hfits.reads hpart.once
    (fun part hmem => by
      obtain ⟨hne, heq⟩ := hto part hmem
      rw [heq] at hne ⊢
      exact partFits_partOf hfits hne)
    (s := ⟨[], n.smiLib, n.rocp⟩) hrocp (fun _ => rfl) (fun _ => rfl)
  refine ⟨vals ++ handed.unsupportFields,
    { n with
      dispatcher := (n.dispatcher.dispatch (.fieldsValueGet fields a.uninit)).2
      smiLib := smiLib
      rocp := rocp.map fun m => withTable m ops' }, ?_,
    ⟨firstClaims_dispatch hwired.routed _, ops', rfl⟩, ?_, fun k => ?_⟩
  · unfold Node.rdcTelemetryFieldsValueGet
    dsimp only
    rw [hhanded, Option.bind_some, hfold]
    rfl
  · have hvals : (vals.map RdcGpuFieldValue.key).Perm (handed.toModules.flatMap Prod.snd) := by
      rw [map_key_congr hsame]
      exact hperm
    rw [List.map_append]
    exact (hvals.append_right _).trans hpart.whole
  · -- the unsupported fields are answered with an error, which is not cached
    have hbad : ∀ v ∈ handed.unsupportFields, v.fieldValue.status ≠ 0 := fun v hv => by
      rw [hpart.status v hv]
      decide
    rw [samplesIn_append, samplesIn_of_bad hbad, List.append_nil, samplesIn_congr hsame]
    exact samplesIn_toModules hfresh hpart (map_key_partReads hfresh hwired hfits) k

end Parts

/-! ## Stamps -/

/-- The clock readings the modules make during a fetch. -/
def stamps (a : FetchAnswers) : Set Nat :=
  {t | t = a.smi.bulkNow ∨ (∃ i, t = (a.smi.readings i).now) ∨ t = a.rocp.curTime}

theorem ts_plainReads (hresolves : Resolves (Node.smiAnswers a))
    (hv : v ∈ plainReads rocp n a fields) : v.fieldValue.ts ∈ stamps a := by
  rcases List.mem_append.mp hv with hsmi | hrocp
  · have hfields : ∀ k ∈ smiPart fields, k.2 ∈ smiFields :=
      fun k hk => of_decide_eq_true (List.mem_filter.mp hk).2
    rcases ts_smiReads n.smiLib hresolves hfields hsmi with hbulk | hsingle
    · exact Or.inl hbulk
    · exact Or.inr (Or.inl hsingle)
  · exact Or.inr (Or.inr (ts_rocpReads hrocp))

/-- **A good value is stamped during its fetch.** It is in the cache as one of the readings, and
each of those has the time of its module. -/
theorem ts_mem_stamps (hresolves : Resolves (Node.smiAnswers a))
    (hsame : ∀ k, samplesIn k values = samplesIn k (plainReads rocp n a fields)) (hv : v ∈ values)
    (hgood : v.fieldValue.status = 0) : v.fieldValue.ts ∈ stamps a := by
  have hmem : sampleOf v.fieldValue ∈ samplesIn v.key values :=
    List.mem_map.mpr ⟨v, List.mem_filter.mpr ⟨List.mem_filter.mpr ⟨hv, decide_eq_true rfl⟩,
      decide_eq_true hgood⟩, rfl⟩
  rw [hsame] at hmem
  obtain ⟨w, hw, heq⟩ := List.mem_map.mp hmem
  have hts : w.fieldValue.ts = v.fieldValue.ts := congrArg RdcCacheEntry.lastTime heq
  rw [← hts]
  exact ts_plainReads hresolves (List.mem_of_mem_filter (List.mem_of_mem_filter hw))

end Whole

end Rdc.Proof.Closed
