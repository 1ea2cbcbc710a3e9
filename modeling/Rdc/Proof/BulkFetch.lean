import Rdc.Proof.Fetch

/-!
# Bulk and single fetches

A call of `rdc_telemetry_fields_value_get` is answered from two sides. What the bulk fetch has not
answered is found by a search among its results, and fetched one by one. The search cannot tell
repeated requests apart and does not have to: the bulk fetch answers all of them or none. So the
requests that are left are those that do not pass the filter of the bulk fetch, and the two parts
make up the list.
-/

namespace Rdc.Proof

open MetricFetcher

/-! ## What is left -/

theorem leftFields_eq {bulk : List RdcGpuFieldValue} {fields : List RdcFieldKey}
    {p : RdcFieldKey → Bool} (h : (bulk.map RdcGpuFieldValue.key).Perm (fields.filter p)) :
    SmiLib.leftFields bulk fields = fields.filter fun key => !p key := by
  refine List.filter_congr fun key hkey => ?_
  have hiff : (bulk.any fun v => v.gpuIndex = key.1 ∧ v.fieldValue.fieldId = key.2) = true
      ↔ p key = true := by
    rw [List.any_eq_true]
    refine ⟨?_, ?_⟩
    · rintro ⟨v, hv, heq⟩
      obtain ⟨hgpu, hfield⟩ := of_decide_eq_true heq
      have hmem : key ∈ bulk.map RdcGpuFieldValue.key :=
        List.mem_map.mpr ⟨v, hv, Prod.ext hgpu hfield⟩
      exact (List.mem_filter.mp (h.mem_iff.mp hmem)).2
    · intro hp
      obtain ⟨v, hv, rfl⟩ := List.mem_map.mp (h.mem_iff.mpr (List.mem_filter.mpr ⟨hkey, hp⟩))
      exact ⟨v, hv, decide_eq_true ⟨rfl, rfl⟩⟩
  rw [Bool.eq_iff_iff.mpr hiff]

theorem bulk_and_left_perm (lib : SmiLib) (a : ValueGetAnswers) (fields : List RdcFieldKey) :
    ((lib.bulkFetch a fields).2.map RdcGpuFieldValue.key
      ++ SmiLib.leftFields (lib.bulkFetch a fields).2 fields).Perm fields := by
  obtain ⟨p, hp⟩ := bulkFetch_perm lib a fields
  rw [leftFields_eq hp]
  exact (hp.append_right _).trans (List.filter_append_perm p fields)

/-! ## Single fetches -/

theorem length_deliveries_le (s : FetchLoop) : s.deliveries.length ≤ bulkFieldsMax := by
  unfold FetchLoop.deliveries
  rw [List.length_map, List.length_zip, Vector.length_toList]
  exact Nat.min_le_right ..

theorem loop_batches (readings : Nat → SmiReadings) (callback : Nat → Status)
    (keys : List RdcFieldKey) (i : Nat) (s : FetchLoop)
    (h : ∀ batch ∈ s.delivered, batch.length ≤ bulkFieldsMax) :
    ∀ batch ∈ (FetchLoop.loop readings callback keys i s).2.delivered,
      batch.length ≤ bulkFieldsMax := by
  refine loop_invariant (I := fun s => ∀ batch ∈ s.delivered, batch.length ≤ bulkFieldsMax)
    readings callback keys i (fun j key _ s _ hs => ?_) (fun s hs => ?_) h
  · rw [fetchOne_delivered]
    exact hs
  · intro batch hbatch
    rcases List.mem_append.mp hbatch with hold | hnew
    · exact hs batch hold
    · rw [List.mem_singleton.mp hnew]
      exact length_deliveries_le s

theorem map_key_outcomes (readings : Nat → SmiReadings) (m : MetricFetcher) (i : Nat)
    (keys : List RdcFieldKey) : (outcomes readings m i keys).map Outcome.key = keys := by
  induction keys generalizing m i with
  | nil => rfl
  | cons key keys ih => rw [outcomes, List.map_cons, ih]; rfl

theorem label_outcomes {readings : Nat → SmiReadings} {m : MetricFetcher} {j : Nat}
    {keys : List RdcFieldKey} {o : Outcome} (ho : (outcomes readings m 0 keys)[j]? = some o)
    (hlabels : ∀ key, keys[j]? = some key → ¬ ExitsEarly (readings j) key) : o.label ≠ none := by
  rw [getElem?_outcomes, Nat.zero_add] at ho
  obtain ⟨key, hkey, rfl⟩ := Option.map_eq_some_iff.mp ho
  simp [outcomeOf, hlabels key hkey]

section Loop

variable (readings : Nat → SmiReadings) (callback : Nat → Status) (m : MetricFetcher)
  (values : Vector RdcGpuFieldValue bulkFieldsMax) (left : List RdcFieldKey)

/-- A value is delivered for each request in its turn, if the callback takes everything. -/
theorem loop_requests (hok : ∀ n, callback n = .ok) :
    (FetchLoop.loop readings callback left 0 ⟨m, values, [], []⟩).2.delivered.flatten.map
      Delivery.request = left := by
  obtain ⟨hdel, hgot⟩ := loop_deliversReached readings callback m values left
  generalize (FetchLoop.loop readings callback left 0 ⟨m, values, [], []⟩).2.delivered.flatten
    = delivered at hdel hgot ⊢
  have hlen : delivered.length = left.length := by
    rw [← length_outcomes readings m 0 left]
    refine Nat.le_antisymm (Nat.le_of_not_lt fun h => ?_) (Nat.le_of_not_lt fun h => ?_)
    · exact Nat.lt_irrefl _ ((hgot _).mp h).1
    · exact Nat.lt_irrefl _ ((hgot _).mpr ⟨h, fun k _ _ => hok k⟩)
  refine List.ext_getElem? fun j => ?_
  rw [List.getElem?_map]
  cases hd : delivered[j]? with
  | none =>
    rw [List.getElem?_eq_none_iff, hlen, ← List.getElem?_eq_none_iff] at hd
    rw [hd]
    rfl
  | some d =>
    obtain ⟨o, ho, hrequest, -⟩ := hdel j d hd
    rw [← map_key_outcomes readings m 0 left, List.getElem?_map, ho, Option.map_some,
      Option.map_some, hrequest]

/-- **Every single fetch is delivered under its request**, if it labels its slot and the callback
takes everything. -/
theorem loop_delivers (hok : ∀ n, callback n = .ok)
    (hlabels : ∀ i key, left[i]? = some key → ¬ ExitsEarly (readings i) key) :
    ((FetchLoop.loop readings callback left 0 ⟨m, values, [], []⟩).2.delivered.flatten.map
      fun d => d.value.key) = left := by
  have hrequests := loop_requests readings callback m values left hok
  obtain ⟨hdel, -⟩ := loop_deliversReached readings callback m values left
  generalize (FetchLoop.loop readings callback left 0 ⟨m, values, [], []⟩).2.delivered.flatten
    = delivered at hrequests hdel ⊢
  refine (List.map_congr_left fun d hd => ?_).trans hrequests
  obtain ⟨j, hj⟩ := List.getElem?_of_mem hd
  obtain ⟨o, ho, -⟩ := id (hdel j d hj)
  have hlabel : o.label ≠ none :=
    label_outcomes ho (hlabels j)
  obtain ⟨hgpu, hfield, -⟩ := (belongs_iff (hdel j d hj) ho
    (exists_outcomeOf ho)).mpr fun hnone => absurd hnone hlabel
  exact Prod.ext hgpu hfield

end Loop

/-! ## The whole call -/

/-- The keys of everything that is given to the callback. -/
def passedKeys (r : ValueGet) : List RdcFieldKey :=
  r.bulk.map RdcGpuFieldValue.key ++ r.delivered.flatten.map fun d => d.value.key

/-- **Each request is answered exactly once**, in bulk or by itself, and the values that are fetched
by themselves are given to the callback in batches of at most sixteen. -/
theorem answered_exactly_once (lib : SmiLib) (a : ValueGetAnswers) (fields : List RdcFieldKey)
    (hok : ∀ n, a.callback n = .ok)
    (hlabels : ∀ i key, (SmiLib.leftFields (lib.bulkFetch a fields).2 fields)[i]? = some key →
      ¬ ExitsEarly (a.readings i) key) :
    (passedKeys (lib.rdcTelemetryFieldsValueGet a fields).1).Perm fields
    ∧ ∀ batch ∈ (lib.rdcTelemetryFieldsValueGet a fields).1.delivered, batch.length ≤ 16 := by
  have hgo : ¬ ((lib.bulkFetch a fields).2 ≠ [] ∧ a.callback 0 ≠ .ok) := fun h => h.2 (hok 0)
  unfold SmiLib.rdcTelemetryFieldsValueGet passedKeys
  simp only [if_neg hgo]
  refine ⟨?_, loop_batches _ _ _ _ _ fun batch h => absurd h (by simp)⟩
  rw [loop_delivers _ _ _ _ _ (fun n => hok _) hlabels]
  exact bulk_and_left_perm lib a fields

/-- The power of the first GPU and the load of both, with repetitions. -/
def repeatedRequests : List RdcFieldKey :=
  [(0, rdcFiPowerUsage), (0, rdcFiGpuUtil), (1, rdcFiGpuUtil), (0, rdcFiPowerUsage),
    (0, rdcFiGpuUtil)]

/-- All metrics are zero, and everything can be resolved. -/
def zeroMetrics : ValueGetAnswers where
  bulkNow := 0
  metrics _ := (AmdsmiStatus.success, default)
  readings _ := { (default : SmiReadings) with handle := AmdsmiStatus.success }
  callback _ := .ok
  values := Vector.replicate bulkFieldsMax ⟨0, ⟨0, 0, 0, .integer, .lInt 0⟩⟩

theorem answered_exactly_once_repeatedRequests :
    ((SmiLib.mk MetricFetcher.init true AmdsmiStatus.success).bulkFetch zeroMetrics
        repeatedRequests).2.map RdcGpuFieldValue.key
      = [(0, rdcFiGpuUtil), (0, rdcFiGpuUtil), (1, rdcFiGpuUtil)]
    ∧ (passedKeys ((SmiLib.mk MetricFetcher.init true
        AmdsmiStatus.success).rdcTelemetryFieldsValueGet zeroMetrics repeatedRequests).1).Perm
      repeatedRequests := by
  refine ⟨by decide +kernel, (answered_exactly_once _ zeroMetrics repeatedRequests (fun _ => rfl)
    fun i key hkey hearly => ?_).1⟩
  have hvalid : ∀ key ∈ repeatedRequests, ¬ ExitsEarly (zeroMetrics.readings 0) key := by
    decide +kernel
  exact hvalid key (List.mem_of_mem_filter (List.mem_of_getElem? hkey)) hearly

end Rdc.Proof
