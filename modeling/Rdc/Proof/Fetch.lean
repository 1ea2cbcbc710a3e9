import Rdc.Proof.Bulk
import Rdc.Lib.Slots

/-!
# Which request a value belongs to

`fetch_smi_field` labels the value it is given with its field and a status, except when it returns
before that: the GPU cannot be resolved, or the field is unknown. The slot then keeps the label some
earlier fetch left in it, sixteen or thirty-two requests before, or whatever the array held to begin
with. So a value is delivered under a wrong field, or with the status of a success, unless the last
label left in its slot happens to be of the same field and of a failure (`allBelong_iff`).
-/

namespace Rdc.Proof

open Std (ExtTreeMap)
open OrdMap Slots MetricFetcher

/-! ## One fetch -/

/-- A branch of the switch that returns an error of its own has noted one. -/
def Honest (w : FieldWrites) : Prop := w.result ≠ none → w.status ≠ AmdsmiStatus.success

theorem honest_integer (status : AmdsmiStatus) (value : Int) :
    Honest (FieldWrites.integer status value) := fun h => absurd rfl h

theorem honest_statusOnly (status : AmdsmiStatus) : Honest (FieldWrites.statusOnly status) :=
  fun h => absurd rfl h

theorem honest_noData (type : Option RdcFieldType) : Honest (FieldWrites.noData type) := by
  intro _
  show AmdsmiStatus.notSupported ≠ AmdsmiStatus.success
  decide

theorem honest_ite {p : Prop} [Decidable p] {w w' : FieldWrites} (h : Honest w) (h' : Honest w') :
    Honest (if p then w else w') := by
  split
  · exact h
  · exact h'

theorem honest_readPower (a : SmiReadings) : Honest a.readPower :=
  honest_ite (honest_integer _ _) (honest_ite (honest_integer _ _)
    (honest_ite (honest_integer _ _) (honest_noData _)))

theorem honest_getEcc (a : SmiReadings) (field : Nat) : Honest (a.getEcc field) :=
  honest_ite (honest_statusOnly _) (honest_ite (honest_statusOnly _) (honest_integer _ _))

theorem honest_readGpuMetrics (a : SmiReadings) (field : Nat) :
    Honest (a.readGpuMetrics field) := by
  refine honest_ite (honest_statusOnly _) ?_
  split
  · exact honest_statusOnly _
  · exact honest_ite (honest_statusOnly _) (honest_integer _ _)

theorem honest_readField (a : SmiReadings) (field : Nat) : Honest (a.readField field) := by
  unfold SmiReadings.readField
  iterate 4 refine honest_ite (honest_integer _ _) ?_
  refine honest_ite (honest_readPower a) ?_
  iterate 3 refine honest_ite (honest_integer _ _) ?_
  refine honest_ite (fun h => absurd rfl h) ?_
  refine honest_ite (honest_integer _ _) ?_
  refine honest_ite (honest_ite (honest_integer _ _) (honest_integer _ _)) ?_
  refine honest_ite (honest_noData _) ?_
  iterate 2 refine honest_ite (honest_integer _ _) ?_
  refine honest_ite (honest_getEcc a field) ?_
  exact honest_ite (honest_readGpuMetrics a field) (honest_statusOnly _)

theorem honest_readAny (m : MetricFetcher) (a : SmiReadings) (key : RdcFieldKey) :
    Honest (m.readAny a key).1 := by
  unfold readAny
  split
  · unfold readPcie
    split
    · exact fun h => absurd rfl h
    · exact honest_statusOnly _
  · split
    · unfold readSmiCounter
      split
      · exact honest_statusOnly _
      · exact fun h => absurd rfl h
    · exact honest_readField a key.2

theorem status_ne_of_returned {w : FieldWrites} (hw : Honest w) (h : w.returned ≠ .ok) :
    w.status ≠ AmdsmiStatus.success := by
  intro hstatus
  cases hresult : w.result with
  | none =>
    unfold FieldWrites.returned at h
    rw [hresult, Option.getD_none, if_pos hstatus] at h
    exact h rfl
  | some result => exact hw (by rw [hresult]; simp) hstatus

/-- The fetch returns before it has labelled its value. -/
def ExitsEarly (a : SmiReadings) (key : RdcFieldKey) : Prop :=
  a.handle ≠ AmdsmiStatus.success ∨ isFieldValid key.2 = false

instance (a : SmiReadings) (key : RdcFieldKey) : Decidable (ExitsEarly a key) :=
  inferInstanceAs (Decidable (_ ∨ _))

/-- The label of a value: its field and its status. -/
def valueLabel (v : RdcFieldValue) : Nat × Int := (v.fieldId, v.status)

/-- What a fetch does, whatever the value it is given: the label it leaves, if any, and what it
returns. -/
structure Outcome where
  key : RdcFieldKey
  label : Option (Nat × Int)
  fetched : Status

/-- The outcome of a fetch. -/
def outcomeOf (m : MetricFetcher) (a : SmiReadings) (key : RdcFieldKey) : Outcome where
  key := key
  label := if ExitsEarly a key then none else some (key.2, (m.readAny a key).1.status)
  fetched :=
    if a.handle ≠ AmdsmiStatus.success then smi2RdcError a.handle
    else if isFieldValid key.2 = false then .notSupported
    else (m.readAny a key).1.returned

/-- The fetcher after a fetch. -/
def fetcherAfter (m : MetricFetcher) (a : SmiReadings) (key : RdcFieldKey) : MetricFetcher :=
  if ExitsEarly a key then m else (m.readAny a key).2

/-- **`fetch_smi_field`** does the same to every value, except that an early exit leaves it. -/
theorem fetchSmiField_outcome (m : MetricFetcher) (a : SmiReadings) (key : RdcFieldKey)
    (value : RdcFieldValue) :
    (m.fetchSmiField a key value).1 = (outcomeOf m a key).fetched
    ∧ valueLabel (m.fetchSmiField a key value).2.1
      = (outcomeOf m a key).label.getD (valueLabel value)
    ∧ (m.fetchSmiField a key value).2.2 = fetcherAfter m a key := by
  unfold fetchSmiField outcomeOf fetcherAfter ExitsEarly
  by_cases hhandle : a.handle = AmdsmiStatus.success
  · by_cases hvalid : isFieldValid key.2 = false
    · simp [hhandle, hvalid]
    · simp only [hhandle, hvalid, ne_eq, not_true_eq_false, if_false]
      exact ⟨rfl, rfl, rfl⟩
  · simp [hhandle]

theorem fetched_ne_ok_of_label_none {m : MetricFetcher} {a : SmiReadings} {key : RdcFieldKey}
    (h : (outcomeOf m a key).label = none) : (outcomeOf m a key).fetched ≠ .ok := by
  unfold outcomeOf at h ⊢
  dsimp only at h ⊢
  have hearly : ExitsEarly a key := by
    by_contra hno
    rw [if_neg hno] at h
    simp at h
  by_cases hhandle : a.handle = AmdsmiStatus.success
  · have hvalid : isFieldValid key.2 = false := hearly.resolve_left (not_not.mpr hhandle)
    rw [if_neg (not_not.mpr hhandle), if_pos hvalid]
    simp
  · rw [if_pos hhandle]
    exact fun hok => hhandle (smi2RdcError_eq_ok.mp hok)

theorem label_some_spec {m : MetricFetcher} {a : SmiReadings} {key : RdcFieldKey}
    {label : Nat × Int} (h : (outcomeOf m a key).label = some label) :
    label.1 = key.2 ∧ ((outcomeOf m a key).fetched ≠ .ok → label.2 ≠ 0) := by
  unfold outcomeOf at h ⊢
  dsimp only at h ⊢
  by_cases hearly : ExitsEarly a key
  · rw [if_pos hearly] at h
    simp at h
  · rw [if_neg hearly, Option.some.injEq] at h
    have hhandle : a.handle = AmdsmiStatus.success := by
      by_contra hno
      exact hearly (Or.inl hno)
    have hvalid : ¬ isFieldValid key.2 = false := fun hno => hearly (Or.inr hno)
    rw [← h, if_neg (not_not.mpr hhandle), if_neg hvalid]
    exact ⟨rfl, status_ne_of_returned (honest_readAny m a key)⟩

/-! ## All fetches of a call -/

/-- The outcomes of the fetches of a list of fields, the first of which is number `i`. -/
def outcomes (readings : Nat → SmiReadings) :
    MetricFetcher → Nat → List RdcFieldKey → List Outcome
  | _, _, [] => []
  | m, i, key :: keys =>
    outcomeOf m (readings i) key
      :: outcomes readings (fetcherAfter m (readings i) key) (i + 1) keys

/-- The label that fetch number `i` leaves. -/
def labelAt (os : List Outcome) (i : Nat) : Option (Nat × Int) := os[i]?.bind Outcome.label

/-- The fetcher after the fetches of a list of fields, the first of which is number `i`. -/
def fetcherFrom (readings : Nat → SmiReadings) :
    MetricFetcher → Nat → List RdcFieldKey → MetricFetcher
  | m, _, [] => m
  | m, i, key :: keys => fetcherFrom readings (fetcherAfter m (readings i) key) (i + 1) keys

theorem getElem?_outcomes (readings : Nat → SmiReadings) (m : MetricFetcher) (i : Nat)
    (keys : List RdcFieldKey) (j : Nat) :
    (outcomes readings m i keys)[j]? = keys[j]?.map
      (outcomeOf (fetcherFrom readings m i (keys.take j)) (readings (i + j))) := by
  induction keys generalizing m i j with
  | nil => rfl
  | cons key keys ih =>
    cases j with
    | zero => rfl
    | succ j =>
      rw [outcomes, List.getElem?_cons_succ, ih, Nat.add_right_comm i 1 j]
      rfl

theorem length_outcomes (readings : Nat → SmiReadings) (m : MetricFetcher) (i : Nat)
    (keys : List RdcFieldKey) : (outcomes readings m i keys).length = keys.length := by
  induction keys generalizing m i with
  | nil => rfl
  | cons key keys ih => rw [outcomes, List.length_cons, ih, List.length_cons]

variable {i j : Nat} {s : FetchLoop} {init : Vector RdcGpuFieldValue bulkFieldsMax}
  {callback : Nat → Status}

section Labels

variable {readings : Nat → SmiReadings} {m : MetricFetcher} {keys : List RdcFieldKey}

theorem exists_outcomeOf {o : Outcome} (h : (outcomes readings m 0 keys)[i]? = some o) :
    ∃ m' a key, o = outcomeOf m' a key := by
  rw [getElem?_outcomes] at h
  obtain ⟨key, -, rfl⟩ := Option.map_eq_some_iff.mp h
  exact ⟨_, _, key, rfl⟩

/-- The fetch of request number `j` fails, and leaves the label of the field. -/
def FailsAs (readings : Nat → SmiReadings) (m : MetricFetcher) (keys : List RdcFieldKey)
    (j field : Nat) : Prop :=
  ∃ key, keys[j]? = some key ∧ ¬ ExitsEarly (readings j) key ∧ key.2 = field
    ∧ ((fetcherFrom readings m 0 (keys.take j)).readAny (readings j) key).1.status ≠ 0

theorem labelAt_outcomes (j : Nat) :
    labelAt (outcomes readings m 0 keys) j = keys[j]?.bind fun key =>
      if ExitsEarly (readings j) key then none else some (key.2,
        ((fetcherFrom readings m 0 (keys.take j)).readAny (readings j) key).1.status) := by
  unfold labelAt
  rw [getElem?_outcomes, Nat.zero_add, Option.bind_map]
  rfl

theorem labelAt_eq_none_iff : labelAt (outcomes readings m 0 keys) j = none
    ↔ ∀ key, keys[j]? = some key → ExitsEarly (readings j) key := by
  rw [labelAt_outcomes]
  cases keys[j]? <;> simp

theorem labelAt_failsAs_iff {j field : Nat} :
    (∃ status, labelAt (outcomes readings m 0 keys) j = some (field, status) ∧ status ≠ 0)
      ↔ FailsAs readings m keys j field := by
  unfold FailsAs
  rw [labelAt_outcomes]
  cases keys[j]? with
  | none => simp
  | some key => by_cases hearly : ExitsEarly (readings j) key <;> simp [hearly]

end Labels

/-- The slot of request number `j`. -/
def slotOf (slots : Vector RdcGpuFieldValue bulkFieldsMax) (j : Nat) : RdcGpuFieldValue :=
  slots.get ⟨j % bulkFieldsMax, Nat.mod_lt j (by decide)⟩

/-- A value that was delivered for request number `j`: the GPU is right, and the label is the last
one left in the slot, its own included. -/
def DeliveredAs (os : List Outcome) (init : Vector RdcGpuFieldValue bulkFieldsMax) (j : Nat)
    (d : Delivery) : Prop :=
  ∃ o, os[j]? = some o ∧ d.request = o.key ∧ d.fetched = o.fetched ∧ d.value.gpuIndex = o.key.1
    ∧ valueLabel d.value.fieldValue
      = (latest (labelAt os) bulkFieldsMax (j % bulkFieldsMax) (j + 1)).getD
          (valueLabel (slotOf init j).fieldValue)

/-! ## The loop -/

/-- What the slots show of a value. -/
def slotLabel (v : RdcGpuFieldValue) : Nat × Int := valueLabel v.fieldValue

/-- After `i` fetches: full batches have been delivered and the rest is in the array; what was
delivered, and what will be, belongs to the fetches in their order. -/
structure LoopInv (os : List Outcome) (init : Vector RdcGpuFieldValue bulkFieldsMax) (i : Nat)
    (s : FetchLoop) : Prop where
  count : i = bulkFieldsMax * s.delivered.length + s.batch.length
  room : s.batch.length ≤ bulkFieldsMax
  sent : s.delivered.flatten.length = bulkFieldsMax * s.delivered.length
  labels : Shows slotLabel (labelAt os) init s.values i
  delivered : ∀ j d, (s.delivered.flatten ++ s.deliveries)[j]? = some d → DeliveredAs os init j d

theorem length_deliveries (h : s.batch.length ≤ bulkFieldsMax) :
    s.deliveries.length = s.batch.length := by
  unfold FetchLoop.deliveries
  rw [List.length_map, List.length_zip, Vector.length_toList]
  omega

/-- The value that a fetch into a slot delivers. -/
def fetchedInto (m : MetricFetcher) (a : SmiReadings) (key : RdcFieldKey) (value : RdcFieldValue) :
    Delivery :=
  ⟨key, (m.fetchSmiField a key value).1, key.1, (m.fetchSmiField a key value).2.1⟩

theorem fetchOne_delivered (a : SmiReadings) (s : FetchLoop) (key : RdcFieldKey) :
    (s.fetchOne a key).delivered = s.delivered := by
  unfold FetchLoop.fetchOne
  split <;> rfl

theorem fetchOne_deliveries (a : SmiReadings) (s : FetchLoop) (key : RdcFieldKey)
    (h : s.batch.length < bulkFieldsMax) :
    (s.fetchOne a key).deliveries = s.deliveries
      ++ [fetchedInto s.metricFetcher a key s.values[s.batch.length].fieldValue] := by
  unfold FetchLoop.fetchOne
  rw [dif_pos h]
  unfold FetchLoop.deliveries
  dsimp only
  rw [zip_concat_set, List.map_append]
  rfl

theorem fetchOne_eq (a : SmiReadings) (s : FetchLoop) (key : RdcFieldKey)
    (h : s.batch.length < bulkFieldsMax) :
    ∃ v, (s.fetchOne a key).deliveries
        = s.deliveries ++ [⟨key, (outcomeOf s.metricFetcher a key).fetched, v⟩]
      ∧ v.gpuIndex = key.1
      ∧ slotLabel v = (outcomeOf s.metricFetcher a key).label.getD
          (slotLabel s.values[s.batch.length])
      ∧ (s.fetchOne a key).values = s.values.set s.batch.length v h
      ∧ (s.fetchOne a key).batch.length = s.batch.length + 1
      ∧ (s.fetchOne a key).delivered = s.delivered
      ∧ (s.fetchOne a key).metricFetcher = fetcherAfter s.metricFetcher a key := by
  obtain ⟨hstatus, hlabel, hfetcher⟩ :=
    fetchSmiField_outcome s.metricFetcher a key s.values[s.batch.length].fieldValue
  refine ⟨(fetchedInto s.metricFetcher a key s.values[s.batch.length].fieldValue).value, ?_, rfl,
    hlabel, ?_⟩
  · rw [fetchOne_deliveries a s key h, ← hstatus]
    rfl
  · unfold FetchLoop.fetchOne
    rw [dif_pos h]
    exact ⟨rfl, by simp, rfl, hfetcher⟩

variable {os : List Outcome}

theorem LoopInv.fetch (h : LoopInv os init i s) (hroom : s.batch.length < bulkFieldsMax)
    {a : SmiReadings} {key : RdcFieldKey} (ho : os[i]? = some (outcomeOf s.metricFetcher a key)) :
    LoopInv os init (i + 1) (s.fetchOne a key) := by
  obtain ⟨v, hdeliveries, hgpu, hlabel, hvalues, hbatch, hdelivered, _⟩ :=
    fetchOne_eq a s key hroom
  -- full batches have been sent, so the next slot is the index modulo the size of a batch
  have hslot : i % bulkFieldsMax = s.batch.length := by
    rw [h.count, Nat.mul_add_mod, Nat.mod_eq_of_lt hroom]
  have hlt : i % bulkFieldsMax < bulkFieldsMax := by omega
  have hown : slotLabel v = (labelAt os i).getD (slotLabel s.values[i % bulkFieldsMax]) := by
    unfold labelAt
    simp only [hslot, ho]
    exact hlabel
  refine ⟨?_, by omega, ?_, ?_, ?_⟩
  · rw [hdelivered, hbatch, h.count]
    omega
  · rw [hdelivered]
    exact h.sent
  · have hwrite := h.labels.write hlt hown
    simp only [hslot] at hwrite
    rw [hvalues]
    exact hwrite
  · intro j d hj
    rw [hdelivered, hdeliveries, ← List.append_assoc] at hj
    have hlen : (s.delivered.flatten ++ s.deliveries).length = i := by
      rw [List.length_append, h.sent, length_deliveries h.room]
      exact h.count.symm
    rcases Nat.lt_or_ge j i with hji | hji
    · rw [List.getElem?_append_left (by omega)] at hj
      exact h.delivered j d hj
    · -- the value that was fetched just now
      have hjeq : j = i := by
        have hjlt := (List.getElem?_eq_some_iff.mp hj).1
        rw [List.length_append, hlen, List.length_singleton] at hjlt
        omega
      rw [hjeq, ← hlen, List.getElem?_concat_length, Option.some.injEq] at hj
      rw [hjeq, ← hj]
      refine ⟨_, ho, rfl, rfl, hgpu, ?_⟩
      exact h.labels.own hlt hown

theorem flush_flatten (s : FetchLoop) :
    s.flush.delivered.flatten = s.delivered.flatten ++ s.deliveries := by
  unfold FetchLoop.flush
  simp

theorem flush_length (s : FetchLoop) : s.flush.delivered.length = s.delivered.length + 1 := by
  unfold FetchLoop.flush
  simp

/-- A property of the loop's state that a fetch into a free slot and a flush keep. -/
theorem loop_invariant {I : FetchLoop → Prop} (readings : Nat → SmiReadings)
    (callback : Nat → Status) (keys : List RdcFieldKey) (i : Nat)
    (hfetch : ∀ j key, keys[j]? = some key → ∀ s : FetchLoop, s.batch.length < bulkFieldsMax →
      I s → I (s.fetchOne (readings (i + j)) key)) (hflush : ∀ s : FetchLoop, I s → I s.flush)
    (h : I s) : I (FetchLoop.loop readings callback keys i s).2 := by
  induction keys generalizing i s with
  | nil =>
    unfold FetchLoop.loop
    split
    · exact h
    · exact hflush s h
  | cons key keys ih =>
    have hnext : ∀ s : FetchLoop, s.batch.length < bulkFieldsMax → I s →
        I (FetchLoop.loop readings callback keys (i + 1) (s.fetchOne (readings i) key)).2 := by
      intro s hlt hs
      refine ih (i + 1) (fun j key' hkey => ?_) (hfetch 0 key rfl s hlt hs)
      rw [Nat.add_assoc, Nat.add_comm 1 j]
      exact hfetch (j + 1) key' hkey
    unfold FetchLoop.loop
    split
    · exact hnext s ‹_› h
    · split
      · exact hflush s h
      · exact hnext s.flush (Nat.zero_lt_succ 15) (hflush s h)

/-- **What holds of every fetch holds of every value that is delivered.** -/
theorem loop_forall {P : Delivery → Prop} {readings : Nat → SmiReadings} (keys : List RdcFieldKey)
    (hfetch : ∀ j key, keys[j]? = some key →
      ∀ m value, P (fetchedInto m (readings (i + j)) key value))
    (hs : ∀ d ∈ s.delivered.flatten ++ s.deliveries, P d) :
    ∀ d ∈ (FetchLoop.loop readings callback keys i s).2.delivered.flatten, P d := by
  have hall := loop_invariant (I := fun s => ∀ d ∈ s.delivered.flatten ++ s.deliveries, P d)
    readings callback keys i (fun j key hkey s hlt hs => ?_) (fun s hs => ?_) hs
  · exact fun d hd => hall d (List.mem_append_left _ hd)
  · rw [fetchOne_delivered, fetchOne_deliveries _ _ _ hlt, ← List.append_assoc]
    intro d hd
    rcases List.mem_append.mp hd with hold | hnew
    · exact hs d hold
    · rw [List.mem_singleton.mp hnew]
      exact hfetch j key hkey _ _
  · have hnil : s.flush.deliveries = [] := rfl
    rw [hnil, List.append_nil, flush_flatten]
    exact hs

theorem LoopInv.flush (h : LoopInv os init i s) (hfull : s.batch.length = bulkFieldsMax) :
    LoopInv os init i s.flush := by
  refine ⟨?_, Nat.zero_le _, ?_, h.labels, ?_⟩
  · rw [flush_length, h.count, hfull]
    exact (Nat.mul_succ _ _).symm
  · rw [flush_flatten, flush_length, List.length_append, h.sent, length_deliveries h.room, hfull]
    exact (Nat.mul_succ _ _).symm
  · intro j d hj
    have hnil : s.flush.deliveries = [] := rfl
    rw [flush_flatten, hnil, List.append_nil] at hj
    exact h.delivered j d hj

/-- When the batch has been delivered, everything fetched so far has been. -/
theorem LoopInv.stopped {s s' : FetchLoop} (h : LoopInv os init i s)
    (hs' : s'.delivered.flatten = s.delivered.flatten ++ s.deliveries) :
    (∀ j d, s'.delivered.flatten[j]? = some d → DeliveredAs os init j d)
      ∧ s'.delivered.flatten.length = i := by
  rw [hs']
  refine ⟨h.delivered, ?_⟩
  rw [List.length_append, h.sent, length_deliveries h.room]
  exact h.count.symm

/-- Request number `j` is delivered if the callback takes every full batch before its own, of those
from `first` on. -/
def Reached (callback : Nat → Status) (first j : Nat) : Prop :=
  ∀ k, first ≤ k → k < j / bulkFieldsMax → callback k = .ok

/-- A batch that the callback has taken does not hold up what comes later. -/
theorem reached_succ_iff {first j : Nat} (hok : callback first = .ok) :
    Reached callback (first + 1) j ↔ Reached callback first j := by
  refine ⟨?_, ?_⟩
  · intro h k hk hkj
    rcases Nat.eq_or_lt_of_le hk with heq | hgt
    · rw [← heq]
      exact hok
    · exact h k hgt hkj
  · intro h k hk hkj
    exact h k (by omega) hkj

/-- No batch is pending before a request that has been fetched. -/
theorem LoopInv.reached (h : LoopInv os init i s) (callback : Nat → Status) (hj : j < i) :
    Reached callback s.delivered.length j := by
  intro k hk hkj
  have hmax : bulkFieldsMax = 16 := rfl
  have hcount := h.count
  have hroom := h.room
  rw [hmax] at hkj hcount hroom
  omega

/-- A full batch that the callback refuses is before everything that has not been fetched. -/
theorem LoopInv.not_reached (h : LoopInv os init i s) (hfull : s.batch.length = bulkFieldsMax)
    (hno : callback s.delivered.length ≠ .ok) (hj : i ≤ j) :
    ¬ Reached callback s.delivered.length j := by
  intro hreached
  have hmax : bulkFieldsMax = 16 := rfl
  have hcount := h.count
  rw [hfull, hmax] at hcount
  exact hno (hreached s.delivered.length (Nat.le_refl _) (by rw [hmax]; omega))

/-- What has been delivered belongs to the fetches in their order, and got as far as the callback
let it, counted from batch `first`. -/
def DeliversReached (callback : Nat → Status) (os : List Outcome)
    (init : Vector RdcGpuFieldValue bulkFieldsMax) (first : Nat) (s : FetchLoop) : Prop :=
  (∀ j d, s.delivered.flatten[j]? = some d → DeliveredAs os init j d)
  ∧ ∀ j, j < s.delivered.flatten.length ↔ j < os.length ∧ Reached callback first j

/-- Everything has been fetched, and what is in the array is delivered. -/
theorem LoopInv.deliversReached_all {s s' : FetchLoop} (h : LoopInv os init os.length s)
    (hs' : s'.delivered.flatten = s.delivered.flatten ++ s.deliveries) :
    DeliversReached callback os init s.delivered.length s' := by
  obtain ⟨hdel, hi⟩ := h.stopped hs'
  refine ⟨hdel, fun j => ?_⟩
  rw [hi]
  exact ⟨fun hj => ⟨hj, h.reached callback hj⟩, fun hj => hj.1⟩

theorem LoopInv.deliversReached_refused (h : LoopInv os init i s) (hle : i ≤ os.length)
    (hfull : s.batch.length = bulkFieldsMax) (hno : callback s.delivered.length ≠ .ok) :
    DeliversReached callback os init s.delivered.length s.flush := by
  obtain ⟨hdel, hi⟩ := h.stopped (flush_flatten s)
  refine ⟨hdel, fun j => ?_⟩
  rw [hi]
  refine ⟨fun hj => ⟨by omega, h.reached callback hj⟩, ?_⟩
  intro hj
  by_contra hge
  exact h.not_reached hfull hno (Nat.le_of_not_lt hge) hj.2

theorem loop_spec {readings : Nat → SmiReadings} (keys : List RdcFieldKey) (h : LoopInv os init i s)
    (hos : os.drop i = outcomes readings s.metricFetcher i keys)
    (hlen : os.length = i + keys.length) :
    DeliversReached callback os init s.delivered.length
      (FetchLoop.loop readings callback keys i s).2 := by
  induction keys generalizing i s with
  | nil =>
    rw [List.length_nil, Nat.add_zero] at hlen
    rw [← hlen] at h
    unfold FetchLoop.loop
    split
    · rename_i hbatch
      refine h.deliversReached_all ?_
      unfold FetchLoop.deliveries
      rw [hbatch]
      simp
    · exact h.deliversReached_all (flush_flatten s)
  | cons key keys ih =>
    have hrest : os.drop (i + 1) = outcomes readings
        (fetcherAfter s.metricFetcher (readings i) key) (i + 1) keys := by
      rw [← List.tail_drop, hos]
      rfl
    have ho : os[i]? = some (outcomeOf s.metricFetcher (readings i) key) := by
      have hhead : (os.drop i)[0]? = os[i]? := by simp
      rw [← hhead, hos]
      rfl
    rw [List.length_cons] at hlen
    unfold FetchLoop.loop
    by_cases hlt : s.batch.length < bulkFieldsMax
    · rw [if_pos hlt]
      obtain ⟨_, _, _, _, _, _, hdelivered, hfetcher⟩ := fetchOne_eq (readings i) s key hlt
      have hnext := ih (h.fetch hlt ho) (by rw [hfetcher]; exact hrest) (by omega)
      rw [hdelivered] at hnext
      exact hnext
    · rw [if_neg hlt]
      have hroom := h.room
      have hfull : s.batch.length = bulkFieldsMax := by omega
      by_cases hok : callback s.delivered.length = .ok
      · rw [if_neg (not_not.mpr hok)]
        have hflushLt : s.flush.batch.length < bulkFieldsMax := Nat.zero_lt_succ 15
        obtain ⟨_, _, _, _, _, _, hdelivered, hfetcher⟩ :=
          fetchOne_eq (readings i) s.flush key hflushLt
        obtain ⟨hdel, hgot⟩ :=
          ih ((h.flush hfull).fetch hflushLt ho) (by rw [hfetcher]; exact hrest) (by omega)
        refine ⟨hdel, fun j => ?_⟩
        rw [hgot j, hdelivered, flush_length, reached_succ_iff hok]
      · rw [if_pos hok]
        exact h.deliversReached_refused (by omega) hfull hok

theorem loop_deliversReached (readings : Nat → SmiReadings) (callback : Nat → Status)
    (m : MetricFetcher) (values : Vector RdcGpuFieldValue bulkFieldsMax)
    (left : List RdcFieldKey) :
    DeliversReached callback (outcomes readings m 0 left) values 0
      (FetchLoop.loop readings callback left 0 ⟨m, values, [], []⟩).2 := by
  refine loop_spec left ⟨rfl, Nat.zero_le _, rfl, Shows.start, ?_⟩ List.drop_zero ?_
  · intro j d hj
    exact absurd hj (by simp [FetchLoop.deliveries])
  · rw [length_outcomes, Nat.zero_add]

/-! ## Bulk results -/

theorem bulkFetch_requested (lib : SmiLib) (a : ValueGetAnswers) (fields : List RdcFieldKey) :
    ∀ v ∈ (lib.bulkFetch a fields).2, (v.gpuIndex, v.fieldValue.fieldId) ∈ fields := by
  intro v hv
  obtain ⟨p, hperm⟩ := bulkFetch_perm lib a fields
  exact List.mem_of_mem_filter (hperm.mem_iff.mp (List.mem_map_of_mem hv))

/-! ## Every call -/

/-- The value carries the GPU and the field of its request, and an error if there was one. -/
def Belongs (d : Delivery) : Prop :=
  d.value.gpuIndex = d.request.1 ∧ d.value.fieldValue.fieldId = d.request.2
    ∧ (d.fetched ≠ .ok → d.value.fieldValue.status ≠ 0)

/-- Every value that was delivered belongs to its request. -/
def AllBelong (fields : List RdcFieldKey) (r : ValueGet) : Prop :=
  (∀ v ∈ r.bulk, (v.gpuIndex, v.fieldValue.fieldId) ∈ fields)
    ∧ ∀ batch ∈ r.delivered, ∀ d ∈ batch, Belongs d

/-- For each request whose fetch exits early and whose value is delivered there is an earlier one
with the same slot whose fetch failed for the same field, and the fetches for the slot between the
two exit early as well. -/
def EarlyExitsAgree (readings : Nat → SmiReadings) (callback : Nat → Status) (m : MetricFetcher)
    (left : List RdcFieldKey) : Prop :=
  ∀ i key, left[i]? = some key → ExitsEarly (readings i) key → Reached callback 0 i →
    ∃ j < i, j % bulkFieldsMax = i % bulkFieldsMax ∧ FailsAs readings m left j key.2
      ∧ ∀ l, j < l → l < i → l % bulkFieldsMax = i % bulkFieldsMax →
        ∀ key', left[l]? = some key' → ExitsEarly (readings l) key'

/-- The requests that are left by the bulk fetch agree, if the callback takes its results. -/
def SlotsAgree (lib : SmiLib) (a : ValueGetAnswers) (fields : List RdcFieldKey) : Prop :=
  let bulk := (lib.bulkFetch a fields).2
  (bulk ≠ [] → a.callback 0 = .ok) →
    EarlyExitsAgree a.readings (fun n => a.callback ((if bulk = [] then 0 else 1) + n))
      lib.metricFetcher (SmiLib.leftFields bulk fields)

theorem earlyExitsAgree_iff (readings : Nat → SmiReadings) (callback : Nat → Status)
    (m : MetricFetcher) (left : List RdcFieldKey) :
    EarlyExitsAgree readings callback m left
      ↔ ∀ i o, (outcomes readings m 0 left)[i]? = some o → Reached callback 0 i → o.label = none →
        ∃ status, latest (labelAt (outcomes readings m 0 left)) bulkFieldsMax (i % bulkFieldsMax) i
            = some (o.key.2, status) ∧ status ≠ 0 := by
  have hslot : ∀ i field, (∃ status, latest (labelAt (outcomes readings m 0 left)) bulkFieldsMax
        (i % bulkFieldsMax) i = some (field, status) ∧ status ≠ 0)
      ↔ ∃ j < i, j % bulkFieldsMax = i % bulkFieldsMax ∧ FailsAs readings m left j field
        ∧ ∀ l, j < l → l < i → l % bulkFieldsMax = i % bulkFieldsMax →
          ∀ key', left[l]? = some key' → ExitsEarly (readings l) key' := by
    intro i field
    simp only [latest_eq_some_iff, labelAt_eq_none_iff, ← labelAt_failsAs_iff]
    refine ⟨?_, ?_⟩
    · rintro ⟨status, ⟨j, hj, hmod, hlabel, hbetween⟩, hne⟩
      exact ⟨j, hj, hmod, ⟨status, hlabel, hne⟩, hbetween⟩
    · rintro ⟨j, hj, hmod, ⟨status, hlabel, hne⟩, hbetween⟩
      exact ⟨status, ⟨j, hj, hmod, hlabel, hbetween⟩, hne⟩
  unfold EarlyExitsAgree
  simp only [hslot, getElem?_outcomes, Nat.zero_add, Option.map_eq_some_iff]
  refine ⟨?_, ?_⟩
  · rintro h i o ⟨key, hkey, rfl⟩ hreached hlabel
    exact h i key hkey (by_contra fun hno => by simp [outcomeOf, hno] at hlabel) hreached
  · intro h i key hkey hearly hreached
    exact h i _ ⟨key, hkey, rfl⟩ hreached (if_pos hearly)

/-- A delivered value belongs to its request unless the fetch exited early; then it depends on the
label that was in the slot. -/
theorem belongs_iff {d : Delivery} (h : DeliveredAs os init j d) {o : Outcome}
    (ho : os[j]? = some o) (hout : ∃ m a key, o = outcomeOf m a key) :
    Belongs d ↔ (o.label = none →
      ((latest (labelAt os) bulkFieldsMax (j % bulkFieldsMax) j).getD
          (slotLabel (slotOf init j))).1 = o.key.2
      ∧ ((latest (labelAt os) bulkFieldsMax (j % bulkFieldsMax) j).getD
          (slotLabel (slotOf init j))).2 ≠ 0) := by
  obtain ⟨o', ho', hreq, hfetched, hgpu, hlabel⟩ := h
  rw [ho] at ho'
  rw [← Option.some.inj ho'] at hreq hfetched hgpu
  have hfield : d.value.fieldValue.fieldId = (valueLabel d.value.fieldValue).1 := rfl
  have hstatus : d.value.fieldValue.status = (valueLabel d.value.fieldValue).2 := rfl
  have hat : labelAt os j = o.label := by
    unfold labelAt
    rw [ho]
    rfl
  rw [latest_succ_self, hat] at hlabel
  obtain ⟨m, a, key, hkey⟩ := hout
  unfold Belongs
  rw [hreq, hfetched, hgpu, hfield, hstatus, hlabel]
  cases hl : o.label with
  | none =>
    have herror : o.fetched ≠ .ok := by
      rw [hkey] at hl ⊢
      exact fetched_ne_ok_of_label_none hl
    rw [Option.none_or]
    simp only [true_and, forall_const]
    exact and_congr_right fun _ => ⟨fun hne => hne herror, fun hne _ => hne⟩
  | some label =>
    rw [Option.some_or, Option.getD_some]
    refine iff_of_true ⟨rfl, ?_⟩ (fun hno => absurd hno (by simp))
    rw [hkey] at hl ⊢
    exact label_some_spec hl

theorem loop_belongs_iff (readings : Nat → SmiReadings) (callback : Nat → Status)
    (m : MetricFetcher) (left : List RdcFieldKey) :
    (∀ values, ∀ batch ∈
        (FetchLoop.loop readings callback left 0 ⟨m, values, [], []⟩).2.delivered,
        ∀ d ∈ batch, Belongs d)
      ↔ EarlyExitsAgree readings callback m left := by
  rw [earlyExitsAgree_iff]
  have hspec := fun values => loop_deliversReached readings callback m values left
  generalize hos : outcomes readings m 0 left = os at hspec ⊢
  have hout : ∀ {i : Nat} {o}, os[i]? = some o → ∃ m a key, o = outcomeOf m a key := by
    intro i o ho
    rw [← hos] at ho
    exact exists_outcomeOf ho
  refine ⟨?_, ?_⟩
  · intro hall i o ho hreached hearly
    -- prior contents with a wrong field, so that only an earlier label can make the value right
    have hwrong := hall (Vector.replicate bulkFieldsMax
      ⟨0, ⟨o.key.2 + 1, 0, 0, .integer, .lInt 0⟩⟩)
    obtain ⟨hdel, hgot⟩ := hspec (Vector.replicate bulkFieldsMax
      ⟨0, ⟨o.key.2 + 1, 0, 0, .integer, .lInt 0⟩⟩)
    have hlt := (hgot i).mpr ⟨(List.getElem?_eq_some_iff.mp ho).1, hreached⟩
    have hd := List.getElem?_eq_getElem hlt
    obtain ⟨batch, hbatch, hmem⟩ := List.mem_flatten.mp (List.mem_of_getElem? hd)
    have hlabel := (belongs_iff (hdel i _ hd) ho (hout ho)).mp (hwrong batch hbatch _ hmem) hearly
    cases hlatest : latest (labelAt os) bulkFieldsMax (i % bulkFieldsMax) i with
    | none =>
      rw [hlatest, Option.getD_none] at hlabel
      have hfield := hlabel.1
      unfold slotOf at hfield
      simp [Vector.get, slotLabel, valueLabel] at hfield
    | some label =>
      rw [hlatest, Option.getD_some] at hlabel
      exact ⟨label.2, by rw [← hlabel.1], hlabel.2⟩
  · intro hslots values batch hbatch d hd
    obtain ⟨hdel, hgot⟩ := hspec values
    obtain ⟨j, hj⟩ := List.getElem?_of_mem (List.mem_flatten.mpr ⟨batch, hbatch, hd⟩)
    have has := hdel j d hj
    obtain ⟨o, ho, _⟩ := id has
    refine (belongs_iff has ho (hout ho)).mpr fun hearly => ?_
    have hreached := ((hgot j).mp (List.getElem?_eq_some_iff.mp hj).1).2
    obtain ⟨status, hlatest, hne⟩ := hslots j o ho hreached hearly
    rw [hlatest]
    exact ⟨rfl, hne⟩

/-- **A value belongs to its request**, whatever the array held before, exactly when every fetch
that exits early finds the right label in its slot. -/
theorem allBelong_iff (lib : SmiLib) (a : ValueGetAnswers) (fields : List RdcFieldKey) :
    (∀ values, AllBelong fields
        (lib.rdcTelemetryFieldsValueGet { a with values := values } fields).1)
      ↔ SlotsAgree lib a fields := by
  have hbulk : ∀ values, (lib.bulkFetch { a with values := values } fields)
      = lib.bulkFetch a fields := fun _ => rfl
  have hrequested := bulkFetch_requested lib a fields
  unfold SlotsAgree SmiLib.rdcTelemetryFieldsValueGet
  simp only [hbulk]
  by_cases hstop : (lib.bulkFetch a fields).2 ≠ [] ∧ a.callback 0 ≠ .ok
  · -- the callback refuses the bulk results, and nothing else is fetched
    refine iff_of_true (fun values => ?_) (fun hgo => absurd (hgo hstop.1) hstop.2)
    rw [if_pos hstop]
    exact ⟨hrequested, fun batch hb => absurd hb (by simp)⟩
  · have hgo : (lib.bulkFetch a fields).2 ≠ [] → a.callback 0 = .ok := fun hne => by
      by_contra hno
      exact hstop ⟨hne, hno⟩
    simp only [if_neg hstop, AllBelong]
    have hloop := loop_belongs_iff a.readings
      (fun n => a.callback ((if (lib.bulkFetch a fields).2 = [] then 0 else 1) + n))
      lib.metricFetcher (SmiLib.leftFields (lib.bulkFetch a fields).2 fields)
    refine ⟨fun hall _ => hloop.mp fun values => (hall values).2, ?_⟩
    intro hslots values
    exact ⟨hrequested, hloop.mpr (hslots hgo) values⟩

/-- Sixteen requests for the first GPU and one for the second. -/
def seventeenRequests : List RdcFieldKey :=
  List.replicate 16 (0, rdcFiGpuCount) ++ [(1, rdcFiGpuUtil)]

/-- The second GPU cannot be resolved. -/
def secondUnresolved : ValueGetAnswers where
  bulkNow := 0
  metrics _ := default
  readings i := { (default : SmiReadings) with handle := if i < 16 then 0 else 17 }
  callback _ := .ok
  values := Vector.replicate bulkFieldsMax ⟨0, ⟨0, 0, 0, .integer, .lInt 0⟩⟩

/-- The seventeenth value is delivered as the first one was: under another field, as a success. -/
theorem not_allBelong_reused :
    ¬ AllBelong seventeenRequests
      ((SmiLib.mk MetricFetcher.init false AmdsmiStatus.success).rdcTelemetryFieldsValueGet
        secondUnresolved seventeenRequests).1 := by
  intro h
  have hlast : (((SmiLib.mk MetricFetcher.init false
        AmdsmiStatus.success).rdcTelemetryFieldsValueGet secondUnresolved
          seventeenRequests).1.delivered.flatten[16]?).map
        (fun d => (d.request, d.fetched, d.value.fieldValue.fieldId, d.value.fieldValue.status))
      = some ((1, rdcFiGpuUtil), .unknownError, rdcFiGpuCount, 0) := by decide +kernel
  obtain ⟨d, hd, heq⟩ := Option.map_eq_some_iff.mp hlast
  obtain ⟨batch, hbatch, hmem⟩ := List.mem_flatten.mp (List.mem_of_getElem? hd)
  have hfield := (h.2 batch hbatch d hmem).2.1
  simp only [Prod.mk.injEq] at heq
  rw [heq.1, heq.2.2.1] at hfield
  exact absurd hfield (by decide)

end Rdc.Proof
