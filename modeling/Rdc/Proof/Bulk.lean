import Rdc.Environment
import Rdc.SmiLib
import Rdc.Lib.Route
import Mathlib.Data.List.Induction

/-!
# What is fetched in bulk

The bulk fetch sorts the requests by GPU and answers some of them, or none at all. Whether it
answers a request depends on the GPU and the field only, repeated requests included, so that its
results are the requests that pass a filter, in some order (`bulkFetch_perm`).
-/

namespace Rdc.Proof

open Std (ExtTreeMap)
open MetricFetcher OrdMap Route

/-! ## Requests by GPU -/

/-- The GPU of a request. -/
def gpuOf (key : RdcFieldKey) : Option Nat := some key.1

/-- The requests that can be fetched in bulk. -/
def bulkKeys (fields : List RdcFieldKey) : List RdcFieldKey :=
  fields.filter fun key => rdcBulkFields.contains key.2

theorem getElem?_bulkFields (fields : List RdcFieldKey) (gpu : Nat) :
    (bulkFields fields)[gpu]?
      = if share gpuOf (some gpu) (bulkKeys fields) = [] then none
        else some ((share gpuOf (some gpu) (bulkKeys fields)).map Prod.snd) := by
  unfold bulkFields
  change (((bulkKeys fields).foldl _ ∅ : IdMap (List Nat)))[gpu]? = _
  generalize bulkKeys fields = keys
  induction keys using List.reverseRecOn with
  | nil => exact ExtTreeMap.getElem?_empty
  | append_singleton keys key ih =>
    rw [List.foldl_append, List.foldl_cons, List.foldl_nil, ExtTreeMap.getElem?_alter,
      share_concat]
    by_cases hgpu : key.1 = gpu
    · have hroute : gpuOf key = some gpu := congrArg some hgpu
      rw [if_pos hroute, if_pos (by rw [hgpu]; exact Std.ReflCmp.compare_self), hgpu, ih]
      by_cases hnil : share gpuOf (some gpu) keys = [] <;> simp [hnil]
    · have hroute : ¬ gpuOf key = some gpu := fun h => hgpu (Option.some.inj h)
      rw [if_neg hroute, if_neg fun h => hgpu (Std.LawfulEqCmp.eq_of_compare h)]
      exact ih

/-- The keys in the lists of all GPUs. -/
def gpuKeys (gpus : List (Nat × List Nat)) : List RdcFieldKey :=
  gpus.flatMap fun p => p.2.map fun field => (p.1, field)

/-- **Sorting by GPU loses nothing.** -/
theorem gpuKeys_perm (fields : List RdcFieldKey) :
    (gpuKeys (bulkFields fields).toList).Perm (bulkKeys fields) := by
  have hshare : ∀ p ∈ (bulkFields fields).toList,
      (p.2.map fun field => (p.1, field)) = share gpuOf (some p.1) (bulkKeys fields) := by
    intro p hp
    have hget := ExtTreeMap.mem_toList_iff_getElem?_eq_some.mp hp
    rw [getElem?_bulkFields] at hget
    split at hget
    · simp at hget
    · rw [← Option.some.inj hget, List.map_map]
      refine (List.map_congr_left fun key hkey => ?_).trans (List.map_id _)
      have hgpu : key.1 = p.1 := Option.some.inj (mem_share.mp hkey).2
      exact Prod.ext hgpu.symm rfl
  have hkeys : gpuKeys (bulkFields fields).toList
      = ((bulkFields fields).toList.map Prod.fst).flatMap fun gpu =>
          share gpuOf (some gpu) (bulkKeys fields) := by
    unfold gpuKeys
    rw [List.flatMap_map]
    exact List.flatMap_congr hshare
  have hserved : ∀ key ∈ bulkKeys fields, ∀ gpu, gpuOf key = some gpu →
      gpu ∈ (bulkFields fields).keys := by
    intro key hkey gpu hgpu
    rw [ExtTreeMap.mem_keys, ExtTreeMap.mem_iff_isSome_getElem?, getElem?_bulkFields,
      if_neg (List.ne_nil_of_mem (mem_share.mpr ⟨hkey, hgpu⟩))]
    rfl
  have hnone : share gpuOf none (bulkKeys fields) = [] :=
    List.filter_eq_nil_iff.mpr fun key _ => by simp [gpuOf]
  rw [hkeys, ExtTreeMap.map_fst_toList_eq_keys]
  refine (List.Perm.of_eq ?_).trans (shares_perm ExtTreeMap.nodup_keys hserved)
  rw [hnone, List.append_nil]

/-! ## What the bulk fetch answers -/

/-- The metrics of its GPU have a value for the request. -/
def hasBulkData (metrics : Nat → AmdsmiStatus × AmdsmiGpuMetrics) (key : RdcFieldKey) : Bool :=
  (bulkData (metrics key.1).2 key.2).isSome

theorem map_key_bulkResults (now : Nat) (metrics : Nat → AmdsmiStatus × AmdsmiGpuMetrics)
    (gpu : Nat) (ids : List Nat) :
    (bulkResults now gpu (metrics gpu).2 ids).map RdcGpuFieldValue.key
      = (ids.map fun field => (gpu, field)).filter (hasBulkData metrics) := by
  induction ids with
  | nil => rfl
  | cons field ids ih =>
    unfold bulkResults at ih ⊢
    rw [List.map_cons, List.filter_cons, List.filterMap_cons]
    cases hdata : bulkData (metrics gpu).2 field with
    | none => simpa [hasBulkData, hdata] using ih
    | some data => simpa [hasBulkData, hdata, RdcGpuFieldValue.key] using ih

/-- The loop over the GPUs collects everything, if all metrics can be read. -/
theorem bulkLoop_of_success {now : Nat} {metrics : Nat → AmdsmiStatus × AmdsmiGpuMetrics}
    {gpus : List (Nat × List Nat)} (h : ∀ p ∈ gpus, (metrics p.1).1 = AmdsmiStatus.success)
    (results : List RdcGpuFieldValue) :
    (bulkLoop now metrics gpus results).2
      = results ++ gpus.flatMap fun p => bulkResults now p.1 (metrics p.1).2 p.2 := by
  induction gpus generalizing results with
  | nil => exact (List.append_nil _).symm
  | cons p gpus ih =>
    unfold bulkLoop
    dsimp only
    rw [if_neg (not_not.mpr (h p (List.mem_cons_self ..))),
      ih fun q hq => h q (List.mem_cons_of_mem _ hq), List.flatMap_cons, List.append_assoc]

theorem bulkLoop_of_failure {now : Nat} {metrics : Nat → AmdsmiStatus × AmdsmiGpuMetrics}
    {gpus : List (Nat × List Nat)} (h : ¬ ∀ p ∈ gpus, (metrics p.1).1 = AmdsmiStatus.success)
    (results : List RdcGpuFieldValue) : (bulkLoop now metrics gpus results).2 = [] := by
  induction gpus generalizing results with
  | nil => exact absurd (fun p hp => absurd hp List.not_mem_nil) h
  | cons p gpus ih =>
    unfold bulkLoop
    dsimp only
    split
    · rfl
    · rename_i hok
      refine ih (fun hall => h fun q hq => ?_) _
      rcases List.mem_cons.mp hq with heq | hmem
      · rw [heq]
        exact not_not.mp hok
      · exact hall q hmem

/-- The bulk fetch is enabled, has not failed before, and can read the metrics of each GPU it asks
for. -/
def BulkAnswers (lib : SmiLib) (a : ValueGetAnswers) (fields : List RdcFieldKey) : Prop :=
  lib.bulkFetchEnabled = true ∧ lib.bulkStatus = AmdsmiStatus.success
    ∧ ∀ key ∈ bulkKeys fields, (a.metrics key.1).1 = AmdsmiStatus.success

theorem forall_bulkFields_iff (fields : List RdcFieldKey) {P : Nat → Prop} :
    (∀ p ∈ (bulkFields fields).toList, P p.1) ↔ ∀ key ∈ bulkKeys fields, P key.1 := by
  constructor
  · intro h key hkey
    have hshare : key ∈ share gpuOf (some key.1) (bulkKeys fields) := mem_share.mpr ⟨hkey, rfl⟩
    have hget := getElem?_bulkFields fields key.1
    rw [if_neg (List.ne_nil_of_mem hshare)] at hget
    exact h _ (ExtTreeMap.mem_toList_iff_getElem?_eq_some.mpr hget)
  · intro h p hp
    have hget := ExtTreeMap.mem_toList_iff_getElem?_eq_some.mp hp
    rw [getElem?_bulkFields] at hget
    split at hget
    · simp at hget
    · rename_i hne
      obtain ⟨key, hkey⟩ := List.exists_mem_of_ne_nil _ hne
      obtain ⟨hmem, hgpu⟩ := mem_share.mp hkey
      rw [← Option.some.inj hgpu]
      exact h key hmem

section Answers

variable {lib : SmiLib} {a : ValueGetAnswers} {fields : List RdcFieldKey}

theorem bulkFetch_of_answers (h : BulkAnswers lib a fields) :
    (lib.bulkFetch a fields).2 = (bulkFields fields).toList.flatMap fun p =>
      bulkResults a.bulkNow p.1 (a.metrics p.1).2 p.2 := by
  unfold SmiLib.bulkFetch bulkFetchSmiFields
  rw [if_pos h.1, if_neg (not_not.mpr h.2.1), bulkLoop_of_success
    ((forall_bulkFields_iff fields
      (P := fun gpu => (a.metrics gpu).1 = AmdsmiStatus.success)).mpr h.2.2), List.nil_append]

theorem bulkFetch_of_not_answers (h : ¬ BulkAnswers lib a fields) :
    (lib.bulkFetch a fields).2 = [] := by
  unfold SmiLib.bulkFetch bulkFetchSmiFields
  split
  · rename_i henabled
    split
    · rfl
    · rename_i hstatus
      refine bulkLoop_of_failure (fun hall => h ⟨henabled, not_not.mp hstatus, ?_⟩) _
      exact (forall_bulkFields_iff fields
        (P := fun gpu => (a.metrics gpu).1 = AmdsmiStatus.success)).mp hall
  · rfl

/-- A value fetched in bulk is what the metrics have for it, with the time of the bulk fetch. -/
theorem mem_bulkFetch {v : RdcGpuFieldValue} (hv : v ∈ (lib.bulkFetch a fields).2) :
    v.fieldValue.status = AmdsmiStatus.success ∧ v.fieldValue.ts = a.bulkNow
      ∧ ∃ data, bulkData (a.metrics v.gpuIndex).2 v.fieldValue.fieldId = some data
        ∧ v.fieldValue.value = .lInt data := by
  have hanswers : BulkAnswers lib a fields := by
    by_contra hno
    rw [bulkFetch_of_not_answers hno] at hv
    exact absurd hv List.not_mem_nil
  rw [bulkFetch_of_answers hanswers] at hv
  obtain ⟨p, -, hv⟩ := List.mem_flatMap.mp hv
  obtain ⟨field, -, hfield⟩ := List.mem_filterMap.mp hv
  obtain ⟨data, hdata, rfl⟩ := Option.map_eq_some_iff.mp hfield
  exact ⟨rfl, rfl, data, hdata, rfl⟩

theorem map_key_bulkFetch (h : BulkAnswers lib a fields) :
    ((lib.bulkFetch a fields).2.map RdcGpuFieldValue.key).Perm
      (fields.filter fun key => hasBulkData a.metrics key && rdcBulkFields.contains key.2) := by
  have hkeys : (lib.bulkFetch a fields).2.map RdcGpuFieldValue.key
      = (gpuKeys (bulkFields fields).toList).filter (hasBulkData a.metrics) := by
    rw [bulkFetch_of_answers h]
    unfold gpuKeys
    rw [List.map_flatMap, List.filter_flatMap]
    exact List.flatMap_congr fun p _ => map_key_bulkResults a.bulkNow a.metrics p.1 p.2
  rw [hkeys, ← List.filter_filter]
  exact (gpuKeys_perm fields).filter _

end Answers

/-- **The bulk fetch answers the requests that pass a filter.** -/
theorem bulkFetch_perm (lib : SmiLib) (a : ValueGetAnswers) (fields : List RdcFieldKey) :
    ∃ p : RdcFieldKey → Bool,
      ((lib.bulkFetch a fields).2.map RdcGpuFieldValue.key).Perm (fields.filter p) := by
  by_cases h : BulkAnswers lib a fields
  · exact ⟨_, map_key_bulkFetch h⟩
  · refine ⟨fun _ => false, ?_⟩
    rw [bulkFetch_of_not_answers h, List.filter_false]
    exact List.Perm.refl _

end Rdc.Proof
