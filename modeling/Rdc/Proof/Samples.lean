import Rdc.Environment
import Rdc.Proof.Groups
import Rdc.Proof.Drain

/-!
# The samples and the record of one key

A key has a list of samples in the cache and, as long as somebody wants them, a record in
`fields_to_watch_`. The two belong to different classes and are changed by different loops. Here
each loop is described at one key: a delivery appends the valid values labelled with the key and
moves the record's timestamp, a clean-up evicts the samples of a key that has a record and then
drops the record if it has expired, and no other call touches a sample or moves a timestamp
(`Calm`).
-/

namespace Rdc.Proof

open Std (ExtTreeMap ReflCmp)
open Daemon OrdMap Machine

/-- The cached samples of a key. -/
def samplesOf (d : Daemon) (k : RdcFieldKey) : List RdcCacheEntry := d.cacheMgr.history k.1 k.2

/-- The timestamp of a key's record. -/
def updatedAt (d : Daemon) (k : RdcFieldKey) : Option Nat :=
  d.fieldsToWatch[k]?.map (·.lastUpdateTime)

theorem samplesOf_congr {d d' : Daemon}
    (h : d'.cacheMgr.cacheSamples = d.cacheMgr.cacheSamples) (k : RdcFieldKey) :
    samplesOf d' k = samplesOf d k := by
  unfold samplesOf CacheManager.history
  rw [h]

theorem samplesOf_init (k : RdcFieldKey) : samplesOf init k = [] := by
  show (∅ : KeyMap (List RdcCacheEntry))[(k.1, k.2)]?.getD [] = []
  rw [ExtTreeMap.getElem?_empty]
  rfl

/-! ## Delivery -/

/-- The sample that is made of a value. -/
def sampleOf (value : RdcFieldValue) : RdcCacheEntry := ⟨value.ts, value.type, value.value⟩

/-- The values labelled with `k`. -/
def labelled (k : RdcFieldKey) (values : List (Nat × RdcGpuFieldValue)) :
    List (Nat × RdcGpuFieldValue) := values.filter fun v => v.2.key = k

variable {k : RdcFieldKey} {values : List (Nat × RdcGpuFieldValue)} {d : Daemon}

theorem labelled_cons_of_eq {v : Nat × RdcGpuFieldValue} (h : v.2.key = k)
    (values : List (Nat × RdcGpuFieldValue)) : labelled k (v :: values) = v :: labelled k values :=
  List.filter_cons_of_pos (by simpa using h)

theorem labelled_cons_of_ne {v : Nat × RdcGpuFieldValue} (h : v.2.key ≠ k)
    (values : List (Nat × RdcGpuFieldValue)) : labelled k (v :: values) = labelled k values :=
  List.filter_cons_of_neg (by simpa using h)

/-- The samples that come of them: only valid results are cached. -/
def added (k : RdcFieldKey) (values : List (Nat × RdcGpuFieldValue)) : List RdcCacheEntry :=
  ((labelled k values).filter fun v => v.2.fieldValue.status = 0).map
    fun v => sampleOf v.2.fieldValue

theorem rdcUpdateJobStats_cacheSamples (c : CacheManager) (gpu : Nat) (j : JobId)
    (value : RdcFieldValue) :
    (c.rdcUpdateJobStats gpu j value).2.cacheSamples = c.cacheSamples := by
  unfold CacheManager.rdcUpdateJobStats
  repeat' split
  all_goals rfl

theorem history_rdcUpdateCache (c : CacheManager) (gpu : Nat) (value : RdcFieldValue)
    (k : RdcFieldKey) :
    (c.rdcUpdateCache gpu value).2.history k.1 k.2
      = c.history k.1 k.2 ++ if (gpu, value.fieldId) = k then [sampleOf value] else [] := by
  unfold CacheManager.rdcUpdateCache CacheManager.history
  dsimp only
  rw [ExtTreeMap.getElem?_alter]
  by_cases hk : (gpu, value.fieldId) = k
  · subst hk
    cases h : c.cacheSamples[(gpu, value.fieldId)]? <;> simp [sampleOf]
  · simp [hk]

theorem history_cacheValue (jobs : JobMap JobWatchTableEntry) (c : CacheManager) (gpu : Nat)
    (value : RdcFieldValue) (k : RdcFieldKey) :
    (cacheValue jobs c gpu value).history k.1 k.2
      = c.history k.1 k.2 ++ if (gpu, value.fieldId) = k then [sampleOf value] else [] := by
  rw [← history_rdcUpdateCache]
  unfold cacheValue
  dsimp only
  split
  · unfold CacheManager.history
    rw [rdcUpdateJobStats_cacheSamples]
  · rfl

theorem samplesOf_deliver (d : Daemon) (v : Nat × RdcGpuFieldValue) (k : RdcFieldKey) :
    samplesOf (d.deliver v.1 v.2.gpuIndex v.2.fieldValue) k = samplesOf d k ++ added k [v] := by
  unfold samplesOf deliver
  dsimp only
  by_cases hst : v.2.fieldValue.status = 0
  · rw [if_pos hst, history_cacheValue]
    by_cases hk : (v.2.gpuIndex, v.2.fieldValue.fieldId) = k
    · simp [added, labelled, RdcGpuFieldValue.key, hk, hst]
    · simp [added, labelled, RdcGpuFieldValue.key, hk]
  · rw [if_neg hst]
    by_cases hk : v.2.key = k
    · simp [added, labelled, hk, hst]
    · simp [added, labelled, hk]

theorem added_append (k : RdcFieldKey) (values values' : List (Nat × RdcGpuFieldValue)) :
    added k (values ++ values') = added k values ++ added k values' := by
  unfold added labelled
  rw [List.filter_append, List.filter_append, List.map_append]

/-- A list of deliveries appends, in order, the valid values labelled with the key. -/
theorem samplesOf_handleFields (d : Daemon) (values : List (Nat × RdcGpuFieldValue))
    (k : RdcFieldKey) : samplesOf (d.handleFields values) k = samplesOf d k ++ added k values := by
  induction values generalizing d with
  | nil => exact (List.append_nil _).symm
  | cons v values ih =>
    have hstep : d.handleFields (v :: values)
        = (d.deliver v.1 v.2.gpuIndex v.2.fieldValue).handleFields values := rfl
    have hsplit : added k (v :: values) = added k [v] ++ added k values :=
      added_append k [v] values
    rw [hstep, ih, samplesOf_deliver, hsplit, List.append_assoc]

/-- A list of deliveries leaves a record with the clock reading of the last value of its key. -/
theorem handleFields_record (d : Daemon) (values : List (Nat × RdcGpuFieldValue))
    (k : RdcFieldKey) :
    (d.handleFields values).fieldsToWatch[k]? = d.fieldsToWatch[k]?.map fun r =>
      { r with
        lastUpdateTime := ((labelled k values).getLast?.map Prod.fst).getD r.lastUpdateTime } := by
  induction values generalizing d with
  | nil =>
    show d.fieldsToWatch[k]? = _
    cases d.fieldsToWatch[k]? <;> rfl
  | cons v values ih =>
    have hstep : d.handleFields (v :: values)
        = (d.deliver v.1 v.2.gpuIndex v.2.fieldValue).handleFields values := rfl
    have hrec : (d.deliver v.1 v.2.gpuIndex v.2.fieldValue).fieldsToWatch[k]?
        = if v.2.key = k then d.fieldsToWatch[k]?.map fun r => { r with lastUpdateTime := v.1 }
          else d.fieldsToWatch[k]? := by
      show (d.fieldsToWatch.modify _ _)[k]? = _
      rw [getElem?_modify']
      by_cases hk : v.2.key = k
      · have hk' : (v.2.gpuIndex, v.2.fieldValue.fieldId) = k := hk
        rw [if_pos hk, if_pos hk', hk']
      · exact (if_neg hk).trans (if_neg hk).symm
    rw [hstep, ih, hrec]
    by_cases hk : v.2.key = k
    · rw [if_pos hk, labelled_cons_of_eq hk, Option.map_map]
      cases hlast : labelled k values with
      | nil => rfl
      | cons w ws => rw [List.getLast?_cons_cons]; rfl
    · rw [if_neg hk, labelled_cons_of_ne hk]

theorem rdcNotifUpdateCache_eq (d : Daemon) (events : List RdcEvntNotification) :
    (d.rdcNotifUpdateCache events).2
      = d.handleFields (events.map RdcEvntNotification.delivery) := by
  unfold rdcNotifUpdateCache handleFields
  split
  · rename_i hnil
    rw [hnil]
    rfl
  · rw [List.foldl_map]
    rfl

/-- No value is labelled with a key that is not among the labels. -/
theorem labelled_eq_nil (h : ∀ v ∈ values, v.2.key ≠ k) : labelled k values = [] := by
  refine List.filter_eq_nil_iff.mpr ?_
  intro v hv
  simpa using h v hv

theorem added_eq_nil (h : ∀ v ∈ values, v.2.key ≠ k) : added k values = [] := by
  unfold added
  rw [labelled_eq_nil h]
  rfl

theorem labelled_cases (k : RdcFieldKey) (h : (values.map fun v => v.2.key).Nodup) :
    labelled k values = [] ∨ ∃ v ∈ values, v.2.key = k ∧ labelled k values = [v] := by
  induction values with
  | nil => exact Or.inl rfl
  | cons v values ih =>
    rw [List.map_cons, List.nodup_cons] at h
    by_cases hk : v.2.key = k
    · right
      refine ⟨v, List.mem_cons_self .., hk, ?_⟩
      have hrest : labelled k values = [] := by
        refine labelled_eq_nil ?_
        intro w hw hwk
        refine h.1 (List.mem_map.mpr ⟨w, hw, ?_⟩)
        rw [hwk, hk]
      rw [labelled_cons_of_eq hk, hrest]
    · rw [labelled_cons_of_ne hk]
      rcases ih h.2 with h' | ⟨w, hw, hwk, h'⟩
      · exact Or.inl h'
      · exact Or.inr ⟨w, List.mem_cons_of_mem _ hw, hwk, h'⟩

/-! ## Clean-up -/

/-- What an eviction leaves of a list of samples. -/
def evicted (samples : Nat) (age : ℚ) (now : Nat) (xs : List RdcCacheEntry) : List RdcCacheEntry :=
  CacheManager.dropOld age now (xs.drop (CacheManager.itemRemove xs.length samples).toNat)

theorem evicted_nil (samples : Nat) (age : ℚ) (now : Nat) : evicted samples age now [] = [] := by
  unfold evicted
  rw [List.drop_nil]
  rfl

/-- An erasure in the list drops what it is to drop; one beyond its end would drop everything. -/
theorem eraseFront_cases (n : Int) (xs : List RdcCacheEntry) :
    (n ≤ xs.length ∧ CacheManager.eraseFront n xs = some (xs.drop n.toNat))
    ∨ ((xs.length : Int) < n ∧ CacheManager.eraseFront n xs = none ∧ xs.drop n.toNat = []) := by
  unfold CacheManager.eraseFront
  by_cases hpos : n > 0
  · rw [if_pos hpos]
    by_cases hle : n ≤ xs.length
    · exact .inl ⟨hle, if_pos hle⟩
    · exact .inr ⟨by omega, if_neg hle, List.drop_eq_nil_iff.mpr (by omega)⟩
  · rw [if_neg hpos, Int.toNat_eq_zero.mpr (by omega), List.drop_zero]
    exact .inl ⟨by omega, rfl⟩

theorem evictCache_of_ne_nil {c : CacheManager} {gpu field : Nat}
    (hne : c.history gpu field ≠ []) (samples : Nat) (age : ℚ) (now : Nat) :
    c.evictCache gpu field samples age now
      = (CacheManager.eraseFront (CacheManager.itemRemove (c.history gpu field).length samples)
          (c.history gpu field)).map fun values =>
        (.ok, { c with cacheSamples :=
          c.cacheSamples.insert (gpu, field) (CacheManager.dropOld age now values) }) := by
  unfold CacheManager.history at hne ⊢
  unfold CacheManager.evictCache
  split
  · rename_i h
    rw [h] at hne
    exact absurd rfl hne
  · rename_i h
    rw [h] at hne
    exact absurd rfl hne
  · rename_i h
    rw [h]
    rfl

theorem evictCache_of_nil {c : CacheManager} {gpu field : Nat} (hnil : c.history gpu field = [])
    (samples : Nat) (age : ℚ) (now : Nat) :
    c.evictCache gpu field samples age now = some (.notFound, c) := by
  unfold CacheManager.history at hnil
  unfold CacheManager.evictCache
  split
  · rfl
  · rfl
  · rename_i h
    rw [h] at hnil
    cases hnil

theorem history_insert (c : CacheManager) (key k : RdcFieldKey) (values : List RdcCacheEntry) :
    (CacheManager.mk (c.cacheSamples.insert key values) c.cacheJobs).history k.1 k.2
      = if key = k then values else c.history k.1 k.2 := by
  unfold CacheManager.history
  dsimp only
  rw [getElem?_insert']
  split <;> rfl

theorem history_evict (c : CacheManager) (gpu field samples : Nat) (age : ℚ) (now : Nat)
    (k : RdcFieldKey) :
    (c.evict gpu field samples age now).history k.1 k.2
      = if (gpu, field) = k then evicted samples age now (c.history k.1 k.2)
        else c.history k.1 k.2 := by
  unfold CacheManager.evict
  by_cases hnil : c.history gpu field = []
  · rw [evictCache_of_nil hnil]
    show c.history k.1 k.2 = _
    by_cases hk : (gpu, field) = k
    · subst hk
      rw [if_pos rfl, hnil, evicted_nil]
    · rw [if_neg hk]
  · rw [evictCache_of_ne_nil hnil]
    rcases eraseFront_cases (CacheManager.itemRemove (c.history gpu field).length samples)
      (c.history gpu field) with ⟨-, herase⟩ | ⟨-, herase, hdrop⟩
    · rw [herase]
      refine (history_insert ..).trans (if_ctx_congr Iff.rfl (fun hk => ?_) fun _ => rfl)
      rw [← hk]
      rfl
    · rw [herase]
      refine (history_insert ..).trans (if_ctx_congr Iff.rfl (fun hk => ?_) fun _ => rfl)
      rw [← hk, evicted, hdrop]
      rfl

/-- A clean-up evicts the samples of the keys that have a record, and of no other. -/
theorem samplesOf_cleanUp (d : Daemon) (clock : CleanUpClock) (k : RdcFieldKey) :
    samplesOf (d.cleanUp clock) k
      = d.fieldsToWatch[k]?.elim (samplesOf d k) fun r =>
          evicted r.maxKeepSamples r.maxKeepAge (clock.evict k) (samplesOf d k) := by
  refine get_foldl_toList d.fieldsToWatch _ (fun c k => c.history k.1 k.2)
    (fun k r xs => evicted r.maxKeepSamples r.maxKeepAge (clock.evict k) xs) ?_ d.cacheMgr k
  intro c p a
  show (c.evict p.1.1 p.1.2 _ _ _).history a.1 a.2 = _
  rw [history_evict]
  by_cases hp : p.1 = a
  · rw [if_pos hp, if_pos hp, hp]
  · rw [if_neg hp, if_neg hp]

theorem cleanUp_record (d : Daemon) (clock : CleanUpClock) (k : RdcFieldKey) :
    (d.cleanUp clock).fieldsToWatch[k]?
      = d.fieldsToWatch[k]?.filter fun r => !expired clock.now r := ExtTreeMap.getElem?_filter'

theorem dropOld_suffix (age : ℚ) (now : Nat) (xs : List RdcCacheEntry) :
    CacheManager.dropOld age now xs <:+ xs := by
  induction xs with
  | nil => exact List.suffix_rfl
  | cons x xs ih =>
    rw [CacheManager.dropOld]
    split
    · exact List.suffix_rfl
    · exact ih.trans (List.suffix_cons x xs)

theorem evicted_suffix (samples : Nat) (age : ℚ) (now : Nat) (xs : List RdcCacheEntry) :
    evicted samples age now xs <:+ xs :=
  (dropOld_suffix ..).trans (List.drop_suffix ..)

theorem dropOld_eq_nil {age : ℚ} {now : Nat} {xs : List RdcCacheEntry}
    (h : ∀ x ∈ xs, (x.lastTime : ℚ) + age * 1000 < now) : CacheManager.dropOld age now xs = [] := by
  induction xs with
  | nil => rfl
  | cons x xs ih =>
    have hx : ¬ (x.lastTime : ℚ) + age * 1000 ≥ now := not_le.mpr (h x (List.mem_cons_self ..))
    rw [CacheManager.dropOld, if_neg hx]
    exact ih fun y hy => h y (List.mem_cons_of_mem _ hy)

theorem evicted_eq_nil {samples : Nat} {age : ℚ} {now : Nat} {xs : List RdcCacheEntry}
    (h : ∀ x ∈ xs, (x.lastTime : ℚ) + age * 1000 < now) : evicted samples age now xs = [] :=
  dropOld_eq_nil fun x hx => h x (List.mem_of_mem_drop hx)

/-! ## What a call brings in -/

/-- The values a call hands to the daemon. When nothing is due, telemetry is not asked at all. -/
def brought (d : Daemon) : Op → List (Nat × RdcGpuFieldValue)
  | .fieldUpdateAll now delivered _ => if d.fieldsToFetch now = [] then [] else delivered
  | .notifUpdateCache events => events.map RdcEvntNotification.delivery
  | _ => []

section Update

variable {d : Daemon} {now : Nat} {delivered : List (Nat × RdcGpuFieldValue)} {clock : CleanUpClock}

theorem mem_fieldsToFetch :
    k ∈ d.fieldsToFetch now ↔ ∃ r, d.fieldsToWatch[k]? = some r ∧ r.isWatching = true
      ∧ u64Add r.lastUpdateTime (r.updateFreq / 1000) ≤ now := by
  unfold fieldsToFetch
  simp only [List.mem_map, List.mem_filter, Prod.exists, exists_and_right, exists_eq_right,
    ExtTreeMap.mem_toList_iff_getElem?_eq_some, Bool.and_eq_true, Bool.not_eq_true',
    decide_eq_false_iff_not, Nat.not_lt, gt_iff_lt]

theorem nodup_fieldsToFetch : (d.fieldsToFetch now).Nodup := by
  have hkeys : (d.fieldsToWatch.toList.map Prod.fst).Nodup := by
    rw [List.Nodup, List.pairwise_map]
    refine (ExtTreeMap.distinct_keys_toList (t := d.fieldsToWatch)).imp ?_
    intro p q hpq heq
    exact hpq (heq ▸ ReflCmp.compare_self)
  exact hkeys.sublist (List.filter_sublist.map _)

theorem fetched_samples (clock : CleanUpClock) (k : RdcFieldKey) :
    samplesOf (fetched d now delivered) k
      = samplesOf d k ++ added k (brought d (.fieldUpdateAll now delivered clock)) := by
  unfold fetched brought
  dsimp only
  split
  · exact (List.append_nil _).symm
  · exact samplesOf_handleFields _ delivered k

theorem fetched_record (clock : CleanUpClock) (k : RdcFieldKey) :
    (fetched d now delivered).fieldsToWatch[k]?
      = (d.handleFields (brought d (.fieldUpdateAll now delivered clock))).fieldsToWatch[k]? := by
  unfold fetched brought
  dsimp only
  split
  · rfl
  · rw [handleFields_record, handleFields_record]

/-- When the modules answer, what is delivered is what was asked for. -/
theorem brought_eq (h : Answers d (.fieldUpdateAll now delivered clock)) :
    brought d (.fieldUpdateAll now delivered clock) = delivered := by
  unfold brought
  dsimp only
  split
  · rename_i hnone
    have hperm : (delivered.map fun v => v.2.key).Perm [] := hnone ▸ h
    exact (List.map_eq_nil_iff.mp hperm.eq_nil).symm
  · rfl

end Update

/-! ## Every other call -/

/-- From `d` to `d'` no sample has changed and no record has moved its timestamp; records may be
new, and a new one starts at zero. -/
structure Calm (d d' : Daemon) : Prop where
  samples : d'.cacheMgr.cacheSamples = d.cacheMgr.cacheSamples
  updatedAt : ∀ k, updatedAt d' k = updatedAt d k
    ∨ (d.fieldsToWatch[k]? = none ∧ updatedAt d' k = some 0)

theorem Calm.refl (d : Daemon) : Calm d d := ⟨rfl, fun _ => Or.inl rfl⟩

theorem updatedAt_eq_none :
    updatedAt d k = none ↔ d.fieldsToWatch[k]? = none := Option.map_eq_none_iff

theorem updatedAt_of_record {r : FieldSettings} (hr : d.fieldsToWatch[k]? = some r) :
    updatedAt d k = some r.lastUpdateTime := by
  unfold updatedAt
  rw [hr]
  rfl

theorem Calm.trans {d d' d'' : Daemon} (h : Calm d d') (h' : Calm d' d'') : Calm d d'' := by
  refine ⟨h'.samples.trans h.samples, ?_⟩
  intro k
  rcases h'.updatedAt k with h2 | ⟨hnone, h2⟩
  · rcases h.updatedAt k with h1 | ⟨hnone, h1⟩
    · exact Or.inl (h2.trans h1)
    · exact Or.inr ⟨hnone, h2.trans h1⟩
  · rcases h.updatedAt k with h1 | ⟨_, h1⟩
    · refine Or.inr ⟨?_, h2⟩
      rw [← updatedAt_eq_none, ← h1]
      exact updatedAt_eq_none.mpr hnone
    · rw [updatedAt_eq_none.mpr hnone] at h1
      simp at h1

theorem calm_watch (tel : Telemetry) (d : Daemon) (g fg freq : Nat) (age : ℚ) (samples : Nat) :
    Calm d (d.rdcFieldWatch tel g fg freq age samples).2 := by
  refine ⟨by rw [(rdcFieldWatch_sameStores ..).2.1], ?_⟩
  intro k
  rcases rdcFieldWatch_cases tel d g fg freq age samples with
    ⟨_, _, heq⟩ | ⟨_, _, heq⟩ | ⟨_, _, F, calls, hF, heq⟩ <;> rw [heq]
  · exact Or.inl rfl
  · exact Or.inl rfl
  · show F[k]?.map _ = _ ∨ (_ ∧ F[k]?.map _ = _)
    by_cases hk : tel.supports k.2 = true ∧ d.groupSettings.Covers (g, fg) k
    · rw [(hF k).1 hk]
      cases hr : d.fieldsToWatch[k]? with
      | none => exact Or.inr ⟨rfl, rfl⟩
      | some r =>
        left
        exact (updatedAt_of_record hr).symm
    · rw [(hF k).2 hk]
      exact Or.inl rfl

/-- An unwatch changes the frequency and the flag of a record, and nothing else in it. -/
theorem map_record_unwatch {α : Type} {p : FieldSettings → α}
    (hp : ∀ least f, p (unwatchSettings least f) = p f) (d : Daemon) (g fg now : Nat)
    (k : RdcFieldKey) :
    (d.rdcFieldUnwatch g fg now).2.fieldsToWatch[k]?.map p = d.fieldsToWatch[k]?.map p := by
  rcases rdcFieldUnwatch_cases d g fg now with
    ⟨_, heq⟩ | ⟨entry, _, ⟨_, heq⟩ | ⟨_, _, F, calls, hF, heq⟩⟩ <;> rw [heq]
  · rfl
  · show F[k]?.map p = _
    by_cases hk : isNotificationEvent k.2 = false ∧ d.groupSettings.Covers (g, fg) k
    · obtain ⟨least, _, hget⟩ := (hF k).1 hk
      rw [hget, Option.map_map]
      exact congrArg (Option.map · _) (funext (hp least))
    · rw [(hF k).2 hk]

theorem updatedAt_unwatch (d : Daemon) (g fg now : Nat) (k : RdcFieldKey) :
    updatedAt (d.rdcFieldUnwatch g fg now).2 k = updatedAt d k :=
  map_record_unwatch (fun least _ => by cases least <;> rfl) d g fg now k

theorem calm_unwatch (d : Daemon) (g fg now : Nat) :
    Calm d (d.rdcFieldUnwatch g fg now).2 :=
  ⟨by rw [(rdcFieldUnwatch_sameStores ..).2.1], fun k => Or.inl (updatedAt_unwatch d g fg now k)⟩

/-- **Calls of clients.** They neither bring samples nor take them away. -/
theorem calm_exec (tel : Telemetry) (d : Daemon) {op : Op} (hop : ¬ Brings op) :
    Calm d (d.exec tel op).2 := by
  have hinv : ClientInv tel (fun _ => True) (Calm d) := {
    jobs := fun _ _ h => h.trans ⟨rfl, fun _ => Or.inl rfl⟩
    watch := fun _ _ _ _ _ _ h => h.trans (calm_watch ..)
    unwatch := fun _ _ _ h => h.trans (calm_unwatch ..) }
  refine hinv.exec (Calm.refl d) hop (fun _ _ => trivial) ?_
  intro hg
  obtain ⟨gs, hgs⟩ := exec_groupCall tel d hg
  rw [hgs]
  exact ⟨rfl, fun _ => Or.inl rfl⟩

/-! ## Only supported fields have records -/

/-- No key of an unsupported field has a record. -/
def OnlySupported (tel : Telemetry) (d : Daemon) : Prop :=
  ∀ k : RdcFieldKey, tel.supports k.2 = false → d.fieldsToWatch[k]? = none

theorem onlySupported_tableInv (tel : Telemetry) :
    TableInv tel (fun _ _ => True) (OnlySupported tel) where
  frame h hs := by
    intro k hk
    rw [hs.2.2]
    exact h k hk
  watch {d} g fg freq age samples h := by
    intro k hk
    rcases rdcFieldWatch_cases tel d g fg freq age samples with
      ⟨_, _, heq⟩ | ⟨_, _, heq⟩ | ⟨_, _, F, calls, hF, heq⟩ <;> rw [heq]
    · exact h k hk
    · exact h k hk
    · have hno : ¬ (tel.supports k.2 = true ∧ d.groupSettings.Covers (g, fg) k) := by
        simp [hk]
      exact ((hF k).2 hno).trans (h k hk)
  unwatch {d} g fg now _ h := by
    intro k hk
    rw [← updatedAt_eq_none, updatedAt_unwatch, updatedAt_eq_none]
    exact h k hk
  deliver {d} time gpu value h := by
    intro k hk
    rcases deliver_fieldsToWatch d time gpu value k with heq | ⟨r, hr, _⟩
    · rw [heq]
      exact h k hk
    · rw [h k hk] at hr
      simp at hr
  cleanUp {d} clock h := by
    intro k hk
    rw [cleanUp_record, h k hk]
    rfl
  harmless_frame _ _ := trivial
  harmless_unwatch _ _ _ _ := trivial

theorem onlySupported_exec {tel : Telemetry} (op : Op) (h : OnlySupported tel d) :
    OnlySupported tel (d.exec tel op).2 := by
  refine (onlySupported_tableInv tel).exec h (fun _ _ => trivial) ?_
  intro hg
  obtain ⟨gs, hgs⟩ := exec_groupCall tel d hg
  rw [hgs]
  exact h

theorem onlySupported_init (tel : Telemetry) : OnlySupported tel init :=
  fun _ _ => ExtTreeMap.getElem?_empty

end Rdc.Proof
