import Rdc.JobHistory
import Rdc.JobStats
import Rdc.Lib.RunningStats
import Rdc.Lib.Extremes
import Rdc.Proof.Delivery

/-!
# Running figures and the samples behind them

The figures a job keeps for a GPU are accounted for by the samples delivered to it since its start
(`Accounts`): the record of a field is the fold of `update` over the samples of this field, and the
energy that of the power samples. Every call keeps that, whatever it is about, so it holds after
every history of calls. What the fold computes is then a matter of lists: the extremes, the sum, and
by the recurrence of a running mean the mean and the squared deviations.
-/

namespace Rdc.Proof

open Std (ExtTreeMap)
open OrdMap Machine Daemon RunningStats Extremes

/-! ## One GPU of one job -/

/-- The figures of one GPU of one job. -/
def gpuStatsOf (c : CacheManager) (j : JobId) (gpu : Nat) : Option GpuSummaryStats :=
  c.cacheJobs[j]?.bind fun job => job.gpuStats[gpu]?

theorem statsOf_eq (c : CacheManager) (j : JobId) (k : RdcFieldKey) :
    statsOf c j k = (gpuStatsOf c j k.1).bind fun gstats => gstats.fieldSummaries[k.2]? := rfl

/-- What a sample does to the figures of its GPU. -/
def addSample (gstats : GpuSummaryStats) (value : RdcFieldValue) : GpuSummaryStats :=
  match gstats.fieldSummaries[value.fieldId]? with
  | none => gstats
  | some fsummary =>
    { gstats.updateEnergy fsummary.count value with
      fieldSummaries := gstats.fieldSummaries.insert value.fieldId (fsummary.update value) }

variable {gstats : GpuSummaryStats} {value : RdcFieldValue} {vs : List RdcFieldValue}
  {stats : FieldSummaryStats}

theorem addSample_none (h : gstats.fieldSummaries[value.fieldId]? = none) :
    addSample gstats value = gstats := by
  unfold addSample
  rw [h]

theorem addSample_some {fsummary : FieldSummaryStats}
    (h : gstats.fieldSummaries[value.fieldId]? = some fsummary) :
    addSample gstats value = { gstats.updateEnergy fsummary.count value with
      fieldSummaries := gstats.fieldSummaries.insert value.fieldId (fsummary.update value) } := by
  unfold addSample
  rw [h]

theorem getElem?_addSample (gstats : GpuSummaryStats) (value : RdcFieldValue) (field : Nat) :
    (addSample gstats value).fieldSummaries[field]?
      = if value.fieldId = field then gstats.fieldSummaries[field]?.map (·.update value)
        else gstats.fieldSummaries[field]? := by
  cases h : gstats.fieldSummaries[value.fieldId]? with
  | none =>
    rw [addSample_none h]
    split
    · rename_i hf
      rw [← hf, h]
      rfl
    · rfl
  | some fsummary =>
    rw [addSample_some h]
    dsimp only
    rw [getElem?_insert']
    split
    · rename_i hf
      rw [← hf, h]
      rfl
    · rfl

/-- **`rdc_update_job_stats`** changes the figures of one GPU of one job. -/
theorem gpuStatsOf_update (c : CacheManager) (gpu : Nat) (j : JobId) (value : RdcFieldValue)
    (j' : JobId) (gpu' : Nat) :
    gpuStatsOf (c.rdcUpdateJobStats gpu j value).2 j' gpu'
      = if j = j' ∧ gpu = gpu' then (gpuStatsOf c j' gpu').map (addSample · value)
        else gpuStatsOf c j' gpu' := by
  unfold CacheManager.rdcUpdateJobStats
  cases hj : c.cacheJobs[j]? with
  | none =>
    dsimp only
    split
    · rename_i h
      simp [gpuStatsOf, ← h.1, hj]
    · rfl
  | some job =>
    cases hg : job.gpuStats[gpu]? with
    | none =>
      simp only [hg]
      split
      · rename_i h
        simp [gpuStatsOf, ← h.1, ← h.2, hj, hg]
      · rfl
    | some gstats =>
      cases hs : gstats.fieldSummaries[value.fieldId]? with
      | none =>
        simp only [hg, hs]
        split
        · rename_i h
          simp [gpuStatsOf, ← h.1, ← h.2, hj, hg, addSample_none hs]
        · rfl
      | some fsummary =>
        simp only [hg, hs, gpuStatsOf, getElem?_insert', updateEnergy_fieldSummaries]
        by_cases hjj : j = j'
        · subst hjj
          by_cases hgg : gpu = gpu'
          · subst hgg
            simp [hj, hg, addSample_some hs]
          · simp [hj, hgg, getElem?_insert']
        · simp [hjj]

theorem statsOf_update (c : CacheManager) (gpu : Nat) (j : JobId) (value : RdcFieldValue)
    (j' : JobId) (k : RdcFieldKey) :
    statsOf (c.rdcUpdateJobStats gpu j value).2 j' k
      = if j = j' ∧ (gpu, value.fieldId) = k then (statsOf c j' k).map (·.update value)
        else statsOf c j' k := by
  rw [statsOf_eq, statsOf_eq, gpuStatsOf_update]
  obtain ⟨gpu', field⟩ := k
  by_cases hgpu : j = j' ∧ gpu = gpu'
  · rw [if_pos hgpu]
    cases gpuStatsOf c j' gpu' with
    | none => simp
    | some gstats =>
      have hget := getElem?_addSample gstats value field
      by_cases hf : value.fieldId = field
      · rw [if_pos hf] at hget
        simp [hgpu, hf, hget]
      · rw [if_neg hf] at hget
        simp [hf, hget]
  · rw [if_neg hgpu, if_neg fun h => hgpu ⟨h.1, congrArg Prod.fst h.2⟩]

theorem gpuStatsOf_stop (c : CacheManager) (j : JobId) (gauges : RdcGpuGauges) (time : Nat)
    (j' : JobId) (gpu : Nat) :
    gpuStatsOf (c.rdcJobStopStats j gauges time).2 j' gpu
      = if j = j' then (gpuStatsOf c j' gpu).map (CacheManager.stopGpuStats gauges gpu)
        else gpuStatsOf c j' gpu := by
  unfold CacheManager.rdcJobStopStats
  cases hj : c.cacheJobs[j]? with
  | none =>
    dsimp only
    split
    · rename_i h
      simp [gpuStatsOf, ← h, hj]
    · rfl
  | some job =>
    simp only [gpuStatsOf, getElem?_insert']
    by_cases h : j = j'
    · subst h
      simp [hj]
    · simp [h]

theorem gpuStatsOf_start (c : CacheManager) (j : JobId) (ginfo : RdcGroupInfo)
    (finfo : RdcFieldGroupInfo) (gauges : RdcGpuGauges) (time : Nat) (j' : JobId) (gpu : Nat) :
    gpuStatsOf (c.rdcJobStartStats j ginfo finfo gauges time).2 j' gpu
      = if j = j' then
          if gpu ∈ ginfo.entityIds then some (CacheManager.initGpuStats finfo gauges gpu) else none
        else gpuStatsOf c j' gpu := by
  unfold CacheManager.rdcJobStartStats gpuStatsOf
  dsimp only
  rw [insertIfNew_erase, getElem?_insert']
  split
  · have hget := getElem?_foldl_insertIfNew (CacheManager.initGpuStats finfo gauges)
      ginfo.entityIds (∅ : IdMap GpuSummaryStats) gpu
    rw [Option.bind_some]
    exact hget.trans (by simp)
  · rfl

/-! ## What the samples account for -/

/-- The record of a field after these samples. -/
def summaryOf (vs : List RdcFieldValue) : FieldSummaryStats := vs.foldl FieldSummaryStats.update {}

/-- What a power sample adds to the energy, with `last` the time the energy is counted from. -/
def addEnergy (last : Nat) (energy : Nat) (value : RdcFieldValue) : Nat :=
  let product : Int := (u64Sub value.ts last * value.value.lIntOf) % 2 ^ 64
  ((energy : ℚ) + product / (1000 * 1000000)).floor.toNat

/-- The energy members of a GPU after these power samples. -/
def energyOf : List RdcFieldValue → Nat × Nat
  | [] => (0, 0)
  | v :: vs => (vs.foldl (addEnergy v.ts) 0, v.ts)

theorem summaryOf_append (vs : List RdcFieldValue) (v : RdcFieldValue) :
    summaryOf (vs ++ [v]) = (summaryOf vs).update v := List.foldl_append ..

theorem count_summaryOf (vs : List RdcFieldValue) : (summaryOf vs).count = vs.length := by
  induction vs using List.reverseRecOn with
  | nil => rfl
  | append_singleton vs v ih => rw [summaryOf_append, update_count, ih, List.length_append]; rfl

/-- The samples of one field. -/
def ofField (vs : List RdcFieldValue) (field : Nat) : List RdcFieldValue :=
  vs.filter fun v => v.fieldId = field

theorem ofField_append (vs : List RdcFieldValue) (v : RdcFieldValue) (field : Nat) :
    ofField (vs ++ [v]) field
      = if v.fieldId = field then ofField vs field ++ [v] else ofField vs field := by
  unfold ofField
  rw [List.filter_append]
  split
  · rename_i h
    simp [h]
  · rename_i h
    simp [h]

/-- The figures of a GPU are those of the samples `vs`. -/
structure Accounts (gstats : GpuSummaryStats) (vs : List RdcFieldValue) : Prop where
  field : ∀ field stats, gstats.fieldSummaries[field]? = some stats →
    stats = summaryOf (ofField vs field)
  energy : rdcFiPowerUsage ∈ gstats.fieldSummaries →
    (gstats.energyConsumed, gstats.energyLastTime) = energyOf (ofField vs rdcFiPowerUsage)

theorem accounts_init (finfo : RdcFieldGroupInfo) (gauges : RdcGpuGauges) (gpu : Nat) :
    Accounts (CacheManager.initGpuStats finfo gauges gpu) [] := by
  refine ⟨fun field stats h => ?_, fun _ => rfl⟩
  have hget := getElem?_foldl_insertIfNew (fun _ => ({} : FieldSummaryStats)) finfo.fieldIds
    (∅ : IdMap FieldSummaryStats) field
  have hnew : (if field ∈ finfo.fieldIds then some ({} : FieldSummaryStats) else none)
      = some stats := by
    have hstart : (∅ : IdMap FieldSummaryStats)[field]? = none := ExtTreeMap.getElem?_empty
    rw [hstart, Option.none_or] at hget
    exact hget.symm.trans h
  split at hnew
  · exact (Option.some.inj hnew).symm
  · simp at hnew

theorem updateEnergy_other (h : value.fieldId ≠ rdcFiPowerUsage) (count : Nat) :
    gstats.updateEnergy count value = gstats := if_neg h

theorem updateEnergy_power (h : value.fieldId = rdcFiPowerUsage)
    (he : (gstats.energyConsumed, gstats.energyLastTime) = energyOf vs) :
    ((gstats.updateEnergy vs.length value).energyConsumed,
      (gstats.updateEnergy vs.length value).energyLastTime) = energyOf (vs ++ [value]) := by
  unfold GpuSummaryStats.updateEnergy
  rw [if_pos h]
  obtain ⟨hcons, hlast⟩ := Prod.mk.inj he
  cases vs with
  | nil => rw [if_pos List.length_nil]; exact congrArg (·, value.ts) hcons
  | cons v vs =>
    rw [if_neg (by simp)]
    dsimp only
    rw [hlast, hcons, List.cons_append, energyOf, List.foldl_append]
    rfl

/-- **One more sample.** -/
theorem Accounts.addSample (h : Accounts gstats vs) (v : RdcFieldValue) :
    Accounts (addSample gstats v) (vs ++ [v]) := by
  refine ⟨fun field stats hstats => ?_, fun hpower => ?_⟩
  · rw [getElem?_addSample] at hstats
    rw [ofField_append]
    split
    · rename_i hf
      rw [if_pos hf, Option.map_eq_some_iff] at hstats
      obtain ⟨old, hold, rfl⟩ := hstats
      rw [summaryOf_append, ← h.field field old hold]
    · rename_i hf
      rw [if_neg hf] at hstats
      exact h.field field stats hstats
  · cases hs : gstats.fieldSummaries[v.fieldId]? with
    | none =>
      rw [addSample_none hs] at hpower ⊢
      have hne : v.fieldId ≠ rdcFiPowerUsage := by
        intro heq
        rw [heq] at hs
        exact (not_mem_iff_getElem? _ _).mpr hs hpower
      rw [ofField_append, if_neg hne]
      exact h.energy hpower
    | some fsummary =>
      have hcount : fsummary.count = (ofField vs v.fieldId).length := by
        rw [h.field _ _ hs, count_summaryOf]
      rw [addSample_some hs] at hpower ⊢
      have hold : rdcFiPowerUsage ∈ gstats.fieldSummaries := by
        rcases ExtTreeMap.mem_insert.mp hpower with heq | hmem
        · rw [← Std.LawfulEqCmp.eq_of_compare heq]
          exact mem_of_getElem? hs
        · exact hmem
      rw [ofField_append]
      by_cases hf : v.fieldId = rdcFiPowerUsage
      · rw [if_pos hf, hcount, hf]
        exact updateEnergy_power hf (h.energy hold)
      · rw [if_neg hf, updateEnergy_other hf]
        exact h.energy hold

theorem Accounts.stop (h : Accounts gstats vs) (gauges : RdcGpuGauges) (gpu : Nat) :
    Accounts (CacheManager.stopGpuStats gauges gpu gstats) vs := ⟨h.field, h.energy⟩

/-! ## Every history -/

/-- All figures are accounted for. -/
def AllAccount (h : JobHistory) : Prop :=
  ∀ j gpu gstats, gpuStatsOf h.cache j gpu = some gstats → Accounts gstats (h.gpuSamples j gpu)

theorem gpuSamples_start (h : JobHistory) (c : CacheManager) (j j' : JobId) (gpu : Nat) :
    JobHistory.gpuSamples ⟨c, Function.update h.delivered j []⟩ j' gpu
      = if j = j' then [] else h.gpuSamples j' gpu := by
  unfold JobHistory.gpuSamples
  by_cases hj : j = j'
  · subst hj
    simp
  · simp [hj, Function.update_of_ne (Ne.symm hj)]

theorem gpuSamples_sample (h : JobHistory) (c : CacheManager) (gpu : Nat) (j : JobId)
    (value : RdcFieldValue) (j' : JobId) (gpu' : Nat) :
    JobHistory.gpuSamples
        ⟨c, Function.update h.delivered j (h.delivered j ++ [⟨gpu, value⟩])⟩ j' gpu'
      = if j = j' ∧ gpu = gpu' then h.gpuSamples j' gpu' ++ [value] else h.gpuSamples j' gpu' := by
  unfold JobHistory.gpuSamples
  by_cases hj : j = j'
  · subst hj
    by_cases hgpu : gpu = gpu'
    · simp [hgpu]
    · simp [hgpu]
  · simp [hj, Function.update_of_ne (Ne.symm hj)]

theorem allAccount_init : AllAccount JobHistory.init := by
  intro j gpu gstats h
  exact absurd h (by simp [gpuStatsOf, JobHistory.init, CacheManager.init])

/-- **No call breaks the account.** -/
theorem allAccount_exec {h : JobHistory} (hacc : AllAccount h) (op : JobOp) :
    AllAccount (h.exec op).2 := by
  intro j' gpu' gstats hget
  cases op with
  | start j ginfo finfo gauges time =>
    have hget' := (gpuStatsOf_start h.cache j ginfo finfo gauges time j' gpu').symm.trans hget
    refine (gpuSamples_start h _ j j' gpu').symm ▸ ?_
    by_cases hj : j = j'
    · rw [if_pos hj] at hget' ⊢
      split at hget'
      · rw [← Option.some.inj hget']
        exact accounts_init finfo gauges gpu'
      · simp at hget'
    · rw [if_neg hj] at hget' ⊢
      exact hacc j' gpu' gstats hget'
  | sample gpu j value =>
    have hget' := (gpuStatsOf_update h.cache gpu j value j' gpu').symm.trans hget
    refine (gpuSamples_sample h _ gpu j value j' gpu').symm ▸ ?_
    by_cases hj : j = j' ∧ gpu = gpu'
    · rw [if_pos hj] at hget' ⊢
      obtain ⟨old, hold, rfl⟩ := Option.map_eq_some_iff.mp hget'
      exact (hacc j' gpu' old hold).addSample value
    · rw [if_neg hj] at hget' ⊢
      exact hacc j' gpu' gstats hget'
  | stop j gauges time =>
    have hget' := (gpuStatsOf_stop h.cache j gauges time j' gpu').symm.trans hget
    by_cases hj : j = j'
    · rw [if_pos hj] at hget'
      obtain ⟨old, hold, rfl⟩ := Option.map_eq_some_iff.mp hget'
      exact (hacc j' gpu' old hold).stop gauges gpu'
    · rw [if_neg hj] at hget'
      exact hacc j' gpu' gstats hget'
  | remove j =>
    refine hacc j' gpu' gstats ?_
    obtain ⟨job, hjob, hgpu⟩ := Option.bind_eq_some_iff.mp hget
    exact Option.bind_eq_some_iff.mpr ⟨job, (getElem?_erase_some hjob).2, hgpu⟩
  | removeAll =>
    obtain ⟨job, hjob, -⟩ := Option.bind_eq_some_iff.mp hget
    exact absurd hjob (by simp [JobHistory.exec, CacheManager.rdcJobRemoveAll])

theorem allAccount_after (ops : List JobOp) : AllAccount (JobHistory.after ops) :=
  run_invariant (I := AllAccount) (fun _ op h => allAccount_exec h op) allAccount_init ops

theorem statsOf_after {ops : List JobOp} {j : JobId} {k : RdcFieldKey}
    (h : statsOf (JobHistory.after ops).cache j k = some stats) :
    stats = summaryOf ((JobHistory.after ops).samples j k) := by
  obtain ⟨gstats, hgpu, hfield⟩ := Option.bind_eq_some_iff.mp ((statsOf_eq _ j k).symm.trans h)
  exact (allAccount_after ops j k.1 gstats hgpu).field k.2 stats hfield

/-! ## What the fold computes -/

/-- The numbers in the samples. -/
def numbers (vs : List RdcFieldValue) : List Int := vs.map (·.value.lIntOf)

/-- The same as rational numbers. -/
def rationals (xs : List Int) : List ℚ := xs.map fun x => (x : ℚ)

/-- The record holds the statistics of `xs`. -/
structure BatchOf (stats : FieldSummaryStats) (xs : List Int) : Prop where
  count : stats.count = xs.length
  maxValue : IsGreatest {x | x ∈ xs} stats.maxValue
  minValue : IsLeast {x | x ∈ xs} stats.minValue
  totalValue : stats.totalValue = xs.sum
  newM : stats.newM = mean (rationals xs)
  newS : 2 ≤ xs.length → stats.newS = squares (rationals xs)

/-- What the recurrence carries along. The first sample does not write `new_s`. -/
structure RunningOf (stats : FieldSummaryStats) (xs : List Int) : Prop
    extends BatchOf stats xs where
  oldM : stats.oldM = mean (rationals xs)
  oldS : stats.oldS = squares (rationals xs)

theorem runningOf_first (stats : FieldSummaryStats) (h : stats.count = 0) (v : RdcFieldValue) :
    RunningOf (stats.update v) [v.value.lIntOf] := by
  unfold FieldSummaryStats.update
  rw [if_pos h]
  unfold FieldSummaryStats.firstItem
  refine ⟨⟨rfl, ?_, ?_, ?_, ?_, ?_⟩, ?_, ?_⟩
  · simp
  · simp
  · simp
  · simp [rationals]
  · intro hlen
    simp at hlen
  · simp [rationals]
  · simp [rationals]

/-- **One more sample.** -/
theorem RunningOf.next {xs : List Int} (h : RunningOf stats xs) (hne : xs ≠ [])
    (v : RdcFieldValue) : RunningOf (stats.update v) (xs ++ [v.value.lIntOf]) := by
  have hcount : stats.count ≠ 0 := by
    rw [h.count]
    exact fun hnil => hne (List.length_eq_zero_iff.mp hnil)
  have hrat : rationals (xs ++ [v.value.lIntOf]) = rationals xs ++ [(v.value.lIntOf : ℚ)] := by
    simp [rationals]
  have hmean : stats.oldM + (v.value.lIntOf - stats.oldM) / (stats.count + 1 : Nat)
      = mean (rationals xs ++ [(v.value.lIntOf : ℚ)]) := by
    rw [mean_append, h.oldM, h.count]
    simp [rationals]
  have hsquares : stats.oldS + (v.value.lIntOf - stats.oldM)
        * (v.value.lIntOf - mean (rationals xs ++ [(v.value.lIntOf : ℚ)]))
      = squares (rationals xs ++ [(v.value.lIntOf : ℚ)]) := by
    rw [squares_append, h.oldM, h.oldS]
  unfold FieldSummaryStats.update
  rw [if_neg hcount]
  unfold FieldSummaryStats.nextItem
  dsimp only
  rw [hmean, hsquares]
  refine ⟨⟨?_, isGreatest_append h.maxValue _, isLeast_append h.minValue _, ?_, ?_, ?_⟩, ?_, ?_⟩
  · rw [h.count, List.length_append]
    rfl
  · rw [h.totalValue, List.sum_append, List.sum_singleton]
  · rw [hrat]
  · intro _
    rw [hrat]
  · rw [hrat]
  · rw [hrat]

/-- **The fold computes the statistics of the samples.** -/
theorem runningOf_summaryOf (hne : vs ≠ []) : RunningOf (summaryOf vs) (numbers vs) := by
  induction vs using List.reverseRecOn with
  | nil => exact absurd rfl hne
  | append_singleton vs v ih =>
    rw [summaryOf_append]
    by_cases hvs : vs = []
    · subst hvs
      exact runningOf_first _ rfl v
    · have hnum : numbers (vs ++ [v]) = numbers vs ++ [v.value.lIntOf] := by simp [numbers]
      rw [hnum]
      exact (ih hvs).next (by simpa [numbers] using hvs) v

/-- The sample variance. -/
def sampleVariance (xs : List Int) : ℚ := squares (rationals xs) / ((xs.length : ℚ) - 1)

theorem BatchOf.standardDeviation {xs : List Int} (h : BatchOf stats xs) (hlen : 2 ≤ xs.length)
    (sqrt : ℚ → ℚ) (adjuster : Nat) (gpu : RdcStatsSummary) :
    (gpu.set sqrt stats adjuster).standardDeviation = sqrt (sampleVariance xs) / adjuster := by
  have hcount : stats.count ≠ 0 := by
    rw [h.count]
    omega
  have hmany : stats.count > 1 := by
    rw [h.count]
    omega
  unfold RdcStatsSummary.set
  rw [if_neg hcount, if_pos hmany, h.newS hlen, h.count]
  rfl

/-- **Streaming statistics are batch statistics.** After any history, the record of a field with
samples holds the statistics of everything delivered to it since the job was started; the reported
deviation is that of the sample variance; and one more sample changes no other record. -/
theorem statistics_eq_batch (ops : List JobOp) (j : JobId) (k : RdcFieldKey)
    (stats : FieldSummaryStats) (hstats : statsOf (JobHistory.after ops).cache j k = some stats)
    (hne : (JobHistory.after ops).samples j k ≠ []) :
    BatchOf stats (numbers ((JobHistory.after ops).samples j k))
    ∧ (2 ≤ (numbers ((JobHistory.after ops).samples j k)).length →
        ∀ (sqrt : ℚ → ℚ) (adjuster : Nat) (gpu : RdcStatsSummary),
          (gpu.set sqrt stats adjuster).standardDeviation
            = sqrt (sampleVariance (numbers ((JobHistory.after ops).samples j k))) / adjuster)
    ∧ ∀ value : RdcFieldValue, value.fieldId = k.2 → ∀ (j' : JobId) (k' : RdcFieldKey),
        (j', k') ≠ (j, k) →
          statsOf ((JobHistory.after ops).exec (.sample k.1 j value)).2.cache j' k'
            = statsOf (JobHistory.after ops).cache j' k' := by
  have hbatch : BatchOf stats (numbers ((JobHistory.after ops).samples j k)) := by
    rw [statsOf_after hstats]
    exact (runningOf_summaryOf hne).toBatchOf
  refine ⟨hbatch, fun hlen sqrt adjuster gpu => hbatch.standardDeviation hlen sqrt adjuster gpu, ?_⟩
  intro value hfield j' k' hother
  refine (statsOf_update _ k.1 j value j' k').trans (if_neg ?_)
  rintro ⟨rfl, rfl⟩
  exact hother (by rw [hfield])

/-- GPU 0 alone, and its power alone. -/
def onlyGpu : RdcGroupInfo := ⟨[103], [0], by decide, by decide⟩

def onlyPower : RdcFieldGroupInfo := ⟨[102], [rdcFiPowerUsage], by decide⟩

/-- A reading of the power, in microwatts. -/
def powerReading (ts : Nat) (microwatts : Int) : RdcFieldValue :=
  ⟨rdcFiPowerUsage, 0, ts, .integer, .lInt microwatts⟩

/-- A job on GPU 0 with three samples. -/
def threeSamples : List JobOp :=
  [.start jobA onlyGpu onlyPower ∅ 5, .sample 0 jobA (powerReading 10 1),
    .sample 0 jobA (powerReading 20 2), .sample 0 jobA (powerReading 30 6)]

theorem statistics_eq_batch_threeSamples :
    ∃ stats, statsOf (JobHistory.after threeSamples).cache jobA (0, rdcFiPowerUsage) = some stats
      ∧ BatchOf stats [1, 2, 6] ∧ stats.newS = 14 := by
  have hsome : (statsOf (JobHistory.after threeSamples).cache jobA (0, rdcFiPowerUsage)).isSome
      = true := by decide +kernel
  obtain ⟨stats, hstats⟩ := Option.isSome_iff_exists.mp hsome
  have hsamples : numbers ((JobHistory.after threeSamples).samples jobA (0, rdcFiPowerUsage))
      = [1, 2, 6] := by decide +kernel
  have hne : (JobHistory.after threeSamples).samples jobA (0, rdcFiPowerUsage) ≠ [] := by
    decide +kernel
  have hbatch := (statistics_eq_batch threeSamples jobA (0, rdcFiPowerUsage) stats hstats hne).1
  rw [hsamples] at hbatch
  refine ⟨stats, hstats, hbatch, ?_⟩
  rw [hbatch.newS (by decide)]
  decide +kernel

end Rdc.Proof
