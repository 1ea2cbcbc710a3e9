import Rdc.Proof.JobReport
import Rdc.Proof.Statistics
import Mathlib.Algebra.Order.BigOperators.Group.List

/-!
# Averages of a job

The average of a metric is taken in two steps, both with integers: for each GPU with samples the sum
of the samples by their number, and for the job the sum of these averages by the number of GPUs. The
second number counts GPUs without samples too. So the average of the job can never be too large, and
it is too small as soon as the GPUs without samples weigh enough.

The memory utilisation is a percentage because its samples are divided by a hundredth of the total
memory. That number is rounded down and then cut to 32 bits, and it can come out as zero.
-/

namespace Rdc.Proof

open Std (ExtTreeMap)
open OrdMap Machine

/-! ## The metric of one GPU -/

theorem u64OfInt_of_lt {x : Int} (h0 : 0 ≤ x) (h : x < 2 ^ 64) : u64OfInt x = x.toNat := by
  unfold u64OfInt
  rw [Int.emod_eq_of_lt h0 h]

theorem u64OfInt_tdiv {x : Int} (h0 : 0 ≤ x) (h : x < 2 ^ 64) (adjuster : Nat) :
    u64OfInt (x.tdiv adjuster) = x.toNat / adjuster := by
  obtain ⟨n, rfl⟩ := Int.eq_ofNat_of_zero_le h0
  have hle : n / adjuster ≤ n := Nat.div_le_self n adjuster
  rw [← Int.ofNat_tdiv, u64OfInt_of_lt (Int.natCast_nonneg _) (by omega), Int.toNat_natCast,
    Int.toNat_natCast]

/-- The samples are numbers that the statistics can hold. -/
def Sound (xs : List Int) : Prop := ∀ x ∈ xs, 0 ≤ x ∧ x < 2 ^ 63

/-- The sum of the samples, as it is stored. -/
def storedSum (xs : List Int) : Nat := u64OfInt xs.sum

theorem storedSum_le {xs : List Int} (hx : Sound xs) {m : Int} (hm : ∀ x ∈ xs, x ≤ m)
    (hm0 : 0 ≤ m) : storedSum xs ≤ xs.length * m.toNat := by
  have hsum : xs.sum ≤ xs.length • m := List.sum_le_card_nsmul xs m hm
  have hnonneg : 0 ≤ xs.sum := List.sum_nonneg fun x h => (hx x h).1
  obtain ⟨n, rfl⟩ := Int.eq_ofNat_of_zero_le hm0
  have hmod : xs.sum % 2 ^ 64 ≤ xs.sum := by omega
  have hle : xs.sum % 2 ^ 64 ≤ ((xs.length * n : Nat) : Int) := by
    rw [nsmul_eq_mul] at hsum
    push_cast
    exact hmod.trans hsum
  unfold storedSum u64OfInt
  rw [Int.toNat_natCast]
  omega

section Gpu

variable (sqrt : ℚ → ℚ) {stats : FieldSummaryStats} {xs : List Int}

theorem set_of_batch (h : BatchOf stats xs) (hne : xs ≠ []) (hx : Sound xs) (adjuster : Nat) :
    (emptySummary.set sqrt stats adjuster).maxValue = stats.maxValue.toNat / adjuster
      ∧ (emptySummary.set sqrt stats adjuster).minValue = stats.minValue.toNat / adjuster
      ∧ (emptySummary.set sqrt stats adjuster).average
        = storedSum xs / xs.length / adjuster := by
  have hcount : stats.count ≠ 0 := by
    rw [h.count]
    exact fun hnil => hne (List.length_eq_zero_iff.mp hnil)
  obtain ⟨hmax0, hmax⟩ := hx _ h.maxValue.1
  obtain ⟨hmin0, hmin⟩ := hx _ h.minValue.1
  unfold RdcStatsSummary.set
  rw [if_neg hcount]
  refine ⟨u64OfInt_tdiv hmax0 (by omega) adjuster, u64OfInt_tdiv hmin0 (by omega) adjuster, ?_⟩
  dsimp only
  rw [h.totalValue, h.count]
  rfl

theorem set_average_le_maxValue (h : BatchOf stats xs) (hne : xs ≠ []) (hx : Sound xs)
    (adjuster : Nat) :
    (emptySummary.set sqrt stats adjuster).average
      ≤ (emptySummary.set sqrt stats adjuster).maxValue := by
  obtain ⟨hmax, -, haverage⟩ := set_of_batch sqrt h hne hx adjuster
  rw [hmax, haverage]
  refine Nat.div_le_div_right (Nat.div_le_of_le_mul ?_)
  exact storedSum_le hx (fun x hmem => h.maxValue.2 hmem) (hx _ h.maxValue.1).1

end Gpu

/-! ## The GPUs with samples -/

/-- The GPU has samples for the metric. -/
def hasSamples (m : Metric) (gstats : GpuSummaryStats) : Bool :=
  match gstats.fieldSummaries[metricField m]? with
  | none => false
  | some stats => stats.count != 0

/-- The GPUs of a job that have samples for the metric. -/
def sampledGpus (job : RdcJobStatsCacheEntry) (m : Metric) : List Nat :=
  (job.gpuStats.toList.filter fun p => hasSamples m p.2).map Prod.fst

variable {m : Metric}

theorem mem_sampledGpus {job : RdcJobStatsCacheEntry} {gpu : Nat} :
    gpu ∈ sampledGpus job m ↔ ∃ gstats stats, job.gpuStats[gpu]? = some gstats
      ∧ gstats.fieldSummaries[metricField m]? = some stats ∧ stats.count ≠ 0 := by
  unfold sampledGpus
  rw [List.mem_map]
  constructor
  · rintro ⟨⟨gpu', gstats⟩, hp, rfl⟩
    obtain ⟨hmem, hsamples⟩ := List.mem_filter.mp hp
    unfold hasSamples at hsamples
    split at hsamples
    · simp at hsamples
    · rename_i stats hstats
      exact ⟨gstats, stats, ExtTreeMap.mem_toList_iff_getElem?_eq_some.mp hmem, hstats,
        bne_iff_ne.mp hsamples⟩
  · rintro ⟨gstats, stats, hgpu, hstats, hcount⟩
    refine ⟨(gpu, gstats), List.mem_filter.mpr
      ⟨ExtTreeMap.mem_toList_iff_getElem?_eq_some.mpr hgpu, ?_⟩, rfl⟩
    unfold hasSamples
    rw [hstats]
    exact bne_iff_ne.mpr hcount

/-- The averages a report gives for some GPUs. -/
def reportedAverages (info : RdcJobInfo) (m : Metric) (gpus : List Nat) : List Nat :=
  gpus.filterMap fun gpu => info.gpus[gpu]?.map fun record => (m.get record).average

section Sampled

variable {sqrt : ℚ → ℚ} {job : RdcJobStatsCacheEntry} {gauges : RdcGpuGauges}

theorem sampledMetric_eq_none {p : Nat × GpuSummaryStats} :
    sampledMetric sqrt gauges m p = none ↔ hasSamples m p.2 = false := by
  unfold sampledMetric hasSamples
  cases p.2.fieldSummaries[metricField m]? with
  | none => simp
  | some stats => by_cases hcount : stats.count = 0 <;> simp [hcount]

theorem reported_metric (hin : ∀ gpu ∈ job.gpuStats, gpu < jobInfoGpus) {gpu : Nat}
    {gstats : GpuSummaryStats} (hgpu : job.gpuStats[gpu]? = some gstats) {s : RdcStatsSummary}
    (hs : sampledMetric sqrt gauges m (gpu, gstats) = some s) (now : Nat) (info : RdcJobInfo) :
    ∃ record, (closed sqrt now job gauges info).gpus[gpu]? = some record ∧ m.get record = s := by
  obtain ⟨old, hold⟩ := exists_record info (hin gpu (mem_of_getElem? hgpu))
  refine ⟨_, ?_, metric_gpuRecord sqrt job (reportEndTime job now) gauges hs old⟩
  rw [getElem?_gpus_closed sqrt now hgpu, hold]
  rfl

theorem exists_sampledMetric (sqrt : ℚ → ℚ) (gauges : RdcGpuGauges) {gpu : Nat}
    (h : gpu ∈ sampledGpus job m) : ∃ gstats s, job.gpuStats[gpu]? = some gstats
      ∧ sampledMetric sqrt gauges m (gpu, gstats) = some s := by
  obtain ⟨gstats, stats, hgpu, hstats, hcount⟩ := mem_sampledGpus.mp h
  have hsome : sampledMetric sqrt gauges m (gpu, gstats) ≠ none := by
    unfold sampledMetric
    rw [hstats]
    simp [hcount]
  obtain ⟨s, hs⟩ := Option.ne_none_iff_exists'.mp hsome
  exact ⟨gstats, s, hgpu, hs⟩

/-- What goes into the summary, one figure for each GPU with samples. -/
theorem map_sampledMetric {f : RdcStatsSummary → Nat} {g : Nat → Nat}
    (h : ∀ gpu gstats s, job.gpuStats[gpu]? = some gstats →
      sampledMetric sqrt gauges m (gpu, gstats) = some s → f s = g gpu) :
    (job.gpuStats.toList.filterMap (sampledMetric sqrt gauges m)).map f
      = (sampledGpus job m).map g := by
  have hlist : ∀ ps : List (Nat × GpuSummaryStats),
      (∀ p ∈ ps, job.gpuStats[p.1]? = some p.2) →
      (ps.filterMap (sampledMetric sqrt gauges m)).map f
        = ((ps.filter fun p => hasSamples m p.2).map Prod.fst).map g := by
    intro ps
    induction ps with
    | nil => exact fun _ => rfl
    | cons p ps ih =>
      intro hps
      have hrest := ih fun q hq => hps q (List.mem_cons_of_mem _ hq)
      cases hs : sampledMetric sqrt gauges m p with
      | none =>
        rw [List.filter_cons_of_neg (by simp [sampledMetric_eq_none.mp hs]),
          List.filterMap_cons, hs]
        exact hrest
      | some s =>
        have hsamples : hasSamples m p.2 = true := by
          by_contra hno
          rw [sampledMetric_eq_none.mpr (Bool.eq_false_iff.mpr hno)] at hs
          simp at hs
        rw [List.filter_cons, if_pos hsamples, List.filterMap_cons, hs, List.map_cons,
          List.map_cons, List.map_cons, hrest, h p.1 p.2 s (hps p (List.mem_cons_self ..)) hs]
  exact hlist job.gpuStats.toList fun p hp => ExtTreeMap.mem_toList_iff_getElem?_eq_some.mp hp

theorem exists_sampledMetric_iff {P : RdcStatsSummary → Prop} {Q : Nat → Prop}
    (h : ∀ gpu gstats s, job.gpuStats[gpu]? = some gstats →
      sampledMetric sqrt gauges m (gpu, gstats) = some s → (P s ↔ Q gpu)) :
    (∃ s ∈ job.gpuStats.toList.filterMap (sampledMetric sqrt gauges m), P s)
      ↔ ∃ gpu ∈ sampledGpus job m, Q gpu := by
  constructor
  · rintro ⟨s, hmem, hP⟩
    obtain ⟨⟨gpu, gstats⟩, hp, hs⟩ := List.mem_filterMap.mp hmem
    have hgpu := ExtTreeMap.mem_toList_iff_getElem?_eq_some.mp hp
    refine ⟨gpu, List.mem_map.mpr ⟨(gpu, gstats), List.mem_filter.mpr ⟨hp, ?_⟩, rfl⟩,
      (h gpu gstats s hgpu hs).mp hP⟩
    by_contra hno
    rw [sampledMetric_eq_none.mpr (Bool.eq_false_iff.mpr hno)] at hs
    simp at hs
  · rintro ⟨gpu, hmem, hQ⟩
    obtain ⟨gstats, s, hgpu, hs⟩ := exists_sampledMetric sqrt gauges hmem
    exact ⟨s, List.mem_filterMap.mpr
      ⟨(gpu, gstats), ExtTreeMap.mem_toList_iff_getElem?_eq_some.mpr hgpu, hs⟩,
      (h gpu gstats s hgpu hs).mpr hQ⟩

end Sampled

/-! ## The summary of the job -/

section Merge

theorem foldl_merge_maxValue (gs : List RdcStatsSummary) (s : RdcStatsSummary) :
    s.maxValue ≤ (gs.foldl merge s).maxValue
      ∧ ∀ g ∈ gs, g.maxValue ≤ (gs.foldl merge s).maxValue := by
  induction gs generalizing s with
  | nil => exact ⟨Nat.le_refl _, fun g hg => absurd hg List.not_mem_nil⟩
  | cons g gs ih =>
    obtain ⟨hstart, hall⟩ := ih (merge s g)
    refine ⟨(Nat.le_max_left _ _).trans hstart, fun g' hg' => ?_⟩
    rcases List.mem_cons.mp hg' with rfl | htail
    · exact (Nat.le_max_right _ _).trans hstart
    · exact hall g' htail

theorem foldl_merge_minValue_le {gs : List RdcStatsSummary} {s : RdcStatsSummary} {t : Nat} :
    (gs.foldl merge s).minValue ≤ t ↔ s.minValue ≤ t ∨ ∃ g ∈ gs, g.minValue ≤ t := by
  induction gs generalizing s with
  | nil => simp
  | cons g gs ih =>
    have hmin : (merge s g).minValue ≤ t ↔ s.minValue ≤ t ∨ g.minValue ≤ t := min_le_iff
    rw [List.foldl_cons, ih, hmin]
    simp [or_assoc]

theorem foldl_merge_average (gs : List RdcStatsSummary) (s : RdcStatsSummary)
    (hs : s.average < 2 ^ 64) :
    (gs.foldl merge s).average = (s.average + (gs.map (·.average)).sum) % 2 ^ 64 := by
  induction gs generalizing s with
  | nil => exact (Nat.mod_eq_of_lt hs).symm
  | cons g gs ih =>
    have hlt : (merge s g).average < 2 ^ 64 := Nat.mod_lt _ (by decide)
    rw [List.foldl_cons, ih _ hlt, List.map_cons, List.sum_cons, ← Nat.add_assoc]
    show ((s.average + g.average) % 2 ^ 64 + _) % 2 ^ 64 = _
    rw [Nat.mod_add_mod]

/-- Dividing by at least the number of terms gives no more than the largest of them. -/
theorem sum_mod_div_le {xs : List Nat} {m n : Nat} (h : ∀ x ∈ xs, x ≤ m) (hn : xs.length ≤ n) :
    xs.sum % 2 ^ 64 / n ≤ m := by
  refine Nat.div_le_of_le_mul ((Nat.mod_le _ _).trans ?_)
  have hsum : xs.sum ≤ xs.length • m := List.sum_le_card_nsmul xs m h
  rw [nsmul_eq_mul, Nat.cast_id] at hsum
  exact hsum.trans (Nat.mul_le_mul_right m hn)

end Merge

/-- The summary lies between the extremes, and its average between those of the GPUs. -/
structure SummaryOrdered (s : RdcStatsSummary) (averages : List Nat) : Prop where
  minValue_le : s.minValue ≤ s.average
  le_maxValue : s.average ≤ s.maxValue
  smallest_le : ∃ a ∈ averages, a ≤ s.average
  le_largest : ∃ a ∈ averages, s.average ≤ a

/-- The upper bounds hold whatever the number of GPUs; the lower ones depend on it. -/
theorem summaryOrdered_merge {gs : List RdcStatsSummary} (hne : gs ≠ []) {n : Nat}
    (hn : gs.length ≤ n) (hle : ∀ g ∈ gs, g.average ≤ g.maxValue)
    (hmin : ∀ g ∈ gs, g.minValue < 2 ^ 64) :
    SummaryOrdered (setAverageSummary n (gs.foldl merge emptySummary)) (gs.map (·.average))
      ↔ (∃ g ∈ gs, n * g.minValue ≤ (gs.map (·.average)).sum % 2 ^ 64)
        ∧ ∃ g ∈ gs, n * g.average ≤ (gs.map (·.average)).sum % 2 ^ 64 := by
  have hlength : (gs.map (·.average)).length ≤ n := by rwa [List.length_map]
  have hpos : 0 < n := (List.length_pos_of_ne_nil hne).trans_le hn
  have haverage : (setAverageSummary n (gs.foldl merge emptySummary)).average
      = (gs.map (·.average)).sum % 2 ^ 64 / n := by
    show (gs.foldl merge emptySummary).average / n = _
    rw [foldl_merge_average gs emptySummary (by decide)]
    show (0 + _) % _ / n = _
    rw [Nat.zero_add]
  have hge : ∀ a, a ≤ (setAverageSummary n (gs.foldl merge emptySummary)).average
      ↔ n * a ≤ (gs.map (·.average)).sum % 2 ^ 64 := by
    intro a
    rw [haverage, Nat.le_div_iff_mul_le hpos, Nat.mul_comm]
  have hmax : (setAverageSummary n (gs.foldl merge emptySummary)).average
      ≤ (gs.foldl merge emptySummary).maxValue := by
    rw [haverage]
    refine sum_mod_div_le (fun a ha => ?_) hlength
    obtain ⟨g, hg, rfl⟩ := List.mem_map.mp ha
    exact (hle g hg).trans ((foldl_merge_maxValue gs emptySummary).2 g hg)
  have hlargest : ∃ a ∈ gs.map (·.average),
      (setAverageSummary n (gs.foldl merge emptySummary)).average ≤ a := by
    by_contra hno
    push Not at hno
    -- all averages are below the quotient, so their sum is too small for it
    obtain ⟨g, hg⟩ := List.exists_mem_of_ne_nil gs hne
    have hlt := hno _ (List.mem_map.mpr ⟨g, hg, rfl⟩)
    have hbound : (setAverageSummary n (gs.foldl merge emptySummary)).average
        ≤ (setAverageSummary n (gs.foldl merge emptySummary)).average - 1 := by
      nth_rewrite 1 [haverage]
      exact sum_mod_div_le (fun a ha => Nat.le_sub_one_of_lt (hno a ha)) hlength
    omega
  have hleast : (setAverageSummary n (gs.foldl merge emptySummary)).minValue
        ≤ (setAverageSummary n (gs.foldl merge emptySummary)).average
      ↔ ∃ g ∈ gs, g.minValue ≤ (setAverageSummary n (gs.foldl merge emptySummary)).average := by
    refine foldl_merge_minValue_le.trans (or_iff_right_of_imp fun hempty => ?_)
    -- the summary starts with the largest number there is
    obtain ⟨g, hg⟩ := List.exists_mem_of_ne_nil gs hne
    exact ⟨g, hg, (Nat.le_pred_of_lt (hmin g hg)).trans hempty⟩
  constructor
  · intro h
    obtain ⟨g, hg, hlow⟩ := hleast.mp h.minValue_le
    obtain ⟨a, ha, hsmall⟩ := h.smallest_le
    obtain ⟨g', hg', rfl⟩ := List.mem_map.mp ha
    exact ⟨⟨g, hg, (hge _).mp hlow⟩, g', hg', (hge _).mp hsmall⟩
  · rintro ⟨⟨g, hg, hlow⟩, g', hg', hsmall⟩
    exact ⟨hleast.mpr ⟨g, hg, (hge _).mpr hlow⟩, hmax,
      ⟨_, List.mem_map.mpr ⟨g', hg', rfl⟩, (hge _).mpr hsmall⟩, hlargest⟩

section Ordered

/-- The samples of the job for a field are numbers that the statistics can hold. -/
def SoundFor (h : JobHistory) (j : JobId) (field : Nat) : Prop :=
  ∀ v ∈ h.delivered j, v.fieldValue.fieldId = field →
    0 ≤ v.fieldValue.value.lIntOf ∧ v.fieldValue.value.lIntOf < 2 ^ 63

instance (h : JobHistory) (j : JobId) (field : Nat) : Decidable (SoundFor h j field) :=
  inferInstanceAs (Decidable (∀ v ∈ h.delivered j, v.fieldValue.fieldId = field →
    0 ≤ v.fieldValue.value.lIntOf ∧ v.fieldValue.value.lIntOf < 2 ^ 63))

theorem SoundFor.samples {h : JobHistory} {j : JobId} {field : Nat} (hs : SoundFor h j field)
    (gpu : Nat) : Sound (numbers (h.samples j (gpu, field))) := by
  intro x hx
  obtain ⟨v, hv, rfl⟩ := List.mem_map.mp hx
  obtain ⟨hgpu, hfield⟩ := List.mem_filter.mp hv
  obtain ⟨w, hw, rfl⟩ := List.mem_map.mp hgpu
  exact hs w (List.mem_filter.mp hw).1 (of_decide_eq_true hfield)

variable {ops : List JobOp} {j : JobId} {job : RdcJobStatsCacheEntry}

theorem batchOf_of_count_ne_zero (hjob : (JobHistory.after ops).cache.cacheJobs[j]? = some job)
    {gpu : Nat} {gstats : GpuSummaryStats} {field : Nat} {stats : FieldSummaryStats}
    (hgpu : job.gpuStats[gpu]? = some gstats) (hstats : gstats.fieldSummaries[field]? = some stats)
    (hcount : stats.count ≠ 0) :
    (JobHistory.after ops).samples j (gpu, field) ≠ []
      ∧ BatchOf stats (numbers ((JobHistory.after ops).samples j (gpu, field))) := by
  have hget : statsOf (JobHistory.after ops).cache j (gpu, field) = some stats := by
    unfold statsOf
    rw [hjob, Option.bind_some, hgpu, Option.bind_some, hstats]
  have heq := statsOf_after hget
  have hne : (JobHistory.after ops).samples j (gpu, field) ≠ [] := by
    intro hnil
    rw [heq, count_summaryOf, hnil] at hcount
    exact hcount rfl
  rw [heq]
  exact ⟨hne, (runningOf_summaryOf hne).toBatchOf⟩

variable {sqrt : ℚ → ℚ} {gauges : RdcGpuGauges} {m : Metric}

/-- The numbers a job was sampled with for a metric of a GPU. -/
def metricNumbers (h : JobHistory) (j : JobId) (m : Metric) (gpu : Nat) : List Int :=
  numbers (h.samples j (gpu, metricField m))

/-- The unit a metric of a GPU is reported in. -/
def metricUnit (gauges : RdcGpuGauges) (m : Metric) (gpu : Nat) : Nat :=
  m.adjuster (gauges[(gpu, rdcFiGpuMemoryTotal)]?.getD 0)

/-- The sum of the samples of a GPU by their number, in that unit. -/
def sampleAverage (h : JobHistory) (j : JobId) (gauges : RdcGpuGauges) (m : Metric) (gpu : Nat) :
    Nat :=
  storedSum (metricNumbers h j m gpu) / (metricNumbers h j m gpu).length / metricUnit gauges m gpu

/-- What the averages of the GPUs with samples add up to in 64 bits. -/
def averagesSum (h : JobHistory) (j : JobId) (job : RdcJobStatsCacheEntry) (gauges : RdcGpuGauges)
    (m : Metric) : Nat :=
  ((sampledGpus job m).map (sampleAverage h j gauges m)).sum % 2 ^ 64

/-- The metric of a GPU with samples, in terms of them. -/
structure MetricOf (h : JobHistory) (j : JobId) (gauges : RdcGpuGauges) (m : Metric) (gpu : Nat)
    (s : RdcStatsSummary) : Prop where
  average : s.average = sampleAverage h j gauges m gpu
  le_maxValue : s.average ≤ s.maxValue
  minValue : IsLeast ((fun x : Int => x.toNat / metricUnit gauges m gpu) ''
    {x | x ∈ metricNumbers h j m gpu}) s.minValue
  minValue_lt : s.minValue < 2 ^ 64

theorem metricOf_sampledMetric (hjob : (JobHistory.after ops).cache.cacheJobs[j]? = some job)
    (hsound : SoundFor (JobHistory.after ops) j (metricField m)) (gpu : Nat)
    (gstats : GpuSummaryStats) (s : RdcStatsSummary) (hgpu : job.gpuStats[gpu]? = some gstats)
    (hs : sampledMetric sqrt gauges m (gpu, gstats) = some s) :
    MetricOf (JobHistory.after ops) j gauges m gpu s := by
  unfold sampledMetric at hs
  split at hs
  · simp at hs
  · rename_i stats hstats
    split at hs
    · simp at hs
    · rename_i hcount
      obtain ⟨hne, hbatch⟩ := batchOf_of_count_ne_zero hjob hgpu hstats hcount
      have hne : metricNumbers (JobHistory.after ops) j m gpu ≠ [] := by
        simpa [metricNumbers, numbers] using hne
      have hx := hsound.samples gpu
      obtain ⟨-, hmin, haverage⟩ := set_of_batch sqrt hbatch hne hx (metricUnit gauges m gpu)
      have hset : emptySummary.set sqrt stats (metricUnit gauges m gpu) = s := Option.some.inj hs
      rw [← hset]
      refine ⟨haverage, set_average_le_maxValue sqrt hbatch hne hx _, ?_, ?_⟩
      · rw [hmin]
        refine ⟨⟨_, hbatch.minValue.1, rfl⟩, ?_⟩
        rintro _ ⟨x, hmem, rfl⟩
        exact Nat.div_le_div_right (Int.toNat_le_toNat (hbatch.minValue.2 hmem))
      · rw [hmin]
        have hlt := (hx _ hbatch.minValue.1).2
        exact (Nat.div_le_self ..).trans_lt (by omega)

theorem reportedAverages_closed (hjob : (JobHistory.after ops).cache.cacheJobs[j]? = some job)
    (hsound : SoundFor (JobHistory.after ops) j (metricField m))
    (hin : ∀ gpu ∈ job.gpuStats, gpu < jobInfoGpus) (now : Nat) (info : RdcJobInfo) :
    reportedAverages (closed sqrt now job gauges info) m (sampledGpus job m)
      = (sampledGpus job m).map (sampleAverage (JobHistory.after ops) j gauges m) := by
  unfold reportedAverages
  rw [← List.filterMap_eq_map]
  refine List.filterMap_congr fun gpu hmem => ?_
  obtain ⟨gstats, s, hgpu, hs⟩ := exists_sampledMetric sqrt gauges hmem
  obtain ⟨record, hrec, hmetric⟩ := reported_metric hin hgpu hs now info
  rw [hrec, Option.map_some, hmetric,
    (metricOf_sampledMetric hjob hsound gpu gstats s hgpu hs).average]
  rfl

/-- **The summary of a metric is ordered exactly if** what the averages of the GPUs with samples add
up to makes up for the GPUs without: it is at least the number of all GPUs of the job times one of
the samples, and times one of the averages. -/
theorem summaryOrdered_iff (ops : List JobOp) (j : JobId) (job : RdcJobStatsCacheEntry)
    (hjob : (JobHistory.after ops).cache.cacheJobs[j]? = some job) (m : Metric)
    (hsound : SoundFor (JobHistory.after ops) j (metricField m))
    (hsampled : sampledGpus job m ≠ []) (sqrt : ℚ → ℚ) (gauges : RdcGpuGauges) (now : Nat)
    (info info' : RdcJobInfo)
    (hrep : (JobHistory.after ops).cache.jobReport sqrt j gauges now info = some info') :
    SummaryOrdered (m.get info'.summary) (reportedAverages info' m (sampledGpus job m))
      ↔ (∃ gpu ∈ sampledGpus job m, ∃ x ∈ metricNumbers (JobHistory.after ops) j m gpu,
          job.gpuStats.size * (x.toNat / metricUnit gauges m gpu)
            ≤ averagesSum (JobHistory.after ops) j job gauges m)
        ∧ ∃ gpu ∈ sampledGpus job m,
          job.gpuStats.size * sampleAverage (JobHistory.after ops) j gauges m gpu
            ≤ averagesSum (JobHistory.after ops) j job gauges m := by
  obtain ⟨hall, -, rfl⟩ := (jobReport_eq_some sqrt now hjob).mp hrep
  have hin : ∀ gpu ∈ job.gpuStats, gpu < jobInfoGpus := fun gpu hgpu => (hall gpu hgpu).1
  have hmetric : ∀ gpu gstats s, job.gpuStats[gpu]? = some gstats →
      sampledMetric sqrt gauges m (gpu, gstats) = some s →
      MetricOf (JobHistory.after ops) j gauges m gpu s := metricOf_sampledMetric hjob hsound
  have hmem : ∀ s ∈ job.gpuStats.toList.filterMap (sampledMetric sqrt gauges m),
      ∃ gpu, MetricOf (JobHistory.after ops) j gauges m gpu s := by
    intro s hs
    obtain ⟨⟨gpu, gstats⟩, hp, hs⟩ := List.mem_filterMap.mp hs
    exact ⟨gpu, hmetric gpu gstats s (ExtTreeMap.mem_toList_iff_getElem?_eq_some.mp hp) hs⟩
  have haverages := map_sampledMetric fun gpu gstats s hgpu hs =>
    (hmetric gpu gstats s hgpu hs).average
  rw [reportedAverages_closed hjob hsound hin, metric_closed sqrt now hin, ← haverages,
    summaryOrdered_merge, haverages]
  · refine and_congr (exists_sampledMetric_iff fun gpu gstats s hgpu hs => ?_)
      (exists_sampledMetric_iff fun gpu gstats s hgpu hs => ?_)
    · obtain ⟨⟨x, hx, heq⟩, hlow⟩ := (hmetric gpu gstats s hgpu hs).minValue
      constructor
      · exact fun hle => ⟨x, hx, by rwa [show x.toNat / metricUnit gauges m gpu = s.minValue
          from heq]⟩
      · rintro ⟨y, hy, hle⟩
        exact (Nat.mul_le_mul_left _ (hlow ⟨y, hy, rfl⟩)).trans hle
    · rw [(hmetric gpu gstats s hgpu hs).average]
      rfl
  · intro hnil
    rw [hnil] at haverages
    exact hsampled (List.map_eq_nil_iff.mp haverages.symm)
  · rw [← ExtTreeMap.length_toList]
    exact List.length_filterMap_le ..
  · intro s hs
    obtain ⟨gpu, hs⟩ := hmem s hs
    exact hs.le_maxValue
  · intro s hs
    obtain ⟨gpu, hs⟩ := hmem s hs
    exact hs.minValue_lt

end Ordered

/-- Two GPUs, and their utilisation alone. -/
def twoGpus : RdcGroupInfo := ⟨[103], [0, 1], by decide, by decide⟩

def onlyUtil : RdcFieldGroupInfo := ⟨[102], [rdcFiGpuUtil], by decide⟩

def memoryOfBoth : RdcGpuGauges :=
  ((∅ : RdcGpuGauges).insert (0, rdcFiGpuMemoryTotal) 16000000000).insert
    (1, rdcFiGpuMemoryTotal) 16000000000

/-- A reading of the utilisation, in percent. -/
def utilReading (percent : Int) : RdcFieldValue :=
  ⟨rdcFiGpuUtil, 0, 10, .integer, .lInt percent⟩

/-- A job on both GPUs, of which the first has a sample, and perhaps the second. -/
def utilised (second : List Int) : List JobOp :=
  .start jobA twoGpus onlyUtil ∅ 5 :: .sample 0 jobA (utilReading 100)
    :: second.map fun percent => .sample 1 jobA (utilReading percent)

theorem summaryOrdered_utilised :
    ∃ job info', (JobHistory.after (utilised [50])).cache.cacheJobs[jobA]? = some job
      ∧ (JobHistory.after (utilised [50])).cache.jobReport id jobA memoryOfBoth 9 (staleInfo 0)
        = some info'
      ∧ SummaryOrdered info'.summary.gpuUtilization
        (reportedAverages info' .gpuUtilization (sampledGpus job .gpuUtilization)) := by
  let h := JobHistory.after (utilised [50])
  let job := (h.cache.cacheJobs[jobA]?).getD (jobOn 0)
  let info' := (h.cache.jobReport id jobA memoryOfBoth 9 (staleInfo 0)).getD (staleInfo 0)
  have hjob : h.cache.cacheJobs[jobA]? = some job := by decide +kernel
  have hrep : h.cache.jobReport id jobA memoryOfBoth 9 (staleInfo 0) = some info' := by
    decide +kernel
  refine ⟨job, info', hjob, hrep, ?_⟩
  refine (summaryOrdered_iff (utilised [50]) jobA job hjob .gpuUtilization (by decide +kernel)
    (by decide +kernel) id memoryOfBoth 9 (staleInfo 0) info' hrep).mpr ⟨?_, ?_⟩
  · exact ⟨1, by decide +kernel, 50, by decide +kernel, by decide +kernel⟩
  · exact ⟨1, by decide +kernel, by decide +kernel⟩

/-- With one GPU idle, the average is half of the only sample there is. -/
theorem not_summaryOrdered_utilised :
    ∃ job info', (JobHistory.after (utilised [])).cache.cacheJobs[jobA]? = some job
      ∧ (JobHistory.after (utilised [])).cache.jobReport id jobA memoryOfBoth 9 (staleInfo 0)
        = some info'
      ∧ sampledGpus job .gpuUtilization = [0]
      ∧ info'.summary.gpuUtilization.minValue = 100 ∧ info'.summary.gpuUtilization.average = 50
      ∧ ¬ SummaryOrdered info'.summary.gpuUtilization
        (reportedAverages info' .gpuUtilization (sampledGpus job .gpuUtilization)) := by
  let h := JobHistory.after (utilised [])
  let job := (h.cache.cacheJobs[jobA]?).getD (jobOn 0)
  let info' := (h.cache.jobReport id jobA memoryOfBoth 9 (staleInfo 0)).getD (staleInfo 0)
  have hmin : info'.summary.gpuUtilization.minValue = 100 := by decide +kernel
  have haverage : info'.summary.gpuUtilization.average = 50 := by decide +kernel
  refine ⟨job, info', by decide +kernel, by decide +kernel, by decide +kernel, hmin, haverage, ?_⟩
  intro hordered
  have hle := hordered.minValue_le
  rw [hmin, haverage] at hle
  exact absurd hle (by decide)

end Rdc.Proof
