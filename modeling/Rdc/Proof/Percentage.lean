import Rdc.Proof.Averages

/-!
# The memory utilisation

The samples are divided by a hundredth of the total memory, `tmemory / 100`, as an `unsigned int`.
The quotient is a percentage if that divisor is about right, and it is not for three reasons: a
total below a hundred bytes gives zero; a total of `100 * 2^32` bytes or more loses its upper bits,
and may give zero again; and rounding down makes the divisor too small, by up to a half for a total
below two hundred. A report that would divide by zero does not come back at all.
-/

namespace Rdc.Proof

open Std (ExtTreeMap)
open OrdMap Machine

/-! ## What a report divides by -/

/-- Only the memory utilisation has a divisor that can be zero. -/
theorem adjuster_eq_zero {m : Metric} {tmemory : Nat} (h : m.adjuster tmemory = 0) :
    m = .memoryUtilization := by
  cases m <;> first | rfl | exact absurd h (by simp [Metric.adjuster])

theorem zero_mem_setSummaryDivisors {stats : FieldSummaryStats} {adjuster : Nat} :
    0 ∈ setSummaryDivisors stats adjuster ↔ stats.count ≠ 0 ∧ adjuster = 0 := by
  unfold setSummaryDivisors
  split
  · rename_i h
    simp [h]
  · rename_i h
    simp [h, eq_comm]

/-- **When a report divides by zero.** -/
theorem zero_mem_reportDivisors {job : RdcJobStatsCacheEntry} {gauges : RdcGpuGauges} :
    0 ∈ reportDivisors job gauges
      ↔ (∃ gpu ∈ sampledGpus job .memoryUtilization,
          Metric.memoryUtilization.adjuster (gauges[(gpu, rdcFiGpuMemoryTotal)]?.getD 0) = 0)
        ∨ job.gpuStats.size = 0 := by
  unfold reportDivisors
  rw [List.mem_append, List.mem_singleton, List.mem_flatMap, eq_comm (a := 0)]
  refine or_congr_left ⟨?_, ?_⟩
  · rintro ⟨⟨gpu, gstats⟩, hp, hzero⟩
    obtain ⟨⟨field, stats⟩, hfield, hzero⟩ := List.mem_flatMap.mp hzero
    unfold reportFieldDivisors at hzero
    split at hzero
    · exact absurd hzero List.not_mem_nil
    · rename_i metric hmetric
      obtain ⟨hcount, hadjuster⟩ := zero_mem_setSummaryDivisors.mp hzero
      have hm := adjuster_eq_zero hadjuster
      subst hm
      rw [show field = rdcFiGpuMemoryUsage from ofField_eq_some.mp hmetric] at hfield
      refine ⟨gpu, mem_sampledGpus.mpr ⟨gstats, stats, ?_, ?_, hcount⟩, hadjuster⟩
      · exact ExtTreeMap.mem_toList_iff_getElem?_eq_some.mp hp
      · exact ExtTreeMap.mem_toList_iff_getElem?_eq_some.mp hfield
  · rintro ⟨gpu, hgpu, hadjuster⟩
    obtain ⟨gstats, stats, hgstats, hstats, hcount⟩ := mem_sampledGpus.mp hgpu
    refine ⟨(gpu, gstats), ExtTreeMap.mem_toList_iff_getElem?_eq_some.mpr hgstats, ?_⟩
    refine List.mem_flatMap.mpr ⟨(rdcFiGpuMemoryUsage, stats),
      ExtTreeMap.mem_toList_iff_getElem?_eq_some.mpr hstats, ?_⟩
    exact zero_mem_setSummaryDivisors.mpr ⟨hcount, hadjuster⟩

/-! ## One GPU -/

/-- The three figures are in order, and none is above a hundred; none is below zero. -/
def IsPercentage (s : RdcStatsSummary) : Prop :=
  s.minValue ≤ s.average ∧ s.average ≤ s.maxValue ∧ s.maxValue ≤ 100

/-- What it takes of a total memory and of the samples. -/
structure Divides (tmemory : Nat) (xs : List Int) : Prop where
  ne_zero : tmemory / 100 % 2 ^ 32 ≠ 0
  lt : ∀ x ∈ xs, x < 101 * (tmemory / 100 % 2 ^ 32 : Nat)
  sum : ∃ x ∈ xs, xs.length * (x.toNat / (tmemory / 100 % 2 ^ 32) * (tmemory / 100 % 2 ^ 32))
    ≤ storedSum xs

theorem isPercentage_set_iff (sqrt : ℚ → ℚ) {stats : FieldSummaryStats} {xs : List Int}
    (h : BatchOf stats xs) (hne : xs ≠ []) (hx : Sound xs) {adjuster : Nat}
    (hpos : 0 < adjuster) :
    IsPercentage (emptySummary.set sqrt stats adjuster)
      ↔ (∀ x ∈ xs, x < 101 * adjuster)
        ∧ ∃ x ∈ xs, xs.length * (x.toNat / adjuster * adjuster) ≤ storedSum xs := by
  obtain ⟨hmax, hmin, haverage⟩ := set_of_batch sqrt h hne hx adjuster
  have hlen : 0 < xs.length := List.length_pos_of_ne_nil hne
  have hbelow : stats.maxValue.toNat / adjuster ≤ 100 ↔ ∀ x ∈ xs, x < 101 * adjuster := by
    have hmax0 := (hx _ h.maxValue.1).1
    rw [← Nat.lt_succ_iff, Nat.div_lt_iff_lt_mul hpos]
    constructor
    · intro hlt x hmem
      have hle := h.maxValue.2 hmem
      omega
    · intro hall
      have hlt := hall _ h.maxValue.1
      omega
  have hleast : stats.minValue.toNat / adjuster ≤ storedSum xs / xs.length / adjuster
      ↔ xs.length * (stats.minValue.toNat / adjuster * adjuster) ≤ storedSum xs := by
    rw [Nat.le_div_iff_mul_le hpos, Nat.le_div_iff_mul_le hlen, Nat.mul_comm xs.length]
  have hexists : (∃ x ∈ xs, xs.length * (x.toNat / adjuster * adjuster) ≤ storedSum xs)
      ↔ xs.length * (stats.minValue.toNat / adjuster * adjuster) ≤ storedSum xs := by
    refine ⟨?_, fun hle => ⟨stats.minValue, h.minValue.1, hle⟩⟩
    rintro ⟨x, hmem, hle⟩
    refine le_trans ?_ hle
    have hsmall : stats.minValue.toNat ≤ x.toNat := Int.toNat_le_toNat (h.minValue.2 hmem)
    exact Nat.mul_le_mul_left _ (Nat.mul_le_mul_right _ (Nat.div_le_div_right hsmall))
  unfold IsPercentage
  rw [hexists, ← hbelow, ← hleast, hmax, hmin, haverage]
  have hupper := set_average_le_maxValue sqrt h hne hx adjuster
  rw [hmax, haverage] at hupper
  exact ⟨fun hall => ⟨hall.2.2, hall.1⟩, fun hall => ⟨hall.2, hupper, hall.1⟩⟩

/-! ## The report -/

section Report

variable {ops : List JobOp} {j : JobId} {job : RdcJobStatsCacheEntry}

theorem reported_memory_iff (hjob : (JobHistory.after ops).cache.cacheJobs[j]? = some job)
    (hsound : SoundFor (JobHistory.after ops) j rdcFiGpuMemoryUsage) {gauges : RdcGpuGauges}
    (hin : ∀ gpu ∈ job.gpuStats, gpu < jobInfoGpus) {gpu : Nat}
    (hgpu : gpu ∈ sampledGpus job .memoryUtilization) {tmemory : Nat}
    (htotal : gauges[(gpu, rdcFiGpuMemoryTotal)]? = some tmemory)
    (hne : tmemory / 100 % 2 ^ 32 ≠ 0) (sqrt : ℚ → ℚ) (now : Nat) (info : RdcJobInfo) :
    (∃ record, (closed sqrt now job gauges info).gpus[gpu]? = some record
        ∧ IsPercentage record.memoryUtilization)
      ↔ Divides tmemory
          (numbers ((JobHistory.after ops).samples j (gpu, rdcFiGpuMemoryUsage))) := by
  obtain ⟨gstats, stats, hgstats, hstats, hcount⟩ := mem_sampledGpus.mp hgpu
  obtain ⟨hsamples, hbatch⟩ := batchOf_of_count_ne_zero hjob hgstats hstats hcount
  have hmetric : sampledMetric sqrt gauges .memoryUtilization (gpu, gstats)
      = some (emptySummary.set sqrt stats (tmemory / 100 % 2 ^ 32)) := by
    unfold sampledMetric
    dsimp only
    rw [hstats, htotal]
    exact if_neg hcount
  obtain ⟨record, hrec, hget⟩ := reported_metric hin hgstats hmetric now info
  have hiff := isPercentage_set_iff sqrt hbatch (by simpa [numbers] using hsamples)
    (hsound.samples gpu) (Nat.pos_of_ne_zero hne)
  constructor
  · rintro ⟨record', hrec', hper⟩
    have hsame : record = record' := Option.some.inj (hrec.symm.trans hrec')
    rw [← hsame, show record.memoryUtilization = _ from hget, hiff] at hper
    exact ⟨hne, hper.1, hper.2⟩
  · intro h
    refine ⟨record, hrec, ?_⟩
    rw [show record.memoryUtilization = _ from hget, hiff]
    exact ⟨h.lt, h.sum⟩

/-- **The memory utilisation is a percentage exactly if** every GPU of the job has a place in the
record, and the divisor made from its total memory fits the samples. -/
theorem memory_isPercentage_iff (ops : List JobOp) (j : JobId) (job : RdcJobStatsCacheEntry)
    (hjob : (JobHistory.after ops).cache.cacheJobs[j]? = some job)
    (hsampled : sampledGpus job .memoryUtilization ≠ [])
    (hsound : SoundFor (JobHistory.after ops) j rdcFiGpuMemoryUsage) (gauges : RdcGpuGauges)
    (hmem : ∀ gpu ∈ job.gpuStats, (gpu, rdcFiGpuMemoryTotal) ∈ gauges) (sqrt : ℚ → ℚ) (now : Nat)
    (info : RdcJobInfo) :
    (∃ info', (JobHistory.after ops).cache.jobReport sqrt j gauges now info = some info'
        ∧ ∀ gpu ∈ sampledGpus job .memoryUtilization, ∃ record, info'.gpus[gpu]? = some record
          ∧ IsPercentage record.memoryUtilization)
      ↔ (∀ gpu ∈ job.gpuStats, gpu < jobInfoGpus)
        ∧ ∀ gpu ∈ sampledGpus job .memoryUtilization, ∀ tmemory,
          gauges[(gpu, rdcFiGpuMemoryTotal)]? = some tmemory →
            Divides tmemory
              (numbers ((JobHistory.after ops).samples j (gpu, rdcFiGpuMemoryUsage))) := by
  have hsize : job.gpuStats.size ≠ 0 := by
    obtain ⟨gpu, hgpu⟩ := List.exists_mem_of_ne_nil _ hsampled
    obtain ⟨gstats, -, hgstats, -⟩ := mem_sampledGpus.mp hgpu
    intro hzero
    have hmem := ExtTreeMap.mem_keys.mpr (mem_of_getElem? hgstats)
    rw [List.length_eq_zero_iff.mp (ExtTreeMap.length_keys.trans hzero)] at hmem
    exact absurd hmem List.not_mem_nil
  constructor
  · rintro ⟨info', hrep, hall⟩
    obtain ⟨hplaces, hzero, rfl⟩ := (jobReport_eq_some sqrt now hjob).mp hrep
    have hin : ∀ gpu ∈ job.gpuStats, gpu < jobInfoGpus := fun gpu hgpu => (hplaces gpu hgpu).1
    refine ⟨hin, fun gpu hgpu tmemory htotal => ?_⟩
    refine (reported_memory_iff hjob hsound hin hgpu htotal ?_ sqrt now info).mp (hall gpu hgpu)
    intro hdivisor
    exact hzero (zero_mem_reportDivisors.mpr (Or.inl ⟨gpu, hgpu, by rw [htotal]; exact hdivisor⟩))
  · rintro ⟨hin, hdivides⟩
    have htotals : ∀ gpu ∈ sampledGpus job .memoryUtilization,
        ∃ tmemory, gauges[(gpu, rdcFiGpuMemoryTotal)]? = some tmemory := by
      intro gpu hgpu
      obtain ⟨gstats, -, hgstats, -⟩ := mem_sampledGpus.mp hgpu
      exact exists_getElem?_of_mem (hmem gpu (mem_of_getElem? hgstats))
    have hzero : 0 ∉ reportDivisors job gauges := by
      rw [zero_mem_reportDivisors]
      rintro (⟨gpu, hgpu, hadjuster⟩ | hempty)
      · obtain ⟨tmemory, htotal⟩ := htotals gpu hgpu
        rw [htotal] at hadjuster
        exact (hdivides gpu hgpu tmemory htotal).ne_zero hadjuster
      · exact hsize hempty
    refine ⟨_, (jobReport_eq_some sqrt now hjob).mpr
      ⟨fun gpu hgpu => ⟨hin gpu hgpu, hmem gpu hgpu⟩, hzero, rfl⟩, fun gpu hgpu => ?_⟩
    obtain ⟨tmemory, htotal⟩ := htotals gpu hgpu
    have hdiv := hdivides gpu hgpu tmemory htotal
    exact (reported_memory_iff hjob hsound hin hgpu htotal hdiv.ne_zero sqrt now info).mpr hdiv

end Report

/-- A job on GPU 0 with one reading of the used memory. -/
def memoryUsed (bytes : Int) : List JobOp :=
  [.start jobA onlyGpu ⟨[102], [rdcFiGpuMemoryUsage], by decide⟩ ∅ 5,
    .sample 0 jobA ⟨rdcFiGpuMemoryUsage, 0, 10, .integer, .lInt bytes⟩]

/-- GPU 0 has this much memory. -/
def totalMemory (bytes : Nat) : RdcGpuGauges :=
  (∅ : RdcGpuGauges).insert (0, rdcFiGpuMemoryTotal) bytes

theorem memory_isPercentage_half :
    ∃ job info', (JobHistory.after (memoryUsed 8000000000)).cache.cacheJobs[jobA]? = some job
      ∧ (JobHistory.after (memoryUsed 8000000000)).cache.jobReport id jobA
        (totalMemory 16000000000) 9 (staleInfo 0) = some info'
      ∧ ∃ record, info'.gpus[0]? = some record ∧ IsPercentage record.memoryUtilization := by
  let h := JobHistory.after (memoryUsed 8000000000)
  let job := (h.cache.cacheJobs[jobA]?).getD (jobOn 0)
  have hjob : h.cache.cacheJobs[jobA]? = some job := by decide +kernel
  have hsampled : sampledGpus job .memoryUtilization = [0] := by decide +kernel
  have hnumbers : numbers (h.samples jobA (0, rdcFiGpuMemoryUsage)) = [8000000000] := by
    decide +kernel
  have hkeys : ∀ gpu ∈ job.gpuStats, gpu = 0 := by
    have hall : ∀ gpu ∈ job.gpuStats.keys, gpu = 0 := by decide +kernel
    exact fun gpu hgpu => hall gpu (ExtTreeMap.mem_keys.mpr hgpu)
  have htotal : (totalMemory 16000000000)[(0, rdcFiGpuMemoryTotal)]? = some 16000000000 := by
    decide +kernel
  obtain ⟨info', hrep, hall⟩ := (memory_isPercentage_iff (memoryUsed 8000000000) jobA job hjob
    (by rw [hsampled]; simp) (by decide +kernel) (totalMemory 16000000000)
    (fun gpu hgpu => by rw [hkeys gpu hgpu]; exact mem_of_getElem? htotal) id 9 (staleInfo 0)).mpr
    ⟨fun gpu hgpu => by rw [hkeys gpu hgpu]; decide, fun gpu hgpu tmemory hget => by
      rw [hsampled, List.mem_singleton] at hgpu
      subst hgpu
      obtain rfl := Option.some.inj (htotal.symm.trans hget)
      exact hnumbers ▸ ⟨by decide, by decide, ⟨8000000000, by decide, by decide⟩⟩⟩
  exact ⟨job, info', hjob, hrep, hall 0 (by rw [hsampled]; simp)⟩

/-- With 400 GiB the divisor is zero; and 199 bytes, all of them used, are 199 per cent. -/
theorem memory_not_isPercentage :
    (∃ job, (JobHistory.after (memoryUsed 1)).cache.cacheJobs[jobA]? = some job
      ∧ 0 ∈ reportDivisors job (totalMemory 429496729600))
    ∧ ∃ info' record, (JobHistory.after (memoryUsed 199)).cache.jobReport id jobA
        (totalMemory 199) 9 (staleInfo 0) = some info'
      ∧ info'.gpus[0]? = some record ∧ record.memoryUtilization.maxValue = 199
      ∧ ¬ IsPercentage record.memoryUtilization := by
  refine ⟨⟨((JobHistory.after (memoryUsed 1)).cache.cacheJobs[jobA]?).getD (jobOn 0),
    by decide +kernel, by decide +kernel⟩, ?_⟩
  let info' := ((JobHistory.after (memoryUsed 199)).cache.jobReport id jobA (totalMemory 199) 9
    (staleInfo 0)).getD (staleInfo 0)
  let record := info'.gpus[0]?.getD (staleRecord 0)
  have hmax : record.memoryUtilization.maxValue = 199 := by decide +kernel
  refine ⟨info', record, by decide +kernel, by decide +kernel, hmax, fun hper => ?_⟩
  have hle := hper.2.2
  rw [hmax] at hle
  exact absurd hle (by decide)

end Rdc.Proof
