import Rdc.Proof.JobReport
import Rdc.Proof.Statistics
import Mathlib.Data.Rat.Floor

/-!
# The energy of a job

The first power sample sets the time the energy is counted from, and that time is never moved. So
each later sample is charged for the whole time since the first one: the time up to the sample
before it is paid for again. What the energy differs from the time integral by is exactly this
(`overcountFrom`), less what the 64-bit products lose when they wrap, and the rest of each division.
-/

namespace Rdc.Proof

open Std (ExtTreeMap)
open OrdMap Machine

/-! ## One sample -/

theorem u64Sub_of_le {a b : Nat} (hle : b ≤ a) (ha : a < 2 ^ 64) : u64Sub a b = a - b := by
  unfold u64Sub
  rw [Nat.mod_eq_of_lt (by omega : b < 2 ^ 64)]
  omega

/-- Time since `first` times power, before it is stored in 64 bits. -/
def charge (first : Nat) (v : RdcFieldValue) : Int := ((v.ts : Int) - first) * v.value.lIntOf

theorem addEnergy_eq {first : Nat} {v : RdcFieldValue} (hle : first ≤ v.ts) (hts : v.ts < 2 ^ 64)
    (energy : Nat) :
    (addEnergy first energy v : Int) = energy + charge first v % 2 ^ 64 / 10 ^ 9 := by
  have hcharge : (u64Sub v.ts first * v.value.lIntOf : Int) = charge first v := by
    rw [u64Sub_of_le hle hts, charge, Nat.cast_sub hle]
  have hnonneg : 0 ≤ charge first v % 2 ^ 64 / 10 ^ 9 :=
    Int.ediv_nonneg (Int.emod_nonneg _ (by decide)) (by decide)
  have hfloor : ((energy : ℚ) + ((charge first v % 2 ^ 64 : Int) : ℚ) / (1000 * 1000000)).floor
      = energy + charge first v % 2 ^ 64 / 10 ^ 9 := by
    have hdiv : ((charge first v % 2 ^ 64 : Int) : ℚ) / (1000 * 1000000)
        = ((charge first v % 2 ^ 64 : Int) : ℚ) / ((10 ^ 9 : Nat) : ℚ) := by norm_num
    rw [hdiv]
    exact (Int.floor_natCast_add energy _).trans
      (congrArg _ (Rat.floor_intCast_div_natCast _ (10 ^ 9)))
  unfold addEnergy
  dsimp only
  rw [hcharge, hfloor, Int.toNat_of_nonneg]
  omega

/-! ## All samples -/

/-- The time integral of the power from `prev` on, in units of `10^9`. -/
def integralFrom (prev : Nat) : List RdcFieldValue → ℚ
  | [] => 0
  | v :: vs => ((v.ts : ℚ) - prev) * v.value.lIntOf / 10 ^ 9 + integralFrom v.ts vs

/-- The time integral of power samples: each counts for the time since the one before it. -/
def timeIntegral : List RdcFieldValue → ℚ
  | [] => 0
  | v :: vs => integralFrom v.ts vs

/-- What is charged again: for each sample the time up to the one before it. -/
def overcountFrom (first prev : Nat) : List RdcFieldValue → Int
  | [] => 0
  | v :: vs => ((prev : Int) - first) * v.value.lIntOf + overcountFrom first v.ts vs

/-- What does not get into the energy: the multiples of `2^64` that a product loses, and the rest of
its division. -/
def uncounted (first : Nat) (vs : List RdcFieldValue) : Int :=
  (vs.map fun v => 2 ^ 64 * (charge first v / 2 ^ 64) + charge first v % 2 ^ 64 % 10 ^ 9).sum

/-- **The energy against the integral.** -/
theorem foldl_addEnergy (first prev : Nat) (vs : List RdcFieldValue)
    (hle : ∀ v ∈ vs, first ≤ v.ts ∧ v.ts < 2 ^ 64) (energy : Nat) :
    10 ^ 9 * ((vs.foldl (addEnergy first) energy : Nat) : ℚ)
      = 10 ^ 9 * (energy + integralFrom prev vs)
        + ((overcountFrom first prev vs - uncounted first vs : Int) : ℚ) := by
  induction vs generalizing energy prev with
  | nil => simp [integralFrom, overcountFrom, uncounted]
  | cons v vs ih =>
    obtain ⟨hfirst, hts⟩ := hle v (List.mem_cons_self ..)
    have hstep : 10 ^ 9 * ((addEnergy first energy v : Nat) : ℚ)
        = 10 ^ 9 * (energy : ℚ) + ((charge first v - (2 ^ 64 * (charge first v / 2 ^ 64)
            + charge first v % 2 ^ 64 % 10 ^ 9) : Int) : ℚ) := by
      have hint : (10 ^ 9 * (addEnergy first energy v : Nat) : Int)
          = 10 ^ 9 * energy + (charge first v - (2 ^ 64 * (charge first v / 2 ^ 64)
            + charge first v % 2 ^ 64 % 10 ^ 9)) := by
        rw [addEnergy_eq hfirst hts]
        omega
      exact_mod_cast hint
    have hsplit : ((charge first v : Int) : ℚ)
        = 10 ^ 9 * (((v.ts : ℚ) - prev) * v.value.lIntOf / 10 ^ 9)
          + (((prev : Int) - first) * v.value.lIntOf : Int) := by
      rw [charge]
      push_cast
      ring
    rw [List.foldl_cons, ih v.ts (fun w hw => hle w (List.mem_cons_of_mem _ hw)), mul_add, hstep,
      integralFrom, overcountFrom, uncounted, uncounted, List.map_cons, List.sum_cons]
    push_cast at hsplit ⊢
    rw [hsplit]
    ring

/-- The samples come in the order of their times. -/
def Chronological (vs : List RdcFieldValue) : Prop := vs.Pairwise fun v w => v.ts ≤ w.ts

instance (vs : List RdcFieldValue) : Decidable (Chronological vs) :=
  inferInstanceAs (Decidable (vs.Pairwise fun v w => v.ts ≤ w.ts))

theorem energyOf_sub_timeIntegral {v : RdcFieldValue} {vs : List RdcFieldValue}
    (hord : Chronological (v :: vs)) (hts : ∀ w ∈ v :: vs, w.ts < 2 ^ 64) :
    ((energyOf (v :: vs)).1 : ℚ) - timeIntegral (v :: vs)
      = ((overcountFrom v.ts v.ts vs - uncounted v.ts vs : Int) : ℚ) / 10 ^ 9 := by
  have hfold := foldl_addEnergy v.ts v.ts vs
    (fun w hw => ⟨(List.pairwise_cons.mp hord).1 w hw, hts w (List.mem_cons_of_mem _ hw)⟩) 0
  rw [Nat.cast_zero, zero_add] at hfold
  rw [energyOf, timeIntegral, eq_div_iff (by norm_num)]
  linarith

/-- The energy a job reports for a GPU is that of its power samples. -/
theorem reported_energy {ops : List JobOp} {j : JobId} {gpu : Nat} {sqrt : ℚ → ℚ}
    {gauges : RdcGpuGauges} {now : Nat} {info info' : RdcJobInfo} {record : RdcGpuUsageInfo}
    (hstats : (statsOf (JobHistory.after ops).cache j (gpu, rdcFiPowerUsage)).isSome = true)
    (hrep : (JobHistory.after ops).cache.jobReport sqrt j gauges now info = some info')
    (hrec : info'.gpus[gpu]? = some record) :
    record.energyConsumed
      = (energyOf ((JobHistory.after ops).samples j (gpu, rdcFiPowerUsage))).1 := by
  obtain ⟨stats, hstats⟩ := Option.isSome_iff_exists.mp hstats
  obtain ⟨gstats, hgpu, hfield⟩ := Option.bind_eq_some_iff.mp hstats
  obtain ⟨job, hjob, hgstats⟩ := Option.bind_eq_some_iff.mp hgpu
  obtain ⟨-, -, hclosed⟩ := (jobReport_eq_some sqrt now hjob).mp hrep
  have henergy := (allAccount_after ops j gpu gstats hgpu).energy (mem_of_getElem? hfield)
  rw [← hclosed, getElem?_gpus_closed sqrt now hgstats, Option.map_eq_some_iff] at hrec
  obtain ⟨old, -, rfl⟩ := hrec
  have hopened := congrArg (·.2.2.2.1) (unmeasured_gpuRecord sqrt
    (gauges[(gpu, rdcFiGpuMemoryTotal)]?.getD 0) job (reportEndTime job now) gauges gpu gstats old)
  exact hopened.trans (congrArg Prod.fst henergy)

/-- **The reported energy is close to the integral exactly if** what the samples are charged for
twice and what the 64-bit arithmetic loses nearly cancel out. -/
theorem energy_near_integral_iff (ops : List JobOp) (j : JobId) (gpu : Nat) (v : RdcFieldValue)
    (vs : List RdcFieldValue)
    (hvs : (JobHistory.after ops).samples j (gpu, rdcFiPowerUsage) = v :: vs)
    (hstats : (statsOf (JobHistory.after ops).cache j (gpu, rdcFiPowerUsage)).isSome = true)
    (hord : Chronological (v :: vs)) (hts : ∀ w ∈ v :: vs, w.ts < 2 ^ 64) (sqrt : ℚ → ℚ)
    (gauges : RdcGpuGauges) (now : Nat) (info info' : RdcJobInfo) (record : RdcGpuUsageInfo)
    (hrep : (JobHistory.after ops).cache.jobReport sqrt j gauges now info = some info')
    (hrec : info'.gpus[gpu]? = some record) :
    |(record.energyConsumed : ℚ) - timeIntegral (v :: vs)| < vs.length
      ↔ |overcountFrom v.ts v.ts vs - uncounted v.ts vs| < vs.length * 10 ^ 9 := by
  rw [reported_energy hstats hrep hrec, hvs, energyOf_sub_timeIntegral hord hts, abs_div,
    abs_of_pos (show (0 : ℚ) < 10 ^ 9 by norm_num), div_lt_iff₀ (by norm_num)]
  exact_mod_cast Iff.rfl

/-- A GPU with 16 GB. -/
def memoryOfZero : RdcGpuGauges := (∅ : RdcGpuGauges).insert (0, rdcFiGpuMemoryTotal) 16000000000

/-- 300 W, read each second. -/
def steadyPower (readings : Nat) : List JobOp :=
  .start jobA onlyGpu onlyPower ∅ 5
    :: (List.range readings).map fun i => .sample 0 jobA (powerReading (1000 * i) 300000000)

theorem energy_near_integral_two_readings :
    ∃ info' record,
      (JobHistory.after (steadyPower 2)).cache.jobReport id jobA memoryOfZero 9 (staleInfo 0)
        = some info'
      ∧ info'.gpus[0]? = some record
      ∧ |(record.energyConsumed : ℚ)
          - timeIntegral [powerReading 0 300000000, powerReading 1000 300000000]| < 1 := by
  have hsome : ((JobHistory.after (steadyPower 2)).cache.jobReport id jobA memoryOfZero 9
      (staleInfo 0)).isSome = true := by decide +kernel
  obtain ⟨info', hrep⟩ := Option.isSome_iff_exists.mp hsome
  obtain ⟨record, hrec⟩ := exists_record info' (by decide : 0 < jobInfoGpus)
  refine ⟨info', record, hrep, hrec, ?_⟩
  have hnear := (energy_near_integral_iff (steadyPower 2) jobA 0 (powerReading 0 300000000)
    [powerReading 1000 300000000] (by decide +kernel) (by decide +kernel) (by decide +kernel)
    (by decide +kernel) id memoryOfZero 9 (staleInfo 0) info' record hrep hrec).mpr
    (by decide +kernel)
  exact_mod_cast hnear

/-- With a third reading the first second is paid for twice. -/
theorem energy_not_near_integral_three_readings :
    ∃ info' record,
      (JobHistory.after (steadyPower 3)).cache.jobReport id jobA memoryOfZero 9 (staleInfo 0)
        = some info'
      ∧ info'.gpus[0]? = some record ∧ record.energyConsumed = 900
      ∧ (JobHistory.after (steadyPower 3)).samples jobA (0, rdcFiPowerUsage)
        = [powerReading 0 300000000, powerReading 1000 300000000, powerReading 2000 300000000]
      ∧ timeIntegral ((JobHistory.after (steadyPower 3)).samples jobA (0, rdcFiPowerUsage)) = 600
      ∧ ¬ |(record.energyConsumed : ℚ)
          - timeIntegral ((JobHistory.after (steadyPower 3)).samples jobA (0, rdcFiPowerUsage))|
        < 2 := by
  have hsome : ((JobHistory.after (steadyPower 3)).cache.jobReport id jobA memoryOfZero 9
      (staleInfo 0)).isSome = true := by decide +kernel
  obtain ⟨info', hrep⟩ := Option.isSome_iff_exists.mp hsome
  obtain ⟨record, hrec⟩ := exists_record info' (by decide : 0 < jobInfoGpus)
  have hintegral : timeIntegral
      ((JobHistory.after (steadyPower 3)).samples jobA (0, rdcFiPowerUsage)) = 600 := by
    decide +kernel
  have henergy : record.energyConsumed = 900 :=
    (reported_energy (by decide +kernel) hrep hrec).trans (by decide +kernel)
  refine ⟨info', record, hrep, hrec, henergy, by decide +kernel, hintegral, ?_⟩
  rw [henergy, hintegral]
  norm_num

end Rdc.Proof
