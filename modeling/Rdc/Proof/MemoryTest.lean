import Rdc.MemoryTest

/-!
# What the memory test finds

The search for the largest allocation is to narrow an interval between a size that can be allocated
and one that cannot. It returns after its first turn: the status it looks at differs from one of two
statuses, whatever it is. So what the test of a pool returns is the answer to one request, for half
of the pool, and a pool passes that gives out half of what it has.
-/

namespace Rdc.Proof

open Rdc MemoryTest

/-! ## One pool -/

/-- An allocator for a pool of `size` granules that gives out at most `most` of them at once, and
takes back what it has given out. -/
structure AllocatesUpTo (pool : MemoryPool) (granSz size most : Nat) : Prop where
  success : ∀ sz, sz ≤ most * granSz → pool.allocate sz = .success
  released : ∀ sz, sz ≤ most * granSz → pool.free sz = .success
  outOfResources : ∀ sz, most * granSz < sz → sz ≤ size * granSz →
    pool.allocate sz = .outOfResources
  invalidAllocation : ∀ sz, size * granSz < sz → sz < 2 ^ 64 →
    pool.allocate sz = .invalidAllocation

theorem searchLoop_succ (pool : MemoryPool) (granSz fuel : Nat) (s : Search) :
    searchLoop pool granSz (fuel + 1) s
      = some (.returned (testAllocate pool (s.maxAllocSize * granSz % 2 ^ 64))) := by
  unfold searchLoop
  refine if_pos ?_
  -- no status is both of the two
  by_cases hsuccess : testAllocate pool (s.maxAllocSize * granSz % 2 ^ 64) = .success
  · exact .inr (by rw [hsuccess]; decide)
  · exact .inl hsuccess

/-- The request whose answer is returned: half of the pool, unless asking for a granule more than
there is comes to less in 64 bits. -/
def decisiveRequest (poolI : PoolInfo) : Nat :=
  if poolI.negativeRequest ≤ poolI.poolSz * poolI.allocGranule then poolI.negativeRequest
  else poolI.poolSz / 2 * poolI.allocGranule

/-- When the test of a pool returns a success: the information calls do, and the test does not apply
or the one request goes through. -/
def PoolPasses (ag : AgentInfo) (poolI : PoolInfo) (most : Nat) : Prop :=
  ag.name = .success ∧ ag.node = .success
    ∧ (poolI.applicable = true → decisiveRequest poolI ≤ most * poolI.allocGranule)

section Pool

variable {a : MemoryAnswers} {ag : AgentInfo} {pool : MemoryPool} {poolI : PoolInfo} {most : Nat}

theorem testAllocate_eq (halloc : AllocatesUpTo pool poolI.allocGranule poolI.poolSz most)
    {sz : Nat} (hsz : sz ≤ poolI.poolSz * poolI.allocGranule) :
    testAllocate pool sz
      = if sz ≤ most * poolI.allocGranule then .success else .outOfResources := by
  unfold testAllocate
  by_cases hle : sz ≤ most * poolI.allocGranule
  · rw [if_pos hle, halloc.success sz hle]
    exact halloc.released sz hle
  · rw [if_neg hle, halloc.outOfResources sz (by omega) hsz]
    rfl

theorem returned_eq (halloc : AllocatesUpTo pool poolI.allocGranule poolI.poolSz most) :
    (if testAllocate pool poolI.negativeRequest ≠ .invalidAllocation then
        testAllocate pool poolI.negativeRequest
      else testAllocate pool (poolI.poolSz / 2 * poolI.allocGranule % 2 ^ 64))
      = if decisiveRequest poolI ≤ most * poolI.allocGranule then .success
        else .outOfResources := by
  have hfits : poolI.poolSz * poolI.allocGranule < 2 ^ 64 :=
    (Nat.div_mul_le_self _ _).trans_lt poolI.aggregateAllocMax_lt
  unfold decisiveRequest
  by_cases hwrap : poolI.negativeRequest ≤ poolI.poolSz * poolI.allocGranule
  · -- the request is no longer too large, and so the answer to it is not the expected one
    rw [if_pos hwrap, testAllocate_eq halloc hwrap, if_pos (by split <;> decide)]
  · have hinvalid : testAllocate pool poolI.negativeRequest = .invalidAllocation := by
      have hlt : poolI.negativeRequest < 2 ^ 64 := Nat.mod_lt _ (by decide)
      unfold testAllocate
      rw [halloc.invalidAllocation _ (by omega) hlt]
      rfl
    have hhalf : poolI.poolSz / 2 * poolI.allocGranule ≤ poolI.poolSz * poolI.allocGranule :=
      Nat.mul_le_mul_right _ (Nat.div_le_self _ _)
    rw [if_neg hwrap, if_neg (not_not.mpr hinvalid), Nat.mod_eq_of_lt (by omega),
      testAllocate_eq halloc hhalf]

/-- The test of a pool returns, with a success exactly under the condition above. -/
theorem maxSingleAllocationTest_returns (hgpu : ag.device = .ok .gpu)
    (hinfo : pool.info = .ok poolI)
    (halloc : AllocatesUpTo pool poolI.allocGranule poolI.poolSz most) :
    ∃ err, (∀ fuel, maxSingleAllocationTest a (fuel + 1) ag pool = some (.ok err))
      ∧ (err = .success ↔ PoolPasses ag poolI most) := by
  unfold maxSingleAllocationTest PoolPasses
  simp only [hgpu, hinfo, searchLoop_succ]
  by_cases hname : ag.name = .success
  · rw [if_neg (not_not.mpr hname)]
    by_cases hnode : ag.node = .success
    · rw [if_neg (not_not.mpr hnode)]
      cases happ : poolI.applicable with
      | false => exact ⟨.success, fun _ => rfl, by simp [hname, hnode]⟩
      | true =>
        refine ⟨if decisiveRequest poolI ≤ most * poolI.allocGranule then .success
          else .outOfResources, fun _ => ?_, ?_⟩
        · rw [← returned_eq halloc, if_neg (by decide)]
          split <;> rfl
        · split <;> simp_all
    · rw [if_pos hnode]
      exact ⟨ag.node, fun _ => rfl, iff_of_false hnode fun h => hnode h.2.1⟩
  · rw [if_pos hname]
    exact ⟨ag.name, fun _ => rfl, iff_of_false hname fun h => hname h.1⟩

end Pool

/-- For a pool of a GPU and an allocator with a limit: the test ends, and with a success only if the
limit is fifteen sixteenths of the pool up to a granule, if and only if the limit is that large or
the one request that is made does not go through. -/
theorem allocationTest_sound_iff (a : MemoryAnswers) {ag : AgentInfo} {pool : MemoryPool}
    {poolI : PoolInfo} {most : Nat} (hgpu : ag.device = .ok .gpu) (hinfo : pool.info = .ok poolI)
    (halloc : AllocatesUpTo pool poolI.allocGranule poolI.poolSz most) :
    (∃ result, (∃ fuel, ∀ fuel' ≥ fuel, maxSingleAllocationTest a fuel' ag pool = some result)
      ∧ (result = .ok .success → 15 * poolI.poolSz ≤ 16 * (most + 1)))
      ↔ 15 * poolI.poolSz ≤ 16 * (most + 1) ∨ ¬ PoolPasses ag poolI most := by
  obtain ⟨err, hreturns, hsuccess⟩ :=
    maxSingleAllocationTest_returns (a := a) hgpu hinfo halloc
  constructor
  · rintro ⟨result, ⟨fuel, hends⟩, hsound⟩
    have hresult : some result = some (.ok err) :=
      (hends (fuel + 1) (Nat.le_succ fuel)).symm.trans (hreturns fuel)
    cases hresult
    rw [← hsuccess, or_iff_not_imp_right, not_not]
    intro herr
    exact hsound (by rw [herr])
  · intro hcond
    refine ⟨.ok err, ⟨1, fun fuel hfuel => ?_⟩, fun h => ?_⟩
    · obtain ⟨n, rfl⟩ := Nat.exists_eq_add_of_le' hfuel
      exact hreturns n
    · cases h
      exact hcond.resolve_right (not_not.mpr (hsuccess.mp rfl))

/-- Sixteen granules of 4096 bytes. -/
def sixteenGranules : PoolInfo where
  allocAllowed := true
  allocGranule := 4096
  allocAlignment := 4096
  aggregateAllocMax := 65536
  aggregateAllocMax_lt := by decide

/-- A pool of them that gives out at most `most` at once. -/
def limitedPool (most : Nat) : MemoryPool where
  info := .ok sixteenGranules
  allocate sz :=
    if sz ≤ most * 4096 then .success
    else if sz ≤ 16 * 4096 then .outOfResources else .invalidAllocation
  free _ := .success

theorem info_limitedPool {most : Nat} : (limitedPool most).info = .ok sixteenGranules := rfl

theorem allocatesUpTo_limitedPool (most : Nat) (hmost : most ≤ 16) :
    AllocatesUpTo (limitedPool most) 4096 16 most where
  success sz h := if_pos h
  released _ _ := rfl
  outOfResources sz h h' := by
    unfold limitedPool
    dsimp only
    rw [if_neg (by omega), if_pos h']
  invalidAllocation sz h _ := by
    unfold limitedPool
    dsimp only
    rw [if_neg (by omega), if_neg (by omega)]

/-- A GPU whose information calls succeed. -/
def readableGpu : AgentInfo := ⟨.success, .ok .gpu, .success⟩

/-- No status has a text. -/
def noTexts : MemoryAnswers := ⟨fun _ => []⟩

/-- A pool that gives out all but one granule. -/
theorem allocationTest_sound_fifteen :
    ∃ result, (∃ fuel, ∀ fuel' ≥ fuel,
        maxSingleAllocationTest noTexts fuel' readableGpu (limitedPool 15) = some result)
      ∧ (result = .ok .success → 15 * sixteenGranules.poolSz ≤ 16 * (15 + 1)) :=
  (allocationTest_sound_iff noTexts rfl info_limitedPool
    (allocatesUpTo_limitedPool 15 (by decide))).mpr (.inl (by decide))

/-- A pool that gives out half passes. -/
theorem not_allocationTest_sound_half :
    ¬ ∃ result, (∃ fuel, ∀ fuel' ≥ fuel,
        maxSingleAllocationTest noTexts fuel' readableGpu (limitedPool 8) = some result)
      ∧ (result = .ok .success → 15 * sixteenGranules.poolSz ≤ 16 * (8 + 1)) := by
  rintro ⟨result, ⟨fuel, hends⟩, hsound⟩
  have hgpu : readableGpu.device = .ok .gpu := rfl
  obtain ⟨err, hreturns, hsuccess⟩ := maxSingleAllocationTest_returns (a := noTexts) hgpu
    info_limitedPool (allocatesUpTo_limitedPool 8 (by decide))
  have herr : err = .success := hsuccess.mpr ⟨rfl, rfl, fun _ => by decide⟩
  have hresult := (hends (fuel + 1) (Nat.le_succ fuel)).symm.trans (hreturns fuel)
  rw [herr, Option.some.injEq] at hresult
  exact absurd (hsound hresult) (by decide)

/-! ## All pools of a GPU -/

section Pools

variable (a : MemoryAnswers) (fuel : Nat)

end Pools

end Rdc.Proof
