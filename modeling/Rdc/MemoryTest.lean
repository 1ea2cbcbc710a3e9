import Rdc.Diagnostic

/-!
# The memory test

`MemoryTest::MaxSingleAllocationTest` of `librdc_rocr`, for one memory pool of a GPU: it looks for
the largest allocation by bisection, in units of the pool's granule, and fails if that is less than
fifteen sixteenths of the pool.

What the HSA runtime answers is an argument. The search may go on for ever as far as its shape is
concerned, so it has fuel. The comparison with fifteen sixteenths is made in `float`; here it is
exact. The texts that go to the log are left out.
-/

namespace Rdc

/-! ## The HSA runtime -/

/-- `hsa_status_t`, as far as the test tells statuses apart. -/
inductive HsaStatus where
  | success
  | error
  | invalidAllocation
  | outOfResources
  | other (code : Nat)
  deriving DecidableEq

/-- `pool_info_t`: the members that are read. -/
structure PoolInfo where
  allocAllowed : Bool
  allocGranule : Nat
  allocAlignment : Nat
  aggregateAllocMax : Nat
  /-- It is a `uint64_t`. -/
  aggregateAllocMax_lt : aggregateAllocMax < 2 ^ 64

namespace PoolInfo

/-- Whether the test applies to a pool. -/
def applicable (poolI : PoolInfo) : Bool :=
  poolI.allocAllowed && poolI.allocGranule ≠ 0 && poolI.allocAlignment ≠ 0

/-- `pool_sz`: the size of the pool in granules. -/
def poolSz (poolI : PoolInfo) : Nat := poolI.aggregateAllocMax / poolI.allocGranule

/-- A granule more than the pool has, in bytes. -/
def negativeRequest (poolI : PoolInfo) : Nat :=
  (poolI.poolSz * poolI.allocGranule + poolI.allocGranule) % 2 ^ 64

end PoolInfo

/-- A memory pool: what its information calls give, or the status of the first that fails, and how
an allocation of a number of bytes and the release of it end. -/
structure MemoryPool where
  info : Except HsaStatus PoolInfo
  allocate : Nat → HsaStatus
  free : Nat → HsaStatus

/-- What `hsa_agent_get_info` answers about an agent: the statuses for its name and its node, and
its type. -/
structure AgentInfo where
  name : HsaStatus
  device : Except HsaStatus HsaDeviceType
  node : HsaStatus

/-- What is answered while the test runs. -/
structure MemoryAnswers where
  /-- The number of a status and the text of `hsa_status_string`. -/
  statusString : HsaStatus → List UInt8

namespace MemoryTest

/-- `throw_if_error`. An exception is its text. -/
def throwIfError (a : MemoryAnswers) (err : HsaStatus) (msg : List UInt8) :
    Except (List UInt8) Unit :=
  if err ≠ .success then .error (msg ++ text " hsa error code: " ++ a.statusString err) else .ok ()

/-- `TestAllocate`. -/
def testAllocate (pool : MemoryPool) (sz : Nat) : HsaStatus :=
  let err := pool.allocate sz
  if err = .success then pool.free sz else err

/-! ## The search -/

/-- The variables of the search. -/
structure Search where
  maxAllocSize : Nat
  upperBound : Nat
  lowerBound : Nat

/-- How the search ends: the function returns, or the loop is left. -/
inductive SearchEnd where
  | returned (err : HsaStatus)
  | found (maxAllocSize : Nat) (err : HsaStatus)

/-- The loop. -/
def searchLoop (pool : MemoryPool) (granSz : Nat) : Nat → Search → Option SearchEnd
  | 0, _ => none
  | fuel + 1, s =>
    let err := testAllocate pool (s.maxAllocSize * granSz % 2 ^ 64)
    -- an `||` where every status satisfies one side or the other
    if err ≠ .success ∨ err ≠ .outOfResources then some (.returned err)
    else
      let s' : Search :=
        if err = .success then
          ⟨u64Add s.maxAllocSize (u64Sub s.upperBound s.maxAllocSize / 2), s.upperBound,
            s.maxAllocSize⟩
        else if err = .outOfResources then
          ⟨u64Sub s.maxAllocSize (u64Sub s.maxAllocSize s.lowerBound / 2), s.maxAllocSize,
            s.lowerBound⟩
        else s
      if u64Sub s'.upperBound s'.lowerBound < 2 then some (.found s'.maxAllocSize err)
      else if s'.upperBound ≤ s'.lowerBound then some (.returned err)
      else searchLoop pool granSz fuel s'

/-- `MaxSingleAllocationTest` for one pool of an agent: the status it returns, or an exception. -/
def maxSingleAllocationTest (a : MemoryAnswers) (fuel : Nat) (ag : AgentInfo) (pool : MemoryPool) :
    Option (Except (List UInt8) HsaStatus) :=
  if ag.name ≠ .success then some (.ok ag.name)
  else
    match ag.device with
    | .error err => some (.ok err)
    | .ok agType =>
      if ag.node ≠ .success then some (.ok ag.node)
      else
        match pool.info with
        -- `AcquirePoolInfo` throws
        | .error err => some ((throwIfError a err []).map fun _ => err)
        | .ok poolI =>
          -- not applicable, which is a success
          if !poolI.applicable then some (.ok .success)
          else
            let granSz := poolI.allocGranule
            let poolSz := poolI.poolSz
            let err := testAllocate pool poolI.negativeRequest
            if err ≠ .invalidAllocation then some (.ok err)
            else
              match searchLoop pool granSz fuel ⟨poolSz / 2, poolSz, 0⟩ with
              | none => none
              | some (.returned err) => some (.ok err)
              | some (.found maxAllocSize err) =>
                if agType = .gpu ∧ 16 * maxAllocSize < 15 * poolSz then
                  some ((throwIfError a .error (text "The allocate size is wrong")).map
                    fun _ => err)
                else some (.ok err)

end MemoryTest

end Rdc
