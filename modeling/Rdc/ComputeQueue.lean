import Rdc.Types

/-!
# The compute queue test

`ComputeQueueTest::Run` of `librdc_rocr`: a search for a value in a sorted array, where in each pass
a kernel with one work item for each segment of the array says which segment the value may be in.

The calls of the HSA runtime succeed here, and the buffers for the ends of the segments, which are
given to the kernel whole, are as large as a pass needs. The work items of a pass write to the same
two words of the output, so it matters in which order they run; that order is an argument. A read of
the input outside the array has no defined result. The loop over the passes has fuel.
-/

namespace Rdc

/-- `BinarySearch`: the members that the search reads. -/
structure BinarySearch where
  input : List Nat
  findMe : Nat
  workGroupSize : Nat
  numSubDivisions : Nat
  input_ne : input ≠ []
  /-- `length` is a `uint32_t`. -/
  length_lt : input.length < 2 ^ 32

/-- The output buffer, `output[0]` to `output[3]`. -/
structure SearchOutput where
  output0 : Nat
  output1 : Nat
  output2 : Nat
  output3 : Nat
  deriving DecidableEq

/-- The bounds of the search. -/
structure SearchBounds where
  globalLowerBound : Nat
  globalUpperBound : Nat
  subDivSize : Nat
  deriving DecidableEq

namespace ComputeQueue

/-! ## The kernel -/

/-- A work item of `binarySearch`. -/
def workItem (sortedArray : List (Nat × Nat)) (findMe : Nat) (out : SearchOutput) (tid : Nat) :
    SearchOutput :=
  match sortedArray[tid]? with
  | none => out
  | some element =>
    if element.1 > findMe ∨ element.2 < findMe then out
    else { out with output0 := tid, output3 := 1 }

/-- A kernel run: the work items in some order. -/
def binarySearch (sortedArray : List (Nat × Nat)) (findMe : Nat) (order : List Nat)
    (out : SearchOutput) : SearchOutput :=
  order.foldl (workItem sortedArray findMe) out

/-! ## The passes -/

/-- Subtraction of two `uint32_t`. -/
def u32Sub (a b : Nat) : Nat := (a + (2 ^ 32 - b % 2 ^ 32)) % 2 ^ 32

/-- `num_sub_divisions` after the adjustment of the size of the work groups. -/
def adjusted (bs : BinarySearch) : Nat :=
  let workGroupSize := if bs.workGroupSize > 64 then 64 else bs.workGroupSize
  let numSubDivisions :=
    if bs.workGroupSize > 64 then bs.input.length / workGroupSize else bs.numSubDivisions
  if numSubDivisions < workGroupSize then workGroupSize else numSubDivisions

/-- A read of the input with an index that is an `int`. -/
def readInt (input : List Nat) (idx : Nat) : Option Nat :=
  if idx < 2 ^ 31 then input[idx]? else none

/-- The ends of the segments, counted from the start of the array in every pass. -/
def inputArr (input : List Nat) (numSubDivisions subDivSize : Nat) : Option (List (Nat × Nat)) :=
  (List.range numSubDivisions).mapM fun i => do
    let first ← readInt input (i * subDivSize % 2 ^ 32)
    let last ← readInt input (u32Sub ((i + 1) * subDivSize % 2 ^ 32) 1)
    return (first, last)

/-- The bounds of the segment that `output[0]` names. -/
def narrow (numSubDivisions subDivSize output0 : Nat) : SearchBounds :=
  let lower := output0 * subDivSize % 2 ^ 32
  let upper := u32Sub ((lower + subDivSize) % 2 ^ 32) 1
  ⟨lower, upper, (u32Sub upper lower + 1) % 2 ^ 32 / numSubDivisions⟩

/-- The loop over the passes; `orders` gives the order of the work items in each. -/
def passLoop (bs : BinarySearch) (numSubDivisions : Nat) (orders : Nat → List Nat) :
    Nat → Nat → SearchBounds → SearchOutput → Option (SearchBounds × SearchOutput)
  | 0, _, _, _ => none
  | fuel + 1, pass, b, out =>
    if b.subDivSize > 1 ∧ out.output3 ≠ 0 then
      match inputArr bs.input numSubDivisions b.subDivSize with
      | none => none
      | some sortedArray =>
        let out' := binarySearch sortedArray bs.findMe (orders pass) { out with output3 := 0 }
        passLoop bs numSubDivisions orders fuel (pass + 1)
          (narrow numSubDivisions b.subDivSize out'.output0) out'
    else some (b, out)

/-! ## The search -/

/-- The loop over what is left, of which `count` elements from `i` on have not been looked at. -/
def scan (input : List Nat) (findMe : Nat) : Nat → Nat → SearchOutput → Option SearchOutput
  | 0, _, out => some out
  | count + 1, i, out =>
    match input[i]? with
    | none => none
    | some element =>
      if element = findMe then
        some { out with output0 := i, output1 := (i + 1) % 2 ^ 32, output2 := 1 }
      else scan input findMe count (i + 1) { out with output2 := 0 }

/-- `Run`, with what the output buffer holds before. -/
def run (bs : BinarySearch) (orders : Nat → List Nat) (fuel : Nat) (out : SearchOutput) :
    Option SearchOutput :=
  let numSubDivisions := adjusted bs
  let globalUpperBound := bs.input.length - 1
  if bs.input.head bs.input_ne > bs.findMe ∨ bs.input.getLast bs.input_ne < bs.findMe then
    some { out with output0 := 0, output1 := globalUpperBound, output2 := 0 }
  else
    match passLoop bs numSubDivisions orders fuel 0
        ⟨0, globalUpperBound, (globalUpperBound + 1) / numSubDivisions⟩
        { out with output3 := 1 } with
    | none => none
    -- an empty loop if the bounds have crossed
    | some (b, out') =>
      scan bs.input bs.findMe (b.globalUpperBound + 1 - b.globalLowerBound) b.globalLowerBound
        out'

end ComputeQueue

end Rdc
