import Rdc.ComputeQueue
import Rdc.Lib.Buffer
import Rdc.Lib.SortedWindow

/-!
# What the compute queue test finds

Each pass is to divide the segment that the pass before has found. It divides the start of the array
instead: the ends of the segments are read without the lower bound. So a value is followed only as
far as it also lies in what the later passes look at. In a pass without a match the lower bound is
made from what `output[0]` held before, which in a later pass is the segment of the pass before and
in the first one whatever the buffer came with.

Three more things can happen. With one segment nothing gets smaller. With segments that reach behind
2 ^ 31 an index is negative. And a window from an old `output[0]` may lie anywhere.
-/

namespace Rdc.Proof

open Rdc ComputeQueue SortedWindow

/-! ## The kernel -/

variable {i s : Nat} {b : SearchBounds} {out : SearchOutput}

section Kernel

variable {xs : List Nat} {n s v : Nat} {out : SearchOutput}

/-- The ends of the first `n` segments. -/
def segmentEnds (xs : List Nat) (n s : Nat) : List (Nat × Nat) :=
  (List.range n).map fun i => (xs.getD (i * s) 0, xs.getD ((i + 1) * s - 1) 0)

theorem segment_end_le (hi : i < n) : i * s + s ≤ n * s := by
  rw [← Nat.succ_mul]
  exact Nat.mul_le_mul_right s hi

theorem u32Sub_one {a : Nat} (hpos : 0 < a) (hlt : a < 2 ^ 32) : u32Sub a 1 = a - 1 := by
  unfold u32Sub
  omega

theorem readInt_eq_some {idx : Nat} (hint : idx < 2 ^ 31) (hlen : idx < xs.length) :
    readInt xs idx = some (xs.getD idx 0) := by
  unfold readInt
  rw [if_pos hint, List.getD_eq_getElem?_getD, List.getElem?_eq_getElem hlen]
  rfl

theorem inputArr_eq_some (hpos : 0 < s) (hlen : n * s ≤ xs.length) (hint : n * s ≤ 2 ^ 31) :
    inputArr xs n s = some (segmentEnds xs n s) := by
  refine Buffer.mapM_eq_some_map fun i hi => ?_
  have hend : i * s + s ≤ n * s := segment_end_le (List.mem_range.mp hi)
  have hsucc : (i + 1) * s = i * s + s := Nat.succ_mul i s
  rw [hsucc, Nat.mod_eq_of_lt (show i * s < 2 ^ 32 by omega),
    Nat.mod_eq_of_lt (show i * s + s < 2 ^ 32 by omega), u32Sub_one (by omega) (by omega),
    readInt_eq_some (by omega) (by omega), readInt_eq_some (by omega) (by omega)]
  rfl

theorem inputArr_eq_none (hn : 0 < n) (hlt : n * s < 2 ^ 32) (hint : 2 ^ 31 < n * s) :
    inputArr xs n s = none := by
  refine Buffer.mapM_eq_none (List.mem_range.mpr (Nat.sub_lt hn Nat.one_pos)) ?_
  have hsucc : n - 1 + 1 = n := by omega
  have hlast : readInt xs (u32Sub (n * s % 2 ^ 32) 1) = none := by
    rw [Nat.mod_eq_of_lt hlt, u32Sub_one (by omega) hlt]
    unfold readInt
    rw [if_neg (by omega)]
  rw [hsucc, hlast]
  cases readInt xs ((n - 1) * s % 2 ^ 32) <;> rfl

theorem segmentEnds_getElem? (hi : i < n) :
    (segmentEnds xs n s)[i]? = some (xs.getD (i * s) 0, xs.getD ((i + 1) * s - 1) 0) := by
  unfold segmentEnds
  rw [List.getElem?_map, List.getElem?_range hi]
  rfl

/-- A work item writes if and only if the value lies in its segment. -/
theorem workItem_eq (hpos : 0 < s) (hlen : n * s ≤ xs.length) {tid : Nat} (htid : tid < n)
    (v : Nat) (out : SearchOutput) :
    (Segment xs s tid v ∧ workItem (segmentEnds xs n s) v out tid
        = { out with output0 := tid, output3 := 1 })
      ∨ (¬ Segment xs s tid v ∧ workItem (segmentEnds xs n s) v out tid = out) := by
  have hend : tid * s + s ≤ n * s := segment_end_le htid
  have hsucc : (tid + 1) * s = tid * s + s := Nat.succ_mul tid s
  have hsegment : Segment xs s tid v
      ↔ ¬ (xs.getD (tid * s) 0 > v ∨ xs.getD ((tid + 1) * s - 1) 0 < v) := by
    unfold Segment Brackets
    rw [List.getD_eq_getElem?_getD, List.getD_eq_getElem?_getD,
      List.getElem?_eq_getElem (by omega), List.getElem?_eq_getElem (by omega)]
    simp
  unfold workItem
  rw [segmentEnds_getElem? htid, hsegment]
  dsimp only
  by_cases h : xs.getD (tid * s) 0 > v ∨ xs.getD ((tid + 1) * s - 1) 0 < v
  · rw [if_pos h]
    exact .inr ⟨not_not.mpr h, rfl⟩
  · rw [if_neg h]
    exact .inl ⟨h, rfl⟩

variable {order : List Nat}

theorem binarySearch_of_none (hpos : 0 < s) (hlen : n * s ≤ xs.length)
    (horder : ∀ tid ∈ order, tid < n) (hnone : ∀ tid ∈ order, ¬ Segment xs s tid v)
    (out : SearchOutput) : binarySearch (segmentEnds xs n s) v order out = out := by
  unfold binarySearch
  induction order with
  | nil => rfl
  | cons tid order ih =>
    rw [List.forall_mem_cons] at horder hnone
    rw [List.foldl_cons]
    rcases workItem_eq hpos hlen horder.1 v out with ⟨hseg, -⟩ | ⟨-, heq⟩
    · exact absurd hseg hnone.1
    · rw [heq]
      exact ih horder.2 hnone.2

/-- With a match, some matching work item is the last to write. -/
theorem binarySearch_of_exists (hpos : 0 < s) (hlen : n * s ≤ xs.length)
    (horder : ∀ tid ∈ order, tid < n) (hsome : ∃ tid ∈ order, Segment xs s tid v)
    (out : SearchOutput) :
    ∃ tid ∈ order, Segment xs s tid v
      ∧ binarySearch (segmentEnds xs n s) v order out
          = { out with output0 := tid, output3 := 1 } := by
  induction order generalizing out with
  | nil =>
    obtain ⟨tid, hmem, -⟩ := hsome
    exact absurd hmem List.not_mem_nil
  | cons tid order ih =>
    rw [List.forall_mem_cons] at horder
    by_cases hlater : ∃ later ∈ order, Segment xs s later v
    · obtain ⟨later, hmem, hseg, heq⟩ :=
        ih horder.2 hlater (workItem (segmentEnds xs n s) v out tid)
      refine ⟨later, List.mem_cons_of_mem _ hmem, hseg, heq.trans ?_⟩
      rcases workItem_eq hpos hlen horder.1 v out with ⟨-, hw⟩ | ⟨-, hw⟩
      · rw [hw]
      · rw [hw]
    · -- this item is the last that matches
      have hnone : ∀ later ∈ order, ¬ Segment xs s later v :=
        fun later hmem hseg => hlater ⟨later, hmem, hseg⟩
      have hseg : Segment xs s tid v := by
        obtain ⟨other, hmem, hseg⟩ := hsome
        rcases List.mem_cons.mp hmem with rfl | htail
        · exact hseg
        · exact absurd hseg (hnone other htail)
      refine ⟨tid, List.mem_cons_self .., hseg, ?_⟩
      have hrest := binarySearch_of_none hpos hlen horder.2 hnone
        (workItem (segmentEnds xs n s) v out tid)
      refine hrest.trans ?_
      rcases workItem_eq hpos hlen horder.1 v out with ⟨-, hw⟩ | ⟨hnot, -⟩
      · exact hw
      · exact absurd hseg hnot

end Kernel

/-! ## The passes -/

theorem narrow_eq {n s i length : Nat} (hpos : 0 < s) (hend : i * s + s ≤ length)
    (hlength : length < 2 ^ 32) : narrow n s i = ⟨i * s, i * s + s - 1, s / n⟩ := by
  unfold narrow
  have hlower : i * s % 2 ^ 32 = i * s := Nat.mod_eq_of_lt (by omega)
  have hupper : u32Sub ((i * s + s) % 2 ^ 32) 1 = i * s + s - 1 := by
    rw [Nat.mod_eq_of_lt (by omega), u32Sub_one (by omega) (by omega)]
  have hsize : (u32Sub (i * s + s - 1) (i * s) + 1) % 2 ^ 32 = s := by
    unfold u32Sub
    omega
  simp only [hlower, hupper, hsize]

/-- Every pass from size `s` on has a match. -/
def AllMatch (bs : BinarySearch) (n s : Nat) : Prop :=
  ∀ k, 1 < s / n ^ k → ∃ i < n, Segment bs.input (s / n ^ k) i bs.findMe

theorem allMatch_of_le {bs : BinarySearch} {n s : Nat} (hs : s ≤ 1) : AllMatch bs n s :=
  fun k hk => absurd (Nat.div_le_self s (n ^ k)) (by omega)

theorem allMatch_iff {bs : BinarySearch} {n s : Nat} (hs : 1 < s) :
    AllMatch bs n s ↔ (∃ i < n, Segment bs.input s i bs.findMe) ∧ AllMatch bs n (s / n) := by
  have hstep : ∀ k, s / n / n ^ k = s / n ^ (k + 1) := by
    intro k
    rw [Nat.div_div_eq_div_mul, Nat.pow_succ']
  unfold AllMatch
  constructor
  · intro h
    refine ⟨?_, fun k hk => ?_⟩
    · have hzero := h 0
      rw [Nat.pow_zero, Nat.div_one] at hzero
      exact hzero hs
    · rw [hstep] at hk ⊢
      exact h (k + 1) hk
  · rintro ⟨hfirst, hrest⟩ k hk
    cases k with
    | zero =>
      rw [Nat.pow_zero, Nat.div_one]
      exact hfirst
    | succ k =>
      have := hrest k
      rw [hstep] at this
      exact this hk

section Passes

variable {bs : BinarySearch} {n : Nat} {orders : Nat → List Nat}

/-- The loop ends with these bounds and this output, given enough fuel. -/
def PassesEnd (bs : BinarySearch) (n : Nat) (orders : Nat → List Nat) (pass : Nat)
    (b : SearchBounds) (out : SearchOutput) (b' : SearchBounds) (out' : SearchOutput) : Prop :=
  ∃ least, ∀ fuel ≥ least, passLoop bs n orders fuel pass b out = some (b', out')

/-- The loop is left when the segments have become small or nothing has matched. -/
theorem passesEnd_stop {pass : Nat} (h : ¬ (b.subDivSize > 1 ∧ out.output3 ≠ 0)) :
    PassesEnd bs n orders pass b out b out := by
  refine ⟨1, fun fuel hfuel => ?_⟩
  obtain ⟨m, rfl⟩ : ∃ m, fuel = m + 1 := ⟨fuel - 1, by omega⟩
  unfold passLoop
  exact if_neg h

theorem PassesEnd.cons {pass : Nat} {b b₁ b' : SearchBounds} {out out₁ out' : SearchOutput}
    (h : PassesEnd bs n orders (pass + 1) b₁ out₁ b' out')
    (hpass : ∀ fuel, passLoop bs n orders (fuel + 1) pass b out
      = passLoop bs n orders fuel (pass + 1) b₁ out₁) :
    PassesEnd bs n orders pass b out b' out' := by
  obtain ⟨least, hends⟩ := h
  refine ⟨least + 1, fun fuel hfuel => ?_⟩
  obtain ⟨m, rfl⟩ : ∃ m, fuel = m + 1 := ⟨fuel - 1, by omega⟩
  rw [hpass m]
  exact hends m (by omega)

theorem passLoop_pass (pass : Nat) (hsize : 1 < b.subDivSize) (hout : out.output3 ≠ 0)
    (hlen : n * b.subDivSize ≤ bs.input.length) (hint : n * b.subDivSize ≤ 2 ^ 31)
    (horders : ∀ pass, (orders pass).Perm (List.range n)) :
    ∃ out', (∀ fuel, passLoop bs n orders (fuel + 1) pass b out
        = passLoop bs n orders fuel (pass + 1) (narrow n b.subDivSize out'.output0) out')
      ∧ ((∃ i < n, Segment bs.input b.subDivSize i bs.findMe
            ∧ out' = { out with output0 := i, output3 := 1 })
        ∨ (¬ ∃ i < n, Segment bs.input b.subDivSize i bs.findMe)
            ∧ out' = { out with output3 := 0 }) := by
  have hpos : 0 < b.subDivSize := by omega
  have hmem : ∀ tid, tid ∈ orders pass ↔ tid < n := by
    intro tid
    rw [(horders pass).mem_iff, List.mem_range]
  refine ⟨binarySearch (segmentEnds bs.input n b.subDivSize) bs.findMe (orders pass)
    { out with output3 := 0 }, fun fuel => ?_, ?_⟩
  · rw [passLoop, if_pos ⟨hsize, hout⟩, inputArr_eq_some hpos hlen hint]
  · by_cases hsome : ∃ i < n, Segment bs.input b.subDivSize i bs.findMe
    · obtain ⟨i, hi, hseg⟩ := hsome
      obtain ⟨tid, htid, hseg', heq⟩ := binarySearch_of_exists hpos hlen
        (fun tid htid => (hmem tid).mp htid) ⟨i, (hmem i).mpr hi, hseg⟩ { out with output3 := 0 }
      exact .inl ⟨tid, (hmem tid).mp htid, hseg', heq⟩
    · refine .inr ⟨hsome, ?_⟩
      exact binarySearch_of_none hpos hlen (fun tid htid => (hmem tid).mp htid)
        (fun tid htid hseg => hsome ⟨tid, (hmem tid).mp htid, hseg⟩) _

theorem segment_iff_window {xs : List Nat} {s i v : Nat} :
    Segment xs s i v ↔ Brackets xs (i * s) (i * s + s - 1) v := by
  unfold Segment
  rw [Nat.succ_mul]

/-- The window a pass leaves is one of its segments, and lies in the input. -/
theorem narrow_segment (hs : 1 < s) (hlen : n * s ≤ bs.input.length) (hi : i < n) :
    narrow n s i = ⟨i * s, i * s + s - 1, s / n⟩ ∧ i * s + s - 1 < bs.input.length := by
  have hend : i * s + s ≤ n * s := segment_end_le hi
  exact ⟨narrow_eq (by omega) (hend.trans hlen) bs.length_lt, by omega⟩

/-- The passes from a state in which the value lies between the bounds: they end, and the value lies
between the last bounds if and only if every pass has had a match. -/
theorem passes_end (horders : ∀ pass, (orders pass).Perm (List.range n)) (hn : 1 < s → 2 ≤ n)
    (hlen : n * s ≤ bs.input.length) (hint : 1 < s → n * s ≤ 2 ^ 31) (pass : Nat)
    (hsize : b.subDivSize = s) (out : SearchOutput) (hout : out.output3 ≠ 0)
    (hle : b.globalLowerBound ≤ b.globalUpperBound) (hlt : b.globalUpperBound < bs.input.length)
    (hbrackets : Brackets bs.input b.globalLowerBound b.globalUpperBound bs.findMe)
    (hfirst : 1 < s → (∃ i < n, Segment bs.input s i bs.findMe) ∨ out.output0 < n) :
    ∃ b' out', PassesEnd bs n orders pass b out b' out'
      ∧ b'.globalLowerBound ≤ b'.globalUpperBound ∧ b'.globalUpperBound < bs.input.length
      ∧ (Brackets bs.input b'.globalLowerBound b'.globalUpperBound bs.findMe
          ↔ AllMatch bs n s) := by
  induction s using Nat.strongRecOn generalizing pass b out with
  | ind s ih =>
    by_cases hs : 1 < s
    · obtain ⟨out₁, hpass, hmatch⟩ := passLoop_pass pass (hsize.symm ▸ hs) hout
        (hsize.symm ▸ hlen) (hsize.symm ▸ hint hs) horders
      rw [hsize] at hpass hmatch
      -- in either case the next window is a segment of this pass
      rcases hmatch with ⟨i, hi, hseg, rfl⟩ | ⟨hnone, rfl⟩
      · obtain ⟨hnarrow, hend⟩ := narrow_segment hs hlen hi
        have hsmaller : s / n < s := Nat.div_lt_self (by omega) (hn hs)
        have hfits : n * (s / n) ≤ n * s := Nat.mul_le_mul_left n hsmaller.le
        rw [hnarrow] at hpass
        have hsize' : (⟨i * s, i * s + s - 1, s / n⟩ : SearchBounds).subDivSize = s / n := rfl
        obtain ⟨b', out', hends, hle', hlt', hiff⟩ := ih (s / n) hsmaller (fun _ => hn hs)
          (hfits.trans hlen) (fun _ => hfits.trans (hint hs)) (pass + 1) hsize'
          { out with output0 := i, output3 := 1 } Nat.one_ne_zero (by dsimp only; omega) hend
          (segment_iff_window.mp hseg) fun _ => .inr hi
        refine ⟨b', out', hends.cons hpass, hle', hlt', ?_⟩
        rw [hiff, allMatch_iff hs]
        exact (and_iff_right ⟨i, hi, hseg⟩).symm
      · -- without a match it is the one with the number that was found before
        have hi : out.output0 < n := (hfirst hs).resolve_left hnone
        obtain ⟨hnarrow, hend⟩ := narrow_segment hs hlen hi
        dsimp only at hpass
        rw [hnarrow] at hpass
        have hstop := (passesEnd_stop fun h => h.2 rfl).cons hpass
        refine ⟨_, _, hstop, by dsimp only; omega, hend, ?_⟩
        rw [← segment_iff_window, allMatch_iff hs]
        exact iff_of_false (fun h => hnone ⟨out.output0, hi, h⟩) fun h => hnone h.1
    · refine ⟨b, out, passesEnd_stop fun h => hs (by omega), hle, hlt, ?_⟩
      exact iff_of_true hbrackets (allMatch_of_le (by omega))

theorem passLoop_outside (hn : 0 < n) {pass : Nat} (hsize : 1 < b.subDivSize)
    (hout : out.output3 ≠ 0) (hlen : n * b.subDivSize ≤ bs.input.length)
    (hint : 2 ^ 31 < n * b.subDivSize) (fuel : Nat) :
    passLoop bs n orders fuel pass b out = none := by
  cases fuel with
  | zero => rfl
  | succ fuel =>
    unfold passLoop
    rw [if_pos ⟨hsize, hout⟩, inputArr_eq_none hn (hlen.trans_lt bs.length_lt) hint]

/-- With one segment, which is the whole array, the next pass is the same. -/
theorem passLoop_one (horders : ∀ pass, (orders pass).Perm (List.range 1))
    (hlength : 1 < bs.input.length)
    (hbrackets : Brackets bs.input 0 (bs.input.length - 1) bs.findMe) {pass : Nat}
    (hsize : b.subDivSize = bs.input.length) (hout : out.output3 ≠ 0) (fuel : Nat) :
    passLoop bs 1 orders fuel pass b out = none := by
  by_cases hint : 2 ^ 31 < 1 * b.subDivSize
  · exact passLoop_outside Nat.one_pos (by omega) hout (by omega) hint fuel
  · induction fuel generalizing pass b out with
    | zero => rfl
    | succ fuel ih =>
      have hlen : 1 * b.subDivSize ≤ bs.input.length := by omega
      obtain ⟨out₁, hpass, hmatch⟩ := passLoop_pass pass (by omega) hout hlen
        (Nat.le_of_not_lt hint) horders
      have hsegment : Segment bs.input b.subDivSize 0 bs.findMe := by
        rw [segment_iff_window, hsize, Nat.zero_mul, Nat.zero_add]
        exact hbrackets
      rcases hmatch with ⟨i, hi, -, rfl⟩ | ⟨hnone, -⟩
      · obtain rfl : i = 0 := by omega
        have hnarrow : narrow 1 b.subDivSize 0 = ⟨0, b.subDivSize - 1, b.subDivSize⟩ := by
          have hend : 0 * b.subDivSize + b.subDivSize ≤ bs.input.length := by omega
          rw [narrow_eq (by omega) hend bs.length_lt, Nat.zero_mul, Nat.zero_add, Nat.div_one]
        rw [hpass fuel, hnarrow]
        exact ih hsize Nat.one_ne_zero hint
      · exact absurd ⟨0, Nat.one_pos, hsegment⟩ hnone

end Passes

/-! ## The scan -/

/-- What the output says is so. -/
def OutputRight (xs : List Nat) (v : Nat) (out : SearchOutput) : Prop :=
  (out.output2 = 1 ↔ v ∈ xs) ∧ (out.output2 = 1 → xs[out.output0]? = some v)

section Scan

variable {xs : List Nat} {v : Nat}

theorem scan_of_occurs {count i : Nat} (h : ∃ p, i ≤ p ∧ p < i + count ∧ xs[p]? = some v)
    (out : SearchOutput) :
    ∃ out', scan xs v count i out = some out' ∧ out'.output2 = 1
      ∧ xs[out'.output0]? = some v := by
  induction count generalizing i out with
  | zero =>
    obtain ⟨p, hip, hpi, -⟩ := h
    omega
  | succ count ih =>
    obtain ⟨p, hip, hpi, hv⟩ := h
    obtain ⟨hlt, -⟩ := List.getElem?_eq_some_iff.mp hv
    have hi : i < xs.length := by omega
    unfold scan
    rw [List.getElem?_eq_getElem hi]
    dsimp only
    by_cases heq : xs[i] = v
    · rw [if_pos heq]
      exact ⟨_, rfl, rfl, heq ▸ List.getElem?_eq_getElem hi⟩
    · rw [if_neg heq]
      have hne : i ≠ p := by
        rintro rfl
        rw [List.getElem?_eq_getElem hi, Option.some.injEq] at hv
        exact heq hv
      exact ih ⟨p, by omega, by omega, hv⟩ _

theorem scan_step {count i : Nat} (h : xs[i]? ≠ some v) (out : SearchOutput) :
    scan xs v (count + 1) i out
      = if i < xs.length then scan xs v count (i + 1) { out with output2 := 0 } else none := by
  rw [scan]
  by_cases hi : i < xs.length
  · rw [if_pos hi, List.getElem?_eq_getElem hi]
    rw [List.getElem?_eq_getElem hi, Ne, Option.some.injEq] at h
    exact if_neg h
  · rw [if_neg hi, List.getElem?_eq_none (Nat.le_of_not_lt hi)]

/-- A value that is not there is reported as such, unless the window leaves the array. -/
theorem scan_of_not_occurs {count i : Nat}
    (h : ¬ ∃ p, i ≤ p ∧ p < i + (count + 1) ∧ xs[p]? = some v) (out : SearchOutput) :
    scan xs v (count + 1) i out
      = if i + count < xs.length then some { out with output2 := 0 } else none := by
  have hhead : xs[i]? ≠ some v := fun hv => h ⟨i, Nat.le_refl i, by omega, hv⟩
  rw [scan_step hhead]
  induction count generalizing i out with
  | zero => rfl
  | succ count ih =>
    have htail : ¬ ∃ p, i + 1 ≤ p ∧ p < i + 1 + (count + 1) ∧ xs[p]? = some v := by
      rintro ⟨p, hip, hpi, hv⟩
      exact h ⟨p, by omega, by omega, hv⟩
    have hnext : xs[i + 1]? ≠ some v := fun hv => htail ⟨i + 1, Nat.le_refl _, by omega, hv⟩
    rw [scan_step hnext, ih htail _ hnext]
    by_cases hi : i + 1 + count < xs.length
    · rw [if_pos hi, if_pos (by omega), if_pos (by omega)]
    · rw [if_neg hi, if_neg (show ¬ i + (count + 1) < xs.length by omega), ite_self]

/-- The scan of a window is right if and only if the value is in the window, or the window is inside
the array and the value nowhere. -/
theorem scan_right_iff {lo hi : Nat} (hle : lo ≤ hi) (out : SearchOutput) :
    (∃ result, scan xs v (hi + 1 - lo) lo out = some result ∧ OutputRight xs v result)
      ↔ OccursIn xs lo hi v ∨ hi < xs.length ∧ v ∉ xs := by
  obtain ⟨count, hcount⟩ : ∃ count, hi + 1 - lo = count + 1 := ⟨hi - lo, by omega⟩
  have hwindow : (∃ p, lo ≤ p ∧ p < lo + (count + 1) ∧ xs[p]? = some v) ↔ OccursIn xs lo hi v := by
    unfold OccursIn
    refine exists_congr fun p => and_congr_right fun _ => and_congr_left fun _ => ?_
    omega
  rw [hcount]
  by_cases hoccurs : OccursIn xs lo hi v
  · obtain ⟨out', hscan, hfound, hv⟩ := scan_of_occurs (hwindow.mpr hoccurs) out
    refine iff_of_true ⟨out', hscan, ?_, fun _ => hv⟩ (.inl hoccurs)
    exact iff_of_true hfound (List.mem_of_getElem? hv)
  · rw [scan_of_not_occurs (fun h => hoccurs (hwindow.mp h)), or_iff_right hoccurs]
    by_cases hlt : hi < xs.length
    · rw [if_pos (by omega), and_iff_right hlt]
      simp [OutputRight]
    · rw [if_neg (by omega)]
      exact iff_of_false (by rintro ⟨-, ⟨⟩, -⟩) fun h => hlt h.1

end Scan

/-! ## The search -/

/-- The search ends, without a read outside the array, and is right. -/
def SearchRight (bs : BinarySearch) (orders : Nat → List Nat) (out : SearchOutput) : Prop :=
  ∃ result, (∃ least, ∀ fuel ≥ least, run bs orders fuel out = some result)
    ∧ OutputRight bs.input bs.findMe result

/-- The value lies between the first and the last element. -/
def KeyInRange (bs : BinarySearch) : Prop :=
  Brackets bs.input 0 (bs.input.length - 1) bs.findMe

/-- The first pass has a match. -/
def FirstMatch (bs : BinarySearch) : Prop :=
  ∃ i < adjusted bs, Segment bs.input (bs.input.length / adjusted bs) i bs.findMe

/-- What has to hold of a window that an old `output[0]` leads to. If it is not empty, the value is
found in it, or it is inside the array and the value nowhere; if it is, the old output is right. -/
def OldWindowRight (bs : BinarySearch) (out : SearchOutput) : Prop :=
  let b := narrow (adjusted bs) (bs.input.length / adjusted bs) out.output0
  (b.globalLowerBound ≤ b.globalUpperBound →
      OccursIn bs.input b.globalLowerBound b.globalUpperBound bs.findMe
        ∨ b.globalUpperBound < bs.input.length ∧ bs.findMe ∉ bs.input)
    ∧ (b.globalUpperBound < b.globalLowerBound → OutputRight bs.input bs.findMe out)

/-- When the passes lead to the right place: there are at least two segments, which end before
2 ^ 31; and if the first pass has a match, a value of the array is also an element of what each
later pass looks at, and if not, the window that is left is right. -/
def PassesRight (bs : BinarySearch) (out : SearchOutput) : Prop :=
  2 ≤ adjusted bs ∧ adjusted bs * (bs.input.length / adjusted bs) ≤ 2 ^ 31
    ∧ (FirstMatch bs → bs.findMe ∈ bs.input →
        ∀ k, 1 < bs.input.length / adjusted bs ^ (k + 1) →
          ∃ p < adjusted bs * (bs.input.length / adjusted bs ^ (k + 1)),
            bs.input[p]? = some bs.findMe)
    ∧ (¬ FirstMatch bs → OldWindowRight bs out)

section Search

variable {bs : BinarySearch} {orders : Nat → List Nat} {out : SearchOutput}

theorem keyInRange_iff : KeyInRange bs
    ↔ ¬ (bs.input.head bs.input_ne > bs.findMe ∨ bs.input.getLast bs.input_ne < bs.findMe) := by
  have hpos : 0 < bs.input.length := List.length_pos_iff.mpr bs.input_ne
  unfold KeyInRange Brackets
  rw [List.getElem?_eq_getElem hpos, List.getElem?_eq_getElem (by omega), List.head_eq_getElem,
    List.getLast_eq_getElem]
  simp

theorem searchRight_of_not_keyInRange (hsorted : bs.input.Pairwise (· ≤ ·)) (h : ¬ KeyInRange bs) :
    SearchRight bs orders out := by
  have hmem : bs.findMe ∉ bs.input := fun hmem => h (Brackets.of_mem hsorted hmem)
  refine ⟨{ out with output0 := 0, output1 := bs.input.length - 1, output2 := 0 },
    ⟨0, fun fuel _ => ?_⟩, ?_⟩
  · rw [keyInRange_iff, not_not] at h
    exact if_pos h
  · unfold OutputRight
    simp [hmem]

/-- The bounds before the first pass. -/
def startBounds (bs : BinarySearch) : SearchBounds :=
  ⟨0, bs.input.length - 1, bs.input.length / adjusted bs⟩

theorem run_of_keyInRange (h : KeyInRange bs) (fuel : Nat) :
    run bs orders fuel out
      = (passLoop bs (adjusted bs) orders fuel 0 (startBounds bs)
          { out with output3 := 1 }).bind fun p =>
            scan bs.input bs.findMe (p.1.globalUpperBound + 1 - p.1.globalLowerBound)
              p.1.globalLowerBound p.2 := by
  have hpos : 0 < bs.input.length := List.length_pos_iff.mpr bs.input_ne
  have hlast : bs.input.length - 1 + 1 = bs.input.length := by omega
  unfold run startBounds
  rw [keyInRange_iff] at h
  dsimp only
  rw [if_neg h, hlast]
  cases passLoop bs (adjusted bs) orders fuel 0
    ⟨0, bs.input.length - 1, bs.input.length / adjusted bs⟩ { out with output3 := 1 } <;> rfl

theorem not_searchRight_of_none (h : KeyInRange bs)
    (hnone : ∀ fuel, passLoop bs (adjusted bs) orders fuel 0 (startBounds bs)
      { out with output3 := 1 } = none) : ¬ SearchRight bs orders out := by
  rintro ⟨result, ⟨least, hrun⟩, -⟩
  have hresult := hrun least (Nat.le_refl least)
  rw [run_of_keyInRange h, hnone] at hresult
  cases hresult

theorem searchRight_iff_scan (h : KeyInRange bs) {out' : SearchOutput}
    (hends :
      PassesEnd bs (adjusted bs) orders 0 (startBounds bs) { out with output3 := 1 } b out') :
    SearchRight bs orders out
      ↔ ∃ result, scan bs.input bs.findMe (b.globalUpperBound + 1 - b.globalLowerBound)
          b.globalLowerBound out' = some result ∧ OutputRight bs.input bs.findMe result := by
  obtain ⟨least, hends⟩ := hends
  have hrun : ∀ fuel ≥ least, run bs orders fuel out
      = scan bs.input bs.findMe (b.globalUpperBound + 1 - b.globalLowerBound)
          b.globalLowerBound out' := by
    intro fuel hfuel
    rw [run_of_keyInRange h, hends fuel hfuel]
    rfl
  constructor
  · rintro ⟨result, ⟨least', hresult⟩, hright⟩
    refine ⟨result, ?_, hright⟩
    rw [← hrun (max least least') (le_max_left ..)]
    exact hresult _ (le_max_right ..)
  · rintro ⟨result, hscan, hright⟩
    exact ⟨result, ⟨least, fun fuel hfuel => (hrun fuel hfuel).trans hscan⟩, hright⟩

/-- A value of the array is found in every pass if and only if it is an element of what every pass
looks at. -/
theorem allMatch_iff_occurs (hsorted : bs.input.Pairwise (· ≤ ·)) (hmem : bs.findMe ∈ bs.input) :
    AllMatch bs (adjusted bs) (bs.input.length / adjusted bs)
      ↔ ∀ k, 1 < bs.input.length / adjusted bs ^ (k + 1) →
          ∃ p < adjusted bs * (bs.input.length / adjusted bs ^ (k + 1)),
            bs.input[p]? = some bs.findMe := by
  unfold AllMatch
  refine forall_congr' fun k => ?_
  have hsize : bs.input.length / adjusted bs / adjusted bs ^ k
      = bs.input.length / adjusted bs ^ (k + 1) := by
    rw [Nat.div_div_eq_div_mul, Nat.pow_succ']
  rw [← hsize]
  refine imp_congr_right fun hk => exists_segment_iff hsorted hmem (by omega) ?_
  calc adjusted bs * (bs.input.length / adjusted bs / adjusted bs ^ k)
      ≤ adjusted bs * (bs.input.length / adjusted bs) :=
        Nat.mul_le_mul_left _ (Nat.div_le_self _ _)
    _ ≤ bs.input.length := Nat.mul_div_le _ _

/-- The passes from the start, if they do not depend on what the buffer held. -/
theorem searchRight_iff_allMatch (hsorted : bs.input.Pairwise (· ≤ ·)) (h : KeyInRange bs)
    (horders : ∀ pass, (orders pass).Perm (List.range (adjusted bs)))
    (hn : 1 < bs.input.length / adjusted bs → 2 ≤ adjusted bs)
    (hint : 1 < bs.input.length / adjusted bs →
      adjusted bs * (bs.input.length / adjusted bs) ≤ 2 ^ 31)
    (hfirst : 1 < bs.input.length / adjusted bs → FirstMatch bs) :
    SearchRight bs orders out
      ↔ (bs.findMe ∈ bs.input → AllMatch bs (adjusted bs) (bs.input.length / adjusted bs)) := by
  have hpos : 0 < bs.input.length := List.length_pos_iff.mpr bs.input_ne
  have hsize : (startBounds bs).subDivSize = bs.input.length / adjusted bs := rfl
  obtain ⟨b, out', hends, hle, hlt, hiff⟩ := passes_end horders hn (Nat.mul_div_le _ _) hint 0 hsize
    { out with output3 := 1 } Nat.one_ne_zero (Nat.zero_le _) (Nat.sub_lt hpos Nat.one_pos) h
    fun hs => .inl (hfirst hs)
  rw [searchRight_iff_scan h hends, scan_right_iff hle, ← hiff, and_iff_right hlt]
  by_cases hmem : bs.findMe ∈ bs.input
  · rw [brackets_iff_occursIn hsorted hmem hle hlt]
    simp [hmem]
  · simp [hmem]

/-- Without a match in the first pass the window comes from the old output. -/
theorem searchRight_iff_oldWindow (h : KeyInRange bs)
    (horders : ∀ pass, (orders pass).Perm (List.range (adjusted bs)))
    (hsize : 1 < bs.input.length / adjusted bs)
    (hint : adjusted bs * (bs.input.length / adjusted bs) ≤ 2 ^ 31) (hnone : ¬ FirstMatch bs) :
    SearchRight bs orders out ↔ OldWindowRight bs out := by
  have hstart : 1 < (startBounds bs).subDivSize := hsize
  have hone : ({ out with output3 := 1 } : SearchOutput).output3 ≠ 0 := Nat.one_ne_zero
  obtain ⟨out₁, hpass, hmatch⟩ :=
    passLoop_pass 0 hstart hone (Nat.mul_div_le _ _) hint horders
  obtain ⟨-, rfl⟩ := hmatch.resolve_left fun ⟨i, hi, hseg, _⟩ => hnone ⟨i, hi, hseg⟩
  rw [searchRight_iff_scan h ((passesEnd_stop fun h => h.2 rfl).cons hpass)]
  unfold OldWindowRight startBounds
  dsimp only
  generalize narrow (adjusted bs) (bs.input.length / adjusted bs) out.output0 = b
  by_cases hle : b.globalLowerBound ≤ b.globalUpperBound
  · rw [scan_right_iff hle]
    simp [hle, Nat.not_lt.mpr hle]
  · -- the bounds have crossed, and the loop over the window does nothing
    rw [show b.globalUpperBound + 1 - b.globalLowerBound = 0 by omega]
    simp [hle, Nat.lt_of_not_le hle, scan, OutputRight]

theorem searchRight_iff_passesRight (hn : 1 ≤ adjusted bs) (hsorted : bs.input.Pairwise (· ≤ ·))
    (horders : ∀ pass, (orders pass).Perm (List.range (adjusted bs))) (h : KeyInRange bs)
    (hsize : 1 < bs.input.length / adjusted bs) :
    SearchRight bs orders out ↔ PassesRight bs out := by
  unfold PassesRight
  by_cases hone : adjusted bs = 1
  · refine iff_of_false ?_ fun hright => absurd hright.1 (by omega)
    rw [hone] at horders
    rw [hone, Nat.div_one] at hsize
    refine not_searchRight_of_none h fun fuel => ?_
    rw [hone]
    exact passLoop_one horders hsize h (by unfold startBounds; rw [hone, Nat.div_one])
      Nat.one_ne_zero fuel
  rw [and_iff_right (show 2 ≤ adjusted bs by omega)]
  by_cases hint : adjusted bs * (bs.input.length / adjusted bs) ≤ 2 ^ 31
  · rw [and_iff_right hint]
    by_cases hfirst : FirstMatch bs
    · rw [searchRight_iff_allMatch hsorted h horders (fun _ => by omega) (fun _ => hint)
        fun _ => hfirst]
      simp only [hfirst, not_true_eq_false, false_implies, and_true, true_implies]
      exact imp_congr_right fun hmem => allMatch_iff_occurs hsorted hmem
    · rw [searchRight_iff_oldWindow h horders hsize hint hfirst]
      simp [hfirst]
  · refine iff_of_false (not_searchRight_of_none h fun fuel => ?_) fun hright => hint hright.1
    exact passLoop_outside hn hsize Nat.one_ne_zero (Nat.mul_div_le _ _) (Nat.lt_of_not_le hint)
      fuel

end Search

/-- For every sorted array, at least one segment, every value, every old output and every order of
the work items: the search reads only the array, ends and is right if and only if the value is out
of range, or the array is scanned whole, or the passes lead to the right place. -/
theorem searchRight_iff {bs : BinarySearch} (hn : 1 ≤ adjusted bs)
    (hsorted : bs.input.Pairwise (· ≤ ·)) {orders : Nat → List Nat}
    (horders : ∀ pass, (orders pass).Perm (List.range (adjusted bs))) (out : SearchOutput) :
    SearchRight bs orders out
      ↔ ¬ KeyInRange bs ∨ bs.input.length < 2 * adjusted bs ∨ PassesRight bs out := by
  by_cases h : KeyInRange bs
  · rw [or_iff_right (not_not.mpr h)]
    by_cases hscan : bs.input.length < 2 * adjusted bs
    · -- no segment has two elements, so there is no pass
      have hsize : ¬ 1 < bs.input.length / adjusted bs := by
        rw [Nat.not_lt, ← Nat.lt_succ_iff]
        exact (Nat.div_lt_iff_lt_mul hn).mpr hscan
      refine iff_of_true ?_ (.inl hscan)
      rw [searchRight_iff_allMatch hsorted h horders (absurd · hsize) (absurd · hsize)
        (absurd · hsize)]
      exact fun _ => allMatch_of_le (Nat.le_of_not_lt hsize)
    · rw [or_iff_right hscan]
      exact searchRight_iff_passesRight hn hsorted horders h
        ((Nat.le_div_iff_mul_le hn).mpr (Nat.le_of_not_lt hscan))
  · exact iff_of_true (searchRight_of_not_keyInRange hsorted h) (.inl h)

/-- A search with groups of one work item, so that the number of segments is the given one. -/
def search (n findMe : Nat) (input : List Nat) (hne : input ≠ []) (hlt : input.length < 2 ^ 32) :
    BinarySearch :=
  ⟨input, findMe, 1, n, hne, hlt⟩

/-- Eight elements in two segments: first of four, then of two elements. -/
def eightElements (findMe : Nat) : BinarySearch :=
  search 2 findMe [0, 1, 2, 3, 4, 5, 6, 7] (List.cons_ne_nil _ _) (by decide)

/-- Two elements in one segment. -/
def twoElements : BinarySearch := search 1 0 [0, 1] (List.cons_ne_nil _ _) (by decide)

/-- A value between two segments. -/
def betweenSegments : BinarySearch := search 2 3 [0, 1, 5, 6] (List.cons_ne_nil _ _) (by decide)

/-- The work items in the order of their numbers. -/
def inOrder (n : Nat) (_ : Nat) : List Nat := List.range n

/-- An element of the first quarter is found. -/
theorem searchRight_one : SearchRight (eightElements 1) (inOrder 2) ⟨0, 0, 0, 0⟩ := by
  refine (searchRight_iff (by decide) (by decide) (fun _ => .refl _) _).mpr (.inr (.inr ?_))
  refine ⟨by decide, by decide, fun _ _ k hk => ⟨1, ?_, rfl⟩, fun hnone => ?_⟩
  · exact hk.trans_le (Nat.le_mul_of_pos_left _ (by decide))
  · exact absurd ⟨0, by decide, 0, 3, rfl, rfl, by decide, by decide⟩ hnone

/-- The last element is lost in the second pass, which looks at the first four. With one segment the
search does not end. And with a value between the segments the old output leads out of the array. -/
theorem not_searchRight :
    ¬ SearchRight (eightElements 7) (inOrder 2) ⟨0, 0, 0, 0⟩
      ∧ ¬ SearchRight twoElements (inOrder 1) ⟨0, 0, 0, 0⟩
      ∧ ¬ SearchRight betweenSegments (inOrder 2) ⟨7, 0, 0, 0⟩ := by
  refine ⟨fun hright => ?_, fun hright => ?_, fun hright => ?_⟩
  · have hrange : KeyInRange (eightElements 7) := ⟨0, 7, rfl, rfl, by decide, by decide⟩
    obtain ⟨-, -, hmatch, -⟩ := (searchRight_iff_passesRight (by decide) (by decide)
      (fun _ => .refl _) hrange (by decide)).mp hright
    have hfirst : FirstMatch (eightElements 7) :=
      ⟨1, by decide, 4, 7, rfl, rfl, by decide, by decide⟩
    exact absurd (hmatch hfirst (by decide) 1 (by decide)) (by decide)
  · have hrange : KeyInRange twoElements := ⟨0, 1, rfl, rfl, by decide, by decide⟩
    obtain ⟨htwo, -⟩ := (searchRight_iff_passesRight (by decide) (by decide)
      (fun _ => .refl _) hrange (by decide)).mp hright
    exact absurd htwo (by decide)
  · have hrange : KeyInRange betweenSegments := ⟨0, 6, rfl, rfl, by decide, by decide⟩
    obtain ⟨-, -, -, hold⟩ := (searchRight_iff_passesRight (by decide) (by decide)
      (fun _ => .refl _) hrange (by decide)).mp hright
    have hfirst : ¬ FirstMatch betweenSegments := by
      rintro ⟨i, hi, x, y, hx, hy, hxv, hvy⟩
      have hi : i < 2 := hi
      obtain rfl | rfl : i = 0 ∨ i = 1 := by omega
      · have hy : some 1 = some y := hy
        cases hy
        exact absurd hvy (by decide)
      · have hx : some 5 = some x := hx
        cases hx
        exact absurd hxv (by decide)
    rcases (hold hfirst).1 (by decide) with ⟨p, hlo, -, hp⟩ | ⟨hlt, -⟩
    · have hlo : 14 ≤ p := hlo
      obtain ⟨hlt, -⟩ := List.getElem?_eq_some_iff.mp hp
      have hlt : p < 4 := hlt
      omega
    · exact absurd hlt (by decide)

end Rdc.Proof
