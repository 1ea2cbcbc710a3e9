import Rdc.Proof.Diagnostics

/-!
# The verdict of a kernel test

`librdc_rocr` runs the sub-tests of a test case on one GPU after the other and goes on whatever
happens. What a sub-test ended in is written to the one status of the result by its `catch` block,
over what is there. So the status is the outcome of the last sub-test that did not pass, and the
worst outcome only if none of the failures is followed by a skip alone.
-/

namespace Rdc.Proof

open Rdc

/-- The outcome of a sub-test. -/
def outcome : KernelTest → RdcDiagResult
  | .passed _ _ => .pass
  | .skipException _ => .skip
  | .exception _ => .fail

/-- The outcomes on all GPUs, in the order in which the sub-tests run. -/
def subOutcomes (a : RocrAnswers) (testCase : RdcDiagTestCase) (gpus : List Nat) :
    List RdcDiagResult :=
  gpus.flatMap fun gpu => (subTests a testCase gpu).map fun test => outcome test.2

/-- The maximum of a list of outcomes. -/
def IsWorst (status : RdcDiagResult) (outs : List RdcDiagResult) : Prop :=
  status ∈ outs ∧ ∀ out ∈ outs, out.num ≤ status.num

/-- The outcomes that leave something in the status. -/
def notPassed (outs : List RdcDiagResult) : List RdcDiagResult :=
  outs.filter (· ≠ .pass)

/-! ## The status that is written over -/

/-- What a `try` block makes of the status. -/
def overwrite (status out : RdcDiagResult) : RdcDiagResult :=
  if out = .pass then status else out

theorem tryTest_status (name : String) (gpu : Nat) (test : KernelTest) (s : Rocr.Told) :
    (Rocr.tryTest name gpu test s).1 = overwrite s.1 (outcome test) := by
  cases test <;> rfl

theorem foldl_overwrite (outs : List RdcDiagResult) (status : RdcDiagResult) :
    outs.foldl overwrite status = (notPassed outs).getLast?.getD status := by
  induction outs generalizing status with
  | nil => rfl
  | cons out outs ih =>
    rw [List.foldl_cons, ih]
    unfold overwrite notPassed
    by_cases hout : out = .pass
    · rw [if_pos hout, List.filter_cons_of_neg (by simpa using hout)]
    · rw [if_neg hout, List.filter_cons_of_pos (by simpa using hout), List.getLast?_cons]
      rfl

theorem trySubTests_status (a : RocrAnswers) (testCase : RdcDiagTestCase) (gpu : Nat)
    (s : Rocr.Told) :
    (trySubTests a testCase gpu s).1
      = ((subTests a testCase gpu).map fun test => outcome test.2).foldl overwrite s.1 := by
  unfold trySubTests
  generalize subTests a testCase gpu = tests
  induction tests generalizing s with
  | nil => rfl
  | cons test tests ih =>
    rw [List.foldl_cons, ih, tryTest_status, List.map_cons, List.foldl_cons]

section Run

variable {a : RocrAnswers} {testCase : RdcDiagTestCase} {gpus : List Nat}

/-- A whole run ends with the last outcome that is not a pass. -/
theorem rocrRun_status (htest : testCase = .sysMemCheck ∨ testCase = .computeQueue)
    (hne : gpus ≠ []) (hin : ∀ gpu ∈ gpus, gpu < rdcMaxNumDevices) (old : RdcDiagTestResult) :
    ∃ r, Rocr.rdcDiagTestCaseRun a testCase gpus old = some (.ok, r)
      ∧ r.status = (notPassed (subOutcomes a testCase gpus)).getLast?.getD .pass := by
  have hmem : testCase ∈ Rocr.rdcDiagTestCasesQuery := by
    rcases htest with rfl | rfl <;> decide
  obtain ⟨r, hr, -, hstatus⟩ := foldlM_runTest (trySubTests a testCase) hin
    { RdcDiagTestResult.empty with testCase := testCase, status := .pass }
  refine ⟨r, by rw [rocrRun_eq hmem hne, hr]; rfl, ?_⟩
  rw [← foldl_overwrite]
  unfold subOutcomes
  rw [List.foldl_flatMap]
  exact hstatus
    (fun s gpu => ((subTests a testCase gpu).map fun t => outcome t.2).foldl overwrite s)
    (trySubTests_status a testCase)

theorem subOutcomes_ne_nil (htest : testCase = .sysMemCheck ∨ testCase = .computeQueue)
    (hne : gpus ≠ []) : subOutcomes a testCase gpus ≠ [] := by
  obtain ⟨gpu, gpus, rfl⟩ := List.exists_cons_of_ne_nil hne
  rcases htest with rfl | rfl <;> exact List.cons_ne_nil _ _

theorem not_warn_mem (a : RocrAnswers) (testCase : RdcDiagTestCase) (gpus : List Nat) :
    RdcDiagResult.warn ∉ subOutcomes a testCase gpus := by
  unfold subOutcomes
  intro h
  obtain ⟨gpu, -, h⟩ := List.mem_flatMap.mp h
  obtain ⟨test, -, h⟩ := List.mem_map.mp h
  cases hout : test.2 <;> rw [hout] at h <;> cases h

end Run

/-! ## When the last outcome is the worst -/

variable {outs : List RdcDiagResult}

theorem mem_notPassed {out : RdcDiagResult} : out ∈ notPassed outs ↔ out ∈ outs ∧ out ≠ .pass := by
  unfold notPassed
  rw [List.mem_filter, decide_eq_true_iff]

theorem eq_pass_of_notPassed_eq_nil (hnil : notPassed outs = []) : ∀ out ∈ outs, out = .pass := by
  intro out hout
  by_contra hneq
  have hmem : out ∈ notPassed outs := mem_notPassed.mpr ⟨hout, hneq⟩
  rw [hnil] at hmem
  exact List.not_mem_nil hmem

/-- If the last outcome that is not a pass is a failure, or nothing failed, it is the worst one. -/
theorem isWorst_last_iff (hne : outs ≠ []) (hwarn : RdcDiagResult.warn ∉ outs) :
    IsWorst ((notPassed outs).getLast?.getD .pass) outs
      ↔ (RdcDiagResult.fail ∈ outs → (notPassed outs).getLast? = some .fail) := by
  cases hlast : (notPassed outs).getLast? with
  | none =>
    have hpass := eq_pass_of_notPassed_eq_nil (List.getLast?_eq_none_iff.mp hlast)
    obtain ⟨out, hout⟩ := List.exists_mem_of_ne_nil outs hne
    have hfail : RdcDiagResult.fail ∉ outs := fun h => by cases hpass _ h
    refine iff_of_true ⟨?_, fun o ho => ?_⟩ fun h => absurd h hfail
    · rw [hpass out hout] at hout
      exact hout
    · rw [hpass o ho]
      exact Nat.le_refl _
  | some last =>
    obtain ⟨hlastMem, hlastNe⟩ := mem_notPassed.mp (List.mem_of_getLast? hlast)
    rw [Option.getD_some]
    cases last with
    | pass => exact absurd rfl hlastNe
    | warn => exact absurd hlastMem hwarn
    | fail => exact iff_of_true ⟨hlastMem, fun o _ => by cases o <;> decide⟩ fun _ => rfl
    | skip =>
      constructor
      · intro hworst hfail
        exact absurd (hworst.2 _ hfail) (by decide)
      · intro hfail
        refine ⟨hlastMem, fun o ho => ?_⟩
        cases o with
        | pass | skip => decide
        | warn => exact absurd ho hwarn
        | fail => cases hfail ho

/-- The status of both test cases of `librdc_rocr` is the worst outcome of all sub-tests on all GPUs
if and only if there is no failure, or the last outcome that is not a pass is one. -/
theorem verdict_isWorst_iff {a : RocrAnswers} {testCase : RdcDiagTestCase} {gpus : List Nat}
    (htest : testCase = .sysMemCheck ∨ testCase = .computeQueue) (hne : gpus ≠ [])
    (hin : ∀ gpu ∈ gpus, gpu < rdcMaxNumDevices) (old : RdcDiagTestResult) :
    (∃ r, Rocr.rdcDiagTestCaseRun a testCase gpus old = some (.ok, r)
      ∧ IsWorst r.status (subOutcomes a testCase gpus))
      ↔ (RdcDiagResult.fail ∈ subOutcomes a testCase gpus →
          (notPassed (subOutcomes a testCase gpus)).getLast? = some .fail) := by
  obtain ⟨r, hrun, hstatus⟩ := rocrRun_status (a := a) htest hne hin old
  rw [← isWorst_last_iff (subOutcomes_ne_nil htest hne) (not_warn_mem a testCase gpus), ← hstatus,
    hrun]
  constructor
  · rintro ⟨r', heq, hworst⟩
    cases heq
    exact hworst
  · intro hworst
    exact ⟨r, rfl, hworst⟩

/-- Two GPUs; on the first the allocation fails, on the second the access test is skipped. -/
def failThenSkip : RocrAnswers where
  memoryTest gpu := if gpu = 0 then .exception (text "out of memory") else .passed [] []
  memoryAccessTest gpu := if gpu = 0 then .passed [] [] else .skipException (text "no access")
  computeQueueTest _ := .passed [] []

/-- The other way round the failure stays. -/
theorem verdict_isWorst_skipThenFail :
    (∃ r, Rocr.rdcDiagTestCaseRun failThenSkip .sysMemCheck [1, 0] .empty = some (.ok, r)
      ∧ IsWorst r.status (subOutcomes failThenSkip .sysMemCheck [1, 0]))
      ∧ RdcDiagResult.fail ∈ subOutcomes failThenSkip .sysMemCheck [1, 0] :=
  ⟨(verdict_isWorst_iff (.inl rfl) (by decide) (by decide) .empty).mpr fun _ => by decide,
    by decide⟩

/-- A skip after a failure hides it. -/
theorem not_isWorst_failThenSkip :
    (∃ r, Rocr.rdcDiagTestCaseRun failThenSkip .sysMemCheck [0, 1] .empty = some (.ok, r)
      ∧ r.status = .skip)
      ∧ ¬ IsWorst .skip (subOutcomes failThenSkip .sysMemCheck [0, 1]) := by
  constructor
  · exact rocrRun_status (.inl rfl) (by decide) (by decide) .empty
  · intro h
    exact absurd (h.2 .fail (by decide)) (by decide)

end Rdc.Proof
