import Rdc.Diagnostic
import Rdc.Lib.Buffer
import Rdc.Lib.Independent
import Rdc.Lib.OrdMap

/-!
# What a diagnostic response says

The response of `rdc_diagnostic_run` is the caller's, and a test case has one slot of it to write
to. A module that gets as far as running the test resets the slot first, and then everything in it
comes from the run (`Resets`). There are ways not to get there: no module has the test case, the
library has no function to run it, the group is empty. On these the count of per-GPU results is left
as it was (`KeepsCount`), and nobody looks at the status that tells.

So a response is determined exactly when every test case of the level is run by somebody.
-/

namespace Rdc.Proof

open Rdc Std OrdMap Buffered

/-! ## One slot -/

/-- A run that ends in the same result whatever the slot held. -/
def Resets (run : RdcDiagTestResult → Option (Status × RdcDiagTestResult)) : Prop :=
  ∃ status r, r.perGpuResultCount ≤ rdcMaxNumDevices ∧ ∀ old, run old = some (status, r)

/-- A run that does not set the count. -/
def KeepsCount (run : RdcDiagTestResult → Option (Status × RdcDiagTestResult)) : Prop :=
  ∀ old status r, run old = some (status, r) → r.perGpuResultCount = old.perGpuResultCount

variable {status : Status} {r : RdcDiagTestResult} {i : Nat} {testCase : RdcDiagTestCase}
  {before after : RdcDiagResponse}

theorem keepsCount_of_unwritten {run : RdcDiagTestResult → Option (Status × RdcDiagTestResult)}
    (h : ∀ old, run old = some (status, old)) : KeepsCount run := by
  intro old status' r heq
  rw [h old, Option.some.injEq, Prod.mk.injEq] at heq
  rw [heq.2]

theorem resets_of_ignored {run : RdcDiagTestResult → Option (Status × RdcDiagTestResult)}
    {a : Status × RdcDiagTestResult} (hrun : ∀ old, run old = some a)
    (hle : a.2.perGpuResultCount ≤ rdcMaxNumDevices) : Resets run :=
  ⟨a.1, a.2, hle, hrun⟩

/-! ## The hardware library -/

section Smi

variable (a : SmiDiagAnswers)

theorem modifyGpu_of_lt (h : i < rdcMaxNumDevices) (f : RdcDiagPerGpuResult → RdcDiagPerGpuResult) :
    ∃ r', r.modifyGpu i f = some r' ∧ r'.perGpuResultCount = r.perGpuResultCount := by
  unfold RdcDiagTestResult.modifyGpu
  rw [dif_pos h]
  exact ⟨_, rfl, rfl⟩

theorem gpuMsg_of_lt (h : i < rdcMaxNumDevices) : ∃ msg, r.gpuMsg i = some msg := by
  unfold RdcDiagTestResult.gpuMsg
  rw [Vector.getElem?_eq_getElem h]
  exact ⟨_, rfl⟩

theorem gpuMsg_of_le (h : rdcMaxNumDevices ≤ i) : r.gpuMsg i = none := by
  unfold RdcDiagTestResult.gpuMsg
  rw [Vector.getElem?_eq_none (by omega)]
  rfl

/-- The loop that ends when the array is full does not leave it. -/
theorem perGpuLoop_total (ps : List (Nat × List Nat)) (h : r.perGpuResultCount < rdcMaxNumDevices) :
    ∃ r', SmiDiagnostic.perGpuLoop ps r = some r' ∧ r'.perGpuResultCount ≤ rdcMaxNumDevices := by
  induction ps generalizing r with
  | nil => exact ⟨r, rfl, Nat.le_of_lt h⟩
  | cons p ps ih =>
    obtain ⟨gpu, pids⟩ := p
    unfold SmiDiagnostic.perGpuLoop
    dsimp only
    obtain ⟨r₁, hr₁, hcount⟩ := modifyGpu_of_lt h _
    -- the check comes after the write, so the count is at most one above what it was
    rw [hr₁]
    dsimp only
    split
    · exact ⟨_, rfl, by dsimp only; omega⟩
    · exact ih (by dsimp only; omega)

theorem checkSmiProcessInfo_resets (gpus : List Nat) :
    Resets (SmiDiagnostic.checkSmiProcessInfo a gpus) := by
  obtain ⟨p, hp, hle⟩ : ∃ p, SmiDiagnostic.checkSmiProcessInfo a gpus .empty = some p
      ∧ p.2.perGpuResultCount ≤ rdcMaxNumDevices := by
    unfold SmiDiagnostic.checkSmiProcessInfo
    dsimp only
    split
    · exact ⟨_, rfl, Nat.zero_le _⟩
    split
    · exact ⟨_, rfl, Nat.zero_le _⟩
    split
    · exact ⟨_, rfl, Nat.zero_le _⟩
    split
    · exact ⟨_, rfl, Nat.zero_le _⟩
    have hloop : ∀ (ps : List (Nat × List Nat)) (status : RdcDiagResult) (info : List UInt8),
        ∃ r, SmiDiagnostic.perGpuLoop ps { RdcDiagTestResult.empty with
            testCase := .computeProcess, status := status, info := info } = some r
          ∧ r.perGpuResultCount ≤ rdcMaxNumDevices :=
      fun ps status info => perGpuLoop_total ps (show 0 < rdcMaxNumDevices by decide)
    obtain ⟨r, hr, hle⟩ := hloop _ _ _
    rw [hr]
    exact ⟨_, rfl, hle⟩
  exact resets_of_ignored (fun _ => hp) hle

theorem checkSmiTopoInfo_resets (gpus : List Nat) :
    Resets (SmiDiagnostic.checkSmiTopoInfo a gpus) := by
  obtain ⟨p, hp, hle⟩ : ∃ p, SmiDiagnostic.checkSmiTopoInfo a gpus .empty = some p
      ∧ p.2.perGpuResultCount ≤ rdcMaxNumDevices := by
    unfold SmiDiagnostic.checkSmiTopoInfo
    dsimp only
    split
    · exact ⟨_, rfl, Nat.zero_le _⟩
    · exact ⟨_, rfl, Nat.zero_le _⟩
  exact resets_of_ignored (fun _ => hp) hle

/-- One turn of the loop over the GPUs: what becomes of the count, of the status and of the GPU
indexes. -/
theorem paramLoop_cons (h : i < rdcMaxNumDevices) (gpu : Nat) (gpus : List Nat)
    (r : RdcDiagTestResult) :
    ∃ r' msg, SmiDiagnostic.paramLoop a (gpu :: gpus) i r
        = SmiDiagnostic.paramLoop a gpus (i + 1) r'
      ∧ r'.perGpuResultCount = r.perGpuResultCount + 1
      ∧ r'.status = (SmiDiagnostic.sensorLoops a gpu ⟨r.status, r.info, msg⟩).result
      ∧ ∀ j, r'.gpuResults[j]?.map (·.gpuIndex)
          = if j = 0 then some gpu else r.gpuResults[j]?.map (·.gpuIndex) := by
  obtain ⟨msg, hmsg⟩ := gpuMsg_of_lt (r := r) h
  have hpos : 0 < rdcMaxNumDevices := by decide
  rw [SmiDiagnostic.paramLoop]
  simp only [hmsg, Option.bind_eq_bind, Option.bind_some]
  unfold RdcDiagTestResult.setGpuMsg RdcDiagTestResult.modifyGpu
  rw [dif_pos h, Option.bind_some, dif_pos hpos, Option.bind_some]
  refine ⟨_, msg, rfl, rfl, rfl, fun j => ?_⟩
  dsimp only
  rw [Vector.getElem?_set]
  by_cases hj : j = 0
  · rw [if_pos hj.symm, if_pos hj]
    rfl
  · -- the message goes to a record whose index it keeps
    rw [if_neg (Ne.symm hj), if_neg hj, Vector.getElem?_set]
    by_cases hij : i = j
    · subst hij
      rw [if_pos rfl, Vector.getElem?_eq_getElem h]
      rfl
    · rw [if_neg hij]

theorem paramLoop_total (gpus : List Nat) (h : i + gpus.length ≤ rdcMaxNumDevices)
    (r : RdcDiagTestResult) :
    ∃ r', SmiDiagnostic.paramLoop a gpus i r = some r'
      ∧ r'.perGpuResultCount = r.perGpuResultCount + gpus.length := by
  induction gpus generalizing i r with
  | nil => exact ⟨r, rfl, rfl⟩
  | cons gpu gpus ih =>
    rw [List.length_cons] at h
    obtain ⟨r₁, -, heq, hcount₁, -, -⟩ :=
      paramLoop_cons a (show i < rdcMaxNumDevices by omega) gpu gpus r
    obtain ⟨r', hr', hcount'⟩ := ih (i := i + 1) (by omega) r₁
    refine ⟨r', heq.trans hr', ?_⟩
    rw [hcount', hcount₁, List.length_cons]
    omega

theorem checkSmiParamInfo_resets (gpus : RdcGroupInfo) :
    Resets (SmiDiagnostic.checkSmiParamInfo a gpus.entityIds) := by
  have hlen : gpus.entityIds.length ≤ rdcMaxNumDevices :=
    gpus.count_le.trans (by decide)
  obtain ⟨r, hr, hcount⟩ := paramLoop_total a gpus.entityIds (i := 0) (by omega)
    { RdcDiagTestResult.empty with testCase := .gpuParameters, status := .pass }
  have hzero : RdcDiagTestResult.empty.perGpuResultCount = 0 := rfl
  refine resets_of_ignored (a := (.ok, r)) (fun _ => ?_) ?_
  · unfold SmiDiagnostic.checkSmiParamInfo
    rw [hr]
    rfl
  · dsimp only at hcount ⊢
    omega

end Smi

/-! ## The libraries -/

section Rocr

variable (a : RocrAnswers) (tests : Nat → Rocr.Told → Rocr.Told)

theorem runTest_of_lt {gpu : Nat} (h : gpu < rdcMaxNumDevices) (r : RdcDiagTestResult) :
    ∃ r' msg, Rocr.runTest (tests gpu) gpu r = some r'
      ∧ r'.perGpuResultCount = r.perGpuResultCount
      ∧ r'.status = (tests gpu (r.status, r.info, msg)).1 := by
  obtain ⟨msg, hmsg⟩ := gpuMsg_of_lt (r := r) h
  unfold Rocr.runTest
  simp only [hmsg, Option.bind_eq_bind, Option.bind_some]
  unfold RdcDiagTestResult.setGpuMsg RdcDiagTestResult.modifyGpu
  rw [dif_pos h]
  exact ⟨_, msg, rfl, rfl, rfl⟩

theorem runTest_of_le {gpu : Nat} (h : rdcMaxNumDevices ≤ gpu) (r : RdcDiagTestResult) :
    Rocr.runTest (tests gpu) gpu r = none := by
  unfold Rocr.runTest
  rw [gpuMsg_of_le h]
  rfl

/-- The loop over GPUs inside the array. If the tests of a GPU make of the status what `step` makes
of it, so does the loop. -/
theorem foldlM_runTest {gpus : List Nat} (h : ∀ gpu ∈ gpus, gpu < rdcMaxNumDevices)
    (r : RdcDiagTestResult) :
    ∃ r', gpus.foldlM (fun r gpu => Rocr.runTest (tests gpu) gpu r) r = some r'
      ∧ r'.perGpuResultCount = r.perGpuResultCount
      ∧ ∀ step : RdcDiagResult → Nat → RdcDiagResult,
          (∀ gpu s, (tests gpu s).1 = step s.1 gpu) → r'.status = gpus.foldl step r.status := by
  induction gpus generalizing r with
  | nil => exact ⟨r, rfl, rfl, fun _ _ => rfl⟩
  | cons gpu gpus ih =>
    obtain ⟨r₁, msg, hr₁, hcount₁, hstatus₁⟩ :=
      runTest_of_lt tests (h gpu (List.mem_cons_self ..)) r
    obtain ⟨r', hr', hcount', hstatus'⟩ := ih (fun g hg => h g (List.mem_cons_of_mem _ hg)) r₁
    refine ⟨r', by rw [List.foldlM_cons, hr₁]; exact hr', hcount'.trans hcount₁, ?_⟩
    intro step hstep
    rw [hstatus' step hstep, hstatus₁, hstep, List.foldl_cons]

theorem foldlM_runTest_eq_none {gpus : List Nat} (h : ¬ ∀ gpu ∈ gpus, gpu < rdcMaxNumDevices)
    (r : RdcDiagTestResult) :
    gpus.foldlM (fun r gpu => Rocr.runTest (tests gpu) gpu r) r = none := by
  induction gpus generalizing r with
  | nil => exact absurd (fun gpu hgpu => absurd hgpu List.not_mem_nil) h
  | cons gpu gpus ih =>
    rw [List.foldlM_cons]
    by_cases hgpu : gpu < rdcMaxNumDevices
    · obtain ⟨r₁, -, hr₁, -, -⟩ := runTest_of_lt tests hgpu r
      rw [hr₁]
      refine ih (fun hall => h fun g hg => ?_) r₁
      rcases List.mem_cons.mp hg with heq | hmem
      · rw [heq]
        exact hgpu
      · exact hall g hmem
    · rw [runTest_of_le tests (Nat.le_of_not_lt hgpu)]
      rfl

variable {a}

/-- The sub-tests of a test case on a GPU with the names they are told about by, in the order in
which they run. -/
def subTests (a : RocrAnswers) (testCase : RdcDiagTestCase) (gpu : Nat) :
    List (String × KernelTest) :=
  match testCase with
  | .sysMemCheck =>
    [("MaxSingleAllocationTest", a.memoryTest gpu), ("Memory Access", a.memoryAccessTest gpu)]
  | .computeQueue => [("Compute Queue test", a.computeQueueTest gpu)]
  | _ => []

/-- The `try` blocks of a test case on a GPU. -/
def trySubTests (a : RocrAnswers) (testCase : RdcDiagTestCase) (gpu : Nat) (s : Rocr.Told) :
    Rocr.Told :=
  (subTests a testCase gpu).foldl (fun s test => Rocr.tryTest test.1 gpu test.2 s) s

/-- What `librdc_rocr` does for its two test cases, once there are GPUs. -/
theorem rocrRun_eq (htest : testCase ∈ Rocr.rdcDiagTestCasesQuery) {gpus : List Nat}
    (hne : gpus ≠ []) (old : RdcDiagTestResult) :
    Rocr.rdcDiagTestCaseRun a testCase gpus old
      = (gpus.foldlM (fun r gpu => Rocr.runTest (trySubTests a testCase gpu) gpu r)
          { RdcDiagTestResult.empty with
            testCase := testCase, status := .pass }).map (.ok, ·) := by
  have hlen : ¬ gpus.length = 0 := fun h => hne (List.length_eq_zero_iff.mp h)
  unfold Rocr.rdcDiagTestCaseRun
  rw [if_neg hlen]
  rcases List.mem_cons.mp htest with heq | hmem
  · subst heq
    rfl
  · rw [List.mem_singleton] at hmem
    subst hmem
    rfl

end Rocr

/-! ## Every module -/

/-- The module has the test case. -/
def Offers (testCase : RdcDiagTestCase) (lib : DiagnosticLib) : Bool :=
  match lib.rdcDiagTestCasesQuery with
  | .error _ => false
  | .ok testCases => testCases.contains testCase

/-- The module gets as far as running a test on these GPUs. -/
def CanRun (gpus : List Nat) : DiagnosticLib → Prop
  | .smi => True
  | .rocr symbols =>
    symbols.testCaseRun = true ∧ gpus ≠ [] ∧ ∀ gpu ∈ gpus, gpu < rdcMaxNumDevices
  | .rvs symbols => symbols.testCaseRun = true ∧ gpus ≠ []

section Modules

variable (a : DiagnosticAnswers) {testCase : RdcDiagTestCase} {gpus : RdcGroupInfo}
  {lib : DiagnosticLib}

theorem rocr_run (symbols : DiagSymbols) (old : RdcDiagTestResult) (gpus : List Nat) :
    (DiagnosticLib.rocr symbols).rdcTestCaseRun a testCase gpus old
      = if symbols.testCaseRun then Rocr.rdcDiagTestCaseRun a.rocr testCase gpus old
        else some (.failLoadModule, old) := rfl

theorem rvs_run (symbols : DiagSymbols) (old : RdcDiagTestResult) (gpus : List Nat) :
    (DiagnosticLib.rvs symbols).rdcTestCaseRun a testCase gpus old
      = if symbols.testCaseRun then Rvs.rdcDiagTestCaseRun a.rvs testCase gpus old
        else some (.failLoadModule, old) := rfl

theorem mem_of_offers_rocr {symbols : DiagSymbols} (h : Offers testCase (.rocr symbols) = true) :
    testCase ∈ Rocr.rdcDiagTestCasesQuery := by
  unfold Offers DiagnosticLib.rdcDiagTestCasesQuery at h
  cases hq : symbols.diagTestCasesQuery <;> simp_all

theorem eq_of_offers_rvs {symbols : DiagSymbols} (h : Offers testCase (.rvs symbols) = true) :
    testCase = .rvsTest := by
  unfold Offers DiagnosticLib.rdcDiagTestCasesQuery at h
  cases hq : symbols.diagTestCasesQuery <;> simp_all [Rvs.rdcDiagTestCasesQuery]

theorem resets_of_canRun (hoffers : Offers testCase lib = true) (hrun : CanRun gpus.entityIds lib) :
    Resets fun old => lib.rdcTestCaseRun a testCase gpus.entityIds old := by
  cases lib with
  | smi =>
    cases testCase with
    | computeProcess => exact checkSmiProcessInfo_resets a.smi gpus.entityIds
    | nodeTopology => exact checkSmiTopoInfo_resets a.smi gpus.entityIds
    | gpuParameters => exact checkSmiParamInfo_resets a.smi gpus
    | computeQueue | sysMemCheck | rvsTest => cases hoffers
  | rocr symbols =>
    obtain ⟨hsym, hne, hin⟩ := hrun
    obtain ⟨r, hr, hcount, -⟩ := foldlM_runTest (trySubTests a.rocr testCase) hin
      { RdcDiagTestResult.empty with testCase := testCase, status := .pass }
    refine resets_of_ignored (a := (.ok, r)) (fun old => ?_) (hcount.trans_le (Nat.zero_le _))
    rw [rocr_run, if_pos hsym, rocrRun_eq (mem_of_offers_rocr hoffers) hne old, hr]
    rfl
  | rvs symbols =>
    obtain ⟨hsym, hne⟩ := hrun
    have hlen : ¬ gpus.entityIds.length = 0 := fun h => hne (List.length_eq_zero_iff.mp h)
    have hrun : ∀ old, (DiagnosticLib.rvs symbols).rdcTestCaseRun a testCase gpus.entityIds old
        = some (.ok, { RdcDiagTestResult.empty with
            testCase := testCase
            status := if a.rvs then .pass else .fail
            info := diagMsg (text "Finished running RDC_DIAG_RVS_TEST!") }) := by
      intro old
      rw [rvs_run, if_pos hsym]
      unfold Rvs.rdcDiagTestCaseRun
      rw [if_neg hlen, if_neg (fun h => h (eq_of_offers_rvs hoffers))]
    exact resets_of_ignored hrun (Nat.zero_le _)

theorem keepsCount_of_not_canRun (hoffers : Offers testCase lib = true)
    (hrun : ¬ CanRun gpus.entityIds lib) :
    KeepsCount fun old => lib.rdcTestCaseRun a testCase gpus.entityIds old := by
  cases lib with
  | smi => exact absurd trivial hrun
  | rocr symbols =>
    by_cases hsym : symbols.testCaseRun = true
    · simp only [rocr_run, if_pos hsym]
      by_cases hne : gpus.entityIds = []
      · rw [hne]
        exact keepsCount_of_unwritten fun old => rfl
      · -- a GPU outside the array; there is no result to speak about
        intro old status r hr
        dsimp only at hr
        rw [rocrRun_eq (mem_of_offers_rocr hoffers) hne old,
          foldlM_runTest_eq_none _ fun hin => hrun ⟨hsym, hne, hin⟩] at hr
        cases hr
    · simp only [rocr_run, if_neg hsym]
      exact keepsCount_of_unwritten fun old => rfl
  | rvs symbols =>
    by_cases hsym : symbols.testCaseRun = true
    · have hne : gpus.entityIds = [] := by
        by_contra hne
        exact hrun ⟨hsym, hne⟩
      simp only [rvs_run, if_pos hsym, hne]
      exact keepsCount_of_unwritten fun old => rfl
    · simp only [rvs_run, if_neg hsym]
      exact keepsCount_of_unwritten fun old => rfl

end Modules

/-! ## Routing -/

section Routing

theorem num_injective : Function.Injective RdcDiagTestCase.num := by
  intro t t' h
  cases t <;> cases t' <;> first | rfl | cases h

theorem getElem?_claimTestCases (routes : IdMap DiagnosticLib) (lib : DiagnosticLib)
    (testCase : RdcDiagTestCase) :
    (RdcDiagnosticModule.claimTestCases routes lib)[testCase.num]?
      = routes[testCase.num]?.or (if Offers testCase lib then some lib else none) := by
  unfold RdcDiagnosticModule.claimTestCases Offers
  cases lib.rdcDiagTestCasesQuery with
  | error status => simp
  | ok testCases =>
    dsimp only
    have hfold :
        testCases.foldl (fun routes testCase => routes.insertIfNew testCase.num lib) routes
        = (testCases.map RdcDiagTestCase.num).foldl
            (fun routes k => routes.insertIfNew k lib) routes := by rw [List.foldl_map]
    rw [hfold, getElem?_foldl_insertIfNew fun _ => lib]
    simp [List.mem_map, num_injective.eq_iff]

theorem getElem?_testcasesToModule (modules : List DiagnosticLib) (testCase : RdcDiagTestCase) :
    (RdcDiagnosticModule.create modules).testcasesToModule[testCase.num]?
      = modules.find? (Offers testCase) := by
  have hfold : ∀ routes : IdMap DiagnosticLib,
      (modules.foldl RdcDiagnosticModule.claimTestCases routes)[testCase.num]?
        = routes[testCase.num]?.or (modules.find? (Offers testCase)) := by
    induction modules with
    | nil => intro routes; simp
    | cons lib rest ih =>
      intro routes
      rw [List.foldl_cons, ih, getElem?_claimTestCases, Option.or_assoc, List.find?_cons]
      cases Offers testCase lib <;> simp
  rw [RdcDiagnosticModule.create, hfold, ExtTreeMap.getElem?_empty, Option.none_or]

/-- Somebody has the test case, and gets as far as running it. -/
def Answered (modules : List DiagnosticLib) (gpus : List Nat) (testCase : RdcDiagTestCase) : Prop :=
  ∃ lib, modules.find? (Offers testCase) = some lib ∧ CanRun gpus lib

variable (a : DiagnosticAnswers) {modules : List DiagnosticLib} {gpus : RdcGroupInfo}
  {testCase : RdcDiagTestCase}

theorem resets_of_answered (h : Answered modules gpus.entityIds testCase) :
    Resets ((RdcDiagnosticModule.create modules).rdcTestCaseRun a testCase gpus.entityIds) := by
  obtain ⟨lib, hfind, hrun⟩ := h
  unfold RdcDiagnosticModule.rdcTestCaseRun
  rw [getElem?_testcasesToModule, hfind]
  exact resets_of_canRun a (List.find?_some hfind) hrun

theorem keepsCount_of_not_answered (h : ¬ Answered modules gpus.entityIds testCase) :
    KeepsCount ((RdcDiagnosticModule.create modules).rdcTestCaseRun a testCase gpus.entityIds) := by
  unfold RdcDiagnosticModule.rdcTestCaseRun
  rw [getElem?_testcasesToModule]
  cases hfind : modules.find? (Offers testCase) with
  | none =>
    intro old status r heq
    rw [← (Prod.mk.inj (Option.some.inj heq)).2]
  | some lib =>
    exact keepsCount_of_not_canRun a (List.find?_some hfind) fun hrun => h ⟨lib, hfind, hrun⟩

end Routing

/-! ## The loop -/

section Loop

variable (m : RdcDiagnosticModule) (a : DiagnosticAnswers) (gpus : List Nat)

/-- The slot of a test case after the loop: what the test case made of the slot before it. -/
def SlotRun (before after : RdcDiagResponse) (k : Nat) (testCase : RdcDiagTestCase) : Prop :=
  ∃ old status r, before.diagInfo[k]? = some old
    ∧ m.rdcTestCaseRun a testCase gpus { old with testCase := testCase } = some (status, r)
    ∧ after.diagInfo[k]? = some r

variable {m a gpus}

/-- The loop counts the test cases, and each of them has a slot of its own. -/
theorem runLoop_slots {testCases : List RdcDiagTestCase}
    (h : m.runLoop a gpus testCases i before = some after) :
    after.resultsCount = before.resultsCount + testCases.length
    ∧ (∀ k < i, after.diagInfo[k]? = before.diagInfo[k]?)
    ∧ ∀ k testCase, testCases[k]? = some testCase →
        SlotRun m a gpus before after (i + k) testCase := by
  induction testCases generalizing i before with
  | nil =>
    rw [← Option.some.inj h]
    exact ⟨rfl, fun _ _ => rfl, fun k testCase hk => by cases hk⟩
  | cons testCase rest ih =>
    unfold RdcDiagnosticModule.runLoop at h
    split at h
    · rename_i hi
      split at h
      · cases h
      · rename_i status r hrun
        obtain ⟨hcount, hbelow, hslots⟩ := ih h
        refine ⟨?_, ?_, ?_⟩
        · rw [hcount, List.length_cons]
          dsimp only
          omega
        · intro k hk
          rw [hbelow k (by omega), Vector.getElem?_set, if_neg (by omega)]
        · intro k t hk
          cases k with
          | zero =>
            rw [List.getElem?_cons_zero, Option.some.injEq] at hk
            subst hk
            refine ⟨_, status, r, Vector.getElem?_eq_getElem hi, hrun, ?_⟩
            rw [Nat.add_zero, hbelow i (by omega), Vector.getElem?_set, if_pos rfl]
          | succ k =>
            -- the slot is another one than that of the first test case
            rw [List.getElem?_cons_succ] at hk
            obtain ⟨old, status', r', hold, hrun', hafter⟩ := hslots k t hk
            rw [Vector.getElem?_set, if_neg (by omega)] at hold
            rw [show i + (k + 1) = i + 1 + k by omega]
            exact ⟨old, status', r', hold, hrun', hafter⟩
    · cases h

/-- With a slot for each test case, and a result of each of them, the loop goes through. -/
theorem runLoop_total {testCases : List RdcDiagTestCase}
    (hlen : i + testCases.length ≤ maxTestCases)
    (hrun : ∀ testCase ∈ testCases, ∀ old, ∃ p, m.rdcTestCaseRun a testCase gpus old = some p)
    (before : RdcDiagResponse) : ∃ after, m.runLoop a gpus testCases i before = some after := by
  induction testCases generalizing i before with
  | nil => exact ⟨before, rfl⟩
  | cons testCase rest ih =>
    rw [List.length_cons] at hlen
    have hi : i < maxTestCases := by omega
    obtain ⟨p, hp⟩ := hrun testCase (List.mem_cons_self ..)
      { before.diagInfo.get ⟨i, hi⟩ with testCase := testCase }
    obtain ⟨after, hafter⟩ := ih (i := i + 1) (by omega)
      (fun t ht => hrun t (List.mem_cons_of_mem _ ht))
      ⟨before.resultsCount + 1, before.diagInfo.set i p.2 hi⟩
    refine ⟨after, ?_⟩
    unfold RdcDiagnosticModule.runLoop
    rw [dif_pos hi, hp]
    exact hafter

end Loop

theorem length_rdcRuns_le (level : Nat) : (rdcRuns level).length ≤ maxTestCases := by
  unfold rdcRuns
  split <;> split <;> decide

/-! ## The response -/

/-- What a response says: its first `results_count` results, each with its first
`per_gpu_result_count` per-GPU entries. -/
def results (response : RdcDiagResponse) : List DiagnosticTestResultMessage :=
  (response.diagInfo.toList.take response.resultsCount).map RdcDiagTestResult.message

/-- The run returns `RDC_ST_OK`, what the response says afterwards does not depend on what it held
before, and no count in it is above the size of the array. -/
structure Determined (run : RdcDiagResponse → Option (Status × RdcDiagResponse)) : Prop where
  returns : ∀ before, ∃ after, run before = some (.ok, after)
  independent : Independent fun before => (run before).map fun p => results p.2
  counts : ∀ before status after, run before = some (status, after) →
    ∀ r ∈ results after, r.perGpuResultCount ≤ rdcMaxNumDevices

section Response

variable {modules : List DiagnosticLib} {a : DiagnosticAnswers} {gpus : RdcGroupInfo} {level : Nat}

theorem rdcDiagnosticRun_slots
    (h : (RdcDiagnosticModule.create modules).rdcDiagnosticRun a gpus level before
      = some (status, after)) :
    after.resultsCount = (rdcRuns level).length
    ∧ ∀ k testCase, (rdcRuns level)[k]? = some testCase →
        SlotRun (RdcDiagnosticModule.create modules) a gpus.entityIds before after k testCase := by
  unfold RdcDiagnosticModule.rdcDiagnosticRun at h
  obtain ⟨after', hloop, heq⟩ := Option.map_eq_some_iff.mp h
  rw [← (Prod.mk.inj heq).2]
  obtain ⟨hcount, -, hslots⟩ := runLoop_slots hloop
  refine ⟨hcount.trans (Nat.zero_add _), fun k testCase hk => ?_⟩
  have hslot := hslots k testCase hk
  rw [Nat.zero_add] at hslot
  exact hslot

theorem getElem?_results (hcount : after.resultsCount = (rdcRuns level).length) {k : Nat}
    (hk : k < (rdcRuns level).length) :
    (results after)[k]? = after.diagInfo[k]?.map RdcDiagTestResult.message := by
  unfold results
  rw [List.getElem?_map, List.getElem?_take_of_lt (by omega), Vector.getElem?_toList]

theorem length_results (hcount : after.resultsCount = (rdcRuns level).length) :
    (results after).length = (rdcRuns level).length := by
  unfold results
  rw [List.length_map, List.length_take, Vector.length_toList, hcount]
  exact Nat.min_eq_left (length_rdcRuns_le level)

/-- A test case that resets its slot leaves one result in it. -/
theorem result_of_resets
    (h : (RdcDiagnosticModule.create modules).rdcDiagnosticRun a gpus level before
      = some (status, after)) {k : Nat} (hk : (rdcRuns level)[k]? = some testCase)
    {status' : Status}
    (hresets : ∀ old, (RdcDiagnosticModule.create modules).rdcTestCaseRun a testCase gpus.entityIds
      old = some (status', r)) : (results after)[k]? = some r.message := by
  obtain ⟨hcount, hslots⟩ := rdcDiagnosticRun_slots h
  obtain ⟨old, _, r', -, hrun, hafter⟩ := hslots k testCase hk
  rw [hresets, Option.some.injEq, Prod.mk.injEq] at hrun
  rw [getElem?_results hcount (List.getElem?_eq_some_iff.mp hk).1, hafter, ← hrun.2]
  rfl

/-- A test case that keeps the count leaves the count there was. -/
theorem count_of_keepsCount
    (h : (RdcDiagnosticModule.create modules).rdcDiagnosticRun a gpus level before
      = some (status, after)) {k : Nat} (hk : (rdcRuns level)[k]? = some testCase)
    (hkeeps : KeepsCount
      ((RdcDiagnosticModule.create modules).rdcTestCaseRun a testCase gpus.entityIds)) :
    (results after)[k]?.map (·.perGpuResultCount)
      = before.diagInfo[k]?.map (·.perGpuResultCount) := by
  obtain ⟨hcount, hslots⟩ := rdcDiagnosticRun_slots h
  obtain ⟨old, _, r, hold, hrun, hafter⟩ := hslots k testCase hk
  rw [getElem?_results hcount (List.getElem?_eq_some_iff.mp hk).1, hafter, hold]
  have hr := hkeeps _ _ _ hrun
  exact congrArg some hr

theorem rdcDiagnosticRun_total
    (hall : ∀ testCase ∈ rdcRuns level, Answered modules gpus.entityIds testCase)
    (before : RdcDiagResponse) :
    ∃ after, (RdcDiagnosticModule.create modules).rdcDiagnosticRun a gpus level before
      = some (.ok, after) := by
  have hlen := length_rdcRuns_le level
  have hresult : ∀ testCase ∈ rdcRuns level, ∀ old, ∃ p,
      (RdcDiagnosticModule.create modules).rdcTestCaseRun a testCase gpus.entityIds old
        = some p := by
    intro testCase htest old
    obtain ⟨status, r, -, hrun⟩ := resets_of_answered a (hall testCase htest)
    exact ⟨_, hrun old⟩
  obtain ⟨after, hafter⟩ := runLoop_total (i := 0) (by omega) hresult
    { before with resultsCount := 0 }
  refine ⟨after, ?_⟩
  unfold RdcDiagnosticModule.rdcDiagnosticRun
  rw [hafter]
  rfl

end Response

/-- A response full of results that claim to have `count` per-GPU entries. -/
def staleResponse (count : Nat) : RdcDiagResponse :=
  ⟨0, Vector.replicate maxTestCases { RdcDiagTestResult.empty with perGpuResultCount := count }⟩

theorem getElem?_staleResponse (count : Nat) {k : Nat} (h : k < maxTestCases) :
    (staleResponse count).diagInfo[k]?.map (·.perGpuResultCount) = some count := by
  unfold staleResponse
  rw [Vector.getElem?_eq_getElem h, Vector.getElem_replicate]
  rfl

section Determined

variable {modules : List DiagnosticLib} {a : DiagnosticAnswers} {gpus : RdcGroupInfo} {level : Nat}

/-- The count of a test case that nobody runs comes through, and two responses can differ in it. -/
theorem answered_of_determined
    (hdet : Determined ((RdcDiagnosticModule.create modules).rdcDiagnosticRun a gpus level))
    (htest : testCase ∈ rdcRuns level) : Answered modules gpus.entityIds testCase := by
  by_contra hnot
  obtain ⟨k, hk⟩ := List.mem_iff_getElem?.mp htest
  have hlt : k < maxTestCases :=
    (List.getElem?_eq_some_iff.mp hk).1.trans_le (length_rdcRuns_le level)
  have hshows : ∀ before, (((RdcDiagnosticModule.create modules).rdcDiagnosticRun a gpus level
      before).map fun p => results p.2).bind (·[k]?.map (·.perGpuResultCount))
        = before.diagInfo[k]?.map (·.perGpuResultCount) := by
    intro before
    obtain ⟨after, hrun⟩ := hdet.returns before
    rw [hrun]
    exact count_of_keepsCount hrun hk (keepsCount_of_not_answered a hnot)
  refine not_independent_of_reads (fun said => said.bind (·[k]?.map (·.perGpuResultCount)))
    (fun before => before.diagInfo[k]?.map (·.perGpuResultCount)) hshows (staleResponse 0)
    (staleResponse 1) ?_ hdet.independent
  rw [getElem?_staleResponse _ hlt, getElem?_staleResponse _ hlt]
  exact fun h => absurd (Option.some.inj h) (by omega)

/-- If every test case is run by somebody, every result is the one its test case leaves behind. -/
theorem determined_of_answered
    (hall : ∀ testCase ∈ rdcRuns level, Answered modules gpus.entityIds testCase) :
    Determined ((RdcDiagnosticModule.create modules).rdcDiagnosticRun a gpus level) := by
  have hresult : ∀ k < (rdcRuns level).length, ∃ r : RdcDiagTestResult,
      r.perGpuResultCount ≤ rdcMaxNumDevices ∧ ∀ before status after,
        (RdcDiagnosticModule.create modules).rdcDiagnosticRun a gpus level before
          = some (status, after) → (results after)[k]? = some r.message := by
    intro k hk
    obtain ⟨_, r, hle, hresets⟩ := resets_of_answered a (hall _ (List.getElem_mem hk))
    exact ⟨r, hle, fun _ _ _ hrun => result_of_resets hrun (List.getElem?_eq_getElem hk) hresets⟩
  refine ⟨rdcDiagnosticRun_total hall, ?_, ?_⟩
  · -- two lists of the same length, with the same result at every place
    intro before before'
    obtain ⟨after, hrun⟩ := rdcDiagnosticRun_total (a := a) hall before
    obtain ⟨after', hrun'⟩ := rdcDiagnosticRun_total (a := a) hall before'
    have hlen := length_results (rdcDiagnosticRun_slots hrun).1
    have hlen' := length_results (rdcDiagnosticRun_slots hrun').1
    dsimp only
    rw [hrun, hrun', Option.map_some, Option.map_some, Option.some.injEq]
    show results after = results after'
    refine List.ext_getElem? fun k => ?_
    by_cases hk : k < (rdcRuns level).length
    · obtain ⟨r, -, hr⟩ := hresult k hk
      rw [hr _ _ _ hrun, hr _ _ _ hrun']
    · rw [List.getElem?_eq_none (by omega), List.getElem?_eq_none (by omega)]
  · intro before status after hrun msg hmsg
    obtain ⟨k, hk⟩ := List.mem_iff_getElem?.mp hmsg
    have hlt := (List.getElem?_eq_some_iff.mp hk).1
    have hlen := length_results (rdcDiagnosticRun_slots hrun).1
    obtain ⟨r, hle, hr⟩ := hresult k (by omega)
    have hat := hr _ _ _ hrun
    rw [hk, Option.some.injEq] at hat
    rw [hat]
    exact hle

end Determined

/-- **Responses of diagnostics.** For any modules, any answers, any group and any level: the
response is determined by the run exactly when every test case of the level belongs to a module that
gets as far as running it on the group. -/
theorem determined_iff (modules : List DiagnosticLib) (a : DiagnosticAnswers) (gpus : RdcGroupInfo)
    (level : Nat) :
    Determined ((RdcDiagnosticModule.create modules).rdcDiagnosticRun a gpus level)
      ↔ ∀ testCase ∈ rdcRuns level, Answered modules gpus.entityIds testCase :=
  ⟨fun hdet _ htest => answered_of_determined hdet htest, determined_of_answered⟩

/-- The modules the manager registers, with everything found in the library. -/
def registeredModules : List DiagnosticLib := [.smi, .rocr ⟨true, true⟩]

/-- A node on which nothing runs, without links or sensors, and with every test passed in silence.
-/
def quietNode : DiagnosticAnswers where
  smi :=
    { processCount := (AmdsmiStatus.success, 0)
      processes := (AmdsmiStatus.success, [])
      processGpus := fun _ => none
      linkWeight := fun _ _ => (AmdsmiStatus.success, 0)
      temperatureSensors := []
      tempMetric := fun _ _ _ => (AmdsmiStatus.notSupported, 0)
      voltageSensors := []
      voltMetric := fun _ _ _ => (AmdsmiStatus.notSupported, 0) }
  rocr := ⟨fun _ => .passed [] [], fun _ => .passed [] [], fun _ => .passed [] []⟩
  rvs := true

/-- The counts in the response to a short run. -/
def shortCounts (gpus : RdcGroupInfo) (before : RdcDiagResponse) : Option (List Nat) :=
  ((RdcDiagnosticModule.create registeredModules).rdcDiagnosticRun quietNode gpus rdcDiagLvlShort
    before).map fun p => (results p.2).map (·.perGpuResultCount)

def groupWithoutGpus : RdcGroupInfo := ⟨[101], [], Nat.zero_le _, List.nodup_nil⟩

/-- A short run on an empty group: the library turns both of its test cases down, and the counts of
their results are what the response held before. -/
theorem not_determined_emptyGroup :
    shortCounts groupWithoutGpus (staleResponse 0) = some [0, 0, 0, 0, 0]
    ∧ shortCounts groupWithoutGpus (staleResponse 129) = some [0, 0, 0, 129, 129]
    ∧ ¬ Determined ((RdcDiagnosticModule.create registeredModules).rdcDiagnosticRun quietNode
        groupWithoutGpus rdcDiagLvlShort) := by
  have hzero : shortCounts groupWithoutGpus (staleResponse 0) = some [0, 0, 0, 0, 0] := by
    decide +kernel
  have hstale : shortCounts groupWithoutGpus (staleResponse 129) = some [0, 0, 0, 129, 129] := by
    decide +kernel
  refine ⟨hzero, hstale, fun hdet => ?_⟩
  have hsame : shortCounts groupWithoutGpus (staleResponse 0)
      = shortCounts groupWithoutGpus (staleResponse 129) := by
    have hind := congrArg (Option.map (List.map (·.perGpuResultCount)))
      (hdet.independent (staleResponse 0) (staleResponse 129))
    rw [Option.map_map, Option.map_map] at hind
    exact hind
  rw [hzero, hstale] at hsame
  cases hsame

/-! ## The reply of the server -/

end Rdc.Proof
