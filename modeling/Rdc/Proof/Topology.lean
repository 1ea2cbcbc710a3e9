import Rdc.Proof.Diagnostics

/-!
# The links of a group

`check_smi_topo_info` goes over the pairs of GPUs of a group, tells the weight of the link between
the two, and fails if one cannot be asked for. The handle of the second GPU is looked up with the
index of the first, so that each GPU is asked for the link to itself, once for every other GPU of
the group. `linkLoop` gives the list of these questions with the outcome.
-/

namespace Rdc.Proof

open Rdc

/-! ## What is to be examined -/

/-- The pairs of GPUs in the order of the two loops, each GPU with its place in the group. -/
def gpuPairs (gpus : List Nat) : List ((Nat × Nat) × (Nat × Nat)) :=
  gpus.zipIdx.flatMap fun p => gpus.zipIdx.map (p, ·)

/-- The pairs at different places. -/
def linkPairs (gpus : List Nat) : List ((Nat × Nat) × (Nat × Nat)) :=
  (gpuPairs gpus).filter fun p => p.1.2 ≠ p.2.2

/-- The links between them. -/
def links (gpus : List Nat) : List (Nat × Nat) :=
  (linkPairs gpus).map fun p => (p.1.1, p.2.1)

/-- The elements up to the first that is not good, and that one. -/
def upToBad {α : Type} (good : α → Bool) : List α → List α
  | [] => []
  | x :: xs => if good x then x :: upToBad good xs else [x]

/-- The weight of the link can be asked for. -/
def LinkOk (a : SmiDiagAnswers) (link : Nat × Nat) : Bool :=
  (a.linkWeight link.1 link.2).1 = AmdsmiStatus.success

/-- What is told about a pair. -/
def linkText (a : SmiDiagAnswers) (p : (Nat × Nat) × (Nat × Nat)) : List UInt8 :=
  decimal p.1.2 ++ text "=>" ++ decimal p.2.2 ++ text " weight:"
    ++ decimal (a.linkWeight p.1.1 p.2.1).2 ++ text " "

/-- Every link is examined: the questions, the verdict and the text that is built. -/
structure LinksExamined (a : SmiDiagAnswers) (gpus : List Nat) (r : RdcDiagTestResult) : Prop where
  queries : (SmiDiagnostic.linkLoop a (gpuPairs gpus) []).1 = upToBad (LinkOk a) (links gpus)
  status : r.status = .fail ↔ ∃ link ∈ links gpus, LinkOk a link = false
  text : (∀ link ∈ links gpus, LinkOk a link = true) →
    (SmiDiagnostic.linkLoop a (gpuPairs gpus) []).2 = .ok ((linkPairs gpus).flatMap (linkText a))

/-! ## What is examined -/

section Loop

variable (a : SmiDiagAnswers)

/-- The loop gives up if and only if the link of some GPU to itself cannot be asked for, and the GPU
is paired with another. -/
theorem linkLoop_ok_iff (pairs : List ((Nat × Nat) × (Nat × Nat))) (info : List UInt8) :
    (∃ info', (SmiDiagnostic.linkLoop a pairs info).2 = .ok info')
      ↔ ∀ p ∈ pairs, p.1.1 ≠ p.2.1 → LinkOk a (p.1.1, p.1.1) = true := by
  induction pairs generalizing info with
  | nil => exact iff_of_true ⟨info, rfl⟩ fun p hp => absurd hp List.not_mem_nil
  | cons p pairs ih =>
    obtain ⟨⟨gpu, i⟩, gpu', j⟩ := p
    rw [List.forall_mem_cons]
    unfold SmiDiagnostic.linkLoop
    by_cases hgpu : gpu = gpu'
    · rw [if_pos hgpu, ih]
      exact (and_iff_right fun hne => absurd hgpu hne).symm
    · rw [if_neg hgpu]
      dsimp only
      by_cases hfail : (a.linkWeight gpu gpu).1 ≠ AmdsmiStatus.success
      · rw [if_pos hfail]
        refine iff_of_false (by rintro ⟨-, ⟨⟩⟩) fun h => hfail ?_
        exact of_decide_eq_true (h.1 hgpu)
      · rw [if_neg hfail, ih]
        refine (and_iff_right fun _ => ?_).symm
        exact decide_eq_true (not_not.mp hfail)

variable (gpus : List Nat)

theorem mem_gpuPairs {gpus : List Nat} {gpu gpu' : Nat} (h : gpu ∈ gpus) (h' : gpu' ∈ gpus) :
    ∃ i j, ((gpu, i), (gpu', j)) ∈ gpuPairs gpus := by
  obtain ⟨i, hi⟩ := List.mem_iff_getElem?.mp h
  obtain ⟨j, hj⟩ := List.mem_iff_getElem?.mp h'
  refine ⟨i, j, List.mem_flatMap.mpr ⟨(gpu, i), ?_, List.mem_map.mpr ⟨(gpu', j), ?_, rfl⟩⟩⟩
  · exact List.mem_zipIdx_iff_getElem?.mpr hi
  · exact List.mem_zipIdx_iff_getElem?.mpr hj

theorem mem_of_mem_gpuPairs {gpus : List Nat} {p : (Nat × Nat) × (Nat × Nat)}
    (h : p ∈ gpuPairs gpus) : p.1.1 ∈ gpus ∧ p.2.1 ∈ gpus := by
  obtain ⟨first, hfirst, h⟩ := List.mem_flatMap.mp h
  obtain ⟨second, hsecond, rfl⟩ := List.mem_map.mp h
  exact ⟨List.mem_of_getElem? (List.mem_zipIdx_iff_getElem?.mp hfirst),
    List.mem_of_getElem? (List.mem_zipIdx_iff_getElem?.mp hsecond)⟩

/-- What the verdict says: some GPU of at least two different ones cannot be asked for the link to
itself. -/
theorem checkSmiTopoInfo_fail_iff (old : RdcDiagTestResult) :
    ∃ status r, SmiDiagnostic.checkSmiTopoInfo a gpus old = some (status, r)
      ∧ (r.status = .fail ↔
          ∃ gpu ∈ gpus, (∃ gpu' ∈ gpus, gpu ≠ gpu') ∧ LinkOk a (gpu, gpu) = false) := by
  have hok := linkLoop_ok_iff a (gpuPairs gpus) []
  have hpairs : (∃ gpu ∈ gpus, (∃ gpu' ∈ gpus, gpu ≠ gpu') ∧ LinkOk a (gpu, gpu) = false)
      ↔ ¬ ∃ info, (SmiDiagnostic.linkLoop a (gpuPairs gpus) []).2 = .ok info := by
    rw [hok]
    constructor
    · rintro ⟨gpu, hgpu, ⟨gpu', hgpu', hne⟩, hbad⟩ hall
      obtain ⟨i, j, hmem⟩ := mem_gpuPairs hgpu hgpu'
      rw [hall _ hmem hne] at hbad
      cases hbad
    · intro hnot
      push Not at hnot
      obtain ⟨p, hp, hne, hbad⟩ := hnot
      obtain ⟨hfirst, hsecond⟩ := mem_of_mem_gpuPairs hp
      exact ⟨p.1.1, hfirst, ⟨p.2.1, hsecond, hne⟩, eq_false_of_ne_true hbad⟩
  rw [hpairs]
  unfold SmiDiagnostic.checkSmiTopoInfo
  dsimp only
  rw [show (gpus.zipIdx.flatMap fun p => gpus.zipIdx.map (p, ·)) = gpuPairs gpus from rfl]
  cases (SmiDiagnostic.linkLoop a (gpuPairs gpus) []).2 with
  | error detail => exact ⟨_, _, rfl, by simp⟩
  | ok info => exact ⟨_, _, rfl, by simp⟩

end Loop

/-- The first question is about the first GPU and itself, where it should be about the first two. -/
theorem linkLoop_asked_ne {a : SmiDiagAnswers} {gpu gpu' : Nat} (hne : gpu ≠ gpu')
    (gpus : List Nat) :
    (SmiDiagnostic.linkLoop a (gpuPairs (gpu :: gpu' :: gpus)) []).1
      ≠ upToBad (LinkOk a) (links (gpu :: gpu' :: gpus)) := by
  obtain ⟨pairs, hpairs⟩ : ∃ pairs, gpuPairs (gpu :: gpu' :: gpus)
      = ((gpu, 0), (gpu, 0)) :: ((gpu, 0), (gpu', 1)) :: pairs := ⟨_, rfl⟩
  have hasked : (SmiDiagnostic.linkLoop a (gpuPairs (gpu :: gpu' :: gpus)) []).1.head?
      = some (gpu, gpu) := by
    rw [hpairs]
    unfold SmiDiagnostic.linkLoop
    rw [if_pos rfl]
    unfold SmiDiagnostic.linkLoop
    rw [if_neg hne]
    dsimp only
    split <;> rfl
  have hlink : (upToBad (LinkOk a) (links (gpu :: gpu' :: gpus))).head? = some (gpu, gpu') := by
    unfold links linkPairs
    rw [hpairs, List.filter_cons_of_neg (by simp), List.filter_cons_of_pos (by simp), List.map_cons]
    unfold upToBad
    split <;> rfl
  intro heq
  rw [heq, hlink] at hasked
  cases hasked
  exact hne rfl

theorem linksExamined_of_le {a : SmiDiagAnswers} {gpus : List Nat} (hlen : gpus.length ≤ 1)
    (old : RdcDiagTestResult) :
    ∃ status r, SmiDiagnostic.checkSmiTopoInfo a gpus old = some (status, r)
      ∧ LinksExamined a gpus r := by
  obtain ⟨status, r, hr, hfail⟩ := checkSmiTopoInfo_fail_iff a gpus old
  obtain ⟨hone, hpairs, hloop⟩ : (∀ gpu ∈ gpus, ∀ gpu' ∈ gpus, gpu = gpu')
      ∧ linkPairs gpus = [] ∧ SmiDiagnostic.linkLoop a (gpuPairs gpus) [] = ([], .ok []) := by
    cases gpus with
    | nil => exact ⟨by simp, rfl, rfl⟩
    | cons gpu gpus =>
      rw [List.length_cons] at hlen
      obtain rfl : gpus = [] := List.length_eq_zero_iff.mp (by omega)
      have hgpu : gpuPairs [gpu] = [((gpu, 0), (gpu, 0))] := rfl
      rw [hgpu]
      unfold SmiDiagnostic.linkLoop
      rw [if_pos rfl]
      exact ⟨by simp, rfl, rfl⟩
  have hlinks : links gpus = [] := by
    unfold links
    rw [hpairs, List.map_nil]
  refine ⟨status, r, hr, ?_, ?_, fun _ => ?_⟩
  · rw [hloop, hlinks]
    rfl
  · rw [hfail, hlinks]
    refine iff_of_false ?_ (by simp)
    rintro ⟨gpu, hgpu, ⟨gpu', hgpu', hne⟩, -⟩
    exact hne (hone gpu hgpu gpu' hgpu')
  · rw [hloop, hpairs]
    rfl

/-- In a group of different GPUs every link is examined if and only if there is none. -/
theorem linksExamined_iff (a : SmiDiagAnswers) {gpus : List Nat} (hnodup : gpus.Nodup)
    (old : RdcDiagTestResult) :
    (∃ status r, SmiDiagnostic.checkSmiTopoInfo a gpus old = some (status, r)
      ∧ LinksExamined a gpus r) ↔ gpus.length ≤ 1 := by
  constructor
  · rintro ⟨status, r, -, h⟩
    by_contra hlen
    obtain ⟨gpu, gpu', gpus, rfl⟩ : ∃ gpu gpu' rest, gpus = gpu :: gpu' :: rest := by
      cases gpus with
      | nil => exact absurd (Nat.zero_le 1) hlen
      | cons gpu gpus =>
        obtain ⟨gpu', gpus, rfl⟩ := List.exists_cons_of_ne_nil (l := gpus) fun hnil => by
          subst hnil
          exact hlen (Nat.le_refl 1)
        exact ⟨gpu, gpu', gpus, rfl⟩
    have hne : gpu ≠ gpu' := List.ne_of_not_mem_cons (List.nodup_cons.mp hnodup).1
    exact linkLoop_asked_ne hne gpus h.queries
  · intro hlen
    exact linksExamined_of_le hlen old

/-- Two GPUs that can be asked for the link to themselves only. -/
def selfLinks : SmiDiagAnswers where
  processCount := (AmdsmiStatus.success, 0)
  processes := (AmdsmiStatus.success, [])
  processGpus _ := none
  linkWeight gpu gpu' := (if gpu = gpu' then AmdsmiStatus.success else AmdsmiStatus.notFound, 0)
  temperatureSensors := []
  tempMetric _ _ _ := (AmdsmiStatus.notSupported, 0)
  voltageSensors := []
  voltMetric _ _ _ := (AmdsmiStatus.notSupported, 0)

/-- GPUs with a weight for every link. -/
def allLinks : SmiDiagAnswers :=
  { selfLinks with linkWeight := fun _ _ => (AmdsmiStatus.success, 15) }

theorem linksExamined_one_not_two :
    (∃ status r, SmiDiagnostic.checkSmiTopoInfo selfLinks [3] .empty = some (status, r)
      ∧ LinksExamined selfLinks [3] r)
    ∧ ¬ ∃ status r, SmiDiagnostic.checkSmiTopoInfo allLinks [3, 5] .empty = some (status, r)
      ∧ LinksExamined allLinks [3, 5] r :=
  ⟨(linksExamined_iff selfLinks (List.nodup_singleton 3) .empty).mpr (by decide),
    mt (linksExamined_iff allLinks (by decide) .empty).mp (by decide)⟩

/-- Neither link can be asked for, and the check does not fail. -/
theorem not_linksExamined_selfLinks :
    ¬ ∃ status r, SmiDiagnostic.checkSmiTopoInfo selfLinks [0, 1] .empty = some (status, r)
      ∧ LinksExamined selfLinks [0, 1] r := by
  rintro ⟨status, r, hr, h⟩
  obtain ⟨status', r', hr', hfail⟩ := checkSmiTopoInfo_fail_iff selfLinks [0, 1] .empty
  cases hr.symm.trans hr'
  obtain ⟨gpu, -, -, hself⟩ := hfail.mp (h.status.mpr ⟨(0, 1), by decide, by decide⟩)
  rw [show LinkOk selfLinks (gpu, gpu) = true by simp [LinkOk, selfLinks]] at hself
  cases hself

end Rdc.Proof
