import Rdc.ServerMain

/-!
# How many daemons there are

Two daemons of one kind would hold the lock of one file, so as long as nobody deletes a lock file
there is at most one daemon of root and at most one of the other users. One of each kind is possible
(`two_daemons_iff`): the two look at each other's lock before either has taken its own. A process
that is started when there is a daemon already does not become one beside it
(`never_beside_running`).
-/

namespace Rdc.Proof.Start

open LockFiles LockFiles.Disk Machine Startup

variable {P : Type} {isRoot : P → Bool}

/-! ## What a process knows of the disk -/

/-- What is the case on the disk when a process is at a place. -/
def PlaceOk (isRoot : P → Bool) (p : P) (disk : Disk LockFile P) : StartPlace → Prop
  | .asking lockFile fh => disk.file lockFile = some fh
  | .locking fh => disk.file (LockFile.ofUser (isRoot p)) = some fh
  | .running fh => disk.file (LockFile.ofUser (isRoot p)) = some fh ∧ disk.holder fh = some p
  | .opening _ | .creating | .exited _ => True

/-- Nobody is misled. -/
def Informed (isRoot : P → Bool) (s : Startup P) : Prop := ∀ p, PlaceOk isRoot p s.disk (s.place p)

theorem init_informed : Informed isRoot (init : Startup P) := fun _ => trivial

theorem PlaceOk.kept {p q : P} (hne : q ≠ p) {disk disk' : Disk LockFile P}
    (hkept : KeptBy p disk disk') {place : StartPlace} (h : PlaceOk isRoot q disk place) :
    PlaceOk isRoot q disk' place := by
  cases place with
  | asking lockFile fh => exact hkept.file _ _ h
  | locking fh => exact hkept.file _ _ h
  | running fh => exact ⟨hkept.file _ _ h.1, hkept.holder _ _ hne h.2⟩
  | _ => trivial

/-- One process has moved, and the others have kept what they have. -/
def Moves (isRoot : P → Bool) (s s' : Startup P) (p : P) : Prop :=
  KeptBy p s.disk s'.disk ∧ (∀ q, q ≠ p → s'.place q = s.place q)
    ∧ PlaceOk isRoot p s'.disk (s'.place p)

variable {p : P} {s : Startup P}

theorem Moves.informed {s s' : Startup P} (hmoves : Moves isRoot s s' p) (h : Informed isRoot s) :
    Informed isRoot s' := by
  obtain ⟨hkept, hothers, hplace⟩ := hmoves
  intro q
  by_cases hq : q = p
  · rw [hq]
    exact hplace
  · rw [hothers q hq]
    exact (h q).kept hq hkept

theorem moves_refl (h : Informed isRoot s) (p : P) : Moves isRoot s s p :=
  ⟨keptBy_refl p s.disk, fun _ _ => rfl, h p⟩

theorem placeOk_afterCheck (p : P) (disk : Disk LockFile P) (lockFile : LockFile) :
    PlaceOk isRoot p disk (afterCheck lockFile) := by
  cases lockFile <;> trivial

variable [DecidableEq P]

theorem put_place (s : Startup P) (disk : Disk LockFile P) (p : P) (place : StartPlace) :
    (s.put disk p place).place p = place := Function.update_self ..

theorem put_moves {disk : Disk LockFile P} {place : StartPlace} (hkept : KeptBy p s.disk disk)
    (hplace : PlaceOk isRoot p disk place) : Moves isRoot s (s.put disk p place) p := by
  refine ⟨hkept, fun q hq => Function.update_of_ne hq .., ?_⟩
  rw [put_place]
  exact hplace

theorem step_moves (h : Informed isRoot s) (p : P) (answer : StartAnswer) :
    Moves isRoot s (s.step isRoot p answer) p := by
  have hstay := keptBy_refl p s.disk
  unfold step
  split
  · -- `opening`: the file found is the one behind the path
    split
    · exact put_moves hstay trivial
    · split
      · exact put_moves hstay (placeOk_afterCheck ..)
      · next hfile => exact put_moves hstay hfile
  · -- `asking` changes nothing on the disk
    split
    · exact put_moves hstay trivial
    · split
      · exact put_moves hstay trivial
      · exact put_moves hstay (placeOk_afterCheck ..)
  · -- `creating`
    split
    · exact put_moves hstay trivial
    · exact put_moves (keptBy_openCreate ..) (file_openCreate ..)
  · -- `locking`: the file is still the one behind the path, since nobody removes it
    next fh hplace =>
    split
    · exact put_moves hstay trivial
    · split
      · exact put_moves hstay trivial
      · next disk hlock =>
        obtain ⟨hkept, hholder⟩ := tryLock_some hlock
        have hown : PlaceOk isRoot p s.disk (.locking fh) := hplace ▸ h p
        exact put_moves hkept ⟨hkept.file _ _ hown, hholder⟩
  · exact moves_refl h p
  · exact moves_refl h p

theorem exit_eq (isRoot : P → Bool) (s : Startup P) (p : P) (code : Nat) :
    (s.exec isRoot (.exit p code)).2 = s
      ∨ (s.exec isRoot (.exit p code)).2 = s.put (s.disk.endOf p) p (.exited code) := by
  unfold exec
  dsimp only
  split
  · exact .inl rfl
  · exact .inr rfl

theorem exit_moves (h : Informed isRoot s) (p : P) (code : Nat) :
    Moves isRoot s (s.exec isRoot (.exit p code)).2 p := by
  rcases exit_eq isRoot s p code with heq | heq <;> rw [heq]
  · exact moves_refl h p
  · exact put_moves (keptBy_endOf p s.disk) trivial

theorem exec_informed (h : Informed isRoot s) {op : StartOp P}
    (hop : ∀ lockFile, op ≠ .unlink lockFile) : Informed isRoot (s.exec isRoot op).2 := by
  cases op with
  | step p answer => exact (step_moves h p answer).informed h
  | exit p code => exact (exit_moves h p code).informed h
  | unlink lockFile => exact absurd rfl (hop lockFile)

theorem along_of_locksStay {ops : List (StartOp P)} (h : LocksStay ops) (s : Startup P) :
    Along (exec isRoot) (fun _ op => ∀ lockFile, op ≠ .unlink lockFile) s ops :=
  Along.of_forall fun _ hop _ lockFile heq => h lockFile (heq ▸ hop)

theorem run_informed {ops : List (StartOp P)} (h : LocksStay ops) :
    Informed isRoot (run (exec isRoot) init ops) :=
  Along.invariant (I := Informed isRoot) (fun _ _ hs hop => exec_informed hs hop) init_informed
    (along_of_locksStay h init)

/-! ## One of each kind -/

omit [DecidableEq P] in
theorem running_unique (h : Informed isRoot s) {p q : P} (hp : s.Running p) (hq : s.Running q)
    (hkind : isRoot p = isRoot q) : p = q := by
  obtain ⟨fh, hp⟩ := hp
  obtain ⟨fh', hq⟩ := hq
  have hpOk : PlaceOk isRoot p s.disk (.running fh) := hp ▸ h p
  have hqOk : PlaceOk isRoot q s.disk (.running fh') := hq ▸ h q
  have hfile : some fh = some fh' := by
    rw [← hpOk.1, ← hqOk.1, hkind]
  have hholder := hqOk.2
  rw [← Option.some.inj hfile, hpOk.2] at hholder
  exact Option.some.inj hholder

/-- Both look at both locks, and then both take their own. -/
def raceOf (p q : P) : List (StartOp P) :=
  [.step p ⟨true, 0⟩, .step p ⟨true, 0⟩, .step q ⟨true, 0⟩, .step q ⟨true, 0⟩,
    .step p ⟨true, 0⟩, .step p ⟨true, 0⟩, .step q ⟨true, 0⟩, .step q ⟨true, 0⟩]

theorem raceOf_running {p q : P} (hne : p ≠ q) (hkind : isRoot p ≠ isRoot q) :
    (run (exec isRoot) init (raceOf p q)).Running p
      ∧ (run (exec isRoot) init (raceOf p q)).Running q := by
  have hne' : q ≠ p := hne.symm
  unfold raceOf Running
  cases hp : isRoot p <;> cases hq : isRoot q <;> rw [hp, hq] at hkind <;>
    first
    | exact absurd rfl hkind
    | simp [run, exec, step, init, put, afterCheck, Disk.empty, Disk.openCreate, Disk.tryLock,
        Disk.lockedFor, LockFile.ofUser, hp, hq, hne, hne']

/-- **Which processes can be daemons side by side.** Two of one kind never, and any two of different
kinds. -/
theorem two_daemons_iff (isRoot : P → Bool) (p q : P) (hne : p ≠ q) :
    (∃ ops, LocksStay ops ∧ (run (exec isRoot) init ops).Running p
        ∧ (run (exec isRoot) init ops).Running q)
      ↔ isRoot p ≠ isRoot q := by
  refine ⟨?_, fun hkind => ?_⟩
  · rintro ⟨ops, hstay, hp, hq⟩ hkind
    exact hne (running_unique (run_informed hstay) hp hq hkind)
  · refine ⟨raceOf p q, ?_, raceOf_running hne hkind⟩
    intro lockFile hmem
    simp [raceOf] at hmem

theorem two_daemons_iff_rootAndUser :
    ∃ ops, LocksStay ops ∧ (run (exec id) (init : Startup Bool) ops).Running true
      ∧ (run (exec id) (init : Startup Bool) ops).Running false :=
  (two_daemons_iff id true false (by decide)).mpr (by decide)

/-! ## Late comers -/

/-- The lock of the file is still to be looked at, or the process has ended. -/
def Before (lockFile : LockFile) : StartPlace → Prop
  | .opening f | .asking f _ => f = .root ∨ lockFile = .user
  | .exited _ => True
  | .creating | .locking _ | .running _ => False

theorem before_afterCheck {lockFile f : LockFile} (hne : f ≠ lockFile)
    (h : f = .root ∨ lockFile = .user) : Before lockFile (afterCheck f) := by
  cases f <;> cases lockFile <;> simp_all [Before, afterCheck]

/-- **Step.** A process does not get past the lock of a daemon. -/
theorem step_before (h : Informed isRoot s) {p q : P} (hne : p ≠ q) (hp : s.Running p)
    (hq : Before (LockFile.ofUser (isRoot p)) (s.place q)) (answer : StartAnswer) :
    Before (LockFile.ofUser (isRoot p)) ((s.step isRoot q answer).place q) := by
  obtain ⟨fh, hp⟩ := hp
  obtain ⟨hfile, hholder⟩ : PlaceOk isRoot p s.disk (.running fh) := hp ▸ h p
  unfold step
  split
  · next f hplace =>
    rw [hplace] at hq
    split
    · rw [put_place]
      trivial
    · split
      · next hnone =>
        rw [put_place]
        refine before_afterCheck ?_ hq
        rintro rfl
        rw [hnone] at hfile
        simp at hfile
      · rw [put_place]
        exact hq
  · next f fh' hplace =>
    have hasked : PlaceOk isRoot q s.disk (.asking f fh') := hplace ▸ h q
    rw [hplace] at hq
    split
    · rw [put_place]
      trivial
    · split
      · rw [put_place]
        trivial
      · next hfree =>
        rw [put_place]
        refine before_afterCheck ?_ hq
        rintro rfl
        -- the file asked about is the one whose lock the daemon holds
        have hsame : fh' = fh := Option.some.inj (hasked.symm.trans hfile)
        exact hfree (lockedFor_of_holder (hsame ▸ hholder) hne)
  · next hplace =>
    rw [hplace] at hq
    exact hq.elim
  · next hplace =>
    rw [hplace] at hq
    exact hq.elim
  · next hplace =>
    rw [hplace] at hq
    exact hq.elim
  · exact hq

/-- The daemon has ended, or the other one has still to look at its lock. -/
def KeptOut (isRoot : P → Bool) (p q : P) (s : Startup P) : Prop :=
  (∃ code, s.place p = .exited code)
    ∨ s.Running p ∧ Before (LockFile.ofUser (isRoot p)) (s.place q)

/-- A daemon makes no more system calls of the start, and a process that has ended makes none. -/
theorem step_place_settled (h : Informed isRoot s)
    (hp : s.Running p ∨ ∃ code, s.place p = .exited code) (r : P) (answer : StartAnswer) :
    (s.step isRoot r answer).place p = s.place p := by
  by_cases hr : p = r
  · subst hr
    unfold step
    rcases hp with ⟨fh, hplace⟩ | ⟨code, hplace⟩ <;> rw [hplace] <;> exact hplace
  · exact (step_moves h r answer).2.1 p hr

theorem exec_keptOut (h : Informed isRoot s) {p q : P} (hne : p ≠ q) (hout : KeptOut isRoot p q s)
    {op : StartOp P} (hop : ∀ lockFile, op ≠ .unlink lockFile) :
    KeptOut isRoot p q (s.exec isRoot op).2 := by
  cases op with
  | unlink lockFile => exact absurd rfl (hop lockFile)
  | step r answer =>
    have hsettled := step_place_settled h (hout.symm.imp And.left id) r answer
    show KeptOut isRoot p q (s.step isRoot r answer)
    unfold KeptOut Running
    rw [hsettled]
    refine hout.imp id fun ⟨hp, hq⟩ => ⟨hp, ?_⟩
    by_cases hr : q = r
    · rw [← hr]
      exact step_before h hne hp hq answer
    · rw [(step_moves h r answer).2.1 q hr]
      exact hq
  | exit r code =>
    have hothers := (exit_moves h r code).2.1
    rcases exit_eq isRoot s r code with heq | heq
    · rw [heq]
      exact hout
    · by_cases hpr : p = r
      · refine .inl ⟨code, ?_⟩
        rw [heq, hpr]
        exact put_place ..
      · unfold KeptOut Running
        rw [hothers p hpr]
        refine hout.imp id fun ⟨hp, hq⟩ => ⟨hp, ?_⟩
        by_cases hqr : q = r
        · rw [heq, hqr, put_place]
          trivial
        · rw [hothers q hqr]
          exact hq

/-- **No daemon beside a running one.** Whoever is started while there is a daemon, by whichever
user, does not become a daemon as long as that one is. -/
theorem never_beside_running (isRoot : P → Bool) (p q : P) (before after : List (StartOp P))
    (hstay : LocksStay (before ++ after)) (hp : (run (exec isRoot) init before).Running p)
    (hq : (run (exec isRoot) init before).Fresh q)
    (hstill : (run (exec isRoot) init (before ++ after)).Running p) :
    ¬ (run (exec isRoot) init (before ++ after)).Running q := by
  have hstart : Informed isRoot (run (exec isRoot) init before)
      ∧ KeptOut isRoot p q (run (exec isRoot) init before) := by
    refine ⟨run_informed fun f hmem => hstay f (List.mem_append_left _ hmem), .inr ⟨hp, ?_⟩⟩
    rw [hq]
    exact .inl rfl
  have hne : p ≠ q := by
    rintro rfl
    obtain ⟨fh, hp⟩ := hp
    exact absurd (hp.symm.trans hq) (by simp)
  have hend := Along.invariant
    (I := fun s => Informed isRoot s ∧ KeptOut isRoot p q s)
    (fun _ _ hs hop => ⟨exec_informed hs.1 hop, exec_keptOut hs.1 hne hs.2 hop⟩) hstart
    (along_of_locksStay (fun f hmem => hstay f (List.mem_append_right before hmem)) _)
  rw [show run (exec isRoot) init (before ++ after) = run (exec isRoot)
    (run (exec isRoot) init before) after from List.foldl_append ..] at hstill ⊢
  rintro ⟨fh, hrunning⟩
  rcases hend.2 with ⟨code, hexited⟩ | ⟨-, hbefore⟩
  · obtain ⟨fh', hstill⟩ := hstill
    exact absurd (hstill.symm.trans hexited) (by simp)
  · rw [hrunning] at hbefore
    exact hbefore

/-- A process that goes on until it is the daemon or has ended. -/
def startOf (p : P) : List (StartOp P) := List.replicate 6 (.step p ⟨true, 0⟩)

theorem never_beside_running_userAfterRoot :
    (run (exec id) (init : Startup Bool) (startOf true ++ startOf false)).Running true
      ∧ ¬ (run (exec id) (init : Startup Bool) (startOf true ++ startOf false)).Running false := by
  have hroot : (run (exec id) (init : Startup Bool) (startOf true ++ startOf false)).Running true :=
    ⟨0, rfl⟩
  refine ⟨hroot, never_beside_running id true false (startOf true) (startOf false) ?_ ⟨0, rfl⟩ rfl
    hroot⟩
  intro lockFile hmem
  simp [startOf] at hmem

end Rdc.Proof.Start
