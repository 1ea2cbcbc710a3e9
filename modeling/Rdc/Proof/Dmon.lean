import Rdc.Dmon
import Rdc.Proof.FieldGroups

/-!
# Does `rdci dmon` give its groups back?

Whatever way the program ends, the destructor of the object runs, and what it destroys is what the
options name. So the object owns what it has made as long as each of its groups is in the options
(`Recorded`), and every command keeps that, with one exception: `create_temp_group` puts the id of a
new group into the options only after all GPUs were added. If the daemon turns one down, the
exception leaves a group behind that nobody knows.
-/

namespace Rdc.Proof

open Raise Dmon

variable {σ : Type}

theorem insertOption_self (s : Dmon σ) (option : DmonOption) (value : Nat) :
    (s.insertOption option value).options option = (s.options option).or (some value) := if_pos rfl

theorem insertOption_other (s : Dmon σ) {option option' : DmonOption} (h : option' ≠ option)
    (value : Nat) : (s.insertOption option value).options option' = s.options option' := if_neg h

/-! ## What the destructor finds -/

/-- No group is left in the daemon. -/
def Released (s : Dmon σ) : Prop := s.gpuGroups = [] ∧ s.fieldGroups = []

/-- Every group the object has made is named by the options, and it knows that it has to clean up.
-/
structure Recorded (s : Dmon σ) : Prop where
  gpuGroups : ∀ id ∈ s.gpuGroups,
    s.options .groupId = some id ∧ s.gpuIndexes ≠ [] ∧ s.needCleanup = true
  fieldGroups : ∀ id ∈ s.fieldGroups,
    s.options .fieldGroupId = some id ∧ s.fieldIds ≠ [] ∧ s.needCleanup = true

theorem Released.recorded {s : Dmon σ} (h : Released s) : Recorded s := by
  constructor
  · rw [h.1]
    exact fun id hid => absurd hid List.not_mem_nil
  · rw [h.2]
    exact fun id hid => absurd hid List.not_mem_nil

theorem cleanUpWatch_eq (api : RdcApi σ) (s : Dmon σ) :
    ∃ d, cleanUpWatch api s = { s with daemon := d } := by
  unfold cleanUpWatch
  split
  · exact ⟨_, rfl⟩
  · exact ⟨s.daemon, rfl⟩

/-- The second part leaves the groups that the options do not name. -/
theorem cleanUpGroup_eq (api : RdcApi σ) (s : Dmon σ) :
    ∃ d, cleanUpGroup api s = { s with
      daemon := d
      gpuGroups := s.gpuGroups.filter fun id =>
        ¬ (s.gpuIndexes ≠ [] ∧ s.options .groupId = some id) } := by
  unfold cleanUpGroup
  by_cases hgpus : s.gpuIndexes ≠ []
  · cases hid : s.options .groupId with
    | none => exact ⟨s.daemon, by simp [hgpus]⟩
    | some g =>
      refine ⟨api.rdcGroupGpuDestroy g s.daemon, ?_⟩
      rw [if_pos hgpus]
      simp [hgpus, eq_comm]
  · refine ⟨s.daemon, ?_⟩
    rw [if_neg hgpus]
    simp [hgpus]

theorem cleanUpFieldGroup_eq (api : RdcApi σ) (s : Dmon σ) :
    ∃ d, cleanUpFieldGroup api s = { s with
      daemon := d
      fieldGroups := s.fieldGroups.filter fun id =>
        ¬ (s.fieldIds ≠ [] ∧ s.options .fieldGroupId = some id) } := by
  unfold cleanUpFieldGroup
  by_cases hfields : s.fieldIds ≠ []
  · cases hid : s.options .fieldGroupId with
    | none => exact ⟨s.daemon, by simp [hfields]⟩
    | some fg =>
      refine ⟨api.rdcGroupFieldDestroy fg s.daemon, ?_⟩
      rw [if_pos hfields]
      simp [hfields, eq_comm]
  · refine ⟨s.daemon, ?_⟩
    rw [if_neg hfields]
    simp [hfields]

/-- **What the destructor leaves** are the groups that the options do not name. -/
theorem cleanUp_groups (api : RdcApi σ) {s : Dmon σ} (h : s.needCleanup = true) :
    (cleanUp api s).gpuGroups = s.gpuGroups.filter
        (fun id => ¬ (s.gpuIndexes ≠ [] ∧ s.options .groupId = some id))
      ∧ (cleanUp api s).fieldGroups = s.fieldGroups.filter
        fun id => ¬ (s.fieldIds ≠ [] ∧ s.options .fieldGroupId = some id) := by
  obtain ⟨d₁, h₁⟩ := cleanUpWatch_eq api s
  obtain ⟨d₂, h₂⟩ := cleanUpGroup_eq api (cleanUpWatch api s)
  obtain ⟨d₃, h₃⟩ := cleanUpFieldGroup_eq api (cleanUpGroup api (cleanUpWatch api s))
  unfold cleanUp
  rw [if_pos h, h₃, h₂, h₁]
  exact ⟨rfl, rfl⟩

theorem Recorded.cleanUp {s : Dmon σ} (h : Recorded s) (api : RdcApi σ) :
    Released (cleanUp api s) := by
  by_cases hneed : s.needCleanup = true
  · obtain ⟨hgpu, hfield⟩ := cleanUp_groups api hneed
    unfold Released
    rw [hgpu, hfield]
    constructor
    · rw [List.filter_eq_nil_iff]
      intro id hid
      simp [(h.gpuGroups id hid).1, (h.gpuGroups id hid).2.1]
    · rw [List.filter_eq_nil_iff]
      intro id hid
      simp [(h.fieldGroups id hid).1, (h.fieldGroups id hid).2.1]
  · -- nothing is recorded while there is nothing to clean up
    unfold Dmon.cleanUp
    rw [if_neg hneed]
    constructor
    · exact List.eq_nil_iff_forall_not_mem.mpr fun id hid => hneed (h.gpuGroups id hid).2.2
    · exact List.eq_nil_iff_forall_not_mem.mpr fun id hid => hneed (h.fieldGroups id hid).2.2

/-! ## Monitoring keeps the record -/

/-- How a command may stop: with an exception or in a loop, and with everything recorded. -/
def StopsRecorded (e : DmonStop) (s : Dmon σ) : Prop := e ≠ .overrun ∧ Recorded s

/-- The command keeps everything recorded. -/
def Keeps {α : Type} (x : Cmd DmonStop (Dmon σ) α) : Prop :=
  Triple Recorded x (fun _ => Recorded) StopsRecorded

namespace Keeps

variable {α β : Type}

theorem pure (a : α) : Keeps (Pure.pure a : Cmd DmonStop (Dmon σ) α) := Triple.pure fun _ h => h

variable {x : Cmd DmonStop (Dmon σ) α}

theorem bind {f : α → Cmd DmonStop (Dmon σ) β} (hx : Keeps x) (hf : ∀ a, Keeps (f a)) :
    Keeps (x >>= f) := Triple.bind hx hf

theorem thrown (e : DmonError) : Keeps (Cmd.stop (.thrown e) : Cmd DmonStop (Dmon σ) α) :=
  Triple.stop fun _ h => ⟨by simp, h⟩

theorem call (f : σ → α × σ) : Keeps (Dmon.call f) :=
  Triple.atomic fun _ h => ⟨h.gpuGroups, h.fieldGroups⟩

theorem optionAt (option : DmonOption) : Keeps (Dmon.optionAt (σ := σ) option) := by
  refine Triple.atomic fun s h => ⟨?_, ?_⟩
  · intro id hid
    obtain ⟨hoption, hrest⟩ := h.gpuGroups id hid
    exact ⟨by simp [insertOption, hoption], hrest⟩
  · intro id hid
    obtain ⟨hoption, hrest⟩ := h.fieldGroups id hid
    exact ⟨by simp [insertOption, hoption], hrest⟩

theorem getMembers (tables : DmonTables) (getInfo : Nat → σ → Except Failure (List α) × σ)
    (option : DmonOption) (kind theKind member : String) :
    Keeps (Dmon.getMembers tables getInfo option kind theKind member) := by
  unfold Dmon.getMembers
  refine (optionAt option).bind fun id => (call _).bind fun info => ?_
  split
  · exact thrown _
  · exact thrown _
  · exact pure _

end Keeps

/-! ## Reading changes only the daemon -/

/-- The command changes nothing but the daemon, and not what `J` says of it. -/
def Reads {α : Type} (J : σ → Prop) (x : Cmd DmonStop (Dmon σ) α) : Prop :=
  ∀ s, J s.daemon → (x.exec s).1 ≠ .error .overrun
    ∧ ∃ d, J d ∧ (x.exec s).2 = { s with daemon := d }

/-- What the daemon answers to a reader leaves `J` true. -/
structure ReadInv (api : RdcApi σ) (J : σ → Prop) : Prop where
  getValueSince : ∀ gpu field since nextTs value d, J d →
    J (api.rdcFieldGetValueSince gpu field since nextTs value d).2
  getLatestValue : ∀ gpu field d, J d → J (api.rdcFieldGetLatestValue gpu field d).2
  isTerminating : ∀ d, J d → J (api.isTerminating d).2

namespace Reads

variable {J : σ → Prop} {α β : Type} {x : Cmd DmonStop (Dmon σ) α}

theorem pure (a : α) : Reads J (Pure.pure a : Cmd DmonStop (Dmon σ) α) :=
  fun s h => ⟨fun heq => (by cases heq), s.daemon, h, rfl⟩

theorem thrown (e : DmonError) : Reads J (Cmd.stop (.thrown e) : Cmd DmonStop (Dmon σ) α) :=
  fun s h => ⟨fun heq => (by cases heq), s.daemon, h, rfl⟩

theorem call {f : σ → α × σ} (h : ∀ d, J d → J (f d).2) : Reads J (Dmon.call f) :=
  fun s hs => ⟨fun heq => (by cases heq), (f s.daemon).2, h s.daemon hs, rfl⟩

theorem bind {f : α → Cmd DmonStop (Dmon σ) β} (hx : Reads J x) (hf : ∀ a, Reads J (f a)) :
    Reads J (x >>= f) := by
  intro s hs
  obtain ⟨hrun, d, hd, heq⟩ := hx s hs
  rw [Cmd.exec_bind]
  revert hrun heq
  rcases x.exec s with ⟨r, s'⟩
  cases r with
  | error e =>
    intro hrun heq
    exact ⟨fun h => hrun (by rw [Except.error.inj h]), d, hd, heq⟩
  | ok a =>
    rintro - rfl
    obtain ⟨hrun', d', hd', heq'⟩ := hf a { s with daemon := d } hd
    exact ⟨hrun', d', hd', heq'⟩

theorem triple (h : Reads J x) {P : Dmon σ → Prop} (hJ : ∀ s, P s → J s.daemon)
    (hP : ∀ s d, P s → J d → P { s with daemon := d }) :
    Triple P x (fun _ => P) fun e s => e ≠ .overrun ∧ P s := by
  intro s hs
  obtain ⟨hrun, d, hd, heq⟩ := h s (hJ s hs)
  revert hrun heq
  rcases x.exec s with ⟨r, s'⟩
  cases r with
  | error e =>
    rintro hrun rfl
    exact ⟨fun he => hrun (by rw [he]), hP s d hs hd⟩
  | ok a =>
    rintro - rfl
    exact hP s d hs hd

theorem keeps (h : Reads (fun _ => True) x) : Keeps x :=
  h.triple (fun _ _ => trivial) fun _ _ hs _ => ⟨hs.gpuGroups, hs.fieldGroups⟩

end Reads

section Monitor

variable {api : RdcApi σ} {J : σ → Prop} (h : ReadInv api J) (tables : DmonTables)
  (uninit : DmonLocals)

theorem collectNewNotifs_reads {read : ReadSince σ}
    (hread : ∀ gpu field since nextTs value d, J d → J (read gpu field since nextTs value d).2)
    (fuel : Nat) (gpus : List Nat) (notifTs : List (Nat × Nat)) :
    Triple (fun n => J n.daemon) (Dmon.collectNewNotifs read fuel gpus notifTs)
      (fun _ n => J n.daemon) fun e n => e ≠ .overrun ∧ J n.daemon := by
  have hdrain : ∀ (gpu field fuel mark : Nat),
      Triple (fun n => J n.daemon) (drainField read gpu field fuel mark) (fun _ n => J n.daemon)
        fun e n => e ≠ .overrun ∧ J n.daemon := by
    intro gpu field fuel
    induction fuel with
    | zero => exact fun mark => Triple.stop fun _ hn => ⟨by simp, hn⟩
    | succ fuel ih =>
      intro mark
      unfold drainField
      refine Triple.bind (Q := fun _ n => J n.daemon)
        (Triple.atomic fun n hn => hread _ _ _ _ _ _ hn) fun ret => ?_
      split
      · exact Triple.pure fun _ hn => hn
      · refine Triple.bind (Q := fun _ n => J n.daemon) (Triple.update fun _ hn => hn) fun _ => ?_
        exact Triple.bind (Q := fun _ n => J n.daemon) (Triple.read fun _ hn => hn)
          fun next => ih next
      · exact Triple.stop fun _ hn => ⟨by simp, hn⟩
  have hgpu : ∀ (gpu : Nat) (notifTs : List (Nat × Nat)),
      Triple (fun n => J n.daemon) (drainGpu read fuel gpu notifTs) (fun _ n => J n.daemon)
        fun e n => e ≠ .overrun ∧ J n.daemon := by
    intro gpu notifTs
    induction notifTs with
    | nil => exact Triple.pure fun _ hn => hn
    | cons t rest ih =>
      exact Triple.bind (hdrain gpu t.1 fuel t.2) fun _ =>
        Triple.bind ih fun _ => Triple.pure fun _ hn => hn
  induction gpus generalizing notifTs with
  | nil => exact Triple.pure fun _ hn => hn
  | cons gpu gpus ih => exact Triple.bind (hgpu gpu notifTs) fun marks => ih marks

include h

theorem reads_newNotifs (fuel : Nat) (gpus : List Nat) (notifTs : List (Nat × Nat)) :
    Reads J (newNotifs api uninit fuel gpus notifTs) := by
  intro s hs
  have hcollect := collectNewNotifs_reads h.getValueSince fuel gpus notifTs
    ⟨s.daemon, uninit.nextTs, uninit.value, []⟩ hs
  revert hcollect
  unfold Cmd.exec newNotifs Cmd.exec
  rcases Dmon.collectNewNotifs api.rdcFieldGetValueSince fuel gpus notifTs
    ⟨s.daemon, uninit.nextTs, uninit.value, []⟩ with ⟨r, n⟩
  cases r with
  | ok marks => exact fun hn => ⟨fun heq => (by cases heq), n.daemon, hn, rfl⟩
  | error e => exact fun hn => ⟨fun heq => hn.1 (Except.error.inj heq), n.daemon, hn.2, rfl⟩

omit h in
theorem reads_printAndClrNotifPq (pushed : List NotifDevValue) :
    Reads J (printAndClrNotifPq (σ := σ) pushed) := by
  unfold printAndClrNotifPq
  split
  · exact Reads.pure _
  · exact Reads.thrown _

theorem reads_printFields (gpu : Nat) (fields : List Nat) :
    Reads J (printFields api gpu fields) := by
  induction fields with
  | nil => exact Reads.pure _
  | cons field fields ih =>
    unfold printFields
    refine (Reads.call (h.getLatestValue gpu field)).bind fun _ => ?_
    refine (Reads.call h.isTerminating).bind fun terminating => ?_
    split
    · exact Reads.pure _
    · exact ih

theorem reads_printGpus (regFields gpus : List Nat) : Reads J (printGpus api regFields gpus) := by
  induction gpus with
  | nil => exact Reads.pure _
  | cons gpu gpus ih =>
    unfold printGpus
    refine (reads_printFields h gpu regFields).bind fun terminating => ?_
    split
    · exact Reads.pure _
    · exact ih

theorem reads_monitorLoop (fuel : Nat) (gpus regFields : List Nat) (count : Nat)
    (notifTs : List (Nat × Nat)) :
    Reads J (monitorLoop api uninit fuel gpus regFields count notifTs) := by
  induction count generalizing notifTs with
  | zero => exact Reads.pure _
  | succ count ih =>
    unfold monitorLoop
    refine (reads_newNotifs h uninit fuel gpus notifTs).bind fun r => ?_
    refine (reads_printAndClrNotifPq r.2).bind fun _ => ?_
    refine (reads_printGpus h regFields gpus).bind fun terminating => ?_
    split
    · exact Reads.pure _
    · exact ih r.1

omit h in
theorem keeps_monitor (fuel : Nat) : Keeps (monitor api tables uninit fuel) := by
  have hread : ReadInv api fun _ => True :=
    ⟨fun _ _ _ _ _ _ _ => trivial, fun _ _ _ _ => trivial, fun _ _ => trivial⟩
  unfold monitor
  refine (Keeps.getMembers tables _ _ _ _ _).bind fun gpus => ?_
  refine (Keeps.getMembers tables _ _ _ _ _).bind fun fields => ?_
  refine (Keeps.optionAt _).bind fun delay => (Keeps.optionAt _).bind fun g => ?_
  refine (Keeps.optionAt _).bind fun fg => (Keeps.call _).bind fun _ => ?_
  refine Keeps.bind (Triple.update fun s hs => ?_) fun _ => ?_
  · exact ⟨fun id hid => ⟨(hs.gpuGroups id hid).1, (hs.gpuGroups id hid).2.1, rfl⟩,
      fun id hid => ⟨(hs.fieldGroups id hid).1, (hs.fieldGroups id hid).2.1, rfl⟩⟩
  · refine (reads_newNotifs hread uninit fuel gpus _).keeps.bind fun r => ?_
    refine (Keeps.optionAt _).bind fun n => ?_
    refine (reads_monitorLoop hread uninit fuel gpus _ n r.1).keeps.bind fun _ => ?_
    exact Triple.update fun s hs => (hs.cleanUp api).recorded

end Monitor

/-! ## The command line -/

/-- What is known after the command line was read: no group was made, and GPUs and fields were only
given where no group was. -/
structure Parsed (s : Dmon σ) : Prop where
  released : Released s
  gpuIndexes : s.gpuIndexes ≠ [] → s.options .groupId = none
  fieldIds : s.fieldIds ≠ [] → s.options .fieldGroupId = none

/-- Before the lists of `-e` and `-i` are looked at. -/
structure Unparsed (s : Dmon σ) : Prop where
  released : Released s
  gpuIndexes : s.gpuIndexes = []
  fieldIds : s.fieldIds = []

/-- How reading the command line may stop. -/
def StopsReleased (e : DmonStop) (s : Dmon σ) : Prop := e ≠ .overrun ∧ Released s

section Parse

variable {P : Dmon σ → Prop} {E : DmonStop → Dmon σ → Prop} {α : Type}

section Inv

variable (hE : ∀ e s, P s → E (.thrown e) s)
include hE

theorem triple_stoi (digits : List Char) : Triple P (stoi digits) (fun _ => P) E := by
  unfold stoi
  dsimp only
  split
  · exact Triple.pure fun _ h => h
  · exact Triple.stop (hE _)

theorem triple_numberOption (hoption : ∀ s option n, P s → P (s.insertOption option n))
    (option : DmonOption) (what : String) (optarg : List Char) :
    Triple P (numberOption option what optarg) (fun _ => P) E := by
  have hrest : Triple P (do
      let n ← stoi optarg
      Cmd.update fun s => s.insertOption option n) (fun _ => P) E :=
    Triple.bind (triple_stoi hE optarg) fun n => Triple.update fun s h => hoption s option n h
  unfold numberOption
  split
  · exact Triple.bind (Q := fun _ => P) (Triple.stop (hE _)) fun _ => hrest
  · exact hrest

theorem triple_parseLoop (hoption : ∀ s option n, P s → P (s.insertOption option n))
    (hops : ∀ s ops, P s → P { s with dmonOps := ops }) (args : List DmonArg)
    (fieldIds gpuIndexes : List Char) :
    Triple P (parseLoop args fieldIds gpuIndexes) (fun _ => P) E := by
  have hnumber := triple_numberOption hE hoption
  have hset : ∀ ops : DmonOps, Triple P (Cmd.update fun s => { s with dmonOps := ops })
      (fun _ => P) E := fun ops => Triple.update fun s h => hops s ops h
  induction args generalizing fieldIds gpuIndexes with
  | nil => exact Triple.pure fun _ h => h
  | cons arg rest ih =>
    cases arg with
    | help => exact Triple.bind (hset _) fun _ => Triple.pure fun _ h => h
    | host _ => exact ih _ _
    | unauth => exact ih _ _
    | timeStamp => exact ih _ _
    | list => exact Triple.bind (hset _) fun _ => ih _ _
    | listAll => exact Triple.bind (hset _) fun _ => ih _ _
    | fieldId _ => exact ih _ _
    | gpuIndex _ => exact ih _ _
    | unknown => exact Triple.stop (hE _)
    | _ => exact Triple.bind (hnumber _ _ _) fun _ => ih _ _

theorem triple_pushFieldIds (tables : DmonTables)
    (hpush : ∀ s fields, P s → P { s with fieldIds := fields }) (ids : List (List Char)) :
    Triple P (pushFieldIds tables ids) (fun _ => P) E := by
  induction ids with
  | nil => exact Triple.pure fun _ h => h
  | cons id rest ih =>
    unfold pushFieldIds
    split
    · split
      · exact Triple.bind (Q := fun _ => P) (Triple.stop (hE _)) fun _ => ih
      · exact Triple.bind (Triple.update fun s h => hpush s _ h) fun _ => ih
    · refine Triple.bind (triple_stoi hE id) fun field => ?_
      exact Triple.bind (Triple.update fun s h => hpush s _ h) fun _ => ih

theorem triple_pushGpuIndexes (hpush : ∀ s gpus, P s → P { s with gpuIndexes := gpus })
    (ids : List (List Char)) : Triple P (pushGpuIndexes ids) (fun _ => P) E := by
  induction ids with
  | nil => exact Triple.pure fun _ h => h
  | cons id rest ih =>
    have hrest : Triple P (do
        let gpu ← stoi id
        Cmd.update fun s => { s with gpuIndexes := s.gpuIndexes ++ [gpu] }
        pushGpuIndexes rest) (fun _ => P) E :=
      Triple.bind (triple_stoi hE id) fun gpu =>
        Triple.bind (Triple.update fun s h => hpush s _ h) fun _ => ih
    unfold pushGpuIndexes
    split
    · exact Triple.bind (Q := fun _ => P) (Triple.stop (hE _)) fun _ => hrest
    · exact hrest

theorem triple_checkNotBoth (option : DmonOption) (what : String) (optarg : List Char) :
    Triple P (checkNotBoth option what optarg) (fun _ => P) E := by
  unfold checkNotBoth
  refine Triple.bind (Q := fun _ => P) (Triple.read fun s h => h) fun both => ?_
  split
  · exact Triple.stop (hE _)
  · exact Triple.pure fun _ h => h

end Inv

theorem stopsReleased (hP : ∀ s, P s → Released s) (e : DmonError) (s : Dmon σ) (h : P s) :
    StopsReleased (.thrown e) s := ⟨by simp, hP s h⟩

/-- The fields are read before the GPUs. -/
def FieldsParsed (s : Dmon σ) : Prop :=
  Released s ∧ s.gpuIndexes = [] ∧ (s.fieldIds ≠ [] → s.options .fieldGroupId = none)

theorem triple_checkFieldIds (tables : DmonTables) (fieldIds : List Char) :
    Triple (Unparsed (σ := σ)) (checkFieldIds tables fieldIds) (fun _ => FieldsParsed)
      StopsReleased := by
  unfold checkFieldIds
  refine Triple.bind (Q := fun (b : Bool) s => Unparsed s ∧ b = (s.options .fieldGroupId).isNone)
    (Triple.read fun s h => ⟨h, rfl⟩) fun noGroup => ?_
  have hparsed : ∀ s : Dmon σ, Unparsed s → FieldsParsed s :=
    fun s h => ⟨h.released, h.gpuIndexes, fun hne => absurd h.fieldIds hne⟩
  split
  · rename_i hnone
    split
    · exact Triple.stop fun s h => ⟨by simp, h.1.released⟩
    · -- while fields are pushed there is no field group
      refine (triple_pushFieldIds (P := fun s => Released s ∧ s.gpuIndexes = []
        ∧ s.options .fieldGroupId = none) (stopsReleased fun _ h => h.1) tables (fun _ _ h => h)
        _).conseq ?_ ?_
      · intro s h
        refine ⟨h.1.released, h.1.gpuIndexes, ?_⟩
        rw [hnone] at h
        exact Option.isNone_iff_eq_none.mp h.2.symm
      · exact fun _ s h => ⟨h.1, h.2.1, fun _ => h.2.2⟩
  · exact Triple.pure fun s h => hparsed s h.1

theorem triple_checkGpuIndexes (gpuIndexes : List Char) :
    Triple (FieldsParsed (σ := σ)) (checkGpuIndexes gpuIndexes) (fun _ => Parsed)
      StopsReleased := by
  unfold checkGpuIndexes
  refine Triple.bind (Q := fun (b : Bool) s => FieldsParsed s ∧ b = (s.options .groupId).isNone)
    (Triple.read fun s h => ⟨h, rfl⟩) fun noGroup => ?_
  split
  · rename_i hnone
    split
    · exact Triple.stop fun s h => ⟨by simp, h.1.1⟩
    · refine (triple_pushGpuIndexes (P := fun s => Released s ∧ s.options .groupId = none
        ∧ (s.fieldIds ≠ [] → s.options .fieldGroupId = none)) (stopsReleased fun _ h => h.1)
        (fun _ _ h => h) _).conseq ?_ ?_
      · intro s h
        refine ⟨h.1.1, ?_, h.1.2.2⟩
        rw [hnone] at h
        exact Option.isNone_iff_eq_none.mp h.2.symm
      · exact fun _ s h => ⟨h.1, fun _ => h.2.1, h.2.2⟩
  · exact Triple.pure fun s h => ⟨h.1.1, fun hne => absurd h.1.2.1 hne, h.1.2.2⟩

theorem Parsed.insertOption {s : Dmon σ} (h : Parsed s) {option : DmonOption}
    (hgroup : option ≠ .groupId) (hfield : option ≠ .fieldGroupId) (value : Nat) :
    Parsed (s.insertOption option value) := by
  refine ⟨h.released, fun hne => ?_, fun hne => ?_⟩
  · exact (insertOption_other s hgroup.symm value).trans (h.gpuIndexes hne)
  · exact (insertOption_other s hfield.symm value).trans (h.fieldIds hne)

/-- **The command line.** -/
theorem triple_parseCmdOpts (tables : DmonTables) (args : List DmonArg) :
    Triple (Unparsed (σ := σ)) (parseCmdOpts tables args) (fun _ => Parsed) StopsReleased := by
  have hidle : ∀ s : Dmon σ, Unparsed s → Parsed s := fun s h =>
    ⟨h.released, fun hne => absurd h.gpuIndexes hne, fun hne => absurd h.fieldIds hne⟩
  unfold parseCmdOpts
  refine Triple.bind (triple_parseLoop (stopsReleased fun _ h => h.released)
    (fun _ _ _ h => ⟨h.released, h.gpuIndexes, h.fieldIds⟩)
    (fun _ _ h => ⟨h.released, h.gpuIndexes, h.fieldIds⟩) args [] []) fun opts => ?_
  split
  · exact Triple.pure fun s h => hidle s h
  · rename_i fieldIds gpuIndexes
    refine Triple.bind (Q := fun _ => Unparsed) (Triple.read fun s h => h) fun ops => ?_
    split
    · exact Triple.pure fun s h => hidle s h
    · exact Triple.pure fun s h => hidle s h
    · unfold checkOptions
      refine Triple.bind (triple_checkFieldIds tables fieldIds) fun _ => ?_
      refine Triple.bind (triple_checkGpuIndexes gpuIndexes) fun _ => ?_
      have hboth := triple_checkNotBoth (P := Parsed (σ := σ)) (stopsReleased fun _ h => h.released)
      refine Triple.bind (hboth _ _ _) fun _ => Triple.bind (hboth _ _ _) fun _ => ?_
      refine Triple.bind (Q := fun _ => Parsed) (Triple.update fun s h => ?_) fun _ => ?_
      · exact h.insertOption (by decide) (by decide) _
      · exact Triple.update fun s h => h.insertOption (by decide) (by decide) _

end Parse

/-! ## The temporary groups -/

theorem exec_call {α : Type} (f : σ → α × σ) (s : Dmon σ) :
    (Dmon.call f).exec s = (.ok (f s.daemon).1, { s with daemon := (f s.daemon).2 }) := rfl

section Groups

variable (api : RdcApi σ) (uninit : DmonLocals)

/-- The daemon takes every GPU into the group. -/
def AddsSucceed (groupId : Nat) : List Nat → σ → Prop
  | [], _ => True
  | gpu :: gpus, d =>
    (api.rdcGroupGpuAdd groupId gpu d).1 = .ok
      ∧ AddsSucceed groupId gpus (api.rdcGroupGpuAdd groupId gpu d).2

/-- The loop that adds changes the daemon only, and throws if the daemon turns a GPU down. -/
theorem addGpus_exec (groupId : Nat) (gpus : List Nat) (s : Dmon σ) :
    ∃ d, (AddsSucceed api groupId gpus s.daemon →
        (addGpus api groupId gpus).exec s = (.ok (), { s with daemon := d }))
      ∧ (¬ AddsSucceed api groupId gpus s.daemon →
        ∃ e, (addGpus api groupId gpus).exec s = (.error (.thrown e), { s with daemon := d })) := by
  induction gpus generalizing s with
  | nil => exact ⟨s.daemon, fun _ => rfl, fun h => absurd trivial h⟩
  | cons gpu gpus ih =>
    by_cases hok : (api.rdcGroupGpuAdd groupId gpu s.daemon).1 = .ok
    · obtain ⟨d, hall, hfail⟩ :=
        ih { s with daemon := (api.rdcGroupGpuAdd groupId gpu s.daemon).2 }
      have hstep : (addGpus api groupId (gpu :: gpus)).exec s = (addGpus api groupId gpus).exec
          { s with daemon := (api.rdcGroupGpuAdd groupId gpu s.daemon).2 } := by
        rw [addGpus, Cmd.exec_bind_ok (exec_call _ s)]
        dsimp only
        rw [if_neg (not_not_intro hok)]
      rw [hstep]
      exact ⟨d, fun h => hall h.2, fun h => hfail fun hrest => h ⟨hok, hrest⟩⟩
    · refine ⟨(api.rdcGroupGpuAdd groupId gpu s.daemon).2, fun h => absurd h.1 hok, fun _ => ?_⟩
      rw [addGpus, Cmd.exec_bind_ok (exec_call _ s)]
      dsimp only
      rw [if_pos hok]
      exact ⟨_, rfl⟩

variable {s : Dmon σ}

theorem createTempGroup_nil (h : s.gpuIndexes = []) :
    (createTempGroup api).exec s = (.ok (), s) := by
  unfold createTempGroup
  rw [Cmd.exec_bind_ok (Cmd.exec_read _ s), if_pos h]
  rfl

theorem createTempGroup_refused (h : s.gpuIndexes ≠ []) {failure : Failure} {d : σ}
    (hcreate : api.rdcGroupGpuCreate s.daemon = (.error failure, d)) :
    ∃ e, (createTempGroup api).exec s = (.error (.thrown e), { s with daemon := d }) := by
  unfold createTempGroup
  rw [Cmd.exec_bind_ok (Cmd.exec_read _ s), if_neg h, Cmd.exec_bind_ok (exec_call _ s), hcreate]
  exact ⟨_, rfl⟩

/-- The object with a group that it has just made. -/
def groupMade (s : Dmon σ) (groupId : Nat) (d : σ) : Dmon σ :=
  { s with daemon := d, needCleanup := true, gpuGroups := groupId :: s.gpuGroups }

theorem createTempGroup_made (h : s.gpuIndexes ≠ []) {groupId : Nat} {d : σ}
    (hcreate : api.rdcGroupGpuCreate s.daemon = (.ok groupId, d)) :
    ∃ d', (AddsSucceed api groupId s.gpuIndexes d → (createTempGroup api).exec s
          = (.ok (), (groupMade s groupId d').insertOption .groupId groupId))
      ∧ (¬ AddsSucceed api groupId s.gpuIndexes d → ∃ e, (createTempGroup api).exec s
          = (.error (.thrown e), groupMade s groupId d')) := by
  have hstep : (createTempGroup api).exec s = (do
      addGpus api groupId s.gpuIndexes
      Cmd.update fun s => s.insertOption .groupId groupId).exec (groupMade s groupId d) := by
    unfold createTempGroup
    rw [Cmd.exec_bind_ok (Cmd.exec_read _ s), if_neg h, Cmd.exec_bind_ok (exec_call _ s), hcreate]
    rfl
  obtain ⟨d', hall, hfail⟩ := addGpus_exec api groupId s.gpuIndexes (groupMade s groupId d)
  refine ⟨d', fun hadds => ?_, fun hadds => ?_⟩
  · rw [hstep, Cmd.exec_bind_ok (hall hadds)]
    rfl
  · obtain ⟨e, hexec⟩ := hfail hadds
    exact ⟨e, by rw [hstep, Cmd.exec_bind_error hexec]; rfl⟩

/-- Everything is recorded, and a field group can still be. -/
structure FieldsReady (s : Dmon σ) : Prop where
  recorded : Recorded s
  fieldGroups : s.fieldGroups = []
  fieldIds : s.fieldIds ≠ [] → s.options .fieldGroupId = none

theorem Parsed.fieldsReady (h : Parsed s) : FieldsReady s :=
  ⟨h.released.recorded, h.released.2, h.fieldIds⟩

theorem Parsed.groupMade (h : Parsed s) (hgpus : s.gpuIndexes ≠ []) (groupId : Nat) (d : σ) :
    FieldsReady ((groupMade s groupId d).insertOption .groupId groupId) := by
  refine ⟨⟨?_, ?_⟩, h.released.2, fun hne => ?_⟩
  · intro id hid
    have hone : id ∈ groupId :: s.gpuGroups := hid
    rw [h.released.1, List.mem_singleton] at hone
    subst hone
    refine ⟨(insertOption_self ..).trans ?_, hgpus, rfl⟩
    exact congrArg (Option.or · (some id)) (h.gpuIndexes hgpus)
  · intro id hid
    have hnone : id ∈ s.fieldGroups := hid
    rw [h.released.2] at hnone
    exact absurd hnone List.not_mem_nil
  · exact (insertOption_other _ (by decide) _).trans (h.fieldIds hne)

theorem createTempFieldGroup_overrun (h : rdcMaxFieldIdsPerFieldGroup < s.fieldIds.length) :
    (createTempFieldGroup api uninit).exec s = (.error .overrun, s) := by
  have hne : s.fieldIds ≠ [] := by
    intro hnil
    rw [hnil] at h
    exact absurd h (Nat.not_lt_zero _)
  unfold createTempFieldGroup
  rw [Cmd.exec_bind_ok (Cmd.exec_read _ s), if_neg hne, copyFieldIds_eq, if_neg (by omega)]
  rfl

theorem triple_createTempFieldGroup :
    Triple (fun s : Dmon σ => FieldsReady s ∧ s.fieldIds.length ≤ rdcMaxFieldIdsPerFieldGroup)
      (createTempFieldGroup api uninit) (fun _ => Recorded) StopsRecorded := by
  unfold createTempFieldGroup
  refine Triple.bind (Q := fun ids s => FieldsReady s
      ∧ s.fieldIds.length ≤ rdcMaxFieldIdsPerFieldGroup ∧ ids = s.fieldIds)
    (Triple.read fun s h => ⟨h.1, h.2, rfl⟩) fun ids => ?_
  split
  · exact Triple.pure fun _ h => h.1.recorded
  · rename_i hne
    intro s h
    obtain ⟨hready, hlen, rfl⟩ := h
    rw [copyFieldIds_eq, if_pos hlen]
    refine Triple.bind (P := fun s' : Dmon σ => FieldsReady s' ∧ s'.fieldIds = s.fieldIds)
      (Q := fun _ s' => FieldsReady s' ∧ s'.fieldIds = s.fieldIds) ?_ (fun r => ?_) s ⟨hready, rfl⟩
    · exact Triple.atomic fun s' h' =>
        ⟨⟨⟨h'.1.recorded.gpuGroups, h'.1.recorded.fieldGroups⟩, h'.1.fieldGroups, h'.1.fieldIds⟩,
          h'.2⟩
    · cases r with
      | error failure => exact Triple.stop fun s' h' => ⟨by simp, h'.1.recorded⟩
      | ok groupId =>
        intro s' h'
        obtain ⟨hready', hids⟩ := h'
        refine ⟨?_, ?_⟩
        · intro id hid
          obtain ⟨hoption, hgpus, _⟩ := hready'.recorded.gpuGroups id hid
          exact ⟨(insertOption_other _ (by decide) _).trans hoption, hgpus, rfl⟩
        · intro id hid
          have hone : id ∈ groupId :: s'.fieldGroups := hid
          rw [hready'.fieldGroups, List.mem_singleton] at hone
          subst hone
          have hne' : s'.fieldIds ≠ [] := by rw [hids]; exact hne
          refine ⟨(insertOption_self ..).trans ?_, hne', rfl⟩
          exact congrArg (Option.or · (some id)) (hready'.fieldIds hne')

end Groups

/-! ## The whole life of the object -/

section Life

variable (api : RdcApi σ) (tables : DmonTables) (uninit : DmonLocals)

/-- When the object is gone, so are its groups. A program that has written over the end of an array
can do anything; one that is still in a loop has not got to the destructor. -/
def EndsReleased : Except DmonStop Unit × Dmon σ → Prop
  | (.error .overrun, _) => False
  | (.error .unfinished, _) => True
  | (.error (.thrown _), s) => Released s
  | (.ok (), s) => Released s

/-- However long the loops run, no group is left behind. -/
def ReleasesGroups (args : List DmonArg) (daemon : σ) : Prop :=
  ∀ fuel, EndsReleased (lifetime api tables uninit fuel args daemon)

/-- The daemon completes the group it has made, and if the program gets to the fields, there are not
too many. -/
def GroupsKept (s : Dmon σ) : Prop :=
  (s.gpuIndexes ≠ [] → ∀ groupId d, api.rdcGroupGpuCreate s.daemon = (.ok groupId, d) →
      AddsSucceed api groupId s.gpuIndexes d)
  ∧ ((s.gpuIndexes ≠ [] → ∃ groupId d, api.rdcGroupGpuCreate s.daemon = (.ok groupId, d)) →
      s.fieldIds.length ≤ rdcMaxFieldIdsPerFieldGroup)

variable {api tables uninit} {s : Dmon σ}

theorem endsReleased_of_recorded {P : Dmon σ → Prop} {x : Cmd DmonStop (Dmon σ) Unit}
    (h : Triple P x (fun _ => Recorded) StopsRecorded) (hs : P s) :
    EndsReleased ((x.exec s).1, cleanUp api (x.exec s).2) := by
  have hx := h s hs
  revert hx
  rcases x.exec s with ⟨r, s'⟩
  cases r with
  | ok a => exact fun hrec => hrec.cleanUp api
  | error e =>
    cases e with
    | thrown e => exact fun hrec => hrec.2.cleanUp api
    | overrun => exact fun hrec => absurd rfl hrec.1
    | unfinished => exact fun _ => trivial

/-- The groups, and then the monitoring. -/
def monitorFrom (api : RdcApi σ) (tables : DmonTables) (uninit : DmonLocals) (fuel : Nat) :
    Cmd DmonStop (Dmon σ) Unit := do
  createTempGroup api
  createTempFieldGroup api uninit
  monitor api tables uninit fuel

theorem endsReleased_fields (hready : FieldsReady s) {s₀ : Dmon σ} (fuel : Nat)
    (hgroup : (createTempGroup api).exec s₀ = (.ok (), s)) :
    EndsReleased (((monitorFrom api tables uninit fuel).exec s₀).1,
        cleanUp api ((monitorFrom api tables uninit fuel).exec s₀).2)
      ↔ s.fieldIds.length ≤ rdcMaxFieldIdsPerFieldGroup := by
  unfold monitorFrom
  rw [Cmd.exec_bind_ok hgroup]
  constructor
  · intro h
    by_contra hlong
    rw [Cmd.exec_bind_error (createTempFieldGroup_overrun api uninit (Nat.lt_of_not_le hlong))] at h
    exact h
  · intro hle
    exact endsReleased_of_recorded (Triple.bind (triple_createTempFieldGroup api uninit)
      fun _ => keeps_monitor tables uninit fuel) ⟨hready, hle⟩

/-- **The groups are released exactly if they are kept.** -/
theorem endsReleased_monitorFrom (hparsed : Parsed s) (fuel : Nat) :
    EndsReleased (((monitorFrom api tables uninit fuel).exec s).1,
        cleanUp api ((monitorFrom api tables uninit fuel).exec s).2) ↔ GroupsKept api s := by
  by_cases hgpus : s.gpuIndexes = []
  · rw [endsReleased_fields hparsed.fieldsReady fuel (createTempGroup_nil api hgpus)]
    exact ⟨fun hle => ⟨fun hne => absurd hgpus hne, fun _ => hle⟩,
      fun h => h.2 fun hne => absurd hgpus hne⟩
  · rcases hcreate : api.rdcGroupGpuCreate s.daemon with ⟨r, d⟩
    cases r with
    | error failure =>
      -- the daemon has no room for a group, and the exception ends it
      obtain ⟨e, hexec⟩ := createTempGroup_refused api hgpus hcreate
      have hend : (monitorFrom api tables uninit fuel).exec s
          = (.error (.thrown e), { s with daemon := d }) := Cmd.exec_bind_error hexec
      rw [hend]
      refine iff_of_true ?_ ⟨?_, ?_⟩
      · exact Recorded.cleanUp (s := { s with daemon := d })
          ⟨hparsed.released.recorded.gpuGroups, hparsed.released.recorded.fieldGroups⟩ api
      · intro _ groupId d' hok
        exact absurd (hcreate.symm.trans hok) (by simp)
      · intro hmade
        obtain ⟨groupId, d', hok⟩ := hmade hgpus
        exact absurd (hcreate.symm.trans hok) (by simp)
    | ok groupId =>
      obtain ⟨d', hall, hfail⟩ := createTempGroup_made api hgpus hcreate
      by_cases hadds : AddsSucceed api groupId s.gpuIndexes d
      · rw [endsReleased_fields (hparsed.groupMade hgpus groupId d') fuel (hall hadds)]
        refine ⟨fun hle => ⟨?_, fun _ => hle⟩, fun h => h.2 fun _ => ⟨groupId, d, hcreate⟩⟩
        intro _ groupId' d'' hok
        obtain ⟨hid, hd⟩ := Prod.mk.inj (hcreate.symm.trans hok)
        rw [← Except.ok.inj hid, ← hd]
        exact hadds
      · -- the new group is not in the options, so nobody destroys it
        obtain ⟨e, hexec⟩ := hfail hadds
        have hend : (monitorFrom api tables uninit fuel).exec s
            = (.error (.thrown e), groupMade s groupId d') := Cmd.exec_bind_error hexec
        rw [hend]
        refine iff_of_false ?_ fun h => hadds (h.1 hgpus groupId d hcreate)
        intro hreleased
        have hleft := (cleanUp_groups api (s := groupMade s groupId d') rfl).1.symm.trans
          hreleased.1
        rw [List.filter_eq_nil_iff] at hleft
        have hin := hleft groupId (List.mem_cons_self ..)
        have hnone : (groupMade s groupId d').options .groupId = none := hparsed.gpuIndexes hgpus
        simp [hnone] at hin

/-- **`rdci dmon` releases its groups exactly if** the command line is turned away or asks for no
monitoring, or the daemon completes the group it has made for it and there are not too many fields.
-/
theorem releasesGroups_iff (api : RdcApi σ) (tables : DmonTables) (uninit : DmonLocals)
    (args : List DmonArg) (daemon : σ) :
    ReleasesGroups api tables uninit args daemon ↔
      ∀ s, (parseCmdOpts tables args).exec (Dmon.init daemon) = (.ok (), s) →
        s.dmonOps = .monitor → GroupsKept api s := by
  have hparse := triple_parseCmdOpts tables args (Dmon.init daemon) ⟨⟨rfl, rfl⟩, rfl, rfl⟩
  unfold ReleasesGroups lifetime Dmon.main
  dsimp only
  rcases hexec : (parseCmdOpts tables args).exec (Dmon.init daemon) with ⟨r, s⟩
  rw [hexec] at hparse
  cases r with
  | error e =>
    refine iff_of_true (fun fuel => ?_) (fun s' h => absurd h (by simp))
    rw [Cmd.exec_bind_error hexec]
    obtain ⟨hrun, hreleased⟩ := hparse
    cases e with
    | thrown e => exact hreleased.recorded.cleanUp api
    | overrun => exact absurd rfl hrun
    | unfinished => trivial
  | ok u =>
    have hone : (∀ s', ((Except.ok () : Except DmonStop Unit), s) = (.ok (), s') →
        s'.dmonOps = .monitor → GroupsKept api s')
        ↔ (s.dmonOps = .monitor → GroupsKept api s) :=
      ⟨fun h => h s rfl, fun h s' heq => by obtain rfl := (Prod.mk.inj heq).2; exact h⟩
    rw [hone]
    simp only [Cmd.exec_bind_ok hexec]
    unfold process
    simp only [Cmd.exec_bind_ok (Cmd.exec_read _ s)]
    cases hops : s.dmonOps with
    | monitor =>
      have hall : ∀ fuel, EndsReleased (((monitorFrom api tables uninit fuel).exec s).1,
          cleanUp api ((monitorFrom api tables uninit fuel).exec s).2) ↔ GroupsKept api s :=
        fun fuel => endsReleased_monitorFrom hparse fuel
      exact ⟨fun h _ => (hall 0).mp (h 0), fun h fuel => (hall fuel).mpr (h rfl)⟩
    | _ => exact iff_of_true (fun _ => hparse.released.recorded.cleanUp api) (by simp)

/-- A daemon that makes group `7` and knows no GPU. -/
def noGpus : RdcApi Unit where
  rdcGroupGpuCreate _ := (.ok 7, ())
  rdcGroupGpuAdd _ _ _ := (.notFound, ())
  rdcGroupFieldCreate _ _ := (.ok 8, ())
  rdcGroupGpuGetInfo _ _ := (.ok [], ())
  rdcGroupFieldGetInfo _ _ := (.ok [], ())
  rdcFieldWatch _ _ _ _ _ _ := (.ok, ())
  rdcFieldUnwatch _ _ _ := (.ok, ())
  rdcFieldGetValueSince _ _ _ nextTs value _ := ((.notFound, nextTs, value), ())
  rdcFieldGetLatestValue _ _ _ := (.error ⟨.notFound, by decide⟩, ())
  rdcGroupGpuDestroy _ _ := ()
  rdcGroupFieldDestroy _ _ := ()
  isTerminating _ := (false, ())

/-- `rdci dmon -i 99 -e 150`: the GPU is turned down, and group `7` stays. -/
theorem not_releasesGroups_unknownGpu :
    ¬ ReleasesGroups noGpus ⟨fun _ => none, fun _ => ""⟩
      ⟨Vector.replicate _ 0, 0, ⟨0, 0, 0, .integer, .lInt 0⟩⟩
      [.gpuIndex ['9', '9'], .fieldId ['1', '5', '0']] () := by
  intro h
  have hleft : Released _ := h 0
  exact absurd hleft.1 (by decide +kernel)

end Life

end Rdc.Proof
