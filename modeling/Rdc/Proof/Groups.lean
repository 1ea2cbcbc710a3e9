import Rdc.Proof.Calls

/-!
# What calls do to the groups an entry names

A watch table entry names two groups, and the group store does not know about it. A GPU group can
grow, disappear, and come back empty if its id is issued again; a field group can do all but grow
(`exec_gpuGroup`, `exec_fieldGroup`). The rest of the file is what this means for an entry: when its
two groups stay as they are, and when it stays dead once one of them is gone. The job field group is
the one that nothing can touch.
-/

namespace Rdc.Proof

open Std Daemon OrdMap Machine

/-! ## One id of the store -/

variable {tel : Telemetry} {d : Daemon} {op : Op} {e : RdcFieldGroupKey}

theorem exec_groupSettings (h : ¬ GroupCall op) :
    (d.exec tel op).2.groupSettings = d.groupSettings := by
  have hinv : TableInv tel (fun _ _ => True) (fun d' => d'.groupSettings = d.groupSettings) := {
    frame := fun hd hs => hs.1.trans hd
    watch := fun _ _ _ _ _ hd => (rdcFieldWatch_sameStores ..).1.trans hd
    unwatch := fun _ _ _ _ hd => (rdcFieldUnwatch_sameStores ..).1.trans hd
    deliver := fun _ _ _ hd => hd
    cleanUp := fun _ hd => hd
    harmless_frame := fun _ _ => trivial
    harmless_unwatch := fun _ _ _ _ => trivial }
  exact hinv.exec rfl (fun _ _ => trivial) (fun hg => absurd hg h)

theorem exec_groupCall (tel : Telemetry) (d : Daemon) (h : GroupCall op) :
    ∃ gs, (d.exec tel op).2 = { d with groupSettings := gs } := by
  cases op <;> first | exact ⟨_, rfl⟩ | exact absurd h id

theorem getElem?_emplace {ν : Type} (m : IdMap ν) (k a : Nat) (v : ν) :
    (m.insertIfNew k v)[a]? = m[a]? ∨ (m[a]? = none ∧ a = k) := by
  by_cases hk : k = a
  · subst hk
    cases hm : m[k]? with
    | none => exact Or.inr ⟨rfl, rfl⟩
    | some v' =>
      left
      have hmem : k ∈ m := mem_of_getElem? hm
      rw [ExtTreeMap.getElem?_insertIfNew, if_neg (fun h => h.2 hmem), hm]
  · left
    rw [ExtTreeMap.getElem?_insertIfNew]
    simp [hk]

/-- What one call does to the store: nothing, or what the one call of its kind does that got past
its checks. -/
inductive StoreStep (gs : GroupSettings) : Op → GroupSettings → Prop where
  | same (op : Op) : StoreStep gs op gs
  | gpuCreate (name : List UInt8) (info : RdcGroupInfo) : StoreStep gs (.groupGpuCreate name)
      { gs with
        gpuGroup := gs.gpuGroup.insertIfNew gs.curGroupId info
        curGroupId := u32Succ gs.curGroupId }
  | gpuAdd (g gpu : Nat) (info info' : RdcGroupInfo) (known : gs.gpuGroup[g]? = some info)
      (grows : ∀ i ∈ info.entityIds, i ∈ info'.entityIds) :
      StoreStep gs (.groupGpuAdd g gpu) { gs with gpuGroup := gs.gpuGroup.insert g info' }
  | gpuDestroy (g : Nat) :
      StoreStep gs (.groupGpuDestroy g) { gs with gpuGroup := gs.gpuGroup.erase g }
  | fieldCreate (fields : List Nat) (name : List UInt8) (info : RdcFieldGroupInfo) :
      StoreStep gs (.groupFieldCreate fields name)
        { gs with
          fieldGroup := gs.fieldGroup.insertIfNew gs.curFieldGroupId info
          curFieldGroupId := u32Succ gs.curFieldGroupId }
  | fieldDestroy (fg : Nat) (notJob : fg ≠ jobFieldId) :
      StoreStep gs (.groupFieldDestroy fg) { gs with fieldGroup := gs.fieldGroup.erase fg }

theorem exec_storeStep (tel : Telemetry) (d : Daemon) (op : Op) :
    StoreStep d.groupSettings op (d.exec tel op).2.groupSettings := by
  by_cases hop : GroupCall op
  swap
  · rw [exec_groupSettings hop]
    exact .same op
  cases op with
  | groupGpuCreate name =>
    show StoreStep _ _ (d.groupSettings.rdcGroupGpuCreate name).2.2
    unfold GroupSettings.rdcGroupGpuCreate
    split
    · exact .same _
    · exact .gpuCreate name _
  | groupGpuAdd g gpu =>
    show StoreStep _ _ (d.groupSettings.rdcGroupGpuAdd g gpu).2
    unfold GroupSettings.rdcGroupGpuAdd
    split
    · exact .same _
    · rename_i info hinfo
      split
      · exact .same _
      · split
        · exact .gpuAdd g gpu info _ hinfo fun i hi => List.mem_append_left _ hi
        · exact .same _
  | groupGpuDestroy g =>
    show StoreStep _ _ (d.groupSettings.rdcGroupGpuDestroy g).2
    unfold GroupSettings.rdcGroupGpuDestroy
    split
    · exact .gpuDestroy g
    · exact .same _
  | groupFieldCreate fields name =>
    show StoreStep _ _ (d.groupSettings.rdcGroupFieldCreate fields name).2.2
    unfold GroupSettings.rdcGroupFieldCreate
    split
    · split
      · exact .same _
      · exact .fieldCreate fields name _
    · exact .same _
  | groupFieldDestroy fg =>
    show StoreStep _ _ (d.groupSettings.rdcGroupFieldDestroy fg).2
    unfold GroupSettings.rdcGroupFieldDestroy
    split
    · exact .same _
    · rename_i hjob
      split
      · exact .fieldDestroy fg hjob
      · exact .same _
  | _ => exact absurd hop id

/-- A GPU group stays as it is, grows, is destroyed, or is created under a free id. -/
theorem exec_gpuGroup (tel : Telemetry) (d : Daemon) (op : Op) (a : Nat) :
    (d.exec tel op).2.groupSettings.gpuGroup[a]? = d.groupSettings.gpuGroup[a]?
    ∨ (∃ gpu info info', op = .groupGpuAdd a gpu ∧ d.groupSettings.gpuGroup[a]? = some info
        ∧ (d.exec tel op).2.groupSettings.gpuGroup[a]? = some info'
        ∧ ∀ i ∈ info.entityIds, i ∈ info'.entityIds)
    ∨ (op = .groupGpuDestroy a ∧ (d.exec tel op).2.groupSettings.gpuGroup[a]? = none)
    ∨ (∃ name, op = .groupGpuCreate name ∧ d.groupSettings.gpuGroup[a]? = none
        ∧ a = d.groupSettings.curGroupId) := by
  have hstep := exec_storeStep tel d op
  generalize (d.exec tel op).2.groupSettings = gs' at hstep
  cases hstep with
  | gpuCreate name info =>
    rcases getElem?_emplace d.groupSettings.gpuGroup d.groupSettings.curGroupId a info with
      h | ⟨h, ha⟩
    · exact Or.inl h
    · exact Or.inr (Or.inr (Or.inr ⟨name, rfl, h, ha⟩))
  | gpuAdd g gpu info info' hinfo hgrows =>
    by_cases hga : g = a
    · subst hga
      exact Or.inr (Or.inl
        ⟨gpu, info, info', rfl, hinfo, (getElem?_insert' ..).trans (if_pos rfl), hgrows⟩)
    · exact Or.inl ((getElem?_insert' ..).trans (if_neg hga))
  | gpuDestroy g =>
    by_cases hga : g = a
    · subst hga
      exact Or.inr (Or.inr (Or.inl ⟨rfl, (getElem?_erase' ..).trans (if_pos rfl)⟩))
    · exact Or.inl ((getElem?_erase' ..).trans (if_neg hga))
  | _ => exact Or.inl rfl

/-- A field group stays as it is, is destroyed unless it is the job field group, or is created
under a free id. -/
theorem exec_fieldGroup (tel : Telemetry) (d : Daemon) (op : Op) (a : Nat) :
    (d.exec tel op).2.groupSettings.fieldGroup[a]? = d.groupSettings.fieldGroup[a]?
    ∨ (op = .groupFieldDestroy a ∧ a ≠ jobFieldId
        ∧ (d.exec tel op).2.groupSettings.fieldGroup[a]? = none)
    ∨ (∃ fields name, op = .groupFieldCreate fields name ∧ d.groupSettings.fieldGroup[a]? = none
        ∧ a = d.groupSettings.curFieldGroupId) := by
  have hstep := exec_storeStep tel d op
  generalize (d.exec tel op).2.groupSettings = gs' at hstep
  cases hstep with
  | fieldCreate fields name info =>
    rcases getElem?_emplace d.groupSettings.fieldGroup d.groupSettings.curFieldGroupId a info with
      h | ⟨h, ha⟩
    · exact Or.inl h
    · exact Or.inr (Or.inr ⟨fields, name, rfl, h, ha⟩)
  | fieldDestroy fg hjob =>
    by_cases hga : fg = a
    · subst hga
      exact Or.inr (Or.inl ⟨rfl, hjob, (getElem?_erase' ..).trans (if_pos rfl)⟩)
    · exact Or.inl ((getElem?_erase' ..).trans (if_neg hga))
  | _ => exact Or.inl rfl

/-! ## The groups of one entry -/

/-- The call extends or destroys a group that `e` names. -/
def Touches (e : RdcFieldGroupKey) : Op → Prop
  | .groupGpuAdd groupId _ => e.1 = groupId
  | .groupGpuDestroy groupId => e.1 = groupId
  | .groupFieldDestroy fieldGroupId => e.2 = fieldGroupId
  | _ => False

/-- The call issues an id that `e` names. -/
def Reissues (d : Daemon) (e : RdcFieldGroupKey) : Op → Prop
  | .groupGpuCreate _ => e.1 = d.groupSettings.curGroupId
  | .groupFieldCreate _ _ => e.2 = d.groupSettings.curFieldGroupId
  | _ => False

theorem live_iff {gs : GroupSettings} :
    gs.Live e ↔ gs.gpuGroup[e.1]? ≠ none ∧ gs.fieldGroup[e.2]? ≠ none := by
  unfold GroupSettings.Live
  rw [ne_eq, ne_eq, ← not_mem_iff_getElem?, ← not_mem_iff_getElem?, not_not, not_not]

/-- While nobody touches them, the groups of a live entry stay what they are. -/
theorem sameGroups_of_not_touches (tel : Telemetry) (hl : d.groupSettings.Live e)
    (ht : ¬ Touches e op) :
    (d.exec tel op).2.groupSettings.gpuGroup[e.1]? = d.groupSettings.gpuGroup[e.1]?
    ∧ (d.exec tel op).2.groupSettings.fieldGroup[e.2]? = d.groupSettings.fieldGroup[e.2]? := by
  rw [live_iff] at hl
  refine ⟨?_, ?_⟩
  · rcases exec_gpuGroup tel d op e.1 with h | ⟨gpu, _, _, hop, _⟩ | ⟨hop, _⟩ | ⟨_, _, hnone, _⟩
    · exact h
    · rw [hop] at ht; exact absurd rfl ht
    · rw [hop] at ht; exact absurd rfl ht
    · exact absurd hnone hl.1
  · rcases exec_fieldGroup tel d op e.2 with h | ⟨hop, _⟩ | ⟨_, _, _, hnone, _⟩
    · exact h
    · rw [hop] at ht; exact absurd rfl ht
    · exact absurd hnone hl.2

theorem live_exec (hl : d.groupSettings.Live e) (ht : ¬ Touches e op) :
    (d.exec tel op).2.groupSettings.Live e := by
  obtain ⟨h1, h2⟩ := sameGroups_of_not_touches tel hl ht
  rw [live_iff, h1, h2, ← live_iff]
  exact hl

theorem covers_exec (hl : d.groupSettings.Live e) (ht : ¬ Touches e op) (k : RdcFieldKey) :
    (d.exec tel op).2.groupSettings.Covers e k ↔ d.groupSettings.Covers e k := by
  obtain ⟨h1, h2⟩ := sameGroups_of_not_touches tel hl ht
  unfold GroupSettings.Covers
  rw [h1, h2]

/-- An entry goes on covering what it covers, or is dead. -/
theorem covers_exec_of_live {k : RdcFieldKey} (hc : d.groupSettings.Covers e k)
    (hl : (d.exec tel op).2.groupSettings.Live e) : (d.exec tel op).2.groupSettings.Covers e k := by
  obtain ⟨ginfo, finfo, hg, hf, hk1, hk2⟩ := hc
  rw [live_iff] at hl
  have hf' : (d.exec tel op).2.groupSettings.fieldGroup[e.2]? = some finfo := by
    rcases exec_fieldGroup tel d op e.2 with h | ⟨_, _, h⟩ | ⟨_, _, _, hnone, _⟩
    · rw [h, hf]
    · exact absurd h hl.2
    · rw [hf] at hnone; simp at hnone
  rcases exec_gpuGroup tel d op e.1 with h | ⟨_, info, info', _, hi, h, hsub⟩ | ⟨_, h⟩ |
    ⟨_, _, hnone, _⟩
  · exact ⟨ginfo, finfo, by rw [h, hg], hf', hk1, hk2⟩
  · rw [hg] at hi
    refine ⟨info', finfo, h, hf', hsub k.1 ?_, hk2⟩
    rw [← Option.some.inj hi]
    exact hk1
  · exact absurd h hl.1
  · rw [hg] at hnone; simp at hnone

/-- A dead entry stays dead until one of its ids is issued again. -/
theorem not_live_exec (hl : ¬ d.groupSettings.Live e) (hr : ¬ Reissues d e op) :
    ¬ (d.exec tel op).2.groupSettings.Live e := by
  intro hl'
  refine hl ?_
  rw [live_iff] at hl' ⊢
  refine ⟨?_, ?_⟩
  · rcases exec_gpuGroup tel d op e.1 with h | ⟨_, info, _, _, hi, _⟩ | ⟨_, h⟩ |
      ⟨_, hop, _, hcur⟩
    · rw [← h]; exact hl'.1
    · rw [hi]; simp
    · exact absurd h hl'.1
    · rw [hop] at hr; exact absurd hcur hr
  · rcases exec_fieldGroup tel d op e.2 with h | ⟨_, _, h⟩ | ⟨_, _, hop, _, hcur⟩
    · rw [← h]; exact hl'.2
    · exact absurd h hl'.2
    · rw [hop] at hr; exact absurd hcur hr

end Rdc.Proof
