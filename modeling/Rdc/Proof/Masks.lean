import Rdc.Notification
import Rdc.Proof.Summary

/-!
# Whose events a GPU reports

The driver keeps one mask for each GPU, and several watches may want events of it. A watch gives the
driver the mask made of its own fields, and an unwatch clears the mask, so what other watches on the
same GPU want is lost either way. The mask is the union of what is watched, all along a run, exactly
when no call meets another watch it would undo: a watch whose events include those of everybody else
on its GPUs, an unwatch of the last one (`masks_union_iff`).

Masks are compared bit by bit. A bit is wanted when a watching entry covers the field it stands for.
-/

namespace Rdc.Proof

open Std (ExtTreeMap)
open Daemon OrdMap Machine Notification

/-! ## Bits -/

/-- The bit of an event field. -/
def eventBit (field : Nat) : Option Nat :=
  (rdc2SmiEventNotifMap field).map fun event => event.index - 1

/-- The mask with the bit of one field. -/
def fieldMask (field : Nat) : Nat :=
  match rdc2SmiEventNotifMap field with
  | some event => amdsmiEventMaskFromIndex event.index
  | none => 0

/-- The mask with the bits of all fields of a list. -/
def fieldsMask (fields : List Nat) : Nat :=
  fields.foldl (fun mask field => mask ||| fieldMask field) 0

theorem eventBit_isSome (field : Nat) :
    (eventBit field).isSome = true ↔ isNotificationEvent field = true := by
  unfold eventBit
  rw [Option.isSome_map, isNotificationEvent_iff]

theorem eventBit_inj {field field' i : Nat} (h : eventBit field = some i)
    (h' : eventBit field' = some i) : field = field' := by
  obtain ⟨event, he, hi⟩ := Option.map_eq_some_iff.mp h
  obtain ⟨event', he', hi'⟩ := Option.map_eq_some_iff.mp h'
  have heq : event = event' := by
    cases event <;> cases event' <;> simp_all [SmiEvent.index] <;> omega
  rw [rdc2SmiEventNotifMap_eq_some.mp he, rdc2SmiEventNotifMap_eq_some.mp he', heq]

theorem testBit_eventMask (event : SmiEvent) (i : Nat) :
    (amdsmiEventMaskFromIndex event.index).testBit i = true ↔ event.index - 1 = i := by
  unfold amdsmiEventMaskFromIndex
  rw [Nat.one_shiftLeft, Nat.testBit_two_pow, decide_eq_true_eq]

theorem testBit_fieldMask (field i : Nat) :
    (fieldMask field).testBit i = true ↔ eventBit field = some i := by
  unfold fieldMask eventBit
  cases rdc2SmiEventNotifMap field with
  | none => simp
  | some event => simpa using testBit_eventMask event i

theorem testBit_fieldsMask (fields : List Nat) (i : Nat) :
    (fieldsMask fields).testBit i = true ↔ ∃ field ∈ fields, eventBit field = some i := by
  have hloop : ∀ (fields : List Nat) (mask : Nat),
      (fields.foldl (fun mask field => mask ||| fieldMask field) mask).testBit i = true
        ↔ mask.testBit i = true ∨ ∃ field ∈ fields, eventBit field = some i := by
    intro fields
    induction fields with
    | nil => simp
    | cons field fields ih =>
      intro mask
      rw [List.foldl_cons, ih, Nat.testBit_or, Bool.or_eq_true, testBit_fieldMask, or_assoc]
      simp
  unfold fieldsMask
  rw [hloop]
  simp

/-! ## The two functions of the module, when everything succeeds -/

/-- One turn of the loop of `set_listen_events`. -/
def noteMask (n : Notification) (p : Nat × Nat) : Notification :=
  if p.2 = n.gpuEvntNotifMasks[p.1]?.getD 0 then n
  else ⟨n.gpuEvntNotifMasks.insert p.1 p.2, n.smiMasks.insert p.1 p.2⟩

theorem setMasks_success (masks : List (Nat × Nat)) (n : Notification) :
    setMasks SmiAnswers.success masks n = (.ok, masks.foldl noteMask n) := by
  induction masks generalizing n with
  | nil => rfl
  | cons p masks ih =>
    rw [setMasks, List.foldl_cons]
    unfold noteMask
    split
    · exact ih n
    · simp only [SmiAnswers.success, Bool.true_eq_false, if_false]
      exact ih _

/-- The library has what the module has noted. -/
def Synced (n : Notification) : Prop :=
  ∀ gpu : Nat, n.gpuEvntNotifMasks[gpu]?.getD 0 = n.smiMask gpu

theorem noteMask_masks (n : Notification) (p : Nat × Nat) (gpu : Nat) :
    ((noteMask n p).gpuEvntNotifMasks[gpu]?.getD 0, (noteMask n p).smiMask gpu)
      = if p.1 = gpu then
          if p.2 = n.gpuEvntNotifMasks[gpu]?.getD 0 then
            (n.gpuEvntNotifMasks[gpu]?.getD 0, n.smiMask gpu)
          else (p.2, p.2)
        else (n.gpuEvntNotifMasks[gpu]?.getD 0, n.smiMask gpu) := by
  unfold noteMask smiMask
  by_cases hp : p.1 = gpu
  · rw [if_pos hp, ← hp]
    split
    · rfl
    · simp only [getElem?_insert', if_pos, Option.getD_some]
  · rw [if_neg hp]
    split
    · rfl
    · simp only [getElem?_insert', if_neg hp]

/-- `set_listen_events` gives every GPU that has a new mask that mask, and leaves the others. -/
theorem setListenEvents_success {n : Notification} (h : Synced n) (fields : List RdcFieldKey) :
    Synced (n.setListenEvents SmiAnswers.success fields).2
    ∧ ∀ gpu, (n.setListenEvents SmiAnswers.success fields).2.smiMask gpu
        = (newMasks fields)[gpu]?.getD (n.smiMask gpu) := by
  have hmasks : ∀ gpu : Nat,
      ((n.setListenEvents SmiAnswers.success fields).2.gpuEvntNotifMasks[gpu]?.getD 0,
      (n.setListenEvents SmiAnswers.success fields).2.smiMask gpu)
        = (newMasks fields)[gpu]?.elim (n.gpuEvntNotifMasks[gpu]?.getD 0, n.smiMask gpu)
            fun mask => if mask = n.gpuEvntNotifMasks[gpu]?.getD 0 then
              (n.gpuEvntNotifMasks[gpu]?.getD 0, n.smiMask gpu) else (mask, mask) := by
    intro gpu
    unfold setListenEvents
    rw [setMasks_success]
    exact get_foldl_toList (newMasks fields) noteMask
      (fun n gpu => (n.gpuEvntNotifMasks[gpu]?.getD 0, n.smiMask gpu))
      (fun _ mask old => if mask = old.1 then old else (mask, mask)) noteMask_masks n gpu
  have hboth : ∀ gpu : Nat,
      (n.setListenEvents SmiAnswers.success fields).2.gpuEvntNotifMasks[gpu]?.getD 0
        = (newMasks fields)[gpu]?.getD (n.smiMask gpu)
      ∧ (n.setListenEvents SmiAnswers.success fields).2.smiMask gpu
        = (newMasks fields)[gpu]?.getD (n.smiMask gpu) := by
    intro gpu
    have hm := hmasks gpu
    rw [h gpu] at hm
    cases hnew : (newMasks fields)[gpu]? with
    | none =>
      rw [hnew] at hm
      exact ⟨congrArg Prod.fst hm, congrArg Prod.snd hm⟩
    | some mask =>
      rw [hnew] at hm
      by_cases heq : mask = n.smiMask gpu
      · rw [Option.elim_some, if_pos heq, ← heq] at hm
        exact ⟨congrArg Prod.fst hm, congrArg Prod.snd hm⟩
      · rw [Option.elim_some, if_neg heq] at hm
        exact ⟨congrArg Prod.fst hm, congrArg Prod.snd hm⟩
  exact ⟨fun gpu => (hboth gpu).1.trans (hboth gpu).2.symm, fun gpu => (hboth gpu).2⟩

theorem stopListening_success {n : Notification} (h : Synced n) (g : Nat) :
    Synced (n.stopListening SmiAnswers.success g).2
    ∧ ∀ gpu, (n.stopListening SmiAnswers.success g).2.smiMask gpu
        = if g = gpu then 0 else n.smiMask gpu := by
  have hmask : ∀ gpu, (n.stopListening SmiAnswers.success g).2.smiMask gpu
      = if g = gpu then 0 else n.smiMask gpu := by
    intro gpu
    show (n.smiMasks.insert g 0)[gpu]?.getD 0 = _
    rw [getElem?_insert']
    split <;> rfl
  refine ⟨?_, hmask⟩
  intro gpu
  rw [hmask gpu, ← h gpu]
  show (n.gpuEvntNotifMasks.insert g 0)[gpu]?.getD 0 = _
  rw [getElem?_insert']
  split <;> rfl

theorem synced_replay (calls : List ModuleCall) : Synced (replay SmiAnswers.success calls) := by
  have hstep : ∀ n call, Synced n → Synced (onCall SmiAnswers.success n call) := by
    intro n call h
    cases call with
    | setListenEvents fields => exact (setListenEvents_success h fields).1
    | stopListening gpu => exact (stopListening_success h gpu).1
    | _ => exact h
  unfold replay
  have hinit : Synced Notification.init := fun gpu => by
    show (∅ : IdMap Nat)[gpu]?.getD 0 = (∅ : IdMap Nat)[gpu]?.getD 0
    rfl
  generalize Notification.init = n at hinit
  induction calls generalizing n with
  | nil => exact hinit
  | cons call calls ih => exact ih _ (hstep n call hinit)

theorem addMask_spec (masks : IdMap Nat) (key : RdcFieldKey) (gpu : Nat) :
    ((addMask masks key)[gpu]? = none ↔ masks[gpu]? = none
        ∧ (key.1 = gpu → isNotificationEvent key.2 = false))
    ∧ ∀ i, ((addMask masks key)[gpu]?.getD 0).testBit i = true ↔
        (masks[gpu]?.getD 0).testBit i = true ∨ (key.1 = gpu ∧ eventBit key.2 = some i) := by
  have hevent := isNotificationEvent_iff key.2
  unfold addMask eventBit
  cases hkey : rdc2SmiEventNotifMap key.2 with
  | none =>
    rw [hkey] at hevent
    have hno : isNotificationEvent key.2 = false := by simpa using hevent
    simp [hno]
  | some event =>
    rw [hkey] at hevent
    have hyes : isNotificationEvent key.2 = true := by simpa using hevent
    dsimp only
    rw [ExtTreeMap.getElem?_alter]
    by_cases hg : key.1 = gpu
    · simp [hg, hyes, testBit_eventMask]
    · simp [hg]

/-- The loop from any masks: a GPU has one if it had one or a field is an event on it, and the bits
of these fields are added. -/
theorem foldl_addMask_spec (fields : List RdcFieldKey) (masks : IdMap Nat) (gpu : Nat) :
    ((fields.foldl addMask masks)[gpu]? = none ↔ masks[gpu]? = none
      ∧ ∀ field, (gpu, field) ∈ fields → isNotificationEvent field = false)
    ∧ ∀ i, ((fields.foldl addMask masks)[gpu]?.getD 0).testBit i = true ↔
        (masks[gpu]?.getD 0).testBit i = true
          ∨ ∃ field, (gpu, field) ∈ fields ∧ eventBit field = some i := by
  induction fields generalizing masks with
  | nil => simp
  | cons key fields ih =>
    obtain ⟨hnone, hbits⟩ := ih (addMask masks key)
    obtain ⟨hnone', hbits'⟩ := addMask_spec masks key gpu
    rw [List.foldl_cons]
    refine ⟨?_, ?_⟩
    · rw [hnone, hnone', and_assoc]
      refine and_congr_right fun _ => ⟨?_, ?_⟩
      · intro h field hf
        rcases List.mem_cons.mp hf with heq | hf
        · rw [← heq] at h
          exact h.1 rfl
        · exact h.2 field hf
      · intro h
        refine ⟨fun hg => h key.2 ?_, fun field hf => h field (List.mem_cons_of_mem _ hf)⟩
        rw [← hg]
        exact List.mem_cons_self ..
    · -- a bit comes from the masks before, from this key, or from the keys after it
      intro i
      rw [hbits, hbits', or_assoc]
      refine or_congr_right ⟨?_, ?_⟩
      · intro h
        rcases h with ⟨hg, hi⟩ | ⟨field, hf, hi⟩
        · exact ⟨key.2, by rw [← hg]; exact List.mem_cons_self .., hi⟩
        · exact ⟨field, List.mem_cons_of_mem _ hf, hi⟩
      · intro h
        obtain ⟨field, hf, hi⟩ := h
        rcases List.mem_cons.mp hf with heq | hf
        · rw [← heq]
          exact Or.inl ⟨rfl, hi⟩
        · exact Or.inr ⟨field, hf, hi⟩

/-- A GPU has a new mask when one of the fields is an event on it, and the mask has the bits of
these. -/
theorem newMasks_spec (fields : List RdcFieldKey) (gpu : Nat) :
    ((newMasks fields)[gpu]? = none ↔
        ∀ field, (gpu, field) ∈ fields → isNotificationEvent field = false)
    ∧ ∀ i, ((newMasks fields)[gpu]?.getD 0).testBit i = true ↔
        ∃ field, (gpu, field) ∈ fields ∧ eventBit field = some i := by
  obtain ⟨hnone, hbits⟩ := foldl_addMask_spec fields ∅ gpu
  unfold newMasks
  refine ⟨?_, ?_⟩
  · rw [hnone]
    simp
  · intro i
    rw [hbits]
    simp

/-! ## The mask of a GPU after the calls of the daemon -/

/-- The mask the driver has for a GPU. -/
def driverMask (d : Daemon) (gpu : Nat) : Nat :=
  (replay SmiAnswers.success d.moduleCalls).smiMask gpu

theorem replay_append (calls calls' : List ModuleCall) :
    replay SmiAnswers.success (calls ++ calls')
      = calls'.foldl (onCall SmiAnswers.success) (replay SmiAnswers.success calls) :=
  List.foldl_append

theorem getFieldsFromGroup_ne_error_ok (gs : GroupSettings) (e : RdcFieldGroupKey) :
    gs.getFieldsFromGroup e.1 e.2 ≠ .error .ok := by
  intro h
  by_cases hl : gs.Live e
  · obtain ⟨ks, hks, _⟩ := GroupSettings.getFieldsFromGroup_ok hl
    rw [h] at hks
    simp at hks
  · rw [GroupSettings.getFieldsFromGroup_error hl] at h
    exact absurd (Except.error.inj h) (by simp)

theorem updateFrequencies_ne_error_ok (gs : GroupSettings)
    (table : List (RdcFieldGroupKey × FieldSettings)) :
    updateFrequencies gs table ∅ ≠ .error .ok := by
  intro h
  by_cases hdead : ∃ p ∈ table, p.2.isWatching = true ∧ ¬ gs.Live p.1
  · rw [updateFrequencies_error hdead] at h
    exact absurd (Except.error.inj h) (by simp)
  · push Not at hdead
    obtain ⟨result, hok, _⟩ := updateFrequencies_ok table ∅ hdead
    rw [h] at hok
    simp at hok

variable {d : Daemon} {e : RdcFieldGroupKey} {samples field g fg : Nat} {fields : List RdcFieldKey}

theorem watchNew_calls {tel : Telemetry} {f : FieldSettings} (h : (watchNew tel d e f).1 = .ok) :
    ∃ fields watching, d.groupSettings.getFieldsFromGroup e.1 e.2 = .ok fields
      ∧ (watchNew tel d e f).2.moduleCalls
        = d.moduleCalls ++ [.setListenEvents fields, .fieldsWatch watching] := by
  unfold watchNew at h ⊢
  cases hf : d.groupSettings.getFieldsFromGroup e.1 e.2 with
  | error result =>
    rw [hf] at h
    rw [show result = .ok from h] at hf
    exact absurd hf (getFieldsFromGroup_ne_error_ok _ e)
  | ok fields => exact ⟨fields, _, rfl, rfl⟩

/-- A watch that succeeds has told the module the fields of its groups. -/
theorem watch_calls {tel : Telemetry} {g fg freq : Nat} {age : ℚ}
    (h : (d.rdcFieldWatch tel g fg freq age samples).1 = .ok) :
    ∃ fields watching, d.groupSettings.getFieldsFromGroup g fg = .ok fields
      ∧ (d.rdcFieldWatch tel g fg freq age samples).2.moduleCalls
        = d.moduleCalls ++ [.setListenEvents fields, .fieldsWatch watching] := by
  unfold rdcFieldWatch at h ⊢
  dsimp only at h ⊢
  cases hq : d.watchTable[(g, fg)]? with
  | none =>
    rw [hq] at h
    exact watchNew_calls h
  | some entry =>
    rw [hq] at h
    dsimp only at h ⊢
    cases hw : entry.isWatching with
    | true =>
      rw [hw] at h
      simp at h
    | false =>
      rw [hw] at h
      exact watchNew_calls h

theorem unwatchField_calls (frequencies : KeyMap Nat) (acc : UnwatchLoop) (key : RdcFieldKey) :
    (unwatchField frequencies acc key).moduleCalls
      = acc.moduleCalls ++ if isNotificationEvent key.2 then [.stopListening key.1] else [] := by
  unfold unwatchField
  split
  · rfl
  · split
    · exact (List.append_nil _).symm
    · exact (List.append_nil _).symm

theorem unwatchLoop_calls (frequencies : KeyMap Nat) (keys : List RdcFieldKey)
    (acc : UnwatchLoop) :
    (keys.foldl (unwatchField frequencies) acc).moduleCalls
      = acc.moduleCalls
        ++ (keys.filter fun key => isNotificationEvent key.2).map fun key =>
            .stopListening key.1 := by
  induction keys generalizing acc with
  | nil => exact (List.append_nil _).symm
  | cons key keys ih =>
    rw [List.foldl_cons, ih, unwatchField_calls, List.append_assoc]
    cases hk : isNotificationEvent key.2 <;> simp [hk]

/-- An unwatch that succeeds has stopped every GPU that has an event among the fields. -/
theorem unwatch_calls {g fg now : Nat} (h : (d.rdcFieldUnwatch g fg now).1 = .ok) :
    ∃ fields unwatched, d.groupSettings.getFieldsFromGroup g fg = .ok fields
      ∧ (d.rdcFieldUnwatch g fg now).2.moduleCalls
        = d.moduleCalls
          ++ (fields.filter fun key => isNotificationEvent key.2).map
              (fun key => .stopListening key.1)
          ++ [.fieldsUnwatch unwatched] := by
  unfold rdcFieldUnwatch updateFieldInTableWhenUnwatch at h ⊢
  dsimp only at h ⊢
  cases hq : d.watchTable[(g, fg)]? with
  | none =>
    rw [hq] at h
    simp at h
  | some entry =>
    rw [hq] at h
    dsimp only at h ⊢
    cases hf : d.groupSettings.getFieldsFromGroup g fg with
    | error result =>
      -- the call answers with this status, and it is never `RDC_ST_OK`
      rw [hf] at h
      rw [show result = .ok from h] at hf
      exact absurd hf (getFieldsFromGroup_ne_error_ok _ (g, fg))
    | ok fields =>
      rw [hf] at h
      dsimp only at h ⊢
      split at h
      · rename_i result hfreq
        rw [show result = .ok from h] at hfreq
        exact absurd hfreq (updateFrequencies_ne_error_ok _ _)
      · exact ⟨fields, _, rfl, congrArg (· ++ _) (unwatchLoop_calls ..)⟩

theorem driverMask_watch {tel : Telemetry} {g fg freq : Nat} {age : ℚ}
    (h : (d.rdcFieldWatch tel g fg freq age samples).1 = .ok) :
    ∃ fields, d.groupSettings.getFieldsFromGroup g fg = .ok fields
      ∧ ∀ gpu, driverMask (d.rdcFieldWatch tel g fg freq age samples).2 gpu
        = (newMasks fields)[gpu]?.getD (driverMask d gpu) := by
  obtain ⟨fields, watching, hf, hcalls⟩ := watch_calls h
  refine ⟨fields, hf, ?_⟩
  intro gpu
  unfold driverMask
  rw [hcalls, replay_append]
  exact (setListenEvents_success (synced_replay d.moduleCalls) fields).2 gpu

theorem smiMask_stopAll {n : Notification} (h : Synced n) (gpus : List Nat) (gpu : Nat) :
    ((gpus.map ModuleCall.stopListening).foldl (onCall SmiAnswers.success) n).smiMask gpu
      = if gpu ∈ gpus then 0 else n.smiMask gpu := by
  induction gpus generalizing n with
  | nil => rfl
  | cons g gpus ih =>
    obtain ⟨hsync, hmask⟩ := stopListening_success h g
    rw [List.map_cons, List.foldl_cons]
    show (List.foldl _ (n.stopListening SmiAnswers.success g).2 _).smiMask gpu = _
    rw [ih hsync, hmask]
    by_cases hg : gpu ∈ gpus
    · simp [hg]
    · by_cases hgg : g = gpu <;> simp [hg, hgg, Ne.symm]

theorem driverMask_unwatch {g fg now : Nat} (h : (d.rdcFieldUnwatch g fg now).1 = .ok) :
    ∃ fields, d.groupSettings.getFieldsFromGroup g fg = .ok fields
      ∧ ∀ gpu,
        ((∃ field, (gpu, field) ∈ fields ∧ isNotificationEvent field = true) →
          driverMask (d.rdcFieldUnwatch g fg now).2 gpu = 0)
        ∧ ((∀ field, (gpu, field) ∈ fields → isNotificationEvent field = false) →
          driverMask (d.rdcFieldUnwatch g fg now).2 gpu = driverMask d gpu) := by
  obtain ⟨fields, unwatched, hf, hcalls⟩ := unwatch_calls h
  refine ⟨fields, hf, ?_⟩
  intro gpu
  -- one `stop_listening` for each event field, so a GPU is stopped if it has any
  have hmask : driverMask (d.rdcFieldUnwatch g fg now).2 gpu
      = if gpu ∈ (fields.filter fun key => isNotificationEvent key.2).map Prod.fst then 0
        else driverMask d gpu := by
    unfold driverMask
    rw [hcalls, List.append_assoc, replay_append, List.foldl_append]
    have hmap : (fields.filter fun key => isNotificationEvent key.2).map
          (fun key => ModuleCall.stopListening key.1)
        = ((fields.filter fun key => isNotificationEvent key.2).map Prod.fst).map
            ModuleCall.stopListening := by
      rw [List.map_map]
      rfl
    rw [hmap]
    exact smiMask_stopAll (synced_replay d.moduleCalls) _ gpu
  have hmem : gpu ∈ (fields.filter fun key => isNotificationEvent key.2).map Prod.fst
      ↔ ∃ field, (gpu, field) ∈ fields ∧ isNotificationEvent field = true := by
    simp
  rw [hmask]
  refine ⟨fun hex => if_pos (hmem.mpr hex), fun hall => if_neg ?_⟩
  intro hin
  obtain ⟨field, hfield, hev⟩ := hmem.mp hin
  rw [hall field hfield] at hev
  simp at hev

/-! ## What is wanted of a GPU -/

/-- The fields that watching entries cover on a GPU. -/
def watchedFields (d : Daemon) (gpu : Nat) : List Nat :=
  d.watchTable.toList.flatMap fun entry =>
    if entry.2.isWatching then
      match d.groupSettings.getFieldsFromGroup entry.1.1 entry.1.2 with
      | .ok keys => (keys.filter fun key => key.1 = gpu).map Prod.snd
      | .error _ => []
    else []

/-- The bitwise OR of the bits of all events that watching entries cover on a GPU. -/
def watchedMask (d : Daemon) (gpu : Nat) : Nat := fieldsMask (watchedFields d gpu)

/-- A watching entry covers an event field of the GPU that has bit `i`. -/
def Wanted (d : Daemon) (gpu i : Nat) : Prop :=
  ∃ e f field, Watching d e f ∧ d.groupSettings.Covers e (gpu, field) ∧ eventBit field = some i

theorem mem_watchedFields {gpu field : Nat} :
    field ∈ watchedFields d gpu
      ↔ ∃ e f, Watching d e f ∧ d.groupSettings.Covers e (gpu, field) := by
  unfold watchedFields
  rw [List.mem_flatMap]
  refine ⟨?_, ?_⟩
  · intro h
    obtain ⟨entry, hentry, hmem⟩ := h
    have hget := ExtTreeMap.mem_toList_iff_getElem?_eq_some.mp hentry
    cases hw : entry.2.isWatching with
    | false =>
      rw [hw] at hmem
      simp at hmem
    | true =>
      rw [hw, if_pos rfl] at hmem
      by_cases hl : d.groupSettings.Live entry.1
      · obtain ⟨keys, hkeys, hcov⟩ := GroupSettings.getFieldsFromGroup_ok hl
        rw [hkeys] at hmem
        obtain ⟨key, hkey, hfield⟩ := List.mem_map.mp hmem
        obtain ⟨hin, hgpu⟩ := List.mem_filter.mp hkey
        refine ⟨entry.1, entry.2, ⟨hget, hw⟩, (hcov _).mp ?_⟩
        rw [← hfield, ← (of_decide_eq_true hgpu : key.1 = gpu)]
        exact hin
      · -- an entry whose groups are gone covers nothing
        rw [GroupSettings.getFieldsFromGroup_error hl] at hmem
        simp at hmem
  · intro h
    obtain ⟨e, f, hw, hc⟩ := h
    refine ⟨(e, f), ExtTreeMap.mem_toList_iff_getElem?_eq_some.mpr hw.1, ?_⟩
    obtain ⟨keys, hkeys, hcov⟩ := GroupSettings.getFieldsFromGroup_ok hc.live
    dsimp only
    rw [if_pos hw.2, hkeys]
    exact List.mem_map.mpr ⟨(gpu, field), List.mem_filter.mpr ⟨(hcov _).mpr hc, by simp⟩, rfl⟩

theorem testBit_watchedMask (d : Daemon) (gpu i : Nat) :
    (watchedMask d gpu).testBit i = true ↔ Wanted d gpu i := by
  unfold watchedMask Wanted
  rw [testBit_fieldsMask]
  simp only [mem_watchedFields]
  refine ⟨?_, ?_⟩
  · intro h
    obtain ⟨field, ⟨e, f, hw, hc⟩, hi⟩ := h
    exact ⟨e, f, field, hw, hc, hi⟩
  · intro h
    obtain ⟨e, f, field, hw, hc, hi⟩ := h
    exact ⟨field, ⟨e, f, hw, hc⟩, hi⟩

/-- The driver reports what is watched. -/
def MasksUnion (d : Daemon) : Prop := ∀ gpu, driverMask d gpu = watchedMask d gpu

theorem masksUnion_iff :
    MasksUnion d ↔ ∀ gpu i, (driverMask d gpu).testBit i = true ↔ Wanted d gpu i := by
  refine ⟨?_, ?_⟩
  · intro h gpu i
    rw [h gpu, testBit_watchedMask]
  · intro h gpu
    refine Nat.eq_of_testBit_eq fun i => ?_
    rw [Bool.eq_iff_iff, h gpu i, testBit_watchedMask]

/-! ## The steps -/

/-- The pair of groups has an event on the GPU. -/
def HasEvents (gs : GroupSettings) (e : RdcFieldGroupKey) (gpu : Nat) : Prop :=
  ∃ field, gs.Covers e (gpu, field) ∧ isNotificationEvent field = true

/-- Nobody else's events are lost: on the GPUs a watch has events on, it has those of every watching
entry; and on the GPUs an unwatch has events on, no other entry has any. -/
def NothingUndone (d : Daemon) : Op → Prop
  | .fieldWatch g fg _ _ _ => ∀ gpu, HasEvents d.groupSettings (g, fg) gpu →
      ∀ e f field, Watching d e f → d.groupSettings.Covers e (gpu, field) →
        isNotificationEvent field = true → d.groupSettings.Covers (g, fg) (gpu, field)
  | .fieldUnwatch g fg _ => ∀ gpu, HasEvents d.groupSettings (g, fg) gpu →
      ∀ e f, e ≠ (g, fg) → Watching d e f → ¬ HasEvents d.groupSettings e gpu
  | _ => True

/-- Watches and unwatches that succeed, and calls of the group store that touch no watched group. -/
def Permitted (tel : Telemetry) (d : Daemon) (op : Op) : Prop :=
  match op with
  | .fieldWatch _ _ _ _ _ => (d.exec tel op).1 = .ok
  | .fieldUnwatch _ _ _ => (d.exec tel op).1 = .ok
  | _ => GroupCall op ∧ Quiet d op

section Steps

variable {tel : Telemetry} {d : Daemon}

theorem Permitted.quiet {op : Op} (h : Permitted tel d op) : Quiet d op := by
  cases op with
  | fieldWatch g fg freq age samples => exact fun _ _ _ h => h
  | fieldUnwatch g fg now => exact fun _ _ _ h => h
  | _ => exact h.2

theorem isNotificationEvent_of_bit {field i : Nat} (h : eventBit field = some i) :
    isNotificationEvent field = true :=
  (eventBit_isSome field).mp (by rw [h]; rfl)

theorem exists_bit (h : isNotificationEvent field = true) : ∃ i, eventBit field = some i :=
  Option.isSome_iff_exists.mp ((eventBit_isSome field).mpr h)

theorem not_hasEvents {gs : GroupSettings} {gpu : Nat} (h : ¬ HasEvents gs e gpu)
    (hc : gs.Covers e (gpu, field)) : isNotificationEvent field = false := by
  cases hev : isNotificationEvent field with
  | false => rfl
  | true => exact absurd ⟨field, hc, hev⟩ h

/-- The fields a pair of groups was expanded to are the keys it covers. -/
theorem mem_getFieldsFromGroup {gs : GroupSettings} (h : gs.getFieldsFromGroup g fg = .ok fields)
    (k : RdcFieldKey) : k ∈ fields ↔ gs.Covers (g, fg) k := by
  have hl : gs.Live (g, fg) := by
    by_contra hdead
    rw [GroupSettings.getFieldsFromGroup_error hdead] at h
    cases h
  obtain ⟨ks, hks, hiff⟩ := GroupSettings.getFieldsFromGroup_ok hl
  rw [h] at hks
  rw [Except.ok.inj hks]
  exact hiff k

/-- A watch that succeeds makes its events wanted, besides what was wanted before. -/
theorem wanted_watch {g fg freq : Nat} {age : ℚ}
    (hok : (d.rdcFieldWatch tel g fg freq age samples).1 = .ok)
    (hcov : ∀ k, k ∈ fields ↔ d.groupSettings.Covers (g, fg) k) (gpu i : Nat) :
    Wanted (d.rdcFieldWatch tel g fg freq age samples).2 gpu i
      ↔ Wanted d gpu i ∨ ∃ field, (gpu, field) ∈ fields ∧ eventBit field = some i := by
  rcases rdcFieldWatch_cases tel d g fg freq age samples with
    ⟨_, _, heq⟩ | ⟨_, _, heq⟩ | ⟨hno, hl, F, calls, _, heq⟩
  · rw [heq] at hok
    simp at hok
  · rw [heq] at hok
    simp at hok
  rw [heq]
  unfold Wanted
  refine ⟨?_, ?_⟩
  · intro h
    obtain ⟨e, f, field, hw, hc, hi⟩ := h
    rcases (watching_entered (f := watchSettings freq age samples) rfl hno F calls e f).mp hw
      with ⟨he, _⟩ | hw'
    · rw [he] at hc
      exact Or.inr ⟨field, (hcov _).mpr hc, hi⟩
    · exact Or.inl ⟨e, f, field, hw', hc, hi⟩
  · intro h
    rcases h with ⟨e, f, field, hw, hc, hi⟩ | ⟨field, hmem, hi⟩
    · exact ⟨e, f, field, (watching_entered rfl hno F calls e f).mpr (Or.inr hw), hc, hi⟩
    · exact ⟨_, _, field, (watching_entered rfl hno F calls _ _).mpr (Or.inl ⟨rfl, rfl⟩),
        (hcov _).mp hmem, hi⟩

/-- Collecting the masks of a watch leaves a GPU with its own events of the watch if it has any, and
with no new mask otherwise. -/
theorem newMasks_bits {gs : GroupSettings} (hcov : ∀ k, k ∈ fields ↔ gs.Covers e k)
    (gpu old : Nat) :
    (HasEvents gs e gpu → ∀ i, (((newMasks fields)[gpu]?).getD old).testBit i = true
        ↔ ∃ field, (gpu, field) ∈ fields ∧ eventBit field = some i)
      ∧ (¬ HasEvents gs e gpu → ((newMasks fields)[gpu]?).getD old = old) := by
  obtain ⟨hnone, hsome⟩ := newMasks_spec fields gpu
  refine ⟨?_, ?_⟩
  · intro hev i
    rw [← hsome i]
    cases hnew : (newMasks fields)[gpu]? with
    | none =>
      obtain ⟨field, hc, hevent⟩ := hev
      rw [hnone.mp hnew field ((hcov _).mpr hc)] at hevent
      simp at hevent
    | some mask => rfl
  · intro hev
    rw [hnone.mpr fun field hmem => not_hasEvents hev ((hcov _).mp hmem)]
    rfl

theorem masksUnion_watch (hd : MasksUnion d) {g fg freq : Nat} {age : ℚ}
    (hok : (d.rdcFieldWatch tel g fg freq age samples).1 = .ok) :
    MasksUnion (d.rdcFieldWatch tel g fg freq age samples).2
      ↔ NothingUndone d (.fieldWatch g fg freq age samples) := by
  obtain ⟨fields, hfields, hmask⟩ := driverMask_watch hok
  have hcov := mem_getFieldsFromGroup hfields
  have hwanted := wanted_watch hok hcov
  have hbits := fun gpu => newMasks_bits hcov gpu (driverMask d gpu)
  rw [masksUnion_iff]
  simp only [hmask]
  refine ⟨?_, ?_⟩
  · intro h gpu hev e f field hw hc hevent
    obtain ⟨i, hi⟩ := exists_bit hevent
    have hin := (h gpu i).mpr ((hwanted gpu i).mpr (Or.inl ⟨e, f, field, hw, hc, hi⟩))
    obtain ⟨field', hmem, hi'⟩ := ((hbits gpu).1 hev i).mp hin
    rw [eventBit_inj hi hi']
    exact (hcov _).mp hmem
  · intro h gpu i
    rw [hwanted]
    -- the call writes the mask of a GPU exactly when the watch has events of that GPU
    by_cases hev : HasEvents d.groupSettings (g, fg) gpu
    · rw [(hbits gpu).1 hev i]
      refine ⟨Or.inr, ?_⟩
      intro hor
      rcases hor with ⟨e, f, field, hw, hc, hi⟩ | hown
      · exact ⟨field, (hcov _).mpr (h gpu hev e f field hw hc (isNotificationEvent_of_bit hi)), hi⟩
      · exact hown
    · rw [(hbits gpu).2 hev, masksUnion_iff.mp hd gpu i]
      refine ⟨Or.inl, ?_⟩
      intro hor
      rcases hor with hold | ⟨field, hmem, hi⟩
      · exact hold
      · have hno := not_hasEvents hev ((hcov _).mp hmem)
        rw [isNotificationEvent_of_bit hi] at hno
        simp at hno

theorem masksUnion_unwatch (hd : MasksUnion d) {g fg now : Nat}
    (hok : (d.rdcFieldUnwatch g fg now).1 = .ok) :
    MasksUnion (d.rdcFieldUnwatch g fg now).2 ↔ NothingUndone d (.fieldUnwatch g fg now) := by
  obtain ⟨fields, hfields, hmask⟩ := driverMask_unwatch hok
  have hcov := mem_getFieldsFromGroup hfields
  have hgs : (d.rdcFieldUnwatch g fg now).2.groupSettings = d.groupSettings :=
    (rdcFieldUnwatch_sameStores d g fg now).1
  -- what is left is what the other entries want
  have hwanted : ∀ gpu i, Wanted (d.rdcFieldUnwatch g fg now).2 gpu i
      ↔ ∃ e f field, e ≠ (g, fg) ∧ Watching d e f
        ∧ d.groupSettings.Covers e (gpu, field) ∧ eventBit field = some i := by
    intro gpu i
    unfold Wanted
    simp only [watching_unwatch, hgs, and_assoc]
  rw [masksUnion_iff]
  refine ⟨?_, ?_⟩
  · intro h gpu hev e f hne hw hothers
    obtain ⟨field, hc, hevent⟩ := hothers
    obtain ⟨i, hi⟩ := exists_bit hevent
    have hin := (h gpu i).mpr ((hwanted gpu i).mpr ⟨e, f, field, hne, hw, hc, hi⟩)
    obtain ⟨own, hown, hownev⟩ := hev
    rw [(hmask gpu).1 ⟨own, (hcov _).mpr hown, hownev⟩] at hin
    simp at hin
  · intro h gpu i
    rw [hwanted]
    by_cases hev : HasEvents d.groupSettings (g, fg) gpu
    · have hzero : driverMask (d.rdcFieldUnwatch g fg now).2 gpu = 0 := by
        obtain ⟨own, hown, hownev⟩ := hev
        exact (hmask gpu).1 ⟨own, (hcov _).mpr hown, hownev⟩
      rw [hzero]
      refine ⟨fun hin => absurd hin (by simp), ?_⟩
      intro hex
      obtain ⟨e, f, field, hne, hw, hc, hi⟩ := hex
      exact absurd ⟨field, hc, isNotificationEvent_of_bit hi⟩ (h gpu hev e f hne hw)
    · have hsame : driverMask (d.rdcFieldUnwatch g fg now).2 gpu = driverMask d gpu :=
        (hmask gpu).2 fun field hmem => not_hasEvents hev ((hcov _).mp hmem)
      rw [hsame, masksUnion_iff.mp hd gpu i]
      refine ⟨?_, ?_⟩
      · intro hex
        obtain ⟨e, f, field, hw, hc, hi⟩ := hex
        refine ⟨e, f, field, ?_, hw, hc, hi⟩
        intro he
        rw [he] at hc
        have hno := not_hasEvents hev hc
        rw [isNotificationEvent_of_bit hi] at hno
        simp at hno
      · intro hex
        obtain ⟨e, f, field, _, hw, hc, hi⟩ := hex
        exact ⟨e, f, field, hw, hc, hi⟩

/-- Calls of the group store change neither the masks nor what is wanted. -/
theorem masksUnion_groupCall (h : Summary tel d) (hd : MasksUnion d) {op : Op} (hg : GroupCall op)
    (hq : Quiet d op) : MasksUnion (d.exec tel op).2 := by
  obtain ⟨gs, hgs⟩ := exec_groupCall tel d hg
  rw [masksUnion_iff] at hd ⊢
  intro gpu i
  have hmask : driverMask (d.exec tel op).2 gpu = driverMask d gpu := by
    rw [hgs]
    rfl
  have hwat : ∀ e f, Watching (d.exec tel op).2 e f ↔ Watching d e f := by
    intro e f
    rw [hgs]
    exact Iff.rfl
  rw [hmask, hd gpu i]
  unfold Wanted
  simp only [hwat]
  refine ⟨?_, ?_⟩
  · intro hex
    obtain ⟨e, f, field, hw, hc, hi⟩ := hex
    exact ⟨e, f, field, hw, (covers_exec (h.live e f hw) (hq e f hw) _).mpr hc, hi⟩
  · intro hex
    obtain ⟨e, f, field, hw, hc, hi⟩ := hex
    exact ⟨e, f, field, hw, (covers_exec (h.live e f hw) (hq e f hw) _).mp hc, hi⟩

theorem masksUnion_exec {op : Op} (h : Summary tel d) (hp : Permitted tel d op)
    (hd : MasksUnion d) : MasksUnion (d.exec tel op).2 ↔ NothingUndone d op := by
  cases op with
  | fieldWatch g fg freq age samples => exact masksUnion_watch hd hp
  | fieldUnwatch g fg now => exact masksUnion_unwatch hd hp
  | groupGpuCreate name => exact iff_of_true (masksUnion_groupCall h hd hp.1 hp.2) trivial
  | groupGpuAdd g gpu => exact iff_of_true (masksUnion_groupCall h hd hp.1 hp.2) trivial
  | groupGpuDestroy g => exact iff_of_true (masksUnion_groupCall h hd hp.1 hp.2) trivial
  | groupFieldCreate fields name =>
    exact iff_of_true (masksUnion_groupCall h hd hp.1 hp.2) trivial
  | groupFieldDestroy fg => exact iff_of_true (masksUnion_groupCall h hd hp.1 hp.2) trivial
  | _ => exact absurd hp.1 id

end Steps

theorem masksUnion_init : MasksUnion init := by
  rw [masksUnion_iff]
  intro gpu i
  refine ⟨?_, ?_⟩
  · intro h
    have hzero : driverMask init gpu = 0 := by
      show (∅ : IdMap Nat)[gpu]?.getD 0 = 0
      rw [ExtTreeMap.getElem?_empty]
      rfl
    rw [hzero] at h
    simp at h
  · intro h
    obtain ⟨e, f, field, hw, _⟩ := h
    have h1 : (∅ : KeyMap FieldSettings)[e]? = some f := hw.1
    simp at h1

/-- **Event masks.** In a run of successful watches and unwatches, with no change to a watched
group and a library that never fails, the mask of every GPU is the union of what is watched in
every state, exactly when no call undoes what somebody else has asked for. -/
theorem masks_union_iff (tel : Telemetry) (ops : List Op)
    (h : Along (exec tel) (Permitted tel) init ops) :
    (∀ done rest, ops = done ++ rest →
        ∀ gpu, driverMask (run (exec tel) init done) gpu
          = watchedMask (run (exec tel) init done) gpu)
      ↔ Along (exec tel) NothingUndone init ops :=
  Along.iff_forall_reached (G := Summary tel) (I := MasksUnion)
    (fun _ _ hs hp => summary_exec hs hp.quiet) (fun _ _ hs hp hd => masksUnion_exec hs hp hd)
    (summary_of_empty rfl rfl) masksUnion_init h

/-- Two field groups with one event each, both to be watched on GPU 0. -/
def twoEventGroups : List Op :=
  [.groupGpuCreate [97], .groupGpuAdd 1 0, .groupFieldCreate [rdcEvntNotifVmfault] [98],
    .groupFieldCreate [rdcEvntNotifThermalThrottle] [99], .fieldWatch 1 1 1000000 10 1]

theorem permitted_twoEventGroups :
    Along (exec Telemetry.smiOnly) (Permitted Telemetry.smiOnly) init twoEventGroups := by
  refine ⟨⟨trivial, fun _ _ _ h => h⟩, ⟨trivial, quiet_of_empty rfl _⟩,
    ⟨trivial, fun _ _ _ h => h⟩, ⟨trivial, fun _ _ _ h => h⟩, ?_, trivial⟩
  show (exec _ _ _).1 = .ok
  decide +kernel

theorem masks_union_oneWatch :
    driverMask (run (exec Telemetry.smiOnly) init twoEventGroups) 0 = 1
    ∧ watchedMask (run (exec Telemetry.smiOnly) init twoEventGroups) 0 = 1 := by
  have hdriver : driverMask (run (exec Telemetry.smiOnly) init twoEventGroups) 0 = 1 := by
    decide +kernel
  have halone : Along (exec Telemetry.smiOnly) NothingUndone init twoEventGroups := by
    refine ⟨trivial, trivial, trivial, trivial, ?_, trivial⟩
    -- nothing is watched before the first watch
    intro gpu _ e f field hw
    have h1 : (∅ : KeyMap FieldSettings)[e]? = some f := hw.1
    simp at h1
  have hall := (masks_union_iff Telemetry.smiOnly twoEventGroups permitted_twoEventGroups).mpr
    halone
  exact ⟨hdriver, (hall twoEventGroups [] (List.append_nil _).symm 0).symm.trans hdriver⟩

/-- The second watch takes the page faults away from the first. -/
theorem masks_not_union_twoWatches :
    Along (exec Telemetry.smiOnly) (Permitted Telemetry.smiOnly) init
      (twoEventGroups ++ [.fieldWatch 1 2 1000000 10 1])
    ∧ driverMask (run (exec Telemetry.smiOnly) init
        (twoEventGroups ++ [.fieldWatch 1 2 1000000 10 1])) 0 = 2
    ∧ watchedMask (run (exec Telemetry.smiOnly) init
        (twoEventGroups ++ [.fieldWatch 1 2 1000000 10 1])) 0 = 3 := by
  refine ⟨⟨⟨trivial, fun _ _ _ h => h⟩, ⟨trivial, quiet_of_empty rfl _⟩,
    ⟨trivial, fun _ _ _ h => h⟩, ⟨trivial, fun _ _ _ h => h⟩, ?_, ?_, trivial⟩,
    by decide +kernel, by decide +kernel⟩
  · show (exec _ _ _).1 = .ok
    decide +kernel
  · show (exec _ _ _).1 = .ok
    decide +kernel

end Rdc.Proof
