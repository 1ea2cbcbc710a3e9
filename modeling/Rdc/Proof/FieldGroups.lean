import Rdc.Dmon

/-!
# Field groups that are too long

The store takes at most `RDC_MAX_FIELD_IDS_PER_FIELD_GROUP` fields into a group, and the embedded
handler says so before it looks at one. But a list that comes from another process has been copied
by then, in the server and for `rdci dmon` in the client as well, and the copies are made without a
look at the length.
-/

namespace Rdc.Proof

open Buffer

theorem copyFieldIds_eq (fieldIds : List Nat)
    (fieldIdArray : Vector Nat rdcMaxFieldIdsPerFieldGroup) :
    copyFieldIds fieldIds fieldIdArray
      = if fieldIds.length ≤ rdcMaxFieldIdsPerFieldGroup then some fieldIds else none := by
  unfold copyFieldIds
  split
  · rename_i hle
    have hfits : 0 + fieldIds.length ≤ rdcMaxFieldIdsPerFieldGroup := by omega
    obtain ⟨out, hout, hlist⟩ := fill_eq_some hfits fieldIdArray
    rw [hout, Option.map_some, hlist]
    simp
  · rename_i hlong
    rw [fill_eq_none (by omega) (Nat.zero_le _), Option.map_none]

/-- Who sends a list of fields. -/
inductive FieldGroupSender where
  /-- A caller of `rdc_group_field_create`. -/
  | client
  /-- `create_temp_field_group`. -/
  | dmon

/-- What becomes of the list; `tempArray` and `serverArray` are what the two local arrays hold.
`create_temp_field_group` creates nothing for an empty list. -/
def FieldGroupSender.createFieldGroup (sender : FieldGroupSender) (gs : GroupSettings)
    (fieldIds : List Nat) (fieldGroupName : List UInt8)
    (tempArray serverArray : Vector Nat rdcMaxFieldIdsPerFieldGroup) :
    Option (Status × Option Nat × GroupSettings) :=
  match sender with
  | .client => StandaloneHandler.rdcGroupFieldCreate gs fieldIds fieldGroupName serverArray
  | .dmon =>
    if fieldIds = [] then some (.ok, none, gs)
    else
      (copyFieldIds fieldIds tempArray).bind fun copied =>
        StandaloneHandler.rdcGroupFieldCreate gs copied fieldGroupName serverArray

/-- No array is overrun, and a list that is too long is turned away. -/
def OversizedRejected (sender : FieldGroupSender) (gs : GroupSettings) (fieldIds : List Nat)
    (fieldGroupName : List UInt8)
    (tempArray serverArray : Vector Nat rdcMaxFieldIdsPerFieldGroup) : Prop :=
  ∃ status id gs', sender.createFieldGroup gs fieldIds fieldGroupName tempArray serverArray
      = some (status, id, gs')
    ∧ (rdcMaxFieldIdsPerFieldGroup < fieldIds.length → status = .maxLimit ∧ gs' = gs)

theorem rdcGroupFieldCreate_of_le {fieldIds : List Nat}
    (h : fieldIds.length ≤ rdcMaxFieldIdsPerFieldGroup) (gs : GroupSettings)
    (fieldGroupName : List UInt8) (fieldIdArray : Vector Nat rdcMaxFieldIdsPerFieldGroup) :
    ∃ status id gs', StandaloneHandler.rdcGroupFieldCreate gs fieldIds fieldGroupName fieldIdArray
      = some (status, id, gs') := by
  unfold StandaloneHandler.rdcGroupFieldCreate ApiService.createFieldGroup
  rw [copyFieldIds_eq, if_pos h]
  exact ⟨_, _, _, rfl⟩

theorem rdcGroupFieldCreate_of_lt {fieldIds : List Nat}
    (h : rdcMaxFieldIdsPerFieldGroup < fieldIds.length) (gs : GroupSettings)
    (fieldGroupName : List UInt8) (fieldIdArray : Vector Nat rdcMaxFieldIdsPerFieldGroup) :
    StandaloneHandler.rdcGroupFieldCreate gs fieldIds fieldGroupName fieldIdArray = none := by
  unfold StandaloneHandler.rdcGroupFieldCreate ApiService.createFieldGroup
  rw [copyFieldIds_eq, if_neg (by omega)]

/-- **A list is handled without overrunning an array exactly if it is not too long**, whoever sends
it: one that is too long never gets to the check that would turn it away. -/
theorem oversizedRejected_iff (sender : FieldGroupSender) (gs : GroupSettings)
    (fieldIds : List Nat) (fieldGroupName : List UInt8)
    (tempArray serverArray : Vector Nat rdcMaxFieldIdsPerFieldGroup) :
    OversizedRejected sender gs fieldIds fieldGroupName tempArray serverArray
      ↔ fieldIds.length ≤ rdcMaxFieldIdsPerFieldGroup := by
  unfold OversizedRejected
  constructor
  · intro ⟨status, id, gs', heq, _⟩
    by_contra hlong
    cases sender with
    | client =>
      have hnone := rdcGroupFieldCreate_of_lt (Nat.lt_of_not_le hlong) gs fieldGroupName
        serverArray
      exact absurd (heq.symm.trans hnone) (by simp)
    | dmon =>
      have hne : fieldIds ≠ [] := fun hnil => hlong (hnil ▸ Nat.zero_le _)
      unfold FieldGroupSender.createFieldGroup at heq
      dsimp only at heq
      rw [if_neg hne, copyFieldIds_eq, if_neg hlong] at heq
      simp at heq
  · intro hle
    obtain ⟨status, id, gs', heq⟩ := rdcGroupFieldCreate_of_le hle gs fieldGroupName serverArray
    have hsent : ∃ status id gs', sender.createFieldGroup gs fieldIds fieldGroupName tempArray
        serverArray = some (status, id, gs') := by
      cases sender with
      | client => exact ⟨status, id, gs', heq⟩
      | dmon =>
        unfold FieldGroupSender.createFieldGroup
        dsimp only
        split
        · exact ⟨_, _, _, rfl⟩
        · rw [copyFieldIds_eq, if_pos hle]
          exact ⟨status, id, gs', heq⟩
    obtain ⟨status, id, gs', hsent⟩ := hsent
    exact ⟨status, id, gs', hsent, fun hlong => absurd hlong (by omega)⟩

/-- One field too many. -/
theorem not_oversizedRejected_long :
    ¬ OversizedRejected .client GroupSettings.init
      (List.replicate (rdcMaxFieldIdsPerFieldGroup + 1) rdcFiGpuTemp) []
      (Vector.replicate rdcMaxFieldIdsPerFieldGroup 0)
      (Vector.replicate rdcMaxFieldIdsPerFieldGroup 0) := by
  intro ⟨status, id, gs', heq, _⟩
  have hlong : rdcMaxFieldIdsPerFieldGroup
      < (List.replicate (rdcMaxFieldIdsPerFieldGroup + 1) rdcFiGpuTemp).length := by
    rw [List.length_replicate]
    omega
  have hnone := rdcGroupFieldCreate_of_lt hlong GroupSettings.init []
    (Vector.replicate rdcMaxFieldIdsPerFieldGroup 0)
  exact absurd (heq.symm.trans hnone) (by simp)

end Rdc.Proof
