import Rdc.ClientCalls
import Rdc.Proof.Calls
import Rdc.Proof.FieldGroups
import Rdc.Proof.RemoteReads

/-!
# What tells a remote daemon from an embedded one

A call through the standalone handler ends as the same call through the embedded handler does,
unless something does not survive the way: a text that is not UTF-8, the blanks at the end of a
string that is read since a time, a list of ids as long as the client's limit, a list of field ids
longer than the server's array. `Carried` says for each call when none of this happens. Where it
holds, apiResult and daemon are the same; where it does not, the outcomes differ. So a client whose
calls are all carried does the same with either handler, whatever else the daemon is doing.
-/

namespace Rdc.Proof.Remote

open Rdc CString Dialogue

/-! ## Results -/

@[simp] theorem apiResult_ok (value : ApiValue) : apiResult .ok value = .ok value := rfl

variable {status : Status}

theorem apiResult_of_ne (h : status ≠ .ok) (value : ApiValue) :
    apiResult status value = .error ⟨status, h⟩ := by
  unfold apiResult Answer.ofStatus
  rw [dif_neg h]

theorem apiResult_ne_ok (h : status ≠ .ok) (value value' : ApiValue) :
    apiResult status value ≠ .ok value' := by
  rw [apiResult_of_ne h]
  intro heq
  cases heq

theorem refused_ne_ok (value : ApiValue) : refused ≠ .ok value :=
  apiResult_ne_ok clientError_ne_ok .none value

theorem apiResult_congr {value value' : ApiValue} (h : status = .ok → value = value') :
    apiResult status value = apiResult status value' := by
  by_cases hok : status = .ok
  · rw [h hok]
  · rw [apiResult_of_ne hok, apiResult_of_ne hok]

theorem outcome_ne_refused (h : status ≠ .clientError) (value : ApiValue) :
    apiResult status value ≠ refused := by
  intro heq
  by_cases hok : status = .ok
  · rw [hok] at heq
    exact refused_ne_ok value heq.symm
  · rw [apiResult_of_ne hok] at heq
    exact h (congrArg Failure.status (Except.error.inj heq))

/-! ## Three kinds of calls -/

/-- The condition under which a call through the standalone handler ends as the one through the
embedded handler: it is necessary for the apiResult to be the same, and enough for the daemon to be
the same as well. -/
structure AgreeIff (P : Prop) (standalone : Option (ApiResult × Daemon))
    (embedded : ApiResult × Daemon) : Prop where
  outcome_iff : standalone.map Prod.fst = some embedded.1 ↔ P
  eq_of : P → standalone = some embedded

/-- The server passes the call on, and the client its status. -/
theorem agreeIff_same (r : ApiResult × Daemon) : AgreeIff True (some r) r :=
  ⟨iff_of_true rfl trivial, fun _ => rfl⟩

theorem agreeIff_read {P : Prop} {o o' : ApiResult} (d : Daemon) (h : o' = o ↔ P) :
    AgreeIff P (some (o', d)) (o, d) := by
  constructor
  · rw [Option.map_some, Option.some_inj]
    exact h
  · intro hP
    rw [h.mpr hP]

theorem agreeIff_request {text : List UInt8} {r : ApiResult × Daemon} (d : Daemon)
    (hne : r.1 ≠ refused) :
    AgreeIff (utf8 text = true) (some (if utf8 text then r else (refused, d))) r := by
  by_cases htext : utf8 text = true
  · rw [if_pos htext]
    exact ⟨iff_of_true rfl htext, fun _ => rfl⟩
  · rw [if_neg htext]
    refine ⟨iff_of_false ?_ htext, fun h => absurd h htext⟩
    intro heq
    exact hne (Option.some.inj heq).symm

theorem receiveText_eq_iff (hne : status ≠ .clientError) {text text' : List UInt8} {n : Nat}
    (htext : status = .ok → strncpyWithNull (cStr text) n = text') :
    StandaloneHandler.receiveText (status, text) n = apiResult status (.text text')
      ↔ utf8 text = true := by
  unfold StandaloneHandler.receiveText
  by_cases hutf8 : utf8 text = true
  · simp only [if_pos hutf8]
    refine iff_of_true (apiResult_congr fun hok => ?_) hutf8
    rw [htext hok]
  · simp only [if_neg hutf8]
    exact iff_of_false (fun heq => outcome_ne_refused hne _ heq.symm) hutf8

/-! ## Texts -/

theorem notMem_strncpyWithNull {bytes : List UInt8} (h : 0 ∉ bytes) (n : Nat) :
    0 ∉ strncpyWithNull bytes n := fun hmem => h (List.mem_of_mem_take hmem)

theorem strncpyWithNull_idem (bytes : List UInt8) (n : Nat) :
    strncpyWithNull (strncpyWithNull bytes n) n = strncpyWithNull bytes n := by
  rw [strncpyWithNull, strncpyWithNull, List.take_take, min_self]

theorem strncpyWithNull_cStr_copy {bytes : List UInt8} (h : 0 ∉ bytes) (n : Nat) :
    strncpyWithNull (cStr (strncpyWithNull bytes n)) n = strncpyWithNull bytes n := by
  rw [cStr_of_notMem (notMem_strncpyWithNull h n), strncpyWithNull_idem]

theorem notMem_cStr (bytes : List UInt8) : 0 ∉ cStr bytes := by
  intro hmem
  have hne := List.mem_takeWhile_imp hmem
  exact absurd hne (by decide)

/-- A string is received as it was sent if it is a text that fits. -/
theorem receives_iff (bytes : List UInt8) :
    (utf8 bytes = true ∧ strncpyWithNull (cStr bytes) rdcMaxStrLength = bytes)
      ↔ IsText rdcMaxStrLength bytes := by
  constructor
  · rintro ⟨hutf8, hcopy⟩
    refine ⟨?_, ?_, hutf8⟩
    · have hlen := List.length_take_le (rdcMaxStrLength - 1) (cStr bytes)
      rw [← strncpyWithNull, hcopy] at hlen
      exact Nat.lt_of_le_pred (by decide) hlen
    · rw [← hcopy]
      exact notMem_strncpyWithNull (notMem_cStr bytes) _
  · intro h
    exact ⟨h.utf8, by rw [cStr_of_notMem h.noZero, strncpyWithNull_of_isText h]⟩

theorem receives_cut_iff (bytes : List UInt8) :
    (utf8 (cutTrailingBlanks bytes) = true
        ∧ strncpyWithNull (cStr (cutTrailingBlanks bytes)) rdcMaxStrLength = bytes)
      ↔ IsText rdcMaxStrLength bytes ∧ withoutTrailingBlanks bytes = bytes := by
  constructor
  · rintro ⟨hutf8, hcopy⟩
    have hzero : 0 ∉ bytes := by
      rw [← hcopy]
      exact notMem_strncpyWithNull (notMem_cStr _) _
    have hcut : cStr (cutTrailingBlanks bytes) = withoutTrailingBlanks bytes :=
      cStr_cut hzero _
    -- the copy is no longer than what was left of the string, which is a prefix of it
    have hblanks : withoutTrailingBlanks bytes = bytes := by
      rw [hcut] at hcopy
      have hlen : bytes.length ≤ (withoutTrailingBlanks bytes).length := by
        conv_lhs => rw [← hcopy]
        exact List.length_take_le' _ _
      exact (List.rdropWhile_prefix _ bytes).eq_of_length_le hlen
    have hsame : cutTrailingBlanks bytes = bytes := by
      rw [cutTrailingBlanks]
      exact List.set_eq_of_length_le (by rw [← withoutTrailingBlanks, hblanks])
    rw [hsame] at hutf8 hcopy
    exact ⟨(receives_iff bytes).mp ⟨hutf8, hcopy⟩, hblanks⟩
  · rintro ⟨htext, hblanks⟩
    obtain ⟨hutf8, hcopy⟩ := arrives_cutTrailingBlanks bytes htext
    exact ⟨hutf8, hcopy.trans hblanks⟩

/-! ## Values -/

/-- A value that a message can carry: an `int64_t`, any double, a string that `fits`. -/
def Transmits (fits : List UInt8 → Prop) (value : RdcFieldValue) : Prop :=
  match value.type with
  | .integer => -2 ^ 63 ≤ value.value.lIntOf ∧ value.value.lIntOf < 2 ^ 63
  | .double => True
  | .string | .blob => fits value.value.strOf

theorem asInt64_u64OfInt_iff (x : Int) :
    asInt64 (u64OfInt x) = x ↔ -2 ^ 63 ≤ x ∧ x < 2 ^ 63 := by
  constructor
  · intro h
    rw [← h]
    unfold asInt64
    rw [Int.bmod_def]
    omega
  · rintro ⟨hlo, hhi⟩
    exact asInt64_u64OfInt hlo hhi

theorem transmits_iff (setStr : List UInt8 → List UInt8) {fits : List UInt8 → Prop}
    (hfits : ∀ bytes, (utf8 (setStr bytes) = true
      ∧ strncpyWithNull (cStr (setStr bytes)) rdcMaxStrLength = bytes) ↔ fits bytes)
    (v : RdcFieldValue) :
    ((FieldValueReply.ofValue setStr v).value.parses = true
        ∧ (FieldValueReply.ofValue setStr v).received.member = v.member)
      ↔ Transmits fits v := by
  obtain ⟨fieldId, status, ts, type, data⟩ := v
  cases type with
  | integer =>
    show (true = true
      ∧ RdcFieldValueData.lInt (asInt64 (u64OfInt data.lIntOf)) = .lInt data.lIntOf) ↔ _
    rw [RdcFieldValueData.lInt.injEq, asInt64_u64OfInt_iff, and_iff_right rfl]
    exact Iff.rfl
  | double =>
    show (true = true ∧ RdcFieldValueData.dbl data.dblOf = .dbl data.dblOf) ↔ True
    exact iff_of_true ⟨rfl, rfl⟩ trivial
  | string =>
    show (utf8 (setStr data.strOf) = true ∧ RdcFieldValueData.str _ = .str data.strOf) ↔ _
    rw [RdcFieldValueData.str.injEq]
    exact hfits data.strOf
  | blob =>
    show (utf8 (setStr data.strOf) = true ∧ RdcFieldValueData.str _ = .str data.strOf) ↔ _
    rw [RdcFieldValueData.str.injEq]
    exact hfits data.strOf

section Reads

variable (c : CacheManager) (gpu field since : Nat) (buffers : CallBuffers)

theorem latestValue_eq_iff :
    (let r := EmbeddedHandler.rdcFieldGetLatestValue c gpu field buffers.value
      let r' := StandaloneHandler.rdcFieldGetLatestValue c gpu field buffers.serverValue
        buffers.value
      apiResult r'.1 (.ofValue r'.2) = apiResult r.1 (.ofValue r.2)
        ↔ (r.1 = .ok → Transmits (IsText rdcMaxStrLength) r.2)) := by
  unfold StandaloneHandler.rdcFieldGetLatestValue ApiService.getLatestFieldValue
  rcases rdcFieldGetLatestValue_cases c gpu field with ⟨-, status, hne, hcall⟩ | ⟨-, entry, hcall⟩
  · simp only [hcall, if_pos hne, true_iff]
    exact fun hok => absurd hok hne
  · -- the server's value is the caller's, apart from the status
    have hway := transmits_iff id receives_iff (latestOf field buffers.serverValue entry)
    have hsame : Transmits (IsText rdcMaxStrLength) (latestOf field buffers.value entry)
        ↔ Transmits (IsText rdcMaxStrLength) (latestOf field buffers.serverValue entry) := Iff.rfl
    simp only [hcall, ne_eq, not_true_eq_false, if_false, hsame, ← hway, true_implies]
    split
    · next hparses =>
        rw [apiResult_ok, apiResult_ok, Except.ok.injEq, ApiValue.ofValue, ApiValue.ofValue,
          ApiValue.sample.injEq, and_iff_right hparses]
        exact ⟨fun h => h.2.2.2, fun h => ⟨rfl, rfl, rfl, h⟩⟩
    · next hparses =>
        exact iff_of_false (refused_ne_ok _) fun h => hparses h.1

/-- What a string has to be that is read since a time. -/
def TrimmedText (bytes : List UInt8) : Prop :=
  IsText rdcMaxStrLength bytes ∧ withoutTrailingBlanks bytes = bytes

theorem valueSince_eq_iff :
    (let r := EmbeddedHandler.rdcFieldGetValueSince c gpu field since buffers.nextSince
        buffers.value
      let r' := StandaloneHandler.rdcFieldGetValueSince c gpu field since buffers.serverNext
        buffers.serverValue buffers.nextSince buffers.value
      apiResult r'.1 (.ofSince r'.2.1 r'.2.2) = apiResult r.1 (.ofSince r.2.1 r.2.2)
        ↔ (r.1 = .ok → Transmits TrimmedText r.2.2)) := by
  unfold StandaloneHandler.rdcFieldGetValueSince ApiService.getFieldSince
  rcases rdcFieldGetValueSince_cases c gpu field since with
    ⟨-, status, hne, hcall⟩ | ⟨-, entry, next, hcall⟩
  · obtain ⟨next, hembedded⟩ := hcall buffers.nextSince buffers.value
    obtain ⟨next', hserver⟩ := hcall buffers.serverNext buffers.serverValue
    simp only [hembedded, hserver, if_pos hne]
    exact iff_of_true (apiResult_congr fun hok => absurd hok hne) fun hok => absurd hok hne
  · have hway := transmits_iff cutTrailingBlanks receives_cut_iff
      (valueOf field buffers.serverValue entry)
    have hsame : Transmits TrimmedText (valueOf field buffers.value entry)
        ↔ Transmits TrimmedText (valueOf field buffers.serverValue entry) := Iff.rfl
    unfold TrimmedText at hsame ⊢
    simp only [hcall, ne_eq, not_true_eq_false, if_false, hsame, ← hway, true_implies]
    split
    · next hparses =>
        rw [apiResult_ok, apiResult_ok, Except.ok.injEq, ApiValue.ofSince, ApiValue.ofSince,
          ApiValue.sampleSince.injEq, and_iff_right hparses]
        exact ⟨fun h => h.2.2.2.2, fun h => ⟨rfl, rfl, rfl, rfl, h⟩⟩
    · next hparses =>
        exact iff_of_false (refused_ne_ok _) fun h => hparses h.1

end Reads

/-! ## Groups -/

/-- A listing arrives if it is shorter than the client's limit. -/
theorem listing_eq_iff (limit : Nat) (r : Status × List Nat) :
    apiResult (StandaloneHandler.allIds limit (ApiService.getAllIds r)).status
        (.ids (StandaloneHandler.allIds limit (ApiService.getAllIds r)).ids)
      = apiResult r.1 (.ids r.2)
      ↔ (r.1 = .ok → r.2.length < limit) := by
  obtain ⟨status, ids⟩ := r
  unfold StandaloneHandler.allIds ApiService.getAllIds
  by_cases hok : status = .ok
  · subst hok
    simp only [ne_eq, not_true_eq_false, if_false, true_implies]
    by_cases hlen : ids.length ≥ limit
    · simp only [if_pos hlen]
      exact iff_of_false (apiResult_ne_ok (by decide) _ _) (Nat.not_lt.mpr hlen)
    · simp only [if_neg hlen, true_iff]
      exact Nat.lt_of_not_le hlen
  · simp only [if_pos (Ne.intro hok)]
    exact iff_of_true (apiResult_congr fun h => absurd h hok) fun h => absurd h hok

theorem gpuGroupInfo_eq_iff (gs : GroupSettings) (groupId : Nat) :
    (StandaloneHandler.rdcGroupGpuGetInfo [] gs groupId).result.map
        (fun info => ApiValue.group info.groupName info.entityIds)
      = (EmbeddedHandler.finding (gs.rdcGroupGpuGetInfo groupId) fun info =>
          .group info.groupName info.entityIds)
      ↔ ∀ info, gs.rdcGroupGpuGetInfo groupId = .ok info →
          IsText rdcMaxStrLength info.groupName := by
  unfold StandaloneHandler.rdcGroupGpuGetInfo ApiService.getGpuGroupInfo EmbeddedHandler.finding
  cases hget : gs.rdcGroupGpuGetInfo groupId with
  | error status =>
    obtain rfl := rdcGroupGpuGetInfo_error hget
    exact iff_of_true rfl fun info h => by cases h
  | ok info =>
    have hiff := receives_iff info.groupName
    simp only [Except.ok.injEq, forall_eq', ← hiff, dif_pos info.count_le]
    split
    · next hutf8 =>
        show (Except.ok (ApiValue.group _ _) : ApiResult) = .ok (.group _ _) ↔ _
        simp [hutf8]
    · next hutf8 =>
        exact iff_of_false (refused_ne_ok _) fun h => hutf8 h.1

theorem fieldGroupInfo_eq_iff (gs : GroupSettings) (fieldGroupId : Nat) :
    StandaloneHandler.rdcGroupFieldGetInfo gs fieldGroupId
      = (EmbeddedHandler.finding (gs.rdcGroupFieldGetInfo fieldGroupId) fun info =>
          .group info.groupName info.fieldIds)
      ↔ ∀ info, gs.rdcGroupFieldGetInfo fieldGroupId = .ok info →
          IsText rdcMaxStrLength info.groupName := by
  unfold StandaloneHandler.rdcGroupFieldGetInfo ApiService.getFieldGroupInfo
    EmbeddedHandler.finding
  cases hget : gs.rdcGroupFieldGetInfo fieldGroupId with
  | error status =>
    obtain rfl := rdcGroupFieldGetInfo_error hget
    exact iff_of_true rfl fun info h => by cases h
  | ok info =>
    have hiff := receives_iff info.groupName
    simp only [Except.ok.injEq, forall_eq', ← hiff, ne_eq, not_true_eq_false, if_false,
      if_neg (Nat.not_lt.mpr info.count_le)]
    split
    · next hutf8 => simp [hutf8]
    · next hutf8 =>
        exact iff_of_false (refused_ne_ok _) fun h => hutf8 h.1

/-! ## The status of the client library

No call of the embedded handler ends with it, so a refused message shows. -/

section Statuses

variable (tel : Telemetry) (answers : CallAnswers) (d : Daemon)

theorem rdcDeviceGetAll_ne {i : Nat}
    (h : EmbeddedHandler.rdcDeviceGetAll answers.deviceCount (answers.queries i) = .error status) :
    status ≠ .clientError := by
  unfold CallAnswers.queries at h
  cases hquery : answers.query i with
  | none =>
    rw [hquery] at h
    cases h
  | some failure =>
    rw [hquery] at h
    cases h
    exact failure.ne_clientError

theorem fetchGauges_ne {fetch : Nat → Nat → Except SmiFailure Nat} (gpus : List Nat)
    (gauges : RdcGpuGauges)
    (h : EmbeddedHandler.fetchGauges (fun gpu field => (fetch gpu field).mapError (·.toFailure))
      gpus gauges = .error status) : status ≠ .clientError := by
  induction gpus generalizing gauges with
  | nil => cases h
  | cons gpu gpus ih =>
    rw [EmbeddedHandler.fetchGauges] at h
    cases hfetch : fetch gpu rdcFiGpuMemoryTotal with
    | error failure =>
      rw [hfetch] at h
      cases h
      exact failure.ne_clientError
    | ok total =>
      rw [hfetch] at h
      exact ih _ h

theorem gauges_ne (h : answers.gauges = .error status) : status ≠ .clientError := by
  unfold CallAnswers.gauges EmbeddedHandler.getGpuGauges at h
  split at h
  · next hall =>
      cases h
      exact rdcDeviceGetAll_ne answers hall
  · exact fetchGauges_ne _ _ h

theorem withGauges_ne {call : RdcGpuGauges → Status × Daemon}
    (h : ∀ gauges, (call gauges).1 ≠ .clientError) :
    (EmbeddedHandler.withGauges answers d call).1 ≠ .clientError := by
  unfold EmbeddedHandler.withGauges
  split
  · next hgauges => exact gauges_ne answers hgauges
  · next gauges _ => exact h gauges

theorem rdcFieldWatch_ne (g fg freq : Nat) (age : ℚ) (samples : Nat) :
    (d.rdcFieldWatch tel g fg freq age samples).1 ≠ .clientError := by
  rcases rdcFieldWatch_cases tel d g fg freq age samples with
    ⟨_, _, heq⟩ | ⟨_, _, heq⟩ | ⟨_, _, _, _, _, heq⟩ <;> simp [heq]

theorem rdcJobStartStats_ne (g : Nat) (jobId : JobId) (freq : Nat) :
    (EmbeddedHandler.rdcJobStartStats tel answers d g jobId freq).1 ≠ .clientError := by
  refine withGauges_ne answers d fun gauges => ?_
  rcases rdcJobStartStats_cases tel d g jobId freq gauges answers.now with
    ⟨_, heq⟩ | ⟨_, _, heq⟩ | ⟨_, _, _, _, _, _, heq⟩
  · simp [heq]
  · simp [heq]
  · rw [heq]
    exact rdcFieldWatch_ne tel _ g jobFieldId freq 0 0

theorem rdcFieldUnwatch_ne (g fg now : Nat) :
    (d.rdcFieldUnwatch g fg now).1 ≠ .clientError := by
  rcases rdcFieldUnwatch_cases d g fg now with
    ⟨_, heq⟩ | ⟨_, _, ⟨_, heq⟩ | ⟨_, _, _, _, _, heq⟩⟩ <;> simp [heq]

theorem endJob_ne (jobId : JobId) (gauges : RdcGpuGauges) (time : Nat) :
    (endJob d jobId gauges time).1 ≠ .clientError := by
  unfold endJob CacheManager.rdcJobStopStats
  dsimp only
  split <;> simp

theorem rdcJobStopStats_ne (jobId : JobId) :
    (EmbeddedHandler.rdcJobStopStats answers d jobId).1 ≠ .clientError := by
  refine withGauges_ne answers d fun gauges => ?_
  rcases rdcJobStopStats_cases d jobId gauges (answers.stop jobId) with
    ⟨_, heq⟩ | ⟨job, _, ⟨_, heq⟩ | ⟨_, heq⟩⟩
  · simp [heq]
  · rw [heq]
    exact rdcFieldUnwatch_ne d job.groupId jobFieldId _
  · rw [heq]
    exact endJob_ne _ jobId gauges _

theorem rdcJobRemove_ne (jobId : JobId) :
    (EmbeddedHandler.rdcJobRemove answers d jobId).1 ≠ .clientError := by
  unfold EmbeddedHandler.rdcJobRemove
  simp [rdcJobRemove_run]

theorem rdcGroupGpuAdd_ne (gs : GroupSettings) (groupId gpuIndex i : Nat) :
    (EmbeddedHandler.rdcGroupGpuAdd answers.deviceCount gs groupId gpuIndex (answers.queries i)).1
      ≠ .clientError := by
  unfold EmbeddedHandler.rdcGroupGpuAdd
  split
  · next hall => exact rdcDeviceGetAll_ne answers hall
  · split
    · unfold GroupSettings.rdcGroupGpuAdd
      split
      · simp
      · split
        · simp
        · split <;> simp
    · simp

theorem addAll_ne (groupId : Nat) (gpus : List Nat) {r : Status × GroupSettings}
    (h : r.1 ≠ .clientError) :
    (EmbeddedHandler.addAll answers.deviceCount groupId answers.queries gpus r).1
      ≠ .clientError := by
  unfold EmbeddedHandler.addAll
  induction gpus generalizing r with
  | nil => exact h
  | cons gpu gpus ih => exact ih (rdcGroupGpuAdd_ne answers _ groupId gpu _)

theorem rdcGroupGpuCreate_ne (gs : GroupSettings) (type : RdcGroupType) (groupName : List UInt8) :
    (EmbeddedHandler.rdcGroupGpuCreate answers.deviceCount gs type groupName answers.queries).1
      ≠ .clientError := by
  unfold EmbeddedHandler.rdcGroupGpuCreate GroupSettings.rdcGroupGpuCreate
  by_cases hfull : gs.gpuGroup.size ≥ rdcMaxNumGroups
  · simp [if_pos hfull]
  · simp only [if_neg hfull]
    split
    · simp
    · split
      · next hall => exact rdcDeviceGetAll_ne answers hall
      · exact addAll_ne answers _ _ (by simp)

theorem rdcGroupFieldCreate_ne (gs : GroupSettings) (fieldIds : List Nat)
    (fieldGroupName : List UInt8) :
    (EmbeddedHandler.rdcGroupFieldCreate gs fieldIds fieldGroupName).1 ≠ .clientError := by
  unfold EmbeddedHandler.rdcGroupFieldCreate GroupSettings.rdcGroupFieldCreate
  split
  · split
    · split <;> simp
    · simp
  · simp

end Statuses

/-! ## Creating groups -/

/-- A failed call sends no id, and a caller does not look for one. -/
theorem outcome_id_congr (status : Status) (id : Option Nat) :
    apiResult status (.id ((if status ≠ .ok then none else id).getD 0))
      = apiResult status (.id (id.getD 0)) := by
  refine apiResult_congr fun hok => ?_
  rw [if_neg (not_not.mpr hok)]

theorem agreeIff_gpuCreate (answers : CallAnswers) (d : Daemon) (type : RdcGroupType)
    (groupName : CText) :
    AgreeIff (utf8 groupName.bytes = true)
      (some (StandaloneHandler.rdcGroupGpuCreateOfType answers d type groupName.bytes))
      (EmbeddedHandler.creating d (EmbeddedHandler.rdcGroupGpuCreate answers.deviceCount
        d.groupSettings type groupName.bytes answers.queries)) := by
  unfold StandaloneHandler.rdcGroupGpuCreateOfType ApiService.createGpuGroupOfType
    EmbeddedHandler.creating
  rw [cStr_of_notMem groupName.noZero]
  have hne := rdcGroupGpuCreate_ne answers d.groupSettings type groupName.bytes
  generalize EmbeddedHandler.rdcGroupGpuCreate answers.deviceCount d.groupSettings type
    groupName.bytes answers.queries = r at hne ⊢
  have hreply : ∀ r : Status × Option Nat × GroupSettings,
      (if r.1 ≠ .ok then (⟨r.1, none⟩ : CreateGpuGroupResponse) else ⟨r.1, r.2.1⟩)
        = ⟨r.1, if r.1 ≠ .ok then none else r.2.1⟩ := by
    intro r
    split <;> rfl
  simp only [hreply, outcome_id_congr]
  exact agreeIff_request d (outcome_ne_refused hne _)

theorem agreeIff_fieldCreate (buffers : CallBuffers) (d : Daemon) (fieldIds : List Nat)
    (fieldGroupName : CText) :
    AgreeIff (fieldIds.length ≤ rdcMaxFieldIdsPerFieldGroup ∧ utf8 fieldGroupName.bytes = true)
      (StandaloneHandler.createFieldGroup buffers d fieldIds fieldGroupName.bytes)
      (EmbeddedHandler.creating d
        (EmbeddedHandler.rdcGroupFieldCreate d.groupSettings fieldIds fieldGroupName.bytes)) := by
  have hne := rdcGroupFieldCreate_ne d.groupSettings fieldIds fieldGroupName.bytes
  unfold StandaloneHandler.createFieldGroup
  rw [cStr_of_notMem fieldGroupName.noZero]
  by_cases hlen : fieldIds.length ≤ rdcMaxFieldIdsPerFieldGroup
  · have hcreate : (StandaloneHandler.rdcGroupFieldCreate d.groupSettings fieldIds
          fieldGroupName.bytes buffers.serverFieldIds).map
          (fun r => (apiResult r.1 (.id (r.2.1.getD 0)), { d with groupSettings := r.2.2 }))
        = some (EmbeddedHandler.creating d (EmbeddedHandler.rdcGroupFieldCreate d.groupSettings
            fieldIds fieldGroupName.bytes)) := by
      unfold StandaloneHandler.rdcGroupFieldCreate ApiService.createFieldGroup
        EmbeddedHandler.creating
      rw [copyFieldIds_eq, if_pos hlen]
      by_cases hok : (EmbeddedHandler.rdcGroupFieldCreate d.groupSettings fieldIds
          fieldGroupName.bytes).1 = .ok
      · simp [hok]
      · simp [hok, apiResult_of_ne hok]
    rw [hcreate, ← apply_ite some, and_iff_right hlen]
    exact agreeIff_request d (outcome_ne_refused hne _)
  · -- a list that is too long overruns the server's array, unless its name is refused first
    have hnone : StandaloneHandler.rdcGroupFieldCreate d.groupSettings fieldIds
        fieldGroupName.bytes buffers.serverFieldIds = none :=
      rdcGroupFieldCreate_of_lt (Nat.lt_of_not_le hlen) ..
    rw [hnone]
    refine ⟨iff_of_false ?_ fun h => hlen h.1, fun h => absurd h.1 hlen⟩
    split
    · simp
    · intro heq
      exact outcome_ne_refused hne _ (Option.some.inj heq).symm

/-! ## Which calls are carried -/

/-- What has to be the case for a call to end as it would without the way through the daemon. -/
def Carried (answers : CallAnswers) (buffers : CallBuffers) (d : Daemon) : ApiCall → Prop
  | .deviceGetAttributes gpuIndex =>
    utf8 (EmbeddedHandler.rdcDeviceGetAttributes answers gpuIndex).2 = true
  | .deviceGetComponentVersion component =>
    utf8 (EmbeddedHandler.rdcDeviceGetComponentVersion answers buffers.serverVersion component).2
      = true
  | .groupGpuCreate _ groupName => utf8 groupName.bytes = true
  | .groupGpuGetInfo groupId =>
    ∀ info, d.groupSettings.rdcGroupGpuGetInfo groupId = .ok info →
      IsText rdcMaxStrLength info.groupName
  | .groupGetAllIds =>
    d.groupSettings.rdcGroupGetAllIds.1 = .ok →
      d.groupSettings.rdcGroupGetAllIds.2.length < rdcMaxNumGroups
  | .groupFieldCreate fieldIds fieldGroupName =>
    fieldIds.length ≤ rdcMaxFieldIdsPerFieldGroup ∧ utf8 fieldGroupName.bytes = true
  | .groupFieldGetInfo fieldGroupId =>
    ∀ info, d.groupSettings.rdcGroupFieldGetInfo fieldGroupId = .ok info →
      IsText rdcMaxStrLength info.groupName
  | .groupFieldGetAllIds =>
    d.groupSettings.rdcGroupFieldGetAllIds.1 = .ok →
      d.groupSettings.rdcGroupFieldGetAllIds.2.length < rdcMaxNumFieldGroups
  | .fieldGetLatestValue gpuIndex field =>
    let r := EmbeddedHandler.rdcFieldGetLatestValue d.cacheMgr gpuIndex field buffers.value
    r.1 = .ok → Transmits (IsText rdcMaxStrLength) r.2
  | .fieldGetValueSince gpuIndex field since =>
    let r := EmbeddedHandler.rdcFieldGetValueSince d.cacheMgr gpuIndex field since
      buffers.nextSince buffers.value
    r.1 = .ok → Transmits TrimmedText r.2.2
  | .jobStartStats _ jobId _ | .jobStopStats jobId | .jobRemove jobId => utf8 jobId.bytes = true
  | .deviceGetAll | .groupGpuAdd .. | .groupGpuDestroy _ | .groupFieldDestroy _ | .fieldWatch ..
  | .fieldUnwatch .. | .fieldUpdateAll _ | .jobRemoveAll => True

section Devices

variable (answers : CallAnswers) (buffers : CallBuffers)

theorem deviceGetAll_eq :
    StandaloneHandler.rdcDeviceGetAll answers
      = EmbeddedHandler.finding
          (EmbeddedHandler.rdcDeviceGetAll answers.deviceCount (answers.queries 0)) .ids := by
  unfold StandaloneHandler.rdcDeviceGetAll ApiService.getAllDevices EmbeddedHandler.rdcDeviceGetAll
    EmbeddedHandler.finding
  cases answers.queries 0 with
  | none =>
    have hle : ¬ (List.range answers.deviceCount).length > rdcMaxNumDevices := by
      rw [List.length_range]
      exact Nat.not_lt.mpr answers.deviceCount_le
    simp only [ne_eq, not_true_eq_false, if_false, if_neg hle]
  | some failure => simp only [if_pos failure.ne_ok]

theorem deviceAttributes_eq_iff (gpuIndex : Nat) :
    StandaloneHandler.rdcDeviceGetAttributes answers gpuIndex
      = apiResult (EmbeddedHandler.rdcDeviceGetAttributes answers gpuIndex).1
          (.text (EmbeddedHandler.rdcDeviceGetAttributes answers gpuIndex).2)
      ↔ utf8 (EmbeddedHandler.rdcDeviceGetAttributes answers gpuIndex).2 = true := by
  refine receiveText_eq_iff ?_ fun _ =>
    strncpyWithNull_cStr_copy (answers.deviceName gpuIndex).2.noZero _
  cases (answers.deviceName gpuIndex).1 with
  | none => exact Status.noConfusion
  | some failure => exact failure.ne_clientError

theorem componentVersion_eq_iff (component : RdcComponent) :
    StandaloneHandler.rdcDeviceGetComponentVersion answers buffers component
      = apiResult (EmbeddedHandler.rdcDeviceGetComponentVersion answers buffers.version component).1
          (.text
            (EmbeddedHandler.rdcDeviceGetComponentVersion answers buffers.version component).2)
      ↔ utf8 (EmbeddedHandler.rdcDeviceGetComponentVersion answers buffers.serverVersion
          component).2 = true := by
  cases component with
  | amdsmi =>
    unfold StandaloneHandler.rdcDeviceGetComponentVersion
      EmbeddedHandler.rdcDeviceGetComponentVersion
    cases answers.libVersion with
    | none => exact receiveText_eq_iff (by decide) fun h => by cases h
    | some build =>
      exact receiveText_eq_iff (by decide) fun _ => strncpyWithNull_cStr_copy build.noZero _
  | other => exact receiveText_eq_iff (by decide) fun h => by cases h

end Devices

/-- A carried call has the result, and leaves the daemon, of the same call in the daemon's own
process; any other call has another result. -/
theorem agreeIff_call (tel : Telemetry) (answers : CallAnswers) (buffers : CallBuffers)
    (d : Daemon) (call : ApiCall) :
    AgreeIff (Carried answers buffers d call) (StandaloneHandler.call tel answers buffers d call)
      (EmbeddedHandler.call tel answers buffers d call) := by
  cases call with
  | deviceGetAll => exact agreeIff_read d (iff_of_true (deviceGetAll_eq answers) trivial)
  | deviceGetAttributes gpuIndex => exact agreeIff_read d (deviceAttributes_eq_iff answers gpuIndex)
  | deviceGetComponentVersion component =>
    exact agreeIff_read d (componentVersion_eq_iff answers buffers component)
  | groupGpuCreate type groupName => exact agreeIff_gpuCreate answers d type groupName
  | groupGpuGetInfo groupId => exact agreeIff_read d (gpuGroupInfo_eq_iff _ groupId)
  | groupGetAllIds => exact agreeIff_read d (listing_eq_iff _ _)
  | groupFieldCreate fieldIds fieldGroupName =>
    exact agreeIff_fieldCreate buffers d fieldIds fieldGroupName
  | groupFieldGetInfo fieldGroupId =>
    exact agreeIff_read d (fieldGroupInfo_eq_iff _ fieldGroupId)
  | groupFieldGetAllIds => exact agreeIff_read d (listing_eq_iff _ _)
  | fieldGetLatestValue gpuIndex field =>
    exact agreeIff_read d (latestValue_eq_iff d.cacheMgr gpuIndex field buffers)
  | fieldGetValueSince gpuIndex field since =>
    exact agreeIff_read d (valueSince_eq_iff d.cacheMgr gpuIndex field since buffers)
  | jobStartStats groupId jobId updateFreq =>
    show AgreeIff _ (some (if utf8 jobId.bytes then _ else _)) _
    rw [cStr_of_notMem jobId.noZero]
    exact agreeIff_request d (outcome_ne_refused (rdcJobStartStats_ne tel answers d _ _ _) _)
  | jobStopStats jobId =>
    show AgreeIff _ (some (if utf8 jobId.bytes then _ else _)) _
    rw [cStr_of_notMem jobId.noZero]
    exact agreeIff_request d (outcome_ne_refused (rdcJobStopStats_ne answers d _) _)
  | jobRemove jobId =>
    show AgreeIff _ (some (if utf8 jobId.bytes then _ else _)) _
    rw [cStr_of_notMem jobId.noZero]
    exact agreeIff_request d (outcome_ne_refused (rdcJobRemove_ne answers d _) _)
  | _ => exact agreeIff_same _

/-! ## Clients -/

/-- A call that is carried when it comes to the daemon. -/
def CarriedAt (tel : Telemetry) (moments : Nat → Moment) (n : Nat) (call : ApiCall) (d : Daemon) :
    Prop :=
  Carried (moments n).answers (moments n).buffers ((moments n).before tel d) call

/-- **A remote daemon is told from an embedded one by exactly the calls that are not carried.** A
client that makes only carried calls, whatever it does with their outcomes and whatever others do to
the daemon meanwhile, does the same with either handler and leaves the same daemon; and each call
that is not carried is by itself a client with which the two do not end alike. -/
theorem client_tells_apart_iff (tel : Telemetry) (moments : Nat → Moment) (d : Daemon) :
    (∀ (α : Type) (client : ApiClient α),
      client.Always (fun n => (moments n).embedded tel) (CarriedAt tel moments) 0 d →
        client.run (fun n => (moments n).standalone tel) 0 d
          = client.run (fun n => (moments n).embedded tel) 0 d)
    ∧ ∀ call, ¬ CarriedAt tel moments 0 call d →
        (Client.call call Client.done).run (fun n => (moments n).standalone tel) 0 d
          ≠ (Client.call call Client.done).run (fun n => (moments n).embedded tel) 0 d := by
  constructor
  · intro α client hcarried
    refine Client.run_congr ?_ client 0 d hcarried
    intro n call d hcall
    exact (agreeIff_call tel _ _ _ call).eq_of hcall
  · intro call hnot heq
    refine hnot ((agreeIff_call tel _ _ _ call).outcome_iff.mp ?_)
    simp only [Client.run, Moment.standalone, Moment.embedded] at heq
    cases hserve : StandaloneHandler.call tel (moments 0).answers (moments 0).buffers
        ((moments 0).before tel d) call with
    | none =>
      rw [hserve] at heq
      cases heq
    | some r =>
      rw [hserve] at heq
      rw [Option.map_some]
      exact congrArg (Option.map Prod.fst) heq

/-- A name of one byte. -/
def oneByte (b : UInt8) (h : 0 ≠ b) : CText := ⟨[b], fun hmem => h (List.mem_singleton.mp hmem)⟩

/-- A machine with one GPU, on which everything succeeds and nobody else is there. -/
def quiet : Moment where
  others := []
  answers := {
    deviceCount := 1
    deviceCount_le := Nat.le_of_ble_eq_true rfl
    query := fun _ => none
    fetch := fun _ _ => .ok 0
    deviceName := fun _ => (none, oneByte 77 (by decide))
    libVersion := some (oneByte 49 (by decide))
    now := 0
    delivered := []
    cleanUp := ⟨0, fun _ => 0⟩
    stop := fun _ => ⟨0, 0⟩ }
  buffers := {
    value := ⟨0, 0, 0, .integer, .lInt 0⟩
    nextSince := 0
    version := oneByte 1 (by decide)
    serverValue := ⟨0, 7, 0, .integer, .lInt 0⟩
    serverNext := 0
    serverVersion := oneByte 2 (by decide)
    serverFieldIds := Vector.replicate _ 0 }

/-- Create a group, and add a GPU to it if that succeeded. -/
def createAndAdd : ApiClient ApiResult :=
  .call (.groupGpuCreate .empty (oneByte 97 (by decide))) fun
    | .ok (.id groupId) => .call (.groupGpuAdd groupId 0) .done
    | other => .done other

/-- A group with a name is created from either side; a group whose name is a lone 255 only in the
daemon's own process. -/
theorem client_tells_apart_iff_names :
    createAndAdd.run (fun _ => quiet.standalone .smiOnly) 0 Daemon.init
        = createAndAdd.run (fun _ => quiet.embedded .smiOnly) 0 Daemon.init
      ∧ (Client.call (.groupGpuCreate .empty (oneByte 255 (by decide))) Client.done).run
          (fun _ => quiet.standalone .smiOnly) 0 Daemon.init
        ≠ (Client.call (.groupGpuCreate .empty (oneByte 255 (by decide))) Client.done).run
          (fun _ => quiet.embedded .smiOnly) 0 Daemon.init := by
  obtain ⟨hsame, htold⟩ := client_tells_apart_iff .smiOnly (fun _ => quiet) Daemon.init
  have hname : utf8 [97] = true := by decide
  have hnoName : ¬ utf8 [255] = true := by decide
  refine ⟨hsame ApiResult createAndAdd ⟨hname, fun answer d _ => ?_⟩, htold _ hnoName⟩
  dsimp only
  split
  · exact ⟨trivial, fun _ _ _ => trivial⟩
  · exact trivial

end Rdc.Proof.Remote
