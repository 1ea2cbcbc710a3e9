import Rdc.ReadRequests
import Rdc.Proof.Drain

/-!
# Field values read from another process

A sample goes from the cache into a buffer of the server, from there into a message, and from the
message into the value of the client's caller. The integer is unsigned on the way, a double comes
out of `rdc_field_get_value_since` through the integer of the union, and a string has the blanks at
its end cut off there by a zero, which the client's copy stops at. All of it fits together: the
caller has what a caller inside the daemon would have.
-/

namespace Rdc.Proof

open Rdc CString

/-! ## What a value says -/

/-- The member of the union that the type names. -/
def payload (type : RdcFieldType) (data : RdcFieldValueData) : RdcFieldValueData :=
  match type with
  | .integer => .lInt data.lIntOf
  | .double => .dbl data.dblOf
  | .string | .blob => .str data.strOf

/-- Data of a type as the types of the source have it: an `int64_t`, the 64 bits of a double, or a
text of fewer than 256 bytes. -/
def IsData (type : RdcFieldType) (data : RdcFieldValueData) : Prop :=
  match type with
  | .integer => -2 ^ 63 ≤ data.lIntOf ∧ data.lIntOf < 2 ^ 63
  | .double => data.dblOf < 2 ^ 64
  | .string => ∃ bytes, data = .str bytes ∧ IsText rdcMaxStrLength bytes
  | .blob => False

/-- The data with a string trimmed. -/
def mapStr (trim : List UInt8 → List UInt8) : RdcFieldValueData → RdcFieldValueData
  | .lInt value => .lInt value
  | .dbl bits => .dbl bits
  | .str bytes => .str (trim bytes)

/-- Without the blanks at its end. -/
def withoutTrailingBlanks (bytes : List UInt8) : List UInt8 := bytes.rdropWhile (· == 32)

/-- The value is that of a sample of the field, up to what is done to a string. The status is no
part of it. -/
structure ShowsSample (trim : List UInt8 → List UInt8) (field : Nat) (entry : RdcCacheEntry)
    (v : RdcFieldValue) : Prop where
  fieldId : v.fieldId = field
  ts : v.ts = entry.lastTime
  type : v.type = entry.type
  payload : payload v.type v.value = mapStr trim (payload entry.type entry.value)

/-! ## There and back -/

theorem asInt64_u64OfInt {x : Int} (hlo : -2 ^ 63 ≤ x) (hhi : x < 2 ^ 63) :
    asInt64 (u64OfInt x) = x := by
  unfold asInt64 u64OfInt
  rw [Int.bmod_def]
  omega

theorem toNat_asInt64 {bits : Nat} (h : bits < 2 ^ 64) : (asInt64 bits % 2 ^ 64).toNat = bits := by
  unfold asInt64
  rw [Int.bmod_def]
  omega

/-- The bits of a double survive the integer of the union. -/
theorem dblOf_lInt_lIntOf {data : RdcFieldValueData} (h : data.dblOf < 2 ^ 64) :
    (RdcFieldValueData.lInt data.lIntOf).dblOf = data.dblOf := by
  cases data with
  | lInt value => rfl
  | dbl bits =>
    simp only [RdcFieldValueData.dblOf, RdcFieldValueData.lIntOf] at h ⊢
    exact toNat_asInt64 h
  | str bytes =>
    simp only [RdcFieldValueData.dblOf, RdcFieldValueData.lIntOf] at h ⊢
    exact toNat_asInt64 h

theorem strncpyWithNull_of_isText {n : Nat} {bytes : List UInt8} (h : IsText n bytes) :
    strncpyWithNull bytes n = bytes := h.take_pred

/-- What the server may do to a string: the message is still accepted, and the client's copy of it
is the trimmed text. -/
def Arrives (setStr trim : List UInt8 → List UInt8) : Prop :=
  ∀ bytes, IsText rdcMaxStrLength bytes →
    utf8 (setStr bytes) = true
      ∧ strncpyWithNull (cStr (setStr bytes)) rdcMaxStrLength = trim bytes

theorem arrives_id : Arrives id id := by
  intro bytes h
  refine ⟨h.utf8, ?_⟩
  rw [id, cStr_of_notMem h.noZero, strncpyWithNull_of_isText h]

theorem arrives_cutTrailingBlanks : Arrives cutTrailingBlanks withoutTrailingBlanks := by
  intro bytes h
  have hascii : ∀ b : UInt8, (b == 32) = true → b < 128 := by
    intro b hb
    rw [beq_iff_eq.mp hb]
    decide
  refine ⟨utf8_cut h.utf8 hascii, ?_⟩
  have hlen : (bytes.rdropWhile (· == 32)).length ≤ bytes.length :=
    (List.rdropWhile_prefix _ bytes).length_le
  have hlt := h.length_lt
  rw [cutTrailingBlanks, cStr_cut h.noZero]
  exact List.take_of_length_le (by omega)

/-- A value that the server sends is accepted, and its data are received as they were. -/
theorem received_payload {setStr trim : List UInt8 → List UInt8} (harrives : Arrives setStr trim)
    {v : RdcFieldValue} (h : IsData v.type v.value) :
    (FieldValueReply.ofValue setStr v).value.parses = true
      ∧ payload v.type (FieldValueReply.ofValue setStr v).received.value
        = mapStr trim (payload v.type v.value) := by
  obtain ⟨fieldId, status, ts, type, data⟩ := v
  cases type with
  | integer =>
    refine ⟨rfl, ?_⟩
    show RdcFieldValueData.lInt (asInt64 (u64OfInt data.lIntOf)) = .lInt data.lIntOf
    rw [asInt64_u64OfInt h.1 h.2]
  | double => exact ⟨rfl, rfl⟩
  | string =>
    obtain ⟨bytes, hbytes, htext⟩ := h
    dsimp only at hbytes
    subst hbytes
    obtain ⟨hutf8, hcopy⟩ := harrives bytes htext
    refine ⟨hutf8, ?_⟩
    show RdcFieldValueData.str (strncpyWithNull (cStr (setStr bytes)) rdcMaxStrLength)
      = .str (trim bytes)
    rw [hcopy]
  | blob => exact h.elim

theorem mapStr_id (data : RdcFieldValueData) : mapStr id data = data := by cases data <;> rfl

variable {entry : RdcCacheEntry}

/-- A buffer of the server that shows a sample: the reply is accepted, and the client's value shows
the sample too. -/
theorem showsSample_received {setStr trim : List UInt8 → List UInt8}
    (harrives : Arrives setStr trim) {field : Nat} {v : RdcFieldValue}
    (h : ShowsSample id field entry v) (hdata : IsData v.type v.value) :
    (FieldValueReply.ofValue setStr v).value.parses = true
      ∧ ShowsSample trim field entry (FieldValueReply.ofValue setStr v).received := by
  obtain ⟨hparses, hpayload⟩ := received_payload harrives hdata
  rw [h.payload, mapStr_id] at hpayload
  refine ⟨hparses, ?_⟩
  unfold FieldValueReply.received FieldValueReply.ofValue at hpayload ⊢
  exact ⟨h.fieldId, h.ts, h.type, hpayload⟩

/-! ## The two calls -/

section Calls

variable (c : CacheManager) (gpu field since : Nat)

/-- What a caller of `rdc_field_get_latest_value` receives for a sample. -/
def latestOf (field : Nat) (value : RdcFieldValue) (entry : RdcCacheEntry) : RdcFieldValue :=
  { value with ts := entry.lastTime, type := entry.type, value := entry.value, fieldId := field }

/-- The latest value of a field that is known and has a sample is that of the last one. -/
theorem rdcFieldGetLatestValue_of_last (hvalid : isFieldValid field = true)
    (hlast : (c.history gpu field).getLast? = some entry) (value : RdcFieldValue) :
    EmbeddedHandler.rdcFieldGetLatestValue c gpu field value
      = (.ok, latestOf field value entry) := by
  unfold CacheManager.history at hlast
  unfold EmbeddedHandler.rdcFieldGetLatestValue CacheManager.rdcFieldGetLatestValue
  rw [if_pos hvalid]
  cases hsamples : c.cacheSamples[(gpu, field)]? with
  | none =>
    rw [hsamples] at hlast
    cases hlast
  | some samples =>
    rw [hsamples, Option.getD_some] at hlast
    rw [Option.bind_some, hlast]
    rfl

theorem rdcFieldGetLatestValue_refused
    (h : ¬ (isFieldValid field = true ∧ c.history gpu field ≠ [])) :
    ∃ status, status ≠ .ok
      ∧ ∀ value, EmbeddedHandler.rdcFieldGetLatestValue c gpu field value = (status, value) := by
  unfold EmbeddedHandler.rdcFieldGetLatestValue CacheManager.rdcFieldGetLatestValue
  by_cases hvalid : isFieldValid field = true
  · have hnil : c.history gpu field = [] := by
      by_contra hne
      exact h ⟨hvalid, hne⟩
    refine ⟨.notFound, by decide, fun value => ?_⟩
    rw [if_pos hvalid]
    unfold CacheManager.history at hnil
    cases hsamples : c.cacheSamples[(gpu, field)]? with
    | none => rfl
    | some samples =>
      rw [hsamples, Option.getD_some] at hnil
      rw [hnil]
      rfl
  · exact ⟨.notSupported, by decide, fun value => if_neg hvalid⟩

theorem rdcFieldGetLatestValue_cases :
    (¬ (isFieldValid field = true ∧ c.history gpu field ≠ [])
      ∧ ∃ status, status ≠ .ok
        ∧ ∀ value, EmbeddedHandler.rdcFieldGetLatestValue c gpu field value = (status, value))
    ∨ (isFieldValid field = true ∧ c.history gpu field ≠ [])
      ∧ ∃ entry, ∀ value, EmbeddedHandler.rdcFieldGetLatestValue c gpu field value
          = (.ok, latestOf field value entry) := by
  by_cases h : isFieldValid field = true ∧ c.history gpu field ≠ []
  · obtain ⟨entry, hlast⟩ := Option.ne_none_iff_exists'.mp
      (mt List.getLast?_eq_none_iff.mp h.2)
    exact .inr ⟨h, entry, rdcFieldGetLatestValue_of_last c gpu field h.1 hlast⟩
  · exact .inl ⟨h, rdcFieldGetLatestValue_refused c gpu field h⟩

/-- The scan stops at the first sample at or after the time. -/
theorem map_fst_scanSince (since : Nat) (xs : List RdcCacheEntry) :
    (CacheManager.scanSince since xs).map Prod.fst
      = xs.find? fun x => decide (since ≤ x.lastTime) := by
  induction xs with
  | nil => rfl
  | cons x xs ih =>
    by_cases hx : since ≤ x.lastTime
    · rw [scanSince_cons hx, List.find?_cons_of_pos (by simpa using hx)]
      rfl
    · rw [List.find?_cons_of_neg (by simpa using hx), ← ih]
      exact congrArg (Option.map Prod.fst)
        (scanSince_append (fun y hy => by rw [List.mem_singleton.mp hy]; omega) xs :
          CacheManager.scanSince since ([x] ++ xs) = CacheManager.scanSince since xs)

/-- The value since a time of a field that is known is that of the first sample at or after it. -/
theorem rdcFieldGetValueSince_of_first (hvalid : isFieldValid field = true)
    (hfirst : (c.history gpu field).find? (fun x => decide (since ≤ x.lastTime)) = some entry) :
    ∃ next, ∀ nextTs value, EmbeddedHandler.rdcFieldGetValueSince c gpu field since nextTs value
      = (.ok, next, valueOf field value entry) := by
  rw [← map_fst_scanSince] at hfirst
  obtain ⟨⟨entry', next⟩, hscan, rfl⟩ := Option.map_eq_some_iff.mp hfirst
  refine ⟨next, fun nextTs value => ?_⟩
  exact (if_pos hvalid).trans (rdcFieldGetValueSince_found hscan nextTs value)

theorem rdcFieldGetValueSince_refused
    (h : ¬ (isFieldValid field = true ∧ ∃ x ∈ c.history gpu field, since ≤ x.lastTime)) :
    ∃ status, status ≠ .ok ∧ ∀ nextTs value, ∃ next,
      EmbeddedHandler.rdcFieldGetValueSince c gpu field since nextTs value
        = (status, next, value) := by
  unfold EmbeddedHandler.rdcFieldGetValueSince
  by_cases hvalid : isFieldValid field = true
  · have hscan : CacheManager.scanSince since (c.history gpu field) = none := by
      rw [← Option.map_eq_none_iff (f := Prod.fst), map_fst_scanSince, List.find?_eq_none]
      exact fun x hx hle => h ⟨hvalid, x, hx, of_decide_eq_true hle⟩
    simp only [if_pos hvalid]
    exact ⟨.notFound, by decide, rdcFieldGetValueSince_notFound hscan⟩
  · simp only [if_neg hvalid]
    exact ⟨.notSupported, by decide, fun nextTs _ => ⟨nextTs, rfl⟩⟩

theorem rdcFieldGetValueSince_cases :
    (¬ (isFieldValid field = true ∧ ∃ x ∈ c.history gpu field, since ≤ x.lastTime)
      ∧ ∃ status, status ≠ .ok ∧ ∀ nextTs value, ∃ next,
          EmbeddedHandler.rdcFieldGetValueSince c gpu field since nextTs value
            = (status, next, value))
    ∨ (isFieldValid field = true ∧ ∃ x ∈ c.history gpu field, since ≤ x.lastTime)
      ∧ ∃ entry next, ∀ nextTs value,
          EmbeddedHandler.rdcFieldGetValueSince c gpu field since nextTs value
            = (.ok, next, valueOf field value entry) := by
  by_cases h : isFieldValid field = true ∧ ∃ x ∈ c.history gpu field, since ≤ x.lastTime
  · obtain ⟨x, hx, hle⟩ := h.2
    have hfound : ((c.history gpu field).find? fun x => decide (since ≤ x.lastTime)).isSome :=
      List.find?_isSome.mpr ⟨x, hx, decide_eq_true hle⟩
    obtain ⟨entry, hfirst⟩ := Option.isSome_iff_exists.mp hfound
    exact .inr ⟨h, entry, rdcFieldGetValueSince_of_first c gpu field since h.1 hfirst⟩
  · exact .inl ⟨h, rdcFieldGetValueSince_refused c gpu field since h⟩

/-- The value of a sample has the type and the data of the sample, also after the detour through the
integer of the union. -/
theorem isData_valueOf (h : IsData entry.type entry.value) (value : RdcFieldValue) :
    IsData entry.type (valueOf field value entry).value := by
  unfold valueOf
  cases htype : entry.type with
  | integer =>
    rw [htype] at h
    exact h
  | double =>
    rw [htype] at h
    show (RdcFieldValueData.lInt entry.value.lIntOf).dblOf < 2 ^ 64
    rwa [dblOf_lInt_lIntOf h]
  | string =>
    rw [htype] at h
    obtain ⟨bytes, hbytes, htext⟩ := h
    refine ⟨bytes, ?_, htext⟩
    rw [if_pos rfl, hbytes]
    exact congrArg RdcFieldValueData.str (strncpyWithNull_of_isText htext)
  | blob =>
    rw [htype] at h
    exact h.elim

theorem showsSample_valueOf (h : IsData entry.type entry.value) (value : RdcFieldValue) :
    ShowsSample id field entry (valueOf field value entry) := by
  refine ⟨rfl, rfl, rfl, ?_⟩
  rw [mapStr_id]
  unfold valueOf
  dsimp only
  cases htype : entry.type with
  | integer => rfl
  | double =>
    rw [htype] at h
    exact congrArg RdcFieldValueData.dbl (dblOf_lInt_lIntOf h)
  | string =>
    rw [htype] at h
    obtain ⟨bytes, hbytes, htext⟩ := h
    rw [if_pos rfl, hbytes]
    exact congrArg RdcFieldValueData.str (strncpyWithNull_of_isText htext)
  | blob =>
    rw [htype] at h
    exact h.elim

theorem showsSample_latestOf (value : RdcFieldValue) (entry : RdcCacheEntry) :
    ShowsSample id field entry (latestOf field value entry) :=
  ⟨rfl, rfl, rfl, (mapStr_id _).symm⟩

end Calls

/-- **A sample read from another process is the one that is read in the daemon.** For a field that
is known: both calls for the last sample succeed and show it as it is. Both calls for the first
sample at or after a time succeed with the same time to go on from and show it, the one from another
process without the blanks at the end of a string. What the buffers of the three parties held before
makes no difference. -/
theorem fieldValues_survive (c : CacheManager) (gpu field since : Nat) (entry : RdcCacheEntry)
    (hvalid : isFieldValid field = true) (hdata : IsData entry.type entry.value)
    (value serverValue clientValue : RdcFieldValue) (nextSince serverNext clientNext : Nat) :
    ((c.history gpu field).getLast? = some entry →
      ∃ v w, EmbeddedHandler.rdcFieldGetLatestValue c gpu field value = (.ok, v)
        ∧ StandaloneHandler.rdcFieldGetLatestValue c gpu field serverValue clientValue = (.ok, w)
        ∧ ShowsSample id field entry v ∧ ShowsSample id field entry w)
    ∧ ((c.history gpu field).find? (fun x => decide (since ≤ x.lastTime)) = some entry →
        ∃ next v w, EmbeddedHandler.rdcFieldGetValueSince c gpu field since nextSince value
            = (.ok, next, v)
          ∧ StandaloneHandler.rdcFieldGetValueSince c gpu field since serverNext serverValue
              clientNext clientValue = (.ok, next, w)
          ∧ ShowsSample id field entry v ∧ ShowsSample withoutTrailingBlanks field entry w) := by
  constructor
  · intro hlast
    have hcall := rdcFieldGetLatestValue_of_last c gpu field hvalid hlast
    obtain ⟨hparses, hshows⟩ :=
      showsSample_received arrives_id (showsSample_latestOf field serverValue entry) hdata
    refine ⟨_, _, hcall value, ?_, showsSample_latestOf field value entry, hshows⟩
    unfold StandaloneHandler.rdcFieldGetLatestValue ApiService.getLatestFieldValue
    simp only [hcall, ne_eq, not_true_eq_false, if_false, if_pos hparses]
  · intro hfirst
    obtain ⟨next, hcall⟩ := rdcFieldGetValueSince_of_first c gpu field since hvalid hfirst
    obtain ⟨hparses, hshows⟩ := showsSample_received arrives_cutTrailingBlanks
      (showsSample_valueOf field hdata serverValue) (isData_valueOf field hdata serverValue)
    refine ⟨next, _, _, hcall nextSince value, ?_, showsSample_valueOf field hdata value, hshows⟩
    unfold StandaloneHandler.rdcFieldGetValueSince ApiService.getFieldSince
    simp only [hcall, ne_eq, not_true_eq_false, if_false, if_pos hparses]

/-- A name with a blank behind it. -/
def nameSample : RdcCacheEntry := ⟨6, .string, .str [77, 32]⟩

/-- A cache with that name for field 2, after an earlier one. -/
def cachedNames : CacheManager :=
  ⟨(∅ : KeyMap (List RdcCacheEntry)).insert (0, 2) [⟨5, .string, .str []⟩, nameSample], ∅⟩

/-- A value as a caller may leave it. -/
def anyValue : RdcFieldValue := ⟨0, 0, 0, .integer, .lInt 0⟩

theorem fieldValues_survive_nameSample :
    (∃ v w, EmbeddedHandler.rdcFieldGetLatestValue cachedNames 0 2 anyValue = (.ok, v)
      ∧ StandaloneHandler.rdcFieldGetLatestValue cachedNames 0 2 anyValue anyValue = (.ok, w)
      ∧ ShowsSample id 2 nameSample v ∧ ShowsSample id 2 nameSample w)
    ∧ ∃ next v w, EmbeddedHandler.rdcFieldGetValueSince cachedNames 0 2 6 0 anyValue
          = (.ok, next, v)
        ∧ StandaloneHandler.rdcFieldGetValueSince cachedNames 0 2 6 0 anyValue 0 anyValue
          = (.ok, next, w)
        ∧ ShowsSample id 2 nameSample v ∧ ShowsSample withoutTrailingBlanks 2 nameSample w := by
  have htext : IsText rdcMaxStrLength [77, 32] := by decide +kernel
  obtain ⟨hlatest, hsince⟩ := fieldValues_survive cachedNames 0 2 6 nameSample (by decide)
    ⟨_, rfl, htext⟩ anyValue anyValue anyValue 0 0 0
  exact ⟨hlatest (by decide +kernel), hsince (by decide +kernel)⟩

end Rdc.Proof
