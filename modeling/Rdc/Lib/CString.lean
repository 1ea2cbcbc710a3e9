import Mathlib.Data.List.DropRight

/-!
# Strings that end at a zero byte

A string of bytes keeps its length, and whoever is given a pointer to its first byte reads up to the
first zero. Between two processes it travels as text, and the receiver turns away what is not UTF-8.
A string that is cut short by writing a zero into it stays text, as long as the zero does not go
into the middle of a character.
-/

namespace CString

/-! ## The first zero -/

/-- The bytes before the first zero. -/
def cStr (bytes : List UInt8) : List UInt8 := bytes.takeWhile (· != 0)

variable {bytes : List UInt8} {b : UInt8}

theorem cStr_of_notMem (h : 0 ∉ bytes) : cStr bytes = bytes := by
  rw [cStr, List.takeWhile_eq_self_iff]
  intro b hb
  exact bne_iff_ne.mpr fun h0 => h (h0 ▸ hb)

/-- A zero written at a place cuts the string there, and one written behind it does nothing. -/
theorem cStr_set_zero (h : 0 ∉ bytes) (i : Nat) : cStr (bytes.set i 0) = bytes.take i := by
  induction bytes generalizing i with
  | nil => simp [cStr]
  | cons b bytes ih =>
    rw [List.mem_cons, not_or] at h
    cases i with
    | zero => simp [cStr]
    | succ i =>
      have hb : b ≠ 0 := Ne.symm h.1
      have hrest := ih h.2 i
      rw [cStr] at hrest
      rw [List.set_cons_succ, List.take_succ_cons, cStr, List.takeWhile_cons,
        if_pos (bne_iff_ne.mpr hb), hrest]

/-! ## Text -/

/-- The bytes are UTF-8. -/
def utf8 (bytes : List UInt8) : Bool := bytes.toByteArray.validateUTF8

/-- The bytes of a list of characters. -/
def encode (chars : List Char) : List UInt8 := chars.flatMap String.utf8EncodeChar

theorem utf8_iff : utf8 bytes = true ↔ ∃ chars, bytes = encode chars := by
  rw [utf8, ByteArray.validateUTF8_eq_true_iff]
  constructor
  · rintro ⟨chars, h⟩
    refine ⟨chars, ?_⟩
    rw [List.utf8Encode] at h
    have hlist := congrArg (fun b : ByteArray => b.data.toList) h
    simpa only [List.toList_data_toByteArray, encode] using hlist
  · rintro ⟨chars, rfl⟩
    exact ⟨chars, rfl⟩

theorem toList_loop (b : ByteArray) (i : Nat) (r : List UInt8) :
    ByteArray.toList.loop b i r = r.reverse ++ b.data.toList.drop i := by
  rw [ByteArray.toList.loop.eq_def]
  split
  · rename_i hi
    have hlt : i < b.data.toList.length := hi
    have hget : b.get! i = b.data.toList[i] := by
      show b.data[i]! = _
      rw [getElem!_pos b.data i hi]
      rfl
    rw [toList_loop b (i + 1), hget, List.reverse_cons, List.append_assoc,
      List.drop_eq_getElem_cons hlt]
    rfl
  · rename_i hi
    have hle : b.data.toList.length ≤ i := Nat.le_of_not_lt hi
    rw [List.drop_of_length_le hle, List.append_nil]
termination_by b.size - i

theorem toList_toUTF8 (s : String) : s.toUTF8.toList = encode s.toList := by
  rw [ByteArray.toList, toList_loop]
  show s.toByteArray.data.toList = _
  rw [← String.utf8Encode_toList, List.utf8Encode, List.toList_data_toByteArray]
  rfl

theorem utf8_append {a b : List UInt8} (ha : utf8 a = true) (hb : utf8 b = true) :
    utf8 (a ++ b) = true := by
  obtain ⟨as, rfl⟩ := utf8_iff.mp ha
  obtain ⟨bs, rfl⟩ := utf8_iff.mp hb
  exact utf8_iff.mpr ⟨as ++ bs, List.flatMap_append.symm⟩

/-- Every byte of a character that takes several has its high bit set. -/
theorem high_of_mem_utf8EncodeChar {c : Char} (hsize : c.utf8Size ≠ 1)
    (hb : b ∈ String.utf8EncodeChar c) : 128 ≤ b := by
  rw [← String.length_utf8EncodeChar] at hsize
  rw [UInt8.le_iff_toNat_le]
  unfold String.utf8EncodeChar at hb hsize
  dsimp only at hb hsize
  split at hb
  · next h => exact absurd (by rw [if_pos h]; rfl) hsize
  · -- the remaining encodings add at least 128 to what they take from the character
    split at hb
    · simp only [List.mem_cons, List.not_mem_nil, or_false] at hb
      rcases hb with rfl | rfl <;> simp <;> omega
    · split at hb
      · simp only [List.mem_cons, List.not_mem_nil, or_false] at hb
        rcases hb with rfl | rfl | rfl <;> simp <;> omega
      · simp only [List.mem_cons, List.not_mem_nil, or_false] at hb
        rcases hb with rfl | rfl | rfl | rfl <;> simp <;> omega

theorem utf8EncodeChar_ofUInt8 (hb : b < 128) : String.utf8EncodeChar (Char.ofUInt8 b) = [b] := by
  have hval : (Char.ofUInt8 b).val.toNat = b.toNat := rfl
  rw [UInt8.lt_iff_toNat_lt] at hb
  unfold String.utf8EncodeChar
  dsimp only
  rw [hval, if_pos (Nat.le_of_lt_succ hb), UInt8.ofNat_toNat]

theorem utf8_cons (hb : b < 128) {s : List UInt8} (hs : utf8 s = true) : utf8 (b :: s) = true := by
  have hone : [b] = encode [Char.ofUInt8 b] := by
    rw [encode, List.flatMap_singleton, utf8EncodeChar_ofUInt8 hb]
  exact utf8_append (utf8_iff.mpr ⟨_, hone⟩) hs

/-- One ASCII byte in the place of another is one character in the place of another. -/
theorem exists_encode_set {chars : List Char} {i : Nat} {a b : UInt8}
    (ha : (encode chars)[i]? = some a) (halt : a < 128) (hblt : b < 128) :
    ∃ chars', (encode chars).set i b = encode chars' := by
  induction chars generalizing i with
  | nil => exact absurd ha (by simp [encode])
  | cons c chars ih =>
    have hcons : encode (c :: chars) = String.utf8EncodeChar c ++ encode chars := rfl
    rw [hcons] at ha ⊢
    by_cases hi : i < (String.utf8EncodeChar c).length
    · -- the byte is in this character, which therefore has no other
      rw [List.getElem?_append_left hi] at ha
      have hsize : c.utf8Size = 1 := by
        by_contra hsize
        have hhigh := high_of_mem_utf8EncodeChar hsize (List.mem_of_getElem? ha)
        exact absurd halt (UInt8.not_lt.mpr hhigh)
      rw [String.length_utf8EncodeChar, hsize] at hi
      obtain rfl : i = 0 := by omega
      refine ⟨Char.ofUInt8 b :: chars, ?_⟩
      rw [String.utf8EncodeChar_eq_singleton hsize]
      show b :: encode chars = String.utf8EncodeChar (Char.ofUInt8 b) ++ encode chars
      rw [utf8EncodeChar_ofUInt8 hblt, List.singleton_append]
    · rw [List.getElem?_append_right (by omega)] at ha
      obtain ⟨chars', hset⟩ := ih ha
      refine ⟨c :: chars', ?_⟩
      rw [List.set_append_right _ _ (by omega), hset]
      rfl

/-- One ASCII byte in the place of another leaves a text a text. -/
theorem utf8_set (h : utf8 bytes = true) {i : Nat} {a b : UInt8} (ha : bytes[i]? = some a)
    (halt : a < 128) (hblt : b < 128) : utf8 (bytes.set i b) = true := by
  obtain ⟨chars, rfl⟩ := utf8_iff.mp h
  exact utf8_iff.mpr (exists_encode_set ha halt hblt)

/-- A text that fits into `n` bytes together with the zero behind it. -/
structure IsText (n : Nat) (bytes : List UInt8) : Prop where
  length_lt : bytes.length < n
  noZero : 0 ∉ bytes
  utf8 : utf8 bytes = true

instance (n : Nat) (bytes : List UInt8) : Decidable (IsText n bytes) :=
  decidable_of_iff (bytes.length < n ∧ 0 ∉ bytes ∧ CString.utf8 bytes = true)
    ⟨fun h => ⟨h.1, h.2.1, h.2.2⟩, fun h => ⟨h.length_lt, h.noZero, h.utf8⟩⟩

/-- A copy that leaves room for the terminator is a copy of the whole text. -/
theorem IsText.take_pred {n : Nat} (h : IsText n bytes) : bytes.take (n - 1) = bytes :=
  List.take_of_length_le (Nat.le_pred_of_lt h.length_lt)

/-! ## Cutting off the end

The zero goes behind the last byte that is to stay. -/

theorem cStr_cut (h : 0 ∉ bytes) (p : UInt8 → Bool) :
    cStr (bytes.set (bytes.rdropWhile p).length 0) = bytes.rdropWhile p := by
  rw [cStr_set_zero h]
  exact (List.prefix_iff_eq_take.mp (List.rdropWhile_prefix p bytes)).symm

theorem utf8_cut (h : utf8 bytes = true) {p : UInt8 → Bool} (hp : ∀ b, p b = true → b < 128) :
    utf8 (bytes.set (bytes.rdropWhile p).length 0) = true := by
  cases hget : bytes[(bytes.rdropWhile p).length]? with
  | none =>
    -- nothing is cut off
    rwa [List.set_eq_of_length_le (List.getElem?_eq_none_iff.mp hget)]
  | some a =>
    have hcut : (bytes.rdropWhile p ++ bytes.rtakeWhile p)[(bytes.rdropWhile p).length]?
        = some a := by rwa [List.rdropWhile_append_rtakeWhile]
    rw [List.getElem?_append_right (Nat.le_refl _)] at hcut
    have ha : a ∈ bytes.rtakeWhile p := List.mem_of_getElem? hcut
    exact utf8_set h hget (hp a (List.mem_rtakeWhile_imp ha)) (by decide)

end CString
