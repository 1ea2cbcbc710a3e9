import Rdc.Lib.CString
import Mathlib.Algebra.Ring.Int.Defs
import Mathlib.Algebra.Ring.Nat
import Mathlib.Data.List.Forall2
import Mathlib.Data.Rat.Defs

/-!
# JSON texts

Values, and the reading of a value from a text, with one function for each rule of the grammar. A
reader takes what it wants from the front of a text and returns the rest of it. The readers are
bounded by the text they are given: an array or an object has no more entries than its text has
bytes, a string no more characters, and nothing is nested deeper than the text is long.

`Reads` is what a writer relies on: a piece of text is read as a value, whatever follows it. A
string that is written without escaping is read back if and only if it needs none
(`plain_of_chars`).
-/

/-- A JSON value. Strings and names are the bytes they stand for, and an object has its members in
the order of the text. -/
inductive Json where
  | null
  | bool (value : Bool)
  | num (value : ℚ)
  | str (bytes : List UInt8)
  | arr (items : List Json)
  | obj (members : List (List UInt8 × Json))

namespace Json

open CString

/-! ## Readers -/

/-- What has been read and the rest of the text, or nothing if the text does not start that way. -/
abbrev Reader (α : Type) := List UInt8 → Option (α × List UInt8)

/-- White space. -/
def isWs (b : UInt8) : Bool := b == 32 || b == 9 || b == 10 || b == 13

/-- The text behind the white space it starts with. -/
def skipWs (s : List UInt8) : List UInt8 := s.dropWhile isWs

/-- A structural character, which may have white space before it. -/
def token (b : UInt8) (s : List UInt8) : Option (List UInt8) :=
  match skipWs s with
  | [] => none
  | a :: rest => if a = b then some rest else none

/-- The bytes of a word. -/
def word : List UInt8 → List UInt8 → Option (List UInt8)
  | [], s => some s
  | _ :: _, [] => none
  | a :: as, b :: s => if a = b then word as s else none

/-! ### Numbers -/

/-- A decimal digit. -/
def isDigit (b : UInt8) : Bool := 48 ≤ b && b ≤ 57

/-- The number that is written in decimal digits. -/
def ofDigits (ds : List UInt8) : Nat := ds.foldl (fun n d => 10 * n + (d.toNat - 48)) 0

/-- As many digits as there are, and at least one. -/
def digits : Reader (List UInt8) := fun s =>
  let ds := s.takeWhile isDigit
  if ds = [] then none else some (ds, s.dropWhile isDigit)

/-- An integral part has no leading zeros. -/
def int : Reader (List UInt8) := fun s =>
  match digits s with
  | none => none
  | some (ds, rest) => if ds.head? = some 48 ∧ ds ≠ [48] then none else some (ds, rest)

/-- A fraction, or nothing. -/
def frac : Reader (List UInt8)
  | [] => some ([], [])
  | b :: rest => if b = 46 then digits rest else some ([], b :: rest)

/-- The digits of an exponent, with the sign that was in front of them. -/
def signedDigits (negative : Bool) : Reader Int := fun s =>
  match digits s with
  | none => none
  | some (ds, rest) => some (if negative then -(ofDigits ds : Int) else ofDigits ds, rest)

/-- An exponent, or nothing. -/
def exp : Reader Int
  | [] => some (0, [])
  | b :: rest =>
    if b = 101 ∨ b = 69 then
      match rest with
      | [] => none
      | c :: rest' =>
        if c = 45 then signedDigits true rest'
        else if c = 43 then signedDigits false rest'
        else signedDigits false (c :: rest')
    else some (0, b :: rest)

/-- `m` times ten to the `e`. -/
def scaled (m : Int) : Int → ℚ
  | .ofNat k => mkRat (m * (10 ^ k : Nat)) 1
  | .negSucc k => mkRat m (10 ^ (k + 1))

/-- A number behind its sign. -/
def unsigned (negative : Bool) : Reader ℚ := fun s =>
  match int s with
  | none => none
  | some (ds, s) =>
    match frac s with
    | none => none
    | some (fs, s) =>
      match exp s with
      | none => none
      | some (e, s) =>
        let m : Int := ofDigits (ds ++ fs)
        some (scaled (if negative then -m else m) (e - fs.length), s)

/-- A number. -/
def number : Reader ℚ
  | [] => none
  | b :: rest => if b = 45 then unsigned true rest else unsigned false (b :: rest)

/-! ### Strings -/

/-- A hexadecimal digit. -/
def hexDigit (b : UInt8) : Option Nat :=
  if 48 ≤ b ∧ b ≤ 57 then some (b.toNat - 48)
  else if 65 ≤ b ∧ b ≤ 70 then some (b.toNat - 55)
  else if 97 ≤ b ∧ b ≤ 102 then some (b.toNat - 87)
  else none

/-- `n` more hexadecimal digits behind those that make `acc`. -/
def hex : Nat → Nat → Reader Nat
  | 0, acc, s => some (acc, s)
  | _ + 1, _, [] => none
  | n + 1, acc, b :: s =>
    match hexDigit b with
    | none => none
    | some d => hex n (16 * acc + d) s

/-- The bytes of a code point. Half of a surrogate pair is none. -/
def codePoint (n : Nat) : Option (List UInt8) :=
  if n.isValidChar then some (String.utf8EncodeChar (Char.ofNat n)) else none

/-- What stands behind `\u`: four digits, or the eight of a surrogate pair. -/
def unicodeEscape : Reader (List UInt8) := fun s =>
  match hex 4 0 s with
  | none => none
  | some (high, s) =>
    if 0xD800 ≤ high ∧ high < 0xDC00 then
      match word [92, 117] s with
      | none => none
      | some s =>
        match hex 4 0 s with
        | none => none
        | some (low, s) =>
          if 0xDC00 ≤ low ∧ low < 0xE000 then
            (codePoint (0x10000 + 0x400 * (high - 0xD800) + (low - 0xDC00))).map (·, s)
          else none
    else (codePoint high).map (·, s)

/-- An escape of two characters, by the second one. -/
def shortEscape (b : UInt8) : Option UInt8 :=
  if b = 34 ∨ b = 92 ∨ b = 47 then some b
  else if b = 98 then some 8
  else if b = 102 then some 12
  else if b = 110 then some 10
  else if b = 114 then some 13
  else if b = 116 then some 9
  else none

/-- A byte that may stand in a string as it is. -/
def isPlain (b : UInt8) : Bool := 32 ≤ b && b != 34 && b != 92

/-- A byte of a string, or an escape. -/
def char : Reader (List UInt8)
  | [] => none
  | b :: s =>
    if isPlain b then some ([b], s)
    else if b = 92 then
      match s with
      | [] => none
      | e :: s =>
        if e = 117 then unicodeEscape s
        else (shortEscape e).map fun c => ([c], s)
    else none

/-- The rest of a string and its closing quote, with fuel for each of them. -/
def chars : Nat → Reader (List UInt8)
  | 0, _ => none
  | _ + 1, [] => none
  | fuel + 1, b :: s =>
    if b = 34 then some ([], s)
    else
      match char (b :: s) with
      | none => none
      | some (c, s) =>
        match chars fuel s with
        | none => none
        | some (cs, s) => some (c ++ cs, s)

/-! ### Arrays and objects -/

/-- Entries with commas between them, and what closes the list. -/
def entries {α : Type} (read : Reader α) (close : UInt8) : Nat → Reader (List α)
  | 0, _ => none
  | fuel + 1, s =>
    match read s with
    | none => none
    | some (x, s) =>
      match token 44 s with
      | none => (token close s).map ([x], ·)
      | some s =>
        match entries read close fuel s with
        | none => none
        | some (xs, s) => some (x :: xs, s)

/-- The list behind its opening bracket. -/
def list {α : Type} (read : Reader α) (close : UInt8) : Reader (List α) := fun s =>
  match token close s with
  | some s => some ([], s)
  | none => entries read close s.length s

/-- A member of an object. -/
def member (read : Reader Json) : Reader (List UInt8 × Json) := fun s =>
  match token 34 s with
  | none => none
  | some s =>
    match chars s.length s with
    | none => none
    | some (name, s) =>
      match token 58 s with
      | none => none
      | some s =>
        match read s with
        | none => none
        | some (v, s) => some ((name, v), s)

/-- A value, in which nothing is nested deeper than `depth`. -/
def value : Nat → Reader Json
  | 0, _ => none
  | depth + 1, s =>
    match skipWs s with
    | [] => none
    | b :: s =>
      if b = 123 then (list (member (value depth)) 125 s).map fun r => (.obj r.1, r.2)
      else if b = 91 then (list (value depth) 93 s).map fun r => (.arr r.1, r.2)
      else if b = 34 then (chars s.length s).map fun r => (.str r.1, r.2)
      else if b = 116 then (word [114, 117, 101] s).map (.bool true, ·)
      else if b = 102 then (word [97, 108, 115, 101] s).map (.bool false, ·)
      else if b = 110 then (word [117, 108, 108] s).map (.null, ·)
      else (number (b :: s)).map fun r => (.num r.1, r.2)

theorem value_brace (depth : Nat) (s : List UInt8) :
    value (depth + 1) (123 :: s)
      = (list (member (value depth)) 125 s).map fun r => (.obj r.1, r.2) := rfl

theorem value_bracket (depth : Nat) (s : List UInt8) :
    value (depth + 1) (91 :: s) = (list (value depth) 93 s).map fun r => (.arr r.1, r.2) := rfl

theorem value_quote (depth : Nat) (s : List UInt8) :
    value (depth + 1) (34 :: s) = (chars s.length s).map fun r => (.str r.1, r.2) := rfl

/-- What a reader has made out of what another one has read. -/
theorem exists_of_map {α β : Type} {f : α → β} {r : Option (α × List UInt8)} {b : β}
    {s : List UInt8} (h : (r.map fun r => (f r.1, r.2)) = some (b, s)) :
    ∃ a, b = f a ∧ r = some (a, s) := by
  obtain ⟨⟨a, s'⟩, hr, heq⟩ := Option.map_eq_some_iff.mp h
  obtain ⟨hb, rfl⟩ := Prod.mk.inj heq
  exact ⟨a, hb.symm, hr⟩

/-- A whole text: UTF-8, and one value with nothing but white space around it. -/
def parse (text : List UInt8) : Option Json :=
  if utf8 text then
    match value text.length text with
    | none => none
    | some (v, rest) => if skipWs rest = [] then some v else none
  else none

variable {text name bs rest : List UInt8} {b : UInt8} {texts : List (List UInt8)}

theorem exists_of_parse {v : Json} (h : parse text = some v) :
    ∃ rest, value text.length text = some (v, rest) := by
  unfold parse at h
  split at h
  · split at h
    · cases h
    · rename_i v' rest hvalue
      split at h
      · rw [Option.some.inj h] at hvalue
        exact ⟨rest, hvalue⟩
      · cases h
  · cases h

/-! ### Looking into a value -/

/-- A natural number. -/
def nat? : Json → Option Nat
  | num q => if q.den = 1 ∧ 0 ≤ q.num then some q.num.toNat else none
  | _ => none

/-- A string. -/
def str? : Json → Option (List UInt8)
  | str bytes => some bytes
  | _ => none

/-- An array. -/
def arr? : Json → Option (List Json)
  | arr items => some items
  | _ => none

/-- An object. -/
def obj? : Json → Option (List (List UInt8 × Json))
  | obj members => some members
  | _ => none

/-- The number that a string of digits is. -/
def digits? (bs : List UInt8) : Option Nat :=
  if bs ≠ [] ∧ bs.all isDigit = true then some (ofDigits bs) else none

/-- The member of that name. What a reader makes of a name that occurs twice is up to the reader, so
there is no such member then. -/
def member? (name : List UInt8) (members : List (List UInt8 × Json)) : Option Json :=
  match members.filter fun m => m.1 = name with
  | [m] => some m.2
  | _ => none

theorem eq_of_member? {v w : Json} {members : List (List UInt8 × Json)}
    (h : member? name ((name, v) :: members) = some w) : w = v := by
  unfold member? at h
  rw [List.filter_cons_of_pos (by simp)] at h
  split at h
  · rename_i m heq
    rw [← Option.some.inj h, ← (List.cons.inj heq).1]
  · cases h

theorem member?_cons_self (v : Json) {members : List (List UInt8 × Json)}
    (h : ∀ m ∈ members, m.1 ≠ name) : member? name ((name, v) :: members) = some v := by
  have hnil : (members.filter fun m => m.1 = name) = [] :=
    List.filter_eq_nil_iff.mpr fun m hm => by simpa using h m hm
  unfold member?
  rw [List.filter_cons_of_pos (by simp), hnil]

theorem member?_cons_of_ne {name name' : List UInt8} (h : name' ≠ name) (v : Json)
    (members : List (List UInt8 × Json)) :
    member? name ((name', v) :: members) = member? name members := by
  unfold member?
  rw [List.filter_cons_of_neg (by simpa using h)]

theorem nat?_num (n : Nat) : nat? (.num n) = some n := by
  have hnat : (n : ℚ).den = 1 ∧ 0 ≤ (n : ℚ).num := ⟨Rat.den_natCast n, by simp⟩
  rw [nat?, if_pos hnat]
  simp

/-! ## Strings that are written without escaping -/

/-- Nothing that is written in it has to be escaped in a string. -/
def Plain (bs : List UInt8) : Prop := ∀ b ∈ bs, isPlain b = true

instance (bs : List UInt8) : Decidable (Plain bs) :=
  decidable_of_iff (bs.all isPlain = true) List.all_eq_true

/-- A string that is written as it is ends at the quote behind it. -/
theorem chars_plain (h : Plain bs) (fuel : Nat) (rest : List UInt8) :
    chars fuel (bs ++ 34 :: rest) = if bs.length < fuel then some (bs, rest) else none := by
  induction bs generalizing fuel with
  | nil => cases fuel <;> rfl
  | cons b bs ih =>
    obtain ⟨hb, hbs⟩ := List.forall_mem_cons.mp h
    cases fuel with
    | zero => rfl
    | succ fuel =>
      have hquote : b ≠ 34 := by
        rintro rfl
        exact absurd hb (by decide)
      have hchar : char (b :: (bs ++ 34 :: rest)) = some ([b], bs ++ 34 :: rest) := if_pos hb
      rw [List.cons_append, chars, if_neg hquote, hchar]
      dsimp only
      rw [ih hbs, List.length_cons]
      by_cases hlt : bs.length < fuel
      · rw [if_pos hlt, if_pos (Nat.succ_lt_succ hlt)]
        rfl
      · rw [if_neg hlt, if_neg fun h => hlt (Nat.lt_of_succ_lt_succ h)]

theorem hexDigit_quote : hexDigit 34 = none := rfl

/-- Hexadecimal digits are not looked for behind a quote. -/
theorem hex_before_quote {n acc d : Nat} {bs tail s : List UInt8}
    (h : hex n acc (bs ++ 34 :: tail) = some (d, s)) :
    ∃ bs', s = bs' ++ 34 :: tail ∧ bs' <:+ bs ∧ bs'.length + n = bs.length := by
  induction n generalizing acc bs with
  | zero =>
    obtain ⟨-, rfl⟩ := Prod.mk.inj (Option.some.inj h)
    exact ⟨bs, rfl, List.suffix_rfl, rfl⟩
  | succ n ih =>
    cases bs with
    | nil => exact absurd h (by simp [hex, hexDigit_quote])
    | cons b bs =>
      rw [List.cons_append, hex] at h
      split at h
      · simp at h
      · obtain ⟨bs', hs, hsuffix, hlen⟩ := ih h
        refine ⟨bs', hs, hsuffix.trans (List.suffix_cons b bs), ?_⟩
        rw [List.length_cons, ← hlen]
        rfl

theorem word_before_quote {w : List UInt8} (hw : 34 ∉ w) {bs tail s : List UInt8}
    (h : word w (bs ++ 34 :: tail) = some s) : ∃ bs', s = bs' ++ 34 :: tail ∧ bs' <:+ bs := by
  induction w generalizing bs with
  | nil => exact ⟨bs, (Option.some.inj h).symm, List.suffix_rfl⟩
  | cons a w ih =>
    rw [List.mem_cons, not_or] at hw
    cases bs with
    | nil => exact absurd h (by simp [word, Ne.symm hw.1])
    | cons b bs =>
      rw [List.cons_append, word] at h
      split at h
      · obtain ⟨bs', hs, hsuffix⟩ := ih hw.2 h
        exact ⟨bs', hs, hsuffix.trans (List.suffix_cons b bs)⟩
      · simp at h

theorem length_codePoint {n : Nat} {c : List UInt8} (h : codePoint n = some c) : c.length ≤ 4 := by
  unfold codePoint at h
  split at h
  · rw [← Option.some.inj h, String.length_utf8EncodeChar]
    exact Char.utf8Size_le_four _
  · simp at h

theorem unicodeEscape_before_quote {bs tail c s : List UInt8}
    (h : unicodeEscape (bs ++ 34 :: tail) = some (c, s)) :
    ∃ bs', s = bs' ++ 34 :: tail ∧ bs' <:+ bs ∧ c.length + bs'.length ≤ bs.length := by
  unfold unicodeEscape at h
  split at h
  · simp at h
  · rename_i high s₁ hhigh
    obtain ⟨bs₁, rfl, hsuffix₁, hlen₁⟩ := hex_before_quote hhigh
    split at h
    · split at h
      · simp at h
      · rename_i s₂ hword
        split at h
        · simp at h
        · rename_i low s₃ hlow
          split at h
          · obtain ⟨p, hp, hps⟩ := Option.map_eq_some_iff.mp h
            obtain ⟨rfl, rfl⟩ := Prod.mk.inj hps
            obtain ⟨bs₂, rfl, hsuffix₂⟩ := word_before_quote (by decide) hword
            obtain ⟨bs₃, hs, hsuffix₃, hlen₃⟩ := hex_before_quote hlow
            have hc := length_codePoint hp
            have hle := hsuffix₂.length_le
            exact ⟨bs₃, hs, (hsuffix₃.trans hsuffix₂).trans hsuffix₁, by omega⟩
          · simp at h
    · obtain ⟨p, hp, hps⟩ := Option.map_eq_some_iff.mp h
      obtain ⟨rfl, rfl⟩ := Prod.mk.inj hps
      have := length_codePoint hp
      exact ⟨bs₁, rfl, hsuffix₁, by omega⟩

/-- A character that is read from in front of a quote: a byte that stands for itself, an escape that
takes more bytes than it makes, or a backslash that escapes the quote. -/
theorem char_before_quote {bs tail c s : List UInt8}
    (h : char (b :: (bs ++ 34 :: tail)) = some (c, s)) :
    (isPlain b = true ∧ c = [b] ∧ s = bs ++ 34 :: tail)
    ∨ (∃ bs', s = bs' ++ 34 :: tail ∧ bs' <:+ bs ∧ c.length + bs'.length < bs.length + 1)
    ∨ (b = 92 ∧ bs = [] ∧ s = tail) := by
  unfold char at h
  dsimp only at h
  split at h
  · rename_i hb
    obtain ⟨rfl, rfl⟩ := Prod.mk.inj (Option.some.inj h)
    exact .inl ⟨hb, rfl, rfl⟩
  · split at h
    · rename_i hb
      cases bs with
      | nil =>
        obtain ⟨-, rfl⟩ := Prod.mk.inj (Option.some.inj h)
        exact .inr (.inr ⟨hb, rfl, rfl⟩)
      | cons e bs =>
        rw [List.cons_append] at h
        dsimp only at h
        split at h
        · obtain ⟨bs', hs, hsuffix, hlen⟩ := unicodeEscape_before_quote h
          refine .inr (.inl ⟨bs', hs, hsuffix.trans (List.suffix_cons e bs), ?_⟩)
          rw [List.length_cons]
          omega
        · obtain ⟨x, -, hx⟩ := Option.map_eq_some_iff.mp h
          obtain ⟨rfl, rfl⟩ := Prod.mk.inj hx
          refine .inr (.inl ⟨bs, rfl, List.suffix_cons e bs, ?_⟩)
          rw [List.length_singleton, List.length_cons]
          omega
    · simp at h

/-- A string ends at its first byte, or that byte begins a character and the rest is read. -/
theorem cases_of_chars {fuel : Nat} {s cs r : List UInt8}
    (h : chars (fuel + 1) (b :: s) = some (cs, r)) :
    cs = [] ∨ ∃ c s' cs', char (b :: s) = some (c, s') ∧ chars fuel s' = some (cs', r)
      ∧ cs = c ++ cs' := by
  rw [chars] at h
  split at h
  · exact .inl (Prod.mk.inj (Option.some.inj h)).1.symm
  · split at h
    · simp at h
    · rename_i c s' hchar
      split at h
      · simp at h
      · rename_i cs' r' hchars
        obtain ⟨rfl, rfl⟩ := Prod.mk.inj (Option.some.inj h)
        exact .inr ⟨c, s', cs', hchar, hchars, rfl⟩

/-- What is read from a string that was written without escaping, with more text and another quote
behind it: the string, or something shorter, or something that goes on to that other quote. -/
theorem chars_before_quote {sep : List UInt8} (hsep : Plain sep) {fuel : Nat}
    {bs rest cs s : List UInt8} (h : chars fuel (bs ++ 34 :: (sep ++ 34 :: rest)) = some (cs, s)) :
    (Plain bs ∧ cs = bs) ∨ cs.length < bs.length ∨ (sep <:+ cs ∧ [92] <:+ bs) := by
  induction fuel generalizing bs cs with
  | zero => exact absurd h (by simp [chars])
  | succ fuel ih =>
    cases bs with
    | nil =>
      obtain ⟨rfl, -⟩ := Prod.mk.inj (Option.some.inj h)
      exact .inl ⟨by simp [Plain], rfl⟩
    | cons b bs =>
      rcases cases_of_chars h with rfl | ⟨c, s', cs', hchar, hchars, rfl⟩
      · exact .inr (.inl (Nat.succ_pos _))
      rcases char_before_quote hchar with ⟨hb, rfl, rfl⟩ | ⟨bs', rfl, hsuffix, hlen⟩ |
        ⟨rfl, rfl, rfl⟩
      · rcases ih hchars with ⟨hplain, rfl⟩ | hlt | ⟨hcs, hbs⟩
        · exact .inl ⟨List.forall_mem_cons.mpr ⟨hb, hplain⟩, rfl⟩
        · exact .inr (.inl (Nat.succ_lt_succ hlt))
        · exact .inr (.inr ⟨hcs.trans (List.suffix_append _ _),
            hbs.trans (List.suffix_cons _ _)⟩)
      · -- an escape has made the string shorter, and what follows does not make up for it
        have hshort : cs'.length ≤ bs'.length → (c ++ cs').length < (b :: bs).length := by
          intro hle
          rw [List.length_append, List.length_cons]
          omega
        rcases ih hchars with ⟨-, rfl⟩ | hlt | ⟨hcs, hbs⟩
        · exact .inr (.inl (hshort (Nat.le_refl _)))
        · exact .inr (.inl (hshort (Nat.le_of_lt hlt)))
        · exact .inr (.inr ⟨hcs.trans (List.suffix_append _ _),
            (hbs.trans hsuffix).trans (List.suffix_cons _ _)⟩)
      · -- the quote is escaped, and the string goes on to the next one
        rw [chars_plain hsep] at hchars
        split at hchars
        · obtain ⟨rfl, -⟩ := Prod.mk.inj (Option.some.inj hchars)
          exact .inr (.inr ⟨List.suffix_append _ _, List.suffix_rfl⟩)
        · simp at hchars

/-- A string that was written without escaping and is read back needed none. -/
theorem plain_of_chars {sep : List UInt8} (hsep : Plain sep) (hne : sep ≠ []) {fuel : Nat}
    {bs rest s : List UInt8} (h : chars fuel (bs ++ 34 :: (sep ++ 34 :: rest)) = some (bs, s)) :
    Plain bs := by
  rcases chars_before_quote hsep h with ⟨hplain, -⟩ | hlt | ⟨hsuffix, hlast⟩
  · exact hplain
  · exact absurd hlt (Nat.lt_irrefl _)
  · -- the backslash at the end of the string is not the end of `sep`
    have hlen : [(92 : UInt8)].length ≤ sep.length := List.length_pos_of_ne_nil hne
    have hin : [92] <:+ sep := List.suffix_of_suffix_length_le hlast hsuffix hlen
    exact absurd (hsep 92 (hin.subset (List.mem_singleton_self _))) (by decide)

/-! ## Numbers that are written in decimal -/

/-- The decimal digits of a number. -/
def decimal (n : Nat) : List UInt8 := encode (Nat.toDigits 10 n)

theorem decimal_of_lt {n : Nat} (h : n < 10) : decimal n = [UInt8.ofNat (48 + n)] := by
  have hdigit : ∀ d < 10, encode [Nat.digitChar d] = [UInt8.ofNat (48 + d)] := by decide
  rw [decimal, Nat.toDigits_of_lt_base h, hdigit n h]

theorem decimal_of_le {n : Nat} (h : 10 ≤ n) :
    decimal n = decimal (n / 10) ++ decimal (n % 10) := by
  have hlt : n % 10 < 10 := Nat.mod_lt _ (by decide)
  rw [decimal, decimal, decimal, Nat.toDigits_of_base_le (by decide) h, Nat.toDigits_of_lt_base hlt]
  exact List.flatMap_append

theorem decimal_ne_nil (n : Nat) : decimal n ≠ [] := by
  induction n using Nat.strongRecOn with
  | ind n ih =>
    by_cases h : n < 10
    · rw [decimal_of_lt h]
      exact List.cons_ne_nil _ _
    · rw [decimal_of_le (by omega)]
      exact List.append_ne_nil_of_left_ne_nil (ih (n / 10) (by omega)) _

theorem isDigit_of_mem_decimal {n : Nat} (hb : b ∈ decimal n) : isDigit b = true := by
  induction n using Nat.strongRecOn with
  | ind n ih =>
    have hdigit : ∀ d < 10, isDigit (UInt8.ofNat (48 + d)) = true := by decide
    by_cases h : n < 10
    · rw [decimal_of_lt h, List.mem_singleton] at hb
      rw [hb, hdigit n h]
    · rw [decimal_of_le (by omega)] at hb
      rcases List.mem_append.mp hb with hb | hb
      · exact ih (n / 10) (by omega) hb
      · exact ih (n % 10) (by omega) hb

theorem plain_decimal (n : Nat) : Plain (decimal n) := by
  intro b hb
  have hdigit := isDigit_of_mem_decimal hb
  unfold isDigit at hdigit
  unfold isPlain
  simp only [Bool.and_eq_true, decide_eq_true_eq, bne_iff_ne] at hdigit ⊢
  refine ⟨⟨UInt8.le_trans (by decide) hdigit.1, ?_⟩, ?_⟩
  · rintro rfl
    exact absurd hdigit.1 (by decide)
  · rintro rfl
    exact absurd hdigit.2 (by decide)

theorem eq_zero_of_head?_decimal {n : Nat} (h : (decimal n).head? = some 48) : n = 0 := by
  induction n using Nat.strongRecOn with
  | ind n ih =>
    have hzero : ∀ d < 10, UInt8.ofNat (48 + d) = 48 → d = 0 := by decide
    by_cases hn : n < 10
    · rw [decimal_of_lt hn] at h
      exact hzero n hn (Option.some.inj h)
    · rw [decimal_of_le (by omega), List.head?_append_of_ne_nil _ (decimal_ne_nil _)] at h
      have := ih (n / 10) (by omega) h
      omega

theorem ofDigits_append (ds es : List UInt8) :
    ofDigits (ds ++ es) = es.foldl (fun n d => 10 * n + (d.toNat - 48)) (ofDigits ds) :=
  List.foldl_append

theorem ofDigits_decimal (n : Nat) : ofDigits (decimal n) = n := by
  induction n using Nat.strongRecOn with
  | ind n ih =>
    have hdigit : ∀ d < 10, (UInt8.ofNat (48 + d)).toNat - 48 = d := by decide
    by_cases h : n < 10
    · rw [decimal_of_lt h]
      show 10 * 0 + ((UInt8.ofNat (48 + n)).toNat - 48) = n
      rw [hdigit n h, Nat.mul_zero, Nat.zero_add]
    · have hlt : n % 10 < 10 := Nat.mod_lt _ (by decide)
      rw [decimal_of_le (by omega), ofDigits_append, ih (n / 10) (by omega), decimal_of_lt hlt]
      show 10 * (n / 10) + ((UInt8.ofNat (48 + n % 10)).toNat - 48) = n
      rw [hdigit _ hlt, Nat.div_add_mod]

theorem digits?_decimal (n : Nat) : digits? (decimal n) = some n := by
  have hall : (decimal n).all isDigit = true :=
    List.all_eq_true.mpr fun b => isDigit_of_mem_decimal
  unfold digits?
  rw [if_pos ⟨decimal_ne_nil n, hall⟩, ofDigits_decimal]

/-- A number does not go on here. -/
def Ends (rest : List UInt8) : Prop :=
  ∀ b, rest.head? = some b → isDigit b = false ∧ b ≠ 46 ∧ b ≠ 101 ∧ b ≠ 69

theorem digits_append {ds rest : List UInt8} (hne : ds ≠ []) (hds : ∀ b ∈ ds, isDigit b = true)
    (hrest : Ends rest) : digits (ds ++ rest) = some (ds, rest) := by
  have htake : rest.takeWhile isDigit = [] ∧ rest.dropWhile isDigit = rest := by
    cases rest with
    | nil => exact ⟨rfl, rfl⟩
    | cons b rest =>
      have hb : ¬ isDigit b = true := by simp [(hrest b rfl).1]
      exact ⟨List.takeWhile_cons_of_neg hb, List.dropWhile_cons_of_neg hb⟩
  unfold digits
  dsimp only
  rw [List.takeWhile_append_of_pos hds, htake.1, List.append_nil, if_neg hne,
    List.dropWhile_append_of_pos hds, htake.2]

theorem frac_of_ends (h : Ends rest) : frac rest = some ([], rest) := by
  cases rest with
  | nil => rfl
  | cons b rest => exact if_neg (h b rfl).2.1

theorem exp_of_ends (h : Ends rest) : exp rest = some (0, rest) := by
  cases rest with
  | nil => rfl
  | cons b rest => exact if_neg fun hb => hb.elim (h b rfl).2.2.1 (h b rfl).2.2.2

theorem unsigned_decimal (n : Nat) (h : Ends rest) :
    unsigned false (decimal n ++ rest) = some ((n : ℚ), rest) := by
  have hint : int (decimal n ++ rest) = some (decimal n, rest) := by
    unfold int
    rw [digits_append (decimal_ne_nil n) (fun b => isDigit_of_mem_decimal) h]
    refine if_neg ?_
    rintro ⟨hhead, hne⟩
    rw [eq_zero_of_head?_decimal hhead] at hne
    exact hne rfl
  unfold unsigned
  rw [hint]
  dsimp only
  rw [frac_of_ends h]
  dsimp only
  rw [exp_of_ends h]
  dsimp only
  rw [List.append_nil, ofDigits_decimal]
  show some (mkRat ((n : Int) * (1 : Nat)) 1, rest) = _
  rw [Rat.mkRat_one, Nat.cast_one, Int.mul_one]
  rfl

theorem ne_of_isDigit {b c : UInt8} (hb : isDigit b = true) (hc : isDigit c = false) : b ≠ c := by
  rintro rfl
  rw [hb] at hc
  cases hc

theorem value_digit (hb : isDigit b = true) (depth : Nat) (s : List UInt8) :
    value (depth + 1) (b :: s) = (unsigned false (b :: s)).map fun r => (.num r.1, r.2) := by
  have hws : ¬ isWs b = true := by
    intro h
    unfold isWs at h
    simp only [Bool.or_eq_true, beq_iff_eq] at h
    rcases h with ((rfl | rfl) | rfl) | rfl <;> exact absurd hb (by decide)
  have hskip : skipWs (b :: s) = b :: s := List.dropWhile_cons_of_neg hws
  rw [value, hskip]
  dsimp only
  rw [if_neg (ne_of_isDigit hb rfl), if_neg (ne_of_isDigit hb rfl), if_neg (ne_of_isDigit hb rfl),
    if_neg (ne_of_isDigit hb rfl), if_neg (ne_of_isDigit hb rfl), if_neg (ne_of_isDigit hb rfl),
    number, if_neg (ne_of_isDigit hb rfl)]

/-! ## What a writer relies on -/

/-- The text is read as `a`, whatever follows it that does not continue a number. -/
def Reads {α : Type} (read : Reader α) (text : List UInt8) (a : α) : Prop :=
  ∀ rest, Ends rest → read (text ++ rest) = some (a, rest)

theorem reads_decimal (depth n : Nat) : Reads (value (depth + 1)) (decimal n) (.num n) := by
  intro rest h
  obtain ⟨b, ds, hds⟩ := List.exists_cons_of_ne_nil (decimal_ne_nil n)
  have hmem : b ∈ decimal n := by
    rw [hds]
    exact List.mem_cons_self
  have hnum := unsigned_decimal n h
  rw [hds, List.cons_append] at hnum ⊢
  rw [value_digit (isDigit_of_mem_decimal hmem), hnum]
  rfl

/-- A string that is written as it is. -/
def quoted (bs : List UInt8) : List UInt8 := 34 :: (bs ++ [34])

theorem chars_length (h : Plain bs) (rest : List UInt8) :
    chars (bs ++ 34 :: rest).length (bs ++ 34 :: rest) = some (bs, rest) := by
  rw [chars_plain h]
  refine if_pos ?_
  rw [List.length_append, List.length_cons]
  omega

theorem reads_quoted (h : Plain bs) (depth : Nat) :
    Reads (value (depth + 1)) (quoted bs) (.str bs) := by
  intro rest _
  have htext : quoted bs ++ rest = 34 :: (bs ++ 34 :: rest) := by simp [quoted]
  rw [htext, value_quote, chars_length h]
  rfl

/-- A member with a blank behind its colon. -/
def named (name text : List UInt8) : List UInt8 := quoted name ++ 58 :: 32 :: text

theorem member_named (h : Plain name) (depth : Nat) (s : List UInt8) :
    member (value (depth + 1)) (named name s)
      = (value (depth + 1) s).map fun r => ((name, r.1), r.2) := by
  have htext : named name s = 34 :: (name ++ 34 :: 58 :: 32 :: s) := by simp [named, quoted]
  have hquote : token 34 (named name s) = some (name ++ 34 :: 58 :: 32 :: s) := by
    rw [htext]
    rfl
  have hcolon : token 58 (58 :: 32 :: s) = some (32 :: s) := rfl
  have hblank : value (depth + 1) (32 :: s) = value (depth + 1) s := rfl
  unfold member
  rw [hquote]
  dsimp only
  rw [chars_length h]
  dsimp only
  rw [hcolon]
  dsimp only
  rw [hblank]
  cases value (depth + 1) s <;> rfl

theorem Reads.named {depth : Nat} {v : Json} (h : Reads (value (depth + 1)) text v)
    (hname : Plain name) : Reads (member (value (depth + 1))) (named name text) (name, v) := by
  intro rest hrest
  have htext : Json.named name text ++ rest = Json.named name (text ++ rest) := by
    simp [Json.named]
  rw [htext, member_named hname, h rest hrest]
  rfl

theorem member_blank (read : Reader Json) (s : List UInt8) :
    member read (32 :: s) = member read s := rfl

theorem Reads.blank {read : Reader Json} {m : List UInt8 × Json} (h : Reads (member read) text m) :
    Reads (member read) (32 :: text) m := h

/-! ### Lists -/

section Lists

variable {α : Type} {read : Reader α} {close : UInt8}

theorem ends_cons (hb : isDigit b = false ∧ b ≠ 46 ∧ b ≠ 101 ∧ b ≠ 69) (s : List UInt8) :
    Ends (b :: s) := by
  intro c hc
  rwa [← Option.some.inj hc]

/-- The bracket that closes an array or an object. -/
def Closing (close : UInt8) : Prop := close = 93 ∨ close = 125

theorem Closing.ends (h : Closing close) (s : List UInt8) : Ends (close :: s) := by
  rcases h with rfl | rfl <;> exact ends_cons (by decide) s

theorem entries_cons {x : α} (h : Reads read text x) (fuel : Nat) (s : List UInt8) :
    entries read close (fuel + 1) (text ++ 44 :: s)
      = (entries read close fuel s).map fun r => (x :: r.1, r.2) := by
  have hcomma : token 44 (44 :: s) = some s := rfl
  rw [entries, h _ (ends_cons (by decide) s)]
  dsimp only
  rw [hcomma]
  dsimp only
  cases entries read close fuel s <;> rfl

theorem entries_last (hclose : Closing close) {x : α} (h : Reads read text x) (fuel : Nat)
    (s : List UInt8) : entries read close (fuel + 1) (text ++ close :: s) = some ([x], s) := by
  have hcomma : token 44 (close :: s) = none := by rcases hclose with rfl | rfl <;> rfl
  have htoken : token close (close :: s) = some s := by rcases hclose with rfl | rfl <;> rfl
  rw [entries, h _ (hclose.ends s)]
  dsimp only
  rw [hcomma]
  dsimp only
  rw [htoken]
  rfl

/-- The texts of the entries with commas between them. -/
def commas (texts : List (List UInt8)) : List UInt8 := [44].intercalate texts

theorem commas_cons_cons (text text' : List UInt8) (texts : List (List UInt8)) :
    commas (text :: text' :: texts) = text ++ 44 :: commas (text' :: texts) := by
  simp [commas, List.intercalate]

theorem commas_singleton (text : List UInt8) : commas [text] = text := by
  simp [commas, List.intercalate]

theorem entries_commas (hclose : Closing close) {xs : List α}
    (h : List.Forall₂ (Reads read) texts xs) (hne : xs ≠ []) {fuel : Nat} (hfuel : xs.length ≤ fuel)
    (s : List UInt8) : entries read close fuel (commas texts ++ close :: s) = some (xs, s) := by
  induction h generalizing fuel with
  | nil => exact absurd rfl hne
  | @cons text x texts xs hx hxs ih =>
    obtain ⟨fuel, rfl⟩ : ∃ n, fuel = n + 1 := ⟨fuel - 1, by rw [List.length_cons] at hfuel; omega⟩
    rw [List.length_cons, Nat.succ_le_succ_iff] at hfuel
    cases hxs with
    | nil =>
      rw [commas_singleton]
      exact entries_last hclose hx fuel s
    | @cons text' x' texts xs hx' hxs =>
      rw [commas_cons_cons, List.append_assoc, List.cons_append, entries_cons hx,
        ih (List.cons_ne_nil _ _) hfuel]
      rfl

/-- A loop that writes a comma behind every text but the last. -/
def separated (more : Nat → Bool) : List (List UInt8) → Nat → List UInt8
  | [], _ => []
  | text :: texts, i => text ++ (if more i then [44] else []) ++ separated more texts (i + 1)

theorem separated_eq_commas {more : Nat → Bool} {i : Nat}
    (hmore : ∀ j, i ≤ j → j < i + texts.length → (more j = true ↔ j + 1 < i + texts.length)) :
    separated more texts i = commas texts := by
  induction texts generalizing i with
  | nil => rfl
  | cons text texts ih =>
    rw [List.length_cons] at hmore
    have hrest : separated more texts (i + 1) = commas texts := by
      refine ih ?_
      intro j hij hj
      rw [hmore j (by omega) (by omega)]
      omega
    have hhead := hmore i (Nat.le_refl i) (by omega)
    rw [separated, hrest]
    cases texts with
    | nil =>
      have hlast : ¬ more i = true := by
        rw [hhead, List.length_nil]
        omega
      rw [if_neg hlast, commas_singleton]
      simp [commas]
    | cons text' texts =>
      have hnext : more i = true := by
        rw [hhead, List.length_cons]
        omega
      rw [if_pos hnext, commas_cons_cons, List.append_assoc]
      rfl

theorem length_le_length_commas (texts : List (List UInt8)) :
    texts.length ≤ (commas texts).length + 1 := by
  induction texts with
  | nil => exact Nat.zero_le _
  | cons text texts ih =>
    cases texts with
    | nil => exact Nat.le_add_left _ _
    | cons text' texts =>
      rw [List.length_cons] at ih ⊢
      rw [commas_cons_cons, List.length_append, List.length_cons, List.length_cons]
      omega

theorem reads_map {β : Type} {text : β → List UInt8} {val : β → α} {l : List β}
    (h : ∀ x ∈ l, Reads read (text x) (val x)) :
    List.Forall₂ (Reads read) (l.map text) (l.map val) := by
  rw [List.forall₂_map_left_iff, List.forall₂_map_right_iff]
  refine List.forall₂_same.mpr ?_
  intro x hx
  exact h x hx

/-- An entry does not start with the bracket that closes the list. -/
def NoClose (read : Reader α) (close : UInt8) : Prop :=
  ∀ s rest, token close s = some rest → read s = none

theorem exists_commas_cons (hclose : Closing close) (text : List UInt8) (texts : List (List UInt8))
    (s : List UInt8) : ∃ r, Ends r ∧ commas (text :: texts) ++ close :: s = text ++ r := by
  cases texts with
  | nil => exact ⟨close :: s, hclose.ends s, by rw [commas_singleton]⟩
  | cons text' texts =>
    refine ⟨44 :: (commas (text' :: texts) ++ close :: s), ends_cons (by decide) _, ?_⟩
    rw [commas_cons_cons, List.append_assoc, List.cons_append]

theorem list_commas (hclose : Closing close) (hread : NoClose read close) {xs : List α}
    (h : List.Forall₂ (Reads read) texts xs) (s : List UInt8) :
    list read close (commas texts ++ close :: s) = some (xs, s) := by
  cases h with
  | nil => rcases hclose with rfl | rfl <;> rfl
  | @cons text x texts xs hx hxs =>
    have hlen : (x :: xs).length ≤ (commas (text :: texts) ++ close :: s).length := by
      have hle := length_le_length_commas (text :: texts)
      rw [← (List.Forall₂.cons hx hxs).length_eq, List.length_append, List.length_cons]
      rw [List.length_cons] at hle ⊢
      omega
    have hopen : token close (commas (text :: texts) ++ close :: s) = none := by
      obtain ⟨r, hr, heq⟩ := exists_commas_cons hclose text texts s
      rw [Option.eq_none_iff_forall_ne_some]
      intro rest hrest
      have hnone := hread _ _ hrest
      rw [heq, hx r hr] at hnone
      cases hnone
    unfold list
    rw [hopen]
    exact entries_commas hclose (.cons hx hxs) (List.cons_ne_nil _ _) hlen s

theorem list_of_token_eq_none {s : List UInt8} (h : token close s = none) :
    list read close s = entries read close s.length s := by
  unfold list
  rw [h]

theorem exists_of_entries {fuel : Nat} {s r : List UInt8} {xs : List α}
    (h : entries read close fuel s = some (xs, r)) :
    ∃ x xs' s', xs = x :: xs' ∧ read s = some (x, s') := by
  cases fuel with
  | zero => cases h
  | succ fuel =>
    rw [entries] at h
    split at h
    · cases h
    · rename_i x s' hread
      split at h
      · obtain ⟨_, _, hxs⟩ := Option.map_eq_some_iff.mp h
        exact ⟨x, [], s', (Prod.mk.inj hxs).1.symm, hread⟩
      · split at h
        · cases h
        · rename_i xs' _ _
          exact ⟨x, xs', s', (Prod.mk.inj (Option.some.inj h)).1.symm, hread⟩

theorem entries_of_cons {x : α} (hx : Reads read text x) {fuel : Nat} {s r : List UInt8}
    {xs : List α} (h : entries read close fuel (text ++ 44 :: s) = some (xs, r)) :
    ∃ fuel' xs', xs = x :: xs' ∧ entries read close fuel' s = some (xs', r) := by
  cases fuel with
  | zero => cases h
  | succ fuel =>
    rw [entries_cons hx] at h
    obtain ⟨p, hp, hps⟩ := Option.map_eq_some_iff.mp h
    obtain ⟨rfl, rfl⟩ := Prod.mk.inj hps
    exact ⟨fuel, p.1, rfl, hp⟩

end Lists

theorem skipWs_of_token {s rest : List UInt8} (h : token b s = some rest) :
    skipWs s = b :: rest := by
  unfold token at h
  split at h
  · cases h
  · rename_i hskip
    split at h
    · rename_i hb
      rw [hskip, hb, Option.some.inj h]
    · cases h

theorem noClose_value (depth : Nat) : NoClose (value depth) 93 := by
  intro s rest h
  cases depth with
  | zero => rfl
  | succ depth =>
    rw [value, skipWs_of_token h]
    rfl

theorem noClose_member (read : Reader Json) : NoClose (member read) 125 := by
  intro s rest h
  unfold member token
  rw [skipWs_of_token h]
  rfl

/-- An array. -/
def bracketed (texts : List (List UInt8)) : List UInt8 := 91 :: (commas texts ++ [93])

/-- An object. -/
def braced (texts : List (List UInt8)) : List UInt8 := 123 :: (commas texts ++ [125])

theorem reads_bracketed {depth : Nat} {vs : List Json}
    (h : List.Forall₂ (Reads (value depth)) texts vs) :
    Reads (value (depth + 1)) (bracketed texts) (.arr vs) := by
  intro rest _
  have htext : bracketed texts ++ rest = 91 :: (commas texts ++ 93 :: rest) := by
    simp [bracketed]
  rw [htext, value_bracket, list_commas (.inl rfl) (noClose_value depth) h]
  rfl

theorem reads_braced {depth : Nat} {ms : List (List UInt8 × Json)}
    (h : List.Forall₂ (Reads (member (value depth))) texts ms) :
    Reads (value (depth + 1)) (braced texts) (.obj ms) := by
  intro rest _
  have htext : braced texts ++ rest = 123 :: (commas texts ++ 125 :: rest) := by simp [braced]
  rw [htext, value_brace, list_commas (.inr rfl) (noClose_member _) h]
  rfl

theorem utf8_commas (h : ∀ text ∈ texts, utf8 text = true) : utf8 (commas texts) = true := by
  induction texts with
  | nil => decide
  | cons text texts ih =>
    obtain ⟨htext, htexts⟩ := List.forall_mem_cons.mp h
    cases texts with
    | nil =>
      rw [commas_singleton]
      exact htext
    | cons text' texts =>
      rw [commas_cons_cons]
      exact utf8_append htext (utf8_cons (by decide) (ih htexts))

theorem utf8_quoted (h : utf8 bs = true) : utf8 (quoted bs) = true :=
  utf8_cons (by decide) (utf8_append h (by decide))

theorem utf8_named (hname : utf8 name = true) (htext : utf8 text = true) :
    utf8 (named name text) = true :=
  utf8_append (utf8_quoted hname) (utf8_cons (by decide) (utf8_cons (by decide) htext))

theorem utf8_bracketed (h : ∀ text ∈ texts, utf8 text = true) : utf8 (bracketed texts) = true :=
  utf8_cons (by decide) (utf8_append (utf8_commas h) (by decide))

theorem utf8_braced (h : ∀ text ∈ texts, utf8 text = true) : utf8 (braced texts) = true :=
  utf8_cons (by decide) (utf8_append (utf8_commas h) (by decide))

theorem parse_line {v : Json} (hutf8 : utf8 (text ++ [10]) = true)
    (h : Reads (value (text ++ [10]).length) text v) : parse (text ++ [10]) = some v := by
  unfold parse
  rw [if_pos hutf8, h [10] (ends_cons (by decide) [])]
  rfl

end Json
