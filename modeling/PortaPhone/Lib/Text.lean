import Mathlib
/-!
# Texts as code points

A text is a list of Unicode code points, the surrogates included, and a string of bytes is a list. UTF-8 encodes
the texts without surrogates (`encodeUtf8_isSome`) and decodes what it encodes (`decode_of_encode`); the encoding
itself is that of Lean's strings.
-/

abbrev CodePoint := Fin 0x110000

abbrev Bytes := List UInt8

/-- A text, which may have surrogates where a `String` has none. -/
abbrev Text := List CodePoint

namespace CodePoint

theorem toNat_lt (c : Char) : c.toNat < 0x110000 := by
  rcases c.valid with h | h
  · exact Nat.lt_trans h (by decide)
  · exact h.2

def ofChar (c : Char) : CodePoint := ⟨c.toNat, toNat_lt c⟩

/-- The character, unless it is a surrogate. -/
def char? (p : CodePoint) : Option Char := if h : p.val.isValidChar then some (Char.ofNatAux p.val h) else none

theorem char?_ofChar (c : Char) : (ofChar c).char? = some c := by
  have hvalid : c.toNat.isValidChar := c.valid
  rw [char?, dif_pos (show (ofChar c).val.isValidChar from hvalid)]
  rfl

theorem ofChar_of_char? {p : CodePoint} {c : Char} (h : p.char? = some c) : ofChar c = p := by
  unfold char? at h
  split at h
  · obtain rfl := Option.some.inj h
    rfl
  · cases h

theorem ofChar_inj {c d : Char} (h : ofChar c = ofChar d) : c = d := by
  have hchar := congrArg char? h
  rw [char?_ofChar, char?_ofChar] at hchar
  exact Option.some.inj hchar

end CodePoint

namespace Text

open CodePoint

def ofChars (cs : List Char) : Text := cs.map ofChar

def ofString (s : String) : Text := ofChars s.toList

/-- Every code point is below 128. -/
def isAscii (t : Text) : Bool := t.all fun p => decide (p.val < 128)

/-- There is no surrogate. -/
def Encodable (t : Text) : Prop := ∀ p ∈ t, p.val.isValidChar

def encodeUtf8 (t : Text) : Option Bytes := (t.mapM char?).map fun cs => cs.flatMap String.utf8EncodeChar

def decodeUtf8 (b : Bytes) : Option Text := b.toByteArray.utf8Decode?.map fun cs => ofChars cs.toList

/-! ## Strings -/

theorem mapM_char?_ofChars (cs : List Char) : (ofChars cs).mapM char? = some cs := by
  induction cs with
  | nil => rfl
  | cons c cs ih =>
    rw [ofChars] at ih ⊢
    simp [List.mapM_cons, char?_ofChar, ih]

theorem ofChars_of_mapM {t : Text} {cs : List Char} (h : t.mapM char? = some cs) : ofChars cs = t := by
  induction t generalizing cs with
  | nil =>
    obtain rfl := Option.some.inj h
    rfl
  | cons p t ih =>
    simp only [List.mapM_cons, Option.bind_eq_bind, Option.bind_eq_some_iff] at h
    obtain ⟨c, hc, cs', hcs, h⟩ := h
    obtain rfl := Option.some.inj h
    rw [ofChars, List.map_cons, ofChar_of_char? hc]
    exact congrArg _ (ih hcs)

/-! ## UTF-8 -/

theorem encodeUtf8_ofChars (cs : List Char) : (ofChars cs).encodeUtf8 = some (cs.flatMap String.utf8EncodeChar) := by
  rw [encodeUtf8, mapM_char?_ofChars]
  rfl

theorem encodeUtf8_eq_some {t : Text} {b : Bytes} :
    t.encodeUtf8 = some b ↔ ∃ cs, t = ofChars cs ∧ b = cs.flatMap String.utf8EncodeChar := by
  constructor
  · intro h
    obtain ⟨cs, hcs, rfl⟩ := Option.map_eq_some_iff.1 h
    exact ⟨cs, (ofChars_of_mapM hcs).symm, rfl⟩
  · rintro ⟨cs, rfl, rfl⟩
    exact encodeUtf8_ofChars cs

/-- Every text without surrogates, and no other, can be encoded. -/
theorem encodeUtf8_isSome {t : Text} : t.encodeUtf8.isSome = true ↔ t.Encodable := by
  rw [encodeUtf8, Option.isSome_map]
  induction t with
  | nil => simp [Encodable]
  | cons p t ih =>
    have hchar : p.char?.isSome = true ↔ p.val.isValidChar := by
      unfold char?
      split <;> simp_all
    simp only [Encodable, List.forall_mem_cons, List.mapM_cons] at ih ⊢
    rw [← ih, ← hchar]
    cases p.char? <;> cases t.mapM char? <;> simp

theorem encodable_ofString (s : String) : (ofString s).Encodable := by
  intro p hp
  obtain ⟨c, _, rfl⟩ := List.mem_map.1 hp
  exact c.valid

/-- **Round trip.** -/
theorem decode_of_encode {t : Text} {b : Bytes} (h : t.encodeUtf8 = some b) : decodeUtf8 b = some t := by
  obtain ⟨cs, rfl, rfl⟩ := encodeUtf8_eq_some.1 h
  have hbytes : (cs.flatMap String.utf8EncodeChar).toByteArray = cs.utf8Encode := rfl
  rw [decodeUtf8, hbytes, List.utf8Decode?_utf8Encode]
  rfl

/-! ## ASCII characters -/

/-- An ASCII character is one byte. -/
theorem encodeUtf8_ascii {c : Char} (h : c.toNat < 128) : encodeUtf8 [ofChar c] = some [UInt8.ofNat c.toNat] := by
  have hsize : c.utf8Size = 1 := by
    have hle : c.val ≤ 0x7f := UInt32.le_iff_toNat_le.2 (Nat.le_of_lt_succ h)
    simp [Char.utf8Size, hle]
  refine (encodeUtf8_ofChars [c]).trans ?_
  rw [List.flatMap_cons, List.flatMap_nil, List.append_nil, String.utf8EncodeChar_eq_singleton hsize]
  rfl

/-- `isascii() and isdigit()`: at least one character, and ASCII digits only. -/
def isAsciiDigits (t : Text) : Bool := t ≠ [] && t.all fun p => decide (48 ≤ p.val ∧ p.val ≤ 57)

/-- The decimal digits of a number. -/
def ofNat (n : Nat) : Text := ofChars (Nat.toDigits 10 n)

/-- The number that ASCII digits write. -/
def toNat (t : Text) : Nat := t.foldl (fun n p => 10 * n + (p.val - 48)) 0

theorem mem_ofNat {n : Nat} {p : CodePoint} (h : p ∈ ofNat n) : 48 ≤ p.val ∧ p.val ≤ 57 := by
  obtain ⟨c, hc, rfl⟩ := List.mem_map.1 h
  have hdigit : c.isDigit = true := Nat.isDigit_of_mem_toDigits (by decide) (by decide) hc
  have hbounds : 48 ≤ c.val ∧ c.val ≤ 57 := by simpa [Char.isDigit] using hdigit
  exact ⟨UInt32.le_iff_toNat_le.1 hbounds.1, UInt32.le_iff_toNat_le.1 hbounds.2⟩

theorem isAsciiDigits_iff {t : Text} : t.isAsciiDigits = true ↔ t ≠ [] ∧ ∀ p ∈ t, 48 ≤ p.val ∧ p.val ≤ 57 := by
  simp [isAsciiDigits]

theorem isAsciiDigits_ofNat (n : Nat) : (ofNat n).isAsciiDigits = true := by
  refine isAsciiDigits_iff.2 ⟨?_, fun p hp => mem_ofNat hp⟩
  intro hnil
  exact Nat.toDigits_ne_nil (List.map_eq_nil_iff.1 hnil)

/-- `t.partition(sep)`: what stands before the first `sep`, the separator if there is one, and the rest. -/
def partition (sep : CodePoint) (t : Text) : Text × Text × Text :=
  (t.takeWhile (· ≠ sep), (t.dropWhile (· ≠ sep)).take 1, (t.dropWhile (· ≠ sep)).drop 1)

theorem partition_append {sep : CodePoint} {t u : Text} (h : sep ∉ t) :
    partition sep (t ++ sep :: u) = (t, [sep], u) := by
  have hall : ∀ p ∈ t, decide (p ≠ sep) = true := fun p hp => decide_eq_true fun heq => h (heq ▸ hp)
  rw [partition, List.takeWhile_append_of_pos hall, List.dropWhile_append_of_pos hall]
  simp

end Text
