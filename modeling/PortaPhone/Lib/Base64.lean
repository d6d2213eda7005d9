import Mathlib.Data.List.DropRight
import PortaPhone.Lib.Text
/-!
# Base64 in the URL-safe alphabet

`urlsafeB64encode` and the lenient `urlsafeB64decode` of CPython's `base64`: the decoder passes over what is not in
the alphabet, also takes `+` and `/`, stops at a complete padding, and ignores the bits that no byte needs.
`decode_encode` is the round trip. A text without padding is `Canonical` when it encodes some bytes
(`canonical_iff`); other texts may decode to the same bytes, but only one is canonical (`respell_eq_some`).
-/

namespace Base64

open Text

abbrev Sextet := Fin 64

def pad : CodePoint := CodePoint.ofChar '='

/-! ## The alphabet -/

def symbol (v : Sextet) : CodePoint :=
  if v.val < 26 then Fin.ofNat _ (v.val + 65)
  else if v.val < 52 then Fin.ofNat _ (v.val + 71)
  else if v.val < 62 then Fin.ofNat _ (v.val - 4)
  else if v.val = 62 then CodePoint.ofChar '-' else CodePoint.ofChar '_'

/-- The value of a symbol in either alphabet. -/
def value? (p : CodePoint) : Option Sextet :=
  if 65 ≤ p.val ∧ p.val ≤ 90 then some (Fin.ofNat _ (p.val - 65))
  else if 97 ≤ p.val ∧ p.val ≤ 122 then some (Fin.ofNat _ (p.val - 71))
  else if 48 ≤ p.val ∧ p.val ≤ 57 then some (Fin.ofNat _ (p.val + 4))
  else if p = CodePoint.ofChar '-' ∨ p = CodePoint.ofChar '+' then some 62
  else if p = CodePoint.ofChar '_' ∨ p = CodePoint.ofChar '/' then some 63
  else none

example : (List.finRange 64).map symbol =
    ofString "ABCDEFGHIJKLMNOPQRSTUVWXYZabcdefghijklmnopqrstuvwxyz0123456789-_" := by decide +kernel

theorem value?_symbol (v : Sextet) : value? (symbol v) = some v := by
  revert v
  decide +kernel

theorem symbol_ne_pad (v : Sextet) : symbol v ≠ pad := by
  revert v
  decide +kernel

theorem symbol_lt (v : Sextet) : (symbol v).val < 128 := by
  revert v
  decide +kernel

/-! ## Encoding -/

/-- The groups of six bits; the last one is filled with zeros. -/
def sextets : Bytes → List Sextet
  | a :: b :: c :: rest =>
    Fin.ofNat _ (a.toNat / 4) :: Fin.ofNat _ (a.toNat % 4 * 16 + b.toNat / 16) ::
      Fin.ofNat _ (b.toNat % 16 * 4 + c.toNat / 64) :: Fin.ofNat _ (c.toNat % 64) :: sextets rest
  | [a, b] => [Fin.ofNat _ (a.toNat / 4), Fin.ofNat _ (a.toNat % 4 * 16 + b.toNat / 16), Fin.ofNat _ (b.toNat % 16 * 4)]
  | [a] => [Fin.ofNat _ (a.toNat / 4), Fin.ofNat _ (a.toNat % 4 * 16)]
  | [] => []

/-- The text of the bytes without the padding. -/
def unpadded (b : Bytes) : Text := (sextets b).map symbol

def urlsafeB64encode (b : Bytes) : Text := unpadded b ++ List.replicate ((3 - b.length % 3) % 3) pad

/-- `rstrip("=")`. -/
def stripPad (t : Text) : Text := t.rdropWhile (· = pad)

/-- `t + "=" * (-len(t) % 4)`. -/
def repad (t : Text) : Text := t ++ List.replicate ((4 - t.length % 4) % 4) pad

theorem stripPad_append (vs : List Sextet) (n : Nat) :
    stripPad (vs.map symbol ++ List.replicate n pad) = vs.map symbol := by
  induction n with
  | zero =>
    rw [List.replicate_zero, List.append_nil]
    apply List.rdropWhile_eq_self_iff.2
    intro h
    obtain ⟨v, _, hv⟩ := List.mem_map.1 (List.getLast_mem h)
    simpa [← hv] using symbol_ne_pad v
  | succ n ih =>
    rw [List.replicate_succ', ← List.append_assoc, stripPad, List.rdropWhile_concat_pos _ _ _ (by simp)]
    exact ih

/-- What is left of an encoding without its padding. -/
theorem stripPad_encode (b : Bytes) : stripPad (urlsafeB64encode b) = unpadded b := stripPad_append _ _

theorem length_sextets (b : Bytes) : (sextets b).length = (4 * b.length + 2) / 3 := by
  fun_induction sextets b with
  | case1 a b c rest ih =>
    simp only [List.length_cons, ih]
    omega
  | case2 => simp
  | case3 => simp
  | case4 => simp

/-- The padding that is put back is the one that was taken away. -/
theorem repad_unpadded (b : Bytes) : repad (unpadded b) = urlsafeB64encode b := by
  rw [repad, urlsafeB64encode]
  congr 2
  rw [unpadded, List.length_map, length_sextets]
  have hcases : b.length % 3 = 0 ∨ b.length % 3 = 1 ∨ b.length % 3 = 2 := by omega
  rcases hcases with h | h | h <;> omega

/-! ## Decoding -/

inductive DecodeError
  /-- A `ValueError`. -/
  | notAscii
  /-- A `binascii.Error`. -/
  | malformed
deriving DecidableEq, Repr

/-- Where the decoder is in a group of four symbols, with the bits that no byte has taken yet. -/
inductive Quad
  | q0
  | q1 (left : Nat)
  | q2 (left : Nat)
  | q3 (left : Nat)
deriving DecidableEq, Repr

def Quad.pos : Quad → Nat
  | q0 => 0
  | q1 _ => 1
  | q2 _ => 2
  | q3 _ => 3

/-- One symbol: the byte that is complete with it, if one is, and the place after it. -/
def Quad.push : Quad → Sextet → List UInt8 × Quad
  | q0, v => ([], q1 v.val)
  | q1 left, v => ([UInt8.ofNat (left * 4 + v.val / 16)], q2 (v.val % 16))
  | q2 left, v => ([UInt8.ofNat (left * 16 + v.val / 4)], q3 (v.val % 4))
  | q3 left, v => ([UInt8.ofNat (left * 64 + v.val)], q0)

/-- The loop of `binascii.a2b_base64`; `pads` counts the padding since the last symbol. -/
def a2b : Quad → Nat → Text → Option Bytes
  | q, _, [] => if q = .q0 then some [] else none
  | q, pads, p :: rest =>
    if p = pad then
      if 2 ≤ q.pos then
        if 4 ≤ q.pos + (pads + 1) then some [] else a2b q (pads + 1) rest
      else a2b q pads rest
    else
      match value? p with
      | none => a2b q pads rest
      | some v => (a2b (q.push v).2 0 rest).map ((q.push v).1 ++ ·)

def urlsafeB64decode (t : Text) : Except DecodeError Bytes :=
  if t.isAscii then
    match a2b .q0 0 t with
    | some b => .ok b
    | none => .error .malformed
  else .error .notAscii

/-! ## Round trip -/

theorem a2b_symbol (q : Quad) (pads : Nat) (v : Sextet) (rest : Text) :
    a2b q pads (symbol v :: rest) = (a2b (q.push v).2 0 rest).map ((q.push v).1 ++ ·) := by
  rw [a2b, if_neg (symbol_ne_pad v), value?_symbol]

theorem ofNat_eq {n : Nat} {a : UInt8} (h : n = a.toNat) : UInt8.ofNat n = a := by
  rw [h, UInt8.ofNat_toNat]

theorem a2b_encode (b : Bytes) (pads : Nat) : a2b .q0 pads (urlsafeB64encode b) = some b := by
  unfold urlsafeB64encode unpadded
  fun_induction sextets b generalizing pads with
  | case1 a b c rest ih =>
    have ha := a.toNat_lt
    have hb := b.toNat_lt
    have hc := c.toNat_lt
    have hlength : (a :: b :: c :: rest).length % 3 = rest.length % 3 := by
      simp only [List.length_cons]
      omega
    simp only [List.map_cons, List.cons_append, a2b_symbol, Quad.push, hlength, ih, Option.map_some, Fin.val_ofNat,
      List.nil_append]
    congr 2
    · exact ofNat_eq (by omega)
    · congr 1
      · exact ofNat_eq (by omega)
      · congr 1
        exact ofNat_eq (by omega)
  | case2 a b =>
    have ha := a.toNat_lt
    have hb := b.toNat_lt
    simp only [List.map_cons, List.map_nil, List.cons_append, List.nil_append, List.length_cons, List.length_nil,
      a2b_symbol, Quad.push, Fin.val_ofNat]
    have hend : a2b (.q3 (b.toNat % 16 * 4 % 64 % 4)) 0 (List.replicate ((3 - (0 + 1 + 1) % 3) % 3) pad) = some [] := by
      simp [a2b, Quad.pos]
    rw [hend]
    simp only [Option.map_some]
    congr 2
    · exact ofNat_eq (by omega)
    · congr 1
      exact ofNat_eq (by omega)
  | case3 a =>
    have ha := a.toNat_lt
    simp only [List.map_cons, List.map_nil, List.cons_append, List.nil_append, List.length_cons, List.length_nil,
      a2b_symbol, Quad.push, Fin.val_ofNat]
    have hend : a2b (.q2 (a.toNat % 4 * 16 % 64 % 16)) 0 (List.replicate ((3 - (0 + 1) % 3) % 3) pad) = some [] := by
      simp [a2b, Quad.pos, List.replicate]
    rw [hend]
    simp only [Option.map_some]
    congr 2
    exact ofNat_eq (by omega)
  | case4 => simp [a2b]

theorem isAscii_encode (b : Bytes) : (urlsafeB64encode b).isAscii = true := by
  refine List.all_eq_true.2 fun p hp => decide_eq_true ?_
  rcases List.mem_append.1 hp with hp | hp
  · obtain ⟨v, _, rfl⟩ := List.mem_map.1 hp
    exact symbol_lt v
  · rw [List.eq_of_mem_replicate hp]
    decide

/-- **Round trip.** -/
theorem decode_encode (b : Bytes) : urlsafeB64decode (urlsafeB64encode b) = .ok b := by
  rw [urlsafeB64decode, if_pos (isAscii_encode b), a2b_encode]

theorem decode_repad_unpadded (b : Bytes) : urlsafeB64decode (repad (unpadded b)) = .ok b := by
  rw [repad_unpadded, decode_encode]

theorem unpadded_inj {b b' : Bytes} (h : unpadded b = unpadded b') : b = b' := by
  have hdecode := congrArg (fun t => urlsafeB64decode (repad t)) h
  simp only [decode_repad_unpadded] at hdecode
  exact Except.ok.inj hdecode

/-! ## Canonical texts -/

/-- The groups are complete, and the bits that no byte needs are zero. -/
def Clear : List Sextet → Prop
  | _ :: _ :: _ :: _ :: rest => Clear rest
  | [_, _, v] => v.val % 4 = 0
  | [_, v] => v.val % 16 = 0
  | [_] => False
  | [] => True

/-- Symbols of the URL-safe alphabet only, and no stray bits. -/
def Canonical (t : Text) : Prop := ∃ vs : List Sextet, t = vs.map symbol ∧ Clear vs

theorem clear_sextets (b : Bytes) : Clear (sextets b) := by
  fun_induction sextets b with
  | case1 a b c rest ih => exact ih
  | case2 a b =>
    simp only [Clear, Fin.val_ofNat]
    omega
  | case3 a =>
    simp only [Clear, Fin.val_ofNat]
    omega
  | case4 => trivial

theorem exists_sextets {vs : List Sextet} (h : Clear vs) : ∃ b, sextets b = vs := by
  fun_induction Clear vs with
  | case1 v w x y rest ih =>
    obtain ⟨b, hb⟩ := ih h
    refine ⟨UInt8.ofNat (v.val * 4 + w.val / 16) :: UInt8.ofNat (w.val % 16 * 16 + x.val / 4) ::
      UInt8.ofNat (x.val % 4 * 64 + y.val) :: b, ?_⟩
    have hv := v.isLt
    have hw := w.isLt
    have hx := x.isLt
    have hy := y.isLt
    simp only [sextets, hb, List.cons.injEq, and_true, Fin.ext_iff, Fin.val_ofNat, UInt8.toNat_ofNat']
    omega
  | case2 v w x =>
    refine ⟨[UInt8.ofNat (v.val * 4 + w.val / 16), UInt8.ofNat (w.val % 16 * 16 + x.val / 4)], ?_⟩
    have hv := v.isLt
    have hw := w.isLt
    have hx := x.isLt
    simp only [sextets, List.cons.injEq, and_true, Fin.ext_iff, Fin.val_ofNat, UInt8.toNat_ofNat']
    omega
  | case3 v w =>
    refine ⟨[UInt8.ofNat (v.val * 4 + w.val / 16)], ?_⟩
    have hv := v.isLt
    have hw := w.isLt
    simp only [sextets, List.cons.injEq, and_true, Fin.ext_iff, Fin.val_ofNat, UInt8.toNat_ofNat']
    omega
  | case4 => exact h.elim
  | case5 => exact ⟨[], rfl⟩

/-- The canonical texts are those of some bytes. -/
theorem canonical_iff {t : Text} : Canonical t ↔ ∃ b, t = unpadded b := by
  constructor
  · rintro ⟨vs, rfl, hclear⟩
    obtain ⟨b, rfl⟩ := exists_sextets hclear
    exact ⟨b, rfl⟩
  · rintro ⟨b, rfl⟩
    exact ⟨sextets b, rfl, clear_sextets b⟩

/-- The canonical text of the bytes that a text decodes to. -/
def respell (t : Text) : Option Text :=
  match urlsafeB64decode (repad t) with
  | .ok b => some (unpadded b)
  | .error _ => none

theorem respell_eq_some {t u : Text} :
    respell t = some u ↔ ∃ b, urlsafeB64decode (repad t) = .ok b ∧ unpadded b = u := by
  unfold respell
  cases urlsafeB64decode (repad t) <;> simp

/-- A canonical text is the only one with its spelling. -/
theorem canonical_iff_respell {t : Text} : Canonical t ↔ respell t = some t := by
  rw [canonical_iff, respell_eq_some]
  constructor
  · rintro ⟨b, rfl⟩
    exact ⟨b, decode_repad_unpadded b, rfl⟩
  · rintro ⟨b, _, rfl⟩
    exact ⟨b, rfl⟩

end Base64
