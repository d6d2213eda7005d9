import Mathlib
import PortaPhone.Lib.JsonDepth
import PortaPhone.Lib.JsonText
import PortaPhone.Lib.Regex
/-!
# Reading JSON

`loads` is `json.loads` of a text. The scanner calls itself for every list and object, and where `d` of them stand in
each other it has gone as deep as it can: one more is a `RecursionError`, whatever comes behind it in the text. What
`float` makes of a number is left open (`floatRepr`, the `repr` of it), and half of a surrogate pair, which is no
character here, is read as U+FFFD. `loads_dumps`: what `dumps` writes is read as the value.
-/

namespace Json

open Regex (rests)

/-! ## Strings -/

def hexDigit? (c : Char) : Option Nat :=
  if '0' ≤ c ∧ c ≤ '9' then some (c.toNat - 48)
  else if 'a' ≤ c ∧ c ≤ 'f' then some (c.toNat - 87)
  else if 'A' ≤ c ∧ c ≤ 'F' then some (c.toNat - 55)
  else none

/-- The four digits of `\uXXXX`. -/
def hex4 : List Char → Option (Nat × List Char)
  | a :: b :: c :: d :: s => do
    let a ← hexDigit? a
    let b ← hexDigit? b
    let c ← hexDigit? c
    let d ← hexDigit? d
    return (a * 4096 + b * 256 + c * 16 + d, s)
  | _ => none

/-- What stands here for half of a surrogate pair. -/
def half : Char := Char.ofNat 0xFFFD

/-- The character of `\u`, with the second half of a surrogate pair behind a first one. -/
def unicodeEscape (s : List Char) : Option (Char × List Char) := do
  let (n, s) ← hex4 s
  if 0xD800 ≤ n ∧ n ≤ 0xDBFF then
    match s with
    | '\\' :: 'u' :: t => do
      let (m, t) ← hex4 t
      if 0xDC00 ≤ m ∧ m ≤ 0xDFFF then return (Char.ofNat (0x10000 + (n - 0xD800) * 0x400 + (m - 0xDC00)), t)
      else return (half, s)
    | _ => return (half, s)
  else if 0xDC00 ≤ n ∧ n ≤ 0xDFFF then return (half, s)
  else return (Char.ofNat n, s)

/-- What follows a backslash. -/
def escape : List Char → Option (Char × List Char)
  | '"' :: s => some ('"', s)
  | '\\' :: s => some ('\\', s)
  | '/' :: s => some ('/', s)
  | 'b' :: s => some (Char.ofNat 0x08, s)
  | 'f' :: s => some (Char.ofNat 0x0C, s)
  | 'n' :: s => some ('\n', s)
  | 'r' :: s => some ('\r', s)
  | 't' :: s => some ('\t', s)
  | 'u' :: s => unicodeEscape s
  | _ => none

/-- The rest of a string, up to its closing quote, in `n` characters at most. -/
def scanString : Nat → List Char → Option (List Char × List Char)
  | 0, _ => none
  | _ + 1, [] => none
  | n + 1, c :: s =>
    if c = '"' then some ([], s)
    else if c = '\\' then do
      let (c, s) ← escape s
      let (cs, s) ← scanString n s
      return (c :: cs, s)
    else if c.toNat < 0x20 then none
    else do
      let (cs, s) ← scanString n s
      return (c :: cs, s)

theorem hexDigit?_digitChar {d : Nat} (h : d < 16) : hexDigit? (Nat.digitChar d) = some d := by
  interval_cases d <;> rfl

theorem hex4_hex {n : Nat} (h : n < 0x10000) (s : List Char) : hex4 (hex 4 n ++ s) = some (n, s) := by
  have hdigits : hex 4 n = [Nat.digitChar (n / 4096 % 16), Nat.digitChar (n / 256 % 16), Nat.digitChar (n / 16 % 16),
      Nat.digitChar (n % 16)] := by
    simp [hex, List.range_succ]
  have hmod : ∀ m : Nat, hexDigit? (Nat.digitChar (m % 16)) = some (m % 16) := fun m =>
    hexDigit?_digitChar (Nat.mod_lt m (by decide))
  rw [hdigits]
  simp only [hex4, List.cons_append, List.nil_append, hmod, Option.bind_eq_bind, Option.bind_some]
  congr 2
  omega

theorem escape_unicode {c : Char} (h : c.toNat < 0x10000) (s : List Char) :
    escape ('u' :: (hex 4 c.toNat ++ s)) = some (c, s) := by
  have hrange : c.toNat < 0xD800 ∨ 0xDFFF < c.toNat := by
    rcases c.valid with hlow | ⟨hhigh, -⟩
    · exact .inl hlow
    · exact .inr hhigh
  have hfirst : ¬ (0xD800 ≤ c.toNat ∧ c.toNat ≤ 0xDBFF) := by omega
  have hsecond : ¬ (0xDC00 ≤ c.toNat ∧ c.toNat ≤ 0xDFFF) := by omega
  rw [escape, unicodeEscape, hex4_hex h]
  simp only [Option.bind_eq_bind, Option.bind_some]
  rw [if_neg hfirst, if_neg hsecond, Char.ofNat_toNat]
  rfl

theorem toNat_lt (c : Char) : c.toNat < 0x110000 := by
  rcases c.valid with hlow | ⟨-, hhigh⟩
  · exact Nat.lt_trans hlow (by decide)
  · exact hhigh

/-- Both halves of a surrogate pair. -/
theorem escape_halves {hi lo : Nat} (hhi : hi < 0x400) (hlo : lo < 0x400) (s : List Char) :
    escape ('u' :: (hex 4 (0xD800 + hi) ++ '\\' :: 'u' :: (hex 4 (0xDC00 + lo) ++ s))) =
      some (Char.ofNat (0x10000 + hi * 0x400 + lo), s) := by
  have hfirst : 0xD800 ≤ 0xD800 + hi ∧ 0xD800 + hi ≤ 0xDBFF := by omega
  have hsecond : 0xDC00 ≤ 0xDC00 + lo ∧ 0xDC00 + lo ≤ 0xDFFF := by omega
  have hn : 0xD800 + hi < 0x10000 := by omega
  have hm : 0xDC00 + lo < 0x10000 := by omega
  rw [escape, unicodeEscape, hex4_hex hn]
  simp only [Option.bind_eq_bind, Option.bind_some, if_pos hfirst, hex4_hex hm, if_pos hsecond, Nat.add_sub_cancel_left]
  rfl

theorem escape_pair {c : Char} (h : 0x10000 ≤ c.toNat) (s : List Char) :
    escape ('u' :: (hex 4 (0xD800 + (c.toNat - 0x10000) / 0x400) ++
      '\\' :: 'u' :: (hex 4 (0xDC00 + (c.toNat - 0x10000) % 0x400) ++ s))) = some (c, s) := by
  have hlt := toNat_lt c
  have hnat : 0x10000 + (c.toNat - 0x10000) / 0x400 * 0x400 + (c.toNat - 0x10000) % 0x400 = c.toNat := by omega
  rw [escape_halves (by omega) (by omega), hnat, Char.ofNat_toNat]

/-- How a string is written, one character after the other. -/
theorem escapeChar_cases (c : Char) (s : List Char) :
    (∃ e, escapeChar c = '\\' :: e ∧ escape (e ++ s) = some (c, s)) ∨
      escapeChar c = [c] ∧ c ≠ '"' ∧ c ≠ '\\' ∧ ¬ c.toNat < 0x20 := by
  have hnat : ∀ n, c.toNat = n → c = Char.ofNat n := by
    rintro n rfl
    exact (Char.ofNat_toNat c).symm
  unfold escapeChar
  by_cases hquote : c = '"'
  · rw [if_pos hquote, hquote]
    exact .inl ⟨['"'], rfl, rfl⟩
  rw [if_neg hquote]
  by_cases hescape : c = '\\'
  · rw [if_pos hescape, hescape]
    exact .inl ⟨['\\'], rfl, rfl⟩
  rw [if_neg hescape]
  by_cases hn : c = '\n'
  · rw [if_pos hn, hn]
    exact .inl ⟨['n'], rfl, rfl⟩
  rw [if_neg hn]
  by_cases hr : c = '\r'
  · rw [if_pos hr, hr]
    exact .inl ⟨['r'], rfl, rfl⟩
  rw [if_neg hr]
  by_cases ht : c = '\t'
  · rw [if_pos ht, ht]
    exact .inl ⟨['t'], rfl, rfl⟩
  rw [if_neg ht]
  by_cases hf : c.toNat = 0x0C
  · rw [if_pos hf, hnat _ hf]
    exact .inl ⟨['f'], rfl, rfl⟩
  rw [if_neg hf]
  by_cases hb : c.toNat = 0x08
  · rw [if_pos hb, hnat _ hb]
    exact .inl ⟨['b'], rfl, rfl⟩
  rw [if_neg hb]
  by_cases hplain : 0x20 ≤ c.toNat ∧ c.toNat ≤ 0x7E
  · rw [if_pos hplain]
    exact .inr ⟨rfl, hquote, hescape, by omega⟩
  rw [if_neg hplain]
  by_cases hbmp : c.toNat < 0x10000
  · rw [if_pos hbmp]
    exact .inl ⟨_, rfl, escape_unicode hbmp s⟩
  · rw [if_neg hbmp]
    refine .inl ⟨_, rfl, ?_⟩
    rw [List.cons_append, List.append_assoc]
    exact escape_pair (by omega) s

theorem scanString_dumps (cs : List Char) (rest : List Char) {n : Nat} (hn : cs.length < n) :
    scanString n (cs.flatMap escapeChar ++ '"' :: rest) = some (cs, rest) := by
  induction cs generalizing n with
  | nil =>
    obtain ⟨n, rfl⟩ := Nat.exists_eq_succ_of_ne_zero (Nat.ne_of_gt hn)
    rfl
  | cons c cs ih =>
    obtain ⟨n, rfl⟩ := Nat.exists_eq_succ_of_ne_zero (Nat.ne_of_gt (Nat.zero_lt_of_lt hn))
    have hrest := ih (Nat.lt_of_succ_lt_succ hn)
    rw [List.flatMap_cons, List.append_assoc]
    rcases escapeChar_cases c (cs.flatMap escapeChar ++ '"' :: rest) with ⟨e, he, hescape⟩
      | ⟨he, hquote, hescape, hlarge⟩
    · rw [he, List.cons_append, scanString, if_neg (by decide), if_pos rfl, hescape]
      simp [hrest]
    · rw [he, List.singleton_append, scanString, if_neg hquote, if_neg hescape, if_neg hlarge]
      simp [hrest]

/-! ## Numbers -/

def digit : Regex := .one fun c => '0' ≤ c ∧ c ≤ '9'

/-- `-?(?:0|[1-9]\d*)`. -/
def integerPart : Regex :=
  .seq (.opt (.one (· = '-'))) (.alt (.one (· = '0')) (.seq (.one fun c => '1' ≤ c ∧ c ≤ '9') (.star digit)))

/-- `(\.\d+)?([eE][-+]?\d+)?`. -/
def floatPart : Regex :=
  .seq (.opt (.seq (.one (· = '.')) (.plus digit)))
    (.opt (.seq (.one fun c => c = 'e' ∨ c = 'E') (.seq (.opt (.one fun c => c = '-' ∨ c = '+')) (.plus digit))))

def number : Regex := .seq integerPart floatPart

/-- `int` of the digits with their sign; it takes no more than `maxDigits` of them. -/
def readInt : List Char → Option Int
  | '-' :: ds => if ds.length ≤ maxDigits then some (-(Nat.ofDigitChars 10 ds 0 : Int)) else none
  | ds => if ds.length ≤ maxDigits then some (Nat.ofDigitChars 10 ds 0 : Int) else none

/-- There is a part of a float. -/
def isFloatToken (token : List Char) : Bool := token.any fun c => c = '.' ∨ c = 'e' ∨ c = 'E'

section Parse

-- the `repr` of a number that is read as a float
variable (floatRepr : List Char → String)

def scanNumber (s : List Char) : Option (Json × List Char) := do
  let rest ← (rests number s).head?
  let token := s.take (s.length - rest.length)
  if isFloatToken token then return (float (floatRepr token), rest)
  return (int (← readInt token), rest)

/-- A `repr` of a float: it is read as the float that it is of. -/
def isFloatRepr (r : String) : Bool :=
  r = "nan" || r = "inf" || r = "-inf" ||
    ((rests number r.toList).head? = some [] && isFloatToken r.toList && floatRepr r.toList = r)

/-! ## Values -/

def constants : List (List Char × Json) :=
  [("null".toList, null), ("true".toList, bool true), ("false".toList, bool false), ("NaN".toList, float "nan"),
    ("Infinity".toList, float "inf"), ("-Infinity".toList, float "-inf")]

def scanConstant (s : List Char) : Option (Json × List Char) :=
  (constants.find? fun c => c.1.isPrefixOf s).map fun c => (c.2, s.drop c.1.length)

def skipSpaces (s : List Char) : List Char := s.dropWhile fun c => c = ' ' || c = '\t' || c = '\n' || c = '\r'

/-- What was read, if anything was. -/
def orInvalid {α : Type} : Option α → Except Failure α
  | some x => .ok x
  | none => .error .value

mutual

/-- A value at the start of a text, in `n` steps at most. -/
def scanOnce : Nat → Nat → List Char → Except Failure (Json × List Char)
  | 0, _, _ => .error .value
  | _ + 1, _, [] => .error .value
  | n + 1, d, c :: s =>
    if c = '"' then orInvalid ((scanString (s.length + 1) s).map fun (cs, s) => (str (String.ofList cs), s))
    else if c = '[' then
      if d = 0 then .error .recursion
      else match skipSpaces s with
        | ']' :: s => .ok (list [], s)
        | s => (scanItems n (d - 1) s).map fun (items, s) => (list items, s)
    else if c = '\x7b' then
      if d = 0 then .error .recursion
      else match skipSpaces s with
        | '\x7d' :: s => .ok (object [], s)
        | s => (scanFields n (d - 1) s).map fun (fields, s) => (object (Dict.empty.update fields).entries, s)
    else orInvalid ((scanConstant (c :: s)).or (scanNumber floatRepr (c :: s)))

/-- The rest of a list, from an element on. -/
def scanItems : Nat → Nat → List Char → Except Failure (List Json × List Char)
  | 0, _, _ => .error .value
  | n + 1, d, s => do
    let (v, s) ← scanOnce n d s
    match skipSpaces s with
    | ']' :: s => return ([v], s)
    | ',' :: s => (scanItems n d (skipSpaces s)).map fun (items, s) => (v :: items, s)
    | _ => .error .value

/-- The rest of an object, from a key on. -/
def scanFields : Nat → Nat → List Char → Except Failure (List (String × Json) × List Char)
  | n + 1, d, '"' :: s => do
    let (k, s) ← orInvalid (scanString (s.length + 1) s)
    match skipSpaces s with
    | ':' :: s => do
      let (v, s) ← scanOnce n d (skipSpaces s)
      match skipSpaces s with
      | '\x7d' :: s => return ([(String.ofList k, v)], s)
      | ',' :: s => (scanFields n d (skipSpaces s)).map fun (fields, s) => ((String.ofList k, v) :: fields, s)
      | _ => .error .value
    | _ => .error .value
  | _, _, _ => .error .value

end

/-- A value and nothing else, and no byte order mark. A list or an object takes two steps, and one character at least.
-/
def loads (d : Nat) (text : List Char) : Except Failure Json :=
  if text.head? = some (Char.ofNat 0xFEFF) then .error .value
  else do
    let (v, s) ← scanOnce floatRepr (2 * text.length + 2) d (skipSpaces text)
    if (skipSpaces s).isEmpty then return v else .error .value

end Parse

/-! ## Numbers that were written -/

/-- What may follow a value that was written. -/
inductive Follows : List Char → Prop
  | nil : Follows []
  | comma (u : List Char) : Follows (',' :: u)
  | bracket (u : List Char) : Follows (']' :: u)
  | brace (u : List Char) : Follows ('\x7d' :: u)

/-- No number takes any of it. -/
theorem Follows.rests_number {rest : List Char} (h : Follows rest) (token : List Char) :
    rests number (token ++ rest) = (rests number token).map (· ++ rest) := by
  cases h with
  | nil => exact Regex.rests_append (d := ',') (by decide) .nil token
  | comma u => exact Regex.rests_append (by decide) (.cons u) token
  | bracket u => exact Regex.rests_append (by decide) (.cons u) token
  | brace u => exact Regex.rests_append (by decide) (.cons u) token

theorem digit_range {c : Char} (h : c.isDigit = true) : '0' ≤ c ∧ c ≤ '9' := by
  rw [Char.isDigit, Bool.and_eq_true, decide_eq_true_iff, decide_eq_true_iff] at h
  exact h

/-- A number has no zero in front. -/
theorem toDigits_leading {n : Nat} (h : 0 < n) : ∃ d ds, Nat.toDigits 10 n = d :: ds ∧ '1' ≤ d ∧ d ≤ '9' := by
  induction n using Nat.strongRecOn with
  | ind n ih =>
    rw [Nat.toDigits_eq_if (by decide)]
    split
    · refine ⟨_, [], rfl, ?_⟩
      interval_cases n <;> decide
    · obtain ⟨d, ds, hds, hd⟩ := ih (n / 10) (by omega) (by omega)
      exact ⟨d, ds ++ [Nat.digitChar (n % 10)], by rw [hds]; rfl, hd⟩

theorem rests_toDigits (n : Nat) :
    (rests (.alt (.one (· = '0')) (.seq (.one fun c => '1' ≤ c ∧ c ≤ '9') (.star digit))) (Nat.toDigits 10 n)).head? =
      some [] := by
  rcases Nat.eq_zero_or_pos n with rfl | hpos
  · rfl
  · obtain ⟨d, ds, hds, hlow, hhigh⟩ := toDigits_leading hpos
    have hzero : ¬ d = '0' := by
      rintro rfl
      exact absurd hlow (by decide)
    have hrest : ∀ c ∈ ds, (decide ('0' ≤ c ∧ c ≤ '9')) = true := by
      intro c hc
      have hmem : c ∈ Nat.toDigits 10 n := hds ▸ List.mem_cons_of_mem d hc
      exact decide_eq_true (digit_range (Nat.isDigit_of_mem_toDigits (by decide) (by decide) hmem))
    rw [hds]
    apply Regex.head?_rests_alt_right
    · simp [rests, hzero]
    · apply Regex.head?_rests_seq (q := ds)
      · simp [rests, hlow, hhigh]
      · have hstar := Regex.head?_rests_star_one (t := []) hrest (by simp)
        rwa [List.append_nil] at hstar

theorem not_minus {n : Nat} {c : Char} (h : c ∈ Nat.toDigits 10 n) : c ≠ '-' := by
  rintro rfl
  exact absurd (Nat.isDigit_of_mem_toDigits (by decide) (by decide) h) (by decide)

/-- Digits, with a sign or without one, are an integer part. -/
theorem rests_integer (n : Nat) {sign : List Char} (h : sign = [] ∨ sign = ['-']) :
    (rests number (sign ++ Nat.toDigits 10 n)).head? = some [] := by
  apply Regex.head?_rests_seq (q := []) _ rfl
  apply Regex.head?_rests_seq (q := Nat.toDigits 10 n) _ (rests_toDigits n)
  rcases h with rfl | rfl
  · obtain ⟨d, ds, hds⟩ := List.exists_cons_of_ne_nil (Nat.toDigits_ne_nil (n := n) (b := 10))
    have hd : d ≠ '-' := not_minus (hds ▸ List.mem_cons_self)
    rw [List.nil_append, hds]
    apply Regex.head?_rests_alt_right
    · simp [rests, hd]
    · rfl
  · exact Regex.head?_rests_alt rfl

/-- How an integer is written. -/
theorem toList_toString (i : Int) :
    ∃ sign, (sign = [] ∧ 0 ≤ i ∨ sign = ['-'] ∧ i < 0) ∧ (toString i).toList = sign ++ Nat.toDigits 10 i.natAbs := by
  rw [Int.toString_eq_repr, Int.repr_eq_if]
  split
  · rename_i hnonneg
    refine ⟨[], .inl ⟨rfl, hnonneg⟩, ?_⟩
    rw [Nat.toList_repr, List.nil_append]
    congr 1
    omega
  · rename_i hneg
    refine ⟨['-'], .inr ⟨rfl, Int.not_le.1 hneg⟩, ?_⟩
    rw [String.toList_append, Nat.toList_repr]
    congr 2
    omega

theorem rests_int (i : Int) : (rests number (toString i).toList).head? = some [] := by
  obtain ⟨sign, hsign, heq⟩ := toList_toString i
  rw [heq]
  exact rests_integer i.natAbs (hsign.imp And.left And.left)

theorem not_floatToken (i : Int) : isFloatToken (toString i).toList = false := by
  have hdigits : isFloatToken (Nat.toDigits 10 i.natAbs) = false := by
    rw [isFloatToken, List.any_eq_false]
    intro c hc hmark
    have hdigit := Nat.isDigit_of_mem_toDigits (by decide) (by decide) hc
    rw [decide_eq_true_iff] at hmark
    rcases hmark with rfl | rfl | rfl <;> exact absurd hdigit (by decide)
  obtain ⟨sign, ⟨rfl, -⟩ | ⟨rfl, -⟩, heq⟩ := toList_toString i
  · rw [heq]
    exact hdigits
  · rw [heq]
    exact hdigits

theorem readInt_toString {i : Int} (h : (Nat.toDigits 10 i.natAbs).length ≤ maxDigits) :
    readInt (toString i).toList = some i := by
  obtain ⟨sign, ⟨rfl, hi⟩ | ⟨rfl, hi⟩, heq⟩ := toList_toString i
  · obtain ⟨d, ds, hds⟩ := List.exists_cons_of_ne_nil (Nat.toDigits_ne_nil (n := i.natAbs) (b := 10))
    have hd : d ≠ '-' := not_minus (hds ▸ List.mem_cons_self)
    have hread : readInt (d :: ds) =
        if (d :: ds).length ≤ maxDigits then some (Nat.ofDigitChars 10 (d :: ds) 0 : Int) else none := by
      rw [readInt]
      intro ds heq
      exact hd (List.cons.inj heq).1
    rw [heq, List.nil_append, hds, hread, ← hds, if_pos h, Nat.ofDigitChars_ten_toDigits]
    congr 1
    omega
  · rw [heq, List.singleton_append, readInt, if_pos h, Nat.ofDigitChars_ten_toDigits]
    congr 1
    omega

theorem escapeChar_ne_nil (c : Char) : escapeChar c ≠ [] := by
  unfold escapeChar
  repeat' split
  all_goals exact List.cons_ne_nil _ _

section Written

variable {floatRepr : List Char → String}

theorem scanNumber_append {token rest : List Char} (h : (rests number token).head? = some []) (hrest : Follows rest) :
    scanNumber floatRepr (token ++ rest) =
      if isFloatToken token then some (float (floatRepr token), rest) else (readInt token).map (int ·, rest) := by
  have hscan : (rests number (token ++ rest)).head? = some rest := by
    rw [hrest.rests_number, List.head?_map, h]
    rfl
  have htake : (token ++ rest).take ((token ++ rest).length - rest.length) = token := by
    rw [List.length_append, Nat.add_sub_cancel, List.take_left]
  rw [scanNumber, hscan]
  simp only [Option.bind_eq_bind, Option.bind_some, htake]
  split
  · rfl
  · cases readInt token <;> rfl

/-- Neither a constant nor the start of a string, of a list or of an object. -/
theorem number_start {c : Char} {s : List Char} (h : rests number (c :: s) ≠ []) :
    c ≠ '"' ∧ c ≠ '[' ∧ c ≠ '\x7b' ∧ scanConstant (c :: s) = none := by
  refine ⟨?_, ?_, ?_, ?_⟩
  · rintro rfl
    exact h rfl
  · rintro rfl
    exact h rfl
  · rintro rfl
    exact h rfl
  · rw [scanConstant, Option.map_eq_none_iff, List.find?_eq_none]
    intro constant hmem hprefix
    obtain ⟨t, ht⟩ := List.isPrefixOf_iff_prefix.1 hprefix
    rw [← ht] at h
    simp only [constants, List.mem_cons, List.not_mem_nil, or_false] at hmem
    rcases hmem with rfl | rfl | rfl | rfl | rfl | rfl <;> exact h rfl

theorem rests_of_isFloatRepr {r : String} (hnan : r ≠ "nan") (hinf : r ≠ "inf") (hneg : r ≠ "-inf")
    (h : isFloatRepr floatRepr r = true) :
    (rests number r.toList).head? = some [] ∧ isFloatToken r.toList = true ∧ floatRepr r.toList = r := by
  simpa [isFloatRepr, hnan, hinf, hneg, and_assoc] using h

theorem scanOnce_number {token rest : List Char} (h : (rests number token).head? = some []) (hrest : Follows rest)
    {n : Nat} (hn : 0 < n) (d : Nat) :
    scanOnce floatRepr n d (token ++ rest) = orInvalid (scanNumber floatRepr (token ++ rest)) := by
  obtain ⟨n, rfl⟩ := Nat.exists_eq_succ_of_ne_zero (Nat.ne_of_gt hn)
  cases token with
  | nil => cases h
  | cons c token =>
    have hne : rests number (c :: (token ++ rest)) ≠ [] := by
      rw [← List.cons_append, hrest.rests_number]
      intro hnil
      rw [List.map_eq_nil_iff.1 hnil] at h
      cases h
    obtain ⟨hquote, hbracket, hbrace, hconstant⟩ := number_start hne
    rw [List.cons_append, scanOnce, if_neg hquote, if_neg hbracket, if_neg hbrace, hconstant, Option.none_or]

theorem scanOnce_int {i : Int} (h : (Nat.toDigits 10 i.natAbs).length ≤ maxDigits) {rest : List Char}
    (hrest : Follows rest)
    {n : Nat} (hn : 0 < n) (d : Nat) : scanOnce floatRepr n d ((toString i).toList ++ rest) = .ok (int i, rest) := by
  have htoken := not_floatToken i
  rw [scanOnce_number (rests_int i) hrest hn, scanNumber_append (rests_int i) hrest, htoken, readInt_toString h]
  rfl

theorem scanOnce_float {r : String} (h : isFloatRepr floatRepr r = true) {rest : List Char} (hrest : Follows rest)
    {n : Nat} (hn : 0 < n) (d : Nat) : scanOnce floatRepr n d (dumpsFloat r ++ rest) = .ok (float r, rest) := by
  obtain ⟨n, rfl⟩ := Nat.exists_eq_succ_of_ne_zero (Nat.ne_of_gt hn)
  unfold dumpsFloat
  split_ifs with hnan hinf hneg
  · rw [hnan]
    rfl
  · rw [hinf]
    rfl
  · rw [hneg]
    rfl
  · obtain ⟨hrests, htoken, hrepr⟩ := rests_of_isFloatRepr hnan hinf hneg h
    rw [scanOnce_number hrests hrest hn, scanNumber_append hrests hrest, if_pos htoken, hrepr]
    rfl

theorem scanString_dumpsStr (s : String) (rest : List Char) :
    scanString ((s.toList.flatMap escapeChar ++ '"' :: rest).length + 1) (s.toList.flatMap escapeChar ++ '"' :: rest) =
      some (s.toList, rest) := by
  apply scanString_dumps
  have hle := length_le_flatMap escapeChar escapeChar_ne_nil s.toList
  rw [List.length_append]
  omega

theorem scanOnce_str (s : String) (rest : List Char) {n : Nat} (hn : 0 < n) (d : Nat) :
    scanOnce floatRepr n d (dumpsStr s ++ rest) = .ok (str s, rest) := by
  obtain ⟨n, rfl⟩ := Nat.exists_eq_succ_of_ne_zero (Nat.ne_of_gt hn)
  rw [dumpsStr, List.cons_append, List.append_assoc, List.singleton_append, scanOnce, if_pos rfl, scanString_dumpsStr]
  simp [orInvalid]

/-! ## Values that were written -/

/-- The start of a value that was written: no space, no end of a list and no byte order mark. -/
inductive Starts : List Char → Prop
  | cons {c : Char} (s : List Char) (h : c ∉ [' ', '\t', '\n', '\r', ']', Char.ofNat 0xFEFF]) : Starts (c :: s)

theorem Starts.append {s : List Char} (h : Starts s) (t : List Char) : Starts (s ++ t) := by
  obtain ⟨s, hc⟩ := h
  exact .cons (s ++ t) hc

theorem Starts.length_pos {s : List Char} (h : Starts s) : 0 < s.length := by
  obtain ⟨s, -⟩ := h
  exact Nat.succ_pos s.length

theorem Starts.head {s : List Char} (h : Starts s) : ¬ s.head? = some (Char.ofNat 0xFEFF) := by
  obtain ⟨s, hc⟩ := h
  intro heq
  obtain rfl := Option.some.inj heq
  exact absurd (by decide) hc

theorem Starts.skipSpaces {s : List Char} (h : Starts s) : skipSpaces s = s := by
  obtain ⟨s, hc⟩ := h
  simp only [List.mem_cons, List.not_mem_nil, or_false, not_or] at hc
  simp [Json.skipSpaces, hc]

theorem starts_of_rests {token : List Char} (h : (rests number token).head? = some []) : Starts token := by
  cases token with
  | nil => cases h
  | cons c s =>
    refine .cons s fun hc => ?_
    simp only [List.mem_cons, List.not_mem_nil, or_false] at hc
    rcases hc with rfl | rfl | rfl | rfl | rfl | rfl <;> cases h

theorem starts_dumpsStr (s : String) : Starts (dumpsStr s) := .cons _ (by decide)

theorem starts_print {v : Json} (hv : wellFormed (isFloatRepr floatRepr) v = true) : Starts (print dumpsStyle v) := by
  cases v with
  | null => exact .cons _ (by decide)
  | bool b => cases b <;> exact .cons _ (by decide)
  | int i => exact starts_of_rests (rests_int i)
  | float r =>
    show Starts (dumpsFloat r)
    unfold dumpsFloat
    split_ifs with hnan hinf hneg
    · exact .cons _ (by decide)
    · exact .cons _ (by decide)
    · exact .cons _ (by decide)
    · exact starts_of_rests (rests_of_isFloatRepr hnan hinf hneg hv).1
  | str s => exact starts_dumpsStr s
  | list items => exact .cons _ (by decide)
  | object fields => exact .cons _ (by decide)

theorem scanOnce_list {s : List Char} (h : Starts s) (n d : Nat) :
    scanOnce floatRepr (n + 1) (d + 1) ('[' :: s) =
      (scanItems floatRepr n d s).map fun (items, s) => (list items, s) := by
  rw [scanOnce, if_neg (by decide), if_pos rfl, if_neg (Nat.succ_ne_zero d), h.skipSpaces, Nat.add_sub_cancel]
  obtain ⟨s, hc⟩ := h
  split
  · rename_i heq
    obtain ⟨rfl, -⟩ := List.cons.inj heq
    exact absurd (by decide) hc
  · rfl

theorem scanOnce_object (field : String × Json) (fields : List (String × Json)) (s : List Char) (n d : Nat) :
    scanOnce floatRepr (n + 1) (d + 1) ('\x7b' :: (printFields dumpsStyle [] (field :: fields) ++ s)) =
      (scanFields floatRepr n d (printFields dumpsStyle [] (field :: fields) ++ s)).map fun (fields, s) =>
        (object (Dict.empty.update fields).entries, s) := rfl

theorem printItems_more (v w : Json) (items : List Json) : printItems dumpsStyle [] (v :: w :: items) =
    print dumpsStyle v ++ ',' :: ' ' :: printItems dumpsStyle [] (w :: items) := rfl

theorem printFields_single (k : String) (v : Json) :
    printFields dumpsStyle [] [(k, v)] = dumpsStr k ++ ':' :: ' ' :: print dumpsStyle v := by
  simp [printFields, dumpsStyle]

theorem printFields_more (k : String) (v : Json) (field : String × Json) (fields : List (String × Json)) :
    printFields dumpsStyle [] ((k, v) :: field :: fields) =
      dumpsStr k ++ ':' :: ' ' ::
        (print dumpsStyle v ++ ',' :: ' ' :: printFields dumpsStyle [] (field :: fields)) := rfl

theorem starts_items {items : List Json} (hne : items ≠ []) (h : wellFormedItems (isFloatRepr floatRepr) items = true) :
    Starts (printItems dumpsStyle [] items) := by
  cases items with
  | nil => exact absurd rfl hne
  | cons v items =>
    rw [wellFormedItems, Bool.and_eq_true] at h
    exact (starts_print h.1).append _

theorem scanItems_last {n d k : Nat} {s rest : List Char} {v : Json}
    (h : scanOnce floatRepr n d s = within d k (v, ']' :: rest)) :
    scanItems floatRepr (n + 1) d s = within d k ([v], rest) := by
  rw [scanItems, h]
  exact within_bind_ok rfl

theorem scanItems_more {n d k k' : Nat} {s t rest : List Char} {v : Json} {items : List Json}
    (h : scanOnce floatRepr n d s = within d k (v, ',' :: ' ' :: t)) (ht : Starts t)
    (hrest : scanItems floatRepr n d t = within d k' (items, rest)) :
    scanItems floatRepr (n + 1) d s = within d (max k k') (v :: items, rest) := by
  rw [scanItems, h]
  apply within_bind
  show (scanItems floatRepr n d (skipSpaces t)).map _ = _
  rw [ht.skipSpaces, hrest, within_map]

theorem scanFields_last {n d j : Nat} {s rest : List Char} {v : Json}
    (h : scanOnce floatRepr n d s = within d j (v, '\x7d' :: rest)) (hs : Starts s) (k : String) :
    scanFields floatRepr (n + 1) d (dumpsStr k ++ ':' :: ' ' :: s) = within d j ([(k, v)], rest) := by
  rw [dumpsStr, List.cons_append, List.append_assoc, List.singleton_append, scanFields, scanString_dumpsStr]
  show (do
    let (v, s) ← scanOnce floatRepr n d (skipSpaces s)
    _) = _
  rw [hs.skipSpaces, h]
  apply within_bind_ok
  rw [String.ofList_toList]
  rfl

theorem scanFields_more {n d j j' : Nat} {s t rest : List Char} {v : Json} {fields : List (String × Json)}
    (h : scanOnce floatRepr n d s = within d j (v, ',' :: ' ' :: t)) (hs : Starts s) (ht : Starts t) (k : String)
    (hrest : scanFields floatRepr n d t = within d j' (fields, rest)) :
    scanFields floatRepr (n + 1) d (dumpsStr k ++ ':' :: ' ' :: s) = within d (max j j') ((k, v) :: fields, rest) := by
  rw [dumpsStr, List.cons_append, List.append_assoc, List.singleton_append, scanFields, scanString_dumpsStr]
  show (do
    let (v, s) ← scanOnce floatRepr n d (skipSpaces s)
    _) = _
  rw [hs.skipSpaces, h]
  apply within_bind
  show (scanFields floatRepr n d (skipSpaces t)).map _ = _
  rw [ht.skipSpaces, hrest, within_map, String.ofList_toList]

theorem starts_fields {fields : List (String × Json)} (hne : fields ≠ []) :
    Starts (printFields dumpsStyle [] fields) := by
  cases fields with
  | nil => exact absurd rfl hne
  | cons field fields => exact (starts_dumpsStr field.1).append _

theorem update_fields {fields : List (String × Json)} (h : (fields.map Prod.fst).Nodup) :
    (Dict.empty.update fields).entries = fields := by
  rw [Dict.update_new h fun _ _ hmem => by cases hmem]
  rfl

mutual

theorem scanOnce_print (v : Json) (hv : wellFormed (isFloatRepr floatRepr) v = true) {rest : List Char}
    (hrest : Follows rest)
    {n : Nat} (hn : (print dumpsStyle v).length < n) (d : Nat) :
    scanOnce floatRepr n d (print dumpsStyle v ++ rest) = within d (depth .containers v) (v, rest) := by
  obtain ⟨n, rfl⟩ := Nat.exists_eq_succ_of_ne_zero (Nat.ne_of_gt (Nat.zero_lt_of_lt hn))
  match v with
  | .null => rfl
  | .bool true => rfl
  | .bool false => rfl
  | .int i => exact scanOnce_int (by simpa [wellFormed] using hv) hrest (Nat.succ_pos n) d
  | .float r => exact scanOnce_float hv hrest (Nat.succ_pos n) d
  | .str s => exact scanOnce_str s rest (Nat.succ_pos n) d
  | .list [] =>
    cases d with
    | zero => rfl
    | succ d => rfl
  | .list (v :: items) =>
    have hitems : wellFormedItems (isFloatRepr floatRepr) (v :: items) = true := hv
    have hne : v :: items ≠ [] := List.cons_ne_nil v items
    rw [print, List.length_cons, List.length_append, List.length_singleton] at hn
    rw [print, List.cons_append, List.append_assoc, List.singleton_append]
    cases d with
    | zero => exact (within_zero _ _).symm
    | succ d =>
      rw [scanOnce_list ((starts_items hne hitems).append _),
        scanItems_print (v :: items) hne hitems (by omega) d, within_map,
        depth]
      exact (within_add d _ 1 _).symm
  | .object [] =>
    cases d with
    | zero => rfl
    | succ d => rfl
  | .object ((k, v) :: fields) =>
    rw [wellFormed, Bool.and_eq_true, decide_eq_true_iff] at hv
    have hne : (k, v) :: fields ≠ [] := List.cons_ne_nil _ fields
    rw [print, List.length_cons, List.length_append, List.length_singleton] at hn
    rw [print, List.cons_append, List.append_assoc, List.singleton_append]
    cases d with
    | zero => exact (within_zero _ _).symm
    | succ d =>
      have hscan : scanFields floatRepr n d (printFields dumpsStyle [] ((k, v) :: fields) ++ '\x7d' :: rest) =
          within d (depthFields .containers ((k, v) :: fields)) ((k, v) :: fields, rest) :=
        scanFields_print ((k, v) :: fields) hne hv.2 (by omega) d
      rw [scanOnce_object, hscan, within_map, depth]
      show within d _ (object (Dict.empty.update ((k, v) :: fields)).entries, rest) = _
      rw [update_fields hv.1]
      exact (within_add d _ 1 _).symm

theorem scanItems_print (items : List Json) (hne : items ≠ [])
    (h : wellFormedItems (isFloatRepr floatRepr) items = true)
    {rest : List Char} {n : Nat} (hn : (printItems dumpsStyle [] items).length + 1 < n) (d : Nat) :
    scanItems floatRepr n d (printItems dumpsStyle [] items ++ ']' :: rest) =
      within d (depthItems .containers items) (items, rest) := by
  obtain ⟨n, rfl⟩ := Nat.exists_eq_succ_of_ne_zero (Nat.ne_of_gt (Nat.zero_lt_of_lt hn))
  match items with
  | [] => exact absurd rfl hne
  | [v] =>
    rw [wellFormedItems, Bool.and_eq_true] at h
    simp only [printItems, List.nil_append, List.append_nil] at hn ⊢
    rw [depthItems, depthItems, Nat.max_zero]
    exact scanItems_last (scanOnce_print v h.1 (.bracket rest) (by omega) d)
  | v :: w :: items =>
    rw [wellFormedItems, Bool.and_eq_true] at h
    have hne : w :: items ≠ [] := List.cons_ne_nil w items
    rw [printItems_more] at hn ⊢
    simp only [List.length_append, List.length_cons] at hn
    have hone := scanOnce_print v h.1 (.comma (' ' :: (printItems dumpsStyle [] (w :: items) ++ ']' :: rest))) (n := n)
      (by omega) d
    have hpos := (starts_print h.1).length_pos
    rw [List.append_assoc, List.cons_append, List.cons_append]
    exact scanItems_more hone ((starts_items hne h.2).append _) (scanItems_print (w :: items) hne h.2 (by omega) d)

theorem scanFields_print (fields : List (String × Json)) (hne : fields ≠ [])
    (h : wellFormedFields (isFloatRepr floatRepr) fields = true) {rest : List Char} {n : Nat}
    (hn : (printFields dumpsStyle [] fields).length + 1 < n) (d : Nat) :
    scanFields floatRepr n d (printFields dumpsStyle [] fields ++ '\x7d' :: rest) =
      within d (depthFields .containers fields) (fields, rest) := by
  obtain ⟨n, rfl⟩ := Nat.exists_eq_succ_of_ne_zero (Nat.ne_of_gt (Nat.zero_lt_of_lt hn))
  match fields with
  | [] => exact absurd rfl hne
  | [(k, v)] =>
    rw [wellFormedFields, Bool.and_eq_true] at h
    rw [printFields_single] at hn ⊢
    rw [List.length_append, List.length_cons, List.length_cons] at hn
    have hone := scanOnce_print v h.1 (.brace rest) (n := n) (by omega) d
    rw [List.append_assoc, depthFields, depthFields, Nat.max_zero]
    exact scanFields_last hone ((starts_print h.1).append _) k
  | (k, v) :: field :: fields =>
    rw [wellFormedFields, Bool.and_eq_true] at h
    have hne : field :: fields ≠ [] := List.cons_ne_nil field fields
    rw [printFields_more] at hn ⊢
    simp only [List.length_append, List.length_cons] at hn
    have hone := scanOnce_print v h.1 (.comma (' ' :: (printFields dumpsStyle [] (field :: fields) ++ '\x7d' :: rest)))
      (n := n) (by omega) d
    rw [List.append_assoc, List.cons_append, List.cons_append, List.append_assoc, List.cons_append, List.cons_append]
    exact scanFields_more hone ((starts_print h.1).append _) ((starts_fields hne).append _) k
      (scanFields_print (field :: fields) hne h.2 (by omega) d)

end

/-- More brackets than the scanner can go into, with no end to them. -/
theorem scanOnce_brackets (d : Nat) {n : Nat} (hn : 2 * d < n) :
    scanOnce floatRepr n d (List.replicate (d + 1) '[') = .error .recursion := by
  induction d generalizing n with
  | zero =>
    obtain ⟨n, rfl⟩ := Nat.exists_eq_succ_of_ne_zero (Nat.ne_of_gt hn)
    rfl
  | succ d ih =>
    obtain ⟨n, rfl⟩ := Nat.exists_eq_add_of_lt (Nat.lt_of_le_of_lt (Nat.le_add_left 1 (2 * d + 1)) hn)
    have hstarts : Starts (List.replicate (d + 1) '[') := .cons _ (by decide)
    rw [List.replicate_succ, Nat.add_comm 1 n, scanOnce_list hstarts, scanItems, ih (by omega)]
    rfl

/-- The same behind a text that stands first in a list. -/
theorem scanOnce_deep (s : String) (d : Nat) {n : Nat} (hn : 2 * d + 2 < n) :
    scanOnce floatRepr n d ('[' :: (dumpsStr s ++ ',' :: List.replicate d '[')) = .error .recursion := by
  cases d with
  | zero =>
    obtain ⟨n, rfl⟩ := Nat.exists_eq_succ_of_ne_zero (Nat.ne_of_gt (Nat.zero_lt_of_lt hn))
    rfl
  | succ d =>
    obtain ⟨n, rfl⟩ : ∃ m, n = m + 3 := ⟨n - 3, by omega⟩
    have hstarts : Starts (List.replicate (d + 1) '[') := .cons _ (by decide)
    rw [scanOnce_list ((starts_dumpsStr s).append _), scanItems, scanOnce_str s _ (Nat.succ_pos n) d]
    show ((scanItems floatRepr (n + 1) d (skipSpaces (List.replicate (d + 1) '['))).map _).map _ = _
    rw [hstarts.skipSpaces, scanItems, scanOnce_brackets d (by omega)]
    rfl

theorem loads_deep (s : String) (d : Nat) :
    loads floatRepr d ('[' :: (dumpsStr s ++ ',' :: List.replicate d '[')) = .error .recursion := by
  have hstarts : Starts ('[' :: (dumpsStr s ++ ',' :: List.replicate d '[')) := .cons _ (by decide)
  have hlength : 2 * d + 2 < 2 * ('[' :: (dumpsStr s ++ ',' :: List.replicate d '[')).length + 2 := by
    rw [List.length_cons, List.length_append, List.length_cons, List.length_replicate]
    omega
  rw [loads, if_neg hstarts.head, hstarts.skipSpaces, scanOnce_deep s d hlength]
  rfl

/-- What `dumps` writes is read as the value, if the value goes no deeper than the scanner. -/
theorem loads_dumps {v : Json} (h : wellFormed (isFloatRepr floatRepr) v = true) (d : Nat) :
    loads floatRepr d (dumps v) = within d (depth .containers v) v := by
  have hstarts := starts_print h
  have hscan := scanOnce_print v h .nil (n := 2 * (print dumpsStyle v).length + 2) (by omega) d
  rw [List.append_nil] at hscan
  rw [dumps, loads, hstarts.skipSpaces, hscan, if_neg hstarts.head]
  exact within_bind_ok rfl

theorem dumps_injective {v w : Json} (hv : wellFormed (isFloatRepr floatRepr) v = true)
    (hw : wellFormed (isFloatRepr floatRepr) w = true) (h : dumps v = dumps w) : v = w := by
  have hload := loads_dumps hv (max (depth .containers v) (depth .containers w))
  rw [h, loads_dumps hw, within_ok (Nat.le_max_right _ _), within_ok (Nat.le_max_left _ _)] at hload
  exact (Except.ok.inj hload).symm

end Written

end Json
