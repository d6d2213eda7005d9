import Mathlib
import PortaPhone.Lib.JsonDepth
/-!
# JSON values as texts

`repr` is Python's `repr` of a value and `dumps` is `json.dumps` with its defaults: both put `, ` between the elements
and `: ` after a key, so they are one `print` in two styles. Which characters above ASCII are printable goes by Unicode
tables and is left open. A text is a list of characters. `strWithin` is `str` where the levels of recursion are counted.
-/

namespace Json

structure Style where
  null : List Char
  bool : Bool → List Char
  float : String → List Char
  str : String → List Char

section Print

variable (st : Style)

mutual

def print : Json → List Char
  | null => st.null
  | bool b => st.bool b
  | int n => (toString n).toList
  | float r => st.float r
  | str s => st.str s
  | list items => '[' :: (printItems [] items ++ [']'])
  | object fields => '{' :: (printFields [] fields ++ ['}'])

/-- The elements, with `sep` before the first one. -/
def printItems (sep : List Char) : List Json → List Char
  | [] => []
  | v :: items => sep ++ (print v ++ printItems [',', ' '] items)

def printFields (sep : List Char) : List (String × Json) → List Char
  | [] => []
  | (k, v) :: fields => sep ++ (st.str k ++ ([':', ' '] ++ (print v ++ printFields [',', ' '] fields)))

end

end Print

/-- The last `width` hexadecimal digits. -/
def hex (width n : Nat) : List Char := (List.range width).reverse.map fun i => Nat.digitChar (n / 16 ^ i % 16)

/-! ## `repr` -/

section Repr

variable (printable : Char → Bool)

def reprChar (quote c : Char) : List Char :=
  if c = quote ∨ c = '\\' then ['\\', c]
  else if c = '\t' then ['\\', 't']
  else if c = '\n' then ['\\', 'n']
  else if c = '\r' then ['\\', 'r']
  else if c.toNat < 0x20 ∨ c.toNat = 0x7F then '\\' :: 'x' :: hex 2 c.toNat
  else if c.toNat < 0x80 ∨ printable c then [c]
  else if c.toNat < 0x100 then '\\' :: 'x' :: hex 2 c.toNat
  else if c.toNat < 0x10000 then '\\' :: 'u' :: hex 4 c.toNat
  else '\\' :: 'U' :: hex 8 c.toNat

/-- Double quotes only around a text with single ones and without double ones. -/
def reprQuote (s : List Char) : Char := if '\'' ∈ s ∧ '"' ∉ s then '"' else '\''

def reprStr (s : String) : List Char :=
  reprQuote s.toList :: (s.toList.flatMap (reprChar printable (reprQuote s.toList)) ++ [reprQuote s.toList])

def reprStyle : Style where
  null := "None".toList
  bool b := if b then "True".toList else "False".toList
  float := String.toList
  str := reprStr printable

def repr (v : Json) : List Char := print (reprStyle printable) v

/-- `str(v)`. -/
def pyStr : Json → List Char
  | str s => s.toList
  | v => repr printable v

theorem reprChar_ne_nil (quote c : Char) : reprChar printable quote c ≠ [] := by
  unfold reprChar
  repeat' split
  all_goals exact List.cons_ne_nil _ _

theorem length_le_flatMap {α β : Type} (f : α → List β) (h : ∀ a, f a ≠ [])
    (l : List α) : l.length ≤ (l.flatMap f).length := by
  induction l with
  | nil => exact Nat.le_refl _
  | cons a l ih =>
    have hone := List.length_pos_of_ne_nil (h a)
    rw [List.flatMap_cons, List.length_append, List.length_cons]
    omega

theorem length_reprStr (s : String) : s.toList.length + 2 ≤ (reprStr printable s).length := by
  have h := length_le_flatMap _ (reprChar_ne_nil printable (reprQuote s.toList)) s.toList
  rw [reprStr, List.length_cons, List.length_append, List.length_singleton]
  omega

/-! ## Levels of `str` -/

mutual

/-- What stops `repr` with `n` levels left: that it goes deeper, or an integer that is too long to be written. -/
def checkRepr : Json → Nat → Except Failure Unit
  | _, 0 => .error .recursion
  | int i, _ + 1 => if (Nat.toDigits 10 i.natAbs).length ≤ maxDigits then .ok () else .error .value
  | list items, n + 1 => checkReprItems items n
  | object fields, n + 1 => checkReprFields fields n
  | _, _ + 1 => .ok ()

def checkReprItems : List Json → Nat → Except Failure Unit
  | [], _ => .ok ()
  | v :: items, n => do
    checkRepr v n
    checkReprItems items n

def checkReprFields : List (String × Json) → Nat → Except Failure Unit
  | [], _ => .ok ()
  | (_, v) :: fields, n => do
    checkRepr v n
    checkReprFields fields n

end

/-- `str(v)` with `n` levels left, of which it takes `own` before it goes into the value. -/
def strWithin (own : Nat) : Json → Nat → Except Failure (List Char)
  | str s, _ => .ok s.toList
  | v, n => do
    checkRepr v (n - own)
    return repr printable v

/-- The levels that `str` takes. -/
def strDepth (own : Nat) : Json → Nat
  | str _ => 0
  | v => own + depth .values v

variable {float : String → Bool}

mutual

theorem checkRepr_eq (v : Json) (hv : wellFormed float v = true) (n : Nat) :
    checkRepr v n = within n (depth .values v) () := by
  cases n with
  | zero =>
    rw [within_error (Nat.not_le.2 (depth_values_pos v)), checkRepr]
  | succ n =>
    match v with
    | .null => exact (within_ok (Nat.le_add_left 1 n) ()).symm
    | .bool _ => exact (within_ok (Nat.le_add_left 1 n) ()).symm
    | .int i =>
      rw [checkRepr, if_pos (by simpa [wellFormed] using hv)]
      exact (within_ok (Nat.le_add_left 1 n) ()).symm
    | .float _ => exact (within_ok (Nat.le_add_left 1 n) ()).symm
    | .str _ => exact (within_ok (Nat.le_add_left 1 n) ()).symm
    | .list items =>
      rw [checkRepr, checkReprItems_eq items hv n, depth]
      exact (within_add n _ 1 ()).symm
    | .object fields =>
      rw [wellFormed, Bool.and_eq_true] at hv
      rw [checkRepr, checkReprFields_eq fields hv.2 n, depth]
      exact (within_add n _ 1 ()).symm

theorem checkReprItems_eq (items : List Json) (h : wellFormedItems float items = true) (n : Nat) :
    checkReprItems items n = within n (depthItems .values items) () := by
  match items with
  | [] => exact (within_ok (Nat.zero_le n) ()).symm
  | v :: items =>
    rw [wellFormedItems, Bool.and_eq_true] at h
    rw [checkReprItems, checkRepr_eq v h.1 n]
    exact within_bind (checkReprItems_eq items h.2 n)

theorem checkReprFields_eq (fields : List (String × Json)) (h : wellFormedFields float fields = true) (n : Nat) :
    checkReprFields fields n = within n (depthFields .values fields) () := by
  match fields with
  | [] => exact (within_ok (Nat.zero_le n) ()).symm
  | (k, v) :: fields =>
    rw [wellFormedFields, Bool.and_eq_true] at h
    rw [checkReprFields, checkRepr_eq v h.1 n]
    exact within_bind (checkReprFields_eq fields h.2 n)

end

theorem strWithin_eq (own : Nat) {v : Json} (hv : wellFormed float v = true) (n : Nat) :
    strWithin printable own v n = within n (strDepth own v) (pyStr printable v) := by
  have hrepr : (checkRepr v (n - own) >>= fun _ => .ok (repr printable v)) =
      within n (own + depth .values v) (repr printable v) := by
    rw [checkRepr_eq v hv, within_sub (depth_values_pos v)]
    exact within_bind_ok rfl
  cases v with
  | str s => exact (within_ok (Nat.zero_le n) _).symm
  | _ => exact hrepr

end Repr

/-! ## `json.dumps` -/

/-- `py_encode_basestring_ascii` of one character. -/
def escapeChar (c : Char) : List Char :=
  if c = '"' then ['\\', '"']
  else if c = '\\' then ['\\', '\\']
  else if c = '\n' then ['\\', 'n']
  else if c = '\r' then ['\\', 'r']
  else if c = '\t' then ['\\', 't']
  else if c.toNat = 0x0C then ['\\', 'f']
  else if c.toNat = 0x08 then ['\\', 'b']
  else if 0x20 ≤ c.toNat ∧ c.toNat ≤ 0x7E then [c]
  else if c.toNat < 0x10000 then '\\' :: 'u' :: hex 4 c.toNat
  else '\\' :: 'u' :: (hex 4 (0xD800 + (c.toNat - 0x10000) / 0x400) ++
    '\\' :: 'u' :: hex 4 (0xDC00 + (c.toNat - 0x10000) % 0x400))

def dumpsStr (s : String) : List Char := '"' :: (s.toList.flatMap escapeChar ++ ['"'])

/-- `floatstr`, of a float given by its `repr`. -/
def dumpsFloat (r : String) : List Char :=
  if r = "nan" then "NaN".toList
  else if r = "inf" then "Infinity".toList
  else if r = "-inf" then "-Infinity".toList
  else r.toList

def dumpsStyle : Style where
  null := "null".toList
  bool b := if b then "true".toList else "false".toList
  float := dumpsFloat
  str := dumpsStr

def dumps (v : Json) : List Char := print dumpsStyle v

/-- `json.dumps` of a value without integers too long to be written, where it may go into `n` containers in each
other. -/
def dumpsWithin (n : Nat) (v : Json) : Except Failure (List Char) := within n (depth .containers v) (dumps v)

example : dumps (.object [("a", .list [.int (-1), .null]), ("\u00e9\n", .bool true)]) =
    "\x7b\"a\": [-1, null], \"\\u00e9\\n\": true\x7d".toList := by decide

end Json
