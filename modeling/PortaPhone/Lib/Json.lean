import PortaPhone.Lib.Dict
/-!
# JSON values as Python reads them

`get`, `index` and `items` are `.get(key)`, `[key]` and iteration, with the exceptions they raise on a value of another
type. A float is given by its `repr`. What `str` makes of a value that is no string, and which characters are decimal
digits, is left open.
-/

inductive Json
  | null
  | bool (b : Bool)
  | int (n : Int)
  | float (repr : String)
  | str (s : String)
  | list (items : List Json)
  | object (fields : List (String × Json))
deriving Repr

namespace Json

/-- `KeyError`, `TypeError`, `AttributeError`, `ValueError` and `OverflowError`. -/
inductive Error
  | key (key : String)
  | type
  | attribute
  | value
  | overflow
deriving DecidableEq, Repr

def truthy : Json → Bool
  | null => false
  | bool b => b
  | int n => n ≠ 0
  | float r => r ≠ "0.0" && r ≠ "-0.0"
  | str s => s ≠ ""
  | list items => !items.isEmpty
  | object fields => !fields.isEmpty

/-- `a is None`. -/
def isNull : Json → Bool
  | null => true
  | _ => false

/-- `a == n` of a small integer; a float of that value has one way to be written. -/
def eqInt (n : Int) : Json → Bool
  | bool b => (if b then 1 else 0) = n
  | int m => m = n
  | float r => r = toString n ++ ".0"
  | _ => false

/-- `a == t` of a text. -/
def eqStr (t : String) : Json → Bool
  | str s => s = t
  | _ => false

/-- `a or b`. -/
def orElse (a b : Json) : Json := if a.truthy then a else b

/-- `a.get(key, default)`. -/
def getD (key : String) (default : Json) : Json → Except Error Json
  | object fields => .ok ((Dict.find key fields).getD default)
  | _ => .error .attribute

/-- `a.get(key)`. -/
def get (key : String) : Json → Except Error Json := getD key null

/-- `a[key]`; a list and a string have no such index either. -/
def index (key : String) : Json → Except Error Json
  | object fields => match Dict.find key fields with
    | some v => .ok v
    | none => .error (.key key)
  | _ => .error .type

/-- `a[key]`, if `isinstance(a, dict) and key in a`. -/
def field? (key : String) : Json → Option Json
  | object fields => Dict.find key fields
  | _ => none

/-- What a loop over the value goes through. -/
def items : Json → Except Error (List Json)
  | list items => .ok items
  | object fields => .ok (fields.map fun field => str field.1)
  | str s => .ok (s.toList.map fun c => str (String.ofList [c]))
  | _ => .error .type

/-- `str(a)`. -/
def text (repr : Json → String) : Json → String
  | str s => s
  | v => repr v

theorem getD_object (key : String) (default : Json) (fields : List (String × Json)) :
    getD key default (object fields) = .ok ((Dict.find key fields).getD default) := rfl

theorem index_ok {key : String} {a v : Json} (h : index key a = .ok v) :
    ∃ fields, a = object fields ∧ Dict.find key fields = some v := by
  cases a with
  | object fields =>
    refine ⟨fields, rfl, ?_⟩
    rw [index] at h
    cases hfind : Dict.find key fields with
    | none => simp [hfind] at h
    | some w =>
      rw [hfind] at h
      cases h
      rfl
  | _ => cases h

theorem field?_of_index {key : String} {a v : Json} (h : index key a = .ok v) : field? key a = some v := by
  obtain ⟨fields, rfl, hfind⟩ := index_ok h
  exact hfind

theorem get_of_index {key : String} {a v : Json} (h : index key a = .ok v) : get key a = .ok v := by
  obtain ⟨fields, rfl, hfind⟩ := index_ok h
  rw [get, getD_object, hfind]
  rfl

/-- There is nothing to go through in a value that counts as false. -/
theorem items_orElse {a : Json} {rows : List Json} (h : a.items = .ok rows) :
    (a.orElse (list [])).items = .ok rows := by
  rw [orElse]
  split
  · exact h
  · rename_i hfalse
    cases a with
    | list items =>
      obtain rfl : items = [] := List.isEmpty_iff.1 (by simpa [truthy] using hfalse)
      exact h
    | object fields =>
      obtain rfl : fields = [] := List.isEmpty_iff.1 (by simpa [truthy] using hfalse)
      exact h
    | str s =>
      obtain rfl : s = "" := by simpa [truthy] using hfalse
      exact h
    | _ => cases h

/-! ## Integers in a text -/

/-- The digits of a number after its first ones; a single `_` may stand between two of them. -/
def decimal (digit : Char → Option Nat) (n : Nat) : List Char → Option Nat
  | [] => some n
  | '_' :: c :: cs => (digit c).bind fun d => decimal digit (10 * n + d) cs
  | c :: cs => (digit c).bind fun d => decimal digit (10 * n + d) cs

def natLiteral (digit : Char → Option Nat) : List Char → Option Nat
  | [] => none
  | c :: cs => (digit c).bind fun d => decimal digit d cs

/-- The most digits that `int` takes. -/
def maxDigits : Nat := 4300

/-- `int(s)` of a text without spaces around it; none for a `ValueError`. -/
def intLiteral (digit : Char → Option Nat) (s : String) : Option Int :=
  if maxDigits < s.toList.countP (fun c => (digit c).isSome) then none
  else match s.toList with
    | '-' :: cs => (natLiteral digit cs).map fun n => -(n : Int)
    | '+' :: cs => (natLiteral digit cs).map fun n => (n : Int)
    | cs => (natLiteral digit cs).map fun n => (n : Int)

/-- The digits of ASCII. -/
def asciiDigit (c : Char) : Option Nat := if '0' ≤ c ∧ c ≤ '9' then some (c.toNat - '0'.toNat) else none

example : intLiteral asciiDigit "-1_0" = some (-10) := by decide

end Json
