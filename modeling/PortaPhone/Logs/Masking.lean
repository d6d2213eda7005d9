import Mathlib
import PortaPhone.Lib.JsonAlike
import PortaPhone.Lib.JsonText
/-!
# Masked values in the log (`request_trace.py`)

| here | there |
| --- | --- |
| `secretKeys`, `tokenKeys` | `SECRET_KEYS`, `TOKEN_KEYS` (`:41`, `:45`) |
| `maskSecret`, `maskToken` | `mask_secret`, `mask_token` (`:52`, `:59`) |
| `sanitizeData`            | `sanitize_data` (`:70`) |

Of `str.lower` only what comes out as ASCII matters: the keys are ASCII, and no other character than those of
`lowerChar` is lowered to an ASCII one alone.
-/

namespace PortaPhone.Logs

open Json (Alike ItemsAlike FieldsAlike Cost Failure depth depthItems depthFields fieldDepth pyStr strDepth strWithin
  strWithin_eq wellFormed wellFormedItems wellFormedFields within within_add within_bind within_bind_ok within_error
  within_map within_ok within_zero)

/-! ## The keys -/

def secretKeys : List String := ["password", "client_secret", "api_password", "secret"]

def tokenKeys : List String := ["access_token", "refresh_token", "token", "authorization", "api_key", "session_id"]

/-- The Kelvin sign is lowered to `k`. -/
def lowerChar (c : Char) : Char := if c.toNat = 0x212A then 'k' else c.toLower

def lower (s : List Char) : List Char := s.map lowerChar

def isSecretKey (k : String) : Bool := secretKeys.any fun key => lower k.toList = key.toList

def isTokenKey (k : String) : Bool := tokenKeys.any fun key => lower k.toList = key.toList

/-! ## The masks -/

/-- `value is None or value == ""`. -/
def isBlank : Json → Bool
  | .null => true
  | .str s => s = ""
  | _ => false

def stars : List Char := ['*', '*', '*']

section Mask

variable (printable : Char → Bool)

def maskText (s : List Char) : List Char :=
  if s.length ≤ 13 then stars else s.take 6 ++ stars ++ s.drop (s.length - 4)

/-- The levels of recursion that are left: for calls from the first one of `sanitize_data` on, of which `str` takes
`str` before it goes into a value, and for the containers that `json.loads` and `json.dumps` go into. -/
structure Levels where
  calls : Nat
  str : Nat
  loads : Nat
  dumps : Nat

variable (lv : Levels)

-- with so many calls left
def maskSecret : Json → Nat → Except Failure Json
  | _, 0 => .error .recursion
  | v, _ + 1 => .ok (if isBlank v then v else .str (String.ofList stars))

def maskToken : Json → Nat → Except Failure Json
  | _, 0 => .error .recursion
  | v, n + 1 =>
    if isBlank v then .ok v
    else do
      let s ← strWithin printable lv.str v n
      return .str (String.ofList (maskText s))

mutual

def sanitizeData : Json → Nat → Except Failure Json
  | _, 0 => .error .recursion
  | .object fields, n + 1 => (sanitizeFields fields n).map .object
  -- the list comprehension is a call of its own
  | .list items, n + 1 => if n = 0 then .error .recursion else (sanitizeItems items (n - 1)).map .list
  | v, _ + 1 => .ok v

def sanitizeItems : List Json → Nat → Except Failure (List Json)
  | [], _ => .ok []
  | v :: items, n => do
    let w ← sanitizeData v n
    let rest ← sanitizeItems items n
    return w :: rest

def sanitizeFields : List (String × Json) → Nat → Except Failure (List (String × Json))
  | [], _ => .ok []
  | (k, v) :: fields, n => do
    let w ← (if isSecretKey k then maskSecret v n else if isTokenKey k then maskToken printable lv v n
      else sanitizeData v n)
    let rest ← sanitizeFields fields n
    return (k, w) :: rest

end

end Mask

/-! ## What comes out -/

section Masked

variable (printable : Char → Bool)

def redact (v : Json) : Json := if isBlank v then v else .str (String.ofList stars)

def shorten (v : Json) : Json := if isBlank v then v else .str (String.ofList (maskText (pyStr printable v)))

mutual

/-- The value that `sanitize_data` returns if it does. -/
def masked : Json → Json
  | .object fields => .object (maskedFields fields)
  | .list items => .list (maskedItems items)
  | v => v

def maskedItems : List Json → List Json
  | [] => []
  | v :: items => masked v :: maskedItems items

def maskedFields : List (String × Json) → List (String × Json)
  | [] => []
  | (k, v) :: fields =>
    (k, if isSecretKey k then redact v else if isTokenKey k then shorten printable v else masked v) ::
      maskedFields fields

end

variable (lv : Levels)

/-- The calls that `sanitize_data` takes, in 3.11: one for an object and two for a list, and one for a value that is
masked, with the levels of `str` if it is a token. -/
def callCost : Cost where
  leaf := 1
  list := 2
  object := 1
  field k v :=
    if isSecretKey k then some 1
    else if isTokenKey k then some (1 + if isBlank v then 0 else strDepth lv.str v)
    else none

theorem depth_callCost_pos (v : Json) : 0 < depth (callCost lv) v := by
  cases v with
  | list items => exact Nat.lt_of_lt_of_le Nat.zero_lt_two (Nat.le_add_right 2 _)
  | object fields => exact Nat.lt_of_lt_of_le Nat.zero_lt_one (Nat.le_add_right 1 _)
  | _ => exact Nat.zero_lt_one

theorem fieldDepth_callCost (k : String) (v : Json) : fieldDepth (callCost lv) k v =
    if isSecretKey k then 1
    else if isTokenKey k then 1 + if isBlank v then 0 else strDepth lv.str v
    else depth (callCost lv) v := by
  show (if isSecretKey k then some 1
    else if isTokenKey k then some (1 + if isBlank v then 0 else strDepth lv.str v)
    else none).getD _ = _
  split_ifs <;> rfl

theorem maskSecret_eq (v : Json) (n : Nat) : maskSecret v n = within n 1 (redact v) := by
  cases n with
  | zero => rfl
  | succ n => exact (within_ok (Nat.le_add_left 1 n) _).symm

variable {float : String → Bool}

theorem maskToken_eq {v : Json} (hv : wellFormed float v = true) (n : Nat) :
    maskToken printable lv v n = within n (1 + if isBlank v then 0 else strDepth lv.str v) (shorten printable v) := by
  cases n with
  | zero => exact (within_zero _ _).symm
  | succ n =>
    rw [maskToken, shorten]
    by_cases hblank : isBlank v = true
    · rw [if_pos hblank, if_pos hblank, if_pos hblank]
      exact (within_ok (Nat.le_add_left 1 n) _).symm
    · rw [if_neg hblank, if_neg hblank, if_neg hblank, strWithin_eq printable lv.str hv]
      refine Eq.trans ?_ (within_add n _ 1 _).symm
      exact within_bind_ok rfl

mutual

/-- `sanitize_data` returns exactly if there are calls enough. -/
theorem sanitizeData_eq (v : Json) (hv : wellFormed float v = true) (n : Nat) :
    sanitizeData printable lv v n = within n (depth (callCost lv) v) (masked printable v) := by
  cases n with
  | zero =>
    rw [within_error (Nat.not_le.2 (depth_callCost_pos lv v)), sanitizeData]
  | succ n =>
    match v with
    | .null => exact (within_ok (Nat.le_add_left 1 n) _).symm
    | .bool _ => exact (within_ok (Nat.le_add_left 1 n) _).symm
    | .int _ => exact (within_ok (Nat.le_add_left 1 n) _).symm
    | .float _ => exact (within_ok (Nat.le_add_left 1 n) _).symm
    | .str _ => exact (within_ok (Nat.le_add_left 1 n) _).symm
    | .list items =>
      rw [sanitizeData, depth, masked]
      cases n with
      | zero =>
        rw [if_pos rfl]
        exact (within_error (by show ¬ 2 + _ ≤ 1; omega) _).symm
      | succ n =>
        rw [if_neg (Nat.succ_ne_zero n), Nat.add_sub_cancel, sanitizeItems_eq items hv n, within_map]
        exact (within_add n _ 2 _).symm
    | .object fields =>
      rw [wellFormed, Bool.and_eq_true] at hv
      rw [sanitizeData, sanitizeFields_eq fields hv.2 n, within_map, depth, masked]
      exact (within_add n _ 1 _).symm

theorem sanitizeItems_eq (items : List Json) (h : wellFormedItems float items = true) (n : Nat) :
    sanitizeItems printable lv items n = within n (depthItems (callCost lv) items) (maskedItems printable items) := by
  match items with
  | [] => exact (within_ok (Nat.zero_le n) _).symm
  | v :: items =>
    rw [wellFormedItems, Bool.and_eq_true] at h
    rw [sanitizeItems, sanitizeData_eq v h.1 n, sanitizeItems_eq items h.2 n]
    exact within_bind (within_bind_ok rfl)

theorem sanitizeFields_eq (fields : List (String × Json)) (h : wellFormedFields float fields = true) (n : Nat) :
    sanitizeFields printable lv fields n =
      within n (depthFields (callCost lv) fields) (maskedFields printable fields) := by
  match fields with
  | [] => exact (within_ok (Nat.zero_le n) _).symm
  | (k, v) :: fields =>
    rw [wellFormedFields, Bool.and_eq_true] at h
    have hone : (if isSecretKey k then maskSecret v n else if isTokenKey k then maskToken printable lv v n
        else sanitizeData printable lv v n) = within n (fieldDepth (callCost lv) k v)
          (if isSecretKey k then redact v else if isTokenKey k then shorten printable v else masked printable v) := by
      rw [fieldDepth_callCost]
      by_cases hsecret : isSecretKey k = true
      · rw [if_pos hsecret, if_pos hsecret, if_pos hsecret, maskSecret_eq]
      · rw [if_neg hsecret, if_neg hsecret, if_neg hsecret]
        by_cases htoken : isTokenKey k = true
        · rw [if_pos htoken, if_pos htoken, if_pos htoken, maskToken_eq printable lv h.1]
        · rw [if_neg htoken, if_neg htoken, if_neg htoken, sanitizeData_eq v h.1 n]
    rw [sanitizeFields, hone, sanitizeFields_eq fields h.2 n]
    exact within_bind (within_bind_ok rfl)

end

example :
    sanitizeData (fun _ => true) ⟨5, 2, 9, 9⟩ (.list [.object [("Password", .int 5), ("a", .int 5)], .str "x"]) 5 =
    .ok (.list [.object [("Password", .str "***"), ("a", .int 5)], .str "x"]) := by rfl

end Masked

/-! ## What is not masked comes out as it is -/

def isSensitiveKey (k : String) : Bool := isSecretKey k || isTokenKey k

section Unchanged

variable (printable : Char → Bool)

mutual

theorem masked_alike : (v : Json) → Alike (fun k _ _ => isSensitiveKey k) v (masked printable v)
  | .object fields => by
    rw [masked]
    exact .object (maskedFields_alike fields)
  | .list items => by
    rw [masked]
    exact .list (maskedItems_alike items)
  | .null => .same _
  | .bool _ => .same _
  | .int _ => .same _
  | .float _ => .same _
  | .str _ => .same _

theorem maskedItems_alike :
    (items : List Json) → ItemsAlike (fun k _ _ => isSensitiveKey k) items (maskedItems printable items)
  | [] => .nil
  | v :: items => .cons (masked_alike v) (maskedItems_alike items)

theorem maskedFields_alike :
    (fields : List (String × Json)) →
      FieldsAlike (fun k _ _ => isSensitiveKey k) fields (maskedFields printable fields)
  | [] => .nil
  | (k, v) :: fields => by
    rw [maskedFields]
    have hrest := maskedFields_alike fields
    by_cases hsecret : isSecretKey k = true
    · rw [if_pos hsecret]
      exact .value (by rw [isSensitiveKey, hsecret]; rfl) hrest
    · rw [if_neg hsecret]
      by_cases htoken : isTokenKey k = true
      · rw [if_pos htoken]
        exact .value (by rw [isSensitiveKey, htoken, Bool.or_true]) hrest
      · rw [if_neg htoken]
        exact .cons (masked_alike v) hrest

end

end Unchanged

end PortaPhone.Logs
