import PortaPhone.Contacts.Account
import PortaPhone.Lib.Fallible
/-!
# Custom fields of accounts and customers (`portaswitch/adapter.py`)

| here | there |
| --- | --- |
| `customFieldValues` | `_custom_field_values` (`:3077`) |
| `parseDeviceLimit`, `fieldLimits` | `_parse_device_limit` (`:3086`), and both limits of a read (`_cached_field_limits`, `:2993`) |
| `crmHostValue`      | `_crm_host_value` (`:3070`) |

A response of `get_custom_fields_values` may be any JSON.
-/

namespace PortaPhone.Customers

open Contacts (Reading strip)

/-- Why a read has no answer: an error of the switch, a response that is not as expected, or no response in time. -/
inductive ReadError
  | switch
  | json (error : Json.Error)
  | timeout
deriving DecidableEq, Repr

def decode {α : Type} : Except Json.Error α → Except ReadError α := Except.mapError ReadError.json

/-! ## The fields of a response -/

/-- One row; a name that is no string is never looked up, and a list or an object cannot be a key. -/
def addField (values : Dict String Json) (row : Json) : Except Json.Error (Dict String Json) := do
  let name ← row.get "name"
  if !name.truthy then return values
  match name with
  | .str name => return values.set name (← row.get "db_value")
  | .list _ | .object _ => .error .type
  | _ => return values

def customFieldValues (response : Json) : Except Json.Error (Dict String Json) := do
  let rows ← (response.orElse (.object [])).get "custom_fields_values"
  (← (rows.orElse (.list [])).items).foldlM addField Dict.empty

/-- `values.get(name)`, a null counting as missing. -/
def fieldValue (values : Dict String Json) (name : String) : Option Json :=
  (values.get? name).filter fun value => !value.isNull

/-- `str(value).strip()`. -/
def fieldText (R : Reading) (value : Json) : String := strip (value.text R.repr)

/-! ## Limits -/

def maxDevicesCustomField : String := "portaphone_max_devices"
def maxDeviceSwitchesCustomField : String := "portaphone_max_device_switches"

/-- Missing, blank, no number and negative: all unset. -/
def parseDeviceLimit (R : Reading) (values : Dict String Json) (name : String) : Option Nat :=
  match fieldValue values name with
  | none => none
  | some value =>
    if fieldText R value = "" then none
    else match Json.intLiteral R.digit (fieldText R value) with
      | none => none
      | some limit => if limit < 0 then none else some limit.toNat

def fieldLimits (R : Reading) (response : Json) : Except Json.Error (Option Nat × Option Nat) := do
  let values ← customFieldValues response
  return (parseDeviceLimit R values maxDevicesCustomField, parseDeviceLimit R values maxDeviceSwitchesCustomField)

/-- The value of a limit field: an integer that is not negative. -/
def ValidLimit (R : Reading) (response : Json) (name : String) (limit : Nat) : Prop :=
  ∃ values value, customFieldValues response = .ok values ∧ fieldValue values name = some value ∧
    Json.intLiteral R.digit (fieldText R value) = some (limit : Int)

/-- Both limits of a response that can be read. -/
structure ReadsAs (R : Reading) (response : Json) (limits : Option Nat × Option Nat) : Prop where
  devices : ∀ n, limits.1 = some n ↔ ValidLimit R response maxDevicesCustomField n
  switches : ∀ n, limits.2 = some n ↔ ValidLimit R response maxDeviceSwitchesCustomField n

theorem intLiteral_blank (digit : Char → Option Nat) : Json.intLiteral digit "" = none := by
  simp [Json.intLiteral, Json.natLiteral]

/-- The limit is the value of the field, if that is a number and not negative. -/
theorem parseDeviceLimit_iff (R : Reading) (values : Dict String Json) (name : String) (limit : Nat) :
    parseDeviceLimit R values name = some limit ↔
      ∃ value, fieldValue values name = some value ∧
        Json.intLiteral R.digit (fieldText R value) = some (limit : Int) := by
  unfold parseDeviceLimit
  cases fieldValue values name with
  | none => simp
  | some value =>
    simp only [Option.some.injEq, exists_eq_left']
    by_cases hblank : fieldText R value = ""
    · simp [hblank, intLiteral_blank]
    rw [if_neg hblank]
    cases Json.intLiteral R.digit (fieldText R value) with
    | none => simp
    | some n =>
      by_cases hneg : n < 0
      · have hne : n ≠ (limit : Int) := by omega
        simp [hneg, hne]
      · have hiff : n.toNat = limit ↔ n = (limit : Int) := by omega
        simp [hneg, hiff]

theorem parseDeviceLimit_valid {R : Reading} {response : Json} {values : Dict String Json}
    (h : customFieldValues response = .ok values) (name : String) (limit : Nat) :
    parseDeviceLimit R values name = some limit ↔ ValidLimit R response name limit := by
  rw [parseDeviceLimit_iff]
  constructor
  · rintro ⟨value, hvalue, hint⟩
    exact ⟨values, value, h, hvalue, hint⟩
  · rintro ⟨values', value, h', hvalue, hint⟩
    have hsame : values = values' := by
      rw [h] at h'
      exact Except.ok.inj h'
    subst hsame
    exact ⟨value, hvalue, hint⟩

theorem fieldLimits_ok {R : Reading} {response : Json} {limits : Option Nat × Option Nat}
    (h : fieldLimits R response = .ok limits) : ReadsAs R response limits := by
  simp only [fieldLimits, Fallible.bind_ok, Fallible.pure_ok] at h
  obtain ⟨values, hvalues, hlimits⟩ := h
  subst hlimits
  constructor
  · intro n
    simp only [parseDeviceLimit_valid hvalues]
  · intro n
    simp only [parseDeviceLimit_valid hvalues]

theorem fieldLimits_error {R : Reading} {response : Json} {e : Json.Error} (h : fieldLimits R response = .error e)
    (values : Dict String Json) : customFieldValues response ≠ .ok values := by
  intro hvalues
  rw [fieldLimits, hvalues] at h
  cases h

/-! ## The CRM address -/

def crmHostValue (R : Reading) (response : Json) (field : String) : Except Json.Error (Option String) := do
  let values ← customFieldValues response
  return ((fieldValue values field).map (fieldText R)).filter (· ≠ "")

end PortaPhone.Customers
