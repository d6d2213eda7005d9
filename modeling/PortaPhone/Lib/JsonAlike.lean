import PortaPhone.Lib.Json
/-!
# JSON values that differ under some keys

`Alike R v w`: the two values are the same but for values of fields, and where these differ under a key `R` holds of the
key and the two values. The key may stand at any depth.
-/

namespace Json

mutual

inductive Alike (R : String → Json → Json → Prop) : Json → Json → Prop
  | same (v : Json) : Alike R v v
  | list {items items' : List Json} : ItemsAlike R items items' → Alike R (.list items) (.list items')
  | object {fields fields' : List (String × Json)} :
      FieldsAlike R fields fields' → Alike R (.object fields) (.object fields')

inductive ItemsAlike (R : String → Json → Json → Prop) : List Json → List Json → Prop
  | nil : ItemsAlike R [] []
  | cons {v w : Json} {items items' : List Json} :
      Alike R v w → ItemsAlike R items items' → ItemsAlike R (v :: items) (w :: items')

inductive FieldsAlike (R : String → Json → Json → Prop) : List (String × Json) → List (String × Json) → Prop
  | nil : FieldsAlike R [] []
  | cons {k : String} {v w : Json} {fields fields' : List (String × Json)} :
      Alike R v w → FieldsAlike R fields fields' → FieldsAlike R ((k, v) :: fields) ((k, w) :: fields')
  | value {k : String} {v w : Json} {fields fields' : List (String × Json)} :
      R k v w → FieldsAlike R fields fields' → FieldsAlike R ((k, v) :: fields) ((k, w) :: fields')

end

variable {R S : String → Json → Json → Prop}

theorem ItemsAlike.refl (items : List Json) : ItemsAlike R items items := by
  induction items with
  | nil => exact .nil
  | cons v items ih => exact .cons (.same v) ih

theorem FieldsAlike.refl (fields : List (String × Json)) : FieldsAlike R fields fields := by
  induction fields with
  | nil => exact .nil
  | cons field fields ih => exact .cons (.same field.2) ih

theorem FieldsAlike.keys {fields fields' : List (String × Json)} (h : FieldsAlike R fields fields') :
    fields'.map Prod.fst = fields.map Prod.fst := by
  induction fields generalizing fields' with
  | nil =>
    cases h
    rfl
  | cons field fields ih =>
    cases h with
    | cons _ hrest => exact congrArg (List.cons _) (ih hrest)
    | value _ hrest => exact congrArg (List.cons _) (ih hrest)

mutual

theorem Alike.mono (hRS : ∀ k v w, R k v w → S k v w) {v w : Json} : Alike R v w → Alike S v w
  | .same v => .same v
  | .list h => .list (h.mono hRS)
  | .object h => .object (h.mono hRS)

theorem ItemsAlike.mono (hRS : ∀ k v w, R k v w → S k v w) {items items' : List Json} :
    ItemsAlike R items items' → ItemsAlike S items items'
  | .nil => .nil
  | .cons h hrest => .cons (h.mono hRS) (hrest.mono hRS)

theorem FieldsAlike.mono (hRS : ∀ k v w, R k v w → S k v w) {fields fields' : List (String × Json)} :
    FieldsAlike R fields fields' → FieldsAlike S fields fields'
  | .nil => .nil
  | .cons h hrest => .cons (h.mono hRS) (hrest.mono hRS)
  | .value h hrest => .value (hRS _ _ _ h) (hrest.mono hRS)

end

/-! ## Values that Python has -/

section WellFormed

-- which texts are the `repr` of a float
variable (float : String → Bool)

mutual

/-- No object has a key twice, the floats are floats, and the integers are not too long to be written. -/
def wellFormed : Json → Bool
  | .int n => (Nat.toDigits 10 n.natAbs).length ≤ maxDigits
  | .float r => float r
  | .list items => wellFormedItems items
  | .object fields => (fields.map Prod.fst).Nodup && wellFormedFields fields
  | _ => true

def wellFormedItems : List Json → Bool
  | [] => true
  | v :: items => wellFormed v && wellFormedItems items

def wellFormedFields : List (String × Json) → Bool
  | [] => true
  | (_, v) :: fields => wellFormed v && wellFormedFields fields

end

variable {float}

mutual

theorem Alike.wellFormed (hR : ∀ k v w, R k v w → wellFormed float w = true) {v w : Json} (h : Alike R v w)
    (hv : wellFormed float v = true) : wellFormed float w = true := by
  match h with
  | .same v => exact hv
  | .list hitems => exact hitems.wellFormed hR hv
  | .object hfields =>
    rw [Json.wellFormed, Bool.and_eq_true] at hv ⊢
    rw [hfields.keys]
    exact ⟨hv.1, hfields.wellFormed hR hv.2⟩

theorem ItemsAlike.wellFormed (hR : ∀ k v w, R k v w → wellFormed float w = true) {items items' : List Json}
    (h : ItemsAlike R items items') (hitems : wellFormedItems float items = true) :
      wellFormedItems float items' = true := by
  match h with
  | .nil => rfl
  | .cons hone hrest =>
    rw [wellFormedItems, Bool.and_eq_true] at hitems ⊢
    exact ⟨hone.wellFormed hR hitems.1, hrest.wellFormed hR hitems.2⟩

theorem FieldsAlike.wellFormed (hR : ∀ k v w, R k v w → wellFormed float w = true)
    {fields fields' : List (String × Json)}
    (h : FieldsAlike R fields fields') (hfields : wellFormedFields float fields = true) :
      wellFormedFields float fields' = true := by
  match h with
  | .nil => rfl
  | .cons hone hrest =>
    rw [wellFormedFields, Bool.and_eq_true] at hfields ⊢
    exact ⟨hone.wellFormed hR hfields.1, hrest.wellFormed hR hfields.2⟩
  | .value hvalue hrest =>
    rw [wellFormedFields, Bool.and_eq_true] at hfields ⊢
    exact ⟨hR _ _ _ hvalue, hrest.wellFormed hR hfields.2⟩

end

end WellFormed

end Json
