import Mathlib.Order.MinMax
import PortaPhone.Lib.JsonAlike
/-!
# How deep a JSON value goes

A function that goes into a value takes levels of recursion, and the interpreter has so many of them and no more.
`depth` is the number that is taken, at the `Cost` of the function: a leaf, a list and an object take so many each,
and the values under some keys are not gone into but cost what `field` says.
-/

namespace Json

/-- A `ValueError`, or a `RecursionError`. -/
inductive Failure
  | value
  | recursion
deriving DecidableEq, Repr

structure Cost where
  leaf : Nat
  list : Nat
  object : Nat
  field : String → Json → Option Nat

namespace Cost

/-- One level for each container that stands in another. -/
def containers : Cost where
  leaf := 0
  list := 1
  object := 1
  field _ _ := none

/-- One level for each value, as `repr` takes them. -/
def values : Cost where
  leaf := 1
  list := 1
  object := 1
  field _ _ := none

end Cost

section Depth

variable (c : Cost)

mutual

def depth : Json → Nat
  | .list items => c.list + depthItems items
  | .object fields => c.object + depthFields fields
  | _ => c.leaf

def depthItems : List Json → Nat
  | [] => 0
  | v :: items => max (depth v) (depthItems items)

def depthFields : List (String × Json) → Nat
  | [] => 0
  | (k, v) :: fields => max ((c.field k v).getD (depth v)) (depthFields fields)

end

example : depth .containers (.list [.int 1, .object [("a", .list [])]]) = 3 := by decide

theorem depth_values_pos (v : Json) : 0 < depth .values v := by
  cases v with
  | list items => exact Nat.lt_of_lt_of_le Nat.zero_lt_one (Nat.le_add_right 1 _)
  | object fields => exact Nat.lt_of_lt_of_le Nat.zero_lt_one (Nat.le_add_right 1 _)
  | _ => exact Nat.zero_lt_one

/-! ## As many levels as there are -/

/-- What comes of `x`, for which `k` of `n` levels are taken. -/
def within {α : Type} (n k : Nat) (x : α) : Except Failure α := if k ≤ n then .ok x else .error .recursion

theorem within_ok {α : Type} {n k : Nat} (h : k ≤ n) (x : α) : within n k x = .ok x := if_pos h

theorem within_error {α : Type} {n k : Nat} (h : ¬ k ≤ n) (x : α) : within n k x = .error .recursion := if_neg h

theorem within_zero {α : Type} (k : Nat) (x : α) : within 0 (1 + k) x = .error .recursion :=
  within_error (by omega) x

theorem within_eq_ok {α : Type} {n k : Nat} {x y : α} : within n k x = .ok y ↔ k ≤ n ∧ x = y := by
  by_cases h : k ≤ n
  · rw [within_ok h, Except.ok.injEq]
    exact ⟨fun heq => ⟨h, heq⟩, And.right⟩
  · rw [within_error h]
    exact ⟨fun heq => (by cases heq), fun heq => absurd heq.1 h⟩

theorem within_add {α : Type} (n k j : Nat) (x : α) : within (n + j) (j + k) x = within n k x := by
  by_cases h : k ≤ n
  · rw [within_ok h, within_ok (by omega)]
  · rw [within_error h, within_error (by omega)]

/-- The first `j` levels are taken before the others. -/
theorem within_sub {α : Type} {n k : Nat} (hk : 0 < k) (j : Nat) (x : α) : within (n - j) k x = within n (j + k) x := by
  by_cases h : k ≤ n - j
  · rw [within_ok h, within_ok (by omega)]
  · rw [within_error h, within_error (by omega)]

theorem within_map {α β : Type} (n k : Nat) (x : α) (f : α → β) : (within n k x).map f = within n k (f x) := by
  by_cases h : k ≤ n
  · rw [within_ok h, within_ok h]
    rfl
  · rw [within_error h, within_error h]
    rfl

/-- One after the other takes as many levels as the deeper of the two. -/
theorem within_bind {α β : Type} {n k k' : Nat} {x : α} {y : β} {f : α → Except Failure β} (h : f x = within n k' y) :
    (within n k x >>= f) = within n (max k k') y := by
  by_cases hk : k ≤ n
  · rw [within_ok hk]
    refine h.trans ?_
    by_cases hk' : k' ≤ n
    · rw [within_ok hk', within_ok (Nat.max_le.2 ⟨hk, hk'⟩)]
    · rw [within_error hk', within_error fun hmax => hk' (Nat.max_le.1 hmax).2]
  · rw [within_error hk, within_error fun hmax => hk (Nat.max_le.1 hmax).1]
    rfl

theorem within_bind_ok {α β : Type} {n k : Nat} {x : α} {y : β} {f : α → Except Failure β} (h : f x = .ok y) :
    (within n k x >>= f) = within n k y := by
  have hbind := within_bind (k := k) (h.trans (within_ok (Nat.zero_le n) y).symm)
  rwa [Nat.max_zero] at hbind

/-! ## Values that are alike -/

variable {c} {R : String → Json → Json → Prop}

/-- What the value of a field costs. -/
def fieldDepth (c : Cost) (k : String) (v : Json) : Nat := (c.field k v).getD (depth c v)

mutual

/-- Values that differ in values that go no deeper are no deeper. -/
theorem Alike.depth_le (hfield : ∀ k v w, Alike R v w → depth c w ≤ depth c v → fieldDepth c k w ≤ fieldDepth c k v)
    (hvalue : ∀ k v w, R k v w → fieldDepth c k w ≤ fieldDepth c k v) {v w : Json} (h : Alike R v w) :
    depth c w ≤ depth c v := by
  match h with
  | .same v => exact Nat.le_refl _
  | .list hitems =>
    rw [depth, depth]
    exact Nat.add_le_add_left (hitems.depth_le hfield hvalue) c.list
  | .object hfields =>
    rw [depth, depth]
    exact Nat.add_le_add_left (hfields.depth_le hfield hvalue) c.object

theorem ItemsAlike.depth_le
    (hfield : ∀ k v w, Alike R v w → depth c w ≤ depth c v → fieldDepth c k w ≤ fieldDepth c k v)
    (hvalue : ∀ k v w, R k v w → fieldDepth c k w ≤ fieldDepth c k v) {items items' : List Json}
    (h : ItemsAlike R items items') : depthItems c items' ≤ depthItems c items := by
  match h with
  | .nil => exact Nat.le_refl _
  | .cons hone hrest =>
    rw [depthItems, depthItems]
    exact max_le_max (hone.depth_le hfield hvalue) (hrest.depth_le hfield hvalue)

theorem FieldsAlike.depth_le
    (hfield : ∀ k v w, Alike R v w → depth c w ≤ depth c v → fieldDepth c k w ≤ fieldDepth c k v)
    (hvalue : ∀ k v w, R k v w → fieldDepth c k w ≤ fieldDepth c k v) {fields fields' : List (String × Json)}
    (h : FieldsAlike R fields fields') : depthFields c fields' ≤ depthFields c fields := by
  match h with
  | .nil => exact Nat.le_refl _
  | .cons hone hrest =>
    rw [depthFields, depthFields]
    exact max_le_max (hfield _ _ _ hone (hone.depth_le hfield hvalue)) (hrest.depth_le hfield hvalue)
  | .value hone hrest =>
    rw [depthFields, depthFields]
    exact max_le_max (hvalue _ _ _ hone) (hrest.depth_le hfield hvalue)

end

/-- Where every field is gone into. -/
theorem Alike.depth_le_of_values (hnone : ∀ k v, c.field k v = none) (hvalue : ∀ k v w, R k v w → depth c w ≤ depth c v)
    {v w : Json} (h : Alike R v w) : depth c w ≤ depth c v := by
  have hdepth : ∀ k v, fieldDepth c k v = depth c v := by
    intro k v
    rw [fieldDepth, hnone]
    rfl
  refine h.depth_le (fun k v w _ hle => ?_) (fun k v w hR => ?_)
  · rw [hdepth, hdepth]
    exact hle
  · rw [hdepth, hdepth]
    exact hvalue k v w hR

end Depth

end Json
