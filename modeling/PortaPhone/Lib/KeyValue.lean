/-!
# Key-value stores

A store maps each key to at most one value; `set` and `erase` change one key and leave the others.
-/

/-- A store with keys in `κ` and values in `α`. -/
def KeyValue (κ : Type _) (α : Type _) := κ → Option α

namespace KeyValue

variable {κ : Type _} {α : Type _}

def empty : KeyValue κ α := fun _ => none

def get (db : KeyValue κ α) (k : κ) : Option α := db k

@[ext] theorem ext {db db' : KeyValue κ α} (h : ∀ k, db.get k = db'.get k) : db = db' := funext h

@[simp] theorem get_empty (k : κ) : (empty : KeyValue κ α).get k = none := rfl

variable [DecidableEq κ]

def set (db : KeyValue κ α) (k : κ) (v : α) : KeyValue κ α := fun j => if j = k then some v else db j

def erase (db : KeyValue κ α) (k : κ) : KeyValue κ α := fun j => if j = k then none else db j

theorem get_set (db : KeyValue κ α) (k j : κ) (v : α) :
    (db.set k v).get j = if j = k then some v else db.get j := rfl

theorem get_erase (db : KeyValue κ α) (k j : κ) : (db.erase k).get j = if j = k then none else db.get j := rfl

@[simp] theorem get_set_self (db : KeyValue κ α) (k : κ) (v : α) : (db.set k v).get k = some v := by
  simp [get_set]

@[simp] theorem get_erase_self (db : KeyValue κ α) (k : κ) : (db.erase k).get k = none := by
  simp [get_erase]

theorem get_set_other (db : KeyValue κ α) {k j : κ} (v : α) (h : j ≠ k) : (db.set k v).get j = db.get j := by
  simp [get_set, h]

theorem get_erase_other (db : KeyValue κ α) {k j : κ} (h : j ≠ k) : (db.erase k).get j = db.get j := by
  simp [get_erase, h]

/-- Erasing a key that is not there changes nothing. -/
theorem erase_absent {db : KeyValue κ α} {k : κ} (h : db.get k = none) : db.erase k = db := by
  ext j
  by_cases hj : j = k
  · rw [hj, get_erase_self, h]
  · rw [get_erase_other db hj]

end KeyValue
