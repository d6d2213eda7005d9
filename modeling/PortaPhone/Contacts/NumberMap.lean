import Mathlib
import PortaPhone.Contacts.Retrieval
/-!
# Numbers to accounts (`portaswitch/adapter.py`)

| here | there |
| --- | --- |
| `numberToAccounts`            | `_get_number_to_customer_accounts_map_for_numbers` (`:3121`) |
| `searchCustomers`, `searchCustomer`, `takeAccount` | its loops over the configured customers, batches and rows (`:3145-3176`) |
| `searchEach`                  | its search of each number (`:3179-3186`) |

The loops stop as soon as every number is found. `numberToAccounts_get?`: a number leads to the same account
whatever the other numbers are, to the first of the rows that would be read for it alone.
-/

namespace PortaPhone.Contacts

/-- `number_to_accounts` and `remaining_numbers`. -/
structure NumberSearch where
  found : Dict String Account := Dict.empty
  remaining : List String

def takeAccount (s : NumberSearch) (account : Account) : NumberSearch :=
  match account.id.getD "" with
  | none => s
  | some number =>
    if number ∈ s.remaining then
      { found := s.found.set number account, remaining := s.remaining.filter (· ≠ number) }
    else s

/-- `limit`, and the batches below the safety limit of the offset. -/
def batchLimit : Nat := 1000
def maxBatches : Nat := 10

def readBatch (api : AdminApi) (c : Int) (offset : Nat) : Except Raised (List Account × Option Int) := do
  match ← api.getAccountList c { limit := some batchLimit, offset := some offset } with
  | none => return ([], none)
  | some reply => return (← reply.accountList.rows, reply.total.get?)

/-- After this batch there is no other one. -/
def lastBatch (offset : Nat) (batch : List Account × Option Int) : Bool :=
  batch.1.length < batchLimit || batch.2.any fun total => total ≤ ((offset + batch.1.length : Nat) : Int)

/-- The batches of a customer; a request that fails ends them. -/
def searchCustomer (api : AdminApi) (c : Int) : Nat → Nat → NumberSearch → NumberSearch
  | 0, _, s => s
  | batches + 1, offset, s =>
    if s.remaining = [] then s
    else
      match readBatch api c offset with
      | .error _ => s
      | .ok batch =>
        let s := batch.1.foldl takeAccount s
        if s.remaining = [] || lastBatch offset batch then s
        else searchCustomer api c batches (offset + batchLimit) s

namespace Adapter

variable (A : Adapter)

/-- One configured customer; an id that is not a number is passed over. -/
def searchCustomerId (s : NumberSearch) (id : String) : NumberSearch :=
  if s.remaining = [] then s
  else
    match A.runtime.int id with
    | none => s
    | some c => searchCustomer A.adminApi c maxBatches 0 s

def searchCustomers (customerIds : List String) (s : NumberSearch) : NumberSearch :=
  customerIds.foldl A.searchCustomerId s

def accountById (number : String) : Option Account :=
  match A.adminApi.getAccountInfo (.byId number) with
  | .ok account => account
  | .error _ => none

def searchEach (numbers : List String) : Dict String Account :=
  Dict.empty.update ((A.setOrder.order numbers).filterMap fun number => (A.accountById number).map (number, ·))

def numberToAccounts (customerIds numbers : List String) : Dict String Account :=
  if numbers = [] then Dict.empty
  else if customerIds ≠ [] then (A.searchCustomers customerIds { remaining := numbers }).found
  else A.searchEach numbers

end Adapter

/-! ## Stopping early makes no difference -/

theorem takeAccount_done {s : NumberSearch} (h : s.remaining = []) (account : Account) : takeAccount s account = s := by
  unfold takeAccount
  split
  · rfl
  · simp [h]

theorem foldl_takeAccount_done {s : NumberSearch} (h : s.remaining = []) (rows : List Account) :
    rows.foldl takeAccount s = s := by
  induction rows with
  | nil => rfl
  | cons a rows ih => rw [List.foldl_cons, takeAccount_done h, ih]

/-- The rows of a customer that a number is searched in which is not there. -/
def rowsRead (api : AdminApi) (c : Int) : Nat → Nat → List Account
  | 0, _ => []
  | batches + 1, offset =>
    match readBatch api c offset with
    | .error _ => []
    | .ok batch => batch.1 ++ if lastBatch offset batch then [] else rowsRead api c batches (offset + batchLimit)

theorem searchCustomer_eq (api : AdminApi) (c : Int) (batches offset : Nat) (s : NumberSearch) :
    searchCustomer api c batches offset s = (rowsRead api c batches offset).foldl takeAccount s := by
  induction batches generalizing offset s with
  | zero => rfl
  | succ batches ih =>
    by_cases hdone : s.remaining = []
    · rw [foldl_takeAccount_done hdone, searchCustomer, if_pos hdone]
    · rw [searchCustomer, if_neg hdone, rowsRead]
      cases readBatch api c offset with
      | error e => rfl
      | ok batch =>
        simp only [List.foldl_append]
        by_cases hlast : lastBatch offset batch = true
        · simp [hlast]
        · by_cases hfound : (batch.1.foldl takeAccount s).remaining = []
          · rw [foldl_takeAccount_done hfound]
            simp [hfound]
          · simp [hlast, hfound, ih]

namespace Adapter

variable (A : Adapter)

/-- The rows that a number which is nowhere is searched in. -/
def searchedRows (customerIds : List String) : List Account :=
  customerIds.flatMap fun id => (A.runtime.int id).elim [] fun c => rowsRead A.adminApi c maxBatches 0

theorem searchCustomerId_eq (s : NumberSearch) (id : String) :
    A.searchCustomerId s id =
      ((A.runtime.int id).elim [] fun c => rowsRead A.adminApi c maxBatches 0).foldl takeAccount s := by
  unfold searchCustomerId
  by_cases hdone : s.remaining = []
  · rw [if_pos hdone, foldl_takeAccount_done hdone]
  · rw [if_neg hdone]
    cases A.runtime.int id with
    | none => rfl
    | some c => exact searchCustomer_eq _ _ _ _ _

theorem searchCustomers_eq (customerIds : List String) (s : NumberSearch) :
    A.searchCustomers customerIds s = (A.searchedRows customerIds).foldl takeAccount s := by
  induction customerIds generalizing s with
  | nil => rfl
  | cons id customerIds ih =>
    rw [searchedRows, List.flatMap_cons, List.foldl_append, ← searchedRows, ← ih, ← searchCustomerId_eq]
    rfl

end Adapter

/-! ## The account of a number -/

def hasNumber (number : String) (account : Account) : Bool := account.id.getD "" = some number

theorem takeAccount_of_not_mem {s : NumberSearch} {number : String} (h : number ∉ s.remaining) (account : Account) :
    number ∉ (takeAccount s account).remaining ∧
      (takeAccount s account).found.get? number = s.found.get? number := by
  unfold takeAccount
  split
  · exact ⟨h, rfl⟩
  · rename_i other _
    split
    · rename_i hother
      have hne : number ≠ other := by
        rintro rfl
        exact h hother
      refine ⟨?_, Dict.get?_set_other _ _ hne⟩
      simp [h]
    · exact ⟨h, rfl⟩

theorem takeAccount_of_mem {s : NumberSearch} {number : String} (h : number ∈ s.remaining) (account : Account) :
    if hasNumber number account then
      number ∉ (takeAccount s account).remaining ∧ (takeAccount s account).found.get? number = some account
    else
      number ∈ (takeAccount s account).remaining ∧
        (takeAccount s account).found.get? number = s.found.get? number := by
  unfold takeAccount hasNumber
  cases hid : account.id.getD "" with
  | none => simpa using h
  | some other =>
    by_cases hother : other = number
    · subst hother
      simp [h]
    · have hne : number ≠ other := fun heq => hother heq.symm
      simp only [Option.some.injEq, hother, decide_false, Bool.false_eq_true, if_false]
      split
      · exact ⟨by simp [h, hne], Dict.get?_set_other _ _ hne⟩
      · exact ⟨h, rfl⟩

theorem foldl_takeAccount_of_not_mem {number : String} (rows : List Account) {s : NumberSearch}
    (h : number ∉ s.remaining) : (rows.foldl takeAccount s).found.get? number = s.found.get? number := by
  induction rows generalizing s with
  | nil => rfl
  | cons a rows ih =>
    obtain ⟨hnot, hget⟩ := takeAccount_of_not_mem h a
    rw [List.foldl_cons, ih hnot, hget]

/-- The first row with the number. -/
theorem foldl_takeAccount_of_mem {number : String} (rows : List Account) {s : NumberSearch}
    (h : number ∈ s.remaining) :
    (rows.foldl takeAccount s).found.get? number = (rows.find? (hasNumber number)).or (s.found.get? number) := by
  induction rows generalizing s with
  | nil => rfl
  | cons a rows ih =>
    have hstep := takeAccount_of_mem h a
    by_cases ha : hasNumber number a = true
    · rw [if_pos ha] at hstep
      rw [List.foldl_cons, foldl_takeAccount_of_not_mem rows hstep.1, hstep.2, List.find?_cons_of_pos ha]
      rfl
    · rw [if_neg ha] at hstep
      rw [List.foldl_cons, ih hstep.1, hstep.2, List.find?_cons_of_neg ha]

namespace Adapter

variable (A : Adapter)

/-- The account a number leads to. -/
def accountOfNumber (customerIds : List String) (number : String) : Option Account :=
  if customerIds ≠ [] then (A.searchedRows customerIds).find? (hasNumber number) else A.accountById number

theorem searchEach_get? {numbers : List String} {number : String} (h : number ∈ numbers) :
    (A.searchEach numbers).get? number = A.accountById number := by
  have hmem : number ∈ A.setOrder.order numbers := (A.setOrder.perm numbers).mem_iff.2 h
  unfold searchEach
  cases haccount : A.accountById number with
  | none =>
    rw [Dict.get?_update_other, Dict.get?_empty]
    intro hkey
    obtain ⟨⟨other, account⟩, he, rfl⟩ := List.mem_map.1 hkey
    obtain ⟨n, _, hn⟩ := List.mem_filterMap.1 he
    obtain ⟨a, ha, heq⟩ := Option.map_eq_some_iff.1 hn
    obtain ⟨rfl, rfl⟩ := Prod.mk.inj heq
    simp_all
  | some account =>
    refine Dict.get?_update_mem ?_ (List.mem_filterMap.2 ⟨number, hmem, by simp [haccount]⟩)
    intro e he hkey
    obtain ⟨n, _, hn⟩ := List.mem_filterMap.1 he
    obtain ⟨a, ha, rfl⟩ := Option.map_eq_some_iff.1 hn
    obtain rfl : n = number := hkey
    exact Option.some.inj (ha.symm.trans haccount)

/-- **A number leads to its account whatever the other numbers are.** -/
theorem numberToAccounts_get? (customerIds : List String) {numbers : List String} {number : String}
    (h : number ∈ numbers) :
      (A.numberToAccounts customerIds numbers).get? number = A.accountOfNumber customerIds number := by
  unfold numberToAccounts accountOfNumber
  rw [if_neg (List.ne_nil_of_mem h)]
  split
  · rw [A.searchCustomers_eq, foldl_takeAccount_of_mem _ h]
    simp
  · exact A.searchEach_get? h

end Adapter

end PortaPhone.Contacts
