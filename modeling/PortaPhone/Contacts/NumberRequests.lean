import Mathlib.Data.List.Basic
import PortaPhone.Contacts.NumberMap
import PortaPhone.Lib.Requests
/-!
# The requests of the number lookup (`portaswitch/adapter.py`)

| here | there |
| --- | --- |
| `getNumberToAccounts` | `_get_number_to_customer_accounts_map_for_numbers` (`:3121`) |
| `askCustomers`, `askCustomer` | its loop over the configured customers, and the `try` of one of them (`:3145-3175`) |
| `readBatches`, `takeRows` | the loops over the batches of a customer and over the rows of a batch (`:3154-3172`) |
| `findEach`            | its search of each number (`:3179-3186`) |

`NumberMap` has the same lookup over answers that are known in advance (`getNumberToAccounts_known`). Here an answer
may depend on every request before it, and a row, the list of rows and the total may each be nothing that the loops can
work with. What is raised carries the numbers found by then, since the `except` clause of a customer keeps them. An
account without an id counts as one with the empty id (`hasNumber`).
-/

namespace PortaPhone.Contacts

open Requests

def Attr.map {α β : Type} (f : α → β) : Attr α → Attr β
  | absent => absent
  | null => null
  | val a => val (f a)

namespace NumberLookup

inductive Request
  | accountList (iCustomer : Int) (limit offset : Nat)
  | accountInfo (id : String)
deriving DecidableEq, Repr

/-- A row on which `get` or the lookup of its id raises is an error; `total` is what `int` makes of it. -/
structure Page where
  accountList : Attr (List (Except Raised Account)) := .absent
  total : Attr (Except Raised Int) := .absent

/-- `none` is an answer that is not a dict, or an account that is not there. -/
structure Switch where
  accountList : Int → Nat → Nat → List Request → Except Raised (Option Page)
  accountInfo : String → List Request → Except Raised (Option Account)

/-- What is raised, and the search at that moment. -/
abbrev Interrupted := Raised × NumberSearch

abbrev Search (α : Type) := Sends Request Interrupted α

def takeRows (s : NumberSearch) : List (Except Raised Account) → Except Interrupted NumberSearch
  | [] => .ok s
  | .error e :: _ => .error (e, s)
  | .ok account :: rows => takeRows (takeAccount s account) rows

def rowsOf : Option Page → Except Raised (List (Except Raised Account))
  | none => .ok []
  | some page => page.accountList.rows

def totalOf : Option Page → Attr (Except Raised Int)
  | none => .absent
  | some page => page.total

/-- `total is not None and seen >= int(total)`. -/
def totalReached (seen : Nat) : Attr (Except Raised Int) → Except Raised Bool
  | .val (.ok total) => .ok (total ≤ (seen : Int))
  | .val (.error e) => .error e
  | _ => .ok false

def interrupted {α : Type} (s : NumberSearch) (x : Except Raised α) : Except Interrupted α := x.mapError fun e => (e, s)

section Adapter

variable (switch : Switch) (runtime : Runtime) (setOrder : SetOrder)

/-- The batches of a customer from `offset` on, `batches` of them at most. -/
def readBatches (c : Int) : Nat → Nat → NumberSearch → Search NumberSearch
  | 0, _, s => pure s
  | batches + 1, offset, s =>
    if s.remaining = [] then pure s
    else do
      let reply ← Sends.send (.accountList c batchLimit offset)
        fun log => interrupted s (switch.accountList c batchLimit offset log)
      let rows ← Sends.lift (interrupted s (rowsOf reply))
      let s ← Sends.lift (takeRows s rows)
      if s.remaining = [] || rows.length < batchLimit then return s
      if ← Sends.lift (interrupted s (totalReached (offset + rows.length) (totalOf reply))) then return s
      readBatches c batches (offset + batchLimit) s

/-- One configured customer; `int` of its id raises where it is not a number. -/
def askCustomer (s : NumberSearch) (id : String) : Sends Request Raised NumberSearch :=
  match runtime.int id with
  | none => pure s
  | some c => Sends.rescue Prod.snd (readBatches switch c maxBatches 0 s)

def askCustomers : List String → NumberSearch → Sends Request Raised NumberSearch
  | [], s => pure s
  | id :: ids, s =>
    if s.remaining = [] then pure s
    else do
      let s ← askCustomer switch runtime s id
      askCustomers ids s

def findEach : List String → Dict String Account → Sends Request Raised (Dict String Account)
  | [], found => pure found
  | number :: numbers, found => do
    let account ← Sends.rescue (fun _ => none) (Sends.send (.accountInfo number) (switch.accountInfo number))
    findEach numbers (account.elim found fun account => found.set number account)

def getNumberToAccounts (customerIds numbers : List String) : Sends Request Raised (Dict String Account) :=
  if numbers = [] then pure Dict.empty
  else if customerIds ≠ [] then do
    let s ← askCustomers switch runtime customerIds { remaining := numbers }
    return s.found
  else findEach switch (setOrder.order numbers) Dict.empty

end Adapter

/-! ## Whatever is answered -/

/-- The rows of some accounts lead from one search to the other. -/
def Reaches (s s' : NumberSearch) : Prop := ∃ taken : List Account, s' = taken.foldl takeAccount s

theorem Reaches.refl (s : NumberSearch) : Reaches s s := ⟨[], rfl⟩

theorem Reaches.trans {s s' s'' : NumberSearch} (h : Reaches s s') (h' : Reaches s' s'') : Reaches s s'' := by
  obtain ⟨taken, rfl⟩ := h
  obtain ⟨taken', rfl⟩ := h'
  exact ⟨taken ++ taken', by rw [List.foldl_append]⟩

abbrev EndsFrom (s : NumberSearch) (m : Search NumberSearch) : Prop := Ends (Reaches s) (fun e => Reaches s e.2) m

theorem interrupted_error {α : Type} {s : NumberSearch} {x : Except Raised α} {e : Interrupted}
    (h : interrupted s x = .error e) : Reaches s e.2 := by
  cases x with
  | ok a => cases h
  | error raised =>
    cases h
    exact Reaches.refl s

theorem takeRows_reaches (s : NumberSearch) (rows : List (Except Raised Account)) :
    (∀ s', takeRows s rows = .ok s' → Reaches s s') ∧ ∀ e, takeRows s rows = .error e → Reaches s e.2 := by
  induction rows generalizing s with
  | nil =>
    constructor
    · rintro _ ⟨⟩
      exact Reaches.refl s
    · rintro _ ⟨⟩
  | cons row rows ih =>
    cases row with
    | error e =>
      constructor
      · rintro _ ⟨⟩
      · rintro _ ⟨⟩
        exact Reaches.refl s
    | ok account =>
      have hone : Reaches s (takeAccount s account) := ⟨[account], rfl⟩
      exact ⟨fun s' h => hone.trans ((ih _).1 s' h), fun e h => hone.trans ((ih _).2 e h)⟩

section Answers

variable (switch : Switch) (runtime : Runtime)

/-- A read that fails loses nothing of what has been found. -/
theorem readBatches_ends (c : Int) (batches offset : Nat) (s start : NumberSearch) (h : Reaches start s) :
    EndsFrom start (readBatches switch c batches offset s) := by
  induction batches generalizing offset s with
  | zero => exact ends_pure h
  | succ batches ih =>
    rw [readBatches]
    split
    · exact ends_pure h
    · refine (ends_any_send fun _ e he => h.trans (interrupted_error he)).bind fun reply _ => ?_
      refine (ends_any_lift fun e he => h.trans (interrupted_error he)).bind fun rows _ => ?_
      have htake := takeRows_reaches s rows
      have htaken : EndsFrom start (Sends.lift (takeRows s rows)) :=
        ends_lift (fun s' hs' => h.trans (htake.1 s' hs')) fun e he => h.trans (htake.2 e he)
      refine htaken.bind fun s' hs' => ?_
      split
      · exact ends_pure hs'
      · refine (ends_any_lift fun e he => hs'.trans (interrupted_error he)).bind fun reached _ => ?_
        split
        · exact ends_pure hs'
        · exact ih (offset + batchLimit) s' hs'

theorem readBatches_atMost (c : Int) (batches offset : Nat) (s : NumberSearch) :
    AtMost batches (readBatches switch c batches offset s) := by
  induction batches generalizing offset s with
  | zero => exact atMost_pure 0 s
  | succ batches ih =>
    rw [readBatches]
    split
    · exact atMost_pure _ s
    · have hrest : ∀ (b : Bool) (s' : NumberSearch),
          AtMost batches (if b = true then pure s' else readBatches switch c batches (offset + batchLimit) s') := by
        intro b s'
        split
        · exact atMost_pure _ _
        · exact ih _ _
      refine ((atMost_send _ _).bind (k := batches) fun reply => ?_).mono (Nat.le_of_eq (Nat.add_comm 1 batches))
      refine ((atMost_lift _).bind (k := batches) fun rows => ?_).mono (Nat.le_of_eq (Nat.zero_add batches))
      refine ((atMost_lift _).bind (k := batches) fun s' => ?_).mono (Nat.le_of_eq (Nat.zero_add batches))
      split
      · exact atMost_pure _ _
      · exact ((atMost_lift _).bind fun reached => hrest reached s').mono (Nat.le_of_eq (Nat.zero_add batches))

end Answers

/-! ## Customers that are served -/

/-- The slices of one list of at most 10000 accounts, with the number of its elements or without a total. -/
structure Served (switch : Switch) (c : Int) (accounts : List Account) : Prop where
  few : accounts.length ≤ 10000
  slices : ∀ limit offset log, ∃ page, switch.accountList c limit offset log = .ok (some page) ∧
    page.accountList.rows = .ok (((accounts.drop offset).take limit).map .ok) ∧
      (page.total = .val (.ok accounts.length) ∨ page.total.get? = none)

theorem takeRows_ok (s : NumberSearch) (rows : List Account) :
    takeRows s (rows.map .ok) = .ok (rows.foldl takeAccount s) := by
  induction rows generalizing s with
  | nil => rfl
  | cons account rows ih => exact ih (takeAccount s account)

theorem Served.unique {switch : Switch} {c : Int} {accounts accounts' : List Account} (h : Served switch c accounts)
    (h' : Served switch c accounts') : accounts = accounts' := by
  obtain ⟨page, hpage, hrows, -⟩ := h.slices 10000 0 []
  obtain ⟨page', hpage', hrows', -⟩ := h'.slices 10000 0 []
  obtain rfl : page = page' := Option.some.inj (Except.ok.inj (hpage.symm.trans hpage'))
  have heq := Except.ok.inj (hrows.symm.trans hrows')
  rw [List.drop_zero, List.drop_zero, List.take_of_length_le h.few, List.take_of_length_le h'.few] at heq
  exact List.map_injective_iff.2 (fun _ _ hok => Except.ok.inj hok) heq

theorem totalReached_of_served {total : Attr (Except Raised Int)} {n : Nat}
    (h : total = .val (.ok (n : Int)) ∨ total.get? = none) (seen : Nat) :
    ∃ reached, totalReached seen total = .ok reached ∧ (reached = true → n ≤ seen) := by
  rcases h with rfl | h
  · refine ⟨_, rfl, fun hreached => ?_⟩
    exact Int.ofNat_le.1 (of_decide_eq_true hreached)
  · refine ⟨false, ?_, nofun⟩
    cases total with
    | absent => rfl
    | null => rfl
    | val total => cases h

/-- All accounts from `offset` on are searched, as far as there is something left to find. -/
theorem readBatches_served {switch : Switch} {c : Int} {accounts : List Account} (h : Served switch c accounts)
    (batches offset : Nat)
    (henough : accounts.length ≤ offset + batches * batchLimit) (s : NumberSearch) (log : List Request) :
    (readBatches switch c batches offset s log).1 = .ok ((accounts.drop offset).foldl takeAccount s) := by
  induction batches generalizing offset s log with
  | zero =>
    rw [Nat.zero_mul, Nat.add_zero] at henough
    rw [List.drop_of_length_le henough]
    rfl
  | succ batches ih =>
    rw [readBatches]
    by_cases hdone : s.remaining = []
    · rw [if_pos hdone, foldl_takeAccount_done hdone]
      rfl
    · obtain ⟨page, hpage, hrows, htotal⟩ := h.slices batchLimit offset log
      generalize hbatch : (accounts.drop offset).take batchLimit = batch at hrows
      have hlength : batch.length = min batchLimit (accounts.length - offset) := by
        rw [← hbatch, List.length_take, List.length_drop]
      have hsplit : accounts.drop offset = batch ++ accounts.drop (offset + batchLimit) := by
        rw [← hbatch, ← List.drop_drop, List.take_append_drop]
      have hwhole : accounts.length ≤ offset + batch.length → accounts.drop (offset + batchLimit) = [] := by
        intro hle
        apply List.drop_of_length_le
        omega
      rw [if_neg hdone, run_bind_ok (by rw [run_send, hpage]; rfl), run_bind_ok (by rw [run_lift, rowsOf, hrows]; rfl),
        run_bind_ok (by rw [run_lift, takeRows_ok]), hsplit, List.foldl_append, List.length_map]
      by_cases hlast : ((batch.foldl takeAccount s).remaining = [] || decide (batch.length < batchLimit)) = true
      · rw [if_pos hlast]
        rcases Bool.or_eq_true_iff.1 hlast with hfound | hshort
        · rw [foldl_takeAccount_done (of_decide_eq_true hfound)]
          rfl
        · have hlt := of_decide_eq_true hshort
          rw [hwhole (by omega)]
          rfl
      · obtain ⟨reached, hreached, hall⟩ := totalReached_of_served htotal (offset + batch.length)
        rw [if_neg hlast, run_bind_ok (by rw [run_lift, totalOf, hreached]; rfl)]
        cases reached with
        | true =>
          rw [hwhole (hall rfl)]
          rfl
        | false =>
          exact ih (offset + batchLimit) (by rw [Nat.succ_mul] at henough; omega) _ _

section Answers

variable (switch : Switch) (runtime : Runtime)

/-- What is searched of a configured customer: all its accounts if it is served. -/
def Searched (id : String) (taken : List Account) : Prop :=
  match runtime.int id with
  | none => taken = []
  | some c => ∀ accounts, Served switch c accounts → taken = accounts

theorem askCustomer_run (s : NumberSearch) (id : String) (log : List Request) :
    ∃ taken, Searched switch runtime id taken ∧ (askCustomer switch runtime s id log).1 =
      .ok (taken.foldl takeAccount s) := by
  unfold askCustomer Searched
  cases runtime.int id with
  | none => exact ⟨[], rfl, rfl⟩
  | some c =>
    by_cases hserved : ∃ accounts, Served switch c accounts
    · obtain ⟨accounts, hserved⟩ := hserved
      refine ⟨accounts, fun accounts' h' => hserved.unique h', ?_⟩
      have henough : accounts.length ≤ 0 + maxBatches * batchLimit := by
        rw [Nat.zero_add]
        exact hserved.few
      show Except.ok (Sends.settle Prod.snd (readBatches switch c maxBatches 0 s log).1) = _
      rw [readBatches_served hserved maxBatches 0 henough]
      rfl
    · obtain ⟨s', hs', taken, rfl⟩ := (readBatches_ends switch c maxBatches 0 s s (.refl s)).rescue (fun _ he => he) log
      exact ⟨taken, fun accounts h => absurd ⟨accounts, h⟩ hserved, hs'⟩

/-- The rows of the customers one after the other, also of those that are not asked any more. -/
theorem askCustomers_run (ids : List String) (s : NumberSearch) (log : List Request) :
    ∃ takes, List.Forall₂ (Searched switch runtime) ids takes ∧
      (askCustomers switch runtime ids s log).1 = .ok (takes.flatten.foldl takeAccount s) := by
  induction ids generalizing s log with
  | nil => exact ⟨[], .nil, rfl⟩
  | cons id ids ih =>
    obtain ⟨taken, htaken, hrun⟩ := askCustomer_run switch runtime s id log
    obtain ⟨takes, htakes, hrest⟩ := ih (taken.foldl takeAccount s) (askCustomer switch runtime s id log).2
    refine ⟨taken :: takes, .cons htaken htakes, ?_⟩
    rw [askCustomers, List.flatten_cons, List.foldl_append]
    split
    · rename_i hdone
      rw [foldl_takeAccount_done hdone, foldl_takeAccount_done hdone]
      rfl
    · rw [run_bind_ok (Prod.ext hrun rfl), hrest]

theorem askCustomers_atMost (ids : List String) (s : NumberSearch) :
    AtMost (maxBatches * ids.length) (askCustomers switch runtime ids s) := by
  induction ids generalizing s with
  | nil => exact atMost_pure 0 s
  | cons id ids ih =>
    have hone : AtMost maxBatches (askCustomer switch runtime s id) := by
      unfold askCustomer
      split
      · exact atMost_pure _ s
      · exact (readBatches_atMost switch _ maxBatches 0 s).rescue _
    rw [askCustomers]
    split
    · exact atMost_pure _ s
    · exact (hone.bind fun s' => ih s').mono (by rw [List.length_cons, Nat.mul_succ, Nat.add_comm])

theorem findEach_atMost (numbers : List String) (found : Dict String Account) :
    AtMost numbers.length (findEach switch numbers found) := by
  induction numbers generalizing found with
  | nil => exact atMost_pure 0 found
  | cons number numbers ih =>
    have hone : AtMost 1 (Sends.rescue (fun _ => none) (Sends.send (.accountInfo number) (switch.accountInfo number)) :
        Sends Request Raised (Option Account)) := (atMost_send _ _).rescue _
    exact (hone.bind fun account => ih _).mono (Nat.le_of_eq (Nat.add_comm 1 numbers.length))

end Answers

/-! ## The lookup -/

/-- The accounts of the configured customers. -/
def configuredAccounts (runtime : Runtime) (accounts : Int → List Account) (ids : List String) : List Account :=
  ids.flatMap fun id => (runtime.int id).elim [] accounts

variable (switch : Switch) (runtime : Runtime) (setOrder : SetOrder)

theorem getNumberToAccounts_run {ids : List String} (hids : ids ≠ []) (numbers : List String) (log : List Request) :
    ∃ takes, List.Forall₂ (Searched switch runtime) ids takes ∧
      ∃ found, (getNumberToAccounts switch runtime setOrder ids numbers log).1 = .ok found ∧
        ∀ number, found.get? number = if number ∈ numbers then takes.flatten.find? (hasNumber number) else none := by
  obtain ⟨takes, htakes, hrun⟩ := askCustomers_run switch runtime ids { remaining := numbers } log
  refine ⟨takes, htakes, ?_⟩
  unfold getNumberToAccounts
  by_cases hnumbers : numbers = []
  · subst hnumbers
    exact ⟨Dict.empty, rfl, fun number => by rw [if_neg List.not_mem_nil, Dict.get?_empty]⟩
  · rw [if_neg hnumbers, if_pos hids, run_bind_ok (Prod.ext hrun rfl)]
    refine ⟨_, rfl, fun number => ?_⟩
    split
    · rename_i hmem
      rw [foldl_takeAccount_of_mem _ hmem, Dict.get?_empty, Option.or_none]
    · rename_i hmem
      rw [foldl_takeAccount_of_not_mem _ hmem, Dict.get?_empty]

theorem getNumberToAccounts_atMost (ids numbers : List String) :
    AtMost (if ids ≠ [] then maxBatches * ids.length else numbers.length)
      (getNumberToAccounts switch runtime setOrder ids numbers) := by
  unfold getNumberToAccounts
  by_cases hnumbers : numbers = []
  · rw [if_pos hnumbers]
    exact atMost_pure _ _
  · rw [if_neg hnumbers]
    split
    · exact (askCustomers_atMost switch runtime ids _).bind fun s => atMost_pure 0 s.found
    · rw [← (setOrder.perm numbers).length_eq]
      exact findEach_atMost switch _ _

theorem searched_of_served {accounts : Int → List Account} {ids : List String} {takes : List (List Account)}
    (hserved : ∀ id ∈ ids, ∀ c, runtime.int id = some c → Served switch c (accounts c))
    (htakes : List.Forall₂ (Searched switch runtime) ids takes) :
    takes.flatten = configuredAccounts runtime accounts ids := by
  induction htakes with
  | nil => rfl
  | @cons id taken ids takes hone htakes ih =>
    have hserved' : ∀ other ∈ ids, ∀ c, runtime.int other = some c → Served switch c (accounts c) :=
      fun other hother => hserved other (List.mem_cons_of_mem id hother)
    have htaken : taken = (runtime.int id).elim [] accounts := by
      unfold Searched at hone
      cases hint : runtime.int id with
      | none =>
        simp only [hint] at hone ⊢
        exact hone
      | some c =>
        simp only [hint] at hone
        exact hone _ (hserved id List.mem_cons_self c hint)
    rw [List.flatten_cons, ih hserved', htaken]
    rfl

theorem mem_searched_of_served {accounts : List Account} {ids : List String} {takes : List (List Account)} {id : String}
    {c : Int} (htakes : List.Forall₂ (Searched switch runtime) ids takes) (hid : id ∈ ids)
    (hint : runtime.int id = some c) (hserved : Served switch c accounts) {account : Account} (h : account ∈ accounts) :
    account ∈ takes.flatten := by
  induction htakes with
  | nil => cases hid
  | @cons other taken ids takes hone htakes ih =>
    rw [List.flatten_cons, List.mem_append]
    rcases List.mem_cons.1 hid with rfl | hid
    · unfold Searched at hone
      simp only [hint] at hone
      rw [hone accounts hserved]
      exact .inl h
    · exact .inr (ih hid)

/-- **A number leads to the first account that has it** if all configured customers are served, and has no entry if
there is none. Whatever the other customers answer, and wherever their reads fail, the numbers of a served customer
have entries. The number of requests is bounded for all answers. -/
theorem numbers_over_customers (ids : List String) (numbers : List String) (accounts : Int → List Account) :
    (ids ≠ [] → (∀ id ∈ ids, ∀ c, runtime.int id = some c → Served switch c (accounts c)) → ∀ log,
      ∃ found, (getNumberToAccounts switch runtime setOrder ids numbers log).1 = .ok found ∧ ∀ number,
        found.get? number = if number ∈ numbers then (configuredAccounts runtime accounts ids).find? (hasNumber number)
          else none) ∧
    (ids ≠ [] → ∀ log, ∃ found, (getNumberToAccounts switch runtime setOrder ids numbers log).1 = .ok found ∧
      ∀ id ∈ ids, ∀ c, runtime.int id = some c → Served switch c (accounts c) → ∀ number ∈ numbers,
        (∃ account ∈ accounts c, hasNumber number account) → (found.get? number).isSome) ∧
    AtMost (if ids ≠ [] then maxBatches * ids.length else numbers.length)
      (getNumberToAccounts switch runtime setOrder ids numbers) := by
  refine ⟨fun hids hserved log => ?_, fun hids log => ?_,
    getNumberToAccounts_atMost switch runtime setOrder ids numbers⟩
  · obtain ⟨takes, htakes, found, hrun, hget⟩ := getNumberToAccounts_run switch runtime setOrder hids numbers log
    refine ⟨found, hrun, fun number => ?_⟩
    rw [hget, searched_of_served switch runtime hserved htakes]
  · obtain ⟨takes, htakes, found, hrun, hget⟩ := getNumberToAccounts_run switch runtime setOrder hids numbers log
    refine ⟨found, hrun, fun id hid c hint hserved number hnumber => ?_⟩
    rintro ⟨account, haccount, hhas⟩
    rw [hget, if_pos hnumber, List.find?_isSome]
    exact ⟨account, mem_searched_of_served switch runtime htakes hid hint hserved haccount, hhas⟩

/-- A switch that serves these lists. -/
def serving (accounts : Int → List Account) : Switch where
  accountList c limit offset _ :=
    .ok (some ⟨.val (((accounts c).drop offset).take limit |>.map .ok), .val (.ok (accounts c).length)⟩)
  accountInfo _ _ := .ok none

theorem served_serving {accounts : Int → List Account} {c : Int} (h : (accounts c).length ≤ 10000) :
    Served (serving accounts) c (accounts c) where
  few := h
  slices _ _ _ := ⟨_, rfl, rfl, .inl rfl⟩

def twoCustomers (c : Int) : List Account :=
  if c = 1 then [{ iAccount := 11, id := .val "100" }]
  else [{ iAccount := 21, id := .val "100" }, { iAccount := 22, id := .val "200" }]

/-- Both customers have the number 100, and the first one is asked before. -/
theorem numbers_over_customers_two :
    let runtime : Runtime := ⟨id, fun s => if s = "1" then some 1 else some 2, fun _ => none⟩
    ∃ found, (getNumberToAccounts (serving twoCustomers) runtime ⟨id, fun _ => .refl _⟩ ["1", "2"] ["100", "200"] []).1
        = .ok found ∧
      (found.get? "100").map (·.iAccount) = some 11 ∧ (found.get? "200").map (·.iAccount) = some 22 := by
  intro runtime
  have hfew : ∀ c, (twoCustomers c).length ≤ 10000 := by
    intro c
    unfold twoCustomers
    split <;> decide
  obtain ⟨found, hrun, hget⟩ := (numbers_over_customers (serving twoCustomers) runtime ⟨id, fun _ => .refl _⟩
    ["1", "2"] ["100", "200"] twoCustomers).1 (by decide) (fun _ _ c _ => served_serving (hfew c)) []
  refine ⟨found, hrun, ?_, ?_⟩
  · rw [hget]
    decide
  · rw [hget]
    decide

/-! ## Answers that are known in advance -/

def knownPage (list : AccountList) : Page := ⟨list.accountList.map (·.map .ok), list.total.map .ok⟩

/-- The answers do not depend on the requests before. -/
def ofAdminApi (api : AdminApi) : Switch where
  accountList c limit offset _ :=
    (api.getAccountList c { limit := some limit, offset := some offset }).map (Option.map knownPage)
  accountInfo id _ := api.getAccountInfo (.byId id)

/-- The rows and the total of an answer are those of the batch. -/
theorem rowsOf_known (reply : Option AccountList) :
    rowsOf (reply.map knownPage) = (reply.elim (.ok []) (·.accountList.rows)).map (·.map .ok) := by
  rcases reply with _ | ⟨_ | _ | _, _⟩ <;> rfl

theorem totalReached_known (seen : Nat) (reply : Option AccountList) :
    totalReached seen (totalOf (reply.map knownPage)) =
      .ok ((reply.bind (·.total.get?)).any fun total => total ≤ (seen : Int)) := by
  rcases reply with _ | ⟨_, _ | _ | _⟩ <;> rfl

theorem readBatch_known {api : AdminApi} {c : Int} {offset : Nat} {reply : Option AccountList}
    (h : api.getAccountList c { limit := some batchLimit, offset := some offset } = .ok reply) :
    readBatch api c offset =
      (reply.elim (.ok []) (·.accountList.rows)).map fun rows => (rows, reply.bind (·.total.get?)) := by
  unfold readBatch
  rw [h]
  rcases reply with _ | ⟨_ | _ | _, _⟩ <;> rfl

theorem readBatches_known (api : AdminApi) (c : Int) (batches offset : Nat) (s : NumberSearch) (log : List Request) :
    Sends.settle Prod.snd (readBatches (ofAdminApi api) c batches offset s log).1 =
      searchCustomer api c batches offset s := by
  induction batches generalizing offset s log with
  | zero => rfl
  | succ batches ih =>
    rw [readBatches, searchCustomer]
    split
    · rfl
    · cases hreply : api.getAccountList c { limit := some batchLimit, offset := some offset } with
      | error e =>
        have hbatch : readBatch api c offset = .error e := by rw [readBatch, hreply]; rfl
        have hanswer : (ofAdminApi api).accountList c batchLimit offset log = .error e := by
          show Except.map _ _ = _
          rw [hreply]
          rfl
        rw [run_bind_error (by rw [run_send, hanswer]; rfl), hbatch]
        rfl
      | ok reply =>
        have hanswer : (ofAdminApi api).accountList c batchLimit offset log = .ok (reply.map knownPage) := by
          show Except.map _ _ = _
          rw [hreply]
          rfl
        rw [run_bind_ok (by rw [run_send, hanswer]; rfl), readBatch_known hreply]
        cases hrows : reply.elim (.ok []) (·.accountList.rows) with
        | error e =>
          rw [run_bind_error (by rw [run_lift, rowsOf_known, hrows]; rfl)]
          rfl
        | ok rows =>
          rw [run_bind_ok (by rw [run_lift, rowsOf_known, hrows]; rfl), run_bind_ok (by rw [run_lift, takeRows_ok]),
            List.length_map]
          show _ =
              if ((rows.foldl takeAccount s).remaining =
              [] || lastBatch offset (rows, reply.bind (·.total.get?))) = true
            then rows.foldl takeAccount s
            else searchCustomer api c batches (offset + batchLimit) (rows.foldl takeAccount s)
          rw [lastBatch, ← Bool.or_assoc]
          by_cases hlast : ((rows.foldl takeAccount s).remaining = [] || decide (rows.length < batchLimit)) = true
          · rw [if_pos hlast, if_pos (Bool.or_eq_true_iff.2 (.inl hlast))]
            rfl
          · rw [if_neg hlast, run_bind_ok (by rw [run_lift, totalReached_known]; rfl),
              Bool.eq_false_iff.2 hlast, Bool.false_or]
            cases (reply.bind (·.total.get?)).any fun total => total ≤ ((offset + rows.length : Nat) : Int) with
            | true => rfl
            | false => exact ih (offset + batchLimit) _ _

theorem askCustomers_known (A : Adapter) (ids : List String) (s : NumberSearch) (log : List Request) :
    (askCustomers (ofAdminApi A.adminApi) A.runtime ids s log).1 = .ok (A.searchCustomers ids s) := by
  induction ids generalizing s log with
  | nil => rfl
  | cons id ids ih =>
    rw [askCustomers, Adapter.searchCustomers, List.foldl_cons, ← Adapter.searchCustomers]
    split
    · rename_i hdone
      rw [Adapter.searchCustomerId, if_pos hdone, A.searchCustomers_eq, foldl_takeAccount_done hdone]
      rfl
    · rename_i hdone
      have hone : (askCustomer (ofAdminApi A.adminApi) A.runtime s id log).1 = .ok (A.searchCustomerId s id) := by
        rw [Adapter.searchCustomerId, if_neg hdone, askCustomer]
        cases A.runtime.int id with
        | none => rfl
        | some c => exact congrArg Except.ok (readBatches_known A.adminApi c maxBatches 0 s log)
      rw [run_bind_ok (Prod.ext hone rfl), ih]

theorem findEach_known (A : Adapter) (numbers : List String) (found : Dict String Account) (log : List Request) :
    (findEach (ofAdminApi A.adminApi) numbers found log).1 =
      .ok (found.update (numbers.filterMap fun number => (A.accountById number).map (number, ·))) := by
  induction numbers generalizing found log with
  | nil => rfl
  | cons number numbers ih =>
    have hone : (Sends.rescue (fun _ => none) (Sends.send (.accountInfo number)
        ((ofAdminApi A.adminApi).accountInfo number)) log : Except Raised _ × List Request).1 =
          .ok (A.accountById number) := by
      unfold Adapter.accountById
      show Except.ok (Sends.settle _ (A.adminApi.getAccountInfo (.byId number))) = _
      cases A.adminApi.getAccountInfo (.byId number) <;> rfl
    rw [findEach, run_bind_ok (Prod.ext hone rfl), ih]
    cases h : A.accountById number with
    | none => rw [List.filterMap_cons_none (by rw [h]; rfl)]; rfl
    | some account => rw [List.filterMap_cons_some (by rw [h]; rfl)]; rfl

/-- **The lookup over answers known in advance is that of `NumberMap`.** -/
theorem getNumberToAccounts_known (A : Adapter) (ids numbers : List String) (log : List Request) :
    (getNumberToAccounts (ofAdminApi A.adminApi) A.runtime A.setOrder ids numbers log).1 =
      .ok (A.numberToAccounts ids numbers) := by
  unfold getNumberToAccounts Adapter.numberToAccounts
  by_cases hnumbers : numbers = []
  · rw [if_pos hnumbers, if_pos hnumbers]
    rfl
  · rw [if_neg hnumbers, if_neg hnumbers]
    split
    · rw [run_bind_ok (Prod.ext (askCustomers_known A ids _ log) rfl)]
      rfl
    · exact findEach_known A _ _ log

end NumberLookup

end PortaPhone.Contacts
