import Mathlib
import PortaPhone.Lib.Dict
import PortaPhone.Contacts.Account
/-!
# The accounts of a customer: the switch and the accounts cache

| here | there |
| --- | --- |
| `AdminApi`                | the answers of `api/admin.py`; its requests may fail or answer anything |
| `getOfficeCustomerIds`    | `_get_office_customer_ids` (`adapter.py:3191`), `_get_all_office_customers_for_main` (`:3232`) |
| `fetchAccountsByCustomer` | `_fetch_accounts_by_customer` (`:3398`) |
| `AccountsCache`, `storeAccounts`, `evictOverLimit` | `_accounts_cache`, `_store_accounts`, `_evict_accounts_over_limit` (`:3356`, `:3360`) |
| `getAllAccountsByCustomer`, `readAccountsIntoCache` | the methods of these names (`:3256`, `:3288`) |

A read of the cache and the store after a fetch are each one step of the event loop. A request sees
the cache when it asks for a list and again when it holds the customer's lock, so both moments are arguments.
-/

namespace PortaPhone.Contacts

/-! ## The switch -/

/-- The fields `get_account_list` is searched by. -/
inductive SearchField
  | id
  | firstname
  | lastname
  | extensionName
  | email
deriving DecidableEq, Repr

structure ListQuery where
  filter : Option (SearchField × String) := none
  limit : Option Nat := none
  offset : Option Nat := none
deriving DecidableEq, Repr

structure AccountList where
  accountList : Attr (List Account) := .absent
  total : Attr Int := .absent
deriving DecidableEq, Repr

inductive InfoQuery
  | byIAccount (iAccount : Int)
  | byId (id : String)
deriving DecidableEq, Repr

structure Extension where
  id : Attr String := .absent
  iAccount : Attr Int := .absent
deriving DecidableEq, Repr

structure CustomerInfo where
  iOfficeType : Attr Int := .absent
  iMainOffice : Attr Int := .absent
deriving DecidableEq, Repr

/-- The switch as the adapter sees it. `getAccountList` gives `none` where the answer is not a dict,
`getAccountInfo` where it has no `account_info`; a customer is listed by its `i_customer`. -/
structure AdminApi where
  getAccountList : Int → ListQuery → Except Raised (Option AccountList)
  getAccountInfo : InfoQuery → Except Raised (Option Account)
  getExtensionsList : Int → Bool → Except Raised (List Extension)
  getCustomerInfo : Int → Except Raised CustomerInfo
  getCustomerList : Int → Except Raised (Attr (List (Attr Int)))

/-! ## Offices -/

def getAllOfficeCustomersForMain (api : AdminApi) (main : Int) : Int × List Int :=
  match api.getCustomerList main >>= Attr.rows with
  | .ok branches => (main, main :: branches.filterMap Attr.number?)
  | .error _ => (main, [main])

/-- The main office and all offices of its hierarchy; a customer outside one is its own. -/
def getOfficeCustomerIds (api : AdminApi) (iCustomer : Int) : Int × List Int :=
  match api.getCustomerInfo iCustomer with
  | .error _ => (iCustomer, [iCustomer])
  | .ok info =>
    match info.iOfficeType.get?, info.iMainOffice.number? with
    | some 2, some main => getAllOfficeCustomersForMain api main
    | some 3, _ => getAllOfficeCustomersForMain api iCustomer
    | _, _ => (iCustomer, [iCustomer])

/-! ## Reading a customer's accounts -/

def keyed (accounts : List Account) : List (Int × Account) := accounts.map fun a => (a.iAccount, a)

/-- One request to the switch; a list that is null is iterated over. -/
def fetchPage (api : AdminApi) (iCustomer : Int) (query : ListQuery) : Except Raised (List Account × Option Int) := do
  match ← api.getAccountList iCustomer query with
  | none => return ([], none)
  | some reply => return (← reply.accountList.rows, reply.total.number?)

/-- The rows of one chunk of `fetchAccountsByCustomer`. -/
def chunkLimit : Nat := 1000

/-- `range(limit, total, limit)`. -/
def remainingOffsets (total : Int) : List Nat :=
  (List.range ((total.toNat - 1) / chunkLimit)).map fun i => chunkLimit * (i + 1)

def fetchAccountsByCustomer (api : AdminApi) (iCustomer : Int) (filter : Option (SearchField × String) := none) :
    Except Raised (List Account) := do
  let query : ListQuery := { filter, limit := some chunkLimit }
  let (firstPage, total) ← fetchPage api iCustomer { query with offset := some 0 }
  match total with
  | none => return firstPage
  | some total =>
    if firstPage.length < chunkLimit || total ≤ firstPage.length then
      return firstPage
    let pages ← (remainingOffsets total).mapM fun o => fetchPage api iCustomer { query with offset := some o }
    return (Dict.empty.update (keyed (firstPage ++ pages.flatMap Prod.fst))).values

/-! ## The accounts cache -/

/-- Microseconds of the monotonic clock. -/
abbrev Time := Int

structure CacheEntry where
  storedAt : Time
  accounts : List Account
deriving DecidableEq, Repr

abbrev AccountsCache := Dict Int CacheEntry

/-- `ACCOUNTS_CACHE_STALE_FACTOR`. -/
def staleFactor : Int := 10

/-- `ACCOUNTS_CACHE_MAX_ROWS`. -/
def cacheMaxRows : Nat := 100000

def cachedRows (cache : AccountsCache) : Nat := (cache.values.map (·.accounts.length)).sum

def older (e e' : Int × CacheEntry) : Int × CacheEntry := if e'.2.storedAt < e.2.storedAt then e' else e

/-- The entry stored first among those of the other customers; of two equals the first in the dictionary. -/
def oldestOther (justStored : Int) (cache : AccountsCache) : Option (Int × CacheEntry) :=
  match cache.entries.filter (·.1 ≠ justStored) with
  | [] => none
  | e :: es => some (es.foldl older e)

/-- The loop of `_evict_accounts_over_limit`; it ends with one entry left, so the size is enough fuel. -/
def evictLoop (justStored : Int) : Nat → Nat → AccountsCache → AccountsCache
  | 0, _, cache => cache
  | fuel + 1, total, cache =>
    if total ≤ cacheMaxRows || cache.size ≤ 1 then cache
    else
      match oldestOther justStored cache with
      | none => cache
      | some (oldest, entry) =>
        if entry.accounts.length = 0 then cache
        else evictLoop justStored fuel (total - entry.accounts.length) (cache.erase oldest)

def evictOverLimit (justStored : Int) (cache : AccountsCache) : AccountsCache :=
  evictLoop justStored cache.size (cachedRows cache) cache

def storeAccounts (now : Time) (iCustomer : Int) (accounts : List Account) (cache : AccountsCache) : AccountsCache :=
  evictOverLimit iCustomer (cache.set iCustomer { storedAt := now, accounts })

/-- The clock and the cache at one moment. -/
structure Moment where
  now : Time
  cache : AccountsCache := Dict.empty

/-- The entry of a customer that is younger than `limit`. -/
def Moment.entryWithin (m : Moment) (limit : Int) (iCustomer : Int) : Option CacheEntry :=
  (m.cache.get? iCustomer).filter fun entry => m.now - entry.storedAt < limit

/-- `ttl`, in seconds, on the clock. -/
def ticks (ttl : Nat) : Int := ttl * 1000000

/-- What the cache-filling read fetches. -/
def fetchProjected (api : AdminApi) (iCustomer : Int) : Except Raised (List Account) := do
  return (← fetchAccountsByCustomer api iCustomer).map projectAccount

/-- The read of a caller that has the customer's lock at the moment `m`. -/
def readAccountsIntoCache (api : AdminApi) (ttl : Nat) (m : Moment) (iCustomer : Int) : Except Raised (List Account) :=
  match m.entryWithin (ticks ttl) iCustomer with
  | some entry => .ok entry.accounts
  | none => fetchProjected api iCustomer

/-- The call asks at the moment `asked` and, if it has to wait, has the lock at `locked`. -/
def getAllAccountsByCustomer (api : AdminApi) (ttl : Nat) (asked locked : Moment) (iCustomer : Int) :
    Except Raised (List Account) :=
  if ttl = 0 then fetchAccountsByCustomer api iCustomer
  else
    match asked.entryWithin (ticks ttl * staleFactor) iCustomer with
    | some entry => .ok entry.accounts
    | none => readAccountsIntoCache api ttl locked iCustomer

/-- A cache-filling read that ends at `now`, by a request or by a background refresh. -/
structure Fill where
  iCustomer : Int
  now : Time
  api : AdminApi

/-- A read that fails leaves the cache as it is. -/
def fill (cache : AccountsCache) (f : Fill) : AccountsCache :=
  match fetchProjected f.api f.iCustomer with
  | .ok accounts => storeAccounts f.now f.iCustomer accounts cache
  | .error _ => cache

/-- The cache after the reads that have ended so far, in any order. -/
def cacheAfter (fills : List Fill) : AccountsCache := fills.foldl fill Dict.empty

/-! ## Eviction only drops entries -/

variable {P : Int → CacheEntry → Prop}

theorem evictLoop_all (justStored : Int) {fuel total : Nat} {cache : AccountsCache} (h : cache.All P) :
    (evictLoop justStored fuel total cache).All P := by
  induction fuel generalizing total cache with
  | zero => exact h
  | succ fuel ih =>
    unfold evictLoop
    split
    · exact h
    · split
      · exact h
      · split
        · exact h
        · exact ih (h.erase _)

theorem storeAccounts_all {now : Time} {c : Int} {accounts : List Account} {cache : AccountsCache} (h : cache.All P)
    (hc : P c { storedAt := now, accounts }) : (storeAccounts now c accounts cache).All P :=
  evictLoop_all c (h.set hc)

/-- What holds of every list that is fetched holds of every list in the cache. -/
theorem cacheAfter_all {fills : List Fill} (Q : Int → List Account → Prop)
    (h : ∀ f ∈ fills, ∀ accounts, fetchProjected f.api f.iCustomer = .ok accounts → Q f.iCustomer accounts) :
    (cacheAfter fills).All fun c entry => Q c entry.accounts := by
  suffices hrun : ∀ cache : AccountsCache, (cache.All fun c entry => Q c entry.accounts) →
      (fills.foldl fill cache).All fun c entry => Q c entry.accounts from hrun _ Dict.All.empty
  induction fills with
  | nil => exact fun _ hcache => hcache
  | cons f fills ih =>
    intro cache hcache
    refine ih (fun f hf => h f (List.mem_cons_of_mem _ hf)) _ ?_
    unfold fill
    split
    · rename_i accounts hfetch
      exact storeAccounts_all hcache (h f List.mem_cons_self accounts hfetch)
    · exact hcache

/-! ## The rows of a fetch -/

theorem mem_fetchPage {api : AdminApi} {c : Int} {query : ListQuery} {page : List Account × Option Int}
    (h : fetchPage api c query = .ok page) {a : Account} (ha : a ∈ page.1) :
    ∃ rows total, api.getAccountList c query = .ok (some ⟨.val rows, total⟩) ∧ a ∈ rows := by
  simp only [fetchPage, Fallible.bind_ok] at h
  obtain ⟨reply, hreply, h⟩ := h
  match reply with
  | none =>
    obtain rfl := Fallible.pure_ok.1 h
    simp at ha
  | some ⟨rows, total⟩ =>
    simp only [Fallible.bind_ok, Fallible.pure_ok] at h
    obtain ⟨accounts, hrows, rfl⟩ := h
    cases rows with
    | absent =>
      obtain rfl := Except.ok.inj hrows
      simp at ha
    | null => cases hrows
    | val rows =>
      obtain rfl := Except.ok.inj hrows
      exact ⟨rows, total, hreply, ha⟩

theorem mem_values_keyed {accounts : List Account} {a : Account}
    (ha : a ∈ (Dict.empty.update (keyed accounts)).values) : a ∈ accounts := by
  have hall : (Dict.empty.update (keyed accounts)).All fun _ a => a ∈ accounts := by
    refine Dict.All.empty.update fun e he => ?_
    obtain ⟨b, hb, rfl⟩ := List.mem_map.1 he
    exact hb
  obtain ⟨_, h⟩ := hall.mem_values ha
  exact h

/-- Every account of a fetch is a row of the answer to one of its requests. -/
theorem mem_fetchAccountsByCustomer {api : AdminApi} {c : Int} {filter : Option (SearchField × String)}
    {accounts : List Account} (h : fetchAccountsByCustomer api c filter = .ok accounts)
    {a : Account} (ha : a ∈ accounts) :
    ∃ query rows total, api.getAccountList c query = .ok (some ⟨.val rows, total⟩) ∧ a ∈ rows := by
  simp only [fetchAccountsByCustomer, Fallible.bind_ok] at h
  obtain ⟨⟨firstPage, total⟩, hfirst, h⟩ := h
  have first : ∀ b ∈ firstPage, ∃ query rows total,
      api.getAccountList c query = .ok (some ⟨.val rows, total⟩) ∧ b ∈ rows :=
    fun b hb => ⟨_, mem_fetchPage hfirst hb⟩
  cases total with
  | none =>
    obtain rfl := Fallible.pure_ok.1 h
    exact first a ha
  | some total =>
    simp only at h
    split at h
    · obtain rfl := Fallible.pure_ok.1 h
      exact first a ha
    · simp only [Fallible.bind_ok, Fallible.pure_ok] at h
      obtain ⟨pages, hpages, rfl⟩ := h
      rcases List.mem_append.1 (mem_values_keyed ha) with hfirst | hrest
      · exact first a hfirst
      · obtain ⟨page, hpage, ha⟩ := List.mem_flatMap.1 hrest
        obtain ⟨o, _, hfetch⟩ := Fallible.of_mem_mapM hpages hpage
        exact ⟨_, mem_fetchPage hfetch ha⟩

end PortaPhone.Contacts
