import Mathlib
import PortaPhone.Lib.AsyncLock
import PortaPhone.Contacts.Directory
/-!
# The accounts cache between requests and refreshes

| here | there |
| --- | --- |
| `request`, `readIntoCache`, `holding` | `_get_all_accounts_by_customer` (`adapter.py:3256`), `_read_accounts_into_cache` (`:3287`) |
| `scheduleRefresh`, `forget`           | `_schedule_accounts_refresh` (`:3311`), `_forget_refresh_task` (`:3332`) |
| `store`                               | `_store_accounts` (`:3359`) with the locks that `_evict_accounts_over_limit` (`:3363`) deletes |

An event is what runs between two awaits, or time passing. A call is a request or a background refresh; it waits for the
customer's lock or for a read, and a read takes any number of other events and ends with any answers of the switch.
`reads` and `served` record what has happened, and no step reads them.
-/

namespace PortaPhone.Contacts

open Machine AsyncLock

/-- Where a call is. `fetching` is a read beside the cache, with a filter or with the cache off. -/
inductive CallPc
  | created
  | waiting (lock : Nat)
  | reading (lock : Nat)
  | fetching
  | done
deriving DecidableEq, Repr

structure Call where
  iCustomer : Int
  filter : Option (SearchField × String)
  calledAt : Time
  background : Bool
  pc : CallPc := .created
  cancelled : Bool := false
deriving DecidableEq, Repr

/-- A read of a whole list that has ended well. -/
structure ListRead where
  iCustomer : Int
  filter : Option (SearchField × String)
  api : AdminApi
  endedAt : Time

/-- A list that a request has been given. -/
structure ServedList where
  iCustomer : Int
  filter : Option (SearchField × String)
  calledAt : Time
  servedAt : Time
  accounts : List Account

/-- The tasks are named by their place in `calls`. -/
structure CacheState where
  clock : Time
  cache : AccountsCache := Dict.empty
  locks : Locks Int := {}
  refreshTasks : Dict Int Nat := Dict.empty
  calls : List Call := []
  reads : List ListRead := []
  served : List ServedList := []

inductive CacheEvent
  | elapse (now : Time)
  | call (iCustomer : Int) (filter : Option (SearchField × String))
  | start (i : Nat)
  | resume (i : Nat)
  | cancel (i : Nat)
  /-- The read of a call ends; it has been cancelled if there are no answers. -/
  | ended (i : Nat) (answers : Option AdminApi)
  | forget (i : Nat)

namespace CacheState

def moment (s : CacheState) : Moment := ⟨s.clock, s.cache⟩

def put (s : CacheState) (i : Nat) (call : Call) : CacheState := { s with calls := s.calls.set i call }

/-- A task that is not yet started. -/
def begin (s : CacheState) (iCustomer : Int) (filter : Option (SearchField × String)) (background : Bool) :
    CacheState :=
  { s with calls := s.calls ++ [{ iCustomer, filter, calledAt := s.clock, background }] }

/-- The call returns; what a refresh has read is not given to anybody. -/
def finish (s : CacheState) (i : Nat) (call : Call) (accounts : List Account) : CacheState :=
  { s.put i { call with pc := .done } with
    served := if call.background then s.served
      else s.served ++ [{
        iCustomer :=
          call.iCustomer, filter := call.filter, calledAt := call.calledAt, servedAt := s.clock, accounts }] }

def withLock (s : CacheState) (lock : Nat) (f : Lock → Lock) : CacheState := { s with locks := s.locks.modify lock f }

/-- The customers whose entry would be dropped for the new one. -/
def evicted (s : CacheState) (iCustomer : Int) (accounts : List Account) : List Int :=
  s.cache.keys.filter fun c => ((storeAccounts s.clock iCustomer accounts s.cache).get? c).isNone

def store (s : CacheState) (iCustomer : Int) (accounts : List Account) : CacheState :=
  { s with
    cache := storeAccounts s.clock iCustomer accounts s.cache
    locks := (s.evicted iCustomer accounts).foldl Locks.dropUnlocked s.locks }

/-- `task is not None and not task.done()`. -/
def refreshing (s : CacheState) (iCustomer : Int) : Bool :=
  ((s.refreshTasks.get? iCustomer).bind (s.calls[·]?)).any fun call => call.pc ≠ .done

def scheduleRefresh (s : CacheState) (iCustomer : Int) : CacheState :=
  if s.refreshing iCustomer then s
  else { s.begin iCustomer none true with refreshTasks := s.refreshTasks.set iCustomer s.calls.length }

section

variable (ttl : Nat)

/-- Under the lock, before the read. -/
def holding (s : CacheState) (i : Nat) (call : Call) (lock : Nat) : CacheState :=
  match s.moment.entryWithin (ticks ttl) call.iCustomer with
  | some entry => (s.finish i call entry.accounts).withLock lock Lock.release
  | none => s

def readIntoCache (s : CacheState) (i : Nat) (call : Call) : CacheState :=
  let (lock, locks) := s.locks.lockFor call.iCustomer
  let (got, locks) := locks.acquire lock i
  if got then holding ttl ({ s with locks }.put i { call with pc := .reading lock }) i call lock
  else { s with locks }.put i { call with pc := .waiting lock }

def request (s : CacheState) (iCustomer : Int) (filter : Option (SearchField × String)) : CacheState :=
  let i := s.calls.length
  let call : Call := { iCustomer, filter, calledAt := s.clock, background := false }
  let begun := s.begin iCustomer filter false
  if ttl = 0 || filter.isSome then begun.put i { call with pc := .fetching }
  else
    match s.moment.entryWithin (ticks ttl) iCustomer with
    | some entry => begun.finish i call entry.accounts
    | none =>
      match s.moment.entryWithin (ticks ttl * staleFactor) iCustomer with
      | some entry => (begun.scheduleRefresh iCustomer).finish i call entry.accounts
      | none => begun.readIntoCache ttl i call

end

/-- What the step stores: the list of a read under the lock, if it ends well. -/
def storing (s : CacheState) : CacheEvent → Option (Int × List Account)
  | .ended i (some api) => do
    let call ← s.calls[i]?
    let .reading _ := call.pc | none
    return (call.iCustomer, ← (fetchProjected api call.iCustomer).toOption)
  | _ => none

end CacheState

open CacheState

def cacheStep (ttl : Nat) (s : CacheState) : CacheEvent → Option CacheState
  | .elapse now => if s.clock ≤ now then some { s with clock := now } else none
  | .call iCustomer filter => some (s.request ttl iCustomer filter)
  | .start i => do
    let call ← s.calls[i]?
    guard (call.pc = .created)
    return if call.cancelled then s.put i { call with pc := .done } else s.readIntoCache ttl i call
  | .resume i => do
    let call ← s.calls[i]?
    let .waiting lock := call.pc | none
    match (s.locks.lock lock).stateOf i, call.cancelled with
    | some .woken, false =>
      let s := s.withLock lock fun l => (l.leave i).take
      return (s.put i { call with pc := .reading lock }).holding ttl i call lock
    | some .woken, true | some .cancelled, true =>
      return (s.put i { call with pc := .done }).withLock lock (Lock.giveUp i)
    | _, _ => none
  | .cancel i => do
    let call ← s.calls[i]?
    match call.pc with
    | .created => return s.put i { call with cancelled := true }
    | .waiting lock => return (s.put i { call with cancelled := true }).withLock lock (Lock.cancel i)
    | _ => none
  | .ended i answers => do
    let call ← s.calls[i]?
    match call.pc with
    | .reading lock =>
      match answers.bind fun api => (fetchProjected api call.iCustomer).toOption.map (api, ·) with
      | some (api, accounts) =>
        let read : ListRead := { iCustomer := call.iCustomer, filter := none, api, endedAt := s.clock }
        let s := { s.store call.iCustomer accounts with reads := s.reads ++ [read] }
        return (s.finish i call accounts).withLock lock Lock.release
      | none => return (s.put i { call with pc := .done }).withLock lock Lock.release
    | .fetching =>
      match answers.bind fun api => (fetchAccountsByCustomer api call.iCustomer call.filter).toOption.map (api, ·) with
      | some (api, accounts) =>
        let read : ListRead := { iCustomer := call.iCustomer, filter := call.filter, api, endedAt := s.clock }
        return { s with reads := s.reads ++ [read] }.finish i call accounts
      | none => return s.put i { call with pc := .done }
    | _ => none
  | .forget i => do
    let call ← s.calls[i]?
    guard (call.background ∧ call.pc = .done)
    return if s.refreshTasks.get? call.iCustomer = some i then
      { s with refreshTasks := s.refreshTasks.erase call.iCustomer } else s

/-- The adapter when it starts. -/
def cacheBegun (now : Time) : CacheState := { clock := now }

/-- A switch that lists one account. -/
def quietSwitch : AdminApi where
  getAccountList _ _ := .ok (some ⟨.val [{ iAccount := 7 }], .val 1⟩)
  getAccountInfo _ := .ok none
  getExtensionsList _ _ := .ok []
  getCustomerInfo _ := .ok {}
  getCustomerList _ := .ok .absent

/-! ## What a step can do -/

namespace CacheState

variable {s : CacheState} {i lock : Nat} {call : Call}

theorem put_at (hi : s.calls[i]? = some call) (call' : Call) : (s.put i call').calls[i]? = some call' :=
  List.getElem?_set_self (List.getElem?_eq_some_iff.1 hi).1

theorem begin_at (s : CacheState) (c : Int) (filter : Option (SearchField × String)) (background : Bool) :
    (s.begin c filter background).calls[s.calls.length]? =
      some { iCustomer := c, filter, calledAt := s.clock, background } := by
  simp [begin]

theorem scheduleRefresh_at (hi : s.calls[i]? = some call) (c : Int) : (s.scheduleRefresh c).calls[i]? = some call := by
  unfold scheduleRefresh
  split
  · exact hi
  · show (s.calls ++ [_])[i]? = some call
    rw [List.getElem?_append_left (List.getElem?_eq_some_iff.1 hi).1, hi]

theorem storing_stored {api : AdminApi} {accounts : List Account} (hi : s.calls[i]? = some call)
    (hpc : call.pc = .reading lock) (hread : fetchProjected api call.iCustomer = .ok accounts) :
    s.storing (.ended i (some api)) = some (call.iCustomer, accounts) := by
  simp [storing, hi, hpc, hread, Except.toOption]

@[simp] theorem scheduleRefresh_reads (s : CacheState) (c : Int) : (s.scheduleRefresh c).reads = s.reads := by
  unfold scheduleRefresh
  split <;> rfl

@[simp] theorem scheduleRefresh_clock (s : CacheState) (c : Int) : (s.scheduleRefresh c).clock = s.clock := by
  unfold scheduleRefresh
  split <;> rfl

@[simp] theorem scheduleRefresh_cache (s : CacheState) (c : Int) : (s.scheduleRefresh c).cache = s.cache := by
  unfold scheduleRefresh
  split <;> rfl

end CacheState

section

variable (ttl : Nat)

/-- The state after the read of a call has been stored. -/
def CacheState.stored (s : CacheState) (i : Nat) (call : Call) (lock : Nat) (api : AdminApi) (accounts : List Account) :
    CacheState :=
  let read : ListRead := { iCustomer := call.iCustomer, filter := none, api, endedAt := s.clock }
  let stored := { s.store call.iCustomer accounts with reads := s.reads ++ [read] }
  (stored.finish i call accounts).withLock lock Lock.release

/-- The state after a read beside the cache. -/
def CacheState.answered (s : CacheState) (i : Nat) (call : Call) (api : AdminApi) (accounts : List Account) :
    CacheState :=
  let read : ListRead := { iCustomer := call.iCustomer, filter := call.filter, api, endedAt := s.clock }
  { s with reads := s.reads ++ [read] }.finish i call accounts

/-- The steps, each with what it finds and what it leaves. -/
inductive CacheMove (s : CacheState) : CacheEvent → CacheState → Prop
  | elapse {now : Time} (h : s.clock ≤ now) : CacheMove s (.elapse now) { s with clock := now }
  | call (iCustomer : Int) (filter : Option (SearchField × String)) :
    CacheMove s (.call iCustomer filter) (s.request ttl iCustomer filter)
  | skip {i : Nat} {call : Call} (hi : s.calls[i]? = some call) (hpc : call.pc = .created) :
    CacheMove s (.start i) (s.put i { call with pc := .done })
  | start {i : Nat} {call : Call} (hi : s.calls[i]? = some call) (hpc : call.pc = .created) :
    CacheMove s (.start i) (s.readIntoCache ttl i call)
  | resume {i lock : Nat} {call : Call} (hi : s.calls[i]? = some call) (hpc : call.pc = .waiting lock)
    (hlive : call.cancelled = false) (hwoken : (s.locks.lock lock).stateOf i = some .woken) :
    CacheMove s (.resume i) (CacheState.holding ttl
      ((s.withLock lock fun l => (l.leave i).take).put i { call with pc := .reading lock }) i call lock)
  | giveUp {i lock : Nat} {call : Call} (hi : s.calls[i]? = some call) (hpc : call.pc = .waiting lock) :
    CacheMove s (.resume i) ((s.put i { call with pc := .done }).withLock lock (Lock.giveUp i))
  | cancelStart {i : Nat} {call : Call} (hi : s.calls[i]? = some call) (hpc : call.pc = .created) :
    CacheMove s (.cancel i) (s.put i { call with cancelled := true })
  | cancelWait {i lock : Nat} {call : Call} (hi : s.calls[i]? = some call) (hpc : call.pc = .waiting lock) :
    CacheMove s (.cancel i) ((s.put i { call with cancelled := true }).withLock lock (Lock.cancel i))
  | stored {i lock : Nat} {call : Call} {api : AdminApi} {accounts : List Account} (hi : s.calls[i]? = some call)
    (hpc : call.pc = .reading lock) (hread : fetchProjected api call.iCustomer = .ok accounts) :
    CacheMove s (.ended i (some api)) (s.stored i call lock api accounts)
  | failed {i lock : Nat} {call : Call} {answers : Option AdminApi} (hi : s.calls[i]? = some call)
    (hpc : call.pc = .reading lock) (hnothing : s.storing (.ended i answers) = none) :
    CacheMove s (.ended i answers) ((s.put i { call with pc := .done }).withLock lock Lock.release)
  | answered {i : Nat} {call : Call} {api : AdminApi} {accounts : List Account} (hi : s.calls[i]? = some call)
    (hpc : call.pc = .fetching) (hread : fetchAccountsByCustomer api call.iCustomer call.filter = .ok accounts) :
    CacheMove s (.ended i (some api)) (s.answered i call api accounts)
  | unanswered {i : Nat} {call : Call} {answers : Option AdminApi} (hi : s.calls[i]? = some call)
    (hpc : call.pc = .fetching) : CacheMove s (.ended i answers) (s.put i { call with pc := .done })
  | forget {i : Nat} {call : Call} (hi : s.calls[i]? = some call) (hpc : call.pc = .done)
    (hcurrent : s.refreshTasks.get? call.iCustomer = some i) :
    CacheMove s (.forget i) { s with refreshTasks := s.refreshTasks.erase call.iCustomer }
  | keep (i : Nat) : CacheMove s (.forget i) s

variable {ttl} {s t : CacheState} {e : CacheEvent}

theorem toOption_map_some {φ α β : Type} {x : Except φ α} {b : β} {p : β × α} :
    x.toOption.map (b, ·) = some p ↔ p.1 = b ∧ x = .ok p.2 := by
  obtain ⟨b', a⟩ := p
  cases x with
  | error e => simp [Except.toOption]
  | ok a' => simp [Except.toOption, eq_comm]

theorem CacheState.storing_failed {i lock : Nat} {call : Call} {answers : Option AdminApi}
    (hi : s.calls[i]? = some call)
    (hpc : call.pc = .reading lock)
    (hread : (answers.bind fun api => (fetchProjected api call.iCustomer).toOption.map (api, ·)) = none) :
    s.storing (.ended i answers) = none := by
  cases answers with
  | none => rfl
  | some api =>
    have hnone : (fetchProjected api call.iCustomer).toOption = none := Option.map_eq_none_iff.1 hread
    simp [storing, hi, hpc, hnone]

theorem cacheStep_move (h : cacheStep ttl s e = some t) : CacheMove ttl s e t := by
  cases e with
  | elapse now =>
    simp only [cacheStep] at h
    split at h
    · rename_i hnow
      obtain rfl := Option.some.inj h
      exact .elapse hnow
    · cases h
  | call c filter =>
    obtain rfl := Option.some.inj h
    exact .call c filter
  | start i =>
    simp only [cacheStep, Option.bind_eq_bind, Option.bind_eq_some_iff, Option.guard_eq_some'] at h
    obtain ⟨call, hi, _, hpc, h⟩ := h
    obtain rfl := Option.some.inj h
    split
    · exact .skip hi hpc
    · exact .start hi hpc
  | resume i =>
    simp only [cacheStep, Option.bind_eq_bind, Option.bind_eq_some_iff] at h
    obtain ⟨call, hi, h⟩ := h
    split at h
    · rename_i lock hpc
      split at h
      · rename_i hwoken hlive
        obtain rfl := Option.some.inj h
        exact .resume hi hpc hlive hwoken
      · obtain rfl := Option.some.inj h
        exact .giveUp hi hpc
      · obtain rfl := Option.some.inj h
        exact .giveUp hi hpc
      · cases h
    · cases h
  | cancel i =>
    simp only [cacheStep, Option.bind_eq_bind, Option.bind_eq_some_iff] at h
    obtain ⟨call, hi, h⟩ := h
    split at h
    · rename_i hpc
      obtain rfl := Option.some.inj h
      exact .cancelStart hi hpc
    · rename_i lock hpc
      obtain rfl := Option.some.inj h
      exact .cancelWait hi hpc
    · cases h
  | ended i answers =>
    simp only [cacheStep, Option.bind_eq_bind, Option.bind_eq_some_iff] at h
    obtain ⟨call, hi, h⟩ := h
    split at h
    · rename_i lock hpc
      split at h
      · rename_i api accounts hread
        obtain ⟨api', rfl, hread⟩ := Option.bind_eq_some_iff.1 hread
        obtain ⟨rfl, hread⟩ := toOption_map_some.1 hread
        obtain rfl := Option.some.inj h
        exact .stored hi hpc hread
      · rename_i hread
        obtain rfl := Option.some.inj h
        exact .failed hi hpc (storing_failed hi hpc hread)
    · rename_i hpc
      split at h
      · rename_i api accounts hread
        obtain ⟨api', rfl, hread⟩ := Option.bind_eq_some_iff.1 hread
        obtain ⟨rfl, hread⟩ := toOption_map_some.1 hread
        obtain rfl := Option.some.inj h
        exact .answered hi hpc hread
      · obtain rfl := Option.some.inj h
        exact .unanswered hi hpc
    · cases h
  | forget i =>
    simp only [cacheStep, Option.bind_eq_bind, Option.bind_eq_some_iff, Option.guard_eq_some'] at h
    obtain ⟨call, hi, _, ⟨_, hpc⟩, h⟩ := h
    obtain rfl := Option.some.inj h
    split
    · rename_i hcurrent
      exact .forget hi hpc hcurrent
    · exact .keep i

end

end PortaPhone.Contacts
