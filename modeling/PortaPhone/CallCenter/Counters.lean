import Mathlib
import PortaPhone.Contacts.Directory
import PortaPhone.Lib.AsyncLock
import PortaPhone.Lib.Json
import PortaPhone.Lib.StoreOrder
/-!
# The counters of waiting callers (`portaswitch/adapter.py`)

| here | there |
| --- | --- |
| `countCallersWaiting`                    | `Serializer.count_callers_waiting` (`serializer.py:268`) |
| `getSipCallsList`, `readCallersWaiting`  | `_get_sip_calls_list` (`:2663`), `_read_callers_waiting` (`:2615`) |
| `storeCallersWaiting`, `countersLock`    | `_store_callers_waiting` (`:2642`), `_counters_lock` (`:2652`) |
| `fetch`, `holding`                       | `_fetch_callers_waiting` (`:2591`) up to its waits |

An event is what runs between two awaits, or time passing. A call waits for the customer's lock or for a read, which
takes any number of other events. `outcomes` records what has been stored, and no step reads it.
-/

namespace PortaPhone.CallCenter

open Contacts (Attr Time ticks)
open Machine AsyncLock StoreOrder

/-! ## One read -/

/-- `huntgroupId` is that of `callee`. -/
structure SipCall where
  state : Attr String := .absent
  queueInfo : Json := .null
  huntgroupId : Attr (Attr String) := .absent

def countCallersWaiting (callsList : List SipCall) : Dict String Nat :=
  callsList.foldl (fun waiting call =>
    if call.state.get? ≠ some "queued" || !call.queueInfo.truthy then waiting
    else
      match call.huntgroupId.get?.bind (·.text?) with
      | some huntgroupId => waiting.set huntgroupId ((waiting.get? huntgroupId).getD 0 + 1)
      | none => waiting) Dict.empty

/-- `raised` is any other exception, a cancellation too. -/
inductive SipError
  | webTrit (faultCode : Option String)
  | raised
deriving DecidableEq, Repr

/-- What the switch answers to the requests of one read. -/
structure SipAnswers where
  callsList : Except SipError (Attr (List SipCall))
  enableApiNotifications : Except SipError Unit
  callsListSubscribed : Except SipError (Attr (List SipCall))

/-- `CALL_CONTROL_NOT_SUBSCRIBED_FAULT`. -/
def notSubscribedFault : String := "Server.CallControl.sip.disabled_api_notifications"

/-- The calls, and whether the subscription has been created for them. -/
def getSipCallsList (answers : SipAnswers) : Except SipError (List SipCall × Bool) :=
  match answers.callsList with
  | .ok callsList => .ok (callsList.rowsOrEmpty, false)
  | .error error =>
    if error ≠ .webTrit (some notSubscribedFault) then .error error
    else do
      answers.enableApiNotifications
      let callsList ← answers.callsListSubscribed
      return (callsList.rowsOrEmpty, true)

/-- `none` is the answer that nothing is known. -/
def readCallersWaiting (answers : SipAnswers) : Except SipError (Option (Dict String Nat)) :=
  match getSipCallsList answers with
  | .error (.webTrit _) => .ok none
  | .error .raised => .error .raised
  | .ok (_, true) => .ok none
  | .ok (callsList, false) => .ok (some (countCallersWaiting callsList))

/-! ## The cache and the locks -/

structure CountersEntry where
  storedAt : Time
  waiting : Option (Dict String Nat)

/-- `CALL_QUEUE_COUNTERS_TTL`. -/
def countersTtl : Nat := 5

/-- `CALL_QUEUE_COUNTERS_CACHE_MAX`. -/
def countersCacheMax : Nat := 512

def storeCallersWaiting (now : Time) (iCustomer : Int) (waiting : Option (Dict String Nat))
    (cache : Dict Int CountersEntry) : Dict Int CountersEntry :=
  let cache := cache.set iCustomer { storedAt := now, waiting }
  if countersCacheMax < cache.size then dropStalest (·.storedAt) countersCacheMax cache else cache

def countersLock (locks : Locks Int) (iCustomer : Int) : Nat × Locks Int :=
  match locks.lockOf.get? iCustomer with
  | some lock => (lock, locks)
  | none =>
    let (lock, made) := locks.lockFor iCustomer
    if countersCacheMax < made.lockOf.size then
      (lock, (made.lockOf.keys.filter (· ≠ iCustomer)).foldl Locks.dropUnlocked made)
    else (lock, made)

/-! ## Calls -/

/-- A call that has ended in an exception returns nothing. -/
inductive FetchPc
  | begun
  | waiting (lock : Nat)
  | reading (lock : Nat)
  | done (returned : Option (Option (Dict String Nat)))

structure Fetch where
  iCustomer : Int
  pc : FetchPc := .begun
  cancelled : Bool := false

structure Outcome where
  iCustomer : Int
  entry : CountersEntry

/-- The calls are named by their place in `fetches`. -/
structure CountersState where
  clock : Time
  cache : Dict Int CountersEntry := Dict.empty
  locks : Locks Int := {}
  fetches : List Fetch := []
  outcomes : List Outcome := []

inductive CountersEvent
  | elapse (now : Time)
  | fetch (iCustomer : Int)
  | resume (i : Nat)
  | cancel (i : Nat)
  /-- The read of a call ends. -/
  | ended (i : Nat) (answers : SipAnswers)

namespace CountersState

def cached (s : CountersState) (iCustomer : Int) : Option (Option (Dict String Nat)) :=
  ((s.cache.get? iCustomer).filter fun entry => s.clock - entry.storedAt < ticks countersTtl).map (·.waiting)

def put (s : CountersState) (i : Nat) (call : Fetch) : CountersState := { s with fetches := s.fetches.set i call }

def withLock (s : CountersState) (lock : Nat) (f : Lock → Lock) : CountersState :=
  { s with locks := s.locks.modify lock f }

def begin (s : CountersState) (iCustomer : Int) : CountersState := { s with fetches := s.fetches ++ [{ iCustomer }] }

/-- The call leaves the lock and ends. -/
def leave (s : CountersState) (i : Nat) (call : Fetch) (lock : Nat) (returned : Option (Option (Dict String Nat))) :
    CountersState :=
  (s.put i { call with pc := .done returned }).withLock lock Lock.release

/-- Under the lock, before the read. -/
def holding (s : CountersState) (i : Nat) (call : Fetch) (lock : Nat) : CountersState :=
  match s.cached call.iCustomer with
  | some waiting => s.leave i call lock (some waiting)
  | none => s

def acquire (s : CountersState) (i : Nat) (call : Fetch) : CountersState :=
  let (lock, locks) := countersLock s.locks call.iCustomer
  let (got, locks) := locks.acquire lock i
  if got then ({ s with locks }.put i { call with pc := .reading lock }).holding i call lock
  else { s with locks }.put i { call with pc := .waiting lock }

def fetch (s : CountersState) (iCustomer : Int) : CountersState :=
  let i := s.fetches.length
  match s.cached iCustomer with
  | some waiting => (s.begin iCustomer).put i { iCustomer, pc := .done (some waiting) }
  | none => (s.begin iCustomer).acquire i { iCustomer }

def store (s : CountersState) (iCustomer : Int) (waiting : Option (Dict String Nat)) : CountersState :=
  { s with
    cache := storeCallersWaiting s.clock iCustomer waiting s.cache
    outcomes := s.outcomes ++ [{ iCustomer, entry := { storedAt := s.clock, waiting } }] }

end CountersState

open CountersState

def countersStep (s : CountersState) : CountersEvent → Option CountersState
  | .elapse now => if s.clock ≤ now then some { s with clock := now } else none
  | .fetch iCustomer => some (s.fetch iCustomer)
  | .resume i => do
    let call ← s.fetches[i]?
    let .waiting lock := call.pc | none
    match (s.locks.lock lock).stateOf i, call.cancelled with
    | some .woken, false =>
      let s := s.withLock lock fun l => (l.leave i).take
      return (s.put i { call with pc := .reading lock }).holding i call lock
    | some .woken, true | some .cancelled, true =>
      return (s.put i { call with pc := .done none }).withLock lock (Lock.giveUp i)
    | _, _ => none
  | .cancel i => do
    let call ← s.fetches[i]?
    let .waiting lock := call.pc | none
    return (s.put i { call with cancelled := true }).withLock lock (Lock.cancel i)
  | .ended i answers => do
    let call ← s.fetches[i]?
    let .reading lock := call.pc | none
    match readCallersWaiting answers with
    | .ok waiting => return (s.store call.iCustomer waiting).leave i call lock (some waiting)
    | .error _ => return s.leave i call lock none

/-- The adapter when it starts. -/
def countersBegun (now : Time) : CountersState := { clock := now }

/-! ## What a step can do -/

/-- The steps, each with what it finds and what it leaves. -/
inductive CountersMove (s : CountersState) : CountersEvent → CountersState → Prop
  | elapse {now : Time} (h : s.clock ≤ now) : CountersMove s (.elapse now) { s with clock := now }
  | fetch (iCustomer : Int) : CountersMove s (.fetch iCustomer) (s.fetch iCustomer)
  | resume {i lock : Nat} {call : Fetch} (hi : s.fetches[i]? = some call) (hpc : call.pc = .waiting lock)
    (hlive : call.cancelled = false) (hwoken : (s.locks.lock lock).stateOf i = some .woken) :
    CountersMove s (.resume i)
      (((s.withLock lock fun l => (l.leave i).take).put i { call with pc := .reading lock }).holding i call lock)
  | giveUp {i lock : Nat} {call : Fetch} (hi : s.fetches[i]? = some call) (hpc : call.pc = .waiting lock) :
    CountersMove s (.resume i) ((s.put i { call with pc := .done none }).withLock lock (Lock.giveUp i))
  | cancel {i lock : Nat} {call : Fetch} (hi : s.fetches[i]? = some call) (hpc : call.pc = .waiting lock) :
    CountersMove s (.cancel i) ((s.put i { call with cancelled := true }).withLock lock (Lock.cancel i))
  | stored {i lock : Nat} {call : Fetch} {answers : SipAnswers} {waiting : Option (Dict String Nat)}
    (hi : s.fetches[i]? = some call) (hpc : call.pc = .reading lock)
      (hread : readCallersWaiting answers = .ok waiting) :
    CountersMove s (.ended i answers) ((s.store call.iCustomer waiting).leave i call lock (some waiting))
  | failed {i lock : Nat} {call : Fetch} {answers : SipAnswers} {error : SipError} (hi : s.fetches[i]? = some call)
    (hpc : call.pc = .reading lock) (hread : readCallersWaiting answers = .error error) :
    CountersMove s (.ended i answers) (s.leave i call lock none)

variable {s t : CountersState} {e : CountersEvent}

theorem countersStep_move (h : countersStep s e = some t) : CountersMove s e t := by
  cases e with
  | elapse now =>
    simp only [countersStep] at h
    split at h
    · rename_i hnow
      cases h
      exact .elapse hnow
    · cases h
  | fetch iCustomer =>
    cases h
    exact .fetch iCustomer
  | resume i =>
    simp only [countersStep, Option.bind_eq_bind, Option.bind_eq_some_iff] at h
    obtain ⟨call, hi, h⟩ := h
    split at h
    · rename_i lock hpc
      split at h
      · rename_i hwoken hlive
        cases h
        exact .resume hi hpc hlive hwoken
      · cases h
        exact .giveUp hi hpc
      · cases h
        exact .giveUp hi hpc
      · cases h
    · cases h
  | cancel i =>
    simp only [countersStep, Option.bind_eq_bind, Option.bind_eq_some_iff] at h
    obtain ⟨call, hi, h⟩ := h
    split at h
    · rename_i lock hpc
      cases h
      exact .cancel hi hpc
    · cases h
  | ended i answers =>
    simp only [countersStep, Option.bind_eq_bind, Option.bind_eq_some_iff] at h
    obtain ⟨call, hi, h⟩ := h
    split at h
    · rename_i lock hpc
      split at h
      · rename_i waiting hread
        cases h
        exact .stored hi hpc hread
      · rename_i error hread
        cases h
        exact .failed hi hpc hread
    · cases h

end PortaPhone.CallCenter
