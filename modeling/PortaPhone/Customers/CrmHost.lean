import Mathlib
import PortaPhone.Customers.CustomFields
import PortaPhone.Lib.Machine
import PortaPhone.Lib.StoreOrder
/-!
# The CRM address of a company (`portaswitch/adapter.py`)

| here | there |
| --- | --- |
| `customerCrmHost` | `_customer_crm_host` (`:3048`) |
| `readCrm`         | `_read_crm` (`:3007`) |

The calls come one after another, at any times. A read is the whole of `_customer_crm_host`, with all the requests
that it makes; what it answers is stored when it has ended. `reads` records the reads, and no step reads it.
`crm_host_cache` says of every run how far apart the reads of a customer are, and what a call without a read of its
own returns.
-/

namespace PortaPhone.Customers

open Contacts (Reading strip toInt)
open Machine StoreOrder

def crmHostCacheTtl : Int := 300
def crmHostCacheMax : Nat := 10000
def crmHostRetryAfter : Int := 30
def branchOfficeType : Int := 2

/-! ## One read -/

structure CustomerApi where
  getCustomerCustomFieldsValues : Int → Except ReadError Json
  getCustomerInfo : Int → Except ReadError Json

/-- Whose address a customer without one of its own takes. -/
def mainOffice (customerInfo : Json) : Except Json.Error (Option Json) := do
  let mainOffice ← customerInfo.get "i_main_office"
  let officeType ← customerInfo.get "i_office_type"
  return if officeType.eqInt branchOfficeType && mainOffice.truthy then some mainOffice else none

/-- The requests for the fields and for the customer are sent together. -/
def customerCrmHost (R : Reading) (api : CustomerApi) (iCustomer : Int) (field : String) :
    Except ReadError (Option String) := do
  let values ← api.getCustomerCustomFieldsValues iCustomer
  match ← decode (crmHostValue R values field) with
  | some host => return some host
  | none =>
    let info ← api.getCustomerInfo iCustomer
    let customerInfo ← decode (info.get "customer_info")
    match ← decode (mainOffice (customerInfo.orElse (.object []))) with
    | none => return none
    | some office =>
      let values ← api.getCustomerCustomFieldsValues (← decode (toInt R office))
      decode (crmHostValue R values field)

/-! ## The cache -/

structure Crm where
  host : Option String
deriving DecidableEq, Repr

/-- The readings of the clock in a call: when it looks for an answer, when it looks for a failure, when the read
begins and when its end is stored. -/
structure CrmClock where
  cached : Int
  failed : Int
  started : Int
  stored : Int
  cached_le : cached ≤ failed
  failed_le : failed ≤ started
  started_le : started ≤ stored

/-- `iCustomer` is none where the account has no customer. -/
structure CrmCall where
  iCustomer : Option Int
  clock : CrmClock
  api : CustomerApi
  inTime : Bool

/-- A read with its answer; none if it has failed. -/
structure CrmRead where
  iCustomer : Int
  startedAt : Int
  endedAt : Int
  answer : Option (Option String)
deriving DecidableEq, Repr

structure CrmState where
  cache : Dict Int (Int × Option String) := Dict.empty
  failedAt : Dict Int Int := Dict.empty
  clock : Int
  reads : List CrmRead := []

/-- The read within `CRM_HOST_READ_TIMEOUT`. -/
def CrmCall.read (R : Reading) (field : String) (call : CrmCall) (iCustomer : Int) : Except ReadError (Option String) :=
  if call.inTime then customerCrmHost R call.api iCustomer field else .error .timeout

section Calls

variable (R : Reading) (crmHostCustomField : String)

/-- The host of the answer that is cached. -/
def CrmState.cachedCrm (s : CrmState) (iCustomer : Int) : Option Crm :=
  (s.cache.get? iCustomer).map fun entry => { host := entry.2 }

def CrmState.fresh (s : CrmState) (iCustomer now : Int) : Bool :=
  (s.cache.get? iCustomer).any fun entry => now - entry.1 < crmHostCacheTtl

def CrmState.suppressed (s : CrmState) (iCustomer now : Int) : Bool :=
  (s.failedAt.get? iCustomer).any fun failedAt => now - failedAt < crmHostRetryAfter

/-- A read of the customer has ended. -/
def CrmState.ended (s : CrmState) (iCustomer : Int) (clock : CrmClock) : Option (Option String) → CrmState
  | none => { s with
      reads := s.reads ++ [⟨iCustomer, clock.started, clock.stored, none⟩]
      failedAt := store crmHostCacheMax iCustomer clock.stored s.failedAt }
  | some host => { s with
      reads := s.reads ++ [⟨iCustomer, clock.started, clock.stored, some host⟩]
      failedAt := s.failedAt.erase iCustomer
      cache := store crmHostCacheMax iCustomer (clock.stored, host) s.cache }

def readCrm (s : CrmState) (call : CrmCall) : Option Crm × CrmState :=
  let field := strip crmHostCustomField
  match call.iCustomer with
  | none => (none, s)
  | some iCustomer =>
    if field = "" then (none, s)
    else if s.fresh iCustomer call.clock.cached then (s.cachedCrm iCustomer, s)
    else if s.suppressed iCustomer call.clock.failed then (s.cachedCrm iCustomer, s)
    else match call.read R field iCustomer with
      | .error _ => (s.cachedCrm iCustomer, s.ended iCustomer call.clock none)
      | .ok host => (some ⟨host⟩, s.ended iCustomer call.clock (some host))

/-- The clock does not go back. -/
def crmStep (s : CrmState) (call : CrmCall) : Option CrmState :=
  if s.clock ≤ call.clock.cached then
    some { (readCrm R crmHostCustomField s call).2 with clock := call.clock.stored }
  else none

end Calls

/-! ## What has been read -/

/-- The end and the host of the last successful read of a customer. -/
def lastAnswer (reads : List CrmRead) (iCustomer : Int) : Option (Int × Option String) :=
  (reads.filterMap fun r => if r.iCustomer = iCustomer then r.answer.map (r.endedAt, ·) else none).getLast?

/-- The end of its last failed read. -/
def lastFailure (reads : List CrmRead) (iCustomer : Int) : Option Int :=
  (reads.filterMap fun r => if r.iCustomer = iCustomer ∧ r.answer = none then some r.endedAt else none).getLast?

/-- What holds of every call. `spaced` and `retried` are about a read that the call makes, `fallback` about a call whose
read fails or that makes none, `evicted` about an entry of another customer that is dropped. -/
structure CrmKeeps (R : Reading) (field : String) (s : CrmState) (call : CrmCall) (t : CrmState) : Prop where
  spaced : ∀ r ∈ t.reads.drop s.reads.length, (s.cache.get? r.iCustomer).isSome = true →
    ∀ answer, lastAnswer s.reads r.iCustomer = some answer → crmHostCacheTtl ≤ r.startedAt - answer.1
  retried : ∀ r ∈ t.reads.drop s.reads.length, (s.failedAt.get? r.iCustomer).isSome = true →
    ∀ failedAt, lastFailure s.reads r.iCustomer = some failedAt → crmHostRetryAfter ≤ r.startedAt - failedAt
  fallback : strip field ≠ "" → ∀ iCustomer, call.iCustomer = some iCustomer →
    (∀ r ∈ t.reads.drop s.reads.length, r.answer = none) →
    (readCrm R field s call).1 = if (s.cache.get? iCustomer).isSome then
      (lastAnswer s.reads iCustomer).map fun answer => { host := answer.2 } else none
  bounded : t.cache.size ≤ crmHostCacheMax ∧ t.failedAt.size ≤ crmHostCacheMax
  evictedAnswer : ∀ j entry, call.iCustomer ≠ some j → s.cache.get? j = some entry → t.cache.get? j = none →
    ∀ i kept, t.cache.get? i = some kept → entry.1 ≤ kept.1
  evictedFailure : ∀ j failedAt, call.iCustomer ≠ some j → s.failedAt.get? j = some failedAt →
    t.failedAt.get? j = none → ∀ i kept, t.failedAt.get? i = some kept → failedAt ≤ kept

/-- When a call reads: if no answer is kept that is young enough, and no failure that is. What it reads is returned and
kept, and a failure is kept instead; any other call leaves both records as they are. -/
structure CrmReads (R : Reading) (field : String) (s : CrmState) (call : CrmCall) (t : CrmState) : Prop where
  due : strip field ≠ "" → ∀ iCustomer, call.iCustomer = some iCustomer →
    (∀ entry, s.cache.get? iCustomer = some entry → crmHostCacheTtl ≤ call.clock.cached - entry.1) →
    (∀ failedAt, s.failedAt.get? iCustomer = some failedAt → crmHostRetryAfter ≤ call.clock.failed - failedAt) →
    (∀ host, call.read R (strip field) iCustomer = .ok host →
      (readCrm R field s call).1 = some ⟨host⟩ ∧ t.cache.get? iCustomer = some (call.clock.stored, host) ∧
        t.failedAt.get? iCustomer = none) ∧
    ∀ e, call.read R (strip field) iCustomer = .error e →
      t.cache = s.cache ∧ t.failedAt.get? iCustomer = some call.clock.stored
  silent : t.reads = s.reads → t.cache = s.cache ∧ t.failedAt = s.failedAt

variable {R : Reading} {field : String} {s t : CrmState} {call : CrmCall}

theorem lastAnswer_snoc (reads : List CrmRead) (r : CrmRead) (i : Int) :
    lastAnswer (reads ++ [r]) i =
      if r.iCustomer = i then (r.answer.map (r.endedAt, ·)).orElse fun _ => lastAnswer reads i
        else lastAnswer reads i := by
  rw [lastAnswer, List.filterMap_append]
  by_cases hi : r.iCustomer = i
  · cases hanswer : r.answer with
    | none => simp [hi, hanswer, lastAnswer]
    | some host => simp [hi, hanswer]
  · simp [hi, lastAnswer]

theorem lastFailure_snoc (reads : List CrmRead) (r : CrmRead) (i : Int) :
    lastFailure (reads ++ [r]) i =
      if r.iCustomer = i ∧ r.answer = none then some r.endedAt else lastFailure reads i := by
  rw [lastFailure, List.filterMap_append]
  by_cases h : r.iCustomer = i ∧ r.answer = none
  · simp [h]
  · simp [h, lastFailure]

/-- The records are those of the last reads, oldest first. -/
structure CrmInv (s : CrmState) : Prop where
  answers : ∀ i entry, s.cache.get? i = some entry → lastAnswer s.reads i = some entry
  failures : ∀ i failedAt, s.failedAt.get? i = some failedAt → lastFailure s.reads i = some failedAt
  cacheOrder : InOrder Prod.fst s.cache
  failedOrder : InOrder id s.failedAt
  cacheUpTo : ∀ i entry, s.cache.get? i = some entry → entry.1 ≤ s.clock
  failedUpTo : ∀ i failedAt, s.failedAt.get? i = some failedAt → failedAt ≤ s.clock
  bounded : s.cache.size ≤ crmHostCacheMax ∧ s.failedAt.size ≤ crmHostCacheMax

/-- What a call does: it leaves everything as it is and returns what is cached, or it reads. -/
theorem readCrm_cases (R : Reading) (field : String) (s : CrmState) (call : CrmCall) :
    (∃ crm, readCrm R field s call = (crm, s) ∧
      ∀ i, call.iCustomer = some i → strip field ≠ "" → crm = s.cachedCrm i) ∨
    ∃ i, call.iCustomer = some i ∧ s.fresh i call.clock.cached = false ∧ s.suppressed i call.clock.failed = false ∧
      (readCrm R field s call = (s.cachedCrm i, s.ended i call.clock none) ∨
        ∃ host, readCrm R field s call = (some ⟨host⟩, s.ended i call.clock (some host))) := by
  unfold readCrm
  cases hcustomer : call.iCustomer with
  | none =>
    refine .inl ⟨none, rfl, fun i hi => ?_⟩
    cases hi
  | some i =>
    simp only
    by_cases hfield : strip field = ""
    · exact .inl ⟨none, if_pos hfield, fun _ _ hne => absurd hfield hne⟩
    rw [if_neg hfield]
    by_cases hfresh : s.fresh i call.clock.cached = true
    · exact .inl ⟨_, if_pos hfresh, fun j hj _ => by rw [Option.some.inj hj]⟩
    rw [if_neg hfresh]
    by_cases hsuppressed : s.suppressed i call.clock.failed = true
    · exact .inl ⟨_, if_pos hsuppressed, fun j hj _ => by rw [Option.some.inj hj]⟩
    rw [if_neg hsuppressed]
    refine .inr ⟨i, rfl, Bool.eq_false_iff.2 hfresh, Bool.eq_false_iff.2 hsuppressed, ?_⟩
    cases call.read R (strip field) i with
    | error e => exact .inl rfl
    | ok host => exact .inr ⟨host, rfl⟩

/-- A call that is due reads. -/
theorem readCrm_due {i : Int} (hfield : strip field ≠ "") (hi : call.iCustomer = some i)
    (hstale : s.fresh i call.clock.cached = false) (hagain : s.suppressed i call.clock.failed = false) :
    readCrm R field s call = match call.read R (strip field) i with
      | .error _ => (s.cachedCrm i, s.ended i call.clock none)
      | .ok host => (some ⟨host⟩, s.ended i call.clock (some host)) := by
  unfold readCrm
  rw [hi]
  simp only
  rw [if_neg hfield, if_neg (by rw [hstale]; decide), if_neg (by rw [hagain]; decide)]

/-! ### The records -/

theorem CrmInv.init (start : Int) : CrmInv { clock := start } where
  answers _ _ h := by cases h
  failures _ _ h := by cases h
  cacheOrder := inOrder_empty
  failedOrder := inOrder_empty
  cacheUpTo _ _ h := by cases h
  failedUpTo _ _ h := by cases h
  bounded := ⟨Nat.zero_le _, Nat.zero_le _⟩

/-- Time passes. -/
theorem CrmInv.later {now : Int} (h : CrmInv s) (hle : s.clock ≤ now) : CrmInv { s with clock := now } where
  answers := h.answers
  failures := h.failures
  cacheOrder := h.cacheOrder
  failedOrder := h.failedOrder
  cacheUpTo i entry hentry := Int.le_trans (h.cacheUpTo i entry hentry) hle
  failedUpTo i failedAt hfailed := Int.le_trans (h.failedUpTo i failedAt hfailed) hle
  bounded := h.bounded

theorem crmHostCacheMax_pos : 0 < crmHostCacheMax := by decide

theorem CrmInv.failed {i : Int} {clock : CrmClock} (h : CrmInv s) (hle : s.clock ≤ clock.stored) :
    CrmInv { s.ended i clock none with clock := clock.stored } := by
  have hlast : ∀ j failedAt, s.failedAt.get? j = some failedAt → id failedAt ≤ id clock.stored :=
    fun j failedAt hfailed => Int.le_trans (h.failedUpTo j failedAt hfailed) hle
  constructor
  · intro j entry hentry
    show lastAnswer (s.reads ++ _) j = _
    rw [lastAnswer_snoc]
    simpa using h.answers j entry hentry
  · intro j failedAt hfailed
    show lastFailure (s.reads ++ _) j = _
    rw [lastFailure_snoc]
    by_cases hj : j = i
    · subst hj
      have hget : some clock.stored = some failedAt := (get?_store_self crmHostCacheMax_pos).symm.trans hfailed
      simpa using Option.some.inj hget
    · have hne : ¬ (i = j ∧ (none : Option (Option String)) = none) := fun hij => hj hij.1.symm
      rw [if_neg hne]
      exact h.failures j failedAt (get?_store_of_ne hj hfailed)
  · exact h.cacheOrder
  · exact h.failedOrder.store _ _ hlast
  · exact fun j entry hentry => Int.le_trans (h.cacheUpTo j entry hentry) hle
  · intro j failedAt hfailed
    by_cases hj : j = i
    · subst hj
      have hget : some clock.stored = some failedAt := (get?_store_self crmHostCacheMax_pos).symm.trans hfailed
      exact Int.le_of_eq (Option.some.inj hget).symm
    · exact hlast j failedAt (get?_store_of_ne hj hfailed)
  · exact ⟨h.bounded.1, size_store _ _ _ _⟩

theorem CrmInv.answered {i : Int} {clock : CrmClock} {host : Option String} (h : CrmInv s)
    (hle : s.clock ≤ clock.stored) : CrmInv { s.ended i clock (some host) with clock := clock.stored } := by
  have hlast : ∀ j entry, s.cache.get? j = some entry → entry.1 ≤ (clock.stored, host).1 :=
    fun j entry hentry => Int.le_trans (h.cacheUpTo j entry hentry) hle
  have herase : ∀ j failedAt, (s.failedAt.erase i).get? j = some failedAt → j ≠ i ∧
      s.failedAt.get? j = some failedAt := by
    intro j failedAt hfailed
    rw [Dict.get?_erase] at hfailed
    by_cases hj : j = i
    · rw [if_pos hj] at hfailed
      cases hfailed
    · rw [if_neg hj] at hfailed
      exact ⟨hj, hfailed⟩
  constructor
  · intro j entry hentry
    show lastAnswer (s.reads ++ _) j = _
    rw [lastAnswer_snoc]
    by_cases hj : j = i
    · subst hj
      have hget : some (clock.stored, host) = some entry := (get?_store_self crmHostCacheMax_pos).symm.trans hentry
      simpa using Option.some.inj hget
    · rw [if_neg (Ne.symm hj)]
      exact h.answers j entry (get?_store_of_ne hj hentry)
  · intro j failedAt hfailed
    show lastFailure (s.reads ++ _) j = _
    rw [lastFailure_snoc]
    simpa using h.failures j failedAt (herase j failedAt hfailed).2
  · exact h.cacheOrder.store _ _ hlast
  · exact h.failedOrder.erase i
  · intro j entry hentry
    by_cases hj : j = i
    · subst hj
      have hget : some (clock.stored, host) = some entry := (get?_store_self crmHostCacheMax_pos).symm.trans hentry
      rw [← Option.some.inj hget]
    · exact hlast j entry (get?_store_of_ne hj hentry)
  · exact fun j failedAt hfailed => Int.le_trans (h.failedUpTo j failedAt (herase j failedAt hfailed).2) hle
  · refine ⟨size_store _ _ _ _, ?_⟩
    exact Nat.le_trans (List.length_filter_le _ _) h.bounded.2

theorem CrmClock.le_stored (clock : CrmClock) : clock.cached ≤ clock.stored :=
  Int.le_trans clock.cached_le (Int.le_trans clock.failed_le clock.started_le)

theorem CrmInv.step (h : CrmInv s) (hstep : crmStep R field s call = some t) : CrmInv t := by
  unfold crmStep at hstep
  by_cases hclock : s.clock ≤ call.clock.cached
  · rw [if_pos hclock] at hstep
    obtain rfl := Option.some.inj hstep
    have hle := Int.le_trans hclock call.clock.le_stored
    rcases readCrm_cases R field s call with ⟨crm, hsame, -⟩ | ⟨i, -, -, -, hfailed | ⟨host, hanswered⟩⟩
    · rw [hsame]
      exact h.later hle
    · rw [hfailed]
      exact h.failed hle
    · rw [hanswered]
      exact h.answered hle
  · rw [if_neg hclock] at hstep
    cases hstep

/-! ### A call -/

theorem cachedCrm_eq (h : CrmInv s) (i : Int) :
    s.cachedCrm i = if (s.cache.get? i).isSome then (lastAnswer s.reads i).map fun answer =>
      { host := answer.2 } else none := by
  unfold CrmState.cachedCrm
  cases hcached : s.cache.get? i with
  | none => rfl
  | some entry => simp [h.answers i entry hcached]

/-- A call that makes no read. -/
theorem CrmInv.keeps_same (h : CrmInv s) {crm : Option Crm} (hsame : readCrm R field s call = (crm, s))
    (hcrm : ∀ i, call.iCustomer = some i → strip field ≠ "" → crm = s.cachedCrm i) (now : Int) :
    CrmKeeps R field s call { s with clock := now } where
  spaced r hr := by simp at hr
  retried r hr := by simp at hr
  fallback hfield i hi _ := by
    rw [hsame, hcrm i hi hfield]
    exact cachedCrm_eq h i
  bounded := h.bounded
  evictedAnswer j entry _ hold hnew := by
    rw [show s.cache.get? j = none from hnew] at hold
    cases hold
  evictedFailure j failedAt _ hold hnew := by
    rw [show s.failedAt.get? j = none from hnew] at hold
    cases hold

theorem mem_drop_snoc {reads : List CrmRead} {r r' : CrmRead} (h : r ∈ (reads ++ [r']).drop reads.length) : r = r' := by
  simpa using h

/-- The last answer that is retained is too old when a read begins. -/
theorem CrmInv.spaced (h : CrmInv s) {i : Int} {clock : CrmClock} (hstale : s.fresh i clock.cached = false)
    (hretained : (s.cache.get? i).isSome = true) {answer : Int × Option String}
    (hanswer : lastAnswer s.reads i = some answer) : crmHostCacheTtl ≤ clock.started - answer.1 := by
  obtain ⟨entry, hentry⟩ := Option.isSome_iff_exists.1 hretained
  obtain rfl := Option.some.inj ((h.answers i entry hentry).symm.trans hanswer)
  have hold : ¬ clock.cached - entry.1 < crmHostCacheTtl := by simpa [CrmState.fresh, hentry] using hstale
  have hcached := clock.cached_le
  have hfailed := clock.failed_le
  omega

theorem CrmInv.retried (h : CrmInv s) {i : Int} {clock : CrmClock} (hagain : s.suppressed i clock.failed = false)
    (hretained : (s.failedAt.get? i).isSome = true) {failedAt : Int}
    (hlast : lastFailure s.reads i = some failedAt) : crmHostRetryAfter ≤ clock.started - failedAt := by
  obtain ⟨stored, hstored⟩ := Option.isSome_iff_exists.1 hretained
  obtain rfl := Option.some.inj ((h.failures i stored hstored).symm.trans hlast)
  have hold : ¬ clock.failed - stored < crmHostRetryAfter := by simpa [CrmState.suppressed, hstored] using hagain
  have hfailed := clock.failed_le
  omega

/-- A call whose read fails. -/
theorem CrmInv.keeps_failed (h : CrmInv s) {i : Int} (hi : call.iCustomer = some i)
    (hstale : s.fresh i call.clock.cached = false) (hagain : s.suppressed i call.clock.failed = false)
    (hfailed : readCrm R field s call = (s.cachedCrm i, s.ended i call.clock none))
    (hle : s.clock ≤ call.clock.stored) :
    CrmKeeps R field s call { s.ended i call.clock none with clock := call.clock.stored } where
  spaced r hr hretained answer hanswer := by
    obtain rfl := mem_drop_snoc hr
    exact h.spaced hstale hretained hanswer
  retried r hr hretained failedAt hlast := by
    obtain rfl := mem_drop_snoc hr
    exact h.retried hagain hretained hlast
  fallback _ j hj _ := by
    obtain rfl := Option.some.inj (hi.symm.trans hj)
    rw [hfailed]
    exact cachedCrm_eq h i
  bounded := (h.failed hle).bounded
  evictedAnswer j entry _ hold hnew := by
    rw [show s.cache.get? j = none from hnew] at hold
    cases hold
  evictedFailure j failedAt hj hold hnew k kept hkept := by
    have hne : j ≠ i := fun hji => hj (hji ▸ hi)
    exact stamp_dropped_le h.failedOrder
      (fun k f hk => Int.le_trans (h.failedUpTo k f hk) hle : ∀ k f, s.failedAt.get? k = some f →
        id f ≤ id call.clock.stored)
      hne hold hnew hkept

/-- A call whose read is answered. -/
theorem CrmInv.keeps_answered (h : CrmInv s) {i : Int} {host : Option String} (hi : call.iCustomer = some i)
    (hstale : s.fresh i call.clock.cached = false) (hagain : s.suppressed i call.clock.failed = false)
    (hle : s.clock ≤ call.clock.stored) :
    CrmKeeps R field s call { s.ended i call.clock (some host) with clock := call.clock.stored } where
  spaced r hr hretained answer hanswer := by
    obtain rfl := mem_drop_snoc hr
    exact h.spaced hstale hretained hanswer
  retried r hr hretained failedAt hlast := by
    obtain rfl := mem_drop_snoc hr
    exact h.retried hagain hretained hlast
  fallback _ _ _ hnone := by
    have hread := hnone ⟨i, call.clock.started, call.clock.stored, some host⟩ (by simp [CrmState.ended])
    cases hread
  bounded := (h.answered hle).bounded
  evictedAnswer j entry hj hold hnew k kept hkept := by
    have hne : j ≠ i := fun hji => hj (hji ▸ hi)
    exact stamp_dropped_le h.cacheOrder (fun k e hk => Int.le_trans (h.cacheUpTo k e hk) hle) hne hold hnew hkept
  evictedFailure j failedAt hj hold hnew := by
    have hne : j ≠ i := fun hji => hj (hji ▸ hi)
    have hkept : (s.failedAt.erase i).get? j = some failedAt := by
      rw [Dict.get?_erase, if_neg hne]
      exact hold
    rw [show (s.failedAt.erase i).get? j = none from hnew] at hkept
    cases hkept

theorem CrmInv.keeps (h : CrmInv s) (hstep : crmStep R field s call = some t) : CrmKeeps R field s call t := by
  unfold crmStep at hstep
  by_cases hclock : s.clock ≤ call.clock.cached
  · rw [if_pos hclock] at hstep
    obtain rfl := Option.some.inj hstep
    have hle := Int.le_trans hclock call.clock.le_stored
    rcases readCrm_cases R field s call with ⟨crm, hsame, hcrm⟩ | ⟨i, hi, hstale, hagain, hfailed | ⟨host, hanswered⟩⟩
    · rw [hsame]
      exact h.keeps_same hsame hcrm _
    · rw [hfailed]
      exact h.keeps_failed hi hstale hagain hfailed hle
    · rw [hanswered]
      exact h.keeps_answered hi hstale hagain hle
  · rw [if_neg hclock] at hstep
    cases hstep

theorem not_fresh {i now : Int} (h : ∀ entry, s.cache.get? i = some entry → crmHostCacheTtl ≤ now - entry.1) :
    s.fresh i now = false := by
  unfold CrmState.fresh
  cases hentry : s.cache.get? i with
  | none => rfl
  | some entry => exact decide_eq_false (Int.not_lt.2 (h entry hentry))

theorem not_suppressed {i now : Int}
    (h : ∀ failedAt, s.failedAt.get? i = some failedAt → crmHostRetryAfter ≤ now - failedAt) :
    s.suppressed i now = false := by
  unfold CrmState.suppressed
  cases hfailed : s.failedAt.get? i with
  | none => rfl
  | some failedAt => exact decide_eq_false (Int.not_lt.2 (h failedAt hfailed))

theorem crmStep_reads (hstep : crmStep R field s call = some t) : CrmReads R field s call t := by
  unfold crmStep at hstep
  by_cases hclock : s.clock ≤ call.clock.cached
  · rw [if_pos hclock] at hstep
    obtain rfl := Option.some.inj hstep
    refine ⟨fun hfield i hi hcached hfailed => ?_, fun hreads => ?_⟩
    · have hdue := readCrm_due (R := R) hfield hi (not_fresh hcached) (not_suppressed hfailed)
      refine ⟨fun host hhost => ?_, fun e he => ?_⟩
      · rw [hhost] at hdue
        rw [hdue]
        refine ⟨rfl, get?_store_self crmHostCacheMax_pos, ?_⟩
        show (s.failedAt.erase i).get? i = none
        rw [Dict.get?_erase, if_pos rfl]
      · rw [he] at hdue
        rw [hdue]
        exact ⟨rfl, get?_store_self crmHostCacheMax_pos⟩
    · have hlength := congrArg List.length hreads
      rcases readCrm_cases R field s call with ⟨crm, hsame, -⟩ | ⟨i, -, -, -, hfailed | ⟨host, hanswered⟩⟩
      · rw [hsame]
        exact ⟨rfl, rfl⟩
      · rw [hfailed] at hlength
        simp [CrmState.ended] at hlength
      · rw [hanswered] at hlength
        simp [CrmState.ended] at hlength
  · rw [if_neg hclock] at hstep
    cases hstep

/-- **The CRM cache.** In every run of calls, over any customers, at any times and with any answers, no customer is
read again too soon while the record of its last read is kept, a call without an answer of its own returns the last
one that is kept, and neither record grows beyond its bound. A call that is due reads, and what it has read is
returned and kept. -/
theorem crm_host_cache (R : Reading) (field : String) (start : Int) (calls : List CrmCall) :
    Along (crmStep R field) (fun s call t => CrmKeeps R field s call t ∧ CrmReads R field s call t) { clock := start }
      calls :=
  along_of_invariant (CrmInv.init start) (fun _ _ _ h hstep => h.step hstep) fun _ _ _ h hstep =>
    ⟨h.keeps hstep, crmStep_reads hstep⟩

/-! ## Calls of one customer -/

/-- Its fields, at a switch that answers. -/
def crmFields : Json :=
  .object [("custom_fields_values", .list [.object [("name", .str "crm"), ("db_value", .str "crm.example.com")]])]

def crmCall (now : Int) (fields : Except ReadError Json) : CrmCall where
  iCustomer := some 7
  clock := ⟨now, now, now, now + 1, le_rfl, le_rfl, by omega⟩
  api := ⟨fun _ => fields, fun _ => .error .switch⟩
  inTime := true

/-- It is read, served from the cache, read again in vain after the TTL, and then not at once. -/
def crmCalls : List CrmCall :=
  [crmCall 0 (.ok crmFields), crmCall 200 (.error .switch), crmCall 301 (.error .switch), crmCall 310 (.ok crmFields)]

def crmReading : Reading := ⟨fun _ => "", Json.asciiDigit, fun _ => .error .value⟩

theorem crm_host_cache_calls :
    (∃ t, exec (crmStep crmReading "crm") { clock := 0 } crmCalls = some t ∧ t.reads.map (·.endedAt) = [1, 302] ∧
      t.cache.get? 7 = some (1, some "crm.example.com") ∧ t.failedAt.get? 7 = some 302 ∧
      (readCrm crmReading "crm" t (crmCall 320 (.ok crmFields))).1 = some ⟨some "crm.example.com"⟩) ∧
    Along (crmStep crmReading "crm")
      (fun s call t => CrmKeeps crmReading "crm" s call t ∧
        CrmReads crmReading "crm" s call t) { clock := 0 } crmCalls :=
  ⟨⟨_, rfl, by decide, by decide, by decide, by decide⟩, crm_host_cache crmReading "crm" 0 crmCalls⟩

end PortaPhone.Customers
