import Mathlib
import PortaPhone.Customers.CustomFields
import PortaPhone.Lib.Machine
import PortaPhone.Lib.StoreOrder
import PortaPhone.SignIn.Account
/-!
# Device limits with their caches (`portaswitch/adapter.py`)

| here | there |
| --- | --- |
| `cachedFieldLimits`      | `_cached_field_limits` (`:2979`) |
| `readDeviceLimitsCached` | `_read_device_limits` (`:2905`) |

`SignIn.readDeviceLimits` takes the limits of an account or a customer as given; here they are read from custom fields
and cached (`readDeviceLimitsCached_eq`). The logs of `FieldsCache` are the reads that succeeded, and no step reads
them.
-/

namespace PortaPhone.Customers

open Contacts (Reading)
open Machine StoreOrder
open SignIn (AccountInfo DeviceLimits isBeneficiary limitsAccount masterOf)

abbrev Limits := Option Nat × Option Nat

def deviceLimitsCacheMax : Nat := 10000

/-! ## One cache -/

/-- A read of custom fields that has succeeded. -/
structure FieldsRead (κ : Type) where
  key : κ
  response : Json
  endedAt : Int

structure FieldsCache (κ : Type) where
  cache : Dict κ (Int × Limits) := Dict.empty
  reads : List (FieldsRead κ) := []

/-- The readings of the clock: before the read, and after it. -/
structure FieldsClock where
  found : Int
  stored : Int

section Cache

variable {κ : Type} [DecidableEq κ]

/-- The entry that is young enough. -/
def FieldsCache.fresh (c : FieldsCache κ) (ttl : Nat) (key : κ) (now : Int) : Option (Int × Limits) :=
  if ttl = 0 then none else (c.cache.get? key).filter fun entry => now - entry.1 < ttl

def FieldsCache.answered (c : FieldsCache κ) (ttl : Nat) (key : κ) (now : Int) (response : Json) (limits : Limits) :
    FieldsCache κ where
  cache := if ttl = 0 then c.cache else store deviceLimitsCacheMax key (now, limits) c.cache
  reads := c.reads ++ [⟨key, response, now⟩]

def cachedFieldLimits (R : Reading) (ttl : Nat) (c : FieldsCache κ) (key : κ) (clock : FieldsClock)
    (read : κ → Except ReadError Json) : Except ReadError Limits × FieldsCache κ :=
  match c.fresh ttl key clock.found with
  | some entry => (.ok entry.2, c)
  | none => match read key with
    | .error e => (.error e, c)
    | .ok response => match decode (fieldLimits R response) with
      | .error e => (.error e, c)
      | .ok limits => (.ok limits, c.answered ttl key clock.stored response limits)

end Cache

/-! ## The limits of a sign-in -/

structure FieldsApi where
  admin : SignIn.AdminApi
  getAccountCustomFieldsValues : Int → Except ReadError Json
  getCustomerCustomFieldsValues : Option Int → Except ReadError Json

structure LimitsCall where
  accountInfo : AccountInfo
  api : FieldsApi
  accountClock : FieldsClock
  customerClock : FieldsClock

structure LimitsState where
  accounts : FieldsCache Int := {}
  customers : FieldsCache (Option Int) := {}

/-- A failed read counts as unset fields. -/
def orUnset (read : Except ReadError Limits) : Limits :=
  match read with
  | .ok limits => limits
  | .error _ => (none, none)

section Calls

variable (R : Reading) (settings : SignIn.Settings) (ttl : Nat)

def readAccountFields (s : LimitsState) (call : LimitsCall) (iAccount : Int) :
    Except ReadError Limits × FieldsCache Int :=
  cachedFieldLimits R ttl s.accounts iAccount call.accountClock call.api.getAccountCustomFieldsValues

def readCustomerFields (s : LimitsState) (call : LimitsCall) (iCustomer : Option Int) :
    Except ReadError Limits × FieldsCache (Option Int) :=
  cachedFieldLimits R ttl s.customers iCustomer call.customerClock call.api.getCustomerCustomFieldsValues

def readDeviceLimitsCached (s : LimitsState) (call : LimitsCall) : Except SignIn.Failure DeviceLimits × LimitsState :=
  match limitsAccount call.api.admin call.accountInfo with
  | .error _ =>
    (.ok (SignIn.deviceLimits settings call.accountInfo.iCustomer.get? (none, none) (none, none)), s)
  | .ok (account, iCustomer) =>
    let accountRead := readAccountFields R ttl s call account.iAccount
    let customerRead := readCustomerFields R ttl s call iCustomer
    (.ok (SignIn.deviceLimits settings iCustomer (orUnset accountRead.1) (orUnset customerRead.1)),
      ⟨accountRead.2, customerRead.2⟩)

def limitsStep (s : LimitsState) (call : LimitsCall) : Option LimitsState :=
  some (readDeviceLimitsCached R settings ttl s call).2

end Calls

/-- The admin realm with the limits that the caches give in a call. -/
def LimitsCall.served (R : Reading) (ttl : Nat) (s : LimitsState) (call : LimitsCall) : SignIn.AdminApi :=
  { call.api.admin with
    fieldLimits := fun owner =>
      let read := match owner with
        | .account iAccount => (readAccountFields R ttl s call iAccount).1
        | .customer iCustomer => (readCustomerFields R ttl s call iCustomer).1
      read.mapError fun _ => .raised .valueError }

/-- A failure of the realm is unset fields too. -/
theorem fieldLimitsOrNone_eq {admin : SignIn.AdminApi} {owner : SignIn.FieldOwner} (read : Except ReadError Limits)
    (h : admin.fieldLimits owner = read.mapError fun _ => .raised .valueError) :
    SignIn.fieldLimitsOrNone admin owner = orUnset read := by
  rw [SignIn.fieldLimitsOrNone, h]
  cases read with
  | error e => rfl
  | ok limits => rfl

/-- The limits of a call are those of `SignIn.readDeviceLimits`. -/
theorem readDeviceLimitsCached_eq (R : Reading) (settings : SignIn.Settings) (ttl : Nat) (s : LimitsState)
    (call : LimitsCall) : (readDeviceLimitsCached R settings ttl s call).1 =
      .ok (SignIn.readDeviceLimits settings (call.served R ttl s) call.accountInfo) := by
  have hresolve : limitsAccount (call.served R ttl s) call.accountInfo =
      limitsAccount call.api.admin call.accountInfo := rfl
  rw [readDeviceLimitsCached, SignIn.readDeviceLimits, hresolve]
  cases limitsAccount call.api.admin call.accountInfo with
  | error e => rfl
  | ok resolved =>
    obtain ⟨account, iCustomer⟩ := resolved
    have haccount : SignIn.fieldLimitsOrNone (call.served R ttl s) (.account account.iAccount) =
        orUnset (readAccountFields R ttl s call account.iAccount).1 := fieldLimitsOrNone_eq _ rfl
    have hcustomer : SignIn.fieldLimitsOrNone (call.served R ttl s) (.customer iCustomer) =
        orUnset (readCustomerFields R ttl s call iCustomer).1 := fieldLimitsOrNone_eq _ rfl
    simp only [haccount, hcustomer]

/-! ## Where a limit comes from -/

/-- What a cached read gives: what the switch answers, what it has answered within the TTL, or a failure. Only a read
that has succeeded is kept. -/
inductive Obtained {κ : Type} (R : Reading) (ttl : Nat) (c : FieldsCache κ) (key : κ) (clock : FieldsClock)
    (read : κ → Except ReadError Json) : Except ReadError Limits → FieldsCache κ → Prop
  | answered {response : Json} {limits : Limits} {c' : FieldsCache κ} (hread : read key = .ok response)
      (hlimits : ReadsAs R response limits) (hlogged : c'.reads = c.reads ++ [⟨key, response, clock.stored⟩]) :
      Obtained R ttl c key clock read (.ok limits) c'
  | cached {r : FieldsRead κ} {limits : Limits} (hr : r ∈ c.reads) (hkey : r.key = key)
      (hage : clock.found - r.endedAt < ttl) (hlimits : ReadsAs R r.response limits) :
      Obtained R ttl c key clock read (.ok limits) c
  | failed {e : ReadError} (hread : ∀ response, read key = .ok response → ∀ values,
    customFieldValues response ≠ .ok values) :
      Obtained R ttl c key clock read (.error e) c

/-- The limits of an account or a customer, with their defaults. A zero wins over a default and is no limit. -/
structure LimitOf (value fallback limit : Option Nat) : Prop where
  own : ∀ n, value = some n → limit = if n = 0 then none else some n
  unset : value = none → limit = fallback.filter (· ≠ 0)

structure LimitsAre (settings : SignIn.Settings) (iCustomer : Option Int) (account customer : Limits)
    (limits : DeviceLimits) : Prop where
  customerId : limits.customerId = iCustomer
  accountMaxDevices : LimitOf account.1 settings.defaultAccountMaxDevices limits.accountMaxDevices
  customerMaxDevices : LimitOf customer.1 none limits.customerMaxDevices
  accountMaxDeviceSwitches :
    LimitOf account.2 settings.defaultAccountMaxDeviceSwitches limits.accountMaxDeviceSwitches
  customerMaxDeviceSwitches : LimitOf customer.2 none limits.customerMaxDeviceSwitches

/-- Whose fields count: those of the row itself, or of the master account that an alias refers to. -/
inductive FieldsOf (admin : SignIn.AdminApi) (accountInfo : AccountInfo) : AccountInfo → Option Int → Prop
  | own (hown : isBeneficiary accountInfo = true ∨ accountInfo.iMasterAccount.number? = none) :
      FieldsOf admin accountInfo accountInfo accountInfo.iCustomer.get?
  | master {masterId : Int} {master : AccountInfo} (hbeneficiary : isBeneficiary accountInfo = false)
      (halias : accountInfo.iMasterAccount.number? = some masterId)
      (hmaster : admin.getAccountInfo (.iAccount masterId) = .ok (some master))
      (hcustomer : master.iCustomer ≠ .absent) :
      FieldsOf admin accountInfo master master.iCustomer.get?

/-- Every entry is what a read that has succeeded says. -/
def FromReads {κ : Type} [DecidableEq κ] (R : Reading) (c : FieldsCache κ) : Prop :=
  ∀ k entry, c.cache.get? k = some entry →
    ∃ r ∈ c.reads, r.key = k ∧ r.endedAt = entry.1 ∧ ReadsAs R r.response entry.2

structure LimitsInv (R : Reading) (s : LimitsState) : Prop where
  accounts : FromReads R s.accounts
  customers : FromReads R s.customers

/-- What holds of every call: it returns limits; they come from the two reads, of whose fields count, or, for an alias
whose master account cannot be read, from the defaults alone; they are those that a sign-in takes from what it is
served; and nothing but reads that have succeeded is cached. -/
structure LimitsKeep (R : Reading) (settings : SignIn.Settings) (ttl : Nat) (s : LimitsState) (call : LimitsCall)
    (t : LimitsState) : Prop where
  resolved : ∀ account iCustomer, FieldsOf call.api.admin call.accountInfo account iCustomer →
    ∃ limits accountRead customerRead, (readDeviceLimitsCached R settings ttl s call).1 = .ok limits ∧
      Obtained R ttl s.accounts account.iAccount call.accountClock call.api.getAccountCustomFieldsValues
        accountRead t.accounts ∧
      Obtained R ttl s.customers iCustomer call.customerClock call.api.getCustomerCustomFieldsValues
        customerRead t.customers ∧
      LimitsAre settings iCustomer (orUnset accountRead) (orUnset customerRead) limits
  unresolved : (∀ account iCustomer, ¬ FieldsOf call.api.admin call.accountInfo account iCustomer) →
    t = s ∧ ∃ limits, (readDeviceLimitsCached R settings ttl s call).1 = .ok limits ∧
      LimitsAre settings call.accountInfo.iCustomer.get? (none, none) (none, none) limits
  signIn : (readDeviceLimitsCached R settings ttl s call).1 =
    .ok (SignIn.readDeviceLimits settings (call.served R ttl s) call.accountInfo)
  cached : LimitsInv R t

section Cache

variable {κ : Type} [DecidableEq κ] {R : Reading} {ttl : Nat} {c c' : FieldsCache κ} {key : κ} {clock : FieldsClock}
  {read : κ → Except ReadError Json}

theorem fresh_some {now : Int} {entry : Int × Limits} (h : c.fresh ttl key now = some entry) :
    c.cache.get? key = some entry ∧ now - entry.1 < ttl := by
  unfold FieldsCache.fresh at h
  by_cases hoff : ttl = 0
  · rw [if_pos hoff] at h
    cases h
  · rw [if_neg hoff] at h
    simpa [Option.filter_eq_some_iff] using h

theorem FromReads.answered (h : FromReads R c) {now : Int} {response : Json} {limits : Limits}
    (hlimits : ReadsAs R response limits) : FromReads R (c.answered ttl key now response limits) := by
  have hkeep : ∀ k entry, c.cache.get? k = some entry →
      ∃ r ∈ c.reads ++ [⟨key, response, now⟩], r.key = k ∧ r.endedAt = entry.1 ∧ ReadsAs R r.response entry.2 := by
    intro k entry hentry
    obtain ⟨r, hr, hrest⟩ := h k entry hentry
    exact ⟨r, List.mem_append_left _ hr, hrest⟩
  intro k entry hentry
  unfold FieldsCache.answered at hentry ⊢
  by_cases hoff : ttl = 0
  · simp only [if_pos hoff] at hentry
    exact hkeep k entry hentry
  · simp only [if_neg hoff] at hentry
    by_cases hk : k = key
    · subst hk
      rw [get?_store_self (by decide)] at hentry
      obtain rfl := Option.some.inj hentry
      exact ⟨_, List.mem_append_right _ List.mem_cons_self, rfl, rfl, hlimits⟩
    · exact hkeep k entry (get?_store_of_ne hk hentry)

theorem cachedFieldLimits_spec (h : FromReads R c) :
    Obtained R ttl c key clock read (cachedFieldLimits R ttl c key clock read).1
        (cachedFieldLimits R ttl c key clock read).2 ∧
      FromReads R (cachedFieldLimits R ttl c key clock read).2 := by
  unfold cachedFieldLimits
  cases hfresh : c.fresh ttl key clock.found with
  | some entry =>
    obtain ⟨hentry, hage⟩ := fresh_some hfresh
    obtain ⟨r, hr, hkey, hended, hlimits⟩ := h key entry hentry
    rw [← hended] at hage
    exact ⟨.cached hr hkey hage hlimits, h⟩
  | none =>
    cases hread : read key with
    | error e =>
      refine ⟨.failed fun response hresponse => ?_, h⟩
      rw [hread] at hresponse
      cases hresponse
    | ok response =>
      cases hlimits : fieldLimits R response with
      | error e =>
        simp only [hlimits, decode, Except.mapError]
        refine ⟨.failed fun response' hresponse => ?_, h⟩
        rw [hread] at hresponse
        obtain rfl := Except.ok.inj hresponse
        exact fieldLimits_error hlimits
      | ok limits =>
        simp only [hlimits, decode, Except.mapError]
        exact ⟨.answered hread (fieldLimits_ok hlimits) rfl, h.answered (fieldLimits_ok hlimits)⟩

end Cache

/-! ## Every sign-in -/

section Calls

variable {R : Reading} {settings : SignIn.Settings} {ttl : Nat} {s t : LimitsState} {call : LimitsCall}

/-- `value if value is not None else fallback`, `or None`. -/
theorem limitOf (value fallback : Option Nat) : LimitOf value fallback (SignIn.nonzero (value <|> fallback)) where
  own n hn := by
    subst hn
    by_cases hzero : n = 0
    · simp [SignIn.nonzero, hzero]
    · simp [SignIn.nonzero, hzero]
  unset hnone := by
    subst hnone
    rfl

/-- A limit without a default. -/
theorem limitOf_none (value : Option Nat) : LimitOf value none (SignIn.nonzero value) where
  own n hn := by
    subst hn
    by_cases hzero : n = 0
    · simp [SignIn.nonzero, hzero]
    · simp [SignIn.nonzero, hzero]
  unset hnone := by
    subst hnone
    rfl

theorem limitsAre (settings : SignIn.Settings) (iCustomer : Option Int) (account customer : Limits) :
    LimitsAre settings iCustomer account customer (SignIn.deviceLimits settings iCustomer account customer) where
  customerId := rfl
  accountMaxDevices := limitOf _ _
  customerMaxDevices := limitOf_none _
  accountMaxDeviceSwitches := limitOf _ _
  customerMaxDeviceSwitches := limitOf_none _

/-- Whose fields the code reads. -/
theorem limitsAccount_iff {admin : SignIn.AdminApi} {accountInfo account : AccountInfo} {iCustomer : Option Int} :
    limitsAccount admin accountInfo = .ok (account, iCustomer) ↔ FieldsOf admin accountInfo account iCustomer := by
  unfold limitsAccount masterOf
  by_cases hbeneficiary : isBeneficiary accountInfo = true
  · rw [if_pos hbeneficiary]
    constructor
    · intro h
      cases h
      exact .own (.inl hbeneficiary)
    · rintro (_ | ⟨hnot, -, -, -⟩)
      · rfl
      · rw [hbeneficiary] at hnot
        cases hnot
  rw [if_neg hbeneficiary]
  have hnot : isBeneficiary accountInfo = false := Bool.eq_false_iff.2 hbeneficiary
  cases hmaster : accountInfo.iMasterAccount.number? with
  | none =>
    constructor
    · intro h
      cases h
      exact .own (.inr hmaster)
    · rintro (_ | ⟨-, halias, -, -⟩)
      · rfl
      · rw [hmaster] at halias
        cases halias
  | some masterId =>
    simp only [Fallible.bind_ok]
    constructor
    · rintro ⟨row, hrow, h⟩
      cases row with
      | none => cases h
      | some master =>
        obtain ⟨customer, hcustomer, h⟩ := Fallible.bind_ok.1 h
        cases h
        rw [SignIn.lookup_ok] at hcustomer
        cases hattr : account.iCustomer with
        | absent =>
          rw [hattr] at hcustomer
          cases hcustomer
        | null =>
          rw [hattr] at hcustomer
          cases hcustomer
          have hfields := FieldsOf.master hnot hmaster hrow (by simp [hattr])
          rwa [hattr] at hfields
        | val i =>
          rw [hattr] at hcustomer
          cases hcustomer
          have hfields := FieldsOf.master hnot hmaster hrow (by simp [hattr])
          rwa [hattr] at hfields
    · rintro (hown | ⟨-, halias, hrow, hcustomer⟩)
      · rcases hown with hown | hown
        · exact absurd hown hbeneficiary
        · rw [hmaster] at hown
          cases hown
      · obtain rfl := Option.some.inj (hmaster.symm.trans halias)
        refine ⟨_, hrow, ?_⟩
        cases hattr : account.iCustomer with
        | absent => exact absurd hattr hcustomer
        | null =>
          simp [hattr, SignIn.lookup, Contacts.Attr.index, Contacts.Attr.get?, Except.mapError, bind, Except.bind]
        | val i =>
          simp [hattr, SignIn.lookup, Contacts.Attr.index, Contacts.Attr.get?, Except.mapError, bind, Except.bind]

theorem LimitsInv.init : LimitsInv R {} where
  accounts _ _ h := by cases h
  customers _ _ h := by cases h

theorem LimitsInv.step (h : LimitsInv R s) (hstep : limitsStep R settings ttl s call = some t) : LimitsInv R t := by
  obtain rfl := Option.some.inj hstep
  unfold readDeviceLimitsCached
  split
  · exact h
  · exact ⟨(cachedFieldLimits_spec h.accounts).2, (cachedFieldLimits_spec h.customers).2⟩

theorem LimitsInv.keep (h : LimitsInv R s) (hstep : limitsStep R settings ttl s call = some t) :
    LimitsKeep R settings ttl s call t := by
  have hcached := h.step hstep
  obtain rfl := Option.some.inj hstep
  refine ⟨?_, ?_, readDeviceLimitsCached_eq R settings ttl s call, hcached⟩
  · intro account iCustomer hfields
    have heq := limitsAccount_iff.2 hfields
    simp only [readDeviceLimitsCached, heq]
    exact ⟨_, _, _, rfl, (cachedFieldLimits_spec h.accounts).1,
      (cachedFieldLimits_spec h.customers).1, limitsAre _ _ _ _⟩
  · intro hnone
    cases heq : limitsAccount call.api.admin call.accountInfo with
    | error e =>
      simp only [readDeviceLimitsCached, heq]
      exact ⟨trivial, _, rfl, limitsAre _ _ _ _⟩
    | ok resolved => exact absurd (limitsAccount_iff.1 heq) (hnone _ _)

end Calls

/-- **The device limits.** In every run of sign-ins, with any records, answers and failures, each call returns limits,
from the fields that count and the defaults. -/
theorem device_limits (R : Reading) (settings : SignIn.Settings) (ttl : Nat) (calls : List LimitsCall) :
    Along (limitsStep R settings ttl) (LimitsKeep R settings ttl) {} calls :=
  along_of_invariant LimitsInv.init (fun _ _ _ h hstep => h.step hstep) fun _ _ _ h hstep => h.keep hstep

/-! ## An alias without its master account -/

/-- Nothing can be read. -/
def unreadable : SignIn.AdminApi where
  getAccountInfo := fun _ => .error (.webTrit SignIn.externalApiIssueError)
  findAccountsByEmail := fun _ _ _ => .error (.webTrit SignIn.externalApiIssueError)
  fieldLimits := fun _ => .error (.webTrit SignIn.externalApiIssueError)
  getVersion := .error (.webTrit SignIn.externalApiIssueError)
  updateApiToken := fun _ _ => .error (.webTrit SignIn.externalApiIssueError)
  createOtp := fun _ => .error (.webTrit SignIn.externalApiIssueError)
  envEmail := none
  currentAccessToken := none
  sameChar := fun a c => a = c

/-- The sign-in of an alias of account 3, which belongs to another customer. -/
def aliasCall : LimitsCall where
  accountInfo := { iAccount := 11, iCustomer := .val 7, iMasterAccount := .val 3 }
  api := ⟨unreadable, fun _ => .error .switch, fun _ => .error .switch⟩
  accountClock := ⟨0, 0⟩
  customerClock := ⟨0, 0⟩

/-- The customer of an alias is not that of its master account when that account cannot be read. -/
theorem alias_keeps_own_customer : ¬ ∀ (R : Reading) (settings : SignIn.Settings) (ttl : Nat) (call : LimitsCall)
    (accounts : Int → AccountInfo),
    (∀ i row, call.api.admin.getAccountInfo (.iAccount i) = .ok row → row = some (accounts i)) →
    ∀ masterId, masterOf call.accountInfo = some masterId → ∀ limits,
      (readDeviceLimitsCached R settings ttl {} call).1 = .ok limits →
      limits.customerId = (accounts masterId).iCustomer.get? := by
  intro h
  have hclaimed := h ⟨fun _ => "", Json.asciiDigit, fun _ => .error .value⟩ {} 0 aliasCall
    (fun i => { iAccount := i, iCustomer := .val 8 }) (fun i row hrow => by cases hrow) 3 rfl _ rfl
  cases hclaimed

end PortaPhone.Customers
