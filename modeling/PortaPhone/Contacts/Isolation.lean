import PortaPhone.Contacts.Database
import PortaPhone.Contacts.Lookups
/-!
# A request lists accounts of its tenant

| request | accounts it may list |
| --- | --- |
| v1 list, v2 list, search in the cache | those of the offices' own lists |
| search in the switch | also the accounts of matching extensions and of an alias that is the search |
| number lookup | also the owners of rows, the accounts of extensions and of numbers still unmatched |
| contact by user id | any account |

`Reached` collects the accounts of the lookups that name no customer. `isolated_iff`: a request is isolated,
on every page, exactly when they all belong to the caller's offices. They need not: `other_tenant_listed`.
-/

namespace PortaPhone.Contacts

open Fallible Paging

namespace Adapter

variable {owner : Owners} {A : Adapter} {ctx : Context} {search : String}

/-! ## The directory -/

theorem allAccounts_inside (hA : Deployed owner A) {accounts : List Account} (h : A.allAccounts ctx = .ok accounts)
    {a : Account} (ha : a ∈ accounts) : Inside owner ctx a.iAccount := by
  simp only [allAccounts, bind_ok, pure_ok] at h
  obtain ⟨lists, hlists, rfl⟩ := h
  obtain ⟨list, hlist, ha⟩ := List.mem_flatten.1 (List.mem_mergeSort.1 ha)
  obtain ⟨c, hc, hread⟩ := of_mem_mapM hlists hlist
  exact ⟨c, hc, hA.accountsOf hread ha⟩

/-- A contact has SMS numbers when its account has. -/
theorem contactOf_sms {a : Account} {contact : ContactInfo} (h : A.contactOf ctx a = .ok contact) :
    ∃ numbers, parseSmsNumbers a = .ok numbers ∧ (contact.numbers.sms.getD [] = [] ↔ numbers = []) := by
  simp only [contactOf, getContactInfoByAccount, bind_ok, pure_ok] at h
  obtain ⟨_, _, _, _, _, _, numbers, hnumbers, _, _, _, _, sms, hsms, _, _, _, _, rfl⟩ := h
  refine ⟨numbers, hnumbers, ?_⟩
  have hlength := (mapM_ok.1 hsms).length_eq
  show sms = [] ↔ numbers = []
  rw [← List.length_eq_zero_iff, ← List.length_eq_zero_iff, hlength]

theorem usable_iff {extensions : List Int} {sms : Bool} {a : Account} {contact : ContactInfo}
    (h : A.contactOf ctx a = .ok contact) :
    A.usable ctx extensions sms a = .ok true ↔
      A.passesFilter ctx extensions a = true ∧ contact ∈ smsOnly sms [contact] := by
  obtain ⟨numbers, hnumbers, hempty⟩ := contactOf_sms h
  unfold usable
  cases hp : A.passesFilter ctx extensions a with
  | false => simp [pure_ok]
  | true =>
    cases sms with
    | false => simp [pure_ok, smsOnly]
    | true => simp [hnumbers, smsOnly, hempty]

theorem mem_smsOnly {sms : Bool} {items : List ContactInfo} {contact : ContactInfo} :
    contact ∈ smsOnly sms items ↔ contact ∈ items ∧ contact ∈ smsOnly sms [contact] := by
  unfold smsOnly
  split <;> simp

variable {search? : Option String} {sms : Bool} {page n : Nat}

theorem directory_ok {result : List ContactInfo × Int} (h : A.directory ctx search? sms page n = .ok result) :
    ∃ extensions listing contacts custom, A.extensionIAccounts ctx = .ok extensions ∧
      A.listAccounts ctx search? extensions sms page n = .ok listing ∧
      (listing.accounts.filter (A.passesFilter ctx extensions)).mapM (A.contactOf ctx) = .ok contacts ∧
      (∀ owner, Isolated owner ctx custom) ∧ result.1 = smsOnly sms (contacts ++ custom) := by
  simp only [directory, bind_ok, pure_ok] at h
  obtain ⟨custom, hcustom, extensions, hext, listing, hlisting, contacts, hcontacts, rfl⟩ := h
  refine ⟨extensions, listing, contacts, _, hext, hlisting, hcontacts, fun owner => ?_, rfl⟩
  apply (isolated_customContacts hcustom).mono
  intro contact hmem
  split at hmem
  · exact hmem
  · exact List.mem_of_mem_filter hmem

/-- All contacts of a listing are isolated when the accounts that it shows belong to the offices. -/
theorem directory_isolated_iff {result : List ContactInfo × Int}
    (h : A.directory ctx search? sms page n = .ok result) {extensions : List Int} {listing : Listing}
    (hext : A.extensionIAccounts ctx = .ok extensions)
    (hlisting : A.listAccounts ctx search? extensions sms page n = .ok listing) :
    Isolated owner ctx result.1 ↔
      ∀ a ∈ listing.accounts, A.usable ctx extensions sms a = .ok true → Inside owner ctx a.iAccount := by
  obtain ⟨extensions', listing', contacts, custom, hext', hlisting', hcontacts, hcustom, hresult⟩ := directory_ok h
  obtain rfl := Except.ok.inj (hext.symm.trans hext')
  obtain rfl := Except.ok.inj (hlisting.symm.trans hlisting')
  rw [hresult]
  constructor
  · intro hiso a ha husable
    have hpasses : A.passesFilter ctx extensions a = true := by
      by_contra hfalse
      simp [usable, hfalse, pure_ok] at husable
    obtain ⟨contact, hmem, hcontact⟩ := mem_of_mapM hcontacts (List.mem_filter.2 ⟨ha, hpasses⟩)
    refine hiso.inside (mem_smsOnly.2 ⟨List.mem_append_left _ hmem, ?_⟩) hcontact
    exact ((usable_iff hcontact).1 husable).2
  · intro hinside contact hmem i hi
    obtain ⟨hmem, hshown⟩ := mem_smsOnly.1 hmem
    rcases List.mem_append.1 hmem with hmem | hmem
    · obtain ⟨a, ha, hcontact⟩ := of_mem_mapM hcontacts hmem
      obtain ⟨ha, hpasses⟩ := List.mem_filter.1 ha
      rw [(userId_iff hcontact).1 hi]
      exact hinside a ha ((usable_iff hcontact).2 ⟨hpasses, hshown⟩)
    · exact hcustom owner contact hmem i hi

/-- With 1000 items a page, the largest page a client may ask for, every page is cut from the same list. -/
theorem directory_page (h : 1 ≤ page) :
    A.directory ctx search? sms page maxApiLimit = A.directory ctx search? sms 1 maxApiLimit := by
  have hlimit : min (page * maxApiLimit + filterBuffer) maxApiLimit = maxApiLimit := by
    have : 1 * maxApiLimit ≤ page * maxApiLimit := Nat.mul_le_mul_right _ h
    omega
  have hfields : ∀ search extensions, A.searchFields ctx search extensions sms page maxApiLimit =
      A.searchFields ctx search extensions sms 1 maxApiLimit := by
    intro search extensions
    simp [searchFields, hlimit]
  simp only [directory, listAccounts, searchSwitch, hfields]

/-! ## Requests -/

/-- The contacts requests of a client, but for the page. -/
inductive Request
  | contacts
  | contactsV2 (search : Option String) (phoneNumbers : List String) (smsCapable : Bool)
  | contactByUserId (userId : String)
deriving DecidableEq, Repr

/-- The contacts in the answer to the session of the account `user`. -/
def answer (A : Adapter) (user : String) (page itemsPerPage : Nat) : Request → Except Raised (List ContactInfo)
  | .contacts => A.retrieveContacts
  | .contactsV2 search phoneNumbers smsCapable =>
    Prod.fst <$> A.retrieveContactsV2 search phoneNumbers page itemsPerPage smsCapable
  | .contactByUserId userId => (fun contact => [contact]) <$> A.retrieveContactByUserId user userId

/-- The account is where a lookup of the request that names no customer leads. -/
inductive Reached (A : Adapter) (ctx : Context) : Request → Account → Prop
  /-- The account that `int(user_id)` names. -/
  | user {userId iAccount a} : A.runtime.int userId = some iAccount →
      A.adminApi.getAccountInfo (.byIAccount iAccount) = .ok (some a) → Reached A ctx (.contactByUserId userId) a
  /-- The owner of a row of the offices that has a requested number as its id. -/
  | master {search numbers sms number c row} : number ∈ normalize numbers → c ∈ ctx.allICustomers →
      row ∈ A.rowsById number c → Reached A ctx (.contactsV2 search numbers sms) (A.resolveMaster row)
  /-- The account of an extension that has a requested number. -/
  | extension {search numbers sms number iAccount a} : number ∈ normalize numbers →
      (A.extNumberToIAccount ctx).get? number = some iAccount → A.fetchAccount iAccount = some a →
        Reached A ctx (.contactsV2 search numbers sms) a
  /-- The account that a requested number names which no account found so far has. -/
  | unmatched {search numbers sms rest number a} : A.remaining ctx (normalize numbers) = .ok rest → number ∈ rest →
      A.lookupAlias number = some a → Reached A ctx (.contactsV2 search numbers sms) a
  /-- An account a search finds by extension or alias and does not filter out. -/
  | stray {search needle numbers sms extensions a} : normalize numbers = [] →
      search.filter (· ≠ "") = some needle → (sms && decide (0 < A.settings.contactsCacheTtl)) = false →
        A.extensionIAccounts ctx = .ok extensions → a ∈ (strays A ctx needle).values →
          A.usable ctx extensions sms a = .ok true → Reached A ctx (.contactsV2 search numbers sms) a

/-- No lookup of the request leads to another tenant. -/
def StaysInside (owner : Owners) (A : Adapter) (ctx : Context) (req : Request) : Prop :=
  ∀ a, Reached A ctx req a → Inside owner ctx a.iAccount

theorem translateExpired_ok {α : Type} {x : Except Raised α} {a : α} : translateExpired x = .ok a ↔ x = .ok a := by
  unfold translateExpired
  split
  · simp
  · rfl

theorem map_ok {α β : Type} {f : α → β} {x : Except Raised α} {b : β} : f <$> x = .ok b ↔ ∃ a, x = .ok a ∧ f a = b := by
  cases x with
  | error e => simp [Functor.map, Except.map]
  | ok a => simp [Functor.map, Except.map]

variable {caller : Caller} {user : String} {contacts : List ContactInfo} {numbers : List String}

/-! ### The first version -/

theorem retrieveContacts_isolated (hA : Deployed owner A) (hcaller : A.accountInfo = .ok caller)
    (h : A.retrieveContacts = .ok contacts) : Isolated owner (A.context caller) contacts := by
  simp only [retrieveContacts, translateExpired_ok, hcaller, bind_ok, pure_ok, Except.ok.injEq] at h
  obtain ⟨_, rfl, lists, hlists, extensions, _, listed, hlisted, custom, hcustom, rfl⟩ := h
  refine (isolated_mapM hlisted fun a ha _ _ _ => ?_).append (isolated_customContacts hcustom)
  obtain ⟨list, hlist, ha⟩ := List.mem_flatten.1 (List.mem_of_mem_filter ha)
  obtain ⟨c, hc, hread⟩ := of_mem_mapM hlists hlist
  exact ⟨c, hc, hA.accountsOf hread ha⟩

/-! ### The lookup of numbers -/

theorem numbersInside_iff (hne : normalize numbers ≠ []) :
    NumbersInside owner A ctx (normalize numbers) ↔ StaysInside owner A ctx (.contactsV2 search? numbers sms) := by
  constructor
  · intro h a ha
    cases ha with
    | master hn hc hrow => exact (h.finds _ hn).master _ hc _ hrow
    | extension hn hi ha => exact (h.finds _ hn).extension _ hi _ ha
    | unmatched hrest hn ha => exact h.aliases _ hrest _ hn _ ha
    | stray hempty => exact absurd hempty hne
  · intro h
    refine ⟨fun number hn => ⟨?_, ?_⟩, ?_⟩
    · exact fun c hc row hrow => h _ (.master hn hc hrow)
    · exact fun i hi a ha => h _ (.extension hn hi ha)
    · exact fun rest hrest number hn a ha => h _ (.unmatched hrest hn ha)

theorem answer_lookup (hcaller : A.accountInfo = .ok caller) (hne : normalize numbers ≠ []) :
    answer A user page n (.contactsV2 search? numbers sms) = .ok contacts ↔
      ∃ all, A.lookupContacts (A.context caller) (normalize numbers) = .ok all ∧ pageOf page n all = contacts := by
  simp only [answer, map_ok, retrieveContactsV2, translateExpired_ok, hcaller, bind_ok, Except.ok.injEq]
  constructor
  · rintro ⟨_, ⟨_, rfl, h⟩, rfl⟩
    rw [if_pos hne] at h
    simp only [bind_ok, pure_ok] at h
    obtain ⟨all, hall, rfl⟩ := h
    exact ⟨all, hall, rfl⟩
  · rintro ⟨all, hall, rfl⟩
    refine ⟨(pageOf page n all, all.length), ⟨_, rfl, ?_⟩, rfl⟩
    rw [if_pos hne]
    simp only [bind_ok, pure_ok]
    exact ⟨all, hall, rfl⟩

/-! ### The directory -/

/-- A request without numbers is answered with a page of its directory. -/
theorem retrieveContactsV2_directory (hcaller : A.accountInfo = .ok caller) (hempty : normalize numbers = [])
    {result : List ContactInfo × Int} :
    A.retrieveContactsV2 search? numbers page n sms = .ok result ↔
      ∃ all, A.directory (A.context caller) search? sms page n = .ok all ∧ (pageOf page n all.1, all.2) = result := by
  simp only [retrieveContactsV2, translateExpired_ok, hcaller, bind_ok, Except.ok.injEq]
  constructor
  · rintro ⟨_, rfl, h⟩
    rw [if_neg (by simpa using hempty)] at h
    simp only [bind_ok, pure_ok] at h
    exact h
  · rintro ⟨all, hall, hpage⟩
    refine ⟨_, rfl, ?_⟩
    rw [if_neg (by simpa using hempty)]
    simp only [bind_ok, pure_ok]
    exact ⟨all, hall, hpage⟩

theorem answer_directory (hcaller : A.accountInfo = .ok caller) (hempty : normalize numbers = []) :
    answer A user page n (.contactsV2 search? numbers sms) = .ok contacts ↔
      ∃ result, A.directory (A.context caller) search? sms page n = .ok result ∧ pageOf page n result.1 = contacts := by
  simp only [answer, map_ok, retrieveContactsV2_directory hcaller hempty]
  constructor
  · rintro ⟨_, ⟨result, hresult, rfl⟩, hpage⟩
    exact ⟨result, hresult, hpage⟩
  · rintro ⟨result, hresult, hpage⟩
    exact ⟨_, ⟨result, hresult, rfl⟩, hpage⟩

/-- Only a search in the switch reaches accounts by itself. -/
theorem staysInside_search_iff (hempty : normalize numbers = []) {extensions : List Int}
    (hext : A.extensionIAccounts ctx = .ok extensions) :
    StaysInside owner A ctx (.contactsV2 search? numbers sms) ↔
      ∀ needle, search?.filter (· ≠ "") = some needle → (sms && decide (0 < A.settings.contactsCacheTtl)) = false →
        ∀ a ∈ (strays A ctx needle).values, A.usable ctx extensions sms a = .ok true → Inside owner ctx a.iAccount := by
  constructor
  · exact fun h needle hneedle hcache a ha husable => h a (.stray hempty hneedle hcache hext ha husable)
  · intro h a ha
    have hno : ∀ number, number ∉ normalize numbers := by simp [hempty]
    cases ha with
    | master hn => exact absurd hn (hno _)
    | extension hn => exact absurd hn (hno _)
    | unmatched hrest hn =>
      simp only [remaining, bind_ok, pure_ok, hempty] at hrest
      obtain ⟨_, _, rfl⟩ := hrest
      simp at hn
    | stray _ hneedle hcache hext' ha husable =>
      obtain rfl := Except.ok.inj (hext.symm.trans hext')
      exact h _ hneedle hcache a ha husable

/-- The directory of a request is isolated when the strays of its search belong to the offices. -/
theorem directory_staysInside_iff (hA : Deployed owner A) (hempty : normalize numbers = [])
    {result : List ContactInfo × Int} (h : A.directory ctx search? sms page n = .ok result) :
    Isolated owner ctx result.1 ↔ StaysInside owner A ctx (.contactsV2 search? numbers sms) := by
  obtain ⟨extensions, listing, _, _, hext, hlisting, _⟩ := directory_ok h
  rw [directory_isolated_iff h hext hlisting, staysInside_search_iff hempty hext]
  -- the accounts of the offices' own lists need no condition
  have own : ∀ accounts, A.allAccounts ctx = .ok accounts → ∀ a ∈ accounts, Inside owner ctx a.iAccount :=
    fun accounts hall a ha => allAccounts_inside hA hall ha
  unfold listAccounts at hlisting
  split at hlisting
  · rename_i hnone
    simp only [bind_ok, pure_ok] at hlisting
    obtain ⟨accounts, haccounts, rfl⟩ := hlisting
    apply iff_of_true (fun a ha _ => own accounts haccounts a ha)
    intro needle hneedle
    rw [hnone] at hneedle
    cases hneedle
  · rename_i needle hneedle
    split at hlisting
    · rename_i hcache
      simp only [bind_ok, pure_ok] at hlisting
      obtain ⟨accounts, haccounts, rfl⟩ := hlisting
      refine iff_of_true (fun a ha _ => own accounts haccounts a (List.mem_of_mem_filter ha)) ?_
      intro _ _ hnot
      rw [hcache] at hnot
      cases hnot
    · rename_i hcache
      rw [searchSwitch_inside_iff hA.serves hlisting]
      constructor
      · intro hstray needle' hneedle' _
        obtain rfl := Option.some.inj (hneedle.symm.trans hneedle')
        exact hstray
      · exact fun hall => hall needle hneedle (by simpa using hcache)

/-! ### One contact -/

theorem answer_contactByUserId {userId : String} :
    answer A user page n (.contactByUserId userId) = .ok contacts ↔
      ∃ i a u contact, A.runtime.int userId = some i ∧ A.adminApi.getAccountInfo (.byIAccount i) = .ok (some a) ∧
        A.runtime.int user = some u ∧ getContactInfoByAccount A.runtime a u = .ok contact ∧ contacts = [contact] := by
  simp only [answer, map_ok, retrieveContactByUserId, bind_ok]
  constructor
  · rintro ⟨contact, ⟨i, hi, found, hfound, h⟩, rfl⟩
    cases hint : A.runtime.int userId with
    | none => simp [hint] at hi
    | some j =>
      obtain rfl : j = i := by simpa [hint] using hi
      cases found with
      | none => cases h
      | some a =>
        simp only [bind_ok] at h
        obtain ⟨u, hu, hcontact⟩ := h
        cases huser : A.runtime.int user with
        | none => simp [huser] at hu
        | some v =>
          obtain rfl : v = u := by simpa [huser] using hu
          exact ⟨_, a, _, contact, rfl, hfound, rfl, hcontact, rfl⟩
  · rintro ⟨i, a, u, contact, hi, ha, hu, hcontact, rfl⟩
    refine ⟨contact, ⟨i, by simp [hi], some a, ha, ?_⟩, rfl⟩
    simp [hu, hcontact, bind, Except.bind]

/-- Every page of the request lists accounts of the caller's offices only. -/
def IsolatedAlways (owner : Owners) (A : Adapter) (ctx : Context) (user : String) (req : Request) : Prop :=
  ∀ page itemsPerPage contacts, 1 ≤ page → 1 ≤ itemsPerPage → itemsPerPage ≤ 1000 →
    answer A user page itemsPerPage req = .ok contacts → Isolated owner ctx contacts

/-- **A request lists its tenant's accounts only exactly when it stays inside**: when no lookup of it that
names no customer leads outside the caller's offices. It is enough even if requests to the switch fail;
it is needed for every request that is answered. -/
theorem isolated_iff (hA : Deployed owner A) (hcaller : A.accountInfo = .ok caller) (user : String) (req : Request) :
    (StaysInside owner A (A.context caller) req → IsolatedAlways owner A (A.context caller) user req) ∧
      ((∃ contacts, answer A user 1 1000 req = .ok contacts) →
        IsolatedAlways owner A (A.context caller) user req → StaysInside owner A (A.context caller) req) := by
  cases req with
  | contacts =>
    constructor
    · exact fun _ _ _ _ _ _ _ h => retrieveContacts_isolated hA hcaller h
    · rintro _ _ a ⟨⟩
  | contactByUserId userId =>
    constructor
    · intro hin page n contacts _ _ _ h
      obtain ⟨i, a, u, contact, hi, ha, _, hcontact, rfl⟩ := answer_contactByUserId.1 h
      intro contact' hmem j hj
      obtain rfl := List.mem_singleton.1 hmem
      rw [(userId_iff hcontact).1 hj]
      exact hin a (.user hi ha)
    · rintro ⟨contacts, hserved⟩ hiso a ⟨hi, ha⟩
      have hall := hiso 1 1000 contacts le_rfl (by omega) le_rfl hserved
      obtain ⟨i', a', u, contact, hi', ha', _, hcontact, rfl⟩ := answer_contactByUserId.1 hserved
      obtain rfl := Option.some.inj (hi.symm.trans hi')
      obtain rfl := Option.some.inj (Except.ok.inj (ha.symm.trans ha'))
      exact hall contact List.mem_cons_self a.iAccount ((userId_iff hcontact).2 rfl)
  | contactsV2 search? numbers sms =>
    by_cases hempty : normalize numbers = []
    · constructor
      · intro hin page n contacts _ _ _ h
        obtain ⟨result, hresult, rfl⟩ := (answer_directory hcaller hempty).1 h
        exact ((directory_staysInside_iff hA hempty hresult).2 hin).mono fun _ hmem => of_mem_pageOf hmem
      · rintro ⟨contacts, hserved⟩ hiso
        obtain ⟨result, hresult, _⟩ := (answer_directory hcaller hempty).1 hserved
        apply (directory_staysInside_iff hA hempty hresult).1
        intro contact hcontact
        obtain ⟨page, hpage, hmem⟩ := mem_pageOf hcontact (n := 1000) (by omega)
        refine hiso page 1000 _ hpage (by omega) le_rfl ?_ contact hmem
        exact (answer_directory hcaller hempty).2 ⟨result, (directory_page hpage).trans hresult, rfl⟩
    · constructor
      · intro hin page n contacts _ _ _ h
        obtain ⟨all, hall, rfl⟩ := (answer_lookup hcaller hempty).1 h
        have hnumbers := (numbersInside_iff hempty).2 hin
        exact (lookupContacts_isolated hnumbers hall).mono fun _ hmem => of_mem_pageOf hmem
      · rintro ⟨contacts, hserved⟩ hiso
        obtain ⟨all, hall, _⟩ := (answer_lookup hcaller hempty).1 hserved
        refine (numbersInside_iff hempty).1 (numbersInside_of_isolated hA.serves hall fun contact hcontact => ?_)
        obtain ⟨page, hpage, hmem⟩ := mem_pageOf hcontact (n := 1000) (by omega)
        refine hiso page 1000 _ hpage (by omega) le_rfl ?_ contact hmem
        exact (answer_lookup hcaller hempty).2 ⟨all, hall, rfl⟩

/-! ## Two tenants -/

/-- Customer 1 has the accounts 10 and 11, customer 2 the account 20 with the alias 21. -/
def twoTenants : Database where
  accounts := [
    { iAccount := 10, iCustomer := .val 1, id := .val "1001", sipStatus := .val 1 },
    { iAccount := 11, iCustomer := .val 1, id := .val "1002", sipStatus := .val 0 },
    { iAccount := 20, iCustomer := .val 2, id := .val "2001", sipStatus := .val 1 },
    { iAccount := 21, iCustomer := .val 2, id := .val "2009", iMasterAccount := .val 20, billingModel := .val 2 }]
  unique := by decide

/-- `int` of decimal digits. -/
def decimal (s : String) : Option Int :=
  if s ≠ "" && s.toList.all Char.isDigit
    then some (s.toList.foldl (fun n c => n * 10 + (c.toNat - 48 : Nat)) 0) else none

/-- The adapter at work for the account 10, without cache. -/
def twoTenantsAdapter : Adapter where
  runtime := { lower := fun s => String.ofList (s.toList.map Char.toLower), int := decimal, emailStr := some }
  settings := {}
  adminApi := twoTenants.api
  accountInfo := .ok ⟨1, 10⟩
  asked _ := { now := 0 }
  locked _ := { now := 0 }
  setOrder := ⟨id, List.Perm.refl⟩

/-- The contact of the account 20. -/
def theirContact (aliases : List String) : ContactInfo where
  userId := some "20"
  isCurrentUser := some false
  companyName := some ""
  firstName := some ""
  lastName := some ""
  numbers := { additional := some aliases, ext := some "", main := "2001", sms := some [] }
  sipStatus := some .registered

theorem twoTenants_deployed : Deployed twoTenants.owner twoTenantsAdapter where
  serves := twoTenants.serves
  asked _ := ⟨[], by simp, rfl⟩
  locked _ := ⟨[], by simp, rfl⟩

/-- The request for the colleague by its id stays inside; it would not for the account 20. -/
theorem colleague_isolated :
    IsolatedAlways twoTenants.owner twoTenantsAdapter (twoTenantsAdapter.context ⟨1, 10⟩) "10" (.contactByUserId "11") ∧
      (IsolatedAlways twoTenants.owner twoTenantsAdapter (twoTenantsAdapter.context ⟨1, 10⟩) "10"
        (.contactByUserId "20") →
        StaysInside twoTenants.owner twoTenantsAdapter (twoTenantsAdapter.context ⟨1, 10⟩)
          (.contactByUserId "20")) := by
  constructor
  · refine (isolated_iff twoTenants_deployed rfl "10" (.contactByUserId "11")).1 ?_
    rintro a ⟨hi, ha⟩
    have h11 : twoTenantsAdapter.runtime.int "11" = some 11 := by decide
    obtain rfl := Option.some.inj (h11.symm.trans hi)
    rw [twoTenants.serves.found ha]
    exact ⟨1, by decide, by decide⟩
  · exact (isolated_iff twoTenants_deployed rfl "10" (.contactByUserId "20")).2 ⟨[theirContact []], by decide⟩

theorem not_isolatedAlways {req : Request} {contact : ContactInfo} {i : Int}
    (h : answer A user 1 100 req = .ok [contact]) (hi : contact.userId = some (toString i))
    (hout : ¬ Inside owner ctx i) : ¬ IsolatedAlways owner A ctx user req := fun hiso =>
  hout (hiso 1 100 [contact] le_rfl (by omega) (by omega) h contact List.mem_cons_self i hi)

/-- The account 10 is shown the account 20 of the other customer by its id, by its number and by a search
for its alias. -/
theorem other_tenant_listed :
    Deployed twoTenants.owner twoTenantsAdapter ∧ twoTenantsAdapter.accountInfo = .ok ⟨1, 10⟩ ∧
      (twoTenantsAdapter.context ⟨1, 10⟩).allICustomers = [1] ∧ twoTenants.owner 20 = some 2 ∧
      ∀ req ∈ [Request.contactByUserId "20", .contactsV2 none ["+2001"] false, .contactsV2 (some "2009") [] false],
        ¬ IsolatedAlways twoTenants.owner twoTenantsAdapter (twoTenantsAdapter.context ⟨1, 10⟩) "10" req := by
  have hout : ¬ Inside twoTenants.owner (twoTenantsAdapter.context ⟨1, 10⟩) 20 := by
    rintro ⟨c, hc, howner⟩
    have hoffices : (twoTenantsAdapter.context ⟨1, 10⟩).allICustomers = [1] := by decide
    rw [hoffices] at hc
    obtain rfl := List.mem_singleton.1 hc
    exact absurd howner (by decide)
  refine ⟨twoTenants_deployed, rfl, by decide, by decide, fun req hreq => ?_⟩
  have found : ∃ contact : ContactInfo, answer twoTenantsAdapter "10" 1 100 req = .ok [contact] ∧
      contact.userId = some (toString (20 : Int)) := by
    simp only [List.mem_cons, List.not_mem_nil, or_false] at hreq
    rcases hreq with rfl | rfl | rfl
    · exact ⟨theirContact [], by decide, rfl⟩
    · exact ⟨theirContact [], by decide, rfl⟩
    · exact ⟨theirContact ["2009"], by decide, rfl⟩
  obtain ⟨contact, hanswer, hi⟩ := found
  exact not_isolatedAlways hanswer hi hout

end Adapter

end PortaPhone.Contacts
