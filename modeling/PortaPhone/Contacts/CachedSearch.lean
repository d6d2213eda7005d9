import Mathlib
import PortaPhone.Contacts.CachedListings
import PortaPhone.Lib.Cuts
/-!
# A search in the cache and a search in the switch

`cached_search_agrees`: the pages of both have the same contacts under the same total, and the first page of 1000 has
the same ones exactly when the relevance of the matches puts the smallest `i_account`s there. They differ where it does
not, and where the number of a beneficiary is searched with a plus sign (`cached_search_differs`).
-/

namespace PortaPhone.Contacts

open Fallible Paging

variable {db : Accounts} {A B : Adapter} {ctx : Adapter.Context} {search : String}
  {rows : Int × SearchField → List Account} {extensions : List Int}

namespace Adapter

/-! ## Both searches agree -/

/-- Page by page both requests list the same contacts, under one total. -/
def SameListing (A B : Adapter) (search : String) : Prop :=
  ∃ all all' : List ContactInfo, all.Perm all' ∧ ∀ page, 1 ≤ page →
    A.searched1000 search page = .ok (pageOf page maxApiLimit all, (all.length : Int)) ∧
      B.searched1000 search page = .ok (pageOf page maxApiLimit all', (all.length : Int))

/-- Both requests have the same contacts on the first page, under one total. -/
def SameAnswer (A B : Adapter) (search : String) : Prop :=
  ∃ items items' total, A.searched1000 search 1 = .ok (items, total) ∧ B.searched1000 search 1 = .ok (items', total) ∧
    ∀ contact, contact ∈ items ↔ contact ∈ items'

/-- The 1000 accounts that come first with the cache off have smaller `i_account`s than the others that are shown. -/
def SmallestFirst (A : Adapter) (db : Accounts) (ctx : Context) (search : String)
    (rows : Int × SearchField → List Account) (extensions : List Int) : Prop :=
  let shown := (A.foundUncached db ctx search rows extensions).filter (A.shows ctx extensions true)
  ∀ a ∈ shown.take maxApiLimit, ∀ b ∈ shown.drop maxApiLimit, a.iAccount < b.iAccount

theorem foundCached_office {a : Account} (ha : a ∈ A.foundCached db ctx search) : a ∈ db.offices ctx := by
  unfold foundCached at ha
  split at ha
  · exact mem_inOrder.1 ha
  · exact mem_inOrder.1 (List.mem_of_mem_filter ha)

theorem pairwise_foundCached (A : Adapter) (hoffices : ctx.allICustomers.Nodup) (search : String) :
    (A.foundCached db ctx search).Pairwise fun a b => a.iAccount < b.iAccount := by
  have hsorted : (db.inOrder ctx).Pairwise fun a b => a.iAccount < b.iAccount :=
    pairwise_mergeSort_lt (offices_nodup hoffices)
  unfold foundCached
  split
  · exact hsorted
  · exact hsorted.filter _

/-- Of the accounts that both requests find the same ones pass the filters. -/
theorem found_perm (hoffices : ctx.allICustomers.Nodup) (hlower : ∀ s, A.runtime.lower s = "" ↔ s = "")
    (hdb : Consistent db A ctx) (hfields : search ≠ "" → A.FieldQueries db ctx search rows)
    (hstray : A.NoStray ctx search rows extensions) :
    ((A.foundUncached db ctx search rows extensions).filter (A.passesFilter ctx extensions)).Perm
      ((A.foundCached db ctx search).filter (A.passesFilter ctx extensions)) := by
  unfold foundUncached foundCached
  by_cases hsearch : search = ""
  · rw [if_pos hsearch, if_pos hsearch]
  · rw [if_neg hsearch, if_neg hsearch]
    have hsearched := searched hdb (hfields hsearch)
    have hsorted : (db.inOrder ctx).Nodup :=
      (pairwise_mergeSort_lt (offices_nodup hoffices)).imp fun {a b} hlt heq => absurd hlt (by rw [heq]; omega)
    have hids : ((A.inHand ctx search rows extensions true 1 maxApiLimit).map (·.iAccount)).Nodup :=
      inHand_nodup 1 maxApiLimit
    apply (List.perm_ext_iff_of_nodup (hids.of_map.filter _) ((hsorted.filter _).filter _)).2
    intro a
    rw [List.mem_filter, List.mem_filter, List.mem_filter]
    apply and_congr_left
    intro hpasses
    rw [hsearched.mem_inHand isPartial_maxApiLimit, match_iff hdb (hfields hsearch) hlower hsearch hstray hpasses,
      mem_inOrder]

theorem shown_perm {accounts accounts' : List Account}
    (hperm : (accounts.filter (A.passesFilter ctx extensions)).Perm (accounts'.filter (A.passesFilter ctx extensions)))
    (sms : Bool) :
      (accounts.filter (A.shows ctx extensions sms)).Perm (accounts'.filter (A.shows ctx extensions sms)) := by
  have hfilter : ∀ l : List Account, l.filter (A.shows ctx extensions sms) =
      (l.filter (A.passesFilter ctx extensions)).filter (A.shows ctx extensions sms) := by
    intro l
    rw [List.filter_filter]
    apply List.filter_congr
    intro a _
    cases hshows : A.shows ctx extensions sms a with
    | true => rw [passesFilter_of_shows hshows, Bool.and_self]
    | false => rw [Bool.false_and]
  rw [hfilter accounts, hfilter accounts']
  exact hperm.filter _

theorem Built.perm {accounts accounts' : List Account} (h : A.Built ctx extensions accounts)
    (hperm : (accounts.filter (A.passesFilter ctx extensions)).Perm
      (accounts'.filter (A.passesFilter ctx extensions))) :
    A.Built ctx extensions accounts' := by
  intro a ha hpasses
  have hmem := hperm.mem_iff.2 (List.mem_filter.2 ⟨ha, hpasses⟩)
  exact h a (List.mem_of_mem_filter hmem) hpasses

section Agreement

variable {contact : Account → ContactInfo} {custom : List ContactInfo} {accounts accounts' : List Account}

/-- A custom contact is no account's. -/
theorem custom_userId (hcustom : A.customContacts = .ok custom) {search? : Option String} {sms : Bool} {c : ContactInfo}
    (hc : c ∈ smsOnly sms (A.customFor search? custom)) : c.userId = none := by
  have hmem : c ∈ custom := by
    have hfor := (mem_smsOnly.1 hc).1
    unfold customFor at hfor
    split at hfor
    · exact hfor
    · exact List.mem_of_mem_filter hfor
  obtain ⟨entry, _, hentry⟩ := of_mem_mapM hcustom hmem
  exact getContactInfoByCustomEntry_userId hentry

/-- The contacts on the first page are the same when the accounts with the smallest `i_account`s come first. -/
theorem firstPage_iff (hcontact : A.ContactsAre ctx contact)
    (hcustom : A.customContacts = .ok custom) (hbuilt : A.Built ctx extensions accounts)
    (hperm : (accounts.filter (A.passesFilter ctx extensions)).Perm (accounts'.filter (A.passesFilter ctx extensions)))
    (hsorted : accounts'.Pairwise fun a b => a.iAccount < b.iAccount) :
    (∀ c, c ∈ pageOf 1 maxApiLimit (A.allContacts ctx search extensions contact custom accounts) ↔
        c ∈ pageOf 1 maxApiLimit (A.allContacts ctx search extensions contact custom accounts')) ↔
      ∀ a ∈ (accounts.filter (A.shows ctx extensions true)).take maxApiLimit,
        ∀ b ∈ (accounts.filter (A.shows ctx extensions true)).drop maxApiLimit, a.iAccount < b.iAccount := by
  have hshown := shown_perm hperm true
  have hsorted' := hsorted.filter (A.shows ctx extensions true)
  have hok : ∀ a ∈ accounts.filter (A.shows ctx extensions true), A.contactOf ctx a = .ok (contact a) := by
    intro a ha
    obtain ⟨hmem, hshows⟩ := List.mem_filter.1 ha
    exact hcontact a (hbuilt a hmem (passesFilter_of_shows hshows))
  have hids : ((accounts'.filter (A.shows ctx extensions true)).map (·.iAccount)).Nodup :=
    List.pairwise_map.2 (hsorted'.imp fun {a b} hlt => by omega)
  have hfirst : ∀ l : List ContactInfo, pageOf 1 maxApiLimit l = l.take maxApiLimit := fun _ => rfl
  rw [hfirst, hfirst, allContacts, allContacts, mem_take_map_append_iff hshown.length_eq]
  · exact take_sorted_iff hshown (hshown.nodup_iff.2 hids.of_map) hsorted' fun a b hlt hgt => by omega
  · intro a ha b hb heq
    have hb' := hshown.mem_iff.2 hb
    refine List.inj_on_of_nodup_map hids (hshown.mem_iff.1 ha) hb ((userId_iff (hok b hb')).1 ?_)
    rw [← heq]
    exact getContactInfoByAccount_userId (hok a ha)
  · intro a ha hmem
    have ha' : a ∈ accounts.filter (A.shows ctx extensions true) := ha.elim id hshown.mem_iff.2
    have hid := custom_userId hcustom hmem
    rw [getContactInfoByAccount_userId (hok a ha')] at hid
    cases hid

end Agreement

variable {caller : Caller}

/-- A search with the cache off and with the cache on, over one consistent database. -/
structure SearchedBothWays (db : Accounts) (A B : Adapter) (caller : Caller) (search : String)
    (rows : Int × SearchField → List Account) (extensions : List Int) : Prop where
  twins : CacheTwins A B
  lists : Lists db A
  cachedLists : Lists db B
  lower : ∀ s, A.runtime.lower s = "" ↔ s = ""
  accountInfo : A.accountInfo = .ok caller
  offices : (A.context caller).allICustomers.Nodup
  consistent : Consistent db A (A.context caller)
  fields : search ≠ "" → A.FieldQueries db (A.context caller) search rows
  extensions : A.extensionIAccounts (A.context caller) = .ok extensions

namespace SearchedBothWays

variable {custom : List ContactInfo} {contact : Account → ContactInfo}

theorem listing (h : SearchedBothWays db A B caller search rows extensions) :
    ∃ listing, A.listAccounts (A.context caller) (some search) extensions true 1 maxApiLimit = .ok listing ∧
      listing.accounts = A.foundUncached db (A.context caller) search rows extensions ∧
        (listing.truncated && decide (listing.fetchLimit < maxApiLimit)) = false :=
  listing_uncached h.twins h.lists h.offices fun hsearch => searched h.consistent (h.fields hsearch)

theorem found_perm (h : SearchedBothWays db A B caller search rows extensions)
    (hstray : A.NoStray (A.context caller) search rows extensions) :
    ((A.foundUncached db (A.context caller) search rows extensions).filter
        (A.passesFilter (A.context caller) extensions)).Perm
      ((A.foundCached db (A.context caller) search).filter (A.passesFilter (A.context caller) extensions)) :=
  Adapter.found_perm h.offices h.lower h.consistent h.fields hstray

/-- The request that is answered has built the contacts of the accounts that both find. -/
theorem built (h : SearchedBothWays db A B caller search rows extensions)
    (hstray : A.NoStray (A.context caller) search rows extensions)
    (hanswer : (∃ result, A.searched1000 search 1 = .ok result) ∨ ∃ result, B.searched1000 search 1 = .ok result) :
    (∃ custom, A.customContacts = .ok custom) ∧
      A.Built (A.context caller) extensions (A.foundCached db (A.context caller) search) := by
  rcases hanswer with ⟨result, hresult⟩ | ⟨result, hresult⟩
  · obtain ⟨listing, hlisting, haccounts, _⟩ := h.listing
    obtain ⟨hcustom, hbuilt⟩ := built_of_answer h.accountInfo rfl hlisting h.extensions hresult
    rw [haccounts] at hbuilt
    exact ⟨hcustom, hbuilt.perm (h.found_perm hstray)⟩
  · obtain ⟨hcustom, hbuilt⟩ := built_of_answer (h.twins.accountInfo.trans h.accountInfo) (h.twins.context caller)
      (listing_cached h.twins h.cachedLists h.offices search extensions)
      ((h.twins.extensionIAccounts _).trans h.extensions) hresult
    rw [h.twins.customContacts] at hcustom
    exact ⟨hcustom, (built_project h.twins h.consistent fun _ ha => foundCached_office ha).1 hbuilt⟩

/-- The pages of both requests. -/
theorem pages (h : SearchedBothWays db A B caller search rows extensions)
    (hstray : A.NoStray (A.context caller) search rows extensions)
    (hcontact : A.ContactsAre (A.context caller) contact)
    (hcustom : A.customContacts = .ok custom)
    (hbuilt : A.Built (A.context caller) extensions (A.foundCached db (A.context caller) search)) {page : Nat}
    (hpage : 1 ≤ page) :
    A.searched1000 search page = .ok (pageOf page maxApiLimit (A.allContacts (A.context caller) search extensions
        contact custom (A.foundUncached db (A.context caller) search rows extensions)),
      ((A.allContacts (A.context caller) search extensions contact custom
        (A.foundUncached db (A.context caller) search rows extensions)).length : Int)) ∧
    B.searched1000 search page = .ok (pageOf page maxApiLimit (A.allContacts (A.context caller) search extensions
        contact custom (A.foundCached db (A.context caller) search)),
      ((A.allContacts (A.context caller) search extensions contact custom
        (A.foundCached db (A.context caller) search)).length : Int)) := by
  have hoffice : ∀ a ∈ A.foundCached db (A.context caller) search, a ∈ db.offices (A.context caller) :=
    fun _ ha => foundCached_office ha
  constructor
  · obtain ⟨listing, hlisting, haccounts, hwhole⟩ := h.listing
    have hbuiltA : A.Built (A.context caller) extensions listing.accounts := by
      rw [haccounts]
      exact hbuilt.perm (h.found_perm hstray).symm
    rw [pages_of_listing h.accountInfo rfl hlisting hwhole hcontact h.extensions hcustom hbuiltA hpage, haccounts]
  · have hcontactB : B.ContactsAre (A.context caller) contact := by
      rw [ContactsAre, h.twins.contactOf]
      exact hcontact
    have hpages := pages_of_listing (h.twins.accountInfo.trans h.accountInfo) (h.twins.context caller)
      (listing_cached h.twins h.cachedLists h.offices search extensions) rfl hcontactB
      ((h.twins.extensionIAccounts _).trans h.extensions) (h.twins.customContacts.trans hcustom)
      ((built_project h.twins h.consistent hoffice).2 hbuilt) hpage
    rw [hpages, allContacts_project h.twins h.consistent hcontact hoffice hbuilt]

theorem agrees (h : SearchedBothWays db A B caller search rows extensions)
    (hstray : A.NoStray (A.context caller) search rows extensions) (hcustom : A.customContacts = .ok custom)
    (hbuilt : A.Built (A.context caller) extensions (A.foundCached db (A.context caller) search)) :
    SameListing A B search ∧
      (SameAnswer A B search ↔ A.SmallestFirst db (A.context caller) search rows extensions) := by
  obtain ⟨contact, hcontact⟩ := exists_contact A (A.context caller)
  have hperm := h.found_perm hstray
  have hpages := fun page (hpage : 1 ≤ page) => h.pages hstray hcontact hcustom hbuilt hpage
  have hall : (A.allContacts (A.context caller) search extensions contact custom
      (A.foundUncached db (A.context caller) search rows extensions)).Perm
        (A.allContacts (A.context caller) search extensions contact custom
          (A.foundCached db (A.context caller) search)) :=
    ((shown_perm hperm true).map contact).append_right _
  rw [← hall.length_eq] at hpages
  refine ⟨⟨_, _, hall, hpages⟩, ?_⟩
  rw [SmallestFirst, ← firstPage_iff hcontact hcustom (hbuilt.perm hperm.symm) hperm
    (pairwise_foundCached A h.offices search)]
  obtain ⟨hfirst, hfirst'⟩ := hpages 1 le_rfl
  constructor
  · rintro ⟨items, items', total, hitems, hitems', hsame⟩
    obtain ⟨rfl, _⟩ := Prod.mk.inj (Except.ok.inj (hfirst.symm.trans hitems))
    obtain ⟨rfl, _⟩ := Prod.mk.inj (Except.ok.inj (hfirst'.symm.trans hitems'))
    exact hsame
  · exact fun hsame => ⟨_, _, _, hfirst, hfirst', hsame⟩

end SearchedBothWays

/-- **The search in the cache agrees with the search in the switch**: whenever one of them is answered, both list the
same contacts under the same total on their pages of 1000, and the first pages have the same contacts exactly when the
matches that the switch puts first have the smallest `i_account`s. -/
theorem cached_search_agrees (h : SearchedBothWays db A B caller search rows extensions)
    (hstray : A.NoStray (A.context caller) search rows extensions)
    (hanswer : (∃ result, A.searched1000 search 1 = .ok result) ∨ ∃ result, B.searched1000 search 1 = .ok result) :
    SameListing A B search ∧
      (SameAnswer A B search ↔ A.SmallestFirst db (A.context caller) search rows extensions) := by
  obtain ⟨⟨custom, hcustom⟩, hbuilt⟩ := h.built hstray hanswer
  exact h.agrees hstray hcustom hbuilt

/-! ## A switch with a database -/

/-- Beside the caller there are an account with an extension, one with an alias and one that is a beneficiary. -/
def staff : Database where
  accounts := [
    { iAccount := 10, iCustomer := .val 1, id := .val "1000", sipStatus := .val 1 },
    { iAccount := 11, iCustomer := .val 1, id := .val "1001", firstname := .val "Ann", extensionId := .val "777",
      sipStatus := .val 1, didNumber := .val "27601" },
    { iAccount := 12, iCustomer := .val 1, id := .val "1002", sipStatus := .val 0, didNumber := .val "27602" },
    { iAccount := 13, iCustomer := .val 1, id := .val "1003", sipStatus := .val 1, didNumber := .val "27603",
      iMasterAccount := .val 11, billingModel := .val 4 },
    { iAccount := 14, iCustomer := .val 1, id := .val "27899", iMasterAccount := .val 12, billingModel := .val 2 }]
  unique := by decide

/-- The adapter at work for the account 10. -/
def staffAdapter (ttl : Nat) : Adapter where
  runtime := { lower := id, int := decimal, emailStr := some }
  settings := { contactsCacheTtl := ttl }
  adminApi := staff.api
  accountInfo := .ok ⟨1, 10⟩
  asked _ := { now := 0 }
  locked _ := { now := 0 }
  setOrder := ⟨id, List.Perm.refl⟩

def staffContext : Context := { caller := ⟨1, 10⟩, mainICustomer := 1, allICustomers := [1] }

theorem staff_info {query : InfoQuery} {x : Account} (h : staff.api.getAccountInfo query = .ok (some x)) :
    ∃ b ∈ staff.accounts, x = { b with aliasList := .absent } ∧
      match query with
      | .byIAccount i => b.iAccount = i
      | .byId id => b.id.get? = some id := by
  obtain ⟨b, hb, rfl⟩ := Option.map_eq_some_iff.1 (Except.ok.inj h)
  cases query with
  | byIAccount i => exact ⟨b, List.mem_of_find?_eq_some hb, rfl, by simpa using List.find?_some hb⟩
  | byId id => exact ⟨b, List.mem_of_find?_eq_some hb, rfl, by simpa using List.find?_some hb⟩

theorem staff_consistent : Consistent staff.listed (staffAdapter 0) staffContext where
  complete := by
    unfold RowsComplete
    decide
  fetched i a ha := by
    have hall : ∀ b ∈ staff.accounts, ∀ a ∈ (staffAdapter 0).fetchAccount b.iAccount,
        a.iAccount = b.iAccount := by decide
    cases hinfo : (staffAdapter 0).adminApi.getAccountInfo (.byIAccount i) with
    | error => simp [fetchAccount, hinfo] at ha
    | ok x =>
      cases x with
      | none => simp [fetchAccount, hinfo] at ha
      | some x =>
        obtain ⟨b, hb, _, hi⟩ := staff_info hinfo
        rw [← show b.iAccount = i from hi] at ha ⊢
        exact hall b hb a ha
  extensions := by
    refine ⟨[{ id := .val "777", iAccount := .val 11 }], by decide, ?_, ?_⟩
    · intro ext hext
      obtain rfl := List.mem_singleton.1 hext
      exact ⟨"777", rfl, by decide⟩
    · have hall : ∀ a ∈ staff.listed.offices staffContext, a.extensionId.text?.all fun id =>
          id = "777" ∧ a.iAccount = 11 := by decide
      intro a ha id hid
      have h := hall a ha
      simp only [hid, Option.all_some, Bool.decide_and, Bool.and_eq_true, decide_eq_true_eq] at h
      obtain ⟨rfl, hi⟩ := h
      exact ⟨_, List.mem_singleton_self _, rfl, by rw [hi]; decide⟩
  master did x m hx hbeneficiary hm := by
    have hall : ∀ b ∈ staff.accounts, isBeneficiary b = false → ∀ m ∈ b.iMasterAccount.number?, ∀ did ∈ b.id.get?,
        ∃ a ∈ staff.listed.offices staffContext, (staffAdapter 0).fetchAccount m = some a ∧
          .val did ∈ a.aliasList.rowsOrEmpty := by decide
    obtain ⟨b, hb, rfl, hid⟩ := staff_info hx
    exact hall b hb hbeneficiary m hm did hid
  aliases := by
    have hall : ∀ a ∈ staff.listed.offices staffContext, ∀ row ∈ a.aliasList.rowsOrEmpty, row = .val "27899" ∧
        a.iAccount = 12 ∧ (staffAdapter 0).fetchAccount a.iAccount = some a := by decide
    intro a ha did hrow
    obtain ⟨hdid, hi, hfetch⟩ := hall a ha _ hrow
    obtain rfl := Attr.val.inj hdid
    exact ⟨_, rfl, rfl, by rw [hi]; rfl, hfetch⟩

/-- The rows of the field queries of a search among them. -/
def staffRows (search : String) (task : Int × SearchField) : List Account :=
  staff.rows task.1 { filter := some (task.2, "%" ++ search ++ "%") }

theorem staff_searched (search : String) :
    SearchedBothWays staff.listed (staffAdapter 0) (staffAdapter 300) ⟨1, 10⟩ search (staffRows search) [] where
  twins := {
    off := rfl
    on := by decide
    settings := rfl
    runtime := rfl
    accountInfo := rfl
    context := fun _ => rfl
    extensions := fun _ _ => rfl }
  lists := ⟨staff.slices, fun _ => ⟨[], by simp, rfl⟩, fun _ => ⟨[], by simp, rfl⟩⟩
  cachedLists := ⟨staff.slices, fun _ => ⟨[], by simp, rfl⟩, fun _ => ⟨[], by simp, rfl⟩⟩
  lower _ := Iff.rfl
  accountInfo := rfl
  offices := by decide
  consistent := staff_consistent
  fields _ := {
    answer := fun _ _ _ => rfl
    atMost := by
      intro task _
      rw [staffRows, Database.rows, List.length_map]
      exact (List.length_filter_le _ _).trans (by decide)
    mem := fun _ _ _ => Database.mem_rows }
  extensions := rfl

theorem smallestFirst_of_few (h : (A.foundUncached db ctx search rows extensions).length ≤ maxApiLimit) :
    A.SmallestFirst db ctx search rows extensions := by
  intro a _ b hb
  rw [List.drop_of_length_le ((List.length_filter_le _ _).trans h)] at hb
  simp at hb

/-- A search for the alias of the account 12. -/
theorem staff_agrees : SameListing (staffAdapter 0) (staffAdapter 300) "+27899" ∧
    SameAnswer (staffAdapter 0) (staffAdapter 300) "+27899" := by
  have hstray : (staffAdapter 0).NoStray staffContext "+27899" (staffRows "+27899") [] := by
    have hnone : ∀ x ∈ (staffAdapter 0).aliasMatch "+27899", isBeneficiary x = false := by decide
    intro x hx hbeneficiary _
    rw [hnone x hx] at hbeneficiary
    cases hbeneficiary
  have hanswer : ∃ result, (staffAdapter 0).searched1000 "+27899" 1 = .ok result := by
    have hsome : ((staffAdapter 0).searched1000 "+27899" 1).toOption.isSome = true := by decide
    cases hresult : (staffAdapter 0).searched1000 "+27899" 1 with
    | ok result => exact ⟨result, rfl⟩
    | error e => simp [hresult, Except.toOption] at hsome
  have hfew : ((staffAdapter 0).foundUncached staff.listed staffContext "+27899" (staffRows "+27899") []).length ≤
      maxApiLimit := by decide
  obtain ⟨hlisting, hiff⟩ := cached_search_agrees (staff_searched "+27899") hstray (.inl hanswer)
  exact ⟨hlisting, hiff.2 (smallestFirst_of_few hfew)⟩

/-- A search that no account in the cache matches. -/
theorem cached_empty {search : String} (hsearch : search ≠ "")
    (hnone : ∀ a ∈ staff.listed.offices staffContext, (staffAdapter 0).cachedMatches staffContext search a = false) :
    (staffAdapter 300).searched1000 search 1 = .ok ([], 0) := by
  have hempty : (staffAdapter 0).foundCached staff.listed staffContext search = [] := by
    rw [foundCached, if_neg hsearch, List.filter_eq_nil_iff]
    intro a ha hmatches
    rw [hnone a (mem_inOrder.1 ha)] at hmatches
    cases hmatches
  have h := staff_searched search
  have hlisting := listing_cached h.twins h.cachedLists h.offices search []
  obtain ⟨contact, hcontact⟩ := exists_contact (staffAdapter 300) staffContext
  have hbuilt : (staffAdapter 300).Built staffContext [] ([].map projectAccount) := by
    intro a ha
    simp at ha
  rw [show (staffAdapter 0).context ⟨1, 10⟩ = staffContext from rfl, hempty] at hlisting
  have hctx : (staffAdapter 300).context ⟨1, 10⟩ = staffContext := rfl
  have hcustom : (staffAdapter 300).customContacts = .ok [] := rfl
  have hall : (staffAdapter 300).allContacts staffContext search [] contact [] ([].map projectAccount) = [] := by
    rw [allContacts, customFor_search hsearch]
    rfl
  rw [pages_of_listing rfl hctx hlisting rfl hcontact rfl hcustom hbuilt le_rfl, hall]
  rfl

/-- A search for the number of the beneficiary with a plus sign finds it only with the cache off. -/
theorem beneficiary_differs : ¬ SameAnswer (staffAdapter 0) (staffAdapter 300) "+1003" := by
  have huncached : ((staffAdapter 0).searched1000 "+1003" 1).toOption.map Prod.snd = some 1 := by decide
  have hcached : (staffAdapter 300).searched1000 "+1003" 1 = .ok ([], 0) := cached_empty (by decide) (by decide)
  rintro ⟨items, items', total, hitems, hitems', _⟩
  obtain ⟨_, rfl⟩ := Prod.mk.inj (Except.ok.inj (hitems'.symm.trans hcached))
  rw [hitems] at huncached
  simp [Except.toOption] at huncached

/-! ### More than one page -/

/-- So many accounts in a row that differ in their `i_account` only. -/
def copies (template : Account) (first : Int) (count : Nat) : List Account :=
  (List.range count).map fun i : Nat => { template with iAccount := first + (i : Int) }

theorem mem_copies {template : Account} {first : Int} {count : Nat} {a : Account} :
    a ∈ copies template first count ↔ ∃ i < count, { template with iAccount := first + (i : Int) } = a := by
  simp [copies]

theorem copies_ids (template : Account) (first : Int) (count : Nat) :
    (copies template first count).map (·.iAccount) = (List.range count).map fun i : Nat => first + (i : Int) := by
  rw [copies, List.map_map]
  rfl

/-- Either all of them match in a field or none does. -/
theorem filter_copies (mask : String) (field : SearchField) (template : Account) (first : Int) (count : Nat) :
    (copies template first count).filter (fun a => Database.likes mask (Database.searchValue field a)) =
      if Database.likes mask (Database.searchValue field template) then copies template first count else [] := by
  have hsame : ∀ a ∈ copies template first count,
      Database.searchValue field a = Database.searchValue field template := by
    intro a ha
    obtain ⟨i, _, rfl⟩ := mem_copies.1 ha
    cases field <;> rfl
  split
  · rename_i hlikes
    exact List.filter_eq_self.2 fun a ha => by rw [hsame a ha, hlikes]
  · rename_i hlikes
    exact List.filter_eq_nil_iff.2 fun a ha => by rwa [hsame a ha]

def dialed : Account := { iAccount := 0, id := .val "an", sipStatus := .val 1, didNumber := .val "5" }

def named : Account :=
  { iAccount := 0, id := .val "1", firstname := .val "an", sipStatus := .val 1, didNumber := .val "5" }

variable {n : Nat}

/-- The accounts that have the search in their id come after those that have it in their name. -/
def crowdAccounts (n : Nat) : List Account := copies dialed (n + 1) n ++ copies named 1 n

theorem crowdAccounts_nodup (n : Nat) : ((crowdAccounts n).map (·.iAccount)).Nodup := by
  rw [crowdAccounts, List.map_append, copies_ids, copies_ids]
  refine List.Nodup.append ?_ ?_ ?_
  · exact List.nodup_range.map fun i j hij => by simpa using hij
  · exact List.nodup_range.map fun i j hij => by simpa using hij
  · intro i hi hi'
    obtain ⟨j, hj, rfl⟩ := List.mem_map.1 hi
    obtain ⟨k, hk, heq⟩ := List.mem_map.1 hi'
    have hkn := List.mem_range.1 hk
    omega

def crowd (n : Nat) : Accounts where
  of c := if c = 1 then crowdAccounts n else []
  distinct c := by
    split
    · exact crowdAccounts_nodup n
    · exact List.nodup_nil
  disjoint c c' a a' ha ha' _ := by
    split at ha <;> split at ha' <;> simp_all

def crowdRows (n : Nat) (c : Int) (query : ListQuery) : List Account :=
  ((crowd n).of c).filter fun a => query.filter.all fun f => Database.likes f.2 (Database.searchValue f.1 a)

/-- The adapter at work for one more account, with nothing to look up. -/
def crowdAdapter (n ttl : Nat) : Adapter where
  runtime := { lower := id, int := decimal, emailStr := some }
  settings := { contactsCacheTtl := ttl }
  adminApi := {
    getAccountList := fun c query =>
      let rows := crowdRows n c query
      let page := rows.drop (query.offset.getD 0)
      .ok (some ⟨.val (query.limit.elim page page.take), .val rows.length⟩)
    getAccountInfo := fun _ => .ok none
    getExtensionsList := fun _ _ => .ok []
    getCustomerInfo := fun _ => .ok { iOfficeType := .val 1 }
    getCustomerList := fun _ => .ok (.val []) }
  accountInfo := .ok ⟨1, 2 * n + 1⟩
  asked _ := { now := 0 }
  locked _ := { now := 0 }
  setOrder := ⟨id, List.Perm.refl⟩

def crowdContext (n : Nat) : Context := { caller := ⟨1, 2 * n + 1⟩, mainICustomer := 1, allICustomers := [1] }

/-- The rows of the field queries for `an`. -/
def anRows (n : Nat) (task : Int × SearchField) : List Account :=
  crowdRows n task.1 { filter := some (task.2, "%" ++ "an" ++ "%") }

theorem crowd_of_one (n : Nat) : (crowd n).of 1 = crowdAccounts n := by
  show (if (1 : Int) = 1 then crowdAccounts n else []) = crowdAccounts n
  exact if_pos rfl

theorem anRows_eq (field : SearchField) :
    anRows n (1, field) = match field with
      | .id => copies dialed (n + 1) n
      | .firstname => copies named 1 n
      | _ => [] := by
  have hdialed : Database.likes ("%" ++ "an" ++ "%") (Database.searchValue field dialed) = decide (field = .id) := by
    rw [Database.likes_mask]
    cases field <;> decide
  have hnamed : Database.likes ("%" ++ "an" ++ "%") (Database.searchValue field named) =
      decide (field = .firstname) := by
    rw [Database.likes_mask]
    cases field <;> decide
  rw [anRows, crowdRows, crowd_of_one, crowdAccounts]
  simp only [Option.all_some, List.filter_append, filter_copies, hdialed, hnamed]
  cases field <;> simp

/-- Without extensions and aliases the lookups add nothing. -/
theorem withLookups_none (hext : A.extensionMatches ctx search = []) (halias : A.aliasMatch search = none)
    (d : Dict Int Account) : A.withLookups ctx search d = d.values := by
  rw [withLookups, addAliasMatch_eq, addExtensionMatches_eq, hext, halias]
  rfl

theorem length_copies (template : Account) (first : Int) (count : Nat) :
    (copies template first count).length = count := by
  simp [copies]

theorem crowd_taken (hn : n ≤ maxApiLimit) : taken (crowdContext n) (anRows n) maxApiLimit = crowdAccounts n := by
  have htasks : searchTasks (crowdContext n) = [(1, .id), (1, .firstname), (1, .lastname), (1, .extensionName),
      (1, .email)] := rfl
  have hall : ∀ template first, (copies template first n).take maxApiLimit = copies template first n := by
    intro template first
    exact List.take_of_length_le (by rw [length_copies]; exact hn)
  simp [taken, htasks, anRows_eq, hall, crowdAccounts]

theorem crowd_found (hn : n ≤ maxApiLimit) :
    (crowdAdapter n 0).foundUncached (crowd n) (crowdContext n) "an" (anRows n) [] = crowdAccounts n := by
  have halias : (crowdAdapter n 0).aliasMatch "an" = none := by
    rw [aliasMatch, if_neg (by decide)]
    rfl
  have hlimit : pageLimit 1 maxApiLimit = maxApiLimit := by decide
  rw [foundUncached, if_neg (by decide), inHand, withLookups_none rfl halias, foundFor,
    isBounded_maxApiLimit, Bool.false_and, if_neg Bool.false_ne_true, hlimit, firstRound, crowd_taken hn,
    values_keyed (crowdAccounts_nodup n)]

theorem crowd_offices {a : Account} (ha : a ∈ (crowd n).offices (crowdContext n)) : a ∈ crowdAccounts n := by
  obtain ⟨c, hc, ha⟩ := mem_offices.1 ha
  obtain rfl := List.mem_singleton.1 hc
  rwa [crowd_of_one] at ha

/-- What an account of the crowd is. -/
theorem crowd_cases {a : Account} (ha : a ∈ crowdAccounts n) :
    ∃ template, (template = dialed ∨ template = named) ∧ ∃ i : Int,
      i ≤ 2 * n ∧ { template with iAccount := i } = a := by
  rcases List.mem_append.1 ha with ha | ha
  · obtain ⟨i, hi, rfl⟩ := mem_copies.1 ha
    exact ⟨dialed, .inl rfl, _, by omega, rfl⟩
  · obtain ⟨i, hi, rfl⟩ := mem_copies.1 ha
    exact ⟨named, .inr rfl, _, by omega, rfl⟩

theorem crowd_consistent (n : Nat) : Consistent (crowd n) (crowdAdapter n 0) (crowdContext n) where
  complete a ha := by
    obtain ⟨template, htemplate, i, _, rfl⟩ := crowd_cases (crowd_offices ha)
    rcases htemplate with rfl | rfl
    · exact ⟨RowsComplete.absent, RowsComplete.absent⟩
    · exact ⟨RowsComplete.absent, RowsComplete.absent⟩
  fetched i a ha := by cases ha
  extensions := by
    refine ⟨[], rfl, by simp, fun a ha id hid => ?_⟩
    obtain ⟨template, htemplate, i, _, rfl⟩ := crowd_cases (crowd_offices ha)
    rcases htemplate with rfl | rfl <;> cases hid
  master did x m hx := by cases hx
  aliases a ha did hrow := by
    obtain ⟨template, htemplate, i, _, rfl⟩ := crowd_cases (crowd_offices ha)
    rcases htemplate with rfl | rfl <;> cases hrow

theorem crowd_slices (n ttl : Nat) : Slices (crowd n) (crowdAdapter n ttl).adminApi := by
  intro c
  have hall : crowdRows n c {} = (crowd n).of c := List.filter_eq_self.2 fun _ _ => rfl
  refine ⟨(crowd n).of c, List.Perm.refl _, fun limit offset => ?_⟩
  rw [← hall]
  rfl

theorem crowd_searched (hn : n ≤ maxApiLimit) :
    SearchedBothWays (crowd n) (crowdAdapter n 0) (crowdAdapter n 300) ⟨1, 2 * n + 1⟩ "an" (anRows n) [] where
  twins := {
    off := rfl
    on := Nat.succ_pos 299
    settings := rfl
    runtime := rfl
    accountInfo := rfl
    context := fun _ => rfl
    extensions := fun _ _ => rfl }
  lists := ⟨crowd_slices n 0, fun _ => ⟨[], by simp, rfl⟩, fun _ => ⟨[], by simp, rfl⟩⟩
  cachedLists := ⟨crowd_slices n 300, fun _ => ⟨[], by simp, rfl⟩, fun _ => ⟨[], by simp, rfl⟩⟩
  lower _ := Iff.rfl
  accountInfo := rfl
  offices := List.nodup_singleton 1
  consistent := crowd_consistent n
  fields _ := {
    answer := fun _ _ _ => rfl
    atMost := by
      rintro ⟨c, field⟩ htask
      obtain rfl := List.mem_singleton.1 (mem_searchTasks.1 htask)
      rw [anRows_eq]
      cases field <;> simp [length_copies, hn]
    mem := by
      intro task _ a
      rw [anRows, crowdRows, List.mem_filter, Option.all_some, Database.likes_mask]
      rfl }
  extensions := rfl

/-- Every account of the crowd is shown. -/
theorem crowd_shown {a : Account} (ha : a ∈ crowdAccounts n) :
    (crowdAdapter n 0).shows (crowdContext n) [] true a = true ∧
      ∃ contact, (crowdAdapter n 0).contactOf (crowdContext n) a = .ok contact := by
  obtain ⟨template, htemplate, i, hi, rfl⟩ := crowd_cases ha
  have hne : i ≠ 2 * (n : Int) + 1 := by omega
  rcases htemplate with rfl | rfl
  · refine ⟨?_, _, rfl⟩
    have hpasses : (crowdAdapter n 0).passesFilter (crowdContext n) [] { dialed with iAccount := i } = true :=
      decide_eq_true hne
    rw [shows, usable, hpasses]
    rfl
  · refine ⟨?_, _, rfl⟩
    have hpasses : (crowdAdapter n 0).passesFilter (crowdContext n) [] { named with iAccount := i } = true :=
      decide_eq_true hne
    rw [shows, usable, hpasses]
    rfl

/-- The search has the accounts in hand that it finds by id before those with the smaller `i_account`s. -/
theorem crowd_not_smallestFirst (hn : n ≤ maxApiLimit) (hmore : maxApiLimit < 2 * n) :
    ¬ (crowdAdapter n 0).SmallestFirst (crowd n) (crowdContext n) "an" (anRows n) [] := by
  intro hfirst
  have hshown : (crowdAccounts n).filter ((crowdAdapter n 0).shows (crowdContext n) [] true) = crowdAccounts n :=
    List.filter_eq_self.2 fun a ha => (crowd_shown ha).1
  rw [SmallestFirst, crowd_found hn, hshown, crowdAccounts, List.take_append, List.drop_append, length_copies] at hfirst
  have hdialed : { dialed with iAccount := (n : Int) + 1 } ∈ (copies dialed (n + 1) n).take maxApiLimit := by
    rw [List.take_of_length_le (by rw [length_copies]; exact hn)]
    exact mem_copies.2 ⟨0, by omega, by simp⟩
  have hnamed : { named with iAccount := (n : Int) } ∈ (copies named 1 n).drop (maxApiLimit - n) := by
    refine List.mem_drop_iff_getElem.2 ⟨2 * n - 1 - maxApiLimit, by rw [length_copies]; omega, ?_⟩
    have hlast : maxApiLimit - n + (2 * n - 1 - maxApiLimit) = n - 1 := by omega
    have hid : (1 : Int) + ((n - 1 : Nat) : Int) = n := by
      have hpos : maxApiLimit = 1000 := rfl
      omega
    simp only [hlast, copies, List.getElem_map, List.getElem_range, hid]
  have hlt := hfirst _ (List.mem_append_left _ hdialed) _ (List.mem_append_right _ hnamed)
  have hlt' : (n : Int) + 1 < n := hlt
  omega

theorem crowd_differs (hn : n ≤ maxApiLimit) (hmore : maxApiLimit < 2 * n) :
    ¬ SameAnswer (crowdAdapter n 0) (crowdAdapter n 300) "an" := by
  have hstray : (crowdAdapter n 0).NoStray (crowdContext n) "an" (anRows n) [] := by
    intro x hx
    rw [aliasMatch, if_neg (by decide)] at hx
    cases hx
  have hbuilt :
      (crowdAdapter n 0).Built (crowdContext n) [] ((crowdAdapter n 0).foundCached (crowd n) (crowdContext n) "an") :=
    fun a ha _ => (crowd_shown (crowd_offices (foundCached_office ha))).2
  have hagrees := (crowd_searched hn).agrees hstray rfl hbuilt
  exact fun hsame => crowd_not_smallestFirst hn hmore (hagrees.2.1 hsame)

/-- The two searches give different contacts on the first page where 1002 accounts are found, of which those that
the id finds come first, and where the number of a beneficiary has a plus sign. -/
theorem cached_search_differs :
    (SearchedBothWays (crowd 501) (crowdAdapter 501 0) (crowdAdapter 501 300) ⟨1, 2 * (501 : Nat) + 1⟩ "an"
        (anRows 501) [] ∧
      ¬ SameAnswer (crowdAdapter 501 0) (crowdAdapter 501 300) "an") ∧
    (SearchedBothWays staff.listed (staffAdapter 0) (staffAdapter 300) ⟨1, 10⟩ "+1003" (staffRows "+1003") [] ∧
      ¬ SameAnswer (staffAdapter 0) (staffAdapter 300) "+1003") := by
  have hn : 501 ≤ maxApiLimit := by decide
  have hmore : maxApiLimit < 2 * 501 := by decide
  exact ⟨⟨crowd_searched hn, crowd_differs hn hmore⟩, staff_searched "+1003", beneficiary_differs⟩

end Adapter

end PortaPhone.Contacts
