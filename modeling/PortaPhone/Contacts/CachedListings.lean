import Mathlib
import PortaPhone.Contacts.CachedMatches
/-!
# The listings of a search with the cache off and on

`listing_cached` and `listing_uncached` are the accounts that the two requests list before the filters, and
`pages_of_listing` are the pages of 1000 contacts that are cut from such a listing. An account from the cache, which
is projected, gives the contact of the account (`allContacts_project`).
-/

namespace PortaPhone.Contacts

open Fallible Paging

variable {db : Accounts} {A B : Adapter} {ctx : Adapter.Context} {search : String}
  {rows : Int × SearchField → List Account} {extensions : List Int}

/-! ## The listings -/

namespace CacheTwins

theorem customContacts (h : CacheTwins A B) : B.customContacts = A.customContacts := by
  rw [Adapter.customContacts, Adapter.customContacts, h.settings]

theorem extensionIAccounts (h : CacheTwins A B) (ctx : Adapter.Context) :
    B.extensionIAccounts ctx = A.extensionIAccounts ctx := by
  rw [Adapter.extensionIAccounts, Adapter.extensionIAccounts, h.settings, h.extensions]

theorem passesFilter (h : CacheTwins A B) : B.passesFilter ctx extensions = A.passesFilter ctx extensions := by
  funext a
  rw [Adapter.passesFilter, Adapter.passesFilter, h.settings]

theorem contactOf (h : CacheTwins A B) : B.contactOf ctx = A.contactOf ctx := by
  funext a
  rw [Adapter.contactOf, Adapter.contactOf, h.runtime]

theorem matchesText (h : CacheTwins A B) : B.matchesText = A.matchesText := by
  funext search value
  rw [Adapter.matchesText, Adapter.matchesText, h.runtime]

theorem customFor (h : CacheTwins A B) (search? : Option String) (custom : List ContactInfo) :
    B.customFor search? custom = A.customFor search? custom := by
  have hmatches : B.customMatches = A.customMatches := by
    funext search contact
    rw [Adapter.customMatches, Adapter.customMatches, h.matchesText]
  rw [Adapter.customFor, Adapter.customFor, hmatches]

theorem cachedMatches (h : CacheTwins A B) : B.cachedMatches ctx search = A.cachedMatches ctx search := by
  have hmatching : B.matchingExtensions search = A.matchingExtensions search := by
    funext list
    rw [Adapter.matchingExtensions, Adapter.matchingExtensions, h.matchesText]
  have hext : B.extIAccounts ctx search = A.extIAccounts ctx search := by
    rw [Adapter.extIAccounts, Adapter.extIAccounts, h.extensions, hmatching]
  funext a
  rw [Adapter.cachedMatches, Adapter.cachedMatches, h.matchesText, hext]

end CacheTwins

/-- A filter of projected accounts that goes by what the accounts are. -/
theorem filter_project {p q : Account → Bool} {l : List Account} (h : ∀ a ∈ l, p (projectAccount a) = q a) :
    (l.map projectAccount).filter p = (l.filter q).map projectAccount := by
  rw [List.filter_map]
  exact congrArg _ (List.filter_congr h)

/-- The accounts of the offices in the order of `i_account`. -/
def Accounts.inOrder (db : Accounts) (ctx : Adapter.Context) : List Account :=
  (db.offices ctx).mergeSort Adapter.byIAccount

theorem mem_inOrder {a : Account} : a ∈ db.inOrder ctx ↔ a ∈ db.offices ctx := List.mem_mergeSort

theorem allAccounts_cached (hB : Lists db B) (hon : 0 < B.settings.contactsCacheTtl)
    (hoffices : ctx.allICustomers.Nodup) :
    B.allAccounts ctx = .ok ((db.inOrder ctx).map projectAccount) := by
  have hview : B.view = projectAccount := by
    funext a
    rw [Adapter.view, if_neg (by omega)]
  have hseen : B.seen db ctx.allICustomers = (db.offices ctx).map projectAccount := by
    rw [Adapter.seen, hview, Accounts.offices, List.map_flatMap]
  have hsort : ((db.offices ctx).mergeSort Adapter.byIAccount).map projectAccount =
      ((db.offices ctx).map projectAccount).mergeSort Adapter.byIAccount := List.map_mergeSort fun _ _ _ _ => rfl
  rw [hB.allAccounts hoffices, hseen, Accounts.inOrder, hsort]

theorem allAccounts_uncached (hA : Lists db A) (hoff : A.settings.contactsCacheTtl = 0)
    (hoffices : ctx.allICustomers.Nodup) : A.allAccounts ctx = .ok (db.inOrder ctx) := by
  have hview : A.view = id := by
    funext a
    rw [Adapter.view, if_pos hoff]
    rfl
  have hseen : A.seen db ctx.allICustomers = db.offices ctx := by
    simp only [Adapter.seen, hview, List.map_id, Accounts.offices]
  rw [hA.allAccounts hoffices, hseen, Accounts.inOrder]

namespace Adapter

/-- The accounts that the cached search keeps, in its order; without a search it is every account. -/
def foundCached (A : Adapter) (db : Accounts) (ctx : Context) (search : String) : List Account :=
  if search = "" then db.inOrder ctx else (db.inOrder ctx).filter (A.cachedMatches ctx search)

/-- The accounts that the request finds with the cache off, in its order. -/
def foundUncached (A : Adapter) (db : Accounts) (ctx : Context) (search : String)
    (rows : Int × SearchField → List Account) (extensions : List Int) : List Account :=
  if search = "" then db.inOrder ctx else A.inHand ctx search rows extensions true 1 maxApiLimit

theorem isBounded_maxApiLimit (ctx : Context) (rows : Int × SearchField → List Account) :
    isBounded ctx rows 1 maxApiLimit = false := by
  have hlimit : pageLimit 1 maxApiLimit = maxApiLimit := by decide
  rw [isBounded, hlimit]
  simp

theorem isPartial_maxApiLimit : A.isPartial ctx rows extensions true 1 maxApiLimit = false := by
  rw [isPartial, isBounded_maxApiLimit, Bool.false_and]

theorem listing_cached (htwins : CacheTwins A B) (hB : Lists db B) (hoffices : ctx.allICustomers.Nodup)
    (search : String) (extensions : List Int) :
    B.listAccounts ctx (some search) extensions true 1 maxApiLimit =
      .ok { accounts := (A.foundCached db ctx search).map projectAccount } := by
  have hall := allAccounts_cached hB htwins.on hoffices
  unfold listAccounts foundCached
  by_cases hsearch : search = ""
  · have hneedle : (some search).filter (· ≠ "") = none := by simp [hsearch]
    rw [hneedle, if_pos hsearch, hall]
    rfl
  · have hneedle : (some search).filter (· ≠ "") = some search := by simp [hsearch]
    have hcache : (true && decide (0 < B.settings.contactsCacheTtl)) = true := by simp [htwins.on]
    have hfilter : B.searchCachedAccounts ctx search ((db.inOrder ctx).map projectAccount) =
        ((db.inOrder ctx).filter (A.cachedMatches ctx search)).map projectAccount := by
      rw [searchCachedAccounts, htwins.cachedMatches]
      exact filter_project fun a _ => cachedMatches_project a
    rw [hneedle, if_neg hsearch]
    dsimp only
    rw [hcache, if_pos rfl, hall, ← hfilter]
    rfl

theorem listing_uncached (htwins : CacheTwins A B) (hA : Lists db A) (hoffices : ctx.allICustomers.Nodup)
    (hsearched : search ≠ "" → A.Searched ctx search rows) :
    ∃ listing, A.listAccounts ctx (some search) extensions true 1 maxApiLimit = .ok listing ∧
      listing.accounts = A.foundUncached db ctx search rows extensions ∧
        (listing.truncated && decide (listing.fetchLimit < maxApiLimit)) = false := by
  unfold foundUncached
  by_cases hsearch : search = ""
  · have hneedle : (some search).filter (· ≠ "") = none := by simp [hsearch]
    refine ⟨{ accounts := db.inOrder ctx }, ?_, (if_pos hsearch).symm, rfl⟩
    rw [listAccounts, hneedle, allAccounts_uncached hA htwins.off hoffices]
    rfl
  · have hcache : (true && decide (0 < A.settings.contactsCacheTtl)) = false := by simp [htwins.off]
    have hbuilt : isBounded ctx rows 1 maxApiLimit = true → A.Built ctx extensions (A.matchList ctx search rows) := by
      rw [isBounded_maxApiLimit]
      exact fun hfalse => absurd hfalse Bool.false_ne_true
    obtain ⟨listing, hlisting, haccounts, _, hpart⟩ := (hsearched hsearch).listing hsearch hcache hbuilt
    refine ⟨listing, hlisting, ?_, hpart.trans isPartial_maxApiLimit⟩
    rw [if_neg hsearch, haccounts]

/-! ## The pages -/

/-- The request for a page of 1000 contacts with SMS numbers. -/
def searched1000 (A : Adapter) (search : String) (page : Nat) : Except Raised (List ContactInfo × Int) :=
  A.retrieveContactsV2 (some search) [] page maxApiLimit true

/-- All contacts of a request that finds these accounts. -/
def allContacts (A : Adapter) (ctx : Context) (search : String) (extensions : List Int)
    (contact : Account → ContactInfo)
    (custom : List ContactInfo) (accounts : List Account) : List ContactInfo :=
  (accounts.filter (A.shows ctx extensions true)).map contact ++ smsOnly true (A.customFor (some search) custom)

section Contacts

variable {contact : Account → ContactInfo} {caller : Caller} {custom : List ContactInfo} {listing : Listing}

theorem pages_of_listing (hcaller : A.accountInfo = .ok caller) (hctx : A.context caller = ctx)
    (hlisting : A.listAccounts ctx (some search) extensions true 1 maxApiLimit = .ok listing)
    (hwhole : (listing.truncated && decide (listing.fetchLimit < maxApiLimit)) = false)
    (hcontact : A.ContactsAre ctx contact)
    (hext : A.extensionIAccounts ctx = .ok extensions) (hcustom : A.customContacts = .ok custom)
    (hbuilt : A.Built ctx extensions listing.accounts) {page : Nat} (hpage : 1 ≤ page) :
    A.searched1000 search page =
      .ok (pageOf page maxApiLimit (A.allContacts ctx search extensions contact custom listing.accounts),
        ((A.allContacts ctx search extensions contact custom listing.accounts).length : Int)) := by
  subst hctx
  have hdirectory := directory_of_listing hlisting hcontact hext hcustom hbuilt
  rw [← directory_page hpage, ← allContacts, totalCount, hwhole, if_neg Bool.false_ne_true] at hdirectory
  rw [searched1000, retrieveContactsV2_directory hcaller rfl]
  exact ⟨_, hdirectory, by dsimp only⟩

/-- A request that is answered has read the custom contacts and has contacts of all accounts that it lists. -/
theorem built_of_answer (hcaller : A.accountInfo = .ok caller) (hctx : A.context caller = ctx)
    (hlisting : A.listAccounts ctx (some search) extensions true 1 maxApiLimit = .ok listing)
    (hext : A.extensionIAccounts ctx = .ok extensions) {result : List ContactInfo × Int}
    (h : A.searched1000 search 1 = .ok result) :
    (∃ custom, A.customContacts = .ok custom) ∧ A.Built ctx extensions listing.accounts := by
  subst hctx
  rw [searched1000, retrieveContactsV2_directory hcaller rfl] at h
  obtain ⟨all, hdirectory, _⟩ := h
  refine ⟨?_, built_of_listing hlisting hext hdirectory⟩
  simp only [directory, bind_ok] at hdirectory
  obtain ⟨custom, hcustom, _⟩ := hdirectory
  exact ⟨custom, hcustom⟩

theorem usable_project (htwins : CacheTwins A B) {a : Account} (h : RowsComplete a.aliasDidNumberList) (sms : Bool) :
    B.usable ctx extensions sms (projectAccount a) = A.usable ctx extensions sms a := by
  rw [usable, usable, htwins.passesFilter, passesFilter_project, parseSmsNumbers_project h]

theorem built_project (htwins : CacheTwins A B) (hdb : Consistent db A ctx) {accounts : List Account}
    (hoffice : ∀ a ∈ accounts, a ∈ db.offices ctx) :
    B.Built ctx extensions (accounts.map projectAccount) ↔ A.Built ctx extensions accounts := by
  unfold Built
  rw [List.forall_mem_map, htwins.passesFilter, htwins.contactOf]
  apply forall₂_congr
  intro a ha
  obtain ⟨hrows, hrows'⟩ := hdb.complete a (hoffice a ha)
  rw [passesFilter_project, contactOf_project hrows hrows']

theorem allContacts_project (htwins : CacheTwins A B) (hdb : Consistent db A ctx)
    (hcontact : A.ContactsAre ctx contact) {accounts : List Account}
    (hoffice : ∀ a ∈ accounts, a ∈ db.offices ctx) (hbuilt : A.Built ctx extensions accounts) :
    B.allContacts ctx search extensions contact custom (accounts.map projectAccount) =
      A.allContacts ctx search extensions contact custom accounts := by
  have hshows : (accounts.map projectAccount).filter (B.shows ctx extensions true) =
      (accounts.filter (A.shows ctx extensions true)).map projectAccount := by
    apply filter_project
    intro a ha
    rw [shows, shows, usable_project htwins (hdb.complete a (hoffice a ha)).2]
  rw [allContacts, allContacts, htwins.customFor, hshows, List.map_map]
  congr 1
  apply List.map_congr_left
  intro a ha
  obtain ⟨hmem, hshown⟩ := List.mem_filter.1 ha
  obtain ⟨hrows, hrows'⟩ := hdb.complete a (hoffice a hmem)
  have hok := hcontact a (hbuilt a hmem (passesFilter_of_shows hshown))
  have hsame : A.contactOf ctx (projectAccount a) = A.contactOf ctx a := contactOf_project hrows hrows'
  have hproject := hcontact (projectAccount a) ⟨_, hsame.trans hok⟩
  exact Except.ok.inj (hproject.symm.trans (hsame.trans hok))

end Contacts

end Adapter

end PortaPhone.Contacts
