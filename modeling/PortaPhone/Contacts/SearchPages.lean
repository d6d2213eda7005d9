import Mathlib
import PortaPhone.Contacts.SearchRounds
import PortaPhone.Lib.Cuts
/-!
# Going through the results of a search page by page

Without the cache every page of a search asks the fields anew, with a limit that grows with the page, and a page
that is full with a part of the matches stays with that part. `search_pages_iff` takes the pages apart: they list every
match once, under one total, exactly when each partial page guesses the number of the matches that it has not in hand
(`PagesAgree.counts`) and the orders of two pages do not place one account on both (`PagesAgree.places`). Which searches
these are is told in `SearchLimits`.
-/

namespace PortaPhone.Contacts

open Fallible Paging

namespace Adapter

section Pages

variable (A : Adapter) (ctx : Context) (search : String) (rows : Int × SearchField → List Account)
  (extensions : List Int) (sms : Bool) (n : Nat)

/-- Every page that stays with a part of the matches lacks as many accounts for the listing as the longest
query has rows more than accounts are in hand, and no account has a place on two pages. -/
structure PagesAgree : Prop where
  built : A.Built ctx extensions (A.matchList ctx search rows)
  builtInHand : ∀ page, 1 ≤ page → A.Built ctx extensions (A.inHand ctx search rows extensions sms page n)
  counts : ∀ page, 1 ≤ page → A.isPartial ctx rows extensions sms page n = true →
    ((A.matchList ctx search rows).filter (A.shows ctx extensions sms)).length =
      ((A.inHand ctx search rows extensions sms page n).filter (A.shows ctx extensions sms)).length +
        (longest ctx rows - (A.inHand ctx search rows extensions sms page n).length)
  places : ∀ page page', 1 ≤ page → page < page' →
    (pageOf page n ((A.inHand ctx search rows extensions sms page n).filter (A.shows ctx extensions sms))).Disjoint
      (pageOf page' n ((A.inHand ctx search rows extensions sms page' n).filter (A.shows ctx extensions sms)))

/-- Going through the pages lists the contacts of all matches that pass the filters and of the custom contacts
that match, each once, under one total; only the last page may be short. -/
def SearchPagesRight (custom : List ContactInfo) : Prop :=
  ∃ (accounts : List Account) (contacts : List ContactInfo), (accounts.map (·.iAccount)).Nodup ∧
    (∀ a, a ∈ accounts ↔ A.Match ctx search rows a ∧ A.passesFilter ctx extensions a = true) ∧
      accounts.mapM (A.contactOf ctx) = .ok contacts ∧
        ∃ total, Covers (fun page => A.retrieveContactsV2 (some search) [] page n sms) n total
          (smsOnly sms (contacts ++ custom.filter (A.customMatches search)))

/-- The accounts that a page is cut from: a partial page ends among those of its first round. -/
def cutFrom (page : Nat) : List Account :=
  (if A.isPartial ctx rows extensions sms page n then (firstRound ctx rows (pageLimit page n)).values
    else A.inHand ctx search rows extensions sms page n).filter (A.shows ctx extensions sms)

end Pages

variable {A : Adapter} {ctx : Context} {search : String} {rows : Int × SearchField → List Account}
  {extensions : List Int} {sms : Bool} {page n : Nat}

/-! ## The accounts of a page -/

theorem lt_length_cutFrom (search : String) (hpart : A.isPartial ctx rows extensions sms page n = true) :
    page * n < (A.cutFrom ctx search rows extensions sms n page).length := by
  rw [cutFrom, if_pos hpart]
  exact of_decide_eq_true (Bool.and_eq_true_iff.1 hpart).2

/-- The accounts in hand that the listing shows begin with those that the page is cut from. -/
theorem Searched.inHand_eq (h : A.Searched ctx search rows) (page : Nat) :
    ∃ rest, (A.inHand ctx search rows extensions sms page n).filter (A.shows ctx extensions sms) =
      A.cutFrom ctx search rows extensions sms n page ++ rest := by
  unfold cutFrom
  cases hpart : A.isPartial ctx rows extensions sms page n with
  | false => exact ⟨[], (List.append_nil _).symm⟩
  | true =>
    obtain ⟨rest, hrest⟩ := h.withLookups_prefix (firstRound ctx rows (pageLimit page n))
    refine ⟨rest.filter (A.shows ctx extensions sms), ?_⟩
    rw [inHand, foundFor_partial hpart, hrest, List.filter_append]
    rfl

theorem Searched.length_cutFrom_le_inHand (h : A.Searched ctx search rows) (page : Nat) :
    (A.cutFrom ctx search rows extensions sms n page).length ≤
      ((A.inHand ctx search rows extensions sms page n).filter (A.shows ctx extensions sms)).length := by
  obtain ⟨rest, hrest⟩ := h.inHand_eq page
  rw [hrest, List.length_append]
  exact Nat.le_add_right _ _

theorem Searched.match_of_cutFrom (h : A.Searched ctx search rows) {a : Account}
    (ha : a ∈ A.cutFrom ctx search rows extensions sms n page) :
    A.Match ctx search rows a ∧ A.shows ctx extensions sms a = true := by
  unfold cutFrom at ha
  obtain ⟨ha, hshows⟩ := List.mem_filter.1 ha
  refine ⟨?_, hshows⟩
  cases hpart : A.isPartial ctx rows extensions sms page n with
  | false =>
    rw [hpart, if_neg Bool.false_ne_true] at ha
    exact (h.mem_inHand hpart).1 ha
  | true =>
    rw [hpart, if_pos rfl] at ha
    exact .found ((firstRound_table _).values ha)

theorem cutFrom_nodup (page : Nat) : ((A.cutFrom ctx search rows extensions sms n page).map (·.iAccount)).Nodup := by
  have htable : Table (A.Found ctx search rows) (firstRound ctx rows (pageLimit page n)) := firstRound_table _
  unfold cutFrom
  split
  · exact htable.values_nodup.sublist (List.filter_sublist.map _)
  · exact (inHand_nodup page n).sublist (List.filter_sublist.map _)

/-- A page that has every match is cut from all of them. -/
theorem Searched.length_cutFrom (h : A.Searched ctx search rows)
    (hall : A.isPartial ctx rows extensions sms page n = false) :
    (A.cutFrom ctx search rows extensions sms n page).length =
      ((A.matchList ctx search rows).filter (A.shows ctx extensions sms)).length := by
  rw [cutFrom, if_neg (by simp [hall])]
  exact ((h.inHand_perm hall).filter _).length_eq

theorem Searched.length_cutFrom_le (h : A.Searched ctx search rows) (page : Nat) :
    (A.cutFrom ctx search rows extensions sms n page).length ≤
      ((A.matchList ctx search rows).filter (A.shows ctx extensions sms)).length := by
  refine (List.subperm_of_subset (cutFrom_nodup page).of_map fun a ha => ?_).length_le
  obtain ⟨hmatch, hshows⟩ := h.match_of_cutFrom ha
  exact List.mem_filter.2 ⟨h.mem_matchList.2 hmatch, hshows⟩

theorem Searched.page_cutFrom (h : A.Searched ctx search rows) (hpage : 1 ≤ page) :
    pageOf page n ((A.inHand ctx search rows extensions sms page n).filter (A.shows ctx extensions sms)) =
      pageOf page n (A.cutFrom ctx search rows extensions sms n page) := by
  cases hpart : A.isPartial ctx rows extensions sms page n with
  | false => rw [cutFrom, if_neg (by simp [hpart])]
  | true =>
    obtain ⟨rest, hrest⟩ := h.inHand_eq page
    rw [hrest, pageOf_append_left hpage (Nat.le_of_lt (lt_length_cutFrom search hpart))]

section Contacts

variable {contact : Account → ContactInfo} {caller : Caller} {custom : List ContactInfo}

/-- Two accounts have different contacts. -/
theorem SearchRequest.contact_injOn (h : A.SearchRequest ctx search rows extensions sms custom contact)
    (hbuilt : A.Built ctx extensions (A.matchList ctx search rows)) {a b : Account} (ha : A.Match ctx search rows a)
    (hb : A.Match ctx search rows b) (hashows : A.shows ctx extensions sms a = true)
    (hbshows : A.shows ctx extensions sms b = true) (heq : contact a = contact b) : a = b := by
  have hca := h.contacts a (hbuilt a (h.searched.mem_matchList.2 ha) (passesFilter_of_shows hashows))
  have hcb := h.contacts b (hbuilt b (h.searched.mem_matchList.2 hb) (passesFilter_of_shows hbshows))
  refine List.inj_on_of_nodup_map matchList_nodup (h.searched.mem_matchList.2 ha) (h.searched.mem_matchList.2 hb) ?_
  refine (userId_iff hcb).1 ?_
  rw [← heq]
  exact getContactInfoByAccount_userId hca

theorem SearchRequest.contacts_nodup (h : A.SearchRequest ctx search rows extensions sms custom contact)
    (hbuilt : A.Built ctx extensions (A.matchList ctx search rows)) {accounts : List Account}
    (hnodup : (accounts.map (·.iAccount)).Nodup)
    (hmatch : ∀ a ∈ accounts, A.Match ctx search rows a ∧ A.shows ctx extensions sms a = true) :
    (accounts.map contact).Nodup := by
  refine List.Nodup.map_on (fun a ha b hb heq => ?_) hnodup.of_map
  exact h.contact_injOn hbuilt (hmatch a ha).1 (hmatch b hb).1 (hmatch a ha).2 (hmatch b hb).2 heq

theorem SearchRequest.search_page (h : A.SearchRequest ctx search rows extensions sms custom contact)
    (hbuilt : isBounded ctx rows page n = true → A.Built ctx extensions (A.matchList ctx search rows))
    (hbuiltInHand : A.Built ctx extensions (A.inHand ctx search rows extensions sms page n)) :
    A.retrieveContactsV2 (some search) [] page n sms =
      .ok (pageOf page n (A.shownContacts ctx search extensions sms contact custom
          (A.inHand ctx search rows extensions sms page n)),
        A.pageTotal ctx search rows extensions sms page n
          (A.shownContacts ctx search extensions sms contact custom
            (A.inHand ctx search rows extensions sms page n)).length) := by
  have hdirectory := h.directory hbuilt hbuiltInHand
  obtain ⟨caller, hcaller, rfl⟩ := h.accountInfo
  rw [retrieveContactsV2_directory hcaller rfl]
  exact ⟨_, hdirectory, by dsimp only⟩

theorem SearchRequest.built_of_page (h : A.SearchRequest ctx search rows extensions sms custom contact)
    (hbuilt : isBounded ctx rows page n = true → A.Built ctx extensions (A.matchList ctx search rows))
    {result : List ContactInfo × Int}
    (hresult : A.retrieveContactsV2 (some search) [] page n sms = .ok result) :
    A.Built ctx extensions (A.inHand ctx search rows extensions sms page n) := by
  obtain ⟨caller, hcaller, rfl⟩ := h.accountInfo
  obtain ⟨all, hdirectory, _⟩ := (retrieveContactsV2_directory hcaller rfl).1 hresult
  exact h.built_of_directory hbuilt hdirectory

/-- Cutting the page from all contacts of the accounts in hand gives the same page. -/
theorem SearchRequest.page_shownContacts (h : A.SearchRequest ctx search rows extensions sms custom contact)
    (hpage : 1 ≤ page) :
    pageOf page n (A.shownContacts ctx search extensions sms contact custom
        (A.inHand ctx search rows extensions sms page n)) =
      pageOf page n ((A.cutFrom ctx search rows extensions sms n page).map contact ++
        smsOnly sms (custom.filter (A.customMatches search))) := by
  rw [shownContacts]
  cases hpart : A.isPartial ctx rows extensions sms page n with
  | false => rw [cutFrom, if_neg (by simp [hpart])]
  | true =>
    obtain ⟨rest, hrest⟩ := h.searched.inHand_eq page
    have hreach : page * n ≤ ((A.cutFrom ctx search rows extensions sms n page).map contact).length := by
      rw [List.length_map]
      exact Nat.le_of_lt (lt_length_cutFrom search hpart)
    rw [hrest, List.map_append, List.append_assoc, pageOf_append_left hpage hreach, pageOf_append_left hpage hreach]

/-- A page is cut from its accounts: all matches, or more than the page reaches. -/
theorem SearchRequest.cuts (h : A.SearchRequest ctx search rows extensions sms custom contact)
    (hbuilt : A.Built ctx extensions (A.matchList ctx search rows))
    (hbuiltInHand : ∀ page, 1 ≤ page → A.Built ctx extensions (A.inHand ctx search rows extensions sms page n)) :
    Cuts (fun page => A.retrieveContactsV2 (some search) [] page n sms) n
      (((A.matchList ctx search rows).filter (A.shows ctx extensions sms)).map contact)
      (smsOnly sms (custom.filter (A.customMatches search)))
      (fun page => (A.cutFrom ctx search rows extensions sms n page).map contact)
      (fun page => A.pageTotal ctx search rows extensions sms page n
        (A.shownContacts ctx search extensions sms contact custom
          (A.inHand ctx search rows extensions sms page n)).length) where
  nodup page := h.contacts_nodup hbuilt (cutFrom_nodup page) fun _ ha => h.searched.match_of_cutFrom ha
  subset page := by
    apply List.map_subset _
    intro a ha
    obtain ⟨hmatch, hshows⟩ := h.searched.match_of_cutFrom ha
    exact List.mem_filter.2 ⟨h.searched.mem_matchList.2 hmatch, hshows⟩
  answer page hpage := by
    rw [h.search_page (fun _ => hbuilt) (hbuiltInHand page hpage),
      h.page_shownContacts hpage]
  known page _ := by
    obtain ⟨rest, hrest⟩ := h.searched.inHand_eq page
    cases hpart : A.isPartial ctx rows extensions sms page n with
    | false =>
      have hlength := h.searched.length_cutFrom hpart
      have hall := ((h.searched.inHand_perm hpart).filter (A.shows ctx extensions sms)).length_eq
      refine .inl ⟨by rw [List.length_map, List.length_map, hlength], ?_⟩
      rw [pageTotal, hpart, if_neg Bool.false_ne_true, shownContacts, List.length_append, List.length_append,
        List.length_map, List.length_map, hall]
    | true =>
      refine .inr ⟨by rw [List.length_map]; exact lt_length_cutFrom search hpart, ?_⟩
      rw [pageTotal, hpart, if_pos rfl, shownContacts, hrest, List.map_append, List.length_append,
        List.length_append, List.length_append]
      omega

theorem disjoint_map_iff {α β : Type} {f : α → β} {l k : List α}
    (hf : ∀ a ∈ l, ∀ b ∈ k, f a = f b → a = b) : (l.map f).Disjoint (k.map f) ↔ l.Disjoint k := by
  constructor
  · intro hdisjoint a ha hb
    exact hdisjoint (List.mem_map_of_mem ha) (List.mem_map_of_mem hb)
  · intro hdisjoint c hc hc'
    obtain ⟨a, ha, rfl⟩ := List.mem_map.1 hc
    obtain ⟨b, hb, heq⟩ := List.mem_map.1 hc'
    obtain rfl := hf a ha b hb heq.symm
    exact hdisjoint ha hb

/-- Two pages share a contact when they share an account. -/
theorem SearchRequest.places_iff (h : A.SearchRequest ctx search rows extensions sms custom contact)
    (hbuilt : A.Built ctx extensions (A.matchList ctx search rows)) {page page' : Nat} (hpage : 1 ≤ page)
    (hpage' : 1 ≤ page') :
    (pageOf page n ((A.cutFrom ctx search rows extensions sms n page).map contact)).Disjoint
        (pageOf page' n ((A.cutFrom ctx search rows extensions sms n page').map contact)) ↔
      (pageOf page n ((A.inHand ctx search rows extensions sms page n).filter (A.shows ctx extensions sms))).Disjoint
        (pageOf page' n ((A.inHand ctx search rows extensions sms page' n).filter (A.shows ctx extensions sms))) := by
  rw [h.searched.page_cutFrom hpage, h.searched.page_cutFrom hpage', pageOf_map, pageOf_map]
  apply disjoint_map_iff
  intro a ha b hb heq
  obtain ⟨hamatch, hashows⟩ := h.searched.match_of_cutFrom (of_mem_pageOf ha)
  obtain ⟨hbmatch, hbshows⟩ := h.searched.match_of_cutFrom (of_mem_pageOf hb)
  exact h.contact_injOn hbuilt hamatch hbmatch hashows hbshows heq

theorem SearchRequest.covers_iff (h : A.SearchRequest ctx search rows extensions sms custom contact)
    (hbuilt : A.Built ctx extensions (A.matchList ctx search rows))
    (hbuiltInHand : ∀ page, 1 ≤ page → A.Built ctx extensions (A.inHand ctx search rows extensions sms page n))
    (hn : 1 ≤ n) :
    (∃ total, Covers (fun page => A.retrieveContactsV2 (some search) [] page n sms) n total
        (A.shownContacts ctx search extensions sms contact custom (A.matchList ctx search rows))) ↔
      A.PagesAgree ctx search rows extensions sms n := by
  have hcuts := h.cuts hbuilt hbuiltInHand
  have hnodup : (((A.matchList ctx search rows).filter (A.shows ctx extensions sms)).map contact).Nodup := by
    have hshown : ∀ a ∈ (A.matchList ctx search rows).filter (A.shows ctx extensions sms),
        A.Match ctx search rows a ∧ A.shows ctx extensions sms a = true :=
      fun a ha => ⟨h.searched.mem_matchList.1 (List.mem_of_mem_filter ha), List.of_mem_filter ha⟩
    exact h.contacts_nodup hbuilt (matchList_nodup.sublist (List.filter_sublist.map _)) hshown
  rw [shownContacts, hcuts.covers_iff hn hnodup]
  simp only [pageTotal, shownContacts, List.length_append, List.length_map]
  constructor
  · rintro ⟨htotals, hplaces⟩
    refine ⟨hbuilt, hbuiltInHand, fun page hpage hpart => ?_, fun page page' hpage hlt => ?_⟩
    · have htotal := htotals page hpage
      rw [if_pos hpart] at htotal
      omega
    · exact (h.places_iff hbuilt hpage (by omega)).1 (hplaces page page' hpage hlt)
  · rintro ⟨_, _, hcounts, hplaces⟩
    refine ⟨fun page hpage => ?_, fun page page' hpage hlt => ?_⟩
    · cases hpart : A.isPartial ctx rows extensions sms page n with
      | false => rw [if_neg Bool.false_ne_true, ((h.searched.inHand_perm hpart).filter _).length_eq]
      | true =>
        have hcount := hcounts page hpage hpart
        rw [if_pos rfl]
        omega
    · exact (h.places_iff hbuilt hpage (by omega)).2 (hplaces page page' hpage hlt)

/-- The last page of a right total is not partial, so the total counts every match. -/
theorem SearchRequest.length_le_of_covers (h : A.SearchRequest ctx search rows extensions sms custom contact)
    (hbuilt : A.Built ctx extensions (A.matchList ctx search rows)) (hn : 1 ≤ n) {total : Nat} {all : List ContactInfo}
    (hcovers : Covers (fun page => A.retrieveContactsV2 (some search) [] page n sms) n total all) :
    ((A.matchList ctx search rows).filter (A.shows ctx extensions sms)).length ≤ max 1 (pageCount n total) * n := by
  have hlast : 1 ≤ max 1 (pageCount n total) := Nat.le_max_left _ _
  have hreach : total ≤ max 1 (pageCount n total) * n :=
    (le_pageCount_mul hn total).trans (Nat.mul_le_mul_right n (Nat.le_max_right _ _))
  obtain ⟨items, hitems⟩ := hcovers.totals _ hlast le_rfl
  have hbuiltLast := h.built_of_page (fun _ => hbuilt) hitems
  rw [h.search_page (fun _ => hbuilt) hbuiltLast] at hitems
  have htotal := (Prod.mk.inj (Except.ok.inj hitems)).2
  have hlength : (A.cutFrom ctx search rows extensions sms n (max 1 (pageCount n total))).length ≤ _ :=
    h.searched.length_cutFrom_le_inHand _
  rw [pageTotal, shownContacts, List.length_append, List.length_map] at htotal
  cases hpart : A.isPartial ctx rows extensions sms (max 1 (pageCount n total)) n with
  | false =>
    have hall := ((h.searched.inHand_perm hpart).filter (A.shows ctx extensions sms)).length_eq
    rw [hpart, if_neg Bool.false_ne_true] at htotal
    omega
  | true =>
    have hmore := lt_length_cutFrom search hpart
    rw [hpart, if_pos rfl] at htotal
    omega

/-- The pages that are answered have every account in hand built, and those behind them have the matches in hand. -/
theorem SearchRequest.builtInHand_of_covers (h : A.SearchRequest ctx search rows extensions sms custom contact)
    (hbuilt : A.Built ctx extensions (A.matchList ctx search rows)) (hn : 1 ≤ n) {total : Nat} {all : List ContactInfo}
    (hcovers : Covers (fun page => A.retrieveContactsV2 (some search) [] page n sms) n total all) {page : Nat}
    (hpage : 1 ≤ page) : A.Built ctx extensions (A.inHand ctx search rows extensions sms page n) := by
  by_cases hlast : page ≤ max 1 (pageCount n total)
  · obtain ⟨items, hitems⟩ := hcovers.totals page hpage hlast
    exact h.built_of_page (fun _ => hbuilt) hitems
  · have hle := h.length_le_of_covers hbuilt hn hcovers
    have hmul : max 1 (pageCount n total) * n ≤ page * n := Nat.mul_le_mul_right n (by omega)
    cases hpart : A.isPartial ctx rows extensions sms page n with
    | false => exact fun a ha => hbuilt a (h.searched.mem_matchList.2 ((h.searched.mem_inHand hpart).1 ha))
    | true =>
      have hmore := lt_length_cutFrom search hpart
      have hcut : (A.cutFrom ctx search rows extensions sms n page).length ≤ _ := h.searched.length_cutFrom_le page
      omega

/-- The contacts that the pages should list, in the order of the matches. -/
theorem SearchRequest.listing_perm (h : A.SearchRequest ctx search rows extensions sms custom contact)
    (hbuilt : A.Built ctx extensions (A.matchList ctx search rows)) {accounts : List Account}
    (hnodup : (accounts.map (·.iAccount)).Nodup)
    (hmem : ∀ a, a ∈ accounts ↔ A.Match ctx search rows a ∧ A.passesFilter ctx extensions a = true) :
    (smsOnly sms (accounts.map contact ++ custom.filter (A.customMatches search))).Perm
      (A.shownContacts ctx search extensions sms contact custom (A.matchList ctx search rows)) := by
  have hperm : accounts.Perm ((A.matchList ctx search rows).filter (A.passesFilter ctx extensions)) := by
    apply (List.perm_ext_iff_of_nodup hnodup.of_map (matchList_nodup.of_map.filter _)).2
    intro a
    rw [hmem a, List.mem_filter, h.searched.mem_matchList]
  rw [shownContacts, ← smsOnly_contacts h.contacts hbuilt, smsOnly_eq_filter, smsOnly_eq_filter]
  exact ((hperm.map contact).append_right _).filter _

theorem SearchRequest.right_iff (h : A.SearchRequest ctx search rows extensions sms custom contact) :
    A.SearchPagesRight ctx search rows extensions sms n custom ↔
      A.Built ctx extensions (A.matchList ctx search rows) ∧
        ∃ total, Covers (fun page => A.retrieveContactsV2 (some search) [] page n sms) n total
          (A.shownContacts ctx search extensions sms contact custom (A.matchList ctx search rows)) := by
  constructor
  · rintro ⟨accounts, contacts, hnodup, hmem, hcontacts, total, hcovers⟩
    have hbuilt : A.Built ctx extensions (A.matchList ctx search rows) := by
      intro a ha hpasses
      obtain ⟨c, _, hc⟩ := mem_of_mapM hcontacts ((hmem a).2 ⟨h.searched.mem_matchList.1 ha, hpasses⟩)
      exact ⟨c, hc⟩
    have hmapM : accounts.mapM (A.contactOf ctx) = .ok (accounts.map contact) := by
      refine mapM_ok_map fun a ha => h.contacts a ?_
      obtain ⟨c, _, hc⟩ := mem_of_mapM hcontacts ha
      exact ⟨c, hc⟩
    obtain rfl := Except.ok.inj (hcontacts.symm.trans hmapM)
    exact ⟨hbuilt, total, hcovers.perm (h.listing_perm hbuilt hnodup hmem)⟩
  · rintro ⟨hbuilt, total, hcovers⟩
    obtain ⟨accounts, hnodup, hmem⟩ : ∃ accounts : List Account, (accounts.map (·.iAccount)).Nodup ∧
        ∀ a, a ∈ accounts ↔ A.Match ctx search rows a ∧ A.passesFilter ctx extensions a = true := by
      refine ⟨(A.matchList ctx search rows).filter (A.passesFilter ctx extensions), ?_, fun a => ?_⟩
      · exact matchList_nodup.sublist (List.filter_sublist.map _)
      · rw [List.mem_filter, h.searched.mem_matchList]
    have hmapM : accounts.mapM (A.contactOf ctx) = .ok (accounts.map contact) :=
      mapM_ok_map fun a ha =>
        h.contacts a (hbuilt a (h.searched.mem_matchList.2 ((hmem a).1 ha).1) ((hmem a).1 ha).2)
    exact ⟨accounts, _, hnodup, hmem, hmapM, total, hcovers.perm (h.listing_perm hbuilt hnodup hmem).symm⟩

/-- **The pages of a search**: they list every match that passes the filters once, under one total, exactly when
the pages that stay with a part of the matches agree with the others on their number and on their places. -/
theorem search_pages_iff (h : A.Searched (A.context caller) search rows) (hcaller : A.accountInfo = .ok caller)
    (hext : A.extensionIAccounts (A.context caller) = .ok extensions) (hcustom : A.customContacts = .ok custom)
    (hsearch : search ≠ "") (hcache : (sms && decide (0 < A.settings.contactsCacheTtl)) = false) (hn : 1 ≤ n) :
    A.SearchPagesRight (A.context caller) search rows extensions sms n custom ↔
      A.PagesAgree (A.context caller) search rows extensions sms n := by
  obtain ⟨contact, hcontact⟩ := exists_contact A (A.context caller)
  have hrequest : A.SearchRequest (A.context caller) search rows extensions sms custom contact :=
    ⟨h, ⟨caller, hcaller, rfl⟩, hext, hcustom, hsearch, hcache, hcontact⟩
  rw [hrequest.right_iff]
  constructor
  · rintro ⟨hbuilt, total, hcovers⟩
    have hbuiltInHand : ∀ page, 1 ≤ page →
        A.Built (A.context caller) extensions (A.inHand (A.context caller) search rows extensions sms page n) :=
      fun page hpage => hrequest.builtInHand_of_covers hbuilt hn hcovers hpage
    exact (hrequest.covers_iff hbuilt hbuiltInHand hn).1 ⟨total, hcovers⟩
  · intro hagree
    exact ⟨hagree.built, (hrequest.covers_iff hagree.built hagree.builtInHand hn).2 hagree⟩

end Contacts

end Adapter

end PortaPhone.Contacts
