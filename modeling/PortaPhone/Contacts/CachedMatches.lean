import Mathlib
import PortaPhone.Contacts.Pages
import PortaPhone.Contacts.SearchRounds
/-!
# What a search in the cache matches

With the accounts cache on, a search for contacts with SMS numbers looks through the cached directory; with the cache
off the same request asks the switch (`CacheTwins`). `Consistent` and `FieldQueries` say what the switch knows of the
accounts of the offices. `match_iff`: the switch leads to the accounts that the cached search keeps.
-/

namespace PortaPhone.Contacts

open Fallible Paging

/-! ## The two requests and the database -/

/-- The same request with the cache off and with the cache on: it is the same caller's, for whom the switch has the
same offices and extensions. -/
structure CacheTwins (A B : Adapter) : Prop where
  off : A.settings.contactsCacheTtl = 0
  on : 0 < B.settings.contactsCacheTtl
  settings : B.settings = { A.settings with contactsCacheTtl := B.settings.contactsCacheTtl }
  runtime : B.runtime = A.runtime
  accountInfo : B.accountInfo = A.accountInfo
  context : ∀ caller, B.context caller = A.context caller
  extensions : ∀ c hierarchy, B.adminApi.getExtensionsList c hierarchy = A.adminApi.getExtensionsList c hierarchy

/-- Every row has the key that is kept. -/
def RowsComplete (rows : Attr (List (Attr String))) : Prop := rows ≠ .null ∧ .absent ∉ rows.rowsOrEmpty

/-- The accounts of the offices. -/
def Accounts.offices (db : Accounts) (ctx : Adapter.Context) : List Account := ctx.allICustomers.flatMap db.of

/-- Every alias, DID and extension record is complete and leads to an account of the offices, which is answered
with its aliases. -/
structure Consistent (db : Accounts) (A : Adapter) (ctx : Adapter.Context) : Prop where
  complete : ∀ a ∈ db.offices ctx, RowsComplete a.aliasList ∧ RowsComplete a.aliasDidNumberList
  fetched : ∀ i a, A.fetchAccount i = some a → a.iAccount = i
  /-- An extension belongs to an account and, outside a hierarchy, is the account's own `extension_id`. -/
  extensions : ∃ extensions, A.adminApi.getExtensionsList ctx.mainICustomer ctx.isHierarchy = .ok extensions ∧
    (∀ ext ∈ extensions, ∃ id, ext.id = .val id ∧ ∃ a ∈ db.offices ctx, ext.iAccount.number? = some a.iAccount ∧
      A.fetchAccount a.iAccount = some a ∧ (ctx.isHierarchy = false → a.extensionId.get? = some id)) ∧
    ∀ a ∈ db.offices ctx, ∀ id, a.extensionId.text? = some id →
      ∃ ext ∈ extensions, ext.id = .val id ∧ ext.iAccount.number? = some a.iAccount
  /-- An alias, which is no beneficiary, belongs to an account that has it in its list. -/
  master : ∀ did x m, A.adminApi.getAccountInfo (.byId did) = .ok (some x) → isBeneficiary x = false →
    x.iMasterAccount.number? = some m →
      ∃ a ∈ db.offices ctx, A.fetchAccount m = some a ∧ .val did ∈ a.aliasList.rowsOrEmpty
  aliases : ∀ a ∈ db.offices ctx, ∀ did, .val did ∈ a.aliasList.rowsOrEmpty →
    ∃ x, A.adminApi.getAccountInfo (.byId did) = .ok (some x) ∧ isBeneficiary x = false ∧
      x.iMasterAccount.number? = some a.iAccount ∧ A.fetchAccount a.iAccount = some a

namespace Adapter

/-- A field query is answered with the accounts whose field contains the search in any case, at most 1000. -/
structure FieldQueries (db : Accounts) (A : Adapter) (ctx : Context) (search : String)
    (rows : Int × SearchField → List Account) : Prop where
  answer : ∀ task ∈ searchTasks ctx, ∀ limit, A.adminApi.getAccountList task.1
      { filter := some (task.2, "%" ++ search ++ "%"), limit := some limit, offset := some 0 } =
    .ok (some ⟨.val ((rows task).take limit), .val (rows task).length⟩)
  atMost : ∀ task ∈ searchTasks ctx, (rows task).length ≤ maxApiLimit
  mem : ∀ task ∈ searchTasks ctx, ∀ a,
    a ∈ rows task ↔ a ∈ db.of task.1 ∧ A.matchesText search (Database.searchValue task.2 a) = true

end Adapter

variable {db : Accounts} {A B : Adapter} {ctx : Adapter.Context} {search : String}
  {rows : Int × SearchField → List Account} {extensions : List Int}

/-! ## Projected accounts -/

theorem RowsComplete.absent : RowsComplete .absent := by
  unfold RowsComplete
  decide

theorem RowsComplete.keptRows {rows : Attr (List (Attr String))} (h : RowsComplete rows) :
    (keptRows rows).rows = rows.rows := by
  cases rows with
  | absent => rfl
  | null => exact absurd rfl h.1
  | val l =>
    show Except.ok (l.filter (· ≠ .absent)) = .ok l
    rw [List.filter_eq_self.2]
    intro row hrow
    have hne : row ≠ .absent := fun heq => h.2 (heq ▸ hrow)
    simpa using hne

theorem parseSmsNumbers_project {a : Account} (h : RowsComplete a.aliasDidNumberList) :
    parseSmsNumbers (projectAccount a) = parseSmsNumbers a := by
  simp only [parseSmsNumbers, projectAccount, h.keptRows]

theorem contactOf_project {a : Account} (h : RowsComplete a.aliasList) (h' : RowsComplete a.aliasDidNumberList) :
    A.contactOf ctx (projectAccount a) = A.contactOf ctx a := by
  have haliases : (projectAccount a).aliasList.rows = a.aliasList.rows := h.keptRows
  rw [Adapter.contactOf, getContactInfoByAccount, parseSmsNumbers_project h', haliases]
  rfl

theorem passesFilter_project (a : Account) :
    A.passesFilter ctx extensions (projectAccount a) = A.passesFilter ctx extensions a := rfl

theorem aliases_project (a : Account) (did : String) :
    ((projectAccount a).aliasList.rowsOrEmpty.any fun row => row.get? = some did) =
      a.aliasList.rowsOrEmpty.any fun row => row.get? = some did := by
  show (a.aliasList.rowsOrEmpty.filter (· ≠ .absent)).any _ = _
  rw [List.any_filter]
  congr 1
  funext row
  cases row <;> simp [Attr.get?]

theorem cachedMatches_project (a : Account) :
    A.cachedMatches ctx search (projectAccount a) = A.cachedMatches ctx search a := by
  rw [Adapter.cachedMatches, aliases_project]
  rfl

/-! ## The accounts of the offices -/

theorem mem_offices {a : Account} : a ∈ db.offices ctx ↔ ∃ c ∈ ctx.allICustomers, a ∈ db.of c := List.mem_flatMap

/-- An `i_account` is that of one account. -/
theorem offices_eq {a b : Account} (ha : a ∈ db.offices ctx) (hb : b ∈ db.offices ctx) (h : a.iAccount = b.iAccount) :
    a = b := by
  obtain ⟨c, _, ha⟩ := mem_offices.1 ha
  obtain ⟨c', _, hb⟩ := mem_offices.1 hb
  obtain rfl := db.disjoint c c' a b ha hb h
  exact List.inj_on_of_nodup_map (db.distinct c) ha hb h

theorem offices_nodup (h : ctx.allICustomers.Nodup) : ((db.offices ctx).map (·.iAccount)).Nodup := db.flatMap_nodup h

namespace Adapter

theorem mem_searchTasks {task : Int × SearchField} : task ∈ searchTasks ctx ↔ task.1 ∈ ctx.allICustomers := by
  obtain ⟨c, field⟩ := task
  simp only [searchTasks, List.mem_flatMap, List.mem_map, Prod.mk.injEq]
  constructor
  · rintro ⟨_, hc, _, _, rfl, _⟩
    exact hc
  · intro hc
    exact ⟨c, hc, field, by cases field <;> simp, rfl, rfl⟩

/-! ## The extensions -/

theorem matchingExtensions_ok (A : Adapter) (search : String) {list : List Extension}
    (h : ∀ ext ∈ list, ∃ id, ext.id = .val id) :
    ∃ found, A.matchingExtensions search list = .ok found ∧ ∀ i, i ∈ found ↔
      ∃ ext ∈ list, ∃ id, ext.id = .val id ∧ A.matchesText search id = true ∧ ext.iAccount.number? = some i := by
  let account : Extension → Option Int := fun ext =>
    if A.matchesText search (ext.id.get?.getD "") then ext.iAccount.number? else none
  have hfound : A.matchingExtensions search list = .ok ((list.map account).filterMap id) := by
    refine bind_ok.2 ⟨_, mapM_ok_map fun ext hext => ?_, rfl⟩
    obtain ⟨id, hid⟩ := h ext hext
    simp [account, hid, Attr.getD, Attr.get?]
  refine ⟨_, hfound, fun i => ?_⟩
  simp only [account, List.mem_filterMap, List.mem_map, id_eq, exists_eq_right]
  refine exists_congr fun ext => and_congr_right fun hext => ?_
  obtain ⟨id, hid⟩ := h ext hext
  simp [hid, Attr.get?]

theorem mem_extensionMatches {list : List Extension}
    (hlist : A.adminApi.getExtensionsList ctx.mainICustomer ctx.isHierarchy = .ok list)
    (h : ∀ ext ∈ list, ∃ id, ext.id = .val id) {i : Int} :
    i ∈ A.extensionMatches ctx search ↔
      ∃ ext ∈ list, ∃ id, ext.id = .val id ∧ A.matchesText search id = true ∧ ext.iAccount.number? = some i := by
  obtain ⟨found, hfound, hmem⟩ := matchingExtensions_ok A search h
  have hmatches : A.extensionMatches ctx search = found := by
    have hall : (A.adminApi.getExtensionsList ctx.mainICustomer ctx.isHierarchy >>= A.matchingExtensions search) =
        .ok found := bind_ok.2 ⟨_, hlist, hfound⟩
    rw [extensionMatches, hall]
  rw [hmatches, hmem]

/-- `ext_i_accounts` are the accounts of the matching extensions, in a hierarchy. -/
theorem mem_extIAccounts {list : List Extension}
    (hlist : A.adminApi.getExtensionsList ctx.mainICustomer ctx.isHierarchy = .ok list)
    (h : ∀ ext ∈ list, ∃ id, ext.id = .val id) {i : Int} :
    i ∈ A.extIAccounts ctx search ↔ ctx.isHierarchy = true ∧ i ∈ A.extensionMatches ctx search := by
  rw [mem_extensionMatches hlist h]
  cases hhierarchy : ctx.isHierarchy with
  | false => simp [extIAccounts, hhierarchy]
  | true =>
    rw [hhierarchy] at hlist
    obtain ⟨found, hfound, hmem⟩ := matchingExtensions_ok A search
      fun ext (hext : ext ∈ list.filter (·.iAccount.number?.isSome)) => h ext (List.mem_of_mem_filter hext)
    have hmatches : A.extIAccounts ctx search = found := by
      have hall : (A.adminApi.getExtensionsList ctx.mainICustomer true >>= fun extensions =>
          A.matchingExtensions search (extensions.filter (·.iAccount.number?.isSome))) = .ok found :=
        bind_ok.2 ⟨_, hlist, hfound⟩
      rw [extIAccounts, if_pos hhierarchy, hall]
    rw [hmatches, hmem]
    -- an extension without an account gives no match either way
    constructor
    · rintro ⟨ext, hext, hmatch⟩
      exact ⟨rfl, ext, List.mem_of_mem_filter hext, hmatch⟩
    · rintro ⟨_, ext, hext, id, hid, htext, hi⟩
      exact ⟨ext, List.mem_filter.2 ⟨hext, by rw [hi]; rfl⟩, id, hid, htext, hi⟩

/-! ## The matches of both -/

theorem matchesText_empty (hlower : ∀ s, A.runtime.lower s = "" ↔ s = "") (hsearch : search ≠ "") :
    A.matchesText search "" = false := by
  have hneedle : (A.runtime.lower search).toList ≠ [] := by
    intro hnil
    exact hsearch ((hlower search).1 (String.toList_eq_nil_iff.1 hnil))
  rw [matchesText, isIn, (hlower "").2 rfl]
  show (A.runtime.lower search).toList.isEmpty = false
  simpa using hneedle

theorem extensionMatches_office (hdb : Consistent db A ctx) {i : Int} (hi : i ∈ A.extensionMatches ctx search) :
    ∃ a ∈ db.offices ctx, a.iAccount = i ∧ A.fetchAccount i = some a := by
  obtain ⟨list, hlist, hleads, _⟩ := hdb.extensions
  have hids : ∀ ext ∈ list, ∃ id, ext.id = .val id := fun ext hext => (hleads ext hext).imp fun _ hid => hid.1
  obtain ⟨ext, hext, _, _, _, hi⟩ := (mem_extensionMatches hlist hids).1 hi
  obtain ⟨_, _, a, ha, hnumber, hfetch, _⟩ := hleads ext hext
  obtain rfl := Option.some.inj (hnumber.symm.trans hi)
  exact ⟨a, ha, rfl, hfetch⟩

/-- The account of a matching extension is found by its own `extension_id` or, in a hierarchy, by the list. -/
theorem extension_iff (hdb : Consistent db A ctx) (hlower : ∀ s, A.runtime.lower s = "" ↔ s = "")
    (hsearch : search ≠ "") {a : Account} (ha : a ∈ db.offices ctx) :
    (A.matchesText search (a.extensionId.get?.getD "") = true ∨ a.iAccount ∈ A.extIAccounts ctx search) ↔
      ∃ i ∈ A.extensionMatches ctx search, A.fetchAccount i = some a := by
  obtain ⟨list, hlist, hleads, hhas⟩ := hdb.extensions
  have hids : ∀ ext ∈ list, ∃ id, ext.id = .val id := fun ext hext => (hleads ext hext).imp fun _ hid => hid.1
  have hfetch : a.iAccount ∈ A.extensionMatches ctx search → A.fetchAccount a.iAccount = some a := by
    intro hmem
    obtain ⟨b, hb, heq, hfetch⟩ := extensionMatches_office hdb hmem
    rwa [offices_eq hb ha heq] at hfetch
  rw [mem_extIAccounts hlist hids]
  constructor
  · rintro (htext | ⟨_, hmem⟩)
    · have hmem : a.iAccount ∈ A.extensionMatches ctx search := by
        obtain ⟨id, hid⟩ : ∃ id, a.extensionId.text? = some id := by
          rw [← Option.isSome_iff_exists]
          cases hget : a.extensionId.get? with
          | none => simp [hget, matchesText_empty hlower hsearch] at htext
          | some id =>
            have hne : id ≠ "" := by
              rintro rfl
              simp [hget, matchesText_empty hlower hsearch] at htext
            simp [Attr.text?, hget, hne]
        have hget := Option.eq_some_of_filter_eq_some hid
        rw [hget] at htext
        obtain ⟨ext, hext, hextid, hnumber⟩ := hhas a ha id hid
        exact (mem_extensionMatches hlist hids).2 ⟨ext, hext, id, hextid, htext, hnumber⟩
      exact ⟨_, hmem, hfetch hmem⟩
    · exact ⟨_, hmem, hfetch hmem⟩
  · rintro ⟨i, hi, ha'⟩
    obtain rfl := hdb.fetched i a ha'
    cases hhierarchy : ctx.isHierarchy with
    | true => exact .inr ⟨rfl, hi⟩
    | false =>
      obtain ⟨ext, hext, id, hid, htext, hnumber⟩ := (mem_extensionMatches hlist hids).1 hi
      obtain ⟨id', hid', b, hb, hnumber', _, hown⟩ := hleads ext hext
      obtain rfl := Attr.val.inj (hid.symm.trans hid')
      obtain rfl := offices_eq ha hb (Option.some.inj (hnumber.symm.trans hnumber'))
      exact .inl (by rw [hown hhierarchy]; exact htext)

theorem cachedMatches_cases (A : Adapter) (ctx : Context) (search : String) (a : Account) :
    A.cachedMatches ctx search a = true ↔
      (∃ field, A.matchesText search (Database.searchValue field a) = true) ∨
        (A.matchesText search (a.extensionId.get?.getD "") = true ∨ a.iAccount ∈ A.extIAccounts ctx search) ∨
          (stripNumber search ≠ "" ∧ .val (stripNumber search) ∈ a.aliasList.rowsOrEmpty) := by
  have halias : (a.aliasList.rowsOrEmpty.any fun row => row.get? = some (stripNumber search)) = true ↔
      .val (stripNumber search) ∈ a.aliasList.rowsOrEmpty := by
    rw [List.any_eq_true]
    constructor
    · rintro ⟨row, hrow, hget⟩
      cases row with
      | val did =>
        simp only [Attr.get?, Option.some.injEq, decide_eq_true_eq] at hget
        exact hget ▸ hrow
      | absent => simp [Attr.get?] at hget
      | null => simp [Attr.get?] at hget
    · intro hrow
      exact ⟨_, hrow, by simp [Attr.get?]⟩
  have hfield : (∃ field, A.matchesText search (Database.searchValue field a) = true) ↔
      A.matchesText search (a.id.get?.getD "") = true ∨ A.matchesText search (a.firstname.get?.getD "") = true ∨
        A.matchesText search (a.lastname.get?.getD "") = true ∨
          A.matchesText search (a.extensionName.get?.getD "") = true ∨
            A.matchesText search (a.email.get?.getD "") = true := by
    constructor
    · rintro ⟨field, hmatch⟩
      cases field with
      | id => exact .inl hmatch
      | firstname => exact .inr (.inl hmatch)
      | lastname => exact .inr (.inr (.inl hmatch))
      | extensionName => exact .inr (.inr (.inr (.inl hmatch)))
      | email => exact .inr (.inr (.inr (.inr hmatch)))
    · rintro (hmatch | hmatch | hmatch | hmatch | hmatch)
      · exact ⟨.id, hmatch⟩
      · exact ⟨.firstname, hmatch⟩
      · exact ⟨.lastname, hmatch⟩
      · exact ⟨.extensionName, hmatch⟩
      · exact ⟨.email, hmatch⟩
  simp only [cachedMatches, Bool.or_eq_true, Bool.and_eq_true, decide_eq_true_eq, halias, hfield, List.any_cons,
    List.any_nil, Bool.or_false, or_assoc, ne_eq]

theorem found_office (hdb : Consistent db A ctx) (hfields : A.FieldQueries db ctx search rows) {a : Account}
    (h : A.Found ctx search rows a) : a ∈ db.offices ctx := by
  rcases h with ⟨htask, ha⟩ | ⟨hi, ha⟩
  · exact mem_offices.2 ⟨_, mem_searchTasks.1 htask, ((hfields.mem _ htask a).1 ha).1⟩
  · obtain ⟨b, hb, _, hfetch⟩ := extensionMatches_office hdb hi
    obtain rfl := Option.some.inj (ha.symm.trans hfetch)
    exact hb

theorem searched (hdb : Consistent db A ctx) (hfields : A.FieldQueries db ctx search rows) :
    A.Searched ctx search rows where
  answer := hfields.answer
  atMost := hfields.atMost
  fetched := hdb.fetched
  same _ _ ha hb heq := offices_eq (found_office hdb hfields ha) (found_office hdb hfields hb) heq

/-- The owner of the alias that is the search, unless the search names a beneficiary. -/
theorem aliasMatch_cases (hdb : Consistent db A ctx) {a : Account} (h : A.aliasMatch search = some a) :
    (a ∈ db.offices ctx ∧ stripNumber search ≠ "" ∧ .val (stripNumber search) ∈ a.aliasList.rowsOrEmpty) ∨
      isBeneficiary a = true := by
  unfold aliasMatch at h
  split at h
  · cases h
  · rename_i hdid
    split at h
    · rename_i x hx
      split at h
      · rename_i hmaster
        obtain ⟨m, hm⟩ := Option.isSome_iff_exists.1 hmaster
        cases hbeneficiary : isBeneficiary x with
        | true =>
          rw [resolveMaster, if_pos hbeneficiary] at h
          obtain rfl := Option.some.inj h
          exact .inr hbeneficiary
        | false =>
          obtain ⟨b, hb, hfetch, hrow⟩ := hdb.master _ x m hx hbeneficiary hm
          rw [resolveMaster, hbeneficiary, if_neg Bool.false_ne_true, hm] at h
          simp only [hfetch, Option.getD_some, Option.some.injEq] at h
          obtain rfl := h
          exact .inl ⟨hb, hdid, hrow⟩
      · cases h
    · cases h

theorem aliasMatch_of_row (hdb : Consistent db A ctx) {a : Account} (ha : a ∈ db.offices ctx)
    (hdid : stripNumber search ≠ "") (hrow : .val (stripNumber search) ∈ a.aliasList.rowsOrEmpty) :
    A.aliasMatch search = some a := by
  obtain ⟨x, hx, hbeneficiary, hm, hfetch⟩ := hdb.aliases a ha _ hrow
  rw [aliasMatch, if_neg hdid, hx]
  dsimp only
  rw [hm, Option.isSome_some, if_pos rfl, resolveMaster, hbeneficiary, if_neg Bool.false_ne_true, hm]
  simp [hfetch]

/-- The search leads to no beneficiary that passes the filters and to which neither a field query nor an extension
leads. -/
def NoStray (A : Adapter) (ctx : Context) (search : String) (rows : Int × SearchField → List Account)
    (extensions : List Int) : Prop :=
  ∀ x, A.aliasMatch search = some x → isBeneficiary x = true → A.passesFilter ctx extensions x = true →
    ∃ b, A.Found ctx search rows b ∧ b.iAccount = x.iAccount

/-- The matches of the switch are the accounts that the cached search keeps. -/
theorem match_iff (hdb : Consistent db A ctx) (hfields : A.FieldQueries db ctx search rows)
    (hlower : ∀ s, A.runtime.lower s = "" ↔ s = "") (hsearch : search ≠ "")
    (hstray : A.NoStray ctx search rows extensions) {a : Account} (hpasses : A.passesFilter ctx extensions a = true) :
    A.Match ctx search rows a ↔ a ∈ db.offices ctx ∧ A.cachedMatches ctx search a = true := by
  have hfield : a ∈ db.offices ctx → ((∃ field, A.matchesText search (Database.searchValue field a) = true) ↔
      ∃ task ∈ searchTasks ctx, a ∈ rows task) := by
    intro ha
    constructor
    · rintro ⟨field, hmatch⟩
      obtain ⟨c, hc, hac⟩ := mem_offices.1 ha
      have htask : (c, field) ∈ searchTasks ctx := mem_searchTasks.2 hc
      exact ⟨_, htask, (hfields.mem _ htask a).2 ⟨hac, hmatch⟩⟩
    · rintro ⟨task, htask, hmem⟩
      exact ⟨task.2, ((hfields.mem task htask a).1 hmem).2⟩
  constructor
  · rintro (hfound | ⟨halias, hnot⟩)
    · have ha := found_office hdb hfields hfound
      refine ⟨ha, (cachedMatches_cases A ctx search a).2 ?_⟩
      rcases hfound with ⟨htask, hmem⟩ | ⟨hi, hfetch⟩
      · exact .inl ((hfield ha).2 ⟨_, htask, hmem⟩)
      · exact .inr (.inl ((extension_iff hdb hlower hsearch ha).2 ⟨_, hi, hfetch⟩))
    · rcases aliasMatch_cases hdb halias with ⟨ha, hrow⟩ | hbeneficiary
      · exact ⟨ha, (cachedMatches_cases A ctx search a).2 (.inr (.inr hrow))⟩
      · obtain ⟨b, hfound, heq⟩ := hstray a halias hbeneficiary hpasses
        exact absurd heq (hnot b hfound)
  · rintro ⟨ha, hmatches⟩
    rcases (cachedMatches_cases A ctx search a).1 hmatches with hmatch | hmatch | ⟨hdid, hrow⟩
    · obtain ⟨task, htask, hmem⟩ := (hfield ha).1 hmatch
      exact .found (.field htask hmem)
    · obtain ⟨i, hi, hfetch⟩ := (extension_iff hdb hlower hsearch ha).1 hmatch
      exact .found (.extension hi hfetch)
    · by_cases hfound : ∃ b, A.Found ctx search rows b ∧ b.iAccount = a.iAccount
      · obtain ⟨b, hb, heq⟩ := hfound
        exact .found (offices_eq (found_office hdb hfields hb) ha heq ▸ hb)
      · exact .did (aliasMatch_of_row hdb ha hdid hrow) fun b hb heq => hfound ⟨b, hb, heq⟩

end Adapter

end PortaPhone.Contacts
