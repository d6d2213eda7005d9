import Mathlib
import PortaPhone.Contacts.CachedMatches
import PortaPhone.Contacts.Phonebook
/-!
# The contacts requests in `EXTENSIONS` mode (`portaswitch/adapter.py`)

| here | there |
| --- | --- |
| `ExtensionRow`, `ExtensionType` | a row of `extensions_list`, `PortaSwitchExtensionType` (`types.py:31`) |
| `getContactInfoByExtension` | the serializer of this name (`serializer.py:145`) |
| `isListed`          | the condition on an extension of both versions (`:1013`, `:1345`) |
| `accountToAliases`, `retrieveContacts` | `retrieve_contacts` (`:972`), the `EXTENSIONS` case |
| `extensionMatches`, `fetchedContact`, `retrieveContactsV2` | `retrieve_contacts_v2` (`:1145`), the `EXTENSIONS` case |

The first version reads the accounts of all offices for the aliases of the extensions; the second one fetches the
account of each extension that it lists. `extensions_walk`: they list the same contacts up to the numbers for
messages, which only the second one has, and the pages of a search go through those that it matches.
-/

namespace PortaPhone.Contacts

open Fallible Paging

/-! ## The switch -/

inductive ExtensionType
  | unassigned
  | account
  | group
deriving DecidableEq, Repr

def ExtensionType.value : ExtensionType → String
  | unassigned => "Unassigned"
  | account => "Account"
  | group => "Group"

structure ExtensionRow extends Extension where
  type : Attr String := .absent
  name : Attr String := .absent
  firstname : Attr String := .absent
  lastname : Attr String := .absent
  email : Attr String := .absent
  didNumber : Attr String := .absent
  aliasDidNumberList : Attr (List (Attr String)) := .absent
deriving DecidableEq, Repr

/-- `getExtensionRows` is `get_extensions_list` with all that its rows have. -/
structure ExtensionsAdapter extends Adapter where
  contactsSelectingExtensionTypes : List ExtensionType
  getExtensionRows : Int → Bool → Except Raised (List ExtensionRow)

/-! ## One contact -/

/-- The row, as far as `_parse_sms_numbers` reads it. -/
def ExtensionRow.asRecord (ext : ExtensionRow) : Account where
  iAccount := 0
  didNumber := ext.didNumber
  aliasDidNumberList := ext.aliasDidNumberList

/-- Aliases that are null cannot be iterated over. -/
def getContactInfoByExtension (ext : ExtensionRow) (aliases : Option (List (Attr String))) (currentUser : Int)
    (account : Option Account) : Except Raised ContactInfo := do
  let aliases ← (aliases.elim (.error .typeError) .ok : Except Raised (List (Attr String)))
  let additional ← aliases.mapM (·.index "id")
  let sms ← parseSmsNumbers (account.getD ext.asRecord)
  let additional ← additional.mapM (requireStr "additional")
  let main ← requireStr "main" ext.id.get?
  let sms ← sms.mapM (requireStr "sms")
  return {
    userId := ext.iAccount.number?.map toString
    isCurrentUser := some (ext.iAccount.get? = some currentUser)
    aliasName := ext.name.getD ""
    firstName := ext.firstname.getD ""
    lastName := ext.lastname.getD ""
    numbers := { additional := some additional, main, sms := some sms } }

namespace ExtensionsAdapter

variable (A : ExtensionsAdapter) (ctx : Adapter.Context)

def isListed (ext : ExtensionRow) : Except Raised Bool := do
  let type ← ext.type.index "type"
  return type.any (· ∈ A.contactsSelectingExtensionTypes.map ExtensionType.value) &&
    ext.iAccount.get? ≠ some ctx.caller.iAccount

/-! ## The first version -/

def accountToAliases (accounts : List Account) : Dict Int (Option (List (Attr String))) :=
  Dict.empty.update (accounts.map fun account => (account.iAccount, account.aliasList.getD []))

/-- `account_to_aliases.get(ext.get("i_account"), [])`. -/
def aliasesOf (aliases : Dict Int (Option (List (Attr String)))) (ext : ExtensionRow) : Option (List (Attr String)) :=
  (ext.iAccount.get?.bind aliases.get?).getD (some [])

def retrieveContacts : Except Raised (List ContactInfo) := Adapter.translateExpired do
  let ctx := A.context (← A.accountInfo)
  let accounts ← ctx.allICustomers.mapM A.accountsOf
  let aliases := accountToAliases accounts.flatten
  let extensions ← A.getExtensionRows ctx.mainICustomer ctx.isHierarchy
  let contacts ← extensions.mapM fun ext => do
    if ← A.isListed ctx ext then
      return some (← getContactInfoByExtension ext (aliasesOf aliases ext) ctx.caller.iAccount none)
    else return none
  return contacts.filterMap id ++ (← A.customContacts)

/-! ## The second version -/

/-- The fields of an extension that a search goes through. -/
def searchFields (ext : ExtensionRow) : List (Attr String) := [ext.id, ext.firstname, ext.lastname, ext.name, ext.email]

/-- The search stops at the first match; a null before it raises. -/
def anyMatches (search : String) : List (Attr String) → Except Raised Bool
  | [] => .ok false
  | field :: fields =>
    match field.getD "" with
    | none => .error .attributeError
    | some value => if A.matchesText search value then .ok true else anyMatches search fields

def extensionMatches (search : Option String) (ext : ExtensionRow) : Except Raised Bool :=
  match search.filter (· ≠ "") with
  | none => .ok true
  | some search => A.anyMatches search (searchFields ext)

/-- `_get_account_for_ext`. -/
def accountForExt (ext : ExtensionRow) : Option Account := ext.iAccount.number?.bind A.fetchAccount

def fetchedContact (ext : ExtensionRow) : Except Raised ContactInfo :=
  let account := A.accountForExt ext
  getContactInfoByExtension ext (account.elim (some []) (·.aliasList.getD [])) ctx.caller.iAccount account

def retrieveContactsV2 (search : Option String) (page itemsPerPage : Nat) (smsCapable : Bool) :
    Except Raised (List ContactInfo × Int) := Adapter.translateExpired do
  let ctx := A.context (← A.accountInfo)
  let extensions ← A.getExtensionRows ctx.mainICustomer ctx.isHierarchy
  let filteredExtensions ← keep (A.isListed ctx) extensions
  let filteredExtensions ← keep (A.extensionMatches search) filteredExtensions
  let contacts ← filteredExtensions.mapM (A.fetchedContact ctx)
  let customContacts ← A.customContacts
  let contacts := Adapter.smsOnly smsCapable (contacts ++ A.customFor search customContacts)
  return (pageOf page itemsPerPage contacts, (contacts.length : Int))

/-! ## The contacts of both versions -/

/-- The accounts of the extensions are those of the offices, and are answered with their aliases and DIDs. -/
structure Staffed (db : Accounts) (A : ExtensionsAdapter) (ctx : Adapter.Context) (extensions : List ExtensionRow) :
    Prop where
  positive : ∀ a ∈ db.offices ctx, a.iAccount ≠ 0
  aliases : ∀ a ∈ db.offices ctx, RowsComplete a.aliasList
  sms : ∀ a ∈ db.offices ctx, ∃ sms : List String, parseSmsNumbers a = .ok (sms.map some)
  accounts : ∀ ext ∈ extensions, ∀ i, ext.iAccount.number? = some i →
    ∃ a ∈ db.offices ctx, a.iAccount = i ∧ A.fetchAccount i = some a
  /-- No row has a null in a field that a search goes through. -/
  fields : ∀ ext ∈ extensions, .null ∉ searchFields ext

/-- The contact without its numbers for messages. -/
def withoutSms (contact : ContactInfo) : ContactInfo := { contact with numbers := { contact.numbers with sms := none } }

variable {A ctx} {db : Accounts} {extensions : List ExtensionRow}

theorem anyMatches_total (search : String) {fields : List (Attr String)} (h : .null ∉ fields) :
    ∃ b, A.anyMatches search fields = .ok b := by
  induction fields with
  | nil => exact ⟨_, rfl⟩
  | cons field fields ih =>
    rw [List.mem_cons, not_or] at h
    rw [anyMatches]
    cases field with
    | null => exact absurd rfl h.1
    | absent =>
      simp only [Attr.getD]
      split
      · exact ⟨_, rfl⟩
      · exact ih h.2
    | val value =>
      simp only [Attr.getD]
      split
      · exact ⟨_, rfl⟩
      · exact ih h.2

theorem extensionMatches_total (hstaff : Staffed db A ctx extensions) (search : Option String) :
    ∀ ext ∈ extensions, ∃ b, A.extensionMatches search ext = .ok b := by
  intro ext hext
  unfold extensionMatches
  split
  · exact ⟨_, rfl⟩
  · exact anyMatches_total _ (hstaff.fields ext hext)

/-! ## Aliases -/

/-- What the first version finds under an account of the offices. -/
theorem accountToAliases_get? {accounts : List Account} (hperm : accounts.Perm (A.seen db ctx.allICustomers))
    {a : Account} (ha : a ∈ db.offices ctx) :
    (accountToAliases accounts).get? a.iAccount = some ((A.view a).aliasList.getD []) := by
  refine Dict.get?_update_mem ?_ ?_
  · rintro ⟨key, value⟩ he hkey
    obtain ⟨b, hb, heq⟩ := List.mem_map.1 he
    obtain ⟨rfl, rfl⟩ := Prod.mk.inj heq
    obtain ⟨c, hc, hseen⟩ := List.mem_flatMap.1 (hperm.subset hb)
    obtain ⟨b, hof, rfl⟩ := List.mem_map.1 hseen
    have hsame : b.iAccount = a.iAccount := (A.view_iAccount b).symm.trans hkey
    rw [offices_eq (mem_offices.2 ⟨c, hc, hof⟩) ha hsame]
  · obtain ⟨c, hc, ha⟩ := mem_offices.1 ha
    have hmem : A.view a ∈ accounts := hperm.symm.subset (List.mem_flatMap.2 ⟨c, hc, List.mem_map_of_mem ha⟩)
    exact List.mem_map.2 ⟨A.view a, hmem, by rw [A.view_iAccount]⟩

theorem accountToAliases_zero {accounts : List Account} (hperm : accounts.Perm (A.seen db ctx.allICustomers))
    (hpositive : ∀ a ∈ db.offices ctx, a.iAccount ≠ 0) : (accountToAliases accounts).get? 0 = none := by
  rw [accountToAliases, Dict.get?_update_other, Dict.get?_empty]
  intro hkey
  obtain ⟨⟨key, value⟩, he, rfl⟩ := List.mem_map.1 hkey
  obtain ⟨b, hb, heq⟩ := List.mem_map.1 he
  obtain ⟨c, hc, hseen⟩ := List.mem_flatMap.1 (hperm.subset hb)
  obtain ⟨b, hof, rfl⟩ := List.mem_map.1 hseen
  exact hpositive b (mem_offices.2 ⟨c, hc, hof⟩) ((A.view_iAccount b).symm.trans (Prod.mk.inj heq).1)

/-- A projected account has the aliases of the account. -/
theorem aliases_view {a : Account} (h : RowsComplete a.aliasList) :
    (A.view a).aliasList.getD [] = a.aliasList.getD [] := by
  have hkept : (keptRows a.aliasList).getD [] = a.aliasList.getD [] := by
    have hrows := h.keptRows
    cases haliases : a.aliasList with
    | absent => rfl
    | null => exact absurd haliases h.1
    | val l =>
      rw [haliases] at hrows
      exact congrArg some (Except.ok.inj hrows)
  unfold Adapter.view
  split
  · rfl
  · exact hkept

/-- Both versions give an extension the same aliases. -/
theorem aliases_eq (hstaff : Staffed db A ctx extensions) {accounts : List Account}
    (hperm : accounts.Perm (A.seen db ctx.allICustomers)) {ext : ExtensionRow} (hext : ext ∈ extensions) :
    aliasesOf (accountToAliases accounts) ext = (A.accountForExt ext).elim (some []) (·.aliasList.getD []) := by
  cases hnumber : ext.iAccount.number? with
  | none =>
    rw [accountForExt, hnumber, Option.bind_none, Option.elim_none, aliasesOf]
    cases hget : ext.iAccount.get? with
    | none => rfl
    | some i =>
      have hzero : i = 0 := by
        rw [Attr.number?, hget, Option.filter_some] at hnumber
        simpa using hnumber
      rw [hzero, Option.bind_some, accountToAliases_zero hperm hstaff.positive]
      rfl
  | some i =>
    obtain ⟨a, ha, rfl, hfetch⟩ := hstaff.accounts ext hext i hnumber
    have hget : ext.iAccount.get? = some a.iAccount := Option.eq_some_of_filter_eq_some hnumber
    rw [accountForExt, hnumber, Option.bind_some, hfetch, Option.elim_some, aliasesOf, hget, Option.bind_some,
      accountToAliases_get? hperm ha, Option.getD_some, aliases_view (hstaff.aliases a ha)]

/-! ## The contacts of both versions -/

/-- With an account the contact of an extension has the account's numbers for messages. -/
theorem contact_of_account {ext : ExtensionRow} {aliases : Option (List (Attr String))} {currentUser : Int}
    {contact : ContactInfo} (h : getContactInfoByExtension ext aliases currentUser none = .ok contact)
    {account : Account}
    {sms : List String} (hsms : parseSmsNumbers account = .ok (sms.map some)) :
    getContactInfoByExtension ext aliases currentUser (some account) =
      .ok { contact with numbers := { contact.numbers with sms := some sms } } := by
  have hstrings : (sms.map some).mapM (requireStr "sms") = .ok sms := by
    rw [mapM_ok, List.forall₂_map_left_iff]
    exact List.forall₂_same.2 fun _ _ => rfl
  simp only [getContactInfoByExtension, bind_ok, pure_ok] at h ⊢
  obtain ⟨rows, hrows, additional, hadditional, _, _, texts, htexts, main, hmain, _, _, rfl⟩ := h
  exact ⟨rows, hrows, additional, hadditional, _, hsms, texts, htexts, main, hmain, sms, hstrings, rfl⟩

theorem fetchedContact_of_first (hstaff : Staffed db A ctx extensions) {accounts : List Account}
    (hperm : accounts.Perm (A.seen db ctx.allICustomers)) {ext : ExtensionRow} (hext : ext ∈ extensions)
    {contact : ContactInfo}
    (h : getContactInfoByExtension ext (aliasesOf (accountToAliases accounts) ext) ctx.caller.iAccount none =
      .ok contact) :
    ∃ fetched, A.fetchedContact ctx ext = .ok fetched ∧ withoutSms fetched = withoutSms contact := by
  rw [aliases_eq hstaff hperm hext] at h
  unfold fetchedContact
  cases haccount : A.accountForExt ext with
  | none =>
    rw [haccount] at h
    exact ⟨contact, h, rfl⟩
  | some account =>
    rw [haccount] at h
    obtain ⟨i, hnumber, hfetch⟩ := Option.bind_eq_some_iff.1 haccount
    obtain ⟨a, ha, _, hfetch'⟩ := hstaff.accounts ext hext i hnumber
    obtain rfl := Option.some.inj (hfetch'.symm.trans hfetch)
    obtain ⟨sms, hsms⟩ := hstaff.sms a ha
    exact ⟨_, contact_of_account h hsms, rfl⟩

theorem isCurrentUser_of_listed {ext : ExtensionRow} (h : holds (A.isListed ctx) ext = true)
    {aliases : Option (List (Attr String))} {account : Option Account} {contact : ContactInfo}
    (hcontact : getContactInfoByExtension ext aliases ctx.caller.iAccount account = .ok contact) :
    contact.isCurrentUser ≠ some true := by
  simp only [getContactInfoByExtension, bind_ok, pure_ok] at hcontact
  obtain ⟨_, _, _, _, _, _, _, _, _, _, _, _, rfl⟩ := hcontact
  unfold holds isListed at h
  cases htype : ext.type.index "type" with
  | error e => rw [htype] at h; cases h
  | ok type =>
    rw [htype] at h
    have hother : ext.iAccount.get? ≠ some ctx.caller.iAccount := by
      simpa using ((Bool.and_eq_true _ _).mp h).2
    simp [hother]

theorem mapM_fetched {contacts : List ContactInfo} {listed : List ExtensionRow}
    {first : ExtensionRow → Except Raised ContactInfo} (h : listed.mapM first = .ok contacts)
    (hfetched : ∀ ext ∈ listed, ∀ contact, first ext = .ok contact →
      ∃ fetched, A.fetchedContact ctx ext = .ok fetched ∧ withoutSms fetched = withoutSms contact) :
    ∃ withSms, listed.mapM (A.fetchedContact ctx) = .ok withSms ∧ withSms.map withoutSms = contacts.map withoutSms := by
  induction listed generalizing contacts with
  | nil =>
    obtain rfl := pure_ok.1 h
    exact ⟨[], rfl, rfl⟩
  | cons ext listed ih =>
    simp only [List.mapM_cons, bind_ok, pure_ok] at h
    obtain ⟨contact, hcontact, rest, hrest, rfl⟩ := h
    obtain ⟨fetched, hfetch, hsame⟩ := hfetched ext List.mem_cons_self contact hcontact
    obtain ⟨withSms, hwith, hall⟩ := ih hrest fun e he => hfetched e (List.mem_cons_of_mem ext he)
    refine ⟨fetched :: withSms, ?_, by rw [List.map_cons, List.map_cons, hsame, hall]⟩
    rw [List.mapM_cons, hfetch, ok_bind, hwith]
    rfl

/-- **Extensions**: of the rows of the switch both versions list the same, the second one with numbers for messages; the
pages of a request go through the contacts of those that its search matches. -/
theorem extensions_walk {caller : Caller} (hA : Lists db A.toAdapter)
    (hrows : A.getExtensionRows (A.context caller).mainICustomer (A.context caller).isHierarchy = .ok extensions)
    (hstaff : Staffed db A (A.context caller) extensions) (hcaller : A.accountInfo = .ok caller)
    {all : List ContactInfo}
    (h : A.retrieveContacts = .ok all) :
    ∃ (listed : List ExtensionRow) (contacts withSms custom : List ContactInfo),
      all = contacts ++ custom ∧ A.customContacts = .ok custom ∧
      keep (A.isListed (A.context caller)) extensions = .ok listed ∧
      listed.mapM (A.fetchedContact (A.context caller)) = .ok withSms ∧
        withSms.map withoutSms = contacts.map withoutSms ∧ (∀ c ∈ contacts, c.isCurrentUser ≠ some true) ∧
          ∀ search smsCapable n, 1 ≤ n → ∃ found,
            (listed.filter (holds (A.extensionMatches search))).mapM (A.fetchedContact (A.context caller)) = .ok found ∧
              Walk (fun page => A.retrieveContactsV2 search page n smsCapable) n
                (Adapter.smsOnly smsCapable (found ++ A.customFor search custom)) := by
  obtain ⟨lists, hlists, hperm⟩ := hA.accounts (A.context caller).allICustomers
  rw [retrieveContacts, Adapter.translateExpired_ok, hcaller, ok_bind] at h
  simp only [hlists, hrows, ok_bind] at h
  obtain ⟨appended, happended, h⟩ := bind_ok.1 h
  obtain ⟨custom, hcustom, h⟩ := bind_ok.1 h
  obtain rfl := pure_ok.1 h
  obtain ⟨hall, hcontacts⟩ := mapM_of_loop happended
  have hlisted : ∀ ext ∈ extensions.filter (holds (A.isListed (A.context caller))), ext ∈ extensions :=
    fun ext hext => List.mem_of_mem_filter hext
  obtain ⟨withSms, hwith, hsame⟩ := mapM_fetched hcontacts fun ext hext contact hcontact =>
    fetchedContact_of_first hstaff hperm (hlisted ext hext) hcontact
  have hkept := keep_ok.2 ⟨hall, rfl⟩
  refine ⟨_, _, withSms, custom, rfl, hcustom, hkept, hwith, hsame, fun c hc => ?_, fun search smsCapable n hn => ?_⟩
  · obtain ⟨ext, hext, hcontact⟩ := of_mem_mapM hcontacts hc
    exact isCurrentUser_of_listed (List.of_mem_filter hext) hcontact
  · obtain ⟨found, hfound⟩ := mapM_exists fun ext hext => by
      obtain ⟨contact, _, hcontact⟩ := mem_of_mapM hwith (List.mem_of_mem_filter hext)
      exact ⟨contact, hcontact⟩
    refine ⟨found, hfound, walk_of_pageOf hn fun page _ => ?_⟩
    have hmatched := keep_ok.2 ⟨fun ext hext => extensionMatches_total hstaff search ext (hlisted ext hext), rfl⟩
    rw [retrieveContactsV2, Adapter.translateExpired_ok, hcaller, ok_bind]
    simp only [hrows, hkept, hmatched, hfound, hcustom, ok_bind]
    rfl

/-! ## The extensions of an office -/

def officeRows : List ExtensionRow := [
  { id := .val "12", iAccount := .val 12, type := .val "Account", name := .val "Ann" },
  { id := .val "11", iAccount := .val 11, type := .val "Account", name := .val "Me" },
  { id := .val "13", type := .val "Unassigned", name := .val "Spare" }]

/-- The adapter at work for the account 11. -/
def officeExtensions : ExtensionsAdapter where
  toAdapter := (PhonebookAdapter.officePhonebook [PhonebookAdapter.receptionEntry] []).toAdapter
  contactsSelectingExtensionTypes := [.account]
  getExtensionRows _ _ := .ok officeRows

theorem officeExtensions_lists : Lists PhonebookAdapter.officeAccounts.listed officeExtensions.toAdapter where
  slices := PhonebookAdapter.officeAccounts.slices
  asked _ := ⟨[], by simp, rfl⟩
  locked _ := ⟨[], by simp, rfl⟩

theorem officeExtensions_staffed :
    Staffed PhonebookAdapter.officeAccounts.listed officeExtensions (officeExtensions.context ⟨1, 11⟩) officeRows where
  positive := by decide
  aliases := by
    unfold RowsComplete
    decide
  sms a ha := by
    have hnone : ∀ a ∈ PhonebookAdapter.officeAccounts.listed.offices (officeExtensions.context ⟨1, 11⟩),
        parseSmsNumbers a = .ok [] := by decide
    exact ⟨[], hnone a ha⟩
  accounts := by
    have hfetch : ∀ i ∈ [12, 11],
        ∃ a ∈ PhonebookAdapter.officeAccounts.listed.offices (officeExtensions.context ⟨1, 11⟩),
        a.iAccount = i ∧ officeExtensions.fetchAccount i = some a := by decide
    intro ext hext i hi
    have hnumbers : ∀ ext ∈ officeRows, ∀ i ∈ ext.iAccount.number?, i ∈ [(12 : Int), 11] := by decide
    exact hfetch i (hnumbers ext hext i hi)
  fields := by decide

theorem extensions_walk_office : ∃ all found custom, officeExtensions.retrieveContacts = .ok all ∧
    all.map (·.numbers.main) = ["12", "100"] ∧
      Walk (fun page => officeExtensions.retrieveContactsV2 (some "Ann") page 1 false) 1
        (Adapter.smsOnly false (found ++ officeExtensions.customFor (some "Ann") custom)) := by
  have hfirst : officeExtensions.retrieveContacts = .ok _ := rfl
  obtain ⟨_, _, _, custom, _, _, _, _, _, _, hpages⟩ :=
    extensions_walk officeExtensions_lists rfl officeExtensions_staffed rfl hfirst
  obtain ⟨found, _, hwalk⟩ := hpages (some "Ann") false 1 le_rfl
  exact ⟨_, found, custom, hfirst, rfl, hwalk⟩

end ExtensionsAdapter

end PortaPhone.Contacts
