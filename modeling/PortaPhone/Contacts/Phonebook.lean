import Mathlib
import PortaPhone.Contacts.NumberMap
import PortaPhone.Contacts.Isolation
/-!
# The contacts request in `PHONEBOOK` mode (`portaswitch/adapter.py`)

| here | there |
| --- | --- |
| `phonebookList`           | `AccountAPI.get_phonebook_list` (`api/account.py:252`) |
| `buildPhonebookContacts`, `recordContact` | `_build_phonebook_contacts` (`adapter.py:1656`) and its loop |
| `phonebookQuery`, `phonebookPage` | the `PHONEBOOK` case without a search (`:1717-1742`) |
| `retrieveContactsV2`      | `retrieve_contacts_v2` (`:1145`) without a search and without numbers to look up |

A page is put together from the custom contacts and a slice of the phonebook. `phonebook_pages_iff`: that is
right when the custom contacts leave room on the first page and no record is the caller's own number.
-/

namespace PortaPhone.Contacts

open Fallible Paging

/-! ## The request -/

/-- A row of the phonebook of an account. -/
structure PhonebookRecord where
  name : Attr String := .absent
  phoneNumber : Attr String := .absent
deriving DecidableEq, Repr

structure PhonebookParams where
  limit : Int
  offset : Int
deriving DecidableEq, Repr

structure PhonebookReply where
  phonebookRecList : Attr (List PhonebookRecord) := .absent
  total : Attr Int := .absent
deriving DecidableEq, Repr

/-- An adapter whose contacts are those of the caller's phonebook. -/
structure PhonebookAdapter extends Adapter where
  contactsSelectingCustomerIds : List String := []
  getPhonebookList : PhonebookParams → Except Raised PhonebookReply

/-- `number.replace("+", "")`. -/
def dropPlus (number : String) : String := String.ofList (number.toList.filter (· ≠ '+'))

def getContactInfoByPhonebookRecord (record : PhonebookRecord) : Except Raised ContactInfo := do
  let main ← requireStr "main" record.phoneNumber.get?
  return { aliasName := record.name.getD "", numbers := { main } }

/-- What `get_phonebook_list` asks of the switch. -/
def phonebookList (page itemsPerPage : Nat) (offset limit : Option Int) : PhonebookParams where
  limit := limit.getD itemsPerPage
  offset := offset.getD (itemsPerPage * ((page : Int) - 1))

/-- The slice for a page, with so many custom contacts in front of the phonebook. -/
def phonebookQuery (page itemsPerPage customContactsCount : Nat) : PhonebookParams :=
  if 0 < customContactsCount then
    if page = 1 then
      phonebookList page itemsPerPage (some 0) (some (max 1 ((itemsPerPage : Int) - customContactsCount)))
    else
      phonebookList page itemsPerPage
        (some (((page : Int) - 1) * itemsPerPage - customContactsCount)) (some itemsPerPage)
  else phonebookList page itemsPerPage none none

namespace PhonebookAdapter

variable (A : PhonebookAdapter) (ctx : Adapter.Context)

/-- One round of the loop: the contact of a record, made from the account its number leads to. -/
def recordContact (numToAcc : String → Option Account) (record : PhonebookRecord) : Except Raised ContactInfo := do
  match record.phoneNumber.get? with
  | none => .error .attributeError
  | some phoneNumber =>
    let pbContact ← getContactInfoByPhonebookRecord record
    match numToAcc (dropPlus phoneNumber) with
    | some account =>
      let contact ← A.contactOf ctx account
      return { contact with
        aliasName := pbContact.aliasName
        numbers := { contact.numbers with main := dropPlus phoneNumber } }
    | none =>
      if pbContact.numbers.main ≠ "" then
        return { pbContact with numbers := { pbContact.numbers with main := dropPlus pbContact.numbers.main } }
      return pbContact

/-- `pb_numbers`. -/
def pbNumbers (records : List PhonebookRecord) : List String :=
  (records.filterMap fun record => record.phoneNumber.text?.map dropPlus).dedup

def otherUsers (contacts : List ContactInfo) : List ContactInfo := contacts.filter (·.isCurrentUser ≠ some true)

def buildPhonebookContacts (records : List PhonebookRecord) : Except Raised (List ContactInfo) := do
  let numToAcc := A.numberToAccounts A.contactsSelectingCustomerIds (pbNumbers records)
  return otherUsers (← records.mapM (A.recordContact ctx numToAcc.get?))

def phonebookPage (page itemsPerPage : Nat) : Except Raised (List ContactInfo × Int) := do
  let customContacts ← A.customContacts
  let pbResult ← A.getPhonebookList (phonebookQuery page itemsPerPage customContacts.length)
  let contacts ← A.buildPhonebookContacts ctx (← pbResult.phonebookRecList.rows)
  let contacts := if page = 1 then customContacts ++ contacts else contacts
  match pbResult.total.getD 0 with
  | none => .error .typeError
  | some pbTotal => return (contacts, pbTotal + customContacts.length)

def retrieveContactsV2 (page itemsPerPage : Nat) : Except Raised (List ContactInfo × Int) := Adapter.translateExpired do
  A.phonebookPage (A.context (← A.accountInfo)) page itemsPerPage

/-! ## The contact of a record by itself -/

/-- The account the number of a record leads to. -/
def accountOfRecord (record : PhonebookRecord) : Option Account :=
  record.phoneNumber.get?.bind fun number => A.accountOfNumber A.contactsSelectingCustomerIds (dropPlus number)

/-- The contact of a record, whatever other records it is read with. -/
def contactOfRecord (record : PhonebookRecord) : Except Raised ContactInfo :=
  A.recordContact ctx (A.accountOfNumber A.contactsSelectingCustomerIds) record

/-- The switch answers with slices of this phonebook, and with its length. -/
def ServesPhonebook (records : List PhonebookRecord) : Prop :=
  ∀ limit offset : Nat, A.getPhonebookList { limit, offset } =
    .ok ⟨.val ((records.drop offset).take limit), .val records.length⟩

/-- Going through the pages of `n` contacts gives `all`, and the total is their number. -/
structure GoesThrough (n customContactsCount : Nat) (all : List ContactInfo) : Prop where
  offset : ∀ page, 1 ≤ page → 0 ≤ (phonebookQuery page n customContactsCount).offset
  page : ∀ page, 1 ≤ page → ∃ items, A.retrieveContactsV2 page n = .ok (items, (all.length : Int)) ∧ items.length ≤ n
  concat : (List.range' 1 (pageCount n all.length)).flatMap (fun page => itemsOf (A.retrieveContactsV2 page n)) = all

/-- The pages are the custom contacts and the contacts of the phonebook but the caller. -/
def PagesRight (records : List PhonebookRecord) (n : Nat) : Prop :=
  ∃ custom contacts, A.customContacts = .ok custom ∧ records.mapM (A.contactOfRecord ctx) = .ok contacts ∧
    A.GoesThrough n custom.length (custom ++ otherUsers contacts)

/-! ## Slices of the phonebook -/

variable {A ctx} {records : List PhonebookRecord} {contacts : List ContactInfo}

theorem mem_pbNumbers {record : PhonebookRecord} (hmem : record ∈ records) {number : String}
    (h : record.phoneNumber.text? = some number) : dropPlus number ∈ pbNumbers records := by
  simp only [pbNumbers, List.mem_dedup, List.mem_filterMap]
  exact ⟨record, hmem, by simp [h]⟩

/-- On a page a record has the contact that it has by itself. -/
theorem recordContact_eq (hnumbers : ∀ r ∈ records, r.phoneNumber.text?.isSome) {record : PhonebookRecord}
    (hmem : record ∈ records) :
    A.recordContact ctx (A.numberToAccounts A.contactsSelectingCustomerIds (pbNumbers records)).get? record =
      A.contactOfRecord ctx record := by
  obtain ⟨number, hnumber⟩ := Option.isSome_iff_exists.1 (hnumbers record hmem)
  have hget : record.phoneNumber.get? = some number := Option.eq_some_of_filter_eq_some hnumber
  have haccount := A.numberToAccounts_get? A.contactsSelectingCustomerIds (mem_pbNumbers hmem hnumber)
  unfold contactOfRecord recordContact
  simp only [hget, haccount]

theorem buildPhonebookContacts_slice (hnumbers : ∀ r ∈ records, r.phoneNumber.text?.isSome)
    (h : records.mapM (A.contactOfRecord ctx) = .ok contacts) (offset limit : Nat) :
    A.buildPhonebookContacts ctx ((records.drop offset).take limit) =
      .ok (otherUsers ((contacts.drop offset).take limit)) := by
  have hslice : ∀ r ∈ (records.drop offset).take limit, r.phoneNumber.text?.isSome :=
    fun r hr => hnumbers r (List.mem_of_mem_drop (List.mem_of_mem_take hr))
  simp only [buildPhonebookContacts, bind_ok, pure_ok]
  exact ⟨_, (mapM_congr fun r hr => recordContact_eq hslice hr).trans (mapM_slice h offset limit), rfl⟩

/-- The contact of a record is the caller's when its number leads to the caller's account. -/
theorem contactOfRecord_isCurrentUser {record : PhonebookRecord} {contact : ContactInfo}
    (h : A.contactOfRecord ctx record = .ok contact) :
    contact.isCurrentUser = some true ↔
      ∃ account, A.accountOfRecord record = some account ∧ account.iAccount = ctx.caller.iAccount := by
  unfold contactOfRecord recordContact at h
  unfold accountOfRecord
  cases hnumber : record.phoneNumber.get? with
  | none => simp [hnumber] at h
  | some number =>
    simp only [hnumber, bind_ok] at h
    obtain ⟨pbContact, hpb, h⟩ := h
    have hnobody : pbContact.isCurrentUser = none := by
      simp only [getContactInfoByPhonebookRecord, bind_ok, pure_ok] at hpb
      obtain ⟨_, _, rfl⟩ := hpb
      rfl
    cases haccount : A.accountOfNumber A.contactsSelectingCustomerIds (dropPlus number) with
    | none =>
      have hnone : contact.isCurrentUser = none := by
        simp only [haccount] at h
        split at h
        · obtain rfl := pure_ok.1 h
          exact hnobody
        · obtain rfl := pure_ok.1 h
          exact hnobody
      simp [hnone, haccount]
    | some account =>
      simp only [haccount, bind_ok, pure_ok] at h
      obtain ⟨own, hown, rfl⟩ := h
      simp [haccount, getContactInfoByAccount_isCurrentUser hown]

/-! ## Pages -/

theorem phonebookQuery_one {n : Nat} (hn : 1 ≤ n) (k : Nat) :
    phonebookQuery 1 n k = { limit := (max 1 (n - k) : Nat), offset := (0 : Nat) } := by
  unfold phonebookQuery phonebookList
  by_cases hk : 0 < k
  · simp only [hk, if_true, Option.getD_some, PhonebookParams.mk.injEq, Nat.cast_zero, and_true]
    omega
  · have hlimit : max 1 (n - k) = n := by omega
    simp [hk, hlimit]

theorem phonebookQuery_later {page n k : Nat} (hpage : 1 < page) (hk : k ≤ (page - 1) * n) :
    phonebookQuery page n k = { limit := (n : Nat), offset := ((page - 1) * n - k : Nat) } := by
  have hoffset : (((page - 1) * n - k : Nat) : Int) = ((page : Int) - 1) * n - k := by
    rw [Nat.cast_sub hk, Nat.cast_mul, Nat.cast_sub (by omega), Nat.cast_one]
  unfold phonebookQuery phonebookList
  by_cases hzero : 0 < k
  · simp [hzero, hoffset, Nat.ne_of_gt hpage]
  · have hk0 : k = 0 := by omega
    subst hk0
    simp [Nat.cast_sub (by omega : 1 ≤ page), mul_comm]

variable {custom : List ContactInfo}

theorem phonebookPage_eq (hserves : A.ServesPhonebook records) (hnumbers : ∀ r ∈ records, r.phoneNumber.text?.isSome)
    (hcustom : A.customContacts = .ok custom) (h : records.mapM (A.contactOfRecord ctx) = .ok contacts)
    {page n limit offset : Nat} (hquery : phonebookQuery page n custom.length = { limit, offset }) :
    A.phonebookPage ctx page n =
      .ok ((if page = 1 then custom else []) ++ otherUsers ((contacts.drop offset).take limit),
        ((custom.length + records.length : Nat) : Int)) := by
  simp only [phonebookPage, bind_ok, hcustom, Except.ok.injEq]
  refine ⟨custom, rfl, _, hquery ▸ hserves limit offset, _, rfl, _,
    buildPhonebookContacts_slice hnumbers h offset limit, ?_⟩
  simp only [Attr.getD, pure_ok, Prod.mk.injEq]
  refine ⟨?_, by omega⟩
  split <;> rfl

theorem otherUsers_eq_self (h : ∀ c ∈ contacts, c.isCurrentUser ≠ some true) : otherUsers contacts = contacts :=
  List.filter_eq_self.2 fun c hc => by simpa using h c hc

/-- The contacts fill the pages when the custom ones leave room on the first page, and the caller is not
among them. -/
theorem phonebookPage_pageOf (hserves : A.ServesPhonebook records)
    (hnumbers : ∀ r ∈ records, r.phoneNumber.text?.isSome) (hcustom : A.customContacts = .ok custom)
    (h : records.mapM (A.contactOfRecord ctx) = .ok contacts) {n : Nat} (hn : 1 ≤ n)
    (hroom : custom.length < n ∨ custom.length = n ∧ records = [])
    (hothers : ∀ c ∈ contacts, c.isCurrentUser ≠ some true)
    {page : Nat} (hpage : 1 ≤ page) :
    A.phonebookPage ctx page n = .ok (pageOf page n (custom ++ contacts), ((custom ++ contacts).length : Int)) := by
  have hlength : contacts.length = records.length := (mapM_ok.1 h).length_eq.symm
  have hslice : ∀ offset limit, otherUsers ((contacts.drop offset).take limit) = (contacts.drop offset).take limit :=
    fun offset limit => otherUsers_eq_self fun c hc => hothers c (List.mem_of_mem_drop (List.mem_of_mem_take hc))
  rcases Nat.eq_or_lt_of_le hpage with rfl | hlater
  · rw [phonebookPage_eq hserves hnumbers hcustom h (phonebookQuery_one hn _), hslice, List.drop_zero,
      pageOf_append_one n (by omega), List.length_append, hlength, if_pos rfl]
    have htake : contacts.take (max 1 (n - custom.length)) = contacts.take (n - custom.length) := by
      rcases hroom with hlt | ⟨_, rfl⟩
      · rw [Nat.max_eq_right (by omega)]
      · have hnil : contacts = [] := List.eq_nil_of_length_eq_zero hlength
        simp [hnil]
    rw [htake]
  · have hle : custom.length ≤ (page - 1) * n := by
      have : 1 * n ≤ (page - 1) * n := Nat.mul_le_mul_right n (by omega)
      omega
    rw [phonebookPage_eq hserves hnumbers hcustom h (phonebookQuery_later hlater hle), hslice, pageOf_append hle,
      List.length_append, hlength, if_neg (Nat.ne_of_gt hlater), List.nil_append]

variable {caller : Caller}

theorem retrieveContactsV2_eq (hcaller : A.accountInfo = .ok caller) {page n : Nat} {result : List ContactInfo × Int}
    (h : A.phonebookPage (A.context caller) page n = .ok result) : A.retrieveContactsV2 page n = .ok result := by
  simp only [retrieveContactsV2, Adapter.translateExpired_ok, hcaller, bind_ok, Except.ok.injEq]
  exact ⟨caller, rfl, h⟩

theorem goesThrough_of_room (hserves : A.ServesPhonebook records)
    (hnumbers : ∀ r ∈ records, r.phoneNumber.text?.isSome) (hcaller : A.accountInfo = .ok caller)
    (hcustom : A.customContacts = .ok custom) (h : records.mapM (A.contactOfRecord (A.context caller)) = .ok contacts)
    {n : Nat} (hn : 1 ≤ n) (hroom : custom.length < n ∨ custom.length = n ∧ records = [])
    (hothers : ∀ c ∈ contacts, c.isCurrentUser ≠ some true) :
    A.GoesThrough n custom.length (custom ++ contacts) := by
  have hpages : ∀ page, 1 ≤ page → A.retrieveContactsV2 page n =
      .ok (pageOf page n (custom ++ contacts), ((custom ++ contacts).length : Int)) :=
    fun page hpage =>
      retrieveContactsV2_eq hcaller (phonebookPage_pageOf hserves hnumbers hcustom h hn hroom hothers hpage)
  refine ⟨fun page hpage => ?_, fun page hpage => ⟨_, hpages page hpage, ?_⟩, (walk_of_pageOf hn hpages).concat⟩
  · rcases Nat.eq_or_lt_of_le hpage with rfl | hlater
    · rw [phonebookQuery_one hn]
      exact le_rfl
    · have hle : custom.length ≤ (page - 1) * n := by
        have : 1 * n ≤ (page - 1) * n := Nat.mul_le_mul_right n (by omega)
        omega
      rw [phonebookQuery_later hlater hle]
      exact Int.natCast_nonneg _
  · rw [length_pageOf]
    exact Nat.min_le_left _ _

/-- The first page has all custom contacts and at least one record, and the total counts every record. -/
theorem room_of_goesThrough (hserves : A.ServesPhonebook records)
    (hnumbers : ∀ r ∈ records, r.phoneNumber.text?.isSome) (hcaller : A.accountInfo = .ok caller)
    (hcustom : A.customContacts = .ok custom) (h : records.mapM (A.contactOfRecord (A.context caller)) = .ok contacts)
    {n : Nat} (hn : 1 ≤ n) (hright : A.GoesThrough n custom.length (custom ++ otherUsers contacts)) :
    (custom.length < n ∨ custom.length = n ∧ records = []) ∧ ∀ c ∈ contacts, c.isCurrentUser ≠ some true := by
  have hlength : contacts.length = records.length := (mapM_ok.1 h).length_eq.symm
  obtain ⟨items, hitems, hmost⟩ := hright.page 1 le_rfl
  have hfirst := retrieveContactsV2_eq hcaller
    (phonebookPage_eq hserves hnumbers hcustom h (phonebookQuery_one hn custom.length))
  obtain ⟨hpage, htotal⟩ := Prod.mk.inj (Except.ok.inj (hitems.symm.trans hfirst))
  rw [List.length_append, Int.natCast_inj] at htotal
  have hall : otherUsers contacts = contacts :=
    List.filter_sublist.eq_of_length (by rw [← otherUsers]; omega)
  have hothers : ∀ c ∈ contacts, c.isCurrentUser ≠ some true := by
    intro c hc
    rw [← hall] at hc
    simpa using List.of_mem_filter hc
  refine ⟨?_, hothers⟩
  have hslice : otherUsers ((contacts.drop 0).take (max 1 (n - custom.length))) =
      contacts.take (max 1 (n - custom.length)) :=
    otherUsers_eq_self fun c hc => hothers c (List.mem_of_mem_take hc)
  rw [hpage, hslice, if_pos rfl, List.length_append, List.length_take, hlength] at hmost
  by_cases hlt : custom.length < n
  · exact .inl hlt
  · have hnone : records.length = 0 := by omega
    exact .inr ⟨by omega, List.eq_nil_of_length_eq_zero hnone⟩

/-- **The pages of the phonebook**: they are the custom contacts and the phonebook without the caller exactly
when there are fewer custom contacts than a page has (or as many, before an empty phonebook) and no number of
the phonebook is the caller's own. -/
theorem phonebook_pages_iff (hserves : A.ServesPhonebook records)
    (hnumbers : ∀ r ∈ records, r.phoneNumber.text?.isSome) (hcaller : A.accountInfo = .ok caller) {n : Nat}
    (hn : 1 ≤ n) :
    A.PagesRight (A.context caller) records n ↔
      (∃ custom, A.customContacts = .ok custom) ∧
        (∀ r ∈ records, ∃ contact, A.contactOfRecord (A.context caller) r = .ok contact) ∧
          (A.settings.contactsCustom.length < n ∨ A.settings.contactsCustom.length = n ∧ records = []) ∧
            ∀ r ∈ records, ∀ account, A.accountOfRecord r = some account → account.iAccount ≠ caller.iAccount := by
  have hcount : ∀ custom, A.customContacts = .ok custom → custom.length = A.settings.contactsCustom.length :=
    fun custom hcustom => (mapM_ok.1 hcustom).length_eq.symm
  constructor
  · rintro ⟨custom, contacts, hcustom, hcontacts, hright⟩
    obtain ⟨hroom, hothers⟩ := room_of_goesThrough hserves hnumbers hcaller hcustom hcontacts hn hright
    rw [hcount custom hcustom] at hroom
    refine ⟨⟨custom, hcustom⟩, fun r hr => ?_, hroom, fun r hr account haccount hown => ?_⟩
    · obtain ⟨contact, _, hcontact⟩ := mem_of_mapM hcontacts hr
      exact ⟨contact, hcontact⟩
    · obtain ⟨contact, hmem, hcontact⟩ := mem_of_mapM hcontacts hr
      exact hothers contact hmem ((contactOfRecord_isCurrentUser hcontact).2 ⟨account, haccount, hown⟩)
  · rintro ⟨⟨custom, hcustom⟩, hbuilt, hroom, hforeign⟩
    obtain ⟨contacts, hcontacts⟩ := mapM_exists hbuilt
    have hothers : ∀ c ∈ contacts, c.isCurrentUser ≠ some true := by
      intro c hc hown
      obtain ⟨r, hr, hcontact⟩ := of_mem_mapM hcontacts hc
      obtain ⟨account, haccount, heq⟩ := (contactOfRecord_isCurrentUser hcontact).1 hown
      exact hforeign r hr account haccount heq
    rw [← hcount custom hcustom] at hroom
    refine ⟨custom, _, hcustom, hcontacts, ?_⟩
    rw [otherUsers_eq_self hothers]
    exact goesThrough_of_room hserves hnumbers hcaller hcustom hcontacts hn hroom hothers

/-! ## Two phonebooks that go wrong -/

/-- The caller's own account 11 and the account 12. -/
def officeAccounts : Database where
  accounts := [
    { iAccount := 11, iCustomer := .val 1, id := .val "1011", sipStatus := .val 1 },
    { iAccount := 12, iCustomer := .val 1, id := .val "1012", sipStatus := .val 0 }]
  unique := by decide

/-- The adapter at work for the account 11 with this phonebook. -/
def officePhonebook (custom : List CustomEntry) (records : List PhonebookRecord) : PhonebookAdapter where
  runtime := { lower := id, int := fun _ => none, emailStr := some }
  settings := { contactsCustom := custom }
  adminApi := officeAccounts.api
  accountInfo := .ok ⟨1, 11⟩
  asked _ := { now := 0 }
  locked _ := { now := 0 }
  setOrder := ⟨id, List.Perm.refl⟩
  getPhonebookList params :=
    .ok ⟨.val ((records.drop params.offset.toNat).take params.limit.toNat), .val records.length⟩

theorem officePhonebook_serves (custom : List CustomEntry) (records : List PhonebookRecord) :
    (officePhonebook custom records).ServesPhonebook records := fun _ _ => rfl

def receptionEntry : CustomEntry := { name := .val "Reception", number := .val "100" }

def colleagueRecord : PhonebookRecord := { name := .val "Ann", phoneNumber := .val "+1012" }

def ownRecord : PhonebookRecord := { name := .val "Me", phoneNumber := .val "+1011" }

/-- One custom contact and one record, on pages of two. -/
theorem officePhonebook_right :
    (officePhonebook [receptionEntry] [colleagueRecord]).PagesRight
      ((officePhonebook [receptionEntry] [colleagueRecord]).context ⟨1, 11⟩) [colleagueRecord] 2 := by
  have hcaller : (officePhonebook [receptionEntry] [colleagueRecord]).accountInfo = .ok ⟨1, 11⟩ := rfl
  have hiff := phonebook_pages_iff (officePhonebook_serves [receptionEntry] [colleagueRecord]) (by decide) hcaller
    (by decide : 1 ≤ 2)
  refine hiff.2 ⟨⟨_, rfl⟩, ?_, by decide, ?_⟩
  · simp only [List.mem_singleton, forall_eq]
    exact ⟨_, rfl⟩
  · simp only [List.mem_singleton, forall_eq]
    decide

/-- With as many custom contacts as a page has, the first page has one contact more; with the caller's own
number in the phonebook, the total counts a contact that is on no page. -/
theorem officePhonebook_wrong :
    (¬ (officePhonebook [receptionEntry] [colleagueRecord]).PagesRight
      ((officePhonebook [receptionEntry] [colleagueRecord]).context ⟨1, 11⟩) [colleagueRecord] 1) ∧
    ¬ (officePhonebook [] [ownRecord, colleagueRecord]).PagesRight
      ((officePhonebook [] [ownRecord, colleagueRecord]).context ⟨1, 11⟩) [ownRecord, colleagueRecord] 1 := by
  constructor
  · rintro ⟨_, _, _, _, hright⟩
    obtain ⟨items, hitems, hmost⟩ := hright.page 1 le_rfl
    have hfirst : ((officePhonebook [receptionEntry] [colleagueRecord]).retrieveContactsV2 1 1).toOption.map
        (·.1.length) = some 2 := by decide
    have hlength : items.length = 2 := by simpa [hitems, Except.toOption] using hfirst
    omega
  · rintro ⟨custom, contacts, _, _, hright⟩
    obtain ⟨items, hitems, _⟩ := hright.page 1 le_rfl
    have hfirst : ((officePhonebook [] [ownRecord, colleagueRecord]).retrieveContactsV2 1 1).toOption.map Prod.snd =
        some 2 := by decide
    have htotal : (custom ++ otherUsers contacts).length = 2 := by
      have htotal : (((custom ++ otherUsers contacts).length : Nat) : Int) = 2 := by
        simpa [hitems, Except.toOption] using hfirst
      omega
    have hconcat := congrArg List.length hright.concat
    have hlisted : ((List.range' 1 (pageCount 1 2)).flatMap fun page =>
        itemsOf ((officePhonebook [] [ownRecord, colleagueRecord]).retrieveContactsV2 page 1)).length = 1 := by decide
    rw [htotal, hlisted] at hconcat
    omega

end PhonebookAdapter

end PortaPhone.Contacts
