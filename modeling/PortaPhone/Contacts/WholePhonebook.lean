import Mathlib
import PortaPhone.Contacts.Phonebook
/-!
# The whole phonebook (`portaswitch/adapter.py`)

| here | there |
| --- | --- |
| `readPhonebook`    | the `while True` loop of both versions (`:1047-1054`, `:1689-1696`) |
| `phonebookNumbers` | `phonebook_numbers` of the first version (`:1057-1061`) |
| `retrieveContacts` | `retrieve_contacts` (`:972`), the `PHONEBOOK` case |
| `contactMatches`   | the condition of a search, here and in `PHONE_DIRECTORY` mode (`:1700-1709`, `:1794-1810`) |
| `requestContactsV2` | `retrieve_contacts_v2` (`:1145`), the `PHONEBOOK` case |

The first version and every search read all of the phonebook. `phonebook_search`: their contacts are the same ones,
and a search leaves out none of them, as it only goes through the custom contacts.
-/

namespace PortaPhone.Contacts

open Fallible Paging

/-! ## The requests -/

/-- `PHONEBOOK_BATCH`. -/
def phonebookBatch : Nat := 1000

/-- `phonebook_numbers`. -/
def phonebookNumbers (records : List PhonebookRecord) : Except Raised (List String) := do
  let numbers ← records.mapM fun record =>
    match record.phoneNumber.getD "" with
    | none => .error .attributeError
    | some number => .ok (dropPlus number)
  return (numbers.filter (· ≠ "")).dedup

/-- The texts of a contact that a search goes through. -/
def searchTexts (contact : ContactInfo) : List String :=
  [contact.numbers.main, contact.numbers.ext.getD "", contact.firstName.getD "", contact.lastName.getD "",
    contact.aliasName.getD "", contact.email.getD ""] ++ contact.numbers.additional.getD []

def Adapter.contactMatches (A : Adapter) (search : String) (contact : ContactInfo) : Bool :=
  (searchTexts contact).any (A.matchesText search)

/-- A number that is not looked up leads to no account. -/
theorem Adapter.numberToAccounts_get?_of_not_mem (A : Adapter) (customerIds : List String) {numbers : List String}
    {number : String} (h : number ∉ numbers) : (A.numberToAccounts customerIds numbers).get? number = none := by
  unfold Adapter.numberToAccounts
  split
  · rfl
  · split
    · rw [A.searchCustomers_eq, foldl_takeAccount_of_not_mem _ h]
      rfl
    · rw [Adapter.searchEach, Dict.get?_update_other, Dict.get?_empty]
      intro hkey
      obtain ⟨⟨other, account⟩, he, rfl⟩ := List.mem_map.1 hkey
      obtain ⟨n, hn, hfound⟩ := List.mem_filterMap.1 he
      obtain ⟨a, _, heq⟩ := Option.map_eq_some_iff.1 hfound
      obtain ⟨rfl, rfl⟩ := Prod.mk.inj heq
      exact h ((A.setOrder.perm numbers).mem_iff.1 hn)

namespace PhonebookAdapter

variable (A : PhonebookAdapter) (ctx : Adapter.Context)

/-- The records of the phonebook from this page of it on; `none` where so many batches do not end the loop. -/
def readPhonebook : Nat → Nat → Except Raised (Option (List PhonebookRecord))
  | 0, _ => .ok none
  | batches + 1, pbPage => do
    let reply ← A.getPhonebookList (phonebookList pbPage phonebookBatch none none)
    let batch ← reply.phonebookRecList.rows
    if batch.length < phonebookBatch then
      return some batch
    return (← readPhonebook batches (pbPage + 1)).map (batch ++ ·)

def retrieveContacts (batches : Nat) : Except Raised (Option (List ContactInfo)) := Adapter.translateExpired do
  let ctx := A.context (← A.accountInfo)
  match ← A.readPhonebook batches 1 with
  | none => return none
  | some phonebook =>
    let numbers ← phonebookNumbers phonebook
    let numberToAccounts := A.numberToAccounts A.contactsSelectingCustomerIds numbers
    let contacts ← phonebook.mapM (A.recordContact ctx numberToAccounts.get?)
    return some (otherUsers contacts ++ (← A.customContacts))

/-- The contacts that the pages of a search are cut from. -/
def searchPhonebook (batches : Nat) (search : Option String) (smsCapable : Bool) :
    Except Raised (Option (List ContactInfo)) := do
  let customContacts ← A.customContacts
  match ← A.readPhonebook batches 1 with
  | none => return none
  | some phonebook =>
    let contacts ← A.buildPhonebookContacts ctx phonebook
    let filteredCustom := customContacts.filter (A.contactMatches (search.getD ""))
    return some (Adapter.smsOnly smsCapable (contacts ++ filteredCustom))

/-- The request asks for more than a page of the phonebook: `search or sms_capable`. -/
def Searches (search : Option String) (smsCapable : Bool) : Prop := (search.filter (· ≠ "")).isSome ∨ smsCapable = true

instance (search : Option String) (smsCapable : Bool) : Decidable (Searches search smsCapable) :=
  inferInstanceAs (Decidable (_ ∨ _))

def requestContactsV2 (batches : Nat) (search : Option String) (page itemsPerPage : Nat) (smsCapable : Bool) :
    Except Raised (Option (List ContactInfo × Int)) := Adapter.translateExpired do
  let ctx := A.context (← A.accountInfo)
  if Searches search smsCapable then
    let contacts ← A.searchPhonebook ctx batches search smsCapable
    return contacts.map fun contacts => (pageOf page itemsPerPage contacts, (contacts.length : Int))
  return some (← A.phonebookPage ctx page itemsPerPage)

/-! ## Reading the phonebook -/

variable {A ctx} {records : List PhonebookRecord}

theorem phonebookList_batch {pbPage : Nat} (hpage : 1 ≤ pbPage) :
    phonebookList pbPage phonebookBatch none none =
      { limit := (phonebookBatch : Nat), offset := ((pbPage - 1) * phonebookBatch : Nat) } := by
  simp [phonebookList, Nat.cast_sub hpage, mul_comm]

/-- The batches from a page on are what is left of the phonebook there. -/
theorem readPhonebook_from (hserves : A.ServesPhonebook records) {batches pbPage : Nat} (hpage : 1 ≤ pbPage)
    (h : (records.drop ((pbPage - 1) * phonebookBatch)).length < batches * phonebookBatch) :
    A.readPhonebook batches pbPage = .ok (some (records.drop ((pbPage - 1) * phonebookBatch))) := by
  induction batches generalizing pbPage with
  | zero => omega
  | succ batches ih =>
    have hnext : (pbPage + 1 - 1) * phonebookBatch = (pbPage - 1) * phonebookBatch + phonebookBatch := by
      rw [Nat.add_sub_cancel, ← Nat.succ_mul]
      congr 1
      omega
    have hrest := @ih (pbPage + 1) (Nat.le_add_left 1 pbPage)
    rw [hnext, ← List.drop_drop] at hrest
    rw [readPhonebook, phonebookList_batch hpage, hserves phonebookBatch ((pbPage - 1) * phonebookBatch)]
    generalize records.drop ((pbPage - 1) * phonebookBatch) = rest at h hrest ⊢
    rw [ok_bind]
    show (if (rest.take phonebookBatch).length < phonebookBatch then _ else _) = _
    by_cases hshort : rest.length < phonebookBatch
    · rw [List.take_of_length_le (Nat.le_of_lt hshort), if_pos hshort]
      rfl
    · have hfull : ¬ (rest.take phonebookBatch).length < phonebookBatch := by
        rw [List.length_take]
        omega
      have hleft : (rest.drop phonebookBatch).length < batches * phonebookBatch := by
        rw [Nat.succ_mul] at h
        rw [List.length_drop]
        omega
      rw [if_neg hfull, hrest hleft, ok_bind]
      show Except.ok (some (rest.take phonebookBatch ++ rest.drop phonebookBatch)) = _
      rw [List.take_append_drop]

theorem readPhonebook_all (hserves : A.ServesPhonebook records) {batches : Nat}
    (h : records.length < batches * phonebookBatch) : A.readPhonebook batches 1 = .ok (some records) := by
  have hall := @readPhonebook_from A records hserves batches 1 (Nat.le_refl 1)
  rw [Nat.sub_self, Nat.zero_mul, List.drop_zero] at hall
  exact hall h

/-! ## The contact of a record -/

variable (A ctx) in
/-- The contact of a record by itself: no account has the empty number. -/
def ownContact (record : PhonebookRecord) : Except Raised ContactInfo :=
  A.recordContact ctx (fun number => if number = "" then none
    else A.accountOfNumber A.contactsSelectingCustomerIds number)
    record

/-- Records whose numbers are looked up, and no others, have the contacts that they have by themselves. -/
theorem mapM_recordContact {numbers : List String}
    (h : ∀ r ∈ records, ∀ number, r.phoneNumber.get? = some number →
      (dropPlus number ∈ numbers ∧ dropPlus number ≠ "") ∨ (dropPlus number ∉ numbers ∧ dropPlus number = "")) :
    records.mapM (A.recordContact ctx (A.numberToAccounts A.contactsSelectingCustomerIds numbers).get?) =
      records.mapM (A.ownContact ctx) := by
  refine mapM_congr fun r hr => ?_
  unfold ownContact recordContact
  cases hnumber : r.phoneNumber.get? with
  | none => rfl
  | some number =>
    rcases h r hr number hnumber with ⟨hmem, hne⟩ | ⟨hmem, heq⟩
    · simp only [A.numberToAccounts_get? _ hmem, if_neg hne]
    · simp only [A.numberToAccounts_get?_of_not_mem _ hmem, if_pos heq]

/-- What the first version looks up. -/
theorem phonebookNumbers_mem {numbers : List String} (h : phonebookNumbers records = .ok numbers) {r : PhonebookRecord}
    (hr : r ∈ records) {number : String} (hnumber : r.phoneNumber.get? = some number) :
    (dropPlus number ∈ numbers ∧ dropPlus number ≠ "") ∨ (dropPlus number ∉ numbers ∧ dropPlus number = "") := by
  simp only [phonebookNumbers, bind_ok, pure_ok] at h
  obtain ⟨all, hall, rfl⟩ := h
  have hvalue : r.phoneNumber.getD "" = some number := by
    cases hphone : r.phoneNumber with
    | absent => rw [hphone] at hnumber; cases hnumber
    | null => rw [hphone] at hnumber; cases hnumber
    | val n => rw [hphone] at hnumber; exact hnumber
  obtain ⟨dropped, hmem, hdropped⟩ := mem_of_mapM hall hr
  rw [hvalue] at hdropped
  obtain rfl := Except.ok.inj hdropped
  by_cases hempty : dropPlus number = ""
  · exact .inr ⟨by simp [hempty], hempty⟩
  · exact .inl ⟨by simp [hempty, hmem], hempty⟩

theorem phonebookNumbers_exists (h : ∀ r ∈ records, ∃ number, r.phoneNumber.get? = some number) :
    ∃ numbers, phonebookNumbers records = .ok numbers := by
  have hall : ∀ r ∈ records, ∃ dropped, (match r.phoneNumber.getD "" with
      | none => Except.error Raised.attributeError
      | some number => .ok (dropPlus number)) = .ok dropped := by
    intro r hr
    obtain ⟨number, hnumber⟩ := h r hr
    cases hphone : r.phoneNumber with
    | absent => exact ⟨_, rfl⟩
    | null => rw [hphone] at hnumber; cases hnumber
    | val n => exact ⟨_, rfl⟩
  obtain ⟨numbers, hnumbers⟩ := mapM_exists hall
  refine ⟨(numbers.filter (· ≠ "")).dedup, ?_⟩
  simp only [phonebookNumbers, bind_ok, pure_ok]
  exact ⟨numbers, hnumbers, rfl⟩

/-- A record with a contact has a number. -/
theorem number_of_ownContact {record : PhonebookRecord} {contact : ContactInfo}
    (h : A.ownContact ctx record = .ok contact) : ∃ number, record.phoneNumber.get? = some number := by
  unfold ownContact recordContact at h
  cases hnumber : record.phoneNumber.get? with
  | none => rw [hnumber] at h; cases h
  | some number => exact ⟨number, rfl⟩

/-! ## The contacts of both versions -/

variable (A ctx) in
/-- The contacts of the phonebook but the caller's, and the custom ones. -/
structure Listed (records : List PhonebookRecord) (others custom : List ContactInfo) : Prop where
  custom : A.customContacts = .ok custom
  others : ∃ contacts, records.mapM (A.ownContact ctx) = .ok contacts ∧ others = otherUsers contacts

variable {caller : Caller} {batches : Nat}

theorem retrieveContacts_iff (hserves : A.ServesPhonebook records)
    (hbatches : records.length < batches * phonebookBatch)
    (hcaller : A.accountInfo = .ok caller) (all : List ContactInfo) :
    A.retrieveContacts batches = .ok (some all) ↔
      ∃ others custom, A.Listed (A.context caller) records others custom ∧ all = others ++ custom := by
  have hread := readPhonebook_all hserves hbatches
  rw [retrieveContacts, Adapter.translateExpired_ok, hcaller, ok_bind, hread, ok_bind]
  simp only [bind_ok, pure_ok, Option.some.injEq]
  constructor
  · rintro ⟨numbers, hnumbers, contacts, hcontacts, custom, hcustom, rfl⟩
    rw [mapM_recordContact fun r hr number => phonebookNumbers_mem hnumbers hr] at hcontacts
    exact ⟨_, custom, ⟨hcustom, contacts, hcontacts, rfl⟩, rfl⟩
  · rintro ⟨_, custom, ⟨hcustom, contacts, hcontacts, rfl⟩, rfl⟩
    obtain ⟨numbers, hnumbers⟩ := phonebookNumbers_exists fun r hr => by
      obtain ⟨contact, _, hcontact⟩ := mem_of_mapM hcontacts hr
      exact number_of_ownContact hcontact
    refine ⟨numbers, hnumbers, contacts, ?_, custom, hcustom, rfl⟩
    rw [mapM_recordContact fun r hr number => phonebookNumbers_mem hnumbers hr, hcontacts]

/-- The contacts that a search goes through. -/
theorem buildPhonebookContacts_eq
    (hplus : ∀ r ∈ records, ∀ number, r.phoneNumber.text? = some number → dropPlus number ≠ "") :
    A.buildPhonebookContacts ctx records = (records.mapM (A.ownContact ctx)).map otherUsers := by
  have hlooked : ∀ r ∈ records, ∀ number, r.phoneNumber.get? = some number →
      (dropPlus number ∈ pbNumbers records ∧ dropPlus number ≠ "") ∨
        (dropPlus number ∉ pbNumbers records ∧ dropPlus number = "") := by
    intro r hr number hnumber
    by_cases hempty : number = ""
    · subst hempty
      refine .inr ⟨fun hmem => ?_, rfl⟩
      simp only [pbNumbers, List.mem_dedup, List.mem_filterMap, Option.map_eq_some_iff] at hmem
      obtain ⟨other, hother, text, htext, hdrop⟩ := hmem
      exact hplus other hother text htext hdrop
    · have htext : r.phoneNumber.text? = some number := by
        rw [Attr.text?, hnumber, Option.filter_some]
        simp [hempty]
      exact .inl ⟨mem_pbNumbers hr htext, hplus r hr number htext⟩
  unfold buildPhonebookContacts
  dsimp only
  rw [mapM_recordContact hlooked]
  cases records.mapM (A.ownContact ctx) with
  | error e => rfl
  | ok contacts => rfl

variable (A) in
/-- What the pages of a search are cut from. -/
def searched (search : Option String) (smsCapable : Bool) (others custom : List ContactInfo) : List ContactInfo :=
  Adapter.smsOnly smsCapable (others ++ custom.filter (A.contactMatches (search.getD "")))

theorem requestContactsV2_iff (hserves : A.ServesPhonebook records)
    (hbatches : records.length < batches * phonebookBatch)
    (hplus : ∀ r ∈ records, ∀ number, r.phoneNumber.text? = some number → dropPlus number ≠ "")
    (hcaller : A.accountInfo = .ok caller) {search : Option String} {smsCapable : Bool} (h : Searches search smsCapable)
    (page n : Nat) (result : List ContactInfo × Int) :
    A.requestContactsV2 batches search page n smsCapable = .ok (some result) ↔
      ∃ others custom, A.Listed (A.context caller) records others custom ∧
        result = (pageOf page n (A.searched search smsCapable others custom),
          ((A.searched search smsCapable others custom).length : Int)) := by
  have hread := readPhonebook_all hserves hbatches
  rw [requestContactsV2, Adapter.translateExpired_ok, hcaller, ok_bind]
  simp only [if_pos h, searchPhonebook, hread, ok_bind, buildPhonebookContacts_eq hplus, bind_ok, pure_ok]
  constructor
  · rintro ⟨_, ⟨custom, hcustom, others, hothers, rfl⟩, hresult⟩
    cases hcontacts : records.mapM (A.ownContact (A.context caller)) with
    | error e => rw [hcontacts] at hothers; cases hothers
    | ok contacts =>
      rw [hcontacts] at hothers
      obtain rfl := Except.ok.inj hothers
      exact ⟨_, custom, ⟨hcustom, contacts, hcontacts, rfl⟩, (Option.some.inj hresult).symm⟩
  · rintro ⟨_, custom, ⟨hcustom, contacts, hcontacts, rfl⟩, rfl⟩
    exact ⟨_, ⟨custom, hcustom, _, congrArg (Except.map otherUsers) hcontacts, rfl⟩, rfl⟩

/-- **A search of the phonebook**: the first version and a search are answered for the same phonebooks. The pages of a
search are cut from the contacts of the first version, where it has left out custom contacts only, but for those
without a number for messages. -/
theorem phonebook_search (hserves : A.ServesPhonebook records) (hbatches : records.length < batches * phonebookBatch)
    (hplus : ∀ r ∈ records, ∀ number, r.phoneNumber.text? = some number → dropPlus number ≠ "")
    (hcaller : A.accountInfo = .ok caller) :
    (∀ all, A.retrieveContacts batches = .ok (some all) ↔
      ∃ others custom, A.Listed (A.context caller) records others custom ∧ all = others ++ custom) ∧
    ∀ search smsCapable, Searches search smsCapable → ∀ page n result,
      A.requestContactsV2 batches search page n smsCapable = .ok (some result) ↔
        ∃ others custom, A.Listed (A.context caller) records others custom ∧
          result = (pageOf page n (A.searched search smsCapable others custom),
            ((A.searched search smsCapable others custom).length : Int)) :=
  ⟨retrieveContacts_iff hserves hbatches hcaller,
    fun _ _ h => requestContactsV2_iff hserves hbatches hplus hcaller h⟩

/-- A search that finds nobody still answers with the phonebook. -/
theorem phonebook_search_nobody : ∃ ann reception,
    (officePhonebook [receptionEntry] [colleagueRecord]).retrieveContacts 1 = .ok (some [ann, reception]) ∧
      (officePhonebook [receptionEntry] [colleagueRecord]).requestContactsV2 1 (some "nobody") 1 10 false =
        .ok (some ([ann], 1)) := by
  have hfits : [colleagueRecord].length < 1 * phonebookBatch := by decide
  have hcaller : (officePhonebook [receptionEntry] [colleagueRecord]).accountInfo = .ok ⟨1, 11⟩ := rfl
  have hsearch := phonebook_search (officePhonebook_serves [receptionEntry] [colleagueRecord]) hfits (by decide) hcaller
  have hlisted : (officePhonebook [receptionEntry] [colleagueRecord]).Listed
      ((officePhonebook [receptionEntry] [colleagueRecord]).context ⟨1, 11⟩) [colleagueRecord] [_] [_] :=
    ⟨rfl, _, rfl, rfl⟩
  refine ⟨_, _, (hsearch.1 _).2 ⟨_, _, hlisted, rfl⟩, (hsearch.2 _ _ (by decide) 1 10 _).2 ⟨_, _, hlisted, ?_⟩⟩
  rfl

end PhonebookAdapter

end PortaPhone.Contacts
