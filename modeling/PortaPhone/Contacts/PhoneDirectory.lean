import Mathlib
import PortaPhone.Contacts.WholePhonebook
/-!
# The contacts requests in `PHONE_DIRECTORY` mode (`portaswitch/adapter.py`)

| here | there |
| --- | --- |
| `phoneDirectoryList`, `phoneDirectoryInfo` | the parameters of `get_phone_directory_list`, `get_phone_directory_info` (`api/account.py:276`, `:297`) |
| `getContactInfoByPhoneDirectoryRecord` | the serializer of this name (`serializer.py:192`) |
| `fetchDirectories`  | the first loop of both versions (`:1086-1103`, `:1745-1761`) |
| `directoryContacts` | the second one (`:1105-1131`, `:1763-1786`) |
| `retrieveContacts`, `retrieveContactsV2` | `retrieve_contacts` (`:972`), `retrieve_contacts_v2` (`:1145`) in this mode |

The numbers of all directories are looked up at once, and the answer is kept for the second loop.
`phone_directory_walk`: every record has the contact that it has by itself, and the pages of a request go through what
its filters leave of the first version.
-/

namespace PortaPhone.Contacts

open Fallible Paging

/-! ## The switch -/

structure DirectoryRecord where
  firstName : Attr String := .absent
  lastName : Attr String := .absent
  officeNumber : Attr String := .absent
  mobileNumber : Attr String := .absent
  otherNumber : Attr String := .absent
deriving DecidableEq, Repr

/-- A `phone_directory_info`. -/
structure DirectoryInfo where
  name : Attr String := .absent
  directoryRecords : Attr (List DirectoryRecord) := .absent
deriving DecidableEq, Repr

/-- A `limit` and an `offset`. -/
abbrev Slice := Int × Int

/-- A row of `phone_directory_list` is its `i_ua_config_directory`. -/
structure DirectoryAdapter extends Adapter where
  contactsSelectingCustomerIds : List String := []
  getPhoneDirectoryList : Slice → Except Raised (Attr (List (Attr Int)))
  getPhoneDirectoryInfo : Option Int → Slice → Except Raised (Attr DirectoryInfo)

def phoneDirectoryList (page itemsPerPage : Int) : Slice := (itemsPerPage, itemsPerPage * (page - 1))

def phoneDirectoryInfo (page itemsPerPage : Int) : Slice := (itemsPerPage, itemsPerPage * (page - 1))

/-- `record[key]` where a null cannot be used. -/
def required {α : Type} (key : String) (a : Attr α) : Except Raised α := do
  match ← a.index key with
  | none => .error .typeError
  | some a => return a

def getContactInfoByPhoneDirectoryRecord (record : DirectoryRecord) (companyName : Option String) :
    Except Raised ContactInfo := do
  let main ← requireStr "main" record.officeNumber.get?
  return {
    companyName
    firstName := record.firstName.get?
    lastName := record.lastName.get?
    numbers := { main, additional := some ([record.mobileNumber.text?, record.otherNumber.text?].filterMap id) } }

namespace DirectoryAdapter

variable (A : DirectoryAdapter) (ctx : Adapter.Context)

/-! ## The two loops -/

/-- `office_number`, as the first loop reads it. -/
def officeNumber (record : DirectoryRecord) : Except Raised String :=
  match record.officeNumber.getD "" with
  | none => .error .attributeError
  | some number => .ok (dropPlus number)

/-- The first 10000 records of a directory. -/
def directoryInfo (dirId : Option Int) : Except Raised DirectoryInfo := do
  required "phone_directory_info" (← A.getPhoneDirectoryInfo dirId (phoneDirectoryInfo 1 10000))

/-- One round of the first loop: the directory, and the numbers of its records. -/
def fetchDirectory (directory : Attr Int) : Except Raised ((Option Int × DirectoryInfo) × List String) := do
  let dirId ← directory.index "i_ua_config_directory"
  let info ← A.directoryInfo dirId
  let records ← required "directory_records" info.directoryRecords
  return ((dirId, info), ← records.mapM officeNumber)

/-- `directory_infos` and `phone_directory_numbers`. -/
def fetchDirectories (directories : List (Attr Int)) :
    Except Raised (Dict (Option Int) DirectoryInfo × List String) := do
  let fetched ← directories.mapM A.fetchDirectory
  return (Dict.empty.update (fetched.map Prod.fst), ((fetched.flatMap Prod.snd).filter (· ≠ "")).dedup)

/-- The contact of a record, made from the account its number leads to. -/
def recordContact (numberToAccounts : String → Option Account) (info : DirectoryInfo) (record : DirectoryRecord) :
    Except Raised ContactInfo := do
  match record.officeNumber.get? with
  | none => .error .attributeError
  | some number =>
    let own ← getContactInfoByPhoneDirectoryRecord record (← info.name.index "name")
    match numberToAccounts (dropPlus number) with
    | some account =>
      let contact ← A.contactOf ctx account
      return { contact with
        firstName :=
          own.firstName, lastName := own.lastName, numbers := { contact.numbers with main := dropPlus number } }
    | none =>
      if own.numbers.main ≠ "" then
        return { own with numbers := { own.numbers with main := dropPlus own.numbers.main } }
      return own

/-- The contacts of one directory. -/
def contactsOf (numberToAccounts : String → Option Account) (infos : Option Int → Option DirectoryInfo)
    (directory : Attr Int) : Except Raised (List ContactInfo) := do
  match infos (← directory.index "i_ua_config_directory") with
  | none => .error (.keyError "i_ua_config_directory")
  | some info =>
    let records ← required "directory_records" info.directoryRecords
    records.mapM (A.recordContact ctx numberToAccounts info)

/-- The contacts of all directories but the caller's. -/
def directoryContacts : Except Raised (List ContactInfo) := do
  let directories ← required "phone_directory_list" (← A.getPhoneDirectoryList (phoneDirectoryList 1 100))
  let (infos, numbers) ← A.fetchDirectories directories
  let numberToAccounts := A.numberToAccounts A.contactsSelectingCustomerIds numbers
  let contacts ← directories.mapM (A.contactsOf ctx numberToAccounts.get? infos.get?)
  return PhonebookAdapter.otherUsers contacts.flatten

def retrieveContacts : Except Raised (List ContactInfo) := Adapter.translateExpired do
  let contacts ← A.directoryContacts (A.context (← A.accountInfo))
  return contacts ++ (← A.customContacts)

/-- What a request leaves of the contacts. -/
def shown (search : Option String) (smsCapable : Bool) (contacts : List ContactInfo) : List ContactInfo :=
  Adapter.smsOnly smsCapable <| match search.filter (· ≠ "") with
    | none => contacts
    | some search => contacts.filter (A.contactMatches search)

def retrieveContactsV2 (search : Option String) (page itemsPerPage : Nat) (smsCapable : Bool) :
    Except Raised (List ContactInfo × Int) := Adapter.translateExpired do
  let contacts ← A.directoryContacts (A.context (← A.accountInfo))
  let customContacts ← A.customContacts
  let contacts := A.shown search smsCapable (contacts ++ customContacts)
  return (pageOf page itemsPerPage contacts, (contacts.length : Int))

/-! ## The contact of a record by itself -/

/-- The contacts of one directory, whatever the others are: no account has the empty number. -/
def ownContacts (directory : Attr Int) : Except Raised (List ContactInfo) := do
  let info ← A.directoryInfo (← directory.index "i_ua_config_directory")
  let records ← required "directory_records" info.directoryRecords
  records.mapM (A.recordContact ctx
    (fun number => if number = "" then none else A.accountOfNumber A.contactsSelectingCustomerIds number) info)

variable {A ctx} {directories : List (Attr Int)} {fetched : List ((Option Int × DirectoryInfo) × List String)}

/-- What a round of the first loop has read. -/
structure Fetched (A : DirectoryAdapter) (directory : Attr Int) (dirId : Option Int) (info : DirectoryInfo)
    (records : List DirectoryRecord) (numbers : List String) : Prop where
  named : directory.index "i_ua_config_directory" = .ok dirId
  answered : A.directoryInfo dirId = .ok info
  listed : required "directory_records" info.directoryRecords = .ok records
  numbered : records.mapM officeNumber = .ok numbers

theorem fetchDirectory_ok {directory : Attr Int} {dirId : Option Int} {info : DirectoryInfo} {numbers : List String} :
    A.fetchDirectory directory = .ok ((dirId, info), numbers) ↔
      ∃ records, Fetched A directory dirId info records numbers := by
  simp only [fetchDirectory, bind_ok, pure_ok, Prod.mk.injEq]
  constructor
  · rintro ⟨_, hindex, _, hinfo, records, hrecords, _, hnumbers, ⟨rfl, rfl⟩, rfl⟩
    exact ⟨records, hindex, hinfo, hrecords, hnumbers⟩
  · rintro ⟨records, h⟩
    exact ⟨dirId, h.named, info, h.answered, records, h.listed, numbers, h.numbered, ⟨rfl, rfl⟩, rfl⟩

/-- The directory that the first loop has kept under an id. -/
theorem infos_get? (h : directories.mapM A.fetchDirectory = .ok fetched) {directory : Attr Int}
    (hmem : directory ∈ directories) {dirId : Option Int} {info : DirectoryInfo} {records : List DirectoryRecord}
    {numbers : List String} (hfetched : Fetched A directory dirId info records numbers) :
    ((Dict.empty : Dict (Option Int) DirectoryInfo).update (fetched.map Prod.fst)).get? dirId = some info := by
  refine Dict.get?_update_mem ?_ ?_
  · rintro ⟨key, value⟩ he hkey
    obtain rfl : key = dirId := hkey
    obtain ⟨⟨_, other⟩, hentry, rfl⟩ := List.mem_map.1 he
    obtain ⟨d, _, hd⟩ := of_mem_mapM h hentry
    obtain ⟨_, hother⟩ := fetchDirectory_ok.1 hd
    exact Except.ok.inj (hother.answered.symm.trans hfetched.answered)
  · obtain ⟨entry, hentry, hd⟩ := mem_of_mapM h hmem
    have heq := Except.ok.inj (hd.symm.trans (fetchDirectory_ok.2 ⟨records, hfetched⟩))
    exact List.mem_map.2 ⟨entry, hentry, by rw [heq]⟩

/-- A record's number is among those that are looked up, if there is one. -/
theorem looked_up (h : directories.mapM A.fetchDirectory = .ok fetched) {directory : Attr Int}
    (hmem : directory ∈ directories) {dirId : Option Int} {info : DirectoryInfo} {records : List DirectoryRecord}
    {numbers : List String} (hfetched : Fetched A directory dirId info records numbers) {record : DirectoryRecord}
    (hrecord : record ∈ records) {number : String} (hnumber : record.officeNumber.get? = some number) :
    dropPlus number ∈ ((fetched.flatMap Prod.snd).filter (· ≠ "")).dedup ↔ dropPlus number ≠ "" := by
  have hvalue : officeNumber record = .ok (dropPlus number) := by
    cases hoffice : record.officeNumber with
    | absent => rw [hoffice] at hnumber; cases hnumber
    | null => rw [hoffice] at hnumber; cases hnumber
    | val n =>
      rw [hoffice] at hnumber
      obtain rfl := Option.some.inj hnumber
      rw [officeNumber, hoffice]
      rfl
  obtain ⟨entry, hentry, hd⟩ := mem_of_mapM h hmem
  have heq := Except.ok.inj (hd.symm.trans (fetchDirectory_ok.2 ⟨records, hfetched⟩))
  obtain ⟨_, hin, hdropped⟩ := mem_of_mapM hfetched.numbered hrecord
  obtain rfl := Except.ok.inj (hvalue.symm.trans hdropped)
  have hall : dropPlus number ∈ fetched.flatMap Prod.snd := List.mem_flatMap.2 ⟨entry, hentry, heq ▸ hin⟩
  simp [hall]

/-- The second loop gives every directory the contacts that it has by itself. -/
theorem contactsOf_eq (h : directories.mapM A.fetchDirectory = .ok fetched) {directory : Attr Int}
    (hmem : directory ∈ directories) :
    A.contactsOf ctx (A.numberToAccounts A.contactsSelectingCustomerIds
      ((fetched.flatMap Prod.snd).filter (· ≠ "")).dedup).get?
        ((Dict.empty : Dict (Option Int) DirectoryInfo).update (fetched.map Prod.fst)).get? directory =
      A.ownContacts ctx directory := by
  obtain ⟨⟨⟨dirId, info⟩, numbers⟩, _, hd⟩ := mem_of_mapM h hmem
  obtain ⟨records, hfetched⟩ := fetchDirectory_ok.1 hd
  simp only [contactsOf, ownContacts, hfetched.named, hfetched.answered, hfetched.listed, ok_bind,
    infos_get? h hmem hfetched]
  refine mapM_congr fun record hrecord => ?_
  unfold recordContact
  cases hnumber : record.officeNumber.get? with
  | none => rfl
  | some number =>
    have hlooked := looked_up h hmem hfetched hrecord hnumber
    by_cases hempty : dropPlus number = ""
    · have hnot := mt hlooked.1 (not_not.2 hempty)
      simp only [A.numberToAccounts_get?_of_not_mem _ hnot, if_pos hempty]
    · simp only [A.numberToAccounts_get? _ (hlooked.2 hempty), if_neg hempty]

/-- A directory whose records have contacts has been read. -/
theorem fetchDirectory_of_ownContacts {directory : Attr Int} {contacts : List ContactInfo}
    (h : A.ownContacts ctx directory = .ok contacts) : ∃ result, A.fetchDirectory directory = .ok result := by
  simp only [ownContacts, bind_ok] at h
  obtain ⟨dirId, hindex, info, hinfo, records, hrecords, hcontacts⟩ := h
  have hall : ∀ r ∈ records, ∃ number, officeNumber r = .ok number := by
    intro r hr
    obtain ⟨contact, _, hcontact⟩ := mem_of_mapM hcontacts hr
    unfold recordContact at hcontact
    cases hoffice : r.officeNumber with
    | absent => exact ⟨_, by rw [officeNumber, hoffice]; rfl⟩
    | null => rw [hoffice] at hcontact; cases hcontact
    | val n => exact ⟨_, by rw [officeNumber, hoffice]; rfl⟩
  obtain ⟨numbers, hnumbers⟩ := mapM_exists hall
  exact ⟨_, fetchDirectory_ok.2 ⟨records, hindex, hinfo, hrecords, hnumbers⟩⟩

theorem directoryContacts_iff {contacts : List ContactInfo} :
    A.directoryContacts ctx = .ok contacts ↔
      ∃ list directories lists, A.getPhoneDirectoryList (phoneDirectoryList 1 100) = .ok list ∧
        required "phone_directory_list" list = .ok directories ∧ directories.mapM (A.ownContacts ctx) = .ok lists ∧
          contacts = PhonebookAdapter.otherUsers lists.flatten := by
  simp only [directoryContacts, fetchDirectories, bind_ok, pure_ok]
  constructor
  · rintro ⟨list, hlist, directories, hdirectories, _, ⟨fetched, hfetched, rfl⟩, lists, hlists, rfl⟩
    rw [mapM_congr fun d hd => contactsOf_eq hfetched hd] at hlists
    exact ⟨list, directories, lists, hlist, hdirectories, hlists, rfl⟩
  · rintro ⟨list, directories, lists, hlist, hdirectories, hlists, rfl⟩
    obtain ⟨fetched, hfetched⟩ := mapM_exists fun d hd => by
      obtain ⟨contacts, _, hcontacts⟩ := mem_of_mapM hlists hd
      exact fetchDirectory_of_ownContacts hcontacts
    refine ⟨list, hlist, directories, hdirectories, _, ⟨fetched, hfetched, rfl⟩, lists, ?_, rfl⟩
    rw [mapM_congr fun d hd => contactsOf_eq hfetched hd, hlists]

/-! ## The two versions -/

variable (A) in
/-- The contacts of the first directories, each record's by itself, but the caller's, and the custom ones. -/
structure Lists (caller : Caller) (all : List ContactInfo) : Prop where
  session : A.accountInfo = .ok caller
  listing : ∃ list directories lists custom, A.getPhoneDirectoryList (phoneDirectoryList 1 100) = .ok list ∧
    required "phone_directory_list" list = .ok directories ∧
      directories.mapM (A.ownContacts (A.context caller)) = .ok lists ∧ A.customContacts = .ok custom ∧
        all = PhonebookAdapter.otherUsers lists.flatten ++ custom

theorem retrieveContacts_iff {all : List ContactInfo} :
    A.retrieveContacts = .ok all ↔ ∃ caller, A.Lists caller all := by
  rw [retrieveContacts, Adapter.translateExpired_ok]
  simp only [bind_ok, pure_ok, directoryContacts_iff]
  constructor
  · rintro ⟨caller, hcaller, _, ⟨list, directories, lists, hlist, hdirectories, hlists, rfl⟩, custom, hcustom, rfl⟩
    exact ⟨caller, hcaller, list, directories, lists, custom, hlist, hdirectories, hlists, hcustom, rfl⟩
  · rintro ⟨caller, hcaller, list, directories, lists, custom, hlist, hdirectories, hlists, hcustom, rfl⟩
    exact ⟨caller, hcaller, _, ⟨list, directories, lists, hlist, hdirectories, hlists, rfl⟩, custom, hcustom, rfl⟩

/-- Neither version lists the caller. -/
theorem Lists.others {caller : Caller} {all : List ContactInfo} (h : A.Lists caller all) :
    ∀ c ∈ all, c.isCurrentUser ≠ some true := by
  obtain ⟨_, _, lists, custom, _, _, _, hcustom, rfl⟩ := h.listing
  intro c hc
  rcases List.mem_append.1 hc with hc | hc
  · simpa using List.of_mem_filter hc
  · obtain ⟨entry, _, hentry⟩ := of_mem_mapM hcustom hc
    simp only [getContactInfoByCustomEntry, bind_ok, pure_ok] at hentry
    obtain ⟨_, _, rfl⟩ := hentry
    intro hself
    cases hself

theorem translateExpired_map {α β : Type} (f : α → β) (x : Except Raised α) :
    Adapter.translateExpired (x.map f) = (Adapter.translateExpired x).map f := by
  cases x with
  | ok a => rfl
  | error e =>
    by_cases hexpired : e = .webTrit (some "Client.Session.check_auth.failed_to_process_access_token")
    · subst hexpired
      rfl
    · have hkept : ∀ {γ : Type}, Adapter.translateExpired (.error e : Except Raised γ) = .error e := by
        intro γ
        unfold Adapter.translateExpired
        split
        · rename_i heq
          exact absurd (Except.error.inj heq) hexpired
        · rfl
      show Adapter.translateExpired (.error e) = (Adapter.translateExpired (.error e)).map f
      rw [hkept, hkept]
      rfl

/-- The second version shows a page of what its filters leave of the first one, and fails as that does. -/
theorem retrieveContactsV2_eq (search : Option String) (page n : Nat) (smsCapable : Bool) :
    A.retrieveContactsV2 search page n smsCapable = A.retrieveContacts.map fun all =>
      (pageOf page n (A.shown search smsCapable all), ((A.shown search smsCapable all).length : Int)) := by
  rw [retrieveContacts, ← translateExpired_map, retrieveContactsV2]
  congr 1
  cases A.accountInfo with
  | error e => rfl
  | ok caller =>
    rw [ok_bind, ok_bind]
    cases A.directoryContacts (A.context caller) with
    | error e => rfl
    | ok contacts =>
      rw [ok_bind, ok_bind]
      cases A.customContacts with
      | error e => rfl
      | ok custom => rfl

/-- **The phone directories**: the first version lists the contact that each record has by itself, and never the caller;
the pages of a request go through what its filters leave of that list. -/
theorem phone_directory_walk (A : DirectoryAdapter) (all : List ContactInfo) :
    (A.retrieveContacts = .ok all ↔ ∃ caller, A.Lists caller all) ∧
      (A.retrieveContacts = .ok all → (∀ c ∈ all, c.isCurrentUser ≠ some true) ∧
        ∀ search smsCapable n, 1 ≤ n →
          Walk (fun page => A.retrieveContactsV2 search page n smsCapable) n (A.shown search smsCapable all)) := by
  refine ⟨retrieveContacts_iff, fun h => ⟨?_, fun search smsCapable n hn => walk_of_pageOf hn fun page _ => ?_⟩⟩
  · obtain ⟨caller, hlists⟩ := retrieveContacts_iff.1 h
    exact hlists.others
  · rw [retrieveContactsV2_eq, h]
    rfl

/-! ## A directory with the caller in it -/

def officeRecords : List DirectoryRecord := [
  { firstName := .val "Ann", officeNumber := .val "+1012", mobileNumber := .val "555" },
  { firstName := .val "Me", officeNumber := .val "1011" }]

/-- The adapter at work for the account 11. -/
def officeDirectory : DirectoryAdapter where
  toAdapter := (PhonebookAdapter.officePhonebook [PhonebookAdapter.receptionEntry] []).toAdapter
  getPhoneDirectoryList _ := .ok (.val [.val 5])
  getPhoneDirectoryInfo _ _ := .ok (.val { name := .val "Office", directoryRecords := .val officeRecords })

theorem phone_directory_walk_office : ∃ all, officeDirectory.retrieveContacts = .ok all ∧
    all.map (·.numbers.main) = ["1012", "100"] ∧ (∀ c ∈ all, c.isCurrentUser ≠ some true) ∧
      Walk (fun page => officeDirectory.retrieveContactsV2 (some "Ann") page 1 false) 1
        (officeDirectory.shown (some "Ann") false all) := by
  have hlisted : officeDirectory.retrieveContacts = .ok _ := rfl
  obtain ⟨hothers, hwalk⟩ := (phone_directory_walk officeDirectory _).2 hlisted
  exact ⟨_, hlisted, rfl, hothers, hwalk _ _ _ le_rfl⟩

end DirectoryAdapter

end PortaPhone.Contacts
