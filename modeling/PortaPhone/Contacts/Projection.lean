import PortaPhone.Contacts.Account
/-!
# What the cache keeps of an account record (`portaswitch/adapter.py`)

| here | there |
| --- | --- |
| `accountCacheFields`, `accountCacheListFields` | `ACCOUNT_CACHE_FIELDS` (`adapter.py:196`), `ACCOUNT_CACHE_LIST_FIELDS` (`:203`) |
| `isBeneficiary`, `projectAccount` | `_is_beneficiary` (`:246`), `_project_account` (`:265`) |
| `passesFilter`, `cachedMatches` | `_passes_filter` (`:1421`), `_matches` (`:1462`) |
| `firstEmail`, `parseSmsNumbers`, `getContactInfoByAccount` | the serializers of these names (`serializer.py:47`, `:527`, `:112`) |

`Account` is a record that has been read. Here it is the JSON object as the switch sends it, where anything may stand
under a key.
-/

namespace PortaPhone.Contacts

def Raised.ofJson : Json.Error → Raised
  | .key key => .keyError key
  | .type => .typeError
  | .attribute => .attributeError
  | .value => .valueError
  | .overflow => .overflowError

abbrev Record := Dict String Json

namespace Record

def raise {α : Type} : Except Json.Error α → Except Raised α := Except.mapError Raised.ofJson

/-- `record.get(key, default)`. -/
def getD (record : Record) (key : String) (default : Json) : Json := (record.get? key).getD default

/-- `record.get(key)`. -/
def get (record : Record) (key : String) : Json := record.getD key .null

/-- `record[key]`. -/
def index (record : Record) (key : String) : Except Raised Json :=
  match record.get? key with
  | some v => .ok v
  | none => .error (.keyError key)

/-- The rows of `record.get(field, [])`. -/
def rows (record : Record) (field : String) : Except Raised (List Json) := raise (record.getD field (.list [])).items

/-- `[row[kept] for row in record.get(field, [])]`. -/
def column (record : Record) (field kept : String) : Except Raised (List Json) := do
  (← record.rows field).mapM fun row => raise (row.index kept)

/-! ## The readers -/

def isBeneficiary (record : Record) : Bool := (record.get "billing_model").eqInt billingModelBeneficiary

def firstEmail (value : Json) : Except Raised (Option String) :=
  if value.truthy then
    match value with
    | .str s => .ok (Contacts.firstEmail (some s))
    | _ => .error .attributeError
  else .ok none

def parseSmsNumbers (record : Record) : Except Raised (List Json) := do
  let numbers ← record.column "alias_did_number_list" "did_number"
  let smsNumber := record.get "did_number"
  return if smsNumber.truthy then numbers ++ [smsNumber] else numbers

/-- A value pydantic takes for a `str`. -/
def requireStr (field : String) : Json → Except Raised String
  | .str s => .ok s
  | _ => .error (.validationError field)

/-- An `Optional[str]`. -/
def optionalStr (field : String) : Json → Except Raised (Option String)
  | .null => .ok none
  | .str s => .ok (some s)
  | _ => .error (.validationError field)

def getContactInfoByAccount (R : Reading) (rt : Runtime) (record : Record) (currentUser : Int) :
    Except Raised ContactInfo := do
  let iAccount ← record.index "i_account"
  let email ← firstEmail (record.get "email")
  let aliases ← record.column "alias_list" "id"
  let id ← record.index "id"
  let sms ← record.parseSmsNumbers
  -- `Numbers` is checked before `sip_status` is read
  let additional ← aliases.mapM (requireStr "additional")
  let ext ← optionalStr "ext" (record.getD "extension_id" (.str ""))
  let main ← requireStr "main" id
  let sms ← sms.mapM (requireStr "sms")
  let sipStatus ← record.index "sip_status"
  let aliasName ← optionalStr "alias_name" (record.get "extension_name")
  let companyName ← optionalStr "company_name" (record.getD "companyname" (.str ""))
  let email ← requireEmail rt email
  let firstName ← optionalStr "first_name" (record.getD "firstname" (.str ""))
  let lastName ← optionalStr "last_name" (record.getD "lastname" (.str ""))
  return {
    userId := some (iAccount.text R.repr)
    isCurrentUser := some (iAccount.eqInt currentUser)
    aliasName, companyName, email, firstName, lastName
    numbers := { additional := some additional, ext, main, sms := some sms }
    sipStatus := some (if sipStatus.eqInt 1 then .registered else .notregistered) }

def dualVersionSystem : Json → DualVersionSystem
  | .str s => .ofValue (some s)
  | _ => .unspecified

/-- `value in ids` of a set of integers: a list and a dict cannot be hashed. -/
def isMember (ids : List Int) : Json → Except Raised Bool
  | .list _ | .object _ => .error .typeError
  | value => .ok (ids.any fun n => value.eqInt n)

/-- `has_extension`. -/
def hasExtension (isHierarchy : Bool) (extensionIAccounts : List Int) (record : Record) : Except Raised Bool :=
  if (record.get "extension_id").truthy then .ok true
  else if isHierarchy then do isMember extensionIAccounts (← record.index "i_account")
  else .ok false

def passesFilter (skipWithoutExtension isHierarchy : Bool) (extensionIAccounts : List Int) (iAccount : Int)
    (record : Record) : Except Raised Bool :=
  let status := record.get "status"
  if status.truthy && status.eqStr "blocked" then .ok false
  else if dualVersionSystem (record.get "dual_version_system") = .source then .ok false
  else do
    let hasExtension ← hasExtension isHierarchy extensionIAccounts record
    if skipWithoutExtension && !hasExtension then return false
    return !(← record.index "i_account").eqInt iAccount

/-- The fields that `_matches` looks through. -/
def searchFields : List String := ["id", "firstname", "lastname", "extension_name", "email", "extension_id"]

/-- `str(account.get(field) or "").lower()`. -/
def searchText (R : Reading) (rt : Runtime) (record : Record) (field : String) : String :=
  rt.lower (((record.get field).orElse (.str "")).text R.repr)

/-- `alias.get("id") == did`. -/
def aliasIs (did : String) (row : Json) : Except Raised Bool := do return (← raise (row.get "id")).eqStr did

def hasAlias (record : Record) (did : String) : Except Raised Bool := do (← record.rows "alias_list").anyM (aliasIs did)

def cachedMatches (R : Reading) (rt : Runtime) (search : String) (extIAccounts : List Int) (record : Record) :
    Except Raised Bool := do
  if searchFields.any fun field => isIn (rt.lower search) (searchText R rt record field) then return true
  let iAccount ← raise (toInt R (← record.index "i_account"))
  if iAccount ∈ extIAccounts then return true
  if stripNumber search = "" then return false
  record.hasAlias (stripNumber search)

/-! ## The projection -/

def accountCacheFields : List String :=
  ["i_account", "i_customer", "id", "firstname", "lastname", "companyname", "email", "extension_id", "extension_name",
    "sip_status", "status", "dual_version_system", "did_number", "i_master_account", "billing_model"]

/-- The nested lists, each with the key that is kept of a row. -/
def accountCacheListFields : List (String × String) := [("alias_list", "id"), ("alias_did_number_list", "did_number")]

/-- The rows of `account.get(field) or []` that have the key, each with that key alone. -/
def keptRows (record : Record) (field kept : String) : Except Raised (List Json) := do
  let rows ← raise ((record.get field).orElse (.list [])).items
  return rows.filterMap fun row => (row.field? kept).map fun v => .object [(kept, v)]

def projectAccount (record : Record) : Except Raised Record := do
  let lists ← accountCacheListFields.mapM fun f => do return (f.1, Json.list (← keptRows record f.1 f.2))
  return (record.restrict accountCacheFields).update lists

theorem raise_ok {α : Type} {x : Except Json.Error α} {a : α} : raise x = .ok a ↔ x = .ok a :=
  Fallible.mapError_ok

section Projected

variable {record projected : Record}

theorem mem_lists {lists : List (String × Json)}
    (h : accountCacheListFields.mapM (fun f => do return (f.1, Json.list (← keptRows record f.1 f.2))) = .ok lists)
    {e : String × Json} (he : e ∈ lists) :
    ∃ f ∈ accountCacheListFields, ∃ rows, keptRows record f.1 f.2 = .ok rows ∧ e = (f.1, .list rows) := by
  obtain ⟨f, hf, he⟩ := Fallible.of_mem_mapM h he
  simp only [Fallible.bind_ok, Fallible.pure_ok] at he
  obtain ⟨rows, hrows, rfl⟩ := he
  exact ⟨f, hf, rows, hrows, rfl⟩

/-- The kept fields are those of the record. -/
theorem projected_fields (h : record.projectAccount = .ok projected) :
    Dict.AgreeOn (· ∈ accountCacheFields) projected record := by
  simp only [projectAccount, Fallible.bind_ok, Fallible.pure_ok] at h
  obtain ⟨lists, hlists, rfl⟩ := h
  have hdisjoint : ∀ f ∈ accountCacheListFields, f.1 ∉ accountCacheFields := by decide
  refine (Dict.agreeOn_update fun e he => ?_).trans (Dict.agreeOn_restrict _ _)
  obtain ⟨f, hf, rows, -, rfl⟩ := mem_lists hlists he
  exact hdisjoint f hf

/-- The nested lists are there as lists. -/
theorem projected_list (h : record.projectAccount = .ok projected) {f : String × String}
    (hf : f ∈ accountCacheListFields) :
    ∃ rows, keptRows record f.1 f.2 = .ok rows ∧ projected.get? f.1 = some (.list rows) := by
  simp only [projectAccount, Fallible.bind_ok, Fallible.pure_ok] at h
  obtain ⟨lists, hlists, rfl⟩ := h
  have hone : ∀ f ∈ accountCacheListFields, ∀ g ∈ accountCacheListFields, g.1 = f.1 → g = f := by decide
  obtain ⟨e, he, hfe⟩ := Fallible.mem_of_mapM hlists hf
  simp only [Fallible.bind_ok, Fallible.pure_ok] at hfe
  obtain ⟨rows, hrows, rfl⟩ := hfe
  refine ⟨rows, hrows, Dict.get?_update_mem (fun e' he' hkey => ?_) he⟩
  obtain ⟨g, hg, rows', hrows', rfl⟩ := mem_lists hlists he'
  obtain rfl := hone f hf g hg hkey
  rw [Except.ok.inj (hrows'.symm.trans hrows)]

theorem projectAccount_congr {a b : Record} (hfields : Dict.AgreeOn (· ∈ accountCacheFields) a b)
    (hlists : ∀ f ∈ accountCacheListFields, keptRows a f.1 f.2 = keptRows b f.1 f.2) :
    a.projectAccount = b.projectAccount := by
  rw [projectAccount, projectAccount, hfields.restrict]
  congr 1
  apply Fallible.mapM_congr
  intro f hf
  rw [hlists f hf]

/-- A kept row is kept as it is. -/
theorem keptRows_kept {field kept : String} {rows : List Json} (h : keptRows record field kept = .ok rows)
    (hget : projected.get? field = some (.list rows)) : keptRows projected field kept = .ok rows := by
  simp only [keptRows, Fallible.bind_ok, Fallible.pure_ok] at h
  obtain ⟨items, -, rfl⟩ := h
  have hitems :=
    Json.items_orElse (a := .list (items.filterMap fun row => (row.field? kept).map fun v => .object [(kept, v)])) rfl
  rw [keptRows, get, getD, hget, Option.getD_some, hitems]
  show Except.ok (List.filterMap _ _) = _
  rw [List.filterMap_filterMap]
  congr 1
  apply List.filterMap_congr
  intro row _
  cases row.field? kept with
  | none => rfl
  | some v => simp [Json.field?, Dict.find]

/-- Projecting what has been projected changes nothing. -/
theorem projectAccount_projected (h : record.projectAccount = .ok projected) :
    projected.projectAccount = .ok projected := by
  rw [← h]
  apply projectAccount_congr (projected_fields h)
  intro f hf
  obtain ⟨rows, hrows, hget⟩ := projected_list h hf
  rw [keptRows_kept hrows hget, hrows]

/-! ## Nothing is lost -/

/-- What the readers find in a record: its kept fields and, of every nested list, the kept key of each row. -/
structure SameReading (a b : Record) : Prop where
  fields : Dict.AgreeOn (· ∈ accountCacheFields) a b
  columns : ∀ f ∈ accountCacheListFields, ∃ values, a.column f.1 f.2 = .ok values ∧ b.column f.1 f.2 = .ok values

/-- Where every row has the key, every row is kept. -/
theorem items_of_column {field kept : String} {values : List Json} (h : record.column field kept = .ok values) :
    ∃ items, ((record.get field).orElse (.list [])).items = .ok items ∧
      items.filterMap (Json.field? kept) = values := by
  simp only [column, rows, Fallible.bind_ok, Fallible.mapM_ok, raise_ok] at h
  obtain ⟨items, hitems, hvalues⟩ := h
  refine ⟨items, ?_, ?_⟩
  · cases hget : record.get? field with
    | none =>
      rw [getD, hget] at hitems
      rw [get, getD, hget]
      exact hitems
    | some v =>
      rw [getD, hget, Option.getD_some] at hitems
      rw [get, getD, hget, Option.getD_some]
      exact Json.items_orElse hitems
  · clear hitems
    induction hvalues with
    | nil => rfl
    | cons hrow _ ih => rw [List.filterMap_cons, Json.field?_of_index hrow, ih]

theorem column_projected {field kept : String} {values : List Json}
    (h : projected.get? field = some (.list (values.map fun v => .object [(kept, v)]))) :
    projected.column field kept = .ok values := by
  rw [column, rows, getD, h]
  show List.mapM _ (values.map _) = _
  rw [Fallible.mapM_ok, List.forall₂_map_left_iff]
  apply List.forall₂_same.2
  intro v _
  simp [Json.index, Dict.find, raise, Except.mapError]

/-- The nested lists of a projected record can be read, whatever stands in those of the record: a row without the key is
left out. -/
theorem column_of_projected (h : record.projectAccount = .ok projected) {f : String × String}
    (hf : f ∈ accountCacheListFields) :
    ∃ items, ((record.get f.1).orElse (.list [])).items = .ok items ∧
      projected.column f.1 f.2 = .ok (items.filterMap (Json.field? f.2)) := by
  obtain ⟨rows, hrows, hget⟩ := projected_list h hf
  simp only [keptRows, Fallible.bind_ok, Fallible.pure_ok, raise_ok] at hrows
  obtain ⟨items, hitems, rfl⟩ := hrows
  refine ⟨items, hitems, column_projected ?_⟩
  rw [hget, List.map_filterMap]

/-- A record whose nested lists can be read is projected, and reads the same. -/
theorem projectAccount_sameReading
    (h : ∀ f ∈ accountCacheListFields, ∃ values, record.column f.1 f.2 = .ok values) :
    ∃ projected, record.projectAccount = .ok projected ∧ SameReading projected record := by
  have hlists : ∃ lists, accountCacheListFields.mapM (fun f => do return (f.1, Json.list (← keptRows record f.1 f.2))) =
      .ok lists := by
    apply Fallible.mapM_exists
    intro f hf
    obtain ⟨values, hvalues⟩ := h f hf
    obtain ⟨items, hitems, -⟩ := items_of_column hvalues
    rw [keptRows, hitems]
    exact ⟨_, rfl⟩
  obtain ⟨lists, hlists⟩ := hlists
  have hprojected : record.projectAccount = .ok ((record.restrict accountCacheFields).update lists) := by
    rw [projectAccount, hlists]
    rfl
  refine ⟨_, hprojected, projected_fields hprojected, fun f hf => ?_⟩
  obtain ⟨values, hvalues⟩ := h f hf
  obtain ⟨items, hitems, rfl⟩ := items_of_column hvalues
  obtain ⟨items', hitems', hcolumn⟩ := column_of_projected hprojected hf
  obtain rfl := Except.ok.inj (hitems.symm.trans hitems')
  exact ⟨_, hcolumn, hvalues⟩

end Projected

namespace SameReading

variable {a b : Record} (h : SameReading a b)
include h

theorem getD (key : String) (hkey : key ∈ accountCacheFields) (default : Json) :
    a.getD key default = b.getD key default := by
  rw [Record.getD, Record.getD, h.fields key hkey]

theorem get (key : String) (hkey : key ∈ accountCacheFields) : a.get key = b.get key := h.getD key hkey .null

theorem index (key : String) (hkey : key ∈ accountCacheFields) : a.index key = b.index key := by
  rw [Record.index, Record.index, h.fields key hkey]

theorem column (field kept : String) (hf : (field, kept) ∈ accountCacheListFields) :
    a.column field kept = b.column field kept := by
  obtain ⟨values, ha, hb⟩ := h.columns (field, kept) hf
  rw [ha, hb]

theorem isBeneficiary : a.isBeneficiary = b.isBeneficiary := by
  rw [Record.isBeneficiary, Record.isBeneficiary, h.get "billing_model" (by decide)]

theorem parseSmsNumbers : a.parseSmsNumbers = b.parseSmsNumbers := by
  rw [Record.parseSmsNumbers, Record.parseSmsNumbers, h.column "alias_did_number_list" "did_number" (by decide),
    h.get "did_number" (by decide)]

theorem getContactInfoByAccount (R : Reading) (rt : Runtime) (currentUser : Int) :
    a.getContactInfoByAccount R rt currentUser = b.getContactInfoByAccount R rt currentUser := by
  rw [Record.getContactInfoByAccount, Record.getContactInfoByAccount, h.index "i_account" (by decide),
    h.get "email" (by decide), h.column "alias_list" "id" (by decide), h.index "id" (by decide), h.parseSmsNumbers,
    h.getD "extension_id" (by decide), h.index "sip_status" (by decide), h.get "extension_name" (by decide),
    h.getD "companyname" (by decide), h.getD "firstname" (by decide), h.getD "lastname" (by decide)]

theorem hasExtension (isHierarchy : Bool) (extensionIAccounts : List Int) :
    hasExtension isHierarchy extensionIAccounts a = hasExtension isHierarchy extensionIAccounts b := by
  rw [Record.hasExtension, Record.hasExtension, h.get "extension_id" (by decide), h.index "i_account" (by decide)]

theorem passesFilter (skipWithoutExtension isHierarchy : Bool) (extensionIAccounts : List Int) (iAccount : Int) :
    passesFilter skipWithoutExtension isHierarchy extensionIAccounts iAccount a =
      passesFilter skipWithoutExtension isHierarchy extensionIAccounts iAccount b := by
  rw [Record.passesFilter, Record.passesFilter, h.get "status" (by decide), h.get "dual_version_system" (by decide),
    h.hasExtension, h.index "i_account" (by decide)]

theorem searchText (R : Reading) (rt : Runtime) {field : String} (hf : field ∈ searchFields) :
    searchText R rt a field = searchText R rt b field := by
  have hkept : ∀ field ∈ searchFields, field ∈ accountCacheFields := by decide
  rw [Record.searchText, Record.searchText, h.get field (hkept field hf)]

end SameReading

/-- Where every row has its `id`, none of them ends the search with an error. -/
theorem anyM_aliasIs {items values : List Json} (h : List.Forall₂ (fun row v => row.index "id" = .ok v) items values)
    (did : String) : items.anyM (aliasIs did) = .ok (values.any (·.eqStr did)) := by
  induction h with
  | nil => rfl
  | @cons row v items values hrow _ ih =>
    have hv : aliasIs did row = .ok (v.eqStr did) := by
      rw [aliasIs, raise_ok.2 (Json.get_of_index hrow)]
      rfl
    rw [List.anyM, List.any_cons, hv]
    cases v.eqStr did with
    | true => rfl
    | false => exact ih

theorem hasAlias_column {record : Record} {values : List Json} (h : record.column "alias_list" "id" = .ok values)
    (did : String) : record.hasAlias did = .ok (values.any (·.eqStr did)) := by
  simp only [column, Fallible.bind_ok, Fallible.mapM_ok, raise_ok] at h
  obtain ⟨items, hitems, hvalues⟩ := h
  rw [hasAlias, hitems]
  exact anyM_aliasIs hvalues did

theorem SameReading.cachedMatches {a b : Record} (h : SameReading a b) (R : Reading) (rt : Runtime) (search : String)
    (extIAccounts : List Int) :
      cachedMatches R rt search extIAccounts a = cachedMatches R rt search extIAccounts b := by
  obtain ⟨values, ha, hb⟩ := h.columns ("alias_list", "id") (by decide)
  have hfields : (searchFields.any fun field => isIn (rt.lower search) (Record.searchText R rt a field)) =
      searchFields.any fun field => isIn (rt.lower search) (Record.searchText R rt b field) := by
    rw [Bool.eq_iff_iff, List.any_eq_true, List.any_eq_true]
    refine exists_congr fun field => and_congr_right fun hf => ?_
    rw [h.searchText R rt hf]
  rw [Record.cachedMatches, Record.cachedMatches, hfields, h.index "i_account" (by decide), hasAlias_column ha,
    hasAlias_column hb]

/-- A contact is made only where the nested lists can be read. -/
theorem column_of_contact {R : Reading} {rt : Runtime} {record : Record} {currentUser : Int} {contact : ContactInfo}
    (h : record.getContactInfoByAccount R rt currentUser = .ok contact) :
    ∀ f ∈ accountCacheListFields, ∃ values, record.column f.1 f.2 = .ok values := by
  simp only [getContactInfoByAccount, parseSmsNumbers, Fallible.bind_ok] at h
  obtain ⟨_, _, _, _, aliases, haliases, _, _, _, ⟨numbers, hnumbers, _⟩, _⟩ := h
  simp only [accountCacheListFields, List.forall_mem_cons]
  exact ⟨⟨aliases, haliases⟩, ⟨numbers, hnumbers⟩, fun _ hf => absurd hf List.not_mem_nil⟩

/-- **Projection loses nothing the contacts need.** Where a contact can be made from a record, the projected record
gives that contact and every caller the same one, the same verdicts and SMS numbers, and the same match for every
search. A projected record is its own projection. -/
theorem account_projection (R : Reading) (rt : Runtime) (record : Record) :
    (∀ projected, record.projectAccount = .ok projected → projected.projectAccount = .ok projected) ∧
    ∀ currentUser contact, record.getContactInfoByAccount R rt currentUser = .ok contact →
      ∃ projected, record.projectAccount = .ok projected ∧
        projected.getContactInfoByAccount R rt currentUser = .ok contact ∧
        (∀ user, projected.getContactInfoByAccount R rt user = record.getContactInfoByAccount R rt user) ∧
        (∀ skipWithoutExtension isHierarchy extensionIAccounts iAccount,
          passesFilter skipWithoutExtension isHierarchy extensionIAccounts iAccount projected =
            passesFilter skipWithoutExtension isHierarchy extensionIAccounts iAccount record) ∧
        projected.parseSmsNumbers = record.parseSmsNumbers ∧
        projected.isBeneficiary = record.isBeneficiary ∧
        ∀ search extIAccounts, cachedMatches R rt search extIAccounts projected =
          cachedMatches R rt search extIAccounts record := by
  refine ⟨fun projected hprojected => projectAccount_projected hprojected, fun currentUser contact hcontact => ?_⟩
  obtain ⟨projected, hprojected, hsame⟩ := projectAccount_sameReading (column_of_contact hcontact)
  refine ⟨projected, hprojected, ?_, hsame.getContactInfoByAccount R rt, hsame.passesFilter, hsame.parseSmsNumbers,
    hsame.isBeneficiary, hsame.cachedMatches R rt⟩
  rw [hsame.getContactInfoByAccount, hcontact]

/-- An account with two aliases and an SMS number, among fields that nobody reads. -/
def sampleRecord : Record :=
  Dict.empty.update [("i_account", .int 7), ("id", .str "380441234567"), ("balance", .float "1.5"),
  ("firstname", .str "Anna"), ("lastname", .null), ("email", .str "anna@example.com, a@example.com"),
  ("sip_status", .int 1),
  ("alias_list", .list [.object [("i_account", .int 8), ("id", .str "380447654321")], .object [("id", .str "0042")]]),
  ("alias_did_number_list", .list [.object [("did_number", .str "380440000001"), ("i_did", .int 3)]]),
    ("billing_model", .int 1)]

def sampleReading : Reading where
  repr
    | .int n => toString n
    | _ => ""
  digit := Json.asciiDigit
  trunc _ := .error .value

def sampleRuntime : Runtime where
  lower := String.toLower
  int := Json.intLiteral Json.asciiDigit
  emailStr := some

theorem account_projection_sample : ∃ projected, sampleRecord.projectAccount = .ok projected ∧
    (∃ contact, projected.getContactInfoByAccount sampleReading sampleRuntime 7 = .ok contact ∧
      contact.numbers.additional = some ["380447654321", "0042"] ∧ contact.email = some "anna@example.com") ∧
    projected.parseSmsNumbers = .ok [.str "380440000001"] ∧ projected.projectAccount = .ok projected := by
  obtain ⟨contact, hcontact, hnumbers, hemail⟩ : ∃ contact,
      sampleRecord.getContactInfoByAccount sampleReading sampleRuntime 7 = .ok contact ∧
        contact.numbers.additional = some ["380447654321", "0042"] ∧ contact.email = some "anna@example.com" :=
    ⟨_, rfl, rfl, by decide⟩
  obtain ⟨hidem, hcontacts⟩ := account_projection sampleReading sampleRuntime sampleRecord
  obtain ⟨projected, hprojected, hsame, -, -, hsms, -⟩ := hcontacts 7 contact hcontact
  exact ⟨projected, hprojected, ⟨contact, hsame, hnumbers, hemail⟩, hsms.trans rfl, hidem projected hprojected⟩

end Record

end PortaPhone.Contacts
