import Mathlib
import PortaPhone.Contacts.Projection
import PortaPhone.Contacts.Retrieval
/-!
# Accounts as records

An `Account` is a record whose values have the types that the switch gives them: `ofAccount` is that record. Its
projection is that of the account (`projectAccount_ofAccount`), and its readers find what those of the account find
(`getContactInfoByAccount_ofAccount`, `passesFilter_ofAccount`, `cachedMatches_ofAccount`). So the listings, which are
about accounts here, do the same with the records that they are of (`records_of_accounts`).
-/

namespace PortaPhone.Contacts

/-- What stands under a key, if anything does. -/
def Attr.json {α : Type} (f : α → Json) : Attr α → Option Json
  | absent => none
  | null => some .null
  | val a => some (f a)

/-- A value or null. -/
def optJson {α : Type} (f : α → Json) : Option α → Json
  | none => .null
  | some a => f a

namespace Record

/-- A row of a nested list, with the one key that is read. -/
def ofRow (kept : String) (row : Attr String) : Json := .object ((row.json .str).map (kept, ·)).toList

def ofRows (kept : String) (rows : Attr (List (Attr String))) : Option Json :=
  rows.json fun rows => .list (rows.map (ofRow kept))

def plainFields (a : Account) : List (String × Option Json) :=
  [("i_account", some (.int a.iAccount)), ("i_customer", a.iCustomer.json .int), ("id", a.id.json .str),
    ("firstname", a.firstname.json .str), ("lastname", a.lastname.json .str), ("companyname", a.companyname.json .str),
    ("email", a.email.json .str), ("extension_id", a.extensionId.json .str),
    ("extension_name", a.extensionName.json .str),
    ("sip_status", a.sipStatus.json .int), ("status", a.status.json .str),
    ("dual_version_system", a.dualVersionSystem.json .str), ("did_number", a.didNumber.json .str),
    ("i_master_account", a.iMasterAccount.json .int), ("billing_model", a.billingModel.json .int)]

def nestedFields (a : Account) : List (String × Option Json) :=
  [("alias_list", ofRows "id" a.aliasList), ("alias_did_number_list", ofRows "did_number" a.aliasDidNumberList)]

def ofAccount (a : Account) : Record := Dict.ofFields (plainFields a ++ nestedFields a)

theorem plainFields_keys (a : Account) : (plainFields a).map Prod.fst = accountCacheFields := rfl

theorem get?_ofAccount (a : Account) {key : String} {v : Option Json} (h : (key, v) ∈ plainFields a ++ nestedFields a) :
    (ofAccount a).get? key = v := by
  have hnodup : ((plainFields a ++ nestedFields a).map Prod.fst).Nodup :=
    show (accountCacheFields ++ ["alias_list", "alias_did_number_list"]).Nodup by decide
  exact Dict.get?_ofFields h fun f hf hkey => congrArg Prod.snd (List.inj_on_of_nodup_map hnodup hf h hkey)

/-! ## The projection -/

/-- The kept fields are those before the nested lists. -/
theorem restrict_ofAccount (a : Account) :
    (ofAccount a).restrict accountCacheFields = Dict.ofFields (plainFields a) := by
  have hnodup : ((plainFields a).map Prod.fst).Nodup := show accountCacheFields.Nodup by decide
  have hagree : Dict.AgreeOn (· ∈ (plainFields a).map Prod.fst) (ofAccount a) (Dict.ofFields (plainFields a)) := by
    rw [ofAccount, Dict.ofFields_append]
    apply Dict.agreeOn_update
    intro e he
    obtain ⟨f, hf, hfe⟩ := List.mem_filterMap.1 he
    obtain ⟨v, -, rfl⟩ := Option.map_eq_some_iff.1 hfe
    have hnew : ∀ k ∈ (nestedFields a).map Prod.fst, k ∉ accountCacheFields :=
      show ∀ k ∈ ["alias_list", "alias_did_number_list"], k ∉ accountCacheFields by decide
    exact hnew f.1 (List.mem_map_of_mem hf)
  rw [← plainFields_keys a, hagree.restrict, Dict.restrict_ofFields hnodup]

theorem keptRows_ofRows {record : Record} {field kept : String} {rows : Attr (List (Attr String))}
    (h : record.get? field = ofRows kept rows) :
    Record.keptRows record field kept = .ok ((rows.rowsOrEmpty.filter (· ≠ .absent)).map (ofRow kept)) := by
  have hitems : ((record.get field).orElse (.list [])).items = .ok (rows.rowsOrEmpty.map (ofRow kept)) := by
    rw [get, getD, h]
    cases rows with
    | absent => rfl
    | null => rfl
    | val rows => exact Json.items_orElse rfl
  rw [Record.keptRows, hitems]
  show Except.ok (List.filterMap _ (List.map _ _)) = _
  congr 1
  rw [List.filterMap_map]
  induction rows.rowsOrEmpty with
  | nil => rfl
  | cons row rows ih =>
    rw [List.filterMap_cons, ih]
    cases row with
    | absent => rfl
    | null => simp [ofRow, Attr.json, Json.field?, Dict.find]
    | val s => simp [ofRow, Attr.json, Json.field?, Dict.find]

/-- **The projection of an account's record is the record of its projection.** -/
theorem projectAccount_ofAccount (a : Account) :
    (ofAccount a).projectAccount = .ok (ofAccount (Contacts.projectAccount a)) := by
  have haliases : Record.keptRows (ofAccount a) "alias_list" "id" = _ :=
    keptRows_ofRows (get?_ofAccount a (List.mem_append_right _ List.mem_cons_self))
  have hdids : Record.keptRows (ofAccount a) "alias_did_number_list" "did_number" = _ :=
    keptRows_ofRows (get?_ofAccount a (List.mem_append_right _ (List.mem_cons_of_mem _ List.mem_cons_self)))
  rw [projectAccount, restrict_ofAccount, accountCacheListFields, List.mapM_cons, List.mapM_cons,
    List.mapM_nil, haliases, hdids]
  rw [ofAccount, Dict.ofFields_append]
  rfl

/-! ## The readers -/

section Readers

variable {record : Record} {key : String} {α : Type}

theorem get_json {f : α → Json} {x : Attr α} (h : record.get? key = x.json f) : record.get key = optJson f x.get? := by
  rw [get, getD, h]
  cases x with
  | absent => rfl
  | null => rfl
  | val a => rfl

theorem index_json {f : α → Json} {x : Attr α} (h : record.get? key = x.json f) :
    record.index key = (x.index key).map (optJson f) := by
  rw [index, h]
  cases x with
  | absent => rfl
  | null => rfl
  | val a => rfl

theorem optionalStr_getD {x : Attr String} (h : record.get? key = x.json .str) (field default : String) :
    optionalStr field (record.getD key (.str default)) = .ok (x.getD default) := by
  rw [getD, h]
  cases x with
  | absent => rfl
  | null => rfl
  | val s => rfl

theorem optionalStr_get {x : Attr String} (h : record.get? key = x.json .str) (field : String) :
    optionalStr field (record.get key) = .ok x.get? := by
  rw [get_json h]
  cases x with
  | absent => rfl
  | null => rfl
  | val s => rfl

theorem requireStr_optJson (field : String) (v : Option String) :
    requireStr field (optJson .str v) = Contacts.requireStr field v := by
  cases v with
  | none => rfl
  | some s => rfl

theorem firstEmail_optJson (v : Option String) : firstEmail (optJson .str v) = .ok (Contacts.firstEmail v) := by
  cases v with
  | none => rfl
  | some s =>
    by_cases hs : s = ""
    · rw [hs]
      rfl
    · have htruthy : (Json.str s).truthy = true := by simp [Json.truthy, hs]
      exact if_pos htruthy

theorem column_ofRows {field kept : String} {rows : Attr (List (Attr String))}
    (h : record.get? field = ofRows kept rows) :
    record.column field kept = (rows.rows >>= fun rows => rows.mapM (·.index kept)).map (List.map (optJson .str)) := by
  rw [column, Record.rows, getD, h]
  cases rows with
  | absent => rfl
  | null => rfl
  | val rows =>
    show List.mapM _ (rows.map (ofRow kept)) = Except.map (List.map (optJson .str)) (List.mapM _ rows)
    rw [List.mapM_map, ← Fallible.mapM_map]
    apply Fallible.mapM_congr
    intro row _
    cases row with
    | absent => rfl
    | null => simp [ofRow, Attr.json, Json.index, Dict.find, raise, Except.mapError, Attr.index, Except.map, optJson]
    | val s => simp [ofRow, Attr.json, Json.index, Dict.find, raise, Except.mapError, Attr.index, Except.map, optJson]

end Readers

variable (a : Account)

theorem aliasList_ofAccount : (ofAccount a).get? "alias_list" = ofRows "id" a.aliasList :=
  get?_ofAccount a (List.mem_append_right _ List.mem_cons_self)

theorem aliasDidNumberList_ofAccount :
    (ofAccount a).get? "alias_did_number_list" = ofRows "did_number" a.aliasDidNumberList :=
  get?_ofAccount a (List.mem_append_right _ (List.mem_cons_of_mem _ List.mem_cons_self))

theorem iAccount_ofAccount : (ofAccount a).index "i_account" = .ok (.int a.iAccount) := by
  have hget : (ofAccount a).get? "i_account" = some (.int a.iAccount) :=
    get?_ofAccount a (List.mem_append_left _ List.mem_cons_self)
  rw [index, hget]

theorem isBeneficiary_ofAccount : (ofAccount a).isBeneficiary = Contacts.isBeneficiary a := by
  have hmodel : (ofAccount a).get? "billing_model" = a.billingModel.json .int :=
    get?_ofAccount a (by simp [plainFields])
  rw [isBeneficiary, get_json hmodel, Contacts.isBeneficiary]
  cases a.billingModel with
  | absent => rfl
  | null => rfl
  | val n => simp [optJson, Attr.get?, Json.eqInt]

theorem parseSmsNumbers_ofAccount :
    (ofAccount a).parseSmsNumbers = (Contacts.parseSmsNumbers a).map (List.map (optJson .str)) := by
  have hnumber : (ofAccount a).get? "did_number" = a.didNumber.json .str := get?_ofAccount a (by simp [plainFields])
  have hfound : ∀ numbers : List (Option String),
      (if ((ofAccount a).get "did_number").truthy then numbers.map (optJson Json.str) ++
        [(ofAccount a).get "did_number"]
        else numbers.map (optJson .str)) = (numbers ++ (a.didNumber.text?.map some).toList).map (optJson .str) := by
    intro numbers
    rw [get_json hnumber]
    cases a.didNumber with
    | absent => simp [optJson, Attr.get?, Attr.text?, Json.truthy]
    | null => simp [optJson, Attr.get?, Attr.text?, Json.truthy]
    | val s =>
      by_cases hs : s = ""
      · simp [optJson, Attr.get?, Attr.text?, Json.truthy, hs]
      · simp [optJson, Attr.get?, Attr.text?, Json.truthy, Option.filter, hs]
  rw [parseSmsNumbers, column_ofRows (aliasDidNumberList_ofAccount a), Fallible.map_bind]
  simp only [hfound, Contacts.parseSmsNumbers]
  cases a.aliasDidNumberList.rows with
  | error e => rfl
  | ok rows =>
    show (List.mapM _ rows >>= _) = Except.map _ (List.mapM _ rows >>= _)
    cases rows.mapM (Attr.index "did_number") with
    | error e => rfl
    | ok numbers => rfl

/-- **The contact of an account's record is that of the account.** -/
theorem getContactInfoByAccount_ofAccount {R : Reading} (hrepr : ∀ n, R.repr (.int n) = toString n) (rt : Runtime)
    (currentUser : Int) :
    (ofAccount a).getContactInfoByAccount R rt currentUser = Contacts.getContactInfoByAccount rt a currentUser := by
  have hstr : ∀ {key : String} {x : Attr String}, (key, x.json .str) ∈ plainFields a →
      (ofAccount a).get? key = x.json .str :=
    fun hmem => get?_ofAccount a (List.mem_append_left _ hmem)
  have hemail : (ofAccount a).get? "email" = a.email.json .str := hstr (by simp [plainFields])
  have hid : (ofAccount a).get? "id" = a.id.json .str := hstr (by simp [plainFields])
  have hext : (ofAccount a).get? "extension_id" = a.extensionId.json .str := hstr (by simp [plainFields])
  have hname : (ofAccount a).get? "extension_name" = a.extensionName.json .str := hstr (by simp [plainFields])
  have hcompany : (ofAccount a).get? "companyname" = a.companyname.json .str := hstr (by simp [plainFields])
  have hfirst : (ofAccount a).get? "firstname" = a.firstname.json .str := hstr (by simp [plainFields])
  have hlast : (ofAccount a).get? "lastname" = a.lastname.json .str := hstr (by simp [plainFields])
  have hsip : (ofAccount a).get? "sip_status" = a.sipStatus.json .int :=
    get?_ofAccount a (List.mem_append_left _ (by simp [plainFields]))
  have hrequire : ∀ (field : String) (values : List (Option String)),
      (values.map (optJson .str)).mapM (requireStr field) = values.mapM (Contacts.requireStr field) := by
    intro field values
    rw [List.mapM_map]
    exact Fallible.mapM_congr fun v _ => requireStr_optJson field v
  have hregistered : ∀ status : Option Int, ((optJson .int status).eqInt 1 = true) = (status = some 1) := by
    intro status
    cases status with
    | none => simp [optJson, Json.eqInt]
    | some n => simp [optJson, Json.eqInt]
  rw [getContactInfoByAccount, iAccount_ofAccount, get_json hemail, firstEmail_optJson,
    column_ofRows (aliasList_ofAccount a),
    index_json hid, parseSmsNumbers_ofAccount, optionalStr_getD hext, index_json hsip, optionalStr_get hname,
    optionalStr_getD hcompany, optionalStr_getD hfirst, optionalStr_getD hlast]
  simp only [Fallible.map_bind, Fallible.ok_bind, bind_assoc, hrequire, requireStr_optJson, hregistered,
    Contacts.getContactInfoByAccount, ← hrepr]
  rfl

/-! ## The conditions -/

theorem truthy_optJson (x : Attr String) : (optJson .str x.get?).truthy = x.text?.isSome := by
  cases x with
  | absent => rfl
  | null => rfl
  | val s =>
    by_cases hs : s = ""
    · simp [optJson, Attr.get?, Attr.text?, Json.truthy, hs]
    · simp [optJson, Attr.get?, Attr.text?, Json.truthy, Option.filter, hs]

theorem hasExtension_ofAccount (ctx : Adapter.Context) (extensions : List Int) :
    hasExtension ctx.isHierarchy extensions (ofAccount a) = .ok (Adapter.hasExtension ctx extensions a) := by
  have hext : (ofAccount a).get? "extension_id" = a.extensionId.json .str := get?_ofAccount a (by simp [plainFields])
  have hmember : isMember extensions (.int a.iAccount) = .ok (decide (a.iAccount ∈ extensions)) := by
    rw [isMember]
    · congr 1
      rw [Bool.eq_iff_iff, List.any_eq_true, decide_eq_true_iff]
      simp [Json.eqInt]
    · rintro _ ⟨⟩
    · rintro _ ⟨⟩
  rw [hasExtension, get_json hext, truthy_optJson, iAccount_ofAccount, Fallible.ok_bind, hmember, Adapter.hasExtension]
  cases a.extensionId.text?.isSome with
  | true => rfl
  | false =>
    cases ctx.isHierarchy with
    | true => simp
    | false => simp

theorem passesFilter_ofAccount (A : Adapter) (ctx : Adapter.Context) (extensions : List Int) :
    passesFilter A.settings.contactsSkipWithoutExtension ctx.isHierarchy extensions ctx.caller.iAccount (ofAccount a) =
      .ok (A.passesFilter ctx extensions a) := by
  have hstatus : (ofAccount a).get? "status" = a.status.json .str := get?_ofAccount a (by simp [plainFields])
  have hdual : (ofAccount a).get? "dual_version_system" = a.dualVersionSystem.json .str :=
    get?_ofAccount a (by simp [plainFields])
  have hblocked : ((optJson .str a.status.get?).truthy && (optJson .str a.status.get?).eqStr "blocked") =
      decide (a.status.text? = some "blocked") := by
    cases a.status with
    | absent => rfl
    | null => rfl
    | val s =>
      by_cases hs : s = ""
      · simp [optJson, Attr.get?, Attr.text?, Json.truthy, Json.eqStr, hs]
      · simp [optJson, Attr.get?, Attr.text?, Json.truthy, Json.eqStr, Option.filter, hs]
  have hversion : dualVersionSystem (optJson .str a.dualVersionSystem.get?) =
      DualVersionSystem.ofValue a.dualVersionSystem.get? := by
    cases a.dualVersionSystem with
    | absent => rfl
    | null => rfl
    | val s => rfl
  simp only [passesFilter, get_json hstatus, get_json hdual, hblocked, hversion,
    hasExtension_ofAccount, iAccount_ofAccount,
    Fallible.ok_bind, Adapter.passesFilter, decide_eq_true_eq]
  split
  · rfl
  · split
    · rfl
    · split
      · rfl
      · simp [Json.eqInt]
        rfl

/-- Rows that are dicts do not end the search. -/
theorem hasAlias_ofAccount (h : a.aliasList ≠ .null) (did : String) :
    (ofAccount a).hasAlias did = .ok (a.aliasList.rowsOrEmpty.any fun row => row.get? = some did) := by
  have hrow : ∀ row : Attr String, aliasIs did (ofRow "id" row) = .ok (decide (row.get? = some did)) := by
    intro row
    cases row with
    | absent => rfl
    | null => rfl
    | val s =>
      show Except.ok (decide (s = did)) = _
      simp [Attr.get?]
  have hrows : ∀ rows : List (Attr String), (rows.map (ofRow "id")).anyM (aliasIs did) =
      .ok (rows.any fun row => row.get? = some did) := by
    intro rows
    induction rows with
    | nil => rfl
    | cons row rows ih =>
      rw [List.map_cons, List.anyM, hrow, Fallible.ok_bind, ih, List.any_cons]
      cases decide (row.get? = some did) with
      | true => rfl
      | false => rfl
  rw [hasAlias, Record.rows, getD, aliasList_ofAccount]
  cases hlist : a.aliasList with
  | absent => rfl
  | null => exact absurd hlist h
  | val rows => exact hrows rows

/-- **A search in the cache** matches the record of a cached account as it matches the account. -/
theorem cachedMatches_ofAccount (A : Adapter) (ctx : Adapter.Context) (R : Reading) (search : String) :
    cachedMatches R A.runtime search (A.extIAccounts ctx search) (ofAccount (Contacts.projectAccount a)) =
      .ok (A.cachedMatches ctx search (Contacts.projectAccount a)) := by
  have hnull : (Contacts.projectAccount a).aliasList ≠ .null := by
    rintro ⟨⟩
  generalize Contacts.projectAccount a = b at hnull ⊢
  have hstr : ∀ {key : String} {x : Attr String}, (key, x.json .str) ∈ plainFields b →
      isIn (A.runtime.lower search) (searchText R A.runtime (ofAccount b) key) =
        A.matchesText search (x.get?.getD "") := by
    intro key x hmem
    rw [searchText, get_json (get?_ofAccount b (List.mem_append_left _ hmem)), Adapter.matchesText]
    cases x with
    | absent => rfl
    | null => rfl
    | val s =>
      by_cases hs : s = ""
      · rw [hs]
        rfl
      · simp [optJson, Attr.get?, Json.orElse, Json.truthy, Json.text, hs]
  have hfields :
      (searchFields.any fun field => isIn (A.runtime.lower search) (searchText R A.runtime (ofAccount b) field)) =
      [b.id, b.firstname, b.lastname, b.extensionName, b.email, b.extensionId].any
        fun field => A.matchesText search (field.get?.getD "") := by
    simp only [searchFields, List.any_cons, List.any_nil]
    rw [hstr (x := b.id) (by simp [plainFields]), hstr (x := b.firstname) (by simp [plainFields]),
      hstr (x := b.lastname) (by simp [plainFields]), hstr (x := b.extensionName) (by simp [plainFields]),
      hstr (x := b.email) (by simp [plainFields]), hstr (x := b.extensionId) (by simp [plainFields])]
  rw [cachedMatches, hfields, iAccount_ofAccount, Fallible.ok_bind, hasAlias_ofAccount b hnull, Adapter.cachedMatches]
  cases [b.id, b.firstname, b.lastname, b.extensionName, b.email, b.extensionId].any
      fun field => A.matchesText search (field.get?.getD "") with
  | true => rfl
  | false =>
    show (if b.iAccount ∈ A.extIAccounts ctx search then _ else _) = _
    by_cases hext : b.iAccount ∈ A.extIAccounts ctx search
    · simp [hext]
      rfl
    · by_cases hdid : stripNumber search = ""
      · simp [hext, hdid]
        rfl
      · simp [hext, hdid]

/-! ## Lists of accounts -/

/-- **Accounts and their records are told apart by nothing the listings do**: the records of a list of accounts are
projected, filtered, searched in the cache and made into contacts as the accounts are, and raise where these do. -/
theorem records_of_accounts (A : Adapter) (ctx : Adapter.Context) (R : Reading)
    (hrepr : ∀ n, R.repr (.int n) = toString n) (accounts : List Account) :
    (accounts.map ofAccount).mapM projectAccount = .ok ((accounts.map Contacts.projectAccount).map ofAccount) ∧
    (∀ extensions, Fallible.keep
        (passesFilter A.settings.contactsSkipWithoutExtension ctx.isHierarchy extensions ctx.caller.iAccount)
        (accounts.map ofAccount) = .ok ((accounts.filter (A.passesFilter ctx extensions)).map ofAccount)) ∧
    (∀ search, Fallible.keep (cachedMatches R A.runtime search (A.extIAccounts ctx search))
        ((accounts.map Contacts.projectAccount).map ofAccount) =
      .ok ((A.searchCachedAccounts ctx search (accounts.map Contacts.projectAccount)).map ofAccount)) ∧
    (∀ a ∈ accounts, (ofAccount a).isBeneficiary = Contacts.isBeneficiary a) ∧
    ∀ currentUser, (accounts.map ofAccount).mapM (fun record =>
        record.getContactInfoByAccount R A.runtime currentUser) =
      accounts.mapM fun a => Contacts.getContactInfoByAccount A.runtime a currentUser := by
  refine ⟨?_, fun extensions => ?_, fun search => ?_, fun a _ => isBeneficiary_ofAccount a, fun currentUser => ?_⟩
  · rw [List.mapM_map, List.map_map]
    exact Fallible.mapM_ok_map fun a _ => projectAccount_ofAccount a
  · exact Fallible.keep_map fun a _ => passesFilter_ofAccount a A ctx extensions
  · refine Fallible.keep_map fun b hb => ?_
    obtain ⟨a, -, rfl⟩ := List.mem_map.1 hb
    exact cachedMatches_ofAccount a A ctx R search
  · rw [List.mapM_map]
    exact Fallible.mapM_congr fun a _ => getContactInfoByAccount_ofAccount a hrepr A.runtime currentUser

def sampleAccount : Account where
  iAccount := 7
  id := .val "380441234567"
  firstname := .val "Anna"
  email := .val "anna@example.com"
  sipStatus := .val 1
  aliasList := .val [.val "380447654321"]

/-- An adapter of a customer that has this account and the caller's. -/
def sampleAdapter : Adapter where
  runtime := { sampleRuntime with lower := id }
  settings := {}
  adminApi := {
    getAccountList := fun _ _ => .ok (some ⟨.val [sampleAccount], .val 1⟩)
    getAccountInfo := fun _ => .ok none
    getExtensionsList := fun _ _ => .ok []
    getCustomerInfo := fun _ => .ok { iOfficeType := .val 1 }
    getCustomerList := fun _ => .ok (.val []) }
  accountInfo := .ok ⟨1, 10⟩
  asked _ := { now := 0 }
  locked _ := { now := 0 }
  setOrder := ⟨id, List.Perm.refl⟩

/-- The record is found by a part of the address, as the account is. -/
theorem records_of_accounts_sample :
    Fallible.keep (cachedMatches sampleReading sampleAdapter.runtime "anna" [])
        [ofAccount (Contacts.projectAccount sampleAccount)] =
      .ok [ofAccount (Contacts.projectAccount sampleAccount)] := by
  have h :=
    (records_of_accounts sampleAdapter ⟨⟨1, 10⟩, 1, [1]⟩ sampleReading (fun _ => rfl) [sampleAccount]).2.2.1 "anna"
  have hfound : sampleAdapter.searchCachedAccounts ⟨⟨1, 10⟩, 1, [1]⟩ "anna" [Contacts.projectAccount sampleAccount] =
      [Contacts.projectAccount sampleAccount] := by decide
  rw [List.map_singleton, hfound] at h
  exact h

end Record

end PortaPhone.Contacts
