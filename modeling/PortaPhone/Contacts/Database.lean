import PortaPhone.Contacts.Ownership
/-!
# A switch with a database of accounts

`Database.api` answers the requests of `api/admin.py` from one list of accounts: the list of a customer is
searched by a mask and cut by limit and offset, aliases are in the `alias_list` of their accounts only, and an
account is found by its `i_account` or its id. `serves`: its answers are those of a switch that `Serves` its owners.
-/

namespace PortaPhone.Contacts

/-- The accounts and aliases of a switch without office hierarchies. -/
structure Database where
  accounts : List Account
  unique : (accounts.map (·.iAccount)).Nodup

namespace Database

variable (db : Database)

def find (iAccount : Int) : Option Account := db.accounts.find? (·.iAccount = iAccount)

def owner : Owners := fun i => (db.find i).bind (·.iCustomer.number?)

/-- A mask: `%` at both ends stands for any text. -/
def likes (mask value : String) : Bool :=
  match mask.toList with
  | '%' :: rest => occursIn rest.dropLast value.toList
  | _ => mask = value

def searchValue (field : SearchField) (a : Account) : String :=
  let value := match field with
    | .id => a.id
    | .firstname => a.firstname
    | .lastname => a.lastname
    | .extensionName => a.extensionName
    | .email => a.email
  value.get?.getD ""

def isAlias (a : Account) : Bool := !isBeneficiary a && a.iMasterAccount.number?.isSome

/-- The accounts of a customer that are not aliases, with their aliases. -/
def rows (iCustomer : Int) (query : ListQuery) : List Account :=
  let own := db.accounts.filter fun a => a.iCustomer.number? = some iCustomer && !isAlias a &&
    query.filter.all fun f => likes f.2 (searchValue f.1 a)
  own.map fun a => { a with
    aliasList :=
      .val ((db.accounts.filter fun b => isAlias b && b.iMasterAccount.number? = some a.iAccount).map (·.id)) }

/-- `get_account_info` omits the aliases. -/
def api : AdminApi where
  getAccountList c query :=
    let rows := db.rows c query
    let page := rows.drop (query.offset.getD 0)
    .ok (some ⟨.val (match query.limit with | some n => page.take n | none => page), .val rows.length⟩)
  getAccountInfo query :=
    let found := match query with
      | .byIAccount i => db.find i
      | .byId id => db.accounts.find? (·.id.get? = some id)
    .ok (found.map fun a => { a with aliasList := .absent })
  getExtensionsList c _ :=
    .ok ((db.accounts.filter fun a => a.iCustomer.number? = some c && a.extensionId.text?.isSome).map
    fun a => { id := a.extensionId, iAccount := .val a.iAccount })
  getCustomerInfo _ := .ok { iOfficeType := .val 1 }
  getCustomerList _ := .ok (.val [])

variable {db}

theorem find_of_mem {a : Account} (ha : a ∈ db.accounts) : db.find a.iAccount = some a := by
  obtain ⟨accounts, unique⟩ := db
  show accounts.find? (·.iAccount = a.iAccount) = some a
  induction accounts with
  | nil => simp at ha
  | cons b accounts ih =>
    obtain ⟨hb, unique⟩ := List.nodup_cons.1 unique
    rcases List.mem_cons.1 ha with rfl | ha
    · simp
    · have hne : ¬ b.iAccount = a.iAccount := fun h => hb (List.mem_map.2 ⟨a, ha, h.symm⟩)
      rw [List.find?_cons_of_neg (by simpa using hne)]
      exact ih unique ha

theorem owner_of_mem {a : Account} (ha : a ∈ db.accounts) : db.owner a.iAccount = a.iCustomer.number? := by
  simp [owner, find_of_mem ha]

theorem rows_owner {c : Int} (query : ListQuery) {a : Account} (ha : a ∈ db.rows c query) :
    db.owner a.iAccount = some c := by
  obtain ⟨b, hb, rfl⟩ := List.mem_map.1 ha
  obtain ⟨hb, hc⟩ := List.mem_filter.1 hb
  simp only [Bool.and_eq_true, decide_eq_true_eq] at hc
  exact (owner_of_mem hb).trans hc.1.1

/-- A mask that finds a text. -/
theorem likes_mask (search value : String) : likes ("%" ++ search ++ "%") value = isIn search value := by
  have hmask : ("%" ++ search ++ "%").toList = '%' :: (search.toList ++ ['%']) := by
    simp
  rw [likes, hmask]
  simp [isIn]

/-- The rows of a field query are the listed ones whose field contains the search. -/
theorem mem_rows {c : Int} {field : SearchField} {search : String} {a : Account} :
    a ∈ db.rows c { filter := some (field, "%" ++ search ++ "%") } ↔
      a ∈ db.rows c {} ∧ isIn search (searchValue field a) = true := by
  simp only [rows, List.mem_map, List.mem_filter, Option.all_some, Option.all_none, likes_mask, Bool.and_true,
    Bool.and_eq_true]
  constructor
  · rintro ⟨b, ⟨hb, hown, hmatch⟩, rfl⟩
    refine ⟨⟨b, ⟨hb, hown⟩, rfl⟩, ?_⟩
    cases field <;> exact hmatch
  · rintro ⟨⟨b, ⟨hb, hown⟩, rfl⟩, hmatch⟩
    refine ⟨b, ⟨hb, hown, ?_⟩, rfl⟩
    cases field <;> exact hmatch

/-- Such a switch is one that `Serves` its accounts. -/
theorem serves (db : Database) : Serves db.owner db.api where
  listed {c query rows total} h a ha := by
    obtain ⟨rfl, _⟩ : _ = rows ∧ _ = total := by simpa [api] using h
    refine rows_owner query ?_
    split at ha
    · exact List.mem_of_mem_drop (List.mem_of_mem_take ha)
    · exact List.mem_of_mem_drop ha
  found {i a} h := by
    obtain ⟨b, hb, rfl⟩ := Option.map_eq_some_iff.1 (Except.ok.inj h)
    simpa using List.find?_some hb
  customer {query a} h c hc := by
    obtain ⟨b, hb, rfl⟩ := Option.map_eq_some_iff.1 (Except.ok.inj h)
    have hmem : b ∈ db.accounts := by
      cases query with
      | byIAccount i => exact List.mem_of_find?_eq_some hb
      | byId id => exact List.mem_of_find?_eq_some hb
    exact (owner_of_mem hmem).trans hc

end Database

end PortaPhone.Contacts
