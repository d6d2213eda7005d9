import Mathlib
import PortaPhone.Contacts.Retrieval
/-!
# Whose accounts the switch answers with

Every account of the switch belongs to one customer (`Owners`), and `Serves` is what the answers of the
switch say of that: the list of a customer has its own accounts only, while `get_account_info` finds an
account whoever owns it. What the adapter reads for a customer, from the switch or from the cache, is then
the customer's own (`Deployed.accountsOf`); a list of contacts is `Isolated` when the accounts among them
belong to the caller's offices.
-/

namespace PortaPhone.Contacts

open Fallible

/-- The customer that owns an account. -/
abbrev Owners := Int → Option Int

/-- What the answers of the switch say about the accounts of its database. -/
structure Serves (owner : Owners) (api : AdminApi) : Prop where
  listed : ∀ {c query rows total}, api.getAccountList c query = .ok (some ⟨.val rows, total⟩) →
    ∀ a ∈ rows, owner a.iAccount = some c
  found : ∀ {i a}, api.getAccountInfo (.byIAccount i) = .ok (some a) → a.iAccount = i
  customer : ∀ {query a}, api.getAccountInfo query = .ok (some a) →
    ∀ c, a.iCustomer.number? = some c → owner a.iAccount = some c

/-- A cache that has been filled from the switch, whatever else it answered at the time. -/
def FilledFrom (owner : Owners) (cache : AccountsCache) : Prop :=
  ∃ fills : List Fill, (∀ f ∈ fills, Serves owner f.api) ∧ cache = cacheAfter fills

/-- An adapter at work with the switch. -/
structure Deployed (owner : Owners) (A : Adapter) : Prop where
  serves : Serves owner A.adminApi
  asked : ∀ c, FilledFrom owner (A.asked c).cache
  locked : ∀ c, FilledFrom owner (A.locked c).cache

/-! ## The lists of a customer -/

section Lists

variable {owner : Owners} {api : AdminApi} {accounts : List Account} {a : Account} {c : Int}

theorem Serves.fetched (h : Serves owner api) {filter : Option (SearchField × String)}
    (hfetch : fetchAccountsByCustomer api c filter = .ok accounts) (ha : a ∈ accounts) : owner a.iAccount = some c := by
  obtain ⟨query, rows, total, hrows, ha⟩ := mem_fetchAccountsByCustomer hfetch ha
  exact h.listed hrows a ha

theorem Serves.projected (h : Serves owner api) (hfetch : fetchProjected api c = .ok accounts) (ha : a ∈ accounts) :
    owner a.iAccount = some c := by
  simp only [fetchProjected, bind_ok, pure_ok] at hfetch
  obtain ⟨rows, hrows, rfl⟩ := hfetch
  obtain ⟨b, hb, rfl⟩ := List.mem_map.1 ha
  show owner b.iAccount = some c
  exact h.fetched hrows hb

/-- The entry of a customer has its own accounts only. -/
theorem FilledFrom.entry {cache : AccountsCache} (h : FilledFrom owner cache) {entry : CacheEntry}
    (hentry : cache.get? c = some entry) (ha : a ∈ entry.accounts) : owner a.iAccount = some c := by
  obtain ⟨fills, hfills, rfl⟩ := h
  have hall := cacheAfter_all (fun c accounts => ∀ a ∈ accounts, owner a.iAccount = some c)
    fun f hf _ hfetch _ ha => (hfills f hf).projected hfetch ha
  exact hall c entry hentry a ha

theorem FilledFrom.entryWithin {m : Moment} (h : FilledFrom owner m.cache) {limit : Int} {entry : CacheEntry}
    (hentry : m.entryWithin limit c = some entry) (ha : a ∈ entry.accounts) : owner a.iAccount = some c :=
  h.entry (Option.eq_some_of_filter_eq_some hentry) ha

/-- The accounts of a customer are its own, from the switch or from the cache. -/
theorem Deployed.accountsOf {A : Adapter} (h : Deployed owner A) (hread : A.accountsOf c = .ok accounts)
    (ha : a ∈ accounts) : owner a.iAccount = some c := by
  unfold Adapter.accountsOf getAllAccountsByCustomer at hread
  split at hread
  · exact h.serves.fetched hread ha
  · split at hread
    · rename_i entry hentry
      obtain rfl := Except.ok.inj hread
      exact (h.asked c).entryWithin hentry ha
    · unfold readAccountsIntoCache at hread
      split at hread
      · rename_i entry hentry
        obtain rfl := Except.ok.inj hread
        exact (h.locked c).entryWithin hentry ha
      · exact h.serves.projected hread ha

end Lists

/-! ## Lookups that do not name a customer -/

section Lookups

variable {owner : Owners} {A : Adapter}

/-- The row that replaces an account is one of the same customer. -/
theorem Serves.enriched (h : Serves owner A.adminApi) {query : InfoQuery} {a : Account}
    (hinfo : A.adminApi.getAccountInfo query = .ok (some a)) :
    owner (A.enrichWithAliases a).iAccount = owner a.iAccount := by
  unfold Adapter.enrichWithAliases
  split
  · rename_i id c _ hc
    split
    · rename_i row rows _ hrows
      rw [h.listed hrows row List.mem_cons_self, h.customer hinfo c hc]
    · rfl
  · rfl

theorem Serves.fetchAccount (h : Serves owner A.adminApi) {i : Int} {a : Account} (ha : A.fetchAccount i = some a) :
    owner a.iAccount = owner i := by
  unfold Adapter.fetchAccount at ha
  split at ha
  · rename_i b hinfo
    obtain rfl := Option.some.inj ha
    rw [h.enriched hinfo, h.found hinfo]
  · cases ha

end Lookups

/-! ## Isolation -/

section Isolation

variable (owner : Owners) (ctx : Adapter.Context)

/-- The account belongs to one of the caller's offices. -/
def Inside (iAccount : Int) : Prop := ∃ c ∈ ctx.allICustomers, owner iAccount = some c

/-- Every contact that is an account's belongs to one of the caller's offices. -/
def Isolated (contacts : List ContactInfo) : Prop :=
  ∀ contact ∈ contacts, ∀ iAccount : Int, contact.userId = some (toString iAccount) → Inside owner ctx iAccount

variable {owner ctx}

theorem Isolated.mono {contacts contacts' : List ContactInfo} (h : Isolated owner ctx contacts)
    (hsub : ∀ contact ∈ contacts', contact ∈ contacts) : Isolated owner ctx contacts' :=
  fun contact hcontact => h contact (hsub contact hcontact)

theorem Isolated.append {contacts contacts' : List ContactInfo} (h : Isolated owner ctx contacts)
    (h' : Isolated owner ctx contacts') : Isolated owner ctx (contacts ++ contacts') := by
  intro contact hcontact
  rcases List.mem_append.1 hcontact with hmem | hmem
  · exact h contact hmem
  · exact h' contact hmem

variable {A : Adapter} {contacts : List ContactInfo}

theorem isolated_customContacts (h : A.customContacts = .ok contacts) : Isolated owner ctx contacts := by
  intro contact hcontact i hi
  obtain ⟨entry, _, hentry⟩ := of_mem_mapM h hcontact
  rw [getContactInfoByCustomEntry_userId hentry] at hi
  cases hi

theorem userId_iff {rt : Runtime} {a : Account} {user : Int} {contact : ContactInfo}
    (h : getContactInfoByAccount rt a user = .ok contact) {i : Int} :
    contact.userId = some (toString i) ↔ i = a.iAccount := by
  rw [getContactInfoByAccount_userId h, Option.some.injEq]
  constructor
  · intro hi
    exact (Int.repr_injective hi).symm
  · rintro rfl
    rfl

/-- A contact is isolated when its account is. -/
theorem isolated_mapM {accounts : List Account} (h : accounts.mapM (A.contactOf ctx) = .ok contacts)
    (hinside : ∀ a ∈ accounts, ∀ contact ∈ contacts, A.contactOf ctx a = .ok contact → Inside owner ctx a.iAccount) :
    Isolated owner ctx contacts := by
  intro contact hcontact i hi
  obtain ⟨a, ha, hc⟩ := of_mem_mapM h hcontact
  rw [(userId_iff hc).1 hi]
  exact hinside a ha contact hcontact hc

/-- A listed account belongs to the offices when its contact is isolated. -/
theorem Isolated.inside {a : Account} {contact : ContactInfo} (h : Isolated owner ctx contacts)
    (hcontact : contact ∈ contacts) (hc : A.contactOf ctx a = .ok contact) : Inside owner ctx a.iAccount :=
  h contact hcontact a.iAccount ((userId_iff hc).2 rfl)

end Isolation

/-! ## Tables of accounts -/

/-- Accounts under their `i_account`, each of which satisfies `P`. -/
def Table (P : Account → Prop) (d : Dict Int Account) : Prop := d.All fun i a => a.iAccount = i ∧ P a

section Tables

variable {P : Account → Prop} {d : Dict Int Account} {l : List Account}

theorem Table.empty : Table P Dict.empty := Dict.All.empty

theorem Table.update (h : Table P d) (hl : ∀ a ∈ l, P a) : Table P (d.update (keyed l)) := by
  apply Dict.All.update h
  intro e he
  obtain ⟨a, ha, rfl⟩ := List.mem_map.1 he
  exact ⟨rfl, hl a ha⟩

theorem Table.values (h : Table P d) {a : Account} (ha : a ∈ d.values) : P a := by
  obtain ⟨_, _, hp⟩ := Dict.All.mem_values h ha
  exact hp

theorem Table.mem_keys (h : Table P d) {i : Int} (hi : i ∈ d.keys) : ∃ a ∈ d.values, a.iAccount = i ∧ P a := by
  obtain ⟨a, ha⟩ := d.mem_keys.1 hi
  exact ⟨a, d.mem_values.2 ⟨i, ha⟩, h i a ha⟩

theorem mem_keys_update_keyed {i : Int} :
    i ∈ (d.update (keyed l)).keys ↔ i ∈ d.keys ∨ ∃ a ∈ l, a.iAccount = i := by
  rw [Dict.mem_keys_update]
  simp [keyed]

theorem Table.keys_eq (h : Table P d) : d.keys = d.values.map (·.iAccount) := by
  rw [Dict.keys, Dict.values, List.map_map]
  apply List.map_congr_left
  intro e he
  exact ((h e.1 e.2 (d.mem_entries.1 he)).1).symm

theorem Table.values_nodup (h : Table P d) : (d.values.map (·.iAccount)).Nodup := h.keys_eq ▸ d.nodup

/-- A table has one account under an `i_account`. -/
theorem Table.eq_of_values (h : Table P d) {a b : Account} (ha : a ∈ d.values) (hb : b ∈ d.values)
    (heq : a.iAccount = b.iAccount) : a = b := by
  obtain ⟨i, ha⟩ := d.mem_values.1 ha
  obtain ⟨j, hb⟩ := d.mem_values.1 hb
  rw [← (h i a ha).1, heq, (h j b hb).1, hb] at ha
  exact (Option.some.inj ha).symm

/-- Where an `i_account` stands for one record, an update adds accounts to those of the table. -/
theorem Table.mem_values_update (h : Table P d) (hl : ∀ a ∈ l, P a)
    (hone : ∀ a b, P a → P b → a.iAccount = b.iAccount → a = b) {a : Account} :
    a ∈ (d.update (keyed l)).values ↔ a ∈ d.values ∨ a ∈ l := by
  have hvalues : Table (fun a => a ∈ d.values ∨ a ∈ l) (d.update (keyed l)) := by
    refine Table.update (fun i b hb => ?_) fun b hb => .inr hb
    exact ⟨(h i b hb).1, .inl (d.mem_values.2 ⟨i, hb⟩)⟩
  have hp : ∀ b, b ∈ d.values ∨ b ∈ l → P b := by
    rintro b (hb | hb)
    · exact h.values hb
    · exact hl b hb
  constructor
  · exact hvalues.values
  · intro ha
    have hkey : a.iAccount ∈ (d.update (keyed l)).keys := by
      rw [mem_keys_update_keyed, h.keys_eq]
      exact ha.imp (fun hmem => List.mem_map_of_mem hmem) fun hmem => ⟨a, hmem, rfl⟩
    obtain ⟨b, hb, heq, hmem⟩ := hvalues.mem_keys hkey
    rw [hone a b (hp a ha) (hp b hmem) heq.symm]
    exact hb

end Tables

end PortaPhone.Contacts
