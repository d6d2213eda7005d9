import Mathlib
import PortaPhone.Contacts.Isolation
/-!
# Going through the directory page by page

A switch whose accounts do not change answers every request for the list of a customer in slices of one
order, and the order may be another one in the next request. `directory_walk`: without a search, the pages
of `retrieveContactsV2` give the contacts of `retrieveContacts` in the order of `i_account`, then the custom ones.
-/

namespace PortaPhone.Contacts

open Fallible Paging

/-! ## The accounts behind the requests -/

/-- The accounts of every customer. -/
structure Accounts where
  of : Int → List Account
  distinct : ∀ c, ((of c).map (·.iAccount)).Nodup
  disjoint : ∀ c c' a a', a ∈ of c → a' ∈ of c' → a.iAccount = a'.iAccount → c = c'

/-- An account is listed for one of the customers only. -/
theorem Accounts.flatMap_nodup (db : Accounts) {customers : List Int} (h : customers.Nodup) :
    ((customers.flatMap db.of).map (·.iAccount)).Nodup := by
  rw [List.map_flatMap]
  refine List.nodup_flatMap.2 ⟨fun c _ => db.distinct c, h.imp fun {c c'} hne => ?_⟩
  intro i hi hi'
  obtain ⟨a, ha, rfl⟩ := List.mem_map.1 hi
  obtain ⟨a', ha', heq⟩ := List.mem_map.1 hi'
  exact hne (db.disjoint c c' a a' ha ha' heq.symm)

/-- The list of a customer is answered in slices of one order of its accounts, with its length. -/
def Slices (db : Accounts) (api : AdminApi) : Prop :=
  ∀ c, ∃ order : List Account, order.Perm (db.of c) ∧ ∀ limit offset,
    api.getAccountList c { limit := some limit, offset := some offset } =
      .ok (some ⟨.val ((order.drop offset).take limit), .val order.length⟩)

/-- The accounts that a database lists. -/
def Database.listed (db : Database) : Accounts where
  of c := db.rows c {}
  distinct c := by
    rw [Database.rows, List.map_map]
    exact db.unique.sublist (List.filter_sublist.map _)
  disjoint c c' a a' ha ha' h := by
    have howner := Database.rows_owner {} ha
    rw [h, Database.rows_owner {} ha'] at howner
    exact (Option.some.inj howner).symm

theorem Database.slices (db : Database) : Slices db.listed db.api := fun c =>
  ⟨db.rows c {}, List.Perm.refl _, fun _ _ => rfl⟩

/-- A cache that has been filled from the switch, in any orders. -/
def FilledWith (db : Accounts) (cache : AccountsCache) : Prop :=
  ∃ fills : List Fill, (∀ f ∈ fills, Slices db f.api) ∧ cache = cacheAfter fills

/-- An adapter that answers a request from these accounts. -/
structure Lists (db : Accounts) (A : Adapter) : Prop where
  slices : Slices db A.adminApi
  asked : ∀ c, FilledWith db (A.asked c).cache
  locked : ∀ c, FilledWith db (A.locked c).cache

/-- Two requests with the same settings, of the same caller, for whom the switch has the same offices and
extensions. -/
structure Alike (A B : Adapter) : Prop where
  runtime : B.runtime = A.runtime
  settings : B.settings = A.settings
  accountInfo : B.accountInfo = A.accountInfo
  context : ∀ caller, B.context caller = A.context caller
  extensions : ∀ ctx, B.extensionIAccounts ctx = A.extensionIAccounts ctx

/-! ## The list of a customer -/

theorem values_keyed {accounts : List Account} (h : (accounts.map (·.iAccount)).Nodup) :
    (Dict.empty.update (keyed accounts)).values = accounts := by
  have hkeys : (keyed accounts).map Prod.fst = accounts.map (·.iAccount) := by
    rw [keyed, List.map_map]
    rfl
  have hentries := Dict.update_new (d := Dict.empty) (hkeys ▸ h) (by simp [Dict.keys, Dict.empty])
  rw [Dict.values, hentries]
  simp [Dict.empty, keyed, Function.comp_def]

/-- The first chunk and `m` more. -/
theorem take_append_chunks (k m : Nat) (order : List Account) :
    order.take k ++ (List.range m).flatMap (fun i => (order.drop (k * (i + 1))).take k) = order.take (k * (m + 1)) := by
  induction m with
  | zero => simp
  | succ m ih =>
    rw [List.range_succ, List.flatMap_append, ← List.append_assoc, ih, List.flatMap_singleton, Nat.mul_succ k (m + 1),
      List.take_add]

/-- The first chunk and the remaining ones. -/
theorem take_append_remaining (order : List Account) :
    order.take chunkLimit ++
      (remainingOffsets order.length).flatMap (fun o => (order.drop o).take chunkLimit) = order := by
  have hcount : (order.length : Int).toNat = order.length := Int.toNat_natCast _
  have hlast : order.length ≤ chunkLimit * ((order.length - 1) / chunkLimit + 1) := by
    simp only [chunkLimit]
    omega
  rw [remainingOffsets, hcount, List.flatMap_map, take_append_chunks, List.take_of_length_le hlast]

theorem fetchPage_slices {api : AdminApi} {c : Int} {order : List Account}
    (h : ∀ limit offset, api.getAccountList c { limit := some limit, offset := some offset } =
      .ok (some ⟨.val ((order.drop offset).take limit), .val order.length⟩)) (offset : Nat) :
    fetchPage api c { limit := some chunkLimit, offset := some offset } =
      .ok ((order.drop offset).take chunkLimit, (Attr.val (order.length : Int)).number?) := by
  simp only [fetchPage, h, Attr.rows]
  rfl

theorem fetchAccountsByCustomer_slices {db : Accounts} {api : AdminApi} (h : Slices db api) (c : Int) :
    ∃ rows, fetchAccountsByCustomer api c = .ok rows ∧ rows.Perm (db.of c) := by
  obtain ⟨order, hperm, hlist⟩ := h c
  refine ⟨order, ?_, hperm⟩
  have hpage := fetchPage_slices hlist
  have hnodup : (order.map (·.iAccount)).Nodup := (hperm.map _).nodup_iff.2 (db.distinct c)
  have hfirst : fetchPage api c { filter := none, limit := some chunkLimit, offset := some 0 } =
      .ok (order.take chunkLimit, (Attr.val (order.length : Int)).number?) := hpage 0
  simp only [fetchAccountsByCustomer, hfirst]
  by_cases hempty : order = []
  · subst hempty
    rfl
  · have htotal : (Attr.val (order.length : Int)).number? = some (order.length : Int) := by
      simp [Attr.number?, Attr.get?, hempty]
    rw [htotal]
    simp only [bind, Except.bind]
    by_cases hshort : order.length ≤ chunkLimit
    · rw [List.take_of_length_le hshort, if_pos (by simp)]
      rfl
    · have hlength : (order.take chunkLimit).length = chunkLimit := by
        rw [List.length_take]
        omega
      have hmore : ¬ ((decide ((order.take chunkLimit).length < chunkLimit) ||
          decide ((order.length : Int) ≤ ((order.take chunkLimit).length : Int))) = true) := by
        rw [hlength]
        simp
        omega
      have hrest : (remainingOffsets order.length).mapM
          (fun o => fetchPage api c { filter := none, limit := some chunkLimit, offset := some o }) =
          .ok ((remainingOffsets order.length).map fun o =>
            ((order.drop o).take chunkLimit, (Attr.val (order.length : Int)).number?)) :=
        mapM_ok_map fun o _ => hpage o
      rw [if_neg hmore, hrest]
      simp only [List.flatMap_map, take_append_remaining, values_keyed hnodup]
      rfl

theorem FilledWith.entryWithin {db : Accounts} {m : Moment} (h : FilledWith db m.cache) {limit : Int} {c : Int}
    {entry : CacheEntry} (hentry : m.entryWithin limit c = some entry) :
    entry.accounts.Perm ((db.of c).map projectAccount) := by
  obtain ⟨fills, hfills, hcache⟩ := h
  have hall := cacheAfter_all (fun c accounts => accounts.Perm ((db.of c).map projectAccount))
    fun f hf accounts hfetch => by
      obtain ⟨rows, hrows, hperm⟩ := fetchAccountsByCustomer_slices (hfills f hf) f.iCustomer
      simp only [fetchProjected, hrows, bind_ok, pure_ok, Except.ok.injEq] at hfetch
      obtain ⟨_, rfl, rfl⟩ := hfetch
      exact hperm.map _
  exact hall c entry (hcache ▸ Option.eq_some_of_filter_eq_some hentry)

namespace Adapter

/-- How a request sees an account: through the cache it is projected. -/
def view (A : Adapter) (a : Account) : Account := if A.settings.contactsCacheTtl = 0 then a else projectAccount a

theorem view_iAccount (A : Adapter) (a : Account) : (A.view a).iAccount = a.iAccount := by
  unfold view
  split <;> rfl

/-- The accounts of the customers, one after another. -/
def seen (A : Adapter) (db : Accounts) (customers : List Int) : List Account :=
  customers.flatMap fun c => (db.of c).map A.view

theorem seen_nodup (A : Adapter) (db : Accounts) {customers : List Int} (h : customers.Nodup) :
    ((A.seen db customers).map (·.iAccount)).Nodup := by
  have hof : ∀ c, ((db.of c).map A.view).map (·.iAccount) = (db.of c).map (·.iAccount) := by
    intro c
    rw [List.map_map]
    exact List.map_congr_left fun a _ => A.view_iAccount a
  have hnodup := db.flatMap_nodup h
  rw [List.map_flatMap] at hnodup
  simp only [seen, List.map_flatMap, hof]
  exact hnodup

end Adapter

variable {db : Accounts} {A : Adapter}

/-- The list of a customer, from the switch or from the cache. -/
theorem Lists.accountsOf (h : Lists db A) (c : Int) :
    ∃ rows, A.accountsOf c = .ok rows ∧ rows.Perm ((db.of c).map A.view) := by
  obtain ⟨rows, hrows, hperm⟩ := fetchAccountsByCustomer_slices h.slices c
  have hprojected : fetchProjected A.adminApi c = .ok (rows.map projectAccount) := by
    simp only [fetchProjected, hrows]
    rfl
  unfold Adapter.accountsOf getAllAccountsByCustomer Adapter.view
  split
  · refine ⟨rows, hrows, ?_⟩
    simpa using hperm
  · split
    · rename_i entry hentry
      exact ⟨entry.accounts, rfl, (h.asked c).entryWithin hentry⟩
    · unfold readAccountsIntoCache
      split
      · rename_i entry hentry
        exact ⟨entry.accounts, rfl, (h.locked c).entryWithin hentry⟩
      · exact ⟨_, hprojected, hperm.map _⟩

theorem Lists.accounts (h : Lists db A) (customers : List Int) :
    ∃ lists, customers.mapM A.accountsOf = .ok lists ∧ lists.flatten.Perm (A.seen db customers) := by
  choose rows hrows hperm using h.accountsOf
  refine ⟨customers.map rows, mapM_ok_map fun c _ => hrows c, ?_⟩
  exact List.Perm.flatMap_left customers fun c _ => hperm c

/-! ## The order of `i_account` -/

theorem byIAccount_trans (a b c : Account) (hab : Adapter.byIAccount a b = true) (hbc : Adapter.byIAccount b c = true) :
    Adapter.byIAccount a c = true := by
  simp only [Adapter.byIAccount, decide_eq_true_eq] at *
  omega

theorem byIAccount_total (a b : Account) : (Adapter.byIAccount a b || Adapter.byIAccount b a) = true := by
  simp only [Adapter.byIAccount, Bool.or_eq_true, decide_eq_true_eq]
  omega

theorem pairwise_byIAccount (l : List Account) :
    (l.mergeSort Adapter.byIAccount).Pairwise fun a b => Adapter.byIAccount a b = true :=
  List.pairwise_mergeSort byIAccount_trans byIAccount_total l

/-- Accounts with different `i_account`s have one order. -/
theorem mergeSort_perm_eq {l k : List Account} (hk : (k.map (·.iAccount)).Nodup) (h : l.Perm k) :
    l.mergeSort Adapter.byIAccount = k.mergeSort Adapter.byIAccount := by
  have hperm : (l.mergeSort Adapter.byIAccount).Perm (k.mergeSort Adapter.byIAccount) :=
    (List.mergeSort_perm l _).trans (h.trans (List.mergeSort_perm k _).symm)
  refine List.Perm.eq_of_pairwise (fun a b ha hb hab hba => ?_) (pairwise_byIAccount l) (pairwise_byIAccount k) hperm
  have ha' : a ∈ k := h.subset (List.mem_mergeSort.1 ha)
  have hb' : b ∈ k := List.mem_mergeSort.1 hb
  refine List.inj_on_of_nodup_map hk ha' hb' ?_
  simp only [Adapter.byIAccount, decide_eq_true_eq] at hab hba
  exact Int.le_antisymm hab hba

theorem pairwise_mergeSort_lt {k : List Account} (hk : (k.map (·.iAccount)).Nodup) :
    (k.mergeSort Adapter.byIAccount).Pairwise fun a b => a.iAccount < b.iAccount := by
  have hne : (k.mergeSort Adapter.byIAccount).Pairwise fun a b => a.iAccount ≠ b.iAccount :=
    List.pairwise_map.1 (((List.mergeSort_perm k _).map _).nodup_iff.2 hk)
  refine (pairwise_byIAccount k).imp₂ (fun a b hab hne => ?_) hne
  simp only [Adapter.byIAccount, decide_eq_true_eq] at hab
  omega

/-! ## Both versions -/

theorem passesFilter_eq_listed (A : Adapter) (ctx : Adapter.Context) (extensions : List Int) (a : Account) :
    A.passesFilter ctx extensions a = A.listed ctx extensions a := by
  unfold Adapter.passesFilter Adapter.listed
  split
  · simp_all
  · split
    · simp_all
    · cases A.settings.contactsSkipWithoutExtension <;> cases Adapter.hasExtension ctx extensions a <;> simp_all

theorem passesFilter_ne {ctx : Adapter.Context} {extensions : List Int} {a : Account}
    (h : A.passesFilter ctx extensions a = true) : a.iAccount ≠ ctx.caller.iAccount := by
  rw [passesFilter_eq_listed] at h
  simp only [Adapter.listed, Bool.and_eq_true, decide_eq_true_eq] at h
  exact h.2.2

/-- The contacts are those of accounts, in the order of `i_account`. -/
def InOrder (contacts : List ContactInfo) : Prop :=
  ∃ ids : List Int, contacts.map (·.userId) = ids.map (fun i => some (toString i)) ∧ ids.Pairwise (· < ·)

theorem inOrder_mapM {ctx : Adapter.Context} {accounts : List Account} {contacts : List ContactInfo}
    (h : accounts.mapM (A.contactOf ctx) = .ok contacts)
    (hsorted : accounts.Pairwise fun a b => a.iAccount < b.iAccount) : InOrder contacts := by
  refine ⟨accounts.map (·.iAccount), ?_, List.pairwise_map.2 hsorted⟩
  have hall := mapM_ok.1 h
  clear h hsorted
  induction hall with
  | nil => rfl
  | cons hc _ ih => rw [List.map_cons, ih, getContactInfoByAccount_userId hc, List.map_cons, List.map_cons]

/-- The accounts that both versions list, in the order of the second one. -/
def Adapter.directoryAccounts (A : Adapter) (db : Accounts) (ctx : Adapter.Context) (extensions : List Int) :
    List Account :=
  ((A.seen db ctx.allICustomers).mergeSort Adapter.byIAccount).filter (A.passesFilter ctx extensions)

/-- The contacts of the first version are those of the directory's accounts in some order. -/
theorem retrieveContacts_ok (hA : Lists db A) {caller : Caller} (hcaller : A.accountInfo = .ok caller)
    {contacts : List ContactInfo} (h : A.retrieveContacts = .ok contacts) :
    ∃ extensions accountContacts ordered custom, A.extensionIAccounts (A.context caller) = .ok extensions ∧
      A.customContacts = .ok custom ∧ contacts = accountContacts ++ custom ∧ ordered.Perm accountContacts ∧
        (A.directoryAccounts db (A.context caller) extensions).mapM (A.contactOf (A.context caller)) = .ok ordered := by
  simp only [Adapter.retrieveContacts, Adapter.translateExpired_ok, hcaller, bind_ok, pure_ok, Except.ok.injEq] at h
  obtain ⟨_, rfl, lists, hlists, extensions, hext, accountContacts, hcontacts, custom, hcustom, rfl⟩ := h
  obtain ⟨lists', hlists', hperm⟩ := hA.accounts (A.context caller).allICustomers
  obtain rfl := Except.ok.inj (hlists.symm.trans hlists')
  have hfilter : (A.directoryAccounts db (A.context caller) extensions).Perm
      (lists.flatten.filter (A.listed (A.context caller) extensions)) := by
    rw [Adapter.directoryAccounts, List.filter_congr fun a _ => passesFilter_eq_listed A _ extensions a]
    exact ((List.mergeSort_perm _ _).trans hperm.symm).filter _
  obtain ⟨ordered, hordered, hsame⟩ := mapM_perm hcontacts hfilter
  exact ⟨extensions, accountContacts, ordered, custom, hext, hcustom, rfl, hsame, hordered⟩

/-- Every account of the offices, in the order of `i_account`. -/
theorem Lists.allAccounts {B : Adapter} (hB : Lists db B) {ctx : Adapter.Context} (hoffices : ctx.allICustomers.Nodup) :
    B.allAccounts ctx = .ok ((B.seen db ctx.allICustomers).mergeSort Adapter.byIAccount) := by
  obtain ⟨lists, hlists, hperm⟩ := hB.accounts ctx.allICustomers
  simp only [Adapter.allAccounts, hlists, bind_ok, pure_ok, Except.ok.injEq]
  exact ⟨_, rfl, mergeSort_perm_eq (B.seen_nodup db hoffices) hperm⟩

/-- The directory without a search. -/
theorem directory_ordered {B : Adapter} (hB : Lists db B) {ctx : Adapter.Context} (hoffices : ctx.allICustomers.Nodup)
    {extensions : List Int} (hext : B.extensionIAccounts ctx = .ok extensions) {custom : List ContactInfo}
    (hcustom : B.customContacts = .ok custom) {ordered : List ContactInfo}
    (hordered : (B.directoryAccounts db ctx extensions).mapM (B.contactOf ctx) = .ok ordered) (page n : Nat) :
    B.directory ctx none false page n = .ok (ordered ++ custom, ((ordered ++ custom).length : Int)) := by
  simp only [Adapter.directory, bind_ok, pure_ok, hcustom, hext, Except.ok.injEq]
  refine ⟨custom, rfl, extensions, rfl,
    { accounts := (B.seen db ctx.allICustomers).mergeSort Adapter.byIAccount }, ?_, ordered, hordered, ?_⟩
  · simp only [Adapter.listAccounts, hB.allAccounts hoffices]
    rfl
  · rfl

namespace Alike

variable {B : Adapter}

theorem customContacts (h : Alike A B) : B.customContacts = A.customContacts := by
  rw [Adapter.customContacts, Adapter.customContacts, h.settings]

theorem directoryAccounts (h : Alike A B) (ctx : Adapter.Context) (extensions : List Int) :
    B.directoryAccounts db ctx extensions = A.directoryAccounts db ctx extensions := by
  have hview : B.view = A.view := by
    funext a
    rw [Adapter.view, Adapter.view, h.settings]
  have hpasses : B.passesFilter ctx extensions = A.passesFilter ctx extensions := by
    funext a
    rw [Adapter.passesFilter, Adapter.passesFilter, h.settings]
  rw [Adapter.directoryAccounts, Adapter.directoryAccounts, Adapter.seen, Adapter.seen, hview, hpasses]

theorem contactOf (h : Alike A B) (ctx : Adapter.Context) : B.contactOf ctx = A.contactOf ctx := by
  funext a
  rw [Adapter.contactOf, Adapter.contactOf, h.runtime]

end Alike

/-- **The pages of the directory are the first version's contacts**: those of accounts in the order of
`i_account`, then the custom ones. The switch may list the accounts in another order for every page. -/
theorem directory_walk {B : Nat → Adapter} (hA : Lists db A) (hB : ∀ page, Lists db (B page))
    (halike : ∀ page, Alike A (B page)) {caller : Caller} (hcaller : A.accountInfo = .ok caller)
    (hoffices : (A.context caller).allICustomers.Nodup) {contacts : List ContactInfo}
    (hv1 : A.retrieveContacts = .ok contacts) {n : Nat} (hn : 1 ≤ n) :
    ∃ accountContacts ordered custom, contacts = accountContacts ++ custom ∧ A.customContacts = .ok custom ∧
      ordered.Perm accountContacts ∧ InOrder ordered ∧
        Walk (fun page => (B page).retrieveContactsV2 none [] page n false) n (ordered ++ custom) ∧
          ∀ contact ∈ ordered ++ custom, contact.userId ≠ some (toString caller.iAccount) := by
  obtain ⟨extensions, accountContacts, ordered, custom, hext, hcustom, rfl, hperm, hordered⟩ :=
    retrieveContacts_ok hA hcaller hv1
  refine ⟨accountContacts, ordered, custom, rfl, hcustom, hperm, ?_, ?_, ?_⟩
  · exact inOrder_mapM hordered ((pairwise_mergeSort_lt (A.seen_nodup db hoffices)).sublist List.filter_sublist)
  · apply walk_of_pageOf hn
    intro page _
    have hsame := halike page
    have haccounts : ((B page).directoryAccounts db (A.context caller) extensions).mapM
        ((B page).contactOf (A.context caller)) = .ok ordered := by
      rw [hsame.directoryAccounts, hsame.contactOf, hordered]
    have hdirectory := directory_ordered (hB page) hoffices ((hsame.extensions _).trans hext)
      (hsame.customContacts.trans hcustom) haccounts page n
    rw [← hsame.context] at hdirectory
    exact (Adapter.retrieveContactsV2_directory (hsame.accountInfo.trans hcaller) rfl).2 ⟨_, hdirectory, rfl⟩
  · intro contact hmem hself
    rcases List.mem_append.1 hmem with hmem | hmem
    · obtain ⟨a, ha, hc⟩ := of_mem_mapM hordered hmem
      exact passesFilter_ne (List.of_mem_filter ha) ((userId_iff hc).1 hself).symm
    · obtain ⟨entry, _, hentry⟩ := of_mem_mapM hcustom hmem
      rw [getContactInfoByCustomEntry_userId hentry] at hself
      cases hself

/-! ## A switch that changes its mind about the order -/

/-- Customer 1 has the accounts 10, 11 and 12, and is in no hierarchy of offices. -/
def colleagues : Accounts where
  of c := if c = 1 then
      [{ iAccount := 10, id := .val "1010", sipStatus := .val 1 },
        { iAccount := 11, id := .val "1011", sipStatus := .val 0 },
        { iAccount := 12, id := .val "1012", sipStatus := .val 1 }]
    else []
  distinct c := by
    split <;> decide
  disjoint c c' a a' ha ha' _ := by
    split at ha <;> split at ha' <;> simp_all

/-- The list of a customer in one of its orders. -/
def Accounts.api (db : Accounts) (order : List Account → List Account) : AdminApi where
  getAccountList c query :=
    let rows := (order (db.of c)).drop (query.offset.getD 0)
    .ok (some ⟨.val (match query.limit with | some n => rows.take n | none => rows), .val (order (db.of c)).length⟩)
  getAccountInfo _ := .ok none
  getExtensionsList _ _ := .ok []
  getCustomerInfo _ := .ok { iOfficeType := .val 1 }
  getCustomerList _ := .ok (.val [])

/-- The adapter at work for the account 11, with one custom contact. -/
def colleaguesAdapter (order : List Account → List Account) : Adapter where
  runtime := { lower := id, int := fun _ => none, emailStr := some }
  settings := { contactsCustom := [{ name := .val "Reception", number := .val "100" }] }
  adminApi := colleagues.api order
  accountInfo := .ok ⟨1, 11⟩
  asked _ := { now := 0 }
  locked _ := { now := 0 }
  setOrder := ⟨id, List.Perm.refl⟩

theorem colleagues_lists {order : List Account → List Account} (h : ∀ l, (order l).Perm l) :
    Lists colleagues (colleaguesAdapter order) where
  slices c := ⟨order (colleagues.of c), h _, fun _ _ => rfl⟩
  asked _ := ⟨[], by simp, rfl⟩
  locked _ := ⟨[], by simp, rfl⟩

/-- The second page is asked of a switch that lists the accounts backwards. -/
def pageAdapter (page : Nat) : Adapter := colleaguesAdapter (if page = 2 then List.reverse else id)

theorem colleagues_alike (order order' : List Account → List Account) :
    Alike (colleaguesAdapter order) (colleaguesAdapter order') where
  runtime := rfl
  settings := rfl
  accountInfo := rfl
  context _ := rfl
  extensions _ := rfl

/-- The contact of a colleague of the account 11. -/
def colleague (userId main : String) : ContactInfo where
  userId := some userId
  isCurrentUser := some false
  companyName := some ""
  firstName := some ""
  lastName := some ""
  numbers := { additional := some [], ext := some "", main, sms := some [] }
  sipStatus := some .registered

def reception : ContactInfo := { aliasName := some "Reception", numbers := { main := "100" } }

theorem colleagues_walk :
    ∃ accountContacts ordered custom,
      [colleague "12" "1012", colleague "10" "1010", reception] = accountContacts ++ custom ∧
        (colleaguesAdapter List.reverse).customContacts = .ok custom ∧ ordered.Perm accountContacts ∧ InOrder ordered ∧
          Walk (fun page => (pageAdapter page).retrieveContactsV2 none [] page 1 false) 1 (ordered ++ custom) ∧
            ∀ contact ∈ ordered ++ custom, contact.userId ≠ some (toString (11 : Int)) := by
  have hpages : ∀ page, Lists colleagues (pageAdapter page) := by
    intro page
    apply colleagues_lists
    intro l
    split
    · exact List.reverse_perm l
    · exact List.Perm.refl l
  have hcaller : (colleaguesAdapter List.reverse).accountInfo = .ok ⟨1, 11⟩ := rfl
  exact directory_walk (colleagues_lists List.reverse_perm) hpages (fun page => colleagues_alike _ _) hcaller
    (by decide) (by decide) le_rfl

end PortaPhone.Contacts
