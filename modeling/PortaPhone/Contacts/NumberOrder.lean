import PortaPhone.Contacts.Isolation
/-!
# A lookup of numbers on another replica

The numbers are kept in sets, and the accounts that they lead to are listed in the order in which the sets are
iterated over. `replica_independent_iff`: all replicas answer the same pages exactly when of any two numbers one leads
to the first accounts of the other, and the numbers of which no account has been found lead to no two new ones.
-/

namespace PortaPhone.Contacts

open Fallible Paging

namespace Adapter

/-- The same adapter with other hash seeds. -/
def withOrder (A : Adapter) (setOrder : SetOrder) : Adapter := { A with setOrder }

/-- Every page of the request is the same on every replica. -/
def ReplicaIndependent (A : Adapter) (phoneNumbers : List String) : Prop :=
  ∀ (o o' : SetOrder) (search : Option String) (page itemsPerPage : Nat) (smsCapable : Bool),
    (A.withOrder o).retrieveContactsV2 search phoneNumbers page itemsPerPage smsCapable =
      (A.withOrder o').retrieveContactsV2 search phoneNumbers page itemsPerPage smsCapable

variable (A : Adapter) (ctx : Context) (numbers : List String)

/-- An account that one of the numbers leads to, by its id or as an extension. -/
def Leads (iAccount : Int) : Prop := ∃ number ∈ numbers, iAccount ∈ (A.lookupNumber ctx number).keys

/-- The number is none of the numbers of the accounts that are found. -/
def Unmatched (number : String) : Prop :=
  ∀ n ∈ numbers, ∀ account ∈ (A.lookupNumber ctx n).values, ∀ ids, numbersOf account = .ok ids → some number ∉ ids

structure OrderFree : Prop where
  nested : ∀ n ∈ numbers, ∀ m ∈ numbers, Dict.Nested (A.lookupNumber ctx n) (A.lookupNumber ctx m)
  aliases : ∀ n ∈ numbers, ∀ m ∈ numbers, A.Unmatched ctx numbers n → A.Unmatched ctx numbers m →
    ∀ a b, A.lookupAlias n = some a → A.lookupAlias m = some b → (a.iAccount = b.iAccount → a = b) ∧
      (A.Leads ctx numbers a.iAccount ∨ A.Leads ctx numbers b.iAccount ∨ a.iAccount = b.iAccount)

/-- However a lookup comes to an account, the switch has one record of it. -/
structure OneRecord (record : Int → Account) : Prop where
  found : ∀ number ∈ numbers, ∀ e ∈ (A.lookupNumber ctx number).entries, e.2 = record e.1
  aliases : ∀ number ∈ numbers, A.Unmatched ctx numbers number →
    ∀ a, A.lookupAlias number = some a → a = record a.iAccount

variable {A ctx numbers} {o o' : SetOrder}

theorem foundByNumber_withOrder : (A.withOrder o).foundByNumber ctx numbers =
    Dict.empty.update (((o.order numbers).map (A.lookupNumber ctx)).flatMap Dict.entries) := by
  rw [List.flatMap_map]
  rfl

/-- What one number leads to is found, if the accounts of two numbers agree. -/
theorem mem_foundByNumber_nested (h : A.OrderFree ctx numbers) {n : String} (hn : n ∈ numbers) {account : Account}
    (haccount : account ∈ (A.lookupNumber ctx n).values) :
    account ∈ ((A.withOrder o).foundByNumber ctx numbers).values := by
  have hblocks : ∀ x ∈ Dict.empty :: (o.order numbers).map (A.lookupNumber ctx),
      ∀ y ∈ Dict.empty :: (o.order numbers).map (A.lookupNumber ctx), Dict.Nested x y := by
    intro x hx y hy
    rcases List.mem_cons.1 hx with rfl | hx
    · exact Dict.nested_empty y
    · rcases List.mem_cons.1 hy with rfl | hy
      · exact (Dict.nested_empty x).symm
      · obtain ⟨n, hn, rfl⟩ := List.mem_map.1 hx
        obtain ⟨m, hm, rfl⟩ := List.mem_map.1 hy
        exact h.nested n ((o.perm numbers).mem_iff.1 hn) m ((o.perm numbers).mem_iff.1 hm)
  have htop := (Dict.update_nested hblocks).2 _
    (List.mem_cons_of_mem _ (List.mem_map_of_mem ((o.perm numbers).mem_iff.2 hn)))
  rw [foundByNumber_withOrder]
  exact (htop.map Prod.snd).subset haccount

theorem foundByNumber_nested (h : A.OrderFree ctx numbers) (o o' : SetOrder) :
    (A.withOrder o).foundByNumber ctx numbers = (A.withOrder o').foundByNumber ctx numbers := by
  have hperm : (o.order numbers).Perm (o'.order numbers) := (o.perm numbers).trans (o'.perm numbers).symm
  rw [foundByNumber_withOrder, foundByNumber_withOrder]
  apply Dict.update_nested_perm (hperm.map _)
  intro x hx y hy
  obtain ⟨n, hn, rfl⟩ := List.mem_map.1 hx
  obtain ⟨m, hm, rfl⟩ := List.mem_map.1 hy
  exact h.nested n ((o.perm numbers).mem_iff.1 hn) m ((o.perm numbers).mem_iff.1 hm)

theorem remaining_ok {rest : List String} :
    A.remaining ctx numbers = .ok rest ↔ ∃ ids, (A.foundByNumber ctx numbers).values.mapM numbersOf = .ok ids ∧
      (numbers.filter fun number => some number ∉ ids.flatten) = rest := by
  simp only [remaining, bind_ok, pure_ok]

/-- The numbers of the second lookup belong to no account that the first one can find. -/
theorem unmatched_of_remaining (hfound : ∀ n ∈ numbers, ∀ account ∈ (A.lookupNumber ctx n).values,
      account ∈ (A.foundByNumber ctx numbers).values)
    {rest : List String} (hrest : A.remaining ctx numbers = .ok rest) {number : String} (hn : number ∈ rest) :
    number ∈ numbers ∧ A.Unmatched ctx numbers number := by
  obtain ⟨found, hids, rfl⟩ := remaining_ok.1 hrest
  obtain ⟨hmem, hnot⟩ := List.mem_filter.1 hn
  refine ⟨hmem, fun n hn account haccount ids hok hcontains => ?_⟩
  obtain ⟨ids', hids', hok'⟩ := mem_of_mapM hids (hfound n hn account haccount)
  obtain rfl := Except.ok.inj (hok.symm.trans hok')
  exact of_decide_eq_true hnot (List.mem_flatten.2 ⟨ids, hids', hcontains⟩)

/-! ## Where the order makes no difference -/

theorem lookupContacts_orderFree (h : A.OrderFree ctx numbers) (o o' : SetOrder) :
    (A.withOrder o).lookupContacts ctx numbers = (A.withOrder o').lookupContacts ctx numbers := by
  have hfound := foundByNumber_nested h o o'
  have hremaining : (A.withOrder o).remaining ctx numbers = (A.withOrder o').remaining ctx numbers := by
    rw [remaining, remaining, hfound]
  unfold lookupContacts
  rw [hremaining, hfound]
  cases hrest : (A.withOrder o').remaining ctx numbers with
  | error e => rfl
  | ok rest =>
    have hunmatched : ∀ number ∈ rest, number ∈ numbers ∧ A.Unmatched ctx numbers number := fun number hn =>
      unmatched_of_remaining (A := A.withOrder o') (fun _ hn _ haccount =>
        mem_foundByNumber_nested h hn haccount) hrest hn
    have hupdate :
        ((A.withOrder o').foundByNumber ctx numbers).update (keyed ((o.order rest).filterMap A.lookupAlias)) =
        ((A.withOrder o').foundByNumber ctx numbers).update (keyed ((o'.order rest).filterMap A.lookupAlias)) := by
      have hperm : (o.order rest).Perm (o'.order rest) := (o.perm rest).trans (o'.perm rest).symm
      apply Dict.update_perm ((hperm.filterMap _).map _)
      intro x hx y hy
      obtain ⟨a, ha, rfl⟩ := List.mem_map.1 hx
      obtain ⟨b, hb, rfl⟩ := List.mem_map.1 hy
      obtain ⟨n, hn, ha⟩ := List.mem_filterMap.1 ha
      obtain ⟨m, hm, hb⟩ := List.mem_filterMap.1 hb
      obtain ⟨hn, hn'⟩ := hunmatched n ((o.perm rest).mem_iff.1 hn)
      obtain ⟨hm, hm'⟩ := hunmatched m ((o.perm rest).mem_iff.1 hm)
      obtain ⟨hsame, hnew⟩ := h.aliases n hn m hm hn' hm' a b ha hb
      refine ⟨fun heq => by rw [hsame heq], ?_⟩
      exact hnew.imp (fun hlead => mem_keys_foundByNumber.2 hlead) (Or.imp_left fun hlead =>
        mem_keys_foundByNumber.2 hlead)
    exact congrArg (fun found : Dict Int Account => do
      let contacts ← found.values.mapM (A.contactOf ctx)
      let custom ← A.customContacts
      return contacts ++ custom.filter fun contact => (contactNumbers contact).any (· ∈ numbers)) hupdate

theorem retrieveContactsV2_lookup {caller : Caller} (hcaller : A.accountInfo = .ok caller) {phoneNumbers : List String}
    (hne : normalize phoneNumbers ≠ []) (search : Option String) (page n : Nat) (sms : Bool) :
    A.retrieveContactsV2 search phoneNumbers page n sms =
      translateExpired ((A.lookupContacts (A.context caller) (normalize phoneNumbers)).map fun contacts =>
        (pageOf page n contacts, (contacts.length : Int))) := by
  unfold retrieveContactsV2
  rw [hcaller]
  show translateExpired (if normalize phoneNumbers ≠ [] then _ else _) = _
  rw [if_pos hne]
  cases A.lookupContacts (A.context caller) (normalize phoneNumbers) with
  | error e => rfl
  | ok contacts => rfl

theorem retrieveContactsV2_ok {caller : Caller} (hcaller : A.accountInfo = .ok caller) {phoneNumbers : List String}
    (hne : normalize phoneNumbers ≠ []) {search : Option String} {page n : Nat} {sms : Bool}
    {result : List ContactInfo × Int} :
    A.retrieveContactsV2 search phoneNumbers page n sms = .ok result ↔
      ∃ contacts, A.lookupContacts (A.context caller) (normalize phoneNumbers) = .ok contacts ∧
        (pageOf page n contacts, (contacts.length : Int)) = result := by
  rw [retrieveContactsV2_lookup hcaller hne, translateExpired_ok]
  cases A.lookupContacts (A.context caller) (normalize phoneNumbers) with
  | error e => simp [Except.map]
  | ok contacts => simp [Except.map]

/-! ## Where it does -/

/-- A set that is iterated over from this element on, if it has it. -/
def startingWith (number : String) : SetOrder where
  order s := if number ∈ s then number :: s.erase number else s
  perm s := by
    split
    · rename_i h
      exact (List.perm_cons_erase h).symm
    · exact List.Perm.refl s

/-- The accounts of a lookup in the order of its contacts. -/
def found (A : Adapter) (ctx : Context) (numbers rest : List String) : Dict Int Account :=
  (A.foundByNumber ctx numbers).update (keyed ((A.setOrder.order rest).filterMap A.lookupAlias))

theorem found_table (rest : List String) : Table (fun _ => True) (A.found ctx numbers rest) := by
  refine Table.update (foundByNumber_table fun number _ => ⟨?_, ?_⟩) fun _ _ => trivial
  · exact fun _ _ _ _ => trivial
  · exact fun _ _ _ _ => trivial

theorem userIds_of_contacts {accounts : List Account} {contacts : List ContactInfo}
    (h : accounts.mapM (A.contactOf ctx) = .ok contacts) :
    (accounts.map (·.iAccount)).map (fun i => some (toString i)) = contacts.map (·.userId) := by
  have hall := mapM_ok.1 h
  clear h
  induction hall with
  | nil => rfl
  | cons hcontact _ ih =>
    rw [List.map_cons, List.map_cons, List.map_cons, ih, getContactInfoByAccount_userId hcontact]

/-- If two replicas answer alike, they have found the same accounts in one order. -/
theorem keys_found {contacts : List ContactInfo} {rest rest' : List String}
    (hok : (A.withOrder o).lookupContacts ctx numbers = .ok contacts)
    (hok' : (A.withOrder o').lookupContacts ctx numbers = .ok contacts)
    (hrest : (A.withOrder o).remaining ctx numbers = .ok rest)
    (hrest' : (A.withOrder o').remaining ctx numbers = .ok rest') :
    ((A.withOrder o).found ctx numbers rest).keys = ((A.withOrder o').found ctx numbers rest').keys := by
  obtain ⟨rest₁, listed, custom, hrest₁, hlisted, hcustom, hcontacts⟩ := lookupContacts_ok hok
  obtain ⟨rest₂, listed', custom', hrest₂, hlisted', hcustom', hcontacts'⟩ := lookupContacts_ok hok'
  obtain rfl := Except.ok.inj (hrest.symm.trans hrest₁)
  obtain rfl := Except.ok.inj (hrest'.symm.trans hrest₂)
  have hsame : custom = custom' := Except.ok.inj (hcustom.symm.trans hcustom')
  rw [hcontacts, hsame] at hcontacts'
  have heq : listed = listed' := List.append_cancel_right hcontacts'
  have hids := (userIds_of_contacts hlisted).trans ((congrArg _ heq).trans (userIds_of_contacts hlisted').symm)
  have hinj : Function.Injective fun i : Int => some (toString i) := fun i j h => Int.repr_injective (Option.some.inj h)
  rw [(found_table rest).keys_eq, (found_table rest').keys_eq]
  exact List.map_injective_iff.2 hinj hids

/-- A number whose accounts come first. -/
theorem keys_startingWith {n : String} (hn : n ∈ numbers) (rest : List String) :
    (A.lookupNumber ctx n).keys <+: ((A.withOrder (startingWith n)).found ctx numbers rest).keys := by
  refine List.IsPrefix.trans ?_ (Dict.keys_prefix_update _ _)
  have horder : (startingWith n).order numbers = n :: numbers.erase n := if_pos hn
  rw [foundByNumber_withOrder, horder, List.map_cons, List.flatMap_cons, Dict.update_append,
    Dict.update_longer (d := Dict.empty) List.nil_prefix]
  exact Dict.keys_prefix_update _ _

/-- A number whose account is not found before it. -/
theorem keys_startingWith_alias {n : String} {rest : List String} (hn : n ∈ rest) {a : Account}
    (ha : A.lookupAlias n = some a) (hnew : ¬ A.Leads ctx numbers a.iAccount) :
    ((A.withOrder (startingWith n)).foundByNumber ctx numbers).keys ++ [a.iAccount] <+:
      ((A.withOrder (startingWith n)).found ctx numbers rest).keys := by
  have horder : (startingWith n).order rest = n :: rest.erase n := if_pos hn
  have haccounts :
      ((A.withOrder (startingWith n)).setOrder.order rest).filterMap (A.withOrder (startingWith n)).lookupAlias =
      a :: (rest.erase n).filterMap A.lookupAlias := by
    show ((startingWith n).order rest).filterMap A.lookupAlias = _
    rw [horder, List.filterMap_cons_some ha]
  have hkeys : (((A.withOrder (startingWith n)).foundByNumber ctx numbers).set a.iAccount a).keys =
      ((A.withOrder (startingWith n)).foundByNumber ctx numbers).keys ++ [a.iAccount] := by
    refine (Dict.setEntries_keys _ _ _).trans (if_neg fun hmem => hnew ?_)
    exact (mem_keys_foundByNumber (A := A.withOrder (startingWith n))).1 hmem
  rw [found, haccounts, ← hkeys]
  exact Dict.keys_prefix_update _ _

/-- The accounts that all replicas find, in any order. -/
theorem keys_foundByNumber_perm (o o' : SetOrder) : ((A.withOrder o).foundByNumber ctx numbers).keys.Perm
    ((A.withOrder o').foundByNumber ctx numbers).keys := by
  refine (List.perm_ext_iff_of_nodup (Dict.nodup _) (Dict.nodup _)).2 fun i => ?_
  exact (mem_keys_foundByNumber (A := A.withOrder o)).trans (mem_keys_foundByNumber (A := A.withOrder o')).symm

theorem mem_remaining {number : String} (hn : number ∈ numbers) (hunmatched : A.Unmatched ctx numbers number)
    {rest : List String} (hrest : A.remaining ctx numbers = .ok rest) : number ∈ rest := by
  obtain ⟨found, hids, rfl⟩ := remaining_ok.1 hrest
  refine List.mem_filter.2 ⟨hn, decide_eq_true fun hmem => ?_⟩
  obtain ⟨ids, hmem, hcontains⟩ := List.mem_flatten.1 hmem
  obtain ⟨account, haccount, hok⟩ := of_mem_mapM hids hmem
  have hblock : (A.foundByNumber ctx numbers).All fun _ account =>
      ∃ n ∈ numbers, account ∈ (A.lookupNumber ctx n).values := by
    refine Dict.All.update Dict.All.empty fun e he => ?_
    obtain ⟨n, hn, he⟩ := List.mem_flatMap.1 he
    exact ⟨n, (A.setOrder.perm numbers).mem_iff.1 hn, List.mem_map_of_mem he⟩
  obtain ⟨_, n, hn, haccount⟩ := hblock.mem_values haccount
  exact hunmatched n hn account haccount ids hok hcontains

theorem orderFree_of_same {record : Int → Account} (hone : A.OneRecord ctx numbers record) {contacts : List ContactInfo}
    (hsame : ∀ o, (A.withOrder o).lookupContacts ctx numbers = .ok contacts) : A.OrderFree ctx numbers := by
  have hrest : ∀ o, ∃ rest, (A.withOrder o).remaining ctx numbers = .ok rest := fun o => by
    obtain ⟨rest, _, _, hrest, _⟩ := lookupContacts_ok (hsame o)
    exact ⟨rest, hrest⟩
  refine ⟨fun n hn m hm => ?_, fun n hn m hm hn' hm' a b ha hb => ⟨fun heq => ?_, ?_⟩⟩
  · obtain ⟨rest, hrestn⟩ := hrest (startingWith n)
    obtain ⟨rest', hrestm⟩ := hrest (startingWith m)
    have hkeys := keys_found (hsame _) (hsame _) hrestn hrestm
    have hprefix : (A.lookupNumber ctx n).keys <+: _ := keys_startingWith hn rest
    rw [hkeys] at hprefix
    have hentries : ∀ k ∈ numbers,
        (A.lookupNumber ctx k).entries = (A.lookupNumber ctx k).keys.map fun i => (i, record i) := by
      intro k hk
      rw [Dict.keys, List.map_map]
      refine (List.map_id _).symm.trans (List.map_congr_left fun e he => ?_)
      exact Prod.ext rfl (hone.found k hk e he)
    rw [Dict.Nested, hentries n hn, hentries m hm]
    exact (List.prefix_or_prefix_of_prefix hprefix (keys_startingWith hm rest')).imp (fun h => h.map _) fun h => h.map _
  · rw [hone.aliases n hn hn' a ha, hone.aliases m hm hm' b hb, heq]
  · by_contra hnew
    rw [not_or, not_or] at hnew
    obtain ⟨hna, hnb, hne⟩ := hnew
    obtain ⟨rest, hrestn⟩ := hrest (startingWith n)
    obtain ⟨rest', hrestm⟩ := hrest (startingWith m)
    have hkeys := keys_found (hsame _) (hsame _) hrestn hrestm
    have hmemn := mem_remaining (A := A.withOrder (startingWith n)) hn hn' hrestn
    have hmemm := mem_remaining (A := A.withOrder (startingWith m)) hm hm' hrestm
    have hfirst := keys_startingWith_alias hmemn ha hna
    have hsecond := keys_startingWith_alias hmemm hb hnb
    have hlength : ((A.withOrder (startingWith n)).foundByNumber ctx numbers).keys.length = _ :=
      (keys_foundByNumber_perm (startingWith n) (startingWith m)).length_eq
    -- both are prefixes of one list, of the same length
    rw [hkeys] at hfirst
    have hle := List.prefix_of_prefix_length_le hfirst hsecond (by simp [hlength])
    have heq := hle.eq_of_length (by simp [hlength])
    exact hne (List.singleton_inj.1 (List.append_inj heq hlength).2)

/-! ## Requests -/

theorem pageOf_all {contacts contacts' : List ContactInfo} (hlength : contacts'.length = contacts.length)
    (hpage : pageOf 1 contacts.length contacts' = pageOf 1 contacts.length contacts) : contacts' = contacts := by
  have hfirst : ∀ l : List ContactInfo, pageOf 1 contacts.length l = l.take contacts.length := fun l => by
    rw [pageOf, Nat.sub_self, Nat.zero_mul, List.drop_zero]
  rw [hfirst, hfirst, List.take_length, ← hlength, List.take_length] at hpage
  exact hpage

/-- **All replicas answer the same pages** if the numbers lead to accounts whose order makes no difference. Of a lookup
that is answered, by a switch that has one record of an account, it is needed too. -/
theorem replica_independent_iff {caller : Caller} {phoneNumbers : List String} (hcaller : A.accountInfo = .ok caller)
    (hne : normalize phoneNumbers ≠ []) :
    (A.OrderFree (A.context caller) (normalize phoneNumbers) → A.ReplicaIndependent phoneNumbers) ∧
      (∀ record, A.OneRecord (A.context caller) (normalize phoneNumbers) record →
        (∃ page n result, A.retrieveContactsV2 none phoneNumbers page n false = .ok result) →
          A.ReplicaIndependent phoneNumbers → A.OrderFree (A.context caller) (normalize phoneNumbers)) := by
  constructor
  · intro h o o' search page n sms
    rw [retrieveContactsV2_lookup (A := A.withOrder o) hcaller hne,
      retrieveContactsV2_lookup (A := A.withOrder o') hcaller hne]
    exact congrArg _ (congrArg _ (lookupContacts_orderFree h o o'))
  · rintro record hone ⟨page, n, result, hresult⟩ hindependent
    obtain ⟨contacts, hcontacts, -⟩ := (retrieveContactsV2_ok hcaller hne).1 hresult
    suffices hsame : ∀ o, (A.withOrder o).lookupContacts (A.context caller) (normalize phoneNumbers) = .ok contacts from
      orderFree_of_same hone hsame
    intro o
    have hanswer : (A.withOrder o).retrieveContactsV2 none phoneNumbers 1 contacts.length false =
        .ok (pageOf 1 contacts.length contacts, (contacts.length : Int)) := by
      rw [hindependent o A.setOrder]
      exact (retrieveContactsV2_ok (A := A) hcaller hne).2 ⟨contacts, hcontacts, rfl⟩
    obtain ⟨contacts', hcontacts', hpage⟩ := (retrieveContactsV2_ok (A := A.withOrder o) hcaller hne).1 hanswer
    obtain ⟨hpage, htotal⟩ := Prod.mk.inj hpage
    rw [← pageOf_all (Int.ofNat_inj.1 htotal) hpage]
    exact hcontacts'

/-- One number alone. -/
theorem orderFree_singleton (number : String) : A.OrderFree ctx [number] := by
  refine ⟨fun n hn m hm => ?_, fun n hn m hm _ _ a b ha hb => ?_⟩
  · rw [List.mem_singleton.1 hn, List.mem_singleton.1 hm]
    exact .inl (List.prefix_refl _)
  · rw [List.mem_singleton.1 hn] at ha
    rw [List.mem_singleton.1 hm, ha] at hb
    obtain rfl := Option.some.inj hb
    exact ⟨fun _ => rfl, .inr (.inr rfl)⟩

theorem colleague_replica_independent : twoTenantsAdapter.ReplicaIndependent ["+1002", "1002 "] := by
  have hnumbers : normalize ["+1002", "1002 "] = ["1002"] := by decide
  refine (replica_independent_iff (A := twoTenantsAdapter) rfl (by rw [hnumbers]; simp)).1 ?_
  rw [hnumbers]
  exact orderFree_singleton "1002"

/-! ## Two colleagues -/

def backwards : SetOrder := ⟨List.reverse, List.reverse_perm⟩

/-- The user ids of a page. -/
def userIds (answer : Except Raised (List ContactInfo × Int)) : Option (List (Option String)) :=
  answer.toOption.map fun result => result.1.map (·.userId)

/-- A replica has the one colleague on its first page, and another replica the other. -/
theorem pages_differ : ¬ ∀ (A : Adapter) (phoneNumbers : List String), A.ReplicaIndependent phoneNumbers := by
  intro h
  have hpages :=
    congrArg userIds (h twoTenantsAdapter ["1001", "1002"] twoTenantsAdapter.setOrder backwards none 1 1 false)
  have hfirst : userIds ((twoTenantsAdapter.withOrder twoTenantsAdapter.setOrder).retrieveContactsV2 none
      ["1001", "1002"] 1 1 false) = some [some "10"] := by decide
  have hsecond : userIds ((twoTenantsAdapter.withOrder backwards).retrieveContactsV2 none
      ["1001", "1002"] 1 1 false) = some [some "11"] := by decide
  rw [hfirst, hsecond] at hpages
  exact absurd hpages (by decide)

end Adapter

end PortaPhone.Contacts
