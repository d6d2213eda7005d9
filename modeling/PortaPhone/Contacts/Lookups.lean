import PortaPhone.Contacts.Ownership
/-!
# What the lookups of a request lead to

The number lookup keeps what it finds in a table under `i_account`, and lists all of it
(`lookupContacts_isolated`, `numbersInside_of_isolated`). A search adds to the offices' own matches the
accounts of extensions and of an alias; outside the caller's offices its table has what these two
find by themselves, `strays`, whatever the field queries have found (`searchSwitch_inside_iff`).
-/

namespace PortaPhone.Contacts

open Fallible

/-! ## The lookup of numbers -/

namespace Adapter

variable {A : Adapter} {ctx : Context} {numbers : List String} {P : Account → Prop}

/-- What `_lookup_number` finds of one number: owners of the offices' rows and an extension's account. -/
structure Finds (A : Adapter) (ctx : Context) (number : String) (P : Account → Prop) : Prop where
  master : ∀ c ∈ ctx.allICustomers, ∀ row ∈ A.rowsById number c, P (A.resolveMaster row)
  extension : ∀ i, (A.extNumberToIAccount ctx).get? number = some i → ∀ a, A.fetchAccount i = some a → P a

theorem lookupId_table {number : String}
    (h : ∀ c ∈ ctx.allICustomers, ∀ row ∈ A.rowsById number c, P (A.resolveMaster row)) :
    Table P (A.lookupId ctx number) := by
  apply Table.empty.update
  intro a ha
  obtain ⟨row, hrow, rfl⟩ := List.mem_map.1 ha
  obtain ⟨c, hc, hrow⟩ := List.mem_flatMap.1 hrow
  exact h c hc row hrow

theorem lookupNumber_table {number : String} (h : A.Finds ctx number P) : Table P (A.lookupNumber ctx number) := by
  unfold lookupNumber
  split
  · exact lookupId_table h.master
  · rename_i i hi
    dsimp only
    split
    · exact lookupId_table h.master
    · apply (lookupId_table h.master).update
      intro a ha
      exact h.extension i hi a (Option.mem_toList.1 ha)

theorem foundByNumber_table (h : ∀ number ∈ numbers, A.Finds ctx number P) :
    Table P (A.foundByNumber ctx numbers) := by
  apply Dict.All.update Table.empty
  intro e he
  obtain ⟨number, hnumber, he⟩ := List.mem_flatMap.1 he
  have hmem : number ∈ numbers := (A.setOrder.perm numbers).mem_iff.1 hnumber
  exact lookupNumber_table (h number hmem) e.1 e.2 ((A.lookupNumber ctx number).mem_entries.1 he)

theorem mem_keys_foundByNumber {i : Int} :
    i ∈ (A.foundByNumber ctx numbers).keys ↔ ∃ number ∈ numbers, i ∈ (A.lookupNumber ctx number).keys := by
  simp only [foundByNumber, Dict.mem_keys_update, List.map_flatMap, List.mem_flatMap,
    (A.setOrder.perm numbers).mem_iff]
  simp [Dict.keys, Dict.empty]

theorem mem_keys_lookupNumber {number : String} {i : Int} (hi : i ∈ (A.lookupId ctx number).keys) :
    i ∈ (A.lookupNumber ctx number).keys := by
  unfold lookupNumber
  split
  · exact hi
  · dsimp only
    split
    · exact hi
    · exact mem_keys_update_keyed.2 (.inl hi)

/-- The account an office's row leads to is found. -/
theorem mem_keys_master {number : String} (hn : number ∈ numbers) {c : Int} (hc : c ∈ ctx.allICustomers)
    {row : Account} (hrow : row ∈ A.rowsById number c) :
    (A.resolveMaster row).iAccount ∈ (A.foundByNumber ctx numbers).keys := by
  refine mem_keys_foundByNumber.2 ⟨number, hn, mem_keys_lookupNumber (mem_keys_update_keyed.2 (.inr ?_))⟩
  exact ⟨A.resolveMaster row, List.mem_map_of_mem (List.mem_flatMap.2 ⟨c, hc, hrow⟩), rfl⟩

/-- The account of an extension is found, unless the offices' rows have led to its `i_account` already. -/
theorem mem_keys_extension {number : String} (hn : number ∈ numbers) {i : Int}
    (hi : (A.extNumberToIAccount ctx).get? number = some i) {a : Account} (ha : A.fetchAccount i = some a) :
    i ∈ (A.foundByNumber ctx numbers).keys ∨ a.iAccount ∈ (A.foundByNumber ctx numbers).keys := by
  by_cases hid : i ∈ (A.lookupId ctx number).keys
  · exact .inl (mem_keys_foundByNumber.2 ⟨number, hn, mem_keys_lookupNumber hid⟩)
  · refine .inr (mem_keys_foundByNumber.2 ⟨number, hn, ?_⟩)
    simp only [lookupNumber, hi, hid, if_false]
    exact mem_keys_update_keyed.2 (.inr ⟨a, by simp [ha], rfl⟩)

/-- The contacts of a number lookup: those of the accounts found and custom ones. -/
theorem lookupContacts_ok {contacts : List ContactInfo} (h : A.lookupContacts ctx numbers = .ok contacts) :
    ∃ rest found custom, A.remaining ctx numbers = .ok rest ∧
      ((A.foundByNumber ctx numbers).update (keyed ((A.setOrder.order rest).filterMap A.lookupAlias))).values.mapM
        (A.contactOf ctx) = .ok found ∧
      A.customContacts = .ok custom ∧
      contacts = found ++ custom.filter fun contact => (contactNumbers contact).any (· ∈ numbers) := by
  simp only [lookupContacts, bind_ok, pure_ok] at h
  obtain ⟨rest, hrest, found, hfound, custom, hcustom, rfl⟩ := h
  exact ⟨rest, found, custom, hrest, hfound, hcustom, rfl⟩

variable {owner : Owners}

/-- Every account the unscoped lookups of these numbers lead to belongs to the offices. -/
structure NumbersInside (owner : Owners) (A : Adapter) (ctx : Context) (numbers : List String) : Prop where
  finds : ∀ number ∈ numbers, A.Finds ctx number (Inside owner ctx ·.iAccount)
  aliases : ∀ rest, A.remaining ctx numbers = .ok rest →
    ∀ number ∈ rest, ∀ a, A.lookupAlias number = some a → Inside owner ctx a.iAccount

theorem lookupContacts_isolated (h : NumbersInside owner A ctx numbers) {contacts : List ContactInfo}
    (hok : A.lookupContacts ctx numbers = .ok contacts) : Isolated owner ctx contacts := by
  obtain ⟨rest, found, custom, hrest, hfound, hcustom, rfl⟩ := lookupContacts_ok hok
  have table := (foundByNumber_table h.finds).update (l := (A.setOrder.order rest).filterMap A.lookupAlias) <| by
    intro a ha
    obtain ⟨number, hnumber, ha⟩ := List.mem_filterMap.1 ha
    exact h.aliases rest hrest number ((A.setOrder.perm rest).mem_iff.1 hnumber) a ha
  refine (isolated_mapM hfound fun a ha _ _ _ => table.values ha).append ?_
  exact (isolated_customContacts hcustom).mono fun _ hmem => List.mem_of_mem_filter hmem

/-- Whatever the lookups have led to is listed, so an isolated answer has led to the offices only. -/
theorem numbersInside_of_isolated (hserves : Serves owner A.adminApi) {contacts : List ContactInfo}
    (hok : A.lookupContacts ctx numbers = .ok contacts) (hiso : Isolated owner ctx contacts) :
    NumbersInside owner A ctx numbers := by
  obtain ⟨rest, found, custom, hrest, hfound, hcustom, rfl⟩ := lookupContacts_ok hok
  have table : Table (fun _ => True) ((A.foundByNumber ctx numbers).update
      (keyed ((A.setOrder.order rest).filterMap A.lookupAlias))) := by
    refine (foundByNumber_table fun number _ => ⟨?_, ?_⟩).update fun _ _ => trivial
    · exact fun _ _ _ _ => trivial
    · exact fun _ _ _ _ => trivial
  have listed : ∀ i ∈ ((A.foundByNumber ctx numbers).update
      (keyed ((A.setOrder.order rest).filterMap A.lookupAlias))).keys, Inside owner ctx i := by
    intro i hi
    obtain ⟨a, ha, rfl, _⟩ := table.mem_keys hi
    obtain ⟨contact, hcontact, hc⟩ := mem_of_mapM hfound ha
    exact hiso.inside (List.mem_append_left _ hcontact) hc
  have first : ∀ i ∈ (A.foundByNumber ctx numbers).keys, Inside owner ctx i :=
    fun i hi => listed i (mem_keys_update_keyed.2 (.inl hi))
  refine ⟨fun number hn => ⟨?_, ?_⟩, ?_⟩
  · intro c hc row hrow
    exact first _ (mem_keys_master hn hc hrow)
  · intro i hi a ha
    rcases mem_keys_extension hn hi ha with hkey | hkey
    · have howner := hserves.fetchAccount ha
      obtain ⟨c, hc, hi⟩ := first i hkey
      exact ⟨c, hc, howner.trans hi⟩
    · exact first _ hkey
  · intro rest' hrest' number hn a ha
    obtain rfl := Except.ok.inj (hrest.symm.trans hrest')
    refine listed _ (mem_keys_update_keyed.2 (.inr ⟨a, ?_, rfl⟩))
    exact List.mem_filterMap.2 ⟨number, (A.setOrder.perm rest).mem_iff.2 hn, ha⟩

end Adapter

/-! ## A search in the switch -/

namespace Adapter

variable {owner : Owners} {A : Adapter} {ctx : Context} {search : String}

theorem fetchField_owner (hserves : Serves owner A.adminApi) {limit : Nat} {task : Int × SearchField}
    {reply : List Account × Int} (h : A.fetchField search limit task = .ok reply) {a : Account} (ha : a ∈ reply.1) :
    owner a.iAccount = some task.1 := by
  simp only [fetchField, bind_ok] at h
  obtain ⟨answer, hanswer, h⟩ := h
  match answer with
  | none =>
    obtain rfl := pure_ok.1 h
    simp at ha
  | some ⟨rows, total⟩ =>
    simp only at h
    split at h
    · cases h
    · obtain rfl := pure_ok.1 h
      cases rows with
      | absent => simp [Attr.rowsOrEmpty] at ha
      | null => simp [Attr.rowsOrEmpty] at ha
      | val rows => exact hserves.listed hanswer a ha

theorem runFieldQueries_table (hserves : Serves owner A.adminApi) {limit : Nat} {found : FieldMatches}
    {result : FieldMatches × Bool} (h : A.runFieldQueries ctx search limit found = .ok result)
    (hfound : Table (Inside owner ctx ·.iAccount) found.accounts) :
    Table (Inside owner ctx ·.iAccount) result.1.accounts := by
  simp only [runFieldQueries, bind_ok, pure_ok] at h
  obtain ⟨replies, hreplies, rfl⟩ := h
  apply hfound.update
  intro a ha
  obtain ⟨reply, hreply, ha⟩ := List.mem_flatMap.1 ha
  obtain ⟨task, htask, hfetch⟩ := of_mem_mapM hreplies hreply
  obtain ⟨c, hc, htask⟩ := List.mem_flatMap.1 htask
  obtain ⟨_, _, rfl⟩ := List.mem_map.1 htask
  exact ⟨c, hc, fetchField_owner hserves hfetch ha⟩

/-- The field queries find accounts of the offices only. -/
theorem searchFields_table (hserves : Serves owner A.adminApi) {extensions : List Int} {sms : Bool} {page n : Nat}
    {result : FieldMatches × Bool × Nat} (h : A.searchFields ctx search extensions sms page n = .ok result) :
    Table (Inside owner ctx ·.iAccount) result.1.accounts := by
  simp only [searchFields, bind_ok] at h
  obtain ⟨⟨found, truncated⟩, hfirst, h⟩ := h
  have first := runFieldQueries_table hserves hfirst Table.empty
  simp only at h
  split at h
  · simp only [bind_ok] at h
    obtain ⟨usableMatches, _, h⟩ := h
    split at h
    · simp only [bind_ok, pure_ok] at h
      obtain ⟨second, hsecond, rfl⟩ := h
      exact runFieldQueries_table hserves hsecond first
    · obtain rfl := pure_ok.1 h
      exact first
  · obtain rfl := pure_ok.1 h
    exact first

/-- What the two lookups of a search find by themselves. -/
def strays (A : Adapter) (ctx : Context) (search : String) : Dict Int Account :=
  A.addAliasMatch search (A.addExtensionMatches ctx search Dict.empty)

/-- The two tables have the same accounts outside the caller's offices. -/
abbrev AgreeOutside (owner : Owners) (ctx : Context) : Dict Int Account → Dict Int Account → Prop :=
  Dict.AgreeOn fun i => ¬ Inside owner ctx i

theorem mem_values_of_agree {d e : Dict Int Account} (h : AgreeOutside owner ctx d e) (hd : Table (fun _ => True) d)
    {a : Account} (ha : a ∈ d.values) (hout : ¬ Inside owner ctx a.iAccount) : a ∈ e.values := by
  obtain ⟨i, hi⟩ := d.mem_values.1 ha
  obtain ⟨rfl, _⟩ := hd i a hi
  exact e.mem_values.2 ⟨a.iAccount, (h _ hout).symm.trans hi⟩

/-- An extension's account that is passed over belongs to the offices, so it makes no difference outside. -/
theorem agree_extensions (hserves : Serves owner A.adminApi) {seen : List Int}
    (hseen : ∀ i ∈ seen, Inside owner ctx i) {l : List Int} {d e : Dict Int Account} (h : AgreeOutside owner ctx d e) :
    AgreeOutside owner ctx (d.update (keyed ((l.filter (· ∉ seen)).filterMap A.fetchAccount)))
      (e.update (keyed (l.filterMap A.fetchAccount))) := by
  induction l generalizing d e with
  | nil => exact h
  | cons i l ih =>
    cases hi : A.fetchAccount i with
    | none =>
      rw [List.filterMap_cons_none hi]
      by_cases hmem : i ∈ seen
      · rw [List.filter_cons_of_neg (by simpa using hmem)]
        exact ih h
      · rw [List.filter_cons_of_pos (by simpa using hmem), List.filterMap_cons_none hi]
        exact ih h
    | some a =>
      rw [List.filterMap_cons_some hi]
      by_cases hmem : i ∈ seen
      · rw [List.filter_cons_of_neg (by simpa using hmem)]
        have ha : Inside owner ctx a.iAccount := by
          obtain ⟨c, hc, howner⟩ := hseen i hmem
          exact ⟨c, hc, (hserves.fetchAccount hi).trans howner⟩
        exact ih (h.trans (Dict.agreeOn_set _ e (not_not_intro ha) a))
      · rw [List.filter_cons_of_pos (by simpa using hmem), List.filterMap_cons_some hi]
        exact ih (h.set a.iAccount a)

theorem agree_addExtensionMatches (hserves : Serves owner A.adminApi) {d : Dict Int Account}
    (hd : Table (Inside owner ctx ·.iAccount) d) :
    AgreeOutside owner ctx (A.addExtensionMatches ctx search d) (A.addExtensionMatches ctx search Dict.empty) := by
  have hseen : ∀ i ∈ d.keys, Inside owner ctx i := by
    intro i hi
    obtain ⟨a, _, rfl, ha⟩ := hd.mem_keys hi
    exact ha
  have hempty : AgreeOutside owner ctx d Dict.empty := by
    intro i hi
    cases hget : d.get? i with
    | none => rfl
    | some a => exact absurd (hseen i (d.mem_keys.2 ⟨a, hget⟩)) hi
  unfold addExtensionMatches
  split
  · exact hempty
  · rename_i l _
    have hall : l.filter (· ∉ (Dict.empty : Dict Int Account).keys) = l :=
      List.filter_eq_self.2 fun i _ => by simp [Dict.keys, Dict.empty]
    rw [hall]
    exact agree_extensions hserves hseen hempty

theorem agree_addAliasMatch {d e : Dict Int Account} (h : AgreeOutside owner ctx d e) :
    AgreeOutside owner ctx (A.addAliasMatch search d) (A.addAliasMatch search e) := by
  unfold addAliasMatch
  split
  · exact h
  · rename_i r _
    by_cases hr : Inside owner ctx r.iAccount
    · have hset : ∀ d : Dict Int Account, AgreeOutside owner ctx d
          (if r.iAccount ∈ d.keys then d else d.set r.iAccount r) := by
        intro d
        split
        · exact Dict.AgreeOn.refl _ d
        · exact Dict.agreeOn_set _ d (not_not_intro hr) r
      exact ((hset d).symm.trans h).trans (hset e)
    · have hkeys := h.mem_keys hr
      simp only [hkeys]
      split
      · exact h
      · exact h.set r.iAccount r

/-- The accounts of a table after the two lookups. -/
theorem addMatches_table {d : Dict Int Account} (hd : Table (fun _ => True) d) :
    Table (fun _ => True) (A.addAliasMatch search (A.addExtensionMatches ctx search d)) := by
  have hext : Table (fun _ => True) (A.addExtensionMatches ctx search d) := by
    unfold addExtensionMatches
    split
    · exact hd
    · exact hd.update fun _ _ => trivial
  unfold addAliasMatch
  split
  · exact hext
  · split
    · exact hext
    · exact Dict.All.set hext ⟨rfl, trivial⟩

/-- The search lists only the offices' accounts when the strays that it lists are theirs. -/
theorem searchSwitch_inside_iff (hserves : Serves owner A.adminApi) {extensions : List Int} {sms : Bool} {page n : Nat}
    {listing : Listing} (h : A.searchSwitch ctx search extensions sms page n = .ok listing) {P : Account → Prop} :
    (∀ a ∈ listing.accounts, P a → Inside owner ctx a.iAccount) ↔
      ∀ a ∈ (strays A ctx search).values, P a → Inside owner ctx a.iAccount := by
  simp only [searchSwitch, bind_ok, pure_ok] at h
  obtain ⟨⟨found, truncated, limit⟩, hfields, rfl⟩ := h
  have hinside : Table (Inside owner ctx ·.iAccount) found.accounts := searchFields_table hserves hfields
  dsimp only
  have agree : AgreeOutside owner ctx (A.addAliasMatch search (A.addExtensionMatches ctx search found.accounts))
      (strays A ctx search) := agree_addAliasMatch (agree_addExtensionMatches hserves hinside)
  have foundTable : Table (fun _ => True) found.accounts := fun i a ha => ⟨(hinside i a ha).1, trivial⟩
  have table : Table (fun _ => True)
      (A.addAliasMatch search (A.addExtensionMatches ctx search found.accounts)) := addMatches_table foundTable
  have strayTable : Table (fun _ => True) (strays A ctx search) := addMatches_table Table.empty
  constructor
  · intro hlist a ha hp
    by_contra hout
    exact hout (hlist a (mem_values_of_agree agree.symm strayTable ha hout) hp)
  · intro hstray a ha hp
    by_contra hout
    exact hout (hstray a (mem_values_of_agree agree table ha hout) hp)

end Adapter

end PortaPhone.Contacts
