import Mathlib
import PortaPhone.Contacts.Isolation
/-!
# What a search in the switch has in hand

`Searched` is what the switch answers to a search while its accounts do not change, with all rows of the field
queries in `rows`. The matches are then fixed (`Match`), but a page asks for rows up to a limit that grows with it,
and one that is full with a part of them stays with that part (`isPartial`). `mem_inHand`: every other page has all
matches in hand.
-/

namespace PortaPhone.Contacts

open Fallible Paging

namespace Adapter

variable (A : Adapter) (ctx : Context) (search : String) (rows : Int × SearchField → List Account)

/-! ## The matches -/

/-- The extensions' accounts whose number contains the search, as far as the list can be read. -/
def extensionMatches : List Int :=
  match A.adminApi.getExtensionsList ctx.mainICustomer ctx.isHierarchy >>= A.matchingExtensions search with
  | .ok iAccounts => iAccounts
  | .error _ => []

/-- An account that a field query or an extension leads to. -/
inductive Found (a : Account) : Prop
  | field {task} : task ∈ searchTasks ctx → a ∈ rows task → Found a
  | extension {i} : i ∈ A.extensionMatches ctx search → A.fetchAccount i = some a → Found a

/-- An account that the search finds: the owner of an alias counts when nothing else leads to its `i_account`. -/
inductive Match (a : Account) : Prop
  | found : A.Found ctx search rows a → Match a
  | did : A.aliasMatch search = some a → (∀ b, A.Found ctx search rows b → b.iAccount ≠ a.iAccount) → Match a

/-- A field query gives the first of its rows and their number, at most 1000; an account that is found is the
same record wherever it is found. -/
structure Searched : Prop where
  answer : ∀ task ∈ searchTasks ctx, ∀ limit, A.adminApi.getAccountList task.1
      { filter := some (task.2, "%" ++ search ++ "%"), limit := some limit, offset := some 0 } =
    .ok (some ⟨.val ((rows task).take limit), .val (rows task).length⟩)
  atMost : ∀ task ∈ searchTasks ctx, (rows task).length ≤ maxApiLimit
  fetched : ∀ i a, A.fetchAccount i = some a → a.iAccount = i
  same : ∀ a b, A.Found ctx search rows a → A.Found ctx search rows b → a.iAccount = b.iAccount → a = b

/-! ## What a page has in hand -/

/-- The rows of a round of the field queries. -/
def taken (limit : Nat) : List Account := (searchTasks ctx).flatMap fun task => (rows task).take limit

def longest : Nat := (searchTasks ctx).foldr (fun task n => max (rows task).length n) 0

def truncatedAt (limit : Nat) : Bool := (searchTasks ctx).any fun task => limit ≤ (rows task).length

def firstRound (limit : Nat) : Dict Int Account := Dict.empty.update (keyed (taken ctx rows limit))

def pageLimit (page n : Nat) : Nat := min (page * n + filterBuffer) maxApiLimit

variable (extensions : List Int) (sms : Bool)

/-- The account becomes a contact of the listing. -/
def shows (a : Account) : Bool := A.usable ctx extensions sms a = .ok true

/-- Of these accounts every one that passes the filters gives a contact. -/
def Built (accounts : List Account) : Prop :=
  ∀ a ∈ accounts, A.passesFilter ctx extensions a = true → ∃ contact, A.contactOf ctx a = .ok contact

variable (page n : Nat)

/-- A query has reached the limit of the page. -/
def isBounded : Bool := truncatedAt ctx rows (pageLimit page n) && pageLimit page n < maxApiLimit

/-- The page stays with the matches of its limit. -/
def isPartial : Bool :=
  isBounded ctx rows page n &&
    page * n < ((firstRound ctx rows (pageLimit page n)).values.filter (A.shows ctx extensions sms)).length

/-- `accounts_dict` after the field queries. -/
def foundFor : Dict Int Account :=
  let first := firstRound ctx rows (pageLimit page n)
  if isBounded ctx rows page n && !A.isPartial ctx rows extensions sms page n then
    first.update (keyed (taken ctx rows maxApiLimit))
  else first

/-- With the accounts of the extensions and of the alias. -/
def withLookups (found : Dict Int Account) : List Account :=
  (A.addAliasMatch search (A.addExtensionMatches ctx search found)).values

/-- The accounts in hand for a page. -/
def inHand : List Account := A.withLookups ctx search (A.foundFor ctx rows extensions sms page n)

/-- The accounts in hand with all rows. -/
def matchList : List Account := A.withLookups ctx search (firstRound ctx rows maxApiLimit)

/-! ## The rounds of the field queries -/

variable {A ctx search rows extensions sms page n}

theorem Searched.fetchField (h : A.Searched ctx search rows) {task : Int × SearchField} (htask : task ∈ searchTasks ctx)
    (limit : Nat) : A.fetchField search limit task = .ok ((rows task).take limit, ((rows task).length : Int)) := by
  simp only [Adapter.fetchField, h.answer task htask limit, Attr.rowsOrEmpty]
  rfl

theorem foldl_longest (rows : Int × SearchField → List Account) (limit : Nat) (tasks : List (Int × SearchField))
    {b : Int} (hb : 0 ≤ b) :
    (tasks.map fun task => ((rows task).take limit, ((rows task).length : Int))).foldl
        (fun total reply => max total reply.2) b =
      max b ((tasks.foldr (fun task n => max (rows task).length n) 0 : Nat) : Int) := by
  induction tasks generalizing b with
  | nil =>
    simp only [List.map_nil, List.foldl_nil, List.foldr_nil]
    omega
  | cons task tasks ih =>
    have hmax : 0 ≤ max b ((rows task).length : Int) := by omega
    simp only [List.map_cons, List.foldl_cons, List.foldr_cons, ih hmax]
    omega

theorem any_truncated (rows : Int × SearchField → List Account) (limit : Nat) (tasks : List (Int × SearchField)) :
    ((tasks.map fun task => ((rows task).take limit, ((rows task).length : Int))).any fun reply =>
        limit ≤ reply.1.length || (reply.1.length : Int) < reply.2) =
      tasks.any fun task => limit ≤ (rows task).length := by
  rw [List.any_map]
  congr 1
  funext task
  simp only [Function.comp_apply, List.length_take, ← Bool.decide_or]
  congr 1
  rw [eq_iff_iff]
  omega

theorem Searched.runFieldQueries (h : A.Searched ctx search rows) (limit : Nat) {found : FieldMatches}
    (htotal : 0 ≤ found.total) :
    A.runFieldQueries ctx search limit found =
      .ok ({ accounts := found.accounts.update (keyed (taken ctx rows limit)),
             total := max found.total (longest ctx rows) }, truncatedAt ctx rows limit) := by
  have hreplies : (searchTasks ctx).mapM (A.fetchField search limit) =
      .ok ((searchTasks ctx).map fun task => ((rows task).take limit, ((rows task).length : Int))) :=
    mapM_ok_map fun task htask => h.fetchField htask limit
  simp only [Adapter.runFieldQueries, bind_ok, pure_ok]
  refine ⟨_, hreplies, ?_⟩
  rw [foldl_longest rows limit _ htotal, any_truncated rows limit, List.flatMap_map]
  rfl

theorem Searched.longest_le (h : A.Searched ctx search rows) : longest ctx rows ≤ maxApiLimit := by
  suffices hfold : ∀ tasks : List (Int × SearchField), (∀ task ∈ tasks, (rows task).length ≤ maxApiLimit) →
      tasks.foldr (fun task n => max (rows task).length n) 0 ≤ maxApiLimit from hfold _ h.atMost
  intro tasks hall
  induction tasks with
  | nil => exact Nat.zero_le _
  | cons task tasks ih =>
    rw [List.foldr_cons]
    exact Nat.max_le.2 ⟨hall task List.mem_cons_self, ih fun t ht => hall t (List.mem_cons_of_mem _ ht)⟩

theorem found_of_taken {limit : Nat} {a : Account} (ha : a ∈ taken ctx rows limit) : A.Found ctx search rows a := by
  obtain ⟨task, htask, ha⟩ := List.mem_flatMap.1 ha
  exact .field htask (List.mem_of_mem_take ha)

theorem mem_taken_all {limit : Nat} (hlimit : ∀ task ∈ searchTasks ctx, (rows task).length ≤ limit) {a : Account} :
    a ∈ taken ctx rows limit ↔ ∃ task ∈ searchTasks ctx, a ∈ rows task := by
  simp only [taken, List.mem_flatMap]
  refine exists_congr fun task => and_congr_right fun htask => ?_
  rw [List.take_of_length_le (hlimit task htask)]

theorem firstRound_table (limit : Nat) : Table (A.Found ctx search rows) (firstRound ctx rows limit) :=
  Table.empty.update fun _ ha => found_of_taken ha

theorem foundFor_table : Table (A.Found ctx search rows) (A.foundFor ctx rows extensions sms page n) := by
  unfold foundFor
  dsimp only
  split
  · exact (firstRound_table _).update fun _ ha => found_of_taken ha
  · exact firstRound_table _

theorem Searched.mem_firstRound (h : A.Searched ctx search rows) {limit : Nat} {a : Account} :
    a ∈ (firstRound ctx rows limit).values ↔ a ∈ taken ctx rows limit := by
  have hempty : Table (A.Found ctx search rows) Dict.empty := Table.empty
  rw [firstRound, hempty.mem_values_update (fun _ ha => found_of_taken ha) h.same]
  simp [Dict.values, Dict.empty]

/-- The second round adds accounts to those of the first one. -/
theorem Searched.mem_secondRound (h : A.Searched ctx search rows) {limit limit' : Nat} {a : Account} :
    a ∈ ((firstRound ctx rows limit).update (keyed (taken ctx rows limit'))).values ↔
      a ∈ taken ctx rows limit ∨ a ∈ taken ctx rows limit' := by
  rw [(firstRound_table limit).mem_values_update (fun _ ha => found_of_taken ha) h.same, h.mem_firstRound]

/-- A page that no query bounds has every row after the first round. -/
theorem Searched.length_le_pageLimit (h : A.Searched ctx search rows) (hbounded : isBounded ctx rows page n = false)
    {task : Int × SearchField} (htask : task ∈ searchTasks ctx) : (rows task).length ≤ pageLimit page n := by
  have hmost := h.atMost task htask
  by_contra hlong
  have hreached : truncatedAt ctx rows (pageLimit page n) = true := by
    simp only [truncatedAt, List.any_eq_true, decide_eq_true_eq]
    exact ⟨task, htask, by omega⟩
  simp only [isBounded, hreached, Bool.true_and, decide_eq_false_iff_not] at hbounded
  omega

/-- A page that does not stay with a part has every row. -/
theorem Searched.mem_foundFor (h : A.Searched ctx search rows)
    (hall : A.isPartial ctx rows extensions sms page n = false) {a : Account} :
    a ∈ (A.foundFor ctx rows extensions sms page n).values ↔ ∃ task ∈ searchTasks ctx, a ∈ rows task := by
  unfold foundFor
  dsimp only
  cases hbounded : isBounded ctx rows page n with
  | true =>
    rw [if_pos (by simp [hall]), h.mem_secondRound, mem_taken_all h.atMost, or_iff_right_iff_imp]
    intro ha
    obtain ⟨task, htask, ha⟩ := List.mem_flatMap.1 ha
    exact ⟨task, htask, List.mem_of_mem_take ha⟩
  | false =>
    rw [if_neg (by simp), h.mem_firstRound]
    exact mem_taken_all fun task htask => h.length_le_pageLimit hbounded htask

/-- A page that stays with a part has the rows of its first round. -/
theorem foundFor_partial (hpart : A.isPartial ctx rows extensions sms page n = true) :
    A.foundFor ctx rows extensions sms page n = firstRound ctx rows (pageLimit page n) := by
  unfold foundFor
  dsimp only
  rw [hpart, Bool.not_true, Bool.and_false, if_neg Bool.false_ne_true]

/-! ## The lookups -/

theorem addExtensionMatches_eq (d : Dict Int Account) :
    A.addExtensionMatches ctx search d =
      d.update (keyed (((A.extensionMatches ctx search).filter (· ∉ d.keys)).filterMap A.fetchAccount)) := by
  unfold addExtensionMatches extensionMatches
  split
  · rename_i herror
    rw [herror]
    rfl
  · rename_i hok
    rw [hok]

theorem addAliasMatch_eq (d : Dict Int Account) :
    A.addAliasMatch search d =
      d.update (keyed ((A.aliasMatch search).toList.filter fun a => a.iAccount ∉ d.keys)) := by
  unfold addAliasMatch
  cases A.aliasMatch search with
  | none => rfl
  | some a =>
    by_cases hkey : a.iAccount ∈ d.keys
    · simp [hkey, keyed, Dict.update]
    · simp [hkey, keyed, Dict.update]

variable {d : Dict Int Account}

theorem extensions_found {a : Account}
    (ha : a ∈ ((A.extensionMatches ctx search).filter (· ∉ d.keys)).filterMap A.fetchAccount) :
    A.Found ctx search rows a := by
  obtain ⟨i, hi, ha⟩ := List.mem_filterMap.1 ha
  exact .extension (List.mem_of_mem_filter hi) ha

theorem addExtensionMatches_table (hd : Table (A.Found ctx search rows) d) :
    Table (A.Found ctx search rows) (A.addExtensionMatches ctx search d) := by
  rw [addExtensionMatches_eq]
  exact hd.update fun _ ha => extensions_found ha

theorem Searched.mem_addExtensionMatches (h : A.Searched ctx search rows) (hd : Table (A.Found ctx search rows) d)
    {a : Account} :
    a ∈ (A.addExtensionMatches ctx search d).values ↔
      a ∈ d.values ∨ ∃ i ∈ A.extensionMatches ctx search, A.fetchAccount i = some a := by
  rw [addExtensionMatches_eq, hd.mem_values_update (fun _ ha => extensions_found ha) h.same, List.mem_filterMap]
  constructor
  · rintro (ha | ⟨i, hi, ha⟩)
    · exact .inl ha
    · exact .inr ⟨i, List.mem_of_mem_filter hi, ha⟩
  · rintro (ha | ⟨i, hi, ha⟩)
    · exact .inl ha
    · by_cases hkey : i ∈ d.keys
      · obtain ⟨b, hb, heq, hfound⟩ := hd.mem_keys hkey
        have hsame := h.same b a hfound (.extension hi ha) (heq.trans (h.fetched i a ha).symm)
        exact .inl (hsame ▸ hb)
      · exact .inr ⟨i, List.mem_filter.2 ⟨hi, by simpa using hkey⟩, ha⟩

/-- The owner of the alias is added when its `i_account` is not there. -/
theorem mem_addAliasMatch (hd : Table (A.Found ctx search rows) d) {a : Account} :
    a ∈ (A.addAliasMatch search d).values ↔
      a ∈ d.values ∨ (A.aliasMatch search = some a ∧ a.iAccount ∉ d.keys) := by
  have hmem : ∀ b, b ∈ (A.aliasMatch search).toList.filter (fun b => b.iAccount ∉ d.keys) ↔
      A.aliasMatch search = some b ∧ b.iAccount ∉ d.keys := by
    intro b
    rw [List.mem_filter, Option.mem_toList, decide_eq_true_eq]
  have htable : Table (fun b => b ∈ d.values ∨ (A.aliasMatch search = some b ∧ b.iAccount ∉ d.keys)) d :=
    fun i b hb => ⟨(hd i b hb).1, .inl (d.mem_values.2 ⟨i, hb⟩)⟩
  have hkey : ∀ b ∈ d.values, b.iAccount ∈ d.keys := fun b hb => hd.keys_eq ▸ List.mem_map_of_mem hb
  rw [addAliasMatch_eq, htable.mem_values_update (fun b hb => .inr ((hmem b).1 hb)), hmem]
  rintro b c (hb | ⟨hb, hbnot⟩) (hc | ⟨hc, hcnot⟩) heq
  · exact hd.eq_of_values hb hc heq
  · exact absurd (heq ▸ hkey b hb) hcnot
  · exact absurd (heq ▸ hkey c hc) hbnot
  · exact Option.some.inj (hb.symm.trans hc)

theorem withLookups_nodup (hd : Table (A.Found ctx search rows) d) :
    ((A.withLookups ctx search d).map (·.iAccount)).Nodup := by
  have htable : Table (fun _ => True) (A.addAliasMatch search (A.addExtensionMatches ctx search d)) := by
    rw [addAliasMatch_eq]
    refine Table.update (fun i a ha => ?_) fun _ _ => trivial
    exact ⟨(addExtensionMatches_table hd i a ha).1, trivial⟩
  rw [withLookups]
  exact htable.values_nodup

/-- After the lookups a table with every row has the matches. -/
theorem Searched.mem_withLookups (h : A.Searched ctx search rows) (hd : Table (A.Found ctx search rows) d)
    (hrows : ∀ a, a ∈ d.values ↔ ∃ task ∈ searchTasks ctx, a ∈ rows task) {a : Account} :
    a ∈ A.withLookups ctx search d ↔ A.Match ctx search rows a := by
  have htable := addExtensionMatches_table hd
  have hfound : ∀ b, b ∈ (A.addExtensionMatches ctx search d).values ↔ A.Found ctx search rows b := by
    intro b
    rw [h.mem_addExtensionMatches hd, hrows]
    constructor
    · rintro (⟨task, htask, hb⟩ | ⟨i, hi, hb⟩)
      · exact .field htask hb
      · exact .extension hi hb
    · rintro (⟨htask, hb⟩ | ⟨hi, hb⟩)
      · exact .inl ⟨_, htask, hb⟩
      · exact .inr ⟨_, hi, hb⟩
  have hkeys : ∀ i, i ∈ (A.addExtensionMatches ctx search d).keys ↔
      ∃ b, A.Found ctx search rows b ∧ b.iAccount = i := by
    intro i
    rw [htable.keys_eq, List.mem_map]
    exact exists_congr fun b => and_congr_left fun _ => hfound b
  rw [withLookups, mem_addAliasMatch htable, hfound, hkeys]
  constructor
  · rintro (ha | ⟨ha, hnot⟩)
    · exact .found ha
    · exact .did ha fun b hb heq => hnot ⟨b, hb, heq⟩
  · rintro (ha | ⟨ha, hnot⟩)
    · exact .inl ha
    · exact .inr ⟨ha, fun ⟨b, hb, heq⟩ => hnot b hb heq⟩

theorem Searched.mem_matchList (h : A.Searched ctx search rows) {a : Account} :
    a ∈ A.matchList ctx search rows ↔ A.Match ctx search rows a :=
  h.mem_withLookups (firstRound_table _) fun _ => h.mem_firstRound.trans (mem_taken_all h.atMost)

theorem Searched.mem_inHand (h : A.Searched ctx search rows)
    (hall : A.isPartial ctx rows extensions sms page n = false) {a : Account} :
    a ∈ A.inHand ctx search rows extensions sms page n ↔ A.Match ctx search rows a :=
  h.mem_withLookups foundFor_table fun _ => h.mem_foundFor hall

theorem inHand_nodup (page n : Nat) : ((A.inHand ctx search rows extensions sms page n).map (·.iAccount)).Nodup := by
  have htable : Table (A.Found ctx search rows) (A.foundFor ctx rows extensions sms page n) := foundFor_table
  exact withLookups_nodup htable

theorem matchList_nodup : ((A.matchList ctx search rows).map (·.iAccount)).Nodup := by
  have htable : Table (A.Found ctx search rows) (firstRound ctx rows maxApiLimit) := firstRound_table _
  exact withLookups_nodup htable

/-- A page that does not stay with a part has the matches in hand, in its own order. -/
theorem Searched.inHand_perm (h : A.Searched ctx search rows)
    (hall : A.isPartial ctx rows extensions sms page n = false) :
    (A.inHand ctx search rows extensions sms page n).Perm (A.matchList ctx search rows) :=
  (List.perm_ext_iff_of_nodup (inHand_nodup page n).of_map matchList_nodup.of_map).2 fun _ =>
    (h.mem_inHand hall).trans h.mem_matchList.symm

/-- The lookups add accounts behind those of the field queries. -/
theorem Searched.withLookups_prefix (h : A.Searched ctx search rows) (d : Dict Int Account) :
    ∃ rest, A.withLookups ctx search d = d.values ++ rest := by
  obtain ⟨rest, hrest⟩ : ∃ rest, (A.addExtensionMatches ctx search d).entries = d.entries ++ rest := by
    rw [addExtensionMatches_eq]
    apply Dict.update_prefix
    intro e he
    obtain ⟨a, ha, rfl⟩ := List.mem_map.1 he
    obtain ⟨i, hi, ha⟩ := List.mem_filterMap.1 ha
    have hnew := (List.mem_filter.1 hi).2
    rw [← h.fetched i a ha] at hnew
    simpa using hnew
  obtain ⟨rest', hrest'⟩ : ∃ rest', (A.addAliasMatch search (A.addExtensionMatches ctx search d)).entries =
      (A.addExtensionMatches ctx search d).entries ++ rest' := by
    rw [addAliasMatch_eq]
    apply Dict.update_prefix
    intro e he
    obtain ⟨a, ha, rfl⟩ := List.mem_map.1 he
    have hnew := (List.mem_filter.1 ha).2
    simpa using hnew
  refine ⟨rest.map Prod.snd ++ rest'.map Prod.snd, ?_⟩
  rw [withLookups, Dict.values, hrest', hrest, List.map_append, List.map_append, List.append_assoc]
  rfl

/-! ## The answer for a page -/

theorem usable_eq {a : Account}
    (h : A.passesFilter ctx extensions a = true → ∃ contact, A.contactOf ctx a = .ok contact) :
    A.usable ctx extensions sms a = .ok (A.shows ctx extensions sms a) := by
  have hok : ∃ b, A.usable ctx extensions sms a = .ok b := by
    unfold usable
    by_cases hpasses : A.passesFilter ctx extensions a = true
    · obtain ⟨contact, hcontact⟩ := h hpasses
      obtain ⟨numbers, hnumbers, _⟩ := contactOf_sms hcontact
      rw [if_pos hpasses]
      cases sms with
      | false => exact ⟨true, rfl⟩
      | true => exact ⟨_, by simp only [hnumbers]; rfl⟩
    · rw [if_neg hpasses]
      exact ⟨false, rfl⟩
  obtain ⟨b, hb⟩ := hok
  cases b <;> simp [shows, hb]

theorem passesFilter_of_shows {a : Account} (h : A.shows ctx extensions sms a = true) :
    A.passesFilter ctx extensions a = true := by
  by_contra hfalse
  simp [shows, usable, hfalse, pure, Except.pure] at h

/-- The contact is kept when only those with SMS numbers are asked for. -/
def keptContact (sms : Bool) (contact : ContactInfo) : Bool := !sms || contact.numbers.sms.getD [] ≠ []

theorem smsOnly_eq_filter (items : List ContactInfo) : smsOnly sms items = items.filter (keptContact sms) := by
  unfold smsOnly
  cases sms with
  | false => exact (List.filter_eq_self.2 fun _ _ => rfl).symm
  | true => exact List.filter_congr fun c _ => by simp [keptContact]

theorem shows_eq {a : Account} {contact : ContactInfo} (h : A.contactOf ctx a = .ok contact) :
    A.shows ctx extensions sms a = (A.passesFilter ctx extensions a && keptContact sms contact) := by
  rw [Bool.eq_iff_iff, shows, decide_eq_true_eq, usable_iff h, smsOnly_eq_filter]
  simp

theorem count_map_true {α : Type} (p : α → Bool) (l : List α) : (l.map p).count true = (l.filter p).length := by
  rw [List.count, List.countP_map, List.countP_eq_length_filter]
  congr 2
  funext a
  simp

theorem Searched.searchFields (h : A.Searched ctx search rows)
    (hbuilt : isBounded ctx rows page n = true → A.Built ctx extensions (A.matchList ctx search rows)) :
    ∃ truncated fetchLimit, A.searchFields ctx search extensions sms page n =
        .ok ({ accounts := A.foundFor ctx rows extensions sms page n, total := longest ctx rows },
          truncated, fetchLimit) ∧
      (truncated && decide (fetchLimit < maxApiLimit)) = A.isPartial ctx rows extensions sms page n := by
  have hfirst : A.runFieldQueries ctx search (pageLimit page n) {} =
      .ok ({ accounts := firstRound ctx rows (pageLimit page n), total := longest ctx rows },
        truncatedAt ctx rows (pageLimit page n)) := by
    have hmax : max 0 (longest ctx rows : Int) = longest ctx rows := by omega
    rw [h.runFieldQueries _ le_rfl, hmax]
    rfl
  have hsecond : A.runFieldQueries ctx search maxApiLimit
      { accounts := firstRound ctx rows (pageLimit page n), total := longest ctx rows } =
      .ok ({ accounts := (firstRound ctx rows (pageLimit page n)).update (keyed (taken ctx rows maxApiLimit)),
             total := longest ctx rows }, truncatedAt ctx rows maxApiLimit) := by
    rw [h.runFieldQueries _ (by simp), max_self]
  unfold Adapter.searchFields foundFor
  dsimp only
  rw [← pageLimit, hfirst]
  dsimp only [bind, Except.bind]
  rw [← isBounded]
  cases hbounded : isBounded ctx rows page n with
  | true =>
    have husable : (firstRound ctx rows (pageLimit page n)).values.mapM (A.usable ctx extensions sms) =
        .ok ((firstRound ctx rows (pageLimit page n)).values.map (A.shows ctx extensions sms)) :=
      mapM_ok_map fun a ha =>
        usable_eq (hbuilt hbounded a (h.mem_matchList.2 (.found ((firstRound_table _).values ha))))
    rw [husable]
    dsimp only
    rw [count_map_true]
    by_cases hfew :
      ((firstRound ctx rows (pageLimit page n)).values.filter (A.shows ctx extensions sms)).length ≤ page * n
    · have hpart : A.isPartial ctx rows extensions sms page n = false := by
        simp [isPartial, hfew]
      rw [if_pos rfl, if_pos hfew, hsecond, hpart]
      exact ⟨_, _, rfl, by simp⟩
    · have hpart : A.isPartial ctx rows extensions sms page n = true := by
        simp [isPartial, hbounded, Nat.lt_of_not_le hfew]
      rw [if_pos rfl, if_neg hfew, hpart]
      exact ⟨_, _, rfl, hbounded⟩
  | false =>
    have hpart : A.isPartial ctx rows extensions sms page n = false := by
      simp [isPartial, hbounded]
    rw [if_neg (by simp), hpart]
    exact ⟨_, _, rfl, hbounded⟩

/-- The listing of a page: the accounts in hand. -/
theorem Searched.listing (h : A.Searched ctx search rows) (hsearch : search ≠ "")
    (hcache : (sms && decide (0 < A.settings.contactsCacheTtl)) = false)
    (hbuilt : isBounded ctx rows page n = true → A.Built ctx extensions (A.matchList ctx search rows)) :
    ∃ listing, A.listAccounts ctx (some search) extensions sms page n = .ok listing ∧
      listing.accounts = A.inHand ctx search rows extensions sms page n ∧ listing.searchTotal = longest ctx rows ∧
        (listing.truncated && decide (listing.fetchLimit < maxApiLimit)) =
          A.isPartial ctx rows extensions sms page n := by
  obtain ⟨truncated, fetchLimit, hfields, hpart⟩ :
    ∃ truncated fetchLimit, A.searchFields ctx search extensions sms page n =
        .ok ({ accounts := A.foundFor ctx rows extensions sms page n, total := longest ctx rows },
          truncated, fetchLimit) ∧
      (truncated && decide (fetchLimit < maxApiLimit)) = A.isPartial ctx rows extensions sms page n :=
    h.searchFields hbuilt
  have hneedle : (some search).filter (· ≠ "") = some search := by simp [hsearch]
  refine ⟨{ accounts := A.inHand ctx search rows extensions sms page n, searchTotal := longest ctx rows, truncated,
            fetchLimit }, ?_, by dsimp only, by dsimp only, by dsimp only; exact hpart⟩
  unfold listAccounts searchSwitch
  rw [hneedle]
  dsimp only
  rw [hcache, if_neg Bool.false_ne_true, hfields, inHand, withLookups]
  dsimp only [bind, Except.bind, pure, Except.pure]

/-- The total that a page gives with so many contacts in hand. -/
def pageTotal (A : Adapter) (ctx : Context) (search : String) (rows : Int × SearchField → List Account)
    (extensions : List Int) (sms : Bool) (page n contacts : Nat) : Int :=
  if A.isPartial ctx rows extensions sms page n then
    contacts + max ((longest ctx rows : Int) - (A.inHand ctx search rows extensions sms page n).length) 0
  else contacts

section Contacts

variable {contact : Account → ContactInfo} {caller : Caller} {custom : List ContactInfo}

/-- The contact of every account that has one. -/
def ContactsAre (A : Adapter) (ctx : Context) (contact : Account → ContactInfo) : Prop :=
  ∀ a, (∃ c, A.contactOf ctx a = .ok c) → A.contactOf ctx a = .ok (contact a)

theorem exists_contact (A : Adapter) (ctx : Context) : ∃ contact, A.ContactsAre ctx contact := by
  have : Nonempty ContactInfo := ⟨{ numbers := { main := "" } }⟩
  choose! contact hcontact using fun (a : Account) (h : ∃ c, A.contactOf ctx a = .ok c) => h
  exact ⟨contact, hcontact⟩

theorem mapM_contacts (hcontact : A.ContactsAre ctx contact)
    {accounts : List Account} (hbuilt : A.Built ctx extensions accounts) :
    (accounts.filter (A.passesFilter ctx extensions)).mapM (A.contactOf ctx) =
      .ok ((accounts.filter (A.passesFilter ctx extensions)).map contact) :=
  mapM_ok_map fun a ha => hcontact a (hbuilt a (List.mem_of_mem_filter ha) (List.of_mem_filter ha))

theorem smsOnly_contacts (hcontact : A.ContactsAre ctx contact)
    {accounts : List Account} (hbuilt : A.Built ctx extensions accounts) (items : List ContactInfo) :
    smsOnly sms ((accounts.filter (A.passesFilter ctx extensions)).map contact ++ items) =
      (accounts.filter (A.shows ctx extensions sms)).map contact ++ smsOnly sms items := by
  rw [smsOnly_eq_filter, smsOnly_eq_filter, List.filter_append, List.filter_map, List.filter_filter]
  congr 2
  apply List.filter_congr
  intro a ha
  by_cases hpasses : A.passesFilter ctx extensions a = true
  · rw [shows_eq (hcontact a (hbuilt a ha hpasses))]
    exact Bool.and_comm _ _
  · have hhidden : A.shows ctx extensions sms a = false :=
      Bool.eq_false_iff.2 fun hshows => hpasses (passesFilter_of_shows hshows)
    rw [hhidden, Bool.eq_false_iff.2 hpasses, Bool.and_false]

/-- The contacts of these accounts that the listing shows, then the custom ones that match. -/
def shownContacts (A : Adapter) (ctx : Context) (search : String) (extensions : List Int) (sms : Bool)
    (contact : Account → ContactInfo) (custom : List ContactInfo) (accounts : List Account) : List ContactInfo :=
  (accounts.filter (A.shows ctx extensions sms)).map contact ++ smsOnly sms (custom.filter (A.customMatches search))

/-- The custom contacts that a search keeps. -/
def customFor (A : Adapter) (search? : Option String) (custom : List ContactInfo) : List ContactInfo :=
  match search?.filter (· ≠ "") with
  | none => custom
  | some search => custom.filter (A.customMatches search)

theorem customFor_search (hsearch : search ≠ "") :
    A.customFor (some search) custom = custom.filter (A.customMatches search) := by
  have hneedle : (some search).filter (· ≠ "") = some search := by simp [hsearch]
  rw [customFor, hneedle]

/-- The directory of a listing: the contacts of its accounts that are shown, then the custom ones. -/
theorem directory_of_listing {search? : Option String} {listing : Listing}
    (hlisting : A.listAccounts ctx search? extensions sms page n = .ok listing)
    (hcontact : A.ContactsAre ctx contact)
    (hext : A.extensionIAccounts ctx = .ok extensions) (hcustom : A.customContacts = .ok custom)
    (hbuilt : A.Built ctx extensions listing.accounts) :
    A.directory ctx search? sms page n =
      .ok ((listing.accounts.filter (A.shows ctx extensions sms)).map contact ++
          smsOnly sms (A.customFor search? custom),
        totalCount listing (A.customFor search? custom).length
          ((listing.accounts.filter (A.shows ctx extensions sms)).map contact ++
            smsOnly sms (A.customFor search? custom)).length) := by
  rw [← smsOnly_contacts hcontact hbuilt]
  cases hneedle : search?.filter (· ≠ "") with
  | none =>
    simp only [Adapter.directory, customFor, hneedle, hcustom, hext, hlisting, mapM_contacts hcontact hbuilt, bind,
      Except.bind, pure, Except.pure]
  | some needle =>
    simp only [Adapter.directory, customFor, hneedle, hcustom, hext, hlisting, mapM_contacts hcontact hbuilt, bind,
      Except.bind, pure, Except.pure]

/-- A listing that is answered has contacts of all its accounts that pass the filters. -/
theorem built_of_listing {search? : Option String} {listing : Listing}
    (hlisting : A.listAccounts ctx search? extensions sms page n = .ok listing)
    (hext : A.extensionIAccounts ctx = .ok extensions) {result : List ContactInfo × Int}
    (hresult : A.directory ctx search? sms page n = .ok result) : A.Built ctx extensions listing.accounts := by
  obtain ⟨extensions', listing', contacts, _, hext', hlisting', hcontacts, _, _⟩ := directory_ok hresult
  obtain rfl := Except.ok.inj (hext.symm.trans hext')
  obtain rfl := Except.ok.inj (hlisting.symm.trans hlisting')
  intro a ha hpasses
  obtain ⟨c, _, hc⟩ := mem_of_mapM hcontacts (List.mem_filter.2 ⟨ha, hpasses⟩)
  exact ⟨c, hc⟩

/-- A search that goes to the switch, its caller's extensions and custom contacts, and the contacts of accounts. -/
structure SearchRequest (A : Adapter) (ctx : Context) (search : String) (rows : Int × SearchField → List Account)
    (extensions : List Int) (sms : Bool) (custom : List ContactInfo) (contact : Account → ContactInfo) : Prop where
  searched : A.Searched ctx search rows
  accountInfo : ∃ caller, A.accountInfo = .ok caller ∧ A.context caller = ctx
  extensions : A.extensionIAccounts ctx = .ok extensions
  custom : A.customContacts = .ok custom
  search : search ≠ ""
  uncached : (sms && decide (0 < A.settings.contactsCacheTtl)) = false
  contacts : A.ContactsAre ctx contact

namespace SearchRequest

/-- The directory of a search: the contacts of the accounts in hand, then the custom ones. -/
theorem directory (h : A.SearchRequest ctx search rows extensions sms custom contact)
    (hbuilt : isBounded ctx rows page n = true → A.Built ctx extensions (A.matchList ctx search rows))
    (hbuiltInHand : A.Built ctx extensions (A.inHand ctx search rows extensions sms page n)) :
    A.directory ctx (some search) sms page n =
      .ok (A.shownContacts ctx search extensions sms contact custom (A.inHand ctx search rows extensions sms page n),
        A.pageTotal ctx search rows extensions sms page n
          (A.shownContacts ctx search extensions sms contact custom
            (A.inHand ctx search rows extensions sms page n)).length) := by
  obtain ⟨listing, hlisting, haccounts, htotal, hpart⟩ := h.searched.listing h.search h.uncached hbuilt
  rw [← haccounts] at hbuiltInHand
  rw [directory_of_listing hlisting h.contacts h.extensions h.custom hbuiltInHand, customFor_search h.search, haccounts,
    ← shownContacts]
  have hlongest := h.searched.longest_le
  unfold totalCount pageTotal
  rw [hpart, htotal, haccounts]
  split
  · simp only [shownContacts, Except.ok.injEq, Prod.mk.injEq, true_and]
    omega
  · rfl

/-- A page that is answered has contacts of all accounts in hand that pass the filters. -/
theorem built_of_directory (h : A.SearchRequest ctx search rows extensions sms custom contact)
    (hbuilt : isBounded ctx rows page n = true → A.Built ctx extensions (A.matchList ctx search rows))
    {result : List ContactInfo × Int} (hresult : A.directory ctx (some search) sms page n = .ok result) :
    A.Built ctx extensions (A.inHand ctx search rows extensions sms page n) := by
  obtain ⟨listing, hlisting, haccounts, _⟩ := h.searched.listing h.search h.uncached hbuilt
  rw [← haccounts]
  exact built_of_listing hlisting h.extensions hresult

end SearchRequest

end Contacts

end Adapter

end PortaPhone.Contacts
