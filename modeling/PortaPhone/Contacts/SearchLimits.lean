import Mathlib
import PortaPhone.Contacts.SearchPages
/-!
# Searches whose pages agree

`PagesFit` tells from the rows of the field queries, the filters and the size of a page that going through the pages
of a search without the cache is right (`search_pages_right`): no query is bounded by the limit of a page, or one page
has room for every match, or nothing is left out by the filters and one query has all matches, or the first page has
them in hand. Where nothing is left out the other searches go wrong.
-/

namespace PortaPhone.Contacts

open Fallible Paging

namespace Adapter

section Fit

variable (A : Adapter) (ctx : Context) (search : String) (rows : Int × SearchField → List Account)
  (extensions : List Int) (sms : Bool) (n : Nat)

/-- Every match that passes the filters gives a contact. -/
def MatchesBuilt : Prop := ∀ a, A.Match ctx search rows a → A.passesFilter ctx extensions a = true →
  ∃ contact, A.contactOf ctx a = .ok contact

/-- Every account that the search leads to gives a contact that is shown. -/
def NoneLeftOut : Prop := ∀ a, A.Found ctx search rows a ∨ A.aliasMatch search = some a →
  A.shows ctx extensions sms a = true ∧ ∃ contact, A.contactOf ctx a = .ok contact

/-- One field query has every match among its rows. -/
def OneQuery : Prop := ∃ task ∈ searchTasks ctx, ∀ a, A.Match ctx search rows a → a ∈ rows task

/-- The first rows of a query or a lookup lead to the account. -/
def Near (limit : Nat) (b : Account) : Prop :=
  (∃ task ∈ searchTasks ctx, b ∈ (rows task).take limit) ∨
    (∃ i ∈ A.extensionMatches ctx search, A.fetchAccount i = some b) ∨ A.aliasMatch search = some b

/-- What the pages of a search need to agree, in terms of what the switch has to list. -/
inductive PagesFit : Prop
  | unbounded (hbuilt : A.MatchesBuilt ctx search rows extensions)
      (hrows : maxApiLimit ≤ n + filterBuffer ∨ ∀ task ∈ searchTasks ctx,
        (rows task).length < n + filterBuffer) : PagesFit
  | onePage (hbuilt : A.MatchesBuilt ctx search rows extensions) (shown : List Account) (hlength : shown.length ≤ n)
      (hshown : ∀ a, A.Match ctx search rows a → A.shows ctx extensions sms a = true → a ∈ shown) : PagesFit
  | oneQuery (hall : A.NoneLeftOut ctx search rows extensions sms) (hone : A.OneQuery ctx search rows) : PagesFit
  | allNear (hall : A.NoneLeftOut ctx search rows extensions sms)
      (hnear : ∀ a, A.Match ctx search rows a → ∃ b, A.Near ctx search rows (n + filterBuffer) b ∧
        b.iAccount = a.iAccount) :
      PagesFit

end Fit

variable {A : Adapter} {ctx : Context} {search : String} {rows : Int × SearchField → List Account}
  {extensions : List Int} {sms : Bool} {page n : Nat}

/-! ## Pages that are not bounded -/

theorem Searched.built (h : A.Searched ctx search rows) (hbuilt : A.MatchesBuilt ctx search rows extensions) :
    A.Built ctx extensions (A.matchList ctx search rows) :=
  fun a ha => hbuilt a (h.mem_matchList.1 ha)

theorem isBounded_iff : isBounded ctx rows page n = true ↔
    page * n + filterBuffer < maxApiLimit ∧ ∃ task ∈ searchTasks ctx, page * n + filterBuffer ≤ (rows task).length := by
  simp only [isBounded, truncatedAt, Bool.and_eq_true, List.any_eq_true, decide_eq_true_eq]
  unfold pageLimit
  constructor
  · rintro ⟨⟨task, htask, hreached⟩, hlimit⟩
    exact ⟨by omega, task, htask, by omega⟩
  · rintro ⟨hlimit, task, htask, hreached⟩
    exact ⟨⟨task, htask, by omega⟩, by omega⟩

theorem le_mul_page (hpage : 1 ≤ page) (n : Nat) : n ≤ page * n := Nat.le_mul_of_pos_left n hpage

theorem not_bounded
    (hrows : maxApiLimit ≤ n + filterBuffer ∨ ∀ task ∈ searchTasks ctx, (rows task).length < n + filterBuffer)
    (hpage : 1 ≤ page) : isBounded ctx rows page n = false := by
  have hmul := le_mul_page hpage n
  by_contra hbounded
  obtain ⟨hlimit, task, htask, hreached⟩ := isBounded_iff.1 (Bool.not_eq_false _ ▸ hbounded)
  rcases hrows with hlarge | hfew
  · omega
  · have hlength := hfew task htask
    omega

/-- A page that no query bounds has the matches in one order. -/
theorem Searched.inHand_unbounded (h : A.Searched ctx search rows) (hbounded : isBounded ctx rows page n = false) :
    A.inHand ctx search rows extensions sms page n = A.matchList ctx search rows := by
  have htaken : taken ctx rows (pageLimit page n) = taken ctx rows maxApiLimit :=
    List.flatMap_congr fun task htask => by
    rw [List.take_of_length_le (h.length_le_pageLimit hbounded htask), List.take_of_length_le (h.atMost task htask)]
  simp only [inHand, matchList, foundFor, firstRound, hbounded, htaken, Bool.false_and, Bool.false_eq_true, if_false]

theorem Searched.pagesAgree_unbounded (h : A.Searched ctx search rows)
    (hbuilt : A.MatchesBuilt ctx search rows extensions)
    (hbounded : ∀ page, 1 ≤ page → isBounded ctx rows page n = false) :
    A.PagesAgree ctx search rows extensions sms n where
  built := h.built hbuilt
  builtInHand page hpage := by
    rw [h.inHand_unbounded (hbounded page hpage)]
    exact h.built hbuilt
  counts page hpage hpart := by
    rw [isPartial, hbounded page hpage, Bool.false_and] at hpart
    cases hpart
  places page page' hpage hlt := by
    rw [h.inHand_unbounded (hbounded page hpage), h.inHand_unbounded (hbounded page' (by omega))]
    exact disjoint_pageOf (matchList_nodup.of_map.filter _) hpage hlt

/-! ## Matches that fit on one page -/

theorem length_shown_le {shown : List Account}
    (hshown : ∀ a, A.Match ctx search rows a → A.shows ctx extensions sms a = true → a ∈ shown)
    {accounts : List Account}
    (hnodup : (accounts.map (·.iAccount)).Nodup) (hmatch : ∀ a ∈ accounts, A.Match ctx search rows a) :
    (accounts.filter (A.shows ctx extensions sms)).length ≤ shown.length := by
  refine (List.subperm_of_subset (hnodup.of_map.filter _) fun a ha => ?_).length_le
  exact hshown a (hmatch a (List.mem_of_mem_filter ha)) (List.of_mem_filter ha)

theorem Searched.pagesAgree_onePage (h : A.Searched ctx search rows)
    (hbuilt : A.MatchesBuilt ctx search rows extensions)
    {shown : List Account} (hlength : shown.length ≤ n)
    (hshown : ∀ a, A.Match ctx search rows a → A.shows ctx extensions sms a = true → a ∈ shown) :
    A.PagesAgree ctx search rows extensions sms n := by
  have hpart : ∀ page, 1 ≤ page → A.isPartial ctx rows extensions sms page n = false := by
    intro page hpage
    have htable : Table (A.Found ctx search rows) (firstRound ctx rows (pageLimit page n)) := firstRound_table _
    have hle := length_shown_le hshown htable.values_nodup fun a ha => .found (htable.values ha)
    have hmul := le_mul_page hpage n
    have hnot :
        ¬ page * n < ((firstRound ctx rows (pageLimit page n)).values.filter (A.shows ctx extensions sms)).length := by
      omega
    rw [isPartial, decide_eq_false hnot, Bool.and_false]
  refine ⟨h.built hbuilt, fun page hpage a ha => ?_, fun page hpage htrue => ?_, fun page page' hpage hlt => ?_⟩
  · exact hbuilt a ((h.mem_inHand (hpart page hpage)).1 ha)
  · rw [hpart page hpage] at htrue
    cases htrue
  · have hle := length_shown_le hshown (inHand_nodup page' n) fun a ha => (h.mem_inHand (hpart page' (by omega))).1 ha
    have hmul : n ≤ (page' - 1) * n := le_mul_page (by omega) n
    have hnil : pageOf page' n ((A.inHand ctx search rows extensions sms page' n).filter (A.shows ctx extensions sms)) =
        [] := by
      rw [pageOf, List.drop_of_length_le (by omega), List.take_nil]
    rw [hnil]
    exact List.disjoint_nil_right _

/-! ## The order of the matches -/

theorem prefix_of_map {α β : Type} {f : α → β} {l k : List α} (hf : ∀ a ∈ l, ∀ b ∈ k, f a = f b → a = b)
    (h : l.map f <+: k.map f) : l <+: k := by
  induction l generalizing k with
  | nil => exact List.nil_prefix
  | cons a l ih =>
    cases k with
    | nil => exact absurd (List.prefix_nil.1 h) (List.cons_ne_nil _ _)
    | cons b k =>
      obtain ⟨hab, hrest⟩ := List.cons_prefix_cons.1 h
      obtain rfl := hf a List.mem_cons_self b List.mem_cons_self hab
      exact List.cons_prefix_cons.2
        ⟨rfl, ih (fun c hc d hd => hf c (List.mem_cons_of_mem _ hc) d (List.mem_cons_of_mem _ hd)) hrest⟩

/-- Where an `i_account` stands for one record, what is added comes behind. -/
theorem values_prefix {P : Account → Prop} {d : Dict Int Account} {l : List Account}
    (hd : Table P d) (hl : ∀ a ∈ l, P a)
    (hone : ∀ a b, P a → P b → a.iAccount = b.iAccount → a = b) : d.values <+: (d.update (keyed l)).values := by
  refine prefix_of_map (fun a ha b hb => hone a b (hd.values ha) ((hd.update hl).values hb)) ?_
  rw [← hd.keys_eq, ← (hd.update hl).keys_eq]
  exact Dict.keys_prefix_update d (keyed l)

theorem exists_first {α : Type} {p : α → Prop} {l : List α} (h : ∃ a ∈ l, p a) :
    ∃ before a behind, l = before ++ a :: behind ∧ (∀ b ∈ before, ¬ p b) ∧ p a := by
  induction l with
  | nil =>
    obtain ⟨a, ha, -⟩ := h
    cases ha
  | cons b l ih =>
    by_cases hb : p b
    · exact ⟨[], b, l, rfl, fun _ hmem => absurd hmem List.not_mem_nil, hb⟩
    · obtain ⟨a, ha, hp⟩ := h
      rcases List.mem_cons.1 ha with rfl | ha
      · exact absurd hp hb
      obtain ⟨before, c, behind, rfl, hbefore, hc⟩ := ih ⟨a, ha, hp⟩
      refine ⟨b :: before, c, behind, rfl, ?_, hc⟩
      rintro d (_ | ⟨_, hd⟩)
      · exact hb
      · exact hbefore d hd

/-- The rows of a limit that a query reaches begin as all rows do: with the queries before that one and its own rows. -/
theorem taken_common {limit : Nat} (hlimit : limit ≤ maxApiLimit)
    (hreached : ∃ task ∈ searchTasks ctx, limit ≤ (rows task).length) :
    ∃ common x y, taken ctx rows limit = common ++ x ∧ taken ctx rows maxApiLimit = common ++ y ∧
      ∃ task ∈ searchTasks ctx, limit ≤ (rows task).length ∧ ∀ a ∈ (rows task).take limit, a ∈ common := by
  obtain ⟨before, task, behind, htasks, hbefore, htask⟩ := exists_first hreached
  have hfirst : before.flatMap (fun task => (rows task).take limit) =
      before.flatMap fun task => (rows task).take maxApiLimit := List.flatMap_congr fun t ht => by
    have hlength := hbefore t ht
    rw [List.take_of_length_le (by omega), List.take_of_length_le (by omega)]
  obtain ⟨rest, hmore⟩ : ∃ rest, (rows task).take maxApiLimit = (rows task).take limit ++ rest := by
    have hsplit := List.take_append_drop limit ((rows task).take maxApiLimit)
    rw [List.take_take, min_eq_left hlimit] at hsplit
    exact ⟨_, hsplit.symm⟩
  refine ⟨before.flatMap (fun task => (rows task).take maxApiLimit) ++ (rows task).take limit,
    behind.flatMap fun task => (rows task).take limit,
    rest ++ behind.flatMap fun task => (rows task).take maxApiLimit, ?_, ?_,
    task, ?_, htask, fun a ha => List.mem_append_right _ ha⟩
  · rw [taken, htasks, List.flatMap_append, List.flatMap_cons, hfirst, List.append_assoc]
  · rw [taken, htasks, List.flatMap_append, List.flatMap_cons, hmore]
    simp only [List.append_assoc]
  · rw [htasks]
    exact List.mem_append_right _ List.mem_cons_self

section Listed

variable (hrows : ∀ task ∈ searchTasks ctx, ((rows task).map (·.iAccount)).Nodup)

include hrows

/-- A query that reaches the limit leads to so many accounts. -/
theorem le_length_of_take {limit : Nat} {task : Int × SearchField} (htask : task ∈ searchTasks ctx)
    (hreached : limit ≤ (rows task).length) {accounts : List Account} (h : ∀ a ∈ (rows task).take limit, a ∈ accounts) :
    limit ≤ accounts.length := by
  have hnodup : ((rows task).take limit).Nodup := (hrows task htask).of_map.sublist (List.take_sublist _ _)
  have hle := (List.subperm_of_subset hnodup h).length_le
  rwa [List.length_take, min_eq_left hreached] at hle

/-- The accounts of a limit that a query reaches and all accounts begin with the same ones, as many as the limit. -/
theorem Searched.firstRound_common (h : A.Searched ctx search rows) {limit : Nat} (hlimit : limit ≤ maxApiLimit)
    (hreached : ∃ task ∈ searchTasks ctx, limit ≤ (rows task).length) :
    ∃ common x y, (firstRound ctx rows limit).values = common ++ x ∧
      (firstRound ctx rows maxApiLimit).values = common ++ y ∧ limit ≤ common.length := by
  obtain ⟨common, x, y, hx, hy, task, htask, hlong, hmem⟩ := taken_common hlimit hreached
  have hfound : ∀ {limit'}, ∀ a ∈ taken ctx rows limit', A.Found ctx search rows a := fun _ ha => found_of_taken ha
  have hcommon : ∀ a ∈ common, A.Found ctx search rows a := fun a ha => hfound a (hx ▸ List.mem_append_left x ha)
  have hempty : Table (A.Found ctx search rows) Dict.empty := Table.empty
  have htable := hempty.update hcommon
  have hround : ∀ {limit' z}, taken ctx rows limit' = common ++ z → (Dict.empty.update (keyed common)).values <+:
      (firstRound ctx rows limit').values := by
    intro limit' z hz
    have hkeyed : keyed (common ++ z) = keyed common ++ keyed z := List.map_append
    rw [firstRound, hz, hkeyed, Dict.update_append]
    exact values_prefix htable (fun a ha => hfound a (hz ▸ List.mem_append_right common ha)) h.same
  obtain ⟨x', hx'⟩ := hround hx
  obtain ⟨y', hy'⟩ := hround hy
  refine ⟨_, x', y', hx'.symm, hy'.symm, le_length_of_take hrows htask hlong fun a ha => ?_⟩
  rw [hempty.mem_values_update hcommon h.same]
  exact .inr (hmem a ha)

end Listed

/-! ## How many accounts are in hand -/

theorem length_le_of_iAccounts {l k : List Account} (hl : (l.map (·.iAccount)).Nodup)
    (h : ∀ a ∈ l, a.iAccount ∈ k.map (·.iAccount)) : l.length ≤ k.length := by
  have hsubset : l.map (·.iAccount) ⊆ k.map (·.iAccount) := by
    intro i hi
    obtain ⟨a, ha, rfl⟩ := List.mem_map.1 hi
    exact h a ha
  have hle := (List.subperm_of_subset hl hsubset).length_le
  rwa [List.length_map, List.length_map] at hle

theorem Near.mono {limit limit' : Nat} (hle : limit ≤ limit') {b : Account} (h : A.Near ctx search rows limit b) :
    A.Near ctx search rows limit' b := by
  rcases h with ⟨task, htask, hb⟩ | h
  · exact .inl ⟨task, htask, List.take_subset_take_left _ hle hb⟩
  · exact .inr h

theorem Searched.near_of_mem (h : A.Searched ctx search rows) {limit : Nat} {a : Account}
    (ha : a ∈ A.withLookups ctx search (firstRound ctx rows limit)) : A.Near ctx search rows limit a := by
  have htable : Table (A.Found ctx search rows) (firstRound ctx rows limit) := firstRound_table limit
  rcases (mem_addAliasMatch (addExtensionMatches_table htable)).1 ha with ha | ⟨ha, -⟩
  · rcases (h.mem_addExtensionMatches htable).1 ha with ha | ha
    · exact .inl (List.mem_flatMap.1 (h.mem_firstRound.1 ha))
    · exact .inr (.inl ha)
  · exact .inr (.inr ha)

/-- Of the owner of the alias another record may be in hand. -/
theorem Searched.iAccount_mem_of_near (h : A.Searched ctx search rows) {limit : Nat} {b : Account}
    (hb : A.Near ctx search rows limit b) :
    b.iAccount ∈ (A.withLookups ctx search (firstRound ctx rows limit)).map (·.iAccount) := by
  have htable : Table (A.Found ctx search rows) (firstRound ctx rows limit) := firstRound_table limit
  have hextended : Table (A.Found ctx search rows) (A.addExtensionMatches ctx search (firstRound ctx rows limit)) :=
    addExtensionMatches_table htable
  have hvalues : ∀ a, a ∈ (A.addExtensionMatches ctx search (firstRound ctx rows limit)).values →
      a.iAccount ∈ (A.withLookups ctx search (firstRound ctx rows limit)).map (·.iAccount) :=
    fun a ha => List.mem_map_of_mem ((mem_addAliasMatch hextended).2 (.inl ha))
  rcases hb with ⟨task, htask, hb⟩ | hb | hb
  · exact hvalues b ((h.mem_addExtensionMatches htable).2
      (.inl (h.mem_firstRound.2 (List.mem_flatMap.2 ⟨task, htask, hb⟩))))
  · exact hvalues b ((h.mem_addExtensionMatches htable).2 (.inr hb))
  · by_cases hkey : b.iAccount ∈ (A.addExtensionMatches ctx search (firstRound ctx rows limit)).keys
    · obtain ⟨a, ha, heq, -⟩ := hextended.mem_keys hkey
      exact heq ▸ hvalues a ha
    · exact List.mem_map_of_mem ((mem_addAliasMatch hextended).2 (.inr ⟨hb, hkey⟩))

theorem exists_longest (h : searchTasks ctx ≠ []) :
    ∃ task ∈ searchTasks ctx, (rows task).length = longest ctx rows := by
  unfold longest
  generalize searchTasks ctx = tasks at h
  induction tasks with
  | nil => exact absurd rfl h
  | cons task tasks ih =>
    rw [List.foldr_cons]
    by_cases hnil : tasks = []
    · rw [hnil]
      exact ⟨task, List.mem_cons_self, (Nat.max_zero _).symm⟩
    · obtain ⟨other, hother, hlength⟩ := ih hnil
      rcases Nat.le_total (rows task).length (rows other).length with hle | hle
      · exact ⟨other, List.mem_cons_of_mem _ hother, by rw [← hlength, Nat.max_eq_right hle]⟩
      · exact ⟨task, List.mem_cons_self, by rw [← hlength, Nat.max_eq_left hle]⟩

theorem length_le_longest {task : Int × SearchField} (htask : task ∈ searchTasks ctx) :
    (rows task).length ≤ longest ctx rows := by
  unfold longest
  generalize searchTasks ctx = tasks at htask
  induction tasks with
  | nil => cases htask
  | cons other tasks ih =>
    rw [List.foldr_cons]
    rcases List.mem_cons.1 htask with rfl | htask
    · exact Nat.le_max_left _ _
    · exact (ih htask).trans (Nat.le_max_right _ _)

/-! ## Searches that leave nothing out -/

theorem mem_inHand_leads {a : Account} (ha : a ∈ A.inHand ctx search rows extensions sms page n) :
    A.Found ctx search rows a ∨ A.aliasMatch search = some a := by
  have htable : Table (A.Found ctx search rows) (A.foundFor ctx rows extensions sms page n) := foundFor_table
  rcases (mem_addAliasMatch (addExtensionMatches_table htable)).1 ha with ha | ⟨ha, -⟩
  · exact .inl ((addExtensionMatches_table htable).values ha)
  · exact .inr ha

theorem leads_of_match {a : Account} (ha : A.Match ctx search rows a) :
    A.Found ctx search rows a ∨ A.aliasMatch search = some a := by
  rcases ha with ha | ⟨ha, -⟩
  · exact .inl ha
  · exact .inr ha

section NoneLeftOut

variable (hall : A.NoneLeftOut ctx search rows extensions sms)

include hall

theorem filter_shown {accounts : List Account}
    (h : ∀ a ∈ accounts, A.Found ctx search rows a ∨ A.aliasMatch search = some a) :
    accounts.filter (A.shows ctx extensions sms) = accounts :=
  List.filter_eq_self.2 fun a ha => (hall a (h a ha)).1

theorem filter_inHand (page : Nat) :
    (A.inHand ctx search rows extensions sms page n).filter (A.shows ctx extensions sms) =
    A.inHand ctx search rows extensions sms page n :=
  filter_shown hall fun _ ha => mem_inHand_leads ha

theorem filter_firstRound (limit : Nat) : (firstRound ctx rows limit).values.filter (A.shows ctx extensions sms) =
    (firstRound ctx rows limit).values := by
  have htable : Table (A.Found ctx search rows) (firstRound ctx rows limit) := firstRound_table limit
  exact filter_shown hall fun _ ha => .inl (htable.values ha)

theorem matchesBuilt_of_noneLeftOut : A.MatchesBuilt ctx search rows extensions :=
  fun a ha _ => (hall a (leads_of_match ha)).2

theorem Searched.filter_matchList (h : A.Searched ctx search rows) :
    (A.matchList ctx search rows).filter (A.shows ctx extensions sms) = A.matchList ctx search rows :=
  filter_shown hall fun _ ha => leads_of_match (h.mem_matchList.1 ha)

variable (hrows : ∀ task ∈ searchTasks ctx, ((rows task).map (·.iAccount)).Nodup)

include hrows

/-- A page that a query bounds stays with a part. -/
theorem Searched.isPartial_eq (h : A.Searched ctx search rows) (page : Nat) :
    A.isPartial ctx rows extensions sms page n = isBounded ctx rows page n := by
  rw [isPartial, filter_firstRound hall]
  cases hbounded : isBounded ctx rows page n with
  | false => rfl
  | true =>
    obtain ⟨hlimit, task, htask, hreached⟩ := isBounded_iff.1 hbounded
    have hpage : pageLimit page n = page * n + filterBuffer := Nat.min_eq_left hlimit.le
    have hlong : page * n + filterBuffer ≤ (firstRound ctx rows (pageLimit page n)).values.length := by
      rw [hpage]
      exact le_length_of_take hrows htask hreached fun a ha => h.mem_firstRound.2 (List.mem_flatMap.2 ⟨task, htask, ha⟩)
    have hbuffer : 0 < filterBuffer := by decide
    rw [Bool.true_and, decide_eq_true_iff]
    omega

/-- The page is that of all matches in their order. -/
theorem Searched.page_inHand (h : A.Searched ctx search rows) (hpage : 1 ≤ page) :
    pageOf page n (A.inHand ctx search rows extensions sms page n) = pageOf page n (A.matchList ctx search rows) := by
  cases hbounded : isBounded ctx rows page n with
  | false => rw [h.inHand_unbounded hbounded]
  | true =>
    obtain ⟨hlimit, hreached⟩ := isBounded_iff.1 hbounded
    have hpageLimit : pageLimit page n = page * n + filterBuffer := Nat.min_eq_left hlimit.le
    have hpart : A.isPartial ctx rows extensions sms page n = true := by rw [h.isPartial_eq hall hrows, hbounded]
    obtain ⟨common, x, y, hx, hy, hlong⟩ := h.firstRound_common hrows hlimit.le hreached
    obtain ⟨rest, hrest⟩ := h.withLookups_prefix (firstRound ctx rows (pageLimit page n))
    obtain ⟨rest', hrest'⟩ := h.withLookups_prefix (firstRound ctx rows maxApiLimit)
    have hreach : page * n ≤ common.length := by omega
    rw [inHand, foundFor_partial hpart, matchList, hrest, hrest', hpageLimit, hx, hy,
      List.append_assoc, List.append_assoc,
      pageOf_append_left hpage hreach, pageOf_append_left hpage hreach]

/-- The number of the matches, where one query has all of them or the page has them in hand. -/
theorem Searched.counts_of_fit (h : A.Searched ctx search rows)
    (hfit : A.OneQuery ctx search rows ∨
      ∀ a, A.Match ctx search rows a → ∃ b, A.Near ctx search rows (n + filterBuffer) b ∧ b.iAccount = a.iAccount)
    (hpage : 1 ≤ page) (hbounded : isBounded ctx rows page n = true) :
    (A.matchList ctx search rows).length = (A.inHand ctx search rows extensions sms page n).length +
      (longest ctx rows - (A.inHand ctx search rows extensions sms page n).length) := by
  obtain ⟨hlimit, reached, hreached, -⟩ := isBounded_iff.1 hbounded
  have hpageLimit : pageLimit page n = page * n + filterBuffer := Nat.min_eq_left hlimit.le
  have hpart : A.isPartial ctx rows extensions sms page n = true := by rw [h.isPartial_eq hall hrows, hbounded]
  have hinhand : A.inHand ctx search rows extensions sms page n =
      A.withLookups ctx search (firstRound ctx rows (page * n + filterBuffer)) := by
    rw [inHand, foundFor_partial hpart, hpageLimit]
  have hfew : (A.inHand ctx search rows extensions sms page n).length ≤ (A.matchList ctx search rows).length := by
    refine length_le_of_iAccounts (inHand_nodup page n) fun a ha => ?_
    rw [hinhand] at ha
    exact h.iAccount_mem_of_near ((h.near_of_mem ha).mono hlimit.le)
  have hlongest : longest ctx rows ≤ (A.matchList ctx search rows).length := by
    obtain ⟨task, htask, hlength⟩ := @exists_longest ctx rows (List.ne_nil_of_mem hreached)
    rw [← hlength]
    refine (List.subperm_of_subset (hrows task htask).of_map fun a ha => ?_).length_le
    exact h.mem_matchList.2 (.found (.field htask ha))
  rcases hfit with ⟨task, htask, hone⟩ | hnear
  · have hle : (A.matchList ctx search rows).length ≤ (rows task).length :=
      (List.subperm_of_subset matchList_nodup.of_map fun a ha => hone a (h.mem_matchList.1 ha)).length_le
    have hmost : (rows task).length ≤ longest ctx rows := length_le_longest htask
    omega
  · have hle : (A.matchList ctx search rows).length ≤ (A.inHand ctx search rows extensions sms page n).length := by
      refine length_le_of_iAccounts matchList_nodup fun a ha => ?_
      obtain ⟨b, hb, heq⟩ := hnear a (h.mem_matchList.1 ha)
      have hmul := le_mul_page hpage n
      rw [hinhand, ← heq]
      exact h.iAccount_mem_of_near (hb.mono (by omega))
    omega

theorem Searched.pagesAgree_of_fit (h : A.Searched ctx search rows)
    (hfit : A.OneQuery ctx search rows ∨
      ∀ a, A.Match ctx search rows a → ∃ b, A.Near ctx search rows (n + filterBuffer) b ∧ b.iAccount = a.iAccount) :
    A.PagesAgree ctx search rows extensions sms n where
  built := h.built (matchesBuilt_of_noneLeftOut hall)
  builtInHand page _ a ha _ := (hall a (mem_inHand_leads ha)).2
  counts page hpage hpart := by
    rw [h.isPartial_eq hall hrows] at hpart
    rw [filter_inHand hall, h.filter_matchList hall]
    exact h.counts_of_fit hall hrows hfit hpage hpart
  places page page' hpage hlt := by
    rw [filter_inHand hall, filter_inHand hall, h.page_inHand hall hrows hpage, h.page_inHand hall hrows (by omega)]
    exact disjoint_pageOf matchList_nodup.of_map hpage hlt

/-- A total that counts the matches on the first page leaves none out of it and of the longest query. -/
theorem Searched.fit_of_pagesAgree (h : A.Searched ctx search rows)
    (hagree : A.PagesAgree ctx search rows extensions sms n) :
    A.PagesFit ctx search rows extensions sms n := by
  cases hbounded : isBounded ctx rows 1 n with
  | false =>
    refine .unbounded (matchesBuilt_of_noneLeftOut hall) ?_
    by_contra hrest
    push Not at hrest
    obtain ⟨hlimit, task, htask, hreached⟩ := hrest
    have htrue : isBounded ctx rows 1 n = true := isBounded_iff.2 ⟨by omega, task, htask, by omega⟩
    rw [hbounded] at htrue
    cases htrue
  | true =>
    obtain ⟨hlimit, reached, hreached, -⟩ := isBounded_iff.1 hbounded
    rw [Nat.one_mul] at hlimit
    have hpart : A.isPartial ctx rows extensions sms 1 n = true := by rw [h.isPartial_eq hall hrows, hbounded]
    have hinhand : A.inHand ctx search rows extensions sms 1 n =
        A.withLookups ctx search (firstRound ctx rows (n + filterBuffer)) := by
      rw [inHand, foundFor_partial hpart, pageLimit, Nat.one_mul, Nat.min_eq_left hlimit.le]
    have hcounts := hagree.counts 1 le_rfl hpart
    rw [filter_inHand hall, h.filter_matchList hall] at hcounts
    by_cases hmore : (A.inHand ctx search rows extensions sms 1 n).length < longest ctx rows
    · obtain ⟨task, htask, hlength⟩ := @exists_longest ctx rows (List.ne_nil_of_mem hreached)
      refine .oneQuery hall ⟨task, htask, fun a ha => ?_⟩
      have hsubset : rows task ⊆ A.matchList ctx search rows :=
        fun a ha => h.mem_matchList.2 (.found (.field htask ha))
      have hperm : (rows task).Perm (A.matchList ctx search rows) :=
        (List.subperm_of_subset (hrows task htask).of_map hsubset).perm_of_length_le (by omega)
      exact hperm.symm.subset (h.mem_matchList.2 ha)
    · refine .allNear hall fun a ha => ?_
      have hsubset : ((A.inHand ctx search rows extensions sms 1 n).map (·.iAccount)) ⊆
          (A.matchList ctx search rows).map (·.iAccount) := by
        intro i hi
        obtain ⟨b, hb, rfl⟩ := List.mem_map.1 hi
        rw [hinhand] at hb
        exact h.iAccount_mem_of_near ((h.near_of_mem hb).mono hlimit.le)
      have hperm := (List.subperm_of_subset (inHand_nodup 1 n) hsubset).perm_of_length_le (by
        rw [List.length_map, List.length_map]
        omega)
      obtain ⟨b, hb, heq⟩ := List.mem_map.1 (hperm.symm.subset (List.mem_map_of_mem (h.mem_matchList.2 ha)))
      rw [hinhand] at hb
      exact ⟨b, h.near_of_mem hb, heq⟩

end NoneLeftOut

theorem Searched.pagesAgree (h : A.Searched ctx search rows)
    (hrows : ∀ task ∈ searchTasks ctx, ((rows task).map (·.iAccount)).Nodup)
    (hfit : A.PagesFit ctx search rows extensions sms n) : A.PagesAgree ctx search rows extensions sms n := by
  rcases hfit with ⟨hbuilt, hfew⟩ | ⟨hbuilt, shown, hlength, hshown⟩ | ⟨hall, hone⟩ | ⟨hall, hnear⟩
  · exact h.pagesAgree_unbounded hbuilt fun page hpage => not_bounded hfew hpage
  · exact h.pagesAgree_onePage hbuilt hlength hshown
  · exact h.pagesAgree_of_fit hall hrows (.inl hone)
  · exact h.pagesAgree_of_fit hall hrows (.inr hnear)

/-- **The pages of a search** list every match that passes the filters once, under one total, if `PagesFit`, and where
nothing is left out only then. -/
theorem search_pages_right {caller : Caller} {custom : List ContactInfo} (h : A.Searched (A.context caller) search rows)
    (hrows : ∀ task ∈ searchTasks (A.context caller), ((rows task).map (·.iAccount)).Nodup)
    (hcaller : A.accountInfo = .ok caller) (hext : A.extensionIAccounts (A.context caller) = .ok extensions)
    (hcustom : A.customContacts = .ok custom) (hsearch : search ≠ "")
    (hcache : (sms && decide (0 < A.settings.contactsCacheTtl)) = false) (hn : 1 ≤ n) :
    (A.PagesFit (A.context caller) search rows extensions sms n →
      A.SearchPagesRight (A.context caller) search rows extensions sms n custom) ∧
    (A.NoneLeftOut (A.context caller) search rows extensions sms →
      (A.SearchPagesRight (A.context caller) search rows extensions sms n custom ↔
        A.PagesFit (A.context caller) search rows extensions sms n)) := by
  have hiff := search_pages_iff h hcaller hext hcustom hsearch hcache hn
  refine ⟨fun hfit => hiff.2 (h.pagesAgree hrows hfit), fun hall => ⟨fun hright => ?_, fun hfit => ?_⟩⟩
  · exact h.fit_of_pagesAgree hall hrows (hiff.1 hright)
  · exact hiff.2 (h.pagesAgree hrows hfit)

/-! ## Searches in two names -/

/-- A switch whose field queries have these rows, with nothing else to look up, at work for the account 1. -/
def fieldsAdapter (rows : SearchField → List Account) : Adapter where
  runtime := { lower := id, int := fun _ => none, emailStr := some }
  settings := {}
  adminApi := {
    getAccountList := fun _ query =>
      let all := query.filter.elim [] fun filter => rows filter.1
      let page := all.drop (query.offset.getD 0)
      .ok (some ⟨.val (query.limit.elim page page.take), .val all.length⟩)
    getAccountInfo := fun _ => .ok none
    getExtensionsList := fun _ _ => .ok []
    getCustomerInfo := fun _ => .ok { iOfficeType := .val 1 }
    getCustomerList := fun _ => .ok (.val []) }
  accountInfo := .ok ⟨1, 1⟩
  asked _ := { now := 0 }
  locked _ := { now := 0 }
  setOrder := ⟨id, List.Perm.refl⟩

def fieldsContext : Context := { caller := ⟨1, 1⟩, mainICustomer := 1, allICustomers := [1] }

/-- So many accounts in a row. -/
def numbered (first : Int) (count : Nat) : List Account :=
  (List.range count).map fun i => { iAccount := first + i, id := .val "1", sipStatus := .val 1 }

def inNames (firstname lastname : List Account) : SearchField → List Account
  | .firstname => firstname
  | .lastname => lastname
  | _ => []

theorem mem_of_match {firstname lastname : List Account} {a : Account}
    (ha : (fieldsAdapter (inNames firstname lastname)).Match fieldsContext "an"
      (fun task => inNames firstname lastname task.2) a) : a ∈ firstname ++ lastname := by
  rcases ha with (⟨_, ha⟩ | ⟨_, ha⟩) | ⟨ha, _⟩
  · rename_i task _
    cases hfield : task.2 <;> simp_all [inNames]
  · cases ha
  · cases ha

theorem fieldsAdapter_searched {firstname lastname : List Account}
    (hnodup : ((firstname ++ lastname).map (·.iAccount)).Nodup) (hmost : (firstname ++ lastname).length ≤ 1000) :
    (fieldsAdapter (inNames firstname lastname)).Searched fieldsContext "an"
      fun task => inNames firstname lastname task.2 where
  answer _ _ _ := rfl
  atMost task _ := by
    rw [List.length_append] at hmost
    cases task.2 <;> simp only [inNames, maxApiLimit, List.length_nil] <;> omega
  fetched _ _ hfetch := by cases hfetch
  same _ _ ha hb heq := List.inj_on_of_nodup_map hnodup (mem_of_match (.found ha)) (mem_of_match (.found hb)) heq

/-- Everyone but the caller. -/
theorem contactOf_numbered {rows : SearchField → List Account} {first : Int} {count : Nat}
    {a : Account} (hfirst : 1 < first)
    (ha : a ∈ numbered first count) : (fieldsAdapter rows).shows fieldsContext [] false a = true ∧
      ∃ contact, (fieldsAdapter rows).contactOf fieldsContext a = .ok contact := by
  obtain ⟨i, hi, rfl⟩ := List.mem_map.1 ha
  obtain ⟨j, -, rfl⟩ : ∃ j : Nat, j < count ∧ i = j := by simpa using hi
  have hother : first + (j : Int) ≠ 1 := by omega
  have hpasses : (fieldsAdapter rows).passesFilter fieldsContext []
      { iAccount := first + j, id := .val "1", sipStatus := .val 1 } = true := decide_eq_true hother
  refine ⟨decide_eq_true ?_, _, rfl⟩
  rw [usable, if_pos hpasses]
  rfl

/-- Twelve matches under one name, on pages of one: the first page has eleven of them in hand. -/
theorem oneName_right :
    (fieldsAdapter (inNames (numbered 100 12) [])).SearchPagesRight fieldsContext "an"
      (fun task => inNames (numbered 100 12) [] task.2) [] false 1 [] := by
  have hsearched : (fieldsAdapter (inNames (numbered 100 12) [])).Searched fieldsContext "an"
      fun task => inNames (numbered 100 12) [] task.2 := fieldsAdapter_searched (by decide) (by decide)
  have hcaller : (fieldsAdapter (inNames (numbered 100 12) [])).accountInfo = .ok ⟨1, 1⟩ := rfl
  refine (search_pages_right hsearched (fun task _ => ?_) hcaller rfl rfl (by decide) rfl (by decide)).1 ?_
  · cases task.2 <;> decide
  · refine .oneQuery (fun a ha => ?_) ⟨(1, .firstname), by decide, fun a ha => ?_⟩
    · rcases ha with ha | ha
      · have hmem := mem_of_match (.found ha)
        rw [List.append_nil] at hmem
        exact contactOf_numbered (by decide) hmem
      · cases ha
    · have hmem := mem_of_match ha
      rwa [List.append_nil] at hmem

/-- Two names with twelve matches each, on pages of one: the first page has eleven of each in hand and promises
22 contacts, the second one promises 24. -/
theorem twoNames_wrong :
    (fieldsAdapter (inNames (numbered 100 12) (numbered 200 12))).Searched fieldsContext "an"
        (fun task => inNames (numbered 100 12) (numbered 200 12) task.2) ∧
      ¬ (fieldsAdapter (inNames (numbered 100 12) (numbered 200 12))).SearchPagesRight fieldsContext "an"
        (fun task => inNames (numbered 100 12) (numbered 200 12) task.2) [] false 1 [] := by
  refine ⟨fieldsAdapter_searched (by decide) (by decide), ?_⟩
  rintro ⟨_, _, _, _, _, total, hcovers⟩
  have hfirst : ((fieldsAdapter (inNames (numbered 100 12) (numbered 200 12))).retrieveContactsV2 (some "an") [] 1 1
      false).toOption.map Prod.snd = some 22 := by decide
  have hsecond : ((fieldsAdapter (inNames (numbered 100 12) (numbered 200 12))).retrieveContactsV2 (some "an") [] 2 1
      false).toOption.map Prod.snd = some 24 := by decide
  obtain ⟨items, hitems⟩ := hcovers.totals 1 le_rfl (Nat.le_max_left _ _)
  have htotal : (total : Int) = 22 := by simpa [hitems, Except.toOption] using hfirst
  obtain rfl : total = 22 := by omega
  obtain ⟨items', hitems'⟩ := hcovers.totals 2 (by decide) (by decide)
  simp [hitems', Except.toOption] at hsecond

end Adapter

end PortaPhone.Contacts
