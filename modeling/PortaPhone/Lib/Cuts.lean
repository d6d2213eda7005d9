import Mathlib.Data.List.Nodup
import Mathlib.Data.List.Perm.Basic
import Mathlib.Data.List.Perm.Subperm
import PortaPhone.Lib.Paging
/-!
# Pages that are each cut from a list of their own

A service may put the elements together anew for each page, in another order and perhaps not all of them, with a
tail that is always the same. `Cuts.covers_iff`: going through its pages gives every element once exactly when
every page gives the right total and no element has its place on two pages.
-/

namespace Paging

variable {α ε : Type} {n : Nat}

/-- The pages that `total` promises have the elements of `all` in some order; all but the last have `n` of
them, and every page gives this total. -/
structure Covers (fetch : Nat → Except ε (List α × Int)) (n total : Nat) (all : List α) : Prop where
  totals : ∀ page, 1 ≤ page → page ≤ max 1 (pageCount n total) → ∃ items, fetch page = .ok (items, (total : Int))
  full : ∀ page, 1 ≤ page → page < pageCount n total → (itemsOf (fetch page)).length = n
  once : ((List.range' 1 (pageCount n total)).flatMap fun page => itemsOf (fetch page)).Perm all

theorem Covers.perm {fetch : Nat → Except ε (List α × Int)} {total : Nat} {all all' : List α}
    (h : Covers fetch n total all) (hperm : all.Perm all') : Covers fetch n total all' :=
  ⟨h.totals, h.full, h.once.trans hperm⟩

/-- The page is cut from `own page` and the tail, and answered with the total `total page`. Its own list has
all elements, and then the total is right, or it has elements beyond the page. -/
structure Cuts (fetch : Nat → Except ε (List α × Int)) (n : Nat) (elements tail : List α) (own : Nat → List α)
    (total : Nat → Int) : Prop where
  nodup : ∀ page, (own page).Nodup
  subset : ∀ page, own page ⊆ elements
  answer : ∀ page, 1 ≤ page → fetch page = .ok (pageOf page n (own page ++ tail), total page)
  known : ∀ page, 1 ≤ page →
    ((own page).length = elements.length ∧ total page = ((elements ++ tail).length : Int)) ∨
      (page * n < (own page).length ∧ ((own page ++ tail).length : Int) ≤ total page)

/-- What a page has of the tail, after so many elements. -/
def tailOf (page n count : Nat) (tail : List α) : List α :=
  (tail.drop ((page - 1) * n - count)).take (n - (count - (page - 1) * n))

theorem pageOf_append_tail (page n : Nat) (l tail : List α) :
    pageOf page n (l ++ tail) = pageOf page n l ++ tailOf page n l.length tail := by
  rw [pageOf, List.drop_append, List.take_append, List.length_drop]
  rfl

theorem pred_mul_add {page : Nat} (hpage : 1 ≤ page) (n : Nat) : (page - 1) * n + n = page * n := by
  rw [← Nat.succ_mul]
  congr 1
  omega

/-- A page that ends in the first list. -/
theorem pageOf_append_left {page : Nat} (hpage : 1 ≤ page) {l : List α} (h : page * n ≤ l.length) (l' : List α) :
    pageOf page n (l ++ l') = pageOf page n l := by
  have hmul := pred_mul_add hpage n
  have hrest : n - (l.length - (page - 1) * n) = 0 := by omega
  rw [pageOf_append_tail, tailOf, hrest, List.take_zero, List.append_nil]

/-- The pages of a list that is filled by `k` of them. -/
theorem flatMap_pageOf_all {k : Nat} {l : List α} (h : l.length ≤ k * n) :
    (List.range' 1 k).flatMap (fun page => pageOf page n l) = l := by
  rw [flatMap_pageOf, List.take_of_length_le h]

/-- Different pages of one list have different elements. -/
theorem disjoint_pageOf {l : List α} (hl : l.Nodup) {page page' : Nat} (hpage : 1 ≤ page) (hlt : page < page') :
    (pageOf page n l).Disjoint (pageOf page' n l) := by
  have hmul : page * n ≤ (page' - 1) * n := Nat.mul_le_mul_right n (by omega)
  have hdisjoint : (l.take (page * n)).Disjoint (l.drop ((page' - 1) * n)) := List.disjoint_take_drop hl hmul
  intro x hx hx'
  refine hdisjoint ?_ (List.mem_of_mem_take hx')
  rw [pageOf, List.take_drop, pred_mul_add hpage] at hx
  exact List.mem_of_mem_drop hx

namespace Cuts

variable {fetch : Nat → Except ε (List α × Int)} {elements tail : List α} {own : Nat → List α} {total : Nat → Int}

theorem length_le (h : Cuts fetch n elements tail own total) (page : Nat) : (own page).length ≤ elements.length :=
  (List.subperm_of_subset (h.nodup page) (h.subset page)).length_le

/-- A page has as many elements as if it were cut from all of them. -/
theorem length_page (h : Cuts fetch n elements tail own total) {page : Nat} (hpage : 1 ≤ page) :
    (pageOf page n (own page)).length = (pageOf page n elements).length := by
  rw [length_pageOf, length_pageOf]
  have hmul := pred_mul_add hpage n
  rcases h.known page hpage with ⟨heq, _⟩ | ⟨hmore, _⟩
  · rw [heq]
  · have hle := h.length_le page
    omega

theorem tail_page (h : Cuts fetch n elements tail own total) {page : Nat} (hpage : 1 ≤ page) :
    tailOf page n (own page).length tail = tailOf page n elements.length tail := by
  have hmul := pred_mul_add hpage n
  rcases h.known page hpage with ⟨heq, _⟩ | ⟨hmore, _⟩
  · rw [heq]
  · have hle := h.length_le page
    have hown : n - ((own page).length - (page - 1) * n) = 0 := by omega
    have hall : n - (elements.length - (page - 1) * n) = 0 := by omega
    rw [tailOf, tailOf, hown, hall, List.take_zero, List.take_zero]

theorem items (h : Cuts fetch n elements tail own total) {page : Nat} (hpage : 1 ≤ page) :
    itemsOf (fetch page) = pageOf page n (own page) ++ tailOf page n elements.length tail := by
  rw [h.answer page hpage]
  show pageOf page n (own page ++ tail) = _
  rw [pageOf_append_tail, h.tail_page hpage]

/-- The elements on the first pages. -/
def placed (n : Nat) (own : Nat → List α) (pages : Nat) : List α :=
  (List.range' 1 pages).flatMap fun page => pageOf page n (own page)

/-- The pages have the elements of all the pages in order when the elements on them are all elements. -/
theorem once_iff (h : Cuts fetch n elements tail own total) {k : Nat} (hk : (elements ++ tail).length ≤ k * n) :
    ((List.range' 1 k).flatMap fun page => itemsOf (fetch page)).Perm (elements ++ tail) ↔
      (placed n own k).Perm elements := by
  have hone : ∀ page ∈ List.range' 1 k, 1 ≤ page := fun page hpage => (List.mem_range'_1.1 hpage).1
  have hitems := List.flatMap_congr fun page hpage => h.items (hone page hpage)
  have hown := List.flatMap_append_perm (List.range' 1 k) (fun page => pageOf page n (own page))
    fun page => tailOf page n elements.length tail
  have hall := List.flatMap_append_perm (List.range' 1 k) (fun page => pageOf page n elements)
    fun page => tailOf page n elements.length tail
  have helements : (List.range' 1 k).flatMap (fun page => pageOf page n elements) = elements :=
    flatMap_pageOf_all (by rw [List.length_append] at hk; omega)
  simp only [← pageOf_append_tail, flatMap_pageOf_all hk, helements] at hall
  rw [hitems]
  constructor
  · intro hperm
    exact (List.perm_append_right_iff _).1 (hown.trans (hperm.trans hall.symm))
  · intro hperm
    exact hown.symm.trans ((hperm.append_right _).trans hall)

theorem length_placed (h : Cuts fetch n elements tail own total) {k : Nat} (hk : elements.length ≤ k * n) :
    (placed n own k).length = elements.length := by
  have hlength : (placed n own k).length = ((List.range' 1 k).flatMap fun page => pageOf page n elements).length := by
    rw [placed, List.length_flatMap, List.length_flatMap]
    congr 1
    exact List.map_congr_left fun page hpage => h.length_page (List.mem_range'_1.1 hpage).1
  rw [hlength, flatMap_pageOf_all hk]

/-- A page beyond the last one has no elements. -/
theorem page_eq_nil (h : Cuts fetch n elements tail own total) {page k : Nat} (hk : elements.length ≤ k * n)
    (hpage : k < page) : pageOf page n (own page) = [] := by
  have hle := h.length_le page
  have hmul : k * n ≤ (page - 1) * n := Nat.mul_le_mul_right n (by omega)
  rw [pageOf, List.drop_of_length_le (by omega), List.take_nil]

/-- Of the first pages each pair has a smaller number first. -/
theorem pairwise_range'_one {k : Nat} {R : Nat → Nat → Prop} :
    (List.range' 1 k).Pairwise R ↔ ∀ page page', 1 ≤ page → page < page' → page' ≤ k → R page page' := by
  rw [List.pairwise_iff_getElem]
  constructor
  · intro h page page' hpage hlt hk
    have hlength : (List.range' 1 k).length = k := List.length_range'
    have hr := h (page - 1) (page' - 1) (by omega) (by omega) (by omega)
    rw [List.getElem_range', List.getElem_range'] at hr
    have hpred : 1 + 1 * (page - 1) = page := by omega
    have hpred' : 1 + 1 * (page' - 1) = page' := by omega
    rwa [hpred, hpred'] at hr
  · intro h i j hi hj hij
    rw [List.length_range'] at hi hj
    rw [List.getElem_range', List.getElem_range']
    exact h _ _ (by omega) (by omega) (by omega)

theorem placed_perm_iff (h : Cuts fetch n elements tail own total) (helements : elements.Nodup) {k : Nat}
    (hk : elements.length ≤ k * n) :
    (placed n own k).Perm elements ↔
      ∀ page page', 1 ≤ page → page < page' → (pageOf page n (own page)).Disjoint (pageOf page' n (own page')) := by
  constructor
  · intro hperm page page' hpage hlt
    by_cases hlast : page' ≤ k
    · have hpairwise := (List.nodup_flatMap.1 (hperm.nodup_iff.2 helements)).2
      exact pairwise_range'_one.1 hpairwise page page' hpage hlt hlast
    · rw [h.page_eq_nil hk (by omega : k < page')]
      exact List.disjoint_nil_right _
  · intro hdisjoint
    have hnodup : (placed n own k).Nodup := by
      refine List.nodup_flatMap.2 ⟨fun page _ => ?_, ?_⟩
      · exact ((h.nodup page).sublist (List.drop_sublist _ _)).sublist (List.take_sublist _ _)
      · exact pairwise_range'_one.2 fun page page' hpage hlt _ => hdisjoint page page' hpage hlt
    have hsubset : placed n own k ⊆ elements := by
      intro x hx
      obtain ⟨page, _, hx⟩ := List.mem_flatMap.1 hx
      exact h.subset page (of_mem_pageOf hx)
    exact (List.subperm_of_subset hnodup hsubset).perm_of_length_le (Nat.le_of_eq (h.length_placed hk).symm)

/-- The last page of a right total has been cut from all elements. -/
theorem total_eq (h : Cuts fetch n elements tail own total) (hn : 1 ≤ n) {count : Nat} {all : List α}
    (hcovers : Covers fetch n count all) : count = (elements ++ tail).length := by
  have hlast : 1 ≤ max 1 (pageCount n count) := Nat.le_max_left _ _
  obtain ⟨items, hitems⟩ := hcovers.totals _ hlast (Nat.le_refl _)
  have htotal := (Prod.mk.inj (Except.ok.inj (hitems.symm.trans (h.answer _ hlast)))).2
  have hreach : count ≤ max 1 (pageCount n count) * n :=
    Nat.le_trans (le_pageCount_mul hn count) (Nat.mul_le_mul_right n (Nat.le_max_right _ _))
  rcases h.known _ hlast with ⟨_, heq⟩ | ⟨hmore, hle⟩
  · omega
  · rw [List.length_append] at hle
    omega

theorem covers_iff (h : Cuts fetch n elements tail own total) (hn : 1 ≤ n) (helements : elements.Nodup) :
    (∃ count, Covers fetch n count (elements ++ tail)) ↔
      (∀ page, 1 ≤ page → total page = ((elements ++ tail).length : Int)) ∧
        ∀ page page', 1 ≤ page → page < page' → (pageOf page n (own page)).Disjoint (pageOf page' n (own page')) := by
  have hreach := le_pageCount_mul hn (elements ++ tail).length
  have hreach' : elements.length ≤ pageCount n (elements ++ tail).length * n := by
    rw [List.length_append] at hreach ⊢
    omega
  constructor
  · rintro ⟨count, hcovers⟩
    obtain rfl := h.total_eq hn hcovers
    refine ⟨fun page hpage => ?_, (h.placed_perm_iff helements hreach').1 ((h.once_iff hreach).1 hcovers.once)⟩
    by_cases hlast : page ≤ max 1 (pageCount n (elements ++ tail).length)
    · obtain ⟨items, hitems⟩ := hcovers.totals page hpage hlast
      exact (Prod.mk.inj (Except.ok.inj (hitems.symm.trans (h.answer page hpage)))).2.symm
    · rcases h.known page hpage with ⟨_, heq⟩ | ⟨hmore, _⟩
      · exact heq
      · have hmul : pageCount n (elements ++ tail).length * n ≤ page * n := Nat.mul_le_mul_right n (by omega)
        have hle := h.length_le page
        omega
  · rintro ⟨htotals, hdisjoint⟩
    refine ⟨(elements ++ tail).length, ?_, ?_, ?_⟩
    · intro page hpage _
      exact ⟨_, by rw [h.answer page hpage, htotals page hpage]⟩
    · intro page hpage hlt
      have hfull := mul_le_of_lt_pageCount hn hlt
      have hmul := pred_mul_add hpage n
      rw [h.answer page hpage]
      show (pageOf page n (own page ++ tail)).length = n
      rw [length_pageOf]
      rcases h.known page hpage with ⟨heq, _⟩ | ⟨hmore, _⟩
      · rw [List.length_append, heq, ← List.length_append]
        omega
      · rw [List.length_append]
        omega
    · exact (h.once_iff hreach).2 ((h.placed_perm_iff helements hreach').2 hdisjoint)

end Cuts

/-! ## The first page of a sorted list -/

section Sorted

variable {r : α → α → Prop} {l sorted : List α} {k : Nat}

/-- The first elements of a list are those of its sorted version when they come before the others. -/
theorem take_sorted_iff (hperm : l.Perm sorted) (hl : l.Nodup) (hsorted : sorted.Pairwise r)
    (hr : ∀ a b, r a b → ¬ r b a) :
    (∀ a, a ∈ l.take k ↔ a ∈ sorted.take k) ↔ ∀ a ∈ l.take k, ∀ b ∈ l.drop k, r a b := by
  have hnodup : sorted.Nodup := hperm.nodup_iff.1 hl
  have hbefore : ∀ a ∈ sorted.take k, ∀ b ∈ sorted.drop k, r a b := by
    rw [← List.take_append_drop k sorted] at hsorted
    exact (List.pairwise_append.1 hsorted).2.2
  have hlength : (l.take k).length = (sorted.take k).length := by
    rw [List.length_take, List.length_take, hperm.length_eq]
  have hsplit : ∀ a ∈ l, a ∉ sorted.take k → a ∈ sorted.drop k := by
    intro a ha hnot
    have hmem : a ∈ sorted.take k ++ sorted.drop k := by
      rw [List.take_append_drop]
      exact hperm.subset ha
    exact (List.mem_append.1 hmem).resolve_left hnot
  constructor
  · intro hsame a ha b hb
    refine hbefore a ((hsame a).1 ha) b (hsplit b (List.mem_of_mem_drop hb) fun hmem => ?_)
    exact List.disjoint_take_drop hl (Nat.le_refl k) ((hsame b).2 hmem) hb
  · intro hfirst
    have hsubset : sorted.take k ⊆ l.take k := by
      -- otherwise an element of the first ones has been left out for one that comes before it
      by_contra hnot
      obtain ⟨b, hb, hbnot⟩ : ∃ b, b ∈ sorted.take k ∧ b ∉ l.take k := by
        by_contra hnone
        exact hnot fun b hb => by_contra fun hbnot => hnone ⟨b, hb, hbnot⟩
      obtain ⟨a, ha, hanot⟩ : ∃ a, a ∈ l.take k ∧ a ∉ sorted.take k := by
        by_contra hnone
        have hsub : l.take k ⊆ sorted.take k := fun a ha => by_contra fun hanot => hnone ⟨a, ha, hanot⟩
        have hsame := (List.subperm_of_subset (hl.sublist (List.take_sublist k l)) hsub).perm_of_length_le
          (Nat.le_of_eq hlength.symm)
        exact hbnot (hsame.symm.subset hb)
      have hbl : b ∈ l.take k ++ l.drop k := by
        rw [List.take_append_drop]
        exact hperm.symm.subset (List.mem_of_mem_take hb)
      have hab := hfirst a ha b ((List.mem_append.1 hbl).resolve_left hbnot)
      exact hr a b hab (hbefore b hb a (hsplit a (List.mem_of_mem_take ha) hanot))
    have hsame := (List.subperm_of_subset (hnodup.sublist (List.take_sublist k sorted)) hsubset).perm_of_length_le
      (Nat.le_of_eq hlength)
    exact fun a => hsame.symm.mem_iff

end Sorted

/-- The first page of two lists of images with one tail, in which none of them is, has the same elements when
the first elements are the same. -/
theorem mem_take_map_append_iff {β : Type} {f : α → β} {l l' : List α} {tail : List β} (hlength : l.length = l'.length)
    (hf : ∀ a ∈ l, ∀ b ∈ l', f a = f b → a = b) (htail : ∀ a, a ∈ l ∨ a ∈ l' → f a ∉ tail) (k : Nat) :
    (∀ c, c ∈ (l.map f ++ tail).take k ↔ c ∈ (l'.map f ++ tail).take k) ↔ ∀ a, a ∈ l.take k ↔ a ∈ l'.take k := by
  have hpage : ∀ (m : List α) (c : β), m.length = l'.length →
      (c ∈ (m.map f ++ tail).take k ↔ (∃ a ∈ m.take k, f a = c) ∨ c ∈ tail.take (k - l'.length)) := by
    intro m c hm
    rw [List.take_append, List.length_map, hm, ← List.map_take, List.mem_append, List.mem_map]
  constructor
  · intro hsame a
    have hfirst := hsame (f a)
    rw [hpage l _ hlength, hpage l' _ rfl] at hfirst
    constructor
    · intro ha
      have hal := List.mem_of_mem_take ha
      rcases hfirst.1 (.inl ⟨a, ha, rfl⟩) with ⟨b, hb, heq⟩ | hmem
      · rwa [hf a hal b (List.mem_of_mem_take hb) heq.symm]
      · exact absurd (List.mem_of_mem_take hmem) (htail a (.inl hal))
    · intro ha
      have hal := List.mem_of_mem_take ha
      rcases hfirst.2 (.inl ⟨a, ha, rfl⟩) with ⟨b, hb, heq⟩ | hmem
      · rwa [← hf b (List.mem_of_mem_take hb) a hal heq]
      · exact absurd (List.mem_of_mem_take hmem) (htail a (.inr hal))
  · intro hsame c
    rw [hpage l _ hlength, hpage l' _ rfl]
    exact or_congr_left (exists_congr fun a => and_congr_left fun _ => hsame a)

end Paging
