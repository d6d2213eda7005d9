import Mathlib.Data.List.Basic
import Mathlib.Data.List.TakeDrop
/-!
# Pages of a list

Page `p` of a list in pages of `n` elements, counted from 1. `Walk` says of a service that answers with pages
and with a total that going through them gives a list.
-/

namespace Paging

variable {α : Type} {l : List α} {x : α} {page n : Nat}

/-- `l[(page - 1) * n : page * n]`. -/
def pageOf (page n : Nat) (l : List α) : List α := (l.drop ((page - 1) * n)).take n

theorem of_mem_pageOf (h : x ∈ pageOf page n l) : x ∈ l := List.mem_of_mem_drop (List.mem_of_mem_take h)

/-- Every element is on some page. -/
theorem mem_pageOf (h : x ∈ l) (hn : 0 < n) : ∃ page, 1 ≤ page ∧ x ∈ pageOf page n l := by
  obtain ⟨i, hi, rfl⟩ := List.mem_iff_getElem.1 h
  refine ⟨i / n + 1, Nat.le_add_left 1 _, ?_⟩
  have hmod : i % n < n := Nat.mod_lt i hn
  have hdiv : i / n * n + i % n = i := by
    rw [Nat.mul_comm]
    exact Nat.div_add_mod i n
  unfold pageOf
  rw [Nat.add_sub_cancel, List.mem_iff_getElem]
  refine ⟨i % n, ?_, ?_⟩
  · rw [List.length_take, List.length_drop]
    omega
  · simp only [List.getElem_take, List.getElem_drop, hdiv]

theorem pageOf_map {β : Type} (f : α → β) (page n : Nat) (l : List α) :
    pageOf page n (l.map f) = (pageOf page n l).map f := by
  rw [pageOf, pageOf, List.map_take, List.map_drop]

theorem length_pageOf (page n : Nat) (l : List α) : (pageOf page n l).length = min n (l.length - (page - 1) * n) := by
  rw [pageOf, List.length_take, List.length_drop]

/-- The first `k` pages in a row. -/
theorem flatMap_pageOf (n : Nat) (l : List α) (k : Nat) :
    (List.range' 1 k).flatMap (fun page => pageOf page n l) = l.take (k * n) := by
  induction k with
  | zero => simp
  | succ k ih =>
    have hpage : pageOf (1 + 1 * k) n l = (l.drop (k * n)).take n := by
      rw [pageOf, Nat.one_mul, Nat.add_sub_cancel_left]
    rw [List.range'_concat, List.flatMap_append, ih, List.flatMap_singleton, hpage, Nat.succ_mul, List.take_add]

/-- The first page of a list with a prefix that fits on it. -/
theorem pageOf_append_one (n : Nat) {prefixed : List α} (h : prefixed.length ≤ n) (l : List α) :
    pageOf 1 n (prefixed ++ l) = prefixed ++ l.take (n - prefixed.length) := by
  rw [pageOf, Nat.sub_self, Nat.zero_mul, List.drop_zero, List.take_append, List.take_of_length_le h]

/-- The pages after the first one. -/
theorem pageOf_append {prefixed : List α} (h : prefixed.length ≤ (page - 1) * n) (l : List α) :
    pageOf page n (prefixed ++ l) = (l.drop ((page - 1) * n - prefixed.length)).take n := by
  rw [pageOf, List.drop_append, List.drop_of_length_le h, List.nil_append]

/-! ## Walking the pages -/

/-- The pages of `n` elements that `total` elements fill. -/
def pageCount (n total : Nat) : Nat := (total + n - 1) / n

theorem le_pageCount_mul {n : Nat} (hn : 1 ≤ n) (total : Nat) : total ≤ pageCount n total * n := by
  have hdiv := Nat.div_add_mod (total + n - 1) n
  have hmod := Nat.mod_lt (total + n - 1) hn
  rw [pageCount, Nat.mul_comm]
  omega

theorem mul_le_of_lt_pageCount {n total page : Nat} (hn : 1 ≤ n) (h : page < pageCount n total) :
    page * n ≤ total := by
  have hle : (page + 1) * n ≤ total + n - 1 := (Nat.le_div_iff_mul_le hn).1 h
  rw [Nat.succ_mul] at hle
  omega

section Walk

variable {ε : Type}

/-- The elements of an answer. -/
def itemsOf : Except ε (List α × Int) → List α
  | .ok (items, _) => items
  | .error _ => []

/-- The service answers each page with its elements and a total, and the pages that the total promises are
`all`: their number is that of the total, and each but the last one has `n` elements. -/
structure Walk (fetch : Nat → Except ε (List α × Int)) (n : Nat) (all : List α) : Prop where
  totals : ∀ page, 1 ≤ page → ∃ items, fetch page = .ok (items, (all.length : Int))
  concat : (List.range' 1 (pageCount n all.length)).flatMap (fun page => itemsOf (fetch page)) = all
  full : ∀ page, 1 ≤ page → page < pageCount n all.length → (itemsOf (fetch page)).length = n

theorem walk_of_pageOf {fetch : Nat → Except ε (List α × Int)} {all : List α} (hn : 1 ≤ n)
    (h : ∀ page, 1 ≤ page → fetch page = .ok (pageOf page n all, (all.length : Int))) : Walk fetch n all where
  totals page hpage := ⟨_, h page hpage⟩
  concat := by
    have hitems : ∀ page ∈ List.range' 1 (pageCount n all.length), itemsOf (fetch page) = pageOf page n all := by
      intro page hpage
      rw [h page (List.mem_range'_1.1 hpage).1]
      rfl
    rw [List.flatMap_congr hitems, flatMap_pageOf, List.take_of_length_le (le_pageCount_mul hn _)]
  full page hpage hlt := by
    have hle := mul_le_of_lt_pageCount hn hlt
    have hmul : (page - 1) * n + n = page * n := by
      rw [← Nat.succ_mul]
      congr 1
      omega
    rw [h page hpage]
    show (pageOf page n all).length = n
    rw [length_pageOf]
    omega

end Walk

end Paging
