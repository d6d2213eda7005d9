import Mathlib
import PortaPhone.Lib.Dict
/-!
# Bounded caches in the order of their stores

`store` puts a key at the end and drops keys at the front while there are more than `max`. Where every value carries
the time at which it was stored, the first key is the one stored longest ago: what is dropped is older than what stays.
-/

namespace StoreOrder

variable {κ β : Type}

/-- Keys are popped at the front while there are more than `max`. -/
def trim (max : Nat) : List (κ × β) → List (κ × β)
  | [] => []
  | e :: es => if max < es.length + 1 then trim max es else e :: es

theorem trim_eq_drop (max : Nat) (es : List (κ × β)) : trim max es = es.drop (es.length - max) := by
  induction es with
  | nil => simp [trim]
  | cons e es ih =>
    rw [trim]
    by_cases hlong : max < es.length + 1
    · have hlen : (e :: es).length - max = es.length - max + 1 := by
        rw [List.length_cons]
        omega
      rw [if_pos hlong, ih, hlen, List.drop_succ_cons]
    · have hlen : (e :: es).length - max = 0 := by
        rw [List.length_cons]
        omega
      rw [if_neg hlong, hlen, List.drop_zero]

theorem trim_suffix (max : Nat) (es : List (κ × β)) : ∃ dropped, dropped ++ trim max es = es := by
  rw [trim_eq_drop]
  exact ⟨_, List.take_append_drop _ es⟩

variable [DecidableEq κ]

def store (max : Nat) (k : κ) (b : β) (d : Dict κ β) : Dict κ β where
  entries := trim max ((d.erase k).set k b).entries
  nodup := by
    rw [trim_eq_drop]
    exact ((d.erase k).set k b).nodup.sublist ((List.drop_sublist _ _).map _)

variable {max : Nat} {k j : κ} {b c : β} {d : Dict κ β}

theorem set_entries (k : κ) (b : β) (d : Dict κ β) :
    ((d.erase k).set k b).entries = d.entries.filter (·.1 ≠ k) ++ [(k, b)] := by
  apply Dict.setEntries_new
  intro e he
  simpa using (List.mem_filter.1 he).2

theorem store_entries (max : Nat) (k : κ) (b : β) (d : Dict κ β) :
    (store max k b d).entries = trim max ((d.erase k).set k b).entries := rfl

theorem size_store (max : Nat) (k : κ) (b : β) (d : Dict κ β) : (store max k b d).size ≤ max := by
  rw [Dict.size, store_entries, trim_eq_drop, List.length_drop]
  omega

/-- What is kept besides the new key was there before. -/
theorem get?_store_of_ne (hj : j ≠ k) (h : (store max k b d).get? j = some c) : d.get? j = some c := by
  have hmem : (j, c) ∈ trim max ((d.erase k).set k b).entries := (Dict.mem_entries _).2 h
  obtain ⟨dropped, hsplit⟩ := trim_suffix max ((d.erase k).set k b).entries
  have hset : ((d.erase k).set k b).get? j = some c := by
    rw [← Dict.mem_entries, ← hsplit]
    exact List.mem_append_right _ hmem
  rwa [Dict.get?_set_other _ _ hj, Dict.get?_erase, if_neg hj] at hset

theorem get?_store_self (hmax : 0 < max) : (store max k b d).get? k = some b := by
  rw [← Dict.mem_entries, store_entries, trim_eq_drop, set_entries, List.drop_append_of_le_length]
  · exact List.mem_append_right _ List.mem_cons_self
  · rw [List.length_append, List.length_singleton]
    omega

/-- What is kept stands in the order of the stores. -/
theorem store_sublist (max : Nat) (k : κ) (b : β) (d : Dict κ β) :
    (store max k b d).entries.Sublist (d.entries ++ [(k, b)]) := by
  rw [store_entries, trim_eq_drop]
  refine (List.drop_sublist _ _).trans ?_
  rw [set_entries]
  exact List.Sublist.append List.filter_sublist (List.Sublist.refl _)

/-- A key is dropped only where a new one comes to a full cache. -/
theorem full_of_dropped (hsize : d.size ≤ max) (hj : j ≠ k) (hold : d.get? j = some c)
    (hdropped : (store max k b d).get? j = none) : d.size = max ∧ d.get? k = none := by
  have hfull : max < ((d.erase k).set k b).entries.length := by
    by_contra hroom
    have hset : ((d.erase k).set k b).get? j = some c := by
      rw [Dict.get?_set_other _ _ hj, Dict.get?_erase, if_neg hj, hold]
    have hall : (store max k b d).entries = ((d.erase k).set k b).entries := by
      rw [store_entries, trim_eq_drop, Nat.sub_eq_zero_of_le (Nat.not_lt.1 hroom), List.drop_zero]
    rw [← Dict.mem_entries, ← hall, Dict.mem_entries, hdropped] at hset
    cases hset
  rw [set_entries, List.length_append, List.length_singleton] at hfull
  have hle : (d.entries.filter (·.1 ≠ k)).length ≤ d.size := List.length_filter_le _ _
  refine ⟨by omega, Option.eq_none_iff_forall_ne_some.2 fun b' hk => ?_⟩
  have hlt : (d.entries.filter (·.1 ≠ k)).length < d.entries.length :=
    List.length_filter_lt_length_iff_exists.2 ⟨(k, b'), (d.mem_entries).2 hk, by simp⟩
  have hdef : d.size = d.entries.length := rfl
  omega

/-- A new key in a full cache takes the place of the first one. -/
theorem store_full (b : β) (hfull : d.size = max) (hnew : d.get? k = none) :
    (store max k b d).entries = (d.entries ++ [(k, b)]).drop 1 := by
  have hkeep : d.entries.filter (·.1 ≠ k) = d.entries := by
    apply List.filter_eq_self.2
    rintro ⟨l, a⟩ hl
    apply decide_eq_true
    rintro rfl
    rw [Dict.mem_entries, hnew] at hl
    cases hl
  have hlength : (d.entries ++ [(k, b)]).length - max = 1 := by
    have hdef : d.size = d.entries.length := rfl
    rw [List.length_append, List.length_singleton]
    omega
  rw [store_entries, trim_eq_drop, set_entries, hkeep, hlength]

/-! ## The oldest first -/

section InOrder

variable {τ : Type} [Preorder τ] (stamp : β → τ)

/-- The entries stand in the order of their times. -/
def InOrder (d : Dict κ β) : Prop := d.entries.Pairwise fun x y => stamp x.2 ≤ stamp y.2

variable {stamp}

omit [DecidableEq κ] in
theorem inOrder_empty : InOrder stamp (Dict.empty : Dict κ β) := List.Pairwise.nil

theorem InOrder.erase (h : InOrder stamp d) (k : κ) : InOrder stamp (d.erase k) := List.Pairwise.filter _ h

theorem InOrder.set (h : InOrder stamp d) (k : κ) {b : β} (hlast : ∀ j c, d.get? j = some c → stamp c ≤ stamp b) :
    InOrder stamp ((d.erase k).set k b) := by
  rw [InOrder, set_entries, List.pairwise_append]
  refine ⟨h.erase k, List.pairwise_singleton _ _, fun x hx y hy => ?_⟩
  obtain rfl := List.mem_singleton.1 hy
  exact hlast x.1 x.2 ((Dict.mem_entries _).1 (List.mem_filter.1 hx).1)

theorem InOrder.store (h : InOrder stamp d) (max : Nat) (k : κ) {b : β}
    (hlast : ∀ j c, d.get? j = some c → stamp c ≤ stamp b) : InOrder stamp (store max k b d) := by
  rw [InOrder, store_entries, trim_eq_drop]
  exact List.Pairwise.sublist (List.drop_sublist _ _) (h.set k hlast)

/-- **What is dropped is the stalest**: it is no newer than anything that stays. -/
theorem stamp_dropped_le (h : InOrder stamp d) (hlast : ∀ j c, d.get? j = some c → stamp c ≤ stamp b) (hj : j ≠ k)
    (hold : d.get? j = some c) (hdropped : (store max k b d).get? j = none) {i : κ} {c' : β}
    (hkept : (store max k b d).get? i = some c') : stamp c ≤ stamp c' := by
  obtain ⟨dropped, hsplit⟩ := trim_suffix max ((d.erase k).set k b).entries
  have hsorted := h.set k hlast
  rw [InOrder, ← hsplit, List.pairwise_append] at hsorted
  have hset : (j, c) ∈ ((d.erase k).set k b).entries := by
    rw [Dict.mem_entries, Dict.get?_set_other _ _ hj, Dict.get?_erase, if_neg hj]
    exact hold
  have hkept' : (i, c') ∈ trim max ((d.erase k).set k b).entries := (Dict.mem_entries (store max k b d)).2 hkept
  rw [← hsplit] at hset
  rcases List.mem_append.1 hset with hmem | hmem
  · exact hsorted.2.2 _ hmem _ hkept'
  · have hget := (Dict.mem_entries (store max k b d)).1 hmem
    rw [hdropped] at hget
    cases hget

/-- Where one key is dropped at a time, it is the stalest of all. -/
theorem stamp_dropped_le_all (h : InOrder stamp d) (hsize : d.size ≤ max) (hj : j ≠ k) (hold : d.get? j = some c)
    (hdropped : (store max k b d).get? j = none) {i : κ} {c' : β} (hother : d.get? i = some c') :
    stamp c ≤ stamp c' := by
  obtain ⟨hfull, hnew⟩ := full_of_dropped hsize hj hold hdropped
  have hstore := store_full b hfull hnew
  rw [← Dict.mem_entries] at hold hother
  have hgone : (j, c) ∉ (store max k b d).entries := by
    rw [Dict.mem_entries, hdropped]
    simp
  rw [InOrder] at h
  rw [hstore] at hgone
  cases hentries : d.entries with
  | nil => simp [hentries] at hold
  | cons e rest =>
    rw [hentries] at hold hother hgone h
    -- the first entry is the one that is dropped
    obtain rfl : (j, c) = e := by
      rcases List.mem_cons.1 hold with heq | hmem
      · exact heq
      · exact absurd (List.mem_append_left _ hmem) hgone
    rcases List.mem_cons.1 hother with heq | hmem
    · rw [(Prod.mk.inj heq).2]
    · exact (List.pairwise_cons.1 h).1 _ hmem

end InOrder

/-! ## The stalest by their times

Where a key that is stored again keeps its place, the entries have to be sorted to find those that were stored longest
ago. -/

section Stalest

variable {τ : Type} [LinearOrder τ] (stamp : β → τ)

def stalest (d : Dict κ β) : List (κ × β) := d.entries.mergeSort fun x y => decide (stamp x.2 ≤ stamp y.2)

/-- The stalest are popped while there are more than `max`. -/
def dropStalest (max : Nat) (d : Dict κ β) : Dict κ β :=
  ((stalest stamp d).take (d.size - max)).foldl (fun d e => d.erase e.1) d

variable {stamp} {max : Nat} {j : κ} {b c : β} {d : Dict κ β}

omit [DecidableEq κ] in
theorem stalest_perm (d : Dict κ β) : (stalest stamp d).Perm d.entries := List.mergeSort_perm _ _

omit [DecidableEq κ] in
theorem stalest_sorted (d : Dict κ β) : (stalest stamp d).Pairwise fun x y => stamp x.2 ≤ stamp y.2 := by
  have hsorted : (stalest stamp d).Pairwise fun x y => decide (stamp x.2 ≤ stamp y.2) = true := by
    refine List.pairwise_mergeSort (fun x y z hxy hyz => ?_) (fun x y => ?_) d.entries
    · exact decide_eq_true (le_trans (of_decide_eq_true hxy) (of_decide_eq_true hyz))
    · simpa using le_total (stamp x.2) (stamp y.2)
  exact hsorted.imp of_decide_eq_true

theorem foldl_erase_entries (es : List (κ × β)) (d : Dict κ β) :
    (es.foldl (fun d e => d.erase e.1) d).entries = d.entries.filter fun x => x.1 ∉ es.map Prod.fst := by
  induction es generalizing d with
  | nil => simp
  | cons e es ih =>
    rw [List.foldl_cons, ih]
    show (d.entries.filter (·.1 ≠ e.1)).filter _ = _
    rw [List.filter_filter]
    apply List.filter_congr
    intro x _
    by_cases hx : x.1 = e.1
    · simp [hx]
    · simp [hx]

/-- What is left is the rest of the sorted entries. -/
theorem dropStalest_perm (max : Nat) (d : Dict κ β) :
    (dropStalest stamp max d).entries.Perm ((stalest stamp d).drop (d.size - max)) := by
  have hkeys :
      (((stalest stamp d).take (d.size - max) ++ (stalest stamp d).drop (d.size - max)).map Prod.fst).Nodup := by
    rw [List.take_append_drop]
    exact ((stalest_perm d).map Prod.fst).nodup_iff.2 d.nodup
  rw [List.map_append, List.nodup_append] at hkeys
  obtain ⟨-, -, hdisjoint⟩ := hkeys
  rw [dropStalest, foldl_erase_entries]
  refine (List.Perm.filter _ (stalest_perm d : (stalest stamp d).Perm _).symm).trans ?_
  have hdropped : ((stalest stamp d).take (d.size - max)).filter
      (fun x => decide (x.1 ∉ ((stalest stamp d).take (d.size - max)).map Prod.fst)) = [] := by
    apply List.filter_eq_nil_iff.2
    intro x hx
    rw [decide_eq_true_eq, not_not]
    exact List.mem_map_of_mem hx
  have hkept : ((stalest stamp d).drop (d.size - max)).filter
      (fun x => decide (x.1 ∉ ((stalest stamp d).take (d.size - max)).map Prod.fst)) =
        (stalest stamp d).drop (d.size - max) := by
    refine List.filter_eq_self.2 fun x hx => decide_eq_true fun hmem => ?_
    exact hdisjoint _ hmem _ (List.mem_map_of_mem hx) rfl
  have hboth := congrArg₂ (· ++ ·) hdropped hkept
  rw [← List.filter_append, List.take_append_drop, List.nil_append] at hboth
  rw [hboth]

theorem size_dropStalest (max : Nat) (d : Dict κ β) : (dropStalest stamp max d).size = min d.size max := by
  have hsize : (stalest stamp d).length = d.size := (stalest_perm d).length_eq
  rw [Dict.size, (dropStalest_perm max d).length_eq, List.length_drop, hsize]
  omega

theorem get?_of_dropStalest (h : (dropStalest stamp max d).get? j = some c) : d.get? j = some c := by
  rw [← Dict.mem_entries] at h ⊢
  exact (stalest_perm d).subset (List.drop_subset _ _ ((dropStalest_perm max d).subset h))

/-- **What is popped is the stalest**: it is no newer than anything that stays. -/
theorem stamp_le_of_dropStalest (hold : d.get? j = some c) (hdropped : (dropStalest stamp max d).get? j = none) {i : κ}
    {c' : β} (hkept : (dropStalest stamp max d).get? i = some c') : stamp c ≤ stamp c' := by
  have hsorted : (stalest stamp d).Pairwise _ := stalest_sorted d
  rw [← List.take_append_drop (d.size - max) (stalest stamp d), List.pairwise_append] at hsorted
  have hmem : (j, c) ∈ (stalest stamp d).take (d.size - max) ++ (stalest stamp d).drop (d.size - max) := by
    rw [List.take_append_drop]
    exact (stalest_perm d).symm.subset ((Dict.mem_entries _).2 hold)
  have hkept' := (dropStalest_perm max d).subset ((Dict.mem_entries _).2 hkept)
  rcases List.mem_append.1 hmem with hmem | hmem
  · exact hsorted.2.2 _ hmem _ hkept'
  · have hget := (Dict.mem_entries _).1 ((dropStalest_perm max d).symm.subset hmem)
    rw [hdropped] at hget
    cases hget

end Stalest

end StoreOrder
