import Mathlib.Data.List.Basic
/-!
# Regular expressions that backtrack

A regular expression is tried at the start of a text: `rests` lists the texts that its matches leave, in the order in
which a backtracking engine comes to them, so the first one is that of the match. Repetitions are greedy. `sub`
replaces the matches of a pattern of two groups, from left to right.
-/

inductive Regex
  | empty
  | one (p : Char → Bool)
  | seq (r s : Regex)
  | alt (r s : Regex)
  | star (r : Regex)

namespace Regex

/-- As many steps as there can be, then one less, and so on; a step that takes nothing is not repeated. -/
def repeats (step : List Char → List (List Char)) : Nat → List Char → List (List Char)
  | 0, s => [s]
  | n + 1, s => ((step s).filter fun t => t.length < s.length).flatMap (repeats step n) ++ [s]

def rests : Regex → List Char → List (List Char)
  | empty, s => [s]
  | one p, s => match s with
    | [] => []
    | c :: s => if p c then [s] else []
  | seq r t, s => (rests r s).flatMap (rests t)
  | alt r t, s => rests r s ++ rests t s
  | star r, s => repeats (rests r) s.length s

theorem rests_one_nil (p : Char → Bool) : rests (one p) [] = [] := rfl

theorem rests_one_cons (p : Char → Bool) (c : Char) (s : List Char) :
    rests (one p) (c :: s) = if p c then [s] else [] := rfl

theorem rests_seq (r t : Regex) (s : List Char) : rests (seq r t) s = (rests r s).flatMap (rests t) := rfl

theorem rests_alt (r t : Regex) (s : List Char) : rests (alt r t) s = rests r s ++ rests t s := rfl

theorem rests_repeats (r : Regex) (s : List Char) : rests (star r) s = repeats (rests r) s.length s := rfl

/-- `r?`. -/
def opt (r : Regex) : Regex := alt r empty

/-- `r+`. -/
def plus (r : Regex) : Regex := seq r (star r)

/-- The match of `(r)(t)`: what the first group leaves, and what both leave. -/
def first (r t : Regex) (s : List Char) : Option (List Char × List Char) :=
  ((rests r s).flatMap fun q => (rests t q).map (q, ·)).head?

def subFrom (r t : Regex) (f : List Char → List Char) : Nat → List Char → List Char
  | 0, s => s
  | _ + 1, [] => []
  | n + 1, c :: s => match first r t (c :: s) with
    | none => c :: subFrom r t f n s
    | some (q, rest) => f ((c :: s).take ((c :: s).length - q.length)) ++ subFrom r t f n rest

/-- Every match of `(r)(t)` replaced by `f` of its first group, where the first group takes something. -/
def sub (r t : Regex) (f : List Char → List Char) (s : List Char) : List Char := subFrom r t f s.length s

/-! ## What is left -/

theorem repeats_suffix {step : List Char → List (List Char)} (hstep : ∀ s, ∀ t ∈ step s, t <:+ s)
    (n : Nat) (s : List Char) :
    ∀ t ∈ repeats step n s, t <:+ s := by
  induction n generalizing s with
  | zero =>
    intro t ht
    obtain rfl := List.mem_singleton.1 ht
    exact List.suffix_refl _
  | succ n ih =>
    intro t ht
    rcases List.mem_append.1 ht with ht | ht
    · obtain ⟨u, hu, ht⟩ := List.mem_flatMap.1 ht
      exact (ih u t ht).trans (hstep s u (List.mem_filter.1 hu).1)
    · obtain rfl := List.mem_singleton.1 ht
      exact List.suffix_refl _

theorem rests_suffix (r : Regex) (s : List Char) : ∀ t ∈ rests r s, t <:+ s := by
  induction r generalizing s with
  | empty =>
    intro t ht
    obtain rfl := List.mem_singleton.1 ht
    exact List.suffix_refl _
  | one p =>
    intro t ht
    cases s with
    | nil => cases ht
    | cons c s =>
      rw [rests_one_cons] at ht
      split at ht
      · rw [List.mem_singleton.1 ht]
        exact List.suffix_cons c s
      · cases ht
  | seq r t ihr iht =>
    intro u hu
    obtain ⟨q, hq, hu⟩ := List.mem_flatMap.1 hu
    exact (iht q u hu).trans (ihr s q hq)
  | alt r t ihr iht =>
    intro u hu
    rcases List.mem_append.1 hu with hu | hu
    · exact ihr s u hu
    · exact iht s u hu
  | star r ih => exact repeats_suffix ih s.length s

/-- More steps than there are characters change nothing. -/
theorem repeats_enough {step : List Char → List (List Char)} {n : Nat} {s : List Char} (h : s.length ≤ n) :
    repeats step n s = repeats step s.length s := by
  induction n using Nat.strongRecOn generalizing s with
  | ind n ih =>
    cases n with
    | zero => rw [Nat.le_zero.1 h]
    | succ n =>
      cases s with
      | nil => simp [repeats]
      | cons c s =>
        rw [List.length_cons, repeats, repeats]
        congr 1
        refine List.flatMap_congr fun t ht => ?_
        have hlt : t.length < s.length + 1 := by simpa using (List.mem_filter.1 ht).2
        rw [List.length_cons] at h
        rw [ih n (Nat.lt_succ_self n) (by omega)]
        exact (ih s.length (by omega) (by omega)).symm

theorem rests_star (r : Regex) (s : List Char) :
    rests (star r) s = ((rests r s).filter fun t => t.length < s.length).flatMap (rests (star r)) ++ [s] := by
  cases s with
  | nil => simp [rests_repeats, repeats]
  | cons c s =>
    show repeats (rests r) (s.length + 1) (c :: s) = _
    rw [repeats]
    congr 1
    refine List.flatMap_congr fun t ht => ?_
    have hlt : t.length < s.length + 1 := by simpa using (List.mem_filter.1 ht).2
    exact repeats_enough (by omega)

theorem rests_star_one (p : Char → Bool) (c : Char) (s : List Char) :
    rests (star (one p)) (c :: s) = if p c then rests (star (one p)) s ++ [c :: s] else [c :: s] := by
  rw [rests_star, rests_one_cons]
  split
  · simp
  · rfl

theorem rests_star_nil (r : Regex) : rests (star r) [] = [[]] := by simp [rests_repeats, repeats]

theorem rests_seq_of_singleton {r t : Regex} {s q : List Char} (h : rests r s = [q]) :
    rests (seq r t) s = rests t q := by
  rw [rests_seq, h, List.flatMap_singleton]

/-- The preferred way through the first part is one through the whole. -/
theorem head?_rests_seq {r t : Regex} {s q u : List Char} (hr : (rests r s).head? = some q)
    (ht : (rests t q).head? = some u) : (rests (seq r t) s).head? = some u := by
  obtain ⟨qs, hqs⟩ := List.head?_eq_some_iff.1 hr
  rw [rests_seq, hqs, List.flatMap_cons, List.head?_append, ht]
  rfl

theorem head?_rests_alt {r t : Regex} {s q : List Char} (h : (rests r s).head? = some q) :
    (rests (alt r t) s).head? = some q := by
  rw [rests_alt, List.head?_append, h]
  rfl

theorem head?_rests_alt_right {r t : Regex} {s q : List Char} (hr : rests r s = []) (ht : (rests t s).head? = some q) :
    (rests (alt r t) s).head? = some q := by
  rw [rests_alt, hr, List.nil_append, ht]

/-- Greedy: the longest match comes first. -/
theorem head?_rests_star_one {p : Char → Bool} {v t : List Char} (hv : ∀ c ∈ v, p c = true)
    (ht : ∀ c ∈ t.head?, p c = false) : (rests (star (one p)) (v ++ t)).head? = some t := by
  induction v with
  | nil =>
    cases t with
    | nil => rw [List.nil_append, rests_star_nil]; rfl
    | cons c t =>
      have hc : p c = false := ht c rfl
      rw [List.nil_append, rests_star_one, hc]
      rfl
  | cons c v ih =>
    have hc := hv c List.mem_cons_self
    rw [List.cons_append, rests_star_one, if_pos hc, List.head?_append, ih fun d hd => hv d (List.mem_cons_of_mem c hd)]
    rfl

/-! ## Where an expression stops -/

/-- No match takes this character. -/
def avoids (d : Char) : Regex → Bool
  | empty => true
  | one p => !p d
  | seq r t => avoids d r && avoids d t
  | alt r t => avoids d r && avoids d t
  | star r => avoids d r

/-- Nothing is behind, or a text that starts with `d`. -/
inductive Stops (d : Char) : List Char → Prop
  | nil : Stops d []
  | cons (u : List Char) : Stops d (d :: u)

theorem repeats_append {step : List Char → List (List Char)} {u : List Char}
    (hstep : ∀ s, step (s ++ u) = (step s).map (· ++ u)) (n : Nat) (s : List Char) :
    repeats step n (s ++ u) = (repeats step n s).map (· ++ u) := by
  induction n generalizing s with
  | zero => rfl
  | succ n ih =>
    rw [repeats, repeats, hstep, List.map_append, List.filter_map, List.flatMap_map, List.map_flatMap]
    congr 1
    have hfilter : ((fun t => decide (t.length < (s ++ u).length)) ∘ fun t => t ++ u) =
        fun t : List Char => decide (t.length < s.length) := by
      funext t
      simp
    rw [hfilter]
    exact List.flatMap_congr fun t _ => ih t

/-- What is behind such a character does not matter. -/
theorem rests_append {d : Char} {r : Regex} (hr : avoids d r = true) {u : List Char} (hu : Stops d u) (s : List Char) :
    rests r (s ++ u) = (rests r s).map (· ++ u) := by
  induction r generalizing s with
  | empty => rfl
  | one p =>
    cases s with
    | nil =>
      cases hu with
      | nil => rfl
      | cons u =>
        have hp : p d = false := by simpa [avoids] using hr
        simp [rests_one_nil, rests_one_cons, hp]
    | cons c s =>
      simp only [List.cons_append, rests_one_cons]
      split <;> rfl
  | seq r t ihr iht =>
    rw [avoids, Bool.and_eq_true] at hr
    rw [rests_seq, rests_seq, ihr hr.1, List.flatMap_map, List.map_flatMap]
    exact List.flatMap_congr fun q _ => iht hr.2 q
  | alt r t ihr iht =>
    rw [avoids, Bool.and_eq_true] at hr
    rw [rests_alt, rests_alt, ihr hr.1, iht hr.2, List.map_append]
  | star r ih =>
    have hlong : repeats (rests r) (s ++ u).length s = repeats (rests r) s.length s := by
      apply repeats_enough
      rw [List.length_append]
      exact Nat.le_add_right _ _
    rw [rests_repeats, rests_repeats, repeats_append (ih hr), hlong]

/-! ## Replacing -/

/-- Every match takes something. -/
def Consumes (r : Regex) : Prop := ∀ s, ∀ t ∈ rests r s, t.length < s.length

theorem consumes_one (p : Char → Bool) : Consumes (one p) := by
  intro s t ht
  cases s with
  | nil => cases ht
  | cons c s =>
    rw [rests_one_cons] at ht
    split at ht
    · rw [List.mem_singleton.1 ht]
      exact Nat.lt_succ_self _
    · cases ht

theorem consumes_seq_right {r t : Regex} (ht : Consumes t) : Consumes (seq r t) := by
  intro s u hu
  obtain ⟨q, hq, hu⟩ := List.mem_flatMap.1 hu
  exact Nat.lt_of_lt_of_le (ht q u hu) (rests_suffix r s q hq).length_le

theorem consumes_seq_left {r t : Regex} (hr : Consumes r) : Consumes (seq r t) := by
  intro s u hu
  obtain ⟨q, hq, hu⟩ := List.mem_flatMap.1 hu
  exact Nat.lt_of_le_of_lt (rests_suffix t q u hu).length_le (hr s q hq)

section Sub

variable {r t : Regex} {f : List Char → List Char}

theorem first_eq_some {s q rest : List Char} (h : first r t s = some (q, rest)) : q ∈ rests r s ∧ rest ∈ rests t q := by
  obtain ⟨q', hq', hrest⟩ := List.mem_flatMap.1 (List.mem_of_mem_head? h)
  obtain ⟨rest', hrest', heq⟩ := List.mem_map.1 hrest
  obtain ⟨rfl, rfl⟩ := Prod.mk.inj heq
  exact ⟨hq', hrest'⟩

theorem length_of_first (hr : Consumes r) {s q rest : List Char} (h : first r t s = some (q, rest)) :
    rest.length < s.length := by
  obtain ⟨hq, hrest⟩ := first_eq_some h
  exact Nat.lt_of_le_of_lt (rests_suffix t q rest hrest).length_le (hr s q hq)

theorem subFrom_enough (hr : Consumes r) {n : Nat} {s : List Char} (h : s.length ≤ n) :
    subFrom r t f n s = sub r t f s := by
  unfold sub
  induction n using Nat.strongRecOn generalizing s with
  | ind n ih =>
    cases n with
    | zero => rw [Nat.le_zero.1 h]
    | succ n =>
      cases s with
      | nil => rfl
      | cons c s =>
        rw [List.length_cons] at h ⊢
        rw [subFrom, subFrom]
        cases hfirst : first r t (c :: s) with
        | none => rw [ih n (Nat.lt_succ_self n) (by omega)]
        | some found =>
          obtain ⟨q, rest⟩ := found
          have hlt := length_of_first hr hfirst
          rw [List.length_cons] at hlt
          exact congrArg _ ((ih n (Nat.lt_succ_self n) (by omega)).trans (ih s.length (by omega) (by omega)).symm)

theorem sub_none {c : Char} {s : List Char} (h : first r t (c :: s) = none) :
    sub r t f (c :: s) = c :: sub r t f s := by
  unfold sub
  rw [List.length_cons, subFrom, h]

theorem sub_some (hr : Consumes r) {s q rest : List Char} (h : first r t s = some (q, rest)) :
    sub r t f s = f (s.take (s.length - q.length)) ++ sub r t f rest := by
  cases s with
  | nil => exact absurd (length_of_first hr h) (Nat.not_lt_zero _)
  | cons c s =>
    have hlt := length_of_first hr h
    rw [List.length_cons] at hlt
    rw [sub, List.length_cons, subFrom, h]
    exact congrArg _ (subFrom_enough hr (by omega))

end Sub

end Regex
