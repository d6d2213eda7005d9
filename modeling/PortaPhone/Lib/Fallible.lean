import Mathlib.Data.List.Forall2
import Mathlib.Data.List.Perm.Basic
/-!
# Computations that may raise

What an `Except` computation that succeeds has done: in a sequence every part has succeeded, and a
mapped list has one result for each element, in order.
-/

namespace Fallible

variable {ε α β : Type}

theorem bind_ok {x : Except ε α} {f : α → Except ε β} {b : β} :
    (x >>= f) = .ok b ↔ ∃ a, x = .ok a ∧ f a = .ok b := by
  cases x with
  | error e => simp [bind, Except.bind]
  | ok a => simp [bind, Except.bind]

theorem mapError_ok {ε' : Type} {x : Except ε α} {f : ε → ε'} {a : α} : x.mapError f = .ok a ↔ x = .ok a := by
  cases x with
  | error e => simp [Except.mapError]
  | ok b => simp [Except.mapError]

theorem pure_ok {a b : α} : (pure a : Except ε α) = .ok b ↔ a = b := by
  simp [pure, Except.pure]

theorem mapM_ok {f : α → Except ε β} {l : List α} {l' : List β} :
    l.mapM f = .ok l' ↔ List.Forall₂ (fun a b => f a = .ok b) l l' := by
  induction l generalizing l' with
  | nil =>
    rw [List.mapM_nil, pure_ok, List.forall₂_nil_left_iff]
    exact eq_comm
  | cons a l ih =>
    simp only [List.mapM_cons, bind_ok, pure_ok, ih]
    constructor
    · rintro ⟨b, hb, bs, hbs, rfl⟩
      exact .cons hb hbs
    · rintro (_ | ⟨hb, hbs⟩)
      exact ⟨_, hb, _, hbs, rfl⟩

/-- A mapping that succeeds on every element. -/
theorem mapM_ok_map {f : α → Except ε β} {g : α → β} {l : List α} (h : ∀ a ∈ l, f a = .ok (g a)) :
    l.mapM f = .ok (l.map g) := by
  rw [mapM_ok]
  induction l with
  | nil => exact .nil
  | cons a l ih => exact .cons (h a List.mem_cons_self) (ih fun b hb => h b (List.mem_cons_of_mem _ hb))

theorem mapM_exists {f : α → Except ε β} {l : List α} (h : ∀ a ∈ l, ∃ b, f a = .ok b) : ∃ l', l.mapM f = .ok l' := by
  induction l with
  | nil => exact ⟨[], rfl⟩
  | cons a l ih =>
    obtain ⟨b, hb⟩ := h a List.mem_cons_self
    obtain ⟨l', hl'⟩ := ih fun c hc => h c (List.mem_cons_of_mem _ hc)
    exact ⟨b :: l', mapM_ok.2 (.cons hb (mapM_ok.1 hl'))⟩

theorem mapM_congr {f g : α → Except ε β} {l : List α} (h : ∀ a ∈ l, f a = g a) : l.mapM f = l.mapM g := by
  induction l with
  | nil => rfl
  | cons a l ih =>
    rw [List.mapM_cons, List.mapM_cons, h a List.mem_cons_self, ih fun b hb => h b (List.mem_cons_of_mem _ hb)]

theorem ok_bind (a : α) (f : α → Except ε β) : (Except.ok a >>= f) = f a := rfl

theorem error_bind (e : ε) (f : α → Except ε β) : (Except.error e >>= f) = .error e := rfl

theorem map_bind {γ : Type} (x : Except ε α) (g : α → β) (f : β → Except ε γ) :
    (x.map g >>= f) = (x >>= fun a => f (g a)) := by
  cases x with
  | error e => rfl
  | ok a => rfl

/-- A mapping and what is made of each result. -/
theorem mapM_map {γ : Type} (f : α → Except ε β) (g : β → γ) (l : List α) :
    l.mapM (fun a => (f a).map g) = (l.mapM f).map (List.map g) := by
  induction l with
  | nil => rfl
  | cons a l ih =>
    rw [List.mapM_cons, List.mapM_cons, ih, map_bind]
    cases f a with
    | error e => rfl
    | ok b =>
      cases l.mapM f with
      | error e => rfl
      | ok bs => rfl

/-- A mapping that succeeds on a list succeeds on every part of it. -/
theorem mapM_slice {f : α → Except ε β} {l : List α} {l' : List β} (h : l.mapM f = .ok l') (offset limit : Nat) :
    ((l.drop offset).take limit).mapM f = .ok ((l'.drop offset).take limit) :=
  mapM_ok.2 (List.forall₂_take _ (List.forall₂_drop _ (mapM_ok.1 h)))

/-- The results in another order of the elements. -/
theorem mapM_perm {f : α → Except ε β} {l k : List α} {l' : List β} (h : l.mapM f = .ok l') (hperm : k.Perm l) :
    ∃ k', k.mapM f = .ok k' ∧ k'.Perm l' := by
  obtain ⟨k', hk', hperm'⟩ := List.perm_comp_forall₂ hperm (mapM_ok.1 h)
  exact ⟨k', mapM_ok.2 hk', hperm'⟩

/-- Every result is that of an element. -/
theorem of_mem_mapM {f : α → Except ε β} {l : List α} {l' : List β} (h : l.mapM f = .ok l') {b : β} (hb : b ∈ l') :
    ∃ a ∈ l, f a = .ok b := by
  have hall := mapM_ok.1 h
  clear h
  induction hall with
  | nil => simp at hb
  | cons hab _ ih =>
    rcases List.mem_cons.1 hb with rfl | hb
    · exact ⟨_, List.mem_cons_self, hab⟩
    · obtain ⟨a, ha, hf⟩ := ih hb
      exact ⟨a, List.mem_cons_of_mem _ ha, hf⟩

/-- Every element has its result. -/
theorem mem_of_mapM {f : α → Except ε β} {l : List α} {l' : List β} (h : l.mapM f = .ok l') {a : α} (ha : a ∈ l) :
    ∃ b ∈ l', f a = .ok b := by
  have hall := mapM_ok.1 h
  clear h
  induction hall with
  | nil => simp at ha
  | cons hab _ ih =>
    rcases List.mem_cons.1 ha with rfl | ha
    · exact ⟨_, List.mem_cons_self, hab⟩
    · obtain ⟨b, hb, hf⟩ := ih ha
      exact ⟨b, List.mem_cons_of_mem _ hb, hf⟩

/-! ## Conditions that may raise -/

/-- `[a for a in l if p(a)]`. -/
def keep (p : α → Except ε Bool) : List α → Except ε (List α)
  | [] => .ok []
  | a :: l => do
    if ← p a then
      return a :: (← keep p l)
    keep p l

/-- The condition holds, and does not raise. -/
def holds (p : α → Except ε Bool) (a : α) : Bool :=
  match p a with
  | .ok b => b
  | .error _ => false

theorem keep_ok {p : α → Except ε Bool} {l k : List α} :
    keep p l = .ok k ↔ (∀ a ∈ l, ∃ b, p a = .ok b) ∧ k = l.filter (holds p) := by
  induction l generalizing k with
  | nil =>
    rw [keep, Except.ok.injEq]
    simp [eq_comm]
  | cons a l ih =>
    rw [keep, bind_ok]
    constructor
    · rintro ⟨b, hb, hk⟩
      cases b with
      | false =>
        obtain ⟨hall, rfl⟩ := ih.1 hk
        refine ⟨List.forall_mem_cons.2 ⟨⟨_, hb⟩, hall⟩, ?_⟩
        rw [List.filter_cons_of_neg (by simp [holds, hb])]
      | true =>
        simp only [if_true, bind_ok, pure_ok] at hk
        obtain ⟨rest, hrest, rfl⟩ := hk
        obtain ⟨hall, rfl⟩ := ih.1 hrest
        refine ⟨List.forall_mem_cons.2 ⟨⟨_, hb⟩, hall⟩, ?_⟩
        rw [List.filter_cons_of_pos (by simp [holds, hb])]
    · rintro ⟨hall, rfl⟩
      obtain ⟨⟨b, hb⟩, hall⟩ := List.forall_mem_cons.1 hall
      refine ⟨b, hb, ?_⟩
      cases b with
      | false =>
        rw [List.filter_cons_of_neg (by simp [holds, hb])]
        exact ih.2 ⟨hall, rfl⟩
      | true =>
        rw [List.filter_cons_of_pos (by simp [holds, hb])]
        simp only [if_true, bind_ok, pure_ok]
        exact ⟨_, ih.2 ⟨hall, rfl⟩, rfl⟩

/-- A condition that does not raise on what the elements are mapped to. -/
theorem keep_map {p : β → Except ε Bool} {f : α → β} {q : α → Bool} {l : List α} (h : ∀ a ∈ l, p (f a) = .ok (q a)) :
    keep p (l.map f) = .ok ((l.filter q).map f) := by
  rw [keep_ok]
  refine ⟨List.forall_mem_map.2 fun a ha => ⟨_, h a ha⟩, ?_⟩
  rw [List.filter_map]
  congr 1
  refine List.filter_congr fun a ha => ?_
  rw [Function.comp_apply, holds, h a ha]

/-- A loop that appends what it makes of the elements that meet a condition. -/
theorem mapM_of_loop {p : α → Except ε Bool} {f : α → Except ε β} {l : List α} {appended : List (Option β)}
    (h : l.mapM (fun a => do if ← p a then return some (← f a) else return none) = .ok appended) :
    (∀ a ∈ l, ∃ b, p a = .ok b) ∧ (l.filter (holds p)).mapM f = .ok (appended.filterMap id) := by
  induction l generalizing appended with
  | nil =>
    rw [List.mapM_nil, pure_ok] at h
    subst h
    exact ⟨nofun, rfl⟩
  | cons a l ih =>
    simp only [List.mapM_cons, bind_ok, pure_ok] at h
    obtain ⟨result, ⟨b, hb, hresult⟩, rest, hrest, rfl⟩ := h
    obtain ⟨hall, hkept⟩ := ih hrest
    refine ⟨List.forall_mem_cons.2 ⟨⟨b, hb⟩, hall⟩, ?_⟩
    cases b with
    | false =>
      obtain rfl := pure_ok.1 hresult
      rw [List.filter_cons_of_neg (by simp [holds, hb])]
      exact hkept
    | true =>
      simp only [if_true, bind_ok, pure_ok] at hresult
      obtain ⟨made, hmade, rfl⟩ := hresult
      rw [List.filter_cons_of_pos (by simp [holds, hb]), List.mapM_cons, hmade, ok_bind, hkept]
      rfl

end Fallible
