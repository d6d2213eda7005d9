import PortaPhone.Lib.Machine
/-!
# Tasks that share resources

A task is a program (`Proc`) that takes units of resources and gives them back, between actions that are
answered from outside. Waiting for a unit may be cancelled. `Safe` is the discipline of a program: it takes
a resource only above all that it holds, holds what its actions need, and ends with what it began with.

Tasks that keep to it never use more units than there are (`Inv.conserved`, `doing_le`), and one that waits is
never stuck: after steps of tasks that do not wait, a task that waits goes on (`canProceed`).
-/

namespace Tasks

open Machine

/-- Resources `ρ`, actions `ε` with answers in `ω`. -/
inductive Proc (ρ ε ω α : Type)
  | pure (a : α)
  /-- `false` says that the wait was cancelled. -/
  | acquire (r : ρ) (k : Bool → Proc ρ ε ω α)
  | release (r : ρ) (k : Proc ρ ε ω α)
  | act (e : ε) (k : ω → Proc ρ ε ω α)

variable {ρ ε ω α β ι : Type}

def Proc.bind : Proc ρ ε ω α → (α → Proc ρ ε ω β) → Proc ρ ε ω β
  | .pure a, f => f a
  | .acquire r k, f => .acquire r fun got => (k got).bind f
  | .release r k, f => .release r (k.bind f)
  | .act e k, f => .act e fun a => (k a).bind f

instance : Monad (Proc ρ ε ω) where
  pure := .pure
  bind := .bind

/-! ## Discipline -/

/-- The order in which resources are taken, and what an action is done under. -/
structure Rules (ρ ε : Type) where
  rank : ρ → Nat
  needs : ε → Option ρ

variable [DecidableEq ρ]

/-- From holding `held` the program keeps to the rules, and it ends holding `post`. -/
def Safe (R : Rules ρ ε) (post : List ρ) : Proc ρ ε ω α → List ρ → Prop
  | .pure _, held => held = post
  | .acquire r k, held =>
    (∀ q ∈ held, R.rank q < R.rank r) ∧ Safe R post (k true) (r :: held) ∧ Safe R post (k false) held
  | .release r k, held => r ∈ held ∧ Safe R post k (held.erase r)
  | .act e k, held => (∀ r, R.needs e = some r → r ∈ held) ∧ ∀ a, Safe R post (k a) held

variable {R : Rules ρ ε}

theorem Safe.bind {p : Proc ρ ε ω α} {f : α → Proc ρ ε ω β} {held mid post : List ρ} (hp : Safe R mid p held)
    (hf : ∀ a, Safe R post (f a) mid) : Safe R post (p >>= f) held := by
  show Safe R post (p.bind f) held
  induction p generalizing held with
  | pure a =>
    obtain rfl : held = mid := hp
    exact hf a
  | acquire r k ih => exact ⟨hp.1, ih true hp.2.1, ih false hp.2.2⟩
  | release r k ih => exact ⟨hp.1, ih hp.2⟩
  | act e k ih => exact ⟨hp.1, fun a => ih a (hp.2 a)⟩

/-! ### Code that raises -/

section Code

variable {φ : Type}

/-- The code takes and gives back what it uses, also when it raises. -/
def Neutral (R : Rules ρ ε) (held : List ρ) (x : ExceptT φ (Proc ρ ε ω) α) : Prop := Safe R held x.run held

/-- `async with r: x`. Waiting for `r` may be cancelled. -/
def withResource (cancelled : φ) (r : ρ) (x : ExceptT φ (Proc ρ ε ω) α) : ExceptT φ (Proc ρ ε ω) α :=
  ExceptT.mk (.acquire r fun got => if got then x.run >>= fun result => .release r (.pure result)
    else .pure (.error cancelled))

variable {held : List ρ} {x : ExceptT φ (Proc ρ ε ω) α}

theorem Neutral.pure (a : α) : Neutral R held (pure a : ExceptT φ (Proc ρ ε ω) α) := rfl

theorem Neutral.throw (e : φ) : Neutral R held (throw e : ExceptT φ (Proc ρ ε ω) α) := rfl

theorem Neutral.bind {f : α → ExceptT φ (Proc ρ ε ω) β} (hx : Neutral R held x) (hf : ∀ a, Neutral R held (f a)) :
    Neutral R held (x >>= f) := by
  apply Safe.bind hx
  intro result
  cases result with
  | ok a => exact hf a
  | error e => exact rfl

theorem Neutral.tryCatch {handle : φ → ExceptT φ (Proc ρ ε ω) α} (hx : Neutral R held x)
    (hhandle : ∀ e, Neutral R held (handle e)) : Neutral R held (tryCatch x handle) := by
  apply Safe.bind hx
  intro result
  cases result with
  | ok a => exact rfl
  | error e => exact hhandle e

theorem Neutral.withResource {cancelled : φ} {r : ρ} (hrank : ∀ q ∈ held, R.rank q < R.rank r)
    (hx : Neutral R (r :: held) x) : Neutral R held (withResource cancelled r x) := by
  refine ⟨hrank, Safe.bind hx fun result => ⟨List.mem_cons_self, ?_⟩, rfl⟩
  show (r :: held).erase r = held
  simp

end Code

/-! ## Runs -/

structure Task (ρ ε ω α : Type) where
  prog : Proc ρ ε ω α
  held : List ρ

/-- The units that are free, and the tasks, each under its index. -/
structure State (ρ ε ω α : Type) where
  free : ρ → Nat
  tasks : List (Task ρ ε ω α)

inductive Event (ι ω : Type)
  | start (request : ι)
  | acquire (i : Nat)
  | cancel (i : Nat)
  | release (i : Nat)
  | answer (i : Nat) (a : ω)

def State.advance (s : State ρ ε ω α) (i : Nat) (t : Task ρ ε ω α) : State ρ ε ω α :=
  { s with tasks := s.tasks.set i t }

def State.setFree (s : State ρ ε ω α) (r : ρ) (n : Nat) : State ρ ε ω α :=
  { s with free := fun q => if q = r then n else s.free q }

/-- One step of a task, or the start of one. -/
def step (program : ι → Proc ρ ε ω α) (s : State ρ ε ω α) : Event ι ω → Option (State ρ ε ω α)
  | .start request => some { s with tasks := s.tasks ++ [⟨program request, []⟩] }
  | .acquire i => match s.tasks[i]? with
    | some ⟨.acquire r k, held⟩ =>
      if 0 < s.free r then some ((s.setFree r (s.free r - 1)).advance i ⟨k true, r :: held⟩) else none
    | _ => none
  | .cancel i => match s.tasks[i]? with
    | some ⟨.acquire _ k, held⟩ => some (s.advance i ⟨k false, held⟩)
    | _ => none
  | .release i => match s.tasks[i]? with
    | some ⟨.release r k, held⟩ => some ((s.setFree r (s.free r + 1)).advance i ⟨k, held.erase r⟩)
    | _ => none
  | .answer i a => match s.tasks[i]? with
    | some ⟨.act _ k, held⟩ => some (s.advance i ⟨k a, held⟩)
    | _ => none

def Task.ended (t : Task ρ ε ω α) : Bool :=
  match t.prog with
  | .pure _ => true
  | _ => false

def Task.waiting (t : Task ρ ε ω α) : Bool :=
  match t.prog with
  | .acquire _ _ => true
  | _ => false

/-- The task is in an action with `p`. -/
def Task.doing (p : ε → Bool) (t : Task ρ ε ω α) : Bool :=
  match t.prog with
  | .act e _ => p e
  | _ => false

def Task.holds (r : ρ) (t : Task ρ ε ω α) : Bool := t.held.contains r

/-! ## What every run keeps -/

structure Inv (R : Rules ρ ε) (capacity : ρ → Nat) (s : State ρ ε ω α) : Prop where
  safe : ∀ t ∈ s.tasks, Safe R [] t.prog t.held
  nodup : ∀ t ∈ s.tasks, t.held.Nodup
  conserved : ∀ r, s.free r + s.tasks.countP (Task.holds r) = capacity r

theorem Inv.mem {capacity : ρ → Nat} {s : State ρ ε ω α} (h : Inv R capacity s) {i : Nat} {t : Task ρ ε ω α}
    (ht : s.tasks[i]? = some t) : Safe R [] t.prog t.held ∧ t.held.Nodup :=
  ⟨h.safe t (List.mem_of_getElem? ht), h.nodup t (List.mem_of_getElem? ht)⟩

/-- A task that goes on, with what it holds then. -/
theorem Inv.advance {capacity : ρ → Nat} {s : State ρ ε ω α} (h : Inv R capacity s) {i : Nat} {t t' : Task ρ ε ω α}
    (ht : s.tasks[i]? = some t) {free : ρ → Nat} (hsafe : Safe R [] t'.prog t'.held) (hnodup : t'.held.Nodup)
    (hfree : ∀ r, free r + (if t'.holds r then 1 else 0) = s.free r + (if t.holds r then 1 else 0)) :
    Inv R capacity ⟨free, s.tasks.set i t'⟩ := by
  refine ⟨fun u hu => ?_, fun u hu => ?_, fun r => ?_⟩
  · rcases List.mem_or_eq_of_mem_set hu with hu | rfl
    · exact h.safe u hu
    · exact hsafe
  · rcases List.mem_or_eq_of_mem_set hu with hu | rfl
    · exact h.nodup u hu
    · exact hnodup
  · have hcount := countP_set_add ht t' (Task.holds r)
    have hr := hfree r
    have hold := h.conserved r
    dsimp only at hcount ⊢
    omega

/-- **Step lemma.** -/
theorem inv_step {program : ι → Proc ρ ε ω α} (hprogram : ∀ q, Safe R [] (program q) []) {capacity : ρ → Nat}
    {s s' : State ρ ε ω α} {e : Event ι ω} (h : Inv R capacity s) (hstep : step program s e = some s') :
    Inv R capacity s' := by
  cases e with
  | start request =>
    obtain rfl := Option.some.inj hstep
    refine ⟨fun t ht => ?_, fun t ht => ?_, fun r => ?_⟩
    · rcases List.mem_append.1 ht with ht | ht
      · exact h.safe t ht
      · obtain rfl := List.mem_singleton.1 ht
        exact hprogram request
    · rcases List.mem_append.1 ht with ht | ht
      · exact h.nodup t ht
      · obtain rfl := List.mem_singleton.1 ht
        exact List.nodup_nil
    · simpa [Task.holds] using h.conserved r
  | acquire i =>
    simp only [step] at hstep
    split at hstep
    · rename_i r k held ht
      split at hstep
      · rename_i hfree
        obtain rfl := Option.some.inj hstep
        obtain ⟨⟨hrank, hsafe, _⟩, hnodup⟩ := h.mem ht
        have hnew : r ∉ held := fun hr => Nat.lt_irrefl _ (hrank r hr)
        refine h.advance ht hsafe (List.nodup_cons.2 ⟨hnew, hnodup⟩) fun q => ?_
        by_cases hq : q = r
        · subst hq
          simp [Task.holds, hnew, State.setFree]
          omega
        · simp [Task.holds, hq, State.setFree]
      · cases hstep
    · cases hstep
  | cancel i =>
    simp only [step] at hstep
    split at hstep
    · rename_i r k held ht
      obtain rfl := Option.some.inj hstep
      obtain ⟨⟨_, _, hsafe⟩, hnodup⟩ := h.mem ht
      exact h.advance ht hsafe hnodup fun _ => rfl
    · cases hstep
  | release i =>
    simp only [step] at hstep
    split at hstep
    · rename_i r k held ht
      obtain rfl := Option.some.inj hstep
      obtain ⟨⟨hmem, hsafe⟩, hnodup⟩ := h.mem ht
      apply h.advance ht hsafe (hnodup.erase r)
      intro q
      by_cases hq : q = r
      · subst hq
        simp [Task.holds, hmem, hnodup.not_mem_erase, State.setFree]
      · simp [Task.holds, hq, List.mem_erase_of_ne, State.setFree]
    · cases hstep
  | answer i a =>
    simp only [step] at hstep
    split at hstep
    · rename_i e k held ht
      obtain rfl := Option.some.inj hstep
      obtain ⟨⟨_, hsafe⟩, hnodup⟩ := h.mem ht
      exact h.advance ht (hsafe a) hnodup fun _ => rfl
    · cases hstep

/-- **Run lemma.** From no tasks and all units free. -/
theorem inv_exec {program : ι → Proc ρ ε ω α} (hprogram : ∀ q, Safe R [] (program q) []) {capacity : ρ → Nat}
    {s : State ρ ε ω α} {es : List (Event ι ω)} (hrun : exec (step program) ⟨capacity, []⟩ es = some s) :
    Inv R capacity s :=
  along_invariant (I := Inv R capacity) ⟨by simp, by simp, by simp⟩
    (along_of_forall (D := fun _ => True) fun _ _ => trivial)
    (fun _ _ _ hm _ hstep => inv_step hprogram hm hstep) hrun

/-! ## What follows -/

/-- At most as many tasks are in the actions that need a resource as there are units of it. -/
theorem Inv.doing_le {capacity : ρ → Nat} {s : State ρ ε ω α} (h : Inv R capacity s) {p : ε → Bool} {r : ρ}
    (hp : ∀ e, p e = true → R.needs e = some r) : s.tasks.countP (Task.doing p) ≤ capacity r := by
  have hle : s.tasks.countP (Task.doing p) ≤ s.tasks.countP (Task.holds r) := by
    apply List.countP_mono_left
    intro t ht hdoing
    have hsafe := h.safe t ht
    obtain ⟨prog, held⟩ := t
    cases prog with
    | act e k => exact List.contains_iff_mem.2 (hsafe.1 r (hp e hdoing))
    | pure a => cases hdoing
    | acquire q k => cases hdoing
    | release q k => cases hdoing
  have := h.conserved r
  omega

theorem Inv.held_of_ended {capacity : ρ → Nat} {s : State ρ ε ω α} (h : Inv R capacity s) {t : Task ρ ε ω α}
    (ht : t ∈ s.tasks) (hended : t.ended = true) : t.held = [] := by
  have hsafe := h.safe t ht
  obtain ⟨prog, held⟩ := t
  cases prog with
  | pure a => exact hsafe
  | acquire q k => cases hended
  | release q k => cases hended
  | act e k => cases hended

/-- A task that waits holds only what is below the resource that it waits for. -/
theorem Inv.rank_lt {capacity : ρ → Nat} {s : State ρ ε ω α} (h : Inv R capacity s) {i : Nat} {r : ρ}
    {k : Bool → Proc ρ ε ω α} {held : List ρ} (ht : s.tasks[i]? = some ⟨.acquire r k, held⟩) :
    ∀ q ∈ held, R.rank q < R.rank r := (h.mem ht).1.1

/-! ## Progress -/

/-- The steps of tasks that do not wait. -/
def Event.works : Event ι ω → Bool
  | .release _ | .answer _ _ => true
  | .start _ | .acquire _ | .cancel _ => false

/-- After steps of tasks that do not wait, one that waits takes what it waits for. -/
def CanProceed (program : ι → Proc ρ ε ω α) (s : State ρ ε ω α) : Prop :=
  ∃ es s' s'' i, (∀ e ∈ es, Event.works e = true) ∧ exec (step program) s es = some s' ∧
    step program s' (.acquire i) = some s''

variable {program : ι → Proc ρ ε ω α} {s s' : State ρ ε ω α} {capacity : ρ → Nat}

theorem CanProceed.of_step {e : Event ι ω} (he : e.works = true) (hstep : step program s e = some s')
    (h : CanProceed program s') : CanProceed program s := by
  obtain ⟨es, t, t', i, hes, hexec, hacquire⟩ := h
  exact ⟨e :: es, t, t', i, List.forall_mem_cons.2 ⟨he, hes⟩, exec_cons.2 ⟨s', hstep, hexec⟩, hacquire⟩

theorem canProceed_of_free {i : Nat} {r : ρ} {k : Bool → Proc ρ ε ω α} {held : List ρ}
    (ht : s.tasks[i]? = some ⟨.acquire r k, held⟩) (hfree : 0 < s.free r) : CanProceed program s := by
  have hstep : step program s (.acquire i) =
      some ((s.setFree r (s.free r - 1)).advance i ⟨k true, r :: held⟩) := by
    simp only [step, ht, if_pos hfree]
  exact ⟨[], s, _, i, by simp, rfl, hstep⟩

/-- When no unit is free, a task holds one. -/
theorem Inv.holder (h : Inv R capacity s) {r : ρ} (hcap : 0 < capacity r) (hfree : ¬ 0 < s.free r) :
    ∃ (j : Nat) (t : Task ρ ε ω α), s.tasks[j]? = some t ∧ r ∈ t.held := by
  have hcount : 0 < s.tasks.countP (Task.holds r) := by
    have := h.conserved r
    omega
  obtain ⟨t, ht, hholds⟩ := List.countP_pos_iff.1 hcount
  obtain ⟨j, hj⟩ := List.mem_iff_getElem?.1 ht
  exact ⟨j, t, hj, List.contains_iff_mem.1 hholds⟩

/-- The holder of a resource works until it gives it back, or waits for a resource above it. -/
theorem canProceed_of_holder [Inhabited ω] (hprogram : ∀ q, Safe R [] (program q) []) {r : ρ}
    (habove : ∀ (s : State ρ ε ω α) (j : Nat) (q : ρ) (k : Bool → Proc ρ ε ω α) (held : List ρ), Inv R capacity s →
      R.rank r < R.rank q → s.tasks[j]? = some ⟨.acquire q k, held⟩ → CanProceed program s)
    {i j : Nat} (hij : i ≠ j) {k : Bool → Proc ρ ε ω α} {held : List ρ} (p : Proc ρ ε ω α) :
    ∀ (s : State ρ ε ω α) (holding : List ρ), Inv R capacity s → s.tasks[i]? = some ⟨.acquire r k, held⟩ →
      s.tasks[j]? = some ⟨p, holding⟩ → r ∈ holding → CanProceed program s := by
  induction p with
  | pure a =>
    intro s holding h _ hj hr
    obtain rfl : holding = [] := (h.mem hj).1
    cases hr
  | acquire q kq _ =>
    intro s holding h _ hj hr
    exact habove s j q kq holding h (h.rank_lt hj r hr) hj
  | release q p ih =>
    intro s holding h hi hj hr
    have hstep : step program s (.release j) =
        some ((s.setFree q (s.free q + 1)).advance j ⟨p, holding.erase q⟩) := by
      simp only [step, hj]
    have hlt : j < s.tasks.length := (List.getElem?_eq_some_iff.1 hj).1
    have hi' : ((s.setFree q (s.free q + 1)).advance j ⟨p, holding.erase q⟩).tasks[i]? =
        some ⟨.acquire r k, held⟩ := (List.getElem?_set_ne (Ne.symm hij)).trans hi
    refine CanProceed.of_step rfl hstep ?_
    by_cases hq : q = r
    · subst hq
      refine canProceed_of_free hi' ?_
      simp [State.advance, State.setFree]
    · refine ih _ _ (inv_step hprogram h hstep) hi' ?_ ((List.mem_erase_of_ne (Ne.symm hq)).2 hr)
      exact List.getElem?_set_self hlt
  | act e p ih =>
    intro s holding h hi hj hr
    have hstep : step program s (.answer j default) = some (s.advance j ⟨p default, holding⟩) := by
      simp only [step, hj]
    have hlt : j < s.tasks.length := (List.getElem?_eq_some_iff.1 hj).1
    exact CanProceed.of_step rfl hstep (ih default _ _ (inv_step hprogram h hstep)
      ((List.getElem?_set_ne (Ne.symm hij)).trans hi) (List.getElem?_set_self hlt) hr)

/-- **Progress.** Whenever a task waits, one that waits can go on. The induction is on how far the
resource is below the highest one. -/
theorem canProceed [Inhabited ω] (hprogram : ∀ q, Safe R [] (program q) []) (hcap : ∀ r, 0 < capacity r) {top : Nat}
    (htop : ∀ r, R.rank r ≤ top) (h : Inv R capacity s) {i : Nat} {r : ρ} {k : Bool → Proc ρ ε ω α} {held : List ρ}
    (ht : s.tasks[i]? = some ⟨.acquire r k, held⟩) : CanProceed program s := by
  obtain ⟨n, hn⟩ : ∃ n, top - R.rank r = n := ⟨_, rfl⟩
  induction n using Nat.strongRecOn generalizing s i r k held with
  | ind n ih =>
    by_cases hfree : 0 < s.free r
    · exact canProceed_of_free ht hfree
    · obtain ⟨j, ⟨p, holding⟩, hj, hr⟩ := h.holder (hcap r) hfree
      have hij : i ≠ j := by
        rintro rfl
        cases ht.symm.trans hj
        exact Nat.lt_irrefl _ (h.rank_lt ht r hr)
      refine canProceed_of_holder hprogram (fun s j q k held hinv hlt hj => ?_) hij p s holding h ht hj hr
      have := htop q
      exact ih (top - R.rank q) (by omega) hinv hj rfl

end Tasks
