import Mathlib.Logic.Function.Basic
import PortaPhone.Lib.Machine
/-!
# Registers that many clients write

Registers `ρ` hold values in `α`. A client writes its values one after the other; a write may be carried out, and it
may be confirmed, which it is only when it has been carried out. A client gives up at the first write that is not
confirmed. The writes of all clients come in any order, with others from outside.

What a register holds has been written (`origin`), and where all writes to a register agree, a client that has come to
its end finds its value there, whatever the others do to other registers (`settled`).
-/

namespace Registers

open Machine

variable {ρ α : Type}

structure Client (ρ α : Type) where
  writes : List (ρ × α)
  sent : Nat := 0
  failed : Bool := false

/-- All its writes were confirmed. -/
def Client.Completed (c : Client ρ α) : Prop := c.failed = false ∧ c.writes.length ≤ c.sent

structure State (ρ α : Type) where
  store : ρ → α
  clients : List (Client ρ α) := []

inductive Event (ρ α : Type)
  | start (writes : List (ρ × α))
  | write (i : Nat) (carriedOut confirmed : Bool)
  | outside (r : ρ) (a : α)

variable [DecidableEq ρ]

/-- What is left of a client after its next write. -/
def Client.after (c : Client ρ α) (confirmed : Bool) : Client ρ α :=
  if confirmed then { c with sent := c.sent + 1 } else { c with failed := true }

def step (s : State ρ α) : Event ρ α → Option (State ρ α)
  | .start writes => some { s with clients := s.clients ++ [{ writes }] }
  | .write i carriedOut confirmed => do
    let c ← s.clients[i]?
    if c.failed ∨ (confirmed ∧ carriedOut = false) then none
    else
      let (r, a) ← c.writes[c.sent]?
      some { store := if carriedOut then Function.update s.store r a else s.store
             clients := s.clients.set i (c.after confirmed) }
  | .outside r a => some { s with store := Function.update s.store r a }

variable {s s' t : State ρ α} {es : List (Event ρ α)} {r : ρ} {a v : α}

/-- What a write does. -/
theorem step_write {i : Nat} {carriedOut confirmed : Bool} (h : step s (.write i carriedOut confirmed) = some s') :
    ∃ c q b, s.clients[i]? = some c ∧ c.failed = false ∧ c.writes[c.sent]? = some (q, b) ∧
      (confirmed = true → carriedOut = true) ∧
        s'.store = (if carriedOut then Function.update s.store q b else s.store) ∧
        s'.clients = s.clients.set i (c.after confirmed) := by
  simp only [step, Option.bind_eq_bind, Option.bind_eq_some_iff] at h
  obtain ⟨c, hc, h⟩ := h
  split at h
  · cases h
  · rename_i hguard
    rw [not_or, not_and, Bool.not_eq_true, Bool.not_eq_false] at hguard
    obtain ⟨⟨q, b⟩, hqb, h⟩ := Option.bind_eq_some_iff.1 h
    obtain rfl := Option.some.inj h
    exact ⟨c, q, b, hc, hguard.1, hqb, hguard.2, rfl, rfl⟩

/-- The writes of a client are those it was started with. -/
theorem started (h₀ : s.clients = []) (hrun : exec step s es = some t) :
    ∀ c ∈ t.clients, Event.start c.writes ∈ es := by
  refine exec_induction (P := fun es t => ∀ c ∈ t.clients, Event.start c.writes ∈ es) (by simp [h₀]) ?_ hrun
  intro fs m e m' _ ih hstep c hc
  rw [List.mem_append, List.mem_singleton]
  cases e with
  | start writes =>
    obtain rfl := Option.some.inj hstep
    rcases List.mem_append.1 hc with hc | hc
    · exact .inl (ih c hc)
    · rw [List.mem_singleton.1 hc]
      exact .inr rfl
  | write i carriedOut confirmed =>
    obtain ⟨d, -, -, hd, -, -, -, -, hclients⟩ := step_write hstep
    rw [hclients] at hc
    rcases List.mem_or_eq_of_mem_set hc with hc | rfl
    · exact .inl (ih c hc)
    · have hstart := ih d (List.mem_of_getElem? hd)
      cases confirmed <;> exact .inl hstart
  | outside q b =>
    obtain rfl := Option.some.inj hstep
    exact .inl (ih c hc)

/-- The run has a write of this value to the register. -/
def Writes (es : List (Event ρ α)) (r : ρ) (a : α) : Prop :=
  .outside r a ∈ es ∨ ∃ writes, .start writes ∈ es ∧ (r, a) ∈ writes

omit [DecidableEq ρ] in
theorem Writes.append {fs : List (Event ρ α)} (h : Writes es r a) : Writes (es ++ fs) r a := by
  rcases h with h | ⟨writes, h, hmem⟩
  · exact .inl (List.mem_append_left _ h)
  · exact .inr ⟨writes, List.mem_append_left _ h, hmem⟩

/-- **What a register holds** is its first value, or one that the run writes to it. -/
theorem origin (h₀ : s.clients = []) (hrun : exec step s es = some t) (r : ρ) :
    t.store r = s.store r ∨ Writes es r (t.store r) := by
  refine exec_induction (P := fun es t => t.store r = s.store r ∨ Writes es r (t.store r)) (.inl rfl) ?_ hrun
  intro fs m e m' hfs ih hstep
  have keep : m'.store r = m.store r → m'.store r = s.store r ∨ Writes (fs ++ [e]) r (m'.store r) := by
    intro hsame
    rw [hsame]
    exact ih.imp_right Writes.append
  cases e with
  | start writes =>
    obtain rfl := Option.some.inj hstep
    exact keep rfl
  | write i carriedOut confirmed =>
    obtain ⟨c, q, b, hc, -, hqb, -, hstore, -⟩ := step_write hstep
    by_cases hwritten : carriedOut = true ∧ r = q
    · obtain ⟨rfl, rfl⟩ := hwritten
      right
      rw [hstore, if_pos rfl, Function.update_self]
      exact .inr ⟨c.writes, List.mem_append_left _ (started h₀ hfs c (List.mem_of_getElem? hc)),
        List.mem_of_getElem? hqb⟩
    · apply keep
      rw [hstore]
      split
      · rename_i hcarried
        exact Function.update_of_ne (fun hr => hwritten ⟨hcarried, hr⟩) _ _
      · rfl
  | outside q b =>
    obtain rfl := Option.some.inj hstep
    by_cases hr : r = q
    · subst hr
      refine .inr (.inl ?_)
      show Event.outside r (Function.update m.store r b r) ∈ _
      rw [Function.update_self]
      simp
    · exact keep (Function.update_of_ne hr _ _)

/-- **No lost update.** Where all that is written to a register is the same value, it holds that value as soon as a
client that writes it has completed. -/
theorem settled (h₀ : s.clients = []) (hrun : exec step s es = some t) (hsame : ∀ a, Writes es r a → a = v)
    {c : Client ρ α} (hc : c ∈ t.clients) (hdone : c.Completed) (hr : ∃ a, (r, a) ∈ c.writes) : t.store r = v := by
  -- the invariant: once a client has got past a write to the register, the value is there
  have main : (∀ a, Writes es r a → a = v) → ∀ c ∈ t.clients, ∀ k a,
      k < c.sent → c.writes[k]? = some (r, a) → t.store r = v := by
    refine exec_induction (P := fun es t => (∀ a, Writes es r a → a = v) →
      ∀ c ∈ t.clients, ∀ k a, k < c.sent → c.writes[k]? = some (r, a) → t.store r = v) (by simp [h₀]) ?_ hrun
    intro fs m e m' hfs ih hstep hsame c hc k a hk ha
    have ih := ih fun a ha => hsame a ha.append
    cases e with
    | start writes =>
      obtain rfl := Option.some.inj hstep
      rcases List.mem_append.1 hc with hc | hc
      · exact ih c hc k a hk ha
      · rw [List.mem_singleton.1 hc] at hk
        exact absurd hk (Nat.not_lt_zero k)
    | outside q b =>
      obtain rfl := Option.some.inj hstep
      by_cases hr : r = q
      · subst hr
        exact (Function.update_self _ _ _).trans (hsame b (.inl (by simp)))
      · exact (Function.update_of_ne hr _ _).trans (ih c hc k a hk ha)
    | write i carriedOut confirmed =>
      obtain ⟨d, q, b, hd, -, hqb, hconfirmed, hstore, hclients⟩ := step_write hstep
      have hwrites : Writes (fs ++ [.write i carriedOut confirmed]) q b :=
        .inr ⟨d.writes, List.mem_append_left _ (started h₀ hfs d (List.mem_of_getElem? hd)), List.mem_of_getElem? hqb⟩
      have kept : m.store r = v → m'.store r = v := by
        intro hv
        rw [hstore]
        split
        · by_cases hr : r = q
          · subst hr
            exact (Function.update_self _ _ _).trans (hsame b hwrites)
          · exact (Function.update_of_ne hr _ _).trans hv
        · exact hv
      rw [hclients] at hc
      rcases List.mem_or_eq_of_mem_set hc with hc | rfl
      · exact kept (ih c hc k a hk ha)
      · cases confirmed with
        | false => exact kept (ih d (List.mem_of_getElem? hd) k a hk ha)
        | true =>
          rcases Nat.lt_or_eq_of_le (Nat.le_of_lt_succ hk) with hk | rfl
          · exact kept (ih d (List.mem_of_getElem? hd) k a hk ha)
          · -- the write that has just been confirmed is the one to this register
            obtain ⟨rfl, rfl⟩ := Prod.mk.inj (Option.some.inj (hqb.symm.trans ha))
            rw [hstore, if_pos (hconfirmed rfl), Function.update_self]
            exact hsame b hwrites
  obtain ⟨a, ha⟩ := hr
  obtain ⟨k, hk, hget⟩ := List.getElem_of_mem ha
  exact main hsame c hc k a (Nat.lt_of_lt_of_le hk hdone.2) (List.getElem?_eq_some_iff.2 ⟨hk, hget⟩)

end Registers
