import Mathlib.Logic.Function.Iterate
/-!
# Programs that run by themselves

A program is a step function `σ → σ`, which leaves alone the states in which it has ended. `Leads` says that it
comes to a state with a property, `Always` that every state it comes to has one.
-/

namespace Iterate

variable {σ : Type _} {next : σ → σ} {P Q : σ → Prop} {c : σ}

def Leads (next : σ → σ) (P : σ → Prop) (c : σ) : Prop := ∃ k, P (next^[k] c)

def Always (next : σ → σ) (P : σ → Prop) (c : σ) : Prop := ∀ k, P (next^[k] c)

theorem Leads.here (h : P c) : Leads next P c := ⟨0, h⟩

theorem Leads.step (h : Leads next P (next c)) : Leads next P c := by
  obtain ⟨k, hk⟩ := h
  exact ⟨k + 1, by rwa [Function.iterate_succ_apply]⟩

theorem Always.here (h : Always next P c) : P c := h 0

theorem Always.iterate (h : Always next P c) (k : Nat) : Always next P (next^[k] c) := by
  intro j
  rw [← Function.iterate_add_apply]
  exact h (j + k)

theorem Always.step (h : Always next P c) : Always next P (next c) := h.iterate 1

/-- One after the other. -/
theorem Leads.trans (h : Leads next P c) (hPQ : ∀ k, P (next^[k] c) → Leads next Q (next^[k] c)) :
    Leads next Q c := by
  obtain ⟨k, hk⟩ := h
  obtain ⟨j, hj⟩ := hPQ k hk
  exact ⟨j + k, by rwa [Function.iterate_add_apply]⟩

/-- What is reached under a property that holds always. -/
theorem Leads.trans_always (h : Leads next P c) (hR : Always next Q c) {R : σ → Prop}
    (hPR : ∀ d, P d → Always next Q d → Leads next R d) : Leads next R c :=
  h.trans fun k hk => hPR _ hk (hR.iterate k)

end Iterate
