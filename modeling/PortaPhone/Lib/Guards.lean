import PortaPhone.Lib.Requests
/-!
# Requests that have to be allowed

`G before r` says that `r` may be sent after the requests `before`. A log is guarded if each of its requests was
allowed after those that come before it, and `Guards` is a triple: from a guarded log that meets `P` a computation
sends allowed requests only, whether it succeeds or fails, and where it succeeds, its result and the log meet `Q`.
There is one rule for each way to make a computation; what a request was answered is kept in the log by `Answered`.
-/

namespace Requests

open Sends

variable {ρ ε α β : Type}

/-- Each request was allowed when it was sent. -/
def Guarded (G : List ρ → ρ → Prop) (log : List ρ) : Prop :=
  ∀ before r after, log = before ++ r :: after → G before r

/-- Somewhere in the log the request was sent and answered so. -/
def Answered (answer : List ρ → Except ε α) (r : ρ) (a : α) (log : List ρ) : Prop :=
  ∃ before after, log = before ++ r :: after ∧ answer before = .ok a

def Guards (G : List ρ → ρ → Prop) (P : List ρ → Prop) (m : Sends ρ ε α) (Q : α → List ρ → Prop) : Prop :=
  ∀ log, Guarded G log → P log → Guarded G (m log).2 ∧ ∀ a, (m log).1 = .ok a → Q a (m log).2

variable {G : List ρ → ρ → Prop} {P P' : List ρ → Prop} {Q Q' : α → List ρ → Prop} {R : β → List ρ → Prop} {r : ρ}
  {log log' : List ρ} {answer : List ρ → Except ε α} {m : Sends ρ ε α} {f : α → Sends ρ ε β} {a : α}

/-! ## Logs -/

theorem guarded_nil : Guarded G ([] : List ρ) := by
  intro before r after h
  exact absurd h.symm (by simp)

theorem guarded_snoc : Guarded G (log ++ [r]) ↔ Guarded G log ∧ G log r := by
  constructor
  · intro h
    refine ⟨fun before r' after hlog => ?_, h log r [] rfl⟩
    exact h before r' (after ++ [r]) (by rw [hlog, List.append_assoc, List.cons_append])
  · rintro ⟨hlog, hr⟩ before r' after h
    rcases List.eq_nil_or_concat after with rfl | ⟨after, r'', rfl⟩
    · obtain ⟨rfl, hlast⟩ := List.append_inj' h rfl
      obtain rfl := List.singleton_inj.1 hlast
      exact hr
    · rw [List.concat_eq_append, ← List.cons_append, ← List.append_assoc] at h
      obtain ⟨rfl, -⟩ := List.append_inj' h rfl
      exact hlog before r' after rfl

theorem answered_snoc (h : answer log = .ok a) : Answered answer r a (log ++ [r]) := ⟨log, [], rfl, h⟩

theorem Answered.more (h : Answered answer r a log) (more : List ρ) : Answered answer r a (log ++ more) := by
  obtain ⟨before, after, rfl, ha⟩ := h
  exact ⟨before, after ++ more, by rw [List.append_assoc, List.cons_append], ha⟩

/-! ## The rules -/

theorem guards_pure (h : ∀ log, P log → Q a log) : Guards G P (Pure.pure a : Sends ρ ε α) Q := by
  intro log hlog hP
  refine ⟨hlog, fun a' ha => ?_⟩
  obtain rfl := Except.ok.inj ha
  exact h log hP

theorem guards_raise (e : ε) : Guards G P (raise e : Sends ρ ε α) Q := by
  intro log hlog _
  exact ⟨hlog, fun a ha => by cases ha⟩

theorem guards_send (hr : ∀ log, P log → G log r) (hQ : ∀ log a, P log → answer log = .ok a → Q a (log ++ [r])) :
    Guards G P (send r answer) Q := by
  intro log hlog hP
  exact ⟨guarded_snoc.2 ⟨hlog, hr log hP⟩, fun a ha => hQ log a hP ha⟩

theorem Guards.bind (hm : Guards G P m Q) (hf : ∀ a, Guards G (Q a) (f a) R) : Guards G P (m >>= f) R := by
  intro log hlog hP
  obtain ⟨hfirst, hresult⟩ := hm log hlog hP
  rcases bind_cases m f log with ⟨a, ha, hrun⟩ | ⟨e, -, hrun⟩
  · rw [hrun]
    exact hf a (m log).2 hfirst (hresult a (by rw [ha]))
  · rw [hrun]
    exact ⟨hfirst, fun b hb => by cases hb⟩

theorem Guards.mono (h : Guards G P m Q) (hP : ∀ log, P' log → P log) (hQ : ∀ a log, Q a log → Q' a log) :
    Guards G P' m Q' := by
  intro log hlog hlog'
  obtain ⟨hguarded, hresult⟩ := h log hlog (hP log hlog')
  exact ⟨hguarded, fun a ha => hQ a _ (hresult a ha)⟩

theorem guards_ite {c : Prop} [Decidable c] {m' : Sends ρ ε α} (h : c → Guards G P m Q) (h' : ¬ c → Guards G P m' Q) :
    Guards G P (if c then m else m') Q := by
  by_cases hc : c
  · rw [if_pos hc]
    exact h hc
  · rw [if_neg hc]
    exact h' hc

/-- What a computation that starts from no request sends. -/
theorem Guards.run (h : Guards G (fun _ => True) m Q) : Guarded G (m []).2 := (h [] guarded_nil trivial).1

end Requests
