/-!
# Computations that send requests

A computation goes from the requests sent so far to its result and the requests sent then. What a request is answered
may depend on all that has been sent before it. `Quiet` says of a computation that it sends no request of a kind,
`AtMost` how many it sends, and `Ends` what it ends with, whatever the answers are.
-/

namespace Requests

variable {ρ ε α β : Type}

def Sends (ρ ε α : Type) : Type := List ρ → Except ε α × List ρ

namespace Sends

def bind (m : Sends ρ ε α) (f : α → Sends ρ ε β) : Sends ρ ε β := fun log =>
  match m log with
  | (.ok a, log') => f a log'
  | (.error e, log') => (.error e, log')

instance : Monad (Sends ρ ε) where
  pure a := fun log => (.ok a, log)
  bind := bind

/-- A computation that sends nothing. -/
def lift (x : Except ε α) : Sends ρ ε α := fun log => (x, log)

def raise (e : ε) : Sends ρ ε α := lift (.error e)

def send (r : ρ) (answer : List ρ → Except ε α) : Sends ρ ε α := fun log => (answer log, log ++ [r])

/-- An `except` clause that raises another error. -/
def mapError (f : ε → ε) (m : Sends ρ ε α) : Sends ρ ε α := fun log => ((m log).1.mapError f, (m log).2)

/-- What there is to go on with after an `except` clause. -/
def settle (f : ε → α) : Except ε α → α
  | .ok a => a
  | .error e => f e

/-- An `except` clause that goes on. -/
def rescue {ε' : Type} (f : ε → α) (m : Sends ρ ε α) : Sends ρ ε' α := fun log =>
  (.ok (settle f (m log).1), (m log).2)

end Sends

open Sends

/-! ## Running -/

theorem run_pure (a : α) (log : List ρ) : (Pure.pure a : Sends ρ ε α) log = (.ok a, log) := rfl

theorem run_lift (x : Except ε α) (log : List ρ) : lift x log = (x, log) := rfl

theorem run_raise (e : ε) (log : List ρ) : (raise e : Sends ρ ε α) log = (.error e, log) := rfl

theorem run_send (r : ρ) (answer : List ρ → Except ε α) (log : List ρ) :
    send r answer log = (answer log, log ++ [r]) := rfl

theorem run_bind_ok {m : Sends ρ ε α} {f : α → Sends ρ ε β} {log log' : List ρ} {a : α} (h : m log = (.ok a, log')) :
    (m >>= f) log = f a log' := by
  show Sends.bind m f log = _
  rw [Sends.bind, h]

theorem run_bind_error {m : Sends ρ ε α} {f : α → Sends ρ ε β} {log log' : List ρ} {e : ε}
    (h : m log = (.error e, log')) : (m >>= f) log = (.error e, log') := by
  show Sends.bind m f log = _
  rw [Sends.bind, h]

theorem run_mapError (f : ε → ε) (m : Sends ρ ε α) (log : List ρ) :
    mapError f m log = ((m log).1.mapError f, (m log).2) := rfl

/-- A last request, and what is made of its answer. -/
theorem run_send_lift (r : ρ) (answer : List ρ → Except ε α) (f : α → Except ε β) (log : List ρ) :
    (send r answer >>= fun a => lift (f a)) log = (answer log >>= f, log ++ [r]) := by
  cases h : answer log with
  | ok a => rw [run_bind_ok (by rw [run_send, h]), run_lift]; rfl
  | error e => rw [run_bind_error (by rw [run_send, h])]; rfl

/-- The two ways in which a sequence runs. -/
theorem bind_cases (m : Sends ρ ε α) (f : α → Sends ρ ε β) (log : List ρ) :
    (∃ a, m log = (.ok a, (m log).2) ∧ (m >>= f) log = f a (m log).2) ∨
      ∃ e, m log = (.error e, (m log).2) ∧ (m >>= f) log = (.error e, (m log).2) := by
  cases h : m log with
  | mk result log' =>
    cases result with
    | ok a => exact .inl ⟨a, rfl, run_bind_ok h⟩
    | error e => exact .inr ⟨e, rfl, run_bind_error h⟩

/-! ## No request of a kind -/

def Quiet (p : ρ → Bool) (m : Sends ρ ε α) : Prop := ∀ log, (m log).2.filter p = log.filter p

variable {p : ρ → Bool} {m : Sends ρ ε α} {f : α → Sends ρ ε β}

theorem quiet_lift (x : Except ε α) : Quiet p (lift x : Sends ρ ε α) := fun _ => rfl

theorem quiet_pure (a : α) : Quiet p (Pure.pure a : Sends ρ ε α) := fun _ => rfl

theorem quiet_raise (e : ε) : Quiet p (raise e : Sends ρ ε α) := fun _ => rfl

theorem quiet_send {r : ρ} (hr : p r = false) (answer : List ρ → Except ε α) : Quiet p (send r answer) := by
  intro log
  simp [run_send, hr]

theorem Quiet.bind (hm : Quiet p m) (hf : ∀ a, Quiet p (f a)) : Quiet p (m >>= f) := by
  intro log
  rcases bind_cases m f log with ⟨a, -, hrun⟩ | ⟨e, -, hrun⟩
  · rw [hrun, hf a, hm]
  · rw [hrun, hm]

theorem Quiet.mapError (hm : Quiet p m) (g : ε → ε) : Quiet p (mapError g m) := hm

/-! ## A bounded number of requests -/

def AtMost (n : Nat) (m : Sends ρ ε α) : Prop := ∀ log, (m log).2.length ≤ log.length + n

theorem atMost_lift (x : Except ε α) : AtMost 0 (lift x : Sends ρ ε α) := fun _ => Nat.le_refl _

theorem atMost_pure (n : Nat) (a : α) : AtMost n (Pure.pure a : Sends ρ ε α) := fun _ => Nat.le_add_right _ _

theorem atMost_send (r : ρ) (answer : List ρ → Except ε α) : AtMost 1 (send r answer) := by
  intro log
  simp [run_send]

theorem AtMost.mono {n k : Nat} (hm : AtMost n m) (hle : n ≤ k) : AtMost k m := fun log =>
  Nat.le_trans (hm log) (Nat.add_le_add_left hle _)

theorem AtMost.bind {n k : Nat} (hm : AtMost n m) (hf : ∀ a, AtMost k (f a)) : AtMost (n + k) (m >>= f) := by
  intro log
  have hfirst := hm log
  rcases bind_cases m f log with ⟨a, -, hrun⟩ | ⟨e, -, hrun⟩
  · have hthen := hf a (m log).2
    rw [hrun]
    omega
  · rw [hrun]
    exact Nat.le_trans hfirst (Nat.add_le_add_left (Nat.le_add_right n k) _)

theorem AtMost.rescue {ε' : Type} {n : Nat} (hm : AtMost n m) (g : ε → α) : AtMost n (rescue g m : Sends ρ ε' α) := hm

/-! ## What a computation ends with -/

/-- Every result and everything that is raised is as said. -/
def Ends (result : α → Prop) (raised : ε → Prop) (m : Sends ρ ε α) : Prop := ∀ log,
  (∀ a, (m log).1 = .ok a → result a) ∧ ∀ e, (m log).1 = .error e → raised e

section Ends

variable {result : α → Prop} {after : β → Prop} {raised : ε → Prop}

theorem ends_lift {x : Except ε α} (hok : ∀ a, x = .ok a → result a) (herror : ∀ e, x = .error e → raised e) :
    Ends result raised (lift x : Sends ρ ε α) := fun _ => ⟨hok, herror⟩

theorem ends_pure {a : α} (h : result a) : Ends result raised (Pure.pure a : Sends ρ ε α) :=
  ends_lift (by rintro _ ⟨⟩; exact h) (by rintro _ ⟨⟩)

theorem ends_any_lift {x : Except ε α} (h : ∀ e, x = .error e → raised e) :
    Ends (fun _ => True) raised (lift x : Sends ρ ε α) := ends_lift (fun _ _ => trivial) h

theorem ends_any_send {r : ρ} {answer : List ρ → Except ε α} (h : ∀ log e, answer log = .error e → raised e) :
    Ends (fun _ => True) raised (send r answer) := fun log => ⟨fun _ _ => trivial, h log⟩

theorem Ends.bind (hm : Ends result raised m) (hf : ∀ a, result a → Ends after raised (f a)) :
    Ends after raised (m >>= f) := by
  intro log
  rcases bind_cases m f log with ⟨a, hfirst, hrun⟩ | ⟨e, hfirst, hrun⟩
  · rw [hrun]
    exact hf a ((hm log).1 a (by rw [hfirst])) _
  · rw [hrun]
    constructor
    · rintro _ ⟨⟩
    · rintro _ ⟨⟩
      exact (hm log).2 e (by rw [hfirst])

theorem Ends.rescue {ε' : Type} {g : ε → α} (hm : Ends result raised m) (hg : ∀ e, raised e → result (g e))
    (log : List ρ) : ∃ a, ((rescue g m : Sends ρ ε' α) log).1 = .ok a ∧ result a := by
  refine ⟨settle g (m log).1, rfl, ?_⟩
  cases h : (m log).1 with
  | ok a => exact (hm log).1 a h
  | error e => exact hg e ((hm log).2 e h)

end Ends

end Requests
