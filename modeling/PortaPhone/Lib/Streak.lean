/-!
# Streaks: how many of the newest entries of a log satisfy a test

A log is a list with its newest entry first. `streak p log` is what a counter holds that is
incremented by every entry passing `p` and reset by every other one.
-/

namespace Streak

universe u
variable {α : Type u} (p : α → Bool)

/-- The length of the longest block of newest entries that all pass `p`. -/
def streak (log : List α) : Nat := (log.takeWhile p).length

theorem streak_nil : streak p [] = 0 := rfl

@[simp] theorem streak_cons (x : α) (log : List α) :
    streak p (x :: log) = if p x then streak p log + 1 else 0 := by
  unfold streak
  by_cases h : p x <;> simp [h]

/-- The newest `k` entries exist and all pass `p`. -/
def LastAll (k : Nat) (log : List α) : Prop := k ≤ log.length ∧ ∀ x ∈ log.take k, p x = true

theorem lastAll_iff (k : Nat) (log : List α) : LastAll p k log ↔ k ≤ streak p log := by
  induction log generalizing k with
  | nil => simp [LastAll, streak_nil]
  | cons x log ih =>
    cases k with
    | zero => simp [LastAll]
    | succ k =>
      by_cases h : p x
      · simpa [LastAll, h] using ih k
      · simp [LastAll, h]

/-- A streak of length `k` splits the log at the first entry that fails. -/
theorem streak_split (log : List α) :
    ∃ newest rest, log = newest ++ rest ∧ newest.length = streak p log ∧ (∀ x ∈ newest, p x = true) ∧
      ∀ x ∈ rest.head?, p x = false := by
  induction log with
  | nil => exact ⟨[], [], by simp [streak_nil]⟩
  | cons x log ih =>
    by_cases h : p x
    · obtain ⟨newest, rest, rfl, hlen, hall, hhead⟩ := ih
      refine ⟨x :: newest, rest, rfl, by simp [h, hlen], ?_, hhead⟩
      intro y hy
      rcases List.mem_cons.1 hy with rfl | hy
      · exact h
      · exact hall y hy
    · exact ⟨[], x :: log, rfl, by simp [h], by simp, by simpa using h⟩

end Streak
