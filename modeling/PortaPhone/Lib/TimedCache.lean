import PortaPhone.Lib.Machine
/-!
# A value that is read again when it is old

Any number of callers share one cached outcome of a read. A caller is served from the cache while the outcome is
fresh, and otherwise reads. Nothing keeps the reads of several callers apart; they end at any time and in any order.
How long an outcome is fresh depends on it; one without a lifetime is not kept.

What a caller gets was read, and is no older than its lifetime (`served_fresh`); a read begins only when what was kept
last is over its lifetime (`read_begins`), so reads are as far apart as the shortest one (`reads_apart`).
-/

namespace TimedCache

open Machine

variable {ω : Type}

/-- The outcome that is fresh, with the time of its read. -/
def fresh (lifetime : ω → Option Int) (cached : Option (Int × ω)) (now : Int) : Option (Int × ω) :=
  cached.filter fun entry => (lifetime entry.2).any fun ttl => now - entry.1 < ttl

inductive Caller (ω : Type)
  | reading (since : Int)
  /-- Served at a time with an outcome that was read at another one. -/
  | served (now : Int) (value : ω) (readAt : Int)

structure State (ω : Type) where
  clock : Int
  cached : Option (Int × ω) := none
  callers : List (Caller ω) := []

/-- A caller comes, or the read of one ends. -/
inductive Event (ω : Type)
  | call (now : Int)
  | ended (i : Nat) (now : Int) (outcome : ω)

def keep (lifetime : ω → Option Int) (cached : Option (Int × ω)) (now : Int) (outcome : ω) : Option (Int × ω) :=
  if (lifetime outcome).isSome then some (now, outcome) else cached

def step (lifetime : ω → Option Int) (s : State ω) : Event ω → Option (State ω)
  | .call now =>
    if now < s.clock then none
    else
      some { s with
        clock := now
        callers := s.callers ++ [match fresh lifetime s.cached now with
          | some (readAt, value) => .served now value readAt
          | none => .reading now] }
  | .ended i now outcome => match s.callers[i]? with
    | some (.reading _) =>
      if now < s.clock then none
      else
        some {
          clock := now
          cached := keep lifetime s.cached now outcome
          callers := s.callers.set i (.served now outcome now) }
    | _ => none

variable {lifetime : ω → Option Int} {s t : State ω} {es : List (Event ω)}

theorem fresh_eq_some {cached : Option (Int × ω)} {now readAt : Int} {value : ω}
    (h : fresh lifetime cached now = some (readAt, value)) :
    cached = some (readAt, value) ∧ ∃ ttl, lifetime value = some ttl ∧ now - readAt < ttl := by
  obtain ⟨hcached, hfresh⟩ := Option.filter_eq_some_iff.1 h
  refine ⟨hcached, ?_⟩
  cases httl : lifetime value with
  | none => simp [httl] at hfresh
  | some ttl => exact ⟨ttl, rfl, by simpa [httl] using hfresh⟩

theorem fresh_eq_none {now readAt ttl : Int} {value : ω} (h : fresh lifetime (some (readAt, value)) now = none)
    (httl : lifetime value = some ttl) : ttl ≤ now - readAt := by
  rw [fresh, Option.filter_eq_none_iff] at h
  have hold := h (readAt, value) rfl
  simpa [httl] using hold

theorem step_call {now : Int} (h : step lifetime s (.call now) = some t) : s.clock ≤ now ∧ t.clock = now ∧
    t.cached = s.cached ∧ ∃ c, t.callers = s.callers ++ [c] ∧
      ((∃ readAt value, fresh lifetime s.cached now = some (readAt, value) ∧ c = .served now value readAt) ∨
        (fresh lifetime s.cached now = none ∧ c = .reading now)) := by
  rw [step] at h
  split at h
  · cases h
  · rename_i hclock
    obtain rfl := Option.some.inj h
    refine ⟨Int.not_lt.1 hclock, rfl, rfl, _, rfl, ?_⟩
    cases fresh lifetime s.cached now with
    | none => exact .inr ⟨rfl, rfl⟩
    | some entry => exact .inl ⟨entry.1, entry.2, rfl, rfl⟩

theorem step_ended {i : Nat} {now : Int} {outcome : ω} (h : step lifetime s (.ended i now outcome) = some t) :
    s.clock ≤ now ∧ t = { clock := now, cached := keep lifetime s.cached now outcome
                          callers := s.callers.set i (.served now outcome now) } := by
  rw [step] at h
  split at h
  · split at h
    · cases h
    · rename_i hclock
      exact ⟨Int.not_lt.1 hclock, (Option.some.inj h).symm⟩
  · cases h

/-- What is kept was read, at a time that is over, and has a lifetime. -/
theorem cached_read (h₀ : s.cached = none) (hrun : exec (step lifetime) s es = some t) :
    ∀ readAt value, t.cached = some (readAt, value) →
      readAt ≤ t.clock ∧ (lifetime value).isSome = true ∧ ∃ i, Event.ended i readAt value ∈ es := by
  refine exec_induction (P := fun es t => ∀ readAt value, t.cached = some (readAt, value) →
    readAt ≤ t.clock ∧ (lifetime value).isSome = true ∧ ∃ i, Event.ended i readAt value ∈ es) (by simp [h₀]) ?_ hrun
  intro fs m e m' _ ih hstep readAt value hcached
  cases e with
  | call now =>
    obtain ⟨hclock, hnow, hsame, -⟩ := step_call hstep
    rw [hsame] at hcached
    obtain ⟨hpast, hkept, i, hended⟩ := ih readAt value hcached
    exact ⟨hnow ▸ Int.le_trans hpast hclock, hkept, i, List.mem_append_left _ hended⟩
  | ended i now outcome =>
    obtain ⟨hclock, rfl⟩ := step_ended hstep
    simp only [keep] at hcached
    split at hcached
    · rename_i hkept
      obtain ⟨rfl, rfl⟩ := Prod.mk.inj (Option.some.inj hcached)
      exact ⟨Int.le_refl _, hkept, i, by simp⟩
    · obtain ⟨hpast, hkept, j, hended⟩ := ih readAt value hcached
      exact ⟨Int.le_trans hpast hclock, hkept, j, List.mem_append_left _ hended⟩

/-- **What a caller gets** was read in the run, by the caller itself just now or within the lifetime that the outcome
has. -/
theorem served_fresh (hcallers : s.callers = []) (h₀ : s.cached = none) (hrun : exec (step lifetime) s es = some t) :
    ∀ now value readAt, Caller.served now value readAt ∈ t.callers →
      readAt ≤ now ∧ (∃ i, Event.ended i readAt value ∈ es) ∧
        (readAt = now ∨ ∃ ttl, lifetime value = some ttl ∧ now - readAt < ttl) := by
  refine exec_induction (P := fun es t => ∀ now value readAt, Caller.served now value readAt ∈ t.callers →
    readAt ≤ now ∧ (∃ i, Event.ended i readAt value ∈ es) ∧
      (readAt = now ∨ ∃ ttl, lifetime value = some ttl ∧ now - readAt < ttl)) (by simp [hcallers]) ?_ hrun
  intro fs m e m' hfs ih hstep now value readAt hserved
  have earlier : Caller.served now value readAt ∈ m.callers → readAt ≤ now ∧
      (∃ i, Event.ended i readAt value ∈ fs ++ [e]) ∧
      (readAt = now ∨ ∃ ttl, lifetime value = some ttl ∧ now - readAt < ttl) := by
    intro hserved
    obtain ⟨hpast, ⟨i, hended⟩, hfresh⟩ := ih now value readAt hserved
    exact ⟨hpast, ⟨i, List.mem_append_left _ hended⟩, hfresh⟩
  cases e with
  | call later =>
    obtain ⟨hclock, -, -, c, hcallers, hc⟩ := step_call hstep
    rw [hcallers, List.mem_append, List.mem_singleton] at hserved
    rcases hserved with hserved | rfl
    · exact earlier hserved
    · rcases hc with ⟨readAt', value', hfresh, hc⟩ | ⟨-, hc⟩
      · obtain ⟨rfl, rfl, rfl⟩ := Caller.served.inj hc
        obtain ⟨hcached, httl⟩ := fresh_eq_some hfresh
        obtain ⟨hpast, -, i, hended⟩ := cached_read h₀ hfs readAt value hcached
        exact ⟨Int.le_trans hpast hclock, ⟨i, List.mem_append_left _ hended⟩, .inr httl⟩
      · cases hc
  | ended i later outcome =>
    obtain ⟨-, rfl⟩ := step_ended hstep
    rcases List.mem_or_eq_of_mem_set hserved with hserved | hc
    · exact earlier hserved
    · obtain ⟨rfl, rfl, rfl⟩ := Caller.served.inj hc
      exact ⟨Int.le_refl _, ⟨i, by simp⟩, .inl rfl⟩

/-- The outcome that was kept last, with the time when its read ended. -/
def lastKept (lifetime : ω → Option Int) (es : List (Event ω)) : Option (Int × ω) :=
  es.foldl (fun kept e => match e with
    | .call _ => kept
    | .ended _ now outcome => keep lifetime kept now outcome) none

theorem lastKept_snoc (e : Event ω) : lastKept lifetime (es ++ [e]) = match e with
    | .call _ => lastKept lifetime es
    | .ended _ now outcome => keep lifetime (lastKept lifetime es) now outcome := by
  rw [lastKept, List.foldl_append]
  rfl

theorem cached_eq_lastKept (h₀ : s.cached = none) (hrun : exec (step lifetime) s es = some t) :
    t.cached = lastKept lifetime es := by
  refine exec_induction (P := fun es t => t.cached = lastKept lifetime es) h₀ ?_ hrun
  intro fs m e m' _ ih hstep
  rw [lastKept_snoc]
  cases e with
  | call now => exact (step_call hstep).2.2.1.trans ih
  | ended i now outcome =>
    obtain ⟨-, rfl⟩ := step_ended hstep
    rw [← ih]

/-- **When a read begins.** A caller reads exactly when nothing was kept or what was kept last is over its lifetime. -/
theorem read_begins (h₀ : s.cached = none) (hrun : exec (step lifetime) s es = some t) {now : Int} {t' : State ω}
    (hcall : step lifetime t (.call now) = some t') :
    t'.callers = t.callers ++ [.reading now] ↔
      ∀ readAt value ttl, lastKept lifetime es = some (readAt, value) → lifetime value = some ttl →
        ttl ≤ now - readAt := by
  obtain ⟨-, -, -, c, hcallers, hc⟩ := step_call hcall
  rw [cached_eq_lastKept h₀ hrun] at hc
  rw [hcallers, List.append_cancel_left_eq, List.singleton_inj]
  constructor
  · rintro rfl readAt value ttl hkept httl
    rcases hc with ⟨readAt', value', -, hc⟩ | ⟨hnone, -⟩
    · cases hc
    · rw [hkept] at hnone
      exact fresh_eq_none hnone httl
  · intro hold
    rcases hc with ⟨readAt, value, hfresh, -⟩ | ⟨-, hc⟩
    · obtain ⟨hkept, ttl, httl, hlt⟩ := fresh_eq_some hfresh
      exact absurd (hold readAt value ttl hkept httl) (Int.not_le.2 hlt)
    · exact hc

/-- What was kept last was read no earlier than anything that was kept. -/
theorem kept_le_lastKept (h₀ : s.cached = none) (hrun : exec (step lifetime) s es = some t) :
    ∀ i readAt value, Event.ended i readAt value ∈ es → (lifetime value).isSome = true →
      ∃ last kept, t.cached = some (last, kept) ∧ readAt ≤ last := by
  refine exec_induction (P := fun es t => ∀ i readAt value, Event.ended i readAt value ∈ es →
    (lifetime value).isSome = true → ∃ last kept, t.cached = some (last, kept) ∧ readAt ≤ last) (by simp) ?_ hrun
  intro fs m e m' hfs ih hstep i readAt value hended hkept
  rw [List.mem_append, List.mem_singleton] at hended
  cases e with
  | call now =>
    rcases hended with hended | hended
    · obtain ⟨last, kept, hcached, hle⟩ := ih i readAt value hended hkept
      exact ⟨last, kept, (step_call hstep).2.2.1.trans hcached, hle⟩
    · cases hended
  | ended j now outcome =>
    obtain ⟨hclock, rfl⟩ := step_ended hstep
    simp only [keep]
    rcases hended with hended | hended
    · obtain ⟨last, kept, hcached, hle⟩ := ih i readAt value hended hkept
      by_cases hnew : (lifetime outcome).isSome = true
      · rw [if_pos hnew]
        exact ⟨now, outcome, rfl, Int.le_trans hle (Int.le_trans (cached_read h₀ hfs last kept hcached).1 hclock)⟩
      · rw [if_neg hnew]
        exact ⟨last, kept, hcached, hle⟩
    · cases hended
      rw [if_pos hkept]
      exact ⟨readAt, value, rfl, Int.le_refl _⟩

/-- **Reads are apart.** Where no outcome has a lifetime shorter than `least`, no read begins so soon after the end of a
read whose outcome was kept. -/
theorem reads_apart {least : Int} (hleast : ∀ value ttl, lifetime value = some ttl → least ≤ ttl) (h₀ : s.cached = none)
    (hrun : exec (step lifetime) s es = some t) {now : Int} {t' : State ω}
    (hcall : step lifetime t (.call now) = some t')
    (hread : t'.callers = t.callers ++ [.reading now]) {i : Nat} {readAt : Int} {value : ω}
    (hended : Event.ended i readAt value ∈ es) (hkept : (lifetime value).isSome = true) : least ≤ now - readAt := by
  obtain ⟨last, kept, hcached, hle⟩ := kept_le_lastKept h₀ hrun i readAt value hended hkept
  obtain ⟨ttl, httl⟩ := Option.isSome_iff_exists.1 (cached_read h₀ hrun last kept hcached).2.1
  rw [cached_eq_lastKept h₀ hrun] at hcached
  have hold := (read_begins h₀ hrun hcall).1 hread last kept ttl hcached httl
  have hshort := hleast kept ttl httl
  omega

end TimedCache
