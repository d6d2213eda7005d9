import PortaPhone.SignIn.SampleOtp
/-!
# Codes one after another (`adapters/otp.py`)

`validateOtp` is a call of `validate_otp` (`otp.py:122`) that no other call runs into; `run_alone` says that the steps
of `otpStep` come to that. `validate_otp` asks whether there have been more than `MAX_ATTEMPTS` wrong codes (`:146`)
before it counts the one it has compared (`:156`), so that the counter reaches `MAX_ATTEMPTS + 1` and one more code is
compared with it there: `attempts_limited_iff` says in which runs no more than `MAX_ATTEMPTS` codes are compared.
-/

namespace PortaPhone.SignIn

open Machine

/-- One call, with the attempts in the record if there is one. -/
def validateOtp (otp : Otp) (stored : Option Nat) (code : String) (now : Int) : Outcome × Option Nat :=
  match stored with
  | none => (.invalidId, none)
  | some attempts =>
    if otp.expiresAt < now then (.expired, none)
    else if otp.expectedCode ≠ code then
      if maxAttempts < attempts then (.tooManyAttempts, none) else (.invalidOtp, some (attempts + 1))
    else (.session otp.userId, none)

/-- The submitted code is compared with the stored one. -/
def compares (otp : Otp) (stored : Option Nat) (now : Int) : Bool := stored.isSome && !decide (otp.expiresAt < now)

/-- The calls so far. No step reads the codes that have been compared and the answers with their times. -/
structure OtpCalls where
  stored : Option Nat
  compared : Nat := 0
  answered : List (Int × Outcome) := []
deriving DecidableEq, Repr

def validateStep (otp : Otp) (s : OtpCalls) (call : String × Int) : Option OtpCalls :=
  some {
    stored := (validateOtp otp s.stored call.1 call.2).2
    compared := s.compared + if compares otp s.stored call.2 then 1 else 0
    answered := s.answered ++ [(call.2, (validateOtp otp s.stored call.1 call.2).1)] }

/-- The record of `generate_otp`. -/
def generated : OtpCalls := ⟨some 0, 0, []⟩

/-- No more than `MAX_ATTEMPTS` codes compared, and no session after the expiry. -/
structure OtpLimited (otp : Otp) (t : OtpCalls) : Prop where
  attempts : t.compared ≤ maxAttempts
  expiry : ∀ answer ∈ t.answered, otp.expiresAt < answer.1 → ∀ userId, answer.2 ≠ .session userId

/-- A code that comes in time finds fewer than `MAX_ATTEMPTS` wrong ones counted. -/
def attemptLeft (otp : Otp) (s : OtpCalls) (call : String × Int) : Bool :=
  !compares otp s.stored call.2 || s.stored.all (· < maxAttempts)

variable {backend : Backend} {otp : Otp} {s t : OtpCalls}

/-! ## Counting -/

theorem compares_iff {stored : Option Nat} {now : Int} :
    compares otp stored now = true ↔ (∃ attempts, stored = some attempts) ∧ ¬ otp.expiresAt < now := by
  simp [compares, Option.isSome_iff_exists]

/-- The record counts the codes compared with it. -/
def Counts (s : OtpCalls) : Prop := ∀ attempts, s.stored = some attempts → s.compared = attempts

theorem validateOtp_stored {stored : Option Nat} {code : String} {now : Int} {attempts : Nat}
    (h : (validateOtp otp stored code now).2 = some attempts) :
    ∃ before, stored = some before ∧ attempts = before + 1 ∧ ¬ otp.expiresAt < now := by
  cases stored with
  | none => cases h
  | some before =>
    simp only [validateOtp] at h
    split at h
    · cases h
    · split at h
      · split at h
        · cases h
        · cases h
          exact ⟨before, rfl, rfl, ‹_›⟩
      · cases h

theorem counts_step {call : String × Int} (h : Counts s) (hstep : validateStep otp s call = some t) : Counts t := by
  cases hstep
  intro attempts hattempts
  obtain ⟨before, hstored, rfl, htime⟩ := validateOtp_stored hattempts
  have hcompares : compares otp s.stored call.2 = true := compares_iff.2 ⟨⟨before, hstored⟩, htime⟩
  simp only [hcompares, if_true, h before hstored]

/-- One more code may be compared exactly if an attempt is left. -/
theorem compared_step_iff {call : String × Int} (h : Counts s) (hstep : validateStep otp s call = some t) :
    t.compared ≤ maxAttempts ↔ s.compared ≤ maxAttempts ∧ attemptLeft otp s call = true := by
  cases hstep
  by_cases hcompares : compares otp s.stored call.2 = true
  · obtain ⟨⟨attempts, hstored⟩, -⟩ := compares_iff.1 hcompares
    have hcompared := h attempts hstored
    have hleft : attemptLeft otp s call = true ↔ attempts < maxAttempts := by
      rw [attemptLeft, hcompares, hstored]
      simp
    rw [hleft]
    simp only [hcompares, if_true]
    omega
  · simp [attemptLeft, hcompares]

/-- A session is opened in time. -/
theorem no_session_late {stored : Option Nat} {code : String} {now : Int} (hlate : otp.expiresAt < now)
    (userId : String) : (validateOtp otp stored code now).1 ≠ .session userId := by
  cases stored with
  | none =>
    intro h
    cases h
  | some attempts =>
    intro h
    rw [validateOtp, if_pos hlate] at h
    cases h

theorem expiry_step {call : String × Int}
    (h : ∀ answer ∈ s.answered, otp.expiresAt < answer.1 → ∀ userId, answer.2 ≠ .session userId)
    (hstep : validateStep otp s call = some t) :
    ∀ answer ∈ t.answered, otp.expiresAt < answer.1 → ∀ userId, answer.2 ≠ .session userId := by
  cases hstep
  intro answer hanswer
  rcases List.mem_append.1 hanswer with hold | hnew
  · exact h answer hold
  · obtain rfl := List.mem_singleton.1 hnew
    exact no_session_late

/-- **The limit of attempts.** In a run of calls no more than `MAX_ATTEMPTS` codes are compared, exactly if each code
that is compared found an attempt left; no call after the expiry opens a session. -/
theorem attempts_limited_iff (otp : Otp) (calls : List (String × Int)) (t : OtpCalls)
    (hrun : exec (validateStep otp) generated calls = some t) :
    OtpLimited otp t ↔ Along (validateStep otp) (fun s call _ => attemptLeft otp s call = true) generated calls := by
  have hinv : Counts t ∧ (∀ answer ∈ t.answered, otp.expiresAt < answer.1 → ∀ userId, answer.2 ≠ .session userId) ∧
      (t.compared ≤ maxAttempts ↔
        Along (validateStep otp) (fun s call _ => attemptLeft otp s call = true) generated calls) := by
    refine exec_induction (P := fun calls t => Counts t ∧
      (∀ answer ∈ t.answered, otp.expiresAt < answer.1 → ∀ userId, answer.2 ≠ .session userId) ∧
      (t.compared ≤ maxAttempts ↔
        Along (validateStep otp) (fun s call _ => attemptLeft otp s call = true) generated calls)) ?_ ?_ hrun
    · refine ⟨fun attempts h => Option.some.inj h, fun answer h => ?_, ?_⟩
      · cases h
      · simp [generated]
    · intro calls m call m' hm ⟨hcounts, hexpiry, hlimited⟩ hstep
      refine ⟨counts_step hcounts hstep, expiry_step hexpiry hstep, ?_⟩
      rw [compared_step_iff hcounts hstep, hlimited, along_snoc]
      refine and_congr_right fun _ => ⟨fun hleft n n' hn _ => ?_, fun h => h m m' hm hstep⟩
      obtain rfl := Option.some.inj (hm.symm.trans hn)
      exact hleft
  obtain ⟨-, hexpiry, hlimited⟩ := hinv
  rw [← hlimited]
  exact ⟨fun h => h.attempts, fun h => ⟨h, hexpiry⟩⟩

/-! ## A call alone among the steps -/

/-- The attempts in the record, if the store has it. -/
def OtpState.stored (s : OtpState) : Option Nat := if s.present then some s.attempts else none

section Alone

variable {l : List Pc}

/-- The next step of the call that began last. -/
theorem next_last {present : Bool} {attempts : Nat} {pc : Pc} {u : OtpState} {next : List OtpEvent}
    {m : OtpState} (hstep : otpStep backend otp ⟨present, attempts, l ++ [pc]⟩ (.next l.length) = some m)
    (hrun : exec (otpStep backend otp) m next = some u) :
    exec (otpStep backend otp) ⟨present, attempts, l ++ [pc]⟩ (.next l.length :: next) = some u :=
  exec_cons.2 ⟨m, hstep, hrun⟩

/-- A call that removes the record ends without a `KeyError` if the record is there. -/
theorem delete_last (attempts : Nat) (outcome : Outcome) :
    exec (otpStep backend otp) ⟨true, attempts, l ++ [.deleting outcome]⟩ [.next l.length] =
      some ⟨false, attempts, l ++ [.done outcome]⟩ := by
  simp [exec, otpStep, OtpState.goto]

/-- A wrong code is counted, whether the store shares its object or gives out a copy. -/
theorem count_last (attempts : Nat) :
    exec (otpStep backend otp) ⟨true, attempts, l ++ [.loading attempts]⟩ (List.replicate 3 (.next l.length)) =
      some ⟨true, attempts + 1, l ++ [.done .invalidOtp]⟩ := by
  cases hshares : backend.shares with
  | false => simp [List.replicate, exec, otpStep, OtpState.goto, OtpState.read, hshares]
  | true => simp [List.replicate, exec, otpStep, OtpState.goto, OtpState.read, hshares]

/-- **A call alone.** The steps of a call that no other call runs into. -/
theorem run_alone (backend : Backend) (otp : Otp) (s : OtpState) (code : String) (now : Int) :
    ∃ k u, exec (otpStep backend otp) s (.call code now :: List.replicate k (.next s.calls.length)) = some u ∧
      u.calls = s.calls ++ [.done (validateOtp otp s.stored code now).1] ∧
      u.stored = (validateOtp otp s.stored code now).2 := by
  obtain ⟨present, attempts, l⟩ := s
  cases present with
  | false => exact ⟨0, _, rfl, rfl, rfl⟩
  | true =>
    have hstored : OtpState.stored ⟨true, attempts, l⟩ = some attempts := rfl
    simp only [hstored, validateOtp]
    by_cases hexpired : otp.expiresAt < now
    · have hbegin : begin otp ⟨true, attempts, l⟩ code now = .deleting .expired := by simp [begin, hexpired]
      refine ⟨1, ⟨false, attempts, l ++ [.done .expired]⟩, exec_cons.2 ⟨_, rfl, ?_⟩, ?_⟩
      · rw [hbegin]
        exact delete_last attempts _
      · simp [hexpired, OtpState.stored]
    by_cases hwrong : otp.expectedCode ≠ code
    · have hbegin : begin otp ⟨true, attempts, l⟩ code now = .comparing attempts := by simp [begin, hexpired, hwrong]
      have hread : OtpState.read ⟨true, attempts, l ++ [.comparing attempts]⟩ backend attempts = attempts := by
        simp [OtpState.read]
      by_cases hmany : maxAttempts < attempts
      · refine ⟨2, ⟨false, attempts, l ++ [.done .tooManyAttempts]⟩, exec_cons.2 ⟨_, rfl, ?_⟩, ?_⟩
        · rw [hbegin]
          refine next_last (m := ⟨true, attempts, l ++ [.deleting .tooManyAttempts]⟩) ?_ (delete_last attempts _)
          simp [otpStep, OtpState.goto, hread, hmany]
        · simp [hexpired, hwrong, hmany, OtpState.stored]
      · refine ⟨4, ⟨true, attempts + 1, l ++ [.done .invalidOtp]⟩, exec_cons.2 ⟨_, rfl, ?_⟩, ?_⟩
        · rw [hbegin]
          refine next_last (m := ⟨true, attempts, l ++ [.loading attempts]⟩) ?_ (count_last attempts)
          simp [otpStep, OtpState.goto, hread, hmany]
        · simp [hexpired, hwrong, hmany, OtpState.stored]
    · have hbegin : begin otp ⟨true, attempts, l⟩ code now = .creating := by simp [begin, hexpired, hwrong]
      refine ⟨2, ⟨false, attempts, l ++ [.done (.session otp.userId)]⟩, exec_cons.2 ⟨_, rfl, ?_⟩, ?_⟩
      · rw [hbegin]
        refine next_last (m := ⟨true, attempts, l ++ [.deleting (.session otp.userId)]⟩) ?_ (delete_last attempts _)
        simp [otpStep, OtpState.goto]
      · simp [hexpired, hwrong, OtpState.stored]

end Alone

/-- Five wrong codes and a late one. -/
theorem attempts_limited_five : OtpLimited ⟨"482913", "alice", 900⟩
    ⟨none, 5, [(10, .invalidOtp), (10, .invalidOtp), (10, .invalidOtp), (10, .invalidOtp), (10, .invalidOtp),
      (901, .expired)]⟩ :=
  (attempts_limited_iff ⟨"482913", "alice", 900⟩
    [("1", 10), ("2", 10), ("3", 10), ("4", 10), ("5", 10), ("482913", 901)] _ rfl).2 (by decide)

/-- After six wrong codes the seventh is compared too, and opens a session. -/
theorem seventh_code_compared : ¬ ∀ (otp : Otp) (calls : List (String × Int)) (t : OtpCalls),
    exec (validateStep otp) generated calls = some t → OtpLimited otp t := by
  intro h
  have hlimited := (h ⟨"482913", "alice", 900⟩ [("1", 10), ("2", 10), ("3", 10), ("4", 10), ("5", 10), ("6", 10),
    ("482913", 10)] _ rfl).attempts
  exact absurd hlimited (by decide)

end PortaPhone.SignIn
