import PortaPhone.Lib.Machine
/-!
# The codes of the sample handler (`adapters/otp.py`)

| here | there |
| --- | --- |
| `Backend`   | the stores that can be `otp_db` (`dbs/__init__.py`, `dbs/firestore.py`) |
| `Pc`, `otpStep` | `validate_otp` (`otp.py:122`), step by step |

Any number of calls validate codes for one id. A call reads the record, counts a wrong code or removes the record in
later steps, and nothing keeps the steps of two calls apart: `single_use` says what holds when no call writes to a
record that has changed since the call read it.
-/

namespace PortaPhone.SignIn

open Machine

/-- How a store gives out its values. -/
structure Backend where
  /-- `get` returns the object kept, not a copy of it. -/
  shares : Bool
  /-- `del` of a key that is not there raises `KeyError`. -/
  raises : Bool
deriving DecidableEq, Repr

def tiedKeyValue : Backend := ⟨true, true⟩
def fileStoredKeyValue : Backend := ⟨false, true⟩
def firestoreKeyValue : Backend := ⟨false, false⟩

/-- `OTP` (`types.py:192`) but for its attempts, which alone change. -/
structure Otp where
  expectedCode : String
  userId : String
  expiresAt : Int
deriving DecidableEq, Repr

def maxAttempts : Nat := 5

/-- What a call returns or raises. -/
inductive Outcome
  | session (userId : String)
  | invalidId
  | expired
  | tooManyAttempts
  | invalidOtp
  | keyError
deriving DecidableEq, Repr

/-- Where a call is. `copy` is the number of attempts in the record that it has read. -/
inductive Pc
  | comparing (copy : Nat)
  | loading (copy : Nat)
  | adding (loaded : Nat)
  | storing (copy : Nat)
  | creating
  | deleting (outcome : Outcome)
  | done (outcome : Outcome)
deriving DecidableEq, Repr

/-- Whether the store has the record, the attempts in it, and the calls in the order in which they began. The attempts
are those of the object, if the store shares it, and otherwise those of the last copy stored. -/
structure OtpState where
  present : Bool
  attempts : Nat
  calls : List Pc
deriving DecidableEq, Repr

/-- A call begins at a time with a code, or makes its next step. -/
inductive OtpEvent
  | call (code : String) (now : Int)
  | next (i : Nat)
deriving DecidableEq, Repr

namespace OtpState

def goto (s : OtpState) (i : Nat) (pc : Pc) : OtpState := { s with calls := s.calls.set i pc }

/-- `original.attempts`. -/
def read (s : OtpState) (backend : Backend) (copy : Nat) : Nat := if backend.shares then s.attempts else copy

end OtpState

section Steps

variable (backend : Backend) (otp : Otp)

/-- After `otp_db.get`. -/
def begin (s : OtpState) (code : String) (now : Int) : Pc :=
  if !s.present then .done .invalidId
  else if otp.expiresAt < now then .deleting .expired
  else if otp.expectedCode ≠ code then .comparing s.attempts
  else .creating

def otpStep (s : OtpState) : OtpEvent → Option OtpState
  | .call code now => some { s with calls := s.calls ++ [begin otp s code now] }
  | .next i => match s.calls[i]? with
    | some (.comparing copy) =>
      some (s.goto i (if maxAttempts < s.read backend copy then .deleting .tooManyAttempts else .loading copy))
    | some (.loading copy) => some (s.goto i (.adding (s.read backend copy)))
    | some (.adding loaded) =>
      some { s.goto i (.storing (loaded + 1)) with
        attempts := if backend.shares then loaded + 1 else s.attempts }
    | some (.storing copy) =>
      some { s.goto i (.done .invalidOtp) with
        present := true, attempts := if backend.shares then s.attempts else copy }
    -- the session is stored in another store
    | some .creating => some (s.goto i (.deleting (.session otp.userId)))
    | some (.deleting outcome) =>
      if backend.raises && !s.present then some (s.goto i (.done .keyError))
      else some { s.goto i (.done outcome) with present := false }
    | some (.done _) | none => none

/-- The record as `generate_otp` has stored it, or as earlier calls have left it. -/
def recorded (attempts : Nat) : OtpState := ⟨true, attempts, []⟩

/-! ## One session, and every wrong code counted -/

def Pc.hasSession : Pc → Bool
  | .done (.session _) => true
  | _ => false

/-- The call was told that its code is wrong. -/
def Pc.refused : Pc → Bool
  | .done .invalidOtp => true
  | _ => false

/-- In a record that had `attempts` at first. -/
structure SingleUse (attempts : Nat) (s : OtpState) : Prop where
  once : s.calls.countP Pc.hasSession ≤ 1
  counted : s.present = true → attempts + s.calls.countP Pc.refused ≤ s.attempts

instance (attempts : Nat) (s : OtpState) : Decidable (SingleUse attempts s) :=
  decidable_of_iff (_ ∧ _) ⟨fun h => ⟨h.1, h.2⟩, fun h => ⟨h.once, h.counted⟩⟩

/-- A call that counts a wrong code, or removes the record after the right one, finds the record as it has read it:
still there and with the attempts from which it counts on. Where a missing key raises, it need not be there to be
removed. -/
def unchanged (s : OtpState) : OtpEvent → Bool
  | .call _ _ => true
  | .next i => match s.calls[i]? with
    | some (.adding loaded) => !backend.shares || s.attempts = loaded
    | some (.storing copy) => s.present && (backend.shares || s.attempts + 1 = copy)
    | some (.deleting (.session _)) => s.present || backend.raises
    | _ => true

variable {backend otp} {attempts : Nat} {s t : OtpState}

/-! ## What every run keeps -/

/-- The call has added to the attempts of the shared object and has not been answered yet. -/
def Pc.added (backend : Backend) : Pc → Bool
  | .storing _ => backend.shares
  | _ => false

structure OtpInv (backend : Backend) (attempts : Nat) (s : OtpState) : Prop where
  once : s.calls.countP Pc.hasSession + (if s.present then 1 else 0) ≤ 1
  counted : s.present = true →
    s.attempts = attempts + s.calls.countP Pc.refused + s.calls.countP (Pc.added backend)

theorem OtpInv.singleUse (h : OtpInv backend attempts s) : SingleUse attempts s where
  once := Nat.le_trans (Nat.le_add_right _ _) h.once
  counted hpresent := by
    have := h.counted hpresent
    omega

/-- A call that begins has neither a session nor an answer to its code. -/
theorem begin_fresh (backend : Backend) (otp : Otp) (s : OtpState) (code : String) (now : Int) :
    (begin otp s code now).hasSession = false ∧ (begin otp s code now).refused = false ∧
      (begin otp s code now).added backend = false := by
  unfold begin
  split
  · exact ⟨rfl, rfl, rfl⟩
  · split
    · exact ⟨rfl, rfl, rfl⟩
    · split <;> exact ⟨rfl, rfl, rfl⟩

theorem OtpInv.call (h : OtpInv backend attempts s) (code : String) (now : Int) :
    OtpInv backend attempts { s with calls := s.calls ++ [begin otp s code now] } := by
  obtain ⟨hsession, hrefused, hadded⟩ := begin_fresh backend otp s code now
  refine ⟨?_, fun hpresent => ?_⟩
  · simpa [hsession] using h.once
  · simpa [hrefused, hadded] using h.counted hpresent

/-- A call that goes on: with the record as it is, and the same or another number of attempts. -/
theorem OtpInv.goto {i : Nat} {pc pc' : Pc} {n : Nat} (h : OtpInv backend attempts s) (hpc : s.calls[i]? = some pc)
    (hsession : pc.hasSession = false ∧ pc'.hasSession = false)
    (hcount : s.present = true → n + (if pc.refused then 1 else 0) + (if pc.added backend then 1 else 0) =
      s.attempts + (if pc'.refused then 1 else 0) + (if pc'.added backend then 1 else 0)) :
    OtpInv backend attempts { s.goto i pc' with attempts := n } := by
  have honce := countP_set_add hpc pc' Pc.hasSession
  have hrefused := countP_set_add hpc pc' Pc.refused
  have hadded := countP_set_add hpc pc' (Pc.added backend)
  simp only [hsession, Bool.false_eq_true, if_false, Nat.add_zero] at honce
  refine ⟨?_, fun hpresent => ?_⟩
  · show (s.calls.set i pc').countP Pc.hasSession + _ ≤ 1
    rw [honce]
    exact h.once
  · have hc := hcount hpresent
    have hold := h.counted hpresent
    show n = attempts + (s.calls.set i pc').countP Pc.refused + (s.calls.set i pc').countP (Pc.added backend)
    omega

/-- A call that leaves the record removed. -/
theorem OtpInv.remove {i : Nat} {pc : Pc} {outcome : Outcome} (h : OtpInv backend attempts s)
    (hpc : s.calls[i]? = some pc) (hsession : pc.hasSession = false)
    (hpresent : (Pc.done outcome).hasSession = true → s.present = true) :
    OtpInv backend attempts { s.goto i (.done outcome) with present := false } := by
  have honce := countP_set_add hpc (.done outcome) Pc.hasSession
  simp only [hsession, Bool.false_eq_true, if_false, Nat.add_zero] at honce
  refine ⟨?_, nofun⟩
  show (s.calls.set i (.done outcome)).countP Pc.hasSession + 0 ≤ 1
  rw [honce]
  have := h.once
  by_cases hdone : (Pc.done outcome).hasSession = true
  · rw [hpresent hdone] at this
    simpa [hdone] using this
  · simp only [hdone, Bool.false_eq_true, if_false]
    omega

/-- **Step lemma.** -/
theorem otpInv_step {e : OtpEvent} (h : OtpInv backend attempts s) (hunchanged : unchanged backend s e = true)
    (hstep : otpStep backend otp s e = some t) : OtpInv backend attempts t := by
  cases e with
  | call code now =>
    cases hstep
    exact h.call code now
  | next i =>
    simp only [otpStep] at hstep
    simp only [unchanged] at hunchanged
    cases hpc : s.calls[i]? with
    | none => simp [hpc] at hstep
    | some pc =>
      simp only [hpc] at hstep hunchanged
      cases pc with
      | comparing copy =>
        cases hstep
        by_cases hmax : maxAttempts < s.read backend copy
        · rw [if_pos hmax]
          exact h.goto (n := s.attempts) hpc ⟨rfl, rfl⟩ fun _ => rfl
        · rw [if_neg hmax]
          exact h.goto (n := s.attempts) hpc ⟨rfl, rfl⟩ fun _ => rfl
      | loading copy =>
        cases hstep
        exact h.goto (n := s.attempts) hpc ⟨rfl, rfl⟩ fun _ => rfl
      | adding loaded =>
        cases hstep
        refine h.goto hpc ⟨rfl, rfl⟩ fun _ => ?_
        cases hshares : backend.shares with
        | false => simp [Pc.refused, Pc.added, hshares]
        | true =>
          obtain rfl : s.attempts = loaded := by simpa [hshares] using hunchanged
          simp [Pc.refused, Pc.added, hshares]
      | storing copy =>
        cases hstep
        obtain ⟨present, n, calls⟩ := s
        obtain rfl : present = true := (Bool.and_eq_true_iff.1 hunchanged).1
        refine h.goto hpc ⟨rfl, rfl⟩ fun _ => ?_
        cases hshares : backend.shares with
        | false =>
          obtain rfl : n + 1 = copy := by simpa [hshares] using hunchanged
          simp [Pc.refused, Pc.added, hshares]
        | true => simp [Pc.refused, Pc.added, hshares]
      | creating =>
        cases hstep
        exact h.goto (n := s.attempts) hpc ⟨rfl, rfl⟩ fun _ => rfl
      | deleting outcome =>
        simp only at hstep
        split at hstep
        · cases hstep
          exact h.goto (n := s.attempts) hpc ⟨rfl, rfl⟩ fun _ => rfl
        · next hremoved =>
          cases hstep
          apply h.remove hpc rfl
          intro hsession
          cases outcome with
          | session userId =>
            cases hpresent : s.present with
            | true => rfl
            | false =>
              have hraises : backend.raises = true := by simpa [hpresent] using hunchanged
              simp [hraises, hpresent] at hremoved
          | _ => cases hsession
      | done outcome => cases hstep

/-- **One session, and no wrong code lost**: in every run of any number of calls in which no call writes to a record
that has changed since the call read it. -/
theorem single_use (backend : Backend) (otp : Otp) (attempts : Nat) (events : List OtpEvent) (t : OtpState)
    (hunchanged : Along (otpStep backend otp) (fun s e _ => unchanged backend s e = true) (recorded attempts) events)
    (hrun : exec (otpStep backend otp) (recorded attempts) events = some t) : SingleUse attempts t :=
  OtpInv.singleUse <| along_invariant (I := OtpInv backend attempts) ⟨by simp [recorded], fun _ => by simp [recorded]⟩
    hunchanged (fun _ _ _ hm hC hstep => otpInv_step hm hC hstep) hrun

end Steps

/-- A wrong code, counted before the call with the right one removes the record that it has read already. -/
theorem single_use_pair : SingleUse 2 ⟨false, 3, [.done .invalidOtp, .done (.session "alice")]⟩ :=
  single_use firestoreKeyValue ⟨"482913", "alice", 900⟩ 2
    [.call "111111" 10, .call "482913" 10, .next 0, .next 0, .next 0, .next 0, .next 1, .next 1] _ (by decide) rfl

/-- Two calls with the right code both get a session, and of two wrong codes one is counted. -/
theorem otp_used_twice : ¬ ∀ (backend : Backend) (otp : Otp) (attempts : Nat) (events : List OtpEvent) (t : OtpState),
    exec (otpStep backend otp) (recorded attempts) events = some t → SingleUse attempts t := by
  intro h
  have htwice := h firestoreKeyValue ⟨"482913", "alice", 900⟩ 0
    [.call "482913" 10, .call "482913" 10, .next 0, .next 0, .next 1, .next 1] _ rfl
  exact absurd htwice (by decide)

example : exec (otpStep firestoreKeyValue ⟨"482913", "alice", 900⟩) (recorded 0)
    [.call "111111" 10, .call "222222" 10, .next 0, .next 0, .next 0, .next 0, .next 1, .next 1, .next 1, .next 1] =
      some ⟨true, 1, [.done .invalidOtp, .done .invalidOtp]⟩ := by decide

end PortaPhone.SignIn
