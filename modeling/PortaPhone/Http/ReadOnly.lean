import PortaPhone.Http.Retries
import PortaPhone.Recordings.IssueLink
/-!
# Faults of a read-only site (`api/admin.py`)

`_send_request` (`admin.py:557`) looks for `READ_ONLY_FAULTS` in the answer to its first request. The request that it
sends again in the `except` clause (`:587-594`) has no clause of its own: what comes back is raised as it is, and only
an `_send_request` further out can still report it. `Pc.guarded` says of each request whether there is such a clause.
-/

namespace PortaPhone.Http.Retries

open Failover (readOnlyFaults sessionAuthFaults)

/-- A login that the first request of the method waits for: what it raises comes to the `except` clause of the
method. -/
def firstRequest : Purpose → Bool
  | .fresh retry | .refresh retry | .relogin retry => !retry
  | .recover => false

/-- The answer to the next request comes to an `except` clause of `_send_request`. -/
def Pc.guarded : Pc → Bool
  | .exchange retry => !retry
  | .login p _ resent => !resent || firstRequest p
  | .ended _ => true

variable {env : Env} {n : Nat} {code : String}

theorem not_isSessionFault (h : code ∈ readOnlyFaults) : isSessionFault (some code) = false := by
  simp only [readOnlyFaults, List.mem_cons, List.not_mem_nil, or_false] at h
  rcases h with rfl | rfl | rfl
  · decide
  · decide
  · decide

theorem recovered_readOnly (h : code ∈ readOnlyFaults) (again : Pc) :
    recovered (some code) again = .ended (.raised .serviceReadOnly) := by
  simp [recovered, not_isSessionFault h, h]

/-- A request that is sent again by a login. -/
theorem loginFault_readOnly (h : code ∈ readOnlyFaults) (p : Purpose) :
    loginFault (some code) p =
      .ended (.raised (if firstRequest p then .serviceReadOnly else .webTrit (some code))) := by
  cases p with
  | fresh retry => cases retry <;> simp [loginFault, firstRequest, recovered_readOnly h]
  | refresh retry => cases retry <;> simp [loginFault, firstRequest, recovered_readOnly h]
  | relogin retry => cases retry <;> simp [loginFault, firstRequest, recovered_readOnly h]
  | recover => rfl

/-- A fault of a read-only site ends the call; which error is raised depends on where the call was. -/
theorem step_readOnly {pc : Pc} (hopen : ∀ outcome, pc ≠ .ended outcome)
    (hanswer : (env.exchange n).1 = .fault (some code)) (h : code ∈ readOnlyFaults) :
    step env (n, pc) =
      ((env.exchange n).2, .ended (.raised (if pc.guarded then .serviceReadOnly else .webTrit (some code)))) := by
  cases pc with
  | exchange retry => cases retry <;> simp [step, hanswer, exchanged, Pc.guarded, recovered_readOnly h]
  | login p depth resent =>
    cases resent with
    | false => simp [step, hanswer, loggedIn, Pc.guarded, recovered_readOnly h]
    | true => simp [step, hanswer, loggedIn, Pc.guarded, loginFault_readOnly h]
  | ended outcome => exact absurd rfl (hopen outcome)

/-- The `k`th exchange of the call is its last one, and comes back with this fault. -/
structure LastFault (env : Env) (k : Nat) (pc : Pc) (code : String) : Prop where
  before : ∃ n, (step env)^[k] (sendRequest env) = (n, pc) ∧ (env.exchange n).1 = .fault (some code)
  openBefore : ∀ outcome, pc ≠ .ended outcome
  endedAfter : Ended ((step env)^[k + 1] (sendRequest env))

/-- **A read-only site.** When the last answer to a call is one of these faults, the call raises the error that the
account realm raises for it, exactly if that answer came to an `except` clause. -/
theorem readOnly_reported_iff {k : Nat} {pc : Pc} (hlast : LastFault env k pc code) (hcode : code ∈ readOnlyFaults) :
    (∀ token, Recordings.AccountApi.sendRequest token (.fault (some code)) =
      .error (.webTrit Recordings.serviceReadOnlyError)) ∧
    (((step env)^[k + 1] (sendRequest env)).2 = .ended (.raised .serviceReadOnly) ↔ pc.guarded = true) := by
  refine ⟨fun token => if_pos hcode, ?_⟩
  obtain ⟨n, hbefore, hanswer⟩ := hlast.before
  rw [Function.iterate_succ_apply', hbefore, step_readOnly hlast.openBefore hanswer hcode]
  by_cases hguarded : pc.guarded = true
  · simp [hguarded]
  · simp [hguarded]

/-! ## After a fail-over

The stored session means nothing to the site that answers, the login on that site succeeds, and the site is
read-only. -/

def failedOver : Env :=
  { refusing with
    answers := fun n =>
      if n = 0 then .fault (some "Server.Session.check_auth.auth_failed")
      else if n = 1 then .response { accessToken := some "token" }
      else .fault (some "read_only_mode")
    stored := fun _ => some { accessToken := some "token" }
    storedLocked := fun _ => some { accessToken := some "token" } }

theorem lastFault_failedOver : LastFault failedOver 2 (.exchange true) "read_only_mode" := by
  refine ⟨⟨2, rfl, rfl⟩, fun outcome h => ?_, ⟨_, rfl⟩⟩
  cases h

theorem readOnly_lost_on_resend :
    ¬ ∀ (env : Env) (k : Nat) (pc : Pc) (code : String), LastFault env k pc code → code ∈ readOnlyFaults →
      ((step env)^[k + 1] (sendRequest env)).2 = .ended (.raised .serviceReadOnly) := by
  intro h
  have hraised : ((step failedOver)^[2 + 1] (sendRequest failedOver)).2 =
      .ended (.raised (.webTrit (some "read_only_mode"))) := rfl
  have hclaimed := h failedOver 2 _ _ lastFault_failedOver (by decide)
  rw [hraised] at hclaimed
  cases hclaimed

/-- The same site with a session of its own: the first answer is the fault. -/
def readOnlySite : Env := { failedOver with answers := fun _ => .fault (some "read_only_mode") }

theorem readOnly_reported_first :
    LastFault readOnlySite 0 (.exchange false) "read_only_mode" ∧ "read_only_mode" ∈ readOnlyFaults ∧
      ((step readOnlySite)^[0 + 1] (sendRequest readOnlySite)).2 = .ended (.raised .serviceReadOnly) := by
  have hlast : LastFault readOnlySite 0 (.exchange false) "read_only_mode" := by
    refine ⟨⟨0, rfl, rfl⟩, fun outcome h => ?_, ⟨_, rfl⟩⟩
    cases h
  have hcode : "read_only_mode" ∈ readOnlyFaults := by decide
  exact ⟨hlast, hcode, (readOnly_reported_iff hlast hcode).2.2 rfl⟩

end PortaPhone.Http.Retries
