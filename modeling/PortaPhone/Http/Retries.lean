import PortaPhone.Failover.SiteState
import PortaPhone.Http.AdminSession
import PortaPhone.Lib.Iterate
/-!
# An admin call and its logins (`api/admin.py`)

| here | there |
| --- | --- |
| `Env.exchange`   | `_send_rest_request` (`async_http_api.py:273`): one site, and the other one if that cannot be reached |
| `begin`          | `send_rest_request` (`async_http_api.py:494`) up to the request |
| `exchanged`, `loggedIn` | `_send_request` (`admin.py:557`) of the method itself and of `Session/login` |
| `finish`         | what follows on a login (`async_http_api.py:518-523`, `:544-555`, `admin.py:80-84`) |

One call of `_send_request` with all the logins that it makes. `Session/login` is sent by `_send_request` too, which
logs in when it meets a session fault: nothing but the switch ends that (`ends_iff`). Sessions are stored by other calls
as well, so that any session may be found when the call looks for one. The stack of the interpreter has no limit here.
-/

namespace PortaPhone.Http.Retries

open Failover (readOnlyFaults sessionAuthFaults)
open Iterate

/-! ## The requests -/

/-- What comes of an HTTP request: the JSON of a response, an error with the fault code in it, a body that is no JSON,
or no connection. -/
inductive Answer
  | response (r : LoginResponse)
  | fault (code : Option String)
  | garbled
  | unreachable
deriving DecidableEq, Repr

/-- What `n` requests find: the answer to the next one, whether it may be sent to another site, and the session and
the clock when the call looks for a session. -/
structure Env where
  answers : Nat → Answer
  otherSite : Nat → Bool
  now : Nat → Int
  stored : Nat → Option OAuthSession
  clock : Nat → Clock
  storedLocked : Nat → Option OAuthSession

inductive Reply
  | response (r : LoginResponse)
  | fault (code : Option String)
  | garbled
deriving DecidableEq, Repr

def Answer.reply : Answer → Reply
  | .response r => .response r
  | .fault code => .fault code
  | .garbled => .garbled
  -- the response trace has no content then
  | .unreachable => .fault none

/-- The reply to what is sent after `n` requests, and the requests then. -/
def Env.exchange (env : Env) (n : Nat) : Reply × Nat :=
  if env.answers n = .unreachable ∧ env.otherSite n = true then ((env.answers (n + 1)).reply, n + 2)
  else ((env.answers n).reply, n + 1)

/-! ## The call -/

inductive Raised
  | webTrit (faultCode : Option String)
  | serviceReadOnly
  | valueError
deriving DecidableEq, Repr

inductive Outcome
  | value (r : LoginResponse)
  | raised (error : Raised)
deriving DecidableEq, Repr

/-- Where the call is: about to send the request of its method (`retry` for the second time), or that of a login, for
which `depth` other logins wait and which is `resent` after one of its own. -/
inductive Pc
  | exchange (retry : Bool)
  | login (p : Purpose) (depth : Nat) (resent : Bool)
  | ended (outcome : Outcome)
deriving DecidableEq, Repr

/-- `REFRESH_TOKEN_IN_ADVANCE` of `AdminAPI`. -/
def refreshTokenInAdvance : Int := 0

/-- `send_rest_request` looks for a session, and once more under the lock. -/
def begin (env : Env) (n : Nat) (retry : Bool) : Pc :=
  if validSession refreshTokenInAdvance (env.now n) (env.stored n) then .exchange retry
  else if validSession refreshTokenInAdvance (env.clock n).check (env.storedLocked n) then .exchange retry
  else match sessionInProgress refreshTokenInAdvance (env.clock n).progress (env.clock n).window
      ((env.storedLocked n).map fun session => (0, session)) with
    | .none => .login (.fresh retry) 0 false
    | .use _ => .exchange retry
    | .refresh => .login (.refresh retry) 0 false
    | .relogin => .login (.relogin retry) 0 false

/-- A login has returned the session of `r`. -/
def finish (env : Env) (n : Nat) (r : LoginResponse) : Purpose → Pc
  | .fresh retry => .exchange retry
  | .refresh retry | .relogin retry => if truthy r.accessToken then .exchange retry else .login (.fresh retry) 0 false
  | .recover => begin env n true

def isSessionFault (code : Option String) : Bool := code.any (· ∈ sessionAuthFaults)

/-- The `except` clause of `_send_request`. -/
def recovered (code : Option String) (again : Pc) : Pc :=
  if isSessionFault code then again
  else if code.any (· ∈ readOnlyFaults) then .ended (.raised .serviceReadOnly)
  else .ended (.raised (.webTrit code))

/-- The second request of a login has met a fault. `send_rest_request` raises it on to the `except` clause of the
method, if that is its first request. -/
def loginFault (code : Option String) : Purpose → Pc
  | .fresh false | .refresh false | .relogin false => recovered code (.login .recover 0 false)
  | .fresh true | .refresh true | .relogin true | .recover => .ended (.raised (.webTrit code))

def exchanged (retry : Bool) : Reply → Pc
  | .response r => .ended (.value r)
  | .garbled => .ended (.raised .valueError)
  | .fault code => if retry then .ended (.raised (.webTrit code)) else recovered code (.login .recover 0 false)

def loggedIn (env : Env) (n : Nat) (p : Purpose) (depth : Nat) (resent : Bool) : Reply → Pc
  | .garbled => .ended (.raised .valueError)
  | .fault code => if resent then loginFault code p else recovered code (.login p (depth + 1) false)
  | .response r =>
    if r.accessToken = none then .ended (.raised .valueError)
    else match depth with
      | 0 => finish env n r p
      | depth + 1 => .login p depth true

/-- The requests so far, and where the call is. -/
abbrev Config := Nat × Pc

def step (env : Env) : Config → Config
  | (n, .exchange retry) => ((env.exchange n).2, exchanged retry (env.exchange n).1)
  | (n, .login p depth resent) =>
    ((env.exchange n).2, loggedIn env (env.exchange n).2 p depth resent (env.exchange n).1)
  | (n, .ended outcome) => (n, .ended outcome)

/-- `_send_request` of a method. -/
def sendRequest (env : Env) : Config := (0, begin env 0 false)

/-! ## How a call ends -/

def Ended (c : Config) : Prop := ∃ outcome, c.2 = .ended outcome

/-- The call returns or raises, after some number of requests. -/
def Ends (env : Env) (c : Config) : Prop := Leads (step env) Ended c

/-- The requests after `k` more exchanges. -/
def Env.after (env : Env) (n : Nat) : Nat → Nat
  | 0 => n
  | k + 1 => (env.exchange (env.after n k)).2

def Reply.isSessionFault : Reply → Bool
  | .fault code => Retries.isSessionFault code
  | _ => false

/-- From the next request on every exchange ends with a session fault. -/
def OnlyFaults (env : Env) (n : Nat) : Prop := ∀ k, (env.exchange (env.after n k)).1.isSessionFault = true

/-- A login that is about to be sent is not met by session faults for ever. -/
def Answered (env : Env) (c : Config) : Prop := ∀ p depth, c.2 = .login p depth false → ¬ OnlyFaults env c.1

variable {env : Env}

theorem isSessionFault_fault {reply : Reply} (h : reply.isSessionFault = true) :
    ∃ code, reply = .fault code ∧ isSessionFault code = true := by
  cases reply with
  | fault code => exact ⟨code, rfl, h⟩
  | response r => cases h
  | garbled => cases h

theorem recovered_of_fault {code : Option String} (h : isSessionFault code = true) (again : Pc) :
    recovered code again = again := if_pos h

/-- Without a session fault there is no login to recover. -/
theorem recovered_ended {code : Option String} (h : ¬ isSessionFault code = true) (again : Pc) :
    ∃ outcome, recovered code again = .ended outcome := by
  unfold recovered
  rw [if_neg h]
  split
  · exact ⟨_, rfl⟩
  · exact ⟨_, rfl⟩

theorem after_succ (n k : Nat) : env.after n (k + 1) = env.after (env.exchange n).2 k := by
  induction k with
  | zero => rfl
  | succ k ih => rw [Env.after, ih, Env.after]

/-! ### Session faults for ever -/

theorem OnlyFaults.here {n : Nat} (h : OnlyFaults env n) : (env.exchange n).1.isSessionFault = true := h 0

theorem OnlyFaults.next {n : Nat} (h : OnlyFaults env n) : OnlyFaults env (env.exchange n).2 := by
  intro k
  rw [← after_succ]
  exact h (k + 1)

theorem step_login_fault {n depth : Nat} {p : Purpose} (h : (env.exchange n).1.isSessionFault = true) :
    step env (n, .login p depth false) = ((env.exchange n).2, .login p (depth + 1) false) := by
  obtain ⟨code, hcode, hfault⟩ := isSessionFault_fault h
  rw [step, hcode, loggedIn, if_neg Bool.false_ne_true, recovered_of_fault hfault]

/-- Each login waits for another one. -/
theorem login_of_onlyFaults (p : Purpose) (k : Nat) :
    ∀ n depth : Nat, OnlyFaults env n → ∃ m,
      (step env)^[k] (n, .login p depth false) = (m, .login p (depth + k) false) := by
  induction k with
  | zero => exact fun _ _ _ => ⟨_, rfl⟩
  | succ k ih =>
    intro n depth h
    obtain ⟨m, hm⟩ := ih _ (depth + 1) h.next
    refine ⟨m, ?_⟩
    rw [Function.iterate_succ_apply, step_login_fault h.here, hm, Nat.add_right_comm]
    rfl

theorem iterate_ended {n : Nat} {outcome : Outcome} (k : Nat) :
    (step env)^[k] (n, .ended outcome) = (n, .ended outcome) := Function.iterate_fixed rfl k

/-- A call that comes to such a login does not end. -/
theorem not_ends_of_onlyFaults {c : Config} {k n depth : Nat} {p : Purpose}
    (hk : (step env)^[k] c = (n, .login p depth false)) (h : OnlyFaults env n) : ¬ Ends env c := by
  rintro ⟨j, outcome, hj⟩
  obtain ⟨m, hm⟩ := login_of_onlyFaults p j n depth h
  have hended : ∀ d : Config, d.2 = .ended outcome → (step env)^[k] d = d := by
    rintro ⟨i, _⟩ rfl
    exact iterate_ended k
  rw [← hk, ← Function.iterate_add_apply, Nat.add_comm, Function.iterate_add_apply, hended _ hj] at hm
  rw [hm] at hj
  cases hj

/-! ### Logins that are answered -/

/-- A login is over: it has raised, it has returned a session, or the method's own recovery begins. -/
def LoginOver (env : Env) (p : Purpose) (c : Config) : Prop :=
  Ended c ∨ (∃ r, c.2 = finish env c.1 r p) ∨
    (c.2 = .login .recover 0 false ∧ p ∈ [.fresh false, .refresh false, .relogin false])

theorem loginFault_over (n : Nat) (code : Option String) (p : Purpose) :
    LoginOver env p (n, loginFault code p) := by
  have hrecovered : ∀ q ∈ [Purpose.fresh false, .refresh false, .relogin false],
      LoginOver env q (n, recovered code (.login .recover 0 false)) := by
    intro q hq
    by_cases hfault : isSessionFault code = true
    · exact .inr (.inr ⟨recovered_of_fault hfault _, hq⟩)
    · exact .inl (recovered_ended hfault _)
  unfold loginFault
  split
  · exact hrecovered _ (by decide)
  · exact hrecovered _ (by decide)
  · exact hrecovered _ (by decide)
  · exact .inl ⟨_, rfl⟩
  · exact .inl ⟨_, rfl⟩
  · exact .inl ⟨_, rfl⟩
  · exact .inl ⟨_, rfl⟩

/-- The logins that wait send their requests again, one after the other. -/
theorem over_of_resent {p : Purpose} (depth : Nat) :
    ∀ n, Leads (step env) (LoginOver env p) (n, .login p depth true) := by
  induction depth with
  | zero =>
    intro n
    refine Leads.step (Leads.here ?_)
    rw [step]
    cases (env.exchange n).1 with
    | garbled => exact .inl ⟨_, rfl⟩
    | fault code => exact loginFault_over _ code p
    | response r =>
      by_cases htoken : r.accessToken = none
      · exact .inl ⟨_, if_pos htoken⟩
      · exact .inr (.inl ⟨r, if_neg htoken⟩)
  | succ depth ih =>
    intro n
    refine Leads.step ?_
    rw [step]
    cases (env.exchange n).1 with
    | garbled => exact Leads.here (.inl ⟨_, rfl⟩)
    | fault code => exact Leads.here (loginFault_over _ code p)
    | response r =>
      by_cases htoken : r.accessToken = none
      · exact Leads.here (.inl ⟨_, if_pos htoken⟩)
      · rw [loggedIn, if_neg htoken]
        exact ih _

/-- A login whose request is not met by a session fault. -/
theorem over_of_answered {p : Purpose} {n depth : Nat} (h : ¬ (env.exchange n).1.isSessionFault = true) :
    Leads (step env) (LoginOver env p) (n, .login p depth false) := by
  refine Leads.step ?_
  rw [step]
  cases hreply : (env.exchange n).1 with
  | garbled => exact Leads.here (.inl ⟨_, rfl⟩)
  | fault code =>
    rw [hreply] at h
    exact Leads.here (.inl (recovered_ended h _))
  | response r =>
    by_cases htoken : r.accessToken = none
    · exact Leads.here (.inl ⟨_, if_pos htoken⟩)
    · cases depth with
      | zero => exact Leads.here (.inr (.inl ⟨r, if_neg htoken⟩))
      | succ depth =>
        rw [loggedIn, if_neg htoken]
        exact over_of_resent depth _

/-- The induction is on the number of session faults. -/
theorem over_of_not_onlyFaults {p : Purpose} {n depth : Nat} (h : ¬ OnlyFaults env n) :
    Leads (step env) (LoginOver env p) (n, .login p depth false) := by
  obtain ⟨k, hk⟩ := not_forall.1 h
  clear h
  induction k generalizing n depth with
  | zero => exact over_of_answered hk
  | succ k ih =>
    by_cases hfault : (env.exchange n).1.isSessionFault = true
    · refine Leads.step ?_
      rw [step_login_fault hfault]
      exact ih (by rwa [← after_succ])
    · exact over_of_answered hfault

/-! ### The call -/

/-- The logins of the call are answered, from here on. -/
abbrev Settled (env : Env) (c : Config) : Prop := Always (step env) (Answered env) c

theorem begin_cases (env : Env) (n : Nat) (retry : Bool) :
    begin env n retry = .exchange retry ∨ begin env n retry = .login (.fresh retry) 0 false ∨
      begin env n retry = .login (.refresh retry) 0 false ∨ begin env n retry = .login (.relogin retry) 0 false := by
  unfold begin
  split
  · exact .inl rfl
  · split
    · exact .inl rfl
    · split
      · exact .inr (.inl rfl)
      · exact .inl rfl
      · exact .inr (.inr (.inl rfl))
      · exact .inr (.inr (.inr rfl))

theorem ends_of_ended {c : Config} (h : Ended c) : Ends env c := Leads.here h

theorem ends_retry (n : Nat) : Ends env (n, .exchange true) := by
  refine Leads.step (Leads.here ?_)
  rw [step]
  cases (env.exchange n).1 <;> exact ⟨_, rfl⟩

section Stage

variable {retry : Bool}

/-- Where the recovery ends that the first request of the method may need. -/
theorem ends_login {p : Purpose} {n depth : Nat}
    (hrecover : retry = false → ∀ n, Settled env (n, .login .recover 0 false) → Ends env (n, .login .recover 0 false))
    (hp : p ∈ [.fresh false, .refresh false, .relogin false] → retry = false)
    (hfinish : ∀ n r, Settled env (n, finish env n r p) → Ends env (n, finish env n r p))
    (hc : Settled env (n, .login p depth false)) : Ends env (n, .login p depth false) := by
  refine (over_of_not_onlyFaults (hc.here p depth rfl)).trans_always hc ?_
  rintro ⟨m, pc⟩ hover hd
  rcases hover with hended | ⟨r, hfinished⟩ | ⟨hagain, hmem⟩
  · exact ends_of_ended hended
  · obtain rfl : pc = finish env m r p := hfinished
    exact hfinish m r hd
  · obtain rfl : pc = .login .recover 0 false := hagain
    exact hrecover (hp hmem) m hd

variable (hexchange : ∀ n, Settled env (n, .exchange retry) → Ends env (n, .exchange retry))
  (hrecover : retry = false → ∀ n, Settled env (n, .login .recover 0 false) → Ends env (n, .login .recover 0 false))

include hexchange hrecover

theorem ends_fresh {n depth : Nat} (hc : Settled env (n, .login (.fresh retry) depth false)) :
    Ends env (n, .login (.fresh retry) depth false) := by
  refine ends_login hrecover (fun hp => ?_) (fun m _ hd => hexchange m hd) hc
  cases retry with
  | false => rfl
  | true => simp at hp

/-- What follows on a renewed session. -/
theorem ends_renewed (n : Nat) (r : LoginResponse)
    (hc : Settled env (n, if truthy r.accessToken then .exchange retry else .login (.fresh retry) 0 false)) :
    Ends env (n, if truthy r.accessToken then .exchange retry else .login (.fresh retry) 0 false) := by
  by_cases htoken : truthy r.accessToken = true
  · rw [if_pos htoken] at hc ⊢
    exact hexchange n hc
  · rw [if_neg htoken] at hc ⊢
    exact ends_fresh hexchange hrecover hc

theorem ends_refresh {n depth : Nat} (hc : Settled env (n, .login (.refresh retry) depth false)) :
    Ends env (n, .login (.refresh retry) depth false) := by
  refine ends_login hrecover (fun hp => ?_) (fun m r hd => ends_renewed hexchange hrecover m r hd) hc
  cases retry with
  | false => rfl
  | true => simp at hp

theorem ends_relogin {n depth : Nat} (hc : Settled env (n, .login (.relogin retry) depth false)) :
    Ends env (n, .login (.relogin retry) depth false) := by
  refine ends_login hrecover (fun hp => ?_) (fun m r hd => ends_renewed hexchange hrecover m r hd) hc
  cases retry with
  | false => rfl
  | true => simp at hp

theorem ends_begin {n : Nat} (hc : Settled env (n, begin env n retry)) : Ends env (n, begin env n retry) := by
  rcases begin_cases env n retry with h | h | h | h
  · rw [h] at hc ⊢
    exact hexchange n hc
  · rw [h] at hc ⊢
    exact ends_fresh hexchange hrecover hc
  · rw [h] at hc ⊢
    exact ends_refresh hexchange hrecover hc
  · rw [h] at hc ⊢
    exact ends_relogin hexchange hrecover hc

end Stage

/-- The second time the method is sent no session fault is recovered from. -/
theorem ends_begin_retry {n : Nat} (hc : Settled env (n, begin env n true)) : Ends env (n, begin env n true) :=
  ends_begin (fun n _ => ends_retry n) nofun hc

theorem ends_recover {n depth : Nat} (hc : Settled env (n, .login .recover depth false)) :
    Ends env (n, .login .recover depth false) :=
  have hneither : true = false → ∀ n, Settled env (n, .login .recover 0 false) →
      Ends env (n, .login .recover 0 false) := nofun
  ends_login hneither (fun hp => by simp at hp) (fun _ _ hd => ends_begin_retry hd) hc

theorem ends_exchange {n : Nat} (hc : Settled env (n, .exchange false)) : Ends env (n, .exchange false) := by
  refine Leads.step ?_
  have hnext := hc.step
  rw [step] at hnext ⊢
  cases hreply : (env.exchange n).1 with
  | response r => exact ends_of_ended ⟨_, rfl⟩
  | garbled => exact ends_of_ended ⟨_, rfl⟩
  | fault code =>
    rw [hreply, exchanged, if_neg Bool.false_ne_true] at hnext
    rw [exchanged, if_neg Bool.false_ne_true]
    by_cases hfault : isSessionFault code = true
    · rw [recovered_of_fault hfault] at hnext ⊢
      exact ends_recover hnext
    · exact ends_of_ended (recovered_ended hfault _)

/-- **Termination.** An admin call ends, after some number of requests, exactly when no login that it sends is met by
session faults for ever, in its own exchange and in those of all the logins made to recover from one. -/
theorem ends_iff (env : Env) :
    Ends env (sendRequest env) ↔
      ∀ k n p depth, (step env)^[k] (sendRequest env) = (n, .login p depth false) → ¬ OnlyFaults env n := by
  constructor
  · intro hends k n p depth hk hfaults
    exact not_ends_of_onlyFaults hk hfaults hends
  · intro h
    apply ends_begin (fun _ => ends_exchange) (fun _ _ => ends_recover)
    intro k p depth hpc
    exact h k _ p depth (Prod.ext rfl hpc)

/-! ## A switch that refuses every session -/

/-- Every answer is a session fault; there is one site and no session yet. -/
def refusing : Env where
  answers := fun _ => .fault (some "Server.Session.check_auth.auth_failed")
  otherSite := fun _ => false
  now := fun _ => 0
  stored := fun _ => none
  clock := fun _ => ⟨0, 0, 0, by decide, by decide⟩
  storedLocked := fun _ => none

theorem onlyFaults_refusing (n : Nat) : OnlyFaults refusing n := fun _ => rfl

theorem login_never_ends : ¬ ∀ env : Env, Ends env (sendRequest env) := by
  intro h
  have hlogin : (step refusing)^[0] (sendRequest refusing) = (0, .login (.fresh false) 0 false) := rfl
  exact not_ends_of_onlyFaults hlogin (onlyFaults_refusing 0) (h refusing)

end PortaPhone.Http.Retries
