import PortaPhone.Lib.Machine
/-!
# The shared admin session (`async_http_api.py`, `api/admin.py`)

Any number of coroutines send admin requests through one `AdminAPI`. They share one stored session, a
mutable object that a request keeps a reference to, and one login lock; a step is what a coroutine
does between two awaits.

| here | there |
| --- | --- |
| `OAuthSession`, `extractAccessToken` | `OAuthSessionData` (`http_api.py:29`), `extract_access_token` (`async_http_api.py:557`) |
| `validSession`       | `_valid_session` (`async_http_api.py:478`) |
| `sessionInProgress`, `dropExpired` | `session_in_progress` (`:533`): the branch it takes, the token it drops |
| `begin`, `underLock` | `send_rest_request` (`:494`): the lock-free check, and the body of `async with self._login_lock` |
| `finishLogin`        | what is done with the result of `AdminAPI.login` (`admin.py:56`) and `refresh` (`:80`) |
| `loginAnswered`      | `_send_request` (`admin.py:557`) of `Session/login`, with its own recovery from a session fault |
| `answered`           | `_send_request` of any other method; `generate_otp` (`adapter.py:642`) after `create_otp` |

An admin user has neither a `password` nor an `api_key`, so the two branches of `send_rest_request`
on them are not taken.
-/

namespace PortaPhone.Http

/-! ## Sessions -/

structure OAuthSession where
  accessToken : Option String := none
  accessTokenExpiresAt : Option Int := none
  refreshToken : Option String := none
deriving DecidableEq, Repr

/-- Python's truth of an optional string: `None` and `""` are false. -/
def truthy (s : Option String) : Bool := s.any (· ≠ "")

/-- A login response, as far as it is read. -/
structure LoginResponse where
  accessToken : Option String
  expiresIn : Option Int := none
  refreshToken : Option String := none
deriving DecidableEq, Repr

/-- `extract_access_token` (`async_http_api.py:557`); `expires_in` of `0` is no expiry. -/
def extractAccessToken (now : Int) (r : LoginResponse) : OAuthSession where
  accessToken := r.accessToken
  accessTokenExpiresAt := (r.expiresIn.filter (· ≠ 0)).map (now + ·)
  refreshToken := r.refreshToken

/-- `_valid_session` (`async_http_api.py:478`); `advance` is `REFRESH_TOKEN_IN_ADVANCE`. -/
def validSession (advance now : Int) : Option OAuthSession → Bool
  | none => false
  | some session =>
    truthy session.accessToken &&
      match session.accessTokenExpiresAt with
      | none => true
      | some exp => !decide (exp < now) && !(truthy session.refreshToken && decide (exp - now < advance))

/-- The branches of `session_in_progress` (`async_http_api.py:533`): no session to use, this session,
or a login, by `refresh` or by `login` itself. -/
inductive Progress
  | none
  | use (ref : Nat)
  | refresh
  | relogin
deriving DecidableEq, Repr

/-- `session_in_progress`, which reads the clock twice. -/
def sessionInProgress (advance now now' : Int) : Option (Nat × OAuthSession) → Progress
  | .none => .none
  | some (ref, session) =>
    if truthy session.accessToken then
      match session.accessTokenExpiresAt with
      | .none => .use ref
      | some exp =>
        if exp < now then if truthy session.refreshToken then .refresh else .relogin
        else if exp - now' < advance ∧ truthy session.refreshToken then .refresh
        else .use ref
    else .none

/-! ## State -/

/-- What a login is for: the request itself (`send_rest_request`), the two branches of
`session_in_progress`, or the recovery of `_send_request` from a session fault. The first three hold
the lock. `retry` says that the waiting request is the second one of its call. -/
inductive Purpose
  | fresh (retry : Bool)
  | refresh (retry : Bool)
  | relogin (retry : Bool)
  | recover
deriving DecidableEq, Repr

/-- Where a call is: about to look for a session, waiting for the lock, in a login exchange (`depth`
outer logins wait for it to recover from a session fault, and `resent` says that it is the second
exchange of its own login), holding a session and about to send, in its exchange with the token it was
sent with, or ended. -/
inductive Pc
  | start (retry : Bool)
  | waiting (retry : Bool)
  | login (p : Purpose) (depth : Nat) (resent : Bool)
  | ready (ref : Nat) (retry : Bool)
  | exchange (ref : Nat) (token : Option String) (retry : Bool)
  | done
deriving DecidableEq, Repr

/-- A stored OTP: the token written with it, and the one `create_otp` was accepted with. -/
structure OtpRecord where
  call : Nat
  bssToken : Option String
  usedToken : Option String
deriving DecidableEq, Repr

/-- The connector and its calls. Sessions are objects: `stored` and the calls hold indices into
`heap`. The last four fields are logs that no step reads. -/
structure Api where
  heap : List OAuthSession
  stored : Option Nat
  lock : Option Nat := none
  pc : Nat → Pc := fun _ => .start false
  logins : Nat := 0
  results : List Nat := []
  sends : List (Nat × Option String) := []
  otps : List OtpRecord := []

/-- No call has begun, and this session is stored. -/
def Api.init (session : Option OAuthSession) : Api where
  heap := session.toList
  stored := session.map fun _ => 0

/-- How a login exchange ends. -/
inductive LoginAnswer
  | response (r : LoginResponse)
  | sessionFault
  | failed
deriving DecidableEq, Repr

/-- How the exchange of a call ends: with what it asked for, with one of `SESSION_AUTH_FAULTS`, or with
any other error or refusal. -/
inductive Answer
  | accepted
  | sessionFault
  | failed
deriving DecidableEq, Repr

/-- The readings of the clock under the lock: in `_valid_session`, then twice in
`session_in_progress`. -/
structure Clock where
  check : Int
  progress : Int
  window : Int
  check_le : check ≤ progress
  progress_le : progress ≤ window
deriving DecidableEq, Repr

inductive ApiEvent
  | begin (i : Nat) (now : Int)
  | acquire (i : Nat) (c : Clock)
  | loginAnswer (i : Nat) (now : Int) (a : LoginAnswer)
  | send (i : Nat)
  /-- The site did not take the connection and the other one is next. -/
  | unreachable (i : Nat)
  | answer (i : Nat) (a : Answer)
deriving DecidableEq, Repr

namespace Api

/-! ## Steps -/

/-- `get_auth_session`, with the object it returns. -/
def authSession (s : Api) : Option (Nat × OAuthSession) :=
  s.stored.bind fun ref => (s.heap[ref]?).map fun session => (ref, session)

def tokenOf (s : Api) (ref : Nat) : Option String := (s.heap[ref]?).bind (·.accessToken)

/-- `current_access_token` (`admin.py:330`). -/
def currentAccessToken (s : Api) : Option String := s.stored.bind s.tokenOf

def setPc (s : Api) (i : Nat) (pc : Pc) : Api := { s with pc := fun j => if j = i then pc else s.pc j }

/-- The stored session when it is valid. -/
def usable (s : Api) (advance now : Int) : Option Nat :=
  (s.authSession.filter fun p => validSession advance now (some p.2)).map Prod.fst

/-- `auth_session.access_token = None` (`async_http_api.py:540`). -/
def dropExpired (s : Api) (now : Int) : Api :=
  match s.authSession with
  | none => s
  | some (ref, session) =>
    if truthy session.accessToken && session.accessTokenExpiresAt.any (· < now) then
      { s with heap := s.heap.set ref { session with accessToken := none } }
    else s

/-- A login exchange is sent. -/
def sendLogin (s : Api) (i : Nat) (p : Purpose) (depth : Nat) (resent : Bool) : Api :=
  { s.setPc i (.login p depth resent) with logins := s.logins + 1 }

/-- The first check of `send_rest_request` (`async_http_api.py:505-507`). -/
def begin (s : Api) (advance : Int) (i : Nat) (retry : Bool) (now : Int) : Api :=
  match s.usable advance now with
  | some ref => s.setPc i (.ready ref retry)
  | none => s.setPc i (.waiting retry)

/-- The body of `async with self._login_lock` up to its first await (`async_http_api.py:509-512`). -/
def underLock (s : Api) (advance : Int) (i : Nat) (retry : Bool) (c : Clock) : Api :=
  match s.usable advance c.check with
  | some ref => s.setPc i (.ready ref retry)
  | none =>
    let locked := { s.dropExpired c.progress with lock := some i }
    match sessionInProgress advance c.progress c.window s.authSession with
    | .none => locked.sendLogin i (.fresh retry) 0 false
    | .use ref => s.setPc i (.ready ref retry)
    | .refresh => locked.sendLogin i (.refresh retry) 0 false
    | .relogin => locked.sendLogin i (.relogin retry) 0 false

def storeSession (s : Api) (ref : Nat) : Api := { s with stored := some ref }

/-- The lock is released and the request has its session. -/
def release (s : Api) (i ref : Nat) (retry : Bool) : Api := { s.setPc i (.ready ref retry) with lock := none }

/-- The login of `p` returned the session `ref` (`async_http_api.py:518-523`, `:544-555`, `admin.py:82-84`). A
session with an empty token is not taken over from `session_in_progress`. -/
def finishLogin (s : Api) (i ref : Nat) : Purpose → Api
  | .fresh retry => (s.storeSession ref).release i ref retry
  | .refresh retry =>
    if truthy (s.tokenOf ref) then (s.storeSession ref).release i ref retry
    else (s.storeSession ref).sendLogin i (.fresh retry) 0 false
  | .relogin retry =>
    if truthy (s.tokenOf ref) then s.release i ref retry
    else s.sendLogin i (.fresh retry) 0 false
  | .recover => (s.storeSession ref).setPc i (.start true)

/-- The login raised: it ends the call, and leaves the lock. -/
def failLogin (s : Api) (i : Nat) : Purpose → Api
  | .recover => s.setPc i .done
  | .fresh _ | .refresh _ | .relogin _ => { s.setPc i .done with lock := none }

/-- The login raised a session fault. Where `send_rest_request` made it, `_send_request` takes the fault for one of
its own request (`admin.py:584`), and a first request recovers from it. -/
def faultLogin (s : Api) (i : Nat) (p : Purpose) : Api :=
  match p with
  | .fresh false | .refresh false | .relogin false => { s.sendLogin i .recover 0 false with lock := none }
  | .fresh true | .refresh true | .relogin true | .recover => s.failLogin i p

/-- The end of a login exchange. A session fault is answered by a login of its own whose result is
stored, and then the exchange is made once more. -/
def loginAnswered (s : Api) (i : Nat) (p : Purpose) (depth : Nat) (resent : Bool) (now : Int) :
    LoginAnswer → Api
  | .failed => s.failLogin i p
  | .sessionFault => if resent then s.faultLogin i p else s.sendLogin i p (depth + 1) false
  | .response r =>
    let session := extractAccessToken now r
    if session.accessToken = none then s.failLogin i p
    else
      let ref := s.heap.length
      let s := { s with heap := s.heap ++ [session], results := ref :: s.results }
      match depth with
      | 0 => s.finishLogin i ref p
      | depth + 1 => (s.storeSession ref).sendLogin i p depth true

/-- The end of the exchange of a call. `generate_otp` reads the current token with no await after
`create_otp`. -/
def answered (s : Api) (isCreateOtp : Nat → Bool) (i : Nat) (token : Option String) (retry : Bool) : Answer → Api
  | .accepted =>
    let s := s.setPc i .done
    if isCreateOtp i then
      { s with otps := ⟨i, s.currentAccessToken.filter (· ≠ ""), token.filter (· ≠ "")⟩ :: s.otps }
    else s
  | .sessionFault => if retry then s.setPc i .done else s.sendLogin i .recover 0 false
  | .failed => s.setPc i .done

/-! ## Reading the state -/

theorem auth_stored {s : Api} {ref : Nat} {session : OAuthSession} (h : s.authSession = some (ref, session)) :
    s.stored = some ref ∧ s.heap[ref]? = some session := by
  unfold authSession at h
  obtain ⟨r, hr, h⟩ := Option.bind_eq_some_iff.1 h
  obtain ⟨x, hx, h⟩ := Option.map_eq_some_iff.1 h
  cases h
  exact ⟨hr, hx⟩

theorem dropExpired_length (s : Api) (now : Int) : (s.dropExpired now).heap.length = s.heap.length := by
  unfold Api.dropExpired
  split
  · rfl
  · split
    · simp
    · rfl

theorem dropExpired_rest (s : Api) (now : Int) :
    ∃ heap, s.dropExpired now = { s with heap := heap } := by
  unfold Api.dropExpired
  split
  · exact ⟨_, rfl⟩
  · split
    · exact ⟨_, rfl⟩
    · exact ⟨_, rfl⟩

end Api

/-- One step of one call. -/
def apiStep (advance : Int) (isCreateOtp : Nat → Bool) (s : Api) : ApiEvent → Option Api
  | .begin i now =>
    match s.pc i with
    | .start retry => some (s.begin advance i retry now)
    | _ => none
  | .acquire i c =>
    match s.pc i, s.lock with
    | .waiting retry, none => some (s.underLock advance i retry c)
    | _, _ => none
  | .loginAnswer i now a =>
    match s.pc i with
    | .login p depth resent => some (s.loginAnswered i p depth resent now a)
    | _ => none
  | .send i =>
    match s.pc i with
    | .ready ref retry =>
      some { s.setPc i (.exchange ref (s.tokenOf ref) retry) with sends := (i, s.tokenOf ref) :: s.sends }
    | _ => none
  | .unreachable i =>
    match s.pc i with
    | .exchange ref _ retry => some (s.setPc i (.ready ref retry))
    | _ => none
  | .answer i a =>
    match s.pc i with
    | .exchange _ token retry => some (s.answered isCreateOtp i token retry a)
    | _ => none

/-- Where the call of a step was, and what the step did. -/
theorem apiStep_cases {advance : Int} {isCreateOtp : Nat → Bool} {s t : Api} {e : ApiEvent}
    (h : apiStep advance isCreateOtp s e = some t) :
    match e with
    | .begin i now => ∃ retry, s.pc i = .start retry ∧ t = s.begin advance i retry now
    | .acquire i c => ∃ retry, s.pc i = .waiting retry ∧ s.lock = none ∧ t = s.underLock advance i retry c
    | .loginAnswer i now a =>
      ∃ p depth resent, s.pc i = .login p depth resent ∧ t = s.loginAnswered i p depth resent now a
    | .send i => ∃ ref retry, s.pc i = .ready ref retry ∧
        t = { s.setPc i (.exchange ref (s.tokenOf ref) retry) with sends := (i, s.tokenOf ref) :: s.sends }
    | .unreachable i => ∃ ref token retry, s.pc i = .exchange ref token retry ∧ t = s.setPc i (.ready ref retry)
    | .answer i a =>
      ∃ ref token retry, s.pc i = .exchange ref token retry ∧ t = s.answered isCreateOtp i token retry a := by
  cases e with
  | begin i now =>
    cases hpc : s.pc i <;> simp [apiStep, hpc] at h
    exact ⟨_, hpc, h.symm⟩
  | acquire i c =>
    cases hpc : s.pc i <;> cases hl : s.lock <;> simp [apiStep, hpc, hl] at h
    exact ⟨_, hpc, rfl, h.symm⟩
  | loginAnswer i now a =>
    cases hpc : s.pc i <;> simp [apiStep, hpc] at h
    exact ⟨_, _, _, hpc, h.symm⟩
  | send i =>
    cases hpc : s.pc i <;> simp [apiStep, hpc] at h
    exact ⟨_, _, hpc, h.symm⟩
  | unreachable i =>
    cases hpc : s.pc i <;> simp [apiStep, hpc] at h
    exact ⟨_, _, _, hpc, h.symm⟩
  | answer i a =>
    cases hpc : s.pc i <;> simp [apiStep, hpc] at h
    exact ⟨_, _, _, hpc, h.symm⟩

end PortaPhone.Http
