import Mathlib
import PortaPhone.Lib.Tasks
/-!
# Admission control (`async_http_api.py`, `api/admin.py`, `api/account.py`)

Any number of requests send exchanges through the shared clients. Each exchange is made under a permit of the
semaphore of the main TLS setting, and the admin requests of an `AdminAPI` log in under its lock. What a
request reads between two awaits (sessions, the clock, the active site) is any value here.

| here | there |
| --- | --- |
| `inflightLimit`      | `inflight_limit` (`async_http_api.py:103`) |
| `verifyFor`          | `_verify_for` (`:184`) |
| `requestTargets`     | `_request_targets` (`:399`), `SiteState.next_targets` (`failover.py:175`) |
| `sendTargets`, `baseSend` | `_send_rest_request` (`:273`) and `send_rest_request` (`:241`) of `AsyncHTTPAPIConnector` |
| `adminLogin`, `sessionInProgress`, `loginSend` | `login` (`admin.py:56`), `session_in_progress` (`async_http_api.py:534`), `send_rest_request` (`:494`) of the connector with login |
| `adminRequest`, `verifyOtp`, `probe` | `_send_request` (`admin.py:557`), `verify_otp` (`:336`), `get_operating_mode` (`:463`) |
| `accountRequest`     | `__send_request` (`account.py:45`) |

The clients and their semaphores are made at the first use, all with the same limits; here they are there from
the start.
-/

namespace PortaPhone.Http.Admission

open Machine Tasks

/-! ## Sizes -/

/-- The nearest number with 53 significant bits, and of two the even one: the double of a positive integer,
as long as it is in range. -/
def roundDouble (n : Nat) : Nat :=
  let shift := n.log2 - 52
  let quotient := n / 2 ^ shift
  let rest := n % 2 ^ shift
  if 2 ^ shift < 2 * rest ∨ (2 ^ shift = 2 * rest ∧ quotient % 2 = 1) then (quotient + 1) * 2 ^ shift
  else quotient * 2 ^ shift

/-- `int(total * INFLIGHT_HEADROOM_RATIO)`. The ratio is the double next to 0.1, and no double is
`2 ^ 1024` or more. -/
def headroomShare (total : Nat) : Option Nat :=
  let double := roundDouble total
  if double.log2 < 1024 then some (roundDouble (double * 3602879701896397) / 2 ^ 55) else none

def defaultMaxConnections : Nat := 100
def inflightMinHeadroom : Nat := 2

/-- `inflight_limit`; `none` where it raises an `OverflowError`. -/
def inflightLimit (maxConnections : Option Int) : Option Nat :=
  let total := ((maxConnections.filter (0 < ·)).map Int.toNat).getD defaultMaxConnections
  (headroomShare total).map fun share => max 1 (total - max inflightMinHeadroom share)

example : [100, 50, 20, 10, 3, 1].map (fun n => inflightLimit (some n)) =
    [some 90, some 45, some 18, some 8, some 1, some 1] := by decide

/-- The limit is below the size of a pool that has room for it. -/
theorem inflightLimit_lt {maxConnections : Int} (hmax : 2 ≤ maxConnections) {limit : Nat}
    (h : inflightLimit (some maxConnections) = some limit) : 1 ≤ limit ∧ (limit : Int) < maxConnections := by
  have hpos : decide (0 < maxConnections) = true := by
    rw [decide_eq_true_eq]
    omega
  simp only [inflightLimit, Option.filter_some, hpos, if_true, Option.map_some, Option.getD_some,
    Option.map_eq_some_iff, inflightMinHeadroom] at h
  obtain ⟨share, _, rfl⟩ := h
  omega

/-! ## Requests -/

/-- A TLS verification setting, the key of a client and of a semaphore. -/
abbrev Verify := Option Bool

inductive Resource
  | loginLock
  | permit (verify : Verify)
deriving DecidableEq, Repr

inductive Action
  /-- A branch on what the request reads. -/
  | look
  | exchange (client : Verify) (stream : Bool)
deriving DecidableEq, Repr

/-- How an exchange ends. A branch is taken on `ok`. -/
inductive Answer
  | ok
  | unreachable
  | sessionFault
  | failed
  | cancelled
deriving DecidableEq, Repr

instance : Inhabited Answer := ⟨.ok⟩

/-- What is raised: an error with one of `SESSION_AUTH_FAULTS`, any other error, or the cancellation. -/
inductive Failure
  | sessionFault
  | other
  | cancelled
deriving DecidableEq, Repr

abbrev Code (α : Type) := ExceptT Failure (Proc Resource Action Answer) α

def look : Code Bool := ExceptT.mk (.act .look fun a => .pure (.ok (a == .ok)))

def locked {α : Type} (r : Resource) (x : Code α) : Code α := withResource .cancelled r x

structure Settings where
  verifyHttps : Verify
  verifyHttpsStandby : Verify
  maxConnections : Int
  adminApiUrl : String
  adminApiUrlStandby : Option String
  accountApiUrl : String
  accountApiUrlStandby : Option String
  siteState : Bool
deriving DecidableEq, Repr

/-- `AsyncHTTPAPIConnector`. Every connector has the TLS settings and the limits of `Settings`. -/
structure Connector where
  apiServer : String
  standbyServer : Option String
deriving DecidableEq, Repr

def Settings.adminApi (cfg : Settings) : Connector := ⟨cfg.adminApiUrl, cfg.adminApiUrlStandby⟩
def Settings.accountApi (cfg : Settings) : Connector := ⟨cfg.accountApiUrl, cfg.accountApiUrlStandby⟩

/-- An empty text is no server. -/
def nonempty (server : Option String) : Option String := server.filter (· ≠ "")

def verifyFor (cfg : Settings) (c : Connector) (baseServer : String) : Verify :=
  match cfg.verifyHttpsStandby, nonempty c.standbyServer with
  | some standby, some server => if baseServer = server then some standby else cfg.verifyHttps
  | _, _ => cfg.verifyHttps

/-- The first two branches of `next_targets` are those of the mode-aware tracker. -/
def requestTargets (cfg : Settings) (c : Connector) (server : Option String) : Code (List String) :=
  match nonempty server, nonempty c.standbyServer with
  | some server, _ => pure [server]
  | none, some standby =>
    if cfg.siteState then do
      if ← look then
        if ← look then pure [c.apiServer] else pure [standby]
      else
        if ← look then pure [c.apiServer, standby] else pure [standby]
    else pure [c.apiServer]
  | none, none => pure [c.apiServer]

def exchange (client : Verify) (stream : Bool) : Code Answer :=
  ExceptT.mk (.act (.exchange client stream) fun a => .pure (.ok a))

/-- One exchange after another, as long as the site cannot be reached and there is another one. -/
def sendTargets (cfg : Settings) (c : Connector) (stream : Bool) : List String → Code Unit
  | [] => pure ()
  | baseServer :: targets => do
    match ← exchange (verifyFor cfg c baseServer) stream with
    | .ok => pure ()
    | .unreachable => if targets = [] then throw .other else sendTargets cfg c stream targets
    | .sessionFault => throw .sessionFault
    | .failed => throw .other
    | .cancelled => throw .cancelled

def baseSend (cfg : Settings) (c : Connector) (server : Option String) (stream : Bool) : Code Unit :=
  locked (.permit cfg.verifyHttps) do
    let targets ← requestTargets cfg c server
    sendTargets cfg c stream targets

/-- `login`, by `_send_request` with `turn_off_login`: a session fault is answered by a login of its own, up
to the recursion limit. -/
def adminLogin (cfg : Settings) : Nat → Code Unit
  | 0 => throw .other
  | depth + 1 => do
    let send := baseSend cfg cfg.adminApi none false
    tryCatch send fun
      | .sessionFault => do
        adminLogin cfg depth
        send
      | e => throw e
    -- Without an access token in the response it raises.
    if ← look then pure () else throw .other

/-- A session with a token and an expiry is renewed when the token has expired (by `refresh` or by
`login`), or will soon. -/
def renew (cfg : Settings) (depth : Nat) : Code Unit := do
  if ← look then
    if ← look then adminLogin cfg depth
    else if ← look then adminLogin cfg depth else pure ()
  else pure ()

/-- Whether there is a session to use: there is one at all, and it has a token. -/
def sessionInProgress (cfg : Settings) (depth : Nat) : Code Bool := do
  if ← look then do
    renew cfg depth
    look
  else pure false

/-- The body of `async with self._login_lock`. -/
def underLock (cfg : Settings) (depth : Nat) : Code Unit := do
  if ← look then pure ()
  else if ← sessionInProgress cfg depth then pure ()
  else do
    adminLogin cfg depth
    if ← look then pure () else throw .other

def ensureSession (cfg : Settings) (depth : Nat) : Code Unit := do
  if ← look then pure () else locked .loginLock (underLock cfg depth)

/-- `send_rest_request` of the connector with login. -/
def loginSend (cfg : Settings) (depth : Nat) (stream : Bool) : Code Unit := do
  ensureSession cfg depth
  baseSend cfg cfg.adminApi none stream

/-- `_send_request`: after a session fault a login outside the lock, and the request once more. -/
def adminRequest (cfg : Settings) (depth : Nat) (stream : Bool) : Code Unit :=
  tryCatch (loginSend cfg depth stream) fun
    | .sessionFault => do
      adminLogin cfg depth
      loginSend cfg depth stream
    | e => throw e

/-- `verify_otp` under the session that its code was created in. -/
def verifyOtp (cfg : Settings) : Code Unit := baseSend cfg cfg.adminApi none false

def accountRequest (cfg : Settings) (stream : Bool) : Code Unit := baseSend cfg cfg.accountApi none stream

/-- One attempt of `get_operating_mode`, with the kept token or after a login. -/
def attempt (cfg : Settings) (server : String) : Code Unit := do
  let send := baseSend cfg cfg.adminApi (some server) false
  if ← look then send
  else do
    send
    if ← look then send else pure ()

/-- The attempts of `get_operating_mode` that are left. -/
def probe (cfg : Settings) (server : String) : Nat → Code Unit
  | 0 => pure ()
  | attempts + 1 => tryCatch (attempt cfg server) fun
    | .sessionFault => do if ← look then probe cfg server attempts else pure ()
    | .other => pure ()
    | .cancelled => throw .cancelled

inductive Request
  | admin (depth : Nat) (stream : Bool)
  | account (stream : Bool)
  | verifyOtp
  | probe (server : String)
deriving DecidableEq, Repr

def program (cfg : Settings) : Request → Proc Resource Action Answer (Except Failure Unit)
  | .admin depth stream => (adminRequest cfg depth stream).run
  | .account stream => (accountRequest cfg stream).run
  | .verifyOtp => (verifyOtp cfg).run
  | .probe server => (probe cfg server 2).run

/-! ## Discipline -/

/-- The lock is taken before permits, and an exchange is made under a permit. -/
def rules (cfg : Settings) : Rules Resource Action where
  rank
    | .loginLock => 0
    | .permit _ => 1
  needs
    | .look => none
    | .exchange _ _ => some (.permit cfg.verifyHttps)

variable {cfg : Settings} {held : List Resource}

theorem neutral_look : Neutral (rules cfg) held look := ⟨by simp [rules], fun _ => rfl⟩

theorem neutral_ite_look {α : Type} {x y : Code α} (hx : Neutral (rules cfg) held x)
    (hy : Neutral (rules cfg) held y) : Neutral (rules cfg) held (do if ← look then x else y) := by
  apply neutral_look.bind
  intro yes
  cases yes with
  | true => exact hx
  | false => exact hy

theorem neutral_requestTargets (c : Connector) (server : Option String) :
    Neutral (rules cfg) held (requestTargets cfg c server) := by
  rw [requestTargets]
  split
  · exact .pure _
  · split
    · exact neutral_ite_look (neutral_ite_look (.pure _) (.pure _)) (neutral_ite_look (.pure _) (.pure _))
    · exact .pure _
  · exact .pure _

theorem neutral_sendTargets (c : Connector) (stream : Bool) (targets : List String)
    (hpermit : .permit cfg.verifyHttps ∈ held) : Neutral (rules cfg) held (sendTargets cfg c stream targets) := by
  induction targets with
  | nil => exact .pure _
  | cons baseServer targets ih =>
    have hexchange : Neutral (rules cfg) held (exchange (verifyFor cfg c baseServer) stream) := by
      refine ⟨fun r hr => ?_, fun _ => rfl⟩
      obtain rfl := Option.some.inj hr
      exact hpermit
    apply hexchange.bind
    intro a
    cases a with
    | ok => exact .pure _
    | unreachable =>
      dsimp only
      split
      · exact .throw _
      · exact ih
    | sessionFault => exact .throw _
    | failed => exact .throw _
    | cancelled => exact .throw _

/-- The code that a request runs while it holds no permit, under the lock or outside of it. -/
def NoPermit (held : List Resource) : Prop := ∀ verify, .permit verify ∉ held

theorem neutral_baseSend (c : Connector) (server : Option String) (stream : Bool) (h : NoPermit held) :
    Neutral (rules cfg) held (baseSend cfg c server stream) := by
  refine Neutral.withResource (fun q hq => ?_)
    ((neutral_requestTargets c server).bind fun targets => neutral_sendTargets c stream targets List.mem_cons_self)
  cases q with
  | loginLock => exact Nat.zero_lt_one
  | permit verify => exact absurd hq (h verify)

theorem neutral_adminLogin (depth : Nat) (h : NoPermit held) : Neutral (rules cfg) held (adminLogin cfg depth) := by
  induction depth with
  | zero => exact .throw _
  | succ depth ih =>
    have hsend : Neutral (rules cfg) held (baseSend cfg cfg.adminApi none false) := neutral_baseSend _ _ _ h
    refine Neutral.bind (Neutral.tryCatch hsend fun e => ?_) fun _ => neutral_ite_look (.pure _) (.throw _)
    cases e with
    | sessionFault => exact ih.bind fun _ => hsend
    | other => exact .throw _
    | cancelled => exact .throw _

theorem neutral_sessionInProgress (depth : Nat) (h : NoPermit held) :
    Neutral (rules cfg) held (sessionInProgress cfg depth) := by
  have hlogin : Neutral (rules cfg) held (adminLogin cfg depth) := neutral_adminLogin depth h
  have hrenew : Neutral (rules cfg) held (renew cfg depth) :=
    neutral_ite_look (neutral_ite_look hlogin (neutral_ite_look hlogin (.pure _))) (.pure _)
  exact neutral_ite_look (hrenew.bind fun _ => neutral_look) (.pure _)

theorem neutral_loginSend (depth : Nat) (stream : Bool) : Neutral (rules cfg) [] (loginSend cfg depth stream) := by
  have hnone : NoPermit [] := fun _ => List.not_mem_nil
  have hlock : NoPermit [.loginLock] := by simp [NoPermit]
  have hunder : Neutral (rules cfg) [.loginLock] (underLock cfg depth) := by
    refine neutral_ite_look (.pure _) ((neutral_sessionInProgress depth hlock).bind fun found => ?_)
    cases found with
    | true => exact .pure _
    | false => exact (neutral_adminLogin depth hlock).bind fun _ => neutral_ite_look (.pure _) (.throw _)
  have hensure : Neutral (rules cfg) [] (ensureSession cfg depth) :=
    neutral_ite_look (.pure _) (Neutral.withResource (by simp) hunder)
  exact hensure.bind fun _ => neutral_baseSend _ _ _ hnone

theorem neutral_attempt (server : String) (h : NoPermit held) : Neutral (rules cfg) held (attempt cfg server) := by
  have hsend : Neutral (rules cfg) held (baseSend cfg cfg.adminApi (some server) false) := neutral_baseSend _ _ _ h
  exact neutral_ite_look hsend (hsend.bind fun _ => neutral_ite_look hsend (.pure _))

theorem neutral_probe (server : String) (attempts : Nat) (h : NoPermit held) :
    Neutral (rules cfg) held (probe cfg server attempts) := by
  induction attempts with
  | zero => exact .pure _
  | succ attempts ih =>
    apply (neutral_attempt server h).tryCatch
    intro e
    cases e with
    | sessionFault => exact neutral_ite_look ih (.pure _)
    | other => exact .pure _
    | cancelled => exact .throw _

/-- Every request gives back what it takes, whatever it reads and whatever it is answered. -/
theorem safe_program (cfg : Settings) (request : Request) : Safe (rules cfg) [] (program cfg request) [] := by
  have hnone : NoPermit [] := fun _ => List.not_mem_nil
  cases request with
  | admin depth stream =>
    apply (neutral_loginSend depth stream).tryCatch
    intro e
    cases e with
    | sessionFault => exact (neutral_adminLogin depth hnone).bind fun _ => neutral_loginSend depth stream
    | other => exact .throw _
    | cancelled => exact .throw _
  | account stream => exact neutral_baseSend _ _ _ hnone
  | verifyOtp => exact neutral_baseSend _ _ _ hnone
  | probe server => exact neutral_probe server 2 hnone

/-! ## Admission -/

abbrev Sys := State Resource Action Answer (Except Failure Unit)

def capacity (limit : Nat) : Resource → Nat
  | .loginLock => 1
  | .permit _ => limit

/-- No request has come, and nothing is taken. -/
def init (limit : Nat) : Sys := ⟨capacity limit, []⟩

/-- The exchanges in progress on a client that are not streamed. -/
def exchanges (s : Sys) (client : Verify) : Nat := s.tasks.countP (Task.doing (· == .exchange client false))

/-- What the admission control promises of a state. -/
structure Admits (cfg : Settings) (limit : Nat) (s : Sys) : Prop where
  bounded : ∀ client, exchanges s client ≤ limit
  below : (limit : Int) < cfg.maxConnections
  permits : ∀ verify, s.free (.permit verify) + s.tasks.countP (Task.holds (.permit verify)) = limit
  givenBack : ∀ t ∈ s.tasks, t.ended = true → t.held = []
  noHoldAndWait : ∀ t ∈ s.tasks, t.waiting = true → NoPermit t.held
  proceeds : (∃ t ∈ s.tasks, t.waiting = true) → CanProceed (program cfg) s

theorem waiting_iff {t : Task Resource Action Answer (Except Failure Unit)} :
    t.waiting = true ↔ ∃ r k, t.prog = .acquire r k := by
  obtain ⟨prog, held⟩ := t
  cases prog <;> simp [Task.waiting]

/-- **Admission.** In every state that any requests reach. -/
theorem admission (cfg : Settings) (limit : Nat) (hmax : 2 ≤ cfg.maxConnections)
    (hlimit : inflightLimit (some cfg.maxConnections) = some limit) {s : Sys} {es : List (Event Request Answer)}
    (hrun : exec (step (program cfg)) (init limit) es = some s) : Admits cfg limit s := by
  obtain ⟨hpos, hbelow⟩ := inflightLimit_lt hmax hlimit
  have hinv : Inv (rules cfg) (capacity limit) s := inv_exec (safe_program cfg) hrun
  have htop : ∀ r, (rules cfg).rank r ≤ 1 := by
    intro r
    cases r <;> simp [rules]
  have hcap : ∀ r, 0 < capacity limit r := by
    intro r
    cases r with
    | loginLock => exact Nat.zero_lt_one
    | permit verify => exact hpos
  exact {
    bounded := fun client => hinv.doing_le (r := .permit cfg.verifyHttps) fun e he => by
      obtain rfl := eq_of_beq he
      rfl
    below := hbelow
    permits := fun verify => hinv.conserved (.permit verify)
    givenBack := fun t ht hended => hinv.held_of_ended ht hended
    noHoldAndWait := fun t ht hwaiting verify hpermit => by
      obtain ⟨r, k, hprog⟩ := waiting_iff.1 hwaiting
      have hsafe := hinv.safe t ht
      rw [hprog] at hsafe
      exact absurd (hsafe.1 _ hpermit) (Nat.not_lt.2 (htop r))
    proceeds := fun ⟨t, ht, hwaiting⟩ => by
      obtain ⟨r, k, hprog⟩ := waiting_iff.1 hwaiting
      obtain ⟨i, hi⟩ := List.mem_iff_getElem?.1 ht
      obtain ⟨prog, held⟩ := t
      obtain rfl : prog = .acquire r k := hprog
      exact canProceed (safe_program cfg) hcap htop hinv hi }

def smallPool : Settings where
  verifyHttps := some true
  verifyHttpsStandby := none
  maxConnections := 3
  adminApiUrl := "https://admin"
  adminApiUrlStandby := none
  accountApiUrl := "https://account"
  accountApiUrlStandby := none
  siteState := false

/-- A pool of three admits one exchange: of two requests the second one waits. -/
theorem admission_waiting : ∃ s, exec (step (program smallPool)) (init 1)
    [.start (.account false), .start .verifyOtp, .acquire 0] = some s ∧ Admits smallPool 1 s := by
  obtain ⟨s, hs⟩ : ∃ s, exec (step (program smallPool)) (init 1)
      [.start (.account false), .start .verifyOtp, .acquire 0] = some s := ⟨_, rfl⟩
  exact ⟨s, hs, admission smallPool 1 (by decide) (by decide) hs⟩

end PortaPhone.Http.Admission
