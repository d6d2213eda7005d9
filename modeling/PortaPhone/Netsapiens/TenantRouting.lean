import Mathlib
import PortaPhone.Lib.Machine
/-!
# Requests for users of different tenants (`adapters/netsapiens.py`)

| here | there |
| --- | --- |
| `splitUid`, `getClient` | `NetsapiensAPI.split_uid`, `get_client` (`netsapiens.py:87`, `:94`) |
| `chooseServer`, `loginClient` | the choice in `send_rest_request` (`:119-129`), the one in `authenticate` (`:396-408`) |
| `Pc`, `connectorStep` | `NetsapiensAPI.send_rest_request`, `login`, `refresh` (`:109`, `:135`, `:165`) over `HTTPAPIConnectorWithLogin.send_rest_request` (`http_api.py:237`) |
| `inProgress`          | `session_in_progress` (`http_api.py:271`) |
| `Connector.apiServer` | the attribute `api_server`, which `HTTPAPIConnector.send_rest_request` (`http_api.py:108`) reads |

The calls of one connector run in threads of a pool. A call writes the server of its user into the attribute that all of
them share, and reads it when it sends: `routed_along` says when it reads what it has written. Sessions are kept in
Firestore, beside other replicas, so that any session may be read there.
-/

namespace PortaPhone.Netsapiens

open Machine

/-! ## Users and their clients -/

/-- `NetsapiensClient`: the server of a tenant; empty when it is not set. -/
structure Client where
  apiServer : String
deriving DecidableEq, Repr

abbrev Clients := List (String × Client)

/-- `NetsapiensUser`. -/
structure User where
  userId : String
  password : Option String := none
  nsClient : Option Client := none
  apiKey : Option String := none
deriving DecidableEq, Repr

/-- The domain of a user id such as `abc@xyz.com`. -/
def splitUid (userId : String) : Option String := ((userId.toList.splitOn '@')[1]?).map String.ofList

/-- None stands for the exceptions: no domain, or a domain that has no client. -/
def getClient (clients : Clients) (userId : String) : Option Client :=
  ((splitUid userId).filter (· ≠ "")).bind fun domain => List.lookup domain clients

/-- The client for a login such as `100@abc`. None stands for the two errors 422: nothing before or behind the sign,
or a domain that has no client. -/
def loginClient (clients : Clients) (login : String) : Option Client :=
  if login.toList.head? = some '@' then none else getClient clients login

/-- The server that a request for the user is meant for. -/
def ownServer (clients : Clients) (userId : String) : Option String :=
  (getClient clients userId).map Client.apiServer

/-- The user with its client, and what is written to `api_server`. -/
def chooseServer (clients : Clients) (user : User) : Option (User × String) :=
  match user.nsClient with
  | none => (getClient clients user.userId).map fun client => ({ user with nsClient := some client }, client.apiServer)
  | some client =>
    if client.apiServer ≠ "" then some (user, client.apiServer)
    else (ownServer clients user.userId).map fun server => (user, server)

/-! ## The connector -/

/-- `OAuthSessionData`. -/
structure OAuthSession where
  accessToken : Option String := none
  expiresAt : Option Int := none
  refreshToken : Option String := none
deriving DecidableEq, Repr

/-- The request for a new token: with the password or with the refresh token. -/
inductive Grant
  | password
  | refreshToken
deriving DecidableEq, Repr

/-- Where the new session goes: to the adapter, to `session_in_progress`, to `send_rest_request`. -/
inductive Purpose
  | authenticate
  | renew
  | required
deriving DecidableEq, Repr

inductive Pc
  /-- `send_rest_request` begins. -/
  | begins
  | readsSession
  /-- `login` begins. -/
  | logsIn (purpose : Purpose)
  /-- `send_rest_request` begins, with `turn_off_login`. -/
  | asks (grant : Grant) (purpose : Purpose)
  | sendsGrant (grant : Grant) (purpose : Purpose)
  | awaits (purpose : Purpose)
  | sends (token : String)
  | ended
deriving DecidableEq, Repr

structure Call where
  user : User
  pc : Pc
deriving DecidableEq, Repr

/-- A request that has been sent: for whom, where to, and what it carries. -/
structure Sent where
  userId : String
  server : String
  carries : Option Grant
deriving DecidableEq, Repr

structure Connector where
  apiServer : String
  calls : List Call
  sent : List Sent
deriving DecidableEq, Repr

inductive Event
  /-- `authenticate` of the adapter. -/
  | authenticate (userId password : String)
  /-- A request for a user, who has no password here. -/
  | request (userId : String) (apiKey : Option String)
  /-- A call writes `api_server`. -/
  | choose (i : Nat)
  /-- A call reads its session, at a time. -/
  | session (i : Nat) (stored : Option OAuthSession) (now : Int)
  /-- A call reads `api_server` and sends. -/
  | send (i : Nat)
  /-- The answer to a token request; none when it raises. -/
  | answer (i : Nat) (session : Option OAuthSession)
deriving DecidableEq, Repr

/-- `REFRESH_TOKEN_IN_ADVANCE`, in seconds. -/
def refreshTokenInAdvance : Int := 15 * 60

/-- A text that counts as true. -/
def text? (s : Option String) : Option String := s.filter (· ≠ "")

/-- There is no session to use. -/
def required (user : User) : Pc := if user.password = none then .ended else .logsIn .required

/-- A session is there to use. -/
def withToken (user : User) (token : String) : Pc := .sends ((text? user.apiKey).getD token)

/-- After `session_in_progress` has returned. -/
def inSession (user : User) (session : OAuthSession) : Pc :=
  match text? session.accessToken with
  | some token => withToken user token
  | none => required user

def inProgress (user : User) (stored : Option OAuthSession) (now : Int) : Pc :=
  match stored with
  | none => required user
  | some session => match text? session.accessToken, session.expiresAt with
    | some _, some expiresAt =>
      if expiresAt < now then
        if (text? session.refreshToken).isSome then .asks .refreshToken .renew else .logsIn .renew
      else if expiresAt - now < refreshTokenInAdvance ∧ (text? session.refreshToken).isSome
        then .asks .refreshToken .renew
      else inSession user session
    | _, _ => inSession user session

/-- After `login` or `refresh` has returned. -/
def answered (user : User) (purpose : Purpose) : Option OAuthSession → Pc
  | none => .ended
  | some session => match purpose with
    | .authenticate => .ended
    | .renew => inSession user session
    | .required => match session.accessToken with
      | none => .ended
      | some token => withToken user token

namespace Connector

def set (s : Connector) (i : Nat) (user : User) (pc : Pc) : Connector := { s with calls := s.calls.set i ⟨user, pc⟩ }

/-- A call writes the server, or ends when there is none. -/
def write (s : Connector) (i : Nat) (user : User) (pc : Pc) : Option (User × String) → Connector
  | none => s.set i user .ended
  | some (user, server) => { s.set i user pc with apiServer := server }

def transmit (s : Connector) (i : Nat) (user : User) (pc : Pc) (carries : Option Grant) : Connector :=
  { s.set i user pc with sent := s.sent ++ [⟨user.userId, s.apiServer, carries⟩] }

end Connector

def connectorStep (clients : Clients) (s : Connector) : Event → Option Connector
  | .authenticate userId password =>
    (loginClient clients userId).map fun client =>
      { s with calls := s.calls ++ [⟨⟨userId, some password, some client, none⟩, .logsIn .authenticate⟩] }
  | .request userId apiKey => some { s with calls := s.calls ++ [⟨⟨userId, none, none, apiKey⟩, .begins⟩] }
  | .choose i => match s.calls[i]? with
    | some ⟨user, .begins⟩ => some (s.write i user .readsSession (chooseServer clients user))
    | some ⟨user, .logsIn purpose⟩ =>
      some (s.write i user (.asks .password purpose) ((ownServer clients user.userId).map fun server => (user, server)))
    | some ⟨user, .asks grant purpose⟩ =>
      some (s.write i user (.sendsGrant grant purpose) (chooseServer clients user))
    | _ => none
  | .session i stored now => match s.calls[i]? with
    | some ⟨user, .readsSession⟩ => some (s.set i user (inProgress user stored now))
    | _ => none
  | .send i => match s.calls[i]? with
    | some ⟨user, .sendsGrant grant purpose⟩ => some (s.transmit i user (.awaits purpose) (some grant))
    | some ⟨user, .sends _⟩ => some (s.transmit i user .ended none)
    | _ => none
  | .answer i session => match s.calls[i]? with
    | some ⟨user, .awaits purpose⟩ => some (s.set i user (answered user purpose session))
    | _ => none

/-- The connector of a new adapter. -/
def started : Connector := ⟨"http://localhost", [], []⟩

/-- Every request has gone to the server of its user's own client. -/
def Routed (clients : Clients) (s : Connector) : Prop :=
  ∀ r ∈ s.sent, ownServer clients r.userId = some r.server

instance (clients : Clients) (s : Connector) : Decidable (Routed clients s) := inferInstanceAs (Decidable (∀ _ ∈ _, _))

/-! ## When the attribute is the call's own -/

/-- The call may read `api_server` before it writes it again. -/
def Pc.mayRead : Pc → Bool
  | .readsSession | .sendsGrant _ _ | .awaits .renew | .awaits .required | .sends _ => true
  | .begins | .logsIn _ | .asks _ _ | .awaits .authenticate | .ended => false

def mayRead (s : Connector) (i : Nat) : Bool := s.calls[i]?.any fun call => call.pc.mayRead

def serverOf (clients : Clients) (s : Connector) (i : Nat) : Option String :=
  s.calls[i]?.bind fun call => ownServer clients call.user.userId

/-- When a call writes its server, no call for another server may read before it writes again. -/
def Undisturbed (clients : Clients) (s : Connector) : Event → Prop
  | .choose i => (serverOf clients s i).isSome → ∀ j < s.calls.length, j ≠ i → mayRead s j = true →
      serverOf clients s j = serverOf clients s i
  | _ => True

instance (clients : Clients) (s : Connector) (e : Event) : Decidable (Undisturbed clients s e) := by
  cases e <;> unfold Undisturbed <;> infer_instance

variable {clients : Clients} {s t : Connector} {e : Event}

theorem getClient_of_login {login : String} {client : Client} (h : loginClient clients login = some client) :
    getClient clients login = some client := by
  unfold loginClient at h
  split at h
  · cases h
  · exact h

/-- A client that a user has is the client of its domain. -/
def HasOwnClient (clients : Clients) (user : User) : Prop :=
  ∀ client, user.nsClient = some client → getClient clients user.userId = some client

theorem chooseServer_eq_some {user user' : User} {server : String} (hown : HasOwnClient clients user)
    (h : chooseServer clients user = some (user', server)) :
    user'.userId = user.userId ∧ HasOwnClient clients user' ∧ ownServer clients user.userId = some server := by
  unfold chooseServer at h
  cases hclient : user.nsClient with
  | none =>
    simp only [hclient, Option.map_eq_some_iff, Prod.mk.injEq] at h
    obtain ⟨client, hget, rfl, rfl⟩ := h
    refine ⟨rfl, ?_, by rw [ownServer, hget]; rfl⟩
    rintro c ⟨⟩
    exact hget
  | some client =>
    have hget := hown client hclient
    simp only [hclient] at h
    split at h
    · cases h
      exact ⟨rfl, hown, by rw [ownServer, hget]; rfl⟩
    · simp only [Option.map_eq_some_iff, Prod.mk.injEq] at h
      obtain ⟨server, hserver, rfl, rfl⟩ := h
      exact ⟨rfl, hown, hserver⟩

/-- A user without a server is one without a client. -/
theorem chooseServer_isSome {user : User}
    (hserver : (ownServer clients user.userId).isSome) : (chooseServer clients user).isSome := by
  unfold chooseServer
  cases hclient : user.nsClient with
  | none => simpa [ownServer] using hserver
  | some client =>
    simp only
    split
    · rfl
    · simpa using hserver

/-! ### Steps -/

theorem getElem?_set_calls {i j : Nat} {user : User} {pc : Pc} {call : Call}
    (h : (s.set i user pc).calls[j]? = some call) :
    (j = i ∧ call = ⟨user, pc⟩) ∨ (j ≠ i ∧ s.calls[j]? = some call) := by
  rw [Connector.set, List.getElem?_set] at h
  by_cases hij : i = j
  · rw [if_pos hij] at h
    split at h
    · exact Or.inl ⟨hij.symm, (Option.some.inj h).symm⟩
    · cases h
  · rw [if_neg hij] at h
    exact Or.inr ⟨Ne.symm hij, h⟩

/-- What `choose` does: a call that is about to write has its server written, or ends. -/
theorem choose_cases {i : Nat} (h : connectorStep clients s (.choose i) = some t) :
    ∃ user pc pc' choice, s.calls[i]? = some ⟨user, pc⟩ ∧ t = s.write i user pc' choice ∧
      (choice = chooseServer clients user ∨
        choice = (ownServer clients user.userId).map fun server => (user, server)) := by
  simp only [connectorStep] at h
  split at h
  · next user hcall =>
    cases h
    exact ⟨_, _, _, _, hcall, rfl, Or.inl rfl⟩
  · next user purpose hcall =>
    cases h
    exact ⟨_, _, _, _, hcall, rfl, Or.inr rfl⟩
  · next user grant purpose hcall =>
    cases h
    exact ⟨_, _, _, _, hcall, rfl, Or.inl rfl⟩
  · cases h

/-- What is written is the call's own server, and it is written if there is one. -/
theorem choice_own {user : User} {choice : Option (User × String)} (hown : HasOwnClient clients user)
    (h : choice = chooseServer clients user ∨
      choice = (ownServer clients user.userId).map fun server => (user, server)) :
    (∀ user' server, choice = some (user', server) →
      user'.userId = user.userId ∧ HasOwnClient clients user' ∧ ownServer clients user.userId = some server) ∧
    ((ownServer clients user.userId).isSome → choice.isSome) := by
  rcases h with rfl | rfl
  · exact ⟨fun _ _ => chooseServer_eq_some hown, chooseServer_isSome⟩
  · refine ⟨?_, fun hserver => by simpa using hserver⟩
    intro user' server hchoice
    simp only [Option.map_eq_some_iff, Prod.mk.injEq] at hchoice
    obtain ⟨_, hserver, rfl, rfl⟩ := hchoice
    exact ⟨rfl, hown, hserver⟩

/-- A step that only moves one call on: it writes nothing, and the call may read only if it might before. -/
theorem reads_set {i : Nat} {user : User} {pc : Pc} (pc' : Pc) (hcall : s.calls[i]? = some ⟨user, pc⟩)
    (hpc : pc'.mayRead = true → pc.mayRead = true)
    (hreads : ∀ (j : Nat) (call : Call), s.calls[j]? = some call → call.pc.mayRead = true →
      ownServer clients call.user.userId = some s.apiServer) {j : Nat} {call : Call}
    (hj : (s.set i user pc').calls[j]? = some call) (hmay : call.pc.mayRead = true) :
    ownServer clients call.user.userId = some s.apiServer := by
  rcases getElem?_set_calls hj with ⟨rfl, rfl⟩ | ⟨_, hold⟩
  · exact hreads _ ⟨user, pc⟩ hcall (hpc hmay)
  · exact hreads j call hold hmay

theorem answered_mayRead {user : User} {purpose : Purpose} {session : Option OAuthSession}
    (h : (answered user purpose session).mayRead = true) : (Pc.awaits purpose).mayRead = true := by
  cases session with
  | none => cases h
  | some session =>
    cases purpose with
    | authenticate => cases h
    | renew => rfl
    | required => rfl

/-! ### Runs -/

/-- The users have their own clients, whatever the order of the steps. -/
def OwnClients (clients : Clients) (s : Connector) : Prop := ∀ call ∈ s.calls, HasOwnClient clients call.user

theorem ownClients_set {i : Nat} {user : User} {pc : Pc} (h : OwnClients clients s)
    (huser : HasOwnClient clients user) :
    OwnClients clients (s.set i user pc) := by
  intro call hcall
  rcases List.mem_or_eq_of_mem_set hcall with hcall | rfl
  · exact h call hcall
  · exact huser

theorem OwnClients.of_getElem? (h : OwnClients clients s) {i : Nat} {call : Call} (hcall : s.calls[i]? = some call) :
    HasOwnClient clients call.user := h call (List.mem_of_getElem? hcall)

theorem ownClients_step (h : OwnClients clients s) (hstep : connectorStep clients s e = some t) :
    OwnClients clients t := by
  cases e with
  | authenticate userId password =>
    simp only [connectorStep, Option.map_eq_some_iff] at hstep
    obtain ⟨client, hclient, rfl⟩ := hstep
    intro call hcall
    rcases List.mem_append.1 hcall with hcall | hcall
    · exact h call hcall
    · obtain rfl := List.mem_singleton.1 hcall
      rintro c ⟨⟩
      exact getClient_of_login hclient
  | request userId apiKey =>
    cases hstep
    intro call hcall
    rcases List.mem_append.1 hcall with hcall | hcall
    · exact h call hcall
    · obtain rfl := List.mem_singleton.1 hcall
      exact nofun
  | choose i =>
    obtain ⟨user, pc, pc', choice, hcall, rfl, hchoice⟩ := choose_cases hstep
    have hown := h.of_getElem? hcall
    cases hc : choice with
    | none => exact ownClients_set h hown
    | some p =>
      obtain ⟨user', server⟩ := p
      exact ownClients_set h ((choice_own hown hchoice).1 user' server hc).2.1
  | session i stored now =>
    simp only [connectorStep] at hstep
    split at hstep
    · next user hcall =>
      cases hstep
      exact ownClients_set h (h.of_getElem? hcall)
    · cases hstep
  | send i =>
    simp only [connectorStep] at hstep
    split at hstep
    · next user grant purpose hcall =>
      cases hstep
      exact ownClients_set h (h.of_getElem? hcall)
    · next user token hcall =>
      cases hstep
      exact ownClients_set h (h.of_getElem? hcall)
    · cases hstep
  | answer i session =>
    simp only [connectorStep] at hstep
    split at hstep
    · next user purpose hcall =>
      cases hstep
      exact ownClients_set h (h.of_getElem? hcall)
    · cases hstep

/-- What a call may read is the server of its user. -/
structure RoutingInv (clients : Clients) (s : Connector) : Prop where
  own : OwnClients clients s
  reads : ∀ (j : Nat) (call : Call), s.calls[j]? = some call → call.pc.mayRead = true →
    ownServer clients call.user.userId = some s.apiServer
  routed : Routed clients s

/-- A new call does not read before it has written. -/
theorem RoutingInv.push (h : RoutingInv clients s) {user : User} {pc : Pc} (hpc : pc.mayRead = false)
    (hown : OwnClients clients { s with calls := s.calls ++ [⟨user, pc⟩] }) :
    RoutingInv clients { s with calls := s.calls ++ [⟨user, pc⟩] } := by
  refine ⟨hown, fun j call hcall hmay => ?_, h.routed⟩
  simp only [List.getElem?_append, List.getElem?_singleton] at hcall
  split at hcall
  · exact h.reads j call hcall hmay
  · split at hcall
    · cases hcall
      simp [hpc] at hmay
    · cases hcall

/-- A call that may read sends to the server of its user. -/
theorem RoutingInv.transmit (h : RoutingInv clients s) {i : Nat} {user : User} {pc pc' : Pc} {carries : Option Grant}
    (hcall : s.calls[i]? = some ⟨user, pc⟩) (hmay : pc.mayRead = true)
    (hown : OwnClients clients (s.transmit i user pc' carries)) :
    RoutingInv clients (s.transmit i user pc' carries) := by
  have hread : ownServer clients user.userId = some s.apiServer := h.reads i ⟨user, pc⟩ hcall hmay
  refine ⟨hown, fun j call hj => reads_set pc' hcall (fun _ => hmay) h.reads hj, fun r hr => ?_⟩
  rcases List.mem_append.1 hr with hr | hr
  · exact h.routed r hr
  · rw [List.mem_singleton.1 hr]
    exact hread

/-- **Step lemma.** -/
theorem routingInv_step (h : RoutingInv clients s) (hundisturbed : Undisturbed clients s e)
    (hstep : connectorStep clients s e = some t) : RoutingInv clients t := by
  have hown := ownClients_step h.own hstep
  cases e with
  | authenticate userId password =>
    simp only [connectorStep, Option.map_eq_some_iff] at hstep
    obtain ⟨client, -, rfl⟩ := hstep
    exact h.push rfl hown
  | request userId apiKey =>
    cases hstep
    exact h.push rfl hown
  | choose i =>
    obtain ⟨user, pc, pc', choice, hcall, rfl, hchoice⟩ := choose_cases hstep
    obtain ⟨hwritten, -⟩ := choice_own (h.own.of_getElem? hcall) hchoice
    cases hc : choice with
    | none =>
      subst hc
      exact ⟨hown, fun j call => reads_set _ hcall (fun hended => by cases hended) h.reads, h.routed⟩
    | some p =>
      obtain ⟨user', server⟩ := p
      obtain ⟨huserId, -, hserver⟩ := hwritten user' server hc
      subst hc
      have hi : serverOf clients s i = some server := by rw [serverOf, hcall]; exact hserver
      refine ⟨hown, fun j call hj hmay => ?_, h.routed⟩
      rcases getElem?_set_calls hj with ⟨-, rfl⟩ | ⟨hne, hold⟩
      · exact huserId ▸ hserver
      · -- another call that may read is one for the same server
        have hlt : j < s.calls.length := (List.getElem?_eq_some_iff.1 hold).1
        have hsame := hundisturbed (by rw [hi]; rfl) j hlt hne (by simpa [mayRead, hold] using hmay)
        rw [hi] at hsame
        show ownServer clients call.user.userId = some server
        simpa [serverOf, hold] using hsame
  | session i stored now =>
    simp only [connectorStep] at hstep
    split at hstep
    · next user hcall =>
      cases hstep
      exact ⟨hown, fun j call => reads_set _ hcall (fun _ => rfl) h.reads, h.routed⟩
    · cases hstep
  | send i =>
    simp only [connectorStep] at hstep
    split at hstep
    · next user grant purpose hcall =>
      cases hstep
      exact h.transmit hcall rfl hown
    · next user token hcall =>
      cases hstep
      exact h.transmit hcall rfl hown
    · cases hstep
  | answer i session =>
    simp only [connectorStep] at hstep
    split at hstep
    · next user purpose hcall =>
      cases hstep
      exact ⟨hown, fun j call => reads_set _ hcall answered_mayRead h.reads, h.routed⟩
    · cases hstep

/-! ### A write that disturbs another call -/

theorem not_routed_of_mem {r : Sent} (hr : r ∈ s.sent) (hserver : ownServer clients r.userId ≠ some r.server) :
    ¬ Routed clients s := fun h => hserver (h r hr)

/-- A session that does not expire. -/
def someSession : OAuthSession := { accessToken := some "token" }

theorem inProgress_someSession (user : User) (now : Int) :
    inProgress user (some someSession) now = withToken user "token" := rfl

theorem answered_someSession (user : User) {purpose : Purpose} (h : (Pc.awaits purpose).mayRead = true) :
    answered user purpose (some someSession) = withToken user "token" := by
  cases purpose with
  | authenticate => cases h
  | renew => rfl
  | required => rfl

/-- A call that may read can go on and send, to the server that is in the attribute. -/
theorem sends_of_mayRead {j : Nat} {call : Call} (hcall : s.calls[j]? = some call) (hmay : call.pc.mayRead = true) :
    ∃ more u carries, exec (connectorStep clients) s more = some u ∧
      ⟨call.user.userId, s.apiServer, carries⟩ ∈ u.sent := by
  obtain ⟨user, pc⟩ := call
  have hlt : j < s.calls.length := (List.getElem?_eq_some_iff.1 hcall).1
  have hset : ∀ pc', (s.set j user pc').calls[j]? = some ⟨user, pc'⟩ := fun _ => List.getElem?_set_self hlt
  -- from the token on there is only the sending left
  have hsends : ∀ (s' : Connector) (token : String), s'.calls[j]? = some ⟨user, .sends token⟩ →
      s'.apiServer = s.apiServer → ∃ u, exec (connectorStep clients) s' [.send j] = some u ∧
        ⟨user.userId, s.apiServer, none⟩ ∈ u.sent := by
    intro s' token h hserver
    refine ⟨s'.transmit j user .ended none, by simp [exec, connectorStep, h], ?_⟩
    rw [← hserver]
    exact List.mem_append_right _ List.mem_cons_self
  have hwithToken : ∀ e, connectorStep clients s e = some (s.set j user (withToken user "token")) →
      ∃ more u carries, exec (connectorStep clients) s more = some u ∧
        ⟨user.userId, s.apiServer, carries⟩ ∈ u.sent := by
    intro e hstep
    obtain ⟨u, hexec, hsent⟩ := hsends _ _ (hset _) rfl
    exact ⟨[e, .send j], u, none, exec_cons.2 ⟨_, hstep, hexec⟩, hsent⟩
  cases pc with
  | readsSession =>
    refine hwithToken (.session j (some someSession) 0) ?_
    simp [connectorStep, hcall, inProgress_someSession]
  | sendsGrant grant purpose =>
    refine ⟨[.send j], s.transmit j user (.awaits purpose) (some grant), some grant, ?_,
      List.mem_append_right _ List.mem_cons_self⟩
    simp [exec, connectorStep, hcall]
  | awaits purpose =>
    refine hwithToken (.answer j (some someSession)) ?_
    simp [connectorStep, hcall, answered_someSession user hmay]
  | sends token =>
    obtain ⟨u, hexec, hsent⟩ := hsends s token hcall rfl
    exact ⟨[.send j], u, none, hexec, hsent⟩
  | begins => cases hmay
  | logsIn purpose => cases hmay
  | asks grant purpose => cases hmay
  | ended => cases hmay

/-- After a write that disturbs another call, that call may send to the server written. -/
theorem misrouted_of_disturbed (hown : OwnClients clients s) (hdisturbed : ¬ Undisturbed clients s e)
    (hstep : connectorStep clients s e = some t) :
    ∃ more u, exec (connectorStep clients) t more = some u ∧ ¬ Routed clients u := by
  cases e with
  | choose i =>
    obtain ⟨user, pc, pc', choice, hcall, rfl, hchoice⟩ := choose_cases hstep
    obtain ⟨hwritten, hisSome⟩ := choice_own (hown.of_getElem? hcall) hchoice
    simp only [Undisturbed, not_forall] at hdisturbed
    obtain ⟨hserver, j, hlt, hne, hmay, hother⟩ := hdisturbed
    have hi : serverOf clients s i = ownServer clients user.userId := by rw [serverOf, hcall]; rfl
    rw [hi] at hserver hother
    obtain ⟨⟨user', server⟩, hc⟩ := Option.isSome_iff_exists.1 (hisSome hserver)
    obtain ⟨-, -, hserver⟩ := hwritten user' server hc
    subst hc
    -- the other call stands where it stood
    obtain ⟨call, hj⟩ : ∃ call, s.calls[j]? = some call := ⟨_, List.getElem?_eq_getElem hlt⟩
    have hj' : (s.write i user pc' (some (user', server))).calls[j]? = some call :=
      (List.getElem?_set_ne (Ne.symm hne)).trans hj
    have hmay' : call.pc.mayRead = true := by simpa [mayRead, hj] using hmay
    obtain ⟨more, u, carries, hexec, hsent⟩ : ∃ more u carries,
      exec (connectorStep clients) _ more = some u ∧ _ ∈ u.sent :=
      sends_of_mayRead hj' hmay'
    refine ⟨more, u, hexec, not_routed_of_mem hsent fun hsame => hother ?_⟩
    rw [hserver, serverOf, hj]
    exact hsame
  | _ => exact absurd trivial hdisturbed

/-! ### Every run -/

theorem ownClients_exec {events : List Event} (hrun : exec (connectorStep clients) started events = some t) :
    OwnClients clients t :=
  along_invariant (I := OwnClients clients) (fun _ h => absurd h List.not_mem_nil)
    (along_of_forall (D := fun _ => True) fun _ _ => trivial) (fun _ _ _ hm _ hstep => ownClients_step hm hstep) hrun

/-- **Tenants.** In every run of any number of calls in which no call writes its server while a call for another server
may still read, every request goes to the server of its own user's client. A write that breaks this makes a run
possible in which one does not. -/
theorem routed_along (clients : Clients) (events : List Event) (t : Connector)
    (hrun : exec (connectorStep clients) started events = some t) :
    (Along (connectorStep clients) (fun s e _ => Undisturbed clients s e) started events → Routed clients t) ∧
    ∀ e u, connectorStep clients t e = some u → ¬ Undisturbed clients t e →
      ∃ more v, exec (connectorStep clients) u more = some v ∧ ¬ Routed clients v := by
  refine ⟨fun hundisturbed => ?_,
    fun e u hstep hdisturbed => misrouted_of_disturbed (ownClients_exec hrun) hdisturbed hstep⟩
  have hstart : RoutingInv clients started :=
    ⟨fun _ h => absurd h List.not_mem_nil, nofun, fun _ h => absurd h List.not_mem_nil⟩
  exact (along_invariant hstart hundisturbed (fun _ _ _ hm hC hstep => routingInv_step hm hC hstep) hrun).routed

/-- Two tenants. -/
def twoClients : Clients := [("a.com", ⟨"https://a"⟩), ("b.com", ⟨"https://b"⟩)]

/-- One tenant's sign-in after another's. -/
theorem routed_two :
    Routed twoClients ⟨"https://b", [⟨⟨"x@a.com", some "p", some ⟨"https://a"⟩, none⟩, .awaits .authenticate⟩,
        ⟨⟨"y@b.com", some "q", some ⟨"https://b"⟩, none⟩, .awaits .authenticate⟩],
      [⟨"x@a.com", "https://a", some .password⟩, ⟨"y@b.com", "https://b", some .password⟩]⟩ :=
  (routed_along twoClients
    [.authenticate "x@a.com" "p", .authenticate "y@b.com" "q", .choose 0, .choose 0, .send 0, .choose 1, .choose 1,
      .send 1] _ (by decide)).1 (by decide)

/-- The password of a user goes to the server of another tenant. -/
theorem password_to_other_tenant : ¬ ∀ (clients : Clients) (events : List Event) (t : Connector),
    exec (connectorStep clients) started events = some t → Routed clients t := by
  intro h
  have hsent := h twoClients
    [.authenticate "x@a.com" "p", .authenticate "y@b.com" "q", .choose 0, .choose 0, .choose 1, .choose 1, .send 0]
    ⟨"https://b", [⟨⟨"x@a.com", some "p", some ⟨"https://a"⟩, none⟩, .awaits .authenticate⟩,
        ⟨⟨"y@b.com", some "q", some ⟨"https://b"⟩, none⟩, .sendsGrant .password .authenticate⟩],
      [⟨"x@a.com", "https://b", some .password⟩]⟩ (by decide)
  exact absurd hsent (by decide)

end PortaPhone.Netsapiens
