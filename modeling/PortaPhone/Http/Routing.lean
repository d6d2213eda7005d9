import PortaPhone.Failover.SiteState
/-!
# Routing one request over the two sites (`async_http_api.py`)

One call of `_send_rest_request` runs beside the tracker: between its awaits the monitor ticks and
other requests report. The target list is taken once, before the first await; a connect failure goes
on to the next target whatever the mode has become since.

| here | there |
| --- | --- |
| `TransportError`   | the `httpx.HTTPError`s the `except` branch tells apart (`async_http_api.py:328-341`) |
| `requestTargets`   | `_request_targets` (`:399`) |
| `noteUnreachable`, `noteSlow` | `_note_site_unreachable` (`:408`), `_note_site_slow` (`:412`) |
| `finishFailed`     | the `except` branch (`:342-397`) |
| `step`             | `_send_rest_request` (`:273`), cut at its awaits, beside the steps of the tracker |

`routed_iff` is the result: the request is routed as the module promises in exactly the runs in which
it does not fail to connect, with the standby still to try, after the mode became known.
-/

namespace PortaPhone.Http

open Machine Failover

/-! ## Data -/

/-- How `client.request` fails, as far as the connector tells failures apart. -/
inductive TransportError
  | connectError
  | connectTimeout
  | readTimeout
  | writeTimeout
  | poolTimeout
  | httpStatus (code : Nat)
  | other
deriving DecidableEq, Repr

namespace TransportError

/-- `unreachable` (`async_http_api.py:336`). -/
def unreachable : TransportError → Bool
  | .connectError | .connectTimeout => true
  | _ => false

/-- `isinstance(e, httpx.TimeoutException)`. -/
def isTimeout : TransportError → Bool
  | .connectTimeout | .readTimeout | .writeTimeout | .poolTimeout => true
  | _ => false

/-- `slow` (`async_http_api.py:337`). -/
def slow (e : TransportError) : Bool := e.isTimeout && !e.unreachable && e != .poolTimeout

end TransportError

/-- How one exchange ends: decoded, failed, or an exception that is no `httpx.HTTPError`. -/
inductive Exchange
  | answered
  | failed (err : TransportError)
  | raised
deriving DecidableEq, Repr

/-- How the request ends: a response, the 408 trace, the 500 trace, or another exception. -/
inductive Result
  | response
  | timedOut
  | failed
  | raised
deriving DecidableEq, Repr

/-- The attributes routing reads; `standbyServer` is `""` when it is not configured. -/
structure Connector where
  apiServer : String
  standbyServer : String
  siteState : Bool

/-- Where the request is: not started, awaiting the client of a target, in the exchange with it (both
with the targets after it), or ended. -/
inductive Phase
  | idle
  | resolving (base : String) (rest : List String)
  | exchanging (base : String) (rest : List String)
  | ended (r : Result)
deriving DecidableEq, Repr

/-- What the request did; `failed` also records the mode of the tracker at that moment. -/
inductive Act
  | sent (base : String)
  | answered (base : String)
  | failed (base : String) (err : TransportError) (aware : Bool)
  | raised (base : String)
deriving DecidableEq, Repr

/-- The request beside the tracker; `log` is newest first and no step reads it. -/
structure Req where
  site : Failover.Sys
  phase : Phase := .idle
  log : List Act := []
deriving DecidableEq, Repr

inductive ReqEvent
  | site (e : Failover.Event)
  | start (server : Option String) (loop : Bool) (now : Int)
  | send
  | finish (x : Exchange) (loop : Bool)
deriving DecidableEq, Repr

/-! ## Functions -/

/-- `_request_targets` (`async_http_api.py:399`), with the tracker and its tasks after the call. -/
def requestTargets (cfg : Config) (c : Connector) (server : Option String) (loop : Bool) (now : Int)
    (site : Failover.Sys) : List String × Option Failover.Sys :=
  match server.filter (· ≠ "") with
  | some server => ([server], some site)
  | none =>
    if c.siteState && c.standbyServer ≠ "" then
      ((site.tracker.nextTargets cfg loop now c.apiServer c.standbyServer).1,
        Failover.step cfg site (.nextTargets loop now))
    else ([c.apiServer], some site)

def noteUnreachable (cfg : Config) (c : Connector) (base : String) (site : Failover.Sys) : Option Failover.Sys :=
  if c.siteState && base = c.apiServer then Failover.step cfg site .reportUnreachable else some site

def noteSlow (cfg : Config) (c : Connector) (base : String) (loop : Bool) (site : Failover.Sys) :
    Option Failover.Sys :=
  if c.siteState && base = c.apiServer then Failover.step cfg site (.reportSlow loop) else some site

/-- The `except httpx.HTTPError` branch (`async_http_api.py:336-397`): the tracker is told, then the
loop goes on to the next target or an error is raised. -/
def finishFailed (cfg : Config) (c : Connector) (base : String) (rest : List String) (err : TransportError)
    (loop : Bool) (site : Failover.Sys) : Option (Failover.Sys × Phase) :=
  let raise : Phase := .ended (if err.isTimeout then .timedOut else .failed)
  if err.unreachable then
    (noteUnreachable cfg c base site).map fun site =>
      match rest with
      | next :: rest => (site, .resolving next rest)
      | [] => (site, raise)
  else if err.slow then (noteSlow cfg c base loop site).map fun site => (site, raise)
  else some (site, raise)

/-- One step of the request or of its surroundings. -/
def reqStep (cfg : Config) (c : Connector) (s : Req) : ReqEvent → Option Req
  | .site e => (Failover.step cfg s.site e).map fun site => { s with site }
  | .start server loop now =>
    match s.phase, requestTargets cfg c server loop now s.site with
    | .idle, (base :: rest, some site) => some { s with site, phase := .resolving base rest }
    | _, _ => none
  | .send =>
    match s.phase with
    | .resolving base rest => some { s with phase := .exchanging base rest, log := .sent base :: s.log }
    | _ => none
  | .finish x loop =>
    match s.phase with
    | .exchanging base rest =>
      match x with
      | .answered => some { s with phase := .ended .response, log := .answered base :: s.log }
      | .raised => some { s with phase := .ended .raised, log := .raised base :: s.log }
      | .failed err =>
        (finishFailed cfg c base rest err loop s.site).map fun (site, phase) =>
          { site, phase, log := .failed base err s.site.tracker.modeAware :: s.log }
    | _ => none

/-! ## What the module promises -/

/-- The servers the request was sent to, newest first. -/
def sends (log : List Act) : List String := log.filterMap fun
  | .sent base => some base
  | _ => none

/-- The routing the module promises, for a log with its newest entry first. -/
structure Routed (c : Connector) (log : List Act) : Prop where
  once : (sends log).Nodup
  atMostTwo : (sends log).length ≤ 2
  /-- A second send goes to the standby, right after a connect failure of the main site that a tracker
  which is not mode-aware saw. -/
  resend : ∀ later base earlier, log = later ++ .sent base :: earlier → sends earlier ≠ [] →
    base = c.standbyServer ∧
      ∃ err before, earlier = .failed c.apiServer err false :: before ∧ err.unreachable = true
  /-- Any other failure is the end of the request. -/
  final : ∀ later base err aware earlier, log = later ++ .failed base err aware :: earlier →
    err.unreachable = false → sends later = []

/-- The request fails to connect, with a target still to try, in a mode-aware tracker. -/
def ResendsWhileAware (s : Req) (e : ReqEvent) : Prop :=
  ∃ base next rest err loop, s.phase = .exchanging base (next :: rest) ∧ e = .finish (.failed err) loop ∧
    err.unreachable = true ∧ s.site.tracker.modeAware = true

theorem not_resends {s : Req} {e : ReqEvent} (h : ∀ err loop, e ≠ .finish (.failed err) loop) :
    ¬ ResendsWhileAware s e := by
  rintro ⟨_, _, _, err, loop, _, rfl, _⟩
  exact h err loop rfl

instance (s : Req) (e : ReqEvent) : Decidable (ResendsWhileAware s e) :=
  match hphase : s.phase, e with
  | .exchanging base (next :: rest), .finish (.failed err) loop =>
    decidable_of_iff (err.unreachable = true ∧ s.site.tracker.modeAware = true)
      ⟨fun h => ⟨base, next, rest, err, loop, hphase, rfl, h⟩, fun ⟨_, _, _, _, _, _, he, h⟩ => by cases he; exact h⟩
  | .exchanging _ [], .finish (.failed _) _ | .idle, _ | .resolving _ _, _ | .ended _, _ =>
    isFalse fun ⟨_, _, _, _, _, h, _⟩ => by rw [hphase] at h; cases h
  | .exchanging _ _, .site _ | .exchanging _ _, .start _ _ _ | .exchanging _ _, .send
  | .exchanging _ _, .finish .answered _ | .exchanging _ _, .finish .raised _ =>
    isFalse (not_resends (by simp))

/-! ## Runs -/

/-- Every request starts with these targets. -/
def StartTargets (c : Connector) (base : String) (rest : List String) : Prop :=
  rest = [] ∨ (base = c.apiServer ∧ rest = [c.standbyServer])

/-- The phases and logs of a run. The last argument is the mode a connect failure was resent in:
`none` when nothing was resent. -/
inductive Shape (c : Connector) : Phase → List Act → Option Bool → Prop
  | idle : Shape c .idle [] none
  | toFirst {base rest} (h : StartTargets c base rest) : Shape c (.resolving base rest) [] none
  | first {base rest} (h : StartTargets c base rest) : Shape c (.exchanging base rest) [.sent base] none
  | toSecond {err aware} (h : err.unreachable = true) :
    Shape c (.resolving c.standbyServer []) [.failed c.apiServer err aware, .sent c.apiServer] (some aware)
  | second {err aware} (h : err.unreachable = true) :
    Shape c (.exchanging c.standbyServer [])
      [.sent c.standbyServer, .failed c.apiServer err aware, .sent c.apiServer] (some aware)
  | endedFirst {r act base} (h : sends [act] = []) : Shape c (.ended r) [act, .sent base] none
  | endedSecond {r act err aware} (h : err.unreachable = true) (hact : sends [act] = []) :
    Shape c (.ended r)
      [act, .sent c.standbyServer, .failed c.apiServer err aware, .sent c.apiServer] (some aware)

theorem nextTargets_start (cfg : Config) (c : Connector) (loop : Bool) (now : Int) (s : SiteState)
    {base : String} {rest : List String}
    (h : (s.nextTargets cfg loop now c.apiServer c.standbyServer).1 = base :: rest) : StartTargets c base rest := by
  simp only [SiteState.nextTargets] at h
  split at h
  · exact .inl (List.cons.inj h).2.symm
  · split at h
    · exact .inr ⟨(List.cons.inj h).1.symm, (List.cons.inj h).2.symm⟩
    · exact .inl (List.cons.inj h).2.symm

theorem requestTargets_start {cfg : Config} {c : Connector} {server : Option String} {loop : Bool} {now : Int}
    {site : Failover.Sys} {base : String} {rest : List String}
    (h : (requestTargets cfg c server loop now site).1 = base :: rest) : StartTargets c base rest := by
  unfold requestTargets at h
  split at h
  · exact .inl (List.cons.inj h).2.symm
  · split at h
    · exact nextTargets_start cfg c loop now site.tracker h
    · exact .inl (List.cons.inj h).2.symm

/-- A connect failure goes on exactly when a target is left; every other failure ends the request. -/
theorem finishFailed_phase {cfg : Config} {c : Connector} {base : String} {rest : List String}
    {err : TransportError} {loop : Bool} {site site' : Failover.Sys} {phase : Phase}
    (h : finishFailed cfg c base rest err loop site = some (site', phase)) :
    (err.unreachable = true ∧ ∃ next rest', rest = next :: rest' ∧ phase = .resolving next rest') ∨
      ((err.unreachable = false ∨ rest = []) ∧ ∃ r, phase = .ended r) := by
  unfold finishFailed at h
  cases hu : err.unreachable with
  | true =>
    simp only [hu, ↓reduceIte, Option.map_eq_some_iff] at h
    obtain ⟨_, _, h⟩ := h
    cases rest with
    | nil => exact .inr ⟨.inr rfl, _, (Prod.mk.inj h).2.symm⟩
    | cons next rest => exact .inl ⟨rfl, next, rest, rfl, (Prod.mk.inj h).2.symm⟩
  | false =>
    refine .inr ⟨.inl rfl, ?_⟩
    simp only [hu, Bool.false_eq_true, ↓reduceIte] at h
    split at h
    · obtain ⟨_, _, h⟩ := Option.map_eq_some_iff.1 h
      exact ⟨_, (Prod.mk.inj h).2.symm⟩
    · exact ⟨_, (Prod.mk.inj (Option.some.inj h)).2.symm⟩

/-- The end of an exchange that had `rest` to try. -/
theorem step_finish {cfg : Config} {c : Connector} {site : Failover.Sys} {log : List Act} {base : String}
    {rest : List String} {x : Exchange} {loop : Bool} {t : Req}
    (h : reqStep cfg c { site, phase := .exchanging base rest, log } (.finish x loop) = some t) :
    ∃ act, sends [act] = [] ∧ t.log = act :: log ∧
      ((∃ err next rest', x = .failed err ∧ err.unreachable = true ∧ rest = next :: rest' ∧
          t.phase = .resolving next rest' ∧ act = .failed base err site.tracker.modeAware) ∨
        ((∀ err, x = .failed err → err.unreachable = false ∨ rest = []) ∧ ∃ r, t.phase = .ended r)) := by
  cases x with
  | answered =>
    obtain rfl := Option.some.inj h
    exact ⟨_, rfl, rfl, .inr ⟨nofun, _, rfl⟩⟩
  | raised =>
    obtain rfl := Option.some.inj h
    exact ⟨_, rfl, rfl, .inr ⟨nofun, _, rfl⟩⟩
  | failed err =>
    simp only [reqStep, Option.map_eq_some_iff] at h
    obtain ⟨⟨site', phase⟩, hf, rfl⟩ := h
    refine ⟨_, rfl, rfl, ?_⟩
    rcases finishFailed_phase hf with ⟨hu, next, rest', hrest, hphase⟩ | ⟨hlast, r, hphase⟩
    · exact .inl ⟨err, next, rest', rfl, hu, hrest, hphase, rfl⟩
    · exact .inr ⟨fun err' he => by cases he; exact hlast, r, hphase⟩

/-- **Step lemma.** A step keeps the shape, and adds the mode of a resend when it decides on one. -/
theorem shape_step {cfg : Config} {c : Connector} {s t : Req} {e : ReqEvent} {m : Option Bool}
    (hs : Shape c s.phase s.log m) (h : reqStep cfg c s e = some t) :
    ∃ m', Shape c t.phase t.log m' ∧ (m' = some true ↔ m = some true ∨ ResendsWhileAware s e) := by
  cases e with
  | site e =>
    obtain ⟨_, _, rfl⟩ := Option.map_eq_some_iff.1 h
    exact ⟨m, hs, by simp [not_resends]⟩
  | start server loop now =>
    simp only [reqStep] at h
    split at h
    · next base rest site hphase htargets =>
      obtain rfl := Option.some.inj h
      have hstart := requestTargets_start (congrArg Prod.fst htargets)
      rw [hphase] at hs
      generalize s.log = log at hs
      cases hs
      exact ⟨none, .toFirst hstart, by simp [not_resends]⟩
    · cases h
  | send =>
    simp only [reqStep] at h
    split at h
    · next base rest hphase =>
      obtain rfl := Option.some.inj h
      rw [hphase] at hs
      generalize s.log = log at hs
      cases hs with
      | toFirst hstart => exact ⟨none, .first hstart, by simp [not_resends]⟩
      | toSecond hu => exact ⟨_, .second hu, by simp [not_resends]⟩
    · cases h
  | finish x loop =>
    obtain ⟨site, phase, log⟩ := s
    cases phase with
    | idle | resolving _ _ | ended _ => simp [reqStep] at h
    | exchanging base rest =>
      obtain ⟨act, hact, hlog, hcases⟩ := step_finish h
      rw [hlog]
      cases hs with
      | first hstart =>
        rcases hcases with ⟨err, next, rest', rfl, hu, hrest, hphase, rfl⟩ | ⟨hlast, r, hphase⟩
        · -- the main site does not take the connection and the standby is next
          rcases hstart with hnone | ⟨rfl, hrest'⟩
          · rw [hnone] at hrest; cases hrest
          · rw [hrest', List.cons.injEq] at hrest
            obtain ⟨rfl, rfl⟩ := hrest
            rw [hphase]
            refine ⟨some site.tracker.modeAware, .toSecond hu, ?_⟩
            simp only [Option.some.injEq, reduceCtorEq, false_or]
            constructor
            · intro haware
              exact ⟨_, _, _, err, loop, by rw [hrest'], rfl, hu, haware⟩
            · rintro ⟨_, _, _, _, _, _, _, _, haware⟩
              exact haware
        · rw [hphase]
          refine ⟨none, .endedFirst hact, ?_⟩
          simp only [reduceCtorEq, false_or, false_iff]
          rintro ⟨_, next, rest', err, _, hex, he, hu, _⟩
          cases he
          rcases hlast err rfl with hnu | hnil
          · rw [hu] at hnu; cases hnu
          · rw [hnil] at hex; cases hex
      | second hu =>
        rcases hcases with ⟨_, _, _, _, _, hrest, _⟩ | ⟨_, r, hphase⟩
        · cases hrest
        · rw [hphase]
          refine ⟨_, .endedSecond hu hact, ?_⟩
          simp only [ResendsWhileAware, Phase.exchanging.injEq]
          simp

/-- **Run lemma.** A run has a shape, and resends in a mode-aware tracker as it says. -/
theorem shape_run {cfg : Config} {c : Connector} {site : Failover.Sys} {s : Req} {es : List ReqEvent}
    (hrun : exec (reqStep cfg c) { site } es = some s) :
    ∃ m, Shape c s.phase s.log m ∧
      (m ≠ some true ↔ Along (reqStep cfg c) (fun s e _ => ¬ ResendsWhileAware s e) { site } es) := by
  refine exec_induction (P := fun es s => ∃ m, Shape c s.phase s.log m ∧
    (m ≠ some true ↔ Along (reqStep cfg c) (fun s e _ => ¬ ResendsWhileAware s e) { site } es))
    ⟨none, .idle, by simp⟩ ?_ hrun
  rintro fs s e t hfs ⟨m, hs, hm⟩ hstep
  obtain ⟨m', ht, hm'⟩ := shape_step hs hstep
  refine ⟨m', ht, ?_⟩
  rw [along_snoc, ← hm, ne_eq, hm', not_or]
  refine and_congr_right fun _ => ⟨fun hno a b ha _ => ?_, fun hall => hall s t hfs hstep⟩
  obtain rfl := Option.some.inj (hfs.symm.trans ha)
  exact hno

/-! ## The result -/

theorem split_cons {α : Type} {a x : α} {l later earlier : List α} :
    a :: l = later ++ x :: earlier ↔
      (later = [] ∧ a = x ∧ l = earlier) ∨ ∃ later', later = a :: later' ∧ l = later' ++ x :: earlier := by
  rw [List.cons_eq_append_iff]
  simp [eq_comm]

theorem sends_cons (act : Act) (log : List Act) : sends (act :: log) = sends [act] ++ sends log := by
  rw [← List.singleton_append, sends, List.filterMap_append]
  rfl

theorem routed_nil (c : Connector) : Routed c [] :=
  ⟨.nil, Nat.zero_le _, fun _ _ _ h => by simp at h, fun _ _ _ _ _ h => by simp at h⟩

/-- An entry that is no send keeps the routing. -/
theorem routed_quiet {c : Connector} {act : Act} {log : List Act} (h : Routed c log) (hact : sends [act] = []) :
    Routed c (act :: log) := by
  have hsends : sends (act :: log) = sends log := by rw [sends_cons, hact]; rfl
  refine ⟨hsends ▸ h.once, hsends ▸ h.atMostTwo, ?_, ?_⟩
  · intro later base earlier hsplit hne
    rcases split_cons.1 hsplit with ⟨_, rfl, _⟩ | ⟨later', _, hlog⟩
    · cases hact
    · exact h.resend later' base earlier hlog hne
  · intro later base err aware earlier hsplit hu
    rcases split_cons.1 hsplit with ⟨rfl, _, _⟩ | ⟨later', rfl, hlog⟩
    · rfl
    · rw [sends_cons, hact, h.final later' base err aware earlier hlog hu]
      rfl

/-- A send keeps the routing when it is the first, or the resend the module promises. -/
theorem routed_sent {c : Connector} {base : String} {log : List Act} (h : Routed c log)
    (honce : base ∉ sends log) (hlen : (sends log).length ≤ 1)
    (hresend : sends log ≠ [] → base = c.standbyServer ∧
      ∃ err before, log = .failed c.apiServer err false :: before ∧ err.unreachable = true)
    (hfinal : ∀ b err aware, .failed b err aware ∈ log → err.unreachable = true) :
    Routed c (.sent base :: log) := by
  have hsends : sends (.sent base :: log) = base :: sends log := by rw [sends_cons]; rfl
  refine ⟨?_, ?_, ?_, ?_⟩
  · rw [hsends]; exact List.nodup_cons.2 ⟨honce, h.once⟩
  · rw [hsends, List.length_cons]; omega
  · intro later b earlier hsplit hne
    rcases split_cons.1 hsplit with ⟨_, hb, rfl⟩ | ⟨later', _, hlog⟩
    · obtain rfl := Act.sent.inj hb
      exact hresend hne
    · exact h.resend later' b earlier hlog hne
  · intro later b err aware earlier hsplit hu
    rcases split_cons.1 hsplit with ⟨_, hb, _⟩ | ⟨later', _, hlog⟩
    · cases hb
    · have := hfinal b err aware (by rw [hlog]; simp)
      rw [hu] at this; cases this

theorem routed_first (c : Connector) (base : String) : Routed c [.sent base] :=
  routed_sent (routed_nil c) (by simp [sends]) (Nat.zero_le _) (fun h => absurd rfl h) (by simp)

theorem routed_failed (c : Connector) (err : TransportError) (aware : Bool) :
    Routed c [.failed c.apiServer err aware, .sent c.apiServer] :=
  routed_quiet (routed_first c c.apiServer) rfl

theorem routed_second {c : Connector} {err : TransportError} (haddr : c.apiServer ≠ c.standbyServer)
    (hu : err.unreachable = true) :
    Routed c [.sent c.standbyServer, .failed c.apiServer err false, .sent c.apiServer] := by
  refine routed_sent (routed_failed c err false) ?_ (Nat.le_refl _) (fun _ => ⟨rfl, err, _, rfl, hu⟩) ?_
  · simp [sends, Ne.symm haddr]
  · intro b err' aware hmem
    rcases List.mem_cons.1 hmem with heq | hmem
    · cases heq; exact hu
    · simp at hmem

/-- A log whose shape has no resend in a mode-aware tracker is routed as promised. -/
theorem Shape.routed {c : Connector} {phase : Phase} {log : List Act} {m : Option Bool}
    (haddr : c.apiServer ≠ c.standbyServer) (hs : Shape c phase log m) (hm : m ≠ some true) : Routed c log := by
  have hfalse : ∀ {aware : Bool}, some aware ≠ some true → aware = false := fun h => by simpa using h
  cases hs with
  | idle | toFirst _ => exact routed_nil c
  | first _ => exact routed_first c _
  | toSecond _ => exact routed_failed c _ _
  | second hu =>
    obtain rfl := hfalse hm
    exact routed_second haddr hu
  | endedFirst hact => exact routed_quiet (routed_first c _) hact
  | endedSecond hu hact =>
    obtain rfl := hfalse hm
    exact routed_quiet (routed_second haddr hu) hact

/-- A request that ended after such a resend is not. -/
theorem Shape.not_routed {c : Connector} {r : Result} {log : List Act}
    (hs : Shape c (.ended r) log (some true)) : ¬ Routed c log := by
  intro h
  cases hs with
  | @endedSecond _ act err _ hu hact =>
    obtain ⟨_, err', before, hearlier, _⟩ :=
      h.resend [act] c.standbyServer [.failed c.apiServer err true, .sent c.apiServer] rfl (by simp [sends])
    simp at hearlier

/-- **Routing of one request**, in every run of it beside a tracker in any state, with any ticks and
reports of other requests in between. As long as it does not fail to connect, with the standby still
to try, in a mode-aware tracker, it is sent to at most two servers and to each at most once, to the
second one only after a connect failure of the main site seen by a reactive tracker, and never again
after any other failure. Once the request has ended, this is exactly when it is. -/
theorem routed_iff (cfg : Config) {c : Connector} (haddr : c.apiServer ≠ c.standbyServer) (site : Failover.Sys)
    {s : Req} {es : List ReqEvent} (hrun : exec (reqStep cfg c) { site } es = some s) :
    (Along (reqStep cfg c) (fun s e _ => ¬ ResendsWhileAware s e) { site } es → Routed c s.log) ∧
    (∀ r, s.phase = .ended r →
      (Routed c s.log ↔ Along (reqStep cfg c) (fun s e _ => ¬ ResendsWhileAware s e) { site } es)) := by
  obtain ⟨m, hs, hm⟩ := shape_run hrun
  refine ⟨fun h => hs.routed haddr (hm.2 h), fun r hr => ⟨fun h => hm.1 ?_, fun h => hs.routed haddr (hm.2 h)⟩⟩
  rintro rfl
  exact (hr ▸ hs).not_routed h

/-! ## The main site goes down just after the mode becomes known -/

def dualSite : Connector := ⟨"https://main.example.com", "https://standby.example.com", true⟩

/-- The request takes both targets, a tick makes the tracker mode-aware, and the main site then does
not take the connection. -/
def resendRun : List ReqEvent :=
  [.site .setProbe, .site .setStandbyProbe, .start none true 0, .send,
    .site (.tick (some .normal) (some .secondary)), .finish (.failed .connectError) true, .send,
    .finish .answered true]

/-- The request of `resendRun` goes to both sites although the tracker is mode-aware. -/
theorem resent_while_aware :
    ¬ ∀ (cfg : Config) (c : Connector) (site : Failover.Sys) (es : List ReqEvent) (s : Req),
      c.apiServer ≠ c.standbyServer → exec (reqStep cfg c) { site } es = some s → Routed c s.log := by
  intro h
  have hrouted := h (Config.init 60 2 3) dualSite Failover.init resendRun _ (by decide) rfl
  obtain ⟨_, err, before, hearlier, _⟩ := hrouted.resend [.answered dualSite.standbyServer] dualSite.standbyServer
    [.failed dualSite.apiServer .connectError true, .sent dualSite.apiServer] rfl (by decide)
  simp at hearlier

/-- The same request with a tracker that stays reactive. -/
def failoverRun : List ReqEvent :=
  [.site .setProbe, .start none true 0, .send, .finish (.failed .connectError) true, .send, .finish .answered true]

/-- It is routed as promised: to the main site, then to the standby. -/
theorem routed_failover : Routed dualSite
    [.answered dualSite.standbyServer, .sent dualSite.standbyServer,
      .failed dualSite.apiServer .connectError false, .sent dualSite.apiServer] :=
  have hrun : exec (reqStep (Config.init 60 2 3) dualSite) { site := Failover.init } failoverRun = some _ := rfl
  (routed_iff (Config.init 60 2 3) (by decide) Failover.init hrun).1 (by decide)

end PortaPhone.Http
