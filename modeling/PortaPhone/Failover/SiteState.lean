import PortaPhone.Lib.Machine
/-!
# `SiteState`: the active-site tracker (`portaswitch/failover.py`)

The tracker runs on one event loop, so each stretch of code between two awaits is one step. What
lives across an await is a task: a switch-back probe (`_run_probe`) or a confirm check
(`_confirm_outage`); the monitor's `poll_once` awaits first and decides afterwards, so a tick is
the one step that has both answers.

| here | there |
| --- | --- |
| `Config`             | the thresholds `SiteState.__init__` keeps (`failover.py:119`) |
| `SiteState`          | its attributes (`:140-158`); a task or a probe is kept as "set or not" |
| `nextTargets`        | `SiteState.next_targets` (`:175`) |
| `reportUnreachable`  | `SiteState.report_unreachable` (`:193`) |
| `reportSlow`         | `SiteState.report_slow` (`:207`) |
| `confirmOutage`      | `SiteState._confirm_outage` after its await (`:228`) |
| `pollOnce`           | `SiteState.poll_once` after its await (`:269`) |
| `runProbe`           | `SiteState._run_probe` after its await (`:344`) |
| `Sys`, `step`        | the tracker with the tasks that are in flight |

`loop` says whether `asyncio.get_running_loop()` finds a loop; without one no task is started.
Clock readings are integers in the unit of `recheck_interval`.
-/

namespace PortaPhone.Failover

/-! ## Faults -/

/-- `READ_ONLY_FAULTS` (`failover.py:52`). -/
def readOnlyFaults : List String := ["standalone_mode", "secondary_site", "read_only_mode"]

/-- `SESSION_AUTH_FAULTS` (`failover.py:66`). -/
def sessionAuthFaults : List String :=
  ["Server.Session.check_auth.auth_failed", "Client.Session.check_auth.failed_to_process_access_token"]

/-! ## Data -/

/-- `Site` (`failover.py:86`). -/
inductive Site
  | main
  | standby
deriving DecidableEq, Repr

/-- An `operating_mode` a site reports (`failover.py:72-83`); `other` is any string without a constant. -/
inductive OperatingMode
  | normal
  | secondary
  | standalone
  | readOnly
  | unknown
  | other (reported : String)
deriving DecidableEq, Repr

/-- `KNOWN_OPERATING_MODES` (`failover.py:81`). -/
def OperatingMode.known : OperatingMode → Bool
  | .normal | .secondary | .standalone | .readOnly => true
  | .unknown | .other _ => false

/-- A site's answer to a probe; `none` when it does not answer. -/
abbrev Answer := Option OperatingMode

/-- How an awaited `self._probe()` ends. -/
inductive Outcome
  | answered (mode : Answer)
  | raised
deriving DecidableEq, Repr

/-- The confirm check found no main site: no answer, a failed probe, or `secondary` (`failover.py:235`). -/
def Outcome.isOutage : Outcome → Bool
  | .answered (some mode) => mode = .secondary
  | .answered none | .raised => true

/-- The thresholds kept by `__init__`; both are at least 1. -/
structure Config where
  recheckInterval : Int
  switchBackThreshold : Nat
  mainDownThreshold : Nat
  one_le_switchBack : 1 ≤ switchBackThreshold
  one_le_mainDown : 1 ≤ mainDownThreshold

/-- `max(1, …)` of `__init__` (`failover.py:142`, `:155`). -/
def Config.init (recheckInterval switchBackThreshold mainDownThreshold : Int) : Config where
  recheckInterval := recheckInterval
  switchBackThreshold := (max 1 switchBackThreshold).toNat
  mainDownThreshold := (max 1 mainDownThreshold).toNat
  one_le_switchBack := by omega
  one_le_mainDown := by omega

structure SiteState where
  active : Site := .main
  lastProbe : Option Int := none
  normalStreak : Nat := 0
  probeInFlight : Bool := false
  confirmInFlight : Bool := false
  probe : Bool := false
  standbyProbe : Bool := false
  modeAware : Bool := false
  mainDownStreak : Nat := 0
  lastModes : Answer × Answer := (none, none)
  monitorTask : Bool := false
deriving DecidableEq, Repr

namespace SiteState

/-! ## The request layer -/

def setProbe (s : SiteState) : SiteState := { s with probe := true }

def setStandbyProbe (s : SiteState) : SiteState := { s with standbyProbe := true }

/-- `_ensure_monitor` (`failover.py:243`). -/
def ensureMonitor (loop : Bool) (s : SiteState) : SiteState :=
  if s.monitorTask || !s.probe || !s.standbyProbe then s else { s with monitorTask := loop }

/-- `_maybe_schedule_probe` (`failover.py:327`); the second component says that a task was created. -/
def maybeScheduleProbe (cfg : Config) (loop : Bool) (now : Int) (s : SiteState) : SiteState × Bool :=
  if !s.probe || s.probeInFlight then (s, false)
  else if s.lastProbe.any (fun last => now - last < cfg.recheckInterval) then (s, false)
  else ({ s with lastProbe := some now, probeInFlight := loop }, loop)

/-- `next_targets` (`failover.py:175`): the servers to try, and whether a probe task was created. -/
def nextTargets {α : Type} (cfg : Config) (loop : Bool) (now : Int) (mainServer standbyServer : α)
    (s : SiteState) : List α × SiteState × Bool :=
  let s := s.ensureMonitor loop
  if s.modeAware then
    ([if s.active = .main then mainServer else standbyServer], s, false)
  else if s.active = .main then
    ([mainServer, standbyServer], s, false)
  else
    ([standbyServer], s.maybeScheduleProbe cfg loop now)

/-- `report_unreachable` (`failover.py:193`). -/
def reportUnreachable (s : SiteState) : SiteState :=
  if s.modeAware then s else { s with active := .standby, normalStreak := 0 }

/-- What `report_slow` came to. -/
inductive SlowAction
  | ignored
  | unreachable
  | confirm
deriving DecidableEq, Repr

/-- `report_slow` (`failover.py:207`). -/
def reportSlow (loop : Bool) (s : SiteState) : SiteState × SlowAction :=
  if s.modeAware then (s, .ignored)
  else if s.active ≠ .main ∨ s.confirmInFlight then (s, .ignored)
  else if !s.probe then (s.reportUnreachable, .unreachable)
  else ({ s with confirmInFlight := loop }, if loop then .confirm else .ignored)

/-! ## Task completions -/

/-- `_confirm_outage` once the probe has ended (`failover.py:228`). -/
def confirmOutage (o : Outcome) (s : SiteState) : SiteState :=
  let s := if o.isOutage then s.reportUnreachable else s
  { s with confirmInFlight := false }

/-- `_run_probe` once the probe has ended (`failover.py:344`). It reads no `modeAware`. -/
def runProbe (cfg : Config) (o : Outcome) (s : SiteState) : SiteState :=
  let s := match o with
    | .answered (some .normal) =>
      let s := { s with normalStreak := s.normalStreak + 1 }
      if s.normalStreak ≥ cfg.switchBackThreshold then { s with active := .main, normalStreak := 0 } else s
    | _ => { s with normalStreak := 0 }
  { s with probeInFlight := false }

/-! ## The monitor -/

/-- `_switch` (`failover.py:321`). -/
def switch (site : Site) (s : SiteState) : SiteState :=
  { s with active := site, mainDownStreak := 0, normalStreak := 0 }

/-- First half of `poll_once` (`failover.py:273-292`): what the answers say about the mode. -/
def noteModes (main standby : Answer) (s : SiteState) : SiteState :=
  let s := { s with lastModes := (main, standby) }
  let answered := [main, standby].filterMap id
  if answered ≠ [] then
    let modeAware := answered.any OperatingMode.known
    if modeAware ≠ s.modeAware then
      { s with modeAware := modeAware, mainDownStreak := 0, normalStreak := 0 }
    else s
  else s

/-- Second half of `poll_once` (`failover.py:293-319`): the decision of a mode-aware tracker. -/
def decideSite (cfg : Config) (main standby : Answer) (s : SiteState) : SiteState :=
  match s.active with
  | .main =>
    if standby = some .standalone then s.switch .standby
    else if standby ≠ none ∧ (main = none ∨ main = some .secondary) then
      let s := { s with mainDownStreak := s.mainDownStreak + 1 }
      if s.mainDownStreak ≥ cfg.mainDownThreshold then s.switch .standby else s
    else { s with mainDownStreak := 0 }
  | .standby =>
    if main = some .normal ∧ standby ≠ some .standalone then
      let s := { s with normalStreak := s.normalStreak + 1 }
      if s.normalStreak ≥ cfg.switchBackThreshold then s.switch .main else s
    else { s with normalStreak := 0 }

/-- `poll_once` once both sites have answered or timed out (`failover.py:269`). -/
def pollOnce (cfg : Config) (main standby : Answer) (s : SiteState) : SiteState :=
  let s := s.noteModes main standby
  if s.modeAware then s.decideSite cfg main standby else s

end SiteState

/-! ## The tracker and its tasks -/

/-- What the switch-back hysteresis counts: a probe that ended, or a call of `report_unreachable`. -/
inductive Call
  | probeEnded (o : Outcome)
  | unreachable
deriving DecidableEq, Repr

/-- The tracker, its tasks in flight, and two records that no step reads: the clock readings at
which probes were started and the calls that bear on the streak, newest first. -/
structure Sys where
  tracker : SiteState := {}
  probes : Nat := 0
  confirms : Nat := 0
  probeStarts : List Int := []
  calls : List Call := []
deriving DecidableEq, Repr

inductive Event
  | setProbe
  | setStandbyProbe
  | nextTargets (loop : Bool) (now : Int)
  | reportUnreachable
  | reportSlow (loop : Bool)
  | confirmEnded (o : Outcome)
  | probeEnded (o : Outcome)
  | tick (main standby : Answer)
deriving DecidableEq, Repr

/-- A monitor tick. -/
def Event.isTick : Event → Bool
  | .tick _ _ => true
  | _ => false

/-- The call is made inside the running event loop. -/
def Event.inLoop : Event → Bool
  | .nextTargets loop _ | .reportSlow loop => loop
  | _ => true

/-- One step between two awaits; a task can only end while it is in flight. -/
def step (cfg : Config) (s : Sys) : Event → Option Sys
  | .setProbe => some { s with tracker := s.tracker.setProbe }
  | .setStandbyProbe => some { s with tracker := s.tracker.setStandbyProbe }
  | .nextTargets loop now =>
    let (_, tracker, started) := s.tracker.nextTargets cfg loop now () ()
    if started then some { s with tracker, probes := s.probes + 1, probeStarts := now :: s.probeStarts }
    else some { s with tracker }
  | .reportUnreachable => some { s with tracker := s.tracker.reportUnreachable, calls := .unreachable :: s.calls }
  | .reportSlow loop =>
    let (tracker, action) := s.tracker.reportSlow loop
    match action with
    | .ignored => some { s with tracker }
    | .unreachable => some { s with tracker, calls := .unreachable :: s.calls }
    | .confirm => some { s with tracker, confirms := s.confirms + 1 }
  | .confirmEnded o =>
    if s.confirms = 0 then none
    else some { s with
      tracker := s.tracker.confirmOutage o
      confirms := s.confirms - 1
      calls := if o.isOutage then .unreachable :: s.calls else s.calls }
  | .probeEnded o =>
    if s.probes = 0 then none
    else some { s with
      tracker := s.tracker.runProbe cfg o
      probes := s.probes - 1
      calls := .probeEnded o :: s.calls }
  | .tick main standby => some { s with tracker := s.tracker.pollOnce cfg main standby }

/-- The system of a fresh tracker. -/
def init : Sys := {}

end PortaPhone.Failover
