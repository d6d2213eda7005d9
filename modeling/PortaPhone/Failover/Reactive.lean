import PortaPhone.Failover.Steps
import PortaPhone.Lib.Streak
import Mathlib.Data.List.Chain
/-!
# The reactive tracker over whole runs

Sites that report no `operating_mode`: requests fail over by themselves, and a probe that a request
starts brings the tracker back. `Reactive` is the invariant; it ties each flag to the tasks in
flight, the recheck clock to the last start, and the streak to the calls since it was last reset.
`reactive_run` is what it gives about runs.
-/

namespace PortaPhone.Failover

open Machine Streak SiteState

/-- A probe that ended with `normal`. -/
def Call.isNormal : Call → Bool
  | .probeEnded (.answered (some .normal)) => true
  | _ => false

/-- What holds of a reactive tracker whose requests are made inside the event loop. -/
structure Reactive (cfg : Config) (s : Sys) : Prop where
  mode : s.tracker.modeAware = false
  probes : s.probes = if s.tracker.probeInFlight then 1 else 0
  confirms : s.confirms = if s.tracker.confirmInFlight then 1 else 0
  last : s.tracker.lastProbe = s.probeStarts.head?
  spaced : s.probeStarts.IsChain fun later earlier => cfg.recheckInterval ≤ later - earlier
  onMain : s.tracker.active = .main → s.tracker.probeInFlight = false
  onStandby : s.tracker.active = .standby → s.tracker.normalStreak = streak Call.isNormal s.calls
  short : s.tracker.normalStreak < cfg.switchBackThreshold

theorem reactive_init (cfg : Config) : Reactive cfg init :=
  ⟨rfl, rfl, rfl, rfl, .nil, fun _ => rfl, (fun h => by cases h), cfg.one_le_switchBack⟩

/-! ## One operation at a time -/

/-- In the event loop a probe is started only when none is in flight and the recheck is due. -/
theorem maybeScheduleProbe_cases (cfg : Config) (now : Int) (s : SiteState) :
    s.maybeScheduleProbe cfg true now = (s, false) ∨
      (s.probeInFlight = false ∧ (∀ last ∈ s.lastProbe, cfg.recheckInterval ≤ now - last) ∧
        s.maybeScheduleProbe cfg true now = ({ s with lastProbe := some now, probeInFlight := true }, true)) := by
  unfold maybeScheduleProbe
  split
  · exact .inl rfl
  · next hflag =>
    split
    · exact .inl rfl
    · next hdue =>
      refine .inr ⟨by simp at hflag; exact hflag.2, fun last hl => ?_, rfl⟩
      rw [Option.mem_def] at hl
      simp only [hl, Option.any_some, decide_eq_true_eq] at hdue
      omega

theorem ensureMonitor_eq (loop : Bool) (s : SiteState) :
    ∃ started, s.ensureMonitor loop = { s with monitorTask := started } := by
  unfold ensureMonitor
  split
  · exact ⟨s.monitorTask, rfl⟩
  · exact ⟨loop, rfl⟩

/-- A reactive request changes nothing but the monitor task, or it starts a probe that is due. -/
theorem nextTargets_cases (cfg : Config) (now : Int) {s : SiteState} (h : s.modeAware = false) :
    ∃ started, (s.nextTargets cfg true now () ()).2 = ({ s with monitorTask := started }, false) ∨
      (s.active = .standby ∧ s.probeInFlight = false ∧ (∀ last ∈ s.lastProbe, cfg.recheckInterval ≤ now - last) ∧
        (s.nextTargets cfg true now () ()).2 =
          ({ s with monitorTask := started, lastProbe := some now, probeInFlight := true }, true)) := by
  obtain ⟨started, hmon⟩ := ensureMonitor_eq true s
  refine ⟨started, ?_⟩
  simp only [nextTargets, hmon, h, Bool.false_eq_true, ↓reduceIte]
  split
  · exact .inl (by simp)
  · next hact =>
    have hstandby : s.active = .standby := by cases hs : s.active <;> simp_all
    rcases maybeScheduleProbe_cases cfg now { s with monitorTask := started } with hno | ⟨hfree, hdue, hyes⟩
    · exact .inl (by simpa [h] using hno)
    · exact .inr ⟨hstandby, hfree, hdue, by simpa [h] using hyes⟩

theorem reactive_nextTargets {cfg : Config} {s t : Sys} {now : Int} (hs : Reactive cfg s)
    (h : step cfg s (.nextTargets true now) = some t) : Reactive cfg t := by
  obtain ⟨started, hcases⟩ := nextTargets_cases cfg now hs.mode
  rcases hcases with hno | ⟨hact, hfree, hdue, hyes⟩
  · simp only [step, hno, Bool.false_eq_true, ↓reduceIte] at h
    obtain rfl := Option.some.inj h
    exact ⟨hs.mode, hs.probes, hs.confirms, hs.last, hs.spaced, hs.onMain, hs.onStandby, hs.short⟩
  · simp only [step, hyes, ↓reduceIte] at h
    obtain rfl := Option.some.inj h
    refine ⟨hs.mode, ?_, hs.confirms, rfl, ?_, fun hm => ?_, hs.onStandby, hs.short⟩
    · simp [hs.probes, hfree]
    · rw [hs.last] at hdue
      exact List.isChain_cons.2 ⟨hdue, hs.spaced⟩
    · exact absurd (hact.symm.trans hm) (by decide)

/-- `report_unreachable` moves a reactive tracker to the standby site and resets the streak. -/
theorem reportUnreachable_reactive {s : SiteState} (h : s.modeAware = false) :
    s.reportUnreachable = { s with active := .standby, normalStreak := 0 } := by
  simp [reportUnreachable, h]

theorem reactive_reportUnreachable {cfg : Config} {s : Sys} (hs : Reactive cfg s) :
    Reactive cfg { s with tracker := s.tracker.reportUnreachable, calls := .unreachable :: s.calls } := by
  rw [reportUnreachable_reactive hs.mode]
  exact ⟨hs.mode, hs.probes, hs.confirms, hs.last, hs.spaced, (fun hm => by cases hm), fun _ => rfl,
    cfg.one_le_switchBack⟩

theorem reportSlow_cases {s : SiteState} (h : s.modeAware = false) :
    s.reportSlow true = (s, .ignored) ∨ s.reportSlow true = (s.reportUnreachable, .unreachable) ∨
      (s.confirmInFlight = false ∧ s.reportSlow true = ({ s with confirmInFlight := true }, .confirm)) := by
  simp only [reportSlow, h, Bool.false_eq_true, ↓reduceIte]
  split
  · exact .inl rfl
  · next hguard =>
    split
    · exact .inr (.inl rfl)
    · exact .inr (.inr ⟨by simpa using (not_or.1 hguard).2, rfl⟩)

theorem reactive_reportSlow {cfg : Config} {s t : Sys} (hs : Reactive cfg s)
    (h : step cfg s (.reportSlow true) = some t) : Reactive cfg t := by
  rcases reportSlow_cases hs.mode with hno | hout | ⟨hfree, hconfirm⟩
  · simp only [step, hno] at h
    obtain rfl := Option.some.inj h
    exact hs
  · simp only [step, hout] at h
    obtain rfl := Option.some.inj h
    exact reactive_reportUnreachable hs
  · simp only [step, hconfirm] at h
    obtain rfl := Option.some.inj h
    exact ⟨hs.mode, hs.probes, by simp [hs.confirms, hfree], hs.last, hs.spaced, hs.onMain, hs.onStandby, hs.short⟩

theorem reactive_confirmEnded {cfg : Config} {s t : Sys} {o : Outcome} (hs : Reactive cfg s)
    (h : step cfg s (.confirmEnded o) = some t) : Reactive cfg t := by
  simp only [step] at h
  split at h
  · cases h
  · next hbusy =>
    have hone : s.confirms - 1 = 0 := by
      have := hs.confirms
      split at this <;> omega
    obtain rfl := Option.some.inj h
    simp only [confirmOutage]
    split
    · have hr := reactive_reportUnreachable hs
      exact ⟨hr.mode, hr.probes, hone, hr.last, hr.spaced, hr.onMain, hr.onStandby, hr.short⟩
    · exact ⟨hs.mode, hs.probes, hone, hs.last, hs.spaced, hs.onMain, hs.onStandby, hs.short⟩

/-- The end of a probe touches neither the recheck clock nor the confirm check. -/
theorem runProbe_frame (cfg : Config) (o : Outcome) (s : SiteState) :
    (s.runProbe cfg o).probeInFlight = false ∧ (s.runProbe cfg o).confirmInFlight = s.confirmInFlight ∧
      (s.runProbe cfg o).lastProbe = s.lastProbe := by
  refine ⟨by simp [runProbe], ?_, ?_⟩
  all_goals
    simp only [runProbe]
    split
    · split <;> rfl
    · rfl

/-- The streak never stands at the threshold: reaching it resets it. -/
theorem runProbe_short (cfg : Config) (o : Outcome) (s : SiteState) :
    (s.runProbe cfg o).normalStreak < cfg.switchBackThreshold := by
  have hone := cfg.one_le_switchBack
  by_cases ho : o = .answered (some .normal)
  · subst ho
    rw [(runProbe_normal cfg s).2]
    split <;> omega
  · rw [(runProbe_other cfg s ho).2]
    omega

/-- A probe ends only on the standby site: the tracker started none on the main one. -/
theorem Reactive.standby_of_probe {cfg : Config} {s : Sys} (hs : Reactive cfg s) (h : s.probes ≠ 0) :
    s.tracker.active = .standby := by
  cases hact : s.tracker.active with
  | standby => rfl
  | main => exact absurd (by simpa [hs.onMain hact] using hs.probes) h

theorem reactive_probeEnded {cfg : Config} {s t : Sys} {o : Outcome} (hs : Reactive cfg s)
    (h : step cfg s (.probeEnded o) = some t) : Reactive cfg t := by
  obtain ⟨hbusy, rfl⟩ := step_probeEnded.1 h
  have hone : s.probes - 1 = 0 := by
    have := hs.probes
    split at this <;> omega
  obtain ⟨hfree, hconfirm, hlast⟩ := runProbe_frame cfg o s.tracker
  refine ⟨(runProbe_modeAware cfg o s.tracker).trans hs.mode, by simpa [hfree] using hone,
    by simpa [hconfirm] using hs.confirms, hlast.trans hs.last, hs.spaced, fun _ => hfree, fun hb => ?_,
    runProbe_short cfg o s.tracker⟩
  have hstreak := hs.onStandby (hs.standby_of_probe hbusy)
  by_cases ho : o = .answered (some .normal)
  · subst ho
    obtain ⟨hact, hcount⟩ := runProbe_normal cfg s.tracker
    have hshort : ¬ cfg.switchBackThreshold ≤ s.tracker.normalStreak + 1 := by
      intro hk
      rw [if_pos hk] at hact
      exact absurd (hact.symm.trans hb) (by decide)
    rw [if_neg hshort] at hcount
    simp [hcount, hstreak, Call.isNormal]
  · have hnot : Call.isNormal (.probeEnded o) = false := by
      unfold Call.isNormal
      split
      · next heq => cases heq; exact absurd rfl ho
      · rfl
    simp [(runProbe_other cfg s.tracker ho).2, hnot]

/-- A tick without a known mode only notes the answers. -/
theorem reactive_tick {cfg : Config} {s t : Sys} {main standby : Answer} (hs : Reactive cfg s)
    (ht : t.tracker.modeAware = false) (h : step cfg s (.tick main standby) = some t) :
    Reactive cfg t ∧ t.tracker.active = s.tracker.active := by
  obtain rfl := Option.some.inj h
  have hnext : nextAware s.tracker.modeAware main standby = false :=
    (pollOnce_modeAware cfg main standby s.tracker).symm.trans ht
  rw [hs.mode] at hnext
  have hpoll : s.tracker.pollOnce cfg main standby = { s.tracker with lastModes := (main, standby) } := by
    simp [pollOnce, noteModes_eq, hnext, hs.mode]
  rw [hpoll]
  exact ⟨⟨hs.mode, hs.probes, hs.confirms, hs.last, hs.spaced, hs.onMain, hs.onStandby, hs.short⟩, rfl⟩

/-! ## Runs -/

theorem reactive_step {cfg : Config} {s t : Sys} {e : Event} (hs : Reactive cfg s) (hloop : e.inLoop = true)
    (ht : t.tracker.modeAware = false) (h : step cfg s e = some t) : Reactive cfg t := by
  cases e with
  | setProbe | setStandbyProbe =>
    obtain rfl := Option.some.inj h
    exact ⟨hs.mode, hs.probes, hs.confirms, hs.last, hs.spaced, hs.onMain, hs.onStandby, hs.short⟩
  | nextTargets loop now =>
    obtain rfl : loop = true := hloop
    exact reactive_nextTargets hs h
  | reportUnreachable =>
    obtain rfl := Option.some.inj h
    exact reactive_reportUnreachable hs
  | reportSlow loop =>
    obtain rfl : loop = true := hloop
    exact reactive_reportSlow hs h
  | confirmEnded o => exact reactive_confirmEnded hs h
  | probeEnded o => exact reactive_probeEnded hs h
  | tick main standby => exact (reactive_tick hs ht h).1

/-- A step of a reactive run: made in the event loop, and it leaves the mode unknown. -/
def StaysReactive (_ : Sys) (e : Event) (t : Sys) : Prop := e.inLoop = true ∧ t.tracker.modeAware = false

theorem reactive_exec {cfg : Config} {s : Sys} {es : List Event}
    (hreact : Along (step cfg) StaysReactive init es) (hrun : exec (step cfg) init es = some s) : Reactive cfg s :=
  along_invariant (reactive_init cfg) hreact (fun _ _ _ hm hC hstep => reactive_step hm hC.1 hC.2 hstep) hrun

/-- Only the end of a `normal` probe brings a reactive tracker back, and then the streak is complete. -/
theorem reactive_switchBack {cfg : Config} {s t : Sys} {e : Event} (hs : Reactive cfg s) (hC : StaysReactive s e t)
    (h : step cfg s e = some t) (hb : s.tracker.active = .standby) (hm : t.tracker.active = .main) :
    e = .probeEnded (.answered (some .normal)) ∧ streak Call.isNormal t.calls = cfg.switchBackThreshold := by
  have hne : s.tracker.active ≠ t.tracker.active := by rw [hb, hm]; decide
  cases e with
  | setProbe | setStandbyProbe =>
    obtain rfl := Option.some.inj h
    exact absurd rfl hne
  | nextTargets loop now =>
    obtain rfl : loop = true := hC.1
    obtain ⟨started, hcases⟩ := nextTargets_cases cfg now hs.mode
    rcases hcases with hno | ⟨_, _, _, hyes⟩
    · simp only [step, hno, Bool.false_eq_true, ↓reduceIte] at h
      obtain rfl := Option.some.inj h
      exact absurd rfl hne
    · simp only [step, hyes, ↓reduceIte] at h
      obtain rfl := Option.some.inj h
      exact absurd rfl hne
  | reportUnreachable =>
    obtain rfl := Option.some.inj h
    rw [reportUnreachable_reactive hs.mode] at hm
    cases hm
  | reportSlow loop =>
    obtain rfl : loop = true := hC.1
    rcases reportSlow_cases hs.mode with hno | hout | ⟨_, hconfirm⟩
    · simp only [step, hno] at h
      obtain rfl := Option.some.inj h
      exact absurd rfl hne
    · simp only [step, hout, reportUnreachable_reactive hs.mode] at h
      obtain rfl := Option.some.inj h
      cases hm
    · simp only [step, hconfirm] at h
      obtain rfl := Option.some.inj h
      exact absurd rfl hne
  | confirmEnded o =>
    simp only [step] at h
    split at h
    · cases h
    · obtain rfl := Option.some.inj h
      simp only [confirmOutage] at hm
      split at hm
      · rw [reportUnreachable_reactive hs.mode] at hm
        cases hm
      · exact absurd (hb.symm.trans hm) (by decide)
  | probeEnded o =>
    obtain ⟨_, rfl⟩ := step_probeEnded.1 h
    by_cases ho : o = .answered (some .normal)
    · subst ho
      refine ⟨rfl, ?_⟩
      have hact := (runProbe_normal cfg s.tracker).1
      have hk : cfg.switchBackThreshold ≤ s.tracker.normalStreak + 1 := by
        apply Decidable.byContradiction
        intro hk
        rw [if_neg hk] at hact
        exact hne (hact.symm)
      have hstreak := hs.onStandby hb
      have hshort := hs.short
      simp only [streak_cons, Call.isNormal, ↓reduceIte]
      omega
    · exact absurd (runProbe_other cfg s.tracker ho).1.symm hne
  | tick main standby => exact absurd (reactive_tick hs hC.2 h).2.symm hne

/-- **Reactive runs.** In a run from a fresh tracker whose requests are made inside the event loop and
which never learns a mode: at most one probe and one confirm check are in flight, successive probe
starts are `recheckInterval` apart, and the next step brings the tracker from the standby to the main
site only when it is the end of a probe, and the calls since the streak was last reset are exactly
`switchBackThreshold` probes that ended with `normal`. -/
theorem reactive_run (cfg : Config) {s : Sys} {es : List Event} (hreact : Along (step cfg) StaysReactive init es)
    (hrun : exec (step cfg) init es = some s) :
    s.probes ≤ 1 ∧ s.confirms ≤ 1 ∧
    (s.probeStarts.IsChain fun later earlier => cfg.recheckInterval ≤ later - earlier) ∧
    ∀ e t, StaysReactive s e t → step cfg s e = some t →
      s.tracker.active = .standby → t.tracker.active = .main →
        e = .probeEnded (.answered (some .normal)) ∧
        ∃ rest, t.calls = List.replicate cfg.switchBackThreshold (.probeEnded (.answered (some .normal))) ++ rest ∧
          rest.head? ≠ some (.probeEnded (.answered (some .normal))) := by
  have hs := reactive_exec hreact hrun
  refine ⟨?_, ?_, hs.spaced, fun e t hC h hb hm => ?_⟩
  · rw [hs.probes]; split <;> omega
  · rw [hs.confirms]; split <;> omega
  · obtain ⟨he, hstreak⟩ := reactive_switchBack hs hC h hb hm
    obtain ⟨newest, rest, hsplit, hlen, hall, hhead⟩ := streak_split Call.isNormal t.calls
    have hnormal : ∀ c, Call.isNormal c = true → c = .probeEnded (.answered (some .normal)) := by
      intro c hc
      unfold Call.isNormal at hc
      split at hc
      · rfl
      · cases hc
    refine ⟨he, rest, ?_, fun hr => ?_⟩
    · rw [hsplit, List.eq_replicate_of_mem fun c hc => hnormal c (hall c hc), hlen, hstreak]
    · exact absurd (hhead _ hr) (by decide)

/-- Fail over, probe twice a recheck interval apart, and be back. -/
def switchBackRun : List Event :=
  [.setProbe, .reportUnreachable, .nextTargets true 0, .probeEnded (.answered (some .normal)),
    .nextTargets true 59, .nextTargets true 60]

/-- The tracker after `switchBackRun`. -/
def switchBackSys : Sys := (exec (step (Config.init 60 2 3)) init switchBackRun).getD init

instance (s : Sys) (e : Event) (t : Sys) : Decidable (StaysReactive s e t) := inferInstanceAs (Decidable (_ ∧ _))

/-- The second probe of `switchBackRun` is the only one in flight, and its `normal` completes the streak. -/
theorem reactive_run_switchBack :
    switchBackSys.probes ≤ 1 ∧ ∃ rest,
      [Call.probeEnded (.answered (some .normal)), .probeEnded (.answered (some .normal)), .unreachable] =
        List.replicate 2 (.probeEnded (.answered (some .normal))) ++ rest :=
  have hexec : exec (step (Config.init 60 2 3)) init switchBackRun = some switchBackSys := rfl
  have hrun := reactive_run (Config.init 60 2 3) (by decide) hexec
  ⟨hrun.1, (hrun.2.2.2 (.probeEnded (.answered (some .normal))) _ ⟨rfl, rfl⟩ rfl rfl rfl).2.imp fun _ h => h.1⟩

end PortaPhone.Failover
