import PortaPhone.Failover.Steps
import PortaPhone.Lib.Streak
/-!
# The mode-aware tracker over whole runs

* `monitor_decides_iff` — who decides. A mode-aware tracker is moved by its ticks alone exactly in
  the runs in which no probe of the reactive mode ends with `normal` once the mode has changed:
  `report_unreachable`, `report_slow` and `_confirm_outage` look at the mode, `_run_probe` does not.
* `monitor_hysteresis` — what is decided. The two streak counters hold the number of newest ticks of
  the right kind since the tracker became mode-aware or last switched.
-/

namespace PortaPhone.Failover

open Machine Streak SiteState

/-! ## Who decides -/

/-- A step other than a tick leaves the active site, and does not advance the switch-back streak,
while the tracker is mode-aware. -/
def MonitorOnly (s : Sys) (e : Event) (t : Sys) : Prop :=
  s.tracker.modeAware = true → e.isTick = false →
    t.tracker.active = s.tracker.active ∧ t.tracker.normalStreak ≤ s.tracker.normalStreak

/-- A switch-back probe ends with `normal` in a mode-aware tracker that is on the standby site, or
whose streak the answer leaves below the threshold. -/
def ProbeDecides (cfg : Config) (s : Sys) (e : Event) : Prop :=
  s.tracker.modeAware = true ∧ e = .probeEnded (.answered (some .normal)) ∧
    (s.tracker.active = .standby ∨ s.tracker.normalStreak + 1 < cfg.switchBackThreshold)

/-- One step: the end of a `normal` probe is the only way around the monitor. -/
theorem monitorOnly_step {cfg : Config} {s t : Sys} {e : Event} (h : step cfg s e = some t) :
    MonitorOnly s e t ↔ ¬ ProbeDecides cfg s e := by
  by_cases haware : s.tracker.modeAware = true
  · by_cases hp : ∃ o, e = .probeEnded o
    · obtain ⟨o, rfl⟩ := hp
      obtain ⟨_, rfl⟩ := step_probeEnded.1 h
      by_cases ho : o = .answered (some .normal)
      · subst ho
        obtain ⟨hact, hstreak⟩ := runProbe_normal cfg s.tracker
        simp only [MonitorOnly, ProbeDecides, haware, hact, hstreak, Event.isTick, true_and, forall_const]
        cases hs : s.tracker.active
        · by_cases hk : cfg.switchBackThreshold ≤ s.tracker.normalStreak + 1 <;> simp [hk]
        · by_cases hk : cfg.switchBackThreshold ≤ s.tracker.normalStreak + 1 <;> simp [hk]
      · obtain ⟨hact, hstreak⟩ := runProbe_other cfg s.tracker ho
        simp [MonitorOnly, ProbeDecides, hact, hstreak, ho]
    · have hne : ∀ o, e ≠ .probeEnded o := fun o ho => hp ⟨o, ho⟩
      refine ⟨fun _ hd => hne _ hd.2.1, fun _ _ htick => ?_⟩
      obtain ⟨hsame, _⟩ := step_aware haware htick hne h
      exact ⟨hsame.active, Nat.le_of_eq hsame.normalStreak⟩
  · exact ⟨fun _ hd => haware hd.1, fun _ ha => absurd ha haware⟩

/-- **Only the monitor moves a mode-aware tracker** in a run, from a fresh tracker, exactly when no
switch-back probe started in the reactive mode decides in it. -/
theorem monitor_decides_iff (cfg : Config) (es : List Event) :
    Along (step cfg) MonitorOnly init es ↔
      Along (step cfg) (fun s e _ => ¬ ProbeDecides cfg s e) init es :=
  along_congr fun _ _ _ h => monitorOnly_step h

/-- The tracker fails over on a connect error, a request starts a probe, a tick brings the mode and a
first `normal`, and the probe then ends with the second one. -/
def probeRaceRun : List Event :=
  [.setProbe, .setStandbyProbe, .reportUnreachable, .nextTargets true 0,
    .tick (some .normal) (some .secondary), .probeEnded (.answered (some .normal))]

/-- The probe of `probeRaceRun` moves the mode-aware tracker back to the main site. -/
theorem probe_decides_in_race : ¬ Along (step (Config.init 60 2 3)) MonitorOnly init probeRaceRun := by
  intro h
  have hlast : Along _ _ init (probeRaceRun.dropLast ++ [.probeEnded (.answered (some .normal))]) := h
  have hstep := (along_snoc.1 hlast).2 _ _ rfl rfl
  exact absurd (hstep rfl rfl).1 (by decide)

/-! ## What is decided -/

/-- The ticks, newest first, that count for the next decision: those from the one at which the
tracker became mode-aware, or from the first one after its last switch. -/
def countedTicks (s : Sys) (e : Event) (t : Sys) (ticks : List (Answer × Answer)) : List (Answer × Answer) :=
  match e with
  | .tick main standby =>
    if t.tracker.active ≠ s.tracker.active then []
    else (main, standby) :: (if s.tracker.modeAware then ticks else [])
  | _ => ticks

/-- A mode-aware tracker with no probe in flight whose streaks count the ticks of the log. -/
structure Counts (s : Sys) (ticks : List (Answer × Answer)) : Prop where
  probes : s.probes = 0
  onMain : s.tracker.active = .main → s.tracker.mainDownStreak = streak mainDown ticks
  onStandby : s.tracker.active = .standby → s.tracker.normalStreak = streak mainBack ticks

theorem counted_streak (p : Answer × Answer → Bool) (tick : Answer × Answer) (aware : Bool)
    (ticks : List (Answer × Answer)) :
    streak p (tick :: if aware then ticks else []) =
      if p tick then (if aware then streak p ticks else 0) + 1 else 0 := by
  cases aware <;> simp [streak_nil]

/-- What a mode-aware tick starts counting from on the main site. -/
theorem carried_down {s : Sys} {ticks : List (Answer × Answer)}
    (hs : s.tracker.modeAware = true → Counts s ticks) (hact : s.tracker.active = .main) :
    (if s.tracker.modeAware then s.tracker.mainDownStreak else 0) =
      if s.tracker.modeAware then streak mainDown ticks else 0 := by
  cases ha : s.tracker.modeAware with
  | false => rfl
  | true => simp [(hs ha).onMain hact]

/-- The same on the standby site. -/
theorem carried_back {s : Sys} {ticks : List (Answer × Answer)}
    (hs : s.tracker.modeAware = true → Counts s ticks) (hact : s.tracker.active = .standby) :
    (if s.tracker.modeAware then s.tracker.normalStreak else 0) =
      if s.tracker.modeAware then streak mainBack ticks else 0 := by
  cases ha : s.tracker.modeAware with
  | false => rfl
  | true => simp [(hs ha).onStandby hact]

theorem countedTicks_stay {s t : Sys} {main standby : Answer} {ticks : List (Answer × Answer)}
    (h : t.tracker.active = s.tracker.active) :
    countedTicks s (.tick main standby) t ticks =
      (main, standby) :: (if s.tracker.modeAware then ticks else []) := by
  simp [countedTicks, h]

theorem countedTicks_switch {s t : Sys} {main standby : Answer} {ticks : List (Answer × Answer)}
    (h : t.tracker.active ≠ s.tracker.active) : countedTicks s (.tick main standby) t ticks = [] := by
  simp [countedTicks, h]

theorem countedTicks_other {s t : Sys} {e : Event} {ticks : List (Answer × Answer)} (h : e.isTick = false) :
    countedTicks s e t ticks = ticks := by
  cases e <;> first | rfl | cases h

/-- A tick that leaves the tracker mode-aware counts itself. -/
theorem counts_tick {cfg : Config} {s t : Sys} {ticks : List (Answer × Answer)} {main standby : Answer}
    (hs : s.tracker.modeAware = true → Counts s ticks) (hp : t.probes = 0)
    (haware : t.tracker.modeAware = true) (ht : step cfg s (.tick main standby) = some t) :
    Counts t (countedTicks s (.tick main standby) t ticks) := by
  obtain rfl := Option.some.inj ht
  have h : nextAware s.tracker.modeAware main standby = true :=
    (pollOnce_modeAware cfg main standby s.tracker).symm.trans haware
  refine ⟨hp, fun hm => ?_, fun hb => ?_⟩
  · cases hact : s.tracker.active with
    | main =>
      rw [countedTicks_stay (hm.trans hact.symm), counted_streak]
      exact ((pollOnce_main cfg hact h).2.1 hm).trans (by rw [carried_down hs hact])
    | standby =>
      rw [countedTicks_switch (by rw [hm, hact]; decide)]
      exact (pollOnce_standby cfg hact h).2.2 hm
  · cases hact : s.tracker.active with
    | main =>
      rw [countedTicks_switch (by rw [hb, hact]; decide)]
      exact (pollOnce_main cfg hact h).2.2 hb
    | standby =>
      rw [countedTicks_stay (hb.trans hact.symm), counted_streak]
      exact ((pollOnce_standby cfg hact h).2.1 hb).trans (by rw [carried_back hs hact])

/-- Any other step keeps the counts, since no probe is in flight. -/
theorem counts_other {cfg : Config} {s t : Sys} {ticks : List (Answer × Answer)} {e : Event}
    (hs : Counts s ticks) (haware : s.tracker.modeAware = true) (htick : e.isTick = false)
    (ht : step cfg s e = some t) : SameDecision s.tracker t.tracker ∧ Counts t ticks := by
  have hne : ∀ o, e ≠ .probeEnded o := by
    rintro o rfl
    exact (step_probeEnded.1 ht).1 hs.probes
  obtain ⟨hsame, hp⟩ := step_aware haware htick hne ht
  refine ⟨hsame, hp.trans hs.probes, fun hm => ?_, fun hb => ?_⟩
  · rw [hsame.mainDownStreak]; exact hs.onMain (hsame.active ▸ hm)
  · rw [hsame.normalStreak]; exact hs.onStandby (hsame.active ▸ hb)

/-- **Run lemma.** In a run with no probe in flight while the tracker is mode-aware, the streaks
count the ticks since it became so. -/
theorem counts_run {cfg : Config} {s₀ s : Sys} {ticks : List (Answer × Answer)} {es : List Event}
    (hs₀ : s₀.tracker.modeAware = false)
    (hprobe : Along (step cfg) (fun _ _ t => t.tracker.modeAware = true → t.probes = 0) s₀ es)
    (hrun : exec (history (step cfg) countedTicks) (s₀, []) es = some (s, ticks))
    (haware : s.tracker.modeAware = true) : Counts s ticks := by
  refine along_invariant (I := fun p : Sys × List (Answer × Answer) => p.1.tracker.modeAware = true → Counts p.1 p.2)
    ?_ (history_along (p := (s₀, [])) hprobe) ?_ hrun haware
  · intro h; rw [hs₀] at h; cases h
  · rintro ⟨m, g⟩ e ⟨t, g'⟩ hI hp hstep ht
    obtain ⟨hmt, hg⟩ := history_step.1 hstep
    simp only at hmt hg hI hp ht ⊢
    subst hg
    cases hk : e.isTick with
    | false =>
      have hm : m.tracker.modeAware = true := (step_modeAware hk hmt).symm.trans ht
      rw [countedTicks_other hk]
      exact (counts_other (hI hm) hm hk hmt).2
    | true =>
      cases e with
      | tick main standby => exact counts_tick hI (hp ht) ht hmt
      | _ => cases hk

/-- Of a mode-aware tracker with no probe in flight, the decision is moved by ticks alone. -/
theorem decision_kept {cfg : Config} {s₀ : Sys} {es : List Event} (hs₀ : s₀.tracker.modeAware = false)
    (hprobe : Along (step cfg) (fun _ _ t => t.tracker.modeAware = true → t.probes = 0) s₀ es) :
    Along (step cfg) (fun m e t => m.tracker.modeAware = true → e.isTick = false →
      SameDecision m.tracker t.tracker) s₀ es := by
  refine hprobe.of_invariant (I := fun m => m.tracker.modeAware = true → m.probes = 0) ?_ (fun _ _ _ _ hC _ => hC) ?_
  · intro h
    rw [hs₀] at h
    cases h
  · intro m e t hm _ hstep haware hk
    have hne : ∀ o, e ≠ .probeEnded o := by
      rintro o rfl
      exact (step_probeEnded.1 hstep).1 (hm haware)
    exact (step_aware haware hk hne hstep).1

/-- **Monitor hysteresis.** Take a run in which no probe is in flight while the tracker is
mode-aware, and a further tick that leaves it mode-aware. On the main site the tick switches exactly
when the standby reports `standalone` or the tick completes `mainDownThreshold` main-down ticks in a
row; on the standby site exactly when it completes `switchBackThreshold` ticks in a row with the main
site back. Two silent sites never switch, and between ticks no step of the run, nor the next one, moves the
site or the streaks. -/
theorem monitor_hysteresis (cfg : Config) {s₀ s t : Sys} {ticks : List (Answer × Answer)} {es : List Event}
    {main standby : Answer} (hs₀ : s₀.tracker.modeAware = false)
    (hprobe : Along (step cfg) (fun _ _ t => t.tracker.modeAware = true → t.probes = 0) s₀
      (es ++ [.tick main standby]))
    (hrun : exec (history (step cfg) countedTicks) (s₀, []) es = some (s, ticks))
    (htick : step cfg s (.tick main standby) = some t) (haware : t.tracker.modeAware = true) :
    let counted := (main, standby) :: (if s.tracker.modeAware then ticks else [])
    (s.tracker.active = .main → (t.tracker.active = .standby ↔
      standby = some .standalone ∨ LastAll mainDown cfg.mainDownThreshold counted)) ∧
    (s.tracker.active = .standby → (t.tracker.active = .main ↔
      LastAll mainBack cfg.switchBackThreshold counted)) ∧
    (main = none → standby = none → t.tracker.active = s.tracker.active) ∧
    (∀ e u, e.isTick = false → step cfg t e = some u → SameDecision t.tracker u.tracker) ∧
    Along (step cfg) (fun m e m' => m.tracker.modeAware = true → e.isTick = false →
      SameDecision m.tracker m'.tracker) s₀ (es ++ [.tick main standby]) := by
  intro counted
  obtain ⟨hbefore, hlast⟩ := along_snoc.1 hprobe
  have hs : s.tracker.modeAware = true → Counts s ticks := counts_run hs₀ hbefore hrun
  have hp : t.probes = 0 := hlast s t (history_exec.2 ⟨ticks, hrun⟩) htick haware
  have hcounts := counts_tick hs hp haware htick
  obtain rfl := Option.some.inj htick
  have h : nextAware s.tracker.modeAware main standby = true :=
    (pollOnce_modeAware cfg main standby s.tracker).symm.trans haware
  have hone := cfg.one_le_mainDown
  have hone' := cfg.one_le_switchBack
  have hmain : s.tracker.active = .main → ((s.tracker.pollOnce cfg main standby).active = .standby ↔
      standby = some .standalone ∨ LastAll mainDown cfg.mainDownThreshold counted) := by
    intro hact
    rw [lastAll_iff, counted_streak, (pollOnce_main cfg hact h).1, carried_down hs hact]
    cases hd : mainDown (main, standby)
    · simp; omega
    · simp
  have hstandby : s.tracker.active = .standby → ((s.tracker.pollOnce cfg main standby).active = .main ↔
      LastAll mainBack cfg.switchBackThreshold counted) := by
    intro hact
    rw [lastAll_iff, counted_streak, (pollOnce_standby cfg hact h).1, carried_back hs hact]
    cases hb : mainBack (main, standby)
    · simp; omega
    · simp
  refine ⟨hmain, hstandby, ?_, fun e u he hu => (counts_other hcounts haware he hu).1, decision_kept hs₀ hprobe⟩
  rintro rfl rfl
  have hdown : streak mainDown counted = 0 := by simp [counted, mainDown]
  have hback : streak mainBack counted = 0 := by simp [counted, mainBack]
  cases hact : s.tracker.active with
  | main =>
    cases hn : (s.tracker.pollOnce cfg none none).active with
    | main => rfl
    | standby =>
      have := (hmain hact).1 hn
      rw [lastAll_iff, hdown] at this
      simp at this; omega
  | standby =>
    cases hn : (s.tracker.pollOnce cfg none none).active with
    | standby => rfl
    | main =>
      have := (hstandby hact).1 hn
      rw [lastAll_iff, hback] at this
      omega

/-- A main-site outage: the mode is learnt on the first tick, and two more find the main site silent. -/
def outageRun : List Event :=
  [.setProbe, .setStandbyProbe, .nextTargets true 0, .tick (some .normal) (some .secondary),
    .reportUnreachable, .tick none (some .secondary), .tick none (some .secondary)]

/-- The tracker after `outageRun`. -/
def outageSys : Sys := (exec (step (Config.init 60 2 3)) init outageRun).getD init

/-- The third silent tick completes the streak of `outageRun` and switches. -/
theorem monitor_hysteresis_outage :
    (outageSys.tracker.pollOnce (Config.init 60 2 3) none (some .secondary)).active = .standby :=
  have hrun : exec (history (step (Config.init 60 2 3)) countedTicks) (init, []) outageRun =
      some (outageSys, [(none, some .secondary), (none, some .secondary), (some .normal, some .secondary)]) := rfl
  ((monitor_hysteresis (Config.init 60 2 3) rfl (by decide) hrun rfl rfl).1 rfl).2
    (.inr ((lastAll_iff _ _ _).2 (by decide)))

end PortaPhone.Failover
