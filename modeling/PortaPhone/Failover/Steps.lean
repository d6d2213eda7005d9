import PortaPhone.Failover.SiteState
/-!
# What one step does to the decision

The decision of a tracker is its active site, the two streaks and the mode. One lemma per
operation says what becomes of it; the run theorems of the other modules use these and unfold no
operation themselves.

* `step_modeAware` — only a tick changes the mode.
* `step_aware` — in mode-aware mode every step but a tick and the end of a probe keeps the decision.
* `runProbe_normal`, `runProbe_other` — the end of a probe, in any mode.
* `pollOnce_modeAware`, `pollOnce_main`, `pollOnce_standby` — a tick.
-/

namespace PortaPhone.Failover

namespace SiteState

/-- Everything the monitor decides from is the same in `t` as in `s`. -/
structure SameDecision (s t : SiteState) : Prop where
  active : t.active = s.active
  normalStreak : t.normalStreak = s.normalStreak
  mainDownStreak : t.mainDownStreak = s.mainDownStreak
  modeAware : t.modeAware = s.modeAware

theorem SameDecision.refl (s : SiteState) : SameDecision s s := ⟨rfl, rfl, rfl, rfl⟩

/-! ## The request layer -/

theorem ensureMonitor_same (loop : Bool) (s : SiteState) : SameDecision s (s.ensureMonitor loop) := by
  unfold ensureMonitor
  split
  · exact .refl s
  · exact ⟨rfl, rfl, rfl, rfl⟩

theorem ensureMonitor_active (loop : Bool) (s : SiteState) : (s.ensureMonitor loop).active = s.active :=
  (ensureMonitor_same loop s).active

@[simp] theorem ensureMonitor_modeAware (loop : Bool) (s : SiteState) :
    (s.ensureMonitor loop).modeAware = s.modeAware := (ensureMonitor_same loop s).modeAware

theorem nextTargets_aware {α : Type} (cfg : Config) (loop : Bool) (now : Int) (m b : α) {s : SiteState}
    (h : s.modeAware = true) :
    s.nextTargets cfg loop now m b = ([if s.active = .main then m else b], s.ensureMonitor loop, false) := by
  simp [nextTargets, h, ensureMonitor_active]

theorem reportUnreachable_aware {s : SiteState} (h : s.modeAware = true) : s.reportUnreachable = s := by
  simp [reportUnreachable, h]

theorem reportSlow_aware (loop : Bool) {s : SiteState} (h : s.modeAware = true) :
    s.reportSlow loop = (s, .ignored) := by
  simp [reportSlow, h]

theorem confirmOutage_aware (o : Outcome) {s : SiteState} (h : s.modeAware = true) :
    s.confirmOutage o = { s with confirmInFlight := false } := by
  simp [confirmOutage, reportUnreachable_aware h]

/-! ### The mode is the monitor's -/

theorem maybeScheduleProbe_modeAware (cfg : Config) (loop : Bool) (now : Int) (s : SiteState) :
    (s.maybeScheduleProbe cfg loop now).1.modeAware = s.modeAware := by
  unfold maybeScheduleProbe
  split
  · rfl
  · split <;> rfl

theorem nextTargets_modeAware {α : Type} (cfg : Config) (loop : Bool) (now : Int) (m b : α) (s : SiteState) :
    (s.nextTargets cfg loop now m b).2.1.modeAware = s.modeAware := by
  simp only [nextTargets]
  split
  · exact ensureMonitor_modeAware loop s
  · split
    · exact ensureMonitor_modeAware loop s
    · rw [maybeScheduleProbe_modeAware, ensureMonitor_modeAware]

@[simp] theorem reportUnreachable_modeAware (s : SiteState) : s.reportUnreachable.modeAware = s.modeAware := by
  unfold reportUnreachable
  split <;> rfl

theorem reportSlow_modeAware (loop : Bool) (s : SiteState) : (s.reportSlow loop).1.modeAware = s.modeAware := by
  unfold reportSlow
  split
  · rfl
  · split
    · rfl
    · split
      · exact reportUnreachable_modeAware s
      · rfl

theorem confirmOutage_modeAware (o : Outcome) (s : SiteState) : (s.confirmOutage o).modeAware = s.modeAware := by
  simp only [confirmOutage]
  split
  · exact reportUnreachable_modeAware s
  · rfl

theorem runProbe_modeAware (cfg : Config) (o : Outcome) (s : SiteState) :
    (s.runProbe cfg o).modeAware = s.modeAware := by
  simp only [runProbe]
  split
  · split <;> rfl
  · rfl

/-! ## The end of a probe -/

/-- A probe that answered `normal` counts, and switches back at the threshold, in either mode. -/
theorem runProbe_normal (cfg : Config) (s : SiteState) :
    (s.runProbe cfg (.answered (some .normal))).active =
        (if cfg.switchBackThreshold ≤ s.normalStreak + 1 then .main else s.active) ∧
      (s.runProbe cfg (.answered (some .normal))).normalStreak =
        (if cfg.switchBackThreshold ≤ s.normalStreak + 1 then 0 else s.normalStreak + 1) := by
  by_cases h : cfg.switchBackThreshold ≤ s.normalStreak + 1 <;> simp [runProbe, h]

/-- Any other end of a probe resets the streak and keeps the site. -/
theorem runProbe_other (cfg : Config) (s : SiteState) {o : Outcome} (h : o ≠ .answered (some .normal)) :
    (s.runProbe cfg o).active = s.active ∧ (s.runProbe cfg o).normalStreak = 0 := by
  unfold runProbe
  split
  · exact absurd rfl h
  · exact ⟨rfl, rfl⟩

/-! ## A tick -/

/-- A tick on which the secondary site answered and the main one is down or `secondary`. -/
def mainDown (tick : Answer × Answer) : Bool :=
  tick.2 != none && (tick.1 == none || tick.1 == some .secondary)

/-- A tick on which the main site is `normal` and the secondary one is not `standalone`. -/
def mainBack (tick : Answer × Answer) : Bool :=
  tick.1 == some .normal && tick.2 != some .standalone

/-- The mode after a tick: two silent sites say nothing about it. -/
def nextAware (aware : Bool) (main standby : Answer) : Bool :=
  if main = none ∧ standby = none then aware
  else main.any OperatingMode.known || standby.any OperatingMode.known

theorem noteModes_eq (main standby : Answer) (s : SiteState) :
    s.noteModes main standby =
      if nextAware s.modeAware main standby = s.modeAware then { s with lastModes := (main, standby) }
      else { s with lastModes := (main, standby), modeAware := nextAware s.modeAware main standby,
                    mainDownStreak := 0, normalStreak := 0 } := by
  cases main <;> cases standby <;> simp [noteModes, nextAware]

theorem noteModes_modeAware (main standby : Answer) (s : SiteState) :
    (s.noteModes main standby).modeAware = nextAware s.modeAware main standby := by
  rw [noteModes_eq]
  split
  · next h => exact h.symm
  · rfl

theorem noteModes_active (main standby : Answer) (s : SiteState) :
    (s.noteModes main standby).active = s.active := by
  rw [noteModes_eq]
  split <;> rfl

/-- The tick at which the tracker becomes mode-aware counts from zero. -/
theorem noteModes_streaks {main standby : Answer} {s : SiteState} (h : nextAware s.modeAware main standby = true) :
    (s.noteModes main standby).mainDownStreak = (if s.modeAware then s.mainDownStreak else 0) ∧
      (s.noteModes main standby).normalStreak = (if s.modeAware then s.normalStreak else 0) := by
  rw [noteModes_eq, h]
  cases hs : s.modeAware <;> simp

theorem decideSite_modeAware (cfg : Config) (main standby : Answer) (s : SiteState) :
    (s.decideSite cfg main standby).modeAware = s.modeAware := by
  cases hs : s.active with
  | main =>
    simp only [decideSite, hs]
    split
    · rfl
    · split
      · split <;> rfl
      · rfl
  | standby =>
    simp only [decideSite, hs]
    split
    · split <;> rfl
    · rfl

theorem pollOnce_modeAware (cfg : Config) (main standby : Answer) (s : SiteState) :
    (s.pollOnce cfg main standby).modeAware = nextAware s.modeAware main standby := by
  simp only [pollOnce]
  rw [← noteModes_modeAware]
  split
  · exact decideSite_modeAware cfg main standby _
  · rfl

/-- The decision on the main site: `standalone` switches at once, a long enough main-down streak too. -/
theorem decideSite_main (cfg : Config) (main standby : Answer) {s : SiteState} (hs : s.active = .main) :
    let t := s.decideSite cfg main standby
    (t.active = .standby ↔ standby = some .standalone ∨
      (mainDown (main, standby) = true ∧ cfg.mainDownThreshold ≤ s.mainDownStreak + 1)) ∧
    (t.active = .main → t.mainDownStreak = if mainDown (main, standby) then s.mainDownStreak + 1 else 0) ∧
    (t.active = .standby → t.normalStreak = 0) := by
  have hdown : mainDown (main, standby) = true ↔ standby ≠ none ∧ (main = none ∨ main = some .secondary) := by
    simp [mainDown]
  simp only [decideSite, hs, ge_iff_le]
  by_cases hsa : standby = some .standalone
  · simp [hsa, switch]
  · by_cases hd : standby ≠ none ∧ (main = none ∨ main = some .secondary)
    · by_cases hk : cfg.mainDownThreshold ≤ s.mainDownStreak + 1
      · simp only [if_neg hsa, if_pos hd, if_pos hk, hdown]
        exact ⟨⟨fun _ => .inr ⟨hd, hk⟩, fun _ => rfl⟩, fun h => by simp [switch] at h, fun _ => rfl⟩
      · simp only [if_neg hsa, if_pos hd, if_neg hk, hdown]
        simp [hsa, hk]
    · have hnd : ¬ mainDown (main, standby) = true := fun h => hd (hdown.1 h)
      simp only [if_neg hsa, if_neg hd]
      simp [hsa, hnd]

/-- The decision on the standby site: only a long enough run of ticks with the main site back switches. -/
theorem decideSite_standby (cfg : Config) (main standby : Answer) {s : SiteState} (hs : s.active = .standby) :
    let t := s.decideSite cfg main standby
    (t.active = .main ↔ mainBack (main, standby) = true ∧ cfg.switchBackThreshold ≤ s.normalStreak + 1) ∧
    (t.active = .standby → t.normalStreak = if mainBack (main, standby) then s.normalStreak + 1 else 0) ∧
    (t.active = .main → t.mainDownStreak = 0) := by
  have hback : mainBack (main, standby) = true ↔ main = some .normal ∧ standby ≠ some .standalone := by
    simp [mainBack]
  simp only [decideSite, hs, ge_iff_le]
  by_cases hb : main = some .normal ∧ standby ≠ some .standalone
  · by_cases hk : cfg.switchBackThreshold ≤ s.normalStreak + 1
    · simp only [if_pos hb, if_pos hk, hback]
      exact ⟨⟨fun _ => ⟨hb, hk⟩, fun _ => rfl⟩, fun h => by simp [switch] at h, fun _ => rfl⟩
    · simp only [if_pos hb, if_neg hk, hback]
      simp [hb, hk]
  · have hnb : ¬ mainBack (main, standby) = true := fun h => hb (hback.1 h)
    simp only [if_neg hb]
    simp [hnb]

theorem pollOnce_aware (cfg : Config) {main standby : Answer} {s : SiteState}
    (h : nextAware s.modeAware main standby = true) :
    s.pollOnce cfg main standby = (s.noteModes main standby).decideSite cfg main standby := by
  simp [pollOnce, noteModes_modeAware, h]

/-- **A mode-aware tick on the main site.** -/
theorem pollOnce_main (cfg : Config) {main standby : Answer} {s : SiteState} (hs : s.active = .main)
    (h : nextAware s.modeAware main standby = true) :
    let t := s.pollOnce cfg main standby
    let down := if s.modeAware then s.mainDownStreak else 0
    (t.active = .standby ↔ standby = some .standalone ∨
      (mainDown (main, standby) = true ∧ cfg.mainDownThreshold ≤ down + 1)) ∧
    (t.active = .main → t.mainDownStreak = if mainDown (main, standby) then down + 1 else 0) ∧
    (t.active = .standby → t.normalStreak = 0) := by
  have hn : (s.noteModes main standby).active = .main := by rw [noteModes_active, hs]
  have := decideSite_main cfg main standby hn
  rwa [(noteModes_streaks h).1, ← pollOnce_aware cfg h] at this

/-- **A mode-aware tick on the standby site.** -/
theorem pollOnce_standby (cfg : Config) {main standby : Answer} {s : SiteState} (hs : s.active = .standby)
    (h : nextAware s.modeAware main standby = true) :
    let t := s.pollOnce cfg main standby
    let back := if s.modeAware then s.normalStreak else 0
    (t.active = .main ↔ mainBack (main, standby) = true ∧ cfg.switchBackThreshold ≤ back + 1) ∧
    (t.active = .standby → t.normalStreak = if mainBack (main, standby) then back + 1 else 0) ∧
    (t.active = .main → t.mainDownStreak = 0) := by
  have hn : (s.noteModes main standby).active = .standby := by rw [noteModes_active, hs]
  have := decideSite_standby cfg main standby hn
  rwa [(noteModes_streaks h).2, ← pollOnce_aware cfg h] at this

end SiteState

/-! ## Steps of the system -/

theorem step_probeEnded {cfg : Config} {s t : Sys} {o : Outcome} :
    step cfg s (.probeEnded o) = some t ↔ s.probes ≠ 0 ∧
      t = { s with tracker := s.tracker.runProbe cfg o, probes := s.probes - 1,
                   calls := .probeEnded o :: s.calls } := by
  simp only [step]
  split
  · next h => simp [h]
  · next h => simp only [Option.some.injEq]; exact ⟨fun ht => ⟨h, ht.symm⟩, fun ht => ht.2.symm⟩

open SiteState in
/-- No step but a tick changes the mode. -/
theorem step_modeAware {cfg : Config} {s t : Sys} {e : Event} (htick : e.isTick = false)
    (h : step cfg s e = some t) : t.tracker.modeAware = s.tracker.modeAware := by
  cases e with
  | setProbe | setStandbyProbe =>
    obtain rfl := Option.some.inj h
    rfl
  | nextTargets loop now =>
    simp only [step] at h
    split at h <;> (obtain rfl := Option.some.inj h; exact nextTargets_modeAware cfg loop now () () s.tracker)
  | reportUnreachable =>
    obtain rfl := Option.some.inj h
    exact reportUnreachable_modeAware s.tracker
  | reportSlow loop =>
    simp only [step] at h
    split at h <;> (obtain rfl := Option.some.inj h; exact reportSlow_modeAware loop s.tracker)
  | confirmEnded o =>
    simp only [step] at h
    split at h
    · cases h
    · obtain rfl := Option.some.inj h
      exact confirmOutage_modeAware o s.tracker
  | probeEnded o =>
    obtain ⟨_, rfl⟩ := step_probeEnded.1 h
    exact runProbe_modeAware cfg o s.tracker
  | tick main standby => cases htick

open SiteState in
/-- **In mode-aware mode** a request, a report or the end of a confirm check keeps the decision, and
starts no probe. -/
theorem step_aware {cfg : Config} {s t : Sys} {e : Event} (haware : s.tracker.modeAware = true)
    (htick : e.isTick = false) (hprobe : ∀ o, e ≠ .probeEnded o) (h : step cfg s e = some t) :
    SameDecision s.tracker t.tracker ∧ t.probes = s.probes := by
  cases e with
  | setProbe | setStandbyProbe =>
    obtain rfl := Option.some.inj h
    exact ⟨⟨rfl, rfl, rfl, rfl⟩, rfl⟩
  | nextTargets loop now =>
    simp only [step, nextTargets_aware cfg loop now () () haware, Bool.false_eq_true, ↓reduceIte,
      Option.some.injEq] at h
    subst h
    exact ⟨ensureMonitor_same loop s.tracker, rfl⟩
  | reportUnreachable =>
    simp only [step, reportUnreachable_aware haware, Option.some.injEq] at h
    subst h
    exact ⟨.refl _, rfl⟩
  | reportSlow loop =>
    simp only [step, reportSlow_aware loop haware, Option.some.injEq] at h
    subst h
    exact ⟨.refl _, rfl⟩
  | confirmEnded o =>
    simp only [step] at h
    split at h
    · cases h
    · simp only [confirmOutage_aware o haware, Option.some.injEq] at h
      subst h
      exact ⟨⟨rfl, rfl, rfl, rfl⟩, rfl⟩
  | probeEnded o => exact absurd rfl (hprobe o)
  | tick main standby => cases htick

end PortaPhone.Failover
