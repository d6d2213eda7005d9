import PortaPhone.Failover.Monitor
/-!
# Do replicas agree?

Two mode-aware trackers with equal thresholds, each with a history of its own, hear the same answers
on the same ticks. `replicas_agree`: answers that settle the site (`settledSite`) and last for the
larger threshold bring both to it. All other answers leave a tracker where it is: this is the
hysteresis that keeps a pod on a main site that answers `read_only`, and a pod that left the main
site off it until `normal`, so two trackers that start apart stay apart (`readOnly_keeps_apart`).
-/

namespace PortaPhone.Failover

open Machine Streak SiteState

/-- The answers of the ticks of a run, in order. -/
def ticksOf : List Event → List (Answer × Answer)
  | [] => []
  | .tick main standby :: es => (main, standby) :: ticksOf es
  | _ :: es => ticksOf es

/-- The site that steady answers settle on, if they settle on one. -/
def settledSite (tick : Answer × Answer) : Option Site :=
  if tick.2 = some .standalone ∨ mainDown tick then some .standby
  else if mainBack tick then some .main
  else none

theorem ticksOf_other {e : Event} (h : e.isTick = false) (es : List Event) : ticksOf (e :: es) = ticksOf es := by
  cases e <;> first | rfl | cases h

/-- `n` more settling ticks are enough to bring the tracker to `site`. -/
def Due (cfg : Config) (site : Site) (s : SiteState) (n : Nat) : Prop :=
  s.active = site ∨ 0 < n ∧
    match site with
    | .main => cfg.switchBackThreshold ≤ s.normalStreak + n
    | .standby => cfg.mainDownThreshold ≤ s.mainDownStreak + n

/-- A settling tick brings a mode-aware tracker one tick nearer to the site, and keeps it there. -/
theorem due_tick {cfg : Config} {site : Site} {s : SiteState} {main standby : Answer} {n : Nat}
    (haware : s.modeAware = true) (h : nextAware true main standby = true)
    (hset : settledSite (main, standby) = some site) (hdue : Due cfg site s (n + 1)) :
    Due cfg site (s.pollOnce cfg main standby) n := by
  have h' : nextAware s.modeAware main standby = true := haware ▸ h
  unfold settledSite at hset
  split at hset
  · -- settles on the standby site: `standalone` switches at once, a main-down tick is counted
    next hdown =>
    obtain rfl := Option.some.inj hset
    cases hact : s.active with
    | main =>
      obtain ⟨hsw, hcount, _⟩ := pollOnce_main cfg hact h'
      rcases hdue with hdue | ⟨_, hdue⟩
      · rw [hact] at hdue; cases hdue
      cases ht : (s.pollOnce cfg main standby).active with
      | standby => exact .inl ht
      | main =>
        have hno := mt hsw.2 (by rw [ht]; decide)
        rcases hdown with hsa | hd
        · exact (hno (.inl hsa)).elim
        · have hshort : ¬ cfg.mainDownThreshold ≤ s.mainDownStreak + 1 := fun hk =>
            hno (.inr ⟨hd, by simpa [haware] using hk⟩)
          refine .inr ⟨by simp only at hdue; omega, ?_⟩
          rw [hcount ht, haware]
          simp only [hd, ↓reduceIte] at hdue ⊢
          omega
    | standby =>
      refine .inl ?_
      cases ht : (s.pollOnce cfg main standby).active with
      | standby => rfl
      | main =>
        have hb := ((pollOnce_standby cfg hact h').1.1 ht).1
        simp only [mainBack, mainDown, Bool.and_eq_true, Bool.or_eq_true, beq_iff_eq, bne_iff_ne] at hb hdown
        simp_all
  · split at hset
    · -- settles on the main site
      next hnot hback =>
      obtain rfl := Option.some.inj hset
      cases hact : s.active with
      | main =>
        refine .inl ?_
        cases ht : (s.pollOnce cfg main standby).active with
        | main => rfl
        | standby => exact (hnot (((pollOnce_main cfg hact h').1.1 ht).imp id And.left)).elim
      | standby =>
        obtain ⟨hsw, hcount, _⟩ := pollOnce_standby cfg hact h'
        rcases hdue with hdue | ⟨_, hdue⟩
        · rw [hact] at hdue; cases hdue
        cases ht : (s.pollOnce cfg main standby).active with
        | main => exact .inl ht
        | standby =>
          have hshort : ¬ cfg.switchBackThreshold ≤ s.normalStreak + 1 := fun hk => by
            have := hsw.2 ⟨hback, by simpa [haware] using hk⟩
            rw [ht] at this; cases this
          refine .inr ⟨by simp only at hdue; omega, ?_⟩
          rw [hcount ht, haware]
          simp only [hback, ↓reduceIte] at hdue ⊢
          omega
    · cases hset

/-- Answers that settle no site leave a mode-aware tracker where it is. -/
theorem unsettled_tick {cfg : Config} {s : SiteState} {main standby : Answer} (haware : s.modeAware = true)
    (h : nextAware true main standby = true) (hset : settledSite (main, standby) = none) :
    (s.pollOnce cfg main standby).active = s.active := by
  have h' : nextAware s.modeAware main standby = true := haware ▸ h
  unfold settledSite at hset
  split at hset
  · cases hset
  · next hnot =>
    split at hset
    · cases hset
    · next hback =>
      cases hact : s.active with
      | main =>
        cases ht : (s.pollOnce cfg main standby).active with
        | main => rfl
        | standby => exact (hnot (((pollOnce_main cfg hact h').1.1 ht).imp id And.left)).elim
      | standby =>
        cases ht : (s.pollOnce cfg main standby).active with
        | main => exact (hback ((pollOnce_standby cfg hact h').1.1 ht).1).elim
        | standby => rfl

/-! ## Runs with steady answers -/

section
variable {cfg : Config} {main standby : Answer} {P : SiteState → Nat → Prop}

/-- **Run rule for steady answers.** In a mode-aware tracker with no probe in flight, only the ticks
of a run matter: what each of them takes from `n + 1` to `n`, and the decision carries, holds at the
end of `n` of them, whatever the request layer does in between. -/
theorem steady_run (h : nextAware true main standby = true)
    (htick : ∀ s n, s.modeAware = true → P s (n + 1) → P (s.pollOnce cfg main standby) n)
    (hsame : ∀ s t n, SameDecision s t → P s n → P t n) :
    ∀ {es : List Event} {s t : Sys} {n : Nat}, s.tracker.modeAware = true → s.probes = 0 →
      ticksOf es = List.replicate n (main, standby) → exec (step cfg) s es = some t →
      P s.tracker n → P t.tracker 0
  | [], s, t, n, _, _, hticks, hrun, hP => by
    obtain rfl := Option.some.inj hrun
    obtain rfl : n = 0 := by simpa [ticksOf] using congrArg List.length hticks.symm
    exact hP
  | e :: es, s, t, n, ha, hp, hticks, hrun, hP => by
    obtain ⟨m, hm, hes⟩ := exec_cons.1 hrun
    cases hk : e.isTick with
    | false =>
      rw [ticksOf_other hk] at hticks
      have hne : ∀ o, e ≠ .probeEnded o := by
        rintro o rfl
        exact (step_probeEnded.1 hm).1 hp
      obtain ⟨hd, hpm⟩ := step_aware ha hk hne hm
      exact steady_run h htick hsame (hd.modeAware.trans ha) (hpm.trans hp) hticks hes (hsame _ _ _ hd hP)
    | true =>
      cases e with
      | tick a b =>
        cases n with
        | zero => simp [ticksOf] at hticks
        | succ n =>
          simp only [ticksOf, List.replicate_succ, List.cons.injEq, Prod.mk.injEq] at hticks
          obtain ⟨⟨hmain, hstandby⟩, hrest⟩ := hticks
          rw [hmain, hstandby] at hm
          obtain rfl := Option.some.inj hm
          have haware : (s.tracker.pollOnce cfg main standby).modeAware = true := by
            rw [pollOnce_modeAware, ha]
            exact h
          exact steady_run (s := { s with tracker := s.tracker.pollOnce cfg main standby }) h htick hsame
            haware hp hrest hes (htick _ _ ha hP)
      | _ => cases hk

end

theorem steady_settles {cfg : Config} {main standby : Answer} {site : Site} {es : List Event} {s t : Sys} {n : Nat}
    (h : nextAware true main standby = true) (hset : settledSite (main, standby) = some site)
    (ha : s.tracker.modeAware = true) (hp : s.probes = 0)
    (hticks : ticksOf es = List.replicate n (main, standby)) (hrun : exec (step cfg) s es = some t)
    (hn : max cfg.mainDownThreshold cfg.switchBackThreshold ≤ n) : t.tracker.active = site := by
  have hone := cfg.one_le_mainDown
  have hdue : Due cfg site s.tracker n := by
    refine .inr ⟨by omega, ?_⟩
    cases site <;> simp only <;> omega
  have hend := steady_run (P := Due cfg site) h (fun _ _ ha hd => due_tick ha h hset hd)
    (fun a b k hab hd => by
      unfold Due at hd ⊢
      rw [hab.active, hab.normalStreak, hab.mainDownStreak]
      exact hd) ha hp hticks hrun hdue
  exact hend.resolve_right fun h0 => absurd h0.1 (Nat.lt_irrefl 0)

theorem steady_keeps {cfg : Config} {main standby : Answer} {es : List Event} {s t : Sys} {n : Nat}
    (h : nextAware true main standby = true) (hset : settledSite (main, standby) = none)
    (ha : s.tracker.modeAware = true) (hp : s.probes = 0)
    (hticks : ticksOf es = List.replicate n (main, standby)) (hrun : exec (step cfg) s es = some t) :
    t.tracker.active = s.tracker.active :=
  steady_run (P := fun x _ => x.active = s.tracker.active) h
    (fun _ _ ha hx => (unsettled_tick ha h hset).trans hx) (fun _ _ _ hab hx => hab.active.trans hx)
    ha hp hticks hrun rfl

/-- **Replica agreement.** Two mode-aware trackers with equal thresholds and no probe in flight hear
the same `n` ticks, between any requests of their own; the main site answers, some site reports a
known mode, and `n` is at least both thresholds. If the answers settle the site, both end on it; if
they do not, each ends where it was. -/
theorem replicas_agree {cfg₁ cfg₂ : Config} {s₁ s₂ t₁ t₂ : Sys} {es₁ es₂ : List Event} {mode : OperatingMode}
    {standby : Answer} {n : Nat} (hdown : cfg₁.mainDownThreshold = cfg₂.mainDownThreshold)
    (hback : cfg₁.switchBackThreshold = cfg₂.switchBackThreshold)
    (ha₁ : s₁.tracker.modeAware = true) (ha₂ : s₂.tracker.modeAware = true) (hp₁ : s₁.probes = 0) (hp₂ : s₂.probes = 0)
    (hknown : mode.known = true ∨ standby.any OperatingMode.known = true)
    (hn : max cfg₁.mainDownThreshold cfg₁.switchBackThreshold ≤ n)
    (hticks₁ : ticksOf es₁ = List.replicate n (some mode, standby))
    (hticks₂ : ticksOf es₂ = List.replicate n (some mode, standby))
    (hrun₁ : exec (step cfg₁) s₁ es₁ = some t₁) (hrun₂ : exec (step cfg₂) s₂ es₂ = some t₂) :
    ((settledSite (some mode, standby)).isSome = true → t₁.tracker.active = t₂.tracker.active) ∧
    (settledSite (some mode, standby) = none →
      t₁.tracker.active = s₁.tracker.active ∧ t₂.tracker.active = s₂.tracker.active) := by
  have h : nextAware true (some mode) standby = true := by simpa [nextAware] using hknown
  constructor
  · intro hset
    obtain ⟨site, hsite⟩ := Option.isSome_iff_exists.1 hset
    rw [steady_settles h hsite ha₁ hp₁ hticks₁ hrun₁ hn,
      steady_settles h hsite ha₂ hp₂ hticks₂ hrun₂ (by rw [← hdown, ← hback]; exact hn)]
  · intro hset
    exact ⟨steady_keeps h hset ha₁ hp₁ hticks₁ hrun₁, steady_keeps h hset ha₂ hp₂ hticks₂ hrun₂⟩

/-! ## Two pods -/

/-- A pod that was up through the outage of the main site, and a pod that was started after it. -/
def oldPod : List Event := [.setProbe, .setStandbyProbe, .reportUnreachable, .tick (some .readOnly) (some .secondary)]
def newPod : List Event := [.setProbe, .setStandbyProbe, .tick (some .readOnly) (some .secondary)]

def podSys (history : List Event) : Sys := (exec (step (Config.init 60 2 3)) init history).getD init

/-- Once the main site is `normal` the two pods are on it. -/
theorem pods_agree_on_normal :
    let ticks := List.replicate 3 (Event.tick (some .normal) (some .secondary))
    ((exec (step (Config.init 60 2 3)) (podSys oldPod) ticks).getD init).tracker.active =
      ((exec (step (Config.init 60 2 3)) (podSys newPod) ticks).getD init).tracker.active := by
  intro ticks
  have hticks : ticksOf ticks = List.replicate 3 (some .normal, some .secondary) := rfl
  have hold : exec (step (Config.init 60 2 3)) (podSys oldPod) ticks = some _ := rfl
  have hnew : exec (step (Config.init 60 2 3)) (podSys newPod) ticks = some _ := rfl
  exact (replicas_agree (by rfl) (by rfl) (by rfl) (by rfl) (by rfl) (by rfl) (.inl rfl) (by decide) hticks hticks
    hold hnew).1 rfl

/-- While the main site stays `read_only` they are not: steady answers with a known mode do not make
any two reachable trackers agree. -/
theorem readOnly_keeps_apart :
    ¬ ∀ (cfg₁ cfg₂ : Config) (h₁ h₂ : List Event) (s₁ s₂ t₁ t₂ : Sys) (mode : OperatingMode)
      (standby : Answer) (n : Nat),
      cfg₁.mainDownThreshold = cfg₂.mainDownThreshold → cfg₁.switchBackThreshold = cfg₂.switchBackThreshold →
      exec (step cfg₁) init h₁ = some s₁ → exec (step cfg₂) init h₂ = some s₂ →
      s₁.tracker.modeAware = true → s₂.tracker.modeAware = true → s₁.probes = 0 → s₂.probes = 0 →
      (mode.known = true ∨ standby.any OperatingMode.known = true) →
      max cfg₁.mainDownThreshold cfg₁.switchBackThreshold ≤ n →
      exec (step cfg₁) s₁ (List.replicate n (.tick (some mode) standby)) = some t₁ →
      exec (step cfg₂) s₂ (List.replicate n (.tick (some mode) standby)) = some t₂ →
      t₁.tracker.active = t₂.tracker.active := by
  intro h
  have hagree := h (Config.init 60 2 3) (Config.init 60 2 3) oldPod newPod _ _ _ _ .readOnly (some .secondary) 3
    rfl rfl rfl rfl rfl rfl rfl rfl (.inl rfl) (by decide) rfl rfl
  exact absurd hagree (by decide)

end PortaPhone.Failover
