/-!
# Event machines and their runs

A machine is a partial step function `σ → ε → Option σ`: `none` says that the event is not
enabled in the state. A run is a list of events; what holds of every step of a run is said with
`Along`, and a run is extended at its end (`exec_snoc`, `along_snoc`), so that an invariant is
proved by one step and one of the two run rules (`along_invariant`, `exec_induction`).

A machine whose steps are runs of another one simulates it (`exec_simulates`). `history` adds a history variable: a
value that is computed from the steps and that no step reads.
-/

namespace Machine

universe u v w u' v'
variable {σ : Type u} {ε : Type v} {γ : Type w}

/-- The state a run ends in; `none` when one of its events was not enabled. -/
def exec (step : σ → ε → Option σ) : σ → List ε → Option σ
  | s, [] => some s
  | s, e :: es => (step s e).bind fun s' => exec step s' es

/-- `C` holds of every step of the run `es` from `s`. -/
def Along (step : σ → ε → Option σ) (C : σ → ε → σ → Prop) : σ → List ε → Prop
  | _, [] => True
  | s, e :: es => ∀ s', step s e = some s' → C s e s' ∧ Along step C s' es

/-- The machine with a history variable, updated by `upd` from the step taken. -/
def history (step : σ → ε → Option σ) (upd : σ → ε → σ → γ → γ) (p : σ × γ) (e : ε) : Option (σ × γ) :=
  (step p.1 e).map fun s' => (s', upd p.1 e s' p.2)

variable {step : σ → ε → Option σ} {C D : σ → ε → σ → Prop}

@[simp] theorem exec_nil (s : σ) : exec step s [] = some s := rfl

theorem exec_cons {s t : σ} {e : ε} {es : List ε} :
    exec step s (e :: es) = some t ↔ ∃ s', step s e = some s' ∧ exec step s' es = some t := by
  simp [exec, Option.bind_eq_some_iff]

theorem exec_append {s t : σ} {es fs : List ε} :
    exec step s (es ++ fs) = some t ↔ ∃ m, exec step s es = some m ∧ exec step m fs = some t := by
  induction es generalizing s with
  | nil => simp
  | cons e es ih =>
    simp only [List.cons_append, exec_cons, ih]
    constructor
    · rintro ⟨s', hs, m, hm, ht⟩; exact ⟨m, ⟨s', hs, hm⟩, ht⟩
    · rintro ⟨m, ⟨s', hs, hm⟩, ht⟩; exact ⟨s', hs, m, hm, ht⟩

theorem exec_snoc {s t : σ} {es : List ε} {e : ε} :
    exec step s (es ++ [e]) = some t ↔ ∃ m, exec step s es = some m ∧ step m e = some t := by
  rw [exec_append]
  simp [exec_cons]

@[simp] theorem along_nil (s : σ) : Along step C s [] := trivial

theorem along_cons {s s' : σ} {e : ε} {es : List ε} (h : step s e = some s') :
    Along step C s (e :: es) ↔ C s e s' ∧ Along step C s' es := by
  simp [Along, h]

theorem Along.cons {s s' : σ} {e : ε} {es : List ε} (h : step s e = some s') (hC : C s e s')
    (hes : Along step C s' es) : Along step C s (e :: es) := (along_cons h).2 ⟨hC, hes⟩

/-- A run that is cut in two. -/
theorem along_append {s : σ} {es fs : List ε} :
    Along step C s (es ++ fs) ↔ Along step C s es ∧ ∀ m, exec step s es = some m → Along step C m fs := by
  induction es generalizing s with
  | nil => simp
  | cons e es ih =>
    simp only [List.cons_append, Along, ih, exec_cons]
    constructor
    · intro h
      refine ⟨fun s' hs => ⟨(h s' hs).1, (h s' hs).2.1⟩, ?_⟩
      rintro m ⟨s', hs, hm⟩
      exact (h s' hs).2.2 m hm
    · rintro ⟨h1, h2⟩ s' hs
      exact ⟨(h1 s' hs).1, (h1 s' hs).2, fun m hm => h2 m ⟨s', hs, hm⟩⟩

theorem along_snoc {s : σ} {es : List ε} {e : ε} :
    Along step C s (es ++ [e]) ↔
      Along step C s es ∧ ∀ m t, exec step s es = some m → step m e = some t → C m e t := by
  rw [along_append]
  apply and_congr_right
  intro _
  simp only [Along, and_true]
  exact ⟨fun h m t hm => h m hm t, fun h m hm t => h m t hm⟩

/-- A condition that follows, at the steps of the run, from another one. -/
theorem Along.imp {s : σ} {es : List ε} (h : Along step C s es)
    (himp : ∀ m e t, step m e = some t → C m e t → D m e t) : Along step D s es := by
  induction es generalizing s with
  | nil => trivial
  | cons e es ih => exact fun s' hs => ⟨himp _ _ _ hs (h s' hs).1, ih (h s' hs).2⟩

theorem Along.and {s : σ} {es : List ε} (h : Along step C s es) (h' : Along step D s es) :
    Along step (fun m e t => C m e t ∧ D m e t) s es := by
  induction es generalizing s with
  | nil => trivial
  | cons e es ih => exact fun s' hs => ⟨⟨(h s' hs).1, (h' s' hs).1⟩, ih (h s' hs).2 (h' s' hs).2⟩

/-- A condition on the events alone. -/
theorem along_of_forall {D : ε → Prop} {s : σ} {es : List ε} (h : ∀ e ∈ es, D e) :
    Along step (fun _ e _ => D e) s es := by
  induction es generalizing s with
  | nil => trivial
  | cons e es ih =>
    exact fun _ _ => ⟨h e List.mem_cons_self, ih fun f hf => h f (List.mem_cons_of_mem e hf)⟩

/-- A condition that every step meets from a state of an invariant. -/
theorem along_of_invariant {I : σ → Prop} {s : σ} {es : List ε} (hs : I s)
    (hstep : ∀ m e m', I m → step m e = some m' → I m')
    (h : ∀ m e m', I m → step m e = some m' → C m e m') : Along step C s es := by
  induction es generalizing s with
  | nil => trivial
  | cons e es ih => exact fun s' he => ⟨h s e s' hs he, ih (hstep s e s' hs he)⟩

/-- **Run rule.** What holds at the start and is preserved by the steps that meet `C` holds at the
end of a run whose steps all meet `C`. -/
theorem along_invariant {I : σ → Prop} {s t : σ} {es : List ε} (hs : I s) (hC : Along step C s es)
    (hstep : ∀ m e m', I m → C m e m' → step m e = some m' → I m') (ht : exec step s es = some t) : I t := by
  induction es generalizing s with
  | nil => simpa using (Option.some.inj ht) ▸ hs
  | cons e es ih =>
    obtain ⟨s', he, hes⟩ := exec_cons.1 ht
    exact ih (hstep s e s' hs (hC s' he).1 he) (hC s' he).2 hes

/-- What every step does that is taken in the invariant and under the condition. -/
theorem Along.of_invariant {I : σ → Prop} {s : σ} {es : List ε} (hC : Along step C s es) (hs : I s)
    (hstep : ∀ m e m', I m → C m e m' → step m e = some m' → I m')
    (h : ∀ m e m', I m → C m e m' → step m e = some m' → D m e m') : Along step D s es := by
  induction es generalizing s with
  | nil => trivial
  | cons e es ih =>
    intro s' he
    obtain ⟨hCe, hCes⟩ := hC s' he
    exact ⟨h s e s' hs hCe he, ih hCes (hstep s e s' hs hCe he)⟩

/-- The run rule for a property of the run and of the state it ends in. -/
theorem exec_induction {P : List ε → σ → Prop} {s t : σ} {es : List ε} (hnil : P [] s)
    (hsnoc : ∀ fs m e m', exec step s fs = some m → P fs m → step m e = some m' → P (fs ++ [e]) m')
    (ht : exec step s es = some t) : P es t := by
  have main : ∀ fs gs m, exec step s fs = some m → P fs m → exec step m gs = some t → P (fs ++ gs) t := by
    intro fs gs
    induction gs generalizing fs with
    | nil =>
      intro m _ hP hm
      obtain rfl := Option.some.inj hm
      rwa [List.append_nil]
    | cons e gs ih =>
      intro m hm hP hrun
      obtain ⟨m', he, hgs⟩ := exec_cons.1 hrun
      have hnext := ih (fs ++ [e]) m' (exec_snoc.2 ⟨m, hm, he⟩) (hsnoc fs m e m' hm hP he) hgs
      rwa [List.append_assoc] at hnext
  exact main [] es s rfl hnil ht

/-- Two conditions that agree at every step from a state of the invariant agree along every run. -/
theorem along_congr_invariant {I : σ → Prop} {s : σ} {es : List ε} (hs : I s)
    (hstep : ∀ m e m', I m → step m e = some m' → I m')
    (h : ∀ m e m', I m → step m e = some m' → (C m e m' ↔ D m e m')) : Along step C s es ↔ Along step D s es := by
  induction es generalizing s with
  | nil => exact Iff.rfl
  | cons e es ih =>
    exact forall_congr' fun s' => imp_congr_right fun he => and_congr (h s e s' hs he) (ih (hstep s e s' hs he))

/-- Two conditions that agree at every step. -/
theorem along_congr {s : σ} {es : List ε} (h : ∀ m e t, step m e = some t → (C m e t ↔ D m e t)) :
    Along step C s es ↔ Along step D s es :=
  along_congr_invariant (I := fun _ => True) trivial (fun _ _ _ _ _ => trivial) fun m e t _ => h m e t

/-- Along a run a decidable condition can be computed. -/
instance Along.decidable [∀ s e t, Decidable (C s e t)] :
    ∀ (s : σ) (es : List ε), Decidable (Along step C s es)
  | _, [] => isTrue trivial
  | s, e :: es =>
    match h : step s e with
    | none => isTrue fun s' hs => by rw [h] at hs; cases hs
    | some s' =>
      have := Along.decidable s' es
      decidable_of_iff (C s e s' ∧ Along step C s' es) (along_cons h).symm

/-! ## Simulation -/

/-- A machine whose steps are runs of another one: its runs are runs of that, and each event there comes from one
here. -/
theorem exec_simulates {σ' : Type u'} {ε' : Type v'} {step' : σ' → ε' → Option σ'} {abs : σ → σ'} {Q : ε → ε' → Prop}
    (h : ∀ m e m', step m e = some m' → ∃ fs, exec step' (abs m) fs = some (abs m') ∧ ∀ f ∈ fs, Q e f)
    {s t : σ} {es : List ε} (hrun : exec step s es = some t) :
    ∃ fs, exec step' (abs s) fs = some (abs t) ∧ ∀ f ∈ fs, ∃ e ∈ es, Q e f := by
  induction es generalizing s with
  | nil =>
    obtain rfl := Option.some.inj hrun
    exact ⟨[], rfl, by simp⟩
  | cons e es ih =>
    obtain ⟨m, hstep, hrest⟩ := exec_cons.1 hrun
    obtain ⟨fs, hfs, hfrom⟩ := h s e m hstep
    obtain ⟨gs, hgs, hgrom⟩ := ih hrest
    refine ⟨fs ++ gs, exec_append.2 ⟨_, hfs, hgs⟩, fun f hf => ?_⟩
    rcases List.mem_append.1 hf with hf | hf
    · exact ⟨e, List.mem_cons_self, hfrom f hf⟩
    · obtain ⟨e', he', hq⟩ := hgrom f hf
      exact ⟨e', List.mem_cons_of_mem e he', hq⟩

/-! ## History variables -/

variable {upd : σ → ε → σ → γ → γ}

theorem history_step {p q : σ × γ} {e : ε} :
    history step upd p e = some q ↔ step p.1 e = some q.1 ∧ q.2 = upd p.1 e q.1 p.2 := by
  obtain ⟨s', g'⟩ := q
  simp only [history, Option.map_eq_some_iff, Prod.mk.injEq]
  constructor
  · rintro ⟨m, hm, rfl, rfl⟩; exact ⟨hm, rfl⟩
  · rintro ⟨hm, rfl⟩; exact ⟨s', hm, rfl, rfl⟩

/-- A history variable changes no run of the machine. -/
theorem history_exec {p : σ × γ} {es : List ε} {t : σ} :
    exec step p.1 es = some t ↔ ∃ g, exec (history step upd) p es = some (t, g) := by
  induction es generalizing p with
  | nil => obtain ⟨s, g⟩ := p; simp
  | cons e es ih =>
    simp only [exec_cons]
    constructor
    · rintro ⟨s', hs, ht⟩
      obtain ⟨g, hg⟩ := (ih (p := (s', upd p.1 e s' p.2))).1 ht
      exact ⟨g, (s', upd p.1 e s' p.2), history_step.2 ⟨hs, rfl⟩, hg⟩
    · rintro ⟨g, q, hq, hg⟩
      exact ⟨q.1, (history_step.1 hq).1, ih.2 ⟨g, hg⟩⟩

theorem history_along {p : σ × γ} {es : List ε} (h : Along step C p.1 es) :
    Along (history step upd) (fun m e t => C m.1 e t.1) p es := by
  induction es generalizing p with
  | nil => trivial
  | cons e es ih =>
    intro q hq
    obtain ⟨hs, _⟩ := history_step.1 hq
    exact ⟨(h q.1 hs).1, ih (h q.1 hs).2⟩

/-! ## Many parties

A state that keeps a list of parties; a step of one replaces its entry. -/

theorem countP_set_add {α : Type u} {l : List α} {i : Nat} {a : α} (ha : l[i]? = some a) (b : α) (p : α → Bool) :
    (l.set i b).countP p + (if p a then 1 else 0) = l.countP p + (if p b then 1 else 0) := by
  obtain ⟨hi, rfl⟩ := List.getElem?_eq_some_iff.1 ha
  have hpos : p l[i] = true → 0 < l.countP p := fun hp => List.countP_pos_iff.2 ⟨_, List.getElem_mem hi, hp⟩
  rw [List.countP_set hi]
  by_cases hp : p l[i] = true
  · have := hpos hp
    simp only [hp, if_true]
    omega
  · simp [hp]

end Machine
