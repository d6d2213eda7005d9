import PortaPhone.Http.AdminSession
/-!
# Single-flight login

A group of concurrent requests finds the stored session missing or expired. `single_flight_iff`: one
login serves the whole group exactly when the session is not one that expired with no refresh token.
For that one `session_in_progress` logs in and hands the result to its own request alone; `refresh`
and the fresh login of `send_rest_request` store theirs.
-/

namespace PortaPhone.Http

open Machine

/-! ## Validity over time -/

/-- A session that is valid was valid at any earlier time. -/
theorem validSession_mono {advance now now' : Int} {session : Option OAuthSession} (hle : now ≤ now')
    (h : validSession advance now' session = true) : validSession advance now session = true := by
  cases session with
  | none => cases h
  | some session =>
    simp only [validSession, Bool.and_eq_true] at h ⊢
    refine ⟨h.1, ?_⟩
    have hexp := h.2
    cases hat : session.accessTokenExpiresAt with
    | none => rfl
    | some exp =>
      simp only [hat, Bool.and_eq_true, Bool.not_eq_true', decide_eq_false_iff_not, Bool.and_eq_false_imp,
        Int.not_lt] at hexp ⊢
      exact ⟨by omega, fun hr => by have := hexp.2 hr; omega⟩

theorem validSession_truthy {advance now : Int} {session : OAuthSession}
    (h : validSession advance now (some session) = true) : truthy session.accessToken = true := by
  simp only [validSession, Bool.and_eq_true] at h
  exact h.1

theorem truthy_some {s : Option String} (h : truthy s = true) : ∃ token, s = some token ∧ token ≠ "" := by
  simpa [truthy, Option.any_eq_true] using h

/-- What `session_in_progress` does with a session that was not valid a moment ago. -/
theorem sessionInProgress_stale {advance : Int} {c : Clock} {ref : Nat} {session : OAuthSession}
    (h : validSession advance c.check (some session) = false) :
    sessionInProgress advance c.progress c.window (some (ref, session)) =
      if truthy session.accessToken then if truthy session.refreshToken then .refresh else .relogin
      else .none := by
  unfold sessionInProgress
  cases ht : truthy session.accessToken with
  | false => simp [ht]
  | true =>
    simp only [validSession, ht, Bool.true_and] at h
    simp only [ht, ↓reduceIte]
    cases hat : session.accessTokenExpiresAt with
    | none => simp [hat] at h
    | some exp =>
      have hle := c.check_le
      have hle' := c.progress_le
      simp only [hat, Bool.and_eq_false_imp, Bool.not_eq_true', decide_eq_false_iff_not, Int.not_lt,
        Bool.not_eq_false', Bool.and_eq_true, decide_eq_true_eq] at h
      by_cases hexp : exp < c.progress
      · simp [hexp]
      · -- still not expired: it was not valid because it is in the refresh window
        have hwin := h (by omega)
        have hnear : exp - c.window < advance := by omega
        simp [hexp, hwin.1, hnear]

namespace Api

/-- The stored session cannot be used from `t₀` on. -/
def Stale (advance t₀ : Int) (s : Api) : Prop := ∀ t, t₀ ≤ t → s.usable advance t = none

theorem usable_of_auth {s : Api} {ref : Nat} {session : OAuthSession} (advance now : Int)
    (h : s.authSession = some (ref, session)) :
    s.usable advance now = if validSession advance now (some session) then some ref else none := by
  unfold usable
  rw [h]
  cases hv : validSession advance now (some session) <;> simp [Option.filter, hv]

theorem usable_of_none {s : Api} (advance now : Int) (h : s.authSession = none) :
    s.usable advance now = none := by
  simp [usable, h]

/-- A session whose token was dropped is not usable either. -/
theorem Stale.dropExpired {advance t₀ : Int} {s : Api} (h : s.Stale advance t₀) (now : Int) :
    (s.dropExpired now).Stale advance t₀ := by
  unfold Api.dropExpired
  cases hauth : s.authSession with
  | none => exact h
  | some p =>
    obtain ⟨ref, session⟩ := p
    obtain ⟨hst, hheap⟩ := auth_stored hauth
    simp only
    split
    · intro t _
      have hlt : ref < s.heap.length := (List.getElem?_eq_some_iff.1 hheap).1
      have hdropped : ({ s with heap := s.heap.set ref { session with accessToken := none } } : Api).authSession =
          some (ref, { session with accessToken := none }) := by
        simp [authSession, hst, List.getElem?_set_self hlt]
      rw [usable_of_auth advance t hdropped]
      rfl
    · exact h

end Api

/-! ## The group -/

/-- The session expired with no refresh token (an expired one, given that it is not valid). -/
def NoRefreshToken (session : Option OAuthSession) : Prop :=
  session.any (fun x => truthy x.accessToken && !truthy x.refreshToken) = true

instance (session : Option OAuthSession) : Decidable (NoRefreshToken session) := inferInstanceAs (Decidable (_ = true))

/-- The steps of a group: the clock is read between `t₀` and `T`, every login succeeds with a session
that is valid throughout, and no request meets a session fault, which would be the end of that
session. -/
def GroupEvent (advance t₀ T : Int) : ApiEvent → Prop
  | .begin _ now => t₀ ≤ now ∧ now ≤ T
  | .acquire _ c => t₀ ≤ c.check ∧ c.window ≤ T
  | .loginAnswer _ now (.response r) => validSession advance T (some (extractAccessToken now r)) = true
  | .loginAnswer _ _ _ => False
  | .send _ | .unreachable _ => True
  | .answer _ a => a ≠ .sessionFault

instance (advance t₀ T : Int) : DecidablePred (GroupEvent advance t₀ T)
  | .begin _ _ | .acquire _ _ => inferInstanceAs (Decidable (_ ∧ _))
  | .loginAnswer _ _ (.response _) => inferInstanceAs (Decidable (_ = _))
  | .loginAnswer _ _ .sessionFault | .loginAnswer _ _ .failed => isFalse id
  | .send _ | .unreachable _ => isTrue trivial
  | .answer _ _ => inferInstanceAs (Decidable (_ ≠ _))

/-- A call that has not begun, or whose request was sent. -/
def Pc.settled : Pc → Bool
  | .start false | .exchange _ _ _ | .done => true
  | _ => false

/-- **Single flight**: one login exchange, its result is stored, and its token is what every call was
sent with. -/
def SingleFlight (s : Api) : Prop :=
  s.logins = 1 ∧ ∃ ref token, s.results = [ref] ∧ s.stored = some ref ∧ s.tokenOf ref = some token ∧
    (∀ i, s.pc i ≠ .start false → (i, some token) ∈ s.sends) ∧ ∀ p ∈ s.sends, p.2 = some token

/-! ## The shapes of a run -/

def Pc.early : Pc → Bool
  | .start false | .waiting false => true
  | _ => false

/-- No call is past the lock. -/
structure Idle (session : Option OAuthSession) (s : Api) : Prop where
  heap : s.heap = session.toList
  stored : s.stored = session.map fun _ => 0
  lock : s.lock = none
  early : ∀ i, (s.pc i).early = true
  logins : s.logins = 0
  results : s.results = []
  sends : s.sends = []

/-- Call `i` holds the lock and logs in. -/
structure LoggingIn (advance t₀ : Int) (i : Nat) (p : Purpose) (s : Api) : Prop where
  stale : s.Stale advance t₀
  storedOld : ∀ ref, s.stored = some ref → ref < s.heap.length
  lock : s.lock = some i
  holder : s.pc i = .login p 0 false
  early : ∀ j, j ≠ i → (s.pc j).early = true
  logins : s.logins = 1
  results : s.results = []
  sends : s.sends = []

/-- Where a call can be once session `ref` is stored. -/
def Pc.served (ref : Nat) (sent : Prop) : Pc → Prop
  | .start retry | .waiting retry => retry = false
  | .login _ _ _ => False
  | .ready r retry => r = ref ∧ retry = false
  | .exchange r _ retry => r = ref ∧ retry = false ∧ sent
  | .done => sent

/-- The result of the one login is stored, and everything sent is sent with it. -/
structure LoggedIn (advance T : Int) (ref : Nat) (session : OAuthSession) (token : String) (s : Api) : Prop where
  auth : s.authSession = some (ref, session)
  bearer : session.accessToken = some token
  valid : validSession advance T (some session) = true
  lock : s.lock = none
  served : ∀ i, (s.pc i).served ref ((i, some token) ∈ s.sends)
  logins : s.logins = 1
  results : s.results = [ref]
  sends : ∀ p ∈ s.sends, p.2 = some token

/-- The result of the one login went to one request and was not stored. -/
structure LoginLost (ref : Nat) (s : Api) : Prop where
  notStored : s.stored ≠ some ref
  noLogin : ∀ i p depth resent, s.pc i ≠ .login p depth resent
  logins : s.logins = 1
  results : s.results = [ref]

/-- Every state of a group run has one of these shapes, by the session the group found. -/
inductive GroupShape (advance t₀ T : Int) (session : Option OAuthSession) (s : Api) : Prop
  | idle (h : Idle session s)
  | loggingIn {i p} (h : LoggingIn advance t₀ i p s)
      (hp : p = .fresh false ∨ p = .refresh false) (hsession : ¬ NoRefreshToken session)
  | relogin {i} (h : LoggingIn advance t₀ i (.relogin false) s) (hsession : NoRefreshToken session)
  | loggedIn {ref new token} (h : LoggedIn advance T ref new token s) (hsession : ¬ NoRefreshToken session)
  | lost {ref} (h : LoginLost ref s) (hsession : NoRefreshToken session)
  | again (h : 2 ≤ s.logins) (hsession : NoRefreshToken session)

namespace Api

variable {advance t₀ T : Int} {session : Option OAuthSession} {s : Api}

theorem early_setPc {i : Nat} {pc : Pc} (h : ∀ j, j ≠ i → (s.pc j).early = true) (hpc : pc.early = true) :
    ∀ j, ((s.setPc i pc).pc j).early = true := by
  intro j
  by_cases hj : j = i
  · simp [setPc, hj, hpc]
  · simp [setPc, hj, h j hj]

theorem served_setPc {ref : Nat} {sent : Nat → Prop} {i : Nat} (pc : Pc)
    (h : ∀ j, (s.pc j).served ref (sent j)) (hpc : pc.served ref (sent i)) :
    ∀ j, ((s.setPc i pc).pc j).served ref (sent j) := by
  intro j
  by_cases hj : j = i
  · simpa [setPc, hj] using hpc
  · simpa [setPc, hj] using h j

theorem idle_stale (hs : Idle session s) (hstale : validSession advance t₀ session = false) :
    s.Stale advance t₀ := by
  intro t ht
  cases session with
  | none => exact usable_of_none advance t (by simp [authSession, hs.stored])
  | some session =>
    have hauth : s.authSession = some (0, session) := by simp [authSession, hs.stored, hs.heap]
    rw [usable_of_auth advance t hauth, if_neg]
    intro hv
    rw [validSession_mono ht hv] at hstale
    cases hstale

/-- The first call to take the lock logs in. -/
theorem idle_underLock {i : Nat} {c : Clock} (hs : Idle session s) (hstale : validSession advance t₀ session = false)
    (hc : t₀ ≤ c.check) : GroupShape advance t₀ T session (s.underLock advance i false c) := by
  have hst := idle_stale hs hstale
  have hlog : ∀ p, LoggingIn advance t₀ i p
      (({ s.dropExpired c.progress with lock := some i } : Api).sendLogin i p 0 false) := by
    intro p
    obtain ⟨heap, hdrop⟩ := s.dropExpired_rest c.progress
    refine ⟨hst.dropExpired c.progress, ?_, rfl, ?_, ?_, ?_, ?_, ?_⟩
    · intro ref href
      show ref < (s.dropExpired c.progress).heap.length
      rw [dropExpired_length, hs.heap]
      have href' : s.stored = some ref := by rw [← href, hdrop]; rfl
      rw [hs.stored] at href'
      obtain ⟨x, hx, rfl⟩ := Option.map_eq_some_iff.1 href'
      simp [hx]
    · simp [sendLogin, setPc]
    · intro j hj
      simpa [sendLogin, setPc, hj, hdrop] using hs.early j
    · simp [sendLogin, setPc, hdrop, hs.logins]
    · simp [sendLogin, setPc, hdrop, hs.results]
    · simp [sendLogin, setPc, hdrop, hs.sends]
  unfold underLock
  rw [hst c.check hc]
  simp only
  cases session with
  | none =>
    have hauth : s.authSession = none := by simp [authSession, hs.stored]
    rw [hauth]
    exact .loggingIn (hlog _) (.inl rfl) (by simp [NoRefreshToken])
  | some session =>
    have hauth : s.authSession = some (0, session) := by simp [authSession, hs.stored, hs.heap]
    have hcheck : validSession advance c.check (some session) = false := by
      cases hv : validSession advance c.check (some session) with
      | false => rfl
      | true => rw [validSession_mono hc hv] at hstale; cases hstale
    rw [hauth, sessionInProgress_stale hcheck]
    cases ht : truthy session.accessToken with
    | false => exact .loggingIn (hlog _) (.inl rfl) (by simp [NoRefreshToken, ht])
    | true =>
      cases hr : truthy session.refreshToken with
      | true => exact .loggingIn (hlog _) (.inr rfl) (by simp [NoRefreshToken, hr])
      | false => exact .relogin (hlog _) (by simp [NoRefreshToken, ht, hr])

/-- The login of the lock holder succeeds. -/
theorem loggingIn_answer {i : Nat} {p : Purpose} {now : Int} {r : LoginResponse} (hs : LoggingIn advance t₀ i p s)
    (hr : validSession advance T (some (extractAccessToken now r)) = true) :
    (p = .fresh false ∨ p = .refresh false →
      ∃ ref token, LoggedIn advance T ref (extractAccessToken now r) token
        (s.loginAnswered i p 0 false now (.response r))) ∧
    (p = .relogin false → ∃ ref, LoginLost ref (s.loginAnswered i p 0 false now (.response r))) := by
  obtain ⟨token, htoken, hne⟩ := truthy_some (validSession_truthy hr)
  have htruthy := validSession_truthy hr
  have hnew : (s.heap ++ [extractAccessToken now r])[s.heap.length]? = some (extractAccessToken now r) := by simp
  have hpc : ∀ j pc sent, pc.served s.heap.length sent →
      ((if j = i then pc else s.pc j) : Pc).served s.heap.length sent := by
    intro j pc sent hserved
    by_cases hj : j = i
    · simpa [hj] using hserved
    · have hearly := hs.early j hj
      simp only [hj, ↓reduceIte]
      cases hk : s.pc j with
      | start retry => cases retry <;> simp_all [Pc.early, Pc.served]
      | waiting retry => cases retry <;> simp_all [Pc.early, Pc.served]
      | _ => simp [hk, Pc.early] at hearly
  have htok :
      truthy (tokenOf { s with heap := s.heap ++ [extractAccessToken now r], results := s.heap.length :: s.results }
      s.heap.length) = true := by
    simpa [tokenOf] using htruthy
  simp only [loginAnswered, htoken, reduceCtorEq, ↓reduceIte]
  constructor
  · rintro (rfl | rfl)
    · refine ⟨s.heap.length, token, ?_, htoken, hr, rfl, ?_, hs.logins, ?_, ?_⟩
      · simp [finishLogin, storeSession, release, setPc, authSession]
      · exact fun j => hpc j _ _ ⟨rfl, rfl⟩
      · simp [finishLogin, storeSession, release, setPc, hs.results]
      · simp [finishLogin, storeSession, release, setPc, hs.sends]
    · simp only [finishLogin, htok, ↓reduceIte]
      refine ⟨s.heap.length, token, ?_, htoken, hr, rfl, ?_, hs.logins, ?_, ?_⟩
      · simp [storeSession, release, setPc, authSession]
      · exact fun j => hpc j _ _ ⟨rfl, rfl⟩
      · simp [storeSession, release, setPc, hs.results]
      · simp [storeSession, release, setPc, hs.sends]
  · rintro rfl
    simp only [finishLogin, htok, ↓reduceIte]
    refine ⟨s.heap.length, ?_, ?_, hs.logins, ?_⟩
    · intro hst
      exact absurd (hs.storedOld _ hst) (Nat.lt_irrefl _)
    · intro j p depth resent hj
      have hserved := hpc j (.ready s.heap.length false) True ⟨rfl, rfl⟩
      simp only [release, setPc] at hj
      rw [hj] at hserved
      exact hserved
    · simp [release, setPc, hs.results]

theorem idle_step {isCreateOtp : Nat → Bool} {e : ApiEvent} {t : Api} (hs : Idle session s)
    (hstale : validSession advance t₀ session = false) (he : GroupEvent advance t₀ T e)
    (h : apiStep advance isCreateOtp s e = some t) : GroupShape advance t₀ T session t := by
  have hearly : ∀ {i pc}, s.pc i = pc → pc.early = true := fun hpc => hpc ▸ hs.early _
  have hcases := apiStep_cases h
  cases e with
  | begin i now =>
    obtain ⟨retry, hpc, rfl⟩ := hcases
    cases retry with
    | true => exact absurd (hearly hpc) (by decide)
    | false =>
      rw [begin, idle_stale hs hstale now he.1]
      exact .idle { hs with early := early_setPc (fun j _ => hs.early j) rfl }
  | acquire i c =>
    obtain ⟨retry, hpc, _, rfl⟩ := hcases
    cases retry with
    | true => exact absurd (hearly hpc) (by decide)
    | false => exact idle_underLock hs hstale he.1
  | loginAnswer i now a =>
    obtain ⟨_, _, _, hpc, _⟩ := hcases
    cases hearly hpc
  | send i =>
    obtain ⟨_, _, hpc, _⟩ := hcases
    cases hearly hpc
  | unreachable i | answer i a =>
    obtain ⟨_, _, _, hpc, _⟩ := hcases
    cases hearly hpc

/-- While one call logs in, the others wait for the lock; its login ends with `hdone`. -/
theorem loggingIn_step {isCreateOtp : Nat → Bool} {i : Nat} {p : Purpose} {e : ApiEvent} {t : Api}
    (hs : LoggingIn advance t₀ i p s) (he : GroupEvent advance t₀ T e) (h : apiStep advance isCreateOtp s e = some t) :
    LoggingIn advance t₀ i p t ∨ ∃ now r, validSession advance T (some (extractAccessToken now r)) = true ∧
      t = s.loginAnswered i p 0 false now (.response r) := by
  have hearly : ∀ {j pc}, s.pc j = pc → (∀ p depth resent, pc ≠ .login p depth resent) → pc.early = true := by
    intro j pc hpc hne
    by_cases hj : j = i
    · rw [hj, hs.holder] at hpc
      exact absurd hpc.symm (hne _ _ _)
    · exact hpc ▸ hs.early j hj
  have hcases := apiStep_cases h
  cases e with
  | begin j now =>
    obtain ⟨retry, hpc, rfl⟩ := hcases
    cases retry with
    | true => exact absurd (hearly hpc nofun) (by decide)
    | false =>
      have hj : i ≠ j := by rintro rfl; rw [hs.holder] at hpc; cases hpc
      rw [begin, hs.stale now he.1]
      refine .inl { hs with holder := by simp [setPc, hj, hs.holder], early := ?_ }
      intro k hk
      by_cases hkj : k = j
      · simp [setPc, hkj, Pc.early]
      · simpa [setPc, hkj] using hs.early k hk
  | acquire j c =>
    obtain ⟨_, _, hlock, _⟩ := hcases
    rw [hs.lock] at hlock
    cases hlock
  | loginAnswer j now a =>
    obtain ⟨p', depth, resent, hpc, rfl⟩ := hcases
    have hj : j = i := by
      apply Classical.byContradiction
      intro hj
      have := hs.early j hj
      rw [hpc] at this
      cases this
    rw [hj, hs.holder] at hpc
    cases hpc
    cases a with
    | response r => exact .inr ⟨now, r, he, by rw [hj]⟩
    | sessionFault | failed => exact he.elim
  | send j =>
    obtain ⟨_, _, hpc, _⟩ := hcases
    cases hearly hpc nofun
  | unreachable j | answer j a =>
    obtain ⟨_, _, _, hpc, _⟩ := hcases
    cases hearly hpc nofun

theorem served_mono {ref : Nat} {sent sent' : Prop} {pc : Pc} (h : pc.served ref sent) (himp : sent → sent') :
    pc.served ref sent' := by
  cases pc with
  | exchange _ _ _ => exact ⟨h.1, h.2.1, himp h.2.2⟩
  | done => exact himp h
  | _ => exact h

/-- Once the session is stored every call takes it, and no other login is made. -/
theorem loggedIn_step {isCreateOtp : Nat → Bool} {ref : Nat} {new : OAuthSession} {token : String} {e : ApiEvent}
    {t : Api} (hs : LoggedIn advance T ref new token s) (he : GroupEvent advance t₀ T e)
    (h : apiStep advance isCreateOtp s e = some t) : LoggedIn advance T ref new token t := by
  have hserved : ∀ {i pc}, s.pc i = pc → pc.served ref ((i, some token) ∈ s.sends) := fun hpc => hpc ▸ hs.served _
  have husable : ∀ now, now ≤ T → s.usable advance now = some ref := by
    intro now hnow
    rw [usable_of_auth advance now hs.auth, if_pos (validSession_mono hnow hs.valid)]
  have hcases := apiStep_cases h
  cases e with
  | begin i now =>
    obtain ⟨retry, hpc, rfl⟩ := hcases
    rw [begin, husable now he.2]
    exact { hs with served := served_setPc _ hs.served ⟨rfl, hserved hpc⟩ }
  | acquire i c =>
    obtain ⟨retry, hpc, _, rfl⟩ := hcases
    have hle : c.check ≤ T := Int.le_trans (Int.le_trans c.check_le c.progress_le) he.2
    rw [underLock, husable c.check hle]
    exact { hs with served := served_setPc _ hs.served ⟨rfl, hserved hpc⟩ }
  | loginAnswer i now a =>
    obtain ⟨_, _, _, hpc, _⟩ := hcases
    exact (hserved hpc).elim
  | send i =>
    obtain ⟨r, retry, hpc, rfl⟩ := hcases
    obtain ⟨rfl, hretry⟩ := hserved hpc
    have htok : s.tokenOf r = some token := by rw [tokenOf, (auth_stored hs.auth).2]; exact hs.bearer
    rw [htok]
    refine { hs with served := ?_, sends := ?_ }
    · exact served_setPc _ (fun j => served_mono (hs.served j) (List.mem_cons_of_mem _)) ⟨rfl,
        hretry, List.mem_cons_self⟩
    · intro p hp
      rcases List.mem_cons.1 hp with rfl | hp
      · rfl
      · exact hs.sends p hp
  | unreachable i =>
    obtain ⟨r, _, retry, hpc, rfl⟩ := hcases
    obtain ⟨hr, hretry, _⟩ := hserved hpc
    exact { hs with served := served_setPc _ hs.served ⟨hr, hretry⟩ }
  | answer i a =>
    obtain ⟨r, _, retry, hpc, rfl⟩ := hcases
    have hdone := served_setPc .done hs.served (hserved hpc).2.2
    cases a with
    | accepted =>
      simp only [answered]
      split
      · exact { hs with served := hdone }
      · exact { hs with served := hdone }
    | sessionFault => exact (he rfl).elim
    | failed => exact { hs with served := hdone }

theorem finishLogin_logins (s : Api) (i ref : Nat) (p : Purpose) : s.logins ≤ (s.finishLogin i ref p).logins := by
  cases p with
  | fresh retry | recover => exact Nat.le_refl _
  | refresh retry | relogin retry =>
    simp only [finishLogin]
    split
    · exact Nat.le_refl _
    · exact Nat.le_succ _

theorem failLogin_logins (s : Api) (i : Nat) (p : Purpose) : (s.failLogin i p).logins = s.logins := by
  cases p <;> rfl

theorem faultLogin_logins (s : Api) (i : Nat) (p : Purpose) : s.logins ≤ (s.faultLogin i p).logins := by
  unfold faultLogin
  split
  · exact Nat.le_succ _
  · exact Nat.le_succ _
  · exact Nat.le_succ _
  · exact Nat.le_of_eq (s.failLogin_logins i _).symm
  · exact Nat.le_of_eq (s.failLogin_logins i _).symm
  · exact Nat.le_of_eq (s.failLogin_logins i _).symm
  · exact Nat.le_of_eq (s.failLogin_logins i _).symm

theorem loginAnswered_logins (s : Api) (i : Nat) (p : Purpose) (depth : Nat) (resent : Bool) (now : Int)
    (a : LoginAnswer) : s.logins ≤ (s.loginAnswered i p depth resent now a).logins := by
  cases a with
  | failed => exact Nat.le_of_eq (s.failLogin_logins i p).symm
  | sessionFault =>
    simp only [loginAnswered]
    split
    · exact s.faultLogin_logins i p
    · exact Nat.le_succ _
  | response r =>
    simp only [loginAnswered]
    split
    · exact Nat.le_of_eq (s.failLogin_logins i p).symm
    · cases depth with
      | zero =>
        exact finishLogin_logins
          { s with heap := s.heap ++ [extractAccessToken now r], results := s.heap.length :: s.results }
          i s.heap.length p
      | succ depth => exact Nat.le_succ _

/-- A step changes the number of login exchanges only by making one. -/
theorem step_logins {isCreateOtp : Nat → Bool} {e : ApiEvent} {t : Api}
    (h : apiStep advance isCreateOtp s e = some t) : s.logins ≤ t.logins := by
  have hcases := apiStep_cases h
  cases e with
  | begin i now =>
    obtain ⟨_, _, rfl⟩ := hcases
    unfold begin
    split <;> exact Nat.le_refl _
  | acquire i c =>
    obtain ⟨_, _, _, rfl⟩ := hcases
    obtain ⟨heap, hdrop⟩ := s.dropExpired_rest c.progress
    unfold underLock
    split
    · exact Nat.le_refl _
    · rw [hdrop]
      split
      · exact Nat.le_succ _
      · exact Nat.le_refl _
      · exact Nat.le_succ _
      · exact Nat.le_succ _
  | loginAnswer i now a =>
    obtain ⟨p, depth, resent, _, rfl⟩ := hcases
    exact loginAnswered_logins s i p depth resent now a
  | send i =>
    obtain ⟨_, _, _, rfl⟩ := hcases
    exact Nat.le_refl _
  | unreachable i =>
    obtain ⟨_, _, _, _, rfl⟩ := hcases
    exact Nat.le_refl _
  | answer i a =>
    obtain ⟨_, token, retry, _, rfl⟩ := hcases
    cases a with
    | accepted => simp only [answered]; split <;> exact Nat.le_refl _
    | sessionFault => simp only [answered]; split <;> simp [setPc, sendLogin]
    | failed => exact Nat.le_refl _

/-- While the lost login is the only one, a step makes another or loses it still. -/
theorem lost_step {isCreateOtp : Nat → Bool} {ref : Nat} {e : ApiEvent} {t : Api} (hs : LoginLost ref s)
    (he : GroupEvent advance t₀ T e) (h : apiStep advance isCreateOtp s e = some t) :
    LoginLost ref t ∨ 2 ≤ t.logins := by
  have hset : ∀ i pc, (∀ p depth resent, pc ≠ .login p depth resent) →
      ∀ j p depth resent, (s.setPc i pc).pc j ≠ .login p depth resent := by
    intro i pc hpc j p depth resent
    by_cases hj : j = i
    · simpa [setPc, hj] using hpc p depth resent
    · simpa [setPc, hj] using hs.noLogin j p depth resent
  have hone := hs.logins
  have hcases := apiStep_cases h
  cases e with
  | begin i now =>
    obtain ⟨retry, _, rfl⟩ := hcases
    unfold begin
    split
    · exact .inl { hs with noLogin := hset i _ nofun }
    · exact .inl { hs with noLogin := hset i _ nofun }
  | acquire i c =>
    obtain ⟨retry, _, _, rfl⟩ := hcases
    obtain ⟨heap, hdrop⟩ := s.dropExpired_rest c.progress
    unfold underLock
    split
    · exact .inl { hs with noLogin := hset i _ nofun }
    · rw [hdrop]
      split
      · exact .inr (by simp [sendLogin, setPc, hone])
      · exact .inl { hs with noLogin := hset i _ nofun }
      · exact .inr (by simp [sendLogin, setPc, hone])
      · exact .inr (by simp [sendLogin, setPc, hone])
  | loginAnswer i now a =>
    obtain ⟨_, _, _, hpc, _⟩ := hcases
    exact absurd hpc (hs.noLogin _ _ _ _)
  | send i =>
    obtain ⟨_, _, _, rfl⟩ := hcases
    exact .inl { hs with noLogin := hset i _ nofun }
  | unreachable i =>
    obtain ⟨_, _, _, _, rfl⟩ := hcases
    exact .inl { hs with noLogin := hset i _ nofun }
  | answer i a =>
    obtain ⟨_, token, retry, _, rfl⟩ := hcases
    have hdone := hset i .done nofun
    cases a with
    | accepted =>
      simp only [answered]
      split
      · exact .inl { hs with noLogin := hdone }
      · exact .inl { hs with noLogin := hdone }
    | sessionFault => exact (he rfl).elim
    | failed => exact .inl { hs with noLogin := hdone }

/-- **Step lemma.** A group step goes from shape to shape. -/
theorem shape_step {isCreateOtp : Nat → Bool} {e : ApiEvent} {t : Api}
    (hstale : validSession advance t₀ session = false) (hs : GroupShape advance t₀ T session s)
    (he : GroupEvent advance t₀ T e) (h : apiStep advance isCreateOtp s e = some t) :
    GroupShape advance t₀ T session t := by
  cases hs with
  | idle hs => exact idle_step hs hstale he h
  | loggingIn hs hp hsession =>
    rcases loggingIn_step hs he h with ht | ⟨now, r, hr, rfl⟩
    · exact .loggingIn ht hp hsession
    · obtain ⟨_, _, ht⟩ := (loggingIn_answer hs hr).1 hp
      exact .loggedIn ht hsession
  | relogin hs hsession =>
    rcases loggingIn_step hs he h with ht | ⟨now, r, hr, rfl⟩
    · exact .relogin ht hsession
    · obtain ⟨_, ht⟩ := (loggingIn_answer hs hr).2 rfl
      exact .lost ht hsession
  | loggedIn hs hsession => exact .loggedIn (loggedIn_step hs he h) hsession
  | lost hs hsession =>
    rcases lost_step hs he h with ht | ht
    · exact .lost ht hsession
    · exact .again ht hsession
  | again hs hsession => exact .again (Nat.le_trans hs (step_logins h)) hsession

end Api

/-- **Run lemma.** -/
theorem group_shape {advance t₀ T : Int} {isCreateOtp : Nat → Bool} {session : Option OAuthSession}
    (hstale : validSession advance t₀ session = false) {es : List ApiEvent} {s : Api}
    (hgroup : ∀ e ∈ es, GroupEvent advance t₀ T e)
    (hrun : exec (apiStep advance isCreateOtp) (Api.init session) es = some s) :
    GroupShape advance t₀ T session s :=
  along_invariant (I := GroupShape advance t₀ T session) (.idle ⟨rfl, rfl, rfl, fun _ => rfl, rfl, rfl, rfl⟩)
    (along_of_forall hgroup) (fun _ _ _ hs he h => Api.shape_step hstale hs he h) hrun

/-! ## The result -/

/-- **Single-flight login**, for every run of a group of any number of requests that find the stored
session missing or expired, once every request that began was sent: one login served all of them
exactly when the session is not one that expired with no refresh token. -/
theorem single_flight_iff {advance t₀ T : Int} {isCreateOtp : Nat → Bool} {session : Option OAuthSession}
    (hstale : validSession advance t₀ session = false) {es : List ApiEvent} {s : Api}
    (hgroup : ∀ e ∈ es, GroupEvent advance t₀ T e)
    (hrun : exec (apiStep advance isCreateOtp) (Api.init session) es = some s)
    (hsettled : ∀ i, (s.pc i).settled = true) (hsent : s.sends ≠ []) :
    SingleFlight s ↔ ¬ NoRefreshToken session := by
  cases group_shape hstale hgroup hrun with
  | idle hs => exact absurd hs.sends hsent
  | loggingIn hs _ _ | relogin hs _ => exact absurd hs.sends hsent
  | @loggedIn ref new token hs hsession =>
    refine iff_of_true ⟨hs.logins, ref, token, hs.results, (Api.auth_stored hs.auth).1, ?_, ?_, hs.sends⟩ hsession
    · rw [Api.tokenOf, (Api.auth_stored hs.auth).2]
      exact hs.bearer
    · intro i hbegun
      have hserved := hs.served i
      have hpc := hsettled i
      cases hk : s.pc i with
      | start retry =>
        rw [hk] at hserved
        exact absurd (by rw [hk, show retry = false from hserved]) hbegun
      | exchange r tok retry =>
        rw [hk] at hserved
        exact hserved.2.2
      | done =>
        rw [hk] at hserved
        exact hserved
      | waiting _ | login _ _ _ | ready _ _ => rw [hk] at hpc; cases hpc
  | lost hs hsession =>
    refine iff_of_false ?_ (not_not_intro hsession)
    rintro ⟨_, ref, _, hresults, hstored, _⟩
    rw [hs.results, List.cons.injEq] at hresults
    exact hs.notStored (hresults.1 ▸ hstored)
  | again hs hsession =>
    refine iff_of_false ?_ (not_not_intro hsession)
    rintro ⟨hone, _⟩
    omega

/-! ## Two requests -/

/-- Two requests find a session; the first logs in, and then the second takes the lock. -/
def pairRun (second : List ApiEvent) : List ApiEvent :=
  [.begin 0 10, .begin 1 10, .acquire 0 ⟨10, 10, 10, by decide, by decide⟩,
    .loginAnswer 0 10 (.response ⟨some "new", some 3600, none⟩), .send 0,
    .acquire 1 ⟨10, 10, 10, by decide, by decide⟩] ++ second ++ [.send 1]

/-- A session that expired with no refresh token is replaced twice. -/
theorem relogin_for_each :
    ¬ ∀ (advance t₀ T : Int) (isCreateOtp : Nat → Bool) (session : Option OAuthSession) (es : List ApiEvent) (s : Api),
      validSession advance t₀ session = false → (∀ e ∈ es, GroupEvent advance t₀ T e) →
      exec (apiStep advance isCreateOtp) (Api.init session) es = some s → (∀ i, (s.pc i).settled = true) →
      s.sends ≠ [] → SingleFlight s := by
  intro h
  have hgroup : ∀ e ∈ pairRun [.loginAnswer 1 10 (.response ⟨some "newer", some 3600, none⟩)],
      GroupEvent 0 10 10 e := by
    decide
  have hrun := h 0 10 10 (fun _ => false) (some ⟨some "old", some 5, none⟩) _ _ (by decide) hgroup rfl
    (fun | 0 | 1 | _ + 2 => rfl) (by decide)
  exact absurd hrun.1 (by decide)

/-- With a refresh token the second request takes the session of the first. -/
theorem single_flight_refreshed :
    SingleFlight ((exec (apiStep 0 fun _ => false) (Api.init (some ⟨some "old", some 5, some "refresh"⟩))
      (pairRun [])).getD (Api.init none)) := by
  have hstale : validSession 0 10 (some ⟨some "old", some 5, some "refresh"⟩) = false := by decide
  have hgroup : ∀ e ∈ pairRun [], GroupEvent 0 10 10 e := by decide
  have hrun : exec (apiStep 0 fun _ => false) (Api.init (some ⟨some "old", some 5, some "refresh"⟩)) (pairRun []) =
      some _ := rfl
  exact (single_flight_iff hstale hgroup hrun (fun | 0 | 1 | _ + 2 => rfl) (by decide)).2 (by decide)

end PortaPhone.Http
