import PortaPhone.Http.AdminSession
/-!
# The session an OTP is pinned to

`generate_otp` writes `current_access_token()` into the OTP record once `create_otp` was accepted.
`otp_pinned`: the record holds the token that authenticated the request in every run in which, from
the choice of that request's session to its acceptance, the stored session is the chosen one and no
call replaces it or drops its token (`PicksStored`).
-/

namespace PortaPhone.Http

open Machine

/-- The call a step belongs to. -/
def ApiEvent.call : ApiEvent → Nat
  | .begin i _ | .acquire i _ | .loginAnswer i _ _ | .send i | .unreachable i | .answer i _ => i

/-- The step replaces the stored session or drops its token. -/
def changesStored (advance : Int) (s : Api) : ApiEvent → Bool
  | .acquire _ c =>
    (s.usable advance c.check).isNone && s.authSession.any fun p =>
      truthy p.2.accessToken && p.2.accessTokenExpiresAt.any (· < c.progress)
  | .loginAnswer i _ (.response r) =>
    r.accessToken.isSome &&
      match s.pc i with
      | .login (.relogin _) 0 _ => false
      | _ => true
  | _ => false

/-- The history of `picked`: for each call, whether the session it chose last was the stored one, and
is still untouched. Only the login that `session_in_progress` does not store chooses another. -/
def notePicked (advance : Int) (s : Api) (e : ApiEvent) (_ : Api) (picked : Nat → Bool) : Nat → Bool := fun i =>
  if i = e.call then
    match e with
    | .begin _ _ | .acquire _ _ => true
    | .loginAnswer _ _ _ =>
      match s.pc i with
      | .login (.relogin _) 0 _ => false
      | _ => true
    | .send _ | .unreachable _ | .answer _ _ => picked i
  else picked i && !changesStored advance s e

/-- An accepted `create_otp` was sent with the stored session, and nobody has touched that since. -/
def PicksStored (isCreateOtp : Nat → Bool) (picked : Nat → Bool) : ApiEvent → Prop
  | .answer i .accepted => isCreateOtp i = true → picked i = true
  | _ => True

instance (isCreateOtp picked : Nat → Bool) : DecidablePred (PicksStored isCreateOtp picked)
  | .answer _ .accepted => inferInstanceAs (Decidable (_ → _))
  | .answer _ .sessionFault | .answer _ .failed | .begin _ _ | .acquire _ _ | .loginAnswer _ _ _ | .send _
  | .unreachable _ => isTrue trivial

namespace Api

variable {advance : Int} {isCreateOtp : Nat → Bool} {s t : Api}

/-! ## What a step leaves alone -/

theorem setPc_self (s : Api) (i : Nat) (pc : Pc) : (s.setPc i pc).pc i = pc := by
  simp [setPc]

theorem setPc_other {i j : Nat} (hj : j ≠ i) (s : Api) (pc : Pc) : (s.setPc i pc).pc j = s.pc j := by
  simp [setPc, hj]

theorem underLock_other {i j : Nat} (hj : j ≠ i) (s : Api) (retry : Bool) (c : Clock) :
    (s.underLock advance i retry c).pc j = s.pc j ∧ (s.underLock advance i retry c).otps = s.otps := by
  obtain ⟨heap, hdrop⟩ := s.dropExpired_rest c.progress
  unfold underLock
  rw [hdrop]
  split
  · exact ⟨setPc_other hj s _, rfl⟩
  · split <;> exact ⟨by simp [sendLogin, setPc, hj], rfl⟩

theorem finishLogin_other {i j : Nat} (hj : j ≠ i) (s : Api) (ref : Nat) (p : Purpose) :
    (s.finishLogin i ref p).pc j = s.pc j ∧ (s.finishLogin i ref p).otps = s.otps := by
  cases p with
  | fresh retry | recover => exact ⟨by simp [finishLogin, storeSession, release, setPc, hj], rfl⟩
  | refresh retry | relogin retry =>
    simp only [finishLogin]
    split
    · exact ⟨by simp [storeSession, release, setPc, hj], rfl⟩
    · exact ⟨by simp [storeSession, sendLogin, setPc, hj], rfl⟩

theorem failLogin_other {i j : Nat} (hj : j ≠ i) (s : Api) (p : Purpose) :
    (s.failLogin i p).pc j = s.pc j ∧ (s.failLogin i p).otps = s.otps := by
  cases p <;> exact ⟨by simp [failLogin, setPc, hj], rfl⟩

theorem faultLogin_other {i j : Nat} (hj : j ≠ i) (s : Api) (p : Purpose) :
    (s.faultLogin i p).pc j = s.pc j ∧ (s.faultLogin i p).otps = s.otps := by
  unfold faultLogin
  split
  · exact ⟨by simp [sendLogin, setPc, hj], rfl⟩
  · exact ⟨by simp [sendLogin, setPc, hj], rfl⟩
  · exact ⟨by simp [sendLogin, setPc, hj], rfl⟩
  · exact failLogin_other hj s _
  · exact failLogin_other hj s _
  · exact failLogin_other hj s _
  · exact failLogin_other hj s _

theorem loginAnswered_other {i j : Nat} (hj : j ≠ i) (s : Api) (p : Purpose) (depth : Nat) (resent : Bool) (now : Int)
    (a : LoginAnswer) : (s.loginAnswered i p depth resent now a).pc j = s.pc j ∧
      (s.loginAnswered i p depth resent now a).otps = s.otps := by
  cases a with
  | failed => exact failLogin_other hj s p
  | sessionFault =>
    simp only [loginAnswered]
    split
    · exact faultLogin_other hj s p
    · exact ⟨by simp [sendLogin, setPc, hj], rfl⟩
  | response r =>
    simp only [loginAnswered]
    split
    · exact failLogin_other hj s p
    · cases depth with
      | zero =>
        exact finishLogin_other hj
          { s with heap := s.heap ++ [extractAccessToken now r], results := s.heap.length :: s.results }
          s.heap.length p
      | succ depth => exact ⟨by simp [storeSession, sendLogin, setPc, hj], rfl⟩

theorem answered_other {i j : Nat} (hj : j ≠ i) (s : Api) (token : Option String) (retry : Bool) (a : Answer) :
    (s.answered isCreateOtp i token retry a).pc j = s.pc j := by
  cases a with
  | accepted => simp only [answered]; split <;> exact setPc_other hj s _
  | sessionFault =>
    simp only [answered]
    split
    · exact setPc_other hj s _
    · simp [sendLogin, setPc, hj]
  | failed => exact setPc_other hj s _

/-- A step moves its own call only. -/
theorem step_other {e : ApiEvent} {j : Nat} (h : apiStep advance isCreateOtp s e = some t) (hj : j ≠ e.call) :
    t.pc j = s.pc j := by
  have hcases := apiStep_cases h
  cases e with
  | begin i now =>
    obtain ⟨_, _, rfl⟩ := hcases
    unfold begin
    split <;> exact setPc_other hj s _
  | acquire i c =>
    obtain ⟨_, _, _, rfl⟩ := hcases
    exact (underLock_other hj s _ c).1
  | loginAnswer i now a =>
    obtain ⟨_, _, _, _, rfl⟩ := hcases
    exact (loginAnswered_other hj s _ _ _ now a).1
  | send i =>
    obtain ⟨_, _, _, rfl⟩ := hcases
    exact setPc_other hj s _
  | unreachable i =>
    obtain ⟨_, _, _, _, rfl⟩ := hcases
    exact setPc_other hj s _
  | answer i a =>
    obtain ⟨_, _, _, _, rfl⟩ := hcases
    exact answered_other hj s _ _ a

/-- An OTP is recorded for an accepted `create_otp` only. -/
theorem step_otps {e : ApiEvent} (h : apiStep advance isCreateOtp s e = some t) :
    t.otps = s.otps ∨ ∃ i ref token retry, e = .answer i .accepted ∧ isCreateOtp i = true ∧
      s.pc i = .exchange ref token retry ∧
      t.otps = ⟨i, s.currentAccessToken.filter (· ≠ ""), token.filter (· ≠ "")⟩ :: s.otps := by
  have hcases := apiStep_cases h
  cases e with
  | begin i now =>
    obtain ⟨_, _, rfl⟩ := hcases
    unfold begin
    split <;> exact .inl rfl
  | acquire i c =>
    obtain ⟨_, _, _, rfl⟩ := hcases
    exact .inl (underLock_other (Nat.succ_ne_self i) s _ c).2
  | loginAnswer i now a =>
    obtain ⟨_, _, _, _, rfl⟩ := hcases
    exact .inl (loginAnswered_other (Nat.succ_ne_self i) s _ _ _ now a).2
  | send i =>
    obtain ⟨_, _, _, rfl⟩ := hcases
    exact .inl rfl
  | unreachable i =>
    obtain ⟨_, _, _, _, rfl⟩ := hcases
    exact .inl rfl
  | answer i a =>
    obtain ⟨ref, token, retry, hpc, rfl⟩ := hcases
    cases a with
    | accepted =>
      simp only [answered]
      split
      · next hotp => exact .inr ⟨i, ref, token, retry, rfl, hotp, hpc, rfl⟩
      · exact .inl rfl
    | sessionFault => simp only [answered]; split <;> exact .inl rfl
    | failed => exact .inl rfl

/-- The stored session and the sessions so far are as they were. -/
structure SameStored (s t : Api) : Prop where
  stored : t.stored = s.stored
  grown : ∃ added, t.heap = s.heap ++ added

theorem SameStored.of_eq (hstored : t.stored = s.stored) (hheap : t.heap = s.heap) : SameStored s t :=
  ⟨hstored, [], hheap.trans (List.append_nil _).symm⟩

theorem SameStored.tokenOf {ref : Nat} (h : SameStored s t) (href : ref < s.heap.length) :
    t.tokenOf ref = s.tokenOf ref := by
  obtain ⟨added, hadded⟩ := h.grown
  rw [Api.tokenOf, Api.tokenOf, hadded, List.getElem?_append_left href]

theorem failLogin_same (s : Api) (i : Nat) (p : Purpose) : SameStored s (s.failLogin i p) := by
  cases p <;> exact SameStored.of_eq rfl rfl

theorem faultLogin_same (s : Api) (i : Nat) (p : Purpose) : SameStored s (s.faultLogin i p) := by
  unfold faultLogin
  split
  · exact SameStored.of_eq rfl rfl
  · exact SameStored.of_eq rfl rfl
  · exact SameStored.of_eq rfl rfl
  · exact failLogin_same s i _
  · exact failLogin_same s i _
  · exact failLogin_same s i _
  · exact failLogin_same s i _

theorem dropExpired_self {now : Int}
    (h : (s.authSession.any fun p => truthy p.2.accessToken && p.2.accessTokenExpiresAt.any (· < now)) = false) :
    s.dropExpired now = s := by
  unfold dropExpired
  split
  · rfl
  · next hauth =>
    rw [hauth] at h
    rw [if_neg]
    intro hexp
    rw [Option.any_some, hexp] at h
    cases h

theorem step_same {e : ApiEvent} (h : apiStep advance isCreateOtp s e = some t)
    (hchanges : changesStored advance s e = false) : SameStored s t := by
  have hcases := apiStep_cases h
  cases e with
  | begin i now =>
    obtain ⟨_, _, rfl⟩ := hcases
    unfold begin
    split <;> exact SameStored.of_eq rfl rfl
  | acquire i c =>
    obtain ⟨_, _, _, rfl⟩ := hcases
    unfold underLock
    cases hus : s.usable advance c.check with
    | some ref => exact SameStored.of_eq rfl rfl
    | none =>
      simp only [changesStored, hus, Option.isNone_none, Bool.true_and] at hchanges
      rw [dropExpired_self hchanges]
      simp only
      split <;> exact SameStored.of_eq rfl rfl
  | loginAnswer i now a =>
    obtain ⟨p, depth, resent, hpc, rfl⟩ := hcases
    cases a with
    | failed => exact failLogin_same s i p
    | sessionFault =>
      simp only [loginAnswered]
      split
      · exact faultLogin_same s i p
      · exact SameStored.of_eq rfl rfl
    | response r =>
      simp only [loginAnswered]
      split
      · exact failLogin_same s i p
      · next htoken =>
        -- the one login whose result is not stored
        have hsome : r.accessToken.isSome = true := by
          cases hr : r.accessToken with
          | none => exact absurd hr htoken
          | some _ => rfl
        simp only [changesStored, hsome, hpc, Bool.true_and] at hchanges
        split at hchanges
        · next hrelogin =>
          cases hrelogin
          simp only [finishLogin]
          split <;> exact ⟨rfl, _, rfl⟩
        · cases hchanges
  | send i =>
    obtain ⟨_, _, _, rfl⟩ := hcases
    exact SameStored.of_eq rfl rfl
  | unreachable i =>
    obtain ⟨_, _, _, _, rfl⟩ := hcases
    exact SameStored.of_eq rfl rfl
  | answer i a =>
    obtain ⟨_, _, retry, _, rfl⟩ := hcases
    cases a with
    | accepted => simp only [answered]; split <;> exact SameStored.of_eq rfl rfl
    | sessionFault => simp only [answered]; split <;> exact SameStored.of_eq rfl rfl
    | failed => exact SameStored.of_eq rfl rfl

/-! ## Sessions are in the heap -/

def StoredIn (s : Api) : Prop := ∀ ref, s.stored = some ref → ref < s.heap.length

theorem SameStored.storedIn (h : SameStored s t) (hs : s.StoredIn) : t.StoredIn := by
  intro ref href
  obtain ⟨added, hadded⟩ := h.grown
  have hlt := hs ref (h.stored ▸ href)
  rw [hadded, List.length_append]
  omega

theorem storeSession_in {ref : Nat} (h : ref < s.heap.length) : (s.storeSession ref).StoredIn := by
  intro r hr
  cases hr
  exact h

theorem finishLogin_in {i ref : Nat} {p : Purpose} (hs : s.StoredIn) (href : ref < s.heap.length) :
    (s.finishLogin i ref p).StoredIn := by
  cases p with
  | fresh retry | recover => exact storeSession_in href
  | refresh retry =>
    simp only [finishLogin]
    split <;> exact storeSession_in href
  | relogin retry =>
    simp only [finishLogin]
    split <;> exact hs

theorem step_in {e : ApiEvent} (h : apiStep advance isCreateOtp s e = some t) (hs : s.StoredIn) : t.StoredIn := by
  cases hchanges : changesStored advance s e with
  | false => exact (step_same h hchanges).storedIn hs
  | true =>
    have hcases := apiStep_cases h
    cases e with
    | acquire i c =>
      obtain ⟨_, _, _, rfl⟩ := hcases
      have hdropped : (s.dropExpired c.progress).StoredIn := by
        intro ref href
        obtain ⟨heap, hdrop⟩ := s.dropExpired_rest c.progress
        rw [dropExpired_length]
        exact hs ref (by rw [← href, hdrop])
      unfold underLock
      split
      · exact hs
      · simp only
        split
        · exact hdropped
        · exact hs
        · exact hdropped
        · exact hdropped
    | loginAnswer i now a =>
      obtain ⟨p, depth, resent, _, rfl⟩ := hcases
      cases a with
      | failed | sessionFault => cases hchanges
      | response r =>
        have hlt : s.heap.length < (s.heap ++ [extractAccessToken now r]).length := by simp
        simp only [loginAnswered]
        split
        · exact (failLogin_same s i p).storedIn hs
        · cases depth with
          | zero =>
            refine finishLogin_in (fun ref href => ?_) hlt
            exact Nat.lt_trans (hs ref href) hlt
          | succ depth => exact storeSession_in hlt
    | begin _ _ | send _ | unreachable _ | answer _ _ => cases hchanges

/-! ## The chosen session -/

/-- The session that the call goes on with is the stored one. -/
def OnStored (s : Api) : Pc → Prop
  | .ready ref _ => s.stored = some ref
  | .exchange ref token _ => s.stored = some ref ∧ token = s.tokenOf ref
  | _ => True

theorem SameStored.onStored (h : SameStored s t) (hin : s.StoredIn) {pc : Pc} (hpc : s.OnStored pc) :
    t.OnStored pc := by
  cases pc with
  | ready ref retry => exact h.stored.trans hpc
  | exchange ref token retry => exact ⟨h.stored.trans hpc.1, hpc.2.trans (h.tokenOf (hin ref hpc.1)).symm⟩
  | _ => trivial

theorem usable_stored {now : Int} {ref : Nat} (h : s.usable advance now = some ref) : s.stored = some ref := by
  obtain ⟨⟨r, session⟩, hp, rfl⟩ := Option.map_eq_some_iff.1 h
  exact (auth_stored (Option.filter_eq_some_iff.1 hp).1).1

theorem use_stored {now now' : Int} {ref : Nat}
    (h : sessionInProgress advance now now' s.authSession = .use ref) : s.stored = some ref := by
  cases hauth : s.authSession with
  | none => rw [hauth] at h; cases h
  | some p =>
    obtain ⟨r, session⟩ := p
    rw [hauth] at h
    unfold sessionInProgress at h
    have href : r = ref := by
      simp only at h
      split at h
      · split at h
        · exact Progress.use.inj h
        · split at h
          · split at h <;> cases h
          · split at h
            · cases h
            · exact Progress.use.inj h
      · cases h
    rw [← href]
    exact (auth_stored hauth).1

theorem failLogin_onStored (i : Nat) (p : Purpose) : (s.failLogin i p).OnStored ((s.failLogin i p).pc i) := by
  cases p <;> simp [failLogin, setPc, OnStored]

theorem faultLogin_onStored (i : Nat) (p : Purpose) : (s.faultLogin i p).OnStored ((s.faultLogin i p).pc i) := by
  unfold faultLogin
  split
  · simp [sendLogin, setPc, OnStored]
  · simp [sendLogin, setPc, OnStored]
  · simp [sendLogin, setPc, OnStored]
  · exact failLogin_onStored i _
  · exact failLogin_onStored i _
  · exact failLogin_onStored i _
  · exact failLogin_onStored i _

/-- A login that ends stores its session or goes on with another one, but for the `relogin` branch. -/
theorem finishLogin_onStored (i ref : Nat) {p : Purpose} (hp : ∀ retry, p ≠ .relogin retry) :
    (s.finishLogin i ref p).OnStored ((s.finishLogin i ref p).pc i) := by
  cases p with
  | fresh retry => simp [finishLogin, storeSession, release, setPc, OnStored]
  | recover => simp [finishLogin, storeSession, setPc, OnStored]
  | refresh retry =>
    simp only [finishLogin]
    split
    · simp [storeSession, release, setPc, OnStored]
    · simp [sendLogin, setPc, OnStored]
  | relogin retry => exact absurd rfl (hp retry)

/-- After a step of its own a call is on the stored session, when the history says so. -/
theorem step_picked {picked : Nat → Bool} {e : ApiEvent} (h : apiStep advance isCreateOtp s e = some t)
    (hs : picked e.call = true → s.OnStored (s.pc e.call))
    (hpicked : notePicked advance s e t picked e.call = true) : t.OnStored (t.pc e.call) := by
  have hcases := apiStep_cases h
  cases e with
  | begin i now =>
    obtain ⟨_, _, rfl⟩ := hcases
    simp only [ApiEvent.call, begin]
    cases hus : s.usable advance now with
    | none => simp only [setPc_self, OnStored]
    | some ref =>
      simp only [setPc_self]
      exact usable_stored hus
  | acquire i c =>
    obtain ⟨_, _, _, rfl⟩ := hcases
    simp only [ApiEvent.call, underLock]
    cases hus : s.usable advance c.check with
    | some ref =>
      simp only [setPc_self]
      exact usable_stored hus
    | none =>
      simp only
      split
      · simp [sendLogin, setPc, OnStored]
      · next ref huse =>
        simp only [setPc_self]
        exact use_stored huse
      · simp [sendLogin, setPc, OnStored]
      · simp [sendLogin, setPc, OnStored]
  | loginAnswer i now a =>
    obtain ⟨p, depth, resent, hpc, rfl⟩ := hcases
    cases a with
    | failed => exact failLogin_onStored i p
    | sessionFault =>
      simp only [ApiEvent.call, loginAnswered]
      split
      · exact faultLogin_onStored i p
      · simp [sendLogin, setPc, OnStored]
    | response r =>
      simp only [ApiEvent.call, loginAnswered]
      split
      · exact failLogin_onStored i p
      · cases depth with
        | succ depth => simp [sendLogin, setPc, OnStored]
        | zero =>
          refine finishLogin_onStored i _ fun retry hp => ?_
          simp [notePicked, ApiEvent.call, hpc, hp] at hpicked
  | send i =>
    obtain ⟨ref, retry, hpc, rfl⟩ := hcases
    have hready := hs (by simpa [notePicked, ApiEvent.call] using hpicked)
    simp only [ApiEvent.call, hpc] at hready
    simp only [ApiEvent.call, setPc_self]
    exact ⟨hready, rfl⟩
  | unreachable i =>
    obtain ⟨ref, token, retry, hpc, rfl⟩ := hcases
    have hexchange := hs (by simpa [notePicked, ApiEvent.call] using hpicked)
    simp only [ApiEvent.call, hpc] at hexchange
    simp only [ApiEvent.call, setPc_self]
    exact hexchange.1
  | answer i a =>
    obtain ⟨ref, token, retry, hpc, rfl⟩ := hcases
    cases a with
    | accepted =>
      simp only [ApiEvent.call, answered]
      split <;> simp [setPc, OnStored]
    | sessionFault =>
      simp only [ApiEvent.call, answered]
      split <;> simp [sendLogin, setPc, OnStored]
    | failed => simp [ApiEvent.call, answered, setPc, OnStored]

end Api

/-! ## The result -/

/-- Every record so far is pinned right, and so will be those of the calls that the history vouches for. -/
structure Pinned (s : Api) (picked : Nat → Bool) : Prop where
  storedIn : s.StoredIn
  onStored : ∀ i, picked i = true → s.OnStored (s.pc i)
  otps : ∀ r ∈ s.otps, r.bssToken = r.usedToken

/-- **Step lemma.** -/
theorem pinned_step {advance : Int} {isCreateOtp picked : Nat → Bool} {s t : Api} {e : ApiEvent}
    (hs : Pinned s picked) (hc : PicksStored isCreateOtp picked e) (h : apiStep advance isCreateOtp s e = some t) :
    Pinned t (notePicked advance s e t picked) := by
  refine ⟨Api.step_in h hs.storedIn, ?_, ?_⟩
  · intro i hi
    by_cases hcall : i = e.call
    · rw [hcall] at hi ⊢
      exact Api.step_picked h (hs.onStored _) hi
    · simp only [notePicked, hcall, ↓reduceIte, Bool.and_eq_true, Bool.not_eq_true'] at hi
      rw [Api.step_other h hcall]
      exact (Api.step_same h hi.2).onStored hs.storedIn (hs.onStored i hi.1)
  · rcases Api.step_otps h with hsame | ⟨i, ref, token, retry, rfl, hotp, hpc, hrecord⟩
    · rw [hsame]
      exact hs.otps
    · rw [hrecord]
      have hexchange := hs.onStored i (hc hotp)
      rw [hpc] at hexchange
      intro r hr
      rcases List.mem_cons.1 hr with rfl | hr
      · rw [Api.currentAccessToken, hexchange.1, Option.bind_some, hexchange.2]
      · exact hs.otps r hr

/-- **OTP pinning**, for every run of any number of calls of one connector, with logins that succeed or
fail, sessions that expire and session faults at any moment. When every accepted `create_otp` was sent
with a session that was then, and still is, the untouched stored one, each OTP record holds the token
that authenticated the request that created it. -/
theorem otp_pinned {advance : Int} {isCreateOtp : Nat → Bool} {session : Option OAuthSession} {es : List ApiEvent}
    {s : Api} (hrun : exec (apiStep advance isCreateOtp) (Api.init session) es = some s)
    (hpick : Along (history (apiStep advance isCreateOtp) (notePicked advance))
      (fun p e _ => PicksStored isCreateOtp p.2 e) (Api.init session, fun _ => false) es) :
    ∀ r ∈ s.otps, r.bssToken = r.usedToken := by
  obtain ⟨picked, hexec⟩ := history_exec.1 (show exec (apiStep advance isCreateOtp)
    (Api.init session, fun _ : Nat => false).1 es = some s from hrun)
  have hinit : Pinned (Api.init session) fun _ => false := by
    refine ⟨?_, nofun, nofun⟩
    intro ref href
    obtain ⟨x, hx, rfl⟩ := Option.map_eq_some_iff.1 href
    simp [Api.init, hx]
  have hend := along_invariant (I := fun p : Api × (Nat → Bool) => Pinned p.1 p.2) hinit hpick (by
    rintro ⟨m, f⟩ e ⟨m', f'⟩ hm hc hstep
    obtain ⟨hstep, hf⟩ := history_step.1 hstep
    simp only at hf
    rw [hf]
    exact pinned_step hm hc hstep) hexec
  exact hend.otps

/-! ## A session fault of another call -/

/-- Call `1` met a session fault, and this is its login. Call `0` creates an OTP. -/
def newLogin : ApiEvent := .loginAnswer 1 0 (.response ⟨some "new", none, none⟩)

/-- The recovery stores its session while `create_otp` is in its exchange, and the record gets that one. -/
theorem pinned_to_another :
    ¬ ∀ (advance : Int) (isCreateOtp : Nat → Bool) (session : Option OAuthSession) (es : List ApiEvent) (s : Api),
      exec (apiStep advance isCreateOtp) (Api.init session) es = some s → ∀ r ∈ s.otps, r.bssToken = r.usedToken := by
  intro h
  have hrecord := h 0 (· == 0) (some ⟨some "old", none, none⟩)
    [.begin 0 0, .send 0, .begin 1 0, .send 1, .answer 1 .sessionFault, newLogin, .answer 0 .accepted] _ rfl
    ⟨0, some "new", some "old"⟩ (by decide)
  exact absurd hrecord (by decide)

/-- A recovery that is over before `create_otp` chooses its session does no harm. -/
def recoveredRun : List ApiEvent :=
  [.begin 1 0, .send 1, .answer 1 .sessionFault, newLogin, .begin 0 0, .send 0, .answer 0 .accepted]

theorem pinned_after_recovery :
    let s := (exec (apiStep 0 (· == 0)) (Api.init (some ⟨some "old", none, none⟩)) recoveredRun).getD (Api.init none)
    s.otps = [⟨0, some "new", some "new"⟩] ∧ ∀ r ∈ s.otps, r.bssToken = r.usedToken := by
  have hrun : exec (apiStep 0 (· == 0)) (Api.init (some ⟨some "old", none, none⟩)) recoveredRun = some _ := rfl
  exact ⟨by decide, otp_pinned hrun (by decide)⟩

end PortaPhone.Http
