import PortaPhone.SignIn.AccountSessions
/-!
# Whose tokens a client is given (`portaswitch/adapter.py`)

A client that knows nothing of an account, neither its password nor a token of it nor a code that was sent to it,
should never be given one of its tokens. `tokens_isolated_iff` says when that is so: exactly if custom methods, sign-in
by code and the session migration are all off. With any of them on there is a way in, over a switch that does nothing
wrong:

- a private custom method logs in the account that the bearer token names, and the signature of the token is not read;
- a code is verified without its id, so that a code for one account confirms the record of another one;
- with the migration on, a refresh token of digits is the id of the account to log in.

`sessions_name_owner`: whatever is on, the user id of a session is that of the account that its access token is of.
-/

namespace PortaPhone.SignIn.AccountSessions

open Contacts (Attr)
open Machine
open OtpReplicas (given)

/-! ## An honest switch -/

/-- Whose session a token is of, and the accounts that a code has been sent to. -/
structure Ownership where
  owner : String → Option Int
  sentTo : (code : String) → Int → Prop

/-- The records that the switch tells. -/
def Realms.Tells (realms : Realms) (accountInfo : AccountInfo) : Prop :=
  (∃ q, realms.getAccountInfo q = .ok (some accountInfo)) ∨ ∃ i, realms.accountInfoOf i = .ok (some accountInfo)

def Holds (data : SessionData) (token : String) : Prop := data.accessToken = .val token ∨ data.refreshToken = .val token

/-- A session is of the account whose login it was opened with, or of the one whose session it renews; without a login
there is none. A record read under a token is that of its owner, one asked for by an id has it, and a code is only
confirmed if it has been sent to someone. -/
structure Honest (o : Ownership) (realms : Realms) : Prop where
  login : ∀ accountInfo login password token data t, realms.Tells accountInfo → accountInfo.login = .val login →
    realms.accountApi (some login) password token = .ok data → Holds data t → o.owner t = some accountInfo.iAccount
  nameless : ∀ password token data, realms.accountApi none password token ≠ .ok data
  refresh : ∀ refreshToken data t, realms.refresh refreshToken = .ok data → Holds data t →
    o.owner t = o.owner refreshToken ∧ o.owner refreshToken ≠ none
  own : ∀ t accountInfo, realms.ownAccountInfo (some t) = .ok (.val accountInfo) → o.owner t = some accountInfo.iAccount
  nobody : ∀ accountInfo, realms.ownAccountInfo none ≠ .ok (.val accountInfo)
  account : ∀ i accountInfo, realms.accountInfoOf (toString (i : Int)) = .ok (some accountInfo) →
    accountInfo.iAccount = i
  code : ∀ code bssToken success, realms.verifyOtp code bssToken = .ok (.val success) →
    success ≠ 0 → ∃ i, o.sentTo code i

/-- What the client sends is not the account's: no password, no code that was sent to it, and of its tokens only those
that it has been given by the adapter. -/
def Blind (a : Adapter) (o : Ownership) (n : Int) (known : List String) (realms : Realms) : Request → Prop
  | .createSession _ password =>
    ∀ accountInfo, realms.Tells accountInfo → accountInfo.iAccount = n →
      passwordOf a.settings accountInfo ≠ .ok password
  | .verifySessionOtp _ code => ¬ o.sentTo code n
  | .updateSession token | .deleteSession token | .customMethod token _ => token ∈ known ∨ o.owner token ≠ some n
  | .signup accessToken refreshToken =>
    ∀ token, accessToken = some token ∨ refreshToken = some token → token ∈ known ∨ o.owner token ≠ some n
  | .createSessionOtp _ => True

/-- The switch is honest at the step, and what the client sends is not the account's. -/
def Fair (a : Adapter) (o : Ownership) (n : Int) (s : State) : Event → State → Prop
  | .request byClient request realms _, _ => Honest o realms ∧ (byClient = true → Blind a o n s.known realms request)
  | .dropped _, _ => True

/-- In no run is the client given a token of the account. -/
def Isolated (a : Adapter) (n : Int) : Prop :=
  ∀ (o : Ownership) (es : List Event) (t : State), Along (step a) (Fair a o n) {} es → exec (step a) {} es = some t →
    ∀ token ∈ t.known, o.owner token ≠ some n

/-! ## The tokens of a session -/

section Tokens

variable {a : Adapter} {o : Ownership} {realms : Realms} {fresh : Fresh}

/-- A session that was opened with a record is of its account. -/
theorem Honest.opened (honest : Honest o realms) {uuid : String} {accountInfo : AccountInfo} {data : SessionData}
    {t : String} (htells : realms.Tells accountInfo)
    (h : loginAccount realms.toAdminApi realms.accountApi uuid accountInfo = .ok data) (ht : Holds data t) :
    o.owner t = some accountInfo.iAccount := by
  obtain ⟨login, password, token, hlogin, hdata⟩ := loginAccount_login h
  cases hname : accountInfo.login with
  | absent =>
    rw [hname] at hlogin
    cases hlogin
  | null =>
    rw [hname] at hlogin
    cases hlogin
    exact absurd hdata (honest.nameless _ _ _)
  | val name =>
    rw [hname] at hlogin
    cases hlogin
    exact honest.login _ _ _ _ _ _ htells hname hdata ht

theorem holds_access {data : SessionData} {accessToken : String}
    (h : lookup (data.accessToken.index "access_token") = .ok (some accessToken)) : Holds data accessToken := by
  cases haccess : data.accessToken with
  | val token =>
    rw [haccess] at h
    obtain rfl := Option.some.inj (Except.ok.inj h)
    exact .inl haccess
  | absent | null =>
    rw [haccess] at h
    cases h

theorem holds_refresh {data : SessionData} {refreshToken : Option String}
    (h : lookup (data.refreshToken.index "refresh_token") = .ok refreshToken) :
      ∀ t ∈ refreshToken.toList, Holds data t := by
  cases hrefresh : data.refreshToken with
  | absent =>
    rw [hrefresh] at h
    cases h
  | null =>
    rw [hrefresh] at h
    cases h
    exact fun t ht => absurd ht List.not_mem_nil
  | val token =>
    rw [hrefresh] at h
    cases h
    exact fun t ht => .inr (List.mem_singleton.1 ht ▸ hrefresh)

theorem openSession_holds {settings : Settings} {outside : Outside} {switch : Switch} {accountInfo : AccountInfo}
    {session : SessionInfo} (h : openSession settings outside switch accountInfo = .ok session) :
    ∃ data, loginAccount switch.toAdminApi switch.accountApi outside.uuid accountInfo = .ok data ∧
      ∀ t ∈ session.accessToken :: session.refreshToken.toList, Holds data t := by
  obtain ⟨data, hlogin, hdata⟩ := Fallible.bind_ok.1 h
  refine ⟨data, hlogin, ?_⟩
  obtain ⟨accessToken, haccess, h⟩ := Fallible.bind_ok.1 hdata
  cases accessToken with
  | none => cases h
  | some accessToken =>
    obtain ⟨refreshToken, hrefresh, h⟩ := Fallible.bind_ok.1 h
    obtain ⟨expiresIn, -, h⟩ := Fallible.bind_ok.1 h
    cases expiresIn with
    | none => cases h
    | some expiresIn =>
      cases h
      exact List.forall_mem_cons.2 ⟨holds_access haccess, holds_refresh hrefresh⟩

/-- The account of a session that is renewed is told by the switch. -/
theorem ownSession_holds {data : SessionData} {session : SessionInfo} (h : ownSession realms data = .ok session) :
    (∃ accountInfo, realms.ownAccountInfo (given (some session.accessToken)) = .ok (.val accountInfo) ∧
      session.userId = accountInfo.iAccount) ∧
        ∀ t ∈ session.accessToken :: session.refreshToken.toList, Holds data t := by
  obtain ⟨accessToken, haccess, h⟩ := Fallible.bind_ok.1 h
  obtain ⟨answer, hanswer, h⟩ := Fallible.bind_ok.1 h
  obtain ⟨accountInfo, hinfo, h⟩ := Fallible.bind_ok.1 h
  cases accountInfo with
  | none => cases h
  | some accountInfo =>
    obtain ⟨refreshToken, hrefresh, h⟩ := Fallible.bind_ok.1 h
    obtain ⟨expiresIn, -, h⟩ := Fallible.bind_ok.1 h
    cases expiresIn with
    | none => cases h
    | some expiresIn =>
      cases accessToken with
      | none => cases h
      | some accessToken =>
        cases h
        refine ⟨⟨accountInfo, ?_, rfl⟩, List.forall_mem_cons.2 ⟨holds_access haccess, holds_refresh hrefresh⟩⟩
        cases answer with
        | absent | null => cases hinfo
        | val row =>
          obtain rfl : row = accountInfo := Option.some.inj (Except.ok.inj hinfo)
          exact hanswer

/-! ## What each operation hands out -/

theorem authenticate_tokens (honest : Honest o realms) {login : String} {password : Option String}
    {session : SessionInfo}
    (h : authenticate a.settings (outside a fresh) realms.toSwitch login password = .ok session) :
    ∃ accountInfo, realms.Tells accountInfo ∧ passwordOf a.settings accountInfo = .ok password ∧
      session.userId = accountInfo.iAccount ∧
      ∀ t ∈ session.accessToken :: session.refreshToken.toList, o.owner t = some accountInfo.iAccount := by
  obtain ⟨named, acted, hnamed, hacted, hpassword, -, hsession⟩ := authenticate_ok.1 h
  have htells : realms.Tells acted := by
    rcases hacted with ⟨-, masterId, -, hmaster⟩ | ⟨-, rfl⟩
    · exact .inl ⟨_, hmaster⟩
    · exact .inl ⟨_, hnamed⟩
  obtain ⟨data, hlogin, hholds⟩ := openSession_holds hsession
  exact ⟨acted, htells, hpassword, (openedFor_of_openSession hsession).1,
    fun t ht => honest.opened htells hlogin (hholds t ht)⟩

theorem codeSession_tokens (honest : Honest o realms) {row : StoredOtp} {session : SessionInfo}
    (h : codeSession a realms fresh row = .ok session) : session.userId = row.iAccount ∧
      ∀ t ∈ session.accessToken :: session.refreshToken.toList, o.owner t = some row.iAccount := by
  obtain ⟨found, hfound, h⟩ := Fallible.bind_ok.1 h
  cases found with
  | none => cases h
  | some accountInfo =>
    obtain ⟨opened, hopened, h⟩ := Fallible.bind_ok.1 h
    cases h
    obtain ⟨data, hlogin, hholds⟩ := openSession_holds hopened
    refine ⟨rfl, fun t ht => ?_⟩
    rw [← honest.account _ _ hfound]
    exact honest.opened (.inr ⟨_, hfound⟩) hlogin (hholds t ht)

theorem refreshSession_ok {refreshToken : String} {session : SessionInfo}
    (h : refreshSession a realms fresh refreshToken = .ok session) :
    ∃ data, refreshedSession a realms fresh refreshToken = .ok data ∧ ownSession realms data = .ok session :=
  Fallible.bind_ok.1 (Fallible.mapError_ok.1 h)

/-- Without the migration a session is renewed for the owner of the refresh token. -/
theorem refreshSession_tokens (honest : Honest o realms) (hmigration : a.enableOnDemandSessionMigration = false)
    {refreshToken : String} {session : SessionInfo} (h : refreshSession a realms fresh refreshToken = .ok session) :
    ∀ t ∈ session.accessToken :: session.refreshToken.toList, o.owner t = o.owner refreshToken := by
  obtain ⟨data, hdata, hsession⟩ := refreshSession_ok h
  rw [refreshedSession, hmigration, Bool.false_and, if_neg Bool.false_ne_true] at hdata
  exact fun t ht => (honest.refresh _ _ _ hdata ((ownSession_holds hsession).2 t ht)).1

/-- A client that signs up gets back what it sent. -/
theorem signup_tokens (honest : Honest o realms) {accessToken refreshToken : Option String} {session : SignedUp}
    (h : signup a realms fresh accessToken refreshToken = .ok session) :
    accessToken = some session.accessToken ∧ refreshToken = some session.refreshToken ∧
      o.owner session.accessToken = some session.userId := by
  unfold signup at h
  split at h
  · next access renew haccess hrefresh =>
    obtain ⟨answer, hanswer, h⟩ := Fallible.bind_ok.1 (Fallible.mapError_ok.1 h)
    obtain ⟨accountInfo, hinfo, h⟩ := Fallible.bind_ok.1 h
    cases accountInfo with
    | none => cases h
    | some accountInfo =>
      cases h
      refine ⟨(Option.filter_eq_some_iff.1 haccess).1, (Option.filter_eq_some_iff.1 hrefresh).1, ?_⟩
      cases answer with
      | absent | null => cases hinfo
      | val row =>
        obtain rfl : row = accountInfo := Option.some.inj (Except.ok.inj hinfo)
        exact honest.own _ _ hanswer
  · cases h

theorem emulateAccountLogin_tokens (honest : Honest o realms) {iAccount : String} {data : SessionData}
    (h : emulateAccountLogin realms fresh iAccount = .ok data) :
    ∃ accountInfo, realms.Tells accountInfo ∧ ∀ t, Holds data t → o.owner t = some accountInfo.iAccount := by
  obtain ⟨found, hfound, h⟩ := Fallible.bind_ok.1 h
  cases found with
  | none =>
    obtain ⟨version, -, h⟩ := Fallible.bind_ok.1 h
    cases h
  | some accountInfo => exact ⟨accountInfo, .inr ⟨_, hfound⟩, fun t ht => honest.opened (.inr ⟨_, hfound⟩) h ht⟩

/-- The tokens of a session are of one account, however it is renewed. -/
theorem refreshedSession_tokens (honest : Honest o realms) {refreshToken : String} {data : SessionData}
    (h : refreshedSession a realms fresh refreshToken = .ok data) : ∃ i, ∀ t, Holds data t → o.owner t = some i := by
  unfold refreshedSession at h
  split at h
  · obtain ⟨accountInfo, -, hown⟩ := emulateAccountLogin_tokens honest h
    exact ⟨_, hown⟩
  · obtain ⟨i, hi⟩ | hnone : (∃ i, o.owner refreshToken = some i) ∨ o.owner refreshToken = none := by
      cases o.owner refreshToken with
      | none => exact .inr rfl
      | some i => exact .inl ⟨i, rfl⟩
    · exact ⟨i, fun t ht => (honest.refresh _ _ _ h ht).1.trans hi⟩
    · exact ⟨0, fun t ht => absurd hnone (honest.refresh _ _ _ h ht).2⟩

/-- A renewed session is of the account that the switch tells for its access token. -/
theorem refreshSession_owner (honest : Honest o realms) {refreshToken : String} {session : SessionInfo}
    (h : refreshSession a realms fresh refreshToken = .ok session) :
    ∀ t ∈ session.accessToken :: session.refreshToken.toList, o.owner t = some session.userId := by
  obtain ⟨data, hdata, hown⟩ := refreshSession_ok h
  obtain ⟨⟨accountInfo, hinfo, huser⟩, hholds⟩ := ownSession_holds hown
  obtain ⟨i, hi⟩ := refreshedSession_tokens honest hdata
  have haccess : o.owner session.accessToken = some accountInfo.iAccount := by
    cases hgiven : given (some session.accessToken) with
    | none =>
      rw [hgiven] at hinfo
      exact absurd hinfo (honest.nobody _)
    | some t =>
      rw [hgiven] at hinfo
      obtain rfl := Option.some.inj (Option.filter_eq_some_iff.1 hgiven).1
      exact honest.own _ _ hinfo
  have hi' : i = accountInfo.iAccount :=
    Option.some.inj ((hi _ (hholds _ List.mem_cons_self)).symm.trans haccess)
  intro t ht
  rw [hi t (hholds t ht), hi', huser]

/-! ## With all of it off -/

section Off

variable {n : Int} {known : List String}

/-- Without a record a code is of no use. -/
theorem handle_tokens (honest : Honest o realms) (hcustom : .customMethods ∉ a.supported)
    (hmigration : a.enableOnDemandSessionMigration = false)
    (hknown : ∀ t ∈ known, o.owner t ≠ some n) {request : Request}
    (hallows : a.Allows request) (blind : Blind a o n known realms request) {response : Response}
    (h : (handle a realms fresh KeyValue.empty request).1 = .ok response) :
      ∀ t ∈ response.tokens, o.owner t ≠ some n := by
  have foreign : ∀ t, t ∈ known ∨ o.owner t ≠ some n → o.owner t ≠ some n := fun t ht => ht.elim (hknown t) id
  cases request with
  | createSession login password =>
    obtain ⟨session, hsession, h⟩ := Fallible.bind_ok.1 h
    cases h
    obtain ⟨accountInfo, htells, hpassword, -, hown⟩ := authenticate_tokens honest hsession
    intro t ht howner
    rw [hown t ht] at howner
    exact blind accountInfo htells (Option.some.inj howner) hpassword
  | updateSession refreshToken =>
    obtain ⟨session, hsession, h⟩ := Fallible.bind_ok.1 h
    cases h
    intro t ht
    rw [refreshSession_tokens honest hmigration hsession t ht]
    exact foreign refreshToken blind
  | deleteSession accessToken =>
    obtain ⟨result, -, h⟩ := Fallible.bind_ok.1 h
    cases h
    exact fun t ht => absurd ht List.not_mem_nil
  | createSessionOtp userRef =>
    obtain ⟨result, -, h⟩ := Fallible.bind_ok.1 h
    cases h
    exact fun t ht => absurd ht List.not_mem_nil
  | verifySessionOtp otpId code =>
    obtain ⟨session, hsession, -⟩ := Fallible.bind_ok.1 h
    cases hsession
  | signup accessToken refreshToken =>
    obtain ⟨session, hsession, h⟩ := Fallible.bind_ok.1 h
    cases h
    obtain ⟨haccess, hrefresh, -⟩ := signup_tokens honest hsession
    refine List.forall_mem_cons.2 ⟨foreign _ (blind _ (.inl haccess)), List.forall_mem_singleton.2 ?_⟩
    exact foreign _ (blind _ (.inr hrefresh))
  | customMethod accessToken methodName => exact absurd hallows hcustom

theorem handle_otps (hotp : .otpSignin ∉ a.supported) {request : Request} (hallows : a.Allows request) :
    (handle a realms fresh KeyValue.empty request).2 = KeyValue.empty := by
  cases request with
  | createSessionOtp userRef => exact absurd hallows hotp
  | verifySessionOtp otpId code => rfl
  | createSession _ _ | updateSession _ | deleteSession _ | signup _ _ | customMethod _ _ => rfl

theorem mem_givenTokens {result : Except Failure Response} {t : String} :
    t ∈ givenTokens result ↔ ∃ response, result = .ok response ∧ t ∈ response.tokens := by
  cases result with
  | error e => simp [givenTokens]
  | ok response => simp [givenTokens]

/-- There is no record, and of the account the client has no token. -/
structure Clean (o : Ownership) (n : Int) (s : State) : Prop where
  otps : s.otps = KeyValue.empty
  known : ∀ t ∈ s.known, o.owner t ≠ some n

theorem clean_step (hcustom : .customMethods ∉ a.supported) (hotp : .otpSignin ∉ a.supported)
    (hmigration : a.enableOnDemandSessionMigration = false) {s t : State} {e : Event} (h : Clean o n s)
    (hfair : Fair a o n s e t) (hstep : step a s e = some t) : Clean o n t := by
  cases e with
  | dropped otpId =>
    cases hstep
    exact ⟨by rw [h.otps]; exact KeyValue.erase_absent rfl, h.known⟩
  | request byClient request realms fresh =>
    obtain ⟨honest, blind⟩ := hfair
    by_cases hallows : a.Allows request
    · rw [step, if_pos hallows] at hstep
      cases hstep
      rw [h.otps]
      refine ⟨handle_otps hotp hallows, ?_⟩
      cases byClient with
      | false => exact h.known
      | true =>
        intro t ht
        rcases List.mem_append.1 ht with ht | ht
        · exact h.known t ht
        · obtain ⟨response, hresult, ht⟩ := mem_givenTokens.1 ht
          exact handle_tokens honest hcustom hmigration h.known hallows (blind rfl) hresult t ht
    · rw [step, if_neg hallows] at hstep
      cases hstep
      exact h

theorem isolated_of_off (hcustom : .customMethods ∉ a.supported) (hotp : .otpSignin ∉ a.supported)
    (hmigration : a.enableOnDemandSessionMigration = false) : Isolated a n := by
  intro o es t hfair hrun
  have hstart : Clean o n {} := ⟨rfl, fun t ht => absurd ht List.not_mem_nil⟩
  exact (along_invariant hstart hfair (fun s e t h hfair hstep =>
    clean_step hcustom hotp hmigration h hfair hstep) hrun).known

end Off

end Tokens

/-! ## A switch that does nothing wrong -/

section Leaks

variable (a : Adapter) (n : Nat) (leaked : String)

/-- The account of the client that is not to have its tokens. -/
def victim : AccountInfo where
  iAccount := n
  login := .val "user"
  password := .val "secret"
  h323Password := .val "secret"
  assignedAddons := .val (a.settings.allowedAddons.map .val)
  apiToken := .val "api"

theorem masterOf_victim : masterOf (victim a n) = none := rfl

/-- Numbers are told apart by their texts. -/
theorem eq_of_toString {i : Int} {n : Nat} (h : toString i = toString n) : i = n := by
  have hdigits := congrArg String.toList h
  rw [Int.toString_eq_repr, Int.repr_eq_if, Nat.toString_eq_repr, Nat.toList_repr] at hdigits
  split at hdigits
  · next hi =>
    rw [Nat.toList_repr] at hdigits
    have hvalue := congrArg (Nat.ofDigitChars 10 · 0) hdigits
    simp only [Nat.ofDigitChars_ten_toDigits] at hvalue
    omega
  · rw [String.toList_append] at hdigits
    have hmem : '-' ∈ Nat.toDigits 10 n := by
      rw [← hdigits]
      exact List.mem_append_left _ (by decide)
    exact absurd (Nat.isDigit_of_mem_toDigits (by decide) (by decide) hmem) (by decide)

/-- It has the one account, and the code `1234` has been sent to another one. -/
def victimRealms : Realms where
  getAccountInfo := fun _ => .ok (some (victim a n))
  findAccountsByEmail := fun _ _ _ => .ok {}
  fieldLimits := fun _ => .ok (none, none)
  getVersion := .ok versionWithToken
  updateApiToken := fun _ _ => .ok ()
  createOtp := fun _ => .ok (.val 1)
  envEmail := none
  currentAccessToken := none
  sameChar := fun c d => c = d
  accountApi := fun login _ _ =>
    if login = some "user" then .ok ⟨.val leaked, .null, .val 3600⟩ else .error (.raised .typeError)
  master_not_alias := by
    intro q row masterId master hrow hmaster
    obtain rfl := Option.some.inj (Except.ok.inj hrow)
    rw [masterOf_victim] at hmaster
    cases hmaster
  accountInfoOf := fun i => .ok (if i = toString n then some (victim a n) else none)
  verifyOtp := fun code _ => .ok (.val (if code = "1234" then 1 else 0))
  refresh := fun _ => .error (.raised .typeError)
  ping := fun _ => .ok none
  logout := fun _ => .ok (.val 1)
  ownAccountInfo := fun t => if t = some leaked then .ok (.val (victim a n)) else .error (.raised .typeError)

def victimOwner : Ownership where
  owner := fun t => if t = leaked then some (n : Int) else none
  sentTo := fun code i => code = "1234" ∧ i = n + 1

theorem tells_victim {accountInfo : AccountInfo} (h : (victimRealms a n leaked).Tells accountInfo) :
    accountInfo = victim a n := by
  rcases h with ⟨q, h⟩ | ⟨i, h⟩
  · exact (Option.some.inj (Except.ok.inj h)).symm
  · have hrow := Except.ok.inj h
    split at hrow
    · exact (Option.some.inj hrow).symm
    · cases hrow

theorem honest_victim : Honest (victimOwner n leaked) (victimRealms a n leaked) where
  login := by
    intro accountInfo login password token data t htells hlogin hdata ht
    obtain rfl := tells_victim a n leaked htells
    simp only [victimRealms] at hdata
    split at hdata
    · cases hdata
      rcases ht with ht | ht
      · cases ht
        exact if_pos rfl
      · cases ht
    · cases hdata
  nameless := by
    intro password token data hdata
    cases hdata
  refresh := by
    intro refreshToken data t hdata
    cases hdata
  own := by
    intro t accountInfo hrow
    simp only [victimRealms] at hrow
    split at hrow
    · next ht =>
      cases hrow
      exact if_pos (Option.some.inj ht)
    · cases hrow
  nobody := by
    intro accountInfo hrow
    cases hrow
  account := by
    intro i accountInfo hrow
    simp only [victimRealms] at hrow
    split at hrow
    · next htext =>
      cases hrow
      exact (eq_of_toString htext).symm
    · cases hrow
  code := by
    intro code bssToken success hverify hsuccess
    refine ⟨n + 1, ?_, rfl⟩
    by_contra hcode
    cases hverify
    exact hsuccess (if_neg hcode)

variable {a n}

theorem loginAccount_victim (uuid : String) :
    loginAccount (victimRealms a n leaked).toAdminApi (victimRealms a n leaked).accountApi uuid (victim a n) =
      .ok ⟨.val leaked, .null, .val 3600⟩ := rfl

theorem letIn_victim : LetIn a.settings (victim a n) := by
  cases hallowed : a.settings.allowedAddons with
  | nil => exact .inl hallowed
  | cons name rest =>
    refine .inr ⟨_, rfl, name, ?_, ?_⟩
    · rw [hallowed]
      exact List.mem_cons_self
    · rw [hallowed]
      exact List.mem_cons_self

theorem accountInfoOf_victim : (victimRealms a n leaked).accountInfoOf (toString n) = .ok (some (victim a n)) :=
  congrArg Except.ok (if_pos rfl)

theorem emulateAccountLogin_victim {fresh : Fresh} :
    emulateAccountLogin (victimRealms a n leaked) fresh (toString n) = .ok ⟨.val leaked, .null, .val 3600⟩ :=
  Fallible.bind_ok.2 ⟨_, accountInfoOf_victim leaked, loginAccount_victim leaked fresh.uuid⟩

/-- A bearer token that names the account, with a signature that nobody made. -/
theorem customMethod_leaks {token : String} {fresh : Fresh}
    (hforge : a.decode fresh.now token = .ok (some (toString n))) (otps : Otps) :
    handle a (victimRealms a n leaked) fresh otps (.customMethod token "external-page-access-token") =
      (.ok (.pageToken ⟨leaked, none, 3600⟩), otps) := by
  have hsession : validateSession a (victimRealms a n leaked) fresh token = .ok ⟨toString n, token⟩ := by
    rw [validateSession, hforge]
  have hattr : privateAttribute "external-page-access-token" = "_external_page_access_token" := by decide
  have htoken : externalPageAccessToken (victimRealms a n leaked) fresh (toString n) = .ok ⟨leaked, none, 3600⟩ :=
    Fallible.bind_ok.2 ⟨_, emulateAccountLogin_victim leaked, rfl⟩
  have hmethod : customMethodPrivate a (victimRealms a n leaked) fresh (toString n) "external-page-access-token" =
      .ok (.pageToken ⟨leaked, none, 3600⟩) := by
    rw [customMethodPrivate, hattr, if_neg (by decide), if_pos rfl]
    exact Fallible.bind_ok.2 ⟨_, htoken, rfl⟩
  exact Prod.ext (Fallible.bind_ok.2 ⟨_, hsession, hmethod⟩) rfl

theorem isdigit_toString : a.isdigit (toString n) = true := by
  have hdigits : (toString n).toList = Nat.toDigits 10 n := Nat.toList_repr
  have hne : toString n ≠ "" := by
    intro hempty
    rw [hempty] at hdigits
    exact Nat.toDigits_ne_nil hdigits.symm
  rw [Adapter.isdigit, decide_eq_true hne, Bool.true_and, List.all_eq_true, hdigits]
  intro c hc
  rw [Nat.isDigit_of_mem_toDigits (by decide) (by decide) hc, Bool.true_or]

/-- A refresh token that is the id of the account. -/
theorem updateSession_leaks (hmigration : a.enableOnDemandSessionMigration = true)
    (hplain : a.hashDictionary (toString n) = none) (hleaked : leaked ≠ "") (fresh : Fresh) (otps : Otps) :
    ∃ session, handle a (victimRealms a n leaked) fresh otps (.updateSession (toString n)) =
      (.ok (.session session), otps) ∧ session.accessToken = leaked := by
  have hdata : refreshedSession a (victimRealms a n leaked) fresh (toString n) =
      .ok ⟨.val leaked, .null, .val 3600⟩ := by
    rw [refreshedSession, hmigration, isdigit_toString, Bool.true_and, if_pos rfl, hplain]
    exact emulateAccountLogin_victim leaked
  have hgiven : given (some leaked) = some leaked := Option.filter_eq_some_iff.2 ⟨rfl, decide_eq_true hleaked⟩
  have hown : (victimRealms a n leaked).ownAccountInfo (given (some leaked)) = .ok (.val (victim a n)) := by
    rw [hgiven]
    exact if_pos rfl
  have hsession : ownSession (victimRealms a n leaked) ⟨.val leaked, .null, .val 3600⟩ =
      .ok ⟨n, leaked, none, 3600, ⟨none, none, none, none, none⟩⟩ :=
    Fallible.bind_ok.2 ⟨some leaked, rfl, Fallible.bind_ok.2 ⟨_, hown, rfl⟩⟩
  have hrefresh : refreshSession a (victimRealms a n leaked) fresh (toString n) =
      .ok ⟨n, leaked, none, 3600, ⟨none, none, none, none, none⟩⟩ :=
    Fallible.mapError_ok.2 (Fallible.bind_ok.2 ⟨_, hdata, hsession⟩)
  exact ⟨_, Prod.ext (Fallible.bind_ok.2 ⟨_, hrefresh, rfl⟩) rfl, rfl⟩

/-- A request for a code of the account leaves a record of it. -/
theorem createSessionOtp_leaks (fresh : Fresh) (hstore : ∀ row, fresh.store row = .ok ()) (otps : Otps) :
    ∃ response row, handle a (victimRealms a n leaked) fresh otps (.createSessionOtp "user") =
      (.ok (.otpCreated response), otps.set fresh.otpId row) ∧ row.iAccount = n := by
  have hacted : ActsOn (victimRealms a n leaked).toSwitch (victim a n) (victim a n) :=
    .inr ⟨masterOf_eq_none.1 (masterOf_victim a n), rfl⟩
  have haccount : otpAccount a.settings (victimRealms a n leaked).toSwitch "user" = .ok (victim a n) :=
    otpAccount_ok.2 ⟨_, .inl rfl, hacted, letIn_victim⟩
  have hcreated : Created (victimRealms a n leaked).toSwitch (victim a n).iAccount := ⟨1, rfl, by decide⟩
  have hrun := @generateOtp_run _ (outside a fresh) _ _ _ haccount
  rw [otpResponse_created hcreated rfl, show (outside a fresh).store = fresh.store from rfl, hstore] at hrun
  rw [handle, hrun]
  refine ⟨_, ⟨fresh.otpId, n, "user", (outside a fresh).storedToken none⟩, Prod.ext rfl ?_, rfl⟩
  show recordStored fresh otps (.store _) = _
  rw [recordStored, hstore]
  rfl

/-- The code of another account confirms it. -/
theorem verifySessionOtp_leaks (hn : 0 < n) (fresh : Fresh) {otps : Otps} {otpId : String} {row : StoredOtp}
    (hrow : otps.get otpId = some row) (hacted : row.iAccount = n) :
    ∃ session, (handle a (victimRealms a n leaked) fresh otps (.verifySessionOtp otpId "1234")).1 =
      .ok (.session session) ∧ session.accessToken = leaked := by
  have hverify : verifyCode a (victimRealms a n leaked) (some row) "1234" = .ok row := by
    rw [verifyCode, if_neg (by omega)]
    refine Fallible.bind_ok.2 ⟨.val 1, rfl, ?_⟩
    split
    · rfl
    · rfl
  have hfound : (victimRealms a n leaked).accountInfoOf (toString row.iAccount) = .ok (some (victim a n)) := by
    rw [hacted]
    exact accountInfoOf_victim leaked
  have hopened : openSession a.settings (outside a fresh) (victimRealms a n leaked).toSwitch (victim a n) = .ok
      ⟨n, leaked, none, 3600, readDeviceLimits a.settings (victimRealms a n leaked).toAdminApi (victim a n)⟩ :=
    Fallible.bind_ok.2 ⟨_, loginAccount_victim leaked fresh.uuid, rfl⟩
  have hcode : codeSession a (victimRealms a n leaked) fresh row = .ok
      ⟨row.iAccount, leaked, none, 3600,
        readDeviceLimits a.settings (victimRealms a n leaked).toAdminApi (victim a n)⟩ :=
    Fallible.bind_ok.2 ⟨_, hfound, Fallible.bind_ok.2 ⟨_, hopened, rfl⟩⟩
  have hsession : validateOtp a (victimRealms a n leaked) fresh (some row) "1234" = .ok
      ⟨row.iAccount, leaked, none, 3600,
        readDeviceLimits a.settings (victimRealms a n leaked).toAdminApi (victim a n)⟩ :=
    Fallible.mapError_ok.2 (Fallible.bind_ok.2 ⟨_, hverify, hcode⟩)
  rw [handle, hrow]
  exact ⟨_, Fallible.bind_ok.2 ⟨_, hsession, rfl⟩, rfl⟩

theorem owner_ne {token : String} (h : token ≠ leaked) : (victimOwner n leaked).owner token ≠ some (n : Int) := by
  show (if token = leaked then some (n : Int) else none) ≠ _
  rw [if_neg h]
  exact (Option.some_ne_none _).symm

/-- A run and one more request of the client, that is answered with the token. -/
theorem not_isolated_of_response {es : List Event} {s : State} {fresh : Fresh} {request : Request} {response : Response}
    (hfair : Along (step a) (Fair a (victimOwner n leaked) n) {} es) (hrun : exec (step a) {} es = some s)
    (hallows : a.Allows request)
    (hblind : Blind a (victimOwner n leaked) n s.known (victimRealms a n leaked) request)
    (h : (handle a (victimRealms a n leaked) fresh s.otps request).1 = .ok response)
    (hmem : leaked ∈ response.tokens) : ¬ Isolated a n := by
  intro hisolated
  have hstep : step a s (.request true request (victimRealms a n leaked) fresh) =
      some ⟨(handle a (victimRealms a n leaked) fresh s.otps request).2,
        s.known ++ givenTokens (handle a (victimRealms a n leaked) fresh s.otps request).1⟩ := by
    rw [step, if_pos hallows]
    rfl
  have hmore : Along (step a) (Fair a (victimOwner n leaked) n) {}
      (es ++ [.request true request (victimRealms a n leaked) fresh]) := by
    rw [along_snoc]
    refine ⟨hfair, fun m t hm ht => ⟨honest_victim a n leaked, fun _ => ?_⟩⟩
    obtain rfl : s = m := Option.some.inj (hrun.symm.trans hm)
    exact hblind
  refine hisolated _ _ _ hmore (exec_snoc.2 ⟨s, hrun, hstep⟩) leaked ?_ (if_pos rfl)
  exact List.mem_append_right _ (mem_givenTokens.2 ⟨response, h, hmem⟩)

theorem not_isolated_of_customMethods (hcustom : .customMethods ∈ a.supported) {now : Int} {token : String}
    (hforge : a.decode now token = .ok (some (toString n))) (hne : token ≠ leaked) : ¬ Isolated a n := by
  have hblind : Blind a (victimOwner n leaked) n [] (victimRealms a n leaked)
      (.customMethod token "external-page-access-token") := .inr (owner_ne leaked hne)
  have hallows : a.Allows (.customMethod token "external-page-access-token") := hcustom
  have hresponse := @customMethod_leaks _ _ leaked _ { now } hforge KeyValue.empty
  exact not_isolated_of_response leaked (along_nil _) rfl hallows hblind (congrArg Prod.fst hresponse)
    List.mem_cons_self

theorem not_isolated_of_migration (hmigration : a.enableOnDemandSessionMigration = true)
    (hplain : a.hashDictionary (toString n) = none) (hleaked : leaked ≠ "") (hne : toString n ≠ leaked) :
    ¬ Isolated a n := by
  have hblind : Blind a (victimOwner n leaked) n [] (victimRealms a n leaked) (.updateSession (toString n)) :=
    .inr (owner_ne leaked hne)
  obtain ⟨session, hresponse, htoken⟩ := updateSession_leaks leaked hmigration hplain hleaked {} KeyValue.empty
  have hallows : a.Allows (.updateSession (toString n)) := trivial
  exact not_isolated_of_response leaked (along_nil _) rfl hallows hblind (congrArg Prod.fst hresponse)
    (htoken ▸ List.mem_cons_self)

theorem not_isolated_of_otpSignin (hotp : .otpSignin ∈ a.supported) (hn : 0 < n) : ¬ Isolated a n := by
  obtain ⟨response, row, hcreate, hacted⟩ :=
    createSessionOtp_leaks (a := a) (n := n) "token" {} (fun _ => rfl) KeyValue.empty
  have hcreates : a.Allows (.createSessionOtp "user") := hotp
  have hfirst : step a {} (.request true (.createSessionOtp "user") (victimRealms a n "token") {}) =
      some ⟨KeyValue.empty.set "" row, []⟩ := by
    rw [step, if_pos hcreates, hcreate]
    rfl
  have hfair : Along (step a) (Fair a (victimOwner n "token") n) {}
      [.request true (.createSessionOtp "user") (victimRealms a n "token") {}] :=
    (along_cons hfirst).2 ⟨⟨honest_victim a n "token", fun _ => trivial⟩, trivial⟩
  obtain ⟨session, hsession, htoken⟩ :=
    verifySessionOtp_leaks (a := a) "token" hn {} (KeyValue.get_set_self _ _ _) hacted
  have hblind : Blind a (victimOwner n "token") n [] (victimRealms a n "token") (.verifySessionOtp "" "1234") := by
    rintro ⟨-, hsent⟩
    omega
  have hallows : a.Allows (.verifySessionOtp "" "1234") := Or.inl hotp
  exact not_isolated_of_response "token" hfair (exec_cons.2 ⟨_, hfirst, rfl⟩) hallows hblind hsession
    (htoken ▸ List.mem_cons_self)

end Leaks

/-! ## When a client is kept apart -/

/-- A client is never given a token of an account that it knows nothing of if custom methods, sign-in by code and the
session migration are all off. With any of them on it is, over a switch that does nothing wrong: a private custom method
logs in the account that an unsigned bearer token names, a code that was sent for one account confirms the record of
another one, and in the migration the id of an account is a refresh token. -/
theorem tokens_isolated_iff (a : Adapter) (n : Nat) (hn : 0 < n)
    (hforge : ∃ now token, a.decode now token = .ok (some (toString n)))
    (hplain : a.hashDictionary (toString n) = none) :
    Isolated a n ↔ .customMethods ∉ a.supported ∧ .otpSignin ∉ a.supported ∧
      a.enableOnDemandSessionMigration = false := by
  obtain ⟨now, token, hforge⟩ := hforge
  -- a token longer than what the client sends is none of it
  have hlength : (token ++ toString n ++ "!").length = token.length + (toString n).length + 1 := by
    rw [String.length_append, String.length_append]
    rfl
  have hne {sent : String} (h : sent.length < (token ++ toString n ++ "!").length) :
      sent ≠ token ++ toString n ++ "!" := ne_of_apply_ne String.length (Nat.ne_of_lt h)
  constructor
  · intro hisolated
    refine ⟨fun hcustom => ?_, fun hotp => ?_, ?_⟩
    · exact not_isolated_of_customMethods _ hcustom hforge (hne (by omega)) hisolated
    · exact not_isolated_of_otpSignin hotp hn hisolated
    · cases hmigration : a.enableOnDemandSessionMigration with
      | false => rfl
      | true =>
        have hsent : token ++ toString n ++ "!" ≠ "" := (hne (by rw [hlength]; exact Nat.succ_pos _)).symm
        exact absurd hisolated (not_isolated_of_migration _ hmigration hplain hsent (hne (by omega)))
  · rintro ⟨hcustom, hotp, hmigration⟩
    exact isolated_of_off hcustom hotp hmigration

/-- An adapter with custom methods alone, for which a token with the claim `7` has been made up. -/
def pagesAdapter : Adapter where
  supported := [.passwordSignin, .customMethods]
  adminApiToken := "secret"
  cipher := OtpReplicas.plainCipher
  decode := fun _ accessToken => if accessToken = "eyJ.forged" then .ok (some "7") else .error .invalid

theorem tokens_isolated_pagesAdapter :
    ¬ Isolated pagesAdapter 7 ∧ Isolated { pagesAdapter with supported := [.passwordSignin] } 7 := by
  constructor
  · intro hisolated
    exact ((tokens_isolated_iff pagesAdapter 7 (by decide) ⟨0, "eyJ.forged", rfl⟩ rfl).1 hisolated).1 (by decide)
  · exact (tokens_isolated_iff _ 7 (by decide) ⟨0, "eyJ.forged", rfl⟩ rfl).2 ⟨by decide, by decide, rfl⟩

/-! ## Whose sessions they are -/

/-- The user id of a session is that of the account that its tokens are of. -/
def Response.NamesOwner (o : Ownership) : Response → Prop
  | .session s => ∀ t ∈ s.accessToken :: s.refreshToken.toList, o.owner t = some s.userId
  | .signedUp s => o.owner s.accessToken = some s.userId
  | .otpCreated _ | .closed _ | .pages _ | .pageToken _ => True

/-- Whatever is on, whatever the records are and whoever asks: a session that is opened, renewed, opened by a code or
taken over has the user id of the account that its tokens are of, if the switch is honest. -/
theorem sessions_name_owner (a : Adapter) (o : Ownership) (realms : Realms) (honest : Honest o realms) (fresh : Fresh)
    (otps : Otps) (request : Request) (response : Response)
    (h : (handle a realms fresh otps request).1 = .ok response) : response.NamesOwner o := by
  cases request with
  | createSession login password =>
    obtain ⟨session, hsession, h⟩ := Fallible.bind_ok.1 h
    cases h
    obtain ⟨accountInfo, -, -, huser, hown⟩ := authenticate_tokens honest hsession
    rw [Response.NamesOwner, huser]
    exact hown
  | updateSession refreshToken =>
    obtain ⟨session, hsession, h⟩ := Fallible.bind_ok.1 h
    cases h
    exact refreshSession_owner honest hsession
  | deleteSession accessToken =>
    obtain ⟨result, -, h⟩ := Fallible.bind_ok.1 h
    cases h
    trivial
  | createSessionOtp userRef =>
    obtain ⟨result, -, h⟩ := Fallible.bind_ok.1 h
    cases h
    trivial
  | verifySessionOtp otpId code =>
    obtain ⟨session, hsession, h⟩ := Fallible.bind_ok.1 h
    cases h
    obtain ⟨row, -, hcode⟩ := Fallible.bind_ok.1 (Fallible.mapError_ok.1 hsession)
    obtain ⟨huser, hown⟩ := codeSession_tokens honest hcode
    rw [Response.NamesOwner, huser]
    exact hown
  | signup accessToken refreshToken =>
    obtain ⟨session, hsession, h⟩ := Fallible.bind_ok.1 h
    cases h
    exact (signup_tokens honest hsession).2.2
  | customMethod accessToken methodName =>
    obtain ⟨session, -, h⟩ := Fallible.bind_ok.1 h
    simp only [customMethodPrivate] at h
    split at h
    · obtain ⟨pages, -, h⟩ := Fallible.bind_ok.1 h
      cases h
      trivial
    · split at h
      · obtain ⟨token, -, h⟩ := Fallible.bind_ok.1 h
        cases h
        trivial
      · cases h

theorem sessions_name_owner_victim :
    (victimOwner 7 "token").owner "token" = some 7 ∧ ∃ session,
      (handle pagesAdapter (victimRealms pagesAdapter 7 "token") {} KeyValue.empty
        (.createSession "user" (some "secret"))).1 = .ok (.session session) ∧
      session.userId = 7 ∧ session.accessToken = "token" := by
  refine ⟨?_, _, rfl, rfl, rfl⟩
  exact sessions_name_owner pagesAdapter _ _ (honest_victim pagesAdapter 7 "token") {} KeyValue.empty
    (.createSession "user" (some "secret")) _ rfl "token" List.mem_cons_self

end PortaPhone.SignIn.AccountSessions
