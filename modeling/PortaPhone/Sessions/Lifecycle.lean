import PortaPhone.Sessions.Management
/-!
# The life of a session (`session_management.py`, `sessions.py`, `types.py`)

Runs of sign-ins, validations, refreshes and closes, one at a time, over a store that outlives the
processes that serve it: each call says when its process imported the modules.

`expiry_iff` is about the clock. `still_active` takes its timestamp as a default argument, which Python
evaluates once, at the import; an entry that expires later than that is accepted for as long as the
process runs (`never_expires`). `lifecycle` is about the two entries of a session: they are created and
destroyed together, but for the access entry of a token that is rejected as expired.
-/

namespace PortaPhone.Sessions

open Machine

/-! ## Calls -/

/-- One request. The process that serves it imported the modules at `importedAt`. -/
structure Call where
  importedAt : Time
  time : Time
  op : Op
deriving DecidableEq, Repr

/-- The configuration of the process that serves a call. -/
def Call.config (cfg : Config) (c : Call) : Config := { cfg with importedAt := c.importedAt }

def serve (cfg : Config) (ids : IdSource) (s : Storage) (c : Call) : Outcome × Storage :=
  perform (c.config cfg) ids s c.op

def serveStep (cfg : Config) (ids : IdSource) (s : Storage) (c : Call) : Option Storage :=
  some (serve cfg ids s c).2

def noteCall (cfg : Config) (ids : IdSource) (s : Storage) (c : Call) (_ : Storage) (l : Ledger) : Ledger :=
  l.note (c.config cfg) c.op (serve cfg ids s c).1

/-! ## Expiry -/

/-- The entry that decides about an operation. -/
def lookedUp (s : Storage) : Op → Option SessionInfo
  | .validate token => getSession s.db token none
  | .refresh token _ => getSession s.db "" (some token)
  | .signIn _ _ | .close _ => none

/-- A validation returns only a session that expires later than the call, and a refresh succeeds only
when the refresh entry does. -/
def Expires (cfg : Config) (ids : IdSource) (s : Storage) (c : Call) : Prop :=
  match c.op with
  | .validate _ => ∀ session, (serve cfg ids s c).1 = .session session → c.time < session.expiresAt
  | .refresh token _ => ∀ new, (serve cfg ids s c).1 = .session new →
      ∀ entry, getSession s.db "" (some token) = some entry → c.time < entry.expiresAt
  | .signIn _ _ | .close _ => True

/-- The entry has expired by the time of the call, but not when the modules were imported. -/
def ExpiredSinceImport (s : Storage) (c : Call) : Prop :=
  (lookedUp s c.op).any (fun entry => decide (c.importedAt < entry.expiresAt ∧ entry.expiresAt ≤ c.time)) = true

instance (s : Storage) (c : Call) : Decidable (ExpiredSinceImport s c) := inferInstanceAs (Decidable (_ = true))

theorem expires_iff (cfg : Config) (ids : IdSource) (s : Storage) (c : Call) :
    Expires cfg ids s c ↔ ¬ ExpiredSinceImport s c := by
  obtain ⟨importedAt, time, op⟩ := c
  cases op with
  | signIn userId now => simp [Expires, ExpiredSinceImport, lookedUp]
  | close token => simp [Expires, ExpiredSinceImport, lookedUp]
  | validate token =>
    simp only [Expires, ExpiredSinceImport, lookedUp, serve, perform, validateSession, Call.config]
    cases hget : getSession s.db token none with
    | none => simp
    | some session =>
      by_cases hactive : importedAt < session.expiresAt <;>
        simp [SessionInfo.stillActive, hactive]
  | refresh token now =>
    simp only [Expires, ExpiredSinceImport, lookedUp, serve, perform, refreshSession, Call.config]
    cases hget : getSession s.db "" (some token) with
    | none => simp
    | some session =>
      by_cases hactive : importedAt < session.expiresAt <;>
        simp [SessionInfo.stillActive, hactive]

/-- **Expiry**, for every run from any store. Every step accepts only what has not expired by then,
exactly when no step looks for an entry that has expired since its process imported the modules. -/
theorem expiry_iff (cfg : Config) (ids : IdSource) (s : Storage) (calls : List Call) :
    Along (serveStep cfg ids) (fun s c _ => Expires cfg ids s c) s calls ↔
      Along (serveStep cfg ids) (fun s c _ => ¬ ExpiredSinceImport s c) s calls :=
  along_congr fun s c _ _ => expires_iff cfg ids s c

/-- A session is valid for a day; an hour after that it still validates. -/
theorem validates_after_expiry :
    ¬ ∀ (cfg : Config) (ids : IdSource) (calls : List Call),
      Along (serveStep cfg ids) (fun s c _ => Expires cfg ids s c) Storage.init calls := by
  intro h
  have hlate := (along_snoc.1 (h {} unaryIds ([⟨0, 0, .signIn "user" 0⟩] ++ [⟨0, 25 * hour, .validate "0"⟩]))).2
    _ _ rfl rfl _ rfl
  exact absurd hlate (by decide)

/-! ## What a call writes -/

/-- When an operation issues a session, if it does. -/
def Op.issuesAt : Op → Option Time
  | .signIn _ now | .refresh _ now => some now
  | .validate _ | .close _ => none

theorem deleteSession_get {db : SessionDb} {access key : String} {refresh : Option String} {info : SessionInfo}
    (h : (deleteSession db access refresh).1.get key = some info) : db.get key = some info := by
  simp only [deleteSession, deleteRefresh, KeyValue.get_erase] at h
  split at h
  · cases h
  · split at h
    · rw [KeyValue.get_erase] at h
      split at h
      · cases h
      · exact h
    · exact h

theorem storeSession_get {cfg : Config} {now : Time} {db : SessionDb} {session info : SessionInfo} {key : String}
    (h : (storeSession cfg now db session).get key = some info) :
    db.get key = some info ∨ info = session ∨ info = refreshEntry cfg now session := by
  simp only [storeSession, KeyValue.get_set] at h
  split at h
  · exact .inr (.inr (Option.some.inj h).symm)
  · split at h
    · exact .inr (.inl (Option.some.inj h).symm)
    · exact .inl h

/-- An entry after an operation was there before, or is one of the two of the session it issued. -/
theorem perform_get {cfg : Config} {ids : IdSource} {s : Storage} {op : Op} {key : String} {info : SessionInfo}
    (h : (perform cfg ids s op).2.db.get key = some info) :
    s.db.get key = some info ∨ ∃ now new, op.issuesAt = some now ∧ (perform cfg ids s op).1 = .session new ∧
      (∃ access refresh userId, new = createSession cfg now access refresh userId) ∧
        (info = new ∨ info = refreshEntry cfg now new) := by
  cases op with
  | signIn userId now =>
    rcases storeSession_get h with hold | hnew
    · exact .inl hold
    · exact .inr ⟨now, _, rfl, rfl, ⟨_, _, _, rfl⟩, hnew⟩
  | validate token =>
    simp only [perform, validateSession] at h
    split at h
    · split at h
      · exact .inl h
      · exact .inl (deleteSession_get h)
    · exact .inl h
  | close token =>
    simp only [perform, closeSession] at h
    split at h
    · exact .inl (deleteSession_get h)
    · exact .inl h
  | refresh token now =>
    simp only [perform, refreshSession] at h ⊢
    split at h
    · exact .inl h
    · next session hsession =>
      split at h
      · next hactive =>
        rcases storeSession_get (deleteSession_get h) with hold | hnew
        · exact .inl hold
        · exact .inr ⟨now, _, rfl, by rw [if_pos hactive], ⟨_, _, _, rfl⟩, hnew⟩
      · exact .inl (deleteSession_get h)

/-! ## A process never sees its sessions expire -/

theorem createSession_active (cfg : Config) {now t₀ : Time} (access refresh userId : String)
    (hlife : 1 ≤ cfg.sessionExpiration) (hnow : t₀ ≤ now) :
    t₀ < (createSession cfg now access refresh userId).expiresAt := by
  simp only [createSession, hour, minute, second, Time] at *
  omega

theorem refreshEntry_active (cfg : Config) {now t₀ : Time} (session : SessionInfo)
    (hlife : 1 ≤ cfg.refreshTokenExpiration) (hnow : t₀ ≤ now) : t₀ < (refreshEntry cfg now session).expiresAt := by
  simp only [refreshEntry, hour, minute, second, Time] at *
  omega

/-- In a store that one process has filled, no entry has ever expired, however long it runs. -/
theorem never_expires {cfg : Config} {ids : IdSource} {calls : List Call} {s : Storage} {t₀ : Time}
    (haccess : 1 ≤ cfg.sessionExpiration) (hrefresh : 1 ≤ cfg.refreshTokenExpiration)
    (hcalls : ∀ c ∈ calls, c.importedAt = t₀ ∧ ∀ now, c.op.issuesAt = some now → t₀ ≤ now)
    (hs : exec (serveStep cfg ids) Storage.init calls = some s) {key : String} {info : SessionInfo}
    (hget : s.db.get key = some info) : info.stillActive { cfg with importedAt := t₀ } = true := by
  suffices hall : ∀ key info, s.db.get key = some info → t₀ < info.expiresAt from decide_eq_true (hall key info hget)
  refine along_invariant (I := fun s => ∀ key info, s.db.get key = some info → t₀ < info.expiresAt) ?_
    (along_of_forall hcalls) ?_ hs
  · intro key info hget
    simp [Storage.init] at hget
  · rintro s c t hs ⟨_, hnow⟩ ht key info hget
    obtain rfl := Option.some.inj ht
    rcases perform_get hget with hold | ⟨now, new, hop, _, ⟨_, _, _, rfl⟩, hinfo⟩
    · exact hs key info hold
    · have ht₀ := hnow now hop
      rcases hinfo with rfl | rfl
      · exact createSession_active (c.config cfg) _ _ _ haccess ht₀
      · exact refreshEntry_active (c.config cfg) _ hrefresh ht₀

/-! ## The ledger, call by call -/

/-- The string an operation is given for a token. -/
def Op.submitted : Op → Option String
  | .signIn _ _ => none
  | .validate token | .refresh token _ | .close token => some token

/-- Issued as either kind of token, at any time. -/
def Ledger.Out (l : Ledger) (token : String) : Prop := ∃ e ∈ l, e.info.accessToken = token ∨ e.info.refreshToken = token

def IssuedOnly (l : Ledger) (c : Call) : Prop := ∀ token ∈ c.op.submitted, l.Out token

instance (l : Ledger) (token : String) : Decidable (l.Out token) :=
  inferInstanceAs (Decidable (∃ e ∈ l, e.info.accessToken = token ∨ e.info.refreshToken = token))

instance (l : Ledger) (c : Call) : Decidable (IssuedOnly l c) :=
  inferInstanceAs (Decidable (∀ token ∈ c.op.submitted, l.Out token))

/-- The operation is given one of the two tokens of the session, or the key of its refresh entry. -/
def Op.Names (op : Op) (e : Issued) : Prop := ∃ token ∈ op.submitted,
  token = e.info.accessToken ∨ token = e.info.refreshToken ∨ token = refreshTokenIndex e.info.refreshToken

/-- The same session with no token live that was not. -/
structure Issued.Weaker (e e' : Issued) : Prop where
  info : e'.info = e.info
  refreshInfo : e'.refreshInfo = e.refreshInfo
  access : e'.accessLive = true → e.accessLive = true
  refresh : e'.refreshLive = true → e.refreshLive = true

theorem Issued.Weaker.entry {e e' : Issued} (h : e.Weaker e') {key : String} {info : SessionInfo}
    (hentry : e'.Entry key info) : e.Entry key info := by
  rcases hentry with ⟨hlive, rfl, rfl⟩ | ⟨hlive, rfl, rfl⟩
  · exact .inl ⟨h.access hlive, by rw [h.info], h.info⟩
  · exact .inr ⟨h.refresh hlive, by rw [h.info], h.refreshInfo⟩

namespace Ledger

theorem finish_weaker (p : Issued → Bool) (e : Issued) :
    e.Weaker (if p e then { e with accessLive := false, refreshLive := false } else e) := by
  split
  · exact ⟨rfl, rfl, nofun, nofun⟩
  · exact ⟨rfl, rfl, id, id⟩

theorem dropKey_weaker (key : String) (e : Issued) :
    e.Weaker { e with
      accessLive := e.accessLive && e.info.accessToken != key
      refreshLive := e.refreshLive && refreshTokenIndex e.info.refreshToken != key } :=
  ⟨rfl, rfl, fun h => (Bool.and_eq_true_iff.1 h).1, fun h => (Bool.and_eq_true_iff.1 h).1⟩

theorem dropKey_other {key : String} {e : Issued} (haccess : key ≠ e.info.accessToken)
    (hrefresh : key ≠ refreshTokenIndex e.info.refreshToken) :
    { e with
      accessLive := e.accessLive && e.info.accessToken != key
      refreshLive := e.refreshLive && refreshTokenIndex e.info.refreshToken != key } = e := by
  rw [bne_iff_ne.2 haccess.symm, bne_iff_ne.2 hrefresh.symm, Bool.and_true, Bool.and_true]

/-- A note weakens the sessions it is about, leaves the others, and adds the one that was issued. -/
theorem note_eq (cfg : Config) (l : Ledger) (op : Op) (out : Outcome) :
    ∃ f : Issued → Issued, (∀ e : Issued, e.Weaker (f e)) ∧ (∀ e, ¬ op.Names e → f e = e) ∧
      (l.note cfg op out = l.map f ∨
        ∃ now new, out = .session new ∧ l.note cfg op out = Ledger.issue (l.map f) cfg now new) := by
  have same : ∀ l' : Ledger, l' = l → ∃ f : Issued → Issued, (∀ e : Issued, e.Weaker (f e)) ∧
      (∀ e, ¬ op.Names e → f e = e) ∧
      (l' = l.map f ∨ ∃ now new, out = .session new ∧ l' = Ledger.issue (l.map f) cfg now new) := by
    rintro _ rfl
    exact ⟨id, fun e => ⟨rfl, rfl, id, id⟩, fun _ _ => rfl, .inl (List.map_id _).symm⟩
  cases op with
  | signIn userId now =>
    cases out with
    | session new => exact ⟨id, fun e => ⟨rfl, rfl, id, id⟩, fun _ _ => rfl, .inr ⟨now, new, rfl, by simp [note]⟩⟩
    | closed ok => exact same _ rfl
    | error e => exact same _ rfl
  | validate token =>
    cases out with
    | session new => exact same _ rfl
    | closed ok => exact same _ rfl
    | error e =>
      by_cases hcode : e.code = some "access_token_expired"
      · refine ⟨_, dropKey_weaker token, fun e hno => ?_, .inl (by simp [note, hcode, dropKey])⟩
        exact dropKey_other (fun h => hno ⟨token, rfl, .inl h⟩) fun h => hno ⟨token, rfl, .inr (.inr h)⟩
      · exact same _ (by simp [note, hcode])
  | refresh token now =>
    have hother : ∀ e : Issued, ¬ (Op.refresh token now).Names e →
        (if decide (e.info.refreshToken = token)
          then { e with accessLive := false, refreshLive := false } else e) = e := by
      intro e hno
      rw [if_neg]
      exact fun h => hno ⟨token, rfl, .inr (.inl (of_decide_eq_true h).symm)⟩
    cases out with
    | session new => exact ⟨_, finish_weaker _, hother, .inr ⟨now, new, rfl, rfl⟩⟩
    | closed ok => exact same _ rfl
    | error e =>
      by_cases hcode : e.code = some "refresh_token_expired"
      · exact ⟨_, finish_weaker _, hother, .inl (by simp [note, hcode, finish])⟩
      · exact same _ (by simp [note, hcode])
  | close token =>
    cases out with
    | session new => exact same _ rfl
    | closed ok =>
      cases ok with
      | true =>
        refine ⟨_, finish_weaker fun e => decide (e.info.accessToken = token), fun e hno => ?_, .inl rfl⟩
        rw [if_neg]
        exact fun h => hno ⟨token, rfl, .inl (of_decide_eq_true h).symm⟩
      | false =>
        refine ⟨_, dropKey_weaker token, fun e hno => ?_, .inl rfl⟩
        exact dropKey_other (fun h => hno ⟨token, rfl, .inl h⟩) fun h => hno ⟨token, rfl, .inr (.inr h)⟩
    | error e => exact same _ rfl

end Ledger

/-! ## What holds of the ledger along a run -/

/-- While its access token is live, a session has its refresh token too. -/
def Paired (l : Ledger) : Prop := ∀ e ∈ l, e.accessLive = true → e.refreshLive = true

/-- Both tokens of a session that was issued are gone. -/
def Spent (l : Ledger) (session : SessionInfo) : Prop :=
  ∃ e ∈ l, e.info = session ∧ e.accessLive = false ∧ e.refreshLive = false

/-- Of a session that was issued only the refresh token is left. -/
def RefreshOnly (l : Ledger) (session entry : SessionInfo) : Prop :=
  ∃ e ∈ l, e.info = session ∧ e.refreshInfo = entry ∧ e.accessLive = false ∧ e.refreshLive = true

/-- No operation accepts the token: not to validate it, not to refresh it and not to close it. -/
def Rejected (cfg : Config) (ids : IdSource) (s : Storage) (token : String) : Prop :=
  ∀ c : Call, c.op.submitted = some token → ∃ e, (serve cfg ids s c).1 = .error e

theorem Spent.note {l : Ledger} {session : SessionInfo} (h : Spent l session) (cfg : Config) (op : Op) (out : Outcome) :
    Spent (l.note cfg op out) session := by
  obtain ⟨e, he, rfl, haccess, hrefresh⟩ := h
  obtain ⟨f, hf, _, hnote⟩ := Ledger.note_eq cfg l op out
  have hdead : (f e).accessLive = false ∧ (f e).refreshLive = false := by
    constructor
    · exact Bool.eq_false_iff.2 fun h => by simp [(hf e).access h] at haccess
    · exact Bool.eq_false_iff.2 fun h => by simp [(hf e).refresh h] at hrefresh
  refine ⟨f e, ?_, (hf e).info, hdead⟩
  rcases hnote with hnote | ⟨now, new, _, hnote⟩
  · rw [hnote]
    exact List.mem_map_of_mem he
  · rw [hnote]
    exact List.mem_append_left _ (List.mem_map_of_mem he)

theorem paired_issue {l : Ledger} (h : Paired l) (cfg : Config) (now : Time) (session : SessionInfo) :
    Paired (l.issue cfg now session) := by
  intro e he
  rcases List.mem_append.1 he with he | he
  · exact h e he
  · rw [List.mem_singleton.1 he]
    exact fun _ => rfl

theorem paired_finish {l : Ledger} (h : Paired l) (p : Issued → Bool) : Paired (l.finish p) := by
  intro e he
  obtain ⟨e', he', rfl⟩ := List.mem_map.1 he
  split
  · exact nofun
  · exact h e' he'

/-- The key of no refresh entry is dropped. -/
theorem paired_dropKey {l : Ledger} (h : Paired l) {key : String} (hkey : ∀ r, key ≠ refreshTokenIndex r) :
    Paired (l.dropKey key) := by
  intro e he haccess
  obtain ⟨e', he', rfl⟩ := List.mem_map.1 he
  have hlive := h e' he' (Bool.and_eq_true_iff.1 haccess).1
  simp [hlive, (hkey e'.info.refreshToken).symm]

namespace Agrees

variable {cfg : Config} {ids : IdSource} {s : Storage} {l : Ledger}

theorem out_ne_index (h : Agrees ids s l) {token : String} (hout : l.Out token) (r : String) :
    token ≠ refreshTokenIndex r := by
  obtain ⟨e, he, rfl | rfl⟩ := hout
  · exact h.access_ne_index he r
  · obtain ⟨i, hi⟩ := List.mem_iff_getElem?.1 he
    rw [(h.tokens i e hi).2]
    exact ids.ne_index _ r

theorem access_ne_refresh (h : Agrees ids s l) {e e' : Issued} (he : e ∈ l) (he' : e' ∈ l) :
    e.info.accessToken ≠ e'.info.refreshToken := by
  obtain ⟨i, hi⟩ := List.mem_iff_getElem?.1 he
  obtain ⟨j, hj⟩ := List.mem_iff_getElem?.1 he'
  rw [(h.tokens i e hi).1, (h.tokens j e' hj).2]
  intro heq
  have := ids.injective _ _ heq
  omega

theorem noteCall (h : Agrees ids s l) (c : Call) :
    Agrees ids (serve cfg ids s c).2 (Sessions.noteCall cfg ids s c (serve cfg ids s c).2 l) := h.step c.op

/-- Under the tokens of a session that is gone the store has nothing. -/
theorem get_spent (h : Agrees ids s l) {session : SessionInfo} (hspent : Spent l session) {token : String}
    (htoken : token = session.accessToken ∨ token = session.refreshToken) :
    s.db.get token = none ∧ s.db.get (refreshTokenIndex token) = none := by
  obtain ⟨e, he, rfl, haccess, hrefresh⟩ := hspent
  have hout : l.Out token := ⟨e, he, htoken.imp Eq.symm Eq.symm⟩
  constructor
  · rw [Option.eq_none_iff_forall_ne_some]
    intro info hget
    obtain ⟨e', he', ⟨hlive, hkey, _⟩ | ⟨_, hkey, _⟩⟩ := (h.entries token info).1 hget
    · rcases htoken with rfl | rfl
      · rw [← h.same_access he he' hkey, haccess] at hlive
        cases hlive
      · exact h.access_ne_refresh he' he hkey.symm
    · exact h.out_ne_index hout _ hkey
  · rw [Option.eq_none_iff_forall_ne_some]
    intro info hget
    obtain ⟨e', he', ⟨_, hkey, _⟩ | ⟨hlive, hkey, _⟩⟩ := (h.entries _ info).1 hget
    · exact h.access_ne_index he' _ hkey.symm
    · have hsame := refreshTokenIndex_inj.1 hkey
      rcases htoken with rfl | rfl
      · exact h.access_ne_refresh he he' hsame
      · rw [← h.same_refresh he he' hsame, hrefresh] at hlive
        cases hlive

theorem rejected (h : Agrees ids s l) {session : SessionInfo} (hspent : Spent l session) {token : String}
    (htoken : token = session.accessToken ∨ token = session.refreshToken) : Rejected cfg ids s token := by
  rintro ⟨importedAt, time, op⟩ hop
  obtain ⟨hget, hindex⟩ := h.get_spent hspent htoken
  cases op with
  | signIn userId now => cases hop
  | validate token' =>
    obtain rfl := Option.some.inj hop
    exact ⟨accessTokenInvalid token', by simp [serve, perform, validateSession, getSession, hget]⟩
  | close token' =>
    obtain rfl := Option.some.inj hop
    exact ⟨closingError token', by simp [serve, perform, closeSession, getSession, hget]⟩
  | refresh token' now =>
    obtain rfl := Option.some.inj hop
    refine ⟨refreshTokenInvalid token', ?_⟩
    rcases h.refresh_cases token' with hnone | ⟨e, he, hlive, htok, hsome⟩
    · simp [serve, perform, refreshSession, hnone]
    · have hsome' := (h.entries (refreshTokenIndex token') e.refreshInfo).2 ⟨e, he, .inr ⟨hlive, by rw [htok], rfl⟩⟩
      rw [hindex] at hsome'
      cases hsome'

/-- **Step lemma** for the pairing of the two entries. -/
theorem paired (h : Agrees ids s l) (hpaired : Paired l) {c : Call} (hissued : IssuedOnly l c) :
    Paired (Sessions.noteCall cfg ids s c (serve cfg ids s c).2 l) := by
  obtain ⟨importedAt, time, op⟩ := c
  have hkey : ∀ token ∈ op.submitted, ∀ r, token ≠ refreshTokenIndex r :=
    fun token htoken => h.out_ne_index (hissued token htoken)
  simp only [Sessions.noteCall]
  unfold Ledger.note
  split
  · exact paired_issue hpaired _ _ _
  · split
    · exact paired_dropKey hpaired (hkey _ rfl)
    · exact hpaired
  · exact paired_issue (paired_finish hpaired _) _ _ _
  · split
    · exact paired_finish hpaired _
    · exact hpaired
  · exact paired_finish hpaired _
  · exact paired_dropKey hpaired (hkey _ rfl)
  · exact hpaired

/-- The refresh token outlives everything but a refresh with it. -/
theorem refreshOnly (h : Agrees ids s l) {session entry : SessionInfo} (hleft : RefreshOnly l session entry) {c : Call}
    (hissued : IssuedOnly l c) (hop : ∀ now, c.op ≠ .refresh session.refreshToken now) :
    RefreshOnly (Sessions.noteCall cfg ids s c (serve cfg ids s c).2 l) session entry := by
  obtain ⟨e, he, rfl, rfl, haccess, hrefresh⟩ := hleft
  obtain ⟨importedAt, time, op⟩ := c
  have dropped : ∀ token ∈ op.submitted, RefreshOnly (l.dropKey token) e.info e.refreshInfo := by
    intro token htoken
    have hne := h.out_ne_index (hissued token htoken) e.info.refreshToken
    refine ⟨_, List.mem_map_of_mem he, rfl, rfl, ?_, ?_⟩
    · simp [haccess]
    · simp [hrefresh, hne.symm]
  have finished : ∀ p : Issued → Bool, p e = false → RefreshOnly (l.finish p) e.info e.refreshInfo := by
    intro p hp
    refine ⟨e, List.mem_map.2 ⟨e, he, ?_⟩, rfl, rfl, haccess, hrefresh⟩
    rw [hp]
    rfl
  have same : RefreshOnly l e.info e.refreshInfo := ⟨e, he, rfl, rfl, haccess, hrefresh⟩
  have issued : ∀ (l' : Ledger) cfg now new, RefreshOnly l' e.info e.refreshInfo →
      RefreshOnly (l'.issue cfg now new) e.info e.refreshInfo := by
    rintro l' cfg now new ⟨e', he', hrest⟩
    exact ⟨e', List.mem_append_left _ he', hrest⟩
  cases op with
  | signIn userId now => exact issued l _ now _ same
  | validate token =>
    simp only [Sessions.noteCall]
    cases (serve cfg ids s ⟨importedAt, time, .validate token⟩).1 with
    | session new => exact same
    | closed ok => exact same
    | error err =>
      simp only [Ledger.note]
      split
      · exact dropped token rfl
      · exact same
  | refresh token now =>
    have hne : e.info.refreshToken ≠ token := by
      rintro rfl
      exact hop now rfl
    have hleft := finished (fun e => decide (e.info.refreshToken = token)) (decide_eq_false hne)
    simp only [Sessions.noteCall]
    cases (serve cfg ids s ⟨importedAt, time, .refresh token now⟩).1 with
    | session new => exact issued _ _ now _ hleft
    | closed ok => exact same
    | error err =>
      simp only [Ledger.note]
      split
      · exact hleft
      · exact same
  | close token =>
    simp only [Sessions.noteCall, serve, perform]
    rcases h.close_cases token with ⟨_, hclose⟩ | ⟨e', he', hlive, htoken, hclose⟩ | ⟨e', he', hlive, htoken, hclose⟩
    · rw [hclose]
      exact same
    · rw [hclose]
      refine finished _ (decide_eq_false fun heq => ?_)
      rw [h.same_access he he' (heq.trans htoken.symm), hlive] at haccess
      cases haccess
    · rw [hclose]
      exact dropped token rfl

/-- What a refresh with that token gives, whenever it comes. -/
theorem refresh_left (h : Agrees ids s l) {session entry : SessionInfo} (hleft : RefreshOnly l session entry)
    {c : Call} {now : Time} (hop : c.op = .refresh session.refreshToken now)
    (hactive : c.importedAt < entry.expiresAt) :
    ∃ new, (serve cfg ids s c).1 = .session new := by
  obtain ⟨e, he, rfl, rfl, _, hrefresh⟩ := hleft
  obtain ⟨importedAt, time, op⟩ := c
  dsimp only at hop hactive
  subst hop
  have hget := (h.entries (refreshTokenIndex e.info.refreshToken) e.refreshInfo).2 ⟨e, he, .inr ⟨hrefresh, rfl, rfl⟩⟩
  have hsearch : getSession s.db "" (some e.info.refreshToken) = some e.refreshInfo := by
    simp [getSession, Option.filter, h.refresh_ne_empty he, hget]
  have hstill : e.refreshInfo.stillActive { cfg with importedAt := importedAt } = true := decide_eq_true hactive
  simp only [serve, perform, refreshSession, hsearch, Call.config, hstill, if_true]
  exact ⟨_, rfl⟩

end Agrees

/-! ## The result -/

/-- What call `c` in the store `s` means for the rest of the run: `after` are the calls that follow it,
and `t` is the store after them. -/
structure Lifecycle (cfg : Config) (ids : IdSource) (s : Storage) (c : Call) (after : List Call) (t : Storage) :
    Prop where
  refreshed : ∀ r now new, c.op = .refresh r now → (serve cfg ids s c).1 = .session new →
    ∃ entry, getSession s.db "" (some r) = some entry ∧ Rejected cfg ids t r ∧ Rejected cfg ids t entry.accessToken
  closed : ∀ a, c.op = .close a → (serve cfg ids s c).1 = .closed true →
    ∃ session, getSession s.db a none = some session ∧ Rejected cfg ids t a ∧ Rejected cfg ids t session.refreshToken
  /-- The entries of the sessions that the call is not about stay. -/
  kept : ∀ key session, s.db.get key = some session → session.accessToken ∉ c.op.submitted →
    session.refreshToken ∉ c.op.submitted → (serve cfg ids s c).2.db.get key = some session
  /-- A new entry is one of the session that the call issued. -/
  added : ∀ key session, (serve cfg ids s c).2.db.get key = some session → s.db.get key = some session ∨
    ∃ new, (serve cfg ids s c).1 = .session new ∧ session.accessToken = new.accessToken ∧
      session.refreshToken = new.refreshToken
  /-- A refresh with the other token succeeds, now and later, if its entry has not expired. -/
  expired : ∀ a, c.op = .validate a → (serve cfg ids s c).1 = .error (accessTokenExpired a) →
    (serve cfg ids s c).2.db = s.db.erase a ∧
      ∃ session entry, s.db.get a = some session ∧ getSession s.db "" (some session.refreshToken) = some entry ∧
        ((∀ c' ∈ after, ∀ now, c'.op ≠ .refresh session.refreshToken now) →
          ∀ c' now, c'.op = .refresh session.refreshToken now → c'.importedAt < entry.expiresAt →
            ∃ new, (serve cfg ids t c').1 = .session new)

section
variable {cfg : Config} {ids : IdSource}

/-- The ledger agrees with the store all along a run, and is paired while only issued tokens are used. -/
theorem agrees_run {calls : List Call} {s : Storage} {l : Ledger}
    (hissued : Along (history (serveStep cfg ids) (noteCall cfg ids)) (fun p c _ => IssuedOnly p.2 c)
      (Storage.init, []) calls)
    (hs : exec (history (serveStep cfg ids) (noteCall cfg ids)) (Storage.init, []) calls = some (s, l)) :
    Agrees ids s l ∧ Paired l := by
  refine along_invariant (I := fun p : Storage × Ledger => Agrees ids p.1 p.2 ∧ Paired p.2)
    ⟨Agrees.init, fun e he => by simp at he⟩ hissued ?_ hs
  rintro ⟨s, l⟩ c ⟨t, l'⟩ ⟨hagrees, hpaired⟩ hc hstep
  obtain ⟨hstep, hl⟩ := history_step.1 hstep
  obtain rfl := Option.some.inj hstep
  dsimp only at hl
  rw [hl]
  exact ⟨hagrees.noteCall c, hagrees.paired hpaired hc⟩

/-- A session that is gone stays gone. -/
theorem rejected_run {after : List Call} {s t : Storage} {l : Ledger} (h : Agrees ids s l) {session : SessionInfo}
    (hspent : Spent l session) (ht : exec (serveStep cfg ids) s after = some t) {token : String}
    (htoken : token = session.accessToken ∨ token = session.refreshToken) : Rejected cfg ids t token := by
  obtain ⟨l', hl'⟩ : ∃ l', exec (history (serveStep cfg ids) (noteCall cfg ids)) (s, l) after = some (t, l') :=
    history_exec.1 ht
  have hrun : Agrees ids t l' ∧ Spent l' session := by
    refine along_invariant (I := fun p : Storage × Ledger => Agrees ids p.1 p.2 ∧ Spent p.2 session)
      (C := fun _ _ _ => True) ⟨h, hspent⟩ (along_of_forall fun _ _ => trivial) ?_ hl'
    rintro ⟨s, l⟩ c ⟨t, l'⟩ ⟨hagrees, hspent⟩ _ hstep
    obtain ⟨hstep, hl⟩ := history_step.1 hstep
    obtain rfl := Option.some.inj hstep
    dsimp only at hl
    rw [hl]
    exact ⟨hagrees.noteCall c, hspent.note _ _ _⟩
  exact hrun.1.rejected hrun.2 htoken

/-- A refresh token that is left stays until it is used. -/
theorem refresh_run {after : List Call} {s t : Storage} {l : Ledger} (h : Agrees ids s l) {session entry : SessionInfo}
    (hleft : RefreshOnly l session entry)
    (hissued : Along (history (serveStep cfg ids) (noteCall cfg ids)) (fun p c _ => IssuedOnly p.2 c) (s, l) after)
    (hunused : ∀ c' ∈ after, ∀ now, c'.op ≠ .refresh session.refreshToken now)
    (ht : exec (serveStep cfg ids) s after = some t) : ∃ l', Agrees ids t l' ∧ RefreshOnly l' session entry := by
  obtain ⟨l', hl'⟩ : ∃ l', exec (history (serveStep cfg ids) (noteCall cfg ids)) (s, l) after = some (t, l') :=
    history_exec.1 ht
  refine ⟨l', ?_⟩
  refine along_invariant (I := fun p : Storage × Ledger => Agrees ids p.1 p.2 ∧ RefreshOnly p.2 session entry)
    (C := fun p c _ => IssuedOnly p.2 c ∧ ∀ now, c.op ≠ .refresh session.refreshToken now) ⟨h, hleft⟩ ?_ ?_ hl'
  · exact hissued.and (along_of_forall hunused)
  rintro ⟨s, l⟩ c ⟨t, l'⟩ ⟨hagrees, hleft⟩ ⟨hc, hop⟩ hstep
  obtain ⟨hstep, hl⟩ := history_step.1 hstep
  obtain rfl := Option.some.inj hstep
  dsimp only at hl
  rw [hl]
  exact ⟨hagrees.noteCall c, hagrees.refreshOnly hleft hc hop⟩

end

namespace Agrees

variable {cfg : Config} {ids : IdSource} {s : Storage} {l : Ledger}

/-- A session whose tokens an operation is not given keeps its entries. -/
theorem kept (h : Agrees ids s l) {c : Call} (hissued : IssuedOnly l c) {key : String} {session : SessionInfo}
    (hget : s.db.get key = some session) (haccess : session.accessToken ∉ c.op.submitted)
    (hrefresh : session.refreshToken ∉ c.op.submitted) : (serve cfg ids s c).2.db.get key = some session := by
  obtain ⟨e, he, hentry⟩ := (h.entries key session).1 hget
  have htokens : session.accessToken = e.info.accessToken ∧ session.refreshToken = e.info.refreshToken := by
    rcases hentry with ⟨_, _, rfl⟩ | ⟨_, _, rfl⟩
    · exact ⟨rfl, rfl⟩
    · exact h.copy e he
  obtain ⟨f, _, hother, hnote⟩ := Ledger.note_eq (c.config cfg) l c.op (serve cfg ids s c).1
  have hsame : f e = e := by
    refine hother e ?_
    rintro ⟨token, htoken, hname | hname | hname⟩
    · exact haccess (htokens.1 ▸ hname ▸ htoken)
    · exact hrefresh (htokens.2 ▸ hname ▸ htoken)
    · exact h.out_ne_index (hissued token htoken) _ hname
  refine ((h.noteCall c).entries key session).2 ⟨e, ?_, hentry⟩
  have hmem : e ∈ l.map f := List.mem_map.2 ⟨e, he, hsame⟩
  rw [Sessions.noteCall]
  rcases hnote with hnote | ⟨now, new, _, hnote⟩
  · rw [hnote]
    exact hmem
  · rw [hnote]
    exact List.mem_append_left _ hmem

/-- An access token that is rejected as expired leaves its session with the refresh token. -/
theorem expired (h : Agrees ids s l) (hpaired : Paired l) {c : Call} (hissued : IssuedOnly l c) {a : String}
    (hop : c.op = .validate a) (hout : (serve cfg ids s c).1 = .error (accessTokenExpired a)) :
    (serve cfg ids s c).2.db = s.db.erase a ∧
      ∃ session entry, s.db.get a = some session ∧ getSession s.db "" (some session.refreshToken) = some entry ∧
        RefreshOnly (Sessions.noteCall cfg ids s c (serve cfg ids s c).2 l) session entry := by
  obtain ⟨importedAt, time, op⟩ := c
  dsimp only at hop
  subst hop
  cases hget : s.db.get a with
  | none => simp [serve, perform, validateSession, getSession, hget, accessTokenInvalid, accessTokenExpired] at hout
  | some session =>
    obtain ⟨e, he, ⟨hlive, rfl, rfl⟩ | ⟨_, hkey, _⟩⟩ := (h.entries a session).1 hget
    · have hrefresh := hpaired e he hlive
      have hindex := (h.entries (refreshTokenIndex e.info.refreshToken) e.refreshInfo).2
        ⟨e, he, .inr ⟨hrefresh, rfl, rfl⟩⟩
      have hsearch : getSession s.db "" (some e.info.refreshToken) = some e.refreshInfo := by
        simp [getSession, Option.filter, h.refresh_ne_empty he, hindex]
      have hdb : (serve cfg ids s ⟨importedAt, time, .validate e.info.accessToken⟩).2.db =
          s.db.erase e.info.accessToken := by
        simp only [serve, perform, validateSession, getSession, Option.filter_none, hget] at hout ⊢
        split at hout
        · cases hout
        · next hstill =>
          rw [if_neg hstill]
          rfl
      refine ⟨hdb, e.info, e.refreshInfo, rfl, hsearch, ?_⟩
      simp only [Sessions.noteCall, hout, Ledger.note, accessTokenExpired, if_true]
      refine ⟨_, List.mem_map_of_mem he, rfl, rfl, by simp, ?_⟩
      simp [hrefresh, (h.access_ne_index he e.info.refreshToken).symm]
    · exact (h.out_ne_index (hissued a rfl) _ hkey).elim

end Agrees

/-- **The life of a session**, for every run from an empty store in which only issued tokens are
submitted: what any call of the run means for its rest. -/
theorem lifecycle (cfg : Config) (ids : IdSource) {before after : List Call} {c : Call} {s t : Storage}
    (hissued : Along (history (serveStep cfg ids) (noteCall cfg ids)) (fun p c _ => IssuedOnly p.2 c)
      (Storage.init, []) (before ++ c :: after))
    (hs : exec (serveStep cfg ids) Storage.init before = some s)
    (ht : exec (serveStep cfg ids) (serve cfg ids s c).2 after = some t) : Lifecycle cfg ids s c after t := by
  obtain ⟨l, hl⟩ :
      ∃ l, exec (history (serveStep cfg ids) (noteCall cfg ids)) (Storage.init, []) before = some (s, l) :=
    history_exec.1 hs
  obtain ⟨hbefore, hrest⟩ := along_append.1 hissued
  obtain ⟨h, hpaired⟩ := agrees_run hbefore hl
  have hstep : history (serveStep cfg ids) (noteCall cfg ids) (s, l) c =
      some ((serve cfg ids s c).2, noteCall cfg ids s c (serve cfg ids s c).2 l) := rfl
  obtain ⟨hc, hafter⟩ := (along_cons hstep).1 (hrest _ hl)
  have hnext : Agrees ids (serve cfg ids s c).2 (noteCall cfg ids s c (serve cfg ids s c).2 l) := h.noteCall c
  refine ⟨?_, ?_, ?_, ?_, ?_⟩
  · intro r now new hop hout
    obtain ⟨importedAt, time, op⟩ := c
    dsimp only at hop
    subst hop
    rcases h.refresh_cases r with hnone | ⟨e, he, _, rfl, hsome⟩
    · simp [serve, perform, refreshSession, hnone] at hout
    · have hspent : Spent (noteCall cfg ids s ⟨importedAt, time, .refresh e.info.refreshToken now⟩
          (serve cfg ids s ⟨importedAt, time, .refresh e.info.refreshToken now⟩).2 l) e.info := by
        simp only [noteCall, hout, Ledger.note]
        refine ⟨_, List.mem_append_left _ (List.mem_map_of_mem he), ?_⟩
        simp
      refine ⟨e.refreshInfo, hsome, rejected_run hnext hspent ht (.inr rfl), ?_⟩
      exact rejected_run hnext hspent ht (.inl (h.copy e he).1)
  · intro a hop hout
    obtain ⟨importedAt, time, op⟩ := c
    dsimp only at hop
    subst hop
    have hout' : (closeSession s a).1 = .closed true := hout
    rcases h.close_cases a with ⟨_, hclose⟩ | ⟨e, he, hlive, rfl, hclose⟩ | ⟨_, _, _, _, hclose⟩
    · rw [hclose] at hout'
      cases hout'
    · have hspent : Spent (noteCall cfg ids s ⟨importedAt, time, .close e.info.accessToken⟩
          (serve cfg ids s ⟨importedAt, time, .close e.info.accessToken⟩).2 l) e.info := by
        simp only [noteCall, hout, Ledger.note]
        refine ⟨_, List.mem_map_of_mem he, ?_⟩
        simp
      refine ⟨e.info, (h.entries _ _).2 ⟨e, he, .inl ⟨hlive, rfl, rfl⟩⟩, ?_⟩
      exact ⟨rejected_run hnext hspent ht (.inl rfl), rejected_run hnext hspent ht (.inr rfl)⟩
    · rw [hclose] at hout'
      cases hout'
  · intro key session
    exact h.kept hc
  · intro key session hget
    rcases perform_get hget with hold | ⟨now, new, _, hout, _, hinfo⟩
    · exact .inl hold
    · refine .inr ⟨new, hout, ?_⟩
      rcases hinfo with rfl | rfl
      · exact ⟨rfl, rfl⟩
      · exact ⟨rfl, rfl⟩
  · intro a hop hout
    obtain ⟨hdb, session, entry, hget, hentry, hleft⟩ := h.expired hpaired hc hop hout
    refine ⟨hdb, session, entry, hget, hentry, fun hunused c' now hop' hactive => ?_⟩
    obtain ⟨l', h', hleft'⟩ := refresh_run hnext hleft hafter hunused ht
    exact h'.refresh_left hleft' hop' hactive

/-- After a sign-in and a refresh the first two tokens are not accepted any more. -/
theorem lifecycle_refreshed :
    ∃ s t, exec (serveStep {} unaryIds) Storage.init [⟨0, 0, .signIn "user" 0⟩] = some s ∧
      exec (serveStep {} unaryIds) s [⟨0, hour, .refresh "00" hour⟩] = some t ∧
        Lifecycle {} unaryIds s ⟨0, hour, .refresh "00" hour⟩ [] t ∧ Rejected {} unaryIds t "00" := by
  have hissued : Along (history (serveStep {} unaryIds) (noteCall {} unaryIds)) (fun p c _ => IssuedOnly p.2 c)
      (Storage.init, []) ([⟨0, 0, .signIn "user" 0⟩] ++ [⟨0, hour, .refresh "00" hour⟩]) := by decide
  have h : Lifecycle {} unaryIds (signIn {} unaryIds Storage.init "user" 0).2 ⟨0, hour, .refresh "00" hour⟩ []
      (serve {} unaryIds (signIn {} unaryIds Storage.init "user" 0).2 ⟨0, hour, .refresh "00" hour⟩).2 :=
    lifecycle {} unaryIds hissued rfl rfl
  obtain ⟨_, _, hrejected, _⟩ := h.refreshed "00" hour _ rfl rfl
  exact ⟨_, _, rfl, rfl, h, hrejected⟩

end PortaPhone.Sessions
