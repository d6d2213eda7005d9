import Mathlib.Logic.Basic
import PortaPhone.Lib.Machine
import PortaPhone.Sessions.Store
/-!
# Session management (`bss/adapters/session_management.py`)

Access and refresh entries share one key space and are told apart by the prefix of the key alone, so
`"R" ++ r` submitted as an access token names the refresh entry of `r`. `tokens_separated_iff`: every
step of a run accepts what it should, and a refused close changes nothing, in exactly the runs in which
no such string reaches `validate_session` or `close_session`.

| here | there |
| --- | --- |
| `validateSession` | `validate_session` (`session_management.py:15`) |
| `refreshSession`  | `refresh_session` (`:37`) |
| `closeSession`    | `close_session` (`:76`) |
| `Ledger`          | what was issued, and which of its tokens are still good: a history of the run |
-/

namespace PortaPhone.Sessions

open Machine

/-! ## The operations -/

/-- `WebTritErrorException` (`report_error.py`), as these functions raise it. -/
structure WebTritError where
  statusCode : Nat
  errorMessage : String
  code : Option String
deriving DecidableEq, Repr

/-- `mask_token` (`request_trace.py:60`). -/
def maskToken (value : String) : String :=
  if value = "" then value
  else if value.length ≤ 13 then "***"
  else String.ofList (value.toList.take 6) ++ "***" ++ String.ofList (value.toList.drop (value.length - 4))

def accessTokenExpired (token : String) : WebTritError :=
  ⟨401, "Access token " ++ token ++ " expired", some "access_token_expired"⟩

def accessTokenInvalid (token : String) : WebTritError :=
  ⟨401, "Invalid access token " ++ token, some "access_token_invalid"⟩

def refreshTokenInvalid (token : String) : WebTritError :=
  ⟨401, "Invalid refresh token " ++ token, some "refresh_token_invalid"⟩

def refreshTokenExpired (token : String) : WebTritError :=
  ⟨401, "Refresh token " ++ maskToken token ++ " expired", some "refresh_token_expired"⟩

def closingError (token : String) : WebTritError := ⟨401, "Error closing the session " ++ token, none⟩

/-- The storage of an adapter; `next` numbers the ids to be generated. -/
structure Storage where
  db : SessionDb
  next : Nat

def Storage.init : Storage := ⟨KeyValue.empty, 0⟩

inductive Outcome
  | session (s : SessionInfo)
  | closed (ok : Bool)
  | error (e : WebTritError)
deriving DecidableEq, Repr

/-- A sign-in, as every adapter ends it: `create_session`, then `store_session`. -/
def signIn (cfg : Config) (ids : IdSource) (s : Storage) (userId : String) (now : Time) : Outcome × Storage :=
  let session := createSession cfg now (ids.id s.next) (ids.id (s.next + 1)) userId
  (.session session, ⟨storeSession cfg now s.db session, s.next + 2⟩)

def validateSession (cfg : Config) (s : Storage) (accessToken : String) : Outcome × Storage :=
  match getSession s.db accessToken none with
  | some session =>
    if session.stillActive cfg then (.session session, s)
    else (.error (accessTokenExpired accessToken), { s with db := (deleteSession s.db accessToken none).1 })
  | none => (.error (accessTokenInvalid accessToken), s)

def refreshSession (cfg : Config) (ids : IdSource) (s : Storage) (refreshToken : String) (now : Time) :
    Outcome × Storage :=
  match getSession s.db "" (some refreshToken) with
  | none => (.error (refreshTokenInvalid refreshToken), s)
  | some session =>
    if session.stillActive cfg then
      let new := createSession cfg now (ids.id s.next) (ids.id (s.next + 1)) session.userId
      let db := storeSession cfg now s.db new
      (.session new, ⟨(deleteSession db session.accessToken (some refreshToken)).1, s.next + 2⟩)
    else
      (.error (refreshTokenExpired refreshToken),
        { s with db := (deleteSession s.db session.accessToken (some refreshToken)).1 })

def closeSession (s : Storage) (accessToken : String) : Outcome × Storage :=
  match getSession s.db accessToken none with
  | some session =>
    let (db, ok) := deleteSession s.db accessToken (some session.refreshToken)
    (.closed ok, { s with db })
  | none => (.error (closingError accessToken), s)

inductive Op
  | signIn (userId : String) (now : Time)
  | validate (accessToken : String)
  | refresh (refreshToken : String) (now : Time)
  | close (accessToken : String)
deriving DecidableEq, Repr

def perform (cfg : Config) (ids : IdSource) (s : Storage) : Op → Outcome × Storage
  | .signIn userId now => signIn cfg ids s userId now
  | .validate accessToken => validateSession cfg s accessToken
  | .refresh refreshToken now => refreshSession cfg ids s refreshToken now
  | .close accessToken => closeSession s accessToken

def storageStep (cfg : Config) (ids : IdSource) (s : Storage) (op : Op) : Option Storage :=
  some (perform cfg ids s op).2

/-! ## The ledger -/

/-- A session that was issued, its copy under the refresh token, and which of its tokens are good. -/
structure Issued where
  info : SessionInfo
  refreshInfo : SessionInfo
  accessLive : Bool := true
  refreshLive : Bool := true
deriving DecidableEq, Repr

/-- Oldest first. -/
abbrev Ledger := List Issued

namespace Ledger

/-- Issued as the access token of a session not since refreshed, closed or removed. -/
def LiveAccess (l : Ledger) (token : String) : Prop := ∃ e ∈ l, e.accessLive = true ∧ e.info.accessToken = token

/-- Issued as a refresh token that was not used, closed or removed. -/
def LiveRefresh (l : Ledger) (token : String) : Prop := ∃ e ∈ l, e.refreshLive = true ∧ e.info.refreshToken = token

def issue (l : Ledger) (cfg : Config) (now : Time) (session : SessionInfo) : Ledger :=
  l ++ [{ info := session, refreshInfo := refreshEntry cfg now session }]

/-- Both tokens of the sessions picked by `p` are gone. -/
def finish (l : Ledger) (p : Issued → Bool) : Ledger :=
  l.map fun e => if p e then { e with accessLive := false, refreshLive := false } else e

/-- The entry under one key is gone. -/
def dropKey (l : Ledger) (key : String) : Ledger :=
  l.map fun e => { e with
    accessLive := e.accessLive && e.info.accessToken != key
    refreshLive := e.refreshLive && refreshTokenIndex e.info.refreshToken != key }

/-- What the outcome of an operation does to the tokens that are out. -/
def note (cfg : Config) (l : Ledger) : Op → Outcome → Ledger
  | .signIn _ now, .session s => l.issue cfg now s
  | .validate token, .error e => if e.code = some "access_token_expired" then l.dropKey token else l
  | .refresh token now, .session s => (l.finish (·.info.refreshToken = token)).issue cfg now s
  | .refresh token _, .error e =>
    if e.code = some "refresh_token_expired" then l.finish (·.info.refreshToken = token) else l
  | .close token, .closed true => l.finish (·.info.accessToken = token)
  | .close token, .closed false => l.dropKey token
  | _, _ => l

end Ledger

/-- The ledger as a history of the run. -/
def noteStep (cfg : Config) (ids : IdSource) (s : Storage) (op : Op) (_ : Storage) (l : Ledger) : Ledger :=
  l.note cfg op (perform cfg ids s op).1

/-! ## The store is what the ledger says -/

/-- The live entries of a session: one under its access token, one under the index of its refresh token. -/
def Issued.Entry (e : Issued) (key : String) (info : SessionInfo) : Prop :=
  (e.accessLive = true ∧ key = e.info.accessToken ∧ info = e.info) ∨
    (e.refreshLive = true ∧ key = refreshTokenIndex e.info.refreshToken ∧ info = e.refreshInfo)

/-- The sessions of the ledger carry the ids generated so far, in order, and the store holds their live
entries and nothing else. -/
structure Agrees (ids : IdSource) (s : Storage) (l : Ledger) : Prop where
  next : s.next = 2 * l.length
  tokens : ∀ (i : Nat) (e : Issued), l[i]? = some e → e.info.accessToken = ids.id (2 * i) ∧
    e.info.refreshToken = ids.id (2 * i + 1)
  copy : ∀ e ∈ l, e.refreshInfo.accessToken = e.info.accessToken ∧ e.refreshInfo.refreshToken = e.info.refreshToken
  entries : ∀ key info, s.db.get key = some info ↔ ∃ e ∈ l, e.Entry key info

namespace Agrees

variable {cfg : Config} {ids : IdSource} {s : Storage} {l : Ledger}

theorem access_ne_index (h : Agrees ids s l) {e : Issued} (he : e ∈ l) (r : String) :
    e.info.accessToken ≠ refreshTokenIndex r := by
  obtain ⟨i, hi⟩ := List.mem_iff_getElem?.1 he
  rw [(h.tokens i e hi).1]
  exact ids.ne_index _ r

theorem refresh_ne_empty (h : Agrees ids s l) {e : Issued} (he : e ∈ l) : e.info.refreshToken ≠ "" := by
  obtain ⟨i, hi⟩ := List.mem_iff_getElem?.1 he
  rw [(h.tokens i e hi).2]
  exact ids.nonempty _

theorem same_access (h : Agrees ids s l) {e e' : Issued} (he : e ∈ l) (he' : e' ∈ l)
    (htoken : e.info.accessToken = e'.info.accessToken) : e = e' := by
  obtain ⟨i, hi⟩ := List.mem_iff_getElem?.1 he
  obtain ⟨j, hj⟩ := List.mem_iff_getElem?.1 he'
  rw [(h.tokens i e hi).1, (h.tokens j e' hj).1] at htoken
  have hij := ids.injective _ _ htoken
  obtain rfl : i = j := by omega
  exact Option.some.inj (hi.symm.trans hj)

theorem same_refresh (h : Agrees ids s l) {e e' : Issued} (he : e ∈ l) (he' : e' ∈ l)
    (htoken : e.info.refreshToken = e'.info.refreshToken) : e = e' := by
  obtain ⟨i, hi⟩ := List.mem_iff_getElem?.1 he
  obtain ⟨j, hj⟩ := List.mem_iff_getElem?.1 he'
  rw [(h.tokens i e hi).2, (h.tokens j e' hj).2] at htoken
  have hij := ids.injective _ _ htoken
  obtain rfl : i = j := by omega
  exact Option.some.inj (hi.symm.trans hj)

/-- The ids generated next are on no session yet. -/
theorem next_fresh (h : Agrees ids s l) {e : Issued} (he : e ∈ l) :
    e.info.accessToken ≠ ids.id s.next ∧ e.info.refreshToken ≠ ids.id (s.next + 1) := by
  obtain ⟨i, hi⟩ := List.mem_iff_getElem?.1 he
  have hlt := (List.getElem?_eq_some_iff.1 hi).1
  obtain ⟨haccess, hrefresh⟩ := h.tokens i e hi
  have hnext := h.next
  constructor
  · intro heq
    have := ids.injective _ _ (haccess ▸ heq)
    omega
  · intro heq
    have := ids.injective _ _ (hrefresh ▸ heq)
    omega

theorem init : Agrees ids Storage.init [] where
  next := rfl
  tokens i e h := by simp at h
  copy e h := by simp at h
  entries key info := by simp [Storage.init]

/-- A new session is stored. -/
theorem issue (h : Agrees ids s l) (now : Time) {session : SessionInfo} (haccess : session.accessToken = ids.id s.next)
    (hrefresh : session.refreshToken = ids.id (s.next + 1)) :
    Agrees ids ⟨storeSession cfg now s.db session, s.next + 2⟩ (l.issue cfg now session) := by
  have hnext := h.next
  refine ⟨?_, ?_, ?_, ?_⟩
  · simp only [Ledger.issue, List.length_append, List.length_singleton]
    omega
  · intro i e hi
    rw [Ledger.issue, List.getElem?_append] at hi
    split at hi
    · exact h.tokens i e hi
    · next hlt =>
      obtain ⟨hlt', rfl⟩ := List.getElem?_eq_some_iff.1 hi
      have hlast : i - l.length < 1 := hlt'
      have hil : i = l.length := by omega
      simp [haccess, hrefresh, hnext, hil]
  · intro e he
    rcases List.mem_append.1 he with he | he
    · exact h.copy e he
    · rw [List.mem_singleton.1 he]
      exact ⟨rfl, rfl⟩
  · intro key info
    have hne : session.accessToken ≠ refreshTokenIndex session.refreshToken := haccess ▸ ids.ne_index _ _
    -- no older session has one of the two new keys
    have hold : s.db.get key = some info →
        key ≠ refreshTokenIndex session.refreshToken ∧ key ≠ session.accessToken := by
      intro hget
      obtain ⟨e, he, ⟨_, rfl, _⟩ | ⟨_, rfl, _⟩⟩ := (h.entries key info).1 hget
      · exact ⟨h.access_ne_index he _, haccess ▸ (h.next_fresh he).1⟩
      · refine ⟨fun hkey => ?_, fun hkey => ids.ne_index _ _ (haccess.symm.trans hkey.symm)⟩
        exact (h.next_fresh he).2 ((refreshTokenIndex_inj.1 hkey).trans hrefresh)
    have hlive : (∃ e ∈ l.issue cfg now session, e.Entry key info) ↔ s.db.get key = some info ∨
        (key = session.accessToken ∧ info = session) ∨
          (key = refreshTokenIndex session.refreshToken ∧ info = refreshEntry cfg now session) := by
      rw [h.entries]
      simp [Ledger.issue, Issued.Entry, or_and_right, exists_or]
    rw [hlive, storeSession, KeyValue.get_set, KeyValue.get_set]
    split
    · next hkey =>
      constructor
      · intro hinfo
        exact .inr (.inr ⟨hkey, (Option.some.inj hinfo).symm⟩)
      · rintro (hget | ⟨haccess, _⟩ | ⟨_, rfl⟩)
        · exact ((hold hget).1 hkey).elim
        · exact (hne (haccess.symm.trans hkey)).elim
        · rfl
    · next hindex =>
      split
      · next hkey =>
        constructor
        · intro hinfo
          exact .inr (.inl ⟨hkey, (Option.some.inj hinfo).symm⟩)
        · rintro (hget | ⟨_, rfl⟩ | ⟨hkey', _⟩)
          · exact ((hold hget).2 hkey).elim
          · rfl
          · exact (hindex hkey').elim
      · next hkey =>
        constructor
        · exact .inl
        · rintro (hget | ⟨hkey', _⟩ | ⟨hkey', _⟩)
          · exact hget
          · exact (hkey hkey').elim
          · exact (hindex hkey').elim

/-- One key is erased. -/
theorem dropKey (h : Agrees ids s l) (key : String) :
    Agrees ids { s with db := s.db.erase key } (l.dropKey key) := by
  refine ⟨?_, ?_, ?_, ?_⟩
  · rw [Ledger.dropKey, List.length_map]
    exact h.next
  · intro i e hi
    rw [Ledger.dropKey, List.getElem?_map] at hi
    obtain ⟨e', he', rfl⟩ := Option.map_eq_some_iff.1 hi
    exact h.tokens i e' he'
  · intro e he
    obtain ⟨e', he', rfl⟩ := List.mem_map.1 he
    exact h.copy e' he'
  · intro k info
    simp only [Ledger.dropKey, List.mem_map, exists_exists_and_eq_and, KeyValue.get_erase]
    by_cases hk : k = key
    · rw [if_pos hk]
      simp only [reduceCtorEq, false_iff, not_exists, not_and]
      rintro e _ (⟨hlive, hkey, _⟩ | ⟨hlive, hkey, _⟩)
      · simp only [Bool.and_eq_true, bne_iff_ne] at hlive
        exact hlive.2 (hkey.symm.trans hk)
      · simp only [Bool.and_eq_true, bne_iff_ne] at hlive
        exact hlive.2 (hkey.symm.trans hk)
    · rw [if_neg hk, h.entries]
      refine exists_congr fun e => and_congr_right fun _ => ?_
      simp only [Issued.Entry, Bool.and_eq_true, bne_iff_ne]
      constructor
      · rintro (⟨hlive, hkey, hinfo⟩ | ⟨hlive, hkey, hinfo⟩)
        · exact .inl ⟨⟨hlive, hkey ▸ hk⟩, hkey, hinfo⟩
        · exact .inr ⟨⟨hlive, hkey ▸ hk⟩, hkey, hinfo⟩
      · rintro (⟨⟨hlive, _⟩, hkey, hinfo⟩ | ⟨⟨hlive, _⟩, hkey, hinfo⟩)
        · exact .inl ⟨hlive, hkey, hinfo⟩
        · exact .inr ⟨hlive, hkey, hinfo⟩

/-- Both keys of one session are erased. -/
theorem finish (h : Agrees ids s l) {p : Issued → Bool} {e₀ : Issued} (he₀ : e₀ ∈ l)
    (hp : ∀ e ∈ l, p e = true ↔ e = e₀) :
    Agrees ids { s with db := (s.db.erase (refreshTokenIndex e₀.info.refreshToken)).erase e₀.info.accessToken }
      (l.finish p) := by
  have htokens : ∀ e : Issued, (if p e then { e with accessLive := false, refreshLive := false } else e).info = e.info ∧
      (if p e then { e with accessLive := false, refreshLive := false } else e).refreshInfo = e.refreshInfo := by
    intro e
    split <;> exact ⟨rfl, rfl⟩
  refine ⟨?_, ?_, ?_, ?_⟩
  · rw [Ledger.finish, List.length_map]
    exact h.next
  · intro i e hi
    rw [Ledger.finish, List.getElem?_map] at hi
    obtain ⟨e', he', rfl⟩ := Option.map_eq_some_iff.1 hi
    rw [(htokens e').1]
    exact h.tokens i e' he'
  · intro e he
    obtain ⟨e', he', rfl⟩ := List.mem_map.1 he
    rw [(htokens e').1, (htokens e').2]
    exact h.copy e' he'
  · intro k info
    simp only [Ledger.finish, List.mem_map, exists_exists_and_eq_and, KeyValue.get_erase]
    -- the keys of another session are not erased
    have hother : ∀ e ∈ l, e ≠ e₀ → e.Entry k info →
        k ≠ e₀.info.accessToken ∧ k ≠ refreshTokenIndex e₀.info.refreshToken := by
      rintro e he hne (⟨_, rfl, _⟩ | ⟨_, rfl, _⟩)
      · exact ⟨fun hkey => hne (h.same_access he he₀ hkey), h.access_ne_index he _⟩
      · refine ⟨(h.access_ne_index he₀ _).symm, fun hkey => hne ?_⟩
        exact h.same_refresh he he₀ (refreshTokenIndex_inj.1 hkey)
    constructor
    · intro hget
      split at hget
      · cases hget
      · next haccess =>
        split at hget
        · cases hget
        · next hindex =>
          obtain ⟨e, he, hentry⟩ := (h.entries k info).1 hget
          refine ⟨e, he, ?_⟩
          rw [if_neg]
          · exact hentry
          · intro hpe
            rw [(hp e he).1 hpe] at hentry
            rcases hentry with ⟨_, hkey, _⟩ | ⟨_, hkey, _⟩
            · exact haccess hkey
            · exact hindex hkey
    · rintro ⟨e, he, hentry⟩
      by_cases hpe : p e = true
      · rw [if_pos hpe] at hentry
        rcases hentry with ⟨hlive, _⟩ | ⟨hlive, _⟩ <;> cases hlive
      · rw [if_neg hpe] at hentry
        obtain ⟨haccess, hindex⟩ := hother e he (fun heq => hpe ((hp e he).2 heq)) hentry
        rw [if_neg haccess, if_neg hindex, h.entries]
        exact ⟨e, he, hentry⟩

/-! ### What each operation finds -/

theorem get_empty (h : Agrees ids s l) : s.db.get "" = none := by
  cases hget : s.db.get "" with
  | none => rfl
  | some info =>
    obtain ⟨e, he, ⟨_, hkey, _⟩ | ⟨_, hkey, _⟩⟩ := (h.entries "" info).1 hget
    · obtain ⟨i, hi⟩ := List.mem_iff_getElem?.1 he
      exact absurd (hkey.trans (h.tokens i e hi).1).symm (ids.nonempty _)
    · exact absurd hkey.symm (refreshTokenIndex_ne_empty _)

/-- A close finds nothing, a session by its access token, or the refresh entry that the string names. -/
theorem close_cases (h : Agrees ids s l) (token : String) :
    (s.db.get token = none ∧ closeSession s token = (.error (closingError token), s)) ∨
    (∃ e ∈ l, e.accessLive = true ∧ e.info.accessToken = token ∧ closeSession s token =
      (.closed true, { s with db := (s.db.erase (refreshTokenIndex e.info.refreshToken)).erase e.info.accessToken })) ∨
    (∃ e ∈ l, e.refreshLive = true ∧ refreshTokenIndex e.info.refreshToken = token ∧
      closeSession s token = (.closed false, { s with db := s.db.erase token })) := by
  cases hget : s.db.get token with
  | none => exact .inl ⟨rfl, by simp [closeSession, getSession, hget]⟩
  | some info =>
    obtain ⟨e, he, hentry⟩ := (h.entries token info).1 hget
    have hne := h.refresh_ne_empty he
    rcases hentry with ⟨hlive, rfl, rfl⟩ | ⟨hlive, rfl, rfl⟩
    · refine .inr (.inl ⟨e, he, hlive, rfl, ?_⟩)
      have hstill : ((s.db.erase (refreshTokenIndex e.info.refreshToken)).get e.info.accessToken).isSome = true := by
        rw [KeyValue.get_erase_other _ (h.access_ne_index he _), hget]
        rfl
      simp [closeSession, getSession, hget, deleteSession, deleteRefresh, Option.filter, hne, hstill]
    · refine .inr (.inr ⟨e, he, hlive, rfl, ?_⟩)
      simp [closeSession, getSession, hget, deleteSession, deleteRefresh, Option.filter, (h.copy e he).2, hne,
        KeyValue.erase_absent]

/-- A refresh finds nothing, or the refresh entry of a live refresh token. -/
theorem refresh_cases (h : Agrees ids s l) (token : String) :
    (getSession s.db "" (some token) = none) ∨
    (∃ e ∈ l, e.refreshLive = true ∧ e.info.refreshToken = token ∧
      getSession s.db "" (some token) = some e.refreshInfo) := by
  by_cases hempty : token = ""
  · refine .inl ?_
    rw [hempty]
    exact h.get_empty
  · have hsearch : getSession s.db "" (some token) = s.db.get (refreshTokenIndex token) := by
      simp [getSession, Option.filter, hempty]
    rw [hsearch]
    cases hget : s.db.get (refreshTokenIndex token) with
    | none => exact .inl rfl
    | some info =>
      obtain ⟨e, he, ⟨_, hkey, _⟩ | ⟨hlive, hkey, rfl⟩⟩ := (h.entries _ info).1 hget
      · exact absurd hkey.symm (h.access_ne_index he _)
      · exact .inr ⟨e, he, hlive, (refreshTokenIndex_inj.1 hkey).symm, rfl⟩

/-- The two keys that `refresh_session` erases, when it accepts or finds the token expired. -/
theorem refresh_deletes (h : Agrees ids s l) {e : Issued} (he : e ∈ l) (db : SessionDb) :
    (deleteSession db e.refreshInfo.accessToken (some e.info.refreshToken)).1 =
      (db.erase (refreshTokenIndex e.info.refreshToken)).erase e.info.accessToken := by
  simp [deleteSession, deleteRefresh, Option.filter, h.refresh_ne_empty he, (h.copy e he).1]

theorem same_refresh_iff (h : Agrees ids s l) {e₀ : Issued} (he₀ : e₀ ∈ l) :
    ∀ e ∈ l, decide (e.info.refreshToken = e₀.info.refreshToken) = true ↔ e = e₀ := by
  intro e he
  rw [decide_eq_true_iff]
  exact ⟨h.same_refresh he he₀, fun heq => by rw [heq]⟩

theorem same_access_iff (h : Agrees ids s l) {e₀ : Issued} (he₀ : e₀ ∈ l) :
    ∀ e ∈ l, decide (e.info.accessToken = e₀.info.accessToken) = true ↔ e = e₀ := by
  intro e he
  rw [decide_eq_true_iff]
  exact ⟨h.same_access he he₀, fun heq => by rw [heq]⟩

/-- Erasing old keys and storing a new session commute: the keys differ. -/
theorem store_erase (h : Agrees ids s l) {e : Issued} (he : e ∈ l) (now : Time) {session : SessionInfo}
    (haccess : session.accessToken = ids.id s.next) (hrefresh : session.refreshToken = ids.id (s.next + 1)) :
    ((storeSession cfg now s.db session).erase (refreshTokenIndex e.info.refreshToken)).erase e.info.accessToken =
      storeSession cfg now ((s.db.erase (refreshTokenIndex e.info.refreshToken)).erase e.info.accessToken) session := by
  have hfresh := h.next_fresh he
  have h1 : refreshTokenIndex session.refreshToken ≠ refreshTokenIndex e.info.refreshToken := by
    rw [Ne, refreshTokenIndex_inj, hrefresh]
    exact hfresh.2.symm
  have h2 : refreshTokenIndex session.refreshToken ≠ e.info.accessToken := (h.access_ne_index he _).symm
  have h3 : session.accessToken ≠ refreshTokenIndex e.info.refreshToken := haccess ▸ ids.ne_index _ _
  have h4 : session.accessToken ≠ e.info.accessToken := haccess ▸ hfresh.1.symm
  ext k
  simp only [storeSession, KeyValue.get_set, KeyValue.get_erase]
  by_cases hk : k = refreshTokenIndex session.refreshToken
  · simp [hk, h1, h2]
  · by_cases hk' : k = session.accessToken
    · simp [hk', h3, h4]
    · simp [hk, hk']

/-- **Step lemma.** Every operation keeps the store what the ledger says. -/
theorem step (h : Agrees ids s l) (op : Op) :
    Agrees ids (perform cfg ids s op).2 (l.note cfg op (perform cfg ids s op).1) := by
  cases op with
  | signIn userId now => exact h.issue now rfl rfl
  | validate token =>
    simp only [perform, validateSession]
    split
    · split
      · exact h
      · exact h.dropKey token
    · exact h
  | close token =>
    simp only [perform]
    rcases h.close_cases token with ⟨_, hclose⟩ | ⟨e, he, _, htoken, hclose⟩ | ⟨e, he, _, htoken, hclose⟩
    · rw [hclose]
      exact h
    · rw [hclose, ← htoken]
      exact h.finish he (h.same_access_iff he)
    · rw [hclose]
      exact h.dropKey token
  | refresh token now =>
    simp only [perform, refreshSession]
    rcases h.refresh_cases token with hnone | ⟨e, he, _, rfl, hsome⟩
    · rw [hnone]
      exact h
    · rw [hsome]
      have hfinish := h.finish he (h.same_refresh_iff he)
      simp only
      split
      · rw [h.refresh_deletes he, h.store_erase he now rfl rfl]
        exact hfinish.issue now rfl rfl
      · rw [h.refresh_deletes he]
        exact hfinish

end Agrees

/-! ## The result -/

/-- What one operation may do, given what the ledger says before it. -/
def Separated (cfg : Config) (ids : IdSource) (s : Storage) (l : Ledger) (op : Op) : Prop :=
  match op with
  | .signIn _ _ => True
  | .validate token => ∀ info, (perform cfg ids s op).1 = .session info → l.LiveAccess token
  | .refresh token _ => ∀ info, (perform cfg ids s op).1 = .session info → l.LiveRefresh token
  | .close token =>
    ((perform cfg ids s op).1 = .closed true → l.LiveAccess token) ∧
      ((perform cfg ids s op).1 ≠ .closed true → (perform cfg ids s op).2.db = s.db)

/-- The string is `"R"` and a live refresh token. -/
def RefreshKey (l : Ledger) (token : String) : Prop :=
  ∃ e ∈ l, e.refreshLive = true ∧ refreshTokenIndex e.info.refreshToken = token

/-- The operation takes such a string for an access token; a validation does no harm when the entry it
finds has expired. -/
def TakesRefreshKey (cfg : Config) (s : Storage) (l : Ledger) : Op → Prop
  | .validate token => RefreshKey l token ∧ (s.db.get token).any (·.stillActive cfg) = true
  | .close token => RefreshKey l token
  | .signIn _ _ | .refresh _ _ => False

namespace Agrees

variable {cfg : Config} {ids : IdSource} {s : Storage} {l : Ledger}

/-- A string that is the access token of a session is the key of no refresh entry. -/
theorem not_refreshKey (h : Agrees ids s l) {e : Issued} (he : e ∈ l) : ¬ RefreshKey l e.info.accessToken := by
  rintro ⟨_, _, _, hkey⟩
  exact h.access_ne_index he _ hkey.symm

theorem not_liveAccess (h : Agrees ids s l) (r : String) : ¬ l.LiveAccess (refreshTokenIndex r) := by
  rintro ⟨e, he, _, htoken⟩
  exact h.access_ne_index he _ htoken

theorem refreshKey_get (h : Agrees ids s l) {token : String} (hkey : RefreshKey l token) :
    (s.db.get token).isSome = true := by
  obtain ⟨e, he, hlive, hkey⟩ := hkey
  have hget := (h.entries token e.refreshInfo).2 ⟨e, he, .inr ⟨hlive, hkey.symm, rfl⟩⟩
  rw [hget]
  rfl

theorem separated_iff (h : Agrees ids s l) (op : Op) : Separated cfg ids s l op ↔ ¬ TakesRefreshKey cfg s l op := by
  cases op with
  | signIn userId now => exact iff_of_true trivial id
  | refresh token now =>
    refine iff_of_true ?_ id
    intro info hinfo
    rcases h.refresh_cases token with hnone | ⟨e, he, hlive, htoken, _⟩
    · simp only [perform, refreshSession, hnone] at hinfo
      cases hinfo
    · exact ⟨e, he, hlive, htoken⟩
  | validate token =>
    simp only [Separated, TakesRefreshKey, perform, validateSession]
    have hsearch : getSession s.db token none = s.db.get token := rfl
    rw [hsearch]
    cases hget : s.db.get token with
    | none =>
      refine iff_of_true (fun info hinfo => by cases hinfo) ?_
      rintro ⟨_, hactive⟩
      cases hactive
    | some info =>
      cases hactive : info.stillActive cfg with
      | false => simp [hactive]
      | true =>
        obtain ⟨e, he, ⟨hlive, rfl, _⟩ | ⟨hlive, rfl, _⟩⟩ := (h.entries token info).1 hget
        · exact iff_of_true (fun _ _ => ⟨e, he, hlive, rfl⟩) fun hkey => h.not_refreshKey he hkey.1
        · refine iff_of_false (fun haccept => ?_) (not_not_intro ⟨⟨e, he, hlive, rfl⟩, by simpa using hactive⟩)
          exact h.not_liveAccess _ (haccept info (by simp [hactive]))
  | close token =>
    simp only [Separated, TakesRefreshKey, perform]
    rcases h.close_cases token with ⟨hnone, hclose⟩ | ⟨e, he, hlive, rfl, hclose⟩ | ⟨e, he, hlive, hkey, hclose⟩
    · rw [hclose]
      refine iff_of_true ⟨nofun, fun _ => rfl⟩ fun hkey => ?_
      have := h.refreshKey_get hkey
      rw [hnone] at this
      cases this
    · rw [hclose]
      exact iff_of_true ⟨fun _ => ⟨e, he, hlive, rfl⟩, fun hno => (hno rfl).elim⟩ (h.not_refreshKey he)
    · rw [hclose]
      have hrefresh : RefreshKey l token := ⟨e, he, hlive, hkey⟩
      refine iff_of_false ?_ (not_not_intro hrefresh)
      rintro ⟨_, hsame⟩
      have hgone : s.db.erase token = s.db := hsame nofun
      have hsome := h.refreshKey_get hrefresh
      rw [← hgone, KeyValue.get_erase_self] at hsome
      cases hsome

end Agrees

/-- **Separation of tokens**, for every run from an empty store, with any strings submitted as tokens.
Every step accepts only what the ledger allows, and a close that does not return true changes nothing,
exactly when no step takes the key of a live refresh entry for an access token. -/
theorem tokens_separated_iff (cfg : Config) (ids : IdSource) (ops : List Op) :
    Along (history (storageStep cfg ids) (noteStep cfg ids)) (fun p op _ => Separated cfg ids p.1 p.2 op)
        (Storage.init, []) ops ↔
      Along (history (storageStep cfg ids) (noteStep cfg ids)) (fun p op _ => ¬ TakesRefreshKey cfg p.1 p.2 op)
        (Storage.init, []) ops := by
  refine along_congr_invariant (I := fun p : Storage × Ledger => Agrees ids p.1 p.2) Agrees.init ?_ ?_
  · rintro ⟨s, l⟩ op ⟨t, l'⟩ hs hstep
    obtain ⟨hstep, hl⟩ := history_step.1 hstep
    obtain rfl : (perform cfg ids s op).2 = t := Option.some.inj hstep
    have hagrees : Agrees ids (perform cfg ids s op).2 (l.note cfg op (perform cfg ids s op).1) := hs.step op
    rw [show l' = l.note cfg op (perform cfg ids s op).1 from hl]
    exact hagrees
  · rintro ⟨s, l⟩ op t hs _
    exact hs.separated_iff op

/-- After a sign-in the key of its refresh entry validates as an access token. -/
theorem refreshKey_validates :
    ¬ ∀ (cfg : Config) (ids : IdSource) (ops : List Op),
      Along (history (storageStep cfg ids) (noteStep cfg ids)) (fun p op _ => Separated cfg ids p.1 p.2 op)
        (Storage.init, []) ops := by
  intro h
  have haccept := (along_snoc.1 (h {} unaryIds ([.signIn "user" 0] ++ [.validate "R00"]))).2 _ _ rfl rfl _ rfl
  obtain ⟨e, he, _, htoken⟩ := haccept
  obtain rfl := List.mem_singleton.1 he
  exact absurd htoken (by decide)

end PortaPhone.Sessions
