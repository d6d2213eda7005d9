import PortaPhone.Lib.KeyValue
/-!
# Session storage (`bss/sessions.py`, `bss/dbs`)

| here | there |
| --- | --- |
| `SessionDb`               | `TiedKeyValue` (`dbs/__init__.py:5`): one key space for both kinds of tokens |
| `IdSource`                | `generate_id` (`sessions.py:90`): two UUIDs in hex |
| `Config`                  | `SESSION_EXPIRATION`, `REFRESH_TOKEN_EXPIRATION` (`:71`, `:77`), and when `bss.types` was imported |
| `SessionInfo`, `stillActive` | `SessionInfo` (`models.py:801`, `types.py:206`) and `still_active`, whose default timestamp is evaluated at the import |
| `refreshTokenIndex`       | `__refresh_token_index` (`:84`) |
| `getSession`, `createSession`, `storeSession`, `deleteSession` | the methods of these names (`:94-152`) |

Times are microseconds. The store holds `SessionInfo` objects only, so the check of `refresh_session`
for objects of the old format is left out, as are the fields of a session that only sign-in sets.
-/

namespace PortaPhone.Sessions

/-- Microseconds. -/
abbrev Time := Int

def second : Time := 1000000
def minute : Time := 60 * second
def hour : Time := 60 * minute

structure SessionInfo where
  accessToken : String
  refreshToken : String
  userId : String
  expiresAt : Time
  expiresIn : Int
  documentTtl : Time
deriving DecidableEq, Repr

/-- In hours, but for the moment of the import. -/
structure Config where
  sessionExpiration : Int := 24
  refreshTokenExpiration : Int := 24 * 365
  importedAt : Time := 0

/-- What `uuid1` and `uuid4` give: a new string of hexadecimal digits each time. -/
structure IdSource where
  id : Nat → String
  injective : ∀ m n, id m = id n → m = n
  nonempty : ∀ n, id n ≠ ""
  hex : ∀ n, ∀ c ∈ (id n).toList, c ∈ "0123456789abcdef".toList

abbrev SessionDb := KeyValue String SessionInfo

/-- `still_active()` (`types.py:213`), which every caller calls without a timestamp. -/
def SessionInfo.stillActive (cfg : Config) (s : SessionInfo) : Bool := decide (cfg.importedAt < s.expiresAt)

def refreshTokenIndex (id : String) : String := "R" ++ id

/-- `get_session`: an empty refresh token is no refresh token. -/
def getSession (db : SessionDb) (accessToken : String) (refreshToken : Option String) : Option SessionInfo :=
  match refreshToken.filter (· ≠ "") with
  | some refreshToken => db.get (refreshTokenIndex refreshToken)
  | none => db.get accessToken

/-- `create_session`, with the two ids it generates. -/
def createSession (cfg : Config) (now : Time) (token refresh : String) (userId : String) : SessionInfo :=
  let expiration := now + cfg.sessionExpiration * hour
  let expiration := expiration - expiration % second
  { accessToken := token
    refreshToken := refresh
    userId
    expiresAt := expiration
    expiresIn := cfg.sessionExpiration * 3600
    documentTtl := expiration + 5 * minute }

/-- The copy of a session that is stored under its refresh token. -/
def refreshEntry (cfg : Config) (now : Time) (session : SessionInfo) : SessionInfo :=
  { session with expiresAt := now + cfg.refreshTokenExpiration * hour }

def storeSession (cfg : Config) (now : Time) (db : SessionDb) (session : SessionInfo) : SessionDb :=
  (db.set session.accessToken session).set (refreshTokenIndex session.refreshToken) (refreshEntry cfg now session)

/-- The first half of `delete_session`. -/
def deleteRefresh (db : SessionDb) (refreshToken : Option String) : SessionDb :=
  match refreshToken.filter (· ≠ "") with
  | some refreshToken => db.erase (refreshTokenIndex refreshToken)
  | none => db

/-- `delete_session`, with its result: whether there was a session under the access token. -/
def deleteSession (db : SessionDb) (accessToken : String) (refreshToken : Option String) : SessionDb × Bool :=
  let db := deleteRefresh db refreshToken
  (db.erase accessToken, (db.get accessToken).isSome)

/-! ## The key space -/

theorem refreshTokenIndex_inj {r r' : String} : refreshTokenIndex r = refreshTokenIndex r' ↔ r = r' := by
  constructor
  · intro h
    have hlist := congrArg String.toList h
    simp only [refreshTokenIndex, String.toList_append, List.append_cancel_left_eq] at hlist
    exact String.toList_inj.1 hlist
  · rintro rfl
    rfl

/-- No id is the key of a refresh entry. -/
theorem IdSource.ne_index (ids : IdSource) (n : Nat) (r : String) : ids.id n ≠ refreshTokenIndex r := by
  intro h
  have hmem : 'R' ∈ (ids.id n).toList := by
    rw [h]
    simp [refreshTokenIndex]
  exact absurd (ids.hex n 'R' hmem) (by decide)

theorem refreshTokenIndex_ne_empty (r : String) : refreshTokenIndex r ≠ "" := by
  intro h
  have := congrArg String.toList h
  simp [refreshTokenIndex] at this

/-- `n + 1` digits. -/
def unaryIds : IdSource where
  id n := String.ofList (List.replicate (n + 1) '0')
  injective m n h := by
    have := congrArg (fun s => s.toList.length) h
    simpa using this
  nonempty n h := by
    have := congrArg String.toList h
    simp at this
  hex n c hc := by
    have : c = '0' := by simpa using hc
    simp [this]

end PortaPhone.Sessions
