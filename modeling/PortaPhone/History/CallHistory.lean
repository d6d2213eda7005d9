import PortaPhone.History.CallRange
import PortaPhone.Lib.Requests
import PortaPhone.Recordings.RecordingId
/-!
# The call history (`portaswitch/adapter.py`)

| here | there |
| --- | --- |
| `retrieveCalls`       | `retrieve_calls` (`adapter.py:1958`) |
| `XdrListParams`       | the parameters of `get_xdr_list` (`api/account.py:212`) |
| `portaswitchRelease`, `recordingsByCrDownloadIds` | `_portaswitch_release` (`adapter.py:511`), `_recordings_by_cr_download_ids` (`:539`) |
| `getCdrInfo`, `parseCdrDirection`, `parseCallStatus`, `callRecordingExist` | the functions of these names (`serializer.py:428`, `:494`, `:509`, `:563`) |

`Platform` leaves open which characters are digits and how `%Y` writes a year.
-/

namespace PortaPhone.History

open Contacts (Attr)
open Requests

structure Platform where
  digit : Char → Option Nat
  yearText : Nat → List Char

/-- What ends a request for the history. -/
inductive Failure
  | raised (error : Contacts.Raised)
  | date (error : DateTime.Error)
  | recording (error : Recordings.Raised)
deriving DecidableEq, Repr

/-! ## Calls -/

inductive Direction
  | unknown
  | incoming
  | outgoing
  | forwarded
deriving DecidableEq, Repr

inductive ConnectStatus
  | accepted
  | declined
  | missed
  | failed
  | completedElsewhere
  | error
deriving DecidableEq, Repr

/-- A row of the call history in the switch. -/
structure Xdr where
  callId : Attr String := .absent
  cli : Attr String := .absent
  cld : Attr String := .absent
  unixConnectTime : Attr Int := .absent
  unixDisconnectTime : Attr Int := .absent
  disconnectReason : Attr String := .absent
  chargedQuantity : Attr Int := .absent
  bitFlags : Attr Nat := .absent
  crDownloadIds : Attr (List Int) := .absent
  disconnectCause : Attr Int := .absent
  failed : Attr Int := .absent
  cdrInfo : Recordings.CdrInfo
deriving DecidableEq, Repr

structure CDRInfo where
  callId : Option String
  caller : String
  callee : String
  connectTime : DateTime
  direction : Direction
  disconnectReason : Option String
  disconnectTime : DateTime
  duration : Option Int
  recordingId : Option Text
  status : ConnectStatus
deriving DecidableEq, Repr

def lookup {α : Type} : Except Contacts.Raised α → Except Failure α := Except.mapError Failure.raised

/-- `record[key]`, where null is none of the values computed with. -/
def number {α : Type} (key : String) (a : Attr α) : Except Failure α :=
  match a.index key with
  | .ok (some v) => .ok v
  | .ok none => .error (.raised .typeError)
  | .error e => .error (.raised e)

def parseCdrDirection (cdr : Xdr) : Except Failure Direction := do
  let maskedValue := (← number "bit_flags" cdr.bitFlags) &&& 12
  return if maskedValue = 4 then .outgoing
    else if maskedValue = 8 then .incoming
    else if maskedValue = 12 then .forwarded
    else .unknown

def xdrToCallStatus (failed : Bool) (disconnectCause : Int) (direction : Direction) : ConnectStatus :=
  if failed ∧ direction = .outgoing ∧ disconnectCause = 1 then .failed
  else if failed ∧ disconnectCause ∈ [16, 17] then .declined
  else if failed ∧ disconnectCause = 21 ∧ direction = .incoming then .declined
  else if failed ∧ disconnectCause ∈ [18, 19] then .missed
  else if failed ∧ disconnectCause = 130 then .completedElsewhere
  else if ¬failed ∧ disconnectCause = 16 then .accepted
  else .error

def parseCallStatus (cdr : Xdr) : Except Failure ConnectStatus := do
  let cause ← number "disconnect_cause" cdr.disconnectCause
  let failed ← lookup (cdr.failed.index "failed")
  return xdrToCallStatus (failed = some 1) cause (← parseCdrDirection cdr)

def callRecordingExist (cdr : Xdr) (byCrDownloadIds : Bool) : Bool :=
  if byCrDownloadIds then (cdr.crDownloadIds.get?.getD []) ≠ []
  else ((cdr.bitFlags.get?.getD 0) &&& 64) ≠ 0

/-- `datetime.fromtimestamp(n, timezone.utc)`. -/
def fromTimestamp (n : Int) : Except Failure DateTime :=
  match DateTime.ofWall (callHistoryMinDate.wall + n * 1000000) with
  | some d => .ok d.inUtc
  | none => .error (.raised .valueError)

def getCdrInfo (byCrDownloadIds : Bool) (cdr : Xdr) : Except Failure CDRInfo := do
  let cli ← lookup (cdr.cli.index "CLI")
  let cld ← lookup (cdr.cld.index "CLD")
  let connectTime ← fromTimestamp (← number "unix_connect_time" cdr.unixConnectTime)
  let direction ← parseCdrDirection cdr
  let disconnectReason ← lookup (cdr.disconnectReason.index "disconnect_reason")
  let disconnectTime ← fromTimestamp (← number "unix_disconnect_time" cdr.unixDisconnectTime)
  let duration ← lookup (cdr.chargedQuantity.index "charged_quantity")
  let recordingId ←
    if callRecordingExist cdr byCrDownloadIds then
      some <$> (Recordings.composeRecordingId cdr.cdrInfo).mapError Failure.recording
    else pure none
  let status ← parseCallStatus cdr
  return {
    callId := cdr.callId.get?
    caller := ← lookup (Contacts.requireStr "caller" cli)
    callee := ← lookup (Contacts.requireStr "callee" cld)
    connectTime, direction, disconnectReason, disconnectTime, duration, recordingId, status }

/-! ## Requests -/

/-- `with_cr_download_ids` is sent as 1 or not at all. -/
structure XdrListParams where
  iServiceType : Nat := 3
  getTotal : Nat := 1
  showUnsuccessful : Nat := 1
  limit : Int
  offset : Int
  fromDate : List Char
  toDate : List Char
  withCrDownloadIds : Bool
deriving DecidableEq, Repr

inductive Request
  | getVersion
  | getXdrList (params : XdrListParams) (accessToken : String)
deriving DecidableEq, Repr

structure XdrList where
  xdrList : Attr (List Xdr) := .absent
  total : Attr Int := .absent
deriving DecidableEq, Repr

/-- What the switch answers, after the requests that have been sent. -/
structure Switch where
  getVersion : List Request → Except Contacts.Raised (Option String)
  getXdrList : List Request → Except Contacts.Raised XdrList

/-! ## How recordings are told -/

def portaswitchVersionCacheTtl : Int := 3600

def portaswitchVersionRetryAfter : Int := 60

/-- The number in `PORTASWITCH_VERSION_WITH_CR_DOWNLOAD_IDS`. -/
def releaseWithCrDownloadIds : List Int := [129]

/-- `[int(d) for d in re.findall(r"\d+", version or "")] or None`; a number of too many digits raises. -/
def releaseOf (P : Platform) (version : Option String) : Option (List Int) :=
  let runs := ((version.getD "").toList.splitOnP fun c => (P.digit c).isNone).filter (· ≠ [])
  (runs.mapM fun run => Json.intLiteral P.digit (String.ofList run)).filter (· ≠ [])

/-- The release that was read at a monotonic time, while it is fresh. -/
def freshRelease (cached : Option (Int × Option (List Int))) (monotonic : Int) : Option (Option (List Int)) :=
  cached.bind fun entry =>
    let ttl := if entry.2.isSome then portaswitchVersionCacheTtl else portaswitchVersionRetryAfter
    if monotonic - entry.1 < ttl then some entry.2 else none

/-- Every exception of the request is caught. -/
def portaswitchRelease (P : Platform) (switch : Switch) (cached : Option (Int × Option (List Int))) (monotonic : Int) :
    Sends Request Failure (Option (List Int)) :=
  match freshRelease cached monotonic with
  | some release => pure release
  | none => do
    let version ← Sends.send .getVersion fun log => .ok (switch.getVersion log)
    return version.toOption.bind (releaseOf P)

def recordingsByCrDownloadIds (P : Platform) (switch : Switch)
    (cached : Option (Int × Option (List Int))) (monotonic : Int) :
    Sends Request Failure Bool := do
  match ← portaswitchRelease P switch cached monotonic with
  | none => return true
  | some release => return !decide (release < releaseWithCrDownloadIds)

/-! ## The history -/

/-- The `except` clause. -/
def expired : Failure → Failure
  | .raised (.webTrit (some "Client.Session.check_auth.failed_to_process_access_token")) => .raised .accessTokenExpired
  | error => error

structure HistoryRequest where
  accessToken : String
  page : Int := 1
  itemsPerPage : Int := 100
  timeFrom : Option DateTime := none
  timeTo : Option DateTime := none
  timeFloor : Option DateTime := none
deriving DecidableEq, Repr

def HistoryRequest.params (r : HistoryRequest) (P : Platform) (timeFrom timeTo : DateTime) (withCrDownloadIds : Bool) :
    XdrListParams where
  limit := r.itemsPerPage
  offset := r.itemsPerPage * (r.page - 1)
  fromDate := timeFrom.strftime P.yearText
  toDate := timeTo.strftime P.yearText
  withCrDownloadIds

/-- The rows and the total of an answer. -/
def calls (byCrDownloadIds : Bool) (result : XdrList) : Except Failure (List CDRInfo × Option Int) := do
  let rows ← number "xdr_list" result.xdrList
  let infos ← rows.mapM (getCdrInfo byCrDownloadIds)
  return (infos, ← lookup (result.total.index "total"))

def retrieveCalls (P : Platform) (switch : Switch) (cached : Option (Int × Option (List Int))) (monotonic : Int)
    (now : DateTime) (windowHours : Nat) (r : HistoryRequest) : Sends Request Failure (List CDRInfo × Option Int) :=
  Sends.mapError expired do
    let (timeFrom, timeTo) ← Sends.lift
      ((callHistoryRange now windowHours r.timeFrom r.timeTo r.timeFloor).mapError Failure.date)
    let empty ← Sends.lift
      (if r.timeFloor.isSome then (timeTo.notAfter timeFrom).mapError Failure.date else .ok false)
    if empty then return ([], some 0)
    let byCrDownloadIds ← recordingsByCrDownloadIds P switch cached monotonic
    let result ← Sends.send (.getXdrList (r.params P timeFrom timeTo byCrDownloadIds) r.accessToken)
      fun log => lookup (switch.getXdrList log)
    Sends.lift (calls byCrDownloadIds result)

/-! ## When the switch is asked -/

variable {P : Platform} {switch : Switch} {cached : Option (Int × Option (List Int))} {monotonic : Int} {now : DateTime}
  {windowHours : Nat} {r : HistoryRequest} {start finish : DateTime}

variable (P switch cached monotonic) in
/-- The release is read at most once, and no exception of it ends the request. -/
theorem recordingsByCrDownloadIds_run (log : List Request) :
    ∃ byCrDownloadIds earlier, (earlier = [] ∨ earlier = [.getVersion]) ∧
      recordingsByCrDownloadIds P switch cached monotonic log = (.ok byCrDownloadIds, log ++ earlier) := by
  have hrelease : ∃ release earlier, (earlier = [] ∨ earlier = [Request.getVersion]) ∧
      portaswitchRelease P switch cached monotonic log = (.ok release, log ++ earlier) := by
    rw [portaswitchRelease]
    cases freshRelease cached monotonic with
    | some release => exact ⟨release, [], .inl rfl, by rw [List.append_nil]; rfl⟩
    | none => exact ⟨_, [.getVersion], .inr rfl, rfl⟩
  obtain ⟨release, earlier, hearlier, hrun⟩ := hrelease
  rw [recordingsByCrDownloadIds, run_bind_ok hrun]
  cases release with
  | none => exact ⟨true, earlier, hearlier, rfl⟩
  | some release => exact ⟨_, earlier, hearlier, rfl⟩

theorem retrieveCalls_run
    (hrange : callHistoryRange now windowHours r.timeFrom r.timeTo r.timeFloor = .ok (start, finish))
    (hnaive : start.offset = none ∧ finish.offset = none) (log : List Request) :
    (r.timeFloor.isSome = true ∧ finish.wall ≤ start.wall ∧
      retrieveCalls P switch cached monotonic now windowHours r log = (.ok ([], some 0), log)) ∨
    (¬(r.timeFloor.isSome = true ∧ finish.wall ≤ start.wall) ∧ ∃ byCrDownloadIds earlier,
      (earlier = [] ∨ earlier = [.getVersion]) ∧
        (retrieveCalls P switch cached monotonic now windowHours r log).2 =
          log ++ earlier ++ [.getXdrList (r.params P start finish byCrDownloadIds) r.accessToken]) := by
  have hempty : (if r.timeFloor.isSome then (finish.notAfter start).mapError Failure.date else .ok false) =
      .ok (r.timeFloor.isSome && decide (finish.wall ≤ start.wall)) := by
    rw [DateTime.notAfter_naive hnaive.2 hnaive.1]
    cases r.timeFloor.isSome with
    | true => rfl
    | false => rfl
  have hresolved :
      Sends.lift ((callHistoryRange now windowHours r.timeFrom r.timeTo r.timeFloor).mapError Failure.date) log =
      (.ok (start, finish), log) := by
    rw [hrange]
    rfl
  rw [retrieveCalls, run_mapError, run_bind_ok hresolved]
  dsimp only
  rw [hempty, run_bind_ok (run_lift _ log)]
  by_cases hcleared : r.timeFloor.isSome = true ∧ finish.wall ≤ start.wall
  · refine .inl ⟨hcleared.1, hcleared.2, ?_⟩
    rw [if_pos (by simpa using hcleared)]
    rfl
  · refine .inr ⟨hcleared, ?_⟩
    rw [if_neg (by simpa using hcleared)]
    obtain ⟨byCrDownloadIds, earlier, hearlier, hrun⟩ := recordingsByCrDownloadIds_run P switch cached monotonic log
    rw [run_bind_ok hrun, run_send_lift]
    exact ⟨byCrDownloadIds, earlier, hearlier, rfl⟩

/-- The second that is sent for a date. -/
theorem sent_instant {yearText : Nat → List Char} (hyear : Function.Injective yearText) {sent : DateTime}
    (hnaive : sent.offset = none ∧ start.offset = none) (hsecond : sent.microsecond = 0)
    (htext : sent.strftime yearText = start.strftime yearText) : sent.instant = start.wholeSecond.instant := by
  have hsame := congrArg DateTime.wall (DateTime.strftime_inj hyear htext)
  rw [DateTime.wholeSecond_wall, DateTime.wholeSecond_wall, DateTime.naive_wall, DateTime.naive_wall] at hsame
  rw [DateTime.instant_of_naive hnaive.1,
    DateTime.instant_of_naive (show start.wholeSecond.offset = none from hnaive.2),
    DateTime.wholeSecond_wall, ← show start.wall - (start.naive.microsecond : Int) =
      start.wall - start.microsecond from rfl,
    ← hsame]
  show sent.wall = sent.wall - (sent.microsecond : Int)
  rw [hsecond]
  exact (sub_zero _).symm

/-- **The history of a request.** For all bounds and every window a setting gives, the range is there and is the one
that the bounds ask for; a text that is sent for its start names no second before the floor. The answer is an empty
page without a request exactly where there is a floor and the start is not before the end; else the switch is asked
for the calls of the range. -/
theorem call_history (P : Platform) (switch : Switch) (cached : Option (Int × Option (List Int))) (monotonic : Int)
    (now : DateTime) (setting : RawSetting) (r : HistoryRequest) :
    ∃ start finish,
      callHistoryRange now (decodeCallHistoryDefaultWindowHours P.digit setting) r.timeFrom r.timeTo r.timeFloor =
        .ok (start, finish) ∧
      Resolves now (decodeCallHistoryDefaultWindowHours P.digit setting) r.timeFrom r.timeTo r.timeFloor start finish ∧
      (Function.Injective P.yearText → ∀ m ∈ r.timeFloor, Rounds m → ∀ sent : DateTime, sent.offset = none →
        sent.microsecond = 0 → sent.strftime P.yearText = start.strftime P.yearText → m.instant ≤ sent.instant) ∧
      ∀ log,
        (retrieveCalls P switch cached monotonic now (decodeCallHistoryDefaultWindowHours P.digit setting) r log =
            (.ok ([], some 0), log) ↔ r.timeFloor.isSome = true ∧ finish.instant ≤ start.instant) ∧
        (¬(r.timeFloor.isSome = true ∧ finish.instant ≤ start.instant) → ∃ byCrDownloadIds earlier,
          (earlier = [] ∨ earlier = [.getVersion]) ∧
            (retrieveCalls P switch cached monotonic now
              (decodeCallHistoryDefaultWindowHours P.digit setting) r log).2 =
              log ++ earlier ++ [.getXdrList (r.params P start finish byCrDownloadIds) r.accessToken]) := by
  obtain ⟨start, finish, hrange, hresolves⟩ :=
    callHistoryRange_resolves now r.timeFrom r.timeTo r.timeFloor (decode_le P.digit setting)
  have hstart := DateTime.instant_of_naive hresolves.naive.1
  have hfinish := DateTime.instant_of_naive hresolves.naive.2
  refine ⟨start, finish, hrange, hresolves, ?_, fun log => ?_⟩
  · intro hyear m hm hrounds sent hsent hsecond htext
    rw [sent_instant hyear ⟨hsent, hresolves.naive.1⟩ hsecond htext]
    exact (hresolves.floor m hm hrounds).2
  · rw [hstart, hfinish]
    rcases retrieveCalls_run hrange hresolves.naive log with ⟨hfloor, hle, hrun⟩ | ⟨hasked, hrun⟩
    · exact ⟨⟨fun _ => ⟨hfloor, hle⟩, fun _ => hrun⟩, fun h => absurd ⟨hfloor, hle⟩ h⟩
    · obtain ⟨byCrDownloadIds, earlier, hearlier, hlog⟩ := hrun
      refine ⟨⟨fun hquiet => ?_, fun h => absurd h hasked⟩, fun _ => ⟨byCrDownloadIds, earlier, hearlier, hlog⟩⟩
      -- the log is longer
      have hlength := congrArg List.length (hlog.symm.trans (congrArg Prod.snd hquiet))
      simp at hlength

/-- A range that ends before the history was cleared. -/
def clearedRequest : HistoryRequest where
  accessToken := "token"
  timeTo := some { DateTime.midnight 2026 10 28 (by decide) with hour := 12, time_range := by decide }
  timeFloor := some { DateTime.midnight 2026 10 28 (by decide) with
    hour := 13, microsecond := 500000, offset := some 3600000000, time_range := by decide, offset_range := by decide }

def samplePlatform : Platform where
  digit := Json.asciiDigit
  yearText year := (toString year).toList

theorem call_history_cleared : ∃ start finish,
    callHistoryRange callHistoryMinDate 24 clearedRequest.timeFrom clearedRequest.timeTo clearedRequest.timeFloor =
      .ok (start, finish) ∧
    (∀ m ∈ clearedRequest.timeFloor, m.instant ≤ start.wholeSecond.instant) ∧
    retrieveCalls samplePlatform ⟨fun _ => .error .typeError, fun _ => .error .typeError⟩ none 0 callHistoryMinDate 24
      clearedRequest [] = (.ok ([], some 0), []) := by
  obtain ⟨start, finish, hrange, hresolves, -, hasked⟩ := call_history samplePlatform
    ⟨fun _ => .error .typeError, fun _ => .error .typeError⟩ none 0 callHistoryMinDate .missing clearedRequest
  have hfloor := hresolves.floor _ rfl ⟨⟨by decide, by decide⟩, by decide⟩
  have hfinish := hresolves.to_kept _ rfl ⟨by decide, by decide⟩
  refine ⟨start, finish, hrange, ?_, (hasked []).1.2 ⟨rfl, ?_⟩⟩
  · rintro m hm
    obtain rfl := Option.some.inj hm
    exact hfloor.2
  · rw [hfinish]
    exact le_trans (by decide) hfloor.1

end PortaPhone.History
