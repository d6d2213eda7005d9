import PortaPhone.History.CallHistory
import PortaPhone.Lib.Calendar
import PortaPhone.Lib.Paging
/-!
# The call history in pages (`adapters/netsapiens.py`)

| here | there |
| --- | --- |
| `CdrService.serve`, `getCdrs` | the slices of the remote API, `NetsapiensAPI.get_cdrs` (`:241`) |
| `netsapiensToWebtritCdr`, `mapDisconnectStatus` | the functions of these names (`:629`, `:617`) |
| `retrieveCalls`       | `NetsapiensAdapter.retrieve_calls` (`:490`) |

All the CDRs are asked for, without a limit, and a page is cut from them; the total is the length of that page. What
`datetime.fromisoformat` makes of a text is left open: `fromIsoformat`, none where it raises.
`calls_pages_iff`: it is the number of CDRs only where they all fit on the page.
-/

namespace PortaPhone.Netsapiens

open Contacts (Attr isIn)
open History (ConnectStatus Direction)
open Paging

/-! ## The CDRs of a user -/

structure Cdr where
  callStartDatetime : Attr String := .absent
  callTotalDurationSeconds : Attr Int := .absent
  callOrigCallId : Attr String := .absent
  callDirection : Attr Int := .absent
  callOrigCallerId : Attr String := .absent
  callOrigRequestUser : Attr String := .absent
  callDisconnectReasonText : Attr String := .absent
deriving DecidableEq, Repr

structure CDRInfo where
  callId : Option String
  direction : Direction
  caller : String
  callee : String
  connectTime : Option DateTime
  disconnectTime : Option DateTime
  duration : Option Int
  status : ConnectStatus
deriving DecidableEq, Repr

/-- `TypeError`, `OverflowError`, and what pydantic raises for a field. -/
inductive CallsError
  | typeError
  | overflow
  | validationError (field : String)
deriving DecidableEq, Repr

variable (fromIsoformat : String → Option DateTime)

def dateError : DateTime.Error → CallsError
  | .overflow => .overflow
  | .type => .typeError

def mapDisconnectStatus (duration : Option Int) (status : Option String) : Except CallsError ConnectStatus :=
  match status with
  | none => .error .typeError
  | some status =>
    if isIn "Bye" status then
      match duration with
      | none => .error .typeError
      | some n => .ok (if 0 < n then .accepted else .missed)
    else if isIn "Cancel" status then .ok .declined
    else .ok .error

/-- A text that is no date counts as none. -/
def callStart (cdr : Cdr) : Option DateTime := cdr.callStartDatetime.text?.bind fromIsoformat

def callDuration (cdr : Cdr) : Option Int := cdr.callTotalDurationSeconds.getD 0

/-- `start + timedelta(seconds=duration)`. -/
def callEnd (start : Option DateTime) (duration : Option Int) : Except CallsError (Option DateTime) :=
  match start, duration with
  | none, _ => .ok none
  | some _, none => .error .typeError
  | some start, some n => ((start.add (n * 1000000)).map some).mapError dateError

def requireStr (field : String) : Option String → Except CallsError String
  | some s => .ok s
  | none => .error (.validationError field)

def netsapiensToWebtritCdr (cdr : Cdr) : Except CallsError CDRInfo := do
  let disconnectTime ← callEnd (callStart fromIsoformat cdr) (callDuration cdr)
  let status ← mapDisconnectStatus (callDuration cdr) cdr.callDisconnectReasonText.get?
  return {
    callId := cdr.callOrigCallId.get?
    direction := if cdr.callDirection.get? = some 1 then .incoming else .outgoing
    callee := ← requireStr "callee" cdr.callOrigRequestUser.get?
    caller := ← requireStr "caller" cdr.callOrigCallerId.get?
    connectTime := callStart fromIsoformat cdr
    disconnectTime
    duration := callDuration cdr
    status }

/-! ## Pages -/

/-- The CDRs that the remote API has in a range, and its limit where a request gives none. -/
structure CdrService where
  cdrs : Option DateTime → Option DateTime → List Cdr
  defaultLimit : Option Nat := none

def CdrService.serve (service : CdrService) (limit offset : Option Nat) (start finish : Option DateTime) : List Cdr :=
  let rest := (service.cdrs start finish).drop (offset.getD 0)
  match limit.or service.defaultLimit with
  | none => rest
  | some limit => rest.take limit

def getCdrs (service : CdrService) (start finish : Option DateTime) : List Cdr := service.serve none none start finish

/-- The floor, where the range begins before it or nowhere. -/
def rangeStart (timeFrom timeFloor : Option DateTime) : Except CallsError (Option DateTime) :=
  match timeFloor, timeFrom with
  | none, _ => .ok timeFrom
  | some floor, none => .ok (some floor)
  | some floor, some start => ((start.before floor).map fun b => some (if b then floor else start)).mapError dateError

def retrieveCalls (service : CdrService) (page itemsPerPage : Nat) (timeFrom timeTo timeFloor : Option DateTime) :
    Except CallsError (List CDRInfo × Int) := do
  let start ← rangeStart timeFrom timeFloor
  let cdrs := getCdrs service start timeTo
  let paginatedCdrs ← (pageOf page itemsPerPage cdrs).mapM (netsapiensToWebtritCdr fromIsoformat)
  return (paginatedCdrs, paginatedCdrs.length)

/-! ## What can be converted -/

/-- The fields that a call has to have. -/
structure Convertible (cdr : Cdr) : Prop where
  reason : ∃ reason, cdr.callDisconnectReasonText = .val reason ∧ (isIn "Bye" reason = true → callDuration cdr ≠ none)
  callee : ∃ callee, cdr.callOrigRequestUser = .val callee
  caller : ∃ caller, cdr.callOrigCallerId = .val caller
  inRange : ∀ start, callStart fromIsoformat cdr = some start →
    ∃ n, callDuration cdr = some n ∧ (DateTime.ofWall (start.wall + n * 1000000)).isSome = true

theorem get?_eq_some {α : Type} {a : Attr α} {v : α} : a.get? = some v ↔ a = .val v := by
  cases a <;> simp [Attr.get?]

theorem requireStr_ok {field : String} {a : Attr String} :
    (∃ s, requireStr field a.get? = .ok s) ↔ ∃ s, a = .val s := by
  cases a <;> simp [requireStr, Attr.get?]

theorem mapDisconnectStatus_ok {duration : Option Int} {a : Attr String} :
    (∃ status, mapDisconnectStatus duration a.get? = .ok status) ↔
      ∃ reason, a = .val reason ∧ (isIn "Bye" reason = true → duration ≠ none) := by
  cases a with
  | val reason =>
    simp only [mapDisconnectStatus, Attr.get?, Attr.val.injEq, exists_eq_left']
    cases isIn "Bye" reason with
    | true => cases duration <;> simp
    | false => cases isIn "Cancel" reason <;> simp
  | _ => simp [mapDisconnectStatus, Attr.get?]

theorem callEnd_ok {start : Option DateTime} {duration : Option Int} :
    (∃ finish, callEnd start duration = .ok finish) ↔
      ∀ d, start = some d → ∃ n, duration = some n ∧ (DateTime.ofWall (d.wall + n * 1000000)).isSome = true := by
  cases start with
  | none => simp [callEnd]
  | some d =>
    cases duration with
    | none => simp [callEnd]
    | some n =>
      simp only [callEnd, DateTime.add, Option.some.injEq, forall_eq', exists_eq_left']
      cases DateTime.ofWall (d.wall + n * 1000000) <;> simp [Except.map, Except.mapError]

theorem convertible_iff (cdr : Cdr) : (∃ info, netsapiensToWebtritCdr fromIsoformat cdr = .ok info) ↔
    Convertible fromIsoformat cdr := by
  have hparts : (∃ info, netsapiensToWebtritCdr fromIsoformat cdr = .ok info) ↔
      (∃ finish, callEnd (callStart fromIsoformat cdr) (callDuration cdr) = .ok finish) ∧
        (∃ status, mapDisconnectStatus (callDuration cdr) cdr.callDisconnectReasonText.get? = .ok status) ∧
          (∃ callee, requireStr "callee" cdr.callOrigRequestUser.get? = .ok callee) ∧
            ∃ caller, requireStr "caller" cdr.callOrigCallerId.get? = .ok caller := by
    simp only [netsapiensToWebtritCdr, Fallible.bind_ok, Fallible.pure_ok]
    constructor
    · rintro ⟨_, finish, hfinish, status, hstatus, callee, hcallee, caller, hcaller, rfl⟩
      exact ⟨⟨finish, hfinish⟩, ⟨status, hstatus⟩, ⟨callee, hcallee⟩, caller, hcaller⟩
    · rintro ⟨⟨finish, hfinish⟩, ⟨status, hstatus⟩, ⟨callee, hcallee⟩, caller, hcaller⟩
      exact ⟨_, finish, hfinish, status, hstatus, callee, hcallee, caller, hcaller, rfl⟩
  rw [hparts, callEnd_ok, mapDisconnectStatus_ok, requireStr_ok, requireStr_ok]
  exact ⟨fun ⟨hrange, hreason, hcallee, hcaller⟩ => ⟨hreason, hcallee, hcaller, hrange⟩,
    fun h => ⟨h.inRange, h.reason, h.callee, h.caller⟩⟩

/-! ## The pages of a list of calls -/

/-- The pages give a list: each has its total, and in a row they are the calls. -/
structure PagesOf (fetch : Nat → Except CallsError (List CDRInfo × Int)) (n : Nat) (calls : List CDRInfo) : Prop where
  totals : ∀ page, 1 ≤ page → page ≤ max 1 (pageCount n calls.length) →
    ∃ items, fetch page = .ok (items, (calls.length : Int))
  concat : (List.range' 1 (pageCount n calls.length)).flatMap (fun page => itemsOf (fetch page)) = calls

/-- All CDRs can be converted, and the pages give the calls. -/
def PagesAgree (fetch : Nat → Except CallsError (List CDRInfo × Int)) (n : Nat) (cdrs : List Cdr) : Prop :=
  ∃ calls, cdrs.mapM (netsapiensToWebtritCdr fromIsoformat) = .ok calls ∧ PagesOf fetch n calls

/-- The same, with the total on any page that is asked for. -/
def AllPagesAgree (fetch : Nat → Except CallsError (List CDRInfo × Int)) (n : Nat) (cdrs : List Cdr) : Prop :=
  PagesAgree fromIsoformat fetch n cdrs ∧ ∀ page, 1 ≤ page → ∃ items, fetch page = .ok (items, (cdrs.length : Int))

/-- The CDRs fit on one page, and into one answer of the remote API. -/
structure FitsOnPage (service : CdrService) (n : Nat) (cdrs : List Cdr) : Prop where
  convertible : ∀ cdr ∈ cdrs, Convertible fromIsoformat cdr
  page : cdrs.length ≤ n
  answer : ∀ limit ∈ service.defaultLimit, cdrs.length ≤ limit

variable {fromIsoformat} {service : CdrService} {timeFrom timeTo timeFloor start : Option DateTime} {n page : Nat}

theorem getCdrs_eq (service : CdrService) (start finish : Option DateTime) : getCdrs service start finish =
    match service.defaultLimit with
    | none => service.cdrs start finish
    | some limit => (service.cdrs start finish).take limit := by
  rw [getCdrs, CdrService.serve]
  cases service.defaultLimit <;> rfl

/-- All CDRs are in one answer exactly if none is cut off. -/
theorem getCdrs_eq_self_iff {cdrs : List Cdr} (h : service.cdrs start timeTo = cdrs) :
    (getCdrs service start timeTo).length = cdrs.length ↔ ∀ limit ∈ service.defaultLimit, cdrs.length ≤ limit := by
  rw [getCdrs_eq, h]
  cases service.defaultLimit with
  | none => simp
  | some limit => simp

theorem getCdrs_self {cdrs : List Cdr} (h : service.cdrs start timeTo = cdrs)
    (hall : ∀ limit ∈ service.defaultLimit, cdrs.length ≤ limit) : getCdrs service start timeTo = cdrs := by
  rw [getCdrs_eq, h]
  cases hlimit : service.defaultLimit with
  | none => rfl
  | some limit => exact List.take_of_length_le (hall limit hlimit)

theorem retrieveCalls_eq (hstart : rangeStart timeFrom timeFloor = .ok start) (page n : Nat) :
    retrieveCalls fromIsoformat service page n timeFrom timeTo timeFloor =
      ((pageOf page n (getCdrs service start timeTo)).mapM (netsapiensToWebtritCdr fromIsoformat)).map fun items =>
        (items, (items.length : Int)) := by
  rw [retrieveCalls, hstart, Fallible.ok_bind]
  dsimp only
  cases (pageOf page n (getCdrs service start timeTo)).mapM (netsapiensToWebtritCdr fromIsoformat) <;> rfl

/-- The total of a page is the length of the page. -/
theorem retrieveCalls_total {items : List CDRInfo} {total : Int} (hstart : rangeStart timeFrom timeFloor = .ok start)
    (h : retrieveCalls fromIsoformat service page n timeFrom timeTo timeFloor = .ok (items, total)) :
    total = ((pageOf page n (getCdrs service start timeTo)).length : Int) := by
  rw [retrieveCalls_eq hstart] at h
  cases hitems : (pageOf page n (getCdrs service start timeTo)).mapM (netsapiensToWebtritCdr fromIsoformat) with
  | error e =>
    rw [hitems] at h
    cases h
  | ok items' =>
    rw [hitems] at h
    obtain ⟨rfl, rfl⟩ := Prod.mk.inj (Except.ok.inj h)
    rw [(Fallible.mapM_ok.1 hitems).length_eq]

theorem mapM_length {cdrs : List Cdr} {calls : List CDRInfo}
    (h : cdrs.mapM (netsapiensToWebtritCdr fromIsoformat) = .ok calls) :
    calls.length = cdrs.length := (Fallible.mapM_ok.1 h).length_eq.symm

/-- One page that everything fits on. -/
theorem retrieveCalls_fits {cdrs : List Cdr} (hstart : rangeStart timeFrom timeFloor = .ok start)
    (hcdrs : service.cdrs start timeTo = cdrs) (hfits : FitsOnPage fromIsoformat service n cdrs) :
    ∃ calls, cdrs.mapM (netsapiensToWebtritCdr fromIsoformat) = .ok calls ∧
      retrieveCalls fromIsoformat service 1 n timeFrom timeTo timeFloor = .ok (calls, (calls.length : Int)) := by
  obtain ⟨calls, hcalls⟩ :=
    Fallible.mapM_exists fun cdr hcdr => (convertible_iff fromIsoformat cdr).2 (hfits.convertible cdr hcdr)
  have hpage : pageOf 1 n cdrs = cdrs := by
    rw [pageOf, Nat.sub_self, Nat.zero_mul, List.drop_zero, List.take_of_length_le hfits.page]
  refine ⟨calls, hcalls, ?_⟩
  rw [retrieveCalls_eq hstart, getCdrs_self hcdrs hfits.answer, hpage, hcalls]
  rfl

theorem pageCount_of_fits {n total : Nat} (hn : 1 ≤ n) (h : total ≤ n) :
    pageCount n total = if total = 0 then 0 else 1 := by
  rw [pageCount]
  by_cases hzero : total = 0
  · rw [if_pos hzero, hzero]
    exact Nat.div_eq_of_lt (by omega)
  · rw [if_neg hzero, Nat.div_eq_iff (by omega)]
    omega

theorem pagesAgree_of_fits {cdrs : List Cdr} (hstart : rangeStart timeFrom timeFloor = .ok start) (hn : 1 ≤ n)
    (hcdrs : service.cdrs start timeTo = cdrs) (hfits : FitsOnPage fromIsoformat service n cdrs) :
    PagesAgree fromIsoformat (fun page =>
      retrieveCalls fromIsoformat service page n timeFrom timeTo timeFloor) n cdrs := by
  obtain ⟨calls, hcalls, hpage⟩ := retrieveCalls_fits hstart hcdrs hfits
  have hcount := pageCount_of_fits hn ((mapM_length hcalls).trans_le hfits.page)
  refine ⟨calls, hcalls, fun page hge hle => ?_, ?_⟩
  · obtain rfl : page = 1 := by
      rw [hcount] at hle
      split at hle <;> omega
    exact ⟨calls, hpage⟩
  · rw [hcount]
    by_cases hzero : calls.length = 0
    · simp [List.eq_nil_of_length_eq_zero hzero]
    · simp [hzero, itemsOf, hpage]

theorem fits_of_pagesAgree {cdrs : List Cdr} (hstart : rangeStart timeFrom timeFloor = .ok start)
    (hcdrs : service.cdrs start timeTo = cdrs)
    (h : PagesAgree fromIsoformat (fun page =>
      retrieveCalls fromIsoformat service page n timeFrom timeTo timeFloor) n cdrs) :
    FitsOnPage fromIsoformat service n cdrs := by
  obtain ⟨calls, hcalls, htotals, -⟩ := h
  obtain ⟨items, hitems⟩ := htotals 1 (Nat.le_refl 1) (Nat.le_max_left _ _)
  have htotal := retrieveCalls_total hstart hitems
  rw [mapM_length hcalls, length_pageOf] at htotal
  have hserved : (getCdrs service start timeTo).length ≤ cdrs.length := by
    rw [getCdrs_eq, hcdrs]
    cases service.defaultLimit with
    | none => exact Nat.le_refl _
    | some limit => exact List.length_take_le' _ _
  refine ⟨fun cdr hcdr => ?_, by omega, (getCdrs_eq_self_iff hcdrs).1 (by omega)⟩
  obtain ⟨info, -, hinfo⟩ := Fallible.mem_of_mapM hcalls hcdr
  exact (convertible_iff fromIsoformat cdr).1 ⟨info, hinfo⟩

/-- Past the last page the total is zero. -/
theorem retrieveCalls_past (hstart : rangeStart timeFrom timeFloor = .ok start) (hn : 1 ≤ n)
    {items : List CDRInfo} {total : Int}
    (h : retrieveCalls fromIsoformat service ((getCdrs service start timeTo).length + 1) n timeFrom timeTo timeFloor =
      .ok (items, total)) :
    total = 0 := by
  have hpast := Nat.le_mul_of_pos_right (getCdrs service start timeTo).length hn
  rw [retrieveCalls_total hstart h, length_pageOf, Nat.add_sub_cancel]
  omega

/-- **The total of the call history.** For every list of CDRs and every page size, the pages up to the last one give the
list with its length as the total exactly if it fits on the first page; and on every page number that can be asked for,
exactly if there are no CDRs. -/
theorem calls_pages_iff {cdrs : List Cdr} (hstart : rangeStart timeFrom timeFloor = .ok start) (hn : 1 ≤ n)
    (hcdrs : service.cdrs start timeTo = cdrs) :
    (PagesAgree fromIsoformat (fun page =>
      retrieveCalls fromIsoformat service page n timeFrom timeTo timeFloor) n cdrs ↔
      FitsOnPage fromIsoformat service n cdrs) ∧
      (AllPagesAgree fromIsoformat (fun page =>
        retrieveCalls fromIsoformat service page n timeFrom timeTo timeFloor) n cdrs ↔ cdrs = []) := by
  have hiff : PagesAgree fromIsoformat (fun page =>
      retrieveCalls fromIsoformat service page n timeFrom timeTo timeFloor) n cdrs ↔
      FitsOnPage fromIsoformat service n cdrs := ⟨fits_of_pagesAgree hstart hcdrs, pagesAgree_of_fits hstart hn hcdrs⟩
  refine ⟨hiff, fun ⟨hagree, hall⟩ => ?_, ?_⟩
  · obtain ⟨items, hitems⟩ := hall _ (Nat.le_add_left 1 (getCdrs service start timeTo).length)
    have hzero := retrieveCalls_past hstart hn hitems
    exact List.eq_nil_of_length_eq_zero (Int.ofNat_eq_zero.1 hzero)
  · rintro rfl
    refine ⟨hiff.2 ⟨by simp, Nat.zero_le _, by simp⟩, fun page _ => ⟨[], ?_⟩⟩
    have hnone : getCdrs service start timeTo = [] := getCdrs_self hcdrs (by simp)
    show retrieveCalls fromIsoformat service page n timeFrom timeTo timeFloor = _
    rw [retrieveCalls_eq hstart, hnone, pageOf, List.drop_nil, List.take_nil]
    rfl

/-! ## Three calls on pages of two -/

/-- A reader of dates. -/
def ofRfc3339Text (x : String) : Option DateTime := DateTime.ofRfc3339 x.toList

def sampleCdr (callId : String) : Cdr where
  callStartDatetime := .val "2024-01-01T12:30:00+00:00"
  callTotalDurationSeconds := .val 60
  callOrigCallId := .val callId
  callOrigCallerId := .val "1001"
  callOrigRequestUser := .val "1002"
  callDisconnectReasonText := .val "Orig: Bye"

def sampleService (callIds : List String) : CdrService := ⟨fun _ _ => callIds.map sampleCdr, none⟩

/-- The first page says that there are two calls. -/
theorem total_of_page : ¬ ∀ (fromIsoformat : String → Option DateTime) (service : CdrService) (n : Nat), 1 ≤ n →
    PagesAgree fromIsoformat (fun page => retrieveCalls fromIsoformat service page n none none none) n
      (service.cdrs none none) := by
  intro h
  have hfits : FitsOnPage ofRfc3339Text (sampleService ["a", "b", "c"]) 2 _ :=
    fits_of_pagesAgree rfl rfl (h _ _ 2 (by decide))
  exact absurd hfits.page (by decide)

theorem sampleCdr_convertible (callId : String) : Convertible ofRfc3339Text (sampleCdr callId) := by
  have hends : ∀ start ∈ ofRfc3339Text "2024-01-01T12:30:00+00:00",
      (DateTime.ofWall (start.wall + 60 * 1000000)).isSome = true := by
    decide +kernel
  refine ⟨⟨_, rfl, fun _ => Option.some_ne_none 60⟩, ⟨_, rfl⟩, ⟨_, rfl⟩, fun start hstart => ⟨60, rfl, ?_⟩⟩
  exact hends start hstart

theorem calls_pages_one : PagesAgree ofRfc3339Text
    (fun page => retrieveCalls ofRfc3339Text (sampleService ["a"]) page 2 none none none) 2 [sampleCdr "a"] := by
  have hstart : rangeStart none none = .ok none := rfl
  refine (calls_pages_iff hstart (by decide) rfl).1.2 ⟨?_, by decide, by simp [sampleService]⟩
  rintro cdr hcdr
  obtain rfl := List.mem_singleton.1 hcdr
  exact sampleCdr_convertible "a"

end PortaPhone.Netsapiens
