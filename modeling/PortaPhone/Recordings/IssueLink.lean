import Mathlib
import PortaPhone.Failover.SiteState
import PortaPhone.Lib.Fallible
import PortaPhone.Recordings.RecordingLink
/-!
# Issuing a recording link (`portaswitch/adapter.py`)

| here | there |
| --- | --- |
| `Reply`, `AccountApi`   | the answers of the account realm; `decode_response` (`api/media.py:20`) |
| `AccountApi.sendRequest` | `__send_request` (`api/account.py:45`) |
| `extractFaultCode`      | `extract_fault_code` (`utils.py:38`) |
| `discard`               | `_discard` (`adapter.py:2235`) |
| `retrieveCallRecording` | `retrieve_call_recording` (`:2015`) |
| `issueRecordingLink`, `ownCallRecordingId` | `issue_recording_link` (`:2121`), `_own_call_recording_id` (`:2157`) |

The link is later served with the admin token; `link_only_own` says what was asked for with the caller's own token
before it was issued. A request to the switch may be answered in any way.
-/

namespace PortaPhone.Recordings

open Text
open Failover (readOnlyFaults sessionAuthFaults)

/-! ## The account realm -/

/-- How the switch answers a request: with JSON or a file, whose first chunk can be read or not, with an error that
may have a fault code, or with something else. -/
inductive Reply
  | json
  | file (readable : Bool)
  | fault (faultCode : Option String)
  | unexpected
deriving DecidableEq, Repr

def Reply.Served : Reply → Prop
  | json | file _ => True
  | fault _ | unexpected => False

/-- The requests, with the bearer token they are sent with. -/
structure AccountApi where
  getCallRecording : Option Text → Text → Reply
  getTranscription : Option Text → Text → Bool → Reply

/-- A `WebTritErrorException` with the fault code in its response trace. -/
structure WebTritError where
  statusCode : Nat
  message : Text
  code : Option String := none
  faultCode : Option String := none
deriving DecidableEq, Repr

inductive Failure
  | webTrit (error : WebTritError)
  | raised (error : Raised)
  | streamError
deriving DecidableEq, Repr

def serviceReadOnlyError : WebTritError where
  statusCode := 503
  message := ofString
    "The service is temporarily in read-only (disaster-recovery) mode; this operation is unavailable"
  code := some "service_read_only"

def accessTokenExpiredError : WebTritError :=
  { statusCode := 401, message := ofString "Access token expired", code := some "access_token_expired" }

def requestError (faultCode : Option String) : WebTritError :=
  { statusCode := 500, message := ofString "Request execution error on the BSS/VoIP system side", faultCode }

def forbiddenRecordingError (recordingId : Text) : WebTritError where
  statusCode := 403
  message := ofString "The recording with such id belongs to another account: " ++ recordingId
  code := some "forbidden_account_access"

def notFoundRecordingError (recordingId : Text) : WebTritError :=
  { statusCode := 404, message := ofString "There is no a recording with such id: " ++ recordingId }

def invalidRecordingIdError (recordingId : Text) : WebTritError where
  statusCode := 422
  message := ofString "Malformed recording id: " ++ recordingId
  code := some "validation_error"

def recordingLinksNotConfiguredError : WebTritError where
  statusCode := 501
  message := ofString "Public recording links need SECRET_KEY_BASE to be set"
  code := some "recording_links_not_configured"

/-- The header of a request; an empty token gives none. -/
def bearer (accessToken : Text) : Option Text := if accessToken = [] then none else some accessToken

/-- What a request gives: whether there is a stream, and whether it can be read. -/
def AccountApi.sendRequest (token : Option Text) : Reply → Except Failure (Option Bool)
  | .json => .ok none
  | .file readable => .ok (some readable)
  | .unexpected => .error (.raised (.valueError (ofString "Not expected response")))
  | .fault none => .error (.webTrit (requestError none))
  | .fault (some faultCode) =>
    if faultCode ∈ readOnlyFaults then .error (.webTrit serviceReadOnlyError)
    else if token.isSome ∧ faultCode ∈ sessionAuthFaults then .error (.webTrit accessTokenExpiredError)
    else .error (.webTrit (requestError (some faultCode)))

/-- The fault code of an error; one without raises the error again. -/
def extractFaultCode (error : WebTritError) : Except Failure String :=
  match error.faultCode with
  | some faultCode => .ok faultCode
  | none => .error (.webTrit error)

def discard : Option Bool → Except Failure Unit
  | some false => .error .streamError
  | _ => .ok ()

/-! ## The adapter -/

structure Adapter where
  accountApi : AccountApi
  recordingLinkSigner : Option RecordingLinkSigner
  /-- `Capabilities.transcription in self.get_capabilities()`. -/
  transcription : Bool

/-- The most digits `int` takes. -/
def maxStrDigits : Nat := 4300

def int (digits : Text) : Except Failure Nat :=
  if digits.length ≤ maxStrDigits then .ok digits.toNat
  else .error (.raised (.valueError (ofString "Exceeds the limit (4300 digits) for integer string conversion")))

def parseOrInvalid (recordingId : Text) : Except Failure (Text × Option Text) :=
  match parseRecordingId recordingId with
  | .ok parts => .ok parts
  | .error _ => .error (.webTrit (invalidRecordingIdError recordingId))

namespace Adapter

variable (A : Adapter)

/-- What the error of a recording request becomes. -/
def recordingFault {α : Type} (recordingId : Text) (error : WebTritError) : Except Failure α := do
  let faultCode ← extractFaultCode error
  if faultCode = "Client.Session.check_auth.failed_to_process_access_token"
    then .error (.webTrit accessTokenExpiredError)
  else if faultCode ∈ ["Server.CDR.xdr_not_found", "Server.CDR.invalid_call_recording_id"] then
    .error (.webTrit (notFoundRecordingError recordingId))
  else if faultCode = "Server.CDR.forbidden_account_access" then
    .error (.webTrit (forbiddenRecordingError recordingId))
  else .error (.webTrit error)

def retrieveCallRecording (accessToken recordingId : Text) : Except Failure (Option Bool) := do
  let (iXdr, _) ← parseOrInvalid recordingId
  match AccountApi.sendRequest (bearer accessToken) (A.accountApi.getCallRecording (bearer accessToken) iXdr) with
  | .ok result => .ok result
  | .error (.webTrit error) => recordingFault recordingId error
  | .error failure => .error failure

/-- The request for the transcription, with its answer released. -/
def checkTranscription (accessToken callRecordingId : Text) : Except Failure Unit := do
  discard (← AccountApi.sendRequest (bearer accessToken)
    (A.accountApi.getTranscription (bearer accessToken) callRecordingId true))

/-- Of the faults of the transcription request one keeps the key and two drop it. -/
def transcriptionFault (recordingId callRecordingId : Text) (error : WebTritError) : Except Failure (Option Text) := do
  let faultCode ← extractFaultCode error
  if faultCode = "Client.Session.check_auth.failed_to_process_access_token"
    then .error (.webTrit accessTokenExpiredError)
  else if faultCode = "Server.CDR.forbidden_account_access" then
    .error (.webTrit (forbiddenRecordingError recordingId))
  else if faultCode = "Server.CDR.transcription_not_found" then .ok (some callRecordingId)
  else if faultCode ∈ ["Server.CDR.xdr_not_found", "Server.CDR.invalid_call_recording_id"] then .ok none
  else .error (.webTrit error)

def ownCallRecordingId (accessToken recordingId callRecordingId : Text) : Except Failure (Option Text) :=
  match A.checkTranscription accessToken callRecordingId with
  | .ok () => .ok (some callRecordingId)
  | .error (.webTrit error) => transcriptionFault recordingId callRecordingId error
  | .error failure => .error failure

/-- The key that goes into the link. -/
def linkKey (accessToken recordingId : Text) (callRecordingId : Option Text) : Except Failure (Option Text) :=
  match callRecordingId.filter (· ≠ []) with
  | some callRecordingId =>
    if A.transcription then A.ownCallRecordingId accessToken recordingId callRecordingId else .ok none
  | none => .ok none

def issueRecordingLink (now : UnixTime) (accessToken recordingId : Text) (ttl : Option Int) :
    Except Failure (Text × Bool) :=
  match A.recordingLinkSigner with
  | none => .error (.webTrit recordingLinksNotConfiguredError)
  | some signer => do
    let (iXdr, callRecordingId) ← parseOrInvalid recordingId
    discard (← A.retrieveCallRecording accessToken recordingId)
    let callRecordingId ← A.linkKey accessToken recordingId callRecordingId
    let linkId ← (signer.sign { now, iXdr := ← int iXdr, callRecordingId, ttl }).mapError Failure.raised
    return (linkId, callRecordingId.isSome)

end Adapter

/-! ## What was asked for with the caller's token -/

/-- The transcription is the caller's: there is one, or there is none yet. -/
def Reply.OwnTranscription : Reply → Prop
  | json | file _ => True
  | fault faultCode => faultCode = some "Server.CDR.transcription_not_found"
  | unexpected => False

theorem sendRequest_ok {token : Option Text} {reply : Reply} {result : Option Bool}
    (h : AccountApi.sendRequest token reply = .ok result) : reply.Served := by
  unfold AccountApi.sendRequest at h
  split at h
  · trivial
  · trivial
  · cases h
  · cases h
  · split at h
    · cases h
    · split at h <;> cases h

/-- A fault code reaches the adapter as the switch gave it. -/
theorem sendRequest_fault {token : Option Text} {reply : Reply} {error : WebTritError} {faultCode : String}
    (h : AccountApi.sendRequest token reply = .error (.webTrit error)) (hcode : error.faultCode = some faultCode) :
    reply = .fault (some faultCode) := by
  unfold AccountApi.sendRequest at h
  split at h
  · cases h
  · cases h
  · cases h
  · cases h
    cases hcode
  · split at h
    · cases h
      cases hcode
    · split at h
      · cases h
        cases hcode
      · cases h
        cases hcode
        rfl

theorem extractFaultCode_ok {error : WebTritError} {faultCode : String} (h : extractFaultCode error = .ok faultCode) :
    error.faultCode = some faultCode := by
  unfold extractFaultCode at h
  split at h
  · rename_i hcode
    rw [hcode, Except.ok.inj h]
  · cases h

namespace Adapter

variable {A : Adapter} {now : UnixTime} {accessToken recordingId : Text} {ttl : Option Int}

theorem recordingFault_error {α : Type} {error : WebTritError} {result : α} :
    recordingFault recordingId error ≠ .ok result := by
  unfold recordingFault
  intro h
  obtain ⟨faultCode, _, h⟩ := Fallible.bind_ok.1 h
  split at h
  · cases h
  · split at h
    · cases h
    · split at h <;> cases h

/-- The recording was served to the caller. -/
theorem retrieveCallRecording_served {result : Option Bool} {parts : Text × Option Text}
    (hparts : parseOrInvalid recordingId = .ok parts)
    (h : A.retrieveCallRecording accessToken recordingId = .ok result) :
    (A.accountApi.getCallRecording (bearer accessToken) parts.1).Served := by
  unfold retrieveCallRecording at h
  rw [hparts] at h
  simp only [bind, Except.bind] at h
  split at h
  · rename_i hsend
    exact sendRequest_ok hsend
  · exact absurd h recordingFault_error
  · cases h

/-- A key stays only where the transcription is the caller's. -/
theorem ownCallRecordingId_own {callRecordingId c : Text}
    (h : A.ownCallRecordingId accessToken recordingId callRecordingId = .ok (some c)) :
    c = callRecordingId ∧ (A.accountApi.getTranscription (bearer accessToken) c true).OwnTranscription := by
  unfold ownCallRecordingId at h
  split at h
  · rename_i hcheck
    obtain rfl := Option.some.inj (Except.ok.inj h)
    obtain ⟨result, hsend, _⟩ := Fallible.bind_ok.1 hcheck
    have hserved := sendRequest_ok hsend
    refine ⟨rfl, ?_⟩
    revert hserved
    cases A.accountApi.getTranscription (bearer accessToken) callRecordingId true <;> simp [Reply.Served,
      Reply.OwnTranscription]
  · rename_i error hcheck
    obtain ⟨faultCode, hcode, h⟩ := Fallible.bind_ok.1 h
    have hsend : AccountApi.sendRequest (bearer accessToken)
        (A.accountApi.getTranscription (bearer accessToken) callRecordingId true) = .error (.webTrit error) := by
      unfold checkTranscription at hcheck
      cases hsend : AccountApi.sendRequest (bearer accessToken)
          (A.accountApi.getTranscription (bearer accessToken) callRecordingId true) with
      | error failure =>
        rw [hsend] at hcheck
        exact congrArg Except.error (Except.error.inj hcheck)
      | ok result =>
        rw [hsend] at hcheck
        match result with
        | none => cases hcheck
        | some true => cases hcheck
        | some false => cases hcheck
    split at h
    · cases h
    · split at h
      · cases h
      · split at h
        · rename_i hnone
          obtain rfl := Option.some.inj (Except.ok.inj h)
          subst hnone
          rw [sendRequest_fault hsend (extractFaultCode_ok hcode)]
          exact ⟨rfl, rfl⟩
        · split at h <;> cases h
  · cases h

theorem linkKey_own {key : Option Text} {c : Text} (h : A.linkKey accessToken recordingId key = .ok (some c)) :
    A.transcription = true ∧ (A.accountApi.getTranscription (bearer accessToken) c true).OwnTranscription := by
  unfold linkKey at h
  split at h
  · split at h
    · rename_i htranscription
      exact ⟨htranscription, (ownCallRecordingId_own h).2⟩
    · cases h
  · cases h

/-- **No more access than the caller has.** A link names a recording that the switch served to the caller's own token,
and a key only where the caller's own request for that transcription succeeded or found that there is none yet; and it
opens to nothing else. -/
theorem link_only_own {linkId : Text} {transcription : Bool}
    (h : A.issueRecordingLink now accessToken recordingId ttl = .ok (linkId, transcription)) :
    ∃ signer iXdr key, A.recordingLinkSigner = some signer ∧
      signer.sign { now, iXdr := iXdr.toNat, callRecordingId := key, ttl } = .ok linkId ∧
      (∀ later link, signer.verify later linkId = .ok link → link.iXdr = iXdr.toNat ∧
        link.callRecordingId = key.filter (· ≠ [])) ∧
      (A.accountApi.getCallRecording (bearer accessToken) iXdr).Served ∧ transcription = key.isSome ∧
      ∀ c, key = some c → A.transcription = true ∧
        (A.accountApi.getTranscription (bearer accessToken) c true).OwnTranscription := by
  unfold issueRecordingLink at h
  split at h
  · cases h
  · rename_i signer hsigner
    obtain ⟨parts, hparts, h⟩ := Fallible.bind_ok.1 h
    obtain ⟨result, hrecording, h⟩ := Fallible.bind_ok.1 h
    obtain ⟨_, _, h⟩ := Fallible.bind_ok.1 h
    obtain ⟨key, hkey, h⟩ := Fallible.bind_ok.1 h
    obtain ⟨number, hnumber, h⟩ := Fallible.bind_ok.1 h
    obtain ⟨link, hlink, h⟩ := Fallible.bind_ok.1 h
    obtain ⟨rfl, rfl⟩ := Prod.mk.inj (Fallible.pure_ok.1 h)
    have hint : number = parts.1.toNat := by
      unfold int at hnumber
      split at hnumber
      · exact (Except.ok.inj hnumber).symm
      · cases hnumber
    subst hint
    have hsign : signer.sign { now, iXdr := parts.1.toNat, callRecordingId := key, ttl } = .ok link := by
      cases hcall : signer.sign { now, iXdr := parts.1.toNat, callRecordingId := key, ttl } with
      | error raised =>
        rw [hcall] at hlink
        cases hlink
      | ok signed =>
        rw [hcall] at hlink
        exact congrArg Except.ok (Except.ok.inj hlink)
    refine ⟨signer, parts.1, key, hsigner, hsign, ?_, retrieveCallRecording_served hparts hrecording, rfl, ?_⟩
    · intro later opened hopen
      obtain ⟨payload, hpayload, rfl⟩ := RecordingLinkSigner.sign_eq_ok.1 hsign
      have hsigned := (payload_eq_ok.1 hpayload).2
      rw [RecordingLinkSigner.verify_linkOf later hsigned, openPayload_signed later hsigned] at hopen
      split at hopen
      · cases hopen
      · obtain rfl := Except.ok.inj hopen
        exact ⟨rfl, rfl⟩
    · rintro c rfl
      exact linkKey_own hkey

end Adapter

/-- The caller's own recording with a transcription that is not there yet. -/
def pendingAdapter : Adapter where
  accountApi :=
    { getCallRecording := fun token iXdr =>
        if token = some (ofString "token") ∧ iXdr = ofString "12" then .file true else .fault none
      getTranscription := fun _ _ _ => .fault (some "Server.CDR.transcription_not_found") }
  recordingLinkSigner := some zeroSigner
  transcription := true

def ownRecordingId : Text := ofString "MTJ8YXzDqQ"

def pendingLink : Text := ofString "AQAAAAAAAAAAAAAADGF8w6kAAAAAAAAAAAAAAAAAAAAA"

theorem link_only_own_pending : ∃ iXdr key, zeroSigner.sign ⟨1700000000, iXdr.toNat, key, none⟩ = .ok pendingLink ∧
    (pendingAdapter.accountApi.getCallRecording (bearer (ofString "token")) iXdr).Served ∧ true = key.isSome := by
  have hissue : pendingAdapter.issueRecordingLink 1700000000 (ofString "token") ownRecordingId none =
      .ok (pendingLink, true) := by decide +kernel
  obtain ⟨signer, iXdr, key, hsigner, hsign, _, hserved, hkey, _⟩ := Adapter.link_only_own hissue
  obtain rfl := Option.some.inj hsigner
  exact ⟨iXdr, key, hsign, hserved, hkey⟩

end PortaPhone.Recordings
