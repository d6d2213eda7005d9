import PortaPhone.Contacts.Account
import PortaPhone.Lib.Json
import PortaPhone.Recordings.IssueLink
/-!
# Media downloads (`portaswitch/adapter.py`)

| here | there |
| --- | --- |
| `decodeResponse`, `adminDecodeResponse` | `MediaResponseMixin.decode_response` (`api/media.py:20`), `AdminAPI.decode_response` (`api/admin.py:552`) |
| `accountRequest`, `adminRequest` | `__send_request` (`api/account.py:45`), `_send_request` (`api/admin.py:557`) |
| `downloadCallRecording` | `retrieve_call_recording` (`adapter.py:2015`) |
| `retrieveLinkedCallRecording` | `retrieve_linked_call_recording` (`:2189`) |
| `retrieveVoicemailMessageAttachment` | the function of this name (`:2334`) |

`retrieveCallRecording` knows of an answer only whether there is a stream (`accountRequest_reply`); here the headers
and the body are given. The routes unpack a pair: `downloads_stream_iff` says when they get one.
-/

namespace PortaPhone.Recordings

open Contacts (isIn)
open Failover (readOnlyFaults sessionAuthFaults)
open Text

/-! ## Answers -/

/-- An answer with a status of success; the body is missing where it cannot be read to its end. -/
structure Response where
  contentType : String := ""
  contentDisposition : String := ""
  body : Option Bytes

/-- What `response.json()` makes of a body, where a `ValueError` has its message, and `str.lower`. -/
structure MediaRuntime where
  json : Bytes → Except Text Json
  lower : String → String

/-- The JSON of an answer, or a content type with the chunks of the body. -/
inductive Decoded
  | json (value : Json)
  | media (contentType : String) (content : Option Bytes)

variable (M : MediaRuntime)

/-- `response.json()`, for which the body is read first. -/
def readJson (r : Response) : Except Failure Decoded :=
  match r.body with
  | none => .error (.webTrit (requestError none))
  | some body => ((M.json body).map Decoded.json).mapError fun message => .raised (.valueError message)

def decodeResponse (path : String) (r : Response) : Except Failure Decoded :=
  if isIn "application/json" r.contentType then readJson M r
  else if isIn "attachment" r.contentDisposition then .ok (.media r.contentType r.body)
  else if "text/".toList.isPrefixOf r.contentType.toList && "/CDR/get_transcription".toList.isSuffixOf path.toList then
    .ok (.media r.contentType r.body)
  else .error (.raised (.valueError (ofString "Not expected response")))

/-- `MEDIA_PATHS`. -/
def mediaPaths : List String := ["/CDR/get_call_recording", "/CDR/get_transcription"]

def adminDecodeResponse (path : String) (r : Response) : Except Failure Decoded :=
  if mediaPaths.any fun suffix => suffix.toList.isSuffixOf path.toList then decodeResponse M path r else readJson M r

/-! ## Requests -/

/-- What an exchange brings: an answer, or an error that may have a fault code. -/
abbrev Exchange := Except Failure Response

def accountRequest (path : String) (token : Option Text) (exchange : Exchange) : Except Failure Decoded :=
  match exchange >>= decodeResponse M path with
  | .error (.webTrit error) => do
    let faultCode ← extractFaultCode error
    if faultCode ∈ readOnlyFaults then .error (.webTrit serviceReadOnlyError)
    else if token.isSome ∧ faultCode ∈ sessionAuthFaults then .error (.webTrit accessTokenExpiredError)
    else .error (.webTrit error)
  | result => result

/-- The first exchange, the new session after a session fault, and the exchange that follows on that. -/
structure AdminExchange where
  first : Exchange
  refreshed : Except Failure Unit
  again : Exchange

def adminRequest (path : String) (exchange : AdminExchange) : Except Failure Decoded :=
  match exchange.first >>= adminDecodeResponse M path with
  | .error (.webTrit error) => do
    let faultCode ← extractFaultCode error
    if faultCode ∈ sessionAuthFaults then do
      exchange.refreshed
      exchange.again >>= adminDecodeResponse M path
    else if faultCode ∈ readOnlyFaults then .error (.webTrit serviceReadOnlyError)
    else .error (.webTrit error)
  | result => result

/-- The switch, by the requests for media. -/
structure MediaSwitch where
  getCallRecording : Option Text → Text → Exchange
  adminGetCallRecording : Nat → AdminExchange
  getMailboxMessageAttachment : Option Text → Text → String → Exchange

/-! ## Downloads -/

variable (S : MediaSwitch)

def recordingPath : String := "/rest/CDR/get_call_recording"
def attachmentPath : String := "/rest/Account/get_mailbox_message_attachment"

/-- The `except` clause. -/
def translateFault (recordingId : Text) : Except Failure Decoded → Except Failure Decoded
  | .error (.webTrit error) => Adapter.recordingFault recordingId error
  | result => result

def downloadCallRecording (accessToken recordingId : Text) : Except Failure Decoded := do
  let parts ← parseOrInvalid recordingId
  translateFault recordingId
    (accountRequest M recordingPath (bearer accessToken) (S.getCallRecording (bearer accessToken) parts.1))

def notFoundRecordingLinkError : WebTritError where
  statusCode := 404
  message := ofString "There is no a recording behind this link"
  code := some "recording_link_not_found"

def expiredRecordingLinkError : WebTritError where
  statusCode := 410
  message := ofString "The recording link has expired"
  code := some "recording_link_expired"

def verifyRecordingLink (signer : Option RecordingLinkSigner) (now : UnixTime) (linkId : Text) :
    Except Failure RecordingLink :=
  match signer with
  | none => .error (.webTrit recordingLinksNotConfiguredError)
  | some signer => match signer.verify now linkId with
    | .ok link => .ok link
    | .error .recordingLinkInvalid => .error (.webTrit notFoundRecordingLinkError)
    | .error .recordingLinkExpired => .error (.webTrit expiredRecordingLinkError)
    | .error raised => .error (.raised raised)

/-- `if not isinstance(result, tuple): raise`. -/
def requirePair (error : WebTritError) : Decoded → Except Failure Decoded
  | .json _ => .error (.webTrit error)
  | .media contentType content => .ok (.media contentType content)

def retrieveLinkedCallRecording (signer : Option RecordingLinkSigner) (now : UnixTime) (linkId : Text) :
    Except Failure Decoded := do
  let link ← verifyRecordingLink signer now linkId
  match adminRequest M recordingPath (S.adminGetCallRecording link.iXdr) with
  | .error (.webTrit error) => do
    let faultCode ← extractFaultCode error
    if faultCode ∈ ["Server.CDR.xdr_not_found", "Server.CDR.invalid_call_recording_id"] then
      .error (.webTrit notFoundRecordingLinkError)
    else .error (.webTrit error)
  | .error failure => .error failure
  | .ok result => requirePair notFoundRecordingLinkError result

def notFoundVoicemailMessageError (messageId : Text) : WebTritError where
  statusCode := 404
  message := ofString "There is no a voicemail message with such id: " ++ messageId
  code := some "message_not_found"

def unsupportedFileFormatError : WebTritError :=
  { statusCode := 422, message := ofString "Not supported file format", code := some "unsupported_file_format" }

def voicemailNotConfigured : WebTritError :=
  { statusCode := 422, message := ofString "Voicemail is not configured", code := some "voicemail_not_configured" }

/-- `PortaSwitchMailboxMessageAttachmentFormat`. -/
def attachmentFormats : List String := ["wav", "mp3", "au"]

/-- The format that is asked for; an empty one counts as none. -/
def attachmentFormat (fileFormat : Option String) : Except Failure String :=
  match (fileFormat.filter (· ≠ "")).map M.lower with
  | none => .ok "wav"
  | some format =>
    if format = "" then .ok "wav"
    else if format ∈ attachmentFormats then .ok format
    else .error (.webTrit unsupportedFileFormatError)

def retrieveVoicemailMessageAttachment (accessToken messageId : Text) (fileFormat : Option String) :
    Except Failure Decoded := do
  let format ← attachmentFormat M fileFormat
  match accountRequest M attachmentPath (bearer accessToken)
      (S.getMailboxMessageAttachment (bearer accessToken) messageId format) with
  | .error (.webTrit error) => do
    let faultCode ← extractFaultCode error
    if faultCode = "Client.Session.check_auth.failed_to_process_access_token" then
      .error (.webTrit accessTokenExpiredError)
    else if faultCode = "Server.Account.unified_messaging_disabled" then .error (.webTrit voicemailNotConfigured)
    else .error (.webTrit error)
  | .error failure => .error failure
  | .ok attachment => requirePair (notFoundVoicemailMessageError messageId) attachment

/-! ## Pairs and errors -/

/-- A pair for the route to unpack, or an error. -/
def Streams (result : Except Failure Decoded) : Prop :=
  (∃ contentType content, result = .ok (.media contentType content)) ∨ ∃ failure, result = .error failure

/-- The answer is JSON: by its content type, and by its body. -/
def IsJson (r : Response) (value : Json) : Prop :=
  isIn "application/json" r.contentType = true ∧ ∃ body, r.body = some body ∧ M.json body = .ok value

variable {M S}

/-- The third kind of result is a JSON value. -/
theorem streams_iff {result : Except Failure Decoded} : Streams result ↔ ∀ value, result ≠ .ok (.json value) := by
  cases result with
  | error failure => exact iff_of_true (.inr ⟨failure, rfl⟩) (fun _ h => by cases h)
  | ok decoded =>
    cases decoded with
    | json value => simp [Streams]
    | media contentType content => exact iff_of_true (.inl ⟨_, _, rfl⟩) (fun _ h => by cases h)

theorem readJson_ok {r : Response} {value : Json} :
    readJson M r = .ok (.json value) ↔ ∃ body, r.body = some body ∧ M.json body = .ok value := by
  unfold readJson
  cases r.body with
  | none => simp
  | some body =>
    cases hjson : M.json body with
    | error message => simp [hjson, Except.map, Except.mapError]
    | ok value' => simp [hjson, Except.map, Except.mapError]

/-- Only JSON is decoded to JSON. -/
theorem decodeResponse_json (path : String) {r : Response} {value : Json} :
    decodeResponse M path r = .ok (.json value) ↔ IsJson M r value := by
  unfold decodeResponse IsJson
  by_cases htype : isIn "application/json" r.contentType = true
  · rw [if_pos htype, readJson_ok]
    simp [htype]
  · rw [if_neg htype]
    refine iff_of_false ?_ fun h => htype h.1
    split
    · simp
    · split <;> simp

theorem accountRequest_json {path : String} {token : Option Text} {exchange : Exchange} {value : Json} :
    accountRequest M path token exchange = .ok (.json value) ↔ ∃ r, exchange = .ok r ∧ IsJson M r value := by
  simp only [← decodeResponse_json path, ← Fallible.bind_ok]
  unfold accountRequest
  cases exchange >>= decodeResponse M path with
  | ok decoded => rfl
  | error failure =>
    cases failure with
    | webTrit error =>
      refine iff_of_false (fun h => ?_) (by simp)
      obtain ⟨faultCode, -, h⟩ := Fallible.bind_ok.1 h
      split at h
      · cases h
      · split at h <;> cases h
    | _ => simp

theorem requirePair_streams (error : WebTritError) (decoded : Decoded) : Streams (requirePair error decoded) := by
  cases decoded <;> simp [Streams, requirePair]

theorem streams_error (failure : Failure) : Streams (.error failure) := .inr ⟨failure, rfl⟩

theorem streams_bind {α : Type} {x : Except Failure α} {f : α → Except Failure Decoded} (h : ∀ a, Streams (f a)) :
    Streams (x >>= f) := by
  rw [streams_iff]
  intro value hvalue
  obtain ⟨a, -, ha⟩ := Fallible.bind_ok.1 hvalue
  exact streams_iff.1 (h a) value ha

/-- The result is checked for a pair. -/
theorem retrieveLinkedCallRecording_streams (signer : Option RecordingLinkSigner) (now : UnixTime) (linkId : Text) :
    Streams (retrieveLinkedCallRecording M S signer now linkId) := by
  apply streams_bind
  intro link
  cases adminRequest M recordingPath (S.adminGetCallRecording link.iXdr) with
  | ok result => exact requirePair_streams _ _
  | error failure =>
    cases failure with
    | webTrit error =>
      apply streams_bind
      intro faultCode
      split <;> exact streams_error _
    | _ => exact streams_error _

theorem retrieveVoicemailMessageAttachment_streams (accessToken messageId : Text) (fileFormat : Option String) :
    Streams (retrieveVoicemailMessageAttachment M S accessToken messageId fileFormat) := by
  apply streams_bind
  intro format
  cases accountRequest M attachmentPath (bearer accessToken)
      (S.getMailboxMessageAttachment (bearer accessToken) messageId format) with
  | ok result => exact requirePair_streams _ _
  | error failure =>
    cases failure with
    | webTrit error =>
      apply streams_bind
      intro faultCode
      split
      · exact streams_error _
      · split <;> exact streams_error _
    | _ => exact streams_error _

/-- The switch answers the request for this recording with JSON. -/
def AnsweredWithJson (M : MediaRuntime) (S : MediaSwitch) (accessToken recordingId : Text) : Prop :=
  ∃ parts r value, parseOrInvalid recordingId = .ok parts ∧ S.getCallRecording (bearer accessToken) parts.1 = .ok r ∧
    IsJson M r value

theorem translateFault_ok {recordingId : Text} {result : Except Failure Decoded} {decoded : Decoded} :
    translateFault recordingId result = .ok decoded ↔ result = .ok decoded := by
  cases result with
  | ok decoded' => rfl
  | error failure =>
    cases failure with
    | webTrit error => exact iff_of_false Adapter.recordingFault_error (by simp)
    | _ => rfl

theorem downloadCallRecording_json {accessToken recordingId : Text} {value : Json} :
    downloadCallRecording M S accessToken recordingId = .ok (.json value) ↔
      ∃ parts, parseOrInvalid recordingId = .ok parts ∧
        ∃ r, S.getCallRecording (bearer accessToken) parts.1 = .ok r ∧ IsJson M r value := by
  rw [downloadCallRecording, Fallible.bind_ok]
  refine exists_congr fun parts => and_congr_right fun _ => ?_
  rw [translateFault_ok, accountRequest_json]

theorem downloadCallRecording_streams_iff (accessToken recordingId : Text) :
    Streams (downloadCallRecording M S accessToken recordingId) ↔ ¬ AnsweredWithJson M S accessToken recordingId := by
  rw [streams_iff]
  constructor
  · rintro h ⟨parts, r, value, hparts, hanswer, hjson⟩
    exact h value (downloadCallRecording_json.2 ⟨parts, hparts, r, hanswer, hjson⟩)
  · intro h value hvalue
    obtain ⟨parts, hparts, r, hanswer, hjson⟩ := downloadCallRecording_json.1 hvalue
    exact h ⟨parts, r, value, hparts, hanswer, hjson⟩

/-- **Downloads give a pair or an error.** The recording behind a link and the attachment of a voicemail always do; the
recording of a call does unless the switch answers with JSON. -/
theorem downloads_stream_iff (M : MediaRuntime) (S : MediaSwitch) (signer : Option RecordingLinkSigner) (now : UnixTime)
    (linkId accessToken recordingId messageId : Text) (fileFormat : Option String) :
    (Streams (downloadCallRecording M S accessToken recordingId) ∧
      Streams (retrieveLinkedCallRecording M S signer now linkId) ∧
        Streams (retrieveVoicemailMessageAttachment M S accessToken messageId fileFormat)) ↔
      ¬ AnsweredWithJson M S accessToken recordingId := by
  rw [← downloadCallRecording_streams_iff]
  exact and_iff_left ⟨retrieveLinkedCallRecording_streams signer now linkId,
    retrieveVoicemailMessageAttachment_streams accessToken messageId fileFormat⟩

/-! ## A recording that is answered with JSON -/

def emptyObject : Bytes := [123, 125]

def objectRuntime : MediaRuntime where
  json body := if body = emptyObject then .ok (.object []) else .error (ofString "Expecting value")
  lower := id

def jsonSwitch : MediaSwitch where
  getCallRecording _ _ := .ok { contentType := "application/json", body := some emptyObject }
  adminGetCallRecording _ := ⟨.error .streamError, .ok (), .error .streamError⟩
  getMailboxMessageAttachment _ _ _ := .error .streamError

theorem json_recording_returned : ¬ ∀ (M : MediaRuntime) (S : MediaSwitch) (signer : Option RecordingLinkSigner)
    (now : UnixTime) (linkId accessToken recordingId messageId : Text) (fileFormat : Option String),
    Streams (downloadCallRecording M S accessToken recordingId) ∧
      Streams (retrieveLinkedCallRecording M S signer now linkId) ∧
        Streams (retrieveVoicemailMessageAttachment M S accessToken messageId fileFormat) := by
  intro h
  obtain ⟨hstreams, -⟩ := h objectRuntime jsonSwitch none 0 [] (ofString "token") (ofString "12") [] none
  have hjson : IsJson objectRuntime { contentType := "application/json", body := some emptyObject } (.object []) :=
    ⟨by decide, emptyObject, rfl, by simp [objectRuntime]⟩
  exact streams_iff.1 hstreams _ (downloadCallRecording_json.2 ⟨_, rfl, _, rfl, hjson⟩)

/-! ## What an answer is besides its content -/

/-- Whether there is a stream, and whether it can be read. -/
def Decoded.stream : Decoded → Option Bool
  | .json _ => none
  | .media _ content => some content.isSome

/-- The answer of the account realm as `AccountApi` has it. -/
def reply (M : MediaRuntime) (path : String) : Exchange → Reply
  | .error (.webTrit error) => .fault error.faultCode
  | .error _ => .unexpected
  | .ok r => match decodeResponse M path r with
    | .ok (.json _) => .json
    | .ok (.media _ content) => .file content.isSome
    | .error _ => .unexpected

theorem accountRequest_reply {path : String} {token : Option Text} {exchange : Exchange} {decoded : Decoded}
    (h : accountRequest M path token exchange = .ok decoded) :
    AccountApi.sendRequest token (reply M path exchange) = .ok decoded.stream := by
  have hdecoded : (exchange >>= decodeResponse M path) = .ok decoded := by
    unfold accountRequest at h
    split at h
    · obtain ⟨faultCode, -, h⟩ := Fallible.bind_ok.1 h
      split at h
      · cases h
      · split at h <;> cases h
    · exact h
  obtain ⟨r, rfl, hr⟩ := Fallible.bind_ok.1 hdecoded
  simp only [reply, hr]
  cases decoded <;> rfl

/-- **A download that succeeds** has, as `retrieveCallRecording` knows it, the stream that is returned. -/
theorem downloadCallRecording_reply {A : Adapter} {accessToken recordingId : Text} {decoded : Decoded}
    (hapi : ∀ token iXdr, A.accountApi.getCallRecording token iXdr =
      reply M recordingPath (S.getCallRecording token iXdr))
    (h : downloadCallRecording M S accessToken recordingId = .ok decoded) :
    A.retrieveCallRecording accessToken recordingId = .ok decoded.stream := by
  obtain ⟨parts, hparts, h⟩ := Fallible.bind_ok.1 h
  rw [translateFault_ok] at h
  rw [Adapter.retrieveCallRecording, hparts, Fallible.ok_bind]
  dsimp only
  rw [hapi, accountRequest_reply h]

def waveSwitch : MediaSwitch where
  getCallRecording _ _ := .ok
    { contentType := "audio/wav", contentDisposition := "attachment", body := some [82, 73, 70, 70] }
  adminGetCallRecording _ := ⟨.error .streamError, .ok (), .error .streamError⟩
  getMailboxMessageAttachment _ _ _ := .error .streamError

def waveAdapter : Adapter where
  accountApi :=
    { getCallRecording := fun token iXdr => reply objectRuntime recordingPath (waveSwitch.getCallRecording token iXdr)
      getTranscription := fun _ _ _ => .fault none }
  recordingLinkSigner := none
  transcription := false

theorem downloadCallRecording_reply_wave :
    waveAdapter.retrieveCallRecording (ofString "token") (ofString "12") = .ok (some true) := by
  have hdownload : downloadCallRecording objectRuntime waveSwitch (ofString "token") (ofString "12") =
      .ok (.media "audio/wav" (some [82, 73, 70, 70])) := rfl
  exact downloadCallRecording_reply (fun _ _ => rfl) hdownload

end PortaPhone.Recordings
