import PortaPhone.Api.Routes
/-!
# Who may call what (`main.py`)

Each route checks for itself whom it acts for and whether the adapter can do it. `requests_guarded` says it of all of
them: no request makes the adapter act for a user other than the one that the adapter itself named for the bearer
token of the request, and none calls a method whose capability is not among those that `/system-info` lists.
-/

namespace PortaPhone.Api

open Requests
open SignIn (Failure)

/-! ## What a request may ask the adapter -/

/-- The bearer token of the headers. -/
def Request.bearer : Request → Option String
  | .user accessToken _ _ | .deleteSession accessToken => some accessToken
  | .health | .systemInfo | .createSession _ _ _ _ _ | .updateSession _ | .autoprovisionSession _ _
  | .createSessionOtp _ _
  | .verifySessionOtp _ _ | .signup _ _ | .publicRecording _ | .publicRecordingTranscription _ _ _
  | .customMethodPublic _ => none

/-- The tenant whose user a request is from. -/
def Request.tenant : Request → String
  | .user _ tenantId _ => defaultIdIfNone tenantId
  | .health | .systemInfo | .createSession _ _ _ _ _ | .updateSession _ | .deleteSession _ | .autoprovisionSession _ _
  | .createSessionOtp _ _ | .verifySessionOtp _ _ | .signup _ _ | .publicRecording _
  | .publicRecordingTranscription _ _ _
  | .customMethodPublic _ => "default"

/-- The call acts for this user of this session. -/
def AdapterCall.ForUser (session : SessionInfo) (tenant : String) : AdapterCall → Prop
  | .retrieveUser s user | .retrieveContacts s user | .retrieveContactsV2 s user _ | .retrieveContactByUserId s user _
  | .retrieveCalls s user _ | .retrieveVoicemails s user _ _ | .retrieveVoicemailMessageDetails s user _
  | .retrieveCallQueues s user | .setAllCallQueuesLogin s user _ | .setCallQueueLogin s user _ _ =>
    s = session ∧ user = { userId := session.userId, tenantId := some tenant }
  | .deleteUser user | .createUserEvent user _ => user = { userId := session.userId, tenantId := some tenant }
  | .retrieveCallRecording s _ | .retrieveCallTranscription s _ _ _ | .issueRecordingLink s _ _
  | .retrieveVoicemailMessageAttachment s _ _ | .patchVoicemailMessage s _ _ | .deleteVoicemailMessage s _ =>
    s = session
  | .customMethodPrivate s userId _ => s = session ∧ userId = session.userId
  | .authenticate _ _ | .validateSession _ | .refreshSession _ | .closeSession _
  | .autoprovisionSession _ _ | .generateOtp _
  | .validateOtp _ _ | .signup _ _ | .retrieveLinkedCallRecording _ | .retrieveLinkedCallTranscription _ _ _
  | .customMethodPublic _ => False

/-- The call has its credentials in its own arguments, or needs none. -/
def AdapterCall.Anonymous : AdapterCall → Prop
  | .authenticate _ _ | .refreshSession _ | .autoprovisionSession _ _ | .generateOtp _ | .validateOtp _ _ | .signup _ _
  | .retrieveLinkedCallRecording _ | .retrieveLinkedCallTranscription _ _ _ | .customMethodPublic _ => True
  | .validateSession _ | .closeSession _ | .deleteUser _ | .retrieveUser _ _ | .retrieveContacts _ _
  | .retrieveContactsV2 _ _ _ | .retrieveContactByUserId _ _ _ | .retrieveCalls _ _ _ | .retrieveCallRecording _ _
  | .retrieveCallTranscription _ _ _ _ | .issueRecordingLink _ _ _ | .retrieveVoicemails _ _ _ _
  | .retrieveVoicemailMessageDetails _ _ _ | .retrieveVoicemailMessageAttachment _ _ _ | .patchVoicemailMessage _ _ _
  | .deleteVoicemailMessage _ _ | .retrieveCallQueues _ _ | .setAllCallQueuesLogin _ _ _ | .setCallQueueLogin _ _ _ _
  | .customMethodPrivate _ _ _ | .createUserEvent _ _ => False

variable (service : Service)

/-- What the call takes is among the capabilities. -/
def Service.Allows : AdapterCall → Prop
  | .authenticate _ _ => service.passwordForced = true ∨ .passwordSignin ∈ service.supported
  | .validateOtp _ _ => .otpSignin ∈ service.supported ∨ .signup ∈ service.supported
  | .autoprovisionSession _ _ => .autoProvision ∈ service.supported
  | .generateOtp _ => .otpSignin ∈ service.supported
  | .signup _ _ => .signup ∈ service.supported
  | .retrieveContacts _ _ | .retrieveContactsV2 _ _ _ => .extensions ∈ service.supported
  | .retrieveCalls _ _ _ => .callHistory ∈ service.supported
  | .retrieveCallRecording _ _ | .retrieveLinkedCallRecording _ | .issueRecordingLink _ _ _ =>
    .recordings ∈ service.supported
  | .retrieveCallTranscription _ _ _ _ | .retrieveLinkedCallTranscription _ _ _ => .transcription ∈ service.supported
  | .patchVoicemailMessage _ _ body =>
    .voicemail ∈ service.supported ∧ (body.saved.isSome = true → .voicemailSave ∈ service.supported)
  | .retrieveVoicemails _ _ _ _ | .retrieveVoicemailMessageDetails _ _ _ | .retrieveVoicemailMessageAttachment _ _ _
  | .deleteVoicemailMessage _ _ => .voicemail ∈ service.supported
  | .retrieveCallQueues _ _ | .setAllCallQueuesLogin _ _ _ | .setCallQueueLogin _ _ _ _ =>
    .callCenter ∈ service.supported
  | .customMethodPublic _ | .customMethodPrivate _ _ _ => .customMethods ∈ service.supported
  | .createUserEvent _ _ => .userEvents ∈ service.supported
  | .validateSession _ | .refreshSession _ | .closeSession _ | .deleteUser _ | .retrieveUser _ _
  | .retrieveContactByUserId _ _ _ => True

/-- The session that the adapter answered for the token before. -/
def Service.Validated (accessToken : String) (session : SessionInfo) (before : List AdapterCall) : Prop :=
  Answered (service.answer (.validateSession accessToken)) (.validateSession accessToken) session before

/-- Why a call may be made after the calls `before`. -/
inductive Justified (request : Request) (before : List AdapterCall) : AdapterCall → Prop
  | validate {accessToken : String} (hbearer : request.bearer = some accessToken) :
      Justified request before (.validateSession accessToken)
  | close {accessToken : String} (hbearer : request.bearer = some accessToken) :
      Justified request before (.closeSession accessToken)
  | user {accessToken : String} {session : SessionInfo} {call : AdapterCall}
    (hbearer : request.bearer = some accessToken)
      (hsession : service.Validated accessToken session before) (hcall : call.ForUser session request.tenant) :
      Justified request before call
  | anonymous {call : AdapterCall} (hbearer : request.bearer = none) (hcall : call.Anonymous) :
    Justified request before call

/-- What the route may do after the calls so far. -/
def MayCall (request : Request) (before : List AdapterCall) (call : AdapterCall) : Prop :=
  Justified service request before call ∧ service.Allows call

/-! ## The checks of a route -/

section Checks

variable {service} {request : Request} {p : Prop} {P : List AdapterCall → Prop} {method : Capability}
  {accessToken : String} {session : SessionInfo}

theorem guards_isMethodAllowed : Guards (MayCall service request) P (isMethodAllowed service method)
    (fun _ log => P log ∧ method ∈ service.supported) :=
  guards_ite (fun hmethod => guards_pure fun _ hP => ⟨hP, hmethod⟩) fun _ => guards_raise _

theorem guards_validate (hbearer : request.bearer = some accessToken) :
    Guards (MayCall service request) (fun _ => p) (callBss service (.validateSession accessToken))
      (fun session log => service.Validated accessToken session log ∧ p) :=
  guards_send (fun _ _ => ⟨.validate hbearer, trivial⟩) fun _ _ hp hanswer => ⟨answered_snoc hanswer, hp⟩

/-- A call for the user of a validated session. -/
theorem guards_user {call : AdapterCall} (hbearer : request.bearer = some accessToken)
    (hsession : ∀ log, P log → service.Validated accessToken session log) (hcall : call.ForUser session request.tenant)
    (hallows : ∀ log, P log → service.Allows call) :
    Guards (MayCall service request) P (callBss service call) (fun _ _ => True) :=
  guards_send (fun log hP => ⟨.user hbearer (hsession log hP) hcall, hallows log hP⟩) fun _ _ _ _ => trivial

theorem guards_anonymous {call : AdapterCall} (hbearer : request.bearer = none) (hcall : call.Anonymous)
    (hallows : ∀ log, P log → service.Allows call) :
    Guards (MayCall service request) P (callBss service call) (fun _ _ => True) :=
  guards_send (fun log hP => ⟨.anonymous hbearer hcall, hallows log hP⟩) fun _ _ _ _ => trivial

theorem guards_close (hbearer : request.bearer = some accessToken) :
    Guards (MayCall service request) P (callBss service (.closeSession accessToken)) (fun _ _ => True) :=
  guards_send (fun _ _ => ⟨.close hbearer, trivial⟩) fun _ _ _ _ => trivial

/-- Whatever is made of a last answer. -/
theorem guards_answer {α β : Type} {m : Handler α} {f : α → β}
    (hm : Guards (MayCall service request) P m fun _ _ => True) :
    Guards (MayCall service request) P (m >>= fun a => pure (f a)) (fun _ _ => True) :=
  hm.bind fun _ => guards_pure fun _ _ => trivial

end Checks

/-! ## The routes -/

section Guarded

variable {service} (accessToken : String) (tenantId : Option String)

theorem guards_handleUser (request : UserRequest) : Guards (MayCall service (.user accessToken tenantId request))
    (fun _ => True) (handleUser service accessToken tenantId request) (fun _ _ => True) := by
  have validated : ∀ {p : Prop}, Guards (MayCall service (.user accessToken tenantId request)) (fun _ => p)
      (callBss service (.validateSession accessToken)) (fun session log =>
        service.Validated accessToken session log ∧ p) :=
    guards_validate rfl
  cases request with
  | userInfo =>
    exact validated.bind fun session => guards_answer (guards_user rfl (fun _ h => h.1) ⟨rfl, rfl⟩ fun _ _ => trivial)
  | deleteUser =>
    refine validated.bind fun session => ?_
    refine Guards.bind (Q := fun _ _ => True) ?_ fun _ => guards_answer (guards_close rfl)
    exact guards_user rfl (fun _ h => h.1) rfl fun _ _ => trivial
  | contactList =>
    refine validated.bind fun session => guards_ite (fun hextensions => ?_) fun _ => guards_pure fun _ _ => trivial
    exact guards_answer (guards_user rfl (fun _ h => h.1) ⟨rfl, rfl⟩ fun _ _ => hextensions)
  | contactListV2 query =>
    refine validated.bind fun session => guards_ite (fun hextensions => ?_) fun _ => guards_pure fun _ _ => trivial
    refine Guards.bind (Q := fun _ _ => True) ?_ fun (_, _) => guards_pure fun _ _ => trivial
    exact guards_user rfl (fun _ h => h.1) ⟨rfl, rfl⟩ fun _ _ => hextensions
  | contactById userId =>
    exact validated.bind fun session => guards_answer (guards_user rfl (fun _ h => h.1) ⟨rfl, rfl⟩ fun _ _ => trivial)
  | historyList query =>
    refine validated.bind fun session => guards_ite (fun hhistory => ?_) fun _ => guards_pure fun _ _ => trivial
    refine Guards.bind (Q := fun _ _ => True) ?_ fun (_, _) => guards_pure fun _ _ => trivial
    exact guards_user rfl (fun _ h => h.1) ⟨rfl, rfl⟩ fun _ _ => hhistory
  | recording recordingId =>
    refine guards_isMethodAllowed.bind fun _ => validated.bind fun session => ?_
    exact guards_answer (guards_user rfl (fun _ h => h.1) rfl fun _ h => h.2.2)
  | recordingTranscription recordingId format checkOnly =>
    refine guards_isMethodAllowed.bind fun _ => validated.bind fun session => ?_
    exact guards_answer (guards_user rfl (fun _ h => h.1) rfl fun _ h => h.2.2)
  | recordingLink recordingId ttl =>
    refine guards_isMethodAllowed.bind fun _ => validated.bind fun session => ?_
    refine Guards.bind (Q := fun _ _ => True) ?_ fun (_, _) => guards_pure fun _ _ => trivial
    exact guards_user rfl (fun _ h => h.1) rfl fun _ h => h.2.2
  | voicemails fromDate toDate =>
    refine validated.bind fun session => guards_isMethodAllowed.bind fun _ => ?_
    exact guards_answer (guards_user rfl (fun _ h => h.1.1) ⟨rfl, rfl⟩ fun _ h => h.2)
  | voicemailMessageDetails messageId =>
    refine validated.bind fun session => guards_isMethodAllowed.bind fun _ => ?_
    exact guards_answer (guards_user rfl (fun _ h => h.1.1) ⟨rfl, rfl⟩ fun _ h => h.2)
  | patchVoicemailMessage messageId body =>
    refine validated.bind fun session => guards_isMethodAllowed.bind fun _ => ?_
    have hsaved : Guards (MayCall service (.user accessToken tenantId (.patchVoicemailMessage messageId body)))
        (fun log => (service.Validated accessToken session log ∧ True) ∧ .voicemail ∈ service.supported)
        (savedAllowed service body)
        (fun _ log => service.Validated accessToken session log ∧
          service.Allows (.patchVoicemailMessage session messageId body)) :=
      guards_ite
        (fun _ => guards_isMethodAllowed.mono (fun _ h => h) fun _ _ h => ⟨h.1.1.1, h.1.2, fun _ => h.2⟩)
        fun hnone => guards_pure fun _ h => ⟨h.1.1, h.2, fun hsome => absurd hsome hnone⟩
    exact hsaved.bind fun _ => guards_answer (guards_user rfl (fun _ h => h.1) rfl fun _ h => h.2)
  | deleteVoicemailMessage messageId =>
    refine validated.bind fun session => guards_isMethodAllowed.bind fun _ => ?_
    exact guards_answer (guards_user rfl (fun _ h => h.1.1) rfl fun _ h => h.2)
  | voicemailMessageAttachment messageId fileFormat =>
    refine guards_isMethodAllowed.bind fun _ => validated.bind fun session => ?_
    exact guards_answer (guards_user rfl (fun _ h => h.1) rfl fun _ h => h.2.2)
  | callQueues =>
    refine validated.bind fun session => guards_isMethodAllowed.bind fun _ => ?_
    exact guards_answer (guards_user rfl (fun _ h => h.1.1) ⟨rfl, rfl⟩ fun _ h => h.2)
  | patchCallQueues loggedIn =>
    refine validated.bind fun session => guards_isMethodAllowed.bind fun _ => ?_
    exact guards_answer (guards_user rfl (fun _ h => h.1.1) ⟨rfl, rfl⟩ fun _ h => h.2)
  | patchCallQueue queueId loggedIn =>
    refine validated.bind fun session => guards_isMethodAllowed.bind fun _ => ?_
    exact guards_answer (guards_user rfl (fun _ h => h.1.1) ⟨rfl, rfl⟩ fun _ h => h.2)
  | customMethod call =>
    refine guards_isMethodAllowed.bind fun _ => validated.bind fun session => ?_
    exact guards_answer (guards_user rfl (fun _ h => h.1) ⟨rfl, rfl⟩ fun _ h => h.2.2)
  | createEvent event =>
    refine guards_isMethodAllowed.bind fun _ => validated.bind fun session => ?_
    exact guards_answer (guards_user rfl (fun _ h => h.1) rfl fun _ h => h.2.2)

theorem guards_handle (request : Request) :
    Guards (MayCall service request) (fun _ => True) (handle service request) (fun _ _ => True) := by
  cases request with
  | health => exact guards_pure fun _ _ => trivial
  | systemInfo => exact guards_pure fun _ _ => trivial
  | createSession userRef login password userAgent tenantId =>
    have hgate : Guards (MayCall service (.createSession userRef login password userAgent tenantId)) (fun _ => True)
        (passwordAllowed service)
        (fun _ _ => service.passwordForced = true ∨ .passwordSignin ∈ service.supported) :=
      guards_ite (fun hforced => guards_pure fun _ _ => .inl hforced) fun _ =>
        guards_isMethodAllowed.mono (fun _ h => h) fun _ _ h => .inr h.2
    refine hgate.bind fun _ => ?_
    split
    · exact guards_raise _
    · refine guards_ite (fun _ => guards_raise _) fun _ => ?_
      exact guards_answer (guards_anonymous rfl trivial fun _ h => h)
  | updateSession refreshToken => exact guards_answer (guards_anonymous rfl trivial fun _ _ => trivial)
  | deleteSession accessToken =>
    refine Guards.bind (Q := fun _ _ => True) (guards_close rfl) fun result => ?_
    exact guards_ite (fun _ => guards_pure fun _ _ => trivial) fun _ => guards_raise _
  | autoprovisionSession configToken tenantId =>
    exact guards_isMethodAllowed.bind fun _ => guards_answer (guards_anonymous rfl trivial fun _ h => h.2)
  | createSessionOtp userRef tenantId =>
    exact guards_isMethodAllowed.bind fun _ => guards_answer (guards_anonymous rfl trivial fun _ h => h.2)
  | verifySessionOtp otpId code =>
    have hgate : Guards (MayCall service (.verifySessionOtp otpId code)) (fun _ => True)
        (otpAllowed service)
        (fun _ _ => service.Allows (.validateOtp otpId code)) :=
      guards_ite (fun hotp => guards_pure fun _ _ => .inl hotp) fun _ =>
        guards_isMethodAllowed.mono (fun _ h => h) fun _ _ h => .inr h.2
    exact hgate.bind fun _ => guards_answer (guards_anonymous rfl trivial fun _ h => h)
  | signup body tenantId =>
    exact guards_isMethodAllowed.bind fun _ => guards_answer (guards_anonymous rfl trivial fun _ h => h.2)
  | publicRecording linkId =>
    exact guards_isMethodAllowed.bind fun _ => guards_answer (guards_anonymous rfl trivial fun _ h => h.2)
  | publicRecordingTranscription linkId format checkOnly =>
    exact guards_isMethodAllowed.bind fun _ => guards_answer (guards_anonymous rfl trivial fun _ h => h.2)
  | customMethodPublic call =>
    exact guards_isMethodAllowed.bind fun _ => guards_answer (guards_anonymous rfl trivial fun _ h => h.2)
  | user accessToken tenantId request => exact guards_handleUser accessToken tenantId request

end Guarded

/-- **Who a request acts for.** Whatever the adapter answers: each call that a request makes is one that it may make
after the calls before. -/
theorem requests_guarded (request : Request) (before : List AdapterCall) (call : AdapterCall) (after : List AdapterCall)
    (hlog : (handle service request []).2 = before ++ call :: after) :
    Justified service request before call ∧ service.Allows call :=
  (guards_handle request).run before call after hlog

/-- An adapter with one user and a recording. -/
def recorder : Service where
  name := "Recorder"
  version := "1"
  supported := [.recordings]
  otpLoginIdentifiers := []
  answer := fun call _ => match call with
    | .validateSession accessToken => .ok ⟨"7", accessToken⟩
    | .retrieveCallRecording _ _ => .ok ⟨none, "audio"⟩
    | _ => .error (.webTrit ⟨500, "", none, none⟩)

theorem requests_guarded_recorder : recorder.Validated "t" ⟨"7", "t"⟩ [.validateSession "t"] ∧
    Capability.recordings ∈ recorder.supported := by
  obtain ⟨hjustified, hallows⟩ := requests_guarded recorder (.user "t" none (.recording "r")) [.validateSession "t"]
    (.retrieveCallRecording ⟨"7", "t"⟩ "r") [] rfl
  refine ⟨?_, hallows⟩
  cases hjustified with
  | user hbearer hsession hcall =>
    cases hbearer
    obtain rfl : _ = _ := hcall
    exact hsession
  | anonymous hbearer _ => cases hbearer

end PortaPhone.Api
