import PortaPhone.Api.Capabilities
import PortaPhone.Lib.Guards
import PortaPhone.Lib.Json
import PortaPhone.SignIn.Account
/-!
# The routes (`main.py`)

| here | there |
| --- | --- |
| `AdapterCall`, `AdapterCall.Answer` | the methods of an adapter that the routes call, with what they return |
| `Service`              | the loaded adapter, its capabilities, and the configured `Capabilities.Password.Force` |
| `callBss`, `isMethodAllowed` | `call_bss` (`:182`), `is_method_allowed` (`:221`) |
| `createSession` … `createUserEvent` | the handlers of these names (`:253`–`:1517`) |
| `Request`, `handle`    | the requests as they reach a handler, and which one that is |

The framework has decoded a request: a route with a bearer token is not entered without one, and the parameters have
their types. What an adapter answers may depend on everything that it was asked before; the deadline of `call_bss` is
one of the ways in which it may fail. Values that a handler passes on as they are are JSON here.
-/

namespace PortaPhone.Api

open Requests
open SignIn (Failure WebTritError)

/-! ## The adapter -/

/-- What the routes read of a session. -/
structure SessionInfo where
  userId : String
  accessToken : String
deriving DecidableEq, Repr

structure ExtendedUserInfo where
  userId : String
  login : Option String := none
  tenantId : Option String := none
  clientAgent : Option String := none
deriving DecidableEq, Repr

/-- An entry of the call history. -/
structure CdrInfo where
  recordingId : Option String
  fields : Json

structure Media where
  contentType : Option String
  content : String

structure VoicemailPatch where
  seen : Option Bool := none
  saved : Option Bool := none
deriving DecidableEq, Repr

/-- What a custom method is called with. -/
structure CustomCall where
  methodName : String
  data : Json
  headers : List (String × String)
  tenantId : Option String
  lang : Option String

structure UserEvent where
  timestamp : Option Int
  group : String
  type : String
  data : Json

/-- A page of contacts that is asked for. -/
structure ContactsQuery where
  search : Option String := none
  phoneNumbers : List String := []
  page : Option Nat := some 1
  itemsPerPage : Option Nat := some 100
  smsCapable : Bool := false

structure HistoryQuery where
  page : Option Nat := some 1
  itemsPerPage : Option Nat := some 100
  timeFrom : Option Int := none
  timeTo : Option Int := none
  timeFloor : Option Int := none

inductive AdapterCall
  | authenticate (user : ExtendedUserInfo) (password : String)
  | validateSession (accessToken : String)
  | refreshSession (refreshToken : String)
  | closeSession (accessToken : String)
  | autoprovisionSession (configToken tenantId : String)
  | generateOtp (user : ExtendedUserInfo)
  | validateOtp (otpId code : String)
  | signup (userData : Json) (tenantId : String)
  | deleteUser (user : ExtendedUserInfo)
  | retrieveUser (session : SessionInfo) (user : ExtendedUserInfo)
  | retrieveContacts (session : SessionInfo) (user : ExtendedUserInfo)
  | retrieveContactsV2 (session : SessionInfo) (user : ExtendedUserInfo) (query : ContactsQuery)
  | retrieveContactByUserId (session : SessionInfo) (user : ExtendedUserInfo) (userId : String)
  | retrieveCalls (session : SessionInfo) (user : ExtendedUserInfo) (query : HistoryQuery)
  | retrieveCallRecording (session : SessionInfo) (recordingId : String)
  | retrieveCallTranscription (session : SessionInfo) (recordingId : String) (format : Option String) (checkOnly : Bool)
  | issueRecordingLink (session : SessionInfo) (recordingId : String) (ttl : Option Nat)
  | retrieveLinkedCallRecording (linkId : String)
  | retrieveLinkedCallTranscription (linkId : String) (format : Option String) (checkOnly : Bool)
  | retrieveVoicemails (session : SessionInfo) (user : ExtendedUserInfo) (fromDate toDate : Option String)
  | retrieveVoicemailMessageDetails (session : SessionInfo) (user : ExtendedUserInfo) (messageId : String)
  | retrieveVoicemailMessageAttachment (session : SessionInfo) (messageId : String) (fileFormat : Option String)
  | patchVoicemailMessage (session : SessionInfo) (messageId : String) (body : VoicemailPatch)
  | deleteVoicemailMessage (session : SessionInfo) (messageId : String)
  | retrieveCallQueues (session : SessionInfo) (user : ExtendedUserInfo)
  | setAllCallQueuesLogin (session : SessionInfo) (user : ExtendedUserInfo) (loggedIn : Bool)
  | setCallQueueLogin (session : SessionInfo) (user : ExtendedUserInfo) (queueId : String) (loggedIn : Bool)
  | customMethodPublic (call : CustomCall)
  | customMethodPrivate (session : SessionInfo) (userId : String) (call : CustomCall)
  | createUserEvent (user : ExtendedUserInfo) (event : UserEvent)

@[reducible] def AdapterCall.Answer : AdapterCall → Type
  | validateSession _ => SessionInfo
  | closeSession _ => Bool
  | retrieveContacts _ _ => List Json
  | retrieveContactsV2 _ _ _ => List Json × Nat
  | retrieveCalls _ _ _ => List CdrInfo × Nat
  | retrieveCallRecording _ _ | retrieveLinkedCallRecording _ | retrieveVoicemailMessageAttachment _ _ _ => Media
  | retrieveCallTranscription _ _ _ _ | retrieveLinkedCallTranscription _ _ _ => Media ⊕ Json
  | issueRecordingLink _ _ _ => String × Bool
  | deleteUser _ | deleteVoicemailMessage _ _ | createUserEvent _ _ => Unit
  | authenticate _ _ | refreshSession _ | autoprovisionSession _ _ | generateOtp _ | validateOtp _ _ | signup _ _
  | retrieveUser _ _ | retrieveContactByUserId _ _ _ | retrieveVoicemails _ _ _ _
  | retrieveVoicemailMessageDetails _ _ _ | patchVoicemailMessage _ _ _ | retrieveCallQueues _ _
  | setAllCallQueuesLogin _ _ _ | setCallQueueLogin _ _ _ _ | customMethodPublic _ | customMethodPrivate _ _ _ => Json

structure Service where
  name : String
  version : String
  supported : List Capability
  passwordForced : Bool := false
  otpLoginIdentifiers : List String
  answer : (c : AdapterCall) → List AdapterCall → Except Failure c.Answer

/-! ## Answers -/

structure Pagination where
  page : Option Nat
  itemsTotal : Nat
  itemsPerPage : Option Nat
deriving DecidableEq, Repr

inductive Response
  | health
  | json (body : Json)
  | noContent
  | systemInfo (name version : String) (supported : List Capability) (otpLoginIdentifiers : Option (List String))
  | contacts (items : List Json) (pagination : Option Pagination)
  | calls (items : List CdrInfo) (pagination : Pagination)
  | stream (mediaType content : String)
  | recordingLink (linkId : String) (transcription : Bool)

/-- The media type of a stream, with `application/octet-stream` where there is none. -/
def Media.stream (media : Media) : Response :=
  match media.contentType.filter (· ≠ "") with
  | some contentType => .stream contentType media.content
  | none => .stream "application/octet-stream" media.content

def transcriptionResponse : Media ⊕ Json → Response
  | .inl media => media.stream
  | .inr body => .json body

/-- `default_id_if_none`. -/
def defaultIdIfNone (tenantId : Option String) : String := (tenantId.filter (· ≠ "")).getD "default"

/-- The user of a session. -/
def sessionUser (session : SessionInfo) (tenantId : Option String) : ExtendedUserInfo :=
  { userId := session.userId, tenantId := some (defaultIdIfNone tenantId) }

abbrev Handler (α : Type) := Sends AdapterCall Failure α

variable (service : Service)

def callBss (call : AdapterCall) : Handler call.Answer := Sends.send call (service.answer call)

def raiseWebtritError {α : Type} (statusCode : Nat) (message : String) : Handler α :=
  Sends.raise (.webTrit ⟨statusCode, message, none, none⟩)

def isMethodAllowed (method : Capability) : Handler Unit :=
  if method ∈ service.supported then pure ()
  else
    raiseWebtritError 501
      ("Method " ++ method.name ++ " is not supported by adapter " ++ service.name ++ " " ++ service.version)

/-! ## Sessions -/

/-- With `Force` a sign-in by password is let through even where it is not offered. -/
def passwordAllowed : Handler Unit :=
  if service.passwordForced then pure () else isMethodAllowed service .passwordSignin

/-- A code may also be for a sign-up: where `otpSignin` is refused, `signup` is asked for. -/
def otpAllowed : Handler Unit := if .otpSignin ∈ service.supported then pure () else isMethodAllowed service .signup

def createSession (userRef login : Option String) (password : String) (userAgent tenantId : Option String) :
    Handler Response := do
  passwordAllowed service
  match (userRef.filter (· ≠ "")).or (login.filter (· ≠ "")) with
  | none => raiseWebtritError 422 "Missing username & password"
  | some ref =>
    if password = "" then raiseWebtritError 422 "Missing username & password"
    else
      let user : ExtendedUserInfo :=
        { userId := "N/A", clientAgent := some (userAgent.getD "Unknown"), tenantId := some (defaultIdIfNone tenantId),
          login := some ref }
      let session ← callBss service (.authenticate user password)
      return .json session

def updateSession (refreshToken : String) : Handler Response := do
  return .json (← callBss service (.refreshSession refreshToken))

def deleteSession (accessToken : String) : Handler Response := do
  let result ← callBss service (.closeSession accessToken)
  if result = true then return .noContent else raiseWebtritError 500 "User logout failed"

def autoprovisionSession (configToken : String) (tenantId : Option String) : Handler Response := do
  isMethodAllowed service .autoProvision
  return .json (← callBss service (.autoprovisionSession configToken (defaultIdIfNone tenantId)))

def createSessionOtp (userRef : String) (tenantId : Option String) : Handler Response := do
  isMethodAllowed service .otpSignin
  return .json (← callBss service
    (.generateOtp { userId := userRef, tenantId := some (defaultIdIfNone tenantId) }))

def verifySessionOtp (otpId code : String) : Handler Response := do
  otpAllowed service
  return .json (← callBss service (.validateOtp otpId code))

/-! ## General -/

def healthCheck : Handler Response := pure .health

def getSystemInfo : Handler Response :=
  pure (.systemInfo service.name service.version service.supported
    (if .otpSignin ∈ service.supported then some service.otpLoginIdentifiers else none))

/-! ## The user -/

def getUserInfo (accessToken : String) (tenantId : Option String) : Handler Response := do
  let session ← callBss service (.validateSession accessToken)
  return .json (← callBss service (.retrieveUser session (sessionUser session tenantId)))

def signup (body : Json) (tenantId : Option String) : Handler Response := do
  isMethodAllowed service .signup
  return .json (← callBss service (.signup body (defaultIdIfNone tenantId)))

def deleteUser (accessToken : String) (tenantId : Option String) : Handler Response := do
  let session ← callBss service (.validateSession accessToken)
  let _ ← callBss service (.deleteUser (sessionUser session tenantId))
  let _ ← callBss service (.closeSession accessToken)
  return .noContent

/-- Without `extensions` the list is empty. -/
def getUserContactList (accessToken : String) (tenantId : Option String) : Handler Response := do
  let session ← callBss service (.validateSession accessToken)
  if .extensions ∈ service.supported then
    let contacts ← callBss service (.retrieveContacts session (sessionUser session tenantId))
    return .contacts contacts none
  else return .contacts [] none

def getUserContactListV2 (accessToken : String) (tenantId : Option String) (query : ContactsQuery) :
    Handler Response := do
  let session ← callBss service (.validateSession accessToken)
  if .extensions ∈ service.supported then
    let (contacts, total) ← callBss service (.retrieveContactsV2 session (sessionUser session tenantId) query)
    return .contacts contacts (some ⟨query.page, total, query.itemsPerPage⟩)
  else return .contacts [] (some ⟨query.page, 0, query.itemsPerPage⟩)

def getUserContactById (accessToken : String) (tenantId : Option String) (userId : String) : Handler Response := do
  let session ← callBss service (.validateSession accessToken)
  return .json (← callBss service (.retrieveContactByUserId session (sessionUser session tenantId) userId))

/-- Without `recordings` no entry has a recording id, and without `callHistory` there are no entries. -/
def getUserHistoryList (accessToken : String) (tenantId : Option String) (query : HistoryQuery) : Handler Response := do
  let session ← callBss service (.validateSession accessToken)
  if .callHistory ∈ service.supported then
    let (calls, total) ← callBss service (.retrieveCalls session (sessionUser session tenantId) query)
    let items :=
      if .recordings ∈ service.supported then calls else calls.map fun call => { call with recordingId := none }
    return .calls items ⟨query.page, total, query.itemsPerPage⟩
  else return .calls [] ⟨some 1, 0, some 100⟩

/-! ## Recordings -/

def getUserRecording (accessToken recordingId : String) : Handler Response := do
  isMethodAllowed service .recordings
  let session ← callBss service (.validateSession accessToken)
  let media ← callBss service (.retrieveCallRecording session recordingId)
  return Media.stream media

def getUserRecordingTranscription (accessToken recordingId : String) (format : Option String)
    (checkOnly : Option Bool) :
    Handler Response := do
  isMethodAllowed service .transcription
  let session ← callBss service (.validateSession accessToken)
  let result ← callBss service (.retrieveCallTranscription session recordingId format (checkOnly.getD false))
  return transcriptionResponse result

def getUserRecordingLink (accessToken recordingId : String) (ttl : Option Nat) : Handler Response := do
  isMethodAllowed service .recordings
  let session ← callBss service (.validateSession accessToken)
  let (linkId, transcription) ← callBss service (.issueRecordingLink session recordingId ttl)
  return .recordingLink linkId transcription

def getPublicRecording (linkId : String) : Handler Response := do
  isMethodAllowed service .recordings
  let media ← callBss service (.retrieveLinkedCallRecording linkId)
  return Media.stream media

def getPublicRecordingTranscription (linkId : String) (format : Option String) (checkOnly : Option Bool) :
    Handler Response := do
  isMethodAllowed service .transcription
  let result ← callBss service (.retrieveLinkedCallTranscription linkId format (checkOnly.getD false))
  return transcriptionResponse result

/-! ## Voicemail -/

def getUserVoicemails (accessToken : String) (tenantId fromDate toDate : Option String) : Handler Response := do
  let session ← callBss service (.validateSession accessToken)
  isMethodAllowed service .voicemail
  return .json (← callBss service (.retrieveVoicemails session (sessionUser session tenantId) fromDate toDate))

def getUserVoicemailMessageDetails (accessToken : String) (tenantId : Option String) (messageId : String) :
    Handler Response := do
  let session ← callBss service (.validateSession accessToken)
  isMethodAllowed service .voicemail
  return .json (← callBss service (.retrieveVoicemailMessageDetails session (sessionUser session tenantId) messageId))

/-- To change `saved` takes `voicemailSave` too. -/
def savedAllowed (body : VoicemailPatch) : Handler Unit :=
  if body.saved.isSome then isMethodAllowed service .voicemailSave else pure ()

def patchUserVoicemailMessage (accessToken messageId : String) (body : VoicemailPatch) : Handler Response := do
  let session ← callBss service (.validateSession accessToken)
  isMethodAllowed service .voicemail
  savedAllowed service body
  return .json (← callBss service (.patchVoicemailMessage session messageId body))

def deleteUserVoicemailMessage (accessToken messageId : String) : Handler Response := do
  let session ← callBss service (.validateSession accessToken)
  isMethodAllowed service .voicemail
  let _ ← callBss service (.deleteVoicemailMessage session messageId)
  return .noContent

def getUserVoicemailMessageAttachment (accessToken messageId : String) (fileFormat : Option String) :
    Handler Response := do
  isMethodAllowed service .voicemail
  let session ← callBss service (.validateSession accessToken)
  let media ← callBss service (.retrieveVoicemailMessageAttachment session messageId fileFormat)
  return Media.stream media

/-! ## Call queues -/

def getUserCallQueues (accessToken : String) (tenantId : Option String) : Handler Response := do
  let session ← callBss service (.validateSession accessToken)
  isMethodAllowed service .callCenter
  return .json (← callBss service (.retrieveCallQueues session (sessionUser session tenantId)))

def patchUserCallQueues (accessToken : String) (tenantId : Option String) (loggedIn : Bool) : Handler Response := do
  let session ← callBss service (.validateSession accessToken)
  isMethodAllowed service .callCenter
  return .json (← callBss service (.setAllCallQueuesLogin session (sessionUser session tenantId) loggedIn))

def patchUserCallQueue (accessToken : String) (tenantId : Option String) (queueId : String) (loggedIn : Bool) :
    Handler Response := do
  let session ← callBss service (.validateSession accessToken)
  isMethodAllowed service .callCenter
  return .json (← callBss service (.setCallQueueLogin session (sessionUser session tenantId) queueId loggedIn))

/-! ## Custom methods and events -/

def customMethodPublic (call : CustomCall) : Handler Response := do
  isMethodAllowed service .customMethods
  return .json (← callBss service (.customMethodPublic call))

def customMethodPrivate (accessToken : String) (call : CustomCall) : Handler Response := do
  isMethodAllowed service .customMethods
  let session ← callBss service (.validateSession accessToken)
  return .json (← callBss service (.customMethodPrivate session session.userId call))

def createUserEvent (accessToken : String) (tenantId : Option String) (event : UserEvent) : Handler Response := do
  isMethodAllowed service .userEvents
  let session ← callBss service (.validateSession accessToken)
  let _ ← callBss service (.createUserEvent (sessionUser session tenantId) event)
  return .noContent

/-! ## Requests -/

/-- A request of a user comes with the bearer token and the tenant id of its headers. -/
inductive UserRequest
  | userInfo
  | deleteUser
  | contactList
  | contactListV2 (query : ContactsQuery)
  | contactById (userId : String)
  | historyList (query : HistoryQuery)
  | recording (recordingId : String)
  | recordingTranscription (recordingId : String) (format : Option String) (checkOnly : Option Bool)
  | recordingLink (recordingId : String) (ttl : Option Nat)
  | voicemails (fromDate toDate : Option String)
  | voicemailMessageDetails (messageId : String)
  | patchVoicemailMessage (messageId : String) (body : VoicemailPatch)
  | deleteVoicemailMessage (messageId : String)
  | voicemailMessageAttachment (messageId : String) (fileFormat : Option String)
  | callQueues
  | patchCallQueues (loggedIn : Bool)
  | patchCallQueue (queueId : String) (loggedIn : Bool)
  | customMethod (call : CustomCall)
  | createEvent (event : UserEvent)

inductive Request
  | health
  | systemInfo
  | createSession (userRef login : Option String) (password : String) (userAgent tenantId : Option String)
  | updateSession (refreshToken : String)
  | deleteSession (accessToken : String)
  | autoprovisionSession (configToken : String) (tenantId : Option String)
  | createSessionOtp (userRef : String) (tenantId : Option String)
  | verifySessionOtp (otpId code : String)
  | signup (body : Json) (tenantId : Option String)
  | publicRecording (linkId : String)
  | publicRecordingTranscription (linkId : String) (format : Option String) (checkOnly : Option Bool)
  | customMethodPublic (call : CustomCall)
  | user (accessToken : String) (tenantId : Option String) (request : UserRequest)

def handleUser (accessToken : String) (tenantId : Option String) : UserRequest → Handler Response
  | .userInfo => getUserInfo service accessToken tenantId
  | .deleteUser => deleteUser service accessToken tenantId
  | .contactList => getUserContactList service accessToken tenantId
  | .contactListV2 query => getUserContactListV2 service accessToken tenantId query
  | .contactById userId => getUserContactById service accessToken tenantId userId
  | .historyList query => getUserHistoryList service accessToken tenantId query
  | .recording recordingId => getUserRecording service accessToken recordingId
  | .recordingTranscription recordingId format checkOnly =>
    getUserRecordingTranscription service accessToken recordingId format checkOnly
  | .recordingLink recordingId ttl => getUserRecordingLink service accessToken recordingId ttl
  | .voicemails fromDate toDate => getUserVoicemails service accessToken tenantId fromDate toDate
  | .voicemailMessageDetails messageId => getUserVoicemailMessageDetails service accessToken tenantId messageId
  | .patchVoicemailMessage messageId body => patchUserVoicemailMessage service accessToken messageId body
  | .deleteVoicemailMessage messageId => deleteUserVoicemailMessage service accessToken messageId
  | .voicemailMessageAttachment messageId fileFormat =>
    getUserVoicemailMessageAttachment service accessToken messageId fileFormat
  | .callQueues => getUserCallQueues service accessToken tenantId
  | .patchCallQueues loggedIn => patchUserCallQueues service accessToken tenantId loggedIn
  | .patchCallQueue queueId loggedIn => patchUserCallQueue service accessToken tenantId queueId loggedIn
  | .customMethod call => customMethodPrivate service accessToken call
  | .createEvent event => createUserEvent service accessToken tenantId event

def handle : Request → Handler Response
  | .health => healthCheck
  | .systemInfo => getSystemInfo service
  | .createSession userRef login password userAgent tenantId =>
    createSession service userRef login password userAgent tenantId
  | .updateSession refreshToken => updateSession service refreshToken
  | .deleteSession accessToken => deleteSession service accessToken
  | .autoprovisionSession configToken tenantId => autoprovisionSession service configToken tenantId
  | .createSessionOtp userRef tenantId => createSessionOtp service userRef tenantId
  | .verifySessionOtp otpId code => verifySessionOtp service otpId code
  | .signup body tenantId => signup service body tenantId
  | .publicRecording linkId => getPublicRecording service linkId
  | .publicRecordingTranscription linkId format checkOnly =>
    getPublicRecordingTranscription service linkId format checkOnly
  | .customMethodPublic call => customMethodPublic service call
  | .user accessToken tenantId request => handleUser service accessToken tenantId request

end PortaPhone.Api
