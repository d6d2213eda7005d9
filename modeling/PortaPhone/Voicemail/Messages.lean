import PortaPhone.Contacts.Account
import PortaPhone.Lib.Calendar
import PortaPhone.Lib.Regex
import PortaPhone.Recordings.MediaDownload
/-!
# Voicemail messages (`portaswitch/serializer.py`, `portaswitch/adapter.py`)

| here | there |
| --- | --- |
| `parseSender`, `parseReceiver` | `parse_voicemail_message_sender_user_ref`, `parse_voicemail_message_receiver_user_ref` (`serializer.py:470`, `:488`) |
| `listUserRef`         | `_list_user_ref` (`:338`) |
| `getVoicemailMessage`, `getVoicemailMessageDetails`, `getVoicemailMessageAttachment` | the serializers of these names (`:305`, `:379`, `:404`) |
| `isDetailsFor`        | `is_voicemail_message_details_for` (`:345`) |
| `mailboxFault`        | the `except` clause of the mailbox methods (`adapter.py:2278`, `:2311`, `:2425`, `:2449`) |
| `retrieveVoicemails`, `retrieveVoicemailMessageDetails` | the methods of these names (`:2247`, `:2289`) |

For a message that has left the mailbox the switch describes another one, without some of its fields. `details_agree`:
the details that are returned are those of the listed message with the id that was asked for.
-/

namespace PortaPhone.Voicemail

open Contacts (Reading isIn isSpace strip toInt)
open Recordings (Decoded Exchange MediaRuntime WebTritError accountRequest bearer extractFaultCode)

/-! ## Headers -/

/-- `[^@\s]`. -/
def isUserChar (c : Char) : Bool := c ≠ '@' && !isSpace c

/-- `<([^@\s]+)@` and `#(\S+)` at the start of a text, with the group that matched. -/
def senderHere : List Char → Option (List Char)
  | '<' :: cs => (Regex.first (.plus (.one isUserChar)) (.one (· = '@')) cs).map fun found =>
    cs.take (cs.length - found.1.length)
  | '#' :: cs => (Regex.rests (.plus (.one fun c => !isSpace c)) cs).head?.map fun rest =>
    cs.take (cs.length - rest.length)
  | _ => none

/-- `re.search`. -/
def searchSender : List Char → Option (List Char)
  | [] => none
  | c :: cs => (senderHere (c :: cs)).orElse fun _ => searchSender cs

def parseSender (sender : String) : String := (searchSender sender.toList).elim sender String.ofList

def parseReceiver (receiver : String) : String := String.ofList (receiver.toList.takeWhile (· ≠ ' '))

example : parseSender "123 (John Doe) <1001@pbx>" = "1001" := by decide +kernel

def listUserRef (parse : String → String) : Json → Option String
  | .str header => if strip header = "" then none else some (parse header) |>.filter (· ≠ "")
  | _ => none

/-! ## Rows -/

/-- What goes by the Unicode tables, by `strptime` or by the types that pydantic checks. -/
structure Runtime extends Reading where
  strptime : Json → Except Json.Error DateTime
  optionalFloat : Json → Except Json.Error (Option String)
  intField : Json → Except Json.Error Int

inductive MessageType
  | voice
  | fax
deriving DecidableEq, Repr

structure VoicemailMessage where
  id : String
  type : MessageType
  duration : Option String
  size : Int
  date : DateTime
  seen : Bool
  saved : Option Bool
  sender : Option String
  receiver : Option String
deriving DecidableEq, Repr

structure Attachment where
  type : String
  subtype : String
  size : Int
  filename : String
deriving DecidableEq, Repr

structure VoicemailMessageDetails where
  id : String
  type : MessageType
  duration : Option String
  size : Int
  date : DateTime
  seen : Bool
  saved : Option Bool
  sender : String
  receiver : String
  attachments : List Attachment
deriving DecidableEq, Repr

/-- `text in value`. -/
def contains (text : String) : Json → Except Json.Error Bool
  | .list items => .ok (items.any (Json.eqStr text))
  | .object fields => .ok (Dict.find text fields).isSome
  | .str s => .ok (isIn text s)
  | _ => .error .type

def seenFlag : String := "\\Seen"
def flaggedFlag : String := "\\Flagged"

variable (R : Runtime)

def getVoicemailMessage (mailboxMessage : Json) : Except Json.Error VoicemailMessage := do
  let id ← mailboxMessage.index "message_uid"
  let faxPages ← mailboxMessage.get "fax_pages"
  let duration ← mailboxMessage.get "voicemail_duration"
  let size ← mailboxMessage.index "size"
  let date ← R.strptime (← mailboxMessage.index "delivery_date")
  let flags ← Json.getD "flags" (.list []) mailboxMessage
  let seen ← contains seenFlag flags
  let saved ← contains flaggedFlag flags
  let sender ← mailboxMessage.get "from"
  let receiver ← mailboxMessage.get "to"
  return {
    id := id.text R.repr, type := if faxPages.truthy then .fax else .voice, duration := ← R.optionalFloat duration
    size := ← R.intField size, date, seen, saved := some saved, sender := listUserRef parseSender sender
    receiver := listUserRef parseReceiver receiver }

/-- What pydantic takes for a `str`. -/
def strField : Json → Except Json.Error String
  | .str s => .ok s
  | _ => .error .value

def getVoicemailMessageAttachment (structure' : Json) : Except Json.Error Attachment := do
  let type ← structure'.index "bodytype"
  let subtype ← structure'.index "bodysubtype"
  let size ← structure'.index "bodysize"
  let filename ← structure'.index "file_name"
  return {
    type := ← strField type, subtype := ← strField subtype, size := ← R.intField size
    filename := ← strField filename }

/-- The parts of a message that are files. -/
def attachments (bodyStructures : Json) : Except Json.Error (List Attachment) := do
  (← bodyStructures.items).filterMapM fun part => do
    if ← contains "file_name" part then
      return some (← getVoicemailMessageAttachment R part)
    else
      return none

/-- `re.search` takes texts only. -/
def senderOf : Json → Except Json.Error String
  | .str header => .ok (parseSender header)
  | _ => .error .type

def receiverOf : Json → Except Json.Error String
  | .str header => .ok (parseReceiver header)
  | _ => .error .attribute

def getVoicemailMessageDetails (details : Json) : Except Json.Error VoicemailMessageDetails := do
  let message ← getVoicemailMessage R details
  let sender ← senderOf (← details.index "from")
  let receiver ← receiverOf (← details.index "to")
  let attachments ← attachments R (← details.index "body_structures")
  return {
    id := message.id, type := message.type, duration := message.duration, size := message.size, date := message.date
    seen := message.seen, saved := message.saved, sender, receiver, attachments }

/-- `int(returned_id) == int(str(message_id).strip())`. -/
def sameNumber (returnedId : Json) (messageId : String) : Except Json.Error Bool := do
  let returned ← toInt R.toReading returnedId
  let asked ← toInt R.toReading (.str messageId)
  return returned = asked

/-- `except (TypeError, ValueError)`: an infinite number is an `OverflowError`. -/
def sameMessage (returnedId : Json) (messageId : String) : Except Json.Error Bool :=
  match sameNumber R returnedId messageId with
  | .ok same => .ok same
  | .error .overflow => .error .overflow
  | .error _ => .ok (strip (returnedId.text R.repr) = strip messageId)

def isDetailsFor (details : Json) (messageId : String) : Except Json.Error Bool :=
  match (details.field? "message_uid").filter fun returnedId => !returnedId.isNull with
  | none => .ok false
  | some returnedId => do
    let same ← sameMessage R returnedId messageId
    return same && (details.field? "from").isSome && (details.field? "to").isSome

/-! ## The mailbox -/

inductive Failure
  | request (failure : Recordings.Failure)
  | python (error : Json.Error)

def mailboxFault {α : Type} (error : WebTritError) : Except Recordings.Failure α := do
  let faultCode ← extractFaultCode error
  if faultCode = "Client.Session.check_auth.failed_to_process_access_token" then
    .error (.webTrit Recordings.accessTokenExpiredError)
  else if faultCode = "Server.Account.unified_messaging_disabled"
    then .error (.webTrit Recordings.voicemailNotConfigured)
  else .error (.webTrit error)

variable (M : MediaRuntime)

/-- A request of the account realm within the `try` of a mailbox method. -/
def mailboxRequest (path : String) (accessToken : Text) (exchange : Exchange) : Except Failure Decoded :=
  match accountRequest M path (bearer accessToken) exchange with
  | .error (.webTrit error) => (mailboxFault error).mapError .request
  | .error failure => .error (.request failure)
  | .ok decoded => .ok decoded

def messageListPath : String := "/rest/Account/get_mailbox_message_list"
def messageDetailsPath : String := "/rest/Account/get_mailbox_message_details"

structure UserVoicemailsResponse where
  messages : List VoicemailMessage
  hasNewMessages : Bool

/-- `(...)["messages"]`. -/
def messagesOf : Decoded → Except Json.Error Json
  | .json answer => answer.index "messages"
  | .media _ _ => .error .type

def retrieveVoicemails (accessToken : Text) (exchange : Exchange) : Except Failure UserVoicemailsResponse := do
  let answer ← mailboxRequest M messageListPath accessToken exchange
  let rows ← ((messagesOf answer).bind Json.items).mapError .python
  let messages ← (rows.mapM (getVoicemailMessage R)).mapError .python
  return { messages, hasNewMessages := messages.any fun message => !message.seen }

def notFoundError (messageId : String) : Failure :=
  .request (.webTrit (Recordings.notFoundVoicemailMessageError (Text.ofString messageId)))

def retrieveVoicemailMessageDetails (accessToken : Text) (messageId : String) (exchange : Exchange) :
    Except Failure VoicemailMessageDetails := do
  match ← mailboxRequest M messageDetailsPath accessToken exchange with
  | .json details =>
    if ← (isDetailsFor R details messageId).mapError .python then
      (getVoicemailMessageDetails R details).mapError .python
    else do
      -- the warning that is logged reads the id of what came instead
      discard ((details.get "message_uid").mapError .python)
      .error (notFoundError messageId)
  | .media _ _ => .error (.python .attribute)

/-! ## Senders -/

theorem senderHere_ne_nil {cs group : List Char} (h : senderHere cs = some group) : group ≠ [] := by
  have taken : ∀ {s q : List Char}, q.length < s.length → s.take (s.length - q.length) ≠ [] := by
    intro s q hlt hnil
    have hlength := congrArg List.length hnil
    rw [List.length_take, List.length_nil] at hlength
    omega
  have consumes : ∀ p, Regex.Consumes (.plus (.one p)) := fun p => Regex.consumes_seq_left (Regex.consumes_one p)
  unfold senderHere at h
  split at h
  · obtain ⟨⟨q, rest⟩, hfirst, rfl⟩ := Option.map_eq_some_iff.1 h
    exact taken (consumes _ _ _ (Regex.first_eq_some hfirst).1)
  · obtain ⟨rest, hrest, rfl⟩ := Option.map_eq_some_iff.1 h
    exact taken (consumes _ _ _ (List.mem_of_mem_head? hrest))
  · cases h

theorem searchSender_ne_nil {cs group : List Char} (h : searchSender cs = some group) : group ≠ [] := by
  induction cs with
  | nil => cases h
  | cons c cs ih =>
    rw [searchSender] at h
    cases hhere : senderHere (c :: cs) with
    | none =>
      rw [hhere] at h
      exact ih h
    | some found =>
      rw [hhere] at h
      obtain rfl := Option.some.inj h
      exact senderHere_ne_nil hhere

/-- Only an empty header has an empty sender. -/
theorem parseSender_ne_empty {header : String} (h : header ≠ "") : parseSender header ≠ "" := by
  unfold parseSender
  cases hsearch : searchSender header.toList with
  | none => exact h
  | some group =>
    intro hempty
    exact searchSender_ne_nil hsearch (String.ofList_eq_empty_iff.1 hempty)

theorem listUserRef_sender (header : String) :
    listUserRef parseSender (.str header) = if strip header = "" then none else some (parseSender header) := by
  rw [listUserRef]
  by_cases hblank : strip header = ""
  · simp [hblank]
  · have hheader : header ≠ "" := by
      rintro rfl
      exact hblank (by decide)
    simp [hblank, parseSender_ne_empty hheader, Option.filter]

theorem listUserRef_receiver (header : String) :
    listUserRef parseReceiver (.str header) =
      if strip header = "" then none else (some (parseReceiver header)).filter (· ≠ "") := rfl

/-! ## Details of a listed message -/

/-- A row of the list, or an answer with details, by its fields. -/
abbrev Fields := List (String × Json)

/-- What is read of a row of the list. -/
def messageKeys : List String :=
  ["message_uid", "fax_pages", "voicemail_duration", "size", "delivery_date", "flags", "from", "to"]

/-- The row has the id that was asked for: the same number, or the same text where one of them is no number. -/
def Names (row : Fields) (messageId : String) : Prop :=
  ∃ id, Dict.find "message_uid" row = some id ∧ id.isNull = false ∧ sameMessage R id messageId = .ok true

/-- The id of the row is an infinite number. -/
def Infinite (row : Fields) : Prop :=
  ∃ id, Dict.find "message_uid" row = some id ∧ toInt R.toReading id = .error .overflow

/-- The answer has the id of the row, with all else that is listed of it or without its sender. -/
def Describes (answer row : Fields) : Prop :=
  Dict.find "message_uid" answer = Dict.find "message_uid" row ∧
    ((∀ key ∈ messageKeys, Dict.find key answer = Dict.find key row) ∨ Dict.find "from" answer = none)

/-- The details say what the list says; there a blank header gives no sender. -/
structure Agrees (row : Fields) (message : VoicemailMessage) (details : VoicemailMessageDetails) : Prop where
  same : (details.id, details.type, details.duration, details.size, details.date, details.seen, details.saved) =
    (message.id, message.type, message.duration, message.size, message.date, message.seen, message.saved)
  headers : ∃ sender receiver, Dict.find "from" row = some (.str sender) ∧ Dict.find "to" row = some (.str receiver) ∧
    message.sender = (if strip sender = "" then none else some details.sender) ∧
      message.receiver = if strip receiver = "" then none else (some details.receiver).filter (· ≠ "")

section Details

variable {R M} {row answer : Fields} {messageId : String} {accessToken : Text} {exchange : Exchange}

/-- The rest of a record is not read. -/
theorem getVoicemailMessage_congr (h : ∀ key ∈ messageKeys, Dict.find key answer = Dict.find key row) :
    getVoicemailMessage R (.object answer) = getVoicemailMessage R (.object row) := by
  simp only [messageKeys, List.forall_mem_cons, List.not_mem_nil, false_imp_iff, implies_true, and_true] at h
  obtain ⟨hid, hfax, hduration, hsize, hdate, hflags, hfrom, hto⟩ := h
  simp only [getVoicemailMessage, Json.index, Json.get, Json.getD, hid, hfax, hduration, hsize,
    hdate, hflags, hfrom, hto]

/-- What a row that is listed has under its headers. -/
theorem getVoicemailMessage_headers {sender receiver : String} {message : VoicemailMessage}
    (h : getVoicemailMessage R (.object row) = .ok message) (hfrom : Dict.find "from" row = some (.str sender))
    (hto : Dict.find "to" row = some (.str receiver)) :
    message.sender = listUserRef parseSender (.str sender) ∧
      message.receiver = listUserRef parseReceiver (.str receiver) := by
  unfold getVoicemailMessage at h
  obtain ⟨id, -, h⟩ := Fallible.bind_ok.1 h
  obtain ⟨faxPages, -, h⟩ := Fallible.bind_ok.1 h
  obtain ⟨duration, -, h⟩ := Fallible.bind_ok.1 h
  obtain ⟨size, -, h⟩ := Fallible.bind_ok.1 h
  obtain ⟨deliveryDate, -, h⟩ := Fallible.bind_ok.1 h
  obtain ⟨date, -, h⟩ := Fallible.bind_ok.1 h
  obtain ⟨flags, -, h⟩ := Fallible.bind_ok.1 h
  obtain ⟨seen, -, h⟩ := Fallible.bind_ok.1 h
  obtain ⟨saved, -, h⟩ := Fallible.bind_ok.1 h
  obtain ⟨from', hfrom', h⟩ := Fallible.bind_ok.1 h
  obtain ⟨to', hto', h⟩ := Fallible.bind_ok.1 h
  obtain ⟨duration', -, h⟩ := Fallible.bind_ok.1 h
  obtain ⟨size', -, h⟩ := Fallible.bind_ok.1 h
  obtain rfl := Fallible.pure_ok.1 h
  rw [Json.get, Json.getD_object, hfrom] at hfrom'
  rw [Json.get, Json.getD_object, hto] at hto'
  obtain rfl := Except.ok.inj hfrom'
  obtain rfl := Except.ok.inj hto'
  exact ⟨rfl, rfl⟩

theorem senderOf_ok {value : Json} {sender : String} (h : senderOf value = .ok sender) :
    ∃ header, value = .str header ∧ sender = parseSender header := by
  cases value with
  | str header => exact ⟨header, rfl, (Except.ok.inj h).symm⟩
  | _ => cases h

theorem receiverOf_ok {value : Json} {receiver : String} (h : receiverOf value = .ok receiver) :
    ∃ header, value = .str header ∧ receiver = parseReceiver header := by
  cases value with
  | str header => exact ⟨header, rfl, (Except.ok.inj h).symm⟩
  | _ => cases h

theorem index_object {key : String} {fields : Fields} {value : Json} :
    (Json.object fields).index key = .ok value ↔ Dict.find key fields = some value := by
  rw [Json.index]
  cases Dict.find key fields <;> simp

/-- Details of a record, in terms of what the list makes of it. -/
theorem getVoicemailMessageDetails_ok {details : VoicemailMessageDetails} :
    getVoicemailMessageDetails R (.object answer) = .ok details ↔ ∃ message sender receiver bodyStructures files,
      getVoicemailMessage R (.object answer) = .ok message ∧ Dict.find "from" answer = some (.str sender) ∧
        Dict.find "to" answer = some (.str receiver) ∧ Dict.find "body_structures" answer = some bodyStructures ∧
          attachments R bodyStructures = .ok files ∧
            details =
              ⟨message.id, message.type, message.duration, message.size, message.date, message.seen, message.saved,
              parseSender sender, parseReceiver receiver, files⟩ := by
  constructor
  · intro h
    obtain ⟨message, hmessage, h⟩ := Fallible.bind_ok.1 h
    obtain ⟨from', hfrom, h⟩ := Fallible.bind_ok.1 h
    obtain ⟨sender, hsender, h⟩ := Fallible.bind_ok.1 h
    obtain ⟨to', hto, h⟩ := Fallible.bind_ok.1 h
    obtain ⟨receiver, hreceiver, h⟩ := Fallible.bind_ok.1 h
    obtain ⟨bodyStructures, hbody, h⟩ := Fallible.bind_ok.1 h
    obtain ⟨files, hfiles, h⟩ := Fallible.bind_ok.1 h
    obtain rfl := Fallible.pure_ok.1 h
    obtain ⟨header, rfl, rfl⟩ := senderOf_ok hsender
    obtain ⟨header', rfl, rfl⟩ := receiverOf_ok hreceiver
    exact ⟨message, header, header', bodyStructures, files, hmessage, index_object.1 hfrom, index_object.1 hto,
      index_object.1 hbody, hfiles, rfl⟩
  · rintro ⟨message, sender, receiver, bodyStructures, files, hmessage, hfrom, hto, hbody, hfiles, rfl⟩
    unfold getVoicemailMessageDetails
    simp only [hmessage, index_object.2 hfrom, index_object.2 hto, index_object.2 hbody, hfiles, senderOf, receiverOf,
      Fallible.ok_bind]
    rfl

/-- The id in the path is a text, and no text is too large a number. -/
theorem sameMessage_error {id : Json} {e : Json.Error} : sameMessage R id messageId = .error e ↔
    e = .overflow ∧ toInt R.toReading id = .error .overflow := by
  have htext : toInt R.toReading (.str messageId) ≠ .error .overflow := by
    rw [toInt]
    split <;> exact fun h => by cases h
  unfold sameMessage sameNumber
  cases toInt R.toReading id with
  | error fault =>
    rw [Fallible.error_bind]
    cases fault <;> simp [eq_comm]
  | ok n =>
    rw [Fallible.ok_bind]
    cases hasked : toInt R.toReading (.str messageId) with
    | error fault =>
      rw [hasked] at htext
      rw [Fallible.error_bind]
      cases fault with
      | overflow => exact absurd rfl htext
      | _ => simp
    | ok m => simp [Fallible.ok_bind, pure, Except.pure]

theorem isDetailsFor_iff : isDetailsFor R (.object answer) messageId = .ok true ↔
    Names R answer messageId ∧ (Dict.find "from" answer).isSome = true ∧ (Dict.find "to" answer).isSome = true := by
  unfold isDetailsFor Names
  simp only [Json.field?]
  cases Dict.find "message_uid" answer with
  | none => simp
  | some id =>
    cases hnull : id.isNull with
    | true => simp [Option.filter, hnull]
    | false =>
      cases hsame : sameMessage R id messageId with
      | error fault => simp [Option.filter, hnull, hsame]
      | ok same => simp [Option.filter, hnull, hsame, Fallible.ok_bind, pure, Except.pure, and_assoc]

theorem isDetailsFor_error {e : Json.Error} : isDetailsFor R (.object answer) messageId = .error e ↔
    e = .overflow ∧ Infinite R answer := by
  unfold isDetailsFor Infinite
  simp only [Json.field?]
  cases Dict.find "message_uid" answer with
  | none => simp
  | some id =>
    cases hnull : id.isNull with
    | true =>
      have htype : toInt R.toReading id = .error .type := by
        cases id <;> first | rfl | cases hnull
      simp [Option.filter, hnull, htype]
    | false =>
      cases hsame : sameMessage R id messageId with
      | error fault =>
        obtain ⟨rfl, hid⟩ := sameMessage_error.1 hsame
        simp [Option.filter, hnull, hsame, hid, eq_comm]
      | ok same =>
        have hid : toInt R.toReading id ≠ .error .overflow := by
          intro hid
          rw [sameMessage_error.2 ⟨rfl, hid⟩] at hsame
          cases hsame
        simp [Option.filter, hnull, hsame, hid, Fallible.ok_bind, pure, Except.pure]

/-- The details of an answer that is an object. -/
theorem retrieveVoicemailMessageDetails_object
    (hanswer : mailboxRequest M messageDetailsPath accessToken exchange = .ok (.json (.object answer))) :
    retrieveVoicemailMessageDetails R M accessToken messageId exchange =
      match isDetailsFor R (.object answer) messageId with
      | .ok true => (getVoicemailMessageDetails R (.object answer)).mapError .python
      | .ok false => .error (notFoundError messageId)
      | .error error => .error (.python error) := by
  unfold retrieveVoicemailMessageDetails
  rw [hanswer, Fallible.ok_bind]
  dsimp only
  cases isDetailsFor R (.object answer) messageId with
  | error error => rfl
  | ok same => cases same <;> rfl

/-- The sender and the receiver of the details are those of the list. -/
theorem agrees_of {row : Fields} {message : VoicemailMessage} {sender receiver : String} {files : List Attachment}
    (hmessage : getVoicemailMessage R (.object row) = .ok message)
    (hfrom : Dict.find "from" row = some (.str sender)) (hto : Dict.find "to" row = some (.str receiver)) :
    Agrees row message ⟨message.id, message.type, message.duration, message.size, message.date, message.seen,
      message.saved, parseSender sender, parseReceiver receiver, files⟩ := by
  obtain ⟨hsender, hreceiver⟩ := getVoicemailMessage_headers hmessage hfrom hto
  exact ⟨rfl, sender, receiver, hfrom, hto, hsender.trans (listUserRef_sender sender),
    hreceiver.trans (listUserRef_receiver receiver)⟩

theorem Describes.names {row : Fields} (h : Describes answer row) : Names R answer messageId ↔ Names R row messageId := by
  rw [Names, Names, h.1]

theorem Describes.infinite {row : Fields} (h : Describes answer row) : Infinite R answer ↔ Infinite R row := by
  rw [Infinite, Infinite, h.1]

/-- An answer that is taken for the message asked for has its sender, so that it describes it as a whole. -/
theorem Describes.keys {row : Fields} (h : Describes answer row) (hfrom : (Dict.find "from" answer).isSome = true) :
    ∀ key ∈ messageKeys, Dict.find key answer = Dict.find key row := by
  rcases h.2 with hkeys | hnone
  · exact hkeys
  · rw [hnone] at hfrom
    cases hfrom

/-- **Details and list.** Where the switch describes a listed message, as a whole or without its sender, the details
that are returned are what the list says of it, and it has the id that was asked for; any other message is not found,
unless its id is an infinite number; and a message with that id and its headers is returned. -/
theorem details_agree (R : Runtime) (M : MediaRuntime) (row answer : Fields) (messageId : String) (accessToken : Text)
    (exchange : Exchange)
    (hanswer : mailboxRequest M messageDetailsPath accessToken exchange = .ok (.json (.object answer)))
    (hdescribes : Describes answer row) :
    (∀ details, retrieveVoicemailMessageDetails R M accessToken messageId exchange = .ok details →
      Names R row messageId ∧ ∃ message, getVoicemailMessage R (.object row) = .ok message ∧
        Agrees row message details) ∧
    (Infinite R row →
      retrieveVoicemailMessageDetails R M accessToken messageId exchange = .error (.python .overflow)) ∧
    (¬ Infinite R row → ¬ Names R row messageId ∨ Dict.find "from" answer = none →
      retrieveVoicemailMessageDetails R M accessToken messageId exchange = .error (notFoundError messageId)) ∧
    (∀ message sender receiver bodyStructures files, Names R row messageId →
      (∀ key ∈ messageKeys, Dict.find key answer = Dict.find key row) →
      getVoicemailMessage R (.object row) = .ok message → Dict.find "from" row = some (.str sender) →
      Dict.find "to" row = some (.str receiver) → Dict.find "body_structures" answer = some bodyStructures →
      attachments R bodyStructures = .ok files →
      ∃ details, retrieveVoicemailMessageDetails R M accessToken messageId exchange = .ok details ∧
        Agrees row message details ∧ details.attachments = files) := by
  rw [retrieveVoicemailMessageDetails_object hanswer]
  refine ⟨fun details h => ?_, fun h => ?_, fun hfinite h => ?_, ?_⟩
  · split at h
    · rename_i hfor
      obtain ⟨hname, hsome, -⟩ := isDetailsFor_iff.1 hfor
      have hkeys := hdescribes.keys hsome
      obtain ⟨message, sender, receiver, bodyStructures, files, hmessage, hfrom, hto, -, -, rfl⟩ :=
        getVoicemailMessageDetails_ok.1 (Fallible.mapError_ok.1 h)
      rw [getVoicemailMessage_congr hkeys] at hmessage
      rw [hkeys "from" (by decide)] at hfrom
      rw [hkeys "to" (by decide)] at hto
      exact ⟨hdescribes.names.1 hname, message, hmessage, agrees_of hmessage hfrom hto⟩
    · cases h
    · cases h
  · rw [isDetailsFor_error.2 ⟨rfl, hdescribes.infinite.2 h⟩]
  · cases hfor : isDetailsFor R (.object answer) messageId with
    | error fault => exact absurd (hdescribes.infinite.1 (isDetailsFor_error.1 hfor).2) hfinite
    | ok same =>
      cases same with
      | false => rfl
      | true =>
        obtain ⟨hname, hsome, -⟩ := isDetailsFor_iff.1 hfor
        rcases h with hother | hnone
        · exact absurd (hdescribes.names.1 hname) hother
        · rw [hnone] at hsome
          cases hsome
  · intro message sender receiver bodyStructures files hname hkeys hmessage hfrom hto hbody hfiles
    have hfrom' := (hkeys "from" (by decide)).trans hfrom
    have hto' := (hkeys "to" (by decide)).trans hto
    have hfor : isDetailsFor R (.object answer) messageId = .ok true :=
      isDetailsFor_iff.2 ⟨hdescribes.names.2 hname, by rw [hfrom']; rfl, by rw [hto']; rfl⟩
    have hdetails := getVoicemailMessageDetails_ok.2 ⟨message, sender, receiver, bodyStructures, files,
      (getVoicemailMessage_congr hkeys).trans hmessage, hfrom', hto', hbody, hfiles, rfl⟩
    rw [hfor, hdetails]
    exact ⟨_, rfl, agrees_of hmessage hfrom hto, rfl⟩

end Details

/-! ## A message that has left the mailbox -/

def strippedBody : Bytes := ((Text.ofString "\x7b\"message_uid\": 7\x7d").encodeUtf8).getD []

def strippedAnswer : Fields := [("message_uid", .int 7)]

def strippedMedia : MediaRuntime where
  json body := if body = strippedBody then .ok (.object strippedAnswer) else .error (Text.ofString "Expecting value")
  lower := id

theorem isDate_delivered : DateTime.IsDate (2024, 6, 7) := by decide

def delivered : DateTime := .midnight 2024 6 7 isDate_delivered

/-- The clock and the floats stand still. -/
def plainRuntime : Runtime where
  repr value := match value with
    | .int n => toString n
    | _ => ""
  digit := Json.asciiDigit
  trunc _ := .error .value
  strptime _ := .ok delivered
  optionalFloat _ := .ok none
  intField value := match value with
    | .int n => .ok n
    | _ => .error .value

def remainingRow : Fields := [("message_uid", .int 7), ("size", .int 5), ("from", .str "#1001"), ("to", .str "123")]

theorem details_agree_stripped :
    retrieveVoicemailMessageDetails plainRuntime strippedMedia (Text.ofString "token") "1654"
    (.ok { contentType := "application/json", body := some strippedBody }) = .error (notFoundError "1654") := by
  have hanswer : mailboxRequest strippedMedia messageDetailsPath (Text.ofString "token")
      (.ok { contentType := "application/json", body := some strippedBody }) =
        .ok (.json (.object strippedAnswer)) := rfl
  have hfinite : ¬ Infinite plainRuntime remainingRow := by
    rintro ⟨id, hid, hoverflow⟩
    obtain rfl : Json.int 7 = id := Option.some.inj hid
    cases hoverflow
  exact (details_agree plainRuntime strippedMedia remainingRow strippedAnswer "1654" _ _ hanswer ⟨rfl, .inr rfl⟩).2.2.1
    hfinite (.inr rfl)

end PortaPhone.Voicemail
