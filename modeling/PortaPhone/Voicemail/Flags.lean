import PortaPhone.Lib.Registers
import PortaPhone.Voicemail.Messages
/-!
# Flags of voicemail messages (`portaswitch/adapter.py`)

| here | there |
| --- | --- |
| `MailboxMessageFlag`, `FlagAction` | `PortaSwitchMailboxMessageFlag`, `PortaSwitchMailboxMessageFlagAction` (`types.py:50`, `:56`) |
| `UserVoicemailMessagePatch` | the class of this name (`models.py:969`); `requested` is its `model_dump` without unset and null fields |
| `voicemailPatchFlags` | `VOICEMAIL_PATCH_FLAGS` (`adapter.py:368`) |
| `startPatch`, `patchAnswered` | `patch_voicemail_message` (`:2384`), cut at its requests |
| `deleteAnswered`      | `delete_voicemail_message` (`:2437`) |
| `Sys`, `step`         | the mailbox with any number of these calls, and what happens to it outside |

Each attribute of a patch is a request of its own. `patches_kept`: two patches of other attributes, or of other
messages, never undo each other, whichever of their requests fail; what no patch mentions stays as it was.
-/

namespace PortaPhone.Voicemail

open Machine
open Recordings (Decoded Exchange MediaRuntime)

/-! ## Patches -/

inductive MailboxMessageFlag
  | seen
  | answered
  | flagged
deriving DecidableEq, Repr

inductive FlagAction
  | set
  | unset
deriving DecidableEq, Repr

inductive Attribute
  | seen
  | saved
deriving DecidableEq, Repr

/-- A field may be missing, null or given. -/
structure UserVoicemailMessagePatch where
  seen : Option (Option Bool) := none
  saved : Option (Option Bool) := none
deriving DecidableEq, Repr

def UserVoicemailMessagePatch.requested (body : UserVoicemailMessagePatch) : Attribute → Option Bool
  | .seen => body.seen.join
  | .saved => body.saved.join

/-- `UserVoicemailMessagePatch(**requested)`. -/
def UserVoicemailMessagePatch.echo (body : UserVoicemailMessagePatch) : UserVoicemailMessagePatch where
  seen := (body.requested .seen).map some
  saved := (body.requested .saved).map some

def voicemailPatchFlags : List (Attribute × MailboxMessageFlag) := [(.seen, .seen), (.saved, .flagged)]

/-- The requests of a patch, in their order. -/
def UserVoicemailMessagePatch.flagRequests (body : UserVoicemailMessagePatch) :
    List (MailboxMessageFlag × FlagAction) :=
  voicemailPatchFlags.filterMap fun entry =>
    (body.requested entry.1).map fun value => (entry.2, if value then .set else .unset)

example :
    UserVoicemailMessagePatch.flagRequests { seen := some none, saved := some (some true) } = [(.flagged, .set)] := rfl

/-! ## The mailbox -/

/-- A message but for its flags; `id` is what `str` makes of its `message_uid`. -/
structure Row (R : Runtime) where
  id : String
  fields : Fields
  names : ∃ uid, Dict.find "message_uid" fields = some uid ∧ uid.text R.repr = id

structure PatchCall where
  accessToken : Text
  messageId : String
  body : UserVoicemailMessagePatch
  /-- The requests that were answered. -/
  sent : Nat := 0
  result : Option (Except Failure UserVoicemailMessagePatch) := none

structure DeleteCall where
  accessToken : Text
  messageId : String
  result : Option (Except Failure Unit) := none

inductive Call
  | patch (call : PatchCall)
  | delete (call : DeleteCall)

/-- The messages, the flags by message and flag, and the calls in the order in which they began. -/
structure Sys (R : Runtime) where
  rows : List (Row R)
  flags : String × MailboxMessageFlag → Bool
  calls : List Call := []

/-- A call begins or is answered, and the switch may have carried out what it was asked for; or the mailbox changes
without these calls. -/
inductive MailboxEvent (R : Runtime)
  | patch (accessToken : Text) (messageId : String) (body : UserVoicemailMessagePatch)
  | delete (accessToken : Text) (messageId : String)
  | answered (i : Nat) (carriedOut : Bool) (exchange : Exchange)
  | delivered (row : Row R)
  | removed (id : String)
  | flag (id : String) (flag : MailboxMessageFlag) (value : Bool)

variable (R : Runtime) (M : MediaRuntime)

def setFlagPath : String := "/rest/Account/set_mailbox_messages_flag"
def deletePath : String := "/rest/Account/delete_mailbox_messages"

def startPatch (accessToken : Text) (messageId : String) (body : UserVoicemailMessagePatch) : PatchCall where
  accessToken := accessToken
  messageId := messageId
  body := body
  result := if body.flagRequests = [] then some (.ok body.echo) else none

/-- The answer to the next request of a patch. -/
def patchAnswered (call : PatchCall) : Except Failure Decoded → PatchCall
  | .ok _ =>
    { call with
      sent := call.sent + 1
      result := if call.sent + 1 < call.body.flagRequests.length then none else some (.ok call.body.echo) }
  | .error failure => { call with result := some (.error failure) }

def deleteAnswered (call : DeleteCall) (answer : Except Failure Decoded) : DeleteCall :=
  { call with result := some (answer.map fun _ => ()) }

/-- The switch confirms only what it has carried out. -/
def Confirms (carriedOut : Bool) (answer : Except Failure Decoded) : Prop := answer.isOk = true → carriedOut = true

instance (carriedOut : Bool) (answer : Except Failure Decoded) : Decidable (Confirms carriedOut answer) :=
  inferInstanceAs (Decidable (_ → _))

def step (s : Sys R) : MailboxEvent R → Option (Sys R)
  | .patch accessToken messageId body =>
    some { s with calls := s.calls ++ [.patch (startPatch accessToken messageId body)] }
  | .delete accessToken messageId => some { s with calls := s.calls ++ [.delete { accessToken, messageId }] }
  | .answered i carriedOut exchange => match s.calls[i]? with
    | none => none
    | some (.patch call) =>
      let answer := mailboxRequest M setFlagPath call.accessToken exchange
      match call.result, call.body.flagRequests[call.sent]? with
      | none, some (flag, action) =>
        if Confirms carriedOut answer then
          some { s with
            flags := if carriedOut then Function.update s.flags (call.messageId, flag) (action = .set) else s.flags
            calls := s.calls.set i (.patch (patchAnswered call answer)) }
        else none
      | _, _ => none
    | some (.delete call) =>
      let answer := mailboxRequest M deletePath call.accessToken exchange
      if call.result.isNone ∧ Confirms carriedOut answer then
        some { s with rows := if carriedOut then s.rows.filter (·.id ≠ call.messageId) else s.rows
                      calls := s.calls.set i (.delete (deleteAnswered call answer)) }
      else none
  | .delivered row => some { s with rows := s.rows ++ [row] }
  | .removed id => some { s with rows := s.rows.filter (·.id ≠ id) }
  | .flag id flag value => some { s with flags := Function.update s.flags (id, flag) value }

/-! ## The flags are registers -/

/-- The writes of a patch. -/
def PatchCall.writes (call : PatchCall) : List ((String × MailboxMessageFlag) × Bool) :=
  call.body.flagRequests.map fun request => ((call.messageId, request.1), request.2 = .set)

def PatchCall.failed (call : PatchCall) : Bool :=
  match call.result with
  | some (.error _) => true
  | _ => false

/-- A patch is a client of the flags; a call that deletes writes none of them. -/
def Call.client : Call → Registers.Client (String × MailboxMessageFlag) Bool
  | .patch call => { writes := call.writes, sent := call.sent, failed := call.failed }
  | .delete _ => { writes := [] }

def Sys.registers {R : Runtime} (s : Sys R) : Registers.State (String × MailboxMessageFlag) Bool where
  store := s.flags
  clients := s.calls.map Call.client

/-- What an event asks a flag of a message to be. -/
def MailboxEvent.Sets {R : Runtime} (messageId : String) (f : MailboxMessageFlag) (value : Bool) : MailboxEvent R → Prop
  | .patch _ id body => id = messageId ∧ ∃ action, (f, action) ∈ body.flagRequests ∧ (action = .set ↔ value = true)
  | .flag id g v => id = messageId ∧ g = f ∧ v = value
  | .delete _ _ | .answered _ _ _ | .delivered _ | .removed _ => False

section Simulation

variable {R M} {s s' t : Sys R} {e : MailboxEvent R} {es : List (MailboxEvent R)}

theorem startPatch_client (accessToken : Text) (messageId : String) (body : UserVoicemailMessagePatch) :
    (Call.patch (startPatch accessToken messageId body)).client =
      { writes := (startPatch accessToken messageId body).writes } := by
  have hfailed : (startPatch accessToken messageId body).failed = false := by
    unfold startPatch PatchCall.failed
    by_cases hnone : body.flagRequests = [] <;> simp [hnone]
  rw [Call.client, hfailed]
  rfl

theorem patchAnswered_client (call : PatchCall) (hresult : call.result = none) (answer : Except Failure Decoded) :
    (Call.patch (patchAnswered call answer)).client = (Call.patch call).client.after answer.isOk := by
  have hfailed : call.failed = false := by rw [PatchCall.failed, hresult]
  cases answer with
  | error failure =>
    simp [Call.client, patchAnswered, PatchCall.failed, PatchCall.writes, Registers.Client.after, Except.isOk,
      Except.toBool]
  | ok decoded =>
    by_cases hmore : call.sent + 1 < call.body.flagRequests.length <;>
      simp [Call.client, patchAnswered, PatchCall.failed, PatchCall.writes, Registers.Client.after, Except.isOk,
        Except.toBool, hmore, hresult]

/-- The answer to a patch that is under way. -/
theorem step_answered_patch {i : Nat} {carriedOut : Bool} {exchange : Exchange} {call : PatchCall}
    (hcall : s.calls[i]? = some (.patch call)) (h : step R M s (.answered i carriedOut exchange) = some s') :
    ∃ flag action, call.result = none ∧ call.body.flagRequests[call.sent]? = some (flag, action) ∧
      Confirms carriedOut (mailboxRequest M setFlagPath call.accessToken exchange) ∧
      s' = { s with
        flags := if carriedOut then Function.update s.flags (call.messageId, flag) (action = .set) else s.flags
        calls := s.calls.set i
          (.patch (patchAnswered call (mailboxRequest M setFlagPath call.accessToken exchange))) } := by
  simp only [step, hcall] at h
  split at h
  · rename_i flag action hresult hrequest
    split at h
    · rename_i hconfirms
      exact ⟨flag, action, hresult, hrequest, hconfirms, (Option.some.inj h).symm⟩
    · cases h
  · cases h

theorem step_answered_delete {i : Nat} {carriedOut : Bool} {exchange : Exchange} {call : DeleteCall}
    (hcall : s.calls[i]? = some (.delete call)) (h : step R M s (.answered i carriedOut exchange) = some s') :
    ∃ rows, s' = { s with rows := rows
                          calls := s.calls.set i
                            (.delete
                              (deleteAnswered call (mailboxRequest M deletePath call.accessToken exchange))) } := by
  simp only [step, hcall] at h
  split at h
  · exact ⟨_, (Option.some.inj h).symm⟩
  · cases h

/-- **Simulation.** A step of the mailbox is at most one step of the registers, which writes what the event asks for. -/
theorem step_registers (h : step R M s e = some s') :
    ∃ fs, exec Registers.step s.registers fs = some s'.registers ∧
      ∀ f ∈ fs, ∀ r a, Registers.Writes [f] r a → e.Sets r.1 r.2 a := by
  cases e with
  | patch accessToken messageId body =>
    obtain rfl := Option.some.inj h
    refine ⟨[.start (startPatch accessToken messageId body).writes], ?_, ?_⟩
    · simp only [exec_cons, exec_nil, Registers.step, Sys.registers, List.map_append, List.map_cons, List.map_nil,
        startPatch_client, Option.some.injEq, exists_eq_left']
    · intro f hf r a hwrites
      obtain rfl := List.mem_singleton.1 hf
      obtain ⟨writes, hmem, hra⟩ : ∃ writes, Registers.Event.start writes ∈
          [Registers.Event.start (startPatch accessToken messageId body).writes] ∧ (r, a) ∈ writes := by
        rcases hwrites with hout | hstart
        · cases List.mem_singleton.1 hout
        · exact hstart
      obtain rfl := Registers.Event.start.inj (List.mem_singleton.1 hmem)
      obtain ⟨⟨flag, action⟩, hrequest, heq⟩ := List.mem_map.1 hra
      obtain ⟨rfl, rfl⟩ := Prod.mk.inj heq
      exact ⟨rfl, action, hrequest, by simp⟩
  | delete accessToken messageId =>
    obtain rfl := Option.some.inj h
    refine ⟨[.start []], ?_, ?_⟩
    · simp only [exec_cons, exec_nil, Registers.step, Sys.registers, List.map_append, List.map_cons,
        List.map_nil, Call.client,
        Option.some.injEq, exists_eq_left']
    · intro f hf r a hwrites
      obtain rfl := List.mem_singleton.1 hf
      simp [Registers.Writes] at hwrites
  | answered i carriedOut exchange =>
    cases hcall : s.calls[i]? with
    | none => simp [step, hcall] at h
    | some call =>
      cases call with
      | patch call =>
        obtain ⟨flag, action, hresult, hrequest, hconfirms, rfl⟩ := step_answered_patch hcall h
        refine ⟨[.write i carriedOut (mailboxRequest M setFlagPath call.accessToken exchange).isOk], ?_, ?_⟩
        · have hclient : (s.registers.clients)[i]? = some (Call.patch call).client := by
            simp [Sys.registers, hcall]
          have hwrite : (Call.patch call).client.writes[(Call.patch call).client.sent]? =
              some ((call.messageId, flag), decide (action = .set)) := by
            simp [Call.client, PatchCall.writes, hrequest]
          have hfailed : (Call.patch call).client.failed = false := by simp [Call.client, PatchCall.failed, hresult]
          refine exec_cons.2 ⟨_, ?_, rfl⟩
          simp only [Registers.step, hclient, hwrite, hfailed, Option.bind_eq_bind,
            Option.bind_some, Bool.false_eq_true,
            false_or]
          rw [if_neg]
          · simp [Sys.registers, List.map_set, patchAnswered_client call hresult]
          · rintro ⟨hok, hnot⟩
            rw [hconfirms hok] at hnot
            cases hnot
        · intro f hf r a hwrites
          obtain rfl := List.mem_singleton.1 hf
          simp [Registers.Writes] at hwrites
      | delete call =>
        obtain ⟨rows, rfl⟩ := step_answered_delete hcall h
        refine ⟨[], ?_, by simp⟩
        have hsame :
            (s.calls.set i (.delete (deleteAnswered call (mailboxRequest M deletePath call.accessToken exchange)))).map
            Call.client = s.calls.map Call.client := by
          have hget : (s.calls.map Call.client)[i]? = some (Call.delete call).client := by
            rw [List.getElem?_map, hcall]; rfl
          obtain ⟨hi, hclient⟩ := List.getElem?_eq_some_iff.1 hget
          rw [List.map_set]
          show (s.calls.map Call.client).set i (Call.delete call).client = s.calls.map Call.client
          rw [← hclient, List.set_getElem_self hi]
        simp [Sys.registers, hsame]
  | delivered row =>
    obtain rfl := Option.some.inj h
    exact ⟨[], rfl, by simp⟩
  | removed id =>
    obtain rfl := Option.some.inj h
    exact ⟨[], rfl, by simp⟩
  | flag id f value =>
    obtain rfl := Option.some.inj h
    refine ⟨[.outside (id, f) value], rfl, ?_⟩
    intro g hg r a hwrites
    obtain rfl := List.mem_singleton.1 hg
    rcases hwrites with hout | ⟨writes, hstart, -⟩
    · cases List.mem_singleton.1 hout
      exact ⟨rfl, rfl, rfl⟩
    · cases List.mem_singleton.1 hstart

/-- A patch that returned has made all its requests. -/
theorem patch_completed (h₀ : s.calls = []) (hrun : exec (step R M) s es = some t) :
    ∀ call, Call.patch call ∈ t.calls → (∃ body, call.result = some (.ok body)) →
      (Call.patch call).client.Completed := by
  have done : ∀ {call : PatchCall}, (∃ body, call.result = some (.ok body)) →
      call.body.flagRequests.length ≤ call.sent → (Call.patch call).client.Completed := by
    rintro call ⟨body, hresult⟩ hsent
    exact ⟨by simp [Call.client, PatchCall.failed, hresult], by simpa [Call.client, PatchCall.writes] using hsent⟩
  intro call hcall hresult
  refine done hresult ?_
  refine exec_induction (P := fun _ t => ∀ call, Call.patch call ∈ t.calls → (∃ body, call.result = some (.ok body)) →
    call.body.flagRequests.length ≤ call.sent) (by simp [h₀]) ?_ hrun call hcall hresult
  intro fs m e m' _ ih hstep call hcall hresult
  cases e with
  | patch accessToken messageId body =>
    obtain rfl := Option.some.inj hstep
    rcases List.mem_append.1 hcall with hcall | hcall
    · exact ih call hcall hresult
    · obtain rfl := Call.patch.inj (List.mem_singleton.1 hcall)
      obtain ⟨echo, hresult⟩ := hresult
      unfold startPatch at hresult ⊢
      by_cases hnone : body.flagRequests = []
      · simp [hnone]
      · simp [hnone] at hresult
  | delete accessToken messageId =>
    obtain rfl := Option.some.inj hstep
    rcases List.mem_append.1 hcall with hcall | hcall
    · exact ih call hcall hresult
    · cases List.mem_singleton.1 hcall
  | answered i carriedOut exchange =>
    cases hi : m.calls[i]? with
    | none => simp [step, hi] at hstep
    | some old =>
      cases old with
      | delete old =>
        obtain ⟨rows, rfl⟩ := step_answered_delete hi hstep
        rcases List.mem_or_eq_of_mem_set hcall with hcall | hcall
        · exact ih call hcall hresult
        · cases hcall
      | patch old =>
        obtain ⟨flag, action, -, -, -, rfl⟩ := step_answered_patch hi hstep
        rcases List.mem_or_eq_of_mem_set hcall with hcall | hcall
        · exact ih call hcall hresult
        · obtain rfl := Call.patch.inj hcall
          obtain ⟨echo, hresult⟩ := hresult
          cases hanswer : mailboxRequest M setFlagPath old.accessToken exchange with
          | error failure => simp [hanswer, patchAnswered] at hresult
          | ok decoded =>
            simp only [hanswer, patchAnswered] at hresult ⊢
            split at hresult
            · cases hresult
            · omega
  | delivered row =>
    obtain rfl := Option.some.inj hstep
    exact ih call hcall hresult
  | removed id =>
    obtain rfl := Option.some.inj hstep
    exact ih call hcall hresult
  | flag id f value =>
    obtain rfl := Option.some.inj hstep
    exact ih call hcall hresult

end Simulation

/-! ## What is listed -/

def MailboxMessageFlag.text : MailboxMessageFlag → String
  | .seen => "\\Seen"
  | .answered => "\\Answered"
  | .flagged => "\\Flagged"

/-- The row of a message in the answer of the switch. -/
def Sys.listed {R : Runtime} (s : Sys R) (row : Row R) : Json :=
  .object (("flags",
    .list (([.seen, .answered, .flagged].filter fun f => s.flags (row.id, f)).map fun f => .str f.text)) ::
    row.fields)

/-- The exchange brings the messages as they are. -/
def Lists {R : Runtime} (M : MediaRuntime) (s : Sys R) (accessToken : Text) (exchange : Exchange) : Prop :=
  ∃ answer, mailboxRequest M messageListPath accessToken exchange = .ok (.json answer) ∧
    answer.index "messages" = .ok (.list (s.rows.map s.listed))

def VoicemailMessage.value (message : VoicemailMessage) : Attribute → Option Bool
  | .seen => some message.seen
  | .saved => message.saved

/-- The flag that carries an attribute. -/
def Attribute.flag : Attribute → MailboxMessageFlag
  | .seen => .seen
  | .saved => .flagged

section Listing

variable {R M} {s t : Sys R} {es : List (MailboxEvent R)}

theorem contains_flag (p : MailboxMessageFlag → Bool) (attr : Attribute) :
    contains attr.flag.text (.list (([.seen, .answered, .flagged].filter p).map fun f => .str f.text)) =
      .ok (p attr.flag) := by
  cases attr <;> cases hseen : p .seen <;> cases hanswered : p .answered <;> cases hflagged : p .flagged <;>
    simp [contains, List.filter, hseen, hanswered, hflagged, Json.eqStr, Attribute.flag, MailboxMessageFlag.text]

/-- What a listed message says of its flags. -/
theorem listed_value {row : Row R} {message : VoicemailMessage} (h : getVoicemailMessage R (s.listed row) = .ok message)
    (attr : Attribute) : message.id = row.id ∧ message.value attr = some (s.flags (row.id, attr.flag)) := by
  obtain ⟨uid, huid, hid⟩ := row.names
  unfold getVoicemailMessage at h
  obtain ⟨id, hindex, h⟩ := Fallible.bind_ok.1 h
  obtain ⟨faxPages, -, h⟩ := Fallible.bind_ok.1 h
  obtain ⟨duration, -, h⟩ := Fallible.bind_ok.1 h
  obtain ⟨size, -, h⟩ := Fallible.bind_ok.1 h
  obtain ⟨deliveryDate, -, h⟩ := Fallible.bind_ok.1 h
  obtain ⟨date, -, h⟩ := Fallible.bind_ok.1 h
  obtain ⟨flags, hflags, h⟩ := Fallible.bind_ok.1 h
  obtain ⟨seen, hseen, h⟩ := Fallible.bind_ok.1 h
  obtain ⟨saved, hsaved, h⟩ := Fallible.bind_ok.1 h
  obtain ⟨sender, -, h⟩ := Fallible.bind_ok.1 h
  obtain ⟨receiver, -, h⟩ := Fallible.bind_ok.1 h
  obtain ⟨duration', -, h⟩ := Fallible.bind_ok.1 h
  obtain ⟨size', -, h⟩ := Fallible.bind_ok.1 h
  obtain rfl := Fallible.pure_ok.1 h
  have huid' : Dict.find "message_uid" (("flags", Json.null) :: row.fields) = some uid := huid
  obtain rfl : id = uid := by
    have hfind := index_object.1 hindex
    exact Option.some.inj (hfind.symm.trans huid)
  obtain rfl := Except.ok.inj hflags
  have hseen' := (contains_flag (fun f => s.flags (row.id, f)) .seen).symm.trans hseen
  have hsaved' := (contains_flag (fun f => s.flags (row.id, f)) .saved).symm.trans hsaved
  refine ⟨hid, ?_⟩
  cases attr with
  | seen => exact congrArg some (Except.ok.inj hseen').symm
  | saved => exact congrArg some (Except.ok.inj hsaved').symm

/-- Every message of a listing is one of the mailbox. -/
theorem retrieveVoicemails_value {accessToken : Text} {exchange : Exchange} {response : UserVoicemailsResponse}
    (hlists : Lists M s accessToken exchange) (h : retrieveVoicemails R M accessToken exchange = .ok response)
    {message : VoicemailMessage} (hmessage : message ∈ response.messages) (attr : Attribute) :
    message.value attr = some (s.flags (message.id, attr.flag)) := by
  obtain ⟨answer, hanswer, hindex⟩ := hlists
  obtain ⟨decoded, hdecoded, h⟩ := Fallible.bind_ok.1 h
  obtain rfl := Except.ok.inj (hanswer.symm.trans hdecoded)
  obtain ⟨rows, hrows, h⟩ := Fallible.bind_ok.1 h
  obtain ⟨messages, hmessages, h⟩ := Fallible.bind_ok.1 h
  obtain rfl := Fallible.pure_ok.1 h
  have hitems : rows = s.rows.map s.listed := by
    simp only [messagesOf, hindex, Except.bind, Json.items, Except.mapError] at hrows
    exact (Except.ok.inj hrows).symm
  subst hitems
  have hall : (s.rows.map s.listed).mapM (getVoicemailMessage R) = .ok messages := by
    revert hmessages
    cases (s.rows.map s.listed).mapM (getVoicemailMessage R) with
    | error e => exact nofun
    | ok messages' => exact fun h => congrArg Except.ok (Except.ok.inj h)
  obtain ⟨json, hjson, hrow⟩ := Fallible.of_mem_mapM hall hmessage
  obtain ⟨row, -, rfl⟩ := List.mem_map.1 hjson
  obtain ⟨hid, hattribute⟩ := listed_value hrow attr
  rw [hattribute, hid]

/-- The value that a patch asks for is written to its flag. -/
theorem requested_writes {call : PatchCall} {attr : Attribute} (h : (call.body.requested attr).isSome = true) :
    ∃ value, ((call.messageId, attr.flag), value) ∈ (Call.patch call).client.writes := by
  obtain ⟨value, hvalue⟩ := Option.isSome_iff_exists.1 h
  refine ⟨_, List.mem_map.2 ⟨(attr.flag, if value then .set else .unset), List.mem_filterMap.2 ?_, rfl⟩⟩
  cases attr with
  | seen => exact ⟨(.seen, .seen), by simp [voicemailPatchFlags], by simp [hvalue, Attribute.flag]⟩
  | saved => exact ⟨(.saved, .flagged), by simp [voicemailPatchFlags], by simp [hvalue, Attribute.flag]⟩

/-- **No lost update.** In every run of patches, deletions and changes from outside, in any order and with any of their
requests failing: an attribute that some patch has set is listed with its value as long as nothing asks for another one,
and an attribute that nothing mentions is listed as it was. -/
theorem patches_kept (R : Runtime) (M : MediaRuntime) (s t : Sys R) (es : List (MailboxEvent R)) (messageId : String)
    (attr : Attribute) (accessToken : Text) (exchange : Exchange) (response : UserVoicemailsResponse)
    (h₀ : s.calls = []) (hrun : exec (step R M) s es = some t) (hlists : Lists M t accessToken exchange)
    (hresponse : retrieveVoicemails R M accessToken exchange = .ok response) :
    (∀ value, (∀ e ∈ es, ∀ other, e.Sets messageId attr.flag other → other = value) →
      (∃ call body, .patch call ∈ t.calls ∧ call.messageId = messageId ∧ (call.body.requested attr).isSome = true ∧
        call.result = some (.ok body)) →
      ∀ message ∈ response.messages, message.id = messageId → message.value attr = some value) ∧
    ((∀ e ∈ es, ∀ value, ¬ e.Sets messageId attr.flag value) →
      ∀ message ∈ response.messages, message.id = messageId →
        message.value attr = some (s.flags (messageId, attr.flag))) ∧
    (response.hasNewMessages = true ↔ ∃ message ∈ response.messages, message.value .seen = some false) := by
  obtain ⟨fs, hfs, hfrom⟩ := exec_simulates
    (Q := fun e f => ∀ (r : String × MailboxMessageFlag) a, Registers.Writes [f] r a → e.Sets r.1 r.2 a)
    (fun _ _ _ h => step_registers h) hrun
  have hclients : s.registers.clients = [] := by simp [Sys.registers, h₀]
  -- what is written to the flag, some event of the mailbox asks for
  have hwrites : ∀ value, Registers.Writes fs (messageId, attr.flag) value →
      ∃ e ∈ es, e.Sets messageId attr.flag value := by
    intro value hwrites
    rcases hwrites with hout | ⟨writes, hstart, hmem⟩
    · obtain ⟨e, he, hsets⟩ := hfrom _ hout
      exact ⟨e, he, hsets _ _ (.inl (List.mem_singleton_self _))⟩
    · obtain ⟨e, he, hsets⟩ := hfrom _ hstart
      exact ⟨e, he, hsets _ _ (.inr ⟨writes, List.mem_singleton_self _, hmem⟩)⟩
  refine ⟨?_, ?_, ?_⟩
  · rintro value hsame ⟨call, body, hcall, rfl, hrequested, hresult⟩ message hmessage hid
    have hstore := Registers.settled hclients hfs (r := (call.messageId, attr.flag)) (v := value)
      (fun a ha => by obtain ⟨e, he, hsets⟩ := hwrites a ha; exact hsame e he a hsets)
      (List.mem_map_of_mem hcall) (patch_completed h₀ hrun call hcall ⟨body, hresult⟩) (requested_writes hrequested)
    rw [retrieveVoicemails_value hlists hresponse hmessage, hid]
    exact congrArg some hstore
  · intro hnone message hmessage hid
    rw [retrieveVoicemails_value hlists hresponse hmessage, hid]
    rcases Registers.origin hclients hfs (messageId, attr.flag) with hstore | hstore
    · exact congrArg some hstore
    · obtain ⟨e, he, hsets⟩ := hwrites _ hstore
      exact absurd hsets (hnone e he _)
  · obtain ⟨decoded, -, h⟩ := Fallible.bind_ok.1 hresponse
    obtain ⟨rows, -, h⟩ := Fallible.bind_ok.1 h
    obtain ⟨messages, -, h⟩ := Fallible.bind_ok.1 h
    obtain rfl := Fallible.pure_ok.1 h
    simp [VoicemailMessage.value]

end Listing

/-! ## A message that is saved -/

def successBody : Bytes := ((Text.ofString "\x7b\"success\": 1\x7d").encodeUtf8).getD []

def listBody : Bytes :=
  ((Text.ofString ("\x7b\"messages\": [\x7b\"flags\": [\"\\\\Flagged\"], \"message_uid\": 7, \"size\": 5, " ++
    "\"delivery_date\": \"07-Jun-2024 00:00:00 +0000\"\x7d]\x7d")).encodeUtf8).getD []

def keptFields : Fields :=
  [("message_uid", .int 7), ("size", .int 5), ("delivery_date", .str "07-Jun-2024 00:00:00 +0000")]

def keptRow : Row plainRuntime := ⟨"7", keptFields, .int 7, rfl, rfl⟩

def keptMedia : MediaRuntime where
  json body :=
    if body = successBody then .ok (.object [("success", .int 1)])
    else if body = listBody then
      .ok (.object [("messages", .list [.object (("flags", .list [.str "\\Flagged"]) :: keptFields)])])
    else .error (Text.ofString "Expecting value")
  lower := id

def answeredWith (body : Bytes) : Exchange := .ok { contentType := "application/json", body := some body }

def savePatch : UserVoicemailMessagePatch := { saved := some (some true) }

def beforeSaving : Sys plainRuntime := { rows := [keptRow], flags := fun _ => false }

def afterSaving : Sys plainRuntime where
  rows := [keptRow]
  flags := Function.update (fun _ => false) ("7", .flagged) true
  calls := [.patch { accessToken := Text.ofString "token", messageId := "7", body := savePatch, sent := 1
                     result := some (.ok savePatch.echo) }]

def keptMessage : VoicemailMessage where
  id := "7"
  type := .voice
  duration := none
  size := 5
  date := delivered
  seen := false
  saved := some true
  sender := none
  receiver := none

theorem mailboxRequest_answered {M : MediaRuntime} {path : String} {accessToken : Text} {body : Bytes} {value : Json}
    (h : M.json body = .ok value) : mailboxRequest M path accessToken (answeredWith body) = .ok (.json value) := by
  have htype : Contacts.isIn "application/json" "application/json" = true := by decide
  have hanswer :
      Recordings.accountRequest M path (Recordings.bearer accessToken) (answeredWith body) = .ok (.json value) :=
    Recordings.accountRequest_json.2 ⟨_, rfl, htype, body, rfl, h⟩
  rw [mailboxRequest, hanswer]

theorem patches_kept_saved : keptMessage.value .saved = some true := by
  have hrun : exec (step plainRuntime keptMedia) beforeSaving
      [.patch (Text.ofString "token") "7" savePatch, .answered 0 true (answeredWith successBody)] =
        some afterSaving := rfl
  have hjson : keptMedia.json listBody =
      .ok (.object [("messages", .list [.object (("flags", .list [.str "\\Flagged"]) :: keptFields)])]) := by
    have hbody : listBody ≠ successBody := by decide +kernel
    simp only [keptMedia, if_neg hbody, if_true]
  have hlists : Lists keptMedia afterSaving (Text.ofString "token") (answeredWith listBody) :=
    ⟨_, mailboxRequest_answered hjson, rfl⟩
  have hresponse : retrieveVoicemails plainRuntime keptMedia (Text.ofString "token") (answeredWith listBody) =
      .ok ⟨[keptMessage], true⟩ := by
    rw [retrieveVoicemails, mailboxRequest_answered hjson]
    rfl
  refine (patches_kept plainRuntime keptMedia beforeSaving afterSaving _ "7" .saved _ _ _ rfl hrun
    hlists hresponse).1 true ?_
    ⟨_, _, List.mem_singleton_self _, rfl, rfl, rfl⟩ keptMessage (List.mem_singleton_self _) rfl
  intro e he other hsets
  rcases List.mem_cons.1 he with rfl | he
  · obtain ⟨-, action, haction, hvalue⟩ := hsets
    obtain rfl : action = .set := by simpa [UserVoicemailMessagePatch.flagRequests, voicemailPatchFlags, savePatch,
      UserVoicemailMessagePatch.requested, Attribute.flag] using haction
    exact hvalue.1 rfl
  · obtain rfl := List.mem_singleton.1 he
    exact hsets.elim

end PortaPhone.Voicemail
