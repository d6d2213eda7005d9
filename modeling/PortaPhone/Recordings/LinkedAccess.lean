import PortaPhone.Lib.Machine
import PortaPhone.Recordings.MediaDownload
/-!
# Following public links (`portaswitch/adapter.py`)

| here | there |
| --- | --- |
| `retrieveCallTranscription` | `retrieve_call_transcription` (`:2055`) |
| `retrieveLinkedCallTranscription` | `retrieve_linked_call_transcription` (`:2204`) |
| `Event`, `Links.step` | the calls that issue links and follow them, with what they ask of the switch |
| `Table`, `Table.follow` | not in the code: a table of the issued links |

Nothing is stored, and a link is followed with the admin token, which reads any account's calls. `follow_refines`: with
MACs that nobody forges the links do what a table of them would do; `asked_own`: no request with the admin token goes
beyond what the switch granted, earlier in the run, to the token of a caller.
-/

namespace PortaPhone.Recordings

open Base64 Text

/-! ## Transcriptions -/

/-- The switch, by the requests for transcriptions. -/
structure TranscriptSwitch where
  getCallTranscription : Option Text → Text → Option String → Bool → Exchange
  adminGetCallTranscription : Text → Option String → Bool → AdminExchange

def transcriptionPath : String := "/rest/CDR/get_transcription"

def notFoundTranscriptionError (recordingId : Text) : WebTritError where
  statusCode := 404
  message := ofString "There is no a transcription for the recording with such id: " ++ recordingId

def notFoundLinkedTranscriptionError : WebTritError where
  statusCode := 404
  message := ofString "The recording behind this link has no transcription (yet)"
  code := some "transcription_not_found"

section Downloads

variable (M : MediaRuntime) (T : TranscriptSwitch)

def retrieveCallTranscription (accessToken recordingId : Text) (format : Option String) (checkOnly : Bool) :
    Except Failure Decoded := do
  let (_, callRecordingId) ← parseOrInvalid recordingId
  match callRecordingId.filter (· ≠ []) with
  | none => .error (.webTrit (notFoundTranscriptionError recordingId))
  | some callRecordingId =>
    match accountRequest M transcriptionPath (bearer accessToken)
        (T.getCallTranscription (bearer accessToken) callRecordingId format checkOnly) with
    | .error (.webTrit error) => do
      let faultCode ← extractFaultCode error
      if faultCode = "Client.Session.check_auth.failed_to_process_access_token" then
        .error (.webTrit accessTokenExpiredError)
      else if faultCode ∈ ["Server.CDR.xdr_not_found", "Server.CDR.invalid_call_recording_id",
          "Server.CDR.transcription_not_found"] then
        .error (.webTrit (notFoundTranscriptionError recordingId))
      else if faultCode = "Server.CDR.forbidden_account_access" then
        .error (.webTrit (forbiddenRecordingError recordingId))
      else .error (.webTrit error)
    | result => result

def retrieveLinkedCallTranscription (signer : Option RecordingLinkSigner) (now : UnixTime) (linkId : Text)
    (format : Option String) (checkOnly : Bool) : Except Failure Decoded := do
  let link ← verifyRecordingLink signer now linkId
  match link.callRecordingId.filter (· ≠ []) with
  | none => .error (.webTrit notFoundLinkedTranscriptionError)
  | some callRecordingId =>
    match adminRequest M transcriptionPath (T.adminGetCallTranscription callRecordingId format checkOnly) with
    | .error (.webTrit error) => do
      let faultCode ← extractFaultCode error
      if faultCode = "Server.CDR.xdr_not_found" then .error (.webTrit notFoundRecordingLinkError)
      else if faultCode ∈ ["Server.CDR.invalid_call_recording_id", "Server.CDR.transcription_not_found"] then
        .error (.webTrit notFoundLinkedTranscriptionError)
      else .error (.webTrit error)
    | result => result

end Downloads

/-! ## Calls that issue links and follow them -/

/-- What the admin token is used for. -/
inductive AdminAsk
  | recording (iXdr : Nat)
  | transcription (callRecordingId : Text)
deriving DecidableEq, Repr

def recordingAsk (signer : Option RecordingLinkSigner) (now : UnixTime) (linkId : Text) : Option AdminAsk :=
  match verifyRecordingLink signer now linkId with
  | .ok link => some (.recording link.iXdr)
  | .error _ => none

def transcriptionAsk (signer : Option RecordingLinkSigner) (now : UnixTime) (linkId : Text) : Option AdminAsk :=
  match verifyRecordingLink signer now linkId with
  | .ok link => (link.callRecordingId.filter (· ≠ [])).map .transcription
  | .error _ => none

/-- A call of `issue_recording_link`, with what the switch answers to the caller's token then. -/
structure IssueCall where
  accountApi : AccountApi
  now : UnixTime
  accessToken : Text
  recordingId : Text
  ttl : Option Int

inductive Event
  | issue (call : IssueCall)
  | openRecording (now : UnixTime) (linkId : Text)
  | openTranscription (now : UnixTime) (linkId : Text) (format : Option String) (checkOnly : Bool)

/-- The part of the adapter that links depend on. -/
structure Links where
  signer : RecordingLinkSigner
  transcription : Bool

/-- The links that callers were given, and the requests with the admin token. -/
structure LinkRun where
  issued : List (IssueCall × Text) := []
  asked : List (AdminAsk × UnixTime) := []

namespace Links

variable (L : Links)

def adapter (accountApi : AccountApi) : Adapter where
  accountApi := accountApi
  recordingLinkSigner := some L.signer
  transcription := L.transcription

def issue (call : IssueCall) : Except Failure (Text × Bool) :=
  (L.adapter call.accountApi).issueRecordingLink call.now call.accessToken call.recordingId call.ttl

/-- The request with the admin token that an event makes. -/
def asks : Event → Option (AdminAsk × UnixTime)
  | .issue _ => none
  | .openRecording now linkId => (recordingAsk (some L.signer) now linkId).map (·, now)
  | .openTranscription now linkId _ _ => (transcriptionAsk (some L.signer) now linkId).map (·, now)

def step (s : LinkRun) : Event → Option LinkRun
  | .issue call => some (match L.issue call with
    | .ok (linkId, _) => { s with issued := s.issued ++ [(call, linkId)] }
    | .error _ => s)
  | e => some { s with asked := s.asked ++ (L.asks e).toList }

end Links

/-! ## The requests are all that is asked -/

section Asks

variable {M : MediaRuntime} {S S' : MediaSwitch} {T T' : TranscriptSwitch} {signer : Option RecordingLinkSigner}
  {now : UnixTime} {linkId : Text}

/-- Nothing of the switch is read but the answer to the request. -/
theorem retrieveLinkedCallRecording_congr
    (h : ∀ iXdr, recordingAsk signer now linkId = some (.recording iXdr) →
      S.adminGetCallRecording iXdr = S'.adminGetCallRecording iXdr) :
    retrieveLinkedCallRecording M S signer now linkId = retrieveLinkedCallRecording M S' signer now linkId := by
  unfold retrieveLinkedCallRecording
  cases hlink : verifyRecordingLink signer now linkId with
  | error failure => rfl
  | ok link =>
    have hasked : recordingAsk signer now linkId = some (.recording link.iXdr) := by rw [recordingAsk, hlink]
    simp only [Fallible.ok_bind, h link.iXdr hasked]

theorem retrieveLinkedCallTranscription_congr {format : Option String} {checkOnly : Bool}
    (h : ∀ callRecordingId, transcriptionAsk signer now linkId = some (.transcription callRecordingId) →
      T.adminGetCallTranscription callRecordingId format checkOnly =
        T'.adminGetCallTranscription callRecordingId format checkOnly) :
    retrieveLinkedCallTranscription M T signer now linkId format checkOnly =
      retrieveLinkedCallTranscription M T' signer now linkId format checkOnly := by
  unfold retrieveLinkedCallTranscription
  cases hlink : verifyRecordingLink signer now linkId with
  | error failure => rfl
  | ok link =>
    simp only [Fallible.ok_bind]
    cases hkey : link.callRecordingId.filter (· ≠ []) with
    | none => rfl
    | some callRecordingId =>
      have hasked : transcriptionAsk signer now linkId = some (.transcription callRecordingId) := by
        simp only [transcriptionAsk, hlink, hkey, Option.map_some]
      simp only [h callRecordingId hasked]

end Asks

/-! ## What was granted -/

/-- What `issue_recording_link` puts into a link: the number of the xDR, and a key. -/
def Links.grant (L : Links) (call : IssueCall) : Except Failure (Nat × Option Text) := do
  let (iXdr, callRecordingId) ← parseOrInvalid call.recordingId
  discard (← (L.adapter call.accountApi).retrieveCallRecording call.accessToken call.recordingId)
  let callRecordingId ← (L.adapter call.accountApi).linkKey call.accessToken call.recordingId callRecordingId
  return (← int iXdr, callRecordingId)

def IssueCall.signCall (call : IssueCall) (granted : Nat × Option Text) : SignCall where
  now := call.now
  iXdr := granted.1
  callRecordingId := granted.2
  ttl := call.ttl

/-- The caller's own token was answered with the recording, or with the transcription or that there is none yet. -/
def IssueCall.Granted (call : IssueCall) (transcription : Bool) : AdminAsk → Prop
  | .recording iXdr => ∃ parts, parseRecordingId call.recordingId = .ok parts ∧ parts.1.toNat = iXdr ∧
      (call.accountApi.getCallRecording (bearer call.accessToken) parts.1).Served
  | .transcription callRecordingId => transcription = true ∧
      (∃ iXdr, parseRecordingId call.recordingId = .ok (iXdr, some callRecordingId)) ∧
      (call.accountApi.getTranscription (bearer call.accessToken) callRecordingId true).OwnTranscription

/-- The lifetime that was asked for has not ended; 0 counts as none. -/
def IssueCall.Lasts (call : IssueCall) (now : UnixTime) : Prop :=
  ∀ ttl, call.ttl = some ttl → ttl ≠ 0 → (now : ℚ) ≤ seconds call.now + ttl

section Grant

variable {L : Links} {call : IssueCall} {granted : Nat × Option Text}

theorem parseOrInvalid_ok {recordingId : Text} {parts : Text × Option Text}
    (h : parseOrInvalid recordingId = .ok parts) : parseRecordingId recordingId = .ok parts := by
  unfold parseOrInvalid at h
  split at h
  · rename_i hparse
    rw [hparse, Except.ok.inj h]
  · cases h

theorem issue_ok {linkId : Text} {transcription : Bool} (h : L.issue call = .ok (linkId, transcription)) :
    ∃ granted, L.grant call = .ok granted ∧ L.signer.sign (call.signCall granted) = .ok linkId := by
  unfold Links.issue Adapter.issueRecordingLink at h
  obtain ⟨parts, hparts, h⟩ := Fallible.bind_ok.1 h
  obtain ⟨result, hresult, h⟩ := Fallible.bind_ok.1 h
  obtain ⟨_, hdiscard, h⟩ := Fallible.bind_ok.1 h
  obtain ⟨key, hkey, h⟩ := Fallible.bind_ok.1 h
  obtain ⟨number, hnumber, h⟩ := Fallible.bind_ok.1 h
  obtain ⟨link, hlink, h⟩ := Fallible.bind_ok.1 h
  obtain ⟨rfl, -⟩ := Prod.mk.inj (Fallible.pure_ok.1 h)
  refine ⟨(number, key), ?_, ?_⟩
  · unfold Links.grant
    simp only [hparts, hresult, hdiscard, hkey, hnumber, Fallible.ok_bind]
    rfl
  · revert hlink
    unfold IssueCall.signCall
    cases L.signer.sign ⟨call.now, number, key, call.ttl⟩ with
    | error raised => exact nofun
    | ok signed => exact fun hlink => congrArg Except.ok (Except.ok.inj hlink)

/-- The key of a link is the one of the recording id. -/
theorem linkKey_some {A : Adapter} {accessToken recordingId c : Text} {key : Option Text}
    (h : A.linkKey accessToken recordingId key = .ok (some c)) : key = some c := by
  unfold Adapter.linkKey at h
  cases hkey : key.filter (· ≠ []) with
  | none =>
    rw [hkey] at h
    cases h
  | some callRecordingId =>
    simp only [hkey] at h
    split at h
    · rw [(Adapter.ownCallRecordingId_own h).1]
      exact (Option.filter_eq_some_iff.1 hkey).1
    · cases h

theorem grant_recording (h : L.grant call = .ok granted) : call.Granted L.transcription (.recording granted.1) := by
  obtain ⟨parts, hparts, h⟩ := Fallible.bind_ok.1 h
  obtain ⟨result, hresult, h⟩ := Fallible.bind_ok.1 h
  obtain ⟨_, -, h⟩ := Fallible.bind_ok.1 h
  obtain ⟨key, -, h⟩ := Fallible.bind_ok.1 h
  obtain ⟨number, hnumber, h⟩ := Fallible.bind_ok.1 h
  obtain rfl := Fallible.pure_ok.1 h
  refine ⟨parts, parseOrInvalid_ok hparts, ?_, Adapter.retrieveCallRecording_served hparts hresult⟩
  unfold int at hnumber
  split at hnumber
  · exact Except.ok.inj hnumber
  · cases hnumber

theorem grant_transcription {callRecordingId : Text} (h : L.grant call = .ok granted)
    (hkey : granted.2 = some callRecordingId) : call.Granted L.transcription (.transcription callRecordingId) := by
  obtain ⟨parts, hparts, h⟩ := Fallible.bind_ok.1 h
  obtain ⟨result, -, h⟩ := Fallible.bind_ok.1 h
  obtain ⟨_, -, h⟩ := Fallible.bind_ok.1 h
  obtain ⟨key, hlink, h⟩ := Fallible.bind_ok.1 h
  obtain ⟨number, -, h⟩ := Fallible.bind_ok.1 h
  obtain rfl := Fallible.pure_ok.1 h
  obtain rfl : key = some callRecordingId := hkey
  obtain ⟨htranscription, hown⟩ := Adapter.linkKey_own hlink
  refine ⟨htranscription, ⟨parts.1, ?_⟩, hown⟩
  rw [parseOrInvalid_ok hparts, ← linkKey_some hlink]

end Grant

/-! ## A table of the issued links -/

/-- The issued links with what they open. -/
abbrev Table := List (Text × RecordingLink)

/-- The link that a text spells, as long as it lasts. -/
def Table.follow (table : Table) (now : UnixTime) (linkId : Text) : Except Failure RecordingLink :=
  match table.find? fun row => respell linkId = some row.1 with
  | none => .error (.webTrit notFoundRecordingLinkError)
  | some (_, link) =>
    if link.expiresAt ≠ 0 ∧ (link.expiresAt : UnixTime) < now
      then .error (.webTrit expiredRecordingLinkError) else .ok link

def IssueCall.opens (call : IssueCall) (granted : Nat × Option Text) : RecordingLink where
  iXdr := granted.1
  callRecordingId := granted.2.filter (· ≠ [])
  expiresAt := (expiry call.now call.ttl).toNat

/-- The row that a call adds. -/
def Links.row (L : Links) (issued : IssueCall × Text) : Option (Text × RecordingLink) :=
  match L.grant issued.1 with
  | .ok granted => some (issued.2, issued.1.opens granted)
  | .error _ => none

def Links.table (L : Links) (s : LinkRun) : Table := s.issued.filterMap L.row

/-- Every link was returned by its call. -/
def Links.Genuine (L : Links) (s : LinkRun) : Prop :=
  ∀ issued ∈ s.issued, ∃ transcription, L.issue issued.1 = .ok (issued.2, transcription)

/-- The calls that signed the links so far. -/
def Links.signed (L : Links) (s : LinkRun) : Set SignCall := {x | ∃ issued ∈ s.issued, L.signer.sign x = .ok issued.2}

section Refinement

variable {L : Links} {s t : LinkRun} {now : UnixTime} {linkId : Text}

theorem step_genuine {e : Event} (h : L.Genuine s) (hstep : L.step s e = some t) : L.Genuine t := by
  cases e with
  | issue call =>
    obtain rfl := Option.some.inj hstep
    cases hissue : L.issue call with
    | error failure => exact h
    | ok result =>
      intro issued hmem
      rcases List.mem_append.1 hmem with hmem | hmem
      · exact h issued hmem
      · obtain rfl := List.mem_singleton.1 hmem
        exact ⟨result.2, hissue⟩
  | openRecording now linkId =>
    obtain rfl := Option.some.inj hstep
    exact h
  | openTranscription now linkId format checkOnly =>
    obtain rfl := Option.some.inj hstep
    exact h

/-- A row of the table, and the payload that its link carries. -/
theorem mem_table {row : Text × RecordingLink} (hgenuine : L.Genuine s) (h : row ∈ L.table s) :
    ∃ issued ∈ s.issued, ∃ granted payload, L.grant issued.1 = .ok granted ∧ row = (issued.2, issued.1.opens granted) ∧
      (issued.1.signCall granted).payload = .ok payload ∧ row.1 = unpadded (payload ++ L.signer.mac payload) := by
  obtain ⟨issued, hissued, hrow⟩ := List.mem_filterMap.1 h
  obtain ⟨transcription, hissue⟩ := hgenuine issued hissued
  obtain ⟨granted, hgrant, hsign⟩ := issue_ok hissue
  obtain rfl : (issued.2, issued.1.opens granted) = row := by
    rw [Links.row, hgrant] at hrow
    exact Option.some.inj hrow
  obtain ⟨payload, hpayload, hlink⟩ := RecordingLinkSigner.sign_eq_ok.1 hsign
  exact ⟨issued, hissued, granted, payload, hgrant, rfl, hpayload, by rw [← RecordingLinkSigner.linkOf_eq, hlink]⟩

/-- Every issued link has a row. -/
theorem exists_row {issued : IssueCall × Text} (hgenuine : L.Genuine s) (h : issued ∈ s.issued) :
    ∃ link, (issued.2, link) ∈ L.table s := by
  obtain ⟨transcription, hissue⟩ := hgenuine issued h
  obtain ⟨granted, hgrant, -⟩ := issue_ok hissue
  refine ⟨issued.1.opens granted, List.mem_filterMap.2 ⟨issued, h, ?_⟩⟩
  rw [Links.row, hgrant]

/-- Opening the payload of a row gives its link. -/
theorem openPayload_row (call : IssueCall) {granted : Nat × Option Text} {payload : Bytes}
    (h : signedPayload (expiry call.now call.ttl) granted.1 granted.2 = .ok payload) :
    openPayload now payload =
      if (call.opens granted).expiresAt ≠ 0 ∧ ((call.opens granted).expiresAt : UnixTime) < now then
        .error .recordingLinkExpired
      else .ok (call.opens granted) := by
  obtain ⟨⟨hpos, -⟩, -⟩ := signedPayload_eq_ok.1 h
  have hzero : (expiry call.now call.ttl).toNat ≠ 0 ↔ expiry call.now call.ttl ≠ 0 := by omega
  simp only [openPayload_signed now h, IssueCall.opens, hzero]

/-- **The links are a table.** Where nobody forges a MAC, what a text opens is what the table of the links that were
issued so far has under it, until the link expires. -/
theorem verify_eq_follow (hgenuine : L.Genuine s) (hmac : L.signer.Unforged (L.signed s) linkId) :
    verifyRecordingLink (some L.signer) now linkId = (L.table s).follow now linkId := by
  unfold Table.follow
  cases hfind : (L.table s).find? fun row => respell linkId = some row.1 with
  | none =>
    have hunlisted : ∀ row ∈ L.table s, respell linkId ≠ some row.1 := by simpa using hfind
    have hverify : L.signer.verify now linkId = .error .recordingLinkInvalid := by
      unfold RecordingLinkSigner.verify
      cases hraw : urlsafeB64decode (repad linkId) with
      | error _ => rfl
      | ok raw =>
        refine if_pos (.inr fun hmatch => ?_)
        -- the MAC is right, so the payload is that of an issued link, which has a row
        have hright : (splitMac raw).2 = L.signer.mac (splitMac raw).1 := hmatch
        obtain ⟨x, ⟨issued, hissued, hsign⟩, hpayload⟩ := hmac raw hraw hright
        obtain ⟨link, hrow⟩ := exists_row hgenuine hissued
        obtain ⟨payload, hpayload', hlink⟩ := RecordingLinkSigner.sign_eq_ok.1 hsign
        obtain rfl := Except.ok.inj (hpayload.symm.trans hpayload')
        refine hunlisted _ hrow (respell_eq_some.2 ⟨raw, hraw, ?_⟩)
        show unpadded raw = issued.2
        rw [← hlink, RecordingLinkSigner.linkOf_eq, ← hright, RecordingLinkSigner.splitMac_join]
    simp only [verifyRecordingLink, hverify]
  | some row =>
    have hspell : respell linkId = some row.1 := by simpa using List.find?_some hfind
    obtain ⟨issued, -, granted, payload, -, rfl, hpayload, hbytes⟩ :=
      mem_table hgenuine (List.mem_of_find?_eq_some hfind)
    have hsigned := (payload_eq_ok.1 hpayload).2
    obtain ⟨raw, hraw, hrow⟩ := respell_eq_some.1 hspell
    obtain rfl : raw = payload ++ L.signer.mac payload := unpadded_inj (hrow.trans hbytes)
    have hverify : L.signer.verify now linkId = openPayload now payload := by
      rw [← RecordingLinkSigner.verify_linkOf now hsigned, RecordingLinkSigner.verify, RecordingLinkSigner.verify, hraw,
        RecordingLinkSigner.linkOf_eq, decode_repad_unpadded]
    simp only [verifyRecordingLink, hverify, openPayload_row issued.1 hsigned]
    by_cases hexpired : (issued.1.opens granted).expiresAt ≠ 0 ∧ ((issued.1.opens granted).expiresAt : UnixTime) < now
    · simp only [if_pos hexpired]
    · simp only [if_neg hexpired]

/-- What a text opens was granted to the caller of an issued link, which lasts. -/
theorem verify_granted {link : RecordingLink} (hgenuine : L.Genuine s) (hmac : L.signer.Unforged (L.signed s) linkId)
    (h : verifyRecordingLink (some L.signer) now linkId = .ok link) :
    ∃ issued ∈ s.issued, ∃ granted, L.grant issued.1 = .ok granted ∧ link = issued.1.opens granted ∧
      issued.1.Lasts now := by
  rw [verify_eq_follow hgenuine hmac, Table.follow] at h
  split at h
  · cases h
  · rename_i row linkId' opened hfind
    obtain ⟨issued, hissued, granted, payload, hgrant, hrow, hpayload, -⟩ :=
      mem_table hgenuine (List.mem_of_find?_eq_some hfind)
    obtain ⟨-, rfl⟩ := Prod.mk.inj hrow
    split at h
    · cases h
    · rename_i hlasts
      refine ⟨issued, hissued, granted, hgrant, (Except.ok.inj h).symm, ?_⟩
      intro ttl httl hzero
      obtain ⟨hpos, -⟩ := (payload_eq_ok.1 hpayload).1 ttl httl hzero
      have hexpiry : expiry issued.1.now issued.1.ttl = seconds issued.1.now + ttl := by
        simp [expiry, httl, Option.filter, hzero]
      have hcast : ((expiry issued.1.now issued.1.ttl).toNat : Int) = seconds issued.1.now + ttl := by omega
      have hnow : now ≤ ((issued.1.opens granted).expiresAt : UnixTime) := by
        by_contra hlate
        have hset : (expiry issued.1.now issued.1.ttl).toNat ≠ 0 := by omega
        exact hlasts ⟨hset, not_le.1 hlate⟩
      calc (now : ℚ) ≤ ((issued.1.opens granted).expiresAt : ℚ) := by exact_mod_cast hnow
        _ = seconds issued.1.now + ttl := by exact_mod_cast congrArg (Int.cast : Int → ℚ) hcast

end Refinement

/-! ## Whole runs -/

/-- Nobody forged the MAC in the text that is followed. -/
def Links.Unforged (L : Links) (s : LinkRun) : Event → Prop
  | .issue _ => True
  | .openRecording _ linkId | .openTranscription _ linkId _ _ => L.signer.Unforged (L.signed s) linkId

section Runs

open Machine

variable {L : Links} {s t : LinkRun} {e : Event} {es : List Event}

/-- A request with the admin token is for what a caller was granted. -/
theorem asks_granted {ask : AdminAsk × UnixTime} (hgenuine : L.Genuine s) (hmac : L.Unforged s e)
    (h : L.asks e = some ask) :
    ∃ issued ∈ s.issued, issued.1.Granted L.transcription ask.1 ∧ issued.1.Lasts ask.2 := by
  cases e with
  | issue call => cases h
  | openRecording now linkId =>
    obtain ⟨asked, hasked, rfl⟩ := Option.map_eq_some_iff.1 h
    unfold recordingAsk at hasked
    split at hasked
    · rename_i link hlink
      obtain rfl := Option.some.inj hasked
      obtain ⟨issued, hissued, granted, hgrant, rfl, hlasts⟩ := verify_granted hgenuine hmac hlink
      exact ⟨issued, hissued, grant_recording hgrant, hlasts⟩
    · cases hasked
  | openTranscription now linkId format checkOnly =>
    obtain ⟨asked, hasked, rfl⟩ := Option.map_eq_some_iff.1 h
    unfold transcriptionAsk at hasked
    split at hasked
    · rename_i link hlink
      obtain ⟨key, hkey, rfl⟩ := Option.map_eq_some_iff.1 hasked
      obtain ⟨issued, hissued, granted, hgrant, rfl, hlasts⟩ := verify_granted hgenuine hmac hlink
      have hgranted : granted.2 = some key := (Option.filter_eq_some_iff.1 (Option.filter_eq_some_iff.1 hkey).1).1
      exact ⟨issued, hissued, grant_transcription hgrant hgranted, hlasts⟩
    · cases hasked

theorem genuine_of_run (hrun : exec L.step {} es = some s) : L.Genuine s :=
  along_invariant (C := fun _ _ _ => True) (by simp [Links.Genuine])
    (along_of_forall (D := fun _ => True) fun _ _ => trivial)
    (fun _ _ _ hgenuine _ hstep => step_genuine hgenuine hstep) hrun

theorem issue_mem_of_run (hrun : exec L.step {} es = some s) : ∀ issued ∈ s.issued, .issue issued.1 ∈ es := by
  refine exec_induction (P := fun es s => ∀ issued ∈ s.issued, .issue issued.1 ∈ es) (by simp) ?_ hrun
  intro fs m e m' _ ih hstep issued hmem
  rw [List.mem_append, List.mem_singleton]
  cases e with
  | issue call =>
    obtain rfl := Option.some.inj hstep
    cases hissue : L.issue call with
    | error failure =>
      simp only [hissue] at hmem
      exact .inl (ih issued hmem)
    | ok result =>
      simp only [hissue] at hmem
      rcases List.mem_append.1 hmem with hmem | hmem
      · exact .inl (ih issued hmem)
      · obtain rfl := List.mem_singleton.1 hmem
        exact .inr rfl
  | openRecording now linkId =>
    obtain rfl := Option.some.inj hstep
    exact .inl (ih issued hmem)
  | openTranscription now linkId format checkOnly =>
    obtain rfl := Option.some.inj hstep
    exact .inl (ih issued hmem)

/-- A step adds the request of its event. -/
theorem step_asked (h : L.step s e = some t) : t.asked = s.asked ++ (L.asks e).toList := by
  cases e with
  | issue call =>
    obtain rfl := Option.some.inj h
    cases hissue : L.issue call <;> simp [Links.asks]
  | openRecording now linkId =>
    obtain rfl := Option.some.inj h
    rfl
  | openTranscription now linkId format checkOnly =>
    obtain rfl := Option.some.inj h
    rfl

/-- **The links refine a table.** In every run a link whose MAC nobody forged opens what the table of the links issued
so far has under it, until it expires; every other text is refused. -/
theorem links_refine_table (L : Links) (es : List Event) (s : LinkRun) (now : UnixTime) (linkId : Text)
    (hrun : exec L.step {} es = some s) (hmac : L.signer.Unforged (L.signed s) linkId) :
    verifyRecordingLink (some L.signer) now linkId = (L.table s).follow now linkId :=
  verify_eq_follow (genuine_of_run hrun) hmac

/-- **Links give no more than their callers had.** In every run in which nobody forges a MAC, each request with the
admin token was preceded by a link issued to a caller whose own token the switch had answered with that very recording
or transcription, and it is made within the lifetime of that link. -/
theorem asked_own (L : Links) (es : List Event) (s : LinkRun) (hrun : exec L.step {} es = some s)
    (hmac : Along L.step (fun m e _ => L.Unforged m e) {} es) :
    ∀ ask ∈ s.asked, ∃ before e after call, es = before ++ e :: after ∧ L.asks e = some ask ∧ .issue call ∈ before ∧
      (∃ link, L.issue call = .ok link) ∧ call.Granted L.transcription ask.1 ∧ call.Lasts ask.2 := by
  revert hmac
  refine exec_induction (P := fun es s => Along L.step (fun m e _ => L.Unforged m e) {} es →
    ∀ ask ∈ s.asked, ∃ before e after call, es = before ++ e :: after ∧ L.asks e = some ask ∧ .issue call ∈ before ∧
      (∃ link, L.issue call = .ok link) ∧ call.Granted L.transcription ask.1 ∧ call.Lasts ask.2) (by simp) ?_ hrun
  intro fs m e m' hrun ih hstep hmac ask hmem
  rw [along_snoc] at hmac
  rw [step_asked hstep] at hmem
  rcases List.mem_append.1 hmem with hmem | hmem
  · obtain ⟨before, e', after, call, rfl, hrest⟩ := ih hmac.1 ask hmem
    exact ⟨before, e', after ++ [e], call, by simp, hrest⟩
  · have hask : L.asks e = some ask := Option.mem_toList.1 hmem
    have hgenuine := genuine_of_run hrun
    obtain ⟨issued, hissued, hgranted, hlasts⟩ := asks_granted hgenuine (hmac.2 m m' hrun hstep) hask
    obtain ⟨transcription, hissue⟩ := hgenuine issued hissued
    exact ⟨fs, e, [], issued.1, rfl, hask, issue_mem_of_run hrun issued hissued, ⟨_, hissue⟩, hgranted, hlasts⟩

end Runs

/-! ## A recording whose transcription comes later -/

def pendingLinks : Links := ⟨zeroSigner, true⟩

def pendingCall : IssueCall where
  accountApi := pendingAdapter.accountApi
  now := minuteCall.now
  accessToken := ofString "token"
  recordingId := ownRecordingId
  ttl := none

def pendingKey : Text := ofString "a|é"

def followPending : Event := .openTranscription 1800000000 pendingLink none false

def issuedPending : LinkRun := { issued := [(pendingCall, pendingLink)] }

def pendingRun : LinkRun := { issuedPending with asked := [(.transcription pendingKey, 1800000000)] }

theorem step_pending : pendingLinks.step {} (.issue pendingCall) = some issuedPending := by
  have hissue : pendingLinks.issue pendingCall = .ok (pendingLink, true) := by decide +kernel
  simp only [Links.step, hissue]
  rfl

theorem run_pending : Machine.exec pendingLinks.step {} [.issue pendingCall, followPending] = some pendingRun := by
  have hask : pendingLinks.asks followPending = some (.transcription pendingKey, 1800000000) := by decide +kernel
  refine Machine.exec_cons.2 ⟨_, step_pending, Machine.exec_cons.2 ⟨_, ?_, rfl⟩⟩
  show some { issuedPending with asked := issuedPending.asked ++ (pendingLinks.asks followPending).toList } =
      some pendingRun
  rw [hask]
  rfl

theorem unforged_pending : zeroSigner.Unforged (pendingLinks.signed issuedPending) pendingLink := by
  intro raw hraw _
  have hdecode : urlsafeB64decode (repad pendingLink) =
      .ok ([1, 0, 0, 0, 0, 0, 0, 0, 0, 0, 0, 0, 12, 97, 124, 195, 169] ++ List.replicate 16 0) := by decide +kernel
  obtain rfl := Except.ok.inj (hdecode.symm.trans hraw)
  exact ⟨pendingCall.signCall (12, some pendingKey),
    ⟨_, List.mem_singleton_self _, by decide +kernel⟩, by decide +kernel⟩

theorem links_refine_table_pending :
    verifyRecordingLink (some zeroSigner) 1800000000 pendingLink =
      (pendingLinks.table pendingRun).follow 1800000000 pendingLink :=
  links_refine_table pendingLinks _ pendingRun 1800000000 pendingLink run_pending unforged_pending

theorem asked_own_pending : ∃ before e after call, [.issue pendingCall, followPending] = before ++ e :: after ∧
    Event.issue call ∈ before ∧ call.Granted true (.transcription pendingKey) := by
  have hmac :
      Machine.Along pendingLinks.step (fun m e _ => pendingLinks.Unforged m e) {}
      [.issue pendingCall, followPending] := by
    refine (Machine.along_cons step_pending).2 ⟨trivial, ?_⟩
    exact fun _ _ => ⟨unforged_pending, trivial⟩
  obtain ⟨before, e, after, call, hevents, -, hissued, -, hgranted, -⟩ :=
    asked_own pendingLinks _ pendingRun run_pending hmac _ (List.mem_singleton_self _)
  exact ⟨before, e, after, call, hevents, hissued, hgranted⟩

end PortaPhone.Recordings
