import Mathlib
import PortaPhone.Recordings.RecordingId
/-!
# Public recording links (`portaswitch/recording_link.py`)

| here | there |
| --- | --- |
| `headerSize`, `version`, `macSize`, `maxTtl` | `_HEADER`, `_VERSION`, `_MAC_SIZE`, `MAX_TTL` (`:26`) |
| `packHeader`, `RecordingLinkSigner.payload`, `RecordingLinkSigner.sign` | `RecordingLinkSigner.sign` (`:59`) |
| `RecordingLinkSigner.verify` | `RecordingLinkSigner.verify` (`:66`) |

The key of the HMAC is fixed, so a signer is a function from payloads to 16 bytes. `verify_sign` is the round trip.
A link is not bound to its spelling: `verify_refuses_iff` says which texts are refused unless they were issued.
-/

namespace PortaPhone.Recordings

open Base64 Text

/-! ## Big-endian integers -/

/-- The lowest `width` bytes of a number. -/
def bigEndian : Nat → Nat → Bytes
  | 0, _ => []
  | width + 1, n => UInt8.ofNat (n / 256 ^ width) :: bigEndian width n

def readBigEndian (b : Bytes) : Nat := b.foldl (fun n a => 256 * n + a.toNat) 0

@[simp] theorem length_bigEndian (width n : Nat) : (bigEndian width n).length = width := by
  induction width with
  | zero => rfl
  | succ width ih => simp [bigEndian, ih]

theorem foldl_bigEndian (width n m : Nat) :
    (bigEndian width n).foldl (fun n a => 256 * n + a.toNat) m = 256 ^ width * m + n % 256 ^ width := by
  induction width generalizing m with
  | zero => simp [bigEndian, Nat.mod_one]
  | succ width ih =>
    have hmod : n % 256 ^ (width + 1) = n % 256 ^ width + 256 ^ width * (n / 256 ^ width % 256) := by
      rw [pow_succ, Nat.mod_mul]
    rw [bigEndian, List.foldl_cons, ih, UInt8.toNat_ofNat', show 2 ^ 8 = 256 from rfl, hmod, pow_succ]
    ring

theorem readBigEndian_bigEndian {width n : Nat} (h : n < 256 ^ width) : readBigEndian (bigEndian width n) = n := by
  rw [readBigEndian, foldl_bigEndian, Nat.mul_zero, Nat.zero_add, Nat.mod_eq_of_lt h]

/-! ## Links -/

def headerSize : Nat := 13
def version : Nat := 1
def macSize : Nat := 16
def maxTtl : Int := 10 * 365 * 24 * 3600

/-- `time.time()`: seconds since 1970. -/
abbrev UnixTime := ℚ≥0

/-- `int(time.time())`. -/
def seconds (now : UnixTime) : Nat := now.num / now.den

structure RecordingLink where
  iXdr : Nat
  callRecordingId : Option Text
  expiresAt : Nat
deriving DecidableEq, Repr

/-- `_HEADER.pack(_VERSION, expires_at, i_xdr)`. -/
def packHeader (expiresAt : Int) (iXdr : Nat) : Except Raised Bytes :=
  if 0 ≤ expiresAt ∧ expiresAt < 2 ^ 32 ∧ iXdr < 2 ^ 64 then
    .ok (bigEndian 1 version ++ bigEndian 4 expiresAt.toNat ++ bigEndian 8 iXdr)
  else .error .structError

/-- What is signed. -/
def signedPayload (expiresAt : Int) (iXdr : Nat) (callRecordingId : Option Text) : Except Raised Bytes := do
  let header ← packHeader expiresAt iXdr
  match (callRecordingId.getD []).encodeUtf8 with
  | some key => return header ++ key
  | none => throw .unicodeEncodeError

/-- `expires_at` of a link signed at `now`. -/
def expiry (now : UnixTime) (ttl : Option Int) : Int := (ttl.filter (· ≠ 0)).elim 0 fun ttl => seconds now + ttl

/-- One call of `sign`. -/
structure SignCall where
  now : UnixTime
  iXdr : Nat
  callRecordingId : Option Text
  ttl : Option Int := none

def SignCall.payload (x : SignCall) : Except Raised Bytes :=
  if (x.ttl.filter (· ≠ 0)).all fun ttl => 0 < ttl ∧ ttl ≤ maxTtl then
    signedPayload (expiry x.now x.ttl) x.iXdr x.callRecordingId
  else .error (.valueError (ofString s!"ttl must be between 1 and {maxTtl}"))

/-- `_mac` under the signer's key. -/
structure RecordingLinkSigner where
  mac : Bytes → Bytes
  length_mac : ∀ payload, (mac payload).length = macSize

/-- `raw[:-_MAC_SIZE]` and `raw[-_MAC_SIZE:]`. -/
def splitMac (raw : Bytes) : Bytes × Bytes := (raw.take (raw.length - macSize), raw.drop (raw.length - macSize))

/-- What `verify` does with a payload whose MAC is right. -/
def openPayload (now : UnixTime) (payload : Bytes) : Except Raised RecordingLink :=
  let expiresAt := readBigEndian ((payload.drop 1).take 4)
  if readBigEndian (payload.take 1) ≠ version then .error .recordingLinkInvalid
  else if expiresAt ≠ 0 ∧ expiresAt < now then .error .recordingLinkExpired
  else
    match decodeUtf8 (payload.drop headerSize) with
    | none => .error .unicodeDecodeError
    | some key =>
      .ok { iXdr := readBigEndian ((payload.drop 5).take 8), callRecordingId := some key |>.filter (· ≠ []), expiresAt }

namespace RecordingLinkSigner

variable (S : RecordingLinkSigner)

def linkOf (payload : Bytes) : Text := stripPad (urlsafeB64encode (payload ++ S.mac payload))

def sign (x : SignCall) : Except Raised Text := x.payload.map S.linkOf

def verify (now : UnixTime) (linkId : Text) : Except Raised RecordingLink :=
  match urlsafeB64decode (repad linkId) with
  | .error _ => .error .recordingLinkInvalid
  | .ok raw =>
    let (payload, mac) := splitMac raw
    if payload.length < headerSize ∨ mac ≠ S.mac payload then .error .recordingLinkInvalid
    else openPayload now payload

end RecordingLinkSigner

/-! ## What is signed -/

section Payload

variable {expiresAt expiresAt' : Int} {iXdr iXdr' : Nat} {key key' : Option Text} {payload : Bytes}

theorem signedPayload_eq_ok : signedPayload expiresAt iXdr key = .ok payload ↔
    (0 ≤ expiresAt ∧ expiresAt < 2 ^ 32 ∧ iXdr < 2 ^ 64) ∧ ∃ b, (key.getD []).encodeUtf8 = some b ∧
      payload = bigEndian 1 version ++ bigEndian 4 expiresAt.toNat ++ bigEndian 8 iXdr ++ b := by
  unfold signedPayload packHeader
  by_cases hbounds : 0 ≤ expiresAt ∧ expiresAt < 2 ^ 32 ∧ iXdr < 2 ^ 64
  · rw [if_pos hbounds, and_iff_right hbounds]
    cases (key.getD []).encodeUtf8 with
    | none => simp [bind, Except.bind, throw, throwThe, MonadExceptOf.throw]
    | some b => simp [bind, Except.bind, pure, Except.pure, eq_comm]
  · rw [if_neg hbounds]
    simp only [bind, Except.bind, reduceCtorEq, false_iff]
    exact fun h => hbounds h.1

theorem payload_eq_ok {x : SignCall} : x.payload = .ok payload ↔
    (∀ ttl, x.ttl = some ttl → ttl ≠ 0 → 0 < ttl ∧ ttl ≤ maxTtl) ∧
      signedPayload (expiry x.now x.ttl) x.iXdr x.callRecordingId = .ok payload := by
  have hall : ((x.ttl.filter (· ≠ 0)).all fun ttl => decide (0 < ttl ∧ ttl ≤ maxTtl)) = true ↔
      ∀ ttl, x.ttl = some ttl → ttl ≠ 0 → 0 < ttl ∧ ttl ≤ maxTtl := by
    cases x.ttl with
    | none => simp
    | some ttl =>
      by_cases hzero : ttl = 0
      · simp [hzero]
      · simp [hzero, Option.filter]
  unfold SignCall.payload
  split
  · rename_i hok
    exact (and_iff_right (hall.1 hok)).symm
  · rename_i hbad
    simp only [reduceCtorEq, false_iff]
    exact fun h => hbad (hall.2 h.1)

theorem headerSize_le (h : signedPayload expiresAt iXdr key = .ok payload) : headerSize ≤ payload.length := by
  obtain ⟨_, b, _, rfl⟩ := signedPayload_eq_ok.1 h
  simp [headerSize]
  omega

/-- Where the fields of the header are. -/
theorem header_fields {x y z : Bytes} (b : Bytes) (hx : x.length = 1) (hy : y.length = 4) (hz : z.length = 8) :
    (x ++ y ++ z ++ b).take 1 = x ∧ ((x ++ y ++ z ++ b).drop 1).take 4 = y ∧
      ((x ++ y ++ z ++ b).drop 5).take 8 = z ∧ (x ++ y ++ z ++ b).drop headerSize = b := by
  have hdrop : ∀ n, n = 1 + 4 + 8 → (x ++ y ++ z ++ b).drop n = b := by
    rintro _ rfl
    rw [← hx, ← hy, ← hz, ← List.length_append, ← List.length_append, List.drop_left]
  refine ⟨?_, ?_, ?_, hdrop _ rfl⟩ <;> simp [List.take_append, List.drop_append, hx, hy, hz]

/-- Opening a payload that was signed gives what was signed, until it expires. -/
theorem openPayload_signed (now : UnixTime) (h : signedPayload expiresAt iXdr key = .ok payload) :
    openPayload now payload =
      if expiresAt ≠ 0 ∧ (expiresAt.toNat : UnixTime) < now then .error .recordingLinkExpired
      else .ok { iXdr, callRecordingId := key.filter (· ≠ []), expiresAt := expiresAt.toNat } := by
  obtain ⟨⟨hpos, hexpiry, hxdr⟩, b, hb, rfl⟩ := signedPayload_eq_ok.1 h
  have hversion : readBigEndian (bigEndian 1 version) = version := by decide
  have hexpires : readBigEndian (bigEndian 4 expiresAt.toNat) = expiresAt.toNat :=
    readBigEndian_bigEndian (by omega)
  have hnumber : readBigEndian (bigEndian 8 iXdr) = iXdr := readBigEndian_bigEndian (by omega)
  have hzero : expiresAt.toNat ≠ 0 ↔ expiresAt ≠ 0 := by omega
  have hkey : Option.filter (· ≠ []) (some (key.getD [])) = key.filter (· ≠ []) := by
    cases key with
    | none => rfl
    | some key => rfl
  obtain ⟨hx, hy, hz, hrest⟩ := header_fields b (length_bigEndian 1 version) (length_bigEndian 4 expiresAt.toNat)
    (length_bigEndian 8 iXdr)
  simp only [openPayload, hx, hy, hz, hrest, hversion, hexpires, hnumber, decode_of_encode hb, hzero, hkey, ne_eq,
    not_true_eq_false, if_false]

/-- A signed payload tells what was signed, an empty key counting as none. -/
theorem signedPayload_inj (h : signedPayload expiresAt iXdr key = .ok payload)
    (h' : signedPayload expiresAt' iXdr' key' = .ok payload) :
    expiresAt = expiresAt' ∧ iXdr = iXdr' ∧ key.filter (· ≠ []) = key'.filter (· ≠ []) := by
  have hopen := (openPayload_signed 0 h).symm.trans (openPayload_signed 0 h')
  simp only [not_lt_zero, and_false, if_false, Except.ok.injEq, RecordingLink.mk.injEq] at hopen
  obtain ⟨⟨hpos, _⟩, _⟩ := signedPayload_eq_ok.1 h
  obtain ⟨⟨hpos', _⟩, _⟩ := signedPayload_eq_ok.1 h'
  exact ⟨by omega, hopen.1, hopen.2.1⟩

end Payload

/-! ## Round trip -/

theorem splitMac_append {payload mac : Bytes} (h : mac.length = macSize) :
    splitMac (payload ++ mac) = (payload, mac) := by
  have hlength : (payload ++ mac).length - macSize = payload.length := by
    rw [List.length_append]
    omega
  rw [splitMac, hlength, List.take_left, List.drop_left]

namespace RecordingLinkSigner

variable {S : RecordingLinkSigner} {expiresAt : Int} {iXdr : Nat} {key : Option Text} {payload : Bytes}

theorem linkOf_eq (S : RecordingLinkSigner) (payload : Bytes) :
    S.linkOf payload = unpadded (payload ++ S.mac payload) :=
  stripPad_encode _

theorem sign_eq_ok {x : SignCall} {link : Text} :
    S.sign x = .ok link ↔ ∃ payload, x.payload = .ok payload ∧ S.linkOf payload = link := by
  unfold sign
  cases x.payload <;> simp [Except.map]

theorem verify_linkOf (now : UnixTime) (h : signedPayload expiresAt iXdr key = .ok payload) :
    S.verify now (S.linkOf payload) = openPayload now payload := by
  rw [verify, linkOf_eq, decode_repad_unpadded]
  simp only [splitMac_append (S.length_mac payload), ne_eq, not_true_eq_false, or_false]
  exact if_neg (Nat.not_lt.2 (headerSize_le h))

/-- **Recording links.** A signed link opens to what was signed at any time up to its expiry and is expired at any
later one, and a payload tells what was signed, where an empty key counts as none. -/
theorem verify_sign (S : RecordingLinkSigner) (x : SignCall) (hxdr : x.iXdr < 2 ^ 64)
    (hkey : ∀ key, x.callRecordingId = some key → key.Encodable)
    (httl : ∀ ttl, x.ttl = some ttl → 1 ≤ ttl ∧ ttl ≤ maxTtl ∧ seconds x.now + ttl < 2 ^ 32) :
    (∃ link, ∃ expiresAt : Nat, S.sign x = .ok link ∧
      (expiresAt : Int) = x.ttl.elim 0 (fun ttl => seconds x.now + ttl) ∧
      (∀ now : UnixTime, (x.ttl = none ∨ now ≤ expiresAt) →
        S.verify now link = .ok ⟨x.iXdr, x.callRecordingId.filter (· ≠ []), expiresAt⟩) ∧
      ∀ now : UnixTime, x.ttl ≠ none → (expiresAt : UnixTime) < now →
        S.verify now link = .error .recordingLinkExpired) ∧
      ∀ e e' i i' c c' payload, signedPayload e i c = .ok payload → signedPayload e' i' c' = .ok payload →
        e = e' ∧ i = i' ∧ c.filter (· ≠ []) = c'.filter (· ≠ []) := by
  refine ⟨?_, fun e e' i i' c c' payload h h' => signedPayload_inj h h'⟩
  have hexpiry : expiry x.now x.ttl = x.ttl.elim 0 fun ttl => seconds x.now + ttl := by
    cases ht : x.ttl with
    | none => rfl
    | some ttl =>
      have hne : ttl ≠ 0 := by
        have hpos := (httl ttl ht).1
        omega
      simp [expiry, Option.filter, hne]
  have hbounds : 0 ≤ expiry x.now x.ttl ∧ expiry x.now x.ttl < 2 ^ 32 := by
    rw [hexpiry]
    cases ht : x.ttl with
    | none => simp
    | some ttl =>
      have hrange := httl ttl ht
      simp only [Option.elim_some]
      omega
  have hencodable : (x.callRecordingId.getD []).Encodable := by
    cases hc : x.callRecordingId with
    | none => exact nofun
    | some key => exact hkey key hc
  obtain ⟨b, hb⟩ := Option.isSome_iff_exists.1 (encodeUtf8_isSome.2 hencodable)
  have hsigned := signedPayload_eq_ok.2 ⟨⟨hbounds.1, hbounds.2, hxdr⟩, b, hb, rfl⟩
  have hok := payload_eq_ok.2 ⟨fun ttl ht _ => ⟨(httl ttl ht).1, (httl ttl ht).2.1⟩, hsigned⟩
  refine ⟨_, (expiry x.now x.ttl).toNat, sign_eq_ok.2 ⟨_, hok, rfl⟩, by omega, ?_, ?_⟩
  · intro now hnow
    rw [verify_linkOf now hsigned, openPayload_signed now hsigned]
    refine if_neg ?_
    rintro ⟨hne, hlate⟩
    rcases hnow with ht | hnow
    · exact hne (by rw [hexpiry, ht]; rfl)
    · exact absurd hlate (not_lt.2 hnow)
  · intro now ht hlate
    obtain ⟨ttl, ht⟩ := Option.ne_none_iff_exists'.1 ht
    have hpos := (httl ttl ht).1
    rw [verify_linkOf now hsigned, openPayload_signed now hsigned]
    refine if_pos ⟨?_, hlate⟩
    rw [hexpiry, ht, Option.elim_some]
    omega

end RecordingLinkSigner

/-- A signer whose MAC is always zero. -/
def zeroSigner : RecordingLinkSigner := ⟨fun _ => List.replicate macSize 0, fun _ => List.length_replicate⟩

def minuteCall : SignCall where
  now := 1700000000
  iXdr := 129
  callRecordingId := some (ofString "06 é")
  ttl := some 60

theorem verify_sign_minute : ∃ link, zeroSigner.sign minuteCall = .ok link ∧
    zeroSigner.verify 1700000060 link = .ok ⟨129, some (ofString "06 é"), 1700000060⟩ ∧
      zeroSigner.verify 1700000061 link = .error .recordingLinkExpired := by
  have hnow : seconds minuteCall.now = 1700000000 := by simp [seconds, minuteCall]
  obtain ⟨⟨link, expiresAt, hsign, hexpires, hopen, hexpired⟩, _⟩ :=
    RecordingLinkSigner.verify_sign zeroSigner minuteCall
    (by decide) (fun key hkey => Option.some.inj hkey ▸ encodable_ofString _)
    (fun ttl httl => by obtain rfl := Option.some.inj httl; rw [hnow]; decide)
  obtain rfl : expiresAt = 1700000060 := by
    rw [minuteCall, Option.elim_some, ← minuteCall, hnow] at hexpires
    omega
  exact ⟨link, hsign, (hopen _ (.inr (by norm_num))).trans (by decide +kernel), hexpired _ nofun (by norm_num)⟩

/-- An empty key and no key are signed alike. -/
theorem payload_empty_key :
    ¬ ∀ (e e' : Int) (i i' : Nat) (c c' : Option Text) (payload : Bytes), (e, i, c) ≠ (e', i', c') →
    signedPayload e i c = .ok payload → signedPayload e' i' c' ≠ .ok payload := by
  intro h
  exact h 0 0 1 1 none (some []) _ (by decide) rfl rfl

/-! ## Other spellings of a link -/

namespace RecordingLinkSigner

/-- The text is a link that one of these calls returned. -/
def Issued (S : RecordingLinkSigner) (calls : Set SignCall) (s : Text) : Prop := ∃ x ∈ calls, S.sign x = .ok s

/-- A MAC in the text is right only for a payload that one of these calls signed. -/
def Unforged (S : RecordingLinkSigner) (calls : Set SignCall) (s : Text) : Prop :=
  ∀ raw, urlsafeB64decode (repad s) = .ok raw → (splitMac raw).2 = S.mac (splitMac raw).1 →
    ∃ x ∈ calls, x.payload = .ok (splitMac raw).1

variable {S : RecordingLinkSigner} {calls : Set SignCall} {s : Text}

theorem splitMac_join (raw : Bytes) : (splitMac raw).1 ++ (splitMac raw).2 = raw := List.take_append_drop _ _

theorem issued_canonical (h : S.Issued calls s) : Canonical s := by
  obtain ⟨x, _, hsign⟩ := h
  obtain ⟨payload, _, rfl⟩ := sign_eq_ok.1 hsign
  exact canonical_iff.2 ⟨_, S.linkOf_eq payload⟩

/-- The bytes of an issued link, in any spelling: its payload and the MAC of it. -/
theorem respell_issued {u : Text} (hspell : respell s = some u) (hissued : S.Issued calls u) :
    ∃ x ∈ calls, ∃ payload, x.payload = .ok payload ∧ urlsafeB64decode (repad s) = .ok (payload ++ S.mac payload) := by
  obtain ⟨x, hx, hsign⟩ := hissued
  obtain ⟨payload, hpayload, rfl⟩ := sign_eq_ok.1 hsign
  obtain ⟨raw, hraw, heq⟩ := respell_eq_some.1 hspell
  rw [linkOf_eq] at heq
  exact ⟨x, hx, payload, hpayload, unpadded_inj heq ▸ hraw⟩

/-- **Spelling.** A text that was not issued is refused exactly when it is in canonical base64 or does not decode to
the bytes of an issued link; only then does an answer mean that the text was issued. -/
theorem verify_refuses_iff (S : RecordingLinkSigner) (calls : Set SignCall) (now : UnixTime) (s : Text)
    (hmac : S.Unforged calls s) :
    ((∀ link, S.verify now s = .ok link → S.Issued calls s) ∧
      (¬ S.Issued calls s → S.verify now s = .error .recordingLinkInvalid)) ↔
      Canonical s ∨ ∀ u, respell s = some u → ¬ S.Issued calls u := by
  constructor
  · rintro ⟨_, hrefuse⟩
    by_cases hissued : S.Issued calls s
    · exact .inl (issued_canonical hissued)
    · right
      intro u hspell hu
      obtain ⟨x, _, payload, hpayload, hraw⟩ := respell_issued hspell hu
      have hsigned := (payload_eq_ok.1 hpayload).2
      have hverify : S.verify now s = openPayload now payload := by
        rw [← verify_linkOf now hsigned, verify, verify, hraw, linkOf_eq, decode_repad_unpadded]
      rw [hrefuse hissued, openPayload_signed now hsigned] at hverify
      split at hverify <;> cases hverify
  · intro hspelling
    have hrefuse : ¬ S.Issued calls s → S.verify now s = .error .recordingLinkInvalid := by
      intro hissued
      unfold verify
      cases hraw : urlsafeB64decode (repad s) with
      | error _ => rfl
      | ok raw =>
        refine if_pos (or_iff_not_imp_right.2 fun hmatch => ?_)
        -- the MAC is right, so the payload was signed, and the link made from it is the canonical spelling
        have hright : (splitMac raw).2 = S.mac (splitMac raw).1 := Decidable.not_not.1 hmatch
        obtain ⟨x, hx, hpayload⟩ := hmac raw hraw hright
        have hlink : S.Issued calls (unpadded raw) := by
          refine ⟨x, hx, sign_eq_ok.2 ⟨_, hpayload, ?_⟩⟩
          rw [linkOf_eq, ← hright, splitMac_join]
        have hspell : respell s = some (unpadded raw) := respell_eq_some.2 ⟨raw, hraw, rfl⟩
        rcases hspelling with hcanonical | hother
        · obtain rfl := Option.some.inj ((canonical_iff_respell.1 hcanonical).symm.trans hspell)
          exact absurd hlink hissued
        · exact absurd hlink (hother _ hspell)
    refine ⟨fun link hlink => ?_, hrefuse⟩
    by_contra hissued
    rw [hrefuse hissued] at hlink
    cases hlink

end RecordingLinkSigner

/-- A link to the recording 1, and the same with other bits in its last character that no byte needs. -/
def audioCall : SignCall := { now := 1700000000, iXdr := 1, callRecordingId := none }
def audioLink : Text := ofString "AQAAAAAAAAAAAAAAAQAAAAAAAAAAAAAAAAAAAAA"
def audioLinkAltered : Text := ofString "AQAAAAAAAAAAAAAAAQAAAAAAAAAAAAAAAAAAAAB"

theorem sign_audio : zeroSigner.sign audioCall = .ok audioLink := by decide +kernel

theorem issued_audio {s : Text} : zeroSigner.Issued {audioCall} s ↔ s = audioLink := by
  simp [RecordingLinkSigner.Issued, sign_audio, eq_comm]

theorem unforged_altered : zeroSigner.Unforged {audioCall} audioLinkAltered := by
  intro raw hraw _
  have hdecode : urlsafeB64decode (repad audioLinkAltered) =
      .ok (1 :: List.replicate 11 0 ++ 1 :: List.replicate 16 0) := by
    decide +kernel
  obtain rfl := Except.ok.inj (hdecode.symm.trans hraw)
  exact ⟨_, rfl, by decide +kernel⟩

/-- The altered link opens the recording. -/
theorem altered_link_opens : ¬ ∀ (S : RecordingLinkSigner) (calls : Set SignCall) (now : UnixTime) (s : Text),
    S.Unforged calls s → (∀ link, S.verify now s = .ok link → S.Issued calls s) ∧
      (¬ S.Issued calls s → S.verify now s = .error .recordingLinkInvalid) := by
  intro h
  have hopen : zeroSigner.verify 1800000000 audioLinkAltered = .ok ⟨1, none, 0⟩ := by decide +kernel
  have hissued := issued_audio.1 ((h zeroSigner {audioCall} 1800000000 _ unforged_altered).1 _ hopen)
  exact absurd hissued (by decide +kernel)

theorem verify_refuses_garbage : zeroSigner.verify 1800000000 (ofString "AAAA") = .error .recordingLinkInvalid := by
  have hcanonical : Canonical (ofString "AAAA") := canonical_iff_respell.2 (by decide +kernel)
  have hunforged : zeroSigner.Unforged {audioCall} (ofString "AAAA") := by
    intro raw hraw hmac
    have hdecode : urlsafeB64decode (repad (ofString "AAAA")) = .ok [0, 0, 0] := by decide +kernel
    obtain rfl := Except.ok.inj (hdecode.symm.trans hraw)
    exact absurd hmac (by decide +kernel)
  have hother : ¬ zeroSigner.Issued {audioCall} (ofString "AAAA") :=
    fun h => absurd (issued_audio.1 h) (by decide +kernel)
  exact ((RecordingLinkSigner.verify_refuses_iff zeroSigner {audioCall} 1800000000 (ofString "AAAA") hunforged).2
    (.inl hcanonical)).2 hother

end PortaPhone.Recordings
