import Mathlib
import PortaPhone.Lib.Base64
/-!
# Recording ids (`portaswitch/serializer.py`)

| here | there |
| --- | --- |
| `composeRecordingId` | `Serializer.compose_recording_id` (`:582`) |
| `parseRecordingId`   | `Serializer.parse_recording_id` (`:608`) |

An id is the number of an xDR alone, or the base64 of the number and the key of the transcript. `parse_compose`: the
two forms share one field and are told apart, since no token begins with a digit (`not_digits_token`).
-/

namespace PortaPhone.Recordings

open Base64 Text

/-- What the functions on recording ids and links raise. -/
inductive Raised
  | valueError (message : Text)
  | unicodeEncodeError
  | unicodeDecodeError
  | structError
  | recordingLinkInvalid
  | recordingLinkExpired
deriving DecidableEq, Repr

/-- The fields of an xDR row that its id is made from; `h323_conf_id` is `none` when it is missing or null. -/
structure CdrInfo where
  iXdr : Nat
  h323ConfId : Option Text := none
deriving DecidableEq, Repr

/-- `RECORDING_ID_SEPARATOR`. -/
def recordingIdSeparator : CodePoint := CodePoint.ofChar '|'

def composeRecordingId (cdrInfo : CdrInfo) : Except Raised Text :=
  let iXdr := ofNat cdrInfo.iXdr
  match cdrInfo.h323ConfId.filter (· ≠ []) with
  | none => .ok iXdr
  | some confId =>
    match (iXdr ++ recordingIdSeparator :: confId).encodeUtf8 with
    | none => .error .unicodeEncodeError
    | some token => .ok (stripPad (urlsafeB64encode token))

def malformed (recordingId : Text) : Raised := .valueError (ofString "Malformed recording_id: " ++ recordingId)

/-- `base64.urlsafe_b64decode(recording_id + padding).decode()`, or nothing where either raises. -/
def decodeToken (recordingId : Text) : Option Text :=
  match urlsafeB64decode (repad recordingId) with
  | .ok token => decodeUtf8 token
  | .error _ => none

def parseRecordingId (recordingId : Text) : Except Raised (Text × Option Text) :=
  if recordingId.isAsciiDigits then .ok (recordingId, none)
  else
    match decodeToken recordingId with
    | none => .error (malformed recordingId)
    | some decoded =>
      let (iXdr, separator, confId) := partition recordingIdSeparator decoded
      if separator = [] ∨ iXdr.isAsciiDigits = false ∨ confId = [] then .error (malformed recordingId)
      else .ok (iXdr, some confId)

example : composeRecordingId { iXdr := 12, h323ConfId := some (ofString "a|é") } = .ok (ofString "MTJ8YXzDqQ") := by
  decide +kernel

/-- A character that a URL path takes as it is. -/
def Unreserved (p : CodePoint) : Prop :=
  (65 ≤ p.val ∧ p.val ≤ 90) ∨ (97 ≤ p.val ∧ p.val ≤ 122) ∨ (48 ≤ p.val ∧ p.val ≤ 57) ∨
    p ∈ ["-", ".", "_", "~"].flatMap ofString

instance : DecidablePred Unreserved := fun _ => inferInstanceAs (Decidable (_ ∨ _))

/-! ## The two forms -/

theorem unreserved_symbol (v : Sextet) : Unreserved (symbol v) := by
  revert v
  decide +kernel

theorem unreserved_digit {p : CodePoint} (h : 48 ≤ p.val ∧ p.val ≤ 57) : Unreserved p := .inr (.inr (.inl h))

theorem separator_not_mem_ofNat (n : Nat) : recordingIdSeparator ∉ ofNat n := by
  intro h
  have hdigit := mem_ofNat h
  revert hdigit
  decide

/-- A digit in front makes the first six bits those of a letter. -/
theorem not_digits_token {b : Bytes} {a : UInt8} (h : 48 ≤ a.toNat ∧ a.toNat ≤ 57) (hb : b.head? = some a) :
    (unpadded b).isAsciiDigits = false := by
  obtain ⟨vs, hvs⟩ : ∃ vs, sextets b = Fin.ofNat _ (a.toNat / 4) :: vs := by
    match b, hb with
    | [_], hb =>
      obtain rfl := Option.some.inj hb
      exact ⟨_, rfl⟩
    | [_, _], hb =>
      obtain rfl := Option.some.inj hb
      exact ⟨_, rfl⟩
    | _ :: _ :: _ :: _, hb =>
      obtain rfl := Option.some.inj hb
      exact ⟨_, rfl⟩
  have hletter : ∀ v : Sextet, 12 ≤ v.val → v.val ≤ 14 → 57 < (symbol v).val := by decide +kernel
  rw [← Bool.not_eq_true, isAsciiDigits_iff]
  rintro ⟨_, hall⟩
  have hfirst := hall (symbol (Fin.ofNat _ (a.toNat / 4))) (by simp [unpadded, hvs])
  have hgt := hletter (Fin.ofNat _ (a.toNat / 4)) (by simp only [Fin.val_ofNat]; omega)
    (by simp only [Fin.val_ofNat]; omega)
  omega

/-- The bytes of a token begin with a digit. -/
theorem token_head {n : Nat} {t : Text} {b : Bytes} (h : (ofNat n ++ t).encodeUtf8 = some b) :
    ∃ a : UInt8, (48 ≤ a.toNat ∧ a.toNat ≤ 57) ∧ b.head? = some a := by
  obtain ⟨cs, hcs, rfl⟩ := encodeUtf8_eq_some.1 h
  obtain ⟨d, ds, hd⟩ := List.exists_cons_of_ne_nil (Nat.toDigits_ne_nil (n := n) (b := 10))
  have hdigit := mem_ofNat (n := n) (p := CodePoint.ofChar d) (by rw [ofNat, hd]; exact List.mem_cons_self)
  have hfirst : cs.head? = some d := by
    have hmap := congrArg List.head? hcs
    rw [ofNat, hd] at hmap
    cases cs with
    | nil => simp [ofChars] at hmap
    | cons c cs =>
      simp only [ofChars, List.map_cons, List.cons_append, List.head?_cons, Option.some.injEq] at hmap
      rw [CodePoint.ofChar_inj hmap]
      rfl
  obtain ⟨cs, rfl⟩ : ∃ ds, cs = d :: ds := List.head?_eq_some_iff.1 hfirst
  have hlt : d.toNat < 128 := Nat.lt_of_le_of_lt hdigit.2 (by decide)
  have hbyte : String.utf8EncodeChar d = [UInt8.ofNat d.toNat] := by
    have henc := encodeUtf8_ascii hlt
    rw [show [CodePoint.ofChar d] = ofChars [d] from rfl, encodeUtf8_ofChars] at henc
    simpa using henc
  refine ⟨UInt8.ofNat d.toNat, ?_, by rw [List.flatMap_cons, hbyte]; rfl⟩
  rw [UInt8.toNat_ofNat', Nat.mod_eq_of_lt (Nat.lt_of_lt_of_le hlt (by decide))]
  exact hdigit

/-! ## Round trip -/

/-- What parsing can give: the number is in ASCII digits, and a key is not empty; else a `ValueError`. -/
theorem parse_cases (t : Text) :
    (∃ iXdr key, parseRecordingId t = .ok (iXdr, key) ∧ iXdr.isAsciiDigits = true ∧ key ≠ some []) ∨
      parseRecordingId t = .error (malformed t) := by
  unfold parseRecordingId
  split
  · rename_i hdigits
    exact .inl ⟨t, none, rfl, hdigits, nofun⟩
  · split
    · exact .inr rfl
    · dsimp only
      split
      · exact .inr rfl
      · rename_i hparts
        push Not at hparts
        exact .inl ⟨_, _, rfl, by simpa using hparts.2.1, by simpa using hparts.2.2⟩

theorem parse_token {n : Nat} {confId : Text} {b : Bytes} (hkey : confId ≠ [])
    (h : (ofNat n ++ recordingIdSeparator :: confId).encodeUtf8 = some b) :
    parseRecordingId (unpadded b) = .ok (ofNat n, some confId) := by
  obtain ⟨a, hdigit, hhead⟩ := token_head h
  have hdecode : decodeToken (unpadded b) = some (ofNat n ++ recordingIdSeparator :: confId) := by
    rw [decodeToken, decode_repad_unpadded]
    exact decode_of_encode h
  rw [parseRecordingId, not_digits_token hdigit hhead, hdecode]
  simp [partition_append (separator_not_mem_ofNat n), isAsciiDigits_ofNat, hkey]

/-- **Recording ids.** The id of a row is parsed back to its number and its key, is made of unreserved characters and
is a bare number exactly when there is no key. Any other text gives a number, with a key that is not empty if with
one, or a `ValueError`. -/
theorem parse_compose (cdrInfo : CdrInfo) (h : ∀ confId, cdrInfo.h323ConfId = some confId → confId.Encodable)
    (t : Text) :
    (∃ id, composeRecordingId cdrInfo = .ok id ∧
      parseRecordingId id = .ok (ofNat cdrInfo.iXdr, cdrInfo.h323ConfId.filter (· ≠ [])) ∧
        (∀ p ∈ id, Unreserved p) ∧ (id.isAsciiDigits = true ↔ cdrInfo.h323ConfId.filter (· ≠ []) = none)) ∧
      ((∃ iXdr key, parseRecordingId t = .ok (iXdr, key) ∧ iXdr.isAsciiDigits = true ∧ key ≠ some []) ∨
        ∃ message, parseRecordingId t = .error (.valueError message)) := by
  refine ⟨?_, (parse_cases t).imp id fun herror => ⟨_, herror⟩⟩
  unfold composeRecordingId
  cases hkey : cdrInfo.h323ConfId.filter (· ≠ []) with
  | none =>
    refine ⟨_, rfl, ?_, fun p hp => unreserved_digit (mem_ofNat hp), by simp [isAsciiDigits_ofNat]⟩
    rw [parseRecordingId, if_pos (isAsciiDigits_ofNat _)]
  | some confId =>
    obtain ⟨hconf, hne⟩ := Option.filter_eq_some_iff.1 hkey
    have hencodable : (ofNat cdrInfo.iXdr ++ recordingIdSeparator :: confId).Encodable := by
      intro p hp
      rcases List.mem_append.1 hp with hp | hp
      · exact .inl (Nat.lt_of_le_of_lt (mem_ofNat hp).2 (by decide))
      · rcases List.mem_cons.1 hp with rfl | hp
        · decide
        · exact h confId hconf p hp
    obtain ⟨b, hb⟩ := Option.isSome_iff_exists.1 (encodeUtf8_isSome.2 hencodable)
    obtain ⟨a, hdigit, hhead⟩ := token_head hb
    have hid : stripPad (urlsafeB64encode b) = unpadded b := stripPad_encode b
    refine ⟨unpadded b, by simp only [hb, hid], parse_token (by simpa using hne) hb, ?_, ?_⟩
    · intro p hp
      obtain ⟨v, _, rfl⟩ := List.mem_map.1 hp
      exact unreserved_symbol v
    · simp [not_digits_token hdigit hhead]

theorem parse_compose_bars : ∃ id, composeRecordingId { iXdr := 129, h323ConfId := some (ofString "06 é|1") } = .ok id ∧
    parseRecordingId id = .ok (ofString "129", some (ofString "06 é|1")) := by
  obtain ⟨⟨id, hid, hparse, _⟩, _⟩ := parse_compose { iXdr := 129, h323ConfId := some (ofString "06 é|1") }
    (fun confId hconf => Option.some.inj hconf ▸ encodable_ofString _) []
  exact ⟨id, hid, hparse.trans (by decide +kernel)⟩

end PortaPhone.Recordings
