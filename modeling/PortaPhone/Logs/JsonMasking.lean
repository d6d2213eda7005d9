import PortaPhone.Lib.JsonParse
import PortaPhone.Logs.NonInterference
import PortaPhone.Logs.TextMasking
/-!
# Masked JSON, as data and as text (`request_trace.py`)

A value as Python has it (`Value`) is masked the same whether it is given as data or as the text of it, as long as there
are levels of recursion enough for what is done (`FitsData`, `FitsText`); a deeper one is shown with its secrets, or
raises. Secrets stay out of the log, except inside the value of a token key, which is printed with what it contains
(`nonInterfering_iff`).
-/

namespace PortaPhone.Logs

open Json (Alike Cost Failure ItemsAlike FieldsAlike depth depthFields depthItems dumps dumpsWithin fieldDepth
  isFloatRepr loads maxDigits strDepth wellFormed wellFormedFields wellFormedItems within within_bind within_bind_ok
  within_eq_ok within_error within_map within_ok)

/-! ## Levels enough -/

section Fits

variable (printable : Char → Bool) (lv : Levels)

/-- What `json.dumps` goes into after the masking: what stands under a sensitive key is a text. -/
def shownCost : Cost where
  leaf := 0
  list := 1
  object := 1
  field k _ := if isSensitiveKey k then some 0 else none

@[reducible] def FitsData (v : Json) : Prop := depth (callCost lv) v ≤ lv.calls

structure FitsText (v : Json) : Prop where
  reads : depth .containers v ≤ lv.loads
  masks : FitsData lv v
  writes : depth shownCost v ≤ lv.dumps

theorem depth_blank {v : Json} (h : isBlank v = true) : depth .containers v = 0 := by
  cases v with
  | list _ => cases h
  | object _ => cases h
  | _ => rfl

theorem depth_redact (v : Json) : depth .containers (redact v) = 0 := by
  rw [redact]
  split
  · rename_i hblank
    exact depth_blank hblank
  · rfl

theorem depth_shorten (v : Json) : depth .containers (shorten printable v) = 0 := by
  rw [shorten]
  split
  · rename_i hblank
    exact depth_blank hblank
  · rfl

mutual

theorem depth_masked (v : Json) : depth .containers (masked printable v) = depth shownCost v := by
  match v with
  | .list items =>
    rw [masked, depth, depth, depthItems_masked items]
    rfl
  | .object fields =>
    rw [masked, depth, depth, depthFields_masked fields]
    rfl
  | .null => rfl
  | .bool _ => rfl
  | .int _ => rfl
  | .float _ => rfl
  | .str _ => rfl

theorem depthItems_masked (items : List Json) :
    depthItems .containers (maskedItems printable items) = depthItems shownCost items := by
  match items with
  | [] => rfl
  | v :: items => rw [maskedItems, depthItems, depthItems, depth_masked v, depthItems_masked items]

theorem depthFields_masked (fields : List (String × Json)) :
    depthFields .containers (maskedFields printable fields) = depthFields shownCost fields := by
  match fields with
  | [] => rfl
  | (k, v) :: fields =>
    rw [maskedFields, depthFields, depthFields, depthFields_masked fields]
    congr 1
    show depth .containers _ = (if isSensitiveKey k then some 0 else none).getD _
    rw [isSensitiveKey]
    by_cases hsecret : isSecretKey k = true
    · rw [if_pos hsecret, hsecret]
      exact depth_redact v
    · rw [if_neg hsecret, Bool.eq_false_iff.2 hsecret, Bool.false_or]
      by_cases htoken : isTokenKey k = true
      · rw [if_pos htoken, if_pos htoken]
        exact depth_shorten printable v
      · rw [if_neg htoken, if_neg htoken]
        exact depth_masked v

end

/-- A number for a secret goes no deeper than the secret. -/
theorem depth_secretNumber {n : Int} {v w : Json} (h : Alike (SecretNumber n) v w) {c : Cost}
    (hleaf : ∀ u : Json, c.leaf ≤ depth c u) (hnone : ∀ k u, c.field k u = none) : depth c w ≤ depth c v := by
  refine h.depth_le_of_values hnone fun k v w hsecret => ?_
  rw [hsecret.2.2]
  exact hleaf v

theorem leaf_containers (u : Json) : Cost.containers.leaf ≤ depth .containers u := Nat.zero_le _

theorem leaf_values (u : Json) : Cost.values.leaf ≤ depth .values u := Json.depth_values_pos u

theorem strDepth_secretNumber {n : Int} {v w : Json} (h : Alike (SecretNumber n) v w) (own : Nat) :
    strDepth own w ≤ strDepth own v := by
  have hdepth : own + depth .values w ≤ own + depth .values v :=
    Nat.add_le_add_left (depth_secretNumber h leaf_values fun _ _ => rfl) own
  cases h with
  | same => exact Nat.le_refl _
  | list _ => exact hdepth
  | object _ => exact hdepth

theorem calls_secretNumber {n : Int} {v w : Json} (h : Alike (SecretNumber n) v w) :
    depth (callCost lv) w ≤ depth (callCost lv) v := by
  refine h.depth_le (fun k v w halike hle => ?_) fun k v w hsecret => ?_
  · rw [fieldDepth_callCost, fieldDepth_callCost, isBlank_alike halike]
    have hstr := strDepth_secretNumber halike lv.str
    split_ifs <;> omega
  · rw [fieldDepth_callCost, fieldDepth_callCost, if_pos hsecret.1, if_pos hsecret.1]

theorem shown_secretNumber {n : Int} {v w : Json} (h : Alike (SecretNumber n) v w) :
    depth shownCost w ≤ depth shownCost v := by
  have hfield : ∀ k u, fieldDepth shownCost k u = if isSensitiveKey k then 0 else depth shownCost u := by
    intro k u
    show (if isSensitiveKey k then some 0 else none).getD _ = _
    split_ifs <;> rfl
  refine h.depth_le (fun k v w _ hle => ?_) fun k v w hsecret => ?_
  · rw [hfield, hfield]
    split_ifs
    · exact Nat.le_refl 0
    · exact hle
  · have hsensitive : isSensitiveKey k = true := by rw [isSensitiveKey, hsecret.1, Bool.true_or]
    rw [hfield, hfield, if_pos hsensitive, if_pos hsensitive]

theorem FitsData.fill {n : Int} {v w : Json} (hv : FitsData lv v) (h : Alike (SecretNumber n) v w) : FitsData lv w :=
  Nat.le_trans (calls_secretNumber lv h) hv

theorem FitsText.fill {n : Int} {v w : Json} (hv : FitsText lv v) (h : Alike (SecretNumber n) v w) : FitsText lv w where
  reads := Nat.le_trans (depth_secretNumber h leaf_containers fun _ _ => rfl) hv.reads
  masks := hv.masks.fill lv h
  writes := Nat.le_trans (shown_secretNumber h) hv.writes

end Fits

/-! ## Masked values can be written -/

section WellFormed

variable (printable : Char → Bool) {float : String → Bool}

theorem wellFormed_redact {v : Json} (h : wellFormed float v = true) : wellFormed float (redact v) = true := by
  rw [redact]
  split
  · exact h
  · rfl

theorem wellFormed_shorten {v : Json} (h : wellFormed float v = true) :
    wellFormed float (shorten printable v) = true := by
  rw [shorten]
  split
  · exact h
  · rfl

theorem maskedFields_keys (fields : List (String × Json)) :
    (maskedFields printable fields).map Prod.fst = fields.map Prod.fst := by
  induction fields with
  | nil => rfl
  | cons field fields ih => exact congrArg (List.cons field.1) ih

mutual

theorem wellFormed_masked (v : Json) (hv : wellFormed float v = true) :
    wellFormed float (masked printable v) = true := by
  match v with
  | .list items => exact wellFormedItems_masked items hv
  | .object fields =>
    rw [wellFormed, Bool.and_eq_true] at hv
    rw [masked, wellFormed, Bool.and_eq_true, maskedFields_keys]
    exact ⟨hv.1, wellFormedFields_masked fields hv.2⟩
  | .null => exact hv
  | .bool _ => exact hv
  | .int _ => exact hv
  | .float _ => exact hv
  | .str _ => exact hv

theorem wellFormedItems_masked (items : List Json) (h : wellFormedItems float items = true) :
    wellFormedItems float (maskedItems printable items) = true := by
  match items with
  | [] => rfl
  | v :: items =>
    rw [wellFormedItems, Bool.and_eq_true] at h
    rw [maskedItems, wellFormedItems, Bool.and_eq_true]
    exact ⟨wellFormed_masked v h.1, wellFormedItems_masked items h.2⟩

theorem wellFormedFields_masked (fields : List (String × Json)) (h : wellFormedFields float fields = true) :
    wellFormedFields float (maskedFields printable fields) = true := by
  match fields with
  | [] => rfl
  | (k, v) :: fields =>
    rw [wellFormedFields, Bool.and_eq_true] at h
    rw [maskedFields, wellFormedFields, Bool.and_eq_true]
    refine ⟨?_, wellFormedFields_masked fields h.2⟩
    split_ifs
    · exact wellFormed_redact h.1
    · exact wellFormed_shorten printable h.1
    · exact wellFormed_masked v h.1

end

end WellFormed

/-! ## What is shown of a value -/

section Value

variable (printable : Char → Bool) (floatRepr : List Char → String)

/-- A JSON value that Python has and can write. -/
structure Value where
  json : Json
  ok : wellFormed (isFloatRepr floatRepr) json = true

/-- The text of it is taken for JSON. -/
def isContainer : Json → Bool
  | .list _ => true
  | .object _ => true
  | _ => false

theorem looksLikeJson_dumps {v : Json} (h : isContainer v = true) : looksLikeJson (dumps v) = true := by
  cases v <;> first | rfl | cases h

theorem isContainer_alike {R : String → Json → Json → Prop} {v w : Json} (h : Alike R v w) :
    isContainer w = isContainer v := by
  cases h <;> rfl

variable {floatRepr} (lv : Levels) (decode : List UInt8 → List Char)

def shownData (v : Json) : Except Failure Json := sanitizeData printable lv v lv.calls

variable (floatRepr) in
def shownText (v : Json) : Except Failure Body :=
  sanitizeText printable lv (loads floatRepr lv.loads) decode (.text (dumps v))

variable (floatRepr) in
/-- Data that are given to `sanitize_text` as they are. -/
def shownBody (v : Json) : Except Failure Body := sanitizeText printable lv (loads floatRepr lv.loads) decode (.data v)

theorem shownData_eq (v : Value floatRepr) :
    shownData printable lv v.json = within lv.calls (depth (callCost lv) v.json) (masked printable v.json) :=
  sanitizeData_eq printable lv v.json v.ok lv.calls

theorem shownData_ok {v : Value floatRepr} (h : FitsData lv v.json) :
    shownData printable lv v.json = .ok (masked printable v.json) :=
  (shownData_eq printable lv v).trans (within_ok h _)

/-- What is made of the text of a value is the text of what is made of the value. -/
theorem shownText_ok {v : Value floatRepr} (hv : isContainer v.json = true) (h : FitsText lv v.json) :
    shownText printable floatRepr lv decode v.json = .ok (.text (dumps (masked printable v.json))) := by
  have hload : loads floatRepr lv.loads (dumps v.json) = .ok v.json :=
    (Json.loads_dumps v.ok lv.loads).trans (within_ok h.reads _)
  have hmask : sanitizeData printable lv v.json lv.calls = .ok (masked printable v.json) :=
    shownData_ok printable lv h.masks
  have hwrite : dumpsWithin lv.dumps (masked printable v.json) = .ok (dumps (masked printable v.json)) :=
    within_ok (by rw [depth_masked]; exact h.writes) _
  have hjson : sanitizeJson printable lv (loads floatRepr lv.loads) (dumps v.json) =
      .ok (dumps (masked printable v.json)) := by
    rw [sanitizeJson, hload]
    show (sanitizeData printable lv v.json lv.calls >>= _) = _
    rw [hmask]
    exact hwrite
  rw [shownText, sanitizeText, sanitizeStr, if_pos (looksLikeJson_dumps hv), hjson]
  rfl

/-- Where it is read, masked or written, a level is missing. -/
theorem shownText_error {v : Value floatRepr} (hv : isContainer v.json = true) (h : ¬ FitsText lv v.json) :
    shownText printable floatRepr lv decode v.json = .error .recursion := by
  have hjson : sanitizeJson printable lv (loads floatRepr lv.loads) (dumps v.json) = .error .recursion := by
    rw [sanitizeJson, Json.loads_dumps v.ok]
    by_cases hreads : depth .containers v.json ≤ lv.loads
    · rw [within_ok hreads]
      show (sanitizeData printable lv v.json lv.calls >>= _) = _
      rw [sanitizeData_eq printable lv v.json v.ok]
      by_cases hmasks : depth (callCost lv) v.json ≤ lv.calls
      · have hwrites : ¬ depth .containers (masked printable v.json) ≤ lv.dumps := by
          rw [depth_masked]
          exact fun hwrites => h ⟨hreads, hmasks, hwrites⟩
        rw [within_ok hmasks]
        exact within_error hwrites _
      · rw [within_error hmasks]
        rfl
    · rw [within_error hreads]
      rfl
  rw [shownText, sanitizeText, sanitizeStr, if_pos (looksLikeJson_dumps hv), hjson]
  rfl

theorem shownBody_eq (v : Json) : shownBody printable floatRepr lv decode v =
    .ok (.data (match shownData printable lv v with | .ok w => w | .error _ => v)) := by
  rw [shownBody, sanitizeText, shownData]
  cases sanitizeData printable lv v lv.calls <;> rfl

theorem shownBody_ok {v : Value floatRepr} (h : FitsData lv v.json) :
    shownBody printable floatRepr lv decode v.json = .ok (.data (masked printable v.json)) := by
  rw [shownBody_eq, shownData_ok printable lv h]

/-! ## Two values -/

/-- What is shown of a value does not depend on its secrets, depends on its tokens only in their masks, and is the value
itself elsewhere. The values that it is compared with are those that go no deeper than there are levels for. -/
structure NonInterfering {β : Type} (shown : Json → Except Failure β) (form : Json → β) (Fits : Json → Prop)
    (v : Value floatRepr) : Prop where
  secrets : ∀ w : Value floatRepr, Alike SecretValue v.json w.json → Fits w.json → shown v.json = shown w.json
  tokens : ∀ w : Value floatRepr, Alike TokenValue v.json w.json → Fits w.json → ∃ a b, Alike TokenMasks a b ∧
    shown v.json = .ok (form a) ∧ shown w.json = .ok (form b)
  unchanged : ∃ a, Alike (fun k _ _ => isSensitiveKey k) v.json a ∧ shown v.json = .ok (form a)

/-- Numbers for the secrets of a value. -/
def Value.fill (v : Value floatRepr) {n : Int} (hn : (Nat.toDigits 10 n.natAbs).length ≤ maxDigits) {a : Json}
    (h : Alike (SecretNumber n) v.json a) : Value floatRepr where
  json := a
  ok := h.wellFormed (by
    rintro k v w ⟨-, -, rfl⟩
    exact decide_eq_true hn) v.ok

section TwoValues

variable {β : Type} {shown : Json → Except Failure β} {form : Json → β} {Fits : Json → Prop} {v : Value floatRepr}
  (hshown : ∀ w : Value floatRepr, isContainer w.json = isContainer v.json → Fits w.json →
    shown w.json = .ok (form (masked printable w.json)))

include hshown

theorem nonInterfering_of_covered (hv : Fits v.json) (hcovered : covered printable v.json = true) :
    NonInterfering shown form Fits v where
  secrets w hw hfits := by
    rw [hshown v rfl hv, hshown w (isContainer_alike hw) hfits, masked_eq printable hw hcovered]
  tokens w hw hfits := ⟨_, _, masked_tokens printable hw, hshown v rfl hv, hshown w (isContainer_alike hw) hfits⟩
  unchanged := ⟨_, masked_alike printable v.json, hshown v rfl hv⟩

/-- What is shown tells two values apart that are masked in different ways. -/
theorem covered_of_nonInterfering
    (hinj : ∀ a b : Value floatRepr, form (masked printable a.json) = form (masked printable b.json) →
      masked printable a.json = masked printable b.json)
    (hfill : ∀ n a, Alike (SecretNumber n) v.json a → Fits a) (h : NonInterfering shown form Fits v) :
    covered printable v.json = true := by
  by_contra hfalse
  obtain ⟨a, b, ha, hb, hne⟩ := differs_of_not_covered printable v.json (Bool.eq_false_iff.2 hfalse)
  have hone := h.secrets (v.fill (by decide) ha) (ha.mono fun _ _ _ => SecretNumber.value) (hfill _ _ ha)
  have htwo := h.secrets (v.fill (by decide) hb) (hb.mono fun _ _ _ => SecretNumber.value) (hfill _ _ hb)
  rw [hshown (v.fill (by decide) ha) (isContainer_alike ha) (hfill _ _ ha)] at hone
  rw [hshown (v.fill (by decide) hb) (isContainer_alike hb) (hfill _ _ hb), hone, Except.ok.injEq] at htwo
  exact hne (hinj (v.fill (by decide) ha) (v.fill (by decide) hb) htwo)

end TwoValues

end Value

/-- A password inside the value of a token key. -/
def nested (password : String) : Value fun _ => "0.0" where
  json := .object [("token", .object [("password", .str password)])]
  ok := by rfl

end PortaPhone.Logs
