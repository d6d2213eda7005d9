import Mathlib
import PortaPhone.Logs.Masking
/-!
# What masked JSON says of the values (`request_trace.py`)

Two values that differ in secrets only come out the same, except where a secret stands inside the value of a token key:
`mask_token` prints that value, and its last four characters are shown. With at least four characters after every such
secret (`covered`) it goes well (`masked_eq`), and without them it does not (`differs_of_not_covered`).
-/

namespace PortaPhone.Logs

open Json (Alike ItemsAlike FieldsAlike print printItems printFields pyStr reprStyle)

/-! ## Texts that agree at both ends -/

/-- The texts are the same, or have the first ten characters in common and, with `after` more behind both, the last
four. -/
def Agree (after : Nat) (s t : List Char) : Prop :=
  s = t ∨ ∃ before mid mid' behind, s = before ++ (mid ++ behind) ∧ t = before ++ (mid' ++ behind) ∧
    10 ≤ before.length ∧ 4 ≤ behind.length + after

section Agree

variable {after : Nat} {s t u u' : List Char}

theorem Agree.refl (s : List Char) : Agree after s s := .inl rfl

theorem Agree.behind (h : Agree after s t) (u : List Char) : Agree after (u ++ s) (u ++ t) := by
  rcases h with rfl | ⟨before, mid, mid', behind, rfl, rfl, hbefore, hbehind⟩
  · exact .refl _
  · refine .inr ⟨u ++ before, mid, mid', behind, ?_, ?_, ?_, hbehind⟩
    · rw [List.append_assoc]
    · rw [List.append_assoc]
    · rw [List.length_append]
      omega

theorem Agree.before (h : Agree (after + u.length) s t) : Agree after (s ++ u) (t ++ u) := by
  rcases h with rfl | ⟨before, mid, mid', behind, rfl, rfl, hbefore, hbehind⟩
  · exact .refl _
  · refine .inr ⟨before, mid, mid', behind ++ u, ?_, ?_, hbefore, ?_⟩
    · simp only [List.append_assoc]
    · simp only [List.append_assoc]
    · rw [List.length_append]
      omega

theorem Agree.append (h : Agree (after + u.length) s t) (hu : Agree after u u') : Agree after (s ++ u) (t ++ u') := by
  rcases hu with rfl | ⟨before', mid₁, mid₁', behind', rfl, rfl, hbefore', hbehind'⟩
  · exact h.before
  · rcases h with rfl | ⟨before, mid, mid', behind, rfl, rfl, hbefore, -⟩
    · exact Agree.behind (.inr ⟨before', mid₁, mid₁', behind', rfl, rfl, hbefore', hbehind'⟩) _
    · refine .inr ⟨before, mid ++ behind ++ before' ++ mid₁, mid' ++ behind ++ before' ++ mid₁', behind', ?_, ?_,
        hbefore, hbehind'⟩
      · simp only [List.append_assoc]
      · simp only [List.append_assoc]

theorem agree_of_length {before : List Char} (hbefore : 10 ≤ before.length) (hafter : 4 ≤ after)
    (mid mid' : List Char) :
    Agree after (before ++ mid) (before ++ mid') :=
  .inr ⟨before, mid, mid', [], by rw [List.append_nil], by rw [List.append_nil],
    hbefore, by rw [List.length_nil]; omega⟩

theorem drop_last_four {behind : List Char} (h : 4 ≤ behind.length) (s : List Char) :
    (s ++ behind).drop ((s ++ behind).length - 4) = behind.drop (behind.length - 4) := by
  have hlength : (s ++ behind).length - 4 = s.length + (behind.length - 4) := by
    rw [List.length_append]
    omega
  rw [hlength, List.drop_append, List.drop_of_length_le (Nat.le_add_right _ _), List.nil_append,
    Nat.add_sub_cancel_left]

theorem maskText_eq (h : Agree 0 s t) : maskText s = maskText t := by
  rcases h with rfl | ⟨before, mid, mid', behind, rfl, rfl, hbefore, hbehind⟩
  · rfl
  · have hlong : ∀ mid : List Char, ¬ (before ++ (mid ++ behind)).length ≤ 13 := by
      intro mid
      rw [List.length_append, List.length_append]
      omega
    have hhead : ∀ mid : List Char, (before ++ (mid ++ behind)).take 6 = before.take 6 := fun mid =>
      List.take_append_of_le_length (Nat.le_trans (by decide) hbefore)
    have htail : ∀ mid : List Char, (before ++ (mid ++ behind)).drop ((before ++ (mid ++ behind)).length - 4) =
        behind.drop (behind.length - 4) := by
      intro mid
      rw [← List.append_assoc]
      exact drop_last_four hbehind _
    rw [maskText, maskText, if_neg (hlong mid), if_neg (hlong mid'), hhead, hhead, htail, htail]

end Agree

/-! ## The secrets inside the value of a token -/

/-- A secret that is hidden: one that is neither null nor empty. -/
def SecretValue (k : String) (v w : Json) : Prop := isSecretKey k ∧ isBlank v = false ∧ isBlank w = false

section Printed

variable (printable : Char → Bool)

mutual

/-- At least four characters are printed after every secret in the value, the `after` behind it included. -/
def followed (after : Nat) : Json → Bool
  | .list items => followedItems (after + 1) items
  | .object fields => followedFields (after + 1) fields
  | _ => true

def followedItems (after : Nat) : List Json → Bool
  | [] => true
  | v :: items =>
    followed (after + (printItems (reprStyle printable) [',', ' '] items).length) v && followedItems after items

def followedFields (after : Nat) : List (String × Json) → Bool
  | [] => true
  | (k, v) :: fields =>
    (if isSecretKey k && !isBlank v then 4 ≤ after + (printFields (reprStyle printable) [',', ' '] fields).length
      else followed (after + (printFields (reprStyle printable) [',', ' '] fields).length) v) && followedFields
        after fields

end

mutual

/-- Every secret inside the value of a token key is followed by four characters. -/
def covered : Json → Bool
  | .list items => coveredItems items
  | .object fields => coveredFields fields
  | _ => true

def coveredItems : List Json → Bool
  | [] => true
  | v :: items => covered v && coveredItems items

def coveredFields : List (String × Json) → Bool
  | [] => true
  | (k, v) :: fields =>
    (if isSecretKey k then true else if isTokenKey k then followed printable 0 v else covered v) && coveredFields fields

end

theorem length_of_isSecretKey {k : String} (h : isSecretKey k = true) : 6 ≤ k.toList.length := by
  obtain ⟨key, hkey, heq⟩ := List.any_eq_true.1 h
  have hlength : k.toList.length = key.toList.length := by
    rw [← of_decide_eq_true heq, lower, List.length_map]
  have hkeys : ∀ key ∈ secretKeys, 6 ≤ key.toList.length := by decide
  rw [hlength]
  exact hkeys key hkey

/-- A key and the colon after it. -/
def printKey (k : String) : List Char := (reprStyle printable).str k ++ [':', ' ']

theorem length_printKey {k : String} (h : isSecretKey k = true) : 10 ≤ (printKey printable k).length := by
  have hkey := length_of_isSecretKey h
  have hrepr := Json.length_reprStr printable k
  rw [printKey, List.length_append]
  show 10 ≤ (Json.reprStr printable k).length + 2
  omega

theorem printFields_cons (sep : List Char) (k : String) (v : Json) (fields : List (String × Json)) :
    printFields (reprStyle printable) sep ((k, v) :: fields) =
      sep ++ (printKey printable k ++ print (reprStyle printable) v ++
        printFields (reprStyle printable) [',', ' '] fields) := by
  rw [printFields, printKey]
  simp only [List.append_assoc]

/-- Whatever the secret is, if four characters follow it. -/
theorem printKey_agree {k : String} {after : Nat} (hk : isSecretKey k = true) (hafter : 4 ≤ after) (v w : Json) :
    Agree after (printKey printable k ++ print (reprStyle printable) v)
      (printKey printable k ++ print (reprStyle printable) w) :=
  agree_of_length (length_printKey printable hk) hafter _ _

mutual

theorem print_agree {v w : Json} (h : Alike SecretValue v w) {after : Nat} (hv : followed printable after v = true) :
    Agree after (print (reprStyle printable) v) (print (reprStyle printable) w) := by
  match h with
  | .same v => exact .refl _
  | .list hitems =>
    rw [print, print]
    exact ((printItems_agree hitems [] hv).before (u := [']'])).behind ['[']
  | .object hfields =>
    rw [print, print]
    exact ((printFields_agree hfields [] hv).before (u := ['}'])).behind ['{']

theorem printItems_agree {items items' : List Json} (h : ItemsAlike SecretValue items items') {after : Nat}
    (sep : List Char) (hitems : followedItems printable after items = true) :
    Agree after (printItems (reprStyle printable) sep items) (printItems (reprStyle printable) sep items') := by
  match h with
  | .nil => exact .refl _
  | .cons hone hrest =>
    rw [followedItems, Bool.and_eq_true] at hitems
    rw [printItems, printItems]
    exact ((print_agree hone hitems.1).append (printItems_agree hrest _ hitems.2)).behind sep

theorem printFields_agree {fields fields' : List (String × Json)}
    (h : FieldsAlike SecretValue fields fields') {after : Nat}
    (sep : List Char) (hfields : followedFields printable after fields = true) :
    Agree after (printFields (reprStyle printable) sep fields) (printFields (reprStyle printable) sep fields') := by
  match h with
  | .nil => exact .refl _
  | .cons (k := k) (v := v) (w := w) hone hrest =>
    rw [followedFields, Bool.and_eq_true] at hfields
    rw [printFields_cons, printFields_cons]
    refine Agree.behind (Agree.append ?_ (printFields_agree hrest _ hfields.2)) sep
    by_cases hsecret : (isSecretKey k && !isBlank v) = true
    · rw [if_pos hsecret] at hfields
      exact printKey_agree printable (Bool.and_eq_true_iff.1 hsecret).1 (of_decide_eq_true hfields.1) v w
    · rw [if_neg hsecret] at hfields
      exact (print_agree hone hfields.1).behind _
  | .value (k := k) (v := v) (w := w) hvalue hrest =>
    rw [followedFields, Bool.and_eq_true] at hfields
    rw [printFields_cons, printFields_cons]
    refine Agree.behind (Agree.append ?_ (printFields_agree hrest _ hfields.2)) sep
    rw [if_pos (by rw [hvalue.1, hvalue.2.1]; rfl)] at hfields
    exact printKey_agree printable hvalue.1 (of_decide_eq_true hfields.1) v w

end

/-! ## Covered values -/

theorem isBlank_alike {R : String → Json → Json → Prop} {v w : Json} (h : Alike R v w) : isBlank w = isBlank v := by
  cases h <;> rfl

theorem eq_of_isBlank {R : String → Json → Json → Prop} {v w : Json} (h : Alike R v w) (hv : isBlank v = true) :
    w = v := by
  cases h with
  | same => rfl
  | list _ => cases hv
  | object _ => cases hv

/-- A text under a token key has no secret in it. -/
theorem pyStr_alike {R : String → Json → Json → Prop} {v w : Json} (h : Alike R v w) :
    v = w ∨ pyStr printable v = print (reprStyle printable) v ∧ pyStr printable w = print (reprStyle printable) w := by
  cases h with
  | same => exact .inl rfl
  | list _ => exact .inr ⟨rfl, rfl⟩
  | object _ => exact .inr ⟨rfl, rfl⟩

theorem redact_eq {v w : Json} (hv : isBlank v = false) (hw : isBlank w = false) : redact v = redact w := by
  simp [redact, hv, hw]

theorem redact_alike {R : String → Json → Json → Prop} {v w : Json} (h : Alike R v w) : redact v = redact w := by
  cases hv : isBlank v with
  | true => rw [eq_of_isBlank h hv]
  | false => exact redact_eq hv (by rw [isBlank_alike h, hv])

theorem shorten_alike {v w : Json} (h : Alike SecretValue v w) (hv : followed printable 0 v = true) :
    shorten printable v = shorten printable w := by
  rcases pyStr_alike printable h with rfl | ⟨hprint, hprint'⟩
  · rfl
  · have hagree := maskText_eq (print_agree printable h hv)
    cases hblank : isBlank v with
    | true => rw [eq_of_isBlank h hblank]
    | false => simp [shorten, isBlank_alike h, hblank, hprint, hprint', hagree]

mutual

/-- Values that differ in secrets come out the same if every secret is covered. -/
theorem masked_eq {v w : Json} (h : Alike SecretValue v w) (hv : covered printable v = true) :
    masked printable v = masked printable w := by
  match h with
  | .same v => rfl
  | .list hitems => rw [masked, masked, maskedItems_eq hitems hv]
  | .object hfields => rw [masked, masked, maskedFields_eq hfields hv]

theorem maskedItems_eq {items items' : List Json} (h : ItemsAlike SecretValue items items')
    (hitems : coveredItems printable items = true) : maskedItems printable items = maskedItems printable items' := by
  match h with
  | .nil => rfl
  | .cons hone hrest =>
    rw [coveredItems, Bool.and_eq_true] at hitems
    rw [maskedItems, maskedItems, masked_eq hone hitems.1, maskedItems_eq hrest hitems.2]

theorem maskedFields_eq {fields fields' : List (String × Json)} (h : FieldsAlike SecretValue fields fields')
    (hfields : coveredFields printable fields = true) :
    maskedFields printable fields = maskedFields printable fields' := by
  match h with
  | .nil => rfl
  | .cons (k := k) hone hrest =>
    rw [coveredFields, Bool.and_eq_true] at hfields
    rw [maskedFields, maskedFields, maskedFields_eq hrest hfields.2]
    by_cases hsecret : isSecretKey k = true
    · rw [if_pos hsecret, if_pos hsecret, redact_alike hone]
    · rw [if_neg hsecret] at hfields
      rw [if_neg hsecret, if_neg hsecret]
      by_cases htoken : isTokenKey k = true
      · rw [if_pos htoken] at hfields
        rw [if_pos htoken, if_pos htoken, shorten_alike printable hone hfields.1]
      · rw [if_neg htoken] at hfields
        rw [if_neg htoken, if_neg htoken, masked_eq hone hfields.1]
  | .value hvalue hrest =>
    rw [coveredFields, Bool.and_eq_true] at hfields
    rw [maskedFields, maskedFields, maskedFields_eq hrest hfields.2, if_pos hvalue.1, if_pos hvalue.1,
      redact_eq hvalue.2.1 hvalue.2.2]

end

/-! ## Secrets that show -/

/-- A secret replaced by a number. -/
def SecretNumber (n : Int) (k : String) (v w : Json) : Prop := isSecretKey k ∧ isBlank v = false ∧ w = .int n

theorem SecretNumber.value {n : Int} {k : String} {v w : Json} (h : SecretNumber n k v w) : SecretValue k v w := by
  obtain ⟨hk, hv, rfl⟩ := h
  exact ⟨hk, hv, rfl⟩

/-- With numbers for one of its secrets the value is printed as `before`, the number and `behind`. -/
def Shows (after : Nat) (printed : Int → List Char) : Prop :=
  ∃ before behind, 10 ≤ before.length ∧ behind.length + after < 4 ∧
    ∀ n, printed n = before ++ ((toString n).toList ++ behind)

theorem Shows.behind {after : Nat} {printed : Int → List Char} (h : Shows after printed) (u : List Char) :
    Shows after fun n => u ++ printed n := by
  obtain ⟨before, behind, hbefore, hbehind, hprint⟩ := h
  refine ⟨u ++ before, behind, ?_, hbehind, fun n => ?_⟩
  · rw [List.length_append]
    omega
  · show u ++ printed n = _
    rw [hprint, List.append_assoc]

theorem Shows.before {after : Nat} {printed : Int → List Char} {u : List Char} (h : Shows (after + u.length) printed) :
    Shows after fun n => printed n ++ u := by
  obtain ⟨before, behind, hbefore, hbehind, hprint⟩ := h
  refine ⟨before, behind ++ u, hbefore, ?_, fun n => ?_⟩
  · rw [List.length_append]
    omega
  · show printed n ++ u = _
    rw [hprint]
    simp only [List.append_assoc]

theorem eq_of_maskText {s t t' : List Char} (hs : 13 < (s ++ t).length) (ht : t.length ≤ 4)
    (hlength : t'.length = t.length)
    (h : maskText (s ++ t) = maskText (s ++ t')) : t = t' := by
  have hsame : (s ++ t').length = (s ++ t).length := by rw [List.length_append, List.length_append, hlength]
  have hin : (s ++ t).length - 4 ≤ s.length := by
    rw [List.length_append]
    omega
  have hhead : 6 ≤ s.length := by
    rw [List.length_append] at hs
    omega
  rw [maskText, maskText, hsame, if_neg (Nat.not_le.2 hs), if_neg (Nat.not_le.2 hs),
    List.take_append_of_le_length hhead,
    List.take_append_of_le_length hhead, List.drop_append_of_le_length hin, List.drop_append_of_le_length hin] at h
  exact List.append_cancel_left (List.append_cancel_left h)

/-- Two numbers that are masked in different ways. -/
theorem Shows.maskText_ne {printed : Int → List Char} (h : Shows 0 printed) :
    maskText (printed 1001) ≠ maskText (printed 1002) := by
  obtain ⟨before, behind, hbefore, hbehind, hprint⟩ := h
  have hone : (toString (1001 : Int)).toList = ['1', '0', '0'] ++ ['1'] := by decide
  have htwo : (toString (1002 : Int)).toList = ['1', '0', '0'] ++ ['2'] := by decide
  intro heq
  have hsplit : ∀ c : Char,
      before ++ (['1', '0', '0'] ++ [c] ++ behind) = before ++ ['1', '0', '0'] ++ (c :: behind) := by
    intro c
    simp
  rw [hprint, hprint, hone, htwo, hsplit, hsplit] at heq
  have hlong : 13 < (before ++ ['1', '0', '0'] ++ ('1' :: behind)).length := by
    simp only [List.length_append, List.length_cons, List.length_nil]
    omega
  have htail := eq_of_maskText hlong (by rw [List.length_cons]; omega) (by rw [List.length_cons, List.length_cons]) heq
  exact absurd (List.cons.inj htail).1 (by decide)

mutual

theorem shows_of_not_followed {after : Nat} : (v : Json) → followed printable after v = false →
    ∃ fill : Int → Json, (∀ n, Alike (SecretNumber n) v (fill n)) ∧
      Shows after fun n => print (reprStyle printable) (fill n)
  | .list items, h => by
    obtain ⟨fill, hfill, hshows⟩ := showsItems_of_not_followed [] items h
    refine ⟨fun n => .list (fill n), fun n => .list (hfill n), ?_⟩
    exact (hshows.before (u := [']'])).behind ['[']
  | .object fields, h => by
    obtain ⟨fill, hfill, hshows⟩ := showsFields_of_not_followed [] fields h
    refine ⟨fun n => .object (fill n), fun n => .object (hfill n), ?_⟩
    exact (hshows.before (u := ['}'])).behind ['{']
  | .null, h => by cases h
  | .bool _, h => by cases h
  | .int _, h => by cases h
  | .float _, h => by cases h
  | .str _, h => by cases h

theorem showsItems_of_not_followed {after : Nat} (sep : List Char) : (items : List Json) →
    followedItems printable after items = false →
      ∃ fill : Int → List Json, (∀ n, ItemsAlike (SecretNumber n) items (fill n)) ∧
        Shows after fun n => printItems (reprStyle printable) sep (fill n)
  | [], h => by cases h
  | v :: items, h => by
    rw [followedItems, Bool.and_eq_false_iff] at h
    rcases h with h | h
    · obtain ⟨fill, hfill, hshows⟩ := shows_of_not_followed v h
      refine ⟨fun n => fill n :: items, fun n => .cons (hfill n) (.refl items), ?_⟩
      simp only [printItems]
      exact hshows.before.behind sep
    · obtain ⟨fill, hfill, hshows⟩ := showsItems_of_not_followed [',', ' '] items h
      refine ⟨fun n => v :: fill n, fun n => .cons (.same v) (hfill n), ?_⟩
      simp only [printItems]
      exact (hshows.behind _).behind sep

theorem showsFields_of_not_followed {after : Nat} (sep : List Char) : (fields : List (String × Json)) →
    followedFields printable after fields = false →
      ∃ fill : Int → List (String × Json), (∀ n, FieldsAlike (SecretNumber n) fields (fill n)) ∧
        Shows after fun n => printFields (reprStyle printable) sep (fill n)
  | [], h => by cases h
  | (k, v) :: fields, h => by
    rw [followedFields, Bool.and_eq_false_iff] at h
    rcases h with h | h
    · by_cases hsecret : (isSecretKey k && !isBlank v) = true
      · rw [if_pos hsecret, decide_eq_false_iff_not] at h
        obtain ⟨hk, hv⟩ := Bool.and_eq_true_iff.1 hsecret
        refine ⟨fun n => (k, .int n) :: fields, fun n => .value ⟨hk, by simpa using hv, rfl⟩ (.refl fields), ?_⟩
        simp only [printFields_cons]
        refine Shows.behind ⟨printKey printable k, printFields (reprStyle printable) [',', ' '] fields,
          length_printKey printable hk, by omega, fun n => ?_⟩ sep
        rw [print, List.append_assoc]
      · rw [if_neg hsecret] at h
        obtain ⟨fill, hfill, hshows⟩ := shows_of_not_followed v h
        refine ⟨fun n => (k, fill n) :: fields, fun n => .cons (hfill n) (.refl fields), ?_⟩
        simp only [printFields_cons]
        exact (Shows.before (hshows.behind (printKey printable k))).behind sep
    · obtain ⟨fill, hfill, hshows⟩ := showsFields_of_not_followed [',', ' '] fields h
      refine ⟨fun n => (k, v) :: fill n, fun n => .cons (.same v) (hfill n), ?_⟩
      simp only [printFields_cons]
      exact (hshows.behind _).behind sep

end

theorem shorten_shows {v : Json} (h : followed printable 0 v = false) :
    ∃ a b, Alike (SecretNumber 1001) v a ∧ Alike (SecretNumber 1002) v b ∧
      shorten printable a ≠ shorten printable b := by
  obtain ⟨fill, hfill, hshows⟩ := shows_of_not_followed printable v h
  refine ⟨fill 1001, fill 1002, hfill 1001, hfill 1002, fun heq => hshows.maskText_ne ?_⟩
  have hprinted : ∀ n, shorten printable (fill n) =
      .str (String.ofList (maskText (print (reprStyle printable) (fill n)))) := by
    intro n
    have hblank : isBlank v = false := by
      cases v <;> first | rfl | cases h
    have hprint : pyStr printable (fill n) = print (reprStyle printable) (fill n) := by
      rcases pyStr_alike printable (hfill n) with heq | ⟨-, hprint⟩
      · rw [← heq]
        cases v <;> first | rfl | cases h
      · exact hprint
    rw [shorten, isBlank_alike (hfill n), hblank, hprint]
    rfl
  rw [hprinted, hprinted] at heq
  exact String.ofList_injective (Json.str.inj heq)

mutual

/-- A secret that is not covered makes a difference. -/
theorem differs_of_not_covered : (v : Json) → covered printable v = false →
    ∃ a b, Alike (SecretNumber 1001) v a ∧ Alike (SecretNumber 1002) v b ∧ masked printable a ≠ masked printable b
  | .list items, h => by
    obtain ⟨a, b, ha, hb, hne⟩ := itemsDiffer_of_not_covered items h
    refine ⟨.list a, .list b, .list ha, .list hb, fun heq => hne ?_⟩
    rw [masked, masked] at heq
    exact Json.list.inj heq
  | .object fields, h => by
    obtain ⟨a, b, ha, hb, hne⟩ := fieldsDiffer_of_not_covered fields h
    refine ⟨.object a, .object b, .object ha, .object hb, fun heq => hne ?_⟩
    rw [masked, masked] at heq
    exact Json.object.inj heq
  | .null, h => by cases h
  | .bool _, h => by cases h
  | .int _, h => by cases h
  | .float _, h => by cases h
  | .str _, h => by cases h

theorem itemsDiffer_of_not_covered : (items : List Json) → coveredItems printable items = false →
    ∃ a b, ItemsAlike (SecretNumber 1001) items a ∧ ItemsAlike (SecretNumber 1002) items b ∧
      maskedItems printable a ≠ maskedItems printable b
  | [], h => by cases h
  | v :: items, h => by
    rw [coveredItems, Bool.and_eq_false_iff] at h
    rcases h with h | h
    · obtain ⟨a, b, ha, hb, hne⟩ := differs_of_not_covered v h
      refine ⟨a :: items, b :: items, .cons ha (.refl items), .cons hb (.refl items), fun heq => hne ?_⟩
      exact (List.cons.inj heq).1
    · obtain ⟨a, b, ha, hb, hne⟩ := itemsDiffer_of_not_covered items h
      refine ⟨v :: a, v :: b, .cons (.same v) ha, .cons (.same v) hb, fun heq => hne ?_⟩
      exact (List.cons.inj heq).2

theorem fieldsDiffer_of_not_covered : (fields : List (String × Json)) → coveredFields printable fields = false →
    ∃ a b, FieldsAlike (SecretNumber 1001) fields a ∧ FieldsAlike (SecretNumber 1002) fields b ∧
      maskedFields printable a ≠ maskedFields printable b
  | [], h => by cases h
  | (k, v) :: fields, h => by
    rw [coveredFields, Bool.and_eq_false_iff] at h
    rcases h with h | h
    · by_cases hsecret : isSecretKey k = true
      · rw [if_pos hsecret] at h
        cases h
      · rw [if_neg hsecret] at h
        have hone : ∃ a b, Alike (SecretNumber 1001) v a ∧ Alike (SecretNumber 1002) v b ∧
            (if isTokenKey k then shorten printable a else masked printable a) ≠
              if isTokenKey k then shorten printable b else masked printable b := by
          by_cases htoken : isTokenKey k = true
          · rw [if_pos htoken] at h
            simpa only [if_pos htoken] using shorten_shows printable h
          · rw [if_neg htoken] at h
            simpa only [if_neg htoken] using differs_of_not_covered v h
        obtain ⟨a, b, ha, hb, hne⟩ := hone
        refine ⟨(k, a) :: fields, (k, b) :: fields, .cons ha (.refl fields), .cons hb (.refl fields), fun heq => hne ?_⟩
        have hvalue := congrArg Prod.snd (List.cons.inj heq).1
        simpa only [if_neg hsecret] using hvalue
    · obtain ⟨a, b, ha, hb, hne⟩ := fieldsDiffer_of_not_covered fields h
      refine ⟨(k, v) :: a, (k, v) :: b, .cons (.same v) ha, .cons (.same v) hb, fun heq => hne ?_⟩
      exact (List.cons.inj heq).2

end

/-! ## Tokens -/

def TokenValue (k : String) (v w : Json) : Prop := isTokenKey k ∧ isBlank v = false ∧ isBlank w = false

/-- The mark of a short value, or six and four characters of a longer one. -/
inductive Masked : Json → Prop
  | short : Masked (.str (String.ofList stars))
  | long {head tail : List Char} (hhead : head.length = 6) (htail : tail.length = 4) :
      Masked (.str (String.ofList (head ++ stars ++ tail)))

def TokenMasks (k : String) (v w : Json) : Prop := isTokenKey k ∧ Masked v ∧ Masked w

theorem shorten_masked {v : Json} (hv : isBlank v = false) : Masked (shorten printable v) := by
  rw [shorten, hv, if_neg Bool.false_ne_true, maskText]
  split
  · exact .short
  · rename_i hlong
    refine .long ?_ ?_
    · rw [List.length_take]
      omega
    · rw [List.length_drop]
      omega

theorem shorten_masks {k : String} {v w : Json} (hk : isTokenKey k = true) (h : Alike TokenValue v w) :
    shorten printable v = shorten printable w ∨ TokenMasks k (shorten printable v) (shorten printable w) := by
  cases hv : isBlank v with
  | true => exact .inl (by rw [eq_of_isBlank h hv])
  | false => exact .inr ⟨hk, shorten_masked printable hv, shorten_masked printable (by rw [isBlank_alike h, hv])⟩

mutual

/-- Values that differ in tokens differ in their masks only. -/
theorem masked_tokens {v w : Json} (h : Alike TokenValue v w) :
    Alike TokenMasks (masked printable v) (masked printable w) := by
  match h with
  | .same v => exact .same _
  | .list hitems =>
    rw [masked, masked]
    exact .list (maskedItems_tokens hitems)
  | .object hfields =>
    rw [masked, masked]
    exact .object (maskedFields_tokens hfields)

theorem maskedItems_tokens {items items' : List Json} (h : ItemsAlike TokenValue items items') :
    ItemsAlike TokenMasks (maskedItems printable items) (maskedItems printable items') := by
  match h with
  | .nil => exact .nil
  | .cons hone hrest => exact .cons (masked_tokens hone) (maskedItems_tokens hrest)

theorem maskedFields_tokens {fields fields' : List (String × Json)} (h : FieldsAlike TokenValue fields fields') :
    FieldsAlike TokenMasks (maskedFields printable fields) (maskedFields printable fields') := by
  match h with
  | .nil => exact .nil
  | .cons (k := k) hone hrest =>
    have hrest' := maskedFields_tokens hrest
    rw [maskedFields, maskedFields]
    by_cases hsecret : isSecretKey k = true
    · rw [if_pos hsecret, if_pos hsecret, redact_alike hone]
      exact .cons (.same _) hrest'
    · rw [if_neg hsecret, if_neg hsecret]
      by_cases htoken : isTokenKey k = true
      · rw [if_pos htoken, if_pos htoken]
        rcases shorten_masks printable htoken hone with heq | hmasks
        · rw [heq]
          exact .cons (.same _) hrest'
        · exact .value hmasks hrest'
      · rw [if_neg htoken, if_neg htoken]
        exact .cons (masked_tokens hone) hrest'
  | .value (k := k) hvalue hrest =>
    have hrest' := maskedFields_tokens hrest
    rw [maskedFields, maskedFields]
    by_cases hsecret : isSecretKey k = true
    · rw [if_pos hsecret, if_pos hsecret, redact_eq hvalue.2.1 hvalue.2.2]
      exact .cons (.same _) hrest'
    · rw [if_neg hsecret, if_neg hsecret, if_pos hvalue.1, if_pos hvalue.1]
      exact .value ⟨hvalue.1, shorten_masked printable hvalue.2.1, shorten_masked printable hvalue.2.2⟩ hrest'

end

end Printed

end PortaPhone.Logs
