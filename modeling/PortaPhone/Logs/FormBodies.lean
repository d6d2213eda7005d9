import Mathlib
import PortaPhone.Lib.JsonParse
import PortaPhone.Logs.TextMasking
/-!
# Form bodies in the log (`request_trace.py`)

The pattern takes a value up to a space, a comma, a closing brace or the next `&`, or a text in double quotes. So the
values of sensitive keys do not show as long as they have none of these and no quote (`Covered`), and for every other
value there is a body in which it shows.
-/

namespace PortaPhone.Logs

open Contacts (isSpace)
open Json (Failure)
open Regex (rests first sub Stops)

/-! ## Where a quoted value ends -/

/-- What is behind the double quote that closes a text; a backslash takes the next character with it, if that is on the
same line. -/
def closeQuote : List Char → Option (List Char)
  | [] => none
  | ['\\'] => none
  | '\\' :: d :: s => if d = '\n' then none else closeQuote s
  | c :: s => if c = '"' then some s else closeQuote s

theorem closeQuote_escape (d : Char) (s : List Char) :
    closeQuote ('\\' :: d :: s) = if d = '\n' then none else closeQuote s := by rw [closeQuote]

theorem closeQuote_other {c : Char} (hc : c ≠ '\\') (s : List Char) :
    closeQuote (c :: s) = if c = '"' then some s else closeQuote s := by
  cases s with
  | nil => simp [closeQuote, hc]
  | cons d s => simp [closeQuote, hc]

def quotedChar : Regex := .alt (.one fun c => c ≠ '"' && c ≠ '\\') (.seq (.one (· = '\\')) (.one (· ≠ '\n')))

theorem rests_quote (c : Char) (s : List Char) : rests quote (c :: s) = if c = '"' then [s] else [] := by
  simp [quote, rests]

theorem rests_quotedChar_escape (s : List Char) :
    rests quotedChar ('\\' :: s) = match s with
      | [] => []
      | d :: s => if d = '\n' then [] else [s] := by
  cases s with
  | nil => rfl
  | cons d s =>
    by_cases hd : d = '\n'
    · simp [quotedChar, rests, hd]
    · simp [quotedChar, rests, hd]

theorem rests_quotedChar_other {c : Char} (hquote : c ≠ '"') (hescape : c ≠ '\\') (s : List Char) :
    rests quotedChar (c :: s) = [s] := by
  simp [quotedChar, rests, hquote, hescape]

theorem rests_closing (s : List Char) :
    rests (.seq (.star quotedChar) quote) s =
      ((rests quotedChar s).filter fun t => t.length < s.length).flatMap (rests (.seq (.star quotedChar) quote)) ++
        rests quote s := by
  rw [rests, Regex.rests_star, List.flatMap_append, List.flatMap_singleton, List.flatMap_assoc]
  rfl

theorem rests_quoted_end (s : List Char) : rests (.seq (.star quotedChar) quote) s = (closeQuote s).toList := by
  induction hn : s.length using Nat.strongRecOn generalizing s with
  | ind n ih =>
    subst hn
    rw [rests_closing]
    cases s with
    | nil => rfl
    | cons c s =>
      by_cases hescape : c = '\\'
      · subst hescape
        rw [rests_quotedChar_escape]
        cases s with
        | nil => rfl
        | cons d s =>
          have hrest := ih s.length (by simp) s rfl
          rw [closeQuote_escape]
          by_cases hd : d = '\n'
          · simp [hd, rests_quote]
          · simp [hd, hrest, rests_quote]
      · rw [closeQuote_other hescape]
        by_cases hquote : c = '"'
        · subst hquote
          rfl
        · have hrest := ih s.length (by simp) s rfl
          rw [rests_quotedChar_other hquote hescape]
          simp [hquote, hrest, rests_quote]

theorem rests_quoted (s : List Char) :
    rests quoted s = match s with
      | [] => []
      | c :: s => if c = '"' then (closeQuote s).toList else [] := by
  have hquoted : rests quoted s = (rests quote s).flatMap (rests (.seq (.star quotedChar) quote)) := rfl
  rw [hquoted]
  cases s with
  | nil => rfl
  | cons c s =>
    by_cases hc : c = '"'
    · simp [rests_quote, hc, rests_quoted_end]
    · simp [rests_quote, hc]

/-! ## Values that are taken whole -/

/-- There is a double quote that no backslash escapes. -/
def unescapedQuote : List Char → Bool
  | [] => false
  | ['\\'] => false
  | '\\' :: _ :: s => unescapedQuote s
  | c :: s => c = '"' || unescapedQuote s

theorem unescapedQuote_other {c : Char} (hc : c ≠ '\\') (s : List Char) :
    unescapedQuote (c :: s) = (c = '"' || unescapedQuote s) := by
  cases s with
  | nil => simp [unescapedQuote, hc]
  | cons d s => simp [unescapedQuote, hc]

/-- No space, comma or closing brace, and no quote that could close a text. -/
structure Covered (v : List Char) : Prop where
  plain : ∀ c ∈ v, isPlain c = true
  unquoted : unescapedQuote v = false

theorem isPlain_iff (c : Char) : isPlain c = true ↔ c ≠ '&' ∧ isSpace c = false ∧ c ≠ ',' ∧ c ≠ '\x7d' := by
  simp [isPlain, and_assoc]

theorem ne_newline {c : Char} (h : isPlain c = true) : c ≠ '\n' := by
  rintro rfl
  exact absurd h (by decide)

theorem closeQuote_stops {s : List Char} (h : Stops '&' s) : closeQuote ('\\' :: s) = closeQuote s := by
  cases h with
  | nil => rfl
  | cons u =>
    rw [closeQuote_escape, closeQuote_other (by decide)]
    rfl

/-- The value neither closes a text nor hides what closes it. -/
theorem closeQuote_covered {v t : List Char} (hplain : ∀ c ∈ v, isPlain c = true) (hquote : unescapedQuote v = false)
    (ht : Stops '&' t) : closeQuote (v ++ t) = closeQuote t := by
  match v with
  | [] => rfl
  | [c] =>
    by_cases hc : c = '\\'
    · subst hc
      exact closeQuote_stops ht
    · rw [unescapedQuote_other hc, Bool.or_eq_false_iff, decide_eq_false_iff_not] at hquote
      rw [List.singleton_append, closeQuote_other hc, if_neg hquote.1]
  | c :: d :: v =>
    by_cases hc : c = '\\'
    · subst hc
      have hd := ne_newline (hplain d (by simp))
      rw [List.cons_append, List.cons_append, closeQuote_escape, if_neg hd]
      exact closeQuote_covered (fun e he => hplain e (by simp [he])) hquote ht
    · rw [unescapedQuote_other hc, Bool.or_eq_false_iff, decide_eq_false_iff_not] at hquote
      rw [List.cons_append, closeQuote_other hc, if_neg hquote.1]
      exact closeQuote_covered (fun e he => hplain e (List.mem_cons_of_mem c he)) hquote.2 ht
termination_by v.length

/-! ## Sensitive keys -/

def isSensitive (k : List Char) : Bool := sensitiveKeys.any fun key => lower k = key.toList

/-- The characters of the keys. -/
def isLetter (c : Char) : Bool := (97 ≤ c.toNat && c.toNat ≤ 122) || c = '_'

theorem isLetter_key {key : String} (h : key ∈ sensitiveKeys) {c : Char} (hc : c ∈ key.toList) : isLetter c = true := by
  have hall : (sensitiveKeys.all fun key => key.toList.all isLetter) = true := by rfl
  exact List.all_eq_true.1 (List.all_eq_true.1 hall key h) c hc

theorem exists_key {k : List Char} (h : isSensitive k = true) : ∃ key ∈ sensitiveKeys, lower k = key.toList := by
  obtain ⟨key, hkey, heq⟩ := List.any_eq_true.1 h
  exact ⟨key, hkey, of_decide_eq_true heq⟩

/-- The characters that a sensitive key has none of. -/
theorem not_mem_key {k : List Char} (h : isSensitive k = true) {d : Char} (hd : isLetter (lowerChar d) = false) :
    d ∉ k := by
  intro hmem
  obtain ⟨key, hkey, heq⟩ := exists_key h
  have hlower : lowerChar d ∈ key.toList := by
    rw [← heq]
    exact List.mem_map_of_mem hmem
  rw [isLetter_key hkey hlower] at hd
  cases hd

theorem toNat_lt_of_isLetter {c : Char} (h : isLetter c = true) : c.toNat < 128 := by
  rcases Bool.or_eq_true_iff.1 h with h | h
  · have hle := (Bool.and_eq_true_iff.1 h).2
    have := of_decide_eq_true hle
    omega
  · rw [of_decide_eq_true h]
    decide

theorem toLower_of_large {c : Char} (h : 128 ≤ c.toNat) : c.toLower = c := by
  apply Char.toLower_eq_of_not_isUpper
  intro hupper
  have hle : c.val ≤ 'Z'.val := (of_decide_eq_true hupper).2
  have hnat : c.toNat ≤ 90 := hle
  omega

/-- A letter of a key is one of the pattern in any case exactly if they are the same in lower case. -/
theorem sameLetter_eq {p q c : Char} (hp : isLetter p = true) (hq : isLetter q = true) (hc : lowerChar c = q) :
    sameLetter p c = decide (q = p) := by
  unfold lowerChar at hc
  unfold sameLetter
  have hplt := toNat_lt_of_isLetter hp
  have hqlt := toNat_lt_of_isLetter hq
  split at hc
  · rename_i hkelvin
    have hne : c.toLower ≠ p := by
      rw [toLower_of_large (by omega)]
      rintro rfl
      omega
    subst hc
    simp [hne, hkelvin, eq_comm]
  · rename_i hkelvin
    have hsmall : c.toNat < 128 := by
      by_contra hlarge
      rw [toLower_of_large (by omega)] at hc
      subst hc
      omega
    have h₁ : c.toNat ≠ 0x130 := by omega
    have h₂ : c.toNat ≠ 0x131 := by omega
    have h₃ : c.toNat ≠ 0x17F := by omega
    simp [hc, h₁, h₂, h₃, hkelvin]

/-- A word of the pattern is found in a key if it is the beginning of it. -/
theorem rests_word {w key k : List Char} (hw : ∀ c ∈ w, isLetter c = true) (hkey : ∀ c ∈ key, isLetter c = true)
    (hk : lower k = key) (x : List Char) :
    rests (word w) (k ++ '=' :: x) = if w.isPrefixOf key then [k.drop w.length ++ '=' :: x] else [] := by
  induction w generalizing k key with
  | nil => simp [word, rests]
  | cons p w ih =>
    have hp := hw p (by simp)
    cases k with
    | nil =>
      have hne : sameLetter p '=' = false := by
        have heq : '=' ≠ p := by
          rintro rfl
          exact absurd hp (by decide)
        have hlower : ('=' : Char).toLower = '=' := by decide
        have hnat : ('=' : Char).toNat = 61 := by decide
        simp [sameLetter, hlower, heq, hnat]
      subst hk
      simp [word, rests, hne, lower]
    | cons c k =>
      subst hk
      have hc : isLetter (lowerChar c) = true := hkey _ (by simp [lower])
      have hrest :=
        ih (fun d hd => hw d (by simp [hd])) (fun d hd => hkey d (by simp [lower] at hd ⊢; exact .inr hd)) rfl
      have hsame := sameLetter_eq hp hc rfl
      by_cases heq : lowerChar c = p
      · rw [decide_eq_true heq] at hsame
        simp only [word, rests, List.cons_append, hsame, if_true, List.flatMap_singleton, hrest]
        simp [lower, heq]
      · rw [decide_eq_false heq] at hsame
        have hne : p ≠ lowerChar c := fun h => heq h.symm
        simp [word, rests, hsame, lower, hne]

theorem rests_oneOf (ws : List (List Char)) (s : List Char) :
    rests (oneOf ws) s = ws.flatMap fun w => rests (word w) s := by
  induction ws with
  | nil => cases s <;> rfl
  | cons w ws ih => rw [oneOf, rests, ih, List.flatMap_cons]

/-- No key is the beginning of another one. -/
theorem prefixes_of_key {key : String} (h : key ∈ sensitiveKeys) :
    ((sensitiveKeys.map String.toList).filter fun w => w.isPrefixOf key.toList) = [key.toList] := by
  have hall : (sensitiveKeys.all fun key =>
      ((sensitiveKeys.map String.toList).filter fun w => w.isPrefixOf key.toList) == [key.toList]) = true := by rfl
  exact eq_of_beq (List.all_eq_true.1 hall key h)

theorem flatMap_ite {α β : Type} (l : List α) (p : α → Bool) (f : α → β) :
    (l.flatMap fun a => if p a then [f a] else []) = (l.filter p).map f := by
  induction l with
  | nil => rfl
  | cons a l ih =>
    rw [List.flatMap_cons, ih, List.filter_cons]
    split <;> rfl

theorem rests_keys {k : List Char} (hk : isSensitive k = true) (x : List Char) :
    rests (oneOf (sensitiveKeys.map String.toList)) (k ++ '=' :: x) = ['=' :: x] := by
  obtain ⟨key, hkey, hlower⟩ := exists_key hk
  have hword : ∀ w ∈ sensitiveKeys.map String.toList, rests (word w) (k ++ '=' :: x) =
      if w.isPrefixOf key.toList then [k.drop w.length ++ '=' :: x] else [] := by
    intro w hw
    obtain ⟨other, hother, rfl⟩ := List.mem_map.1 hw
    exact rests_word (fun c hc => isLetter_key hother hc) (fun c hc => isLetter_key hkey hc) hlower x
  have hlength : k.length = key.toList.length := by rw [← hlower, lower, List.length_map]
  rw [rests_oneOf, List.flatMap_congr hword, flatMap_ite, prefixes_of_key hkey, List.map_singleton, ← hlength,
    List.drop_length, List.nil_append]

/-! ## A key and its value -/

theorem head_ne_quote {v : List Char} (h : Covered v) {c : Char} {s : List Char} (hv : v = c :: s) : c ≠ '"' := by
  rintro rfl
  have hquote := h.unquoted
  rw [hv, unescapedQuote_other (by decide)] at hquote
  cases hquote

theorem rests_opt_quote {c : Char} (hc : c ≠ '"') (s : List Char) : rests (.opt quote) (c :: s) = [c :: s] := by
  simp [Regex.opt, rests, rests_quote, hc]

theorem rests_spaces {c : Char} (hc : isSpace c = false) (s : List Char) : rests spaces (c :: s) = [c :: s] := by
  rw [spaces, Regex.rests_star_one, hc]
  rfl

/-- Behind a key and `=` only spaces can still belong to the first group. -/
theorem rests_keyGroup {k : List Char} (hk : isSensitive k = true) (x : List Char) :
    rests keyGroup (k ++ '=' :: x) = rests spaces x := by
  have hne : '"' ∉ k := not_mem_key hk (by decide)
  have hopt : rests (.opt quote) (k ++ '=' :: x) = [k ++ '=' :: x] := by
    cases k with
    | nil => exact rests_opt_quote (by decide) _
    | cons d k =>
      refine rests_opt_quote ?_ _
      rintro rfl
      exact hne List.mem_cons_self
  have hopt' : rests (.opt quote) ('=' :: x) = ['=' :: x] := rests_opt_quote (by decide) _
  have hspaces : rests spaces ('=' :: x) = ['=' :: x] := rests_spaces (by decide) _
  have hequals : rests (.one fun c => c = ':' || c = '=') ('=' :: x) = [x] := rfl
  rw [keyGroup, Regex.rests_seq_of_singleton hopt, Regex.rests_seq_of_singleton (rests_keys hk _),
    Regex.rests_seq_of_singleton hopt', Regex.rests_seq_of_singleton hspaces, Regex.rests_seq_of_singleton hequals]

theorem head?_rests_valueGroup {v t : List Char} (hne : v ≠ []) (hquote : ∀ c ∈ v.head?, c ≠ '"')
    (hplain : ∀ c ∈ v, isPlain c = true) (ht : ∀ c ∈ t.head?, isPlain c = false) :
    (rests valueGroup (v ++ t)).head? = some t := by
  cases v with
  | nil => exact absurd rfl hne
  | cons c v =>
    have hc := hplain c List.mem_cons_self
    have hnot : c ≠ '"' := hquote c rfl
    have hone : rests (.one isPlain) (c :: (v ++ t)) = [v ++ t] := by simp [rests, hc]
    rw [valueGroup, rests, List.cons_append, rests_quoted]
    dsimp only
    rw [if_neg hnot, List.nil_append, Regex.plus, Regex.rests_seq_of_singleton hone]
    exact Regex.head?_rests_star_one (fun d hd => hplain d (List.mem_cons_of_mem c hd)) ht

/-- The match at a sensitive key takes the key and the whole value. -/
theorem first_key {k v t : List Char} (hk : isSensitive k = true) (hne : v ≠ []) (hquote : ∀ c ∈ v.head?, c ≠ '"')
    (hplain : ∀ c ∈ v, isPlain c = true) (ht : ∀ c ∈ t.head?, isPlain c = false) :
    first keyGroup valueGroup (k ++ '=' :: (v ++ t)) = some (v ++ t, t) := by
  have hrests : rests keyGroup (k ++ '=' :: (v ++ t)) = [v ++ t] := by
    cases v with
    | nil => exact absurd rfl hne
    | cons c v =>
      rw [rests_keyGroup hk, List.cons_append, rests_spaces ((isPlain_iff c).1 (hplain c List.mem_cons_self)).2.1]
  rw [first, hrests, List.flatMap_singleton, List.head?_map, head?_rests_valueGroup hne hquote hplain ht]
  rfl

/-! ## Texts that differ in values -/

/-- The texts are the same but for covered values of sensitive keys, up to the next `&`; `start` says whether a pair can
start here. -/
inductive Same : Bool → List Char → List Char → Prop
  | nil (start : Bool) : Same start [] []
  | char {c : Char} {s s' : List Char} (start : Bool) (hc : c ≠ '&') (h : Same false s s') :
    Same start (c :: s) (c :: s')
  | next {s s' : List Char} (start : Bool) (h : Same true s s') : Same start ('&' :: s) ('&' :: s')
  | value {k v v' t t' : List Char} (hk : isSensitive k = true) (hne : v ≠ []) (hne' : v' ≠ []) (hv : Covered v)
      (hv' : Covered v') (ht : Stops '&' t) (ht' : Stops '&' t') (h : Same false t t') :
      Same true (k ++ '=' :: (v ++ t)) (k ++ '=' :: (v' ++ t'))

theorem Same.of_false {s s' : List Char} (h : Same false s s') (start : Bool) : Same start s s' := by
  cases h with
  | nil => exact .nil start
  | char _ hc h => exact .char start hc h
  | next _ h => exact .next start h

/-- The same characters in front, none of them `&`. -/
theorem Same.append {p r r' : List Char} (hp : '&' ∉ p) (h : Same false r r') (start : Bool) :
    Same start (p ++ r) (p ++ r') := by
  induction p generalizing start with
  | nil => exact h.of_false start
  | cons c p ih =>
    rw [List.mem_cons, not_or] at hp
    exact .char start (Ne.symm hp.1) (ih hp.2 false)

/-- Up to the next `&` the texts are the same. -/
theorem Same.split {start : Bool} {s s' : List Char} (h : Same start s s') (hstart : start = false) :
    ∃ p r r', '&' ∉ p ∧ s = p ++ r ∧ s' = p ++ r' ∧ Stops '&' r ∧ Stops '&' r' ∧ Same false r r' := by
  induction h with
  | nil start => exact ⟨[], [], [], List.not_mem_nil, rfl, rfl, .nil, .nil, .nil false⟩
  | @char c s s' start hc h ih =>
    obtain ⟨p, r, r', hp, rfl, rfl, hr, hr', hrest⟩ := ih rfl
    exact ⟨c :: p, r, r', by simp [hp, Ne.symm hc], rfl, rfl, hr, hr', hrest⟩
  | next start h => exact ⟨[], _, _, List.not_mem_nil, rfl, rfl, .cons _, .cons _, .next false h⟩
  | value => cases hstart

theorem closeQuote_key {k : List Char} (hk : isSensitive k = true) (x : List Char) :
    closeQuote (k ++ '=' :: x) = closeQuote x := by
  have hskip : ∀ l : List Char, '"' ∉ l → '\\' ∉ l → closeQuote (l ++ x) = closeQuote x := by
    intro l
    induction l with
    | nil => exact fun _ _ => rfl
    | cons c l ih =>
      intro hquote hescape
      rw [List.mem_cons, not_or] at hquote hescape
      rw [List.cons_append, closeQuote_other (Ne.symm hescape.1), if_neg (Ne.symm hquote.1)]
      exact ih hquote.2 hescape.2
  have hquote : '"' ∉ k := not_mem_key hk (by decide)
  have hescape : '\\' ∉ k := not_mem_key hk (by decide)
  have heq := hskip (k ++ ['=']) (by simp [hquote]) (by simp [hescape])
  rwa [List.append_assoc] at heq

/-- A quoted text is closed at the same place. -/
theorem closeQuote_same {start : Bool} {s s' : List Char} (h : Same start s s') :
    List.Forall₂ (Same false) (closeQuote s).toList (closeQuote s').toList := by
  induction hn : s.length using Nat.strongRecOn generalizing start s s' with
  | ind n ih =>
    subst hn
    cases h with
    | nil => exact .nil
    | @char c s s' _ hc h =>
      by_cases hescape : c = '\\'
      · subst hescape
        cases h with
        | nil => exact .nil
        | @char d s s' _ hd h =>
          rw [closeQuote_escape, closeQuote_escape]
          split
          · exact .nil
          · exact ih s.length (by simp) h rfl
        | @next s s' _ h =>
          rw [closeQuote_escape, closeQuote_escape, if_neg (by decide), if_neg (by decide)]
          exact ih s.length (by simp) h rfl
      · rw [closeQuote_other hescape, closeQuote_other hescape]
        split
        · exact .cons h .nil
        · exact ih s.length (by simp) h rfl
    | @next s s' _ h =>
      rw [closeQuote_other (by decide), closeQuote_other (by decide), if_neg (by decide), if_neg (by decide)]
      exact ih s.length (by simp) h rfl
    | @value k v v' t t' hk hne hne' hv hv' ht ht' h =>
      rw [closeQuote_key hk, closeQuote_key hk, closeQuote_covered hv.plain hv.unquoted ht,
        closeQuote_covered hv'.plain hv'.unquoted ht']
      refine ih t.length ?_ h rfl
      simp only [List.length_append, List.length_cons]
      omega

theorem rests_quoted_same {s s' : List Char} (h : Same false s s') :
    List.Forall₂ (Same false) (rests quoted s) (rests quoted s') := by
  rw [rests_quoted, rests_quoted]
  cases h with
  | nil => exact .nil
  | char _ hc h =>
    dsimp only
    split
    · exact closeQuote_same h
    · exact .nil
  | next _ h =>
    dsimp only
    rw [if_neg (by decide), if_neg (by decide)]
    exact .nil

/-- The second group leaves the same, in the same order. -/
theorem rests_valueGroup_same {p r r' : List Char} (hp : '&' ∉ p) (hr : Stops '&' r) (hr' : Stops '&' r')
    (h : Same false r r') : List.Forall₂ (Same false) (rests valueGroup (p ++ r)) (rests valueGroup (p ++ r')) := by
  rw [valueGroup, rests, rests]
  refine List.rel_append (rests_quoted_same (h.append hp false)) ?_
  have havoids : (Regex.plus (.one isPlain)).avoids '&' = true := rfl
  rw [Regex.rests_append havoids hr, Regex.rests_append havoids hr', List.forall₂_map_left_iff,
    List.forall₂_map_right_iff,
    List.forall₂_same]
  intro q hq
  exact h.append (fun hmem => hp ((Regex.rests_suffix _ p q hq).subset hmem)) false

theorem head?_of_forall₂ {α β : Type} {R : α → β → Prop} {l : List α} {l' : List β} (h : List.Forall₂ R l l') :
    l.head? = none ∧ l'.head? = none ∨ ∃ a b, l.head? = some a ∧ l'.head? = some b ∧ R a b := by
  cases h with
  | nil => exact .inl ⟨rfl, rfl⟩
  | cons hab _ => exact .inr ⟨_, _, rfl, rfl, hab⟩

/-- The first match is the same, and what it leaves. -/
theorem first_same {s s' : List Char} (h : Same false s s') :
    first keyGroup valueGroup s = none ∧ first keyGroup valueGroup s' = none ∨
      ∃ q q' rest rest', first keyGroup valueGroup s = some (q, rest) ∧
        first keyGroup valueGroup s' = some (q', rest') ∧
        s.take (s.length - q.length) = s'.take (s'.length - q'.length) ∧ Same false rest rest' := by
  obtain ⟨p, r, r', hp, rfl, rfl, hr, hr', hrest⟩ := h.split rfl
  have havoids : keyGroup.avoids '&' = true := by rfl
  let Left (x y : List Char) : Prop := ∃ q, q <:+ p ∧ x = q ++ r ∧ y = q ++ r'
  have hkeys : List.Forall₂ Left (rests keyGroup (p ++ r)) (rests keyGroup (p ++ r')) := by
    rw [Regex.rests_append havoids hr, Regex.rests_append havoids hr', List.forall₂_map_left_iff,
      List.forall₂_map_right_iff, List.forall₂_same]
    exact fun q hq => ⟨q, Regex.rests_suffix _ p q hq, rfl, rfl⟩
  have hcandidates : List.Forall₂ (fun x y => Left x.1 y.1 ∧ Same false x.2 y.2)
      ((rests keyGroup (p ++ r)).flatMap fun q => (rests valueGroup q).map (q, ·))
      ((rests keyGroup (p ++ r')).flatMap fun q => (rests valueGroup q).map (q, ·)) := by
    refine List.rel_flatMap hkeys ?_
    rintro _ _ ⟨q, hq, rfl, rfl⟩
    rw [List.forall₂_map_left_iff, List.forall₂_map_right_iff]
    exact (rests_valueGroup_same (fun hmem => hp (hq.subset hmem)) hr hr' hrest).imp fun _ _ hsame =>
      ⟨⟨q, hq, rfl, rfl⟩, hsame⟩
  rcases head?_of_forall₂ hcandidates with hnone | ⟨⟨_, rest⟩, ⟨_, rest'⟩, hsome, hsome', ⟨q, hq, rfl, rfl⟩, hsame⟩
  · exact .inl hnone
  · refine .inr ⟨q ++ r, q ++ r', rest, rest', hsome, hsome', ?_, hsame⟩
    have hle := hq.length_le
    have htaken : ∀ u : List Char, (p ++ u).take ((p ++ u).length - (q ++ u).length) =
        p.take (p.length - q.length) := by
      intro u
      have hlength : (p ++ u).length - (q ++ u).length = p.length - q.length := by
        rw [List.length_append, List.length_append]
        omega
      rw [hlength, List.take_append_of_le_length (Nat.sub_le _ _)]
    rw [htaken, htaken]

theorem consumes_keyGroup : Regex.Consumes keyGroup := by
  refine Regex.consumes_seq_right (Regex.consumes_seq_right (Regex.consumes_seq_right (Regex.consumes_seq_right ?_)))
  exact Regex.consumes_seq_left (Regex.consumes_one _)

theorem head?_of_stops {t : List Char} (h : Stops '&' t) : ∀ c ∈ t.head?, isPlain c = false := by
  cases h with
  | nil => rintro c ⟨⟩
  | cons u =>
    rintro c hc
    obtain rfl := Option.some.inj hc
    decide

theorem take_key (k x : List Char) : (k ++ '=' :: x).take ((k ++ '=' :: x).length - x.length) = k ++ ['='] := by
  have hsplit : k ++ '=' :: x = (k ++ ['=']) ++ x := by rw [List.append_assoc]; rfl
  rw [hsplit, List.length_append, Nat.add_sub_cancel, List.take_append_of_le_length (Nat.le_refl _), List.take_length]

/-- A sensitive value up to the next `&` is masked as a whole. -/
theorem maskTextFallback_key {k v t : List Char} (hk : isSensitive k = true) (hne : v ≠ [])
    (hquote : ∀ c ∈ v.head?, c ≠ '"')
    (hplain : ∀ c ∈ v, isPlain c = true) (ht : ∀ c ∈ t.head?, isPlain c = false) :
    maskTextFallback (k ++ '=' :: (v ++ t)) = k ++ ['='] ++ mark ++ maskTextFallback t := by
  rw [maskTextFallback, Regex.sub_some consumes_keyGroup (first_key hk hne hquote hplain ht),
    take_key, maskTextFallback]

theorem Covered.head {v : List Char} (h : Covered v) : ∀ c ∈ v.head?, c ≠ '"' := by
  intro c hc
  obtain ⟨s, rfl⟩ := List.head?_eq_some_iff.1 hc
  exact head_ne_quote h rfl

/-- **What differs in covered values only is masked to the same text.** -/
theorem maskTextFallback_same {start : Bool} {s s' : List Char} (h : Same start s s') :
    maskTextFallback s = maskTextFallback s' := by
  induction hn : s.length using Nat.strongRecOn generalizing start s s' with
  | ind n ih =>
    subst hn
    have hcommon : ∀ {c : Char} {s₁ s₁' : List Char} {start : Bool},
        Same false (c :: s₁) (c :: s₁') → Same start s₁ s₁' →
        s = c :: s₁ → maskTextFallback (c :: s₁) = maskTextFallback (c :: s₁') := by
      rintro c s₁ s₁' start hall hrest rfl
      rcases first_same hall with ⟨hnone, hnone'⟩ | ⟨q, q', rest, rest', hsome, hsome', htaken, hsame⟩
      · rw [maskTextFallback, maskTextFallback, Regex.sub_none hnone, Regex.sub_none hnone']
        exact congrArg (List.cons c) (ih s₁.length (by simp) hrest rfl)
      · rw [maskTextFallback, maskTextFallback, Regex.sub_some consumes_keyGroup hsome,
          Regex.sub_some consumes_keyGroup hsome', htaken]
        exact congrArg _ (ih rest.length (Regex.length_of_first consumes_keyGroup hsome) hsame rfl)
    cases h with
    | nil => rfl
    | char _ hc h => exact hcommon (.char false hc h) h rfl
    | next _ h => exact hcommon (.next false h) h rfl
    | @value k v v' t t' hk hne hne' hv hv' ht ht' h =>
      rw [maskTextFallback_key hk hne hv.head hv.plain (head?_of_stops ht),
        maskTextFallback_key hk hne' hv'.head hv'.plain (head?_of_stops ht')]
      refine congrArg _ (ih t.length ?_ h rfl)
      simp only [List.length_append, List.length_cons]
      omega

/-! ## Bodies -/

/-- A pair of a form-encoded body. -/
structure FormPair where
  key : List Char
  value : List Char
  key_ok : '&' ∉ key ∧ '=' ∉ key
  value_ok : '&' ∉ value

namespace FormPair

def text (p : FormPair) : List Char := p.key ++ '=' :: p.value

theorem not_mem_text (p : FormPair) : '&' ∉ p.text := by
  simp [text, p.key_ok.1, p.value_ok]

end FormPair

def formText : List FormPair → List Char
  | [] => []
  | [p] => p.text
  | p :: q :: ps => p.text ++ '&' :: formText (q :: ps)

/-- The bodies are the same but for values from `V` of sensitive keys that are not empty. -/
def DifferIn (V : List Char → Prop) : List FormPair → List FormPair → Prop :=
  List.Forall₂ fun p q =>
    p = q ∨ (p.key = q.key ∧ isSensitive p.key = true ∧ (p.value ≠ [] ∧ V p.value) ∧ q.value ≠ [] ∧ V q.value)

theorem Same.pair {p q : FormPair} {t t' : List Char}
    (h : p = q ∨
      (p.key = q.key ∧ isSensitive p.key = true ∧ (p.value ≠ [] ∧ Covered p.value) ∧ q.value ≠ [] ∧ Covered q.value))
    (ht : Stops '&' t) (ht' : Stops '&' t') (hrest : Same false t t') : Same true (p.text ++ t) (q.text ++ t') := by
  rcases h with rfl | ⟨hkey, hk, ⟨hne, hv⟩, hne', hv'⟩
  · exact hrest.append p.not_mem_text true
  · have hvalue := Same.value hk hne hne' hv hv' ht ht' hrest
    rw [FormPair.text, FormPair.text, ← hkey]
    simpa only [List.append_assoc, List.cons_append] using hvalue

theorem same_of_differIn {b b' : List FormPair} (h : DifferIn Covered b b') : Same true (formText b) (formText b') := by
  induction h with
  | nil => exact .nil true
  | @cons p q ps qs hpair hrest ih =>
    cases hrest with
    | nil => simpa only [formText, List.append_nil] using Same.pair hpair .nil .nil (.nil false)
    | cons _ _ => exact Same.pair hpair (.cons _) (.cons _) (.next false ih)

/-! ## Values that show -/

theorem not_mem_maskTextFallback {s : List Char} (h : '&' ∉ s) : '&' ∉ maskTextFallback s := by
  induction hn : s.length using Nat.strongRecOn generalizing s with
  | ind n ih =>
    subst hn
    cases s with
    | nil => exact h
    | cons c s =>
      rw [List.mem_cons, not_or] at h
      cases hfirst : first keyGroup valueGroup (c :: s) with
      | none =>
        rw [maskTextFallback, Regex.sub_none hfirst, List.mem_cons, not_or]
        exact ⟨h.1, ih s.length (by simp) h.2 rfl⟩
      | some found =>
        obtain ⟨q, rest⟩ := found
        obtain ⟨hq, hrest⟩ := Regex.first_eq_some hfirst
        have hsuffix : rest <:+ c :: s := (Regex.rests_suffix _ _ _ hrest).trans (Regex.rests_suffix _ _ _ hq)
        have hclean : '&' ∉ c :: s := by simpa [not_or] using h
        rw [maskTextFallback, Regex.sub_some consumes_keyGroup hfirst, List.mem_append, List.mem_append, not_or, not_or]
        refine ⟨⟨fun hmem => hclean (List.mem_of_mem_take hmem), by decide⟩, ?_⟩
        exact ih rest.length (Regex.length_of_first consumes_keyGroup hfirst) (fun hmem =>
          hclean (hsuffix.subset hmem)) rfl

theorem maskTextFallback_ne_nil (c : Char) (s : List Char) : maskTextFallback (c :: s) ≠ [] := by
  cases hfirst : first keyGroup valueGroup (c :: s) with
  | none =>
    rw [maskTextFallback, Regex.sub_none hfirst]
    exact List.cons_ne_nil _ _
  | some found =>
    rw [maskTextFallback, Regex.sub_some consumes_keyGroup hfirst]
    simp [mark]

def password : List Char := "password".toList

theorem isSensitive_password : isSensitive password = true := by rfl

theorem maskTextFallback_x : maskTextFallback (password ++ '=' :: ['x']) = password ++ ['='] ++ mark := by rfl

/-- The characters that end a value, by number: none of them is a letter. -/
theorem toNat_stop {d : Char} (hd : isPlain d = false) :
    d.toNat < 45 ∨ d.toNat ∈ [0x7D, 0x85, 0xA0, 0x1680, 0x2028, 0x2029, 0x202F, 0x205F, 0x3000] ∨
      0x2000 ≤ d.toNat ∧ d.toNat ≤ 0x200A := by
  have hstop : d = '&' ∨ isSpace d = true ∨ d = ',' ∨ d = '\x7d' := by
    by_contra hnot
    simp only [not_or, Bool.not_eq_true] at hnot
    exact absurd ((isPlain_iff d).2 hnot) (by simp [hd])
  rcases hstop with rfl | hspace | rfl | rfl
  · decide
  · simp only [isSpace, Bool.or_eq_true, Bool.and_eq_true, decide_eq_true_eq, List.mem_cons, List.not_mem_nil, or_false]
      at hspace ⊢
    omega
  · decide
  · decide

theorem sameLetter_stop {p d : Char} (hp : isLetter p = true) (hd : isPlain d = false) : sameLetter p d = false := by
  have hnat := toNat_stop hd
  simp only [List.mem_cons, List.not_mem_nil, or_false] at hnat
  have hlower : d.toLower = d := by
    apply Char.toLower_eq_of_not_isUpper
    intro hupper
    have hle := of_decide_eq_true hupper
    have hge : 65 ≤ d.toNat := hle.1
    have hle' : d.toNat ≤ 90 := hle.2
    omega
  have hne : d ≠ p := by
    rintro rfl
    rcases Bool.or_eq_true_iff.1 hp with hletter | hunder
    · have hge := of_decide_eq_true (Bool.and_eq_true_iff.1 hletter).1
      have hle := of_decide_eq_true (Bool.and_eq_true_iff.1 hletter).2
      omega
    · obtain rfl := of_decide_eq_true hunder
      exact absurd hd (by decide)
  have h₁ : d.toNat ≠ 0x130 := by omega
  have h₂ : d.toNat ≠ 0x131 := by omega
  have h₃ : d.toNat ≠ 0x17F := by omega
  have h₄ : d.toNat ≠ 0x212A := by omega
  simp [sameLetter, hlower, hne, h₁, h₂, h₃, h₄]

/-- No match starts at a character that ends a value. -/
theorem rests_keyGroup_stop {d : Char} (hd : isPlain d = false) (s : List Char) : rests keyGroup (d :: s) = [] := by
  have hquote : d ≠ '"' := by
    rintro rfl
    exact absurd hd (by decide)
  have hwords : rests (oneOf (sensitiveKeys.map String.toList)) (d :: s) = [] := by
    rw [rests_oneOf, List.flatMap_eq_nil_iff]
    intro w hw
    obtain ⟨key, hkey, rfl⟩ := List.mem_map.1 hw
    have hne : key.toList ≠ [] := by
      have hall : (sensitiveKeys.all fun key => !key.toList.isEmpty) = true := by rfl
      simpa using List.all_eq_true.1 hall key hkey
    cases hchars : key.toList with
    | nil => exact absurd hchars hne
    | cons p w =>
      have hp : isLetter p = true := isLetter_key hkey (by rw [hchars]; exact List.mem_cons_self)
      simp [word, rests, sameLetter_stop hp hd]
  rw [keyGroup, Regex.rests_seq_of_singleton (rests_opt_quote hquote s), rests, hwords]
  rfl

theorem first_stop {d : Char} (hd : isPlain d = false) (s : List Char) : first keyGroup valueGroup (d :: s) = none := by
  rw [first, rests_keyGroup_stop hd]
  rfl

/-- The second group does not start there either. -/
theorem rests_valueGroup_stop {d : Char} (hd : isPlain d = false) (s : List Char) : rests valueGroup (d :: s) = [] := by
  have hquote : d ≠ '"' := by
    rintro rfl
    exact absurd hd (by decide)
  rw [valueGroup, rests, rests_quoted]
  simp [hquote, Regex.plus, rests, hd]

theorem maskTextFallback_copy {c : Char} {s : List Char} (h : rests keyGroup (c :: s) = []) :
    maskTextFallback (c :: s) = c :: maskTextFallback s := by
  have hnone : first keyGroup valueGroup (c :: s) = none := by
    rw [first, h]
    rfl
  rw [maskTextFallback, Regex.sub_none hnone, maskTextFallback]

/-- A value that starts with such a character shows it. -/
theorem shows_first {d : Char} (hd : isPlain d = false) (v : List Char) :
    ∃ rest, maskTextFallback (password ++ '=' :: d :: v) = password ++ '=' :: d :: rest := by
  cases hfirst : first keyGroup valueGroup (password ++ '=' :: d :: v) with
  | none =>
    have hp : maskTextFallback (password ++ '=' :: d :: v) =
        'p' :: maskTextFallback ("assword".toList ++ '=' :: d :: v) :=
      Regex.sub_none hfirst
    have ha : maskTextFallback ("assword".toList ++ '=' :: d :: v) =
        "assword".toList ++ '=' :: maskTextFallback (d :: v) := by
      show maskTextFallback ('a' :: 's' :: 's' :: 'w' :: 'o' :: 'r' :: 'd' :: '=' :: d :: v) = _
      rw [maskTextFallback_copy rfl, maskTextFallback_copy rfl, maskTextFallback_copy rfl, maskTextFallback_copy rfl,
        maskTextFallback_copy rfl, maskTextFallback_copy rfl, maskTextFallback_copy rfl, maskTextFallback_copy rfl]
      rfl
    exact ⟨maskTextFallback v, by rw [hp, ha, maskTextFallback, Regex.sub_none (first_stop hd v)]; rfl⟩
  | some found =>
    obtain ⟨q, rest⟩ := found
    obtain ⟨hq, hrest⟩ := Regex.first_eq_some hfirst
    rw [rests_keyGroup isSensitive_password] at hq
    have hsuffix := Regex.rests_suffix _ _ q hq
    rcases List.suffix_cons_iff.1 hsuffix with rfl | hsuffix
    · rw [rests_valueGroup_stop hd] at hrest
      cases hrest
    · obtain ⟨w, rfl⟩ := hsuffix
      refine ⟨w ++ mark ++ maskTextFallback rest, ?_⟩
      have hsplit : password ++ '=' :: d :: (w ++ q) = (password ++ '=' :: d :: w) ++ q := by simp
      rw [maskTextFallback, Regex.sub_some consumes_keyGroup hfirst, hsplit, List.length_append, Nat.add_sub_cancel,
        List.take_append_of_le_length (Nat.le_refl _), List.take_length]
      simp [maskTextFallback]

theorem exists_stop {v : List Char} (h : ∃ c ∈ v, isPlain c = false) :
    ∃ a d c, v = a ++ d :: c ∧ (∀ x ∈ a, isPlain x = true) ∧ isPlain d = false := by
  induction v with
  | nil =>
    obtain ⟨c, hc, -⟩ := h
    cases hc
  | cons e v ih =>
    by_cases he : isPlain e = true
    · obtain ⟨c, hc, hstop⟩ := h
      rcases List.mem_cons.1 hc with rfl | hc
      · rw [he] at hstop
        cases hstop
      · obtain ⟨a, d, c, rfl, ha, hd⟩ := ih ⟨c, hc, hstop⟩
        exact ⟨e :: a, d, c, rfl, List.forall_mem_cons.2 ⟨he, ha⟩, hd⟩
    · exact ⟨[], e, v, rfl, by simp, by simpa using he⟩

/-- What is behind a space, a comma or a brace shows if the value is not in quotes. -/
theorem shows_behind_stop {v : List Char} (hquote : ∀ c ∈ v.head?, c ≠ '"') (hstop : ∃ c ∈ v, isPlain c = false) :
    maskTextFallback (password ++ '=' :: v) ≠ maskTextFallback (password ++ '=' :: ['x']) := by
  obtain ⟨a, d, c, rfl, ha, hd⟩ := exists_stop hstop
  rw [maskTextFallback_x]
  intro heq
  cases a with
  | nil =>
    obtain ⟨rest, hshows⟩ := shows_first hd c
    rw [List.nil_append, hshows, List.append_assoc] at heq
    have hmark := (List.cons.inj (List.cons.inj (List.append_cancel_left heq)).2).1
    rw [hmark] at hd
    exact absurd hd (by decide)
  | cons b a =>
    have htail : ∀ e ∈ (d :: c).head?, isPlain e = false := by
      intro e he
      obtain rfl := Option.some.inj he
      exact hd
    rw [maskTextFallback_key isSensitive_password (List.cons_ne_nil b a) hquote ha htail] at heq
    exact maskTextFallback_ne_nil d c (List.append_right_eq_self.1 heq)

theorem closeQuote_of_unescaped {v : List Char} (hplain : ∀ c ∈ v, isPlain c = true) (h : unescapedQuote v = true) :
    ∃ w, closeQuote v = some w ∧ w <:+ v := by
  match v with
  | [] => cases h
  | [c] =>
    by_cases hc : c = '\\'
    · subst hc
      cases h
    · rw [unescapedQuote_other hc] at h
      have hquote : c = '"' := by simpa [unescapedQuote] using h
      exact ⟨[], by rw [closeQuote_other hc, if_pos hquote], List.nil_suffix⟩
  | c :: d :: v =>
    by_cases hc : c = '\\'
    · subst hc
      obtain ⟨w, hw, hsuffix⟩ := closeQuote_of_unescaped (v := v) (fun e he => hplain e (by simp [he])) h
      refine ⟨w, ?_, hsuffix.trans ⟨['\\', d], rfl⟩⟩
      rw [closeQuote_escape, if_neg (ne_newline (hplain d (by simp))), hw]
    · rw [unescapedQuote_other hc] at h
      rw [closeQuote_other hc]
      by_cases hquote : c = '"'
      · exact ⟨d :: v, by rw [if_pos hquote], List.suffix_cons c _⟩
      · have hrest : unescapedQuote (d :: v) = true := by simpa [hquote] using h
        obtain ⟨w, hw, hsuffix⟩ := closeQuote_of_unescaped (fun e he => hplain e (List.mem_cons_of_mem c he)) hrest
        exact ⟨w, by rw [if_neg hquote, hw], hsuffix.trans (List.suffix_cons c _)⟩
termination_by v.length

/-- A body in which a quote is open where a password starts. -/
def openQuote (v : List Char) : List Char :=
  'x' :: '=' :: ("token".toList ++ '=' :: '"' :: '&' :: (password ++ '=' :: v))

theorem maskTextFallback_openQuote {v w : List Char} (hw : closeQuote v = some w) :
    maskTextFallback (openQuote v) = 'x' :: '=' :: ("token".toList ++ ['='] ++ mark ++ maskTextFallback w) := by
  have htoken : isSensitive "token".toList = true := by rfl
  have hclose : closeQuote ('&' :: (password ++ '=' :: v)) = some w := by
    rw [closeQuote_other (by decide), if_neg (by decide), closeQuote_key isSensitive_password, hw]
  have hvalue : (rests valueGroup ('"' :: '&' :: (password ++ '=' :: v))).head? = some w := by
    rw [valueGroup, rests, rests_quoted]
    dsimp only
    rw [if_pos rfl, hclose]
    rfl
  have hfirst : first keyGroup valueGroup ("token".toList ++ '=' :: '"' :: '&' :: (password ++ '=' :: v)) =
      some ('"' :: '&' :: (password ++ '=' :: v), w) := by
    rw [first, rests_keyGroup htoken, rests_spaces (by decide), List.flatMap_singleton, List.head?_map, hvalue]
    rfl
  rw [openQuote, maskTextFallback_copy rfl, maskTextFallback_copy rfl, maskTextFallback,
    Regex.sub_some consumes_keyGroup hfirst, take_key, maskTextFallback]

/-- What is behind a quote shows if the quote closes a text that is open before. -/
theorem shows_behind_quote {v w : List Char} (hw : closeQuote v = some w) (hamp : '&' ∉ w) :
    maskTextFallback (openQuote v) ≠ maskTextFallback (openQuote ['x']) := by
  have hx : maskTextFallback (openQuote ['x']) =
      'x' :: '=' :: ("token".toList ++ ['='] ++ mark ++ '&' :: (password ++ ['='] ++ mark)) := by rfl
  rw [maskTextFallback_openQuote hw, hx]
  intro heq
  have hrest := List.append_cancel_left (List.cons.inj (List.cons.inj heq).2).2
  exact not_mem_maskTextFallback hamp (hrest ▸ List.mem_cons_self)

/-! ## The secrets of form bodies -/

/-- What a form sends as a secret. -/
structure FormSecret where
  text : List Char
  nonempty : text ≠ []
  no_amp : '&' ∉ text

section Masked

variable (printable : Char → Bool) (lv : Levels) (loads : List Char → Except Failure Json)
  (decode : List UInt8 → List Char)

/-- The body is no JSON: it does not start like it, or `json.loads` refuses it without having gone too deep. -/
def ReadAsForm (text : List Char) : Prop := looksLikeJson text = false ∨ loads text = .error .value

/-- Bodies that differ in values from `V` of sensitive keys come out as the same text. -/
def MaskedFor (V : List Char → Prop) : Prop := ∀ b b', DifferIn V b b' →
  ReadAsForm loads (formText b) → ReadAsForm loads (formText b') →
    sanitizeText printable lv loads decode (.text (formText b)) =
      sanitizeText printable lv loads decode (.text (formText b'))

variable {loads} in
theorem sanitizeStr_form {text : List Char} (h : ReadAsForm loads text) :
    sanitizeStr printable lv loads text = .ok (maskTextFallback text) := by
  unfold sanitizeStr
  rcases h with h | h
  · rw [h]
    rfl
  · rw [sanitizeJson, h]
    split <;> rfl

theorem maskedFor_covered : MaskedFor printable lv loads decode Covered := by
  intro b b' hdiffer hform hform'
  rw [sanitizeText, sanitizeText, sanitizeStr_form printable lv hform, sanitizeStr_form printable lv hform',
    maskTextFallback_same (same_of_differIn hdiffer)]

/-- A pair with the key `password`. -/
def passwordPair (v : List Char) (hv : '&' ∉ v) : FormPair := ⟨password, v, by decide, hv⟩

/-- A pair with an open quote behind the name of a token. -/
def openPair : FormPair where
  key := ['x']
  value := "token".toList ++ ['=', '"']
  key_ok := by decide
  value_ok := by decide

theorem covered_x : Covered ['x'] where
  plain := by
    intro c hc
    rw [List.mem_singleton.1 hc]
    rfl
  unquoted := by rfl

theorem masked_text {s s' : List Char}
    (h : sanitizeText printable lv loads decode (.text s) = sanitizeText printable lv loads decode (.text s'))
    (hs : looksLikeJson s = false) (hs' : looksLikeJson s' = false) : maskTextFallback s = maskTextFallback s' := by
  rw [sanitizeText, sanitizeText, sanitizeStr_form printable lv (.inl hs),
    sanitizeStr_form printable lv (.inl hs')] at h
  exact Body.text.inj (Except.ok.inj h)

/-- A secret is masked in every form body exactly if it is covered. -/
theorem masked_iff_covered (v : FormSecret) :
    MaskedFor printable lv loads decode (fun w => w = v.text ∨ Covered w) ↔ Covered v.text := by
  constructor
  · intro hmasked
    by_contra hv
    have hdiffer :
        DifferIn (fun w => w = v.text ∨ Covered w) [passwordPair v.text v.no_amp] [passwordPair ['x'] (by decide)] :=
      .cons (.inr ⟨rfl, isSensitive_password, ⟨v.nonempty, .inl rfl⟩, List.cons_ne_nil _ _, .inr covered_x⟩) .nil
    have hone : maskTextFallback (password ++ '=' :: v.text) = maskTextFallback (password ++ '=' :: ['x']) :=
      masked_text printable lv loads decode
        (hmasked [passwordPair v.text v.no_amp] [passwordPair ['x'] (by decide)] hdiffer
        (.inl rfl) (.inl rfl)) rfl rfl
    have hopen : maskTextFallback (openQuote v.text) = maskTextFallback (openQuote ['x']) :=
      masked_text printable lv loads decode (hmasked [openPair, passwordPair v.text v.no_amp]
        [openPair, passwordPair ['x'] (by decide)] (.cons (.inl rfl) hdiffer) (.inl rfl) (.inl rfl)) rfl rfl
    by_cases hquote : ∀ c ∈ v.text.head?, c ≠ '"'
    · by_cases hplain : ∀ c ∈ v.text, isPlain c = true
      · have hunescaped : unescapedQuote v.text = true := by
          by_contra hfalse
          exact hv ⟨hplain, by simpa using hfalse⟩
        obtain ⟨w, hw, hsuffix⟩ := closeQuote_of_unescaped hplain hunescaped
        exact shows_behind_quote hw (fun hmem => v.no_amp (hsuffix.subset hmem)) hopen
      · push Not at hplain
        obtain ⟨c, hc, hstop⟩ := hplain
        exact shows_behind_stop hquote ⟨c, hc, by simpa using hstop⟩ hone
    · push Not at hquote
      obtain ⟨c, hc, rfl⟩ := hquote
      obtain ⟨w, hw⟩ := List.head?_eq_some_iff.1 hc
      have hclose : closeQuote v.text = some w := by rw [hw, closeQuote_other (by decide), if_pos rfl]
      have hamp : '&' ∉ w := fun hmem => v.no_amp (by rw [hw]; exact List.mem_cons_of_mem _ hmem)
      exact shows_behind_quote hclose hamp hopen
  · intro hv b b' hdiffer
    refine maskedFor_covered printable lv loads decode b b' (hdiffer.imp fun p q h => ?_)
    have hall : ∀ w, w = v.text ∨ Covered w → Covered w := by
      rintro w (rfl | hw)
      · exact hv
      · exact hw
    exact h.imp_right fun ⟨hkey, hk, ⟨hne, hp⟩, hne', hq⟩ => ⟨hkey, hk, ⟨hne, hall _ hp⟩, hne', hall _ hq⟩

end Masked

/-! ## Bodies that are read as JSON -/

section Json

variable (printable : Char → Bool) (lv : Levels) (floatRepr : List Char → String) (decode : List UInt8 → List Char)

/-- `["a=1&password=…&b="]`, a list of one text. -/
def jsonBody (v : FormSecret) : List FormPair :=
  [⟨['[', '"', 'a'], ['1'], by decide, by decide⟩, passwordPair v.text v.no_amp,
    ⟨['b'], ['"', ']'], by decide, by decide⟩]

def jsonText (v : FormSecret) : List Char :=
  'a' :: '=' :: '1' :: '&' :: (password ++ '=' :: (v.text ++ ['&', 'b', '=']))

/-- JSON writes the character as it is. -/
def isWritten (c : Char) : Bool := c ≠ '"' && c ≠ '\\' && 0x20 ≤ c.toNat && c.toNat ≤ 0x7E

theorem escapeChar_written {c : Char} (h : isWritten c = true) : Json.escapeChar c = [c] := by
  simp only [isWritten, Bool.and_eq_true, decide_eq_true_iff] at h
  obtain ⟨⟨⟨hquote, hescape⟩, hlow⟩, hhigh⟩ := h
  have hline : ∀ d : Char, d.toNat < 0x20 → c ≠ d := by
    rintro d hd rfl
    omega
  rw [Json.escapeChar, if_neg hquote, if_neg hescape, if_neg (hline '\n' (by decide)), if_neg (hline '\r' (by decide)),
    if_neg (hline '\t' (by decide)), if_neg (by omega), if_neg (by omega), if_pos ⟨hlow, hhigh⟩]

theorem dumpsStr_written {s : List Char} (h : s.all isWritten = true) :
    Json.dumpsStr (String.ofList s) = '"' :: (s ++ ['"']) := by
  have hchar : ∀ c ∈ s, Json.escapeChar c = [c] := fun c hc => escapeChar_written (List.all_eq_true.1 h c hc)
  rw [Json.dumpsStr, String.toList_ofList, List.flatMap_congr hchar, List.flatMap_singleton']

theorem jsonText_written {v : FormSecret} (h : v.text.all isWritten = true) : (jsonText v).all isWritten = true := by
  rw [jsonText, List.all_cons, List.all_cons, List.all_cons, List.all_cons, List.all_append, List.all_cons,
    List.all_append, h]
  rfl

theorem formText_jsonBody {v : FormSecret} (h : v.text.all isWritten = true) :
    formText (jsonBody v) = Json.dumps (.list [.str (String.ofList (jsonText v))]) := by
  have hprint : ∀ s : String, Json.dumps (.list [.str s]) = '[' :: (Json.dumpsStr s ++ [']']) := by
    intro s
    show '[' :: ([] ++ (Json.dumpsStr s ++ []) ++ [']']) = _
    rw [List.nil_append, List.append_nil]
  rw [hprint, dumpsStr_written (jsonText_written h)]
  simp only [formText, FormPair.text, jsonBody, passwordPair, jsonText, List.append_assoc, List.cons_append,
    List.nil_append]

variable {lv} in
/-- A password that JSON writes as it is stands in the log. -/
theorem jsonBody_shows (hcalls : 3 ≤ lv.calls) (hloads : 0 < lv.loads) (hdumps : 0 < lv.dumps) {v : FormSecret}
    (h : v.text.all isWritten = true) :
    sanitizeText printable lv (Json.loads floatRepr lv.loads) decode (.text (formText (jsonBody v))) =
      .ok (.text (formText (jsonBody v))) := by
  let body : Json := .list [.str (String.ofList (jsonText v))]
  have hbody : Json.wellFormed (Json.isFloatRepr floatRepr) body = true := rfl
  have hload : Json.loads floatRepr lv.loads (Json.dumps body) = .ok body :=
    (Json.loads_dumps hbody lv.loads).trans (Json.within_ok hloads body)
  have hmask : sanitizeData printable lv body lv.calls = .ok body :=
    (sanitizeData_eq printable lv body hbody lv.calls).trans (Json.within_ok hcalls body)
  have hjson : sanitizeJson printable lv (Json.loads floatRepr lv.loads) (Json.dumps body) = .ok (Json.dumps body) := by
    rw [sanitizeJson, hload]
    show (sanitizeData printable lv body lv.calls >>= _) = _
    rw [hmask]
    exact Json.within_ok hdumps _
  rw [formText_jsonBody h, sanitizeText, sanitizeStr, if_pos (by rfl), hjson]
  rfl

/-- `["a=1&password=…&b=",[[[…`, with more brackets than the scanner can go into. -/
def deepBody (d : Nat) (v : FormSecret) : List FormPair :=
  [⟨['[', '"', 'a'], ['1'], by decide, by decide⟩, passwordPair v.text v.no_amp,
    ⟨['b'], '"' :: ',' :: List.replicate d '[', by decide, by simp [List.mem_replicate]⟩]

theorem formText_deepBody (d : Nat) {v : FormSecret} (h : v.text.all isWritten = true) :
    formText (deepBody d v) =
      '[' :: (Json.dumpsStr (String.ofList (jsonText v)) ++ ',' :: List.replicate d '[') := by
  rw [dumpsStr_written (jsonText_written h)]
  simp only [formText, FormPair.text, deepBody, passwordPair, jsonText, List.append_assoc, List.cons_append,
    List.nil_append]

/-- The interpreter gives up on such a body before it sees that it is no JSON. -/
theorem loads_deepBody (d : Nat) {v : FormSecret} (h : v.text.all isWritten = true) :
    Json.loads floatRepr d (formText (deepBody d v)) = .error .recursion := by
  rw [formText_deepBody d h]
  exact Json.loads_deep (String.ofList (jsonText v)) d

theorem deepBody_raises {v : FormSecret} (h : v.text.all isWritten = true) :
    sanitizeText printable lv (Json.loads floatRepr lv.loads) decode (.text (formText (deepBody lv.loads v))) =
      .error .recursion := by
  rw [sanitizeText, sanitizeStr, if_pos (by rfl), sanitizeJson, loads_deepBody floatRepr lv.loads h]
  rfl

/-- Covered values never show in a form body, any other value does in some. In a body that is read as JSON even covered
ones do, and one that goes too deep for that has no text. -/
theorem formBodies_masked :
    MaskedFor printable lv (Json.loads floatRepr lv.loads) decode Covered ∧
      (∀ v : FormSecret,
        MaskedFor printable lv (Json.loads floatRepr lv.loads) decode (fun w => w = v.text ∨ Covered w) ↔
          Covered v.text) ∧
      (3 ≤ lv.calls → 0 < lv.loads → 0 < lv.dumps → ∀ v : FormSecret, v.text.all isWritten = true →
        sanitizeText printable lv (Json.loads floatRepr lv.loads) decode (.text (formText (jsonBody v))) =
          .ok (.text (formText (jsonBody v)))) ∧
      ∀ v : FormSecret, v.text.all isWritten = true →
        sanitizeText printable lv (Json.loads floatRepr lv.loads) decode (.text (formText (deepBody lv.loads v))) =
          .error .recursion :=
  ⟨maskedFor_covered printable lv _ decode, masked_iff_covered printable lv _ decode,
    fun hcalls hloads hdumps _ h => jsonBody_shows printable floatRepr decode hcalls hloads hdumps h,
    fun _ h => deepBody_raises printable lv floatRepr decode h⟩

end Json

/-- The part of a password behind a comma. -/
theorem comma_shows : ¬ MaskedFor (fun _ => false) ⟨900, 2, 900, 900⟩ (Json.loads (fun _ => "0.0") 900) (fun _ => [])
    fun _ => True := by
  intro h
  have hdiffer :
      DifferIn (fun _ => True) [passwordPair "a,b".toList (by decide)] [passwordPair "a,c".toList (by decide)] :=
    .cons (.inr ⟨rfl, isSensitive_password, ⟨List.cons_ne_nil _ _, trivial⟩, List.cons_ne_nil _ _, trivial⟩) .nil
  have hone : maskTextFallback (password ++ '=' :: "a,b".toList) = password ++ '=' :: (mark ++ [',', 'b']) := by rfl
  have htwo : maskTextFallback (password ++ '=' :: "a,c".toList) = password ++ '=' :: (mark ++ [',', 'c']) := by rfl
  have heq := masked_text _ _ _ _ (h _ _ hdiffer (.inl rfl) (.inl rfl)) rfl rfl
  exact absurd (hone.symm.trans (heq.trans htwo)) (by decide)

end PortaPhone.Logs
