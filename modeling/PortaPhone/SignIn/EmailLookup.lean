import Mathlib
import PortaPhone.Lib.Fallible
import PortaPhone.SignIn.Account
/-!
# The lookup of an account by its address (`portaswitch/adapter.py`)

`_has_email` (`:233`) searches a field for a pattern. `Carries` says what it finds: the address as a whole entry
between commas, or between angle brackets, with spaces around it. `emailPages`, the loop of `_find_account_by_email`
(`:708`), reads the candidates page by page; its recursion is on the rows that are left below `EMAIL_LOOKUP_MAX_ROWS`,
since a page that does not end it is full, so that it ends whatever the switch answers.
-/

namespace PortaPhone.SignIn

open Contacts (isSpace strip)

/-! ## The address in a field -/

def AllSpaces (cs : List Char) : Prop := ∀ c ∈ cs, isSpace c = true

/-- The address as it is written, with spaces around it. -/
def Written (sameChar : Char → Char → Bool) (address cs : List Char) : Prop :=
  ∃ before written after, cs = before ++ written ++ after ∧ AllSpaces before ∧ AllSpaces after ∧
    List.Forall₂ (fun a c => sameChar a c = true) address written

/-- A whole entry of the field, from its beginning or a comma up to a comma or its end. -/
def WholeEntry (sameChar : Char → Char → Bool) (address field : List Char) : Prop :=
  ∃ before entry after, field = before ++ entry ++ after ∧ (before = [] ∨ before.getLast? = some ',') ∧
    (after = [] ∨ after.head? = some ',') ∧ Written sameChar address entry

/-- The `Name <address>` form. -/
def InAngles (sameChar : Char → Char → Bool) (address field : List Char) : Prop :=
  ∃ before entry after, field = before ++ '<' :: entry ++ '>' :: after ∧ Written sameChar address entry

def Carries (sameChar : Char → Char → Bool) (address field : List Char) : Prop :=
  WholeEntry sameChar address field ∨ InAngles sameChar address field

section Pattern

variable {sameChar : Char → Char → Bool} {address : List Char}

theorem allSpaces_nil : AllSpaces [] := List.forall_mem_nil _

theorem allSpaces_cons {c : Char} {cs : List Char} : AllSpaces (c :: cs) ↔ isSpace c = true ∧ AllSpaces cs :=
  List.forall_mem_cons

theorem spacesThen_iff (rest : List Char → Bool) (cs : List Char) :
    spacesThen rest cs = true ↔ ∃ spaces after, cs = spaces ++ after ∧ AllSpaces spaces ∧ rest after = true := by
  induction cs with
  | nil =>
    constructor
    · intro h
      exact ⟨[], [], rfl, allSpaces_nil, h⟩
    · rintro ⟨spaces, after, hcs, -, h⟩
      obtain ⟨rfl, rfl⟩ := List.append_eq_nil_iff.1 hcs.symm
      exact h
  | cons c cs ih =>
    rw [spacesThen, Bool.or_eq_true, Bool.and_eq_true, ih]
    constructor
    · rintro (h | ⟨hc, spaces, after, rfl, hspaces, h⟩)
      · exact ⟨[], c :: cs, rfl, allSpaces_nil, h⟩
      · exact ⟨c :: spaces, after, rfl, allSpaces_cons.2 ⟨hc, hspaces⟩, h⟩
    · rintro ⟨spaces, after, hcs, hspaces, h⟩
      cases spaces with
      | nil =>
        left
        rwa [show c :: cs = after from hcs]
      | cons d spaces =>
        obtain ⟨rfl, rfl⟩ := List.cons.inj hcs
        obtain ⟨hd, hspaces⟩ := allSpaces_cons.1 hspaces
        exact .inr ⟨hd, spaces, after, rfl, hspaces, h⟩

theorem addressThen_iff (rest : List Char → Bool) (address cs : List Char) :
    addressThen sameChar rest address cs = true ↔
      ∃ written after, cs = written ++ after ∧ List.Forall₂ (fun a c => sameChar a c = true) address written ∧
        rest after = true := by
  induction address generalizing cs with
  | nil =>
    constructor
    · intro h
      exact ⟨[], cs, rfl, .nil, h⟩
    · rintro ⟨written, after, rfl, hsame, h⟩
      cases hsame
      exact h
  | cons a address ih =>
    cases cs with
    | nil =>
      constructor
      · intro h
        cases h
      · rintro ⟨written, after, hcs, hsame, h⟩
        obtain ⟨rfl, rfl⟩ := List.append_eq_nil_iff.1 hcs.symm
        cases hsame
    | cons c cs =>
      rw [addressThen, Bool.and_eq_true, ih]
      constructor
      · rintro ⟨hc, written, after, rfl, hsame, h⟩
        exact ⟨c :: written, after, rfl, .cons hc hsame, h⟩
      · rintro ⟨written, after, hcs, hsame, h⟩
        cases hsame with
        | cons hc hsame =>
          obtain ⟨rfl, rfl⟩ := List.cons.inj hcs
          exact ⟨hc, _, after, rfl, hsame, h⟩

/-- `\s*`, the address, `\s*` and a place where `stop` holds. -/
theorem entryAt_iff (stop : List Char → Bool) (cs : List Char) :
    entryAt sameChar address stop cs = true ↔
      ∃ entry after, cs = entry ++ after ∧ Written sameChar address entry ∧ stop after = true := by
  rw [entryAt, spacesThen_iff]
  constructor
  · rintro ⟨before, rest, rfl, hbefore, h⟩
    obtain ⟨written, rest, rfl, hsame, h⟩ := (addressThen_iff _ _ _).1 h
    obtain ⟨spaces, after, rfl, hspaces, h⟩ := (spacesThen_iff _ _).1 h
    refine ⟨before ++ written ++ spaces, after, ?_, ⟨before, written, spaces, rfl, hbefore, hspaces, hsame⟩, h⟩
    simp only [List.append_assoc]
  · rintro ⟨entry, after, rfl, ⟨before, written, spaces, rfl, hbefore, hspaces, hsame⟩, h⟩
    refine ⟨before, written ++ (spaces ++ after), ?_, hbefore, ?_⟩
    · simp only [List.append_assoc]
    · exact (addressThen_iff _ _ _).2 ⟨written, _, rfl, hsame, (spacesThen_iff _ _).2 ⟨spaces, after, rfl, hspaces, h⟩⟩

theorem entryEnd_iff (cs : List Char) : entryEnd cs = true ↔ cs = [] ∨ cs.head? = some ',' := by
  simp [entryEnd]

theorem angleEnd_iff (cs : List Char) : angleEnd cs = true ↔ ∃ after, cs = '>' :: after := by
  cases cs with
  | nil => simp [angleEnd]
  | cons c cs => simp [angleEnd]

/-- The pattern further on in the field. -/
theorem entryWithin_iff (field : List Char) :
    entryWithin sameChar address field = true ↔
      (∃ before entry after, field = before ++ ',' :: entry ++ after ∧ (after = [] ∨ after.head? = some ',') ∧
        Written sameChar address entry) ∨ InAngles sameChar address field := by
  induction field with
  | nil => simp [entryWithin, InAngles]
  | cons c cs ih =>
    simp only [entryWithin, Bool.or_eq_true, Bool.and_eq_true, decide_eq_true_eq, ih, entryAt_iff, entryEnd_iff,
      angleEnd_iff]
    constructor
    · rintro ((⟨rfl, entry, after, rfl, hentry, hafter⟩ | ⟨rfl, entry, _, rfl, hentry, after, rfl⟩) |
        ⟨before, entry, after, rfl, hafter, hentry⟩ | ⟨before, entry, after, rfl, hentry⟩)
      · exact .inl ⟨[], entry, after, rfl, hafter, hentry⟩
      · exact .inr ⟨[], entry, after, rfl, hentry⟩
      · exact .inl ⟨c :: before, entry, after, rfl, hafter, hentry⟩
      · exact .inr ⟨c :: before, entry, after, rfl, hentry⟩
    · rintro (⟨before, entry, after, hfield, hafter, hentry⟩ | ⟨before, entry, after, hfield, hentry⟩)
      · cases before with
        | nil =>
          obtain ⟨rfl, rfl⟩ := List.cons.inj hfield
          exact .inl (.inl ⟨rfl, entry, after, rfl, hentry, hafter⟩)
        | cons d before =>
          obtain ⟨rfl, rfl⟩ := List.cons.inj hfield
          exact .inr (.inl ⟨before, entry, after, rfl, hafter, hentry⟩)
      · cases before with
        | nil =>
          obtain ⟨rfl, rfl⟩ := List.cons.inj hfield
          exact .inl (.inr ⟨rfl, entry, _, rfl, hentry, after, rfl⟩)
        | cons d before =>
          obtain ⟨rfl, rfl⟩ := List.cons.inj hfield
          exact .inr (.inr ⟨before, entry, after, rfl, hentry⟩)

/-- An entry is the first one of its field, or comes after a comma. -/
theorem wholeEntry_iff (field : List Char) :
    WholeEntry sameChar address field ↔
      (∃ entry after, field = entry ++ after ∧ Written sameChar address entry ∧ (after = [] ∨ after.head? = some ',')) ∨
        ∃ before entry after, field = before ++ ',' :: entry ++ after ∧ (after = [] ∨ after.head? = some ',') ∧
          Written sameChar address entry := by
  constructor
  · rintro ⟨before, entry, after, rfl, hbefore | hbefore, hafter, hentry⟩
    · subst hbefore
      exact .inl ⟨entry, after, rfl, hentry, hafter⟩
    · obtain ⟨front, rfl⟩ := List.getLast?_eq_some_iff.1 hbefore
      refine .inr ⟨front, entry, after, ?_, hafter, hentry⟩
      simp
  · rintro (⟨entry, after, rfl, hentry, hafter⟩ | ⟨before, entry, after, rfl, hafter, hentry⟩)
    · exact ⟨[], entry, after, rfl, .inl rfl, hafter, hentry⟩
    · refine ⟨before ++ [','], entry, after, ?_, .inr ?_, hafter, hentry⟩
      · simp
      · simp

/-- `_has_email` finds the address where it is a whole entry, or between angle brackets. -/
theorem hasEmail_iff (row : EmailRow) (email : String) :
    hasEmail sameChar row email = true ↔ Carries sameChar email.toList ((row.email.get?).getD "").toList := by
  simp only [hasEmail, Bool.or_eq_true, entryAt_iff, entryEnd_iff, entryWithin_iff, Carries, wholeEntry_iff, or_assoc]

end Pattern

/-! ## The accounts that carry the address -/

/-- The accounts of the rows that carry the address, with repetitions. -/
def holders (sameChar : Char → Char → Bool) (email : String) (rows : List EmailRow) : List Int :=
  (rows.filter (hasEmail sameChar · email)).map (·.iAccount)

theorem mem_holders {sameChar : Char → Char → Bool} {email : String} {rows : List EmailRow} {i : Int} :
    i ∈ holders sameChar email rows ↔
      ∃ row ∈ rows, row.iAccount = i ∧ Carries sameChar email.toList ((row.email.get?).getD "").toList := by
  simp only [holders, List.mem_map, List.mem_filter, hasEmail_iff]
  constructor
  · rintro ⟨row, ⟨hrow, hcarries⟩, hi⟩
    exact ⟨row, hrow, hi, hcarries⟩
  · rintro ⟨row, hrow, hi, hcarries⟩
    exact ⟨row, ⟨hrow, hcarries⟩, hi⟩

theorem holders_append (sameChar : Char → Char → Bool) (email : String) (rows rows' : List EmailRow) :
    holders sameChar email (rows ++ rows') = holders sameChar email rows ++ holders sameChar email rows' := by
  rw [holders, List.filter_append, List.map_append]
  rfl

/-- What the loop has found is a set: the accounts of the rows that it has read. -/
structure Found (held found : List Int) : Prop where
  nodup : found.Nodup
  mem : ∀ i, i ∈ found ↔ i ∈ held

theorem found_nil : Found [] [] := ⟨List.nodup_nil, fun _ => Iff.rfl⟩

theorem foldl_insert {held : List Int} (ids : List Int) :
    ∀ found, Found held found → Found (held ++ ids) (ids.foldl (fun found i => found.insert i) found) := by
  induction ids generalizing held with
  | nil =>
    intro found h
    rwa [List.append_nil]
  | cons i ids ih =>
    intro found h
    have hinsert : Found (held ++ [i]) (found.insert i) := by
      refine ⟨h.nodup.insert, fun j => ?_⟩
      rw [List.mem_insert_iff, h.mem, List.mem_append, List.mem_singleton, or_comm]
    have := ih _ hinsert
    rwa [List.append_assoc] at this

theorem Found.addMatches {sameChar : Char → Char → Bool} {email : String} {rows : List EmailRow} {found : List Int}
    (h : Found (holders sameChar email rows) found) (page : List EmailRow) :
    Found (holders sameChar email (rows ++ page)) (addMatches sameChar email found page) := by
  rw [holders_append]
  exact foldl_insert _ _ h

/-- Two accounts with the address. -/
def Ambiguous (held : List Int) : Prop := ∃ i ∈ held, ∃ j ∈ held, i ≠ j

theorem Found.ambiguous_iff {held found : List Int} (h : Found held found) : 1 < found.length ↔ Ambiguous held := by
  rw [← List.toFinset_card_of_nodup h.nodup, Finset.one_lt_card]
  simp only [List.mem_toFinset, h.mem, Ambiguous]

/-! ## Pages -/

/-- The switch serves the candidates of a search as slices of one list, with their number as the total or with none. -/
def Serves (api : AdminApi) (email : String) (candidates : List EmailRow) : Prop :=
  ∀ limit offset, ∃ answer, api.findAccountsByEmail email limit offset = .ok answer ∧
    answer.accountList.rowsOrEmpty = (candidates.drop offset).take limit ∧
    (answer.total.get? = none ∨ answer.total.get? = some (candidates.length : Int))

/-- What the loop makes of accounts that carry the address. -/
inductive Resolves (held : List Int) : Except Failure (List Int) → Prop
  | found {found : List Int} (hfound : Found held found) (hone : ¬ Ambiguous held) : Resolves held (.ok found)
  | ambiguous (htwo : Ambiguous held) : Resolves held (.error (.webTrit ambiguousUserError))

theorem Ambiguous.append {held : List Int} (h : Ambiguous held) (held' : List Int) : Ambiguous (held ++ held') := by
  obtain ⟨i, hi, j, hj, hne⟩ := h
  exact ⟨i, List.mem_append_left _ hi, j, List.mem_append_left _ hj, hne⟩

section Loop

variable {api : AdminApi} {email : String} {candidates : List EmailRow}

/-- What is known before a page is read: the offset is a number of whole pages below the limit, and the accounts of
the rows before it are found. -/
structure Reading (api : AdminApi) (email : String) (candidates : List EmailRow) (found : List Int) (offset : Nat) :
    Prop where
  pages : emailLookupPage ∣ offset
  below : offset < emailLookupMaxRows
  within : offset ≤ candidates.length
  found : Found (holders api.sameChar email (candidates.take offset)) found

theorem reading_zero : Reading api email candidates [] 0 where
  pages := Dvd.intro_left 0 (Nat.zero_mul _)
  below := by decide
  within := Nat.zero_le _
  found := found_nil

theorem Reading.room {found : List Int} {offset : Nat} (h : Reading api email candidates found offset) :
    offset + emailLookupPage ≤ emailLookupMaxRows := by
  obtain ⟨k, hk⟩ := h.pages
  have hbelow := h.below
  simp only [emailLookupPage, emailLookupMaxRows] at hk hbelow ⊢
  omega

/-- The accounts found with one more page. -/
theorem Reading.page {found : List Int} {offset : Nat} (h : Reading api email candidates found offset) :
    Found (holders api.sameChar email (candidates.take (offset + emailLookupPage)))
      (addMatches api.sameChar email found ((candidates.drop offset).take emailLookupPage)) := by
  rw [List.take_add]
  exact h.found.addMatches _

/-- What is found with the next page. -/
def nextFound (api : AdminApi) (email : String) (candidates : List EmailRow) (found : List Int) (offset : Nat) :
    List Int :=
  addMatches api.sameChar email found ((candidates.drop offset).take emailLookupPage)

/-- What one page of the loop can do. -/
theorem emailPages_cases (hserves : Serves api email candidates) (found : List Int) {offset : Nat}
    (hwithin : offset ≤ candidates.length) :
    (1 < (nextFound api email candidates found offset).length ∧
      emailPages api email found offset = .error (.webTrit ambiguousUserError)) ∨
    (¬ 1 < (nextFound api email candidates found offset).length ∧ candidates.length ≤ offset + emailLookupPage ∧
      emailPages api email found offset = .ok (nextFound api email candidates found offset)) ∨
    (¬ 1 < (nextFound api email candidates found offset).length ∧ offset + emailLookupPage ≤ candidates.length ∧
      ((emailLookupMaxRows ≤ offset + emailLookupPage ∧
          emailPages api email found offset = .error (.webTrit ambiguousUserError)) ∨
        (offset + emailLookupPage < emailLookupMaxRows ∧ emailPages api email found offset =
          emailPages api email (nextFound api email candidates found offset) (offset + emailLookupPage)))) := by
  obtain ⟨answer, hanswer, hrows, htotal⟩ := hserves emailLookupPage offset
  have hlen : ((candidates.drop offset).take emailLookupPage).length =
      min emailLookupPage (candidates.length - offset) := by
    rw [List.length_take, List.length_drop]
  rw [emailPages, hanswer]
  simp only [hrows]
  by_cases htwo : 1 < (nextFound api email candidates found offset).length
  · exact .inl ⟨htwo, if_pos htwo⟩
  rw [nextFound] at htwo
  rw [if_neg htwo]
  by_cases hlast : ((candidates.drop offset).take emailLookupPage).length < emailLookupPage ∨
      answer.total.get?.any
        (· ≤ ((offset + ((candidates.drop offset).take emailLookupPage).length : Nat) : Int)) = true
  · rw [if_pos hlast]
    refine .inr (.inl ⟨htwo, ?_, rfl⟩)
    rcases hlast with hshort | hall
    · omega
    · rcases htotal with hnone | hsome
      · rw [hnone] at hall
        cases hall
      · rw [hsome, Option.any_some, decide_eq_true_eq] at hall
        omega
  · rw [if_neg hlast]
    have hfull : ((candidates.drop offset).take emailLookupPage).length = emailLookupPage := by
      have hshort := (not_or.1 hlast).1
      omega
    rw [hfull]
    refine .inr (.inr ⟨htwo, by omega, ?_⟩)
    by_cases hmax : emailLookupMaxRows ≤ offset + emailLookupPage
    · exact .inl ⟨hmax, if_pos hmax⟩
    · exact .inr ⟨Nat.not_le.1 hmax, if_neg hmax⟩

theorem Reading.next {found : List Int} {offset : Nat} (h : Reading api email candidates found offset)
    (hwithin : offset + emailLookupPage ≤ candidates.length) (hbelow : offset + emailLookupPage < emailLookupMaxRows) :
    Reading api email candidates (nextFound api email candidates found offset) (offset + emailLookupPage) where
  pages := Nat.dvd_add h.pages (Nat.dvd_refl _)
  below := hbelow
  within := hwithin
  found := h.page

/-- Two accounts among the rows that have been read are two among all. -/
theorem ambiguous_of_take {sameChar : Char → Char → Bool} {n : Nat}
    (h : Ambiguous (holders sameChar email (candidates.take n))) : Ambiguous (holders sameChar email candidates) := by
  have hall := h.append (holders sameChar email (candidates.drop n))
  rwa [← holders_append, List.take_append_drop] at hall

/-- Fewer candidates than the limit: the loop reads all of them. -/
theorem emailPages_resolves (hserves : Serves api email candidates) (hfew : candidates.length < emailLookupMaxRows)
    {found : List Int} {offset : Nat} (h : Reading api email candidates found offset) :
    Resolves (holders api.sameChar email candidates) (emailPages api email found offset) := by
  rcases emailPages_cases hserves found h.within with ⟨htwo, heq⟩ | ⟨hone, hall, heq⟩ | ⟨-, hwithin, hmore⟩
  · rw [heq]
    exact .ambiguous (ambiguous_of_take (h.page.ambiguous_iff.1 htwo))
  · have hpage := h.page
    rw [List.take_of_length_le hall] at hpage
    rw [heq]
    exact .found hpage fun hamb => hone (hpage.ambiguous_iff.2 hamb)
  · rcases hmore with ⟨hmax, -⟩ | ⟨hbelow, heq⟩
    · omega
    · rw [heq]
      exact emailPages_resolves hserves hfew (h.next hwithin hbelow)
termination_by emailLookupMaxRows - offset
decreasing_by
  simp only [emailLookupPage] at hbelow ⊢
  omega

/-- More candidates than the limit: no account is found before the loop gives up. -/
theorem emailPages_refuses (hserves : Serves api email candidates) (hmany : emailLookupMaxRows < candidates.length)
    {found : List Int} {offset : Nat} (h : Reading api email candidates found offset) :
    emailPages api email found offset = .error (.webTrit ambiguousUserError) := by
  rcases emailPages_cases hserves found h.within with ⟨-, heq⟩ | ⟨-, hall, -⟩ | ⟨-, hwithin, hmore⟩
  · exact heq
  · have hroom := h.room
    omega
  · rcases hmore with ⟨-, heq⟩ | ⟨hbelow, heq⟩
    · exact heq
    · rw [heq]
      exact emailPages_refuses hserves hmany (h.next hwithin hbelow)
termination_by emailLookupMaxRows - offset
decreasing_by
  simp only [emailLookupPage] at hbelow ⊢
  omega

end Loop

/-! ## The lookup -/

/-- A candidate row of the account carries the address. -/
def Holds (api : AdminApi) (email : String) (candidates : List EmailRow) (i : Int) : Prop :=
  ∃ row ∈ candidates, row.iAccount = i ∧ Carries api.sameChar email.toList ((row.email.get?).getD "").toList

/-- The account that `_find_account_by_email` settles on, before it reads it again. -/
def pickByEmail (api : AdminApi) (userRef : String) : Except Failure (Option Int) :=
  if !isAddress (strip userRef) then .ok none else (emailPages api (strip userRef) [] 0).map List.head?

def readPicked (api : AdminApi) : Option Int → Except Failure (Option AccountInfo)
  | none => .ok none
  | some i => api.getAccountInfo (.iAccount i)

theorem findAccountByEmail_eq (api : AdminApi) (userRef : String) :
    findAccountByEmail api userRef = pickByEmail api userRef >>= readPicked api := by
  rw [findAccountByEmail, pickByEmail]
  by_cases haddress : isAddress (strip userRef) = true
  · simp only [haddress, Bool.not_true, Bool.false_eq_true, if_false]
    cases emailPages api (strip userRef) [] 0 with
    | error e => rfl
    | ok found => cases found <;> rfl
  · simp only [Bool.eq_false_iff.2 haddress, Bool.not_false, if_true]
    rfl

section Pick

variable {held : List Int} {outcome : Except Failure (List Int)}

theorem Found.head?_eq_some {found : List Int} (h : Found held found) (hone : ¬ Ambiguous held) {i : Int} :
    found.head? = some i ↔ i ∈ held ∧ ∀ j ∈ held, j = i := by
  constructor
  · intro hhead
    have hi : i ∈ held := (h.mem i).1 (List.mem_of_mem_head? hhead)
    refine ⟨hi, fun j hj => ?_⟩
    by_contra hne
    exact hone ⟨j, hj, i, hi, hne⟩
  · rintro ⟨hi, honly⟩
    obtain ⟨j, hj⟩ := Option.isSome_iff_exists.1 (List.isSome_head?.2 (List.ne_nil_of_mem ((h.mem i).2 hi)))
    rw [hj, honly j ((h.mem j).1 (List.mem_of_mem_head? hj))]

theorem Found.head?_eq_none {found : List Int} (h : Found held found) : found.head? = none ↔ ∀ j, j ∉ held := by
  rw [List.head?_eq_none_iff, List.eq_nil_iff_forall_not_mem]
  simp only [h.mem]

theorem Resolves.picks_iff (h : Resolves held outcome) (i : Int) :
    outcome.map List.head? = .ok (some i) ↔ i ∈ held ∧ ∀ j ∈ held, j = i := by
  cases h with
  | found hfound hone =>
    rw [← hfound.head?_eq_some hone]
    simp [Except.map]
  | ambiguous htwo =>
    obtain ⟨j, hj, j', hj', hne⟩ := htwo
    constructor
    · intro h
      cases h
    · rintro ⟨-, honly⟩
      exact absurd ((honly j hj).trans (honly j' hj').symm) hne

theorem Resolves.picks_none_iff (h : Resolves held outcome) : outcome.map List.head? = .ok none ↔ ∀ j, j ∉ held := by
  cases h with
  | found hfound hone =>
    rw [← hfound.head?_eq_none]
    simp [Except.map]
  | ambiguous htwo =>
    obtain ⟨j, hj, -⟩ := htwo
    constructor
    · intro h
      cases h
    · intro hnone
      exact absurd hj (hnone j)

theorem Resolves.refuses_iff (h : Resolves held outcome) :
    outcome.map List.head? = .error (.webTrit ambiguousUserError) ↔ Ambiguous held := by
  cases h with
  | found hfound hone => simp [Except.map, hone]
  | ambiguous htwo => simp [Except.map, htwo]

end Pick

theorem holds_iff {api : AdminApi} {email : String} {candidates : List EmailRow} {i : Int} :
    Holds api email candidates i ↔ i ∈ holders api.sameChar email candidates := mem_holders.symm

/-- **The lookup by address.** Below the limit it picks an account exactly if that one alone holds the address among
all the candidates; above it, it picks none. -/
theorem find_account_by_email (api : AdminApi) (userRef : String) (candidates : List EmailRow) :
    findAccountByEmail api userRef = pickByEmail api userRef >>= readPicked api ∧
    (isAddress (strip userRef) = false → ∀ api' : AdminApi, findAccountByEmail api' userRef = .ok none) ∧
    (isAddress (strip userRef) = true → Serves api (strip userRef) candidates →
      (candidates.length < emailLookupMaxRows →
        (∀ i, pickByEmail api userRef = .ok (some i) ↔
          Holds api (strip userRef) candidates i ∧ ∀ j, Holds api (strip userRef) candidates j → j = i) ∧
        (pickByEmail api userRef = .ok none ↔ ∀ j, ¬ Holds api (strip userRef) candidates j) ∧
        (pickByEmail api userRef = .error (.webTrit ambiguousUserError) ↔
          ∃ i, Holds api (strip userRef) candidates i ∧ ∃ j, Holds api (strip userRef) candidates j ∧ i ≠ j)) ∧
      (emailLookupMaxRows < candidates.length →
        pickByEmail api userRef = .error (.webTrit ambiguousUserError))) := by
  refine ⟨findAccountByEmail_eq api userRef, fun hno api' => ?_, fun haddress hserves => ?_⟩
  · rw [findAccountByEmail_eq, pickByEmail, hno]
    rfl
  have hpick : pickByEmail api userRef = (emailPages api (strip userRef) [] 0).map List.head? := by
    rw [pickByEmail, haddress]
    rfl
  rw [hpick]
  simp only [holds_iff]
  constructor
  · intro hfew
    have h := emailPages_resolves hserves hfew reading_zero
    exact ⟨h.picks_iff, h.picks_none_iff, h.refuses_iff⟩
  · intro hmany
    rw [emailPages_refuses hserves hmany reading_zero]
    rfl

/-! ## An account among others -/

/-- A switch that serves these rows for every address, without a total. -/
def listing (rows : List EmailRow) : AdminApi where
  getAccountInfo := fun _ => .ok none
  findAccountsByEmail := fun _ limit offset => .ok { accountList := .val ((rows.drop offset).take limit) }
  fieldLimits := fun _ => .ok (none, none)
  getVersion := .ok []
  updateApiToken := fun _ _ => .ok ()
  createOtp := fun _ => .ok .absent
  envEmail := none
  currentAccessToken := none
  sameChar := fun a c => a.toLower = c.toLower

theorem serves_listing (rows : List EmailRow) (email : String) : Serves (listing rows) email rows :=
  fun _ _ => ⟨_, rfl, rfl, .inl rfl⟩

/-- The second row carries a longer address. -/
def candidateRows : List EmailRow :=
  [⟨101, .val "a@b.ua, John <JD@x.ua>"⟩, ⟨102, .val "ajd@x.ua"⟩, ⟨101, .val "jd@x.ua"⟩]

theorem pickByEmail_candidateRows : pickByEmail (listing candidateRows) " jd@x.ua" = .ok (some 101) := by
  have haddress : isAddress (strip " jd@x.ua") = true := by decide
  refine ((find_account_by_email (listing candidateRows) " jd@x.ua" candidateRows).2.2 haddress
    (serves_listing _ _)).1 (by decide) |>.1 101 |>.2 ?_
  simp only [holds_iff]
  decide

end PortaPhone.SignIn
