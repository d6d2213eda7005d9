import PortaPhone.Lib.Dict
import PortaPhone.Lib.Fallible
/-!
# Configuration values (`app_config.py`)

| here | there |
| --- | --- |
| `getCaseInsensitive`, `findUpper` | `AppConfig.get_case_insensitive` (`:28`) with its loop over the keys |
| `walk`, `varName`, `getConfVal`   | `AppConfig.get_conf_val` (`:43`) |

A configuration comes from YAML: a key may be a number, which has no `upper`. `str.upper`, which goes by Unicode tables,
is left open. `getConfVal_iff`: the value is the one that the docstring promises, unless the prefix of the environment
variables matters or the search for a key meets one that is no string.
-/

namespace PortaPhone.Config

inductive Key
  | str (s : String)
  | other (repr : String)
deriving DecidableEq, Repr

/-- A null, a text, a dictionary, or anything else: a number, a flag, a list. -/
inductive Conf (α : Type)
  | null
  | str (s : String)
  | value (a : α)
  | dict (fields : List (Key × Conf α))
deriving Repr

/-- The `AttributeError` of a key without `upper`. -/
inductive Raised
  | attributeError
deriving DecidableEq, Repr

section Lookup

variable {α : Type} (upper : String → String)

def findUpper (key : String) : List (Key × Conf α) → Except Raised (Option (Conf α))
  | [] => .ok none
  | (.other _, _) :: _ => .error .attributeError
  | (.str x, v) :: fields => if upper x = upper key then .ok (some v) else findUpper key fields

def getCaseInsensitive (fields : List (Key × Conf α)) (key : String) (default : Conf α) : Except Raised (Conf α) :=
  match Dict.find (.str key) fields with
  | some v => .ok v
  | none => do return (← findUpper upper key fields).getD default

/-- The loop over the path. -/
def walk : Conf α → List String → Except Raised (Conf α)
  | val, [] => .ok val
  | .dict fields, x :: path => do walk (← getCaseInsensitive upper fields x .null) path
  | _, _ :: _ => .ok .null

/-- The value of `APP_NAME` is read, and then left out. -/
def varName (path : List String) : String := upper ("_".intercalate path)

/-- `default if val is None else val`, with what the environment says. -/
def settle (override : Option String) (default : Conf α) (val : Conf α) : Conf α :=
  match override, val with
  | some s, _ => .str s
  | none, .null => default
  | none, val => val

def getConfVal (env : String → Option String) (config : List (Key × Conf α)) (path : List String) (default : Conf α) :
    Except Raised (Conf α) := do
  let val ← walk upper (.dict config) path
  return settle (env (varName upper path)) default val

end Lookup

/-! ## What is documented -/

section Documented

variable {α : Type} (upper : String → String)

/-- Of the entries that match in upper case the one with exactly this key, else the first one. -/
inductive Selects (fields : List (Key × Conf α)) (key : String) : Conf α → Prop
  | exact {v : Conf α} (h : Dict.find (.str key) fields = some v) : Selects fields key v
  | upper {before after : List (Key × Conf α)} {x : String} {v : Conf α} (hnone : Dict.find (.str key) fields = none)
      (hfields : fields = before ++ (.str x, v) :: after) (hx : upper x = upper key)
      (hfirst : ∀ y w, (Key.str y, w) ∈ before → upper y ≠ upper key) : Selects fields key v

/-- The path leads from the first value to the second one. -/
inductive Follows : Conf α → List String → Conf α → Prop
  | here (c : Conf α) : Follows c [] c
  | deeper {fields : List (Key × Conf α)} {key : String} {path : List String} {v w : Conf α}
      (hkey : Selects upper fields key v) (hrest : Follows v path w) : Follows (.dict fields) (key :: path) w

/-- The value of the configuration: the one that the path leads to, unless it is null, else the default. -/
inductive Configured (config : List (Key × Conf α)) (path : List String) (default : Conf α) : Conf α → Prop
  | found {v : Conf α} (h : Follows upper (.dict config) path v) (hv : v ≠ .null) : Configured config path default v
  | missing (h : ∀ v, Follows upper (.dict config) path v → v = .null) : Configured config path default default

/-- The name of the environment variable, with the prefix of the application. -/
def documentedName (env : String → Option String) (path : List String) : String :=
  match env "APP_NAME" with
  | some app => upper ("_".intercalate (app :: path))
  | none => upper ("_".intercalate path)

/-- The environment variable comes first, then the configuration, then the default. -/
inductive Documented (env : String → Option String) (config : List (Key × Conf α)) (path : List String)
    (default : Conf α) : Conf α → Prop
  | override {s : String} (h : env (documentedName upper env path) = some s) :
      Documented env config path default (.str s)
  | configured {v : Conf α} (h : env (documentedName upper env path) = none)
      (hv : Configured upper config path default v) : Documented env config path default v

/-- The search for the key ends before it meets a key that is no string. -/
def KeyReadable (fields : List (Key × Conf α)) (key : String) : Prop :=
  Dict.find (.str key) fields = none → ∀ before repr w after, fields = before ++ (Key.other repr, w) :: after →
    ∃ y v, (Key.str y, v) ∈ before ∧ upper y = upper key

/-- Every dictionary on the path can be searched. -/
def PathReadable (c : Conf α) (path : List String) : Prop :=
  ∀ start key rest fields, path = start ++ key :: rest → Follows upper c start (.dict fields) →
    KeyReadable upper fields key

/-- The variable with the prefix and the one without it make the same of the configuration: both are undefined, or both
have the same text, or the one that is defined has the text that is configured. -/
def SamePrefixed (env : String → Option String) (config : List (Key × Conf α)) (path : List String)
    (default : Conf α) : Prop :=
  ∀ app, env "APP_NAME" = some app → ∀ v, Configured upper config path default v →
    (env (upper ("_".intercalate path))).elim v .str = (env (upper ("_".intercalate (app :: path)))).elim v .str

variable {upper} {fields : List (Key × Conf α)} {key : String} {c v w : Conf α} {path : List String}

/-! ## One key -/

theorem findUpper_error_iff : findUpper upper key fields = .error .attributeError ↔
    ∃ before repr w after, fields = before ++ (Key.other repr, w) :: after ∧
      ∀ y v, (Key.str y, v) ∈ before → upper y ≠ upper key := by
  induction fields with
  | nil => simp [findUpper]
  | cons field fields ih =>
    obtain ⟨x, v⟩ := field
    cases x with
    | other repr => exact iff_of_true rfl ⟨[], repr, v, fields, rfl, by simp⟩
    | str x =>
      rw [findUpper]
      by_cases hx : upper x = upper key
      · rw [if_pos hx]
        refine iff_of_false (by simp) ?_
        rintro ⟨_ | ⟨field, before⟩, repr, w, after, heq, hall⟩
        · simp at heq
        · obtain ⟨rfl, -⟩ := List.cons.inj heq
          exact hall x v List.mem_cons_self hx
      · rw [if_neg hx, ih]
        constructor
        · rintro ⟨before, repr, w, after, rfl, hall⟩
          refine ⟨(.str x, v) :: before, repr, w, after, rfl, fun y u hy => ?_⟩
          rcases List.mem_cons.1 hy with heq | hy
          · obtain ⟨hyx, -⟩ := Prod.mk.inj heq
            rwa [Key.str.inj hyx]
          · exact hall y u hy
        · rintro ⟨_ | ⟨field, before⟩, repr, w, after, heq, hall⟩
          · simp at heq
          · obtain ⟨rfl, rfl⟩ := List.cons.inj heq
            exact ⟨before, repr, w, after, rfl, fun y u hy => hall y u (List.mem_cons_of_mem _ hy)⟩

theorem findUpper_some_iff : findUpper upper key fields = .ok (some v) ↔
    ∃ before x after, fields = before ++ (Key.str x, v) :: after ∧ upper x = upper key ∧
      (∀ y w, (Key.str y, w) ∈ before → upper y ≠ upper key) ∧ ∀ repr w, (Key.other repr, w) ∉ before := by
  induction fields with
  | nil => simp [findUpper]
  | cons field fields ih =>
    obtain ⟨x, u⟩ := field
    cases x with
    | other repr =>
      refine iff_of_false (by simp [findUpper]) ?_
      rintro ⟨_ | ⟨field, before⟩, x, after, heq, -, -, hodd⟩
      · simp at heq
      · obtain ⟨rfl, -⟩ := List.cons.inj heq
        exact hodd repr u List.mem_cons_self
    | str x =>
      rw [findUpper]
      by_cases hx : upper x = upper key
      · rw [if_pos hx]
        constructor
        · intro h
          obtain rfl := Option.some.inj (Except.ok.inj h)
          exact ⟨[], x, fields, rfl, hx, by simp, by simp⟩
        · rintro ⟨_ | ⟨field, before⟩, y, after, heq, -, hall, -⟩
          · obtain ⟨hpair, -⟩ := List.cons.inj heq
            rw [(Prod.mk.inj hpair).2]
          · obtain ⟨rfl, -⟩ := List.cons.inj heq
            exact absurd hx (hall x u List.mem_cons_self)
      · rw [if_neg hx, ih]
        constructor
        · rintro ⟨before, y, after, rfl, hy, hall, hodd⟩
          refine ⟨(.str x, u) :: before, y, after, rfl, hy, fun z w hz => ?_, fun repr w hz => ?_⟩
          · rcases List.mem_cons.1 hz with heq | hz
            · obtain ⟨hzx, -⟩ := Prod.mk.inj heq
              rwa [Key.str.inj hzx]
            · exact hall z w hz
          · rcases List.mem_cons.1 hz with heq | hz
            · cases heq
            · exact hodd repr w hz
        · rintro ⟨_ | ⟨field, before⟩, y, after, heq, hy, hall, hodd⟩
          · obtain ⟨hpair, -⟩ := List.cons.inj heq
            rw [Key.str.inj (Prod.mk.inj hpair).1] at hx
            exact absurd hy hx
          · obtain ⟨rfl, rfl⟩ := List.cons.inj heq
            exact ⟨before, y, after, rfl, hy, fun z w hz => hall z w (List.mem_cons_of_mem _ hz),
              fun repr w hz => hodd repr w (List.mem_cons_of_mem _ hz)⟩

theorem keyReadable_iff (hnone : Dict.find (.str key) fields = none) :
    KeyReadable upper fields key ↔ findUpper upper key fields ≠ .error .attributeError := by
  rw [Ne, findUpper_error_iff]
  constructor
  · rintro h ⟨before, repr, w, after, heq, hall⟩
    obtain ⟨y, v, hy, hkey⟩ := h hnone before repr w after heq
    exact hall y v hy hkey
  · intro h _ before repr w after heq
    by_contra hno
    exact h ⟨before, repr, w, after, heq, fun y v hy hkey => hno ⟨y, v, hy, hkey⟩⟩

/-- What the search finds is what the key selects. -/
theorem selects_iff (hnone : Dict.find (.str key) fields = none) (hread : KeyReadable upper fields key) :
    findUpper upper key fields = .ok (some v) ↔ Selects upper fields key v := by
  rw [findUpper_some_iff]
  constructor
  · rintro ⟨before, x, after, heq, hx, hall, -⟩
    exact .upper hnone heq hx hall
  · intro h
    cases h with
    | exact h =>
      rw [hnone] at h
      cases h
    | @upper before after x v _ heq hx hall =>
      refine ⟨before, x, after, heq, hx, hall, fun repr w hodd => ?_⟩
      obtain ⟨start, rest, rfl⟩ := List.append_of_mem hodd
      rw [List.append_assoc, List.cons_append] at heq
      obtain ⟨y, u, hy, hkey⟩ := hread hnone start repr w _ heq
      exact hall y u (List.mem_append_left _ hy) hkey

theorem getCaseInsensitive_error (hread : ¬ KeyReadable upper fields key) (default : Conf α) :
    getCaseInsensitive upper fields key default = .error .attributeError := by
  unfold getCaseInsensitive
  cases hfind : Dict.find (.str key) fields with
  | some v =>
    refine absurd (fun hnone => ?_) hread
    rw [hfind] at hnone
    cases hnone
  | none =>
    rw [keyReadable_iff hfind, Ne, not_not] at hread
    simp [hread, bind, Except.bind]

/-- A key is selected, or it is missing. -/
theorem getCaseInsensitive_cases (hread : KeyReadable upper fields key) (default : Conf α) :
    (∃ v, getCaseInsensitive upper fields key default = .ok v ∧ ∀ w, Selects upper fields key w ↔ w = v) ∨
      getCaseInsensitive upper fields key default = .ok default ∧ ∀ w, ¬ Selects upper fields key w := by
  unfold getCaseInsensitive
  cases hfind : Dict.find (.str key) fields with
  | some v =>
    refine .inl ⟨v, rfl, fun w => ⟨fun h => ?_, fun h => h ▸ .exact hfind⟩⟩
    cases h with
    | exact h => exact Option.some.inj (h.symm.trans hfind)
    | upper hnone =>
      rw [hfind] at hnone
      cases hnone
  | none =>
    have hsel := fun w => selects_iff (v := w) hfind hread
    cases hupper : findUpper upper key fields with
    | error e =>
      cases e with
      | attributeError => exact absurd hupper ((keyReadable_iff hfind).1 hread)
    | ok found =>
      simp only [hupper, Except.ok.injEq] at hsel
      cases found with
      | none => exact .inr ⟨rfl, fun w hw => by simpa using (hsel w).2 hw⟩
      | some v => exact .inl ⟨v, rfl, fun w => by rw [← hsel w, Option.some.injEq, eq_comm]⟩

/-! ## The path -/

theorem walk_null (path : List String) : walk upper (.null : Conf α) path = .ok .null := by
  cases path with
  | nil => rfl
  | cons key path => rfl

theorem walk_dict (path : List String) : walk upper (.dict fields) (key :: path) =
    (getCaseInsensitive upper fields key .null >>= fun v => walk upper v path) := rfl

theorem follows_cons : Follows upper c (key :: path) w ↔
    ∃ fields v, c = .dict fields ∧ Selects upper fields key v ∧ Follows upper v path w := by
  constructor
  · rintro (_ | ⟨hkey, hrest⟩)
    exact ⟨_, _, rfl, hkey, hrest⟩
  · rintro ⟨fields, v, rfl, hkey, hrest⟩
    exact .deeper hkey hrest

theorem pathReadable_cons : PathReadable upper (.dict fields) (key :: path) ↔
    KeyReadable upper fields key ∧ ∀ v, Selects upper fields key v → PathReadable upper v path := by
  constructor
  · intro h
    refine ⟨h [] key path fields rfl (.here _), fun v hv start other rest fields' heq hfollows => ?_⟩
    exact h (key :: start) other rest fields' (congrArg _ heq) (.deeper hv hfollows)
  · rintro ⟨hkey, hrest⟩ (_ | ⟨first, start⟩) other rest fields' heq hfollows
    · obtain ⟨rfl, rfl⟩ := List.cons.inj heq
      cases hfollows
      exact hkey
    · obtain ⟨rfl, rfl⟩ := List.cons.inj heq
      obtain ⟨fields, v, hfields, hv, hfollows⟩ := follows_cons.1 hfollows
      cases hfields
      exact hrest v hv start other rest fields' rfl hfollows

/-- The loop comes to what the path leads to, or to nothing. -/
theorem walk_ok (h : PathReadable upper c path) : ∃ v, walk upper c path = .ok v ∧
    (∀ w, Follows upper c path w → w = v) ∧ (v ≠ .null → Follows upper c path v) := by
  induction path generalizing c with
  | nil =>
    refine ⟨c, by cases c <;> rfl, fun w hw => ?_, fun _ => .here c⟩
    cases hw
    rfl
  | cons key path ih =>
    cases c with
    | dict fields =>
      obtain ⟨hkey, hrest⟩ := pathReadable_cons.1 h
      rw [walk_dict]
      rcases getCaseInsensitive_cases hkey .null with ⟨v, hget, hsel⟩ | ⟨hget, hsel⟩
      · obtain ⟨u, hwalk, hall, hfollows⟩ := ih (hrest v ((hsel v).2 rfl))
        rw [hget, Fallible.ok_bind]
        refine ⟨u, hwalk, fun w hw => ?_, fun hu => .deeper ((hsel v).2 rfl) (hfollows hu)⟩
        obtain ⟨_, v', hfields, hv', hw⟩ := follows_cons.1 hw
        cases hfields
        rw [(hsel v').1 hv'] at hw
        exact hall w hw
      · rw [hget, Fallible.ok_bind, walk_null]
        refine ⟨.null, rfl, fun w hw => ?_, fun hne => absurd rfl hne⟩
        obtain ⟨_, v, hfields, hv, -⟩ := follows_cons.1 hw
        cases hfields
        exact absurd hv (hsel v)
    | _ =>
      refine ⟨.null, rfl, fun w hw => ?_, fun hne => absurd rfl hne⟩
      obtain ⟨_, _, hfields, -, -⟩ := follows_cons.1 hw
      cases hfields

theorem walk_error (h : ¬ PathReadable upper c path) : walk upper c path = .error .attributeError := by
  induction path generalizing c with
  | nil =>
    refine absurd (fun start key rest _ heq _ => ?_) h
    simp at heq
  | cons key path ih =>
    cases c with
    | dict fields =>
      rw [walk_dict]
      by_cases hkey : KeyReadable upper fields key
      · rcases getCaseInsensitive_cases hkey .null with ⟨v, hget, hsel⟩ | ⟨hget, hsel⟩
        · rw [hget, Fallible.ok_bind]
          apply ih
          intro hv
          refine h (pathReadable_cons.2 ⟨hkey, fun w hw => ?_⟩)
          rwa [(hsel w).1 hw]
        · exact absurd (pathReadable_cons.2 ⟨hkey, fun v hv => absurd hv (hsel v)⟩) h
      · rw [getCaseInsensitive_error hkey]
        rfl
    | _ =>
      refine absurd (fun start other rest fields heq hfollows => ?_) h
      cases start with
      | nil => cases hfollows
      | cons first start =>
        obtain ⟨_, _, hfields, -, -⟩ := follows_cons.1 hfollows
        cases hfields

/-! ## The value -/

variable {env : String → Option String} {config : List (Key × Conf α)} {default : Conf α}

/-- There is one configured value. -/
theorem configured_iff (h : PathReadable upper (.dict config) path) (default : Conf α) :
    ∃ val, walk upper (.dict config) path = .ok val ∧
      ∀ v, Configured upper config path default v ↔ v = settle none default val := by
  obtain ⟨val, hwalk, hall, hfollows⟩ := walk_ok h
  refine ⟨val, hwalk, fun v => ?_⟩
  by_cases hval : val = .null
  · subst hval
    constructor
    · rintro (⟨hv, hne⟩ | _)
      · exact absurd (hall v hv) hne
      · rfl
    · rintro rfl
      exact .missing hall
  · have hsettle : settle none default val = val := by
      cases val with
      | null => exact absurd rfl hval
      | _ => rfl
    rw [hsettle]
    constructor
    · rintro (⟨hv, hne⟩ | hnone)
      · exact hall v hv
      · exact absurd (hnone val (hfollows hval)) hval
    · rintro rfl
      exact .found (hfollows hval) hval

theorem settle_eq (override : Option String) (default val : Conf α) :
    settle override default val = override.elim (settle none default val) .str := by
  cases override with
  | none => rfl
  | some s => rfl

theorem documented_iff {u : Conf α} (hu : ∀ v, Configured upper config path default v ↔ v = u) :
    Documented upper env config path default v ↔ v = (env (documentedName upper env path)).elim u .str := by
  constructor
  · rintro (h | ⟨h, hv⟩)
    · rw [h]
      rfl
    · rw [h]
      exact (hu v).1 hv
  · intro h
    cases hname : env (documentedName upper env path) with
    | none =>
      rw [hname] at h
      exact .configured hname ((hu v).2 h)
    | some s =>
      rw [hname] at h
      subst h
      exact .override hname

/-- **Exactly when a value is the documented one.** -/
theorem getConfVal_iff (upper : String → String) (env : String → Option String) (config : List (Key × Conf α))
    (path : List String) (default : Conf α) :
    (∃ v, getConfVal upper env config path default = .ok v ∧ Documented upper env config path default v) ↔
      PathReadable upper (.dict config) path ∧ SamePrefixed upper env config path default := by
  by_cases hread : PathReadable upper (.dict config) path
  · obtain ⟨val, hwalk, hconf⟩ := configured_iff hread default
    have hval : getConfVal upper env config path default =
        .ok ((env (upper ("_".intercalate path))).elim (settle none default val) .str) := by
      rw [getConfVal, hwalk, Fallible.ok_bind, settle_eq]
      rfl
    simp only [hval, documented_iff hconf, Except.ok.injEq, exists_eq_left', hread, true_and]
    unfold documentedName SamePrefixed
    cases happ : env "APP_NAME" with
    | none => simp
    | some app => simp [hconf]
  · have hval : getConfVal upper env config path default = .error .attributeError := by
      rw [getConfVal, walk_error hread]
      rfl
    simp [hval, hread]

end Documented

/-! ## An application with a name -/

/-- `str.upper` on ASCII. -/
def asciiUpper (s : String) : String := String.ofList (s.toList.map Char.toUpper)

def namedApp : String → Option String
  | "APP_NAME" => some "abc"
  | "ABC_SERVER_IP" => some "10.0.0.1"
  | _ => none

/-- The variable with the prefix is not read. -/
theorem prefix_ignored : ¬ ∀ (env : String → Option String) (config : List (Key × Conf Unit)) (path : List String)
    (default : Conf Unit), ∃ v, getConfVal asciiUpper env config path default = .ok v ∧
      Documented asciiUpper env config path default v := by
  intro h
  obtain ⟨v, hget, hdoc⟩ := h namedApp [] ["Server", "IP"] (.str "127.0.0.1")
  have hname : namedApp (documentedName asciiUpper namedApp ["Server", "IP"]) = some "10.0.0.1" := by decide
  have hplain : namedApp (varName asciiUpper ["Server", "IP"]) = none := by decide
  have hval : getConfVal asciiUpper namedApp ([] : List (Key × Conf Unit)) ["Server", "IP"] (.str "127.0.0.1") =
      .ok (.str "127.0.0.1") := by
    rw [getConfVal, hplain]
    rfl
  obtain rfl := Except.ok.inj (hval.symm.trans hget)
  rcases hdoc with hover | ⟨hnone, -⟩
  · rw [hname] at hover
    simp at hover
  · rw [hname] at hnone
    cases hnone

end PortaPhone.Config
