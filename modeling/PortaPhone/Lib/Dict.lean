import Mathlib.Data.List.Nodup
/-!
# Dictionaries that keep the order of insertion

A key occurs once. Setting a key that is there keeps its place, a new key goes to the end: the order in
which Python iterates over a `dict`.
-/

/-- Keys in `κ`, values in `α`. -/
structure Dict (κ : Type _) (α : Type _) where
  entries : List (κ × α)
  nodup : (entries.map Prod.fst).Nodup

namespace Dict

variable {κ : Type _} {α : Type _}

def empty : Dict κ α := ⟨[], List.nodup_nil⟩

def keys (d : Dict κ α) : List κ := d.entries.map Prod.fst

def values (d : Dict κ α) : List α := d.entries.map Prod.snd

def size (d : Dict κ α) : Nat := d.entries.length

variable [DecidableEq κ]

/-- `get?` on the entries. -/
def find (k : κ) : List (κ × α) → Option α
  | [] => none
  | (j, v) :: es => if j = k then some v else find k es

def get? (d : Dict κ α) (k : κ) : Option α := find k d.entries

/-- `set` on the entries. -/
def setEntries (k : κ) (v : α) : List (κ × α) → List (κ × α)
  | [] => [(k, v)]
  | (j, w) :: es => if j = k then (j, v) :: es else (j, w) :: setEntries k v es

theorem setEntries_keys (k : κ) (v : α) (es : List (κ × α)) :
    (setEntries k v es).map Prod.fst =
      if k ∈ es.map Prod.fst then es.map Prod.fst else es.map Prod.fst ++ [k] := by
  induction es with
  | nil => simp [setEntries]
  | cons e es ih =>
    obtain ⟨j, w⟩ := e
    by_cases hj : j = k
    · simp [setEntries, hj]
    · have hk : ¬ k = j := fun h => hj h.symm
      simp only [setEntries, if_neg hj, List.map_cons, ih, List.mem_cons, hk, false_or]
      split <;> simp

def set (d : Dict κ α) (k : κ) (v : α) : Dict κ α where
  entries := setEntries k v d.entries
  nodup := by
    rw [setEntries_keys]
    split
    · exact d.nodup
    · rename_i hk
      exact d.nodup.append (List.nodup_singleton k) (by simpa using hk)

def erase (d : Dict κ α) (k : κ) : Dict κ α where
  entries := d.entries.filter (·.1 ≠ k)
  nodup := d.nodup.sublist (List.Sublist.map _ List.filter_sublist)

/-- `update`: the pairs are set one after another. -/
def update (d : Dict κ α) (es : List (κ × α)) : Dict κ α := es.foldl (fun d e => d.set e.1 e.2) d

@[simp] theorem get?_empty (k : κ) : (empty : Dict κ α).get? k = none := rfl

theorem find_setEntries (k j : κ) (v : α) (es : List (κ × α)) :
    find j (setEntries k v es) = if j = k then some v else find j es := by
  induction es with
  | nil => simp [setEntries, find, eq_comm]
  | cons e es ih =>
    obtain ⟨i, w⟩ := e
    by_cases hi : i = k
    · by_cases hj : j = k
      · simp [setEntries, find, hi, hj]
      · simp [setEntries, find, hi, hj, Ne.symm hj]
    · by_cases hij : i = j
      · have : ¬ j = k := fun h => hi (hij.trans h)
        simp [setEntries, find, hij, this]
      · simp [setEntries, find, hi, hij, ih]

theorem get?_set (d : Dict κ α) (k j : κ) (v : α) :
    (d.set k v).get? j = if j = k then some v else d.get? j := find_setEntries k j v d.entries

@[simp] theorem get?_set_self (d : Dict κ α) (k : κ) (v : α) : (d.set k v).get? k = some v := by
  simp [get?_set]

theorem get?_set_other (d : Dict κ α) {k j : κ} (v : α) (h : j ≠ k) : (d.set k v).get? j = d.get? j := by
  simp [get?_set, h]

theorem find_filter_ne (k j : κ) (es : List (κ × α)) :
    find j (es.filter (·.1 ≠ k)) = if j = k then none else find j es := by
  induction es with
  | nil => simp [find]
  | cons e es ih =>
    obtain ⟨i, w⟩ := e
    by_cases hi : i = k
    · rw [List.filter_cons_of_neg (by simp [hi]), ih]
      by_cases hj : j = k
      · simp [hj]
      · simp [find, hi, hj, Ne.symm hj]
    · rw [List.filter_cons_of_pos (by simp [hi]), find, find, ih]
      by_cases hij : i = j
      · have : ¬ j = k := fun h => hi (hij.trans h)
        simp [hij, this]
      · simp [hij]

theorem get?_erase (d : Dict κ α) (k j : κ) : (d.erase k).get? j = if j = k then none else d.get? j :=
  find_filter_ne k j d.entries

theorem mem_entries (d : Dict κ α) {k : κ} {v : α} : (k, v) ∈ d.entries ↔ d.get? k = some v := by
  obtain ⟨es, hes⟩ := d
  show (k, v) ∈ es ↔ find k es = some v
  induction es with
  | nil => simp [find]
  | cons e es ih =>
    obtain ⟨i, w⟩ := e
    obtain ⟨hi, hes⟩ := List.nodup_cons.1 hes
    by_cases hk : i = k
    · have hmem : (k, v) ∉ es := fun h => hi (List.mem_map.2 ⟨_, h, hk.symm⟩)
      simp [find, hk, hmem, eq_comm]
    · simp [find, hk, Ne.symm hk, ih hes]

theorem mem_values (d : Dict κ α) {v : α} : v ∈ d.values ↔ ∃ k, d.get? k = some v := by
  simp [values, ← mem_entries]

theorem mem_keys (d : Dict κ α) {k : κ} : k ∈ d.keys ↔ ∃ v, d.get? k = some v := by
  simp [keys, ← mem_entries]

/-- A new key goes to the end. -/
theorem setEntries_new {k : κ} {v : α} {es : List (κ × α)} (h : ∀ e ∈ es, e.1 ≠ k) :
    setEntries k v es = es ++ [(k, v)] := by
  induction es with
  | nil => rfl
  | cons e es ih =>
    obtain ⟨j, w⟩ := e
    have hj : j ≠ k := h (j, w) List.mem_cons_self
    rw [setEntries, if_neg hj, ih fun e he => h e (List.mem_cons_of_mem _ he)]
    rfl

theorem size_set_new {d : Dict κ α} {k : κ} (h : d.get? k = none) (v : α) : (d.set k v).size = d.size + 1 := by
  have hnew : ∀ e ∈ d.entries, e.1 ≠ k := by
    rintro ⟨j, w⟩ he rfl
    rw [(d.mem_entries).1 he] at h
    cases h
  show (setEntries k v d.entries).length = d.entries.length + 1
  rw [setEntries_new hnew, List.length_append, List.length_singleton]

/-- New keys go to the end in their order. -/
theorem update_new {es : List (κ × α)} {d : Dict κ α} (hes : (es.map Prod.fst).Nodup)
    (hd : ∀ e ∈ es, e.1 ∉ d.keys) : (d.update es).entries = d.entries ++ es := by
  induction es generalizing d with
  | nil => simp [update]
  | cons e es ih =>
    obtain ⟨he, hes⟩ := List.nodup_cons.1 hes
    have hset : (d.set e.1 e.2).entries = d.entries ++ [e] :=
      setEntries_new fun x hx heq => hd e List.mem_cons_self (List.mem_map.2 ⟨x, hx, heq⟩)
    show ((d.set e.1 e.2).update es).entries = _
    rw [ih hes, hset, List.append_assoc]
    · rfl
    · intro x hx hmem
      rw [keys, hset, List.map_append, List.mem_append] at hmem
      rcases hmem with hmem | hmem
      · exact hd x (List.mem_cons_of_mem _ hx) hmem
      · have hxe : x.1 = e.1 := by simpa using hmem
        exact he (hxe ▸ List.mem_map_of_mem hx)

theorem setEntries_append {k : κ} {v : α} {es rest : List (κ × α)} (h : k ∉ es.map Prod.fst) :
    setEntries k v (es ++ rest) = es ++ setEntries k v rest := by
  induction es with
  | nil => rfl
  | cons e es ih =>
    obtain ⟨j, w⟩ := e
    simp only [List.map_cons, List.mem_cons, not_or] at h
    rw [List.cons_append, setEntries, if_neg (Ne.symm h.1), ih h.2]
    rfl

/-- New keys go behind the old entries. -/
theorem update_prefix {es : List (κ × α)} {d : Dict κ α} (h : ∀ e ∈ es, e.1 ∉ d.keys) :
    ∃ rest, (d.update es).entries = d.entries ++ rest := by
  suffices hrun : ∀ (d' : Dict κ α) (rest : List (κ × α)), d'.entries = d.entries ++ rest →
      ∃ rest', (d'.update es).entries = d.entries ++ rest' from hrun d [] (List.append_nil _).symm
  induction es with
  | nil => exact fun d' rest hd' => ⟨rest, hd'⟩
  | cons e es ih =>
    intro d' rest hd'
    refine ih (fun x hx => h x (List.mem_cons_of_mem _ hx)) (d'.set e.1 e.2) (setEntries e.1 e.2 rest) ?_
    show setEntries e.1 e.2 d'.entries = _
    rw [hd', setEntries_append (h e List.mem_cons_self)]

/-- A key that is in none of the pairs. -/
theorem get?_update_other {es : List (κ × α)} {d : Dict κ α} {k : κ} (h : k ∉ es.map Prod.fst) :
    (d.update es).get? k = d.get? k := by
  induction es generalizing d with
  | nil => rfl
  | cons e es ih =>
    simp only [List.map_cons, List.mem_cons, not_or] at h
    show ((d.set e.1 e.2).update es).get? k = d.get? k
    rw [ih h.2, get?_set_other d e.2 h.1]

/-- A key that the pairs give one value only. -/
theorem get?_update_mem {es : List (κ × α)} {d : Dict κ α} {k : κ} {v : α} (hv : ∀ e ∈ es, e.1 = k → e.2 = v)
    (h : (k, v) ∈ es) : (d.update es).get? k = some v := by
  induction es generalizing d with
  | nil => simp at h
  | cons e es ih =>
    show ((d.set e.1 e.2).update es).get? k = some v
    by_cases hk : k ∈ es.map Prod.fst
    · obtain ⟨e', he', rfl⟩ := List.mem_map.1 hk
      refine ih (fun x hx => hv x (List.mem_cons_of_mem _ hx)) ?_
      rw [← hv e' (List.mem_cons_of_mem _ he') rfl]
      exact he'
    · rcases List.mem_cons.1 h with rfl | h
      · rw [get?_update_other hk, get?_set_self]
      · exact absurd (List.mem_map_of_mem h) hk

/-! ## Predicates on all entries -/

/-- Every entry satisfies `P`. -/
def All (P : κ → α → Prop) (d : Dict κ α) : Prop := ∀ k v, d.get? k = some v → P k v

variable {P : κ → α → Prop}

theorem All.empty : All P (empty : Dict κ α) := by simp [All]

theorem All.set {d : Dict κ α} (hd : All P d) {k : κ} {v : α} (hv : P k v) : All P (d.set k v) := by
  intro j w hw
  rw [get?_set] at hw
  split at hw
  · obtain rfl := Option.some.inj hw
    rename_i hj
    exact hj ▸ hv
  · exact hd j w hw

theorem All.erase {d : Dict κ α} (hd : All P d) (k : κ) : All P (d.erase k) := by
  intro j w hw
  rw [get?_erase] at hw
  split at hw
  · cases hw
  · exact hd j w hw

theorem All.update {es : List (κ × α)} {d : Dict κ α} (hd : All P d) (hes : ∀ e ∈ es, P e.1 e.2) :
    All P (d.update es) := by
  induction es generalizing d with
  | nil => exact hd
  | cons e es ih =>
    exact ih (hd.set (hes e List.mem_cons_self)) fun e he => hes e (List.mem_cons_of_mem _ he)

theorem All.mem_values {d : Dict κ α} (hd : All P d) {v : α} (hv : v ∈ d.values) : ∃ k, P k v := by
  obtain ⟨k, hk⟩ := d.mem_values.1 hv
  exact ⟨k, hd k v hk⟩

/-- The keys after an update: the old ones and those of the pairs. -/
theorem mem_keys_update {es : List (κ × α)} {d : Dict κ α} {k : κ} :
    k ∈ (d.update es).keys ↔ k ∈ d.keys ∨ k ∈ es.map Prod.fst := by
  induction es generalizing d with
  | nil => simp [update]
  | cons e es ih =>
    have hset : k ∈ (d.set e.1 e.2).keys ↔ k ∈ d.keys ∨ k = e.1 := by
      simp only [mem_keys, get?_set]
      by_cases hk : k = e.1 <;> simp [hk]
    show k ∈ ((d.set e.1 e.2).update es).keys ↔ _
    rw [ih, hset, List.map_cons, List.mem_cons, or_assoc]

/-! ## Dictionaries that agree on some keys -/

/-- The dictionaries have the same entries under the keys of `p`. -/
def AgreeOn (p : κ → Prop) (d e : Dict κ α) : Prop := ∀ k, p k → d.get? k = e.get? k

variable {p : κ → Prop} {d e : Dict κ α}

theorem AgreeOn.refl (p : κ → Prop) (d : Dict κ α) : AgreeOn p d d := fun _ _ => rfl

theorem AgreeOn.symm (h : AgreeOn p d e) : AgreeOn p e d := fun k hk => (h k hk).symm

theorem AgreeOn.trans {f : Dict κ α} (h : AgreeOn p d e) (h' : AgreeOn p e f) : AgreeOn p d f :=
  fun k hk => (h k hk).trans (h' k hk)

theorem AgreeOn.set (h : AgreeOn p d e) (k : κ) (v : α) : AgreeOn p (d.set k v) (e.set k v) := by
  intro j hj
  rw [get?_set, get?_set, h j hj]

/-- A key outside `p` makes no difference. -/
theorem agreeOn_set (p : κ → Prop) (d : Dict κ α) {k : κ} (hk : ¬ p k) (v : α) : AgreeOn p d (d.set k v) := by
  intro j hj
  have hjk : j ≠ k := by
    rintro rfl
    exact hk hj
  rw [get?_set_other d v hjk]

theorem AgreeOn.mem_keys (h : AgreeOn p d e) {k : κ} (hk : p k) : k ∈ d.keys ↔ k ∈ e.keys := by
  rw [Dict.mem_keys, Dict.mem_keys, h k hk]

/-- Pairs under keys outside `p` make no difference. -/
theorem agreeOn_update {es : List (κ × α)} (h : ∀ x ∈ es, ¬ p x.1) : AgreeOn p (d.update es) d := by
  intro k hk
  refine get?_update_other fun hmem => ?_
  obtain ⟨x, hx, rfl⟩ := List.mem_map.1 hmem
  exact h x hx hk

/-! ## Some of the keys -/

/-- The fields that have a value. -/
def ofFields (fs : List (κ × Option α)) : Dict κ α := empty.update (fs.filterMap fun f => f.2.map (f.1, ·))

theorem get?_ofFields {fs : List (κ × Option α)} {k : κ} {v : Option α} (hmem : (k, v) ∈ fs)
    (hone : ∀ f ∈ fs, f.1 = k → f.2 = v) : (ofFields fs).get? k = v := by
  have hpair : ∀ x ∈ fs.filterMap (fun f => f.2.map (f.1, ·)), x.1 = k → some x.2 = v := by
    intro x hx hxk
    obtain ⟨f, hf, hfx⟩ := List.mem_filterMap.1 hx
    obtain ⟨w, hw, rfl⟩ := Option.map_eq_some_iff.1 hfx
    rw [← hone f hf hxk, hw]
  cases v with
  | none =>
    refine get?_update_other fun hkey => ?_
    obtain ⟨x, hx, hxk⟩ := List.mem_map.1 hkey
    cases hpair x hx hxk
  | some v =>
    exact get?_update_mem (fun x hx hxk => Option.some.inj (hpair x hx hxk))
      (List.mem_filterMap.2 ⟨(k, some v), hmem, rfl⟩)

/-- `{k: d[k] for k in ks if k in d}`. -/
def restrict (d : Dict κ α) (ks : List κ) : Dict κ α := ofFields (ks.map fun k => (k, d.get? k))

theorem get?_restrict {ks : List κ} {k : κ} (hk : k ∈ ks) : (d.restrict ks).get? k = d.get? k := by
  refine get?_ofFields (List.mem_map.2 ⟨k, hk, rfl⟩) fun f hf hfk => ?_
  obtain ⟨j, -, rfl⟩ := List.mem_map.1 hf
  exact congrArg d.get? hfk

theorem agreeOn_restrict (d : Dict κ α) (ks : List κ) : AgreeOn (· ∈ ks) (d.restrict ks) d :=
  fun _ hk => get?_restrict hk

/-- Only what is under the keys counts. -/
theorem AgreeOn.restrict {ks : List κ} (h : AgreeOn (· ∈ ks) d e) : d.restrict ks = e.restrict ks := by
  have hfields : ks.map (fun k => (k, d.get? k)) = ks.map fun k => (k, e.get? k) :=
    List.map_congr_left fun k hk => by rw [h k hk]
  rw [Dict.restrict, Dict.restrict, hfields]

/-- The fields of a dictionary, restricted to their keys. -/
theorem restrict_ofFields {fs : List (κ × Option α)} (h : (fs.map Prod.fst).Nodup) :
    (ofFields fs).restrict (fs.map Prod.fst) = ofFields fs := by
  have hfields : (fs.map Prod.fst).map (fun k => (k, (ofFields fs).get? k)) = fs := by
    rw [List.map_map]
    refine (List.map_congr_left fun f hf => ?_).trans (List.map_id fs)
    have hget : (ofFields fs).get? f.1 = f.2 :=
      get?_ofFields hf fun g hg hkey => congrArg Prod.snd (List.inj_on_of_nodup_map h hg hf hkey)
    exact Prod.ext rfl hget
  rw [restrict, hfields]

/-- Further fields. -/
theorem ofFields_append (fs gs : List (κ × Option α)) :
    ofFields (fs ++ gs) = (ofFields fs).update (gs.filterMap fun f => f.2.map (f.1, ·)) := by
  rw [ofFields, List.filterMap_append, update, List.foldl_append]
  rfl

/-! ## Updates in another order -/

section Reorder

variable {es fs : List (κ × α)} {k j : κ} {v w : α}

omit [DecidableEq κ] in
theorem eq_of_entries (h : d.entries = e.entries) : d = e := by
  obtain ⟨es, hes⟩ := d
  obtain ⟨fs, hfs⟩ := e
  obtain rfl : es = fs := h
  rfl

theorem update_append (d : Dict κ α) (es fs : List (κ × α)) : d.update (es ++ fs) = (d.update es).update fs :=
  List.foldl_append

theorem setEntries_known {es : List (κ × α)} (h : find k es = some v) : setEntries k v es = es := by
  induction es with
  | nil => cases h
  | cons e es ih =>
    obtain ⟨i, w⟩ := e
    by_cases hi : i = k
    · rw [find, if_pos hi] at h
      obtain rfl := Option.some.inj h
      rw [setEntries, if_pos hi]
    · rw [find, if_neg hi] at h
      rw [setEntries, if_neg hi, ih h]

/-- What is there already changes nothing. -/
theorem update_known (h : ∀ x ∈ es, d.get? x.1 = some x.2) : d.update es = d := by
  induction es with
  | nil => rfl
  | cons x es ih =>
    have hx : d.set x.1 x.2 = d := eq_of_entries (setEntries_known (h x List.mem_cons_self))
    show (d.set x.1 x.2).update es = d
    rw [hx]
    exact ih fun y hy => h y (List.mem_cons_of_mem _ hy)

theorem update_initial (h : e.entries <+: d.entries) : d.update e.entries = d :=
  update_known fun x hx => (d.mem_entries (v := x.2)).1 (h.subset hx)

theorem update_longer (h : d.entries <+: e.entries) : d.update e.entries = e := by
  obtain ⟨rest, hrest⟩ := h
  have hnodup := e.nodup
  rw [← hrest, List.map_append, List.nodup_append] at hnodup
  obtain ⟨-, hrestNodup, hdisjoint⟩ := hnodup
  refine eq_of_entries ?_
  rw [← hrest, update_append, update_initial (List.prefix_refl _), update_new hrestNodup]
  intro x hx hmem
  exact hdisjoint _ hmem _ (List.mem_map_of_mem hx) rfl

/-- Of two dictionaries one begins with the other. -/
def Nested (d e : Dict κ α) : Prop := d.entries <+: e.entries ∨ e.entries <+: d.entries

omit [DecidableEq κ] in
theorem nested_empty (e : Dict κ α) : Nested empty e := .inl (List.nil_prefix)

/-- Dictionaries that begin with one another are updated to the longest of them. -/
theorem update_nested {ds : List (Dict κ α)} (h : ∀ x ∈ d :: ds, ∀ y ∈ d :: ds, Nested x y) :
    d.update (ds.flatMap entries) ∈ d :: ds ∧ ∀ x ∈ d :: ds, x.entries <+: (d.update (ds.flatMap entries)).entries := by
  induction ds generalizing d with
  | nil => exact ⟨List.mem_cons_self, fun x hx => by rw [List.mem_singleton.1 hx]; exact List.prefix_refl _⟩
  | cons b ds ih =>
    rw [List.flatMap_cons, update_append]
    rcases h d List.mem_cons_self b (List.mem_cons_of_mem _ List.mem_cons_self) with hshort | hlong
    · rw [update_longer hshort]
      obtain ⟨hmem, htop⟩ := ih fun x hx y hy => h x (List.mem_cons_of_mem _ hx) y (List.mem_cons_of_mem _ hy)
      refine ⟨List.mem_cons_of_mem _ hmem, fun x hx => ?_⟩
      rcases List.mem_cons.1 hx with rfl | hx
      · exact hshort.trans (htop b List.mem_cons_self)
      · exact htop x hx
    · rw [update_initial hlong]
      have hsub : ∀ x ∈ d :: ds, x ∈ d :: b :: ds := fun x hx => by
        rcases List.mem_cons.1 hx with rfl | hx
        · exact List.mem_cons_self
        · exact List.mem_cons_of_mem _ (List.mem_cons_of_mem _ hx)
      obtain ⟨hmem, htop⟩ := ih fun x hx y hy => h x (hsub x hx) y (hsub y hy)
      refine ⟨hsub _ hmem, fun x hx => ?_⟩
      rcases List.mem_cons.1 hx with rfl | hx
      · exact htop _ List.mem_cons_self
      · rcases List.mem_cons.1 hx with rfl | hx
        · exact hlong.trans (htop d List.mem_cons_self)
        · exact htop x (List.mem_cons_of_mem _ hx)

/-- Their order makes no difference. -/
theorem update_nested_perm {ds fs : List (Dict κ α)} (hp : ds.Perm fs) (h : ∀ x ∈ ds, ∀ y ∈ ds, Nested x y) :
    empty.update (ds.flatMap entries) = empty.update (fs.flatMap entries) := by
  have hall : ∀ {gs : List (Dict κ α)}, (∀ x ∈ gs, x ∈ ds) → ∀ x ∈ empty :: gs, ∀ y ∈ empty :: gs, Nested x y := by
    intro gs hgs x hx y hy
    rcases List.mem_cons.1 hx with rfl | hx
    · exact nested_empty y
    · rcases List.mem_cons.1 hy with rfl | hy
      · exact (nested_empty x).symm
      · exact h x (hgs x hx) y (hgs y hy)
  obtain ⟨hmem, htop⟩ := update_nested (hall fun x hx => hx)
  obtain ⟨hmem', htop'⟩ := update_nested (hall fun x hx => hp.mem_iff.2 hx)
  have hle := htop' _ ((hp.cons empty).mem_iff.1 hmem)
  have hge := htop _ ((hp.cons empty).mem_iff.2 hmem')
  exact eq_of_entries (hle.eq_of_length (Nat.le_antisymm hle.length_le hge.length_le))

/-- Keys that are there keep their place. -/
theorem keys_prefix_update (d : Dict κ α) (es : List (κ × α)) : d.keys <+: (d.update es).keys := by
  induction es generalizing d with
  | nil => exact List.prefix_refl _
  | cons x es ih =>
    refine List.IsPrefix.trans ?_ (ih (d.set x.1 x.2))
    show d.keys <+: (setEntries x.1 x.2 d.entries).map Prod.fst
    rw [setEntries_keys]
    split
    · exact List.prefix_refl _
    · exact List.prefix_append _ _

theorem setEntries_comm {es : List (κ × α)} (hne : k ≠ j) (hk : k ∈ es.map Prod.fst) :
    setEntries j w (setEntries k v es) = setEntries k v (setEntries j w es) := by
  induction es with
  | nil => cases hk
  | cons x es ih =>
    obtain ⟨i, u⟩ := x
    by_cases hi : i = k
    · subst hi
      simp [setEntries, hne]
    · have hk' : k ∈ es.map Prod.fst := by
        rcases List.mem_cons.1 hk with rfl | hk
        · exact absurd rfl hi
        · exact hk
      by_cases hj : i = j
      · subst hj
        simp [setEntries, hi]
      · simp [setEntries, hi, hj, ih hk']

/-- Pairs of which two at a time agree, and of which no two bring a key of their own, may be set in any order. -/
theorem update_perm (hp : es.Perm fs) (h : ∀ x ∈ es, ∀ y ∈ es,
    (x.1 = y.1 → x = y) ∧ (x.1 ∈ d.keys ∨ y.1 ∈ d.keys ∨ x.1 = y.1)) : d.update es = d.update fs := by
  induction hp generalizing d with
  | nil => rfl
  | cons x _ ih =>
    apply ih
    intro y hy z hz
    obtain ⟨hsame, hknown⟩ := h y (List.mem_cons_of_mem _ hy) z (List.mem_cons_of_mem _ hz)
    have hkeys := (keys_prefix_update d [x]).subset
    exact ⟨hsame, hknown.imp (fun hk => hkeys hk) (Or.imp_left fun hk => hkeys hk)⟩
  | swap x y l =>
    obtain ⟨hsame, hknown⟩ := h x (List.mem_cons_of_mem _ List.mem_cons_self) y List.mem_cons_self
    show ((d.set y.1 y.2).set x.1 x.2).update l = ((d.set x.1 x.2).set y.1 y.2).update l
    by_cases hk : x.1 = y.1
    · rw [hsame hk]
    · congr 1
      refine eq_of_entries ?_
      rcases hknown with hx | hy | heq
      · exact (setEntries_comm hk hx).symm
      · exact setEntries_comm (Ne.symm hk) hy
      · exact absurd heq hk
  | trans hp _ ih₁ ih₂ =>
    exact (ih₁ h).trans (ih₂ fun x hx y hy => h x (hp.mem_iff.2 hx) y (hp.mem_iff.2 hy))

end Reorder

end Dict
