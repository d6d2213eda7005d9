import PortaPhone.Lib.Machine
import PortaPhone.Contacts.Directory
/-!
# The row budget of the accounts cache (`adapter.py:3356`)

Every read of the switch, by a request or by a background refresh, ends in `storeAccounts`. `budget_iff`: after
each of them the cache is within `cacheMaxRows` (or over it by the new entry alone), exactly when no empty entry
stands in the way of the eviction, which goes by age and stops at the first one it meets.
-/

namespace PortaPhone.Contacts

open Machine

abbrev CustomerEntry := Int × CacheEntry

def rows (e : CustomerEntry) : Nat := e.2.accounts.length

def rowsOf (es : List CustomerEntry) : Nat := (es.map rows).sum

def others (iCustomer : Int) (cache : AccountsCache) : List CustomerEntry := cache.entries.filter (·.1 ≠ iCustomer)

/-! ## The entry just stored and the others -/

theorem filter_key_ne {before after : List CustomerEntry} {m : CustomerEntry}
    (h : ((before ++ m :: after).map Prod.fst).Nodup) :
    (before ++ m :: after).filter (·.1 ≠ m.1) = before ++ after := by
  rw [List.map_append, List.map_cons, List.nodup_append] at h
  obtain ⟨_, hafter, hdisjoint⟩ := h
  have hbefore : ∀ e ∈ before, e.1 ≠ m.1 := fun e he =>
    hdisjoint e.1 (List.mem_map_of_mem he) m.1 List.mem_cons_self
  have hkeep : ∀ e ∈ after, e.1 ≠ m.1 := by
    intro e he heq
    exact (List.nodup_cons.1 hafter).1 (List.mem_map.2 ⟨e, he, heq⟩)
  rw [List.filter_append, List.filter_cons_of_neg (by simp),
    List.filter_eq_self.2 fun e he => decide_eq_true (hbefore e he),
    List.filter_eq_self.2 fun e he => decide_eq_true (hkeep e he)]

theorem entries_split {cache : AccountsCache} {c : Int} {entry : CacheEntry} (h : cache.get? c = some entry) :
    ∃ before after, cache.entries = before ++ (c, entry) :: after ∧ others c cache = before ++ after := by
  obtain ⟨before, after, hsplit⟩ := List.append_of_mem (cache.mem_entries.2 h)
  have hnodup := cache.nodup
  rw [hsplit] at hnodup
  refine ⟨before, after, hsplit, ?_⟩
  rw [others, hsplit]
  exact filter_key_ne hnodup

theorem size_eq {cache : AccountsCache} {c : Int} {entry : CacheEntry} (h : cache.get? c = some entry) :
    cache.size = (others c cache).length + 1 := by
  obtain ⟨before, after, hentries, hothers⟩ := entries_split h
  rw [Dict.size, hentries, hothers, List.length_append, List.length_append, List.length_cons]
  omega

theorem cachedRows_eq {cache : AccountsCache} {c : Int} {entry : CacheEntry} (h : cache.get? c = some entry) :
    cachedRows cache = entry.accounts.length + rowsOf (others c cache) := by
  obtain ⟨before, after, hentries, hothers⟩ := entries_split h
  have hvalues : cachedRows cache = rowsOf cache.entries := by
    simp only [cachedRows, rowsOf, Dict.values, List.map_map]
    rfl
  rw [hvalues, hentries, hothers]
  simp only [rowsOf, List.map_append, List.map_cons, List.sum_append, List.sum_cons, rows]
  omega

theorem others_erase (c k : Int) (cache : AccountsCache) :
    others c (cache.erase k) = (others c cache).filter (·.1 ≠ k) := by
  simp only [others, Dict.erase, List.filter_filter]
  exact List.filter_congr fun e _ => Bool.and_comm _ _

theorem others_set (c : Int) (entry : CacheEntry) (cache : AccountsCache) :
    others c (cache.set c entry) = others c cache := by
  have main : ∀ es : List CustomerEntry, (Dict.setEntries c entry es).filter (·.1 ≠ c) = es.filter (·.1 ≠ c) := by
    intro es
    induction es with
    | nil => simp [Dict.setEntries]
    | cons e es ih =>
      obtain ⟨k, v⟩ := e
      by_cases hk : k = c
      · simp [Dict.setEntries, hk]
      · simp only [Dict.setEntries, if_neg hk, List.filter_cons, ih]
  exact main cache.entries

/-! ## The order of eviction -/

/-- The entries `before` and `after` an entry in the dictionary that go after it: an entry that was stored
at the same time goes in the order of the dictionary. -/
def younger (storedAt : Time) (before after : List CustomerEntry) : List CustomerEntry :=
  before.filter (fun e => storedAt < e.2.storedAt) ++ after.filter (fun e => storedAt ≤ e.2.storedAt)

/-- `oldestOther` is the entry before which no other one goes. -/
theorem foldl_older (done es : List CustomerEntry) (before after : List CustomerEntry) (e : CustomerEntry)
    (hdone : done = before ++ e :: after) (hbefore : ∀ x ∈ before, e.2.storedAt < x.2.storedAt)
    (hafter : ∀ x ∈ after, e.2.storedAt ≤ x.2.storedAt) :
    ∃ before' after', done ++ es = before' ++ es.foldl older e :: after' ∧
      (∀ x ∈ before', (es.foldl older e).2.storedAt < x.2.storedAt) ∧
        ∀ x ∈ after', (es.foldl older e).2.storedAt ≤ x.2.storedAt := by
  induction es generalizing done before after e with
  | nil => exact ⟨before, after, by simpa using hdone, hbefore, hafter⟩
  | cons x es ih =>
    subst hdone
    by_cases hx : x.2.storedAt < e.2.storedAt
    · have holder : older e x = x := if_pos hx
      have hall : ∀ y ∈ before ++ e :: after, x.2.storedAt < y.2.storedAt := by
        intro y hy
        rcases List.mem_append.1 hy with hy | hy
        · have := hbefore y hy
          simp only [Time] at *
          omega
        · rcases List.mem_cons.1 hy with rfl | hy
          · exact hx
          · have := hafter y hy
            simp only [Time] at *
            omega
      simpa [holder] using ih (before ++ e :: after ++ [x]) (before ++ e :: after) [] x rfl hall (by simp)
    · have holder : older e x = e := if_neg hx
      have hall : ∀ y ∈ after ++ [x], e.2.storedAt ≤ y.2.storedAt := by
        intro y hy
        rcases List.mem_append.1 hy with hy | hy
        · exact hafter y hy
        · obtain rfl := List.mem_singleton.1 hy
          simp only [Time] at *
          omega
      simpa [holder] using ih (before ++ e :: after ++ [x]) before (after ++ [x]) e (by simp) hbefore hall

/-- With `n` rows just stored: an entry without rows among the others is the last one of the eviction, or the
cache is within the budget when it is reached. -/
def EmptyEntriesLate (n : Nat) (es : List CustomerEntry) : Prop :=
  ∀ before e after, es = before ++ e :: after → rows e = 0 →
    (∀ x ∈ younger e.2.storedAt before after, rows x = 0) ∨
      n + rowsOf (younger e.2.storedAt before after) ≤ cacheMaxRows

theorem younger_sublist (storedAt : Time) (before after : List CustomerEntry) :
    (younger storedAt before after).Sublist (before ++ after) :=
  List.Sublist.append List.filter_sublist List.filter_sublist

theorem rowsOf_le {es fs : List CustomerEntry} (h : es.Sublist fs) : rowsOf es ≤ rowsOf fs := by
  induction h with
  | slnil => exact Nat.le_refl _
  | cons e _ ih =>
    simp only [rowsOf, List.map_cons, List.sum_cons] at *
    omega
  | cons_cons e _ ih =>
    simp only [rowsOf, List.map_cons, List.sum_cons] at *
    omega

theorem rowsOf_eq_zero {es : List CustomerEntry} : rowsOf es = 0 ↔ ∀ e ∈ es, rows e = 0 := by
  rw [rowsOf, List.sum_eq_zero_iff]
  exact List.forall_mem_map

/-- An element of two lists in a row is in one of them. -/
theorem append_eq_split {before after p q : List CustomerEntry} {e : CustomerEntry} :
    before ++ after = p ++ e :: q ↔
      (∃ r, before = p ++ e :: r ∧ q = r ++ after) ∨ ∃ r, p = before ++ r ∧ after = r ++ e :: q := by
  constructor
  · intro h
    rcases List.append_eq_append_iff.1 h with ⟨r, hp, hafter⟩ | ⟨r, hbefore, hq⟩
    · exact .inr ⟨r, hp, hafter⟩
    · cases r with
      | nil => exact .inr ⟨[], by simpa using hbefore.symm, by simpa using hq.symm⟩
      | cons x r =>
        obtain ⟨rfl, rfl⟩ := List.cons.inj hq
        exact .inl ⟨r, hbefore, rfl⟩
  · rintro (⟨r, rfl, rfl⟩ | ⟨r, rfl, rfl⟩) <;> simp

/-- The entry that goes first does not matter to the others, as long as it has rows. -/
theorem emptyEntriesLate_first {n : Nat} {before after : List CustomerEntry} {m : CustomerEntry}
    (hbefore : ∀ x ∈ before, m.2.storedAt < x.2.storedAt) (hafter : ∀ x ∈ after, m.2.storedAt ≤ x.2.storedAt)
    (hm : rows m ≠ 0) : EmptyEntriesLate n (before ++ m :: after) ↔ EmptyEntriesLate n (before ++ after) := by
  -- An entry before `m` was stored later, and one behind it not earlier: `m` is younger than neither.
  have hskip : ∀ x ∈ before, ∀ p q : List CustomerEntry,
      younger x.2.storedAt p (q ++ m :: after) = younger x.2.storedAt p (q ++ after) := by
    intro x hx p q
    have hlt := hbefore x hx
    have hnot : ¬ x.2.storedAt ≤ m.2.storedAt := by
      simp only [Time] at *
      omega
    simp [younger, List.filter_append, hnot]
  have hskip' : ∀ x ∈ after, ∀ p q : List CustomerEntry,
      younger x.2.storedAt (before ++ m :: p) q = younger x.2.storedAt (before ++ p) q := by
    intro x hx p q
    have hle := hafter x hx
    have hnot : ¬ x.2.storedAt < m.2.storedAt := by
      simp only [Time] at *
      omega
    simp [younger, List.filter_append, hnot]
  constructor
  · intro h p e q hsplit he
    rcases append_eq_split.1 hsplit with ⟨r, rfl, rfl⟩ | ⟨r, rfl, rfl⟩
    · have := h p e (r ++ m :: after) (by simp) he
      rwa [hskip e (by simp)] at this
    · have := h (before ++ m :: r) e q (by simp) he
      rwa [hskip' e (by simp)] at this
  · intro h p e q hsplit he
    rcases append_eq_split.1 hsplit with ⟨r, rfl, rfl⟩ | ⟨r, rfl, hr⟩
    · rw [hskip e (by simp)]
      exact h p e (r ++ after) (by simp) he
    · cases r with
      | nil =>
        obtain ⟨rfl, rfl⟩ := List.cons.inj hr
        exact absurd he hm
      | cons m' r =>
        obtain ⟨rfl, rfl⟩ := List.cons.inj hr
        rw [hskip' e (by simp)]
        exact h (before ++ r) e q (by simp) he

/-! ## The loop -/

/-- Within the budget, or over it by `n` rows alone. -/
def Within (n : Nat) (es : List CustomerEntry) : Prop :=
  n + rowsOf es ≤ cacheMaxRows ∨ (cacheMaxRows < n ∧ ∀ e ∈ es, rows e = 0)

/-- Where the loop stops. -/
theorem within_iff_of_empty {n : Nat} {before after : List CustomerEntry} {m : CustomerEntry}
    (hbefore : ∀ x ∈ before, m.2.storedAt < x.2.storedAt) (hafter : ∀ x ∈ after, m.2.storedAt ≤ x.2.storedAt)
    (hm : rows m = 0) (hover : cacheMaxRows < n + rowsOf (before ++ m :: after)) :
    Within n (before ++ m :: after) ↔ EmptyEntriesLate n (before ++ m :: after) := by
  have hyounger : younger m.2.storedAt before after = before ++ after := by
    rw [younger, List.filter_eq_self.2 fun x hx => decide_eq_true (hbefore x hx),
      List.filter_eq_self.2 fun x hx => decide_eq_true (hafter x hx)]
  have hrows : rowsOf (before ++ m :: after) = rowsOf (before ++ after) := by
    simp [rowsOf, hm]
  constructor
  · rintro (hle | ⟨_, hempty⟩) p e q hsplit he
    · omega
    · refine .inl fun x hx => hempty x ?_
      rw [hsplit]
      exact ((younger_sublist _ p q).trans ((List.sublist_cons_self e q).append_left p)).subset hx
  · intro h
    rcases h before m after rfl hm with hempty | hle
    · rw [hyounger] at hempty
      have hzero : rowsOf (before ++ after) = 0 := rowsOf_eq_zero.2 hempty
      exact .inr ⟨by omega, rowsOf_eq_zero.1 (hrows.trans hzero)⟩
    · rw [hyounger] at hle
      omega

theorem within_nil (n : Nat) : Within n [] ↔ EmptyEntriesLate n [] := by
  constructor
  · rintro - p e q hsplit
    simp at hsplit
  · intro _
    rcases Nat.lt_or_ge cacheMaxRows n with hn | hn
    · exact .inr ⟨hn, by simp⟩
    · exact .inl hn

theorem within_of_le {n : Nat} {es : List CustomerEntry} (h : n + rowsOf es ≤ cacheMaxRows) :
    Within n es ↔ EmptyEntriesLate n es := by
  refine ⟨fun _ p e q hsplit _ => .inr ?_, fun _ => .inl h⟩
  have hsub : (younger e.2.storedAt p q).Sublist es := by
    rw [hsplit]
    exact (younger_sublist _ p q).trans ((List.sublist_cons_self e q).append_left p)
  have := rowsOf_le hsub
  omega

theorem oldestOther_eq (c : Int) (cache : AccountsCache) :
    (others c cache = [] ∧ oldestOther c cache = none) ∨
      ∃ before m after, others c cache = before ++ m :: after ∧ oldestOther c cache = some m ∧
        (∀ x ∈ before, m.2.storedAt < x.2.storedAt) ∧ ∀ x ∈ after, m.2.storedAt ≤ x.2.storedAt := by
  have hdef : oldestOther c cache = match others c cache with
    | [] => none
    | e :: es => some (es.foldl older e) := rfl
  cases hos : others c cache with
  | nil => exact .inl ⟨rfl, by rw [hdef, hos]⟩
  | cons e es =>
    obtain ⟨before, after, hsplit, hbefore, hafter⟩ := foldl_older [e] es [] [] e rfl (by simp) (by simp)
    exact .inr ⟨before, _, after, hsplit, by rw [hdef, hos], hbefore, hafter⟩

theorem evictLoop_spec {c : Int} {entry : CacheEntry} (fuel total : Nat) (cache : AccountsCache)
    (hget : cache.get? c = some entry) (htotal : total = entry.accounts.length + rowsOf (others c cache))
    (hfuel : (others c cache).length ≤ fuel) :
    (evictLoop c fuel total cache).get? c = some entry ∧
      (Within entry.accounts.length (others c (evictLoop c fuel total cache)) ↔
        EmptyEntriesLate entry.accounts.length (others c cache)) := by
  induction fuel generalizing total cache with
  | zero =>
    rw [evictLoop, List.eq_nil_of_length_eq_zero (Nat.le_zero.1 hfuel)]
    exact ⟨hget, within_nil _⟩
  | succ fuel ih =>
    rw [evictLoop]
    split
    · rename_i hstop
      refine ⟨hget, ?_⟩
      rcases Bool.or_eq_true_iff.1 hstop with hle | hsize
      · exact within_of_le (htotal ▸ of_decide_eq_true hle)
      · have hlen := of_decide_eq_true hsize
        rw [size_eq hget] at hlen
        rw [List.eq_nil_of_length_eq_zero (by omega : (others c cache).length = 0)]
        exact within_nil _
    · rename_i hgo
      simp only [Bool.or_eq_true, decide_eq_true_eq, not_or, Nat.not_le] at hgo
      rcases oldestOther_eq c cache with ⟨hnil, holdest⟩ | ⟨before, m, after, hothers, holdest, hbefore, hafter⟩
      · rw [holdest]
        refine ⟨hget, ?_⟩
        dsimp only
        rw [hnil]
        exact within_nil _
      · obtain ⟨k, oldest⟩ := m
        rw [holdest]
        dsimp only
        split
        · rename_i hempty
          refine ⟨hget, ?_⟩
          rw [hothers] at htotal ⊢
          exact within_iff_of_empty hbefore hafter hempty (htotal ▸ hgo.1)
        · rename_i hrows
          have hmem : (k, oldest) ∈ others c cache := by simp [hothers]
          have hk : c ≠ k := fun h => of_decide_eq_true (List.mem_filter.1 hmem).2 h.symm
          have hnodup : ((others c cache).map Prod.fst).Nodup :=
            cache.nodup.sublist (List.Sublist.map _ List.filter_sublist)
          have hrest : others c (cache.erase k) = before ++ after := by
            rw [others_erase, hothers]
            exact filter_key_ne (m := (k, oldest)) (hothers ▸ hnodup)
          rw [hothers, emptyEntriesLate_first hbefore hafter hrows, ← hrest]
          refine ih _ _ ?_ ?_ ?_
          · rw [Dict.get?_erase, if_neg hk, hget]
          · rw [htotal, hothers, hrest]
            simp only [rowsOf, List.map_append, List.map_cons, List.sum_append, List.sum_cons, rows]
            omega
          · rw [hothers] at hfuel
            rw [hrest]
            simp only [List.length_append, List.length_cons] at hfuel ⊢
            omega

theorem evictOverLimit_spec {c : Int} {entry : CacheEntry} {cache : AccountsCache} (hget : cache.get? c = some entry) :
    (evictOverLimit c cache).get? c = some entry ∧
      (Within entry.accounts.length (others c (evictOverLimit c cache)) ↔
        EmptyEntriesLate entry.accounts.length (others c cache)) := by
  refine evictLoop_spec _ _ cache hget (cachedRows_eq hget) ?_
  rw [size_eq hget]
  exact Nat.le_succ _

/-- A cache within the budget is left as it is. -/
theorem evictOverLimit_fits {c : Int} {cache : AccountsCache} (h : cachedRows cache ≤ cacheMaxRows) :
    evictOverLimit c cache = cache := by
  rw [evictOverLimit]
  cases cache.size with
  | zero => rfl
  | succ fuel => simp [evictLoop, h]

/-! ## Runs -/

/-- The end of a read of the switch, by a request or by a background refresh. -/
structure Store where
  now : Time
  iCustomer : Int
  accounts : List Account
deriving DecidableEq, Repr

def storeStep (cache : AccountsCache) (e : Store) : Option AccountsCache :=
  some (storeAccounts e.now e.iCustomer e.accounts cache)

/-- After a store the new entry is there, and the rows are within the budget unless it is over it by
itself and every other entry is empty. -/
def WithinBudget (e : Store) (cache : AccountsCache) : Prop :=
  cache.get? e.iCustomer = some { storedAt := e.now, accounts := e.accounts } ∧
    (cachedRows cache ≤ cacheMaxRows ∨ (cacheMaxRows < e.accounts.length ∧
      ∀ c entry, cache.get? c = some entry → c ≠ e.iCustomer → entry.accounts = []))

theorem mem_others {c k : Int} {entry : CacheEntry} {cache : AccountsCache} :
    (k, entry) ∈ others c cache ↔ cache.get? k = some entry ∧ k ≠ c := by
  rw [others, List.mem_filter, cache.mem_entries, decide_eq_true_eq]

theorem withinBudget_iff {e : Store} {cache : AccountsCache}
    (hget : cache.get? e.iCustomer = some { storedAt := e.now, accounts := e.accounts }) :
    WithinBudget e cache ↔ Within e.accounts.length (others e.iCustomer cache) := by
  have hempty : (∀ c entry, cache.get? c = some entry → c ≠ e.iCustomer → entry.accounts = []) ↔
      ∀ x ∈ others e.iCustomer cache, rows x = 0 := by
    constructor
    · intro h x hx
      obtain ⟨hx, hne⟩ := mem_others.1 hx
      exact List.length_eq_zero_iff.2 (h x.1 x.2 hx hne)
    · intro h c entry hentry hne
      exact List.length_eq_zero_iff.1 (h (c, entry) (mem_others.2 ⟨hentry, hne⟩))
  rw [WithinBudget, Within, cachedRows_eq hget, hempty]
  exact and_iff_right hget

/-- The new entry is kept by every store. -/
theorem storeAccounts_get (now : Time) (c : Int) (accounts : List Account) (cache : AccountsCache) :
    (storeAccounts now c accounts cache).get? c = some { storedAt := now, accounts } :=
  (evictOverLimit_spec (cache.get?_set_self c { storedAt := now, accounts })).1

theorem storeAccounts_within (e : Store) (cache : AccountsCache) :
    WithinBudget e (storeAccounts e.now e.iCustomer e.accounts cache) ↔
      EmptyEntriesLate e.accounts.length (others e.iCustomer cache) := by
  have hspec := (evictOverLimit_spec
    (cache.get?_set_self e.iCustomer { storedAt := e.now, accounts := e.accounts })).2
  rw [others_set] at hspec
  rw [withinBudget_iff (storeAccounts_get _ _ _ _)]
  exact hspec

/-- **The budget**, for every run of stores from any cache. -/
theorem budget_iff (cache : AccountsCache) (stores : List Store) :
    Along storeStep (fun _ e cache' => WithinBudget e cache') cache stores ↔
      Along storeStep (fun cache e _ =>
        EmptyEntriesLate e.accounts.length (others e.iCustomer cache)) cache stores := by
  apply along_congr
  intro cache e cache' hstep
  obtain rfl := Option.some.inj hstep
  exact storeAccounts_within e cache

/-- An empty list, then two of 60000 accounts: the empty one is the oldest, and nothing is dropped. -/
theorem budget_exceeded : ¬ ∀ stores : List Store,
    Along storeStep (fun _ e cache' => WithinBudget e cache') Dict.empty stores := by
  intro h
  obtain ⟨many, hmany⟩ : ∃ many : List Account, many.length = 60000 :=
    ⟨List.replicate 60000 { iAccount := 1 }, List.length_replicate⟩
  have hfirst : storeStep Dict.empty ⟨0, 1, []⟩ = some ((Dict.empty : AccountsCache).set 1 ⟨0, []⟩) :=
    congrArg some (evictOverLimit_fits (by decide))
  have hsecond : storeStep ((Dict.empty : AccountsCache).set 1 ⟨0, []⟩) ⟨1, 2, many⟩ =
      some (((Dict.empty : AccountsCache).set 1 ⟨0, []⟩).set 2 ⟨1, many⟩) := by
    refine congrArg some (evictOverLimit_fits ?_)
    simp [cachedRows, Dict.values, Dict.set, Dict.setEntries, Dict.empty, hmany, cacheMaxRows]
  have hrun := h [⟨0, 1, []⟩, ⟨1, 2, many⟩, ⟨2, 3, many⟩]
  have hthird := ((hrun _ hfirst).2 _ hsecond).2 _ rfl
  have hlate := (storeAccounts_within ⟨2, 3, many⟩ _).1 hthird.1
  have hothers : others 3 (((Dict.empty : AccountsCache).set 1 ⟨0, []⟩).set 2 ⟨1, many⟩) =
      [(1, ⟨0, []⟩), (2, ⟨1, many⟩)] := by
    simp [others, Dict.set, Dict.setEntries, Dict.empty]
  rcases hlate [] (1, ⟨0, []⟩) [(2, ⟨1, many⟩)] hothers rfl with hzero | hle
  · have := hzero (2, ⟨1, many⟩) (by simp [younger])
    simp [rows, hmany] at this
  · simp [younger, rowsOf, rows, hmany, cacheMaxRows] at hle

end PortaPhone.Contacts
