import Mathlib.Tactic.ByContra
import PortaPhone.Sessions.Management
/-!
# Concurrent refreshes of one refresh token

Each store operation of `refresh_session` (`session_management.py:37`) is a step of its own: `get`, the
two writes of `store_session` (`sessions.py:123`) and the two `pop`s of `delete_session` (`:144`), in
this order. `refreshStep` interleaves any number of calls with one refresh token;
`refreshes_in_order` says that calls one after another do what `refreshSession` does.

The entry is read first and removed last. `refresh_single_use_iff`: the token is used once in exactly
the runs in which no call reads the entry while another one has it.
-/

namespace PortaPhone.Sessions

open Machine

/-- Where a call is, by the store operation it makes next. -/
inductive RefreshPc
  | reading
  | settingAccess (old new : SessionInfo)
  | settingRefresh (old new : SessionInfo)
  | poppingRefresh (old new : SessionInfo)
  | poppingAccess (old new : SessionInfo)
  | expiringRefresh (old : SessionInfo)
  | expiringAccess (old : SessionInfo)
  | returned (new : SessionInfo)
  | rejected (e : WebTritError)
deriving DecidableEq, Repr

structure Refreshes where
  store : Storage
  pc : Nat → RefreshPc := fun _ => .reading

namespace Refreshes

def setPc (s : Refreshes) (i : Nat) (pc : RefreshPc) (store : Storage) : Refreshes where
  store := store
  pc := fun j => if j = i then pc else s.pc j

theorem setPc_store (s : Refreshes) (i : Nat) (pc : RefreshPc) (store : Storage) :
    (s.setPc i pc store).store = store := rfl

@[simp] theorem setPc_self (s : Refreshes) (i : Nat) (pc : RefreshPc) (store : Storage) :
    (s.setPc i pc store).pc i = pc := by
  simp [setPc]

theorem setPc_other (s : Refreshes) {i j : Nat} (pc : RefreshPc) (store : Storage) (h : j ≠ i) :
    (s.setPc i pc store).pc j = s.pc j := by
  simp [setPc, h]

theorem setPc_setPc (s : Refreshes) (i : Nat) (pc pc' : RefreshPc) (store store' : Storage) :
    (s.setPc i pc store).setPc i pc' store' = s.setPc i pc' store' := by
  simp only [setPc, mk.injEq, true_and]
  funext j
  by_cases h : j = i <;> simp [h]

/-- The lookup of call `i`, up to the next store operation: the new session is created, not stored. -/
def read (cfg : Config) (ids : IdSource) (r : String) (s : Refreshes) (i : Nat) (now : Time) : Refreshes :=
  match getSession s.store.db "" (some r) with
  | none => s.setPc i (.rejected (refreshTokenInvalid r)) s.store
  | some old =>
    if old.stillActive cfg then
      let new := createSession cfg now (ids.id s.store.next) (ids.id (s.store.next + 1)) old.userId
      s.setPc i (.settingAccess old new) { s.store with next := s.store.next + 2 }
    else s.setPc i (.expiringRefresh old) s.store

end Refreshes

/-- The next store operation of call `i`, at time `now`. -/
def refreshStep (cfg : Config) (ids : IdSource) (r : String) (s : Refreshes) (e : Nat × Time) : Option Refreshes :=
  let db := s.store.db
  match s.pc e.1 with
  | .reading => some (s.read cfg ids r e.1 e.2)
  | .settingAccess old new =>
    some (s.setPc e.1 (.settingRefresh old new) { s.store with db := db.set new.accessToken new })
  | .settingRefresh old new => some (s.setPc e.1 (.poppingRefresh old new)
      { s.store with db := db.set (refreshTokenIndex new.refreshToken) (refreshEntry cfg e.2 new) })
  | .poppingRefresh old new =>
    some (s.setPc e.1 (.poppingAccess old new) { s.store with db := deleteRefresh db (some r) })
  | .poppingAccess old new => some (s.setPc e.1 (.returned new) { s.store with db := db.erase old.accessToken })
  | .expiringRefresh old => some (s.setPc e.1 (.expiringAccess old) { s.store with db := deleteRefresh db (some r) })
  | .expiringAccess old =>
    some (s.setPc e.1 (.rejected (refreshTokenExpired r)) { s.store with db := db.erase old.accessToken })
  | .returned _ | .rejected _ => none

/-! ## One call alone -/

/-- The outcome of `refresh_session`, as the call ends with it. -/
def RefreshPc.Ends (pc : RefreshPc) : Outcome → Prop
  | .session new => pc = .returned new
  | .error e => pc = .rejected e
  | .closed _ => False

/-- A call left alone does what `refreshSession` does, and nothing to the others. -/
theorem refreshes_alone (cfg : Config) (ids : IdSource) (r : String) (s : Refreshes) (i : Nat) (now : Time)
    (hi : s.pc i = .reading) :
    ∃ n t, exec (refreshStep cfg ids r) s (List.replicate n (i, now)) = some t ∧
      t.store = (refreshSession cfg ids s.store r now).2 ∧
      (t.pc i).Ends (refreshSession cfg ids s.store r now).1 ∧ ∀ j, j ≠ i → t.pc j = s.pc j := by
  unfold refreshSession
  cases hget : getSession s.store.db "" (some r) with
  | none =>
    refine ⟨1, s.setPc i (.rejected (refreshTokenInvalid r)) s.store, ?_, rfl, s.setPc_self i _ _,
      fun j hj => s.setPc_other _ _ hj⟩
    simp [exec, refreshStep, hi, Refreshes.read, hget]
  | some old =>
    cases hactive : old.stillActive cfg with
    | true =>
      let new := createSession cfg now (ids.id s.store.next) (ids.id (s.store.next + 1)) old.userId
      let db := (deleteSession (storeSession cfg now s.store.db new) old.accessToken (some r)).1
      refine ⟨5, s.setPc i (.returned new) ⟨db, s.store.next + 2⟩, ?_, ?_, ?_, fun j hj => s.setPc_other _ _ hj⟩
      · simp [exec, refreshStep, hi, Refreshes.read, hget, hactive, List.replicate, new, db,
          storeSession, deleteSession,
          Refreshes.setPc_store, Refreshes.setPc_setPc]
      · simp [hactive, new, db, Refreshes.setPc_store]
      · simp [hactive, RefreshPc.Ends, new]
    | false =>
      let db := (deleteSession s.store.db old.accessToken (some r)).1
      refine ⟨3, s.setPc i (.rejected (refreshTokenExpired r)) { s.store with db := db }, ?_, ?_, ?_,
        fun j hj => s.setPc_other _ _ hj⟩
      · simp [exec, refreshStep, hi, Refreshes.read, hget, hactive, List.replicate, db, deleteSession,
          Refreshes.setPc_store, Refreshes.setPc_setPc]
      · simp [hactive, db, Refreshes.setPc_store]
      · simp [hactive, RefreshPc.Ends]

/-! ## Readers -/

namespace RefreshPc

/-- The session the call has created, once it has read an active entry. -/
def new? : RefreshPc → Option SessionInfo
  | .settingAccess _ new | .settingRefresh _ new | .poppingRefresh _ new | .poppingAccess _ new | .returned new =>
    some new
  | _ => none

/-- The call has read an active entry and not removed it. -/
def holding : RefreshPc → Bool
  | .settingAccess _ _ | .settingRefresh _ _ | .poppingRefresh _ _ => true
  | _ => false

/-- The call has removed the entry and created a session. -/
def popped : RefreshPc → Bool
  | .poppingAccess _ _ | .returned _ => true
  | _ => false

def expiring : RefreshPc → Bool
  | .expiringRefresh _ | .expiringAccess _ => true
  | _ => false

/-- The call has not begun or is over. -/
def ended : RefreshPc → Bool
  | .reading | .returned _ | .rejected _ => true
  | _ => false

theorem new?_isSome (pc : RefreshPc) : pc.new?.isSome = (pc.holding || pc.popped) := by
  cases pc <;> rfl

end RefreshPc

/-- A call reads the entry while another one holds it. -/
def SecondRead (s : Refreshes) (e : Nat × Time) : Prop :=
  s.pc e.1 = .reading ∧ ∃ j, (s.pc j).holding = true

/-- No two calls have created a session. -/
def OneReader (s : Refreshes) : Prop :=
  ∀ i j, (s.pc i).new?.isSome = true → (s.pc j).new?.isSome = true → i = j

/-- **Single use**: one call returns a session, and nothing else is added to the store. -/
def SingleUse (s₀ : Storage) (s : Refreshes) : Prop :=
  (∀ i j new new', s.pc i = .returned new → s.pc j = .returned new' → i = j) ∧
  ∀ key, s.store.db.get key ≠ none → s₀.db.get key ≠ none ∨
    ∃ i new, s.pc i = .returned new ∧ (key = new.accessToken ∨ key = refreshTokenIndex new.refreshToken)

/-! ## What holds in every run -/

/-- Calls with the refresh token `ids.id m`, which has the entry `entry` in the store they start with. -/
structure Refreshing (cfg : Config) (ids : IdSource) (m : Nat) (entry : Option SessionInfo) (s₀ : Storage)
    (s : Refreshes) : Prop where
  next : m < s.store.next
  tokens : ∀ i new, (s.pc i).new? = some new →
    (∃ n, new.accessToken = ids.id n) ∧ ∃ n, m < n ∧ new.refreshToken = ids.id n
  reading : ∀ i, (s.pc i).new?.isSome = true → entry.any (·.stillActive cfg) = true
  expiring : ∀ i, (s.pc i).expiring = true → entry.any (·.stillActive cfg) = false
  fixed : s.store.db.get (refreshTokenIndex (ids.id m)) = entry ∨
    s.store.db.get (refreshTokenIndex (ids.id m)) = none
  popped : ∀ k, (s.pc k).popped = true → s.store.db.get (refreshTokenIndex (ids.id m)) = none
  present : entry.any (·.stillActive cfg) = true → (∀ k, (s.pc k).popped = false) →
    s.store.db.get (refreshTokenIndex (ids.id m)) = entry
  added : ∀ key, s.store.db.get key ≠ none → s₀.db.get key ≠ none ∨
    ∃ i new, (s.pc i).new? = some new ∧ (key = new.accessToken ∨ key = refreshTokenIndex new.refreshToken)

/-- What one step does to its own call and to the store. -/
structure Moved (cfg : Config) (ids : IdSource) (m : Nat) (entry : Option SessionInfo) (s : Refreshes) (i : Nat)
    (pc : RefreshPc) (store : Storage) : Prop where
  next : s.store.next ≤ store.next
  keeps : ∀ new, (s.pc i).new? = some new → pc.new? = some new
  keepsPopped : (s.pc i).popped = true → pc.popped = true
  tokens : ∀ new, pc.new? = some new → (∃ n, new.accessToken = ids.id n) ∧ ∃ n, m < n ∧ new.refreshToken = ids.id n
  reading : pc.new?.isSome = true → entry.any (·.stillActive cfg) = true
  expiring : pc.expiring = true → entry.any (·.stillActive cfg) = false
  same : store.db.get (refreshTokenIndex (ids.id m)) = s.store.db.get (refreshTokenIndex (ids.id m)) ∨
    store.db.get (refreshTokenIndex (ids.id m)) = none
  popped : pc.popped = true → store.db.get (refreshTokenIndex (ids.id m)) = none
  present : entry.any (·.stillActive cfg) = true → pc.popped = false →
    store.db.get (refreshTokenIndex (ids.id m)) = s.store.db.get (refreshTokenIndex (ids.id m))
  added : ∀ key, store.db.get key ≠ none → s.store.db.get key ≠ none ∨
    ∃ new, pc.new? = some new ∧ (key = new.accessToken ∨ key = refreshTokenIndex new.refreshToken)

namespace Refreshing

variable {cfg : Config} {ids : IdSource} {m : Nat} {entry : Option SessionInfo} {s₀ : Storage} {s : Refreshes}

theorem deleteRefresh_get (ids : IdSource) (m : Nat) (db : SessionDb) (key : String) :
    (deleteRefresh db (some (ids.id m))).get key =
      if key = refreshTokenIndex (ids.id m) then none else db.get key := by
  simp [deleteRefresh, Option.filter, ids.nonempty, KeyValue.get_erase]

theorem deleteRefresh_gone (ids : IdSource) (m : Nat) (db : SessionDb) :
    (deleteRefresh db (some (ids.id m))).get (refreshTokenIndex (ids.id m)) = none := by
  rw [deleteRefresh_get, if_pos rfl]

theorem erase_added {db : SessionDb} {k key : String} (h : (db.erase k).get key ≠ none) : db.get key ≠ none := by
  intro hnone
  rw [KeyValue.get_erase, hnone, ite_self] at h
  exact h rfl

theorem deleteRefresh_added {db : SessionDb} {key : String} (h : (deleteRefresh db (some (ids.id m))).get key ≠ none) :
    db.get key ≠ none := by
  intro hnone
  rw [deleteRefresh_get, hnone, ite_self] at h
  exact h rfl

/-- The lookup leaves the store as it is. -/
theorem moved_of_read {i : Nat} (hpc : s.pc i = .reading) {pc : RefreshPc} {store : Storage}
    (hdb : store.db = s.store.db) (hnext : s.store.next ≤ store.next) (hpopped : pc.popped = false)
    (htokens : ∀ new, pc.new? = some new → (∃ n, new.accessToken = ids.id n) ∧ ∃ n, m < n ∧ new.refreshToken = ids.id n)
    (hreading : pc.new?.isSome = true → entry.any (·.stillActive cfg) = true)
    (hexpiring : pc.expiring = true → entry.any (·.stillActive cfg) = false) :
    Moved cfg ids m entry s i pc store where
  next := hnext
  keeps := by simp [hpc, RefreshPc.new?]
  keepsPopped := by simp [hpc, RefreshPc.popped]
  tokens := htokens
  reading := hreading
  expiring := hexpiring
  same := .inl (by rw [hdb])
  popped := by simp [hpopped]
  present _ _ := by rw [hdb]
  added key hkey := .inl (by rwa [hdb] at hkey)

/-- A call that stores its session writes under a key of its own. -/
theorem moved_of_write (h : Refreshing cfg ids m entry s₀ s) {i : Nat} {pc : RefreshPc}
    {new v : SessionInfo} {key : String}
    (hold : (s.pc i).new? = some new) (hnew : pc.new? = some new)
    (hkey : key = new.accessToken ∨ key = refreshTokenIndex new.refreshToken)
    (hpopped : (s.pc i).popped = false ∧ pc.popped = false) (hexpiring : pc.expiring = false) :
    Moved cfg ids m entry s i pc { s.store with db := s.store.db.set key v } := by
  have hne : refreshTokenIndex (ids.id m) ≠ key := by
    obtain ⟨⟨n, haccess⟩, n', hn', hrefresh⟩ := h.tokens i new hold
    rcases hkey with rfl | rfl
    · rw [haccess]
      exact (ids.ne_index n _).symm
    · rw [Ne, refreshTokenIndex_inj, hrefresh]
      intro heq
      have := ids.injective _ _ heq
      omega
  exact {
    next := Nat.le_refl _
    keeps := by simp [hold, hnew]
    keepsPopped := by simp [hpopped]
    tokens := by
      rw [hnew, ← hold]
      exact h.tokens i
    reading := fun _ => h.reading i (by simp [hold])
    expiring := by simp [hexpiring]
    same := .inl (KeyValue.get_set_other _ _ hne)
    popped := by simp [hpopped]
    present := fun _ _ => KeyValue.get_set_other _ _ hne
    added := by
      intro k hk
      by_cases heq : k = key
      · exact .inr ⟨new, hnew, heq ▸ hkey⟩
      · exact .inl (by rwa [KeyValue.get_set_other _ _ heq] at hk) }

/-- A call that removes an entry adds nothing and keeps its session. -/
theorem moved_of_remove (h : Refreshing cfg ids m entry s₀ s) {i : Nat} {pc : RefreshPc} {db : SessionDb}
    (hsub : ∀ key, db.get key ≠ none → s.store.db.get key ≠ none)
    (hsame : db.get (refreshTokenIndex (ids.id m)) = s.store.db.get (refreshTokenIndex (ids.id m)) ∨
      db.get (refreshTokenIndex (ids.id m)) = none)
    (hnew : pc.new? = (s.pc i).new?) (hkeeps : (s.pc i).popped = true → pc.popped = true)
    (hexpiring : pc.expiring = true → (s.pc i).expiring = true)
    (hpopped : pc.popped = true → db.get (refreshTokenIndex (ids.id m)) = none)
    (hpresent : entry.any (·.stillActive cfg) = true → pc.popped = false → False) :
    Moved cfg ids m entry s i pc { s.store with db := db } where
  next := Nat.le_refl _
  keeps := by simp [hnew]
  keepsPopped := hkeeps
  tokens := by
    rw [hnew]
    exact h.tokens i
  reading hsome := h.reading i (by rwa [hnew] at hsome)
  expiring hexp := h.expiring i (hexpiring hexp)
  same := hsame
  popped := hpopped
  present hactive hnot := (hpresent hactive hnot).elim
  added _ hkey := .inl (hsub _ hkey)

/-- The step lemma of the call: one case for each store operation. -/
theorem step_moved (h : Refreshing cfg ids m entry s₀ s) {i : Nat} {now : Time} {t : Refreshes}
    (hstep : refreshStep cfg ids (ids.id m) s (i, now) = some t) :
    ∃ pc store, t = s.setPc i pc store ∧ Moved cfg ids m entry s i pc store := by
  cases hpc : s.pc i with
  | reading =>
    obtain rfl : s.read cfg ids (ids.id m) i now = t := by simpa [refreshStep, hpc] using hstep
    have hsearch : getSession s.store.db "" (some (ids.id m)) = s.store.db.get (refreshTokenIndex (ids.id m)) := by
      simp [getSession, Option.filter, ids.nonempty]
    unfold Refreshes.read
    cases hget : s.store.db.get (refreshTokenIndex (ids.id m)) with
    | none =>
      rw [hsearch, hget]
      refine ⟨_, _, rfl, moved_of_read hpc rfl (Nat.le_refl _) rfl ?_ ?_ ?_⟩
      · simp [RefreshPc.new?]
      · simp [RefreshPc.new?]
      · simp [RefreshPc.expiring]
    | some old =>
      -- the entry that is found is the one the calls started with
      have hentry : entry = some old := by
        rcases h.fixed with hfixed | hfixed
        · exact hfixed.symm.trans hget
        · rw [hget] at hfixed; cases hfixed
      rw [hsearch, hget]
      simp only
      split
      · next hactive =>
        refine ⟨_, _, rfl, moved_of_read hpc rfl (by simp) rfl ?_ ?_ ?_⟩
        · intro new hnew
          obtain rfl := Option.some.inj hnew
          have hnext := h.next
          exact ⟨⟨_, rfl⟩, s.store.next + 1, by omega, rfl⟩
        · intro _
          simpa [hentry] using hactive
        · simp [RefreshPc.expiring]
      · next hactive =>
        refine ⟨_, _, rfl, moved_of_read hpc rfl (Nat.le_refl _) rfl ?_ ?_ ?_⟩
        · simp [RefreshPc.new?]
        · simp [RefreshPc.new?]
        · intro _
          simpa [hentry] using hactive
  | settingAccess old new =>
    obtain rfl := Option.some.inj ((by simpa [refreshStep, hpc] using hstep : some _ = some t))
    exact ⟨_, _, rfl, moved_of_write h (by rw [hpc]; rfl) rfl (.inl rfl) (by simp [hpc, RefreshPc.popped]) rfl⟩
  | settingRefresh old new =>
    obtain rfl := Option.some.inj ((by simpa [refreshStep, hpc] using hstep : some _ = some t))
    exact ⟨_, _, rfl, moved_of_write h (by rw [hpc]; rfl) rfl (.inr rfl) (by simp [hpc, RefreshPc.popped]) rfl⟩
  | poppingRefresh old new =>
    obtain rfl := Option.some.inj ((by simpa [refreshStep, hpc] using hstep : some _ = some t))
    have hnone := deleteRefresh_gone ids m s.store.db
    refine ⟨_, _, rfl, moved_of_remove h (fun _ => deleteRefresh_added) (.inr hnone) (by rw [hpc]; rfl) ?_ ?_ ?_ ?_⟩
    · simp [hpc, RefreshPc.popped]
    · simp [RefreshPc.expiring]
    · exact fun _ => hnone
    · simp [RefreshPc.popped]
  | poppingAccess old new =>
    obtain rfl := Option.some.inj ((by simpa [refreshStep, hpc] using hstep : some _ = some t))
    have hnone : (s.store.db.erase old.accessToken).get (refreshTokenIndex (ids.id m)) = none := by
      rw [KeyValue.get_erase, h.popped i (by rw [hpc]; rfl), ite_self]
    refine ⟨_, _, rfl, moved_of_remove h (fun _ => erase_added) (.inr hnone) (by rw [hpc]; rfl) ?_ ?_ ?_ ?_⟩
    · simp [RefreshPc.popped]
    · simp [RefreshPc.expiring]
    · exact fun _ => hnone
    · simp [RefreshPc.popped]
  | expiringRefresh old =>
    obtain rfl := Option.some.inj ((by simpa [refreshStep, hpc] using hstep : some _ = some t))
    have hexpired := h.expiring i (by rw [hpc]; rfl)
    have hnone := deleteRefresh_gone ids m s.store.db
    refine ⟨_, _, rfl, moved_of_remove h (fun _ => deleteRefresh_added) (.inr hnone) (by rw [hpc]; rfl) ?_ ?_ ?_ ?_⟩
    · simp [hpc, RefreshPc.popped]
    · simp [hpc, RefreshPc.expiring]
    · simp [RefreshPc.popped]
    · simp [hexpired]
  | expiringAccess old =>
    obtain rfl := Option.some.inj ((by simpa [refreshStep, hpc] using hstep : some _ = some t))
    have hexpired := h.expiring i (by rw [hpc]; rfl)
    have hsame : (s.store.db.erase old.accessToken).get (refreshTokenIndex (ids.id m)) =
        s.store.db.get (refreshTokenIndex (ids.id m)) ∨
          (s.store.db.erase old.accessToken).get (refreshTokenIndex (ids.id m)) = none := by
      rw [KeyValue.get_erase]
      split
      · exact .inr rfl
      · exact .inl rfl
    refine ⟨_, _, rfl, moved_of_remove h (fun _ => erase_added) hsame (by rw [hpc]; rfl) ?_ ?_ ?_ ?_⟩
    · simp [hpc, RefreshPc.popped]
    · simp [RefreshPc.expiring]
    · simp [RefreshPc.popped]
    · simp [hexpired]
  | returned new | rejected e => simp [refreshStep, hpc] at hstep

/-- A property of every call, from the call that moved and the others. -/
theorem setPc_all {P : RefreshPc → Prop} {i : Nat} {pc : RefreshPc} {store : Storage} (hi : P pc)
    (hother : ∀ j, P (s.pc j)) : ∀ j, P ((s.setPc i pc store).pc j) := by
  intro j
  by_cases hj : j = i
  · rw [hj, Refreshes.setPc_self]
    exact hi
  · rw [Refreshes.setPc_other s pc store hj]
    exact hother j

/-- A call that had created a session still has it. -/
theorem keeps {i : Nat} {pc : RefreshPc} {store : Storage} (hm : Moved cfg ids m entry s i pc store) {j : Nat}
    {new : SessionInfo} (h : (s.pc j).new? = some new) : ((s.setPc i pc store).pc j).new? = some new := by
  by_cases hj : j = i
  · rw [hj, Refreshes.setPc_self]
    exact hm.keeps new (hj ▸ h)
  · rw [Refreshes.setPc_other s pc store hj]
    exact h

theorem moved (h : Refreshing cfg ids m entry s₀ s) {i : Nat} {pc : RefreshPc} {store : Storage}
    (hm : Moved cfg ids m entry s i pc store) : Refreshing cfg ids m entry s₀ (s.setPc i pc store) := by
  have hget : ∀ {v}, (v = entry ∨ v = none) →
      s.store.db.get (refreshTokenIndex (ids.id m)) = v →
        store.db.get (refreshTokenIndex (ids.id m)) = entry ∨ store.db.get (refreshTokenIndex (ids.id m)) = none := by
    intro v hv hs
    rcases hm.same with hsame | hnone
    · rw [hsame, hs]
      exact hv
    · exact .inr hnone
  refine ⟨Nat.lt_of_lt_of_le h.next hm.next, ?_, ?_, ?_, hget h.fixed rfl, ?_, ?_, ?_⟩
  · exact setPc_all (P := fun pc => ∀ new, pc.new? = some new →
      (∃ n, new.accessToken = ids.id n) ∧ ∃ n, m < n ∧ new.refreshToken = ids.id n) hm.tokens h.tokens
  · exact setPc_all (P := fun pc => pc.new?.isSome = true → _) hm.reading h.reading
  · exact setPc_all (P := fun pc => pc.expiring = true → _) hm.expiring h.expiring
  · refine setPc_all (P := fun pc => pc.popped = true → _) hm.popped fun k hk => ?_
    rcases hm.same with hsame | hnone
    · exact hsame.trans (h.popped k hk)
    · exact hnone
  · intro hactive hno
    have hpc : pc.popped = false := by simpa using hno i
    have hold : ∀ k, (s.pc k).popped = false := by
      intro k
      by_cases hk : k = i
      · cases hp : (s.pc i).popped with
        | false => rw [hk, hp]
        | true => rw [hm.keepsPopped hp] at hpc; cases hpc
      · simpa [Refreshes.setPc_other s pc store hk] using hno k
    exact (hm.present hactive hpc).trans (h.present hactive hold)
  · intro key hkey
    rcases hm.added key hkey with hold | ⟨new, hnew, hk⟩
    · rcases h.added key hold with hstart | ⟨j, new, hnew, hk⟩
      · exact .inl hstart
      · exact .inr ⟨j, new, keeps hm hnew, hk⟩
    · exact .inr ⟨i, new, by rw [Refreshes.setPc_self]; exact hnew, hk⟩

/-- A session is created by the lookup only. -/
theorem created_before {r : String} {i : Nat} {now : Time} {pc : RefreshPc} {store : Storage} (hpc : s.pc i ≠ .reading)
    (hstep : refreshStep cfg ids r s (i, now) = some (s.setPc i pc store)) (hnew : pc.new?.isSome = true) :
    (s.pc i).new?.isSome = true := by
  cases hs : s.pc i with
  | reading => exact (hpc hs).elim
  | settingAccess _ _ | settingRefresh _ _ | poppingRefresh _ _ | poppingAccess _ _ => rfl
  | returned _ | rejected _ => simp [refreshStep, hs] at hstep
  | expiringRefresh old | expiringAccess old =>
    simp only [refreshStep, hs, Option.some.injEq] at hstep
    have hend := congrArg (fun u => u.pc i) hstep
    simp only [Refreshes.setPc_self] at hend
    rw [← hend] at hnew
    cases hnew

/-- The lookup creates a session exactly when it finds an active entry. -/
theorem read_creates (cfg : Config) (ids : IdSource) (m : Nat) (s : Refreshes) (i : Nat) (now : Time) :
    ((s.read cfg ids (ids.id m) i now).pc i).new?.isSome =
      (s.store.db.get (refreshTokenIndex (ids.id m))).any (·.stillActive cfg) := by
  have hsearch : getSession s.store.db "" (some (ids.id m)) = s.store.db.get (refreshTokenIndex (ids.id m)) := by
    simp [getSession, Option.filter, ids.nonempty]
  unfold Refreshes.read
  rw [hsearch]
  cases s.store.db.get (refreshTokenIndex (ids.id m)) with
  | none => simp [RefreshPc.new?]
  | some old => cases hactive : old.stillActive cfg <;> simp [hactive, RefreshPc.new?]

theorem keeps_isSome {i : Nat} {pc : RefreshPc} {store : Storage} (hm : Moved cfg ids m entry s i pc store) {j : Nat}
    (hj : (s.pc j).new?.isSome = true) : ((s.setPc i pc store).pc j).new?.isSome = true := by
  obtain ⟨new, hnew⟩ := Option.isSome_iff_exists.1 hj
  rw [keeps hm hnew]
  rfl

theorem oneReader_back {i : Nat} {pc : RefreshPc} {store : Storage} (hm : Moved cfg ids m entry s i pc store)
    (h : OneReader (s.setPc i pc store)) : OneReader s :=
  fun j k hj hk => h j k (keeps_isSome hm hj) (keeps_isSome hm hk)

/-- A step of a call that has no session after it unless it had one before. -/
theorem oneReader_forward {i : Nat} {pc : RefreshPc} {store : Storage}
    (hold : pc.new?.isSome = true → (s.pc i).new?.isSome = true) (h : OneReader s) :
      OneReader (s.setPc i pc store) := by
  have hsame : ∀ j, ((s.setPc i pc store).pc j).new?.isSome = true → (s.pc j).new?.isSome = true := by
    intro j hj
    by_cases hji : j = i
    · rw [hji, Refreshes.setPc_self] at hj
      rw [hji]
      exact hold hj
    · rwa [Refreshes.setPc_other s pc store hji] at hj
  exact fun j k hj hk => h j k (hsame j hj) (hsame k hk)

theorem new?_of_holding {pc : RefreshPc} (h : pc.holding = true) : pc.new?.isSome = true := by
  rw [RefreshPc.new?_isSome, h]
  rfl

/-- A call that finds an active entry is the only one with a session exactly when no other one holds the
entry: whoever has created a session still holds it. -/
theorem oneReader_creates (h : Refreshing cfg ids m entry s₀ s) {i : Nat} {pc : RefreshPc} {store : Storage}
    (hm : Moved cfg ids m entry s i pc store) (hpc : s.pc i = .reading) (hnew : pc.new?.isSome = true)
    (hfound : (s.store.db.get (refreshTokenIndex (ids.id m))).any (·.stillActive cfg) = true) :
    OneReader (s.setPc i pc store) ↔ ¬ ∃ j, (s.pc j).holding = true := by
  have hself : ((s.setPc i pc store).pc i).new?.isSome = true := by rwa [Refreshes.setPc_self]
  constructor
  · rintro hone ⟨j, hj⟩
    obtain rfl := hone j i (keeps_isSome hm (new?_of_holding hj)) hself
    rw [hpc] at hj
    cases hj
  · intro hno
    have honly : ∀ j, ((s.setPc i pc store).pc j).new?.isSome = true → j = i := by
      intro j hj
      by_contra hji
      rw [Refreshes.setPc_other s pc store hji, RefreshPc.new?_isSome, Bool.or_eq_true] at hj
      rcases hj with hj | hj
      · exact hno ⟨j, hj⟩
      · rw [h.popped j hj] at hfound
        cases hfound
    exact fun j k hj hk => (honly j hj).trans (honly k hk).symm

/-- A call that holds an entry which is not there is not the only one with a session: another one has
removed the entry. -/
theorem not_holding_of_absent (h : Refreshing cfg ids m entry s₀ s) (hone : OneReader s)
    (habsent : (s.store.db.get (refreshTokenIndex (ids.id m))).any (·.stillActive cfg) = false) (j : Nat) :
    (s.pc j).holding = false := by
  by_contra hj
  have hj : (s.pc j).holding = true := by simpa using hj
  have hactive := h.reading j (new?_of_holding hj)
  have hpopped : ∃ k, (s.pc k).popped = true := by
    by_contra hno
    have hpresent := h.present hactive fun k => by simpa using fun hk => hno ⟨k, hk⟩
    rw [hpresent, hactive] at habsent
    cases habsent
  obtain ⟨k, hk⟩ := hpopped
  obtain rfl := hone j k (new?_of_holding hj) (by rw [RefreshPc.new?_isSome, hk, Bool.or_true])
  cases hpc : s.pc j <;> simp [hpc, RefreshPc.holding, RefreshPc.popped] at hj hk

/-- **Step lemma.** One call at most has created a session after a step exactly when that was so before
it and the step is no second reading. -/
theorem oneReader_step (h : Refreshing cfg ids m entry s₀ s) {i : Nat} {now : Time} {t : Refreshes}
    (hstep : refreshStep cfg ids (ids.id m) s (i, now) = some t) :
    OneReader t ↔ OneReader s ∧ ¬ SecondRead s (i, now) := by
  obtain ⟨pc, store, rfl, hm⟩ := h.step_moved hstep
  by_cases hpc : s.pc i = .reading
  · have hsecond : SecondRead s (i, now) ↔ ∃ j, (s.pc j).holding = true := and_iff_right hpc
    have hread : s.read cfg ids (ids.id m) i now = s.setPc i pc store := by simpa [refreshStep, hpc] using hstep
    have hcreates := read_creates cfg ids m s i now
    rw [hread, Refreshes.setPc_self] at hcreates
    rw [hsecond]
    cases hnew : pc.new?.isSome with
    | true =>
      rw [hnew] at hcreates
      rw [h.oneReader_creates hm hpc hnew hcreates.symm]
      refine ⟨fun hno => ⟨?_, hno⟩, fun hone => hone.2⟩
      exact oneReader_back hm ((h.oneReader_creates hm hpc hnew hcreates.symm).2 hno)
    | false =>
      rw [hnew] at hcreates
      refine ⟨fun hone => ⟨oneReader_back hm hone, ?_⟩, fun hone => oneReader_forward (by simp [hnew]) hone.1⟩
      rintro ⟨j, hj⟩
      rw [h.not_holding_of_absent (oneReader_back hm hone) hcreates.symm j] at hj
      cases hj
  · -- any other step: the same calls have created a session
    refine ⟨fun hone => ⟨oneReader_back hm hone, fun hsecond => hpc hsecond.1⟩, fun hone => ?_⟩
    exact oneReader_forward (created_before hpc hstep) hone.1

end Refreshing

/-- The calls with refresh token `ids.id m` before their first step. -/
theorem refreshing_start (cfg : Config) (ids : IdSource) {m : Nat} {s₀ : Storage} (hm : m < s₀.next) :
    Refreshing cfg ids m (s₀.db.get (refreshTokenIndex (ids.id m))) s₀ { store := s₀ } where
  next := hm
  tokens := nofun
  reading := nofun
  expiring := nofun
  fixed := .inl rfl
  popped := nofun
  present _ _ := rfl
  added _ hkey := .inl hkey

/-- **Run lemma.** -/
theorem refreshing_run {cfg : Config} {ids : IdSource} {m : Nat} {s₀ : Storage} (hm : m < s₀.next)
    {es : List (Nat × Time)} {s : Refreshes}
    (hrun : exec (refreshStep cfg ids (ids.id m)) { store := s₀ } es = some s) :
    Refreshing cfg ids m (s₀.db.get (refreshTokenIndex (ids.id m))) s₀ s ∧
      (OneReader s ↔ Along (refreshStep cfg ids (ids.id m)) (fun s e _ => ¬ SecondRead s e) { store := s₀ } es) := by
  refine exec_induction (P := fun es s => Refreshing cfg ids m (s₀.db.get (refreshTokenIndex (ids.id m))) s₀ s ∧
    (OneReader s ↔ Along (refreshStep cfg ids (ids.id m)) (fun s e _ => ¬ SecondRead s e) { store := s₀ } es))
    ⟨refreshing_start cfg ids hm, by simp [OneReader, RefreshPc.new?]⟩ ?_ hrun
  rintro fs s ⟨i, now⟩ t hfs ⟨hs, hone⟩ hstep
  obtain ⟨pc, store, rfl, hmoved⟩ := hs.step_moved hstep
  refine ⟨hs.moved hmoved, ?_⟩
  rw [hs.oneReader_step hstep, along_snoc, hone]
  refine and_congr_right fun _ => ⟨fun hno a b ha _ => ?_, fun hall => hall s _ hfs hstep⟩
  obtain rfl := Option.some.inj (hfs.symm.trans ha)
  exact hno

/-! ## The result -/

/-- **Single use of a refresh token**, for every interleaving of the store steps of any number of
refreshes with one issued refresh token, once the calls that began are over: one of them at most
returns a session, and only its entries are added to the store, in exactly the runs in which no call
reads the entry while another one has read it and not removed it. -/
theorem refresh_single_use_iff {cfg : Config} {ids : IdSource} {m : Nat} {s₀ : Storage} (hm : m < s₀.next)
    {es : List (Nat × Time)} {s : Refreshes} (hrun : exec (refreshStep cfg ids (ids.id m)) { store := s₀ } es = some s)
    (hended : ∀ i, (s.pc i).ended = true) :
    SingleUse s₀ s ↔
      Along (refreshStep cfg ids (ids.id m)) (fun s e _ => ¬ SecondRead s e) { store := s₀ } es := by
  obtain ⟨hs, hone⟩ := refreshing_run hm hrun
  rw [← hone]
  have hreturned : ∀ {i new}, (s.pc i).new? = some new → s.pc i = .returned new := by
    intro i new hnew
    have hi := hended i
    cases hpc : s.pc i <;> simp [hpc, RefreshPc.ended, RefreshPc.new?] at hi hnew ⊢
    exact hnew
  constructor
  · intro hsingle i j hi hj
    obtain ⟨new, hnew⟩ := Option.isSome_iff_exists.1 hi
    obtain ⟨new', hnew'⟩ := Option.isSome_iff_exists.1 hj
    exact hsingle.1 i j new new' (hreturned hnew) (hreturned hnew')
  · intro hreader
    refine ⟨fun i j new new' hi hj => hreader i j (by rw [hi]; rfl) (by rw [hj]; rfl), ?_⟩
    intro key hkey
    rcases hs.added key hkey with hstart | ⟨i, new, hnew, hk⟩
    · exact .inl hstart
    · exact .inr ⟨i, new, hreturned hnew, hk⟩

/-! ## Two refreshes -/

/-- The store after one sign-in; its refresh token is `unaryIds.id 1`. -/
def signedIn : Storage := (signIn {} unaryIds Storage.init "user" 0).2

/-- The steps of two calls: `order` says whose turn it is. -/
def turns (order : List Nat) : List (Nat × Time) := order.map fun i => (i, 0)

/-- Two calls that read the entry before either removes it both return a session. -/
theorem refreshed_twice :
    ¬ ∀ (cfg : Config) (ids : IdSource) (m : Nat) (s₀ : Storage) (es : List (Nat × Time)) (s : Refreshes),
      m < s₀.next → exec (refreshStep cfg ids (ids.id m)) { store := s₀ } es = some s →
      (∀ i, (s.pc i).ended = true) → SingleUse s₀ s := by
  intro h
  have hsingle := h {} unaryIds 1 signedIn (turns [0, 1, 0, 0, 0, 0, 1, 1, 1, 1]) _ (by decide) rfl
    (fun | 0 | 1 | _ + 2 => rfl)
  have hsame := hsingle.1 0 1 _ _ rfl rfl
  cases hsame

/-- When the second call reads after the first has removed the entry, it is refused. -/
theorem refreshed_once :
    SingleUse signedIn ((exec (refreshStep {} unaryIds (unaryIds.id 1)) { store := signedIn }
      (turns [0, 0, 0, 0, 1, 0])).getD { store := signedIn }) := by
  have hrun :
      exec (refreshStep {} unaryIds (unaryIds.id 1)) { store := signedIn } (turns [0, 0, 0, 0, 1, 0]) = some _ := rfl
  refine (refresh_single_use_iff (by decide) hrun (fun | 0 | 1 | _ + 2 => rfl)).2 ?_
  refine (along_cons rfl).2 ⟨?_, (along_cons rfl).2 ⟨?_, (along_cons rfl).2 ⟨?_, (along_cons rfl).2 ⟨?_,
    (along_cons rfl).2 ⟨?_, (along_cons rfl).2 ⟨?_, trivial⟩⟩⟩⟩⟩⟩
  all_goals
    rintro ⟨hreading, _ | _ | _, hj⟩ <;> first | (cases hj; done) | cases hreading

/-! ## Calls one after another -/

/-- The store, and the outcomes so far. -/
abbrev Refreshed := Storage × List Outcome

def refreshInTurn (cfg : Config) (ids : IdSource) (r : String) (s : Refreshed) (now : Time) : Option Refreshed :=
  some ((refreshSession cfg ids s.1 r now).2, s.2 ++ [(refreshSession cfg ids s.1 r now).1])

/-- **A run of `refresh_session` calls one after another is a run of their store operations**: it leaves the same
store, and every call ends with its outcome. -/
theorem refreshes_in_order (cfg : Config) (ids : IdSource) (r : String) (s₀ : Storage)
    (nows : List Time) (t : Refreshed)
    (hrun : exec (refreshInTurn cfg ids r) (s₀, []) nows = some t) :
    ∃ es u, exec (refreshStep cfg ids r) { store := s₀ } es = some u ∧ u.store = t.1 ∧
      (∀ i outcome, t.2[i]? = some outcome → (u.pc i).Ends outcome) ∧ ∀ i, t.2.length ≤ i → u.pc i = .reading := by
  refine exec_induction (P := fun _ t => ∃ es u, exec (refreshStep cfg ids r) { store := s₀ } es = some u ∧
    u.store = t.1 ∧ (∀ i outcome, t.2[i]? = some outcome → (u.pc i).Ends outcome) ∧
    ∀ i, t.2.length ≤ i → u.pc i = .reading) ⟨[], _, rfl, rfl, by simp, fun _ _ => rfl⟩ ?_ hrun
  rintro nows m now m' - ⟨es, u, hu, hstore, hended, hwaiting⟩ hstep
  cases hstep
  obtain ⟨n, u', hu', hstore', hends, hothers⟩ :=
    refreshes_alone cfg ids r u m.2.length now (hwaiting _ (Nat.le_refl _))
  rw [hstore] at hstore' hends
  refine ⟨_, u', exec_append.2 ⟨u, hu, hu'⟩, hstore', fun i outcome hi => ?_, fun i hi => ?_⟩
  · rcases Nat.lt_trichotomy i m.2.length with hlt | rfl | hgt
    · rw [List.getElem?_append_left hlt] at hi
      rw [hothers i (Nat.ne_of_lt hlt)]
      exact hended i outcome hi
    · rw [List.getElem?_concat_length] at hi
      rwa [← Option.some.inj hi]
    · rw [List.getElem?_eq_none (by simp; omega)] at hi
      cases hi
  · have hlength : m.2.length + 1 ≤ i := by simpa using hi
    rw [hothers i (by omega)]
    exact hwaiting i (by omega)

/-- The second of two calls is refused. -/
theorem refreshes_in_order_two :
    ∃ es u, exec (refreshStep {} unaryIds (unaryIds.id 1)) { store := signedIn } es = some u ∧
    (∃ new, u.pc 0 = .returned new) ∧ u.pc 1 = .rejected (refreshTokenInvalid (unaryIds.id 1)) := by
  obtain ⟨es, u, hu, -, hended, -⟩ :=
    refreshes_in_order {} unaryIds (unaryIds.id 1) signedIn [0, 0] _ rfl
  exact ⟨es, u, hu, ⟨_, hended 0 _ rfl⟩, hended 1 _ rfl⟩

end PortaPhone.Sessions
