import Mathlib
import PortaPhone.CallCenter.Counters
/-!
# One read of the counters at a time

The lock of a customer that has been released to a waiter is unlocked until that waiter runs, and a call for a customer
without a lock deletes it when there are too many. `counters_cache`: no customer has two reads in progress as long as no
new lock drops one that somebody is about to take. When a read starts and what a store leaves does not depend on that.
-/

namespace PortaPhone.CallCenter

open Contacts (Time ticks)
open Machine AsyncLock StoreOrder

/-! ## Calls as parties of the locks -/

def FetchPc.place : FetchPc → Place
  | .waiting lock => .waiting lock
  | .reading lock => .holding lock
  | _ => .out

def Fetch.party (call : Fetch) : Party Int := ⟨call.iCustomer, call.pc.place, call.cancelled⟩

/-- The call is reading the counters of the customer. -/
def Fetch.reads (iCustomer : Int) (call : Fetch) : Bool := call.party.key = iCustomer && call.party.isHolding

namespace CountersState

def parties (s : CountersState) : List (Party Int) := s.fetches.map Fetch.party

/-- A lock that is made when there are too many drops none that a call is about to take. -/
def KeepsAwaited (s : CountersState) : CountersEvent → Prop
  | .fetch iCustomer => s.cached iCustomer = none → s.locks.lockOf.get? iCustomer = none →
      countersCacheMax ≤ s.locks.lockOf.size → s.locks.Keeps s.parties s.locks.lockOf.keys
  | _ => True

instance (s : CountersState) (e : CountersEvent) : Decidable (s.KeepsAwaited e) :=
  match e with
  | .fetch iCustomer => inferInstanceAs (Decidable (s.cached iCustomer = none → s.locks.lockOf.get? iCustomer = none →
      countersCacheMax ≤ s.locks.lockOf.size → s.locks.Keeps s.parties s.locks.lockOf.keys))
  | .elapse _ | .resume _ | .cancel _ | .ended _ _ => inferInstanceAs (Decidable True)

def LocksOk (s : CountersState) : Prop := Inv s.locks s.parties

variable {s t : CountersState} {i lock : Nat} {call call' : Fetch} {e : CountersEvent}

theorem put_at (hi : s.fetches[i]? = some call) (call' : Fetch) : (s.put i call').fetches[i]? = some call' :=
  List.getElem?_set_self (List.getElem?_eq_some_iff.1 hi).1

theorem begin_at (s : CountersState) (c : Int) : (s.begin c).fetches[s.fetches.length]? = some { iCustomer := c } := by
  simp [begin]

theorem parties_at (hi : s.fetches[i]? = some call) : s.parties[i]? = some call.party := by
  rw [parties, List.getElem?_map, hi]
  rfl

theorem parties_put (s : CountersState) (i : Nat) (call : Fetch) :
    (s.put i call).parties = s.parties.set i call.party := List.map_set

/-! ## Every step keeps the locks in order -/

theorem get?_countersLock (locks : Locks Int) (c : Int) :
    (countersLock locks c).2.lockOf.get? c = some (countersLock locks c).1 := by
  have hself := Locks.get?_lockFor_self locks c
  unfold countersLock
  split
  · assumption
  · dsimp only
    split
    · exact Locks.get?_drop.2 ⟨hself, by simp⟩
    · exact hself

theorem countersLock_inv {locks : Locks Int} {ps : List (Party Int)} {c : Int} (h : Inv locks ps)
    (hkeep : locks.lockOf.get? c = none → countersCacheMax ≤ locks.lockOf.size → locks.Keeps ps locks.lockOf.keys) :
    Inv (countersLock locks c).2 ps := by
  unfold countersLock
  split
  · exact h
  · rename_i hnone
    dsimp only
    split
    · rename_i hmany
      have hsize : (locks.lockFor c).2.lockOf.size = locks.lockOf.size + 1 := by
        simp only [Locks.lockFor, hnone]
        exact Dict.size_set_new hnone _
      rw [hsize] at hmany
      exact (h.lockFor c).drop (h.keeps_lockFor (hkeep hnone (Nat.lt_succ_iff.1 hmany)) (by simp))
    · exact h.lockFor c

theorem LocksOk.begin (h : s.LocksOk) (c : Int) : (s.begin c).LocksOk := by
  show Inv s.locks ((s.fetches ++ [_]).map Fetch.party)
  rw [List.map_append]
  exact h.join rfl

/-- A call that has the lock ends. -/
theorem LocksOk.leave (h : s.LocksOk) (hi : s.fetches[i]? = some call) (hpc : call.pc.place = .holding lock)
    (returned : Option (Option (Dict String Nat))) : (s.leave i call lock returned).LocksOk := by
  show Inv (s.locks.modify lock Lock.release) (s.put i { call with pc := .done returned }).parties
  rw [parties_put]
  exact Inv.release h (parties_at hi) hpc

theorem LocksOk.holding (h : s.LocksOk) (hi : s.fetches[i]? = some { call with pc := .reading lock }) :
    (s.holding i call lock).LocksOk := by
  unfold CountersState.holding
  split
  · exact h.leave hi rfl _
  · exact h

theorem LocksOk.acquire (h : s.LocksOk) (hi : s.fetches[i]? = some call) (hpc : call.pc.place = .out)
    (hkeep : s.locks.lockOf.get? call.iCustomer = none → countersCacheMax ≤ s.locks.lockOf.size →
      s.locks.Keeps s.parties s.locks.lockOf.keys) : (s.acquire i call).LocksOk := by
  have hlock := countersLock_inv h hkeep
  have hacquire := hlock.acquire (parties_at hi) hpc (get?_countersLock s.locks call.iCustomer)
  unfold CountersState.acquire
  dsimp only
  split
  · rename_i hgot
    rw [hgot, if_pos rfl] at hacquire
    refine LocksOk.holding ?_ (put_at (s := { s with locks := _ }) hi _)
    show Inv _ (CountersState.parties (CountersState.put _ _ _))
    rw [parties_put]
    exact hacquire
  · rename_i hgot
    rw [if_neg hgot] at hacquire
    show Inv _ (CountersState.parties (CountersState.put _ _ _))
    rw [parties_put]
    exact hacquire

theorem LocksOk.fetch (h : s.LocksOk) {c : Int} (hkeep : s.KeepsAwaited (.fetch c)) : (s.fetch c).LocksOk := by
  have hbegun := h.begin c
  have hi := s.begin_at c
  unfold CountersState.fetch
  dsimp only
  split
  · show Inv _ (CountersState.parties (CountersState.put _ _ _))
    rw [parties_put]
    exact Inv.relabel hbegun (parties_at hi) rfl rfl rfl
  · rename_i hmiss
    apply hbegun.acquire hi rfl
    intro hnone hmany
    -- the call that begins awaits no lock
    have hkeeps := hkeep hmiss hnone hmany
    intro k hk n hn
    apply (hkeeps k hk n hn).imp_right
    intro hothers p hp
    rw [CountersState.parties, CountersState.begin, List.map_append, List.mem_append] at hp
    rcases hp with hp | hp
    · exact hothers p hp
    · obtain rfl := List.mem_singleton.1 hp
      rfl

theorem LocksOk.store (h : s.LocksOk) (c : Int) (waiting : Option (Dict String Nat)) : (s.store c waiting).LocksOk := h

/-- Of the steps, only the making of a lock asks for the condition. -/
theorem LocksOk.step (h : s.LocksOk) (hkeep : s.KeepsAwaited e) (hstep : countersStep s e = some t) : t.LocksOk := by
  have hplace : ∀ {call : Fetch} {pc : FetchPc}, call.pc = pc → call.pc.place = pc.place := fun h => congrArg _ h
  cases countersStep_move hstep with
  | elapse => exact h
  | fetch c => exact h.fetch hkeep
  | resume hi hpc hlive hwoken =>
    refine LocksOk.holding ?_ (put_at (s := s.withLock _ _) hi _)
    show Inv _ (CountersState.parties (CountersState.put _ _ _))
    rw [parties_put]
    exact Inv.resume h (parties_at hi) (hplace hpc) hlive hwoken
  | giveUp hi hpc =>
    show Inv _ (CountersState.put _ _ _).parties
    rw [parties_put]
    exact Inv.giveUp h (parties_at hi) (hplace hpc)
  | cancel hi hpc =>
    show Inv _ (CountersState.put _ _ _).parties
    rw [parties_put]
    exact Inv.cancel h (parties_at hi) (hplace hpc)
  | stored hi hpc _ =>
    exact (h.store _ _).leave hi (hplace hpc) _
  | failed hi hpc _ => exact h.leave hi (hplace hpc) _

end CountersState

/-! ## When a read starts, and what a store leaves -/

/-- In the step from `s` to `t` a call begins to read the counters of the customer. -/
def StartsRead (s t : CountersState) (iCustomer : Int) : Prop :=
  ∃ (i lock : Nat) (call : Fetch), t.fetches[i]? = some call ∧ call.iCustomer = iCustomer ∧ call.pc = .reading lock ∧
    ∀ (before : Fetch) (lock : Nat), s.fetches[i]? = some before → before.pc ≠ .reading lock

/-- Only the call `i` changes, or comes in. -/
structure OnlyCall (before after : List Fetch) (i : Nat) (call : Fetch) : Prop where
  here : after[i]? = some call
  others : ∀ j, j ≠ i → after[j]? = before[j]?

def CountersState.lastOutcome (s : CountersState) (iCustomer : Int) : Option CountersEntry :=
  (s.outcomes.filter (·.iCustomer = iCustomer)).getLast?.map (·.entry)

/-- The cache after the store of an outcome. -/
structure StoreKeeps (before after : Dict Int CountersEntry) (outcome : Outcome) : Prop where
  size : after.size = min (before.set outcome.iCustomer outcome.entry).size countersCacheMax
  kept : ∀ c entry, after.get? c = some entry → (before.set outcome.iCustomer outcome.entry).get? c = some entry
  stalest : ∀ c c' entry entry', (before.set outcome.iCustomer outcome.entry).get? c = some entry →
    after.get? c = none → after.get? c' = some entry' → entry.storedAt ≤ entry'.storedAt

/-- A read starts only where the retained outcome is the last one and too old, and the outcome of a read is stored
unless that ends in an exception of another kind. -/
structure CountersKeeps (s : CountersState) (e : CountersEvent) (t : CountersState) : Prop where
  expired : ∀ c, StartsRead s t c → ∀ entry, s.cache.get? c = some entry →
    s.lastOutcome c = some entry ∧ ticks countersTtl ≤ s.clock - entry.storedAt
  stored : ∀ i answers, e = .ended i answers → getSipCallsList answers ≠ .error .raised →
    ∃ call waiting, s.fetches[i]? = some call ∧ readCallersWaiting answers = .ok waiting ∧
      t.outcomes = s.outcomes ++ [⟨call.iCustomer, { storedAt := s.clock, waiting }⟩] ∧
      StoreKeeps s.cache t.cache ⟨call.iCustomer, { storedAt := s.clock, waiting }⟩
  unchanged : (∀ i answers, e = .ended i answers → getSipCallsList answers = .error .raised) →
    t.cache = s.cache ∧ t.outcomes = s.outcomes

/-- The entries are the last outcomes, and not too many. -/
structure CountersOk (s : CountersState) : Prop where
  entries : ∀ c entry, s.cache.get? c = some entry → s.lastOutcome c = some entry
  size : s.cache.size ≤ countersCacheMax

namespace CountersState

variable {s t : CountersState} {i lock : Nat} {call call' : Fetch} {e : CountersEvent} {c : Int}

theorem only_put (hi : s.fetches[i]? = some call) (call' : Fetch) :
    OnlyCall s.fetches (s.put i call').fetches i call' :=
  ⟨put_at hi call', fun _ hj => List.getElem?_set_ne (Ne.symm hj)⟩

theorem only_begin (s : CountersState) (c : Int) :
    OnlyCall s.fetches (s.begin c).fetches s.fetches.length { iCustomer := c } := by
  refine ⟨s.begin_at c, fun j hj => ?_⟩
  show (s.fetches ++ [_])[j]? = _
  rcases Nat.lt_or_gt_of_ne hj with hlt | hgt
  · exact List.getElem?_append_left hlt
  · rw [List.getElem?_eq_none (by simpa using hgt), List.getElem?_eq_none (Nat.le_of_lt hgt)]

theorem only_trans {fs gs hs : List Fetch} (h : OnlyCall fs gs i call) (h' : OnlyCall gs hs i call') :
    OnlyCall fs hs i call' :=
  ⟨h'.here, fun j hj => (h'.others j hj).trans (h.others j hj)⟩

/-- Where one call changes, it is the one that begins to read. -/
theorem startsRead_only (h : OnlyCall s.fetches t.fetches i call) (hstart : StartsRead s t c) :
    call.iCustomer = c ∧ ∃ lock, call.pc = .reading lock := by
  obtain ⟨j, lock, after, hj, hc, hpc, hbefore⟩ := hstart
  by_cases hji : j = i
  · subst hji
    obtain rfl := Option.some.inj (h.here.symm.trans hj)
    exact ⟨hc, lock, hpc⟩
  · rw [h.others j hji] at hj
    exact absurd hpc (hbefore after lock hj)

/-- A call that has the lock reads only where nothing is cached. -/
theorem only_holding (hi : s.fetches[i]? = some { call with pc := .reading lock }) :
    ∃ call', OnlyCall s.fetches (s.holding i call lock).fetches i call' ∧ call'.iCustomer = call.iCustomer ∧
      ((∃ lock', call'.pc = .reading lock') → s.cached call.iCustomer = none) := by
  unfold holding
  split
  · rename_i waiting hcached
    have hput := only_put hi { call with pc := .done (some waiting) }
    refine ⟨_, hput, rfl, ?_⟩
    rintro ⟨lock', hpc⟩
    cases hpc
  · rename_i hmiss
    exact ⟨_, ⟨hi, fun _ _ => rfl⟩, rfl, fun _ => hmiss⟩

theorem only_acquire (hi : s.fetches[i]? = some call) :
    ∃ call', OnlyCall s.fetches (s.acquire i call).fetches i call' ∧ call'.iCustomer = call.iCustomer ∧
      ((∃ lock', call'.pc = .reading lock') → s.cached call.iCustomer = none) := by
  let locks := ((countersLock s.locks call.iCustomer).2.acquire (countersLock s.locks call.iCustomer).1 i).2
  unfold acquire
  dsimp only
  split
  · have hput :=
      only_put (s := { s with locks }) hi { call with pc := .reading (countersLock s.locks call.iCustomer).1 }
    obtain ⟨call', honly, hsame, hmiss⟩ := only_holding hput.here
    exact ⟨call', only_trans hput honly, hsame, hmiss⟩
  · refine ⟨_, only_put hi { call with pc := .waiting (countersLock s.locks call.iCustomer).1 }, rfl, ?_⟩
    rintro ⟨lock', hpc⟩
    cases hpc

theorem only_fetch (s : CountersState) (c : Int) :
    ∃ call, OnlyCall s.fetches (s.fetch c).fetches s.fetches.length call ∧ call.iCustomer = c ∧
      ((∃ lock, call.pc = .reading lock) → s.cached c = none) := by
  have hbegin := s.only_begin c
  unfold fetch
  dsimp only
  split
  · rename_i waiting hcached
    have hput := only_put hbegin.here { iCustomer := c, pc := .done (some waiting) }
    refine ⟨_, only_trans hbegin hput, rfl, ?_⟩
    rintro ⟨lock, hpc⟩
    cases hpc
  · rename_i hmiss
    obtain ⟨call, honly, hsame, -⟩ := only_acquire hbegin.here
    exact ⟨call, only_trans hbegin honly, hsame, fun _ => hmiss⟩

/-- A read starts only where nothing is cached. -/
theorem cached_of_startsRead (hmove : CountersMove s e t) (hstart : StartsRead s t c) : s.cached c = none := by
  cases hmove with
  | elapse =>
    obtain ⟨i, lock, call, hi, -, hpc, hbefore⟩ := hstart
    exact absurd hpc (hbefore call lock hi)
  | fetch c' =>
    obtain ⟨call, honly, hsame, hmiss⟩ := s.only_fetch c'
    obtain ⟨hc, hreads⟩ := startsRead_only honly hstart
    rw [← hc, hsame]
    exact hmiss hreads
  | @resume i lock call hi hpc _ _ =>
    have hput := only_put hi { call with pc := .reading lock }
    obtain ⟨call', honly, hsame, hmiss⟩ :=
      only_holding (s := (s.withLock lock fun l => (l.leave i).take).put i { call with pc := .reading lock }) hput.here
    obtain ⟨hc, hreads⟩ := startsRead_only (only_trans hput honly) hstart
    rw [← hc, hsame]
    exact hmiss hreads
  | @giveUp i lock call hi hpc =>
    obtain ⟨-, lock', hreads⟩ := startsRead_only (only_put hi { call with pc := .done none }) hstart
    cases hreads
  | @cancel i lock call hi hpc =>
    obtain ⟨-, lock', hreads⟩ := startsRead_only (only_put hi { call with cancelled := true }) hstart
    rw [hpc] at hreads
    cases hreads
  | @stored i lock call _ waiting hi hpc _ =>
    obtain ⟨-, lock', hreads⟩ := startsRead_only (only_put hi { call with pc := .done (some waiting) }) hstart
    cases hreads
  | @failed i lock call _ _ hi hpc _ =>
    obtain ⟨-, lock', hreads⟩ := startsRead_only (only_put hi { call with pc := .done none }) hstart
    cases hreads

/-! ## The cache and the outcomes -/

theorem lastOutcome_store (s : CountersState) (waiting : Option (Dict String Nat)) (c c' : Int) :
    (s.store c waiting).lastOutcome c' =
      if c' = c then some { storedAt := s.clock, waiting } else s.lastOutcome c' := by
  unfold lastOutcome
  show (((s.outcomes ++ [_]).filter _).getLast?.map _) = _
  rw [List.filter_append]
  by_cases hc : c' = c
  · simp [hc]
  · simp [hc, Ne.symm hc]

theorem storeCallersWaiting_keeps (now : Time) (c : Int) (waiting : Option (Dict String Nat))
    (cache : Dict Int CountersEntry) :
    StoreKeeps cache (storeCallersWaiting now c waiting cache) ⟨c, { storedAt := now, waiting }⟩ := by
  unfold storeCallersWaiting
  dsimp only
  split
  · exact ⟨size_dropStalest _ _, fun _ _ h => get?_of_dropStalest h,
      fun _ _ _ _ h h' h'' => stamp_le_of_dropStalest h h' h''⟩
  · rename_i hroom
    refine ⟨?_, fun _ _ h => h, fun _ _ _ _ h h' => ?_⟩
    · exact (Nat.min_eq_left (Nat.le_of_not_lt hroom)).symm
    · rw [h'] at h
      cases h

theorem holding_same (s : CountersState) (i : Nat) (call : Fetch) (lock : Nat) :
    (s.holding i call lock).cache = s.cache ∧ (s.holding i call lock).outcomes = s.outcomes := by
  unfold holding
  split <;> exact ⟨rfl, rfl⟩

theorem acquire_same (s : CountersState) (i : Nat) (call : Fetch) :
    (s.acquire i call).cache = s.cache ∧ (s.acquire i call).outcomes = s.outcomes := by
  unfold acquire
  dsimp only
  split
  · exact holding_same _ _ _ _
  · exact ⟨rfl, rfl⟩

theorem fetch_same (s : CountersState) (c : Int) :
    (s.fetch c).cache = s.cache ∧ (s.fetch c).outcomes = s.outcomes := by
  unfold fetch
  dsimp only
  split
  · exact ⟨rfl, rfl⟩
  · exact acquire_same _ _ _

end CountersState

namespace CountersOk

variable {s t : CountersState} {i lock : Nat} {call call' : Fetch} {e : CountersEvent} {c : Int}

theorem begun (now : Time) : CountersOk (countersBegun now) := ⟨by simp [countersBegun], Nat.zero_le _⟩

theorem of_same (h : CountersOk s) (hsame : t.cache = s.cache ∧ t.outcomes = s.outcomes) : CountersOk t := by
  refine ⟨fun c entry hget => ?_, by rw [hsame.1]; exact h.size⟩
  rw [hsame.1] at hget
  rw [CountersState.lastOutcome, hsame.2]
  exact h.entries c entry hget

theorem store (h : CountersOk s) (c : Int) (waiting : Option (Dict String Nat)) : CountersOk (s.store c waiting) := by
  have hkeeps := CountersState.storeCallersWaiting_keeps s.clock c waiting s.cache
  refine ⟨fun c' entry hget => ?_, ?_⟩
  · have hset := hkeeps.kept c' entry hget
    rw [Dict.get?_set] at hset
    rw [CountersState.lastOutcome_store]
    split at hset
    · rename_i hc
      rw [if_pos hc]
      exact hset
    · rename_i hc
      rw [if_neg hc]
      exact h.entries c' entry hset
  · show (storeCallersWaiting _ _ _ _).size ≤ _
    rw [hkeeps.size]
    exact Nat.min_le_right _ _

/-- A failed read has an outcome, too. -/
theorem readCallersWaiting_ok {answers : SipAnswers} :
    (∃ waiting, readCallersWaiting answers = .ok waiting) ↔ getSipCallsList answers ≠ .error .raised := by
  unfold readCallersWaiting
  split
  · rename_i h
    simp [h]
  · rename_i h
    simp [h]
  · rename_i h
    simp [h]
  · rename_i h
    simp [h]

/-- A step either leaves the cache as it is, or it ends a read well and stores what that has found. -/
theorem step_cases (hmove : CountersMove s e t) :
    ((t.cache = s.cache ∧ t.outcomes = s.outcomes) ∧
      ∀ i answers waiting, e = .ended i answers → readCallersWaiting answers ≠ .ok waiting) ∨
    ∃ i answers call waiting, e = .ended i answers ∧ s.fetches[i]? = some call ∧
      readCallersWaiting answers = .ok waiting ∧ t.cache = (s.store call.iCustomer waiting).cache ∧
      t.outcomes = (s.store call.iCustomer waiting).outcomes := by
  cases hmove with
  | elapse => exact .inl ⟨⟨rfl, rfl⟩, by simp⟩
  | fetch c => exact .inl ⟨s.fetch_same c, by simp⟩
  | resume => exact .inl ⟨CountersState.holding_same _ _ _ _, by simp⟩
  | giveUp => exact .inl ⟨⟨rfl, rfl⟩, by simp⟩
  | cancel => exact .inl ⟨⟨rfl, rfl⟩, by simp⟩
  | @stored i _ call answers waiting hi _ hread => exact .inr ⟨i, answers, call, waiting, rfl, hi, hread, rfl, rfl⟩
  | failed _ _ hread =>
    refine .inl ⟨⟨rfl, rfl⟩, fun i answers waiting he hok => ?_⟩
    obtain ⟨rfl, rfl⟩ := CountersEvent.ended.inj he
    rw [hread] at hok
    cases hok

theorem of_step (h : CountersOk s) (hstep : countersStep s e = some t) : CountersOk t := by
  rcases step_cases (countersStep_move hstep) with ⟨hsame, -⟩ | ⟨i, _, call, waiting, -, -, -, hcache, houtcomes⟩
  · exact h.of_same hsame
  · exact (h.store call.iCustomer waiting).of_same ⟨hcache, houtcomes⟩

/-- What is not cached has expired, if it is there. -/
theorem expired_of_miss (h : CountersOk s) (hmiss : s.cached c = none) {entry : CountersEntry}
    (hentry : s.cache.get? c = some entry) :
    s.lastOutcome c = some entry ∧ ticks countersTtl ≤ s.clock - entry.storedAt := by
  refine ⟨h.entries c entry hentry, ?_⟩
  simpa [CountersState.cached, hentry] using hmiss

theorem keeps (h : CountersOk s) (hstep : countersStep s e = some t) : CountersKeeps s e t := by
  have hmove := countersStep_move hstep
  have hexpired : ∀ c, StartsRead s t c → ∀ entry, s.cache.get? c = some entry →
      s.lastOutcome c = some entry ∧ ticks countersTtl ≤ s.clock - entry.storedAt :=
    fun c hstart entry => h.expired_of_miss (CountersState.cached_of_startsRead hmove hstart)
  rcases step_cases hmove with ⟨hsame, hnone⟩ | ⟨i, answers, call, waiting, rfl, hi, hread, hcache, houtcomes⟩
  · refine ⟨hexpired, fun i answers he hended => ?_, fun _ => hsame⟩
    obtain ⟨waiting, hok⟩ := readCallersWaiting_ok.2 hended
    exact absurd hok (hnone i answers waiting he)
  · refine ⟨hexpired, fun j answers' he _ => ?_, fun hraised => ?_⟩
    · obtain ⟨rfl, rfl⟩ := CountersEvent.ended.inj he
      refine ⟨call, waiting, hi, hread, houtcomes, ?_⟩
      rw [hcache]
      exact CountersState.storeCallersWaiting_keeps _ _ _ _
    · exact absurd (hraised i answers rfl) (readCallersWaiting_ok.1 ⟨waiting, hread⟩)

end CountersOk

/-! ## Calls of many customers -/

section

variable {s : CountersState} {k : Nat} {c : Int}

/-- A lock that has just been made is free. -/
theorem countersLock_new {locks : Locks Int} (hnone : locks.lockOf.get? c = none) :
    (countersLock locks c).1 = locks.made ∧ (countersLock locks c).2.made = locks.made + 1 ∧
      (countersLock locks c).2.lock = Function.update locks.lock locks.made {} := by
  unfold countersLock
  simp only [hnone, Locks.lockFor]
  split
  · simp [Locks.drop_made, Locks.drop_lock]
  · simp

/-- The lock that is made when there are too many drops one that is free, whoever waits for it. -/
theorem countersLock_drops {locks : Locks Int} {c' : Int} {lock : Nat} (hnone : locks.lockOf.get? c = none)
    (hne : c' ≠ c) (hsize : locks.lockOf.size = countersCacheMax) (hget : locks.lockOf.get? c' = some lock)
    (hfree : (locks.lock lock).locked = false) (hold : lock < locks.made) :
    (countersLock locks c).2.lockOf.get? c' = none := by
  have hset : ((locks.lockFor c).2.lockOf.get? c') = some lock := by
    simp only [Locks.lockFor, hnone]
    rw [Dict.get?_set_other _ _ hne, hget]
  have hsame : (locks.lockFor c).2.lock lock = locks.lock lock := by
    simp only [Locks.lockFor, hnone]
    exact Function.update_of_ne (Nat.ne_of_lt hold) _ _
  have hmany : countersCacheMax < (locks.lockFor c).2.lockOf.size := by
    simp only [Locks.lockFor, hnone]
    rw [Dict.size_set_new hnone]
    omega
  unfold countersLock
  simp only [hnone, if_pos hmany]
  apply Option.eq_none_iff_forall_ne_some.2
  intro n hn
  obtain ⟨hn, hlocked⟩ := Locks.get?_drop.1 hn
  obtain rfl := Option.some.inj (hset.symm.trans hn)
  have hmem : c' ∈ (locks.lockFor c).2.lockOf.keys.filter (· ≠ c) := by
    simpa [hne] using (Dict.mem_keys _).2 ⟨_, hset⟩
  rw [hsame, hfree] at hlocked
  exact absurd (hlocked hmem) (by simp)

/-- A call of a customer with neither an entry nor a lock begins to read. -/
theorem fetch_new (hmiss : s.cached c = none) (hnone : s.locks.lockOf.get? c = none) :
    s.fetch c = { s with
      locks := (countersLock s.locks c).2.modify s.locks.made Lock.take
      fetches := s.fetches ++ [{ iCustomer := c, pc := .reading s.locks.made }] } := by
  obtain ⟨hname, -, hlock⟩ := countersLock_new hnone
  have hgot : (countersLock s.locks c).2.acquire (countersLock s.locks c).1 s.fetches.length =
      (true, (countersLock s.locks c).2.modify s.locks.made Lock.take) := by
    rw [Locks.acquire, hname, hlock, Function.update_self, if_pos (by decide)]
  have hmiss' : (({ s.begin c with locks := (countersLock s.locks c).2.modify s.locks.made Lock.take }).put
      s.fetches.length { iCustomer := c, pc := .reading (countersLock s.locks c).1 }).cached c = none := hmiss
  unfold CountersState.fetch
  simp only [hmiss]
  unfold CountersState.acquire
  dsimp only
  rw [show (s.begin c).locks = s.locks from rfl, hgot]
  dsimp only
  rw [if_pos rfl, CountersState.holding, hmiss']
  simp [CountersState.put, CountersState.begin, hname]

/-- The customers from 1 to `k` have locks, and the first lock is that of customer 1. -/
structure Numbered (k : Nat) (s : CountersState) : Prop where
  lockOf : s.locks.lockOf.get? 1 = some 0
  unknown : ∀ j : Nat, k < j → s.locks.lockOf.get? j = none
  size : s.locks.lockOf.size = k
  made : 0 < s.locks.made

/-- A call of the next customer makes one more lock, as long as there is room. -/
theorem Numbered.fetch (h : Numbered k s) (hpos : 0 < k) (hroom : k < countersCacheMax)
    (hmiss : s.cached (k + 1 : Nat) = none) :
    Numbered (k + 1) (s.fetch (k + 1 : Nat)) ∧ (s.fetch (k + 1 : Nat)).locks.lock 0 = s.locks.lock 0 ∧
      s.fetch (k + 1 : Nat) = { s with
        locks := (s.fetch (k + 1 : Nat)).locks
        fetches := s.fetches ++ [{ iCustomer := (k + 1 : Nat), pc := .reading s.locks.made }] } := by
  have hnone : s.locks.lockOf.get? (k + 1 : Nat) = none := h.unknown _ (Nat.lt_succ_self k)
  have hsize : (s.locks.lockOf.set (k + 1 : Nat) s.locks.made).size = k + 1 := by
    rw [Dict.size_set_new hnone, h.size]
  have hlocks : countersLock s.locks (k + 1 : Nat) = (s.locks.made, (s.locks.lockFor (k + 1 : Nat)).2) := by
    unfold countersLock
    simp only [hnone, Locks.lockFor]
    rw [if_neg]
    rw [hsize]
    omega
  have hmade := h.made
  rw [fetch_new hmiss hnone, hlocks]
  simp only [Locks.lockFor, hnone]
  refine ⟨⟨?_, ?_, hsize, Nat.succ_pos _⟩, ?_, trivial⟩
  · rw [Locks.modify_lockOf, Dict.get?_set_other _ _ (by omega)]
    exact h.lockOf
  · intro j hj
    rw [Locks.modify_lockOf, Dict.get?_set_other _ _ (by omega)]
    exact h.unknown j (by omega)
  · rw [Locks.modify_lock_other _ _ (by omega)]
    exact Function.update_of_ne (by omega) _ _

/-- A switch that answers that nobody waits. -/
def emptyQueues : SipAnswers where
  callsList := .ok (.val [])
  enableApiNotifications := .ok ()
  callsListSubscribed := .ok (.val [])

/-- Nobody waits, the lock of customer 1 is free, and every entry has expired. -/
structure Idle (k : Nat) (s : CountersState) : Prop extends Numbered k s where
  expired : ∀ c, s.cached c = none
  lock : s.locks.lock 0 = {}
  calls : ∀ call ∈ s.fetches, ∀ lock, call.pc ≠ .waiting lock

theorem keepsAwaited_of_calls (h : ∀ call ∈ s.fetches, ∀ lock, call.pc ≠ .waiting lock) (c : Int) :
    s.KeepsAwaited (.fetch c) := by
  intro _ _ _ key _ n _
  refine .inr fun p hp => ?_
  obtain ⟨call, hcall, rfl⟩ := List.mem_map.1 hp
  have hwaits := h call hcall
  rcases call with ⟨_, _ | lock | _ | _, _⟩
  case waiting => exact absurd rfl (hwaits lock)
  all_goals rfl

theorem Idle.fetch (h : Idle k s) (hpos : 0 < k) (hroom : k < countersCacheMax) :
    Idle (k + 1) (s.fetch (k + 1 : Nat)) := by
  obtain ⟨hnumbered, hlock, hfetch⟩ := h.toNumbered.fetch hpos hroom (h.expired _)
  refine ⟨hnumbered, fun c => ?_, hlock.trans h.lock, fun call hcall => ?_⟩
  · rw [hfetch]
    exact h.expired c
  · rw [hfetch] at hcall
    rcases List.mem_append.1 hcall with hbefore | hnew
    · exact h.calls call hbefore
    · obtain rfl := List.mem_singleton.1 hnew
      exact fun _ h => nomatch h

/-- One more customer gets a lock, which drops that of customer 1, and a call for customer 1 makes another one. -/
theorem Idle.drops (h : Idle countersCacheMax s) : ((s.fetch 513).fetch 1).locks.lockOf.get? 1 ≠ some 0 ∧
    ∀ call ∈ (s.fetch 513).fetches, ∀ lock, call.pc ≠ .waiting lock := by
  have hmade := h.made
  have hunknown : s.locks.lockOf.get? 513 = none := h.unknown 513 (by decide)
  have hfetch := fetch_new (h.expired 513) hunknown
  have hdropped : (s.fetch 513).locks.lockOf.get? 1 = none := by
    rw [hfetch]
    exact countersLock_drops hunknown (by decide) h.size h.lockOf (by rw [h.lock]) hmade
  have hmade' : 0 < (s.fetch 513).locks.made := by
    rw [hfetch]
    show 0 < (countersLock s.locks 513).2.made
    rw [(countersLock_new hunknown).2.1]
    exact Nat.succ_pos _
  have hmiss : (s.fetch 513).cached 1 = none := by
    rw [hfetch]
    exact h.expired 1
  constructor
  · rw [fetch_new hmiss hdropped]
    show (countersLock (s.fetch 513).locks 1).2.lockOf.get? 1 ≠ some 0
    rw [CountersState.get?_countersLock, (countersLock_new hdropped).1]
    exact fun heq => absurd (Option.some.inj heq) (Nat.ne_of_gt hmade')
  · rw [hfetch]
    intro call hcall
    rcases List.mem_append.1 hcall with hbefore | hnew
    · exact h.calls call hbefore
    · obtain rfl := List.mem_singleton.1 hnew
      exact fun _ h => nomatch h

/-- Two calls for customer 1, and when their entry has expired, one for each of the next customers. -/
def agents (k : Nat) : List CountersEvent :=
  [.fetch 1, .fetch 1, .ended 0 emptyQueues, .resume 1, .elapse (ticks countersTtl)] ++
    (List.range k).map fun j => .fetch (j + 2 : Nat)

theorem agents_succ (k : Nat) : agents (k + 1) = agents k ++ [.fetch (k + 2 : Nat)] := by
  rw [agents, List.range_succ, List.map_append, ← List.append_assoc]
  rfl

theorem agents_idle (k : Nat) (hroom : k < countersCacheMax) :
    Along countersStep (fun s e _ => s.KeepsAwaited e) (countersBegun 0) (agents k) ∧
    ∃ s, exec countersStep (countersBegun 0) (agents k) = some s ∧ Idle (k + 1) s := by
  induction k with
  | zero =>
    refine ⟨by decide, _, rfl, ⟨rfl, fun j hj => ?_, rfl, Nat.succ_pos 0⟩, fun c => ?_, rfl, ?_⟩
    · show ((Dict.empty : Dict Int Nat).set 1 0).get? j = none
      rw [Dict.get?_set_other _ _ (by omega), Dict.get?_empty]
    · show ((((Dict.empty : Dict Int CountersEntry).set 1 { storedAt := 0, waiting := some Dict.empty }).get? c).filter
        fun entry => ticks countersTtl - entry.storedAt < ticks countersTtl).map (·.waiting) = none
      rw [Dict.get?_set]
      split
      · rfl
      · rfl
    · refine List.forall_mem_cons.2 ⟨fun lock h => ?_, List.forall_mem_cons.2 ⟨fun lock h => ?_, List.forall_mem_nil _⟩⟩
      · cases h
      · cases h
  | succ k ih =>
    obtain ⟨hkeep, s, hrun, hidle⟩ := ih (by omega)
    rw [agents_succ]
    refine ⟨along_snoc.2 ⟨hkeep, fun m _ hm _ => ?_⟩, _, exec_snoc.2 ⟨s, hrun, rfl⟩, hidle.fetch (Nat.succ_pos k) hroom⟩
    obtain rfl := Option.some.inj (hrun.symm.trans hm)
    exact keepsAwaited_of_calls hidle.calls _

end

/-! ## Runs -/

/-- However the calls interleave: a customer's counters are read once at a time, in every run in which no new lock drops
one that has been released to a waiter. In every run a read starts only where the retained outcome has expired, an
outcome is stored whether the read has failed or not, and a store keeps the bound by dropping the stalest. -/
theorem counters_cache {now : Time} {es : List CountersEvent} {s : CountersState}
    (hrun : exec countersStep (countersBegun now) es = some s) :
    (Along countersStep (fun s e _ => s.KeepsAwaited e) (countersBegun now) es →
      ∀ iCustomer, s.fetches.countP (Fetch.reads iCustomer) ≤ 1) ∧
    s.cache.size ≤ countersCacheMax ∧
    Along countersStep CountersKeeps (countersBegun now) es := by
  have hbegun := CountersOk.begun now
  refine ⟨fun hkeep iCustomer => ?_, ?_, ?_⟩
  · have hempty : (countersBegun now).LocksOk := Inv.empty
    have hok : s.LocksOk := along_invariant hempty hkeep (fun _ _ _ h hC hstep => h.step hC hstep) hrun
    have hsingle := hok.single iCustomer
    rw [CountersState.parties, List.countP_map] at hsingle
    exact hsingle
  · have hok : CountersOk s := exec_induction (P := fun _ s => CountersOk s) hbegun
      (fun _ _ _ _ _ h hstep => h.of_step hstep) hrun
    exact hok.size
  · exact along_of_invariant hbegun (fun _ _ _ h hstep => h.of_step hstep) fun _ _ _ h hstep => h.keeps hstep

/-- One more customer gets a lock, which drops that of customer 1, and customer 1 asks again. -/
def idleLock : List CountersEvent := agents 511 ++ [.fetch 513, .fetch 1]

theorem counters_cache_idleLock : Along countersStep (fun s e _ => s.KeepsAwaited e) (countersBegun 0) idleLock ∧
    ∃ s, exec countersStep (countersBegun 0) idleLock = some s ∧ s.locks.lockOf.get? 1 ≠ some 0 ∧
      s.fetches.countP (Fetch.reads 1) ≤ 1 := by
  obtain ⟨hkeep, s, hrun, hidle⟩ := agents_idle 511 (by decide)
  obtain ⟨hother, hcalls⟩ := hidle.drops
  have htail : exec countersStep s [.fetch 513, .fetch 1] = some ((s.fetch 513).fetch 1) := rfl
  have hrun' : exec countersStep (countersBegun 0) idleLock = some ((s.fetch 513).fetch 1) :=
    exec_append.2 ⟨s, hrun, htail⟩
  have hkeep' : Along countersStep (fun s e _ => s.KeepsAwaited e) (countersBegun 0) idleLock := by
    refine along_append.2 ⟨hkeep, fun m hm => ?_⟩
    obtain rfl := Option.some.inj (hrun.symm.trans hm)
    exact .cons rfl (keepsAwaited_of_calls hidle.calls _) (.cons rfl (keepsAwaited_of_calls hcalls _) (along_nil _))
  exact ⟨hkeep', _, hrun', hother, (counters_cache hrun').1 hkeep' 1⟩

/-! ## A lock that is dropped while a call is about to take it -/

section

variable {s : CountersState} {k : Nat}

/-- Two calls for customer 1, the second of which waits, and reads for `k` customers. -/
structure Crowded (k : Nat) (s : CountersState) : Prop extends Numbered k s where
  clock : s.clock = 0
  cache : s.cache = Dict.empty
  first : s.fetches[0]? = some { iCustomer := 1, pc := .reading 0 }
  second : s.fetches[1]? = some { iCustomer := 1, pc := .waiting 0 }
  lock : s.locks.lock 0 = { locked := true, waiters := [(1, .pending)] }

theorem Crowded.fetch (h : Crowded k s) (hpos : 0 < k) (hroom : k < countersCacheMax) :
    Crowded (k + 1) (s.fetch (k + 1 : Nat)) := by
  have hmiss : s.cached (k + 1 : Nat) = none := by
    simp [CountersState.cached, h.cache]
  have hlength : 1 < s.fetches.length := (List.getElem?_eq_some_iff.1 h.second).1
  obtain ⟨hnumbered, hlock, hfetch⟩ := h.toNumbered.fetch hpos hroom hmiss
  refine ⟨hnumbered, ?_, ?_, ?_, ?_, hlock.trans h.lock⟩
  · rw [hfetch]
    exact h.clock
  · rw [hfetch]
    exact h.cache
  · rw [hfetch]
    exact (List.getElem?_append_left (by omega)).trans h.first
  · rw [hfetch]
    exact (List.getElem?_append_left hlength).trans h.second

/-- Two calls for customer 1, and one for each of the next customers. -/
def crowd : Nat → List CountersEvent
  | 0 => [.fetch 1, .fetch 1]
  | k + 1 => crowd k ++ [.fetch (k + 2 : Nat)]

theorem crowd_crowded (k : Nat) (hroom : k < countersCacheMax) :
    ∃ s, exec countersStep (countersBegun 0) (crowd k) = some s ∧ Crowded (k + 1) s := by
  induction k with
  | zero =>
    refine ⟨_, rfl, ⟨rfl, fun j hj => ?_, rfl, Nat.succ_pos 0⟩, rfl, rfl, rfl, rfl, rfl⟩
    show ((Dict.empty : Dict Int Nat).set 1 0).get? j = none
    rw [Dict.get?_set_other _ _ (by omega), Dict.get?_empty]
  | succ k ih =>
    obtain ⟨s, hrun, hcrowded⟩ := ih (by omega)
    exact ⟨_, exec_snoc.2 ⟨s, hrun, rfl⟩, hcrowded.fetch (Nat.succ_pos k) hroom⟩

/-- The lock of customer 1 has been released to the call that waits for it, and every entry has expired. -/
structure Released (s : CountersState) : Prop where
  expired : ∀ c, s.cached c = none
  second : s.fetches[1]? = some { iCustomer := 1, pc := .waiting 0 }
  lockOf : s.locks.lockOf.get? 1 = some 0
  unknown : s.locks.lockOf.get? 513 = none
  size : s.locks.lockOf.size = countersCacheMax
  made : 0 < s.locks.made
  lock : s.locks.lock 0 = { locked := false, waiters := [(1, .woken)] }

theorem Crowded.released (h : Crowded countersCacheMax s) :
    ∃ t, exec countersStep s [.ended 0 emptyQueues, .elapse (ticks countersTtl)] = some t ∧ Released t := by
  let call : Fetch := { iCustomer := 1, pc := .reading 0 }
  let stored := (s.store 1 (some Dict.empty)).leave 0 call 0 (some (some Dict.empty))
  have hended : countersStep s (.ended 0 emptyQueues) = some stored := by
    simp only [countersStep, h.first]
    rfl
  have hclock : stored.clock = 0 := h.clock
  have helapse : countersStep stored (.elapse (ticks countersTtl)) =
      some { stored with clock := ticks countersTtl } := by
    rw [countersStep, if_pos]
    rw [hclock]
    decide
  have hcache : stored.cache = Dict.empty.set 1 { storedAt := 0, waiting := some Dict.empty } := by
    show storeCallersWaiting s.clock 1 (some Dict.empty) s.cache = _
    rw [h.clock, h.cache]
    rfl
  have hsecond : stored.fetches[1]? = some { iCustomer := 1, pc := .waiting 0 } :=
    (List.getElem?_set_ne (by decide)).trans h.second
  refine ⟨_, exec_cons.2 ⟨_, hended, exec_cons.2 ⟨_, helapse, rfl⟩⟩,
    ⟨fun c => ?_, hsecond, h.lockOf, ?_, h.size, h.made, ?_⟩⟩
  · simp only [CountersState.cached, hcache, Dict.get?_set]
    split
    · rfl
    · rfl
  · exact h.unknown 513 (by decide)
  · show (s.locks.modify 0 Lock.release).lock 0 = _
    rw [Locks.modify_lock_self, h.lock]
    rfl

/-- The call that waits is about to take a lock that is no longer the customer's. -/
structure Dropped (s : CountersState) : Prop where
  expired : ∀ c, s.cached c = none
  second : s.fetches[1]? = some { iCustomer := 1, pc := .waiting 0 }
  lockOf : s.locks.lockOf.get? 1 = none
  made : 0 < s.locks.made
  lock : s.locks.lock 0 = { locked := false, waiters := [(1, .woken)] }

theorem Released.fetch (h : Released s) : Dropped (s.fetch 513) := by
  have hlength : 1 < s.fetches.length := (List.getElem?_eq_some_iff.1 h.second).1
  have hmade := h.made
  obtain ⟨-, hnext, hlock⟩ := countersLock_new h.unknown
  rw [fetch_new (h.expired 513) h.unknown]
  refine ⟨h.expired, ?_, ?_, ?_, ?_⟩
  · exact (List.getElem?_append_left hlength).trans h.second
  · exact countersLock_drops h.unknown (by decide) h.size h.lockOf (by rw [h.lock]) hmade
  · show 0 < (countersLock s.locks 513).2.made
    omega
  · rw [Locks.modify_lock_other _ _ (by omega), hlock, Function.update_of_ne (by omega), h.lock]

/-- A new call for customer 1 makes another lock and reads, and so does the one that has waited. -/
theorem Dropped.two_reads (h : Dropped s) :
    ∃ t, exec countersStep s [.fetch 1, .resume 1] = some t ∧ 2 ≤ t.fetches.countP (Fetch.reads 1) := by
  let waited : Fetch := { iCustomer := 1, pc := .reading 0 }
  let new : Fetch := { iCustomer := 1, pc := .reading s.locks.made }
  have hlength : 1 < s.fetches.length := (List.getElem?_eq_some_iff.1 h.second).1
  have hmade := h.made
  have hfetch := fetch_new (h.expired 1) h.lockOf
  have hfetches : (s.fetch 1).fetches = s.fetches ++ [new] := congrArg CountersState.fetches hfetch
  have hsecond : (s.fetch 1).fetches[1]? = some { iCustomer := 1, pc := .waiting 0 } := by
    rw [hfetches, List.getElem?_append_left hlength, h.second]
  have hwoken : ((s.fetch 1).locks.lock 0).stateOf 1 = some .woken := by
    rw [hfetch, Locks.modify_lock_other _ _ (by omega), (countersLock_new h.lockOf).2.2,
      Function.update_of_ne (by omega), h.lock]
    rfl
  have hmiss : (((s.fetch 1).withLock 0 fun l => (l.leave 1).take).put 1 waited).cached 1 = none := by
    rw [hfetch]
    exact h.expired 1
  have hresume : countersStep (s.fetch 1) (.resume 1) =
      some (((s.fetch 1).withLock 0 fun l => (l.leave 1).take).put 1 waited) := by
    simp only [countersStep, hsecond, Option.bind_eq_bind, Option.bind_some, hwoken]
    exact congrArg some (by rw [CountersState.holding, hmiss])
  refine ⟨_, exec_cons.2 ⟨_, rfl, exec_cons.2 ⟨_, hresume, rfl⟩⟩, ?_⟩
  show 2 ≤ ((s.fetch 1).fetches.set 1 waited).countP (Fetch.reads 1)
  rw [hfetches, List.set_append_left _ _ hlength, List.countP_append]
  have hwaited : 0 < (s.fetches.set 1 waited).countP (Fetch.reads 1) :=
    List.countP_pos_iff.2 ⟨waited, List.mem_set hlength _, rfl⟩
  have hnew : [new].countP (Fetch.reads 1) = 1 := rfl
  omega

/-- The read of customer 1 ends, and before the call that waits for its lock runs, the entry expires and one more
customer gets a lock. -/
def droppedLock : List CountersEvent :=
  crowd 511 ++ [.ended 0 emptyQueues, .elapse (ticks countersTtl), .fetch 513, .fetch 1, .resume 1]

theorem two_reads_of_counters : ¬ ∀ (now : Time) (es : List CountersEvent) (s : CountersState),
    exec countersStep (countersBegun now) es = some s → ∀ c, s.fetches.countP (Fetch.reads c) ≤ 1 := by
  intro h
  obtain ⟨s, hcrowd, hcrowded⟩ := crowd_crowded 511 (by decide)
  obtain ⟨t, ht, hreleased⟩ := hcrowded.released
  obtain ⟨u, hu, htwo⟩ := hreleased.fetch.two_reads
  have hmany : exec countersStep t (.fetch 513 :: [.fetch 1, .resume 1]) = some u := exec_cons.2 ⟨_, rfl, hu⟩
  have hle := h 0 droppedLock u (exec_append.2 ⟨s, hcrowd, exec_append.2 ⟨t, ht, hmany⟩⟩) 1
  omega

end

end PortaPhone.CallCenter
