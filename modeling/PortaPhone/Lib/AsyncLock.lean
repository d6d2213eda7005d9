import Mathlib
import PortaPhone.Lib.Dict
import PortaPhone.Lib.Machine
/-!
# `asyncio.Lock`, and locks by key

A lock keeps its waiters in order. Giving it back unlocks it and wakes the first waiter; the lock stays unlocked until
that waiter runs, and a call that comes in between has to wait behind it. A waiter that is cancelled stays in the queue
until it runs.

`Locks κ` is a dictionary of locks that are made when a key is first asked for, and dropped when they are not locked.
A party that waits for a lock which is dropped keeps waiting for it, and a later one gets another lock: `Inv.single`,
that no two parties hold a lock for one key, depends on `Locks.Keeps` at every drop.
-/

namespace AsyncLock

open Machine

/-! ## One lock -/

inductive WaiterState
  | pending
  | woken
  | cancelled
deriving DecidableEq, Repr

/-- The waiters by the names of their tasks. -/
structure Lock where
  locked : Bool := false
  waiters : List (Nat × WaiterState) := []
deriving DecidableEq, Repr

namespace Lock

/-- `acquire` does not have to wait. -/
def canAcquire (l : Lock) : Bool := !l.locked && l.waiters.all fun w => w.2 = .cancelled

def take (l : Lock) : Lock := { l with locked := true }

def enqueue (t : Nat) (l : Lock) : Lock := { l with waiters := l.waiters ++ [(t, .pending)] }

/-- `_wake_up_first`. -/
def wakeFirst (l : Lock) : Lock :=
  match l.waiters with
  | (t, .pending) :: ws => { l with waiters := (t, .woken) :: ws }
  | _ => l

def release (l : Lock) : Lock := wakeFirst { l with locked := false }

def leave (t : Nat) (l : Lock) : Lock := { l with waiters := l.waiters.filter (·.1 ≠ t) }

/-- The end of an `acquire` that was cancelled. -/
def giveUp (t : Nat) (l : Lock) : Lock := if l.locked then l.leave t else (l.leave t).wakeFirst

/-- A waiter that has been woken is done, and stays so. -/
def cancel (t : Nat) (l : Lock) : Lock :=
  { l with waiters := l.waiters.map fun w => if w.1 = t ∧ w.2 = .pending then (t, .cancelled) else w }

def stateOf (t : Nat) (l : Lock) : Option WaiterState := (l.waiters.find? (·.1 = t)).map Prod.snd

/-- Only the first waiter can be woken, and only of a free lock. -/
structure Ok (l : Lock) : Prop where
  first : ∀ w ∈ l.waiters.tail, w.2 ≠ .woken
  free : l.locked = true → ∀ w ∈ l.waiters, w.2 ≠ .woken

variable {l : Lock} {t u : Nat}

theorem Ok.empty : Ok {} := ⟨by simp, by simp⟩

@[simp] theorem wakeFirst_locked (l : Lock) : l.wakeFirst.locked = l.locked := by
  unfold wakeFirst
  split <;> rfl

theorem take_locked (l : Lock) : l.take.locked = true := rfl

theorem enqueue_locked (t : Nat) (l : Lock) : (l.enqueue t).locked = l.locked := rfl

theorem cancel_locked (t : Nat) (l : Lock) : (l.cancel t).locked = l.locked := rfl

theorem release_locked (l : Lock) : l.release.locked = false := wakeFirst_locked _

theorem giveUp_locked (t : Nat) (l : Lock) : (l.giveUp t).locked = l.locked := by
  unfold giveUp
  split
  · rfl
  · exact wakeFirst_locked _

theorem Ok.wakeFirst (h : l.Ok) (hfree : l.locked = false) : l.wakeFirst.Ok := by
  refine ⟨?_, fun hlocked => ?_⟩
  · unfold Lock.wakeFirst
    split
    · rename_i t ws heq
      have htail := h.first
      rw [heq] at htail
      exact htail
    · exact h.first
  · rw [wakeFirst_locked, hfree] at hlocked
    cases hlocked

/-- Nobody has been woken while the lock could be taken. -/
theorem Ok.take_of_canAcquire (h : l.Ok) (hcan : l.canAcquire = true) : l.take.Ok := by
  refine ⟨h.first, fun _ w hw hwoken => ?_⟩
  simp only [canAcquire, Bool.and_eq_true, List.all_eq_true, decide_eq_true_eq] at hcan
  rw [hcan.2 w hw] at hwoken
  cases hwoken

theorem Ok.enqueue (h : l.Ok) (t : Nat) : (l.enqueue t).Ok := by
  refine ⟨fun w hw => ?_, fun hlocked w hw => ?_⟩
  · unfold Lock.enqueue at hw
    cases hws : l.waiters with
    | nil =>
      rw [hws] at hw
      cases hw
    | cons v ws =>
      have htail := h.first
      rw [hws] at htail
      rw [hws, List.cons_append, List.tail_cons, List.mem_append] at hw
      rcases hw with hw | hw
      · exact htail w hw
      · obtain rfl := List.mem_singleton.1 hw
        simp
  · rcases List.mem_append.1 hw with hw | hw
    · exact h.free hlocked w hw
    · obtain rfl := List.mem_singleton.1 hw
      simp

theorem Ok.release (h : l.Ok) : l.release.Ok :=
  Ok.wakeFirst (l := { l with locked := false }) ⟨h.first, by simp⟩ rfl

theorem Ok.leave (h : l.Ok) (t : Nat) : (l.leave t).Ok := by
  refine ⟨fun w hw => ?_, fun hlocked w hw => h.free hlocked w (List.mem_filter.1 hw).1⟩
  unfold Lock.leave at hw
  cases hws : l.waiters with
  | nil =>
    rw [hws] at hw
    cases hw
  | cons v ws =>
    have htail := h.first
    rw [hws] at htail hw
    by_cases hv : v.1 = t
    · rw [List.filter_cons_of_neg (by simpa using hv)] at hw
      exact htail w (List.mem_filter.1 (List.mem_of_mem_tail hw)).1
    · rw [List.filter_cons_of_pos (by simpa using hv)] at hw
      exact htail w (List.mem_filter.1 hw).1

theorem Ok.giveUp (h : l.Ok) (t : Nat) : (l.giveUp t).Ok := by
  unfold Lock.giveUp
  split
  · exact h.leave t
  · rename_i hlocked
    have hfree : l.locked = false := by simpa using hlocked
    exact (h.leave t).wakeFirst hfree

theorem Ok.cancel (h : l.Ok) (t : Nat) : (l.cancel t).Ok := by
  have hmap : ∀ w : Nat × WaiterState, w.2 ≠ .woken →
      (if w.1 = t ∧ w.2 = .pending then (t, .cancelled) else w).2 ≠ WaiterState.woken := by
    intro w hw
    split
    · simp
    · exact hw
  refine ⟨fun w hw => ?_, fun hlocked w hw => ?_⟩
  · simp only [Lock.cancel, ← List.map_tail, List.mem_map] at hw
    obtain ⟨v, hv, rfl⟩ := hw
    exact hmap v (h.first v hv)
  · simp only [Lock.cancel, List.mem_map] at hw
    obtain ⟨v, hv, rfl⟩ := hw
    exact hmap v (h.free hlocked v hv)

theorem mem_of_stateOf {st : WaiterState} (h : l.stateOf t = some st) : (t, st) ∈ l.waiters := by
  simp only [stateOf, Option.map_eq_some_iff] at h
  obtain ⟨w, hw, rfl⟩ := h
  have ht : w.1 = t := by simpa using List.find?_some hw
  exact ht ▸ List.mem_of_find?_eq_some hw

/-- The lock of a waiter that has been woken is free. -/
theorem Ok.free_of_woken (h : l.Ok) (ht : l.stateOf t = some .woken) : l.locked = false := by
  cases hlocked : l.locked with
  | false => rfl
  | true => exact absurd rfl (h.free hlocked _ (mem_of_stateOf ht))

/-- The waiter that has been woken takes the lock. -/
theorem Ok.take_of_woken (h : l.Ok) (ht : l.stateOf t = some .woken) : ((l.leave t).take).Ok := by
  refine ⟨(h.leave t).first, fun _ w hw => ?_⟩
  obtain ⟨hmem, hne⟩ := List.mem_filter.1 hw
  have hwoken := mem_of_stateOf ht
  cases hws : l.waiters with
  | nil =>
    rw [hws] at hmem
    cases hmem
  | cons v ws =>
    have htail := h.first
    rw [hws] at htail hmem hwoken
    rcases List.mem_cons.1 hwoken with rfl | hwoken
    · rcases List.mem_cons.1 hmem with rfl | hmem
      · simp at hne
      · exact htail w hmem
    · exact absurd rfl (htail _ hwoken)

end Lock

/-! ## Locks by key -/

variable {κ : Type}

/-- `lockOf` has the name of the lock that is in use for a key; the names from `made` on are those of later locks. -/
structure Locks (κ : Type) where
  lockOf : Dict κ Nat := Dict.empty
  made : Nat := 0
  lock : Nat → Lock := fun _ => {}

namespace Locks

def modify (s : Locks κ) (n : Nat) (f : Lock → Lock) : Locks κ :=
  { s with lock := Function.update s.lock n (f (s.lock n)) }

/-- The part of `acquire` before it waits, and whether `t` has the lock then. -/
def acquire (s : Locks κ) (n t : Nat) : Bool × Locks κ :=
  if (s.lock n).canAcquire then (true, s.modify n Lock.take) else (false, s.modify n (Lock.enqueue t))

@[simp] theorem modify_lockOf (s : Locks κ) (n : Nat) (f : Lock → Lock) : (s.modify n f).lockOf = s.lockOf := rfl

@[simp] theorem modify_lock_self (s : Locks κ) (n : Nat) (f : Lock → Lock) : (s.modify n f).lock n = f (s.lock n) := by
  simp [modify]

theorem modify_lock_other (s : Locks κ) {n m : Nat} (f : Lock → Lock) (h : m ≠ n) :
    (s.modify n f).lock m = s.lock m := Function.update_of_ne h _ _

variable [DecidableEq κ]

/-- The lock for a key, made if there is none: `locks.setdefault(k, asyncio.Lock())`. -/
def lockFor (s : Locks κ) (k : κ) : Nat × Locks κ :=
  match s.lockOf.get? k with
  | some n => (n, s)
  | none => (s.made, { lockOf := s.lockOf.set k s.made, made := s.made + 1, lock := Function.update s.lock s.made {} })

/-- `if lock is not None and not lock.locked(): del locks[k]`. -/
def dropUnlocked (s : Locks κ) (k : κ) : Locks κ :=
  match s.lockOf.get? k with
  | some n => if (s.lock n).locked then s else { s with lockOf := s.lockOf.erase k }
  | none => s

@[simp] theorem dropUnlocked_lock (s : Locks κ) (k : κ) : (s.dropUnlocked k).lock = s.lock := by
  unfold dropUnlocked
  split
  · split <;> rfl
  · rfl

@[simp] theorem dropUnlocked_made (s : Locks κ) (k : κ) : (s.dropUnlocked k).made = s.made := by
  unfold dropUnlocked
  split
  · split <;> rfl
  · rfl

theorem get?_dropUnlocked {s : Locks κ} {k j : κ} {n : Nat} :
    (s.dropUnlocked k).lockOf.get? j = some n ↔
      s.lockOf.get? j = some n ∧ (j = k → (s.lock n).locked = true) := by
  unfold dropUnlocked
  split
  · rename_i m hm
    split
    · rename_i hlocked
      refine ⟨fun h => ⟨h, ?_⟩, fun h => h.1⟩
      rintro rfl
      obtain rfl := Option.some.inj (hm.symm.trans h)
      exact hlocked
    · rename_i hfree
      rw [Dict.get?_erase]
      by_cases hj : j = k
      · subst hj
        rw [if_pos rfl]
        constructor
        · intro h
          cases h
        · rintro ⟨hget, hlocked⟩
          obtain rfl := Option.some.inj (hm.symm.trans hget)
          exact absurd (hlocked rfl) hfree
      · simp [hj]
  · rename_i hnone
    refine ⟨fun h => ⟨h, ?_⟩, fun h => h.1⟩
    rintro rfl
    rw [hnone] at h
    cases h

/-- What is left when the locks of several keys are dropped. -/
theorem get?_drop {s : Locks κ} {keys : List κ} {j : κ} {n : Nat} :
    (keys.foldl dropUnlocked s).lockOf.get? j = some n ↔
      s.lockOf.get? j = some n ∧ (j ∈ keys → (s.lock n).locked = true) := by
  induction keys generalizing s with
  | nil => simp
  | cons k keys ih =>
    rw [List.foldl_cons, ih, get?_dropUnlocked, dropUnlocked_lock, and_assoc, ← or_imp, ← List.mem_cons]

theorem drop_lock (s : Locks κ) (keys : List κ) : (keys.foldl dropUnlocked s).lock = s.lock := by
  induction keys generalizing s with
  | nil => rfl
  | cons k keys ih => rw [List.foldl_cons, ih, dropUnlocked_lock]

theorem drop_made (s : Locks κ) (keys : List κ) : (keys.foldl dropUnlocked s).made = s.made := by
  induction keys generalizing s with
  | nil => rfl
  | cons k keys ih => rw [List.foldl_cons, ih, dropUnlocked_made]

theorem get?_lockFor_self (s : Locks κ) (k : κ) : (s.lockFor k).2.lockOf.get? k = some (s.lockFor k).1 := by
  unfold lockFor
  split
  · assumption
  · exact Dict.get?_set_self _ _ _

end Locks

/-! ## Parties that use the locks -/

inductive Place
  | out
  | waiting (n : Nat)
  | holding (n : Nat)
deriving DecidableEq, Repr

structure Party (κ : Type) where
  key : κ
  place : Place
  /-- The wait has been cancelled, or what comes before it. -/
  cancelled : Bool

namespace Party

def holds (n : Nat) (p : Party κ) : Bool := p.place = .holding n

def isHolding (p : Party κ) : Bool :=
  match p.place with
  | .holding _ => true
  | _ => false

/-- The party is in the queue and will take the lock when its turn comes. -/
def awaits (n : Nat) (p : Party κ) : Bool := p.place = .waiting n && !p.cancelled

/-- The party has the lock or will take it. -/
def Needs (n : Nat) (p : Party κ) : Prop := p.place = .holding n ∨ p.awaits n = true

end Party

/-- No party awaits a free lock that would be dropped. -/
def Locks.Keeps [DecidableEq κ] (s : Locks κ) (ps : List (Party κ)) (keys : List κ) : Prop :=
  ∀ k ∈ keys, ∀ n ∈ s.lockOf.get? k, (s.lock n).locked = true ∨ ∀ p ∈ ps, p.awaits n = false

instance [DecidableEq κ] (s : Locks κ) (ps : List (Party κ)) (keys : List κ) : Decidable (s.Keeps ps keys) :=
  inferInstanceAs (Decidable (∀ k ∈ keys, ∀ n ∈ s.lockOf.get? k,
    (s.lock n).locked = true ∨ ∀ p ∈ ps, p.awaits n = false))

variable [DecidableEq κ] {s : Locks κ} {ps : List (Party κ)} {p q : Party κ} {i n : Nat} {k : κ}

/-- Parties by their names. -/
structure Inv (s : Locks κ) (ps : List (Party κ)) : Prop where
  ok : ∀ n, (s.lock n).Ok
  held : ∀ n, ps.countP (Party.holds n) = if (s.lock n).locked then 1 else 0
  current : ∀ p ∈ ps, ∀ n, p.Needs n → s.lockOf.get? p.key = some n
  old : ∀ k n, s.lockOf.get? k = some n → n < s.made

theorem Inv.empty : Inv ({} : Locks κ) [] := by
  refine ⟨fun _ => Lock.Ok.empty, ?_, ?_, ?_⟩ <;> simp

/-- No two parties hold a lock for one key. -/
theorem Inv.single (h : Inv s ps) (k : κ) : ps.countP (fun p => p.key = k && p.isHolding) ≤ 1 := by
  by_cases hnone : ∃ p ∈ ps, p.key = k ∧ p.isHolding = true
  · obtain ⟨p, hp, rfl, hhold⟩ := hnone
    unfold Party.isHolding at hhold
    split at hhold
    · rename_i n hplace
      have hcur := h.current p hp n (.inl hplace)
      have hle : ps.countP (fun q => q.key = p.key && q.isHolding) ≤ ps.countP (Party.holds n) := by
        apply List.countP_mono_left
        intro q hq hboth
        simp only [Bool.and_eq_true, decide_eq_true_eq] at hboth
        obtain ⟨hkey, hhold⟩ := hboth
        unfold Party.isHolding at hhold
        split at hhold
        · rename_i m hm
          have hcur' := h.current q hq m (.inl hm)
          rw [hkey, hcur] at hcur'
          obtain rfl := Option.some.inj hcur'
          simpa [Party.holds] using hm
        · cases hhold
      refine Nat.le_trans hle ?_
      rw [h.held n]
      split <;> omega
    · cases hhold
  · have hzero : ps.countP (fun p => p.key = k && p.isHolding) = 0 := by
      refine List.countP_eq_zero.2 fun p hp hboth => hnone ⟨p, hp, ?_⟩
      simpa using hboth
    omega

/-! ### What keeps the invariant -/

/-- A party moves, and the one lock it has to do with changes. -/
theorem Inv.move (h : Inv s ps) (hi : ps[i]? = some p) (q : Party κ) (hkey : q.key = p.key) (f : Lock → Lock)
    (hok : (f (s.lock n)).Ok) (hother : ∀ m, m ≠ n → p.holds m = q.holds m)
    (hcount : (if q.holds n then 1 else 0) + (if (s.lock n).locked then 1 else 0) =
      (if p.holds n then 1 else 0) + (if (f (s.lock n)).locked then 1 else 0))
    (hcurrent : ∀ m, q.Needs m → s.lockOf.get? p.key = some m) : Inv (s.modify n f) (ps.set i q) := by
  refine ⟨fun m => ?_, fun m => ?_, fun r hr m hneeds => ?_, h.old⟩
  · by_cases hm : m = n
    · subst hm
      rw [Locks.modify_lock_self]
      exact hok
    · rw [Locks.modify_lock_other s f hm]
      exact h.ok m
  · have hset := countP_set_add hi q (Party.holds m)
    have hheld := h.held m
    by_cases hm : m = n
    · subst hm
      rw [Locks.modify_lock_self]
      omega
    · rw [Locks.modify_lock_other s f hm, ← h.held m]
      rw [hother m hm] at hset
      omega
  · rcases List.mem_or_eq_of_mem_set hr with hr | rfl
    · exact h.current r hr m hneeds
    · rw [Locks.modify_lockOf, hkey]
      exact hcurrent m hneeds

/-- A party that asks for no lock comes in. -/
theorem Inv.join (h : Inv s ps) (hout : p.place = .out) : Inv s (ps ++ [p]) := by
  refine ⟨h.ok, fun n => ?_, fun q hq n hneeds => ?_, h.old⟩
  · rw [List.countP_append, h.held n]
    simp [Party.holds, hout]
  · rcases List.mem_append.1 hq with hq | hq
    · exact h.current q hq n hneeds
    · obtain rfl := List.mem_singleton.1 hq
      simp [Party.Needs, Party.awaits, hout] at hneeds

/-- A party that asks for no lock changes otherwise. -/
theorem Inv.relabel (h : Inv s ps) (hi : ps[i]? = some p) (hp : p.place = .out) (hq : q.place = .out)
    (hkey : q.key = p.key) : Inv s (ps.set i q) := by
  have hmove := h.move (n := 0) hi q hkey id (h.ok 0) (by simp [Party.holds, hp, hq])
    (by simp [Party.holds, hp, hq]) (by simp [Party.Needs, Party.awaits, hq])
  simpa [Locks.modify] using hmove

theorem Inv.lockFor (h : Inv s ps) (k : κ) : Inv (s.lockFor k).2 ps := by
  unfold Locks.lockFor
  split
  · exact h
  · rename_i hnone
    -- the lock that is made has a name that no party knows
    have hnew : ∀ p ∈ ps, ∀ n, p.Needs n → n ≠ s.made := fun p hp n hneeds =>
      Nat.ne_of_lt (h.old _ _ (h.current p hp n hneeds))
    refine ⟨fun n => ?_, fun n => ?_, fun p hp n hneeds => ?_, fun j n hj => ?_⟩
    · by_cases hn : n = s.made
      · simpa [hn] using Lock.Ok.empty
      · simpa [hn] using h.ok n
    · by_cases hn : n = s.made
      · subst hn
        simp only [Function.update_self, Bool.false_eq_true, if_false]
        refine List.countP_eq_zero.2 fun p hp hholds => hnew p hp _ (.inl ?_) rfl
        simpa [Party.holds] using hholds
      · simpa [hn] using h.held n
    · have hcur := h.current p hp n hneeds
      rw [Dict.get?_set_other]
      · exact hcur
      · rintro rfl
        rw [hnone] at hcur
        cases hcur
    · rw [Dict.get?_set] at hj
      split at hj
      · obtain rfl := Option.some.inj hj
        exact Nat.lt_succ_self _
      · exact Nat.lt_succ_of_lt (h.old j n hj)

/-- The lock of a party that holds it is locked. -/
theorem Inv.locked (h : Inv s ps) (hp : p ∈ ps) (hplace : p.place = .holding n) : (s.lock n).locked = true := by
  have hpos : 0 < ps.countP (Party.holds n) := List.countP_pos_iff.2 ⟨p, hp, by simp [Party.holds, hplace]⟩
  rw [h.held n] at hpos
  by_contra hfree
  simp [hfree] at hpos

theorem Inv.acquire (h : Inv s ps) (hi : ps[i]? = some p) (hout : p.place = .out) (hn : s.lockOf.get? p.key = some n) :
    Inv (s.acquire n i).2
      (ps.set i { p with place := if (s.acquire n i).1 then .holding n else .waiting n }) := by
  unfold Locks.acquire
  split
  · rename_i hcan
    have hfree : (s.lock n).locked = false := by
      simp only [Lock.canAcquire, Bool.and_eq_true, Bool.not_eq_true'] at hcan
      exact hcan.1
    show Inv (s.modify n Lock.take) (ps.set i { p with place := .holding n })
    refine h.move hi { p with place := .holding n } rfl Lock.take ((h.ok n).take_of_canAcquire hcan) ?_ ?_ ?_
    · intro m hm
      simp [Party.holds, hout, Ne.symm hm]
    · simp [Party.holds, hout, hfree, Lock.take_locked]
    · simpa [Party.Needs, Party.awaits] using hn
  · show Inv (s.modify n (Lock.enqueue i)) (ps.set i { p with place := .waiting n })
    refine h.move hi { p with place := .waiting n } rfl (Lock.enqueue i) ((h.ok n).enqueue i) ?_ ?_ ?_
    · simp [Party.holds, hout]
    · rw [Lock.enqueue_locked]
      simp [Party.holds, hout]
    · simpa [Party.Needs, Party.awaits] using fun _ => hn

/-- The waiter that has been woken goes on. -/
theorem Inv.resume (h : Inv s ps) (hi : ps[i]? = some p) (hplace : p.place = .waiting n) (hlive : p.cancelled = false)
    (hwoken : (s.lock n).stateOf i = some .woken) :
    Inv (s.modify n fun l => (l.leave i).take) (ps.set i { p with place := .holding n }) := by
  have hcur := h.current p (List.mem_of_getElem? hi) n (.inr (by simp [Party.awaits, hplace, hlive]))
  refine h.move hi { p with place := .holding n } rfl _ ((h.ok n).take_of_woken hwoken) ?_ ?_ ?_
  · intro m hm
    simp [Party.holds, hplace, Ne.symm hm]
  · simp [Party.holds, hplace, (h.ok n).free_of_woken hwoken, Lock.take_locked]
  · simpa [Party.Needs, Party.awaits] using hcur

/-- A waiter that has been cancelled leaves. -/
theorem Inv.giveUp (h : Inv s ps) (hi : ps[i]? = some p) (hplace : p.place = .waiting n) :
    Inv (s.modify n (Lock.giveUp i)) (ps.set i { p with place := .out }) := by
  refine h.move hi { p with place := .out } rfl _ ((h.ok n).giveUp i) ?_ ?_ ?_
  · simp [Party.holds, hplace]
  · simp [Party.holds, hplace, Lock.giveUp_locked]
  · simp [Party.Needs, Party.awaits]

theorem Inv.cancel (h : Inv s ps) (hi : ps[i]? = some p) (hplace : p.place = .waiting n) :
    Inv (s.modify n (Lock.cancel i)) (ps.set i { p with cancelled := true }) := by
  refine h.move hi { p with cancelled := true } rfl _ ((h.ok n).cancel i) ?_ ?_ ?_
  · simp [Party.holds]
  · rw [Lock.cancel_locked]
    rfl
  · simp [Party.Needs, Party.awaits, hplace]

theorem Inv.release (h : Inv s ps) (hi : ps[i]? = some p) (hplace : p.place = .holding n) :
    Inv (s.modify n Lock.release) (ps.set i { p with place := .out }) := by
  refine h.move hi { p with place := .out } rfl _ (h.ok n).release ?_ ?_ ?_
  · intro m hm
    simp [Party.holds, hplace, Ne.symm hm]
  · simp [Party.holds, hplace, h.locked (List.mem_of_getElem? hi) hplace, Lock.release_locked]
  · simp [Party.Needs, Party.awaits]

theorem Inv.dropUnlocked (h : Inv s ps)
    (hkeep : ∀ n ∈ s.lockOf.get? k, (s.lock n).locked = true ∨ ∀ p ∈ ps, p.awaits n = false) :
    Inv (s.dropUnlocked k) ps := by
  refine ⟨fun n => ?_, fun n => ?_, fun p hp n hneeds => ?_, fun j n hj => ?_⟩
  · rw [Locks.dropUnlocked_lock]
    exact h.ok n
  · rw [Locks.dropUnlocked_lock]
    exact h.held n
  · have hcur := h.current p hp n hneeds
    refine Locks.get?_dropUnlocked.2 ⟨hcur, ?_⟩
    rintro rfl
    rcases hkeep n hcur with hlocked | hnobody
    · exact hlocked
    · rcases hneeds with hplace | hawaits
      · exact h.locked hp hplace
      · rw [hnobody p hp] at hawaits
        cases hawaits
  · rw [Locks.dropUnlocked_made]
    exact h.old j n (Locks.get?_dropUnlocked.1 hj).1

/-- A lock that is made changes nothing for the other keys. -/
theorem Inv.keeps_lockFor (h : Inv s ps) (hkeep : s.Keeps ps s.lockOf.keys) {keys : List κ} (hk : k ∉ keys) :
    (s.lockFor k).2.Keeps ps keys := by
  intro j hj n hn
  have hne : j ≠ k := fun heq => hk (heq ▸ hj)
  have hbefore : s.lockOf.get? j = some n ∧ (s.lockFor k).2.lock n = s.lock n := by
    unfold Locks.lockFor at hn ⊢
    split
    · rename_i m hm
      rw [hm] at hn
      exact ⟨hn, rfl⟩
    · rename_i hnone
      simp only [hnone] at hn
      rw [Option.mem_def, Dict.get?_set_other _ _ hne] at hn
      exact ⟨hn, Function.update_of_ne (Nat.ne_of_lt (h.old j n hn)) _ _⟩
  obtain ⟨hget, hlock⟩ := hbefore
  rw [hlock]
  exact hkeep j (s.lockOf.mem_keys.2 ⟨n, hget⟩) n hget

/-- The locks of several keys are dropped. -/
theorem Inv.drop {keys : List κ} (h : Inv s ps) (hkeep : s.Keeps ps keys) :
    Inv (keys.foldl Locks.dropUnlocked s) ps := by
  induction keys generalizing s with
  | nil => exact h
  | cons k keys ih =>
    apply ih (h.dropUnlocked (hkeep k List.mem_cons_self))
    intro j hj n hn
    rw [Locks.dropUnlocked_lock]
    exact hkeep j (List.mem_cons_of_mem _ hj) n (Locks.get?_dropUnlocked.1 hn).1

end AsyncLock
