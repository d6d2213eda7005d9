import Mathlib
import PortaPhone.Contacts.CacheMachine
import PortaPhone.Contacts.Pages
/-!
# One read of a customer's list at a time

The read that fills the cache runs under the customer's lock, but a lock that has been released is unlocked until its
next waiter runs, and an eviction in between deletes it. `single_flight`: no customer has two reads in progress as long
as no eviction drops a lock that somebody is about to take.
-/

namespace PortaPhone.Contacts

open Machine AsyncLock

/-! ## Calls as parties of the locks -/

def CallPc.place : CallPc → Place
  | .waiting lock => .waiting lock
  | .reading lock => .holding lock
  | _ => .out

def Call.party (call : Call) : Party Int := ⟨call.iCustomer, call.pc.place, call.cancelled⟩

/-- The call is reading the list of the customer into the cache. -/
def Call.reads (iCustomer : Int) (call : Call) : Bool := call.party.key = iCustomer && call.party.isHolding

namespace CacheState

def parties (s : CacheState) : List (Party Int) := s.calls.map Call.party

/-- A list that is stored drops no lock that a call is about to take. -/
def KeepsAwaited (s : CacheState) (e : CacheEvent) : Prop :=
  ∀ p ∈ s.storing e, s.locks.Keeps s.parties (s.evicted p.1 p.2)

instance (s : CacheState) (e : CacheEvent) : Decidable (s.KeepsAwaited e) :=
  inferInstanceAs (Decidable (∀ p ∈ s.storing e, s.locks.Keeps s.parties (s.evicted p.1 p.2)))

def LocksOk (s : CacheState) : Prop := Inv s.locks s.parties

variable {ttl : Nat} {s t : CacheState} {i lock : Nat} {call call' : Call} {e : CacheEvent}

theorem parties_at (hi : s.calls[i]? = some call) : s.parties[i]? = some call.party := by
  rw [parties, List.getElem?_map, hi]
  rfl

theorem parties_put (s : CacheState) (i : Nat) (call : Call) : (s.put i call).parties = s.parties.set i call.party :=
  List.map_set

/-! ## Every step keeps the locks in order -/

theorem LocksOk.begin (h : s.LocksOk) (c : Int) (filter : Option (SearchField × String)) (background : Bool) :
    (s.begin c filter background).LocksOk := by
  show Inv s.locks ((s.calls ++ [_]).map Call.party)
  rw [List.map_append]
  exact h.join rfl

/-- A call that has no lock, before and after. -/
theorem LocksOk.put (h : s.LocksOk) (hi : s.calls[i]? = some call) (hcustomer : call'.iCustomer = call.iCustomer)
    (hout : call.pc.place = .out) (hout' : call'.pc.place = .out) : (s.put i call').LocksOk := by
  show Inv s.locks (s.put i call').parties
  rw [parties_put]
  exact Inv.relabel h (parties_at hi) hout hout' hcustomer

/-- A call that has the lock returns. -/
theorem LocksOk.leave (h : s.LocksOk) (hi : s.calls[i]? = some call) (hpc : call.pc.place = .holding lock) :
    ((s.put i { call with pc := .done }).withLock lock Lock.release).LocksOk := by
  show Inv (s.locks.modify lock Lock.release) (s.put i { call with pc := .done }).parties
  rw [parties_put]
  exact Inv.release h (parties_at hi) hpc

theorem LocksOk.holding (h : s.LocksOk) (hi : s.calls[i]? = some { call with pc := .reading lock }) :
    (s.holding ttl i call lock).LocksOk := by
  have hleave := h.leave hi rfl
  unfold CacheState.holding
  split
  · exact hleave
  · exact h

theorem LocksOk.readIntoCache (h : s.LocksOk) (hi : s.calls[i]? = some call) (hpc : call.pc = .created) :
    (s.readIntoCache ttl i call).LocksOk := by
  have hout : call.party.place = .out := by
    rw [Call.party, hpc]
    rfl
  have hlock := Inv.lockFor h call.iCustomer
  have hacquire := hlock.acquire (parties_at hi) hout (Locks.get?_lockFor_self _ _)
  unfold CacheState.readIntoCache
  simp only
  split
  · rename_i hgot
    rw [hgot, if_pos rfl] at hacquire
    refine LocksOk.holding ?_ (put_at (s := { s with locks := _ }) hi _)
    show Inv _ (CacheState.parties (CacheState.put _ _ _))
    rw [parties_put]
    exact hacquire
  · rename_i hgot
    rw [if_neg hgot] at hacquire
    show Inv _ (CacheState.parties (CacheState.put _ _ _))
    rw [parties_put]
    exact hacquire

theorem LocksOk.scheduleRefresh (h : s.LocksOk) (c : Int) : (s.scheduleRefresh c).LocksOk := by
  unfold CacheState.scheduleRefresh
  split
  · exact h
  · exact h.begin c none true

theorem LocksOk.request (h : s.LocksOk) (c : Int) (filter : Option (SearchField × String)) :
    (s.request ttl c filter).LocksOk := by
  have hbegun := h.begin c filter false
  have hi := s.begin_at c filter false
  unfold CacheState.request
  simp only
  split
  · exact hbegun.put hi rfl rfl rfl
  · split
    · exact hbegun.put hi rfl rfl rfl
    · split
      · exact (hbegun.scheduleRefresh c).put (scheduleRefresh_at hi c) rfl rfl rfl
      · exact hbegun.readIntoCache hi rfl

/-- Of the steps, only the storing of a list asks for the condition. -/
theorem LocksOk.step (h : s.LocksOk) (hkeep : s.KeepsAwaited e) (hstep : cacheStep ttl s e = some t) : t.LocksOk := by
  have hplace : ∀ {call : Call} {pc : CallPc}, call.pc = pc → call.pc.place = pc.place := fun h => congrArg _ h
  cases cacheStep_move hstep with
  | elapse => exact h
  | call c filter => exact h.request c filter
  | skip hi hpc => exact h.put hi rfl (hplace hpc) rfl
  | start hi hpc => exact h.readIntoCache hi hpc
  | resume hi hpc hlive hwoken =>
    refine LocksOk.holding ?_ (put_at (s := s.withLock _ _) hi _)
    show Inv _ (CacheState.parties (CacheState.put _ _ _))
    rw [parties_put]
    exact Inv.resume h (parties_at hi) (hplace hpc) hlive hwoken
  | giveUp hi hpc =>
    show Inv _ (CacheState.put _ _ _).parties
    rw [parties_put]
    exact Inv.giveUp h (parties_at hi) (hplace hpc)
  | cancelStart hi hpc => exact h.put hi rfl (hplace hpc) (hplace hpc)
  | cancelWait hi hpc =>
    show Inv _ (CacheState.put _ _ _).parties
    rw [parties_put]
    exact Inv.cancel h (parties_at hi) (hplace hpc)
  | stored hi hpc hread =>
    have hstore : (s.store _ _).LocksOk := Inv.drop h (hkeep _ (storing_stored hi hpc hread))
    exact hstore.leave hi (hplace hpc)
  | failed hi hpc _ => exact h.leave hi (hplace hpc)
  | answered hi hpc _ => exact h.put hi rfl (hplace hpc) rfl
  | unanswered hi hpc => exact h.put hi rfl (hplace hpc) rfl
  | forget => exact h
  | keep => exact h

end CacheState

/-! ## Lists that are too long to be kept together -/

section

variable {ttl : Nat} {s : CacheState} {i lock : Nat} {call : Call} {api : AdminApi} {accounts : List Account}

/-- The list of a customer alone is never dropped. -/
theorem storeAccounts_empty (now : Time) (c : Int) (accounts : List Account) :
    storeAccounts now c accounts Dict.empty = Dict.empty.set c { storedAt := now, accounts } := by
  have hsize : (Dict.empty.set c (⟨now, accounts⟩ : CacheEntry)).size = 1 := rfl
  simp [storeAccounts, evictOverLimit, evictLoop, hsize]

/-- Of two lists that are too long together the older one goes. -/
theorem storeAccounts_two {now now' : Time} {c c' : Int} {old new : List Account} (hne : c ≠ c') (hold : old ≠ [])
    (hlong : cacheMaxRows < old.length + new.length) :
    storeAccounts now c' new (Dict.empty.set c { storedAt := now', accounts := old }) =
      Dict.empty.set c' { storedAt := now, accounts := new } := by
  -- the two entries before the loop, and the one that it leaves
  let left : AccountsCache := Dict.empty.set c' { storedAt := now, accounts := new }
  let both : AccountsCache := (Dict.empty.set c { storedAt := now', accounts := old }).set c'
    { storedAt := now, accounts := new }
  have hentries : both.entries = [(c, ⟨now', old⟩), (c', ⟨now, new⟩)] := by
    simp [both, Dict.set, Dict.setEntries, Dict.empty, hne]
  have hsize : both.size = 2 := by simp [Dict.size, hentries]
  have hrows : cachedRows both = old.length + new.length := by simp [cachedRows, Dict.values, hentries]
  have holdest : oldestOther c' both = some (c, ⟨now', old⟩) := by simp [oldestOther, hentries, hne]
  have herase : both.erase c = left := by
    simp [Dict.erase, hentries, left, Dict.set, Dict.setEntries, Dict.empty, Ne.symm hne]
  have hleft : left.size = 1 := rfl
  have hloop : evictLoop c' both.size (cachedRows both) both = left := by
    simp [hsize, hrows, evictLoop, holdest, herase, hleft, hold, hlong]
  exact hloop

/-- A read that ends well, with the cache after it and the customers that it drops. -/
theorem cacheStep_ended (cache : AccountsCache) (dropped : List Int) (hi : s.calls[i]? = some call)
    (hpc : call.pc = .reading lock) (hread : fetchProjected api call.iCustomer = .ok accounts)
    (hcache : storeAccounts s.clock call.iCustomer accounts s.cache = cache)
    (hdropped : (s.cache.keys.filter fun c => (cache.get? c).isNone) = dropped) :
    cacheStep ttl s (.ended i (some api)) = some
      ((({ s with
          cache
          locks := dropped.foldl Locks.dropUnlocked s.locks
          reads := s.reads ++ [{ iCustomer := call.iCustomer, filter := none, api, endedAt := s.clock }]
        } : CacheState).finish i call accounts).withLock lock Lock.release) := by
  subst hcache hdropped
  simp [cacheStep, hi, hpc, hread, Except.toOption]
  rfl

theorem keepsAwaited_of_none {e : CacheEvent} (h : s.storing e = none) : s.KeepsAwaited e := by
  simp [CacheState.KeepsAwaited, h]

theorem keepsAwaited_ended {cache : AccountsCache} {dropped : List Int} (hi : s.calls[i]? = some call)
    (hpc : call.pc = .reading lock) (hread : fetchProjected api call.iCustomer = .ok accounts)
    (hcache : storeAccounts s.clock call.iCustomer accounts s.cache = cache)
    (hdropped : (s.cache.keys.filter fun c => (cache.get? c).isNone) = dropped)
    (hkeep : s.locks.Keeps s.parties dropped) : s.KeepsAwaited (.ended i (some api)) := by
  subst hcache hdropped
  intro p hp
  obtain rfl := Option.some.inj ((CacheState.storing_stored hi hpc hread).symm.trans hp)
  exact hkeep

/-- Every customer has 60000 accounts. -/
def crowded : Accounts where
  of c := (List.range 60000).map fun i : Nat => { iAccount := 60000 * c + i }
  distinct c := by
    rw [List.map_map]
    apply List.nodup_range.map
    intro i j h
    simp only [Function.comp_apply] at h
    omega
  disjoint c c' a a' ha ha' h := by
    obtain ⟨i, hi, rfl⟩ := List.mem_map.1 ha
    obtain ⟨j, hj, rfl⟩ := List.mem_map.1 ha'
    have hi := List.mem_range.1 hi
    have hj := List.mem_range.1 hj
    simp only at h
    omega

def crowdedSwitch : AdminApi where
  getAccountList c query :=
    .ok (some ⟨.val (((crowded.of c).drop (query.offset.getD 0)).take (query.limit.getD 0)),
      .val (crowded.of c).length⟩)
  getAccountInfo _ := .ok none
  getExtensionsList _ _ := .ok []
  getCustomerInfo _ := .ok {}
  getCustomerList _ := .ok .absent

theorem crowdedSwitch_read (c : Int) :
    ∃ accounts, fetchProjected crowdedSwitch c = .ok accounts ∧ accounts.length = 60000 := by
  have hslices : Slices crowded crowdedSwitch := fun c => ⟨crowded.of c, List.Perm.refl _, fun _ _ => rfl⟩
  obtain ⟨rows, hfetch, hperm⟩ := fetchAccountsByCustomer_slices hslices c
  refine ⟨rows.map projectAccount, by rw [fetchProjected, hfetch]; rfl, ?_⟩
  rw [List.length_map, hperm.length_eq, crowded, List.length_map, List.length_range]

end

/-! ## Runs -/

/-- However requests, refreshes, reads and evictions interleave, a customer's list is read once at a time, in every run
in which no eviction drops a lock that has been released to a waiter. -/
theorem single_flight {ttl : Nat} {now : Time} {es : List CacheEvent} {s : CacheState}
    (hkeep : Along (cacheStep ttl) (fun s e _ => s.KeepsAwaited e) (cacheBegun now) es)
    (hrun : exec (cacheStep ttl) (cacheBegun now) es = some s) (iCustomer : Int) :
    s.calls.countP (Call.reads iCustomer) ≤ 1 := by
  have hbegun : (cacheBegun now).LocksOk := Inv.empty
  have hok : s.LocksOk := along_invariant hbegun hkeep (fun _ _ _ h hC hstep => h.step hC hstep) hrun
  have hsingle := hok.single iCustomer
  rw [CacheState.parties, List.countP_map] at hsingle
  exact hsingle

/-- The list of customer 1 is dropped with its lock, which nobody waits for any more, and is read once again. -/
def droppedList : List CacheEvent :=
  [.call 1 none, .call 1 none, .call 2 none, .ended 0 (some crowdedSwitch), .resume 1, .ended 2 (some crowdedSwitch),
    .call 1 none]

theorem single_flight_droppedList :
    Along (cacheStep 60) (fun s e _ => s.KeepsAwaited e) (cacheBegun 0) droppedList ∧
    ∃ s, exec (cacheStep 60) (cacheBegun 0) droppedList = some s ∧ s.cache.keys = [2] ∧
      s.calls.countP (Call.reads 1) ≤ 1 := by
  obtain ⟨old, hold, hlen⟩ := crowdedSwitch_read 1
  obtain ⟨new, hnew, hlen'⟩ := crowdedSwitch_read 2
  have hne : old ≠ [] := by
    rintro rfl
    cases hlen
  have hlong : cacheMaxRows < old.length + new.length := by
    rw [hlen, hlen']
    decide
  have halone := storeAccounts_empty 0 1 old
  have htwo : storeAccounts 0 2 new (Dict.empty.set 1 { storedAt := 0, accounts := old }) =
      Dict.empty.set 2 { storedAt := 0, accounts := new } := storeAccounts_two (by decide) hne hlong
  -- the calls for customer 1 have returned when the second list is stored
  have hnone : ∀ p ∈ ([⟨1, .out, false⟩, ⟨1, .out, false⟩, ⟨2, .holding 1, false⟩] : List (Party Int)),
      p.awaits 0 = false := by decide
  have hdrops : ∀ c ∈ [(1 : Int)], ∀ n ∈ (Dict.empty.set 1 0 |>.set 2 1 : Dict Int Nat).get? c, n = 0 := by decide
  have hkeep : Along (cacheStep 60) (fun s e _ => s.KeepsAwaited e) (cacheBegun 0) droppedList :=
    .cons rfl (keepsAwaited_of_none rfl) <| .cons rfl (keepsAwaited_of_none rfl) <|
    .cons rfl (keepsAwaited_of_none rfl) <|
    .cons (cacheStep_ended _ [] rfl rfl hold halone rfl)
      (keepsAwaited_ended rfl rfl hold halone rfl fun _ h => nomatch h) <|
    .cons rfl (keepsAwaited_of_none rfl) <|
    .cons (cacheStep_ended _ [1] rfl rfl hnew htwo rfl)
      (keepsAwaited_ended rfl rfl hnew htwo rfl fun c hc n hn => by
        obtain rfl := hdrops c hc n hn
        exact .inr hnone) <|
    .cons rfl (keepsAwaited_of_none rfl) (along_nil _)
  have hrun : ∃ s, exec (cacheStep 60) (cacheBegun 0) droppedList = some s ∧ s.cache.keys = [2] :=
    ⟨_, exec_cons.2 ⟨_, rfl, exec_cons.2 ⟨_, rfl, exec_cons.2 ⟨_, rfl,
      exec_cons.2 ⟨_, cacheStep_ended _ [] rfl rfl hold halone rfl, exec_cons.2 ⟨_, rfl,
      exec_cons.2 ⟨_, cacheStep_ended _ [1] rfl rfl hnew htwo rfl, exec_cons.2 ⟨_, rfl, rfl⟩⟩⟩⟩⟩⟩⟩, rfl⟩
  obtain ⟨s, hrun, hkeys⟩ := hrun
  exact ⟨hkeep, s, hrun, hkeys, single_flight hkeep hrun 1⟩

/-! ## A lock that is dropped while a call is about to take it -/

/-- The lock of customer 1 is released to call 1, and before that runs the list of customer 2 drops it. -/
def awaitedEviction : List CacheEvent :=
  [.call 1 none, .call 1 none, .call 2 none, .ended 0 (some crowdedSwitch), .ended 2 (some crowdedSwitch), .resume 1,
    .call 1 none]

theorem two_reads_at_once : ¬ ∀ (ttl : Nat) (now : Time) (es : List CacheEvent) (s : CacheState),
    exec (cacheStep ttl) (cacheBegun now) es = some s → ∀ c, s.calls.countP (Call.reads c) ≤ 1 := by
  intro h
  obtain ⟨old, hold, hlen⟩ := crowdedSwitch_read 1
  obtain ⟨new, hnew, hlen'⟩ := crowdedSwitch_read 2
  have hne : old ≠ [] := by
    rintro rfl
    cases hlen
  have hlong : cacheMaxRows < old.length + new.length := by
    rw [hlen, hlen']
    decide
  have hrun : ∃ s, exec (cacheStep 60) (cacheBegun 0) awaitedEviction = some s ∧ s.calls.countP (Call.reads 1) = 2 :=
    ⟨_, exec_cons.2 ⟨_, rfl, exec_cons.2 ⟨_, rfl, exec_cons.2 ⟨_, rfl,
      exec_cons.2 ⟨_, cacheStep_ended _ [] rfl rfl hold (storeAccounts_empty 0 1 old) rfl,
      exec_cons.2 ⟨_, cacheStep_ended _ [1] rfl rfl hnew (storeAccounts_two (by decide) hne hlong) rfl,
      exec_cons.2 ⟨_, rfl, exec_cons.2 ⟨_, rfl, rfl⟩⟩⟩⟩⟩⟩⟩, rfl⟩
  obtain ⟨s, hrun, htwo⟩ := hrun
  have hle := h 60 0 awaitedEviction s hrun 1
  omega

end PortaPhone.Contacts
