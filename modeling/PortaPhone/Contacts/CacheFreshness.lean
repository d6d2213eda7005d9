import Mathlib
import PortaPhone.Contacts.CacheMachine
import PortaPhone.Contacts.Pages
/-!
# What the accounts cache serves

`CacheOk` ties every entry to the read that it was stored from, and every list that a request was given to a read that
ended during the request or not long before it. A step that stores nothing leaves the cache as it is, and a refresh is
started only when the last one for the customer is done.

The cache of a run is one that has been filled by reads (`cache_filled`), which is what the contacts of a request are
computed from: over accounts that do not change, a request sees them whatever runs there have been
(`offices_after_runs`).
-/

namespace PortaPhone.Contacts

open Machine AsyncLock

/-- The list is the projection of what this read of all of the customer's accounts has found. -/
def ListRead.Gives (r : ListRead) (iCustomer : Int) (accounts : List Account) : Prop :=
  r.iCustomer = iCustomer ∧ r.filter = none ∧ fetchProjected r.api iCustomer = .ok accounts

/-- Stored during the call, or less than ten times `ttl` before it. -/
def ServedList.Fresh (ttl : Nat) (reads : List ListRead) (v : ServedList) : Prop :=
  ∃ r ∈ reads, r.Gives v.iCustomer v.accounts ∧
    (v.calledAt ≤ r.endedAt ∧ r.endedAt ≤ v.servedAt ∨
      r.endedAt < v.calledAt ∧ v.calledAt - r.endedAt < ticks ttl * staleFactor)

/-- A background refresh that is not done. -/
def Call.refreshing (call : Call) : Prop := call.background = true ∧ call.pc ≠ .done

/-- The entry is what a read has given, when it was stored. -/
def EntryOf (reads : List ListRead) (iCustomer : Int) (entry : CacheEntry) : Prop :=
  ∃ r ∈ reads, r.Gives iCustomer entry.accounts ∧ r.endedAt = entry.storedAt

structure CacheOk (ttl : Nat) (s : CacheState) : Prop where
  entries : s.cache.All (EntryOf s.reads)
  past : ∀ r ∈ s.reads, r.endedAt ≤ s.clock
  called : ∀ call ∈ s.calls, call.calledAt ≤ s.clock
  filtered : ∀ call ∈ s.calls, call.pc = .fetching → call.filter ≠ none
  fresh : ∀ v ∈ s.served, v.filter = none → v.Fresh ttl s.reads
  current : ∀ i call, s.calls[i]? = some call → call.refreshing → s.refreshTasks.get? call.iCustomer = some i

variable {ttl : Nat} {s t : CacheState} {i lock : Nat} {call call' : Call} {e : CacheEvent} {entry : CacheEntry}
  {accounts : List Account} {api : AdminApi}

theorem entryWithin_some {limit : Int} {c : Int} (h : s.moment.entryWithin limit c = some entry) :
    s.cache.get? c = some entry ∧ s.clock - entry.storedAt < limit := by
  obtain ⟨hget, hage⟩ := Option.filter_eq_some_iff.1 h
  exact ⟨hget, of_decide_eq_true hage⟩

theorem ticks_le (ttl : Nat) : ticks ttl ≤ ticks ttl * staleFactor := by
  simp only [ticks, staleFactor]
  omega

theorem ServedList.Fresh.mono {v : ServedList} {reads : List ListRead} (h : v.Fresh ttl reads) (r : ListRead) :
    v.Fresh ttl (reads ++ [r]) := by
  obtain ⟨r', hr', hgives⟩ := h
  exact ⟨r', List.mem_append_left _ hr', hgives⟩

theorem EntryOf.mono {c : Int} {reads : List ListRead} (h : EntryOf reads c entry) (r : ListRead) :
    EntryOf (reads ++ [r]) c entry := by
  obtain ⟨r', hr', hgives⟩ := h
  exact ⟨r', List.mem_append_left _ hr', hgives⟩

namespace CacheOk

theorem begun (now : Time) : CacheOk ttl (cacheBegun now) := by
  refine ⟨Dict.All.empty, ?_, ?_, ?_, ?_, ?_⟩ <;> simp [cacheBegun]

/-- A list from an entry that is young enough for the call. -/
theorem fresh_of_entry (h : CacheOk ttl s) {c : Int} {limit : Int} (hentry : s.moment.entryWithin limit c = some entry)
    (hlimit : limit ≤ ticks ttl * staleFactor) (filter : Option (SearchField × String)) {calledAt : Time}
    (hcalled : calledAt ≤ s.clock) : ServedList.Fresh ttl s.reads ⟨c, filter, calledAt, s.clock, entry.accounts⟩ := by
  obtain ⟨hget, hage⟩ := entryWithin_some hentry
  obtain ⟨r, hr, hgives, hstored⟩ := h.entries c entry hget
  have hpast := h.past r hr
  refine ⟨r, hr, hgives, ?_⟩
  by_cases hduring : calledAt ≤ r.endedAt
  · exact .inl ⟨hduring, hpast⟩
  · refine .inr ⟨by simpa using hduring, ?_⟩
    calc calledAt - r.endedAt ≤ s.clock - r.endedAt := Int.sub_le_sub_right hcalled _
      _ = s.clock - entry.storedAt := by rw [hstored]
      _ < limit := hage
      _ ≤ ticks ttl * staleFactor := hlimit

/-! ### What keeps it -/

theorem put (h : CacheOk ttl s) (hi : s.calls[i]? = some call) (hsame : call'.iCustomer = call.iCustomer)
    (hcalled : call'.calledAt = call.calledAt) (hfiltered : call'.pc = .fetching → call'.filter ≠ none)
    (hrefreshing : call'.refreshing → call.refreshing) : CacheOk ttl (s.put i call') := by
  have hmem := List.mem_of_getElem? hi
  refine ⟨h.entries, h.past, fun c hc => ?_, fun c hc => ?_, h.fresh, fun j c hj hc => ?_⟩
  · rcases List.mem_or_eq_of_mem_set hc with hc | rfl
    · exact h.called c hc
    · rw [hcalled]
      exact h.called call hmem
  · rcases List.mem_or_eq_of_mem_set hc with hc | rfl
    · exact h.filtered c hc
    · exact hfiltered
  · by_cases hji : j = i
    · subst hji
      have hself : (s.put j call').calls[j]? = some call' :=
        List.getElem?_set_self (List.getElem?_eq_some_iff.1 hi).1
      obtain rfl := Option.some.inj (hself.symm.trans hj)
      rw [hsame]
      exact h.current j call hi (hrefreshing hc)
    · have hother : (s.put i call').calls[j]? = s.calls[j]? := List.getElem?_set_ne (Ne.symm hji)
      exact h.current j c (hother.symm.trans hj) hc

/-- A call that goes on, or is done, without having been given a list. -/
theorem goto (h : CacheOk ttl s) (hi : s.calls[i]? = some call) (pc : CallPc) (hpc : pc ≠ .fetching)
    (hlive : call.pc ≠ .done) : CacheOk ttl (s.put i { call with pc }) :=
  h.put hi rfl rfl (fun hfetching => absurd hfetching hpc) fun hc => ⟨hc.1, hlive⟩

theorem flag (h : CacheOk ttl s) (hi : s.calls[i]? = some call) (hpc : call.pc ≠ .fetching) :
    CacheOk ttl (s.put i { call with cancelled := true }) :=
  h.put hi rfl rfl (fun hfetching => absurd hfetching hpc) id

theorem withLock (h : CacheOk ttl s) (lock : Nat) (f : Lock → Lock) : CacheOk ttl (s.withLock lock f) :=
  ⟨h.entries, h.past, h.called, h.filtered, h.fresh, h.current⟩

theorem finish (h : CacheOk ttl s) (hi : s.calls[i]? = some call) (accounts : List Account) (hlive : call.pc ≠ .done)
    (hfresh : call.filter = none →
      ServedList.Fresh ttl s.reads ⟨call.iCustomer, call.filter, call.calledAt, s.clock, accounts⟩) :
    CacheOk ttl (s.finish i call accounts) := by
  have hput := h.goto hi .done (by simp) hlive
  refine ⟨hput.entries, hput.past, hput.called, hput.filtered, fun v hv => ?_, hput.current⟩
  simp only [CacheState.finish] at hv
  split at hv
  · exact h.fresh v hv
  · rcases List.mem_append.1 hv with hv | hv
    · exact h.fresh v hv
    · obtain rfl := List.mem_singleton.1 hv
      exact hfresh

/-- A task that begins, with the tasks that are known as refreshes then. -/
theorem begin (h : CacheOk ttl s) (c : Int) (filter : Option (SearchField × String)) (background : Bool)
    (refreshTasks : Dict Int Nat)
    (hold : ∀ i call, s.calls[i]? = some call → call.refreshing → refreshTasks.get? call.iCustomer = some i)
    (hnew : background = true → refreshTasks.get? c = some s.calls.length) :
    CacheOk ttl { s.begin c filter background with refreshTasks } := by
  refine ⟨h.entries, h.past, fun call hc => ?_, fun call hc => ?_, h.fresh, fun i call hi hc => ?_⟩
  · rcases List.mem_append.1 hc with hc | hc
    · exact h.called call hc
    · obtain rfl := List.mem_singleton.1 hc
      exact Int.le_refl _
  · rcases List.mem_append.1 hc with hc | hc
    · exact h.filtered call hc
    · obtain rfl := List.mem_singleton.1 hc
      simp
  · by_cases hlt : i < s.calls.length
    · have hbefore : s.calls[i]? = some call := (List.getElem?_append_left hlt).symm.trans hi
      exact hold i call hbefore hc
    · have hlength : i < (s.begin c filter background).calls.length := (List.getElem?_eq_some_iff.1 hi).1
      have hlast : i = s.calls.length := by
        simp only [CacheState.begin, List.length_append, List.length_singleton] at hlength
        omega
      subst hlast
      obtain rfl := Option.some.inj ((s.begin_at c filter background).symm.trans hi)
      exact hnew hc.1

theorem beginRequest (h : CacheOk ttl s) (c : Int) (filter : Option (SearchField × String)) :
    CacheOk ttl (s.begin c filter false) :=
  h.begin c filter false s.refreshTasks h.current fun hfalse => by cases hfalse

theorem scheduleRefresh (h : CacheOk ttl s) (c : Int) : CacheOk ttl (s.scheduleRefresh c) := by
  unfold CacheState.scheduleRefresh
  split
  · exact h
  · rename_i hidle
    refine h.begin c none true _ (fun i call hi hc => ?_) fun _ => Dict.get?_set_self _ _ _
    have hcurrent := h.current i call hi hc
    -- the last refresh of this customer is done
    have hne : call.iCustomer ≠ c := by
      rintro rfl
      refine hidle ?_
      simp [CacheState.refreshing, hcurrent, hi, hc.2]
    rw [Dict.get?_set_other _ _ hne]
    exact hcurrent

theorem holding (h : CacheOk ttl s) (hi : s.calls[i]? = some { call with pc := .reading lock }) :
    CacheOk ttl (s.holding ttl i call lock) := by
  have hcalled := h.called _ (List.mem_of_getElem? hi)
  unfold CacheState.holding
  split
  · rename_i entry hentry
    have hlimit : ticks ttl ≤ ticks ttl * staleFactor := ticks_le ttl
    have hfinish := h.finish hi entry.accounts (by simp) fun _ => h.fresh_of_entry hentry hlimit _ hcalled
    exact hfinish.withLock lock Lock.release
  · exact h

theorem readIntoCache (h : CacheOk ttl s) (hi : s.calls[i]? = some call) (hlive : call.pc ≠ .done) :
    CacheOk ttl (s.readIntoCache ttl i call) := by
  let locks := ((s.locks.lockFor call.iCustomer).2.acquire (s.locks.lockFor call.iCustomer).1 i).2
  have hlocks : CacheOk ttl { s with locks } := ⟨h.entries, h.past, h.called, h.filtered, h.fresh, h.current⟩
  unfold CacheState.readIntoCache
  simp only
  split
  · have hreading := hlocks.goto hi (.reading (s.locks.lockFor call.iCustomer).1) (by simp) hlive
    exact hreading.holding (CacheState.put_at (s := { s with locks }) hi _)
  · exact hlocks.goto hi (.waiting _) (by simp) hlive

/-- With the cache on, a read beside it has a filter. -/
theorem request (h : CacheOk ttl s) (hpos : 0 < ttl) (c : Int) (filter : Option (SearchField × String)) :
    CacheOk ttl (s.request ttl c filter) := by
  have hbegun := h.beginRequest c filter
  have hi := s.begin_at c filter false
  unfold CacheState.request
  simp only
  split
  · rename_i hbeside
    have hfilter : filter ≠ none := by
      simp only [Bool.or_eq_true, decide_eq_true_eq, Nat.ne_of_gt hpos, false_or] at hbeside
      exact Option.isSome_iff_ne_none.1 hbeside
    exact hbegun.put hi rfl rfl (fun _ => hfilter) fun hc => ⟨hc.1, by simp⟩
  · split
    · rename_i entry hentry
      have hlimit : ticks ttl ≤ ticks ttl * staleFactor := ticks_le ttl
      exact hbegun.finish hi _ (by simp) fun _ => h.fresh_of_entry hentry hlimit filter (Int.le_refl _)
    · split
      · rename_i entry hentry
        have hscheduled := hbegun.scheduleRefresh c
        have hfresh := h.fresh_of_entry hentry (Int.le_refl _) filter (Int.le_refl _)
        apply hscheduled.finish (CacheState.scheduleRefresh_at hi c) _ (by simp)
        intro _
        rw [CacheState.scheduleRefresh_reads, CacheState.scheduleRefresh_clock]
        exact hfresh
      · exact hbegun.readIntoCache hi (by simp)

/-- The read of a call is stored: what it drops goes, and what was there stays as it was read. -/
theorem store (h : CacheOk ttl s) {c : Int} (hread : fetchProjected api c = .ok accounts) :
    CacheOk ttl { s.store c accounts with
      reads := s.reads ++ [{ iCustomer := c, filter := none, api, endedAt := s.clock }] } := by
  refine ⟨?_, fun r hr => ?_, h.called, h.filtered, fun v hv hplain => (h.fresh v hv hplain).mono _, h.current⟩
  · refine storeAccounts_all (fun c entry hget => (h.entries c entry hget).mono _) ?_
    exact ⟨_, List.mem_append_right _ (List.mem_singleton.2 rfl), ⟨rfl, rfl, hread⟩, rfl⟩
  · rcases List.mem_append.1 hr with hr | hr
    · exact h.past r hr
    · obtain rfl := List.mem_singleton.1 hr
      exact Int.le_refl _

/-- A read beside the cache. -/
theorem besides (h : CacheOk ttl s) (r : ListRead) (hended : r.endedAt = s.clock) :
    CacheOk ttl { s with reads := s.reads ++ [r] } := by
  refine ⟨fun c entry hget => (h.entries c entry hget).mono _, fun r' hr => ?_, h.called, h.filtered,
    fun v hv hplain => (h.fresh v hv hplain).mono _, h.current⟩
  rcases List.mem_append.1 hr with hr | hr
  · exact h.past r' hr
  · obtain rfl := List.mem_singleton.1 hr
    exact Int.le_of_eq hended

theorem step (h : CacheOk ttl s) (hpos : 0 < ttl) (hstep : cacheStep ttl s e = some t) : CacheOk ttl t := by
  have hlive : ∀ {call : Call} {pc : CallPc}, call.pc = pc → pc ≠ .done → call.pc ≠ .done := fun h => h ▸ id
  cases cacheStep_move hstep with
  | elapse hnow =>
    exact ⟨h.entries, fun r hr => Int.le_trans (h.past r hr) hnow, fun c hc => Int.le_trans (h.called c hc) hnow,
      h.filtered, h.fresh, h.current⟩
  | call c filter => exact h.request hpos c filter
  | skip hi hpc => exact h.goto hi .done (by simp) (hlive hpc (by simp))
  | start hi hpc => exact h.readIntoCache hi (hlive hpc (by simp))
  | @resume i lock _ hi hpc _ _ =>
    have hlock := h.withLock lock fun l => (l.leave i).take
    have hreading := hlock.goto hi (.reading lock) (by simp) (hlive hpc (by simp))
    exact hreading.holding (CacheState.put_at (s := s.withLock _ _) hi _)
  | giveUp hi hpc => exact (h.goto hi .done (by simp) (hlive hpc (by simp))).withLock _ _
  | cancelStart hi hpc => exact h.flag hi (by simp [hpc])
  | cancelWait hi hpc => exact (h.flag hi (by simp [hpc])).withLock _ _
  | stored hi hpc hread =>
    have hcalled := h.called _ (List.mem_of_getElem? hi)
    have hstore := h.store hread
    refine (hstore.finish hi _ (hlive hpc (by simp)) fun _ => ?_).withLock _ _
    exact ⟨_, List.mem_append_right _ (List.mem_singleton.2 rfl), ⟨rfl, rfl, hread⟩, .inl ⟨hcalled, Int.le_refl _⟩⟩
  | failed hi hpc _ => exact (h.goto hi .done (by simp) (hlive hpc (by simp))).withLock _ _
  | answered hi hpc hread =>
    have hfilter := h.filtered _ (List.mem_of_getElem? hi) hpc
    exact (h.besides _ rfl).finish hi _ (hlive hpc (by simp)) fun hnone => absurd hnone hfilter
  | unanswered hi hpc => exact h.goto hi .done (by simp) (hlive hpc (by simp))
  | forget hi hpc hcurrent =>
    refine ⟨h.entries, h.past, h.called, h.filtered, h.fresh, fun j c hj hc => ?_⟩
    have hj' := h.current j c hj hc
    rw [Dict.get?_erase, if_neg]
    · exact hj'
    · -- the refresh that is forgotten is the customer's current one, and it is done
      intro hsame
      rw [hsame, hcurrent] at hj'
      obtain rfl := Option.some.inj hj'
      obtain rfl := Option.some.inj (hi.symm.trans hj)
      exact hc.2 hpc
  | keep => exact h

end CacheOk

/-! ## Steps that store nothing -/

namespace CacheState

theorem holding_cache (s : CacheState) (i : Nat) (call : Call) (lock : Nat) :
    (s.holding ttl i call lock).cache = s.cache := by
  unfold holding
  split <;> rfl

theorem readIntoCache_cache (s : CacheState) (i : Nat) (call : Call) :
    (s.readIntoCache ttl i call).cache = s.cache := by
  unfold readIntoCache
  simp only
  split
  · exact holding_cache _ _ _ _
  · rfl

theorem request_cache (s : CacheState) (c : Int) (filter : Option (SearchField × String)) :
    (s.request ttl c filter).cache = s.cache := by
  unfold request
  simp only
  split
  · rfl
  · split
    · rfl
    · split
      · exact scheduleRefresh_cache _ c
      · exact readIntoCache_cache _ _ _

/-- A request, a search, a read that fails and a refresh that fails leave the entries as they are. -/
theorem step_cache (hstep : cacheStep ttl s e = some t) (hnothing : s.storing e = none) : t.cache = s.cache := by
  cases cacheStep_move hstep with
  | call c filter => exact request_cache s c filter
  | start _ _ => exact readIntoCache_cache _ _ _
  | resume _ _ _ _ => exact holding_cache _ _ _ _
  | stored hi hpc hread =>
    rw [storing_stored hi hpc hread] at hnothing
    cases hnothing
  | _ => rfl

theorem step_stored {p : Int × List Account} (hstep : cacheStep ttl s e = some t) (hstoring : s.storing e = some p) :
    ∃ i api, e = .ended i (some api) ∧ fetchProjected api p.1 = .ok p.2 ∧
      t.cache = storeAccounts s.clock p.1 p.2 s.cache := by
  cases cacheStep_move hstep with
  | @stored i _ _ api _ hi hpc hread =>
    rw [storing_stored hi hpc hread] at hstoring
    obtain rfl := Option.some.inj hstoring
    exact ⟨i, api, rfl, hread, rfl⟩
  | failed _ _ hnothing =>
    rw [hnothing] at hstoring
    cases hstoring
  | answered hi hpc _ => simp [storing, hi, hpc] at hstoring
  | @unanswered _ _ answers hi hpc => cases answers <;> simp [storing, hi, hpc] at hstoring
  | _ => cases hstoring

end CacheState

/-! ## Runs -/

/-- In every state that a run reaches, with the cache on: every list that a request without a filter was given is what
one read has found, stored during the request or not long before it; there is one background refresh for a customer at
most; every entry is what a read without a filter has found. Along the run, only a read under the lock that ends well
changes the cache. -/
theorem cache_serves_reads (hpos : 0 < ttl) {now : Time} {es : List CacheEvent}
    (hrun : exec (cacheStep ttl) (cacheBegun now) es = some s) :
    (∀ v ∈ s.served, v.filter = none → v.Fresh ttl s.reads) ∧
      (∀ (i j : Nat) (a b : Call), s.calls[i]? = some a → s.calls[j]? = some b → a.refreshing → b.refreshing →
        a.iCustomer = b.iCustomer → i = j) ∧
      s.cache.All (EntryOf s.reads) ∧
      Along (cacheStep ttl) (fun s e t => s.storing e = none → t.cache = s.cache) (cacheBegun now) es := by
  have hok : CacheOk ttl s := exec_induction (P := fun _ s => CacheOk ttl s) (CacheOk.begun now)
    (fun _ _ _ _ _ h hstep => h.step hpos hstep) hrun
  refine ⟨hok.fresh, ?_, hok.entries, ?_⟩
  · intro i j a b hi hj ha hb hsame
    have hcurrent := hok.current i a hi ha
    rw [hsame, hok.current j b hj hb] at hcurrent
    exact (Option.some.inj hcurrent).symm
  · have htrue : Along (cacheStep ttl) (fun _ _ _ => True) (cacheBegun now) es :=
      along_of_forall (D := fun _ => True) fun _ _ => trivial
    exact htrue.imp fun _ _ _ hstep _ hnothing => CacheState.step_cache hstep hnothing

theorem cacheAfter_snoc (fills : List Fill) (f : Fill) : cacheAfter (fills ++ [f]) = fill (cacheAfter fills) f :=
  List.foldl_append

/-- The cache that a run leaves has been filled by the reads that have ended in it. -/
theorem cache_filled {now : Time} {es : List CacheEvent} (hrun : exec (cacheStep ttl) (cacheBegun now) es = some s) :
    ∃ fills : List Fill, (∀ f ∈ fills, ∃ i, .ended i (some f.api) ∈ es) ∧ s.cache = cacheAfter fills := by
  refine exec_induction (P := fun es s => ∃ fills : List Fill, (∀ f ∈ fills, ∃ i, .ended i (some f.api) ∈ es) ∧
    s.cache = cacheAfter fills) ⟨[], by simp, rfl⟩ ?_ hrun
  rintro es m e m' - ⟨fills, hfills, hcache⟩ hstep
  have hold : ∀ f ∈ fills, ∃ i, .ended i (some f.api) ∈ es ++ [e] := fun f hf => by
    obtain ⟨i, hi⟩ := hfills f hf
    exact ⟨i, List.mem_append_left _ hi⟩
  cases hstoring : m.storing e with
  | none => exact ⟨fills, hold, (CacheState.step_cache hstep hstoring).trans hcache⟩
  | some stored =>
    obtain ⟨i, api, rfl, hread, hstored⟩ := CacheState.step_stored hstep hstoring
    refine ⟨fills ++ [{ iCustomer := stored.1, now := m.clock, api }], fun f hf => ?_, ?_⟩
    · rcases List.mem_append.1 hf with hf | hf
      · exact hold f hf
      · obtain rfl := List.mem_singleton.1 hf
        exact ⟨i, List.mem_append_right _ (List.mem_singleton.2 rfl)⟩
    · rw [cacheAfter_snoc, fill, hread, hstored, hcache]

/-- From a switch whose accounts do not change, the cache of every run is one that has been filled from them. -/
theorem cache_filledWith {db : Accounts} {now : Time} {es : List CacheEvent}
    (hslices : ∀ i api, .ended i (some api) ∈ es → Slices db api)
    (hrun : exec (cacheStep ttl) (cacheBegun now) es = some s) : FilledWith db s.cache := by
  obtain ⟨fills, hfills, hcache⟩ := cache_filled hrun
  refine ⟨fills, fun f hf => ?_, hcache⟩
  obtain ⟨i, hi⟩ := hfills f hf
  exact hslices i f.api hi

/-- The cache is one that a run leaves, of reads from a switch with these accounts. -/
def LeftByRun (db : Accounts) (ttl : Nat) (cache : AccountsCache) : Prop :=
  ∃ now es s, exec (cacheStep ttl) (cacheBegun now) es = some s ∧
    (∀ i api, .ended i (some api) ∈ es → Slices db api) ∧ cache = s.cache

theorem LeftByRun.filledWith {db : Accounts} {cache : AccountsCache} (h : LeftByRun db ttl cache) :
    FilledWith db cache := by
  obtain ⟨now, es, s, hrun, hslices, rfl⟩ := h
  exact cache_filledWith hslices hrun

/-- **The cache is transparent.** Whatever runs it has been through, with reads that fail, refreshes, evictions and
cancelled calls, a request that finds it sees exactly the accounts of the offices that it asks for, each once, as long
as the switch has the same accounts. -/
theorem offices_after_runs {db : Accounts} {A : Adapter} (hslices : Slices db A.adminApi)
    (hasked : ∀ c, LeftByRun db A.settings.contactsCacheTtl (A.asked c).cache)
    (hlocked : ∀ c, LeftByRun db A.settings.contactsCacheTtl (A.locked c).cache) {customers : List Int}
    (hoffices : customers.Nodup) :
    ∃ lists, customers.mapM A.accountsOf = .ok lists ∧
      lists.flatten.Perm (customers.flatMap fun c => (db.of c).map A.view) ∧
      (lists.flatten.map (·.iAccount)).Nodup := by
  have hlists : Lists db A := ⟨hslices, fun c => (hasked c).filledWith, fun c => (hlocked c).filledWith⟩
  obtain ⟨lists, hok, hperm⟩ := hlists.accounts customers
  refine ⟨lists, hok, hperm, ?_⟩
  exact (hperm.map (·.iAccount)).nodup_iff.2 (A.seen_nodup db hoffices)

/-- The switch has listed the accounts backwards before. -/
def listedBackwards : List CacheEvent := [.call 1 none, .ended 0 (some (colleagues.api List.reverse))]

/-- An adapter that finds what that run has left. -/
def cachingAdapter : Adapter where
  runtime := { lower := id, int := fun _ => none, emailStr := some }
  settings := { contactsCacheTtl := 300 }
  adminApi := colleagues.api id
  accountInfo := .ok ⟨1, 11⟩
  asked _ := { now := 0, cache := storeAccounts 0 1 ((colleagues.of 1).reverse.map projectAccount) Dict.empty }
  locked _ := { now := 0 }
  setOrder := ⟨id, List.Perm.refl⟩

theorem offices_after_runs_backwards : ∃ lists, [1].mapM cachingAdapter.accountsOf = .ok lists ∧
    lists.flatten.Perm ([1].flatMap fun c => (colleagues.of c).map cachingAdapter.view) := by
  have hslices (order : List Account → List Account) (h : ∀ l, (order l).Perm l) :
      Slices colleagues (colleagues.api order) :=
    fun c => ⟨order (colleagues.of c), h _, fun _ _ => rfl⟩
  have hasked : LeftByRun colleagues 300 (cachingAdapter.asked 1).cache := by
    refine ⟨0, listedBackwards, _, rfl, ?_, rfl⟩
    intro i api hended
    simp only [listedBackwards, List.mem_cons, CacheEvent.ended.injEq, Option.some.injEq, reduceCtorEq,
      List.not_mem_nil, false_or, or_false] at hended
    rw [hended.2]
    exact hslices _ List.reverse_perm
  have hlocked : LeftByRun colleagues 300 (Dict.empty : AccountsCache) :=
    ⟨0, [], _, rfl, fun _ _ h => absurd h List.not_mem_nil, rfl⟩
  obtain ⟨lists, hok, hperm, -⟩ := offices_after_runs (A := cachingAdapter) (hslices id List.Perm.refl)
    (fun _ => hasked) (fun _ => hlocked) (List.nodup_singleton 1)
  exact ⟨lists, hok, hperm⟩

/-- A list is read, served again when it is old, and kept when its refresh fails; a search is read beside it. -/
def staleRun : List CacheEvent :=
  [.call 1 none, .ended 0 (some quietSwitch), .elapse 61000000, .call 1 none, .start 2, .ended 2 none,
    .call 1 (some (.id, "%7%")), .ended 3 (some quietSwitch), .call 1 none]

theorem cache_serves_reads_stale : ∃ s, exec (cacheStep 60) (cacheBegun 0) staleRun = some s ∧ s.served.length = 4 ∧
    (∀ v ∈ s.served, v.filter = none → v.Fresh 60 s.reads) ∧ s.cache.All (EntryOf s.reads) := by
  have hrun : ∃ s, exec (cacheStep 60) (cacheBegun 0) staleRun = some s ∧ s.served.length = 4 := ⟨_, rfl, rfl⟩
  obtain ⟨s, hrun, hserved⟩ := hrun
  obtain ⟨hfresh, _, hentries, _⟩ := cache_serves_reads (by decide) hrun
  exact ⟨s, hrun, hserved, hfresh, hentries⟩

end PortaPhone.Contacts
