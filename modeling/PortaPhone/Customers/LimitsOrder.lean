import Mathlib
import PortaPhone.Customers.DeviceLimits
/-!
# The order of a cache of device limits (`portaswitch/adapter.py`)

| here | there |
| --- | --- |
| `FieldsCache.fresh`, `FieldsCache.readEnded` | `_cached_field_limits` (`:2979`) before its read of the switch, and after it |
| `FieldsRun`, `fieldsStep` | the calls of it on one cache, each with a key of its own |

Between the start and the end of a read other calls run, for the same key as well: a read that has started earlier may
end later. `device_limits_cache_order`: the entries still stand in the order of their stores. A call that is left alone
is a call of `cachedFieldLimits` (`call_alone`).
-/

namespace PortaPhone.Customers

open Contacts (Reading)
open Machine StoreOrder

/-! ## Calls and their reads -/

inductive FieldsPc
  | reading
  | ended (result : Except ReadError Limits)

structure FieldsCall (κ : Type) where
  key : κ
  pc : FieldsPc

structure FieldsRun (κ : Type) where
  clock : Int
  fields : FieldsCache κ := {}
  calls : List (FieldsCall κ) := []

/-- Time passes, a call comes, and the read of a call ends, with a response or with an error. -/
inductive FieldsEvent (κ : Type)
  | elapse (time : Nat)
  | call (key : κ)
  | readEnded (i : Nat) (response : Except ReadError Json)

section Steps

variable {κ : Type} [DecidableEq κ]

def FieldsCache.readEnded (R : Reading) (ttl : Nat) (c : FieldsCache κ) (key : κ) (now : Int)
    (response : Except ReadError Json) : Except ReadError Limits × FieldsCache κ :=
  match response with
  | .error e => (.error e, c)
  | .ok response => match decode (fieldLimits R response) with
    | .error e => (.error e, c)
    | .ok limits => (.ok limits, c.answered ttl key now response limits)

/-- A call is served from the cache, or begins to read. -/
def FieldsRun.begin (ttl : Nat) (s : FieldsRun κ) (key : κ) : FieldsPc :=
  match s.fields.fresh ttl key s.clock with
  | some entry => .ended (.ok entry.2)
  | none => .reading

/-- The read of the call `i` ends. -/
def FieldsRun.finish (R : Reading) (ttl : Nat) (s : FieldsRun κ) (i : Nat) (key : κ)
    (response : Except ReadError Json) : FieldsRun κ :=
  let outcome := s.fields.readEnded R ttl key s.clock response
  { s with fields := outcome.2, calls := s.calls.set i ⟨key, .ended outcome.1⟩ }

def fieldsStep (R : Reading) (ttl : Nat) (s : FieldsRun κ) : FieldsEvent κ → Option (FieldsRun κ)
  | .elapse time => some { s with clock := s.clock + time }
  | .call key => some { s with calls := s.calls ++ [⟨key, s.begin ttl key⟩] }
  | .readEnded i response => match s.calls[i]? with
    | some ⟨key, .reading⟩ => some (s.finish R ttl i key response)
    | _ => none

/-- Without other calls in between a call is `cachedFieldLimits`. -/
theorem cachedFieldLimits_eq (R : Reading) (ttl : Nat) (c : FieldsCache κ) (key : κ) (clock : FieldsClock)
    (read : κ → Except ReadError Json) : cachedFieldLimits R ttl c key clock read =
      match c.fresh ttl key clock.found with
      | some entry => (.ok entry.2, c)
      | none => c.readEnded R ttl key clock.stored (read key) := by
  rw [cachedFieldLimits]
  cases c.fresh ttl key clock.found with
  | some entry => rfl
  | none =>
    cases hread : read key with
    | error e => simp [FieldsCache.readEnded]
    | ok response =>
      cases hdecode : decode (fieldLimits R response) with
      | error e => simp [FieldsCache.readEnded, hdecode]
      | ok limits => simp [FieldsCache.readEnded, hdecode]

/-! ## What every step keeps -/

/-- The key and the time of an entry, as of the read that it comes from. -/
def FieldsCache.stores (c : FieldsCache κ) : List (κ × Int) := c.reads.map fun r => (r.key, r.endedAt)

omit [DecidableEq κ] in
theorem FieldsCache.mem_stores {c : FieldsCache κ} {x : κ × Int} (h : x ∈ c.stores) :
    ∃ r ∈ c.reads, r.endedAt = x.2 := by
  obtain ⟨r, hr, rfl⟩ := List.mem_map.1 h
  exact ⟨r, hr, rfl⟩

/-- The entries come from reads, in the order in which these have been stored. -/
structure CacheOrder (R : Reading) (clock : Int) (c : FieldsCache κ) : Prop where
  fromReads : FromReads R c
  stores : (c.cache.entries.map fun e => (e.1, e.2.1)).Sublist c.stores
  sorted : c.stores.Pairwise fun x y => x.2 ≤ y.2
  past : ∀ r ∈ c.reads, r.endedAt ≤ clock
  size : c.cache.size ≤ deviceLimitsCacheMax

/-- An entry that is gone has made room for another key in a full cache, and none was older. -/
def DropsOldest (before after : Dict κ (Int × Limits)) : Prop :=
  ∀ key entry, before.get? key = some entry → after.get? key = none →
    before.size = deviceLimitsCacheMax ∧ ∀ other entry', before.get? other = some entry' → entry.1 ≤ entry'.1

/-- A call that is over at once is served with what a read has said, less than the TTL ago. -/
def ServesYoung (R : Reading) (ttl : Nat) (s t : FieldsRun κ) (e : FieldsEvent κ) : Prop :=
  ∀ key result, e = .call key → t.calls = s.calls ++ [⟨key, .ended result⟩] →
    ∃ limits, result = .ok limits ∧ ∃ r ∈ s.fields.reads, s.fields.cache.get? key = some (r.endedAt, limits) ∧
      r.key = key ∧ s.clock - r.endedAt < ttl ∧ ReadsAs R r.response limits

/-- The end of a read ends its call. Limits that can be read are returned and kept, as of now; a failure changes
nothing. -/
structure EndsRead (R : Reading) (ttl : Nat) (s t : FieldsRun κ) (i : Nat) (key : κ)
    (response : Except ReadError Json) :
    Prop where
  answered : ∀ json values, response = .ok json → customFieldValues json = .ok values →
    ∃ limits, ReadsAs R json limits ∧ t.calls[i]? = some ⟨key, .ended (.ok limits)⟩ ∧
      (ttl ≠ 0 → t.fields.cache.get? key = some (s.clock, limits))
  failed : (∀ json values, response = .ok json → customFieldValues json ≠ .ok values) →
    (∃ e, t.calls[i]? = some ⟨key, .ended (.error e)⟩) ∧ t.fields = s.fields

structure FieldsKeep (R : Reading) (ttl : Nat) (s : FieldsRun κ) (e : FieldsEvent κ) (t : FieldsRun κ) : Prop where
  order : CacheOrder R t.clock t.fields
  inOrder : InOrder Prod.fst t.fields.cache
  dropped : DropsOldest s.fields.cache t.fields.cache
  served : ServesYoung R ttl s t e
  ended : ∀ i key response, e = .readEnded i response → s.calls[i]? = some ⟨key, .reading⟩ →
    EndsRead R ttl s t i key response

variable {R : Reading} {ttl : Nat} {s t : FieldsRun κ} {e : FieldsEvent κ} {c : FieldsCache κ} {clock : Int}

omit [DecidableEq κ] in
/-- The order of the stores is that of their times. -/
theorem inOrder_of_stores (hstores : (c.cache.entries.map fun e => (e.1, e.2.1)).Sublist c.stores)
    (hsorted : c.stores.Pairwise fun x y => x.2 ≤ y.2) : InOrder Prod.fst c.cache := by
  have hentries := hsorted.sublist hstores
  rwa [List.pairwise_map] at hentries

theorem CacheOrder.init (R : Reading) (clock : Int) : CacheOrder R clock ({} : FieldsCache κ) where
  fromReads _ _ h := by cases h
  stores := List.Sublist.refl _
  sorted := List.Pairwise.nil
  past _ h := by cases h
  size := Nat.zero_le _

theorem CacheOrder.later (h : CacheOrder R clock c) (time : Nat) : CacheOrder R (clock + time) c :=
  { h with past := fun r hr => (h.past r hr).trans (by omega) }

/-- A store puts the key behind the stores before it. -/
theorem CacheOrder.answered (h : CacheOrder R clock c) (ttl : Nat) (key : κ) {response : Json} {limits : Limits}
    (hlimits : ReadsAs R response limits) : CacheOrder R clock (c.answered ttl key clock response limits) := by
  have hreads : (c.answered ttl key clock response limits).stores = c.stores ++ [(key, clock)] := by
    simp [FieldsCache.stores, FieldsCache.answered]
  refine ⟨h.fromReads.answered hlimits, ?_, ?_, ?_, ?_⟩
  · rw [hreads]
    by_cases hoff : ttl = 0
    · simpa [FieldsCache.answered, hoff] using h.stores.trans (List.sublist_append_left _ _)
    · have hstore := (store_sublist deviceLimitsCacheMax key (clock, limits) c.cache).map fun e => (e.1, e.2.1)
      rw [List.map_append, List.map_singleton] at hstore
      simpa [FieldsCache.answered, hoff] using hstore.trans (List.Sublist.append h.stores (List.Sublist.refl _))
  · rw [hreads, List.pairwise_append]
    refine ⟨h.sorted, List.pairwise_singleton _ _, fun x hx y hy => ?_⟩
    obtain rfl := List.mem_singleton.1 hy
    obtain ⟨r, hr, hrx⟩ := FieldsCache.mem_stores hx
    exact hrx ▸ h.past r hr
  · intro r hr
    rcases List.mem_append.1 hr with hr | hr
    · exact h.past r hr
    · obtain rfl := List.mem_singleton.1 hr
      exact le_refl _
  · unfold FieldsCache.answered
    by_cases hoff : ttl = 0
    · simpa [hoff] using h.size
    · simpa [hoff] using size_store deviceLimitsCacheMax key (clock, limits) c.cache

theorem dropsOldest_refl (d : Dict κ (Int × Limits)) : DropsOldest d d := by
  intro key entry hbefore hafter
  rw [hbefore] at hafter
  cases hafter

theorem CacheOrder.dropsOldest (h : CacheOrder R clock c) (ttl : Nat) (key : κ) (response : Json) (limits : Limits) :
    DropsOldest c.cache (c.answered ttl key clock response limits).cache := by
  unfold FieldsCache.answered
  by_cases hoff : ttl = 0
  · simpa [hoff] using dropsOldest_refl c.cache
  · intro other entry hbefore hafter
    simp only [if_neg hoff] at hafter
    have hother : other ≠ key := by
      rintro rfl
      rw [get?_store_self (by decide)] at hafter
      cases hafter
    have hinOrder := inOrder_of_stores h.stores h.sorted
    exact ⟨(full_of_dropped h.size hother hbefore hafter).1, fun third entry' hthird =>
      stamp_dropped_le_all hinOrder h.size hother hbefore hafter hthird⟩

/-- The end of a read, whatever it brings. -/
theorem CacheOrder.readEnded (h : CacheOrder R clock c) (ttl : Nat) (key : κ) (response : Except ReadError Json) :
    CacheOrder R clock (c.readEnded R ttl key clock response).2 ∧
      DropsOldest c.cache (c.readEnded R ttl key clock response).2.cache := by
  cases response with
  | error e => exact ⟨h, dropsOldest_refl _⟩
  | ok response =>
    cases hlimits : fieldLimits R response with
    | error e => simpa [FieldsCache.readEnded, hlimits, decode, Except.mapError] using ⟨h, dropsOldest_refl _⟩
    | ok limits =>
      simp only [FieldsCache.readEnded, hlimits, decode, Except.mapError]
      exact ⟨h.answered ttl key (fieldLimits_ok hlimits), h.dropsOldest ttl key response limits⟩

/-- The two ways in which a call begins. -/
theorem begin_ended {key : κ} {result : Except ReadError Limits} (h : s.begin ttl key = .ended result) :
    ∃ entry, s.fields.cache.get? key = some entry ∧ s.clock - entry.1 < ttl ∧ result = .ok entry.2 := by
  unfold FieldsRun.begin at h
  cases hfresh : s.fields.fresh ttl key s.clock with
  | none => simp [hfresh] at h
  | some entry =>
    obtain ⟨hentry, hage⟩ := fresh_some hfresh
    simp only [hfresh, FieldsPc.ended.injEq] at h
    exact ⟨entry, hentry, hage, h.symm⟩

theorem servesYoung_call (h : CacheOrder R s.clock s.fields) (key : κ) :
    ServesYoung R ttl s { s with calls := s.calls ++ [⟨key, s.begin ttl key⟩] } (.call key) := by
  intro key' result hkey hcalls
  cases hkey
  have hpc : s.begin ttl key = .ended result := by simpa using hcalls
  obtain ⟨⟨storedAt, limits⟩, hentry, hage, rfl⟩ := begin_ended hpc
  obtain ⟨r, hr, hrkey, hrat, hreads⟩ := h.fromReads key _ hentry
  subst hrat
  exact ⟨limits, rfl, r, hr, hentry, hrkey, hage, hreads⟩

theorem endsRead {i : Nat} {key : κ} (response : Except ReadError Json) (hi : s.calls[i]? = some ⟨key, .reading⟩) :
    EndsRead R ttl s (s.finish R ttl i key response) i key response := by
  have hended : (s.finish R ttl i key response).calls[i]? =
      some ⟨key, .ended (s.fields.readEnded R ttl key s.clock response).1⟩ :=
    List.getElem?_set_self (List.getElem?_eq_some_iff.1 hi).1
  constructor
  · rintro json values rfl hvalues
    cases hlimits : fieldLimits R json with
    | error e => exact absurd hvalues (fieldLimits_error hlimits values)
    | ok limits =>
      have houtcome : s.fields.readEnded R ttl key s.clock (.ok json) =
          (.ok limits, s.fields.answered ttl key s.clock json limits) := by
        simp only [FieldsCache.readEnded, hlimits, decode, Except.mapError]
      refine ⟨limits, fieldLimits_ok hlimits, by rw [hended, houtcome], fun hon => ?_⟩
      simp only [FieldsRun.finish, houtcome, FieldsCache.answered, if_neg hon]
      exact get?_store_self (by decide)
  · intro hnone
    obtain ⟨e, houtcome⟩ : ∃ e, s.fields.readEnded R ttl key s.clock response = (.error e, s.fields) := by
      cases response with
      | error e => exact ⟨e, rfl⟩
      | ok json =>
        cases hlimits : fieldLimits R json with
        | error e => exact ⟨.json e, by simp only [FieldsCache.readEnded, hlimits, decode, Except.mapError]⟩
        | ok limits =>
          obtain ⟨values, hvalues, -⟩ := Fallible.bind_ok.1 hlimits
          exact absurd hvalues (hnone json values rfl)
    refine ⟨⟨e, by rw [hended, houtcome]⟩, ?_⟩
    simp only [FieldsRun.finish, houtcome]

theorem CacheOrder.step (h : CacheOrder R s.clock s.fields) (hstep : fieldsStep R ttl s e = some t) :
    FieldsKeep R ttl s e t := by
  suffices hkeep : CacheOrder R t.clock t.fields ∧ DropsOldest s.fields.cache t.fields.cache ∧ ServesYoung R ttl s t e ∧
      ∀ i key response, e = .readEnded i response → s.calls[i]? = some ⟨key, .reading⟩ →
        EndsRead R ttl s t i key response from
    ⟨hkeep.1, inOrder_of_stores hkeep.1.stores hkeep.1.sorted, hkeep.2.1, hkeep.2.2.1, hkeep.2.2.2⟩
  cases e with
  | elapse time =>
    obtain rfl := Option.some.inj hstep
    exact ⟨h.later time, dropsOldest_refl _, fun _ _ hcall => (by cases hcall), fun _ _ _ hended => (by cases hended)⟩
  | call key =>
    obtain rfl := Option.some.inj hstep
    exact ⟨h, dropsOldest_refl _, servesYoung_call h key, fun _ _ _ hended => (by cases hended)⟩
  | readEnded i response =>
    rw [fieldsStep] at hstep
    split at hstep
    · rename_i key hi
      obtain rfl := Option.some.inj hstep
      obtain ⟨horder, hdrops⟩ := h.readEnded ttl key response
      refine ⟨horder, hdrops, fun _ _ hcall => (by cases hcall), ?_⟩
      intro j key' response' hended hj
      cases hended
      obtain rfl : key = key' := by
        rw [hi] at hj
        cases hj
        rfl
      exact endsRead response hi
    · cases hstep

end Steps

/-- What `cachedFieldLimits` does is done by its call, its wait and the end of its read. -/
theorem call_alone {κ : Type} [DecidableEq κ] (R : Reading) (ttl : Nat) (s : FieldsRun κ) (key : κ) (wait : Nat)
    (read : κ → Except ReadError Json) :
    ∃ events t, exec (fieldsStep R ttl) s events = some t ∧
      t.fields = (cachedFieldLimits R ttl s.fields key ⟨s.clock, s.clock + wait⟩ read).2 ∧
      t.calls = s.calls ++ [⟨key, .ended (cachedFieldLimits R ttl s.fields key ⟨s.clock, s.clock + wait⟩ read).1⟩] := by
  rw [cachedFieldLimits_eq]
  cases hfresh : s.fields.fresh ttl key s.clock with
  | some entry =>
    refine ⟨[.call key], _, rfl, rfl, ?_⟩
    simp only [FieldsRun.begin, hfresh]
  | none =>
    have hbegin : s.begin ttl key = .reading := by rw [FieldsRun.begin, hfresh]
    let waiting : FieldsRun κ := ⟨s.clock + wait, s.fields, s.calls ++ [⟨key, .reading⟩]⟩
    have hnew : waiting.calls[s.calls.length]? = some ⟨key, .reading⟩ := by simp [waiting]
    refine ⟨[.call key, .elapse wait, .readEnded s.calls.length (read key)],
      waiting.finish R ttl s.calls.length key (read key), ?_, rfl, ?_⟩
    · refine exec_cons.2 ⟨_, rfl, exec_cons.2 ⟨waiting, ?_, exec_cons.2 ⟨_, ?_, rfl⟩⟩⟩
      · rw [hbegin]
        rfl
      · rw [fieldsStep, hnew]
    · simp [FieldsRun.finish, waiting]

/-- **The cache keeps the order of its stores.** In every run of concurrent calls on one cache, whichever reads they
wait for and whatever these bring, after each step the entries stand in the order of their store times and there are not
too many; an entry dropped for space is the oldest one; what is served is younger than the TTL; and what a read says is
returned and kept. A call alone does what `cachedFieldLimits` does. -/
theorem device_limits_cache_order {κ : Type} [DecidableEq κ] (R : Reading) (ttl : Nat) (clock : Int)
    (events : List (FieldsEvent κ)) :
    Along (fieldsStep R ttl) (FieldsKeep R ttl) ({ clock } : FieldsRun κ) events ∧
    ∀ (s : FieldsRun κ) key wait read, ∃ events t, exec (fieldsStep R ttl) s events = some t ∧
      t.fields = (cachedFieldLimits R ttl s.fields key ⟨s.clock, s.clock + (wait : Nat)⟩ read).2 ∧
      t.calls = s.calls ++
        [⟨key, .ended (cachedFieldLimits R ttl s.fields key ⟨s.clock, s.clock + (wait : Nat)⟩ read).1⟩] := by
  have hinit : CacheOrder R clock ({} : FieldsCache κ) := CacheOrder.init R clock
  constructor
  · exact along_of_invariant (I := fun s => CacheOrder R s.clock s.fields) hinit
      (fun _ _ _ h hstep => (h.step hstep).order) fun _ _ _ h hstep => h.step hstep
  · exact fun s key wait read => call_alone R ttl s key wait read

/-! ## Two reads of one account -/

/-- The fields of an account with at most two devices. -/
def twoDevices : Json :=
  .object [("custom_fields_values",
    .list [.object [("name", .str maxDevicesCustomField), ("db_value", .str "2")]])]

/-- The read that has started first ends last, and is then served. -/
def overtaken : List (FieldsEvent Int) :=
  [.call 7, .elapse 5, .call 7, .readEnded 1 (.ok twoDevices), .elapse 5, .readEnded 0 (.ok (.object [])), .call 7]

def limitsReading : Reading := ⟨fun _ => "", Json.asciiDigit, fun _ => .error .value⟩

theorem device_limits_cache_order_overtaken :
    (∃ t, exec (fieldsStep limitsReading 60) ({ clock := 0 } : FieldsRun Int) overtaken = some t ∧
      t.fields.cache.get? 7 = some (10, (none, none)) ∧ t.calls.length = 3) ∧
    Along (fieldsStep limitsReading 60) (FieldsKeep limitsReading 60) ({ clock := 0 } : FieldsRun Int) overtaken :=
  ⟨⟨_, rfl, by decide, rfl⟩, (device_limits_cache_order limitsReading 60 0 overtaken).1⟩

end PortaPhone.Customers
