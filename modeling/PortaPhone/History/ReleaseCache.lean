import PortaPhone.History.CallHistory
import PortaPhone.Lib.TimedCache
/-!
# The release of the switch, over time (`portaswitch/adapter.py`)

| here | there |
| --- | --- |
| `releaseLifetime` | the two lifetimes of `_portaswitch_release` (`:511`) |
| `ReleaseEvent`, `releaseStep` | its calls by history requests, each cut at the request for the version |
| `tellByCrDownloadIds` | what `_recordings_by_cr_download_ids` (`:539`) makes of the release |

`portaswitchRelease` is one call, given the cache. Here any number of them overlap, and the switch may be upgraded or
fail in between: `releases_tell` says what a history request goes by, `release_reads_apart` how often the switch is
asked.
-/

namespace PortaPhone.History

open Machine
open Requests

/-- A release is kept longer than a failure to read it. -/
def releaseLifetime (release : Option (List Int)) : Option Int :=
  some (if release.isSome then portaswitchVersionCacheTtl else portaswitchVersionRetryAfter)

/-- A history request comes, or the request for the version of one ends; a timeout is one way to raise. -/
inductive ReleaseEvent
  | history (monotonic : Int)
  | answered (i : Nat) (monotonic : Int) (version : Except Contacts.Raised (Option String))

/-- What is made of the answer. -/
def releaseRead (P : Platform) (version : Except Contacts.Raised (Option String)) : Option (List Int) :=
  version.toOption.bind (releaseOf P)

def ReleaseEvent.toEvent (P : Platform) : ReleaseEvent → TimedCache.Event (Option (List Int))
  | .history monotonic => .call monotonic
  | .answered i monotonic version => .ended i monotonic (releaseRead P version)

abbrev ReleaseState := TimedCache.State (Option (List Int))

def releaseStep (P : Platform) (s : ReleaseState) (e : ReleaseEvent) : Option ReleaseState :=
  TimedCache.step releaseLifetime s (e.toEvent P)

def tellByCrDownloadIds : Option (List Int) → Bool
  | none => true
  | some release => !decide (release < releaseWithCrDownloadIds)

/-! ## One call -/

section Call

variable {P : Platform} {s t : ReleaseState} {es : List ReleaseEvent} {monotonic : Int}

theorem freshRelease_eq (cached : Option (Int × Option (List Int))) :
    freshRelease cached monotonic = (TimedCache.fresh releaseLifetime cached monotonic).map Prod.snd := by
  cases cached with
  | none => rfl
  | some entry =>
    obtain ⟨readAt, release⟩ := entry
    simp only [freshRelease, TimedCache.fresh, releaseLifetime, Option.bind_some, Option.filter_some, Option.any_some]
    by_cases hfresh :
      monotonic - readAt < (if release.isSome then portaswitchVersionCacheTtl else portaswitchVersionRetryAfter)
    · simp [hfresh]
    · simp [hfresh]

/-- A call that finds a fresh release goes by it and asks nothing; any other goes by the answer to its own request. -/
theorem recordingsByCrDownloadIds_eq (switch : Switch) (cached : Option (Int × Option (List Int)))
    (log : List Request) :
    recordingsByCrDownloadIds P switch cached monotonic log =
      match TimedCache.fresh releaseLifetime cached monotonic with
      | some entry => (.ok (tellByCrDownloadIds entry.2), log)
      | none => (.ok (tellByCrDownloadIds (releaseRead P (switch.getVersion log))), log ++ [.getVersion]) := by
  have tell : ∀ (release : Option (List Int)) (log' : List Request),
      portaswitchRelease P switch cached monotonic log = (.ok release, log') →
        recordingsByCrDownloadIds P switch cached monotonic log = (.ok (tellByCrDownloadIds release), log') := by
    intro release log' hrun
    rw [recordingsByCrDownloadIds, run_bind_ok hrun]
    cases release <;> rfl
  cases hfresh : TimedCache.fresh releaseLifetime cached monotonic with
  | some entry =>
    refine tell entry.2 log ?_
    rw [portaswitchRelease, freshRelease_eq, hfresh]
    rfl
  | none =>
    refine tell _ _ ?_
    rw [portaswitchRelease, freshRelease_eq, hfresh]
    rfl

/-! ## Whole runs -/

theorem exec_toEvent (hrun : exec (releaseStep P) s es = some t) :
    exec (TimedCache.step releaseLifetime) s (es.map (·.toEvent P)) = some t := by
  induction es generalizing s with
  | nil => exact hrun
  | cons e es ih =>
    obtain ⟨m, hstep, hrest⟩ := exec_cons.1 hrun
    exact exec_cons.2 ⟨m, hstep, ih hrest⟩

theorem ended_mem {i : Nat} {readAt : Int} {release : Option (List Int)}
    (h : .ended i readAt release ∈ es.map (ReleaseEvent.toEvent P)) :
    ∃ version, .answered i readAt version ∈ es ∧ releaseRead P version = release := by
  obtain ⟨e, he, heq⟩ := List.mem_map.1 h
  cases e with
  | history monotonic => cases heq
  | answered j monotonic version =>
    obtain ⟨rfl, rfl, rfl⟩ := TimedCache.Event.ended.inj heq
    exact ⟨version, he, rfl⟩

end Call

/-- Calls that read nothing leave what was kept last. -/
theorem lastKept_histories (P : Platform) (events after : List ReleaseEvent)
    (hafter : ∀ e ∈ after, ∃ now, e = .history now) :
    TimedCache.lastKept releaseLifetime ((events ++ after).map (·.toEvent P)) =
      TimedCache.lastKept releaseLifetime (events.map (·.toEvent P)) := by
  induction after using List.reverseRecOn with
  | nil => rw [List.append_nil]
  | append_singleton after e ih =>
    obtain ⟨now, rfl⟩ := hafter e (by simp)
    rw [← List.append_assoc, List.map_append, List.map_singleton, TimedCache.lastKept_snoc]
    exact ih fun e he => hafter e (List.mem_append_left _ he)

/-- **How often the switch is asked.** A history request that asks for the version does so a minute or more after every
answer there has been, and an hour or more after the last one if that gave a release. -/
theorem release_reads_apart (P : Platform) (s t t' : ReleaseState) (es : List ReleaseEvent) (hcached : s.cached = none)
    (hrun : exec (releaseStep P) s es = some t) (monotonic : Int)
    (hcall : releaseStep P t (.history monotonic) = some t')
    (hread : t'.callers = t.callers ++ [.reading monotonic]) :
    (∀ i readAt version, .answered i readAt version ∈ es → portaswitchVersionRetryAfter ≤ monotonic - readAt) ∧
      ∀ before i readAt version after, es = before ++ .answered i readAt version :: after →
        (∀ e ∈ after, ∃ now, e = .history now) → (releaseRead P version).isSome = true →
          portaswitchVersionCacheTtl ≤ monotonic - readAt := by
  constructor
  · intro i readAt version hanswered
    have hleast : ∀ value ttl, releaseLifetime value = some ttl → portaswitchVersionRetryAfter ≤ ttl := by
      intro value ttl httl
      obtain rfl := Option.some.inj httl
      split <;> decide
    have hended : .ended i readAt (releaseRead P version) ∈ es.map (ReleaseEvent.toEvent P) :=
      List.mem_map.2 ⟨_, hanswered, rfl⟩
    exact TimedCache.reads_apart hleast hcached (exec_toEvent hrun) hcall hread hended rfl
  · rintro before i readAt version after rfl hafter hsome
    refine (TimedCache.read_begins hcached (exec_toEvent hrun) hcall).1 hread readAt (releaseRead P version) _ ?_
      (by rw [releaseLifetime, if_pos hsome])
    rw [List.append_cons, lastKept_histories P _ after hafter, List.map_append, List.map_singleton]
    exact TimedCache.lastKept_snoc _

/-! ## A switch that is upgraded -/

/-- Releases such as "MR120-3". -/
def asciiPlatform : Platform := ⟨Json.asciiDigit, Nat.toDigits 10⟩

def upgradeEvents : List ReleaseEvent := [.history 0, .answered 0 1 (.ok (some "MR120-3")), .history 3000]

def upgradeState : ReleaseState where
  clock := 3000
  cached := some (1, some [120, 3])
  callers := [.served 1 (some [120, 3]) 1, .served 3000 (some [120, 3]) 1]

theorem exec_upgrade : exec (releaseStep asciiPlatform) { clock := 0 } upgradeEvents = some upgradeState := by
  have hrelease : releaseRead asciiPlatform (.ok (some "MR120-3")) = some [120, 3] := by decide +kernel
  refine exec_cons.2 ⟨{ clock := 0, callers := [.reading 0] }, rfl, exec_cons.2
    ⟨{ clock := 1, cached := some (1, some [120, 3]), callers := [.served 1 (some [120, 3]) 1] }, ?_, rfl⟩⟩
  rw [releaseStep, ReleaseEvent.toEvent, hrelease]
  rfl

theorem release_reads_apart_upgrade : portaswitchVersionCacheTtl ≤ 3601 - 1 :=
  (release_reads_apart asciiPlatform { clock := 0 } upgradeState _ upgradeEvents rfl exec_upgrade 3601 rfl rfl).2
    [.history 0] 0 1 (.ok (some "MR120-3")) [.history 3000] rfl (by simp) (by decide +kernel)

end PortaPhone.History
