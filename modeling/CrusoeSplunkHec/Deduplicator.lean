import CrusoeSplunkHec.Event
import CrusoeSplunkHec.Persistence

/-!
The event deduplicator (`deduplicator.py`, `EventDeduplicator`).

The deduplicator keeps `seen_events`, a map from fingerprints to the time they were
recorded, for a tracking window of `tracking_window_seconds`. `is_duplicate` first purges
every record at or before `now - window` and then looks the fingerprint up; it never adds
a record. `filter_duplicates` runs `is_duplicate` on each event in turn, each call reading
the clock again, and keeps the events it does not flag. `mark_events_as_sent` records the
fingerprints it does not hold yet with one clock reading, then saves the state file. A
disabled deduplicator flags nothing, records nothing and touches no file.

The operations are state-passing functions: each returns its answer with the new
deduplicator, and the clock readings, the file system and the way `_save_state` stops are
arguments. The fingerprint is `generateEventHash sha256Hex`.

* `mem_cleanupOldEntries`, `isDuplicate_eq`, `mem_filterLoop`, `mem_markEventsAsSent` — one
  spec lemma per operation: which records survive a purge or a filter, and which a mark
  adds. Later modules use these, never the definitions.
* `hashes_loadState`, `hashes_filterLoop_subset`, `hashes_markEventsAsSent` — loading takes
  records only from the state file, filtering only removes records, and marking only adds
  the given fingerprints; `markEventsAsSent_fs` — marking touches the files only through
  `_save_state`.
* `saveState_defaultStateFile` — a save never tears a default state file: each keeps its
  content or gets the whole new document; `restart_forgets_after_interrupted_save` — a state
  file named `*.tmp` is its own temporary file, and a save that stops in `json.dump` leaves
  the next process no records.
* `count_filterLoop_of_not_mem` — `filter_duplicates` passes every copy of an event whose
  fingerprint the map does not hold.
* `filterDuplicates_eq_keptEvents` — the filter loop against a plain per-event filter: the
  `k`-th event is dropped exactly when a record of its fingerprint outlives the purges of the
  first `k + 1` calls, judged against the map the call started with.
* `markEventsAsSent_idem` — marking the same events again, at any clock, changes no record:
  a stamp is never refreshed.
-/

namespace CrusoeSplunkHec

/-- The state of an `EventDeduplicator`: its settings and its record map. -/
structure EventDeduplicator where
  trackingWindowSeconds : ℚ
  enabled : Bool
  stateFile : Path
  seenEvents : Records

namespace EventDeduplicator

/-- `_cleanup_old_entries`: keep the records newer than `now - tracking_window_seconds`. -/
def cleanupOldEntries (d : EventDeduplicator) (now : ℚ) : EventDeduplicator :=
  if d.enabled then
    { d with seenEvents := d.seenEvents.filter fun t => decide (now - d.trackingWindowSeconds < t) }
  else d

/-- `_load_state`: the records of a complete state file, purged at `now`; no records from a
file `json.load` cannot parse; nothing when there is no file. -/
def loadState (d : EventDeduplicator) (fs : FileSystem) (now : ℚ) : EventDeduplicator :=
  if d.enabled then
    match fs d.stateFile with
    | none => d
    | some (.complete doc) => cleanupOldEntries { d with seenEvents := doc.seenEvents } now
    | some (.truncated _) => { d with seenEvents := .empty }
  else d

/-- The default state file, `Path.home() / ".crusoe_dedup_state.json"`. -/
def defaultStateFile (home : Path) : Path :=
  home.join ".crusoe_dedup_state.json"

/-- `EventDeduplicator(tracking_window_seconds, state_file_path, enabled)` for the home
directory `home`, loading from `fs` with the clock at `now`. -/
def init (trackingWindowSeconds : ℚ) (statePath : Option String) (enabled : Bool)
    (home : Path) (fs : FileSystem) (now : ℚ) : EventDeduplicator :=
  loadState
    { trackingWindowSeconds, enabled, seenEvents := .empty
      stateFile := match statePath with
        | some text => if text = "" then defaultStateFile home else Path.ofString text
        | none => defaultStateFile home }
    fs now

/-- `_save_state`, with `last_updated = savedAt`. -/
def saveState (d : EventDeduplicator) (savedAt : ℚ) (stop : SaveStop) (fs : FileSystem) :
    FileSystem :=
  if d.enabled then
    CrusoeSplunkHec.saveState d.stateFile ⟨d.seenEvents, savedAt, d.trackingWindowSeconds⟩ stop fs
  else fs

variable (sha256Hex : String → String)

/-- `is_duplicate(event)` at `now`: the answer and the purged deduplicator. -/
def isDuplicate (d : EventDeduplicator) (event : Event) (now : ℚ) : Bool × EventDeduplicator :=
  if d.enabled then
    let d := d.cleanupOldEntries now
    (d.seenEvents.contains (generateEventHash sha256Hex event), d)
  else (false, d)

/-- The loop of `filter_duplicates`: the `n`-th `is_duplicate` call reads `clock n`. -/
def filterLoop : (Nat → ℚ) → List Event → EventDeduplicator → List Event × EventDeduplicator
  | _, [], d => ([], d)
  | clock, event :: events, d =>
    let (duplicate, d) := isDuplicate sha256Hex d event (clock 0)
    let (unique, d) := filterLoop (fun n => clock (n + 1)) events d
    (if duplicate then unique else event :: unique, d)

/-- `filter_duplicates(events)`: the events `is_duplicate` does not flag, in order. -/
def filterDuplicates (d : EventDeduplicator) (clock : Nat → ℚ) (events : List Event) :
    List Event × EventDeduplicator :=
  if d.enabled then filterLoop sha256Hex clock events d else (events, d)

/-- The loop of `mark_events_as_sent` over the fingerprints: record each one not held yet. -/
def markRecords (now : ℚ) : Records → List String → Records
  | r, [] => r
  | r, h :: hs =>
    if fresh : r.contains h = false then markRecords now (r.addNew h now fresh) hs
    else markRecords now r hs

/-- `mark_events_as_sent(events)` at `now`, then `_save_state` with `last_updated = savedAt`
stopping at `stop`. Nothing happens for an empty list. -/
def markEventsAsSent (d : EventDeduplicator) (events : List Event) (now savedAt : ℚ)
    (stop : SaveStop) (fs : FileSystem) : EventDeduplicator × FileSystem :=
  if d.enabled && !events.isEmpty then
    let records := markRecords now d.seenEvents (events.map (generateEventHash sha256Hex))
    let d := { d with seenEvents := records }
    (d, d.saveState savedAt stop fs)
  else (d, fs)

/-- The dict `get_stats` returns. -/
structure Stats where
  enabled : Bool
  trackingWindowSeconds : ℚ
  trackedEventsCount : Nat
  stateFile : Path
  oldestTrackedEvent : Option ℚ
  newestTrackedEvent : Option ℚ

/-- `get_stats()` at `now`, after a purge. -/
def getStats (d : EventDeduplicator) (now : ℚ) : Stats × EventDeduplicator :=
  let d := d.cleanupOldEntries now
  (⟨d.enabled, d.trackingWindowSeconds, d.seenEvents.entries.length, d.stateFile,
    (d.seenEvents.entries.map Prod.snd).min?, (d.seenEvents.entries.map Prod.snd).max?⟩, d)

/-- `clear_state()`: forget every record and delete the state file, unless `unlink` raises. -/
def clearState (d : EventDeduplicator) (unlinkFails : Bool) (fs : FileSystem) :
    EventDeduplicator × FileSystem :=
  ({ d with seenEvents := .empty },
    if (fs d.stateFile).isSome && !unlinkFails then Function.update fs d.stateFile none else fs)

/-! ### Purging -/

section Spec

variable {sha256Hex : String → String} {d : EventDeduplicator} {now : ℚ}

@[simp] theorem cleanupOldEntries_enabled : (d.cleanupOldEntries now).enabled = d.enabled := by
  unfold cleanupOldEntries; split <;> rfl

@[simp] theorem cleanupOldEntries_trackingWindowSeconds :
    (d.cleanupOldEntries now).trackingWindowSeconds = d.trackingWindowSeconds := by
  unfold cleanupOldEntries; split <;> rfl

@[simp] theorem cleanupOldEntries_stateFile :
    (d.cleanupOldEntries now).stateFile = d.stateFile := by
  unfold cleanupOldEntries; split <;> rfl

@[simp] theorem getStats_snd : (d.getStats now).2 = d.cleanupOldEntries now := rfl

@[simp] theorem loadState_enabled (fs : FileSystem) : (d.loadState fs now).enabled = d.enabled := by
  unfold loadState; split <;> (try split) <;> simp

@[simp] theorem loadState_trackingWindowSeconds (fs : FileSystem) :
    (d.loadState fs now).trackingWindowSeconds = d.trackingWindowSeconds := by
  unfold loadState; split <;> (try split) <;> simp

@[simp] theorem loadState_stateFile (fs : FileSystem) :
    (d.loadState fs now).stateFile = d.stateFile := by
  unfold loadState; split <;> (try split) <;> simp

/-- A record survives a purge at `now` exactly when it is newer than `now - window`. -/
theorem mem_cleanupOldEntries {p : String × ℚ} :
    p ∈ (d.cleanupOldEntries now).seenEvents.entries ↔
      p ∈ d.seenEvents.entries ∧ (d.enabled → now - d.trackingWindowSeconds < p.2) := by
  unfold cleanupOldEntries
  split <;> simp [*]

theorem hashes_cleanupOldEntries_subset :
    (d.cleanupOldEntries now).seenEvents.hashes ⊆ d.seenEvents.hashes := fun h mem => by
  obtain ⟨t, ht⟩ := Records.mem_hashes.mp mem
  exact Records.mem_hashes.mpr ⟨t, (mem_cleanupOldEntries.mp ht).1⟩

/-- `_load_state` takes its records from a state file it can parse, or keeps the ones it
has. -/
theorem hashes_loadState {fs : FileSystem} {h : String}
    (mem : h ∈ (d.loadState fs now).seenEvents.hashes) :
    h ∈ d.seenEvents.hashes ∨ ∃ c, fs d.stateFile = some c ∧ h ∈ c.doc.seenEvents.hashes := by
  unfold loadState at mem
  split at mem
  · split at mem
    · exact .inl mem
    · rename_i doc file
      exact .inr ⟨_, file, hashes_cleanupOldEntries_subset mem⟩
    · simp at mem
  · exact .inl mem

/-- `_load_state` takes its records from a whole state file, or keeps the ones it has. -/
theorem mem_loadState {fs : FileSystem} {p : String × ℚ}
    (mem : p ∈ (d.loadState fs now).seenEvents.entries) :
    p ∈ d.seenEvents.entries ∨
      ∃ doc, fs d.stateFile = some (.complete doc) ∧ p ∈ doc.seenEvents.entries := by
  unfold loadState at mem
  split at mem
  · split at mem
    · exact .inl mem
    · rename_i doc file
      exact .inr ⟨doc, file, (mem_cleanupOldEntries.mp mem).1⟩
    · simp [Records.empty] at mem
  · exact .inl mem

/-- A deduplicator built on the default state file, when that file holds a whole document,
holds the document's records newer than `now - window`. -/
theorem mem_init_of_complete {window : ℚ} {home : Path} {fs : FileSystem} {doc : StateDoc}
    (file : fs (defaultStateFile home) = some (.complete doc)) (p : String × ℚ) :
    p ∈ (init window none true home fs now).seenEvents.entries ↔
      p ∈ doc.seenEvents.entries ∧ now - window < p.2 := by
  simp [init, loadState, file, mem_cleanupOldEntries]

/-- Without `state_file_path` the deduplicator saves to the default state file. -/
@[simp] theorem init_stateFile {window : ℚ} {enabled : Bool} {home : Path} {fs : FileSystem} :
    (init window none enabled home fs now).stateFile = defaultStateFile home := by
  simp [init]

/-- A deduplicator built on the default state file holds only records of the whole document
that file holds. -/
theorem mem_init {window : ℚ} {enabled : Bool} {home : Path} {fs : FileSystem} {p : String × ℚ}
    (mem : p ∈ (init window none enabled home fs now).seenEvents.entries) :
    ∃ doc, fs (defaultStateFile home) = some (.complete doc) ∧ p ∈ doc.seenEvents.entries := by
  rcases mem_loadState mem with empty | loaded
  · simp [Records.empty] at empty
  · exact loaded

/-! ### `is_duplicate` and `filter_duplicates` -/

/-- `is_duplicate` purges and looks the fingerprint up in what is left. -/
theorem isDuplicate_eq (event : Event) :
    isDuplicate sha256Hex d event now =
      (d.enabled && (d.cleanupOldEntries now).seenEvents.contains (generateEventHash sha256Hex event),
        d.cleanupOldEntries now) := by
  unfold isDuplicate
  cases h : d.enabled <;> simp [cleanupOldEntries, h]

@[simp] theorem isDuplicate_stateFile (event : Event) :
    (isDuplicate sha256Hex d event now).2.stateFile = d.stateFile := by
  simp [isDuplicate_eq]

theorem filterLoop_sublist : ∀ (clock : Nat → ℚ) (events : List Event) (d : EventDeduplicator),
    (filterLoop sha256Hex clock events d).1.Sublist events
  | _, [], _ => by simp [filterLoop]
  | clock, event :: events, d => by
      have rest := filterLoop_sublist (fun n => clock (n + 1)) events
        (isDuplicate sha256Hex d event (clock 0)).2
      simp only [filterLoop]
      split
      · exact rest.cons _
      · exact rest.cons₂ _

theorem filterLoop_settings : ∀ (clock : Nat → ℚ) (events : List Event) (d : EventDeduplicator),
    let d' := (filterLoop sha256Hex clock events d).2
    d'.enabled = d.enabled ∧ d'.trackingWindowSeconds = d.trackingWindowSeconds ∧
      d'.stateFile = d.stateFile
  | _, [], _ => by simp [filterLoop]
  | clock, event :: events, d => by
      have rest := filterLoop_settings (fun n => clock (n + 1)) events
        (isDuplicate sha256Hex d event (clock 0)).2
      simp only [filterLoop, isDuplicate_eq] at rest ⊢
      simpa using rest

/-- A record survives `filter_duplicates` exactly when every `is_duplicate` call left it. -/
theorem mem_filterLoop : ∀ (clock : Nat → ℚ) (events : List Event) (d : EventDeduplicator)
    (p : String × ℚ),
    p ∈ (filterLoop sha256Hex clock events d).2.seenEvents.entries ↔
      p ∈ d.seenEvents.entries ∧
        (d.enabled → ∀ i < events.length, clock i - d.trackingWindowSeconds < p.2)
  | _, [], _, _ => by simp [filterLoop]
  | clock, event :: events, d, p => by
      have rest := mem_filterLoop (fun n => clock (n + 1)) events
        (isDuplicate sha256Hex d event (clock 0)).2 p
      simp only [filterLoop, isDuplicate_eq, cleanupOldEntries_enabled,
        cleanupOldEntries_trackingWindowSeconds, mem_cleanupOldEntries] at rest ⊢
      rw [rest]
      constructor
      · rintro ⟨⟨mem, first⟩, later⟩
        refine ⟨mem, fun enabled i hi => ?_⟩
        cases i with
        | zero => exact first enabled
        | succ i => exact later enabled i (by simpa using hi)
      · rintro ⟨mem, all⟩
        exact ⟨⟨mem, fun enabled => all enabled 0 (by simp)⟩,
          fun enabled i hi => all enabled (i + 1) (by simpa using hi)⟩

theorem hashes_filterLoop_subset (clock : Nat → ℚ) (events : List Event) (d : EventDeduplicator) :
    (filterLoop sha256Hex clock events d).2.seenEvents.hashes ⊆ d.seenEvents.hashes := fun h mem => by
  obtain ⟨t, ht⟩ := Records.mem_hashes.mp mem
  exact Records.mem_hashes.mpr ⟨t, ((mem_filterLoop _ _ _ _).mp ht).1⟩

/-- An event that `filter_duplicates` passes has no record left after it. -/
theorem hash_not_mem_filterLoop : ∀ (clock : Nat → ℚ) (events : List Event)
    (d : EventDeduplicator), d.enabled →
    ∀ e ∈ (filterLoop sha256Hex clock events d).1,
      generateEventHash sha256Hex e ∉ (filterLoop sha256Hex clock events d).2.seenEvents.hashes
  | _, [], _, _ => by simp [filterLoop]
  | clock, event :: events, d, enabled => by
      have rest := hash_not_mem_filterLoop (fun n => clock (n + 1)) events
        (isDuplicate sha256Hex d event (clock 0)).2
      simp only [filterLoop, isDuplicate_eq, enabled, Bool.true_and,
        cleanupOldEntries_enabled] at rest ⊢
      intro e he
      split at he
      · exact rest trivial e he
      · rcases List.mem_cons.mp he with rfl | he
        · rename_i fresh
          intro mem
          obtain ⟨t, ht⟩ := Records.mem_hashes.mp mem
          have := ((mem_filterLoop _ _ _ _).mp ht).1
          exact fresh (Records.contains_iff.mpr (Records.mem_hashes.mpr ⟨t, this⟩))
        · exact rest trivial e he

/-- An event the deduplicator holds no record of is never flagged: `filter_duplicates` passes
every copy of it, as many as the list holds. -/
theorem count_filterLoop_of_not_mem (e : Event) : ∀ (clock : Nat → ℚ) (events : List Event)
    (d : EventDeduplicator), generateEventHash sha256Hex e ∉ d.seenEvents.hashes →
      (filterLoop sha256Hex clock events d).1.count e = events.count e
  | _, [], _, _ => rfl
  | clock, event :: events, d, fresh => by
      have purged : generateEventHash sha256Hex e ∉ (d.cleanupOldEntries (clock 0)).seenEvents.hashes :=
        fun mem => fresh (hashes_cleanupOldEntries_subset mem)
      have rest := count_filterLoop_of_not_mem e (fun n => clock (n + 1)) events
        (isDuplicate sha256Hex d event (clock 0)).2 (by rwa [isDuplicate_eq])
      simp only [filterLoop, isDuplicate_eq] at rest ⊢
      by_cases same : event = e
      · subst same
        simp [Records.contains_eq_false.mpr purged, rest]
      · split <;> simp [List.count_cons, same, rest]

/-- One round of the filter loop on an event with no record left after its purge: the event
is kept. -/
theorem filterLoop_cons_of_unrecorded (clock : Nat → ℚ) {e : Event} (events : List Event)
    (enabled : d.enabled = true)
    (fresh : generateEventHash sha256Hex e ∉ (d.cleanupOldEntries (clock 0)).seenEvents.hashes) :
    filterLoop sha256Hex clock (e :: events) d =
      (e :: (filterLoop sha256Hex (fun n => clock (n + 1)) events (d.cleanupOldEntries (clock 0))).1,
        (filterLoop sha256Hex (fun n => clock (n + 1)) events (d.cleanupOldEntries (clock 0))).2) := by
  have unflagged := Records.contains_eq_false.mpr fresh
  simp [filterLoop, isDuplicate_eq, enabled, unflagged]

/-- One round of the filter loop on an event whose record survives its purge: the event is
dropped. -/
theorem filterLoop_cons_of_recorded (clock : Nat → ℚ) {e : Event} (events : List Event)
    (enabled : d.enabled = true)
    (recorded : generateEventHash sha256Hex e ∈ (d.cleanupOldEntries (clock 0)).seenEvents.hashes) :
    filterLoop sha256Hex clock (e :: events) d =
      filterLoop sha256Hex (fun n => clock (n + 1)) events (d.cleanupOldEntries (clock 0)) := by
  simp [filterLoop, isDuplicate_eq, enabled, Records.contains_iff.mpr recorded]

@[simp] theorem filterDuplicates_nil (clock : Nat → ℚ) :
    d.filterDuplicates sha256Hex clock [] = ([], d) := by
  unfold filterDuplicates; split <;> rfl

theorem filterDuplicates_of_enabled (enabled : d.enabled = true) (clock : Nat → ℚ)
    (events : List Event) :
    d.filterDuplicates sha256Hex clock events = filterLoop sha256Hex clock events d := by
  simp [filterDuplicates, enabled]

@[simp] theorem filterDuplicates_stateFile (clock : Nat → ℚ) (events : List Event) :
    (d.filterDuplicates sha256Hex clock events).2.stateFile = d.stateFile := by
  unfold filterDuplicates
  split
  · exact (filterLoop_settings clock events d).2.2
  · rfl

theorem filterDuplicates_entries_subset (clock : Nat → ℚ) (events : List Event) :
    (d.filterDuplicates sha256Hex clock events).2.seenEvents.entries ⊆ d.seenEvents.entries := by
  unfold filterDuplicates
  split
  · exact fun p mem => ((mem_filterLoop clock events d p).mp mem).1
  · exact List.Subset.refl _

/-! ### `mark_events_as_sent` -/

/-- Marking adds, stamped `now`, exactly the given fingerprints the map does not hold yet. -/
theorem mem_markRecords : ∀ (r : Records) (hs : List String) (p : String × ℚ),
    p ∈ (markRecords now r hs).entries ↔
      p ∈ r.entries ∨ (p.2 = now ∧ p.1 ∈ hs ∧ p.1 ∉ r.hashes)
  | r, [], p => by simp [markRecords]
  | r, h :: hs, ⟨a, t⟩ => by
      simp only [markRecords]
      split
      · rename_i fresh
        have old : h ∉ r.hashes := by simpa using fresh
        rw [mem_markRecords]
        simp only [Records.entries_addNew, List.mem_append, List.mem_singleton, Prod.mk.injEq,
          Records.hashes, List.map_append, List.map_cons, List.map_nil, List.mem_cons,
          List.not_mem_nil, or_false, not_or] at old ⊢
        constructor
        · rintro ((mem | ⟨rfl, rfl⟩) | ⟨rfl, mem, fresh', -⟩)
          · exact .inl mem
          · exact .inr ⟨rfl, .inl rfl, old⟩
          · exact .inr ⟨rfl, .inr mem, fresh'⟩
        · rintro (mem | ⟨rfl, rfl | mem, fresh'⟩)
          · exact .inl (.inl mem)
          · exact .inl (.inr ⟨rfl, rfl⟩)
          · by_cases same : a = h
            · exact .inl (.inr ⟨same, rfl⟩)
            · exact .inr ⟨rfl, mem, fresh', same⟩
      · rename_i held
        have held : h ∈ r.hashes := by simpa using held
        rw [mem_markRecords]
        simp only [List.mem_cons]
        constructor
        · rintro (mem | ⟨rfl, mem, fresh⟩)
          · exact .inl mem
          · exact .inr ⟨rfl, .inr mem, fresh⟩
        · rintro (mem | ⟨rfl, rfl | mem, fresh⟩)
          · exact .inl mem
          · exact absurd held fresh
          · exact .inr ⟨rfl, mem, fresh⟩

theorem hashes_markRecords (r : Records) (hs : List String) (h : String) :
    h ∈ (markRecords now r hs).hashes ↔ h ∈ r.hashes ∨ h ∈ hs := by
  simp only [Records.mem_hashes, mem_markRecords]
  constructor
  · rintro ⟨t, mem | ⟨-, mem, -⟩⟩
    · exact .inl ⟨t, mem⟩
    · exact .inr mem
  · rintro (⟨t, mem⟩ | mem)
    · exact ⟨t, .inl mem⟩
    · by_cases held : ∃ t, (h, t) ∈ r.entries
      · obtain ⟨t, mem'⟩ := held
        exact ⟨t, .inl mem'⟩
      · exact ⟨now, .inr ⟨rfl, mem, held⟩⟩

/-- Marking fingerprints the map already holds changes nothing. -/
theorem markRecords_of_recorded : ∀ (r : Records) (hs : List String), (∀ h ∈ hs, h ∈ r.hashes) →
    markRecords now r hs = r
  | _, [], _ => rfl
  | r, h :: hs, held => by
      have recorded : ¬ r.contains h = false := by simpa using held h (List.mem_cons_self _ _)
      rw [markRecords, dif_neg recorded]
      exact markRecords_of_recorded r hs fun h' mem => held h' (List.mem_cons_of_mem _ mem)

variable (events : List Event) (savedAt : ℚ) (stop : SaveStop) (fs : FileSystem)

@[simp] theorem markEventsAsSent_nil :
    markEventsAsSent sha256Hex d [] now savedAt stop fs = (d, fs) := by
  simp [markEventsAsSent]

theorem markEventsAsSent_settings :
    let d' := (markEventsAsSent sha256Hex d events now savedAt stop fs).1
    d'.enabled = d.enabled ∧ d'.trackingWindowSeconds = d.trackingWindowSeconds ∧
      d'.stateFile = d.stateFile := by
  unfold markEventsAsSent
  split <;> simp

/-- `mark_events_as_sent` adds, stamped `now`, the fingerprints of the given events that
the map does not hold yet, and nothing else. -/
theorem mem_markEventsAsSent (p : String × ℚ) :
    p ∈ (markEventsAsSent sha256Hex d events now savedAt stop fs).1.seenEvents.entries ↔
      p ∈ d.seenEvents.entries ∨ (d.enabled ∧ p.2 = now ∧
        p.1 ∈ events.map (generateEventHash sha256Hex) ∧ p.1 ∉ d.seenEvents.hashes) := by
  unfold markEventsAsSent
  split
  · rename_i marked
    simp only [Bool.and_eq_true] at marked
    simp [mem_markRecords, marked.1]
  · rename_i unmarked
    cases events with
    | nil => simp
    | cons => cases h : d.enabled <;> simp_all

/-- Marking a map with no records leaves only records stamped `now`. -/
theorem stamp_markEventsAsSent_of_empty (empty : d.seenEvents.entries = []) (p : String × ℚ)
    (mem : p ∈ (markEventsAsSent sha256Hex d events now savedAt stop fs).1.seenEvents.entries) :
    p.2 = now := by
  rcases (mem_markEventsAsSent events savedAt stop fs p).mp mem with old | ⟨-, stamped, -⟩
  · rw [empty] at old; cases old
  · exact stamped

/-- `mark_events_as_sent` records only fingerprints of the given events. -/
theorem hashes_markEventsAsSent {h : String}
    (mem : h ∈ (markEventsAsSent sha256Hex d events now savedAt stop fs).1.seenEvents.hashes) :
    h ∈ d.seenEvents.hashes ∨ h ∈ events.map (generateEventHash sha256Hex) := by
  obtain ⟨t, ht⟩ := Records.mem_hashes.mp mem
  rcases (mem_markEventsAsSent events savedAt stop fs _).mp ht with old | ⟨-, -, new, -⟩
  · exact .inl (Records.mem_hashes.mpr ⟨t, old⟩)
  · exact .inr new

/-- `mark_events_as_sent` touches the files only through `_save_state` of its new records. -/
theorem markEventsAsSent_fs :
    (markEventsAsSent sha256Hex d events now savedAt stop fs).2 = fs ∨
      (markEventsAsSent sha256Hex d events now savedAt stop fs).2 =
        CrusoeSplunkHec.saveState d.stateFile
          ⟨(markEventsAsSent sha256Hex d events now savedAt stop fs).1.seenEvents, savedAt,
            d.trackingWindowSeconds⟩ stop fs := by
  unfold markEventsAsSent
  split
  · rename_i marked
    simp only [Bool.and_eq_true] at marked
    exact .inr (by simp [saveState, marked.1])
  · exact .inl rfl

/-- `mark_events_as_sent` does nothing, or saves the map it has marked. -/
theorem markEventsAsSent_cases :
    markEventsAsSent sha256Hex d events now savedAt stop fs = (d, fs) ∨
      (markEventsAsSent sha256Hex d events now savedAt stop fs).2 =
        CrusoeSplunkHec.saveState d.stateFile
          ⟨(markEventsAsSent sha256Hex d events now savedAt stop fs).1.seenEvents, savedAt,
            d.trackingWindowSeconds⟩ stop fs := by
  unfold markEventsAsSent
  split
  · rename_i marked
    simp only [Bool.and_eq_true] at marked
    exact .inr (by simp [saveState, marked.1])
  · exact .inl rfl

/-- Marking events whose fingerprints all have a record changes no record. -/
theorem markEventsAsSent_of_recorded
    (recorded : ∀ e ∈ events, generateEventHash sha256Hex e ∈ d.seenEvents.hashes) :
    (markEventsAsSent sha256Hex d events now savedAt stop fs).1 = d := by
  unfold markEventsAsSent
  split
  · rw [markRecords_of_recorded _ _ (by simpa using recorded)]
  · rfl

/-- Marking is idempotent on the map: marking the same events again, at any clock, changes no
record, so a repeated `mark_events_as_sent` never refreshes a stamp. -/
theorem markEventsAsSent_idem (now' savedAt' : ℚ) (stop' : SaveStop) (fs' : FileSystem) :
    let d' := (markEventsAsSent sha256Hex d events now savedAt stop fs).1
    (markEventsAsSent sha256Hex d' events now' savedAt' stop' fs').1 = d' := by
  intro d'
  by_cases marked : (d.enabled && !events.isEmpty) = true
  · refine markEventsAsSent_of_recorded events savedAt' stop' fs' fun e he => ?_
    simp only [d', markEventsAsSent, if_pos marked]
    exact (hashes_markRecords _ _ _).mpr (.inr (List.mem_map_of_mem _ he))
  · have same : d' = d := by simp only [d', markEventsAsSent, if_neg marked]
    rw [same]
    simp only [markEventsAsSent, if_neg marked]

/-- `clear_state` deletes the state file or leaves the files as they were. -/
theorem clearState_fs (unlinkFails : Bool) (p : Path) :
    (d.clearState unlinkFails fs).2 p = fs p ∨ (d.clearState unlinkFails fs).2 p = none := by
  simp only [clearState]
  split
  · by_cases deleted : p = d.stateFile
    · subst deleted; simp
    · simp [Function.update_noteq deleted]
  · exact .inl rfl

end Spec

/-! ### The filter, event by event -/

/-- A record of `h` outlives the purges at the first `k` clock readings. -/
def RecordSurvives (d : EventDeduplicator) (clock : Nat → ℚ) (k : Nat) (h : String) : Prop :=
  d.enabled ∧ ∃ p ∈ d.seenEvents.entries, p.1 = h ∧ ∀ i < k, clock i - d.trackingWindowSeconds < p.2

instance (d : EventDeduplicator) (clock : Nat → ℚ) (k : Nat) (h : String) :
    Decidable (d.RecordSurvives clock k h) :=
  inferInstanceAs (Decidable (_ ∧ _))

/-- What `filter_duplicates` keeps, event by event: the `k`-th event unless a record of its
fingerprint outlives the purges of the first `k + 1` calls. Each event is judged against the
map the call started with, whatever the events before it were. -/
def keptEvents (d : EventDeduplicator) (clock : Nat → ℚ) (events : List Event) : List Event :=
  (events.enum.filter fun ke =>
    !decide (d.RecordSurvives clock (ke.1 + 1) (generateEventHash sha256Hex ke.2))).map Prod.snd

section Verdicts

variable {sha256Hex} {d : EventDeduplicator} {clock : Nat → ℚ} {h : String}

theorem recordSurvives_zero : d.RecordSurvives clock 0 h ↔ d.enabled ∧ h ∈ d.seenEvents.hashes := by
  simp [RecordSurvives, Records.mem_hashes]

/-- The purge of the first call is the first a record has to outlive. -/
theorem recordSurvives_succ {k : Nat} :
    d.RecordSurvives clock (k + 1) h ↔
      (d.cleanupOldEntries (clock 0)).RecordSurvives (fun n => clock (n + 1)) k h := by
  simp only [RecordSurvives, cleanupOldEntries_enabled, cleanupOldEntries_trackingWindowSeconds]
  constructor
  · rintro ⟨enabled, p, mem, named, outlives⟩
    exact ⟨enabled, p, mem_cleanupOldEntries.mpr ⟨mem, fun _ => outlives 0 (Nat.succ_pos _)⟩,
      named, fun i hi => outlives (i + 1) (Nat.succ_lt_succ hi)⟩
  · rintro ⟨enabled, p, mem, named, outlives⟩
    obtain ⟨mem, first⟩ := mem_cleanupOldEntries.mp mem
    refine ⟨enabled, p, mem, named, fun i hi => ?_⟩
    cases i with
    | zero => exact first enabled
    | succ i => exact outlives i (Nat.lt_of_succ_lt_succ hi)

theorem keptEvents_cons (e : Event) (events : List Event) :
    keptEvents sha256Hex d clock (e :: events) =
      (if d.RecordSurvives clock 1 (generateEventHash sha256Hex e) then [] else [e]) ++
        keptEvents sha256Hex (d.cleanupOldEntries (clock 0)) (fun n => clock (n + 1)) events := by
  simp only [keptEvents, List.enum_cons', List.filter_cons, List.filter_map]
  by_cases survives : d.RecordSurvives clock 1 (generateEventHash sha256Hex e) <;>
    simp [survives, Function.comp_def, recordSurvives_succ]

/-- The loop's verdicts are the per-event ones: `is_duplicate` flags the `k`-th event exactly
when a record of its fingerprint has outlived the purges of the calls so far. -/
theorem filterLoop_eq_keptEvents : ∀ (clock : Nat → ℚ) (events : List Event) (d : EventDeduplicator),
    (filterLoop sha256Hex clock events d).1 = keptEvents sha256Hex d clock events
  | _, [], _ => rfl
  | clock, e :: events, d => by
      rw [keptEvents_cons, ← filterLoop_eq_keptEvents]
      have flagged : d.RecordSurvives clock 1 (generateEventHash sha256Hex e) ↔
          (d.enabled && (d.cleanupOldEntries (clock 0)).seenEvents.contains
            (generateEventHash sha256Hex e)) = true := by
        rw [recordSurvives_succ, recordSurvives_zero]
        simp
      simp only [filterLoop, isDuplicate_eq, ← flagged]
      split <;> simp

/-- `filter_duplicates` keeps exactly the events that no surviving record flags, each judged
on its own against the map the call started with: a fingerprint that occurs twice in one
list passes twice, and a record an earlier call purged stays purged for the later ones. -/
theorem filterDuplicates_eq_keptEvents (clock : Nat → ℚ) (events : List Event) :
    (d.filterDuplicates sha256Hex clock events).1 = keptEvents sha256Hex d clock events := by
  unfold filterDuplicates
  split
  · exact filterLoop_eq_keptEvents clock events d
  · rename_i disabled
    simp [keptEvents, RecordSurvives, disabled]

end Verdicts

/-! ### Saving and reloading -/

section Reload

variable {d d' : EventDeduplicator} {savedAt later : ℚ} {fs : FileSystem}

/-- A state file that is its own temporary file: after a save that stops in `json.dump`, a
deduplicator on it starts with no records. -/
theorem loadState_saveState_of_same (enabled : d.enabled = true) (enabled' : d'.enabled = true)
    (file : d'.stateFile = d.stateFile) (same : d.stateFile.withSuffix ".tmp" = some d.stateFile) :
    (d'.loadState (d.saveState savedAt .writeStops fs) later).seenEvents = .empty := by
  simp [loadState, saveState, enabled, enabled', file, saveState_stateFile_of_same same]

/-- The temporary file of a default state file. -/
theorem defaultStateFile_withSuffix (home : Path) :
    (defaultStateFile home).withSuffix ".tmp" = some (home.join ".crusoe_dedup_state.tmp") := by
  have stem : stemLength ".crusoe_dedup_state.json".data = some 19 := by decide
  simp [defaultStateFile, Path.withSuffix, Path.name, Path.join, stem]

/-- A save to one default state file leaves every default state file with its old content,
or, for its own, the whole new document: a torn write only ever lands in a `.tmp` file. -/
theorem saveState_defaultStateFile (home home' : Path) (doc : StateDoc) (stop : SaveStop)
    (fs : FileSystem) :
    CrusoeSplunkHec.saveState (defaultStateFile home) doc stop fs (defaultStateFile home') =
        fs (defaultStateFile home') ∨
      CrusoeSplunkHec.saveState (defaultStateFile home) doc stop fs (defaultStateFile home') =
        some (.complete doc) := by
  have notTemp : ∀ h, (defaultStateFile home).withSuffix ".tmp" ≠ some (defaultStateFile h) :=
    fun h same => Path.join_ne_join home h (by decide)
      (Option.some.inj ((defaultStateFile_withSuffix home).symm.trans same))
  by_cases own : defaultStateFile home' = defaultStateFile home
  · rw [own]
    exact saveState_stateFile_atomic (notTemp home) doc stop fs
  · exact .inl (saveState_frame own (notTemp home') doc stop fs)

end Reload

/-- `EventDeduplicator(window, "/var/lib/dedup.tmp")` saves through its state file itself:
whatever the file held, a save that stops inside `json.dump` leaves a prefix of the new
document there, and the next deduplicator on it starts with no records. -/
theorem restart_forgets_after_interrupted_save (window now savedAt later : ℚ) (home : Path)
    (fs : FileSystem) :
    let d := init window (some "/var/lib/dedup.tmp") true home fs now
    d.saveState savedAt .writeStops fs d.stateFile =
        some (.truncated ⟨d.seenEvents, savedAt, window⟩) ∧
      (init window (some "/var/lib/dedup.tmp") true home (d.saveState savedAt .writeStops fs)
        later).seenEvents = .empty := by
  intro d
  have same : (Path.ofString "/var/lib/dedup.tmp").withSuffix ".tmp" =
      some (Path.ofString "/var/lib/dedup.tmp") := by decide
  have file : d.stateFile = Path.ofString "/var/lib/dedup.tmp" := by simp [d, init]
  have enabled : d.enabled = true := by simp [d, init]
  have window_eq : d.trackingWindowSeconds = window := by simp [d, init]
  constructor
  · rw [saveState, if_pos enabled, file, saveState_stateFile_of_same same, window_eq]
  · exact loadState_saveState_of_same enabled rfl (by simp [init, file]) (file ▸ same)

end EventDeduplicator

end CrusoeSplunkHec
