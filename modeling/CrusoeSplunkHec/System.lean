import CrusoeSplunkHec.Daemon

/-!
The forwarder over time (`main.py` and `deduplicator.py` together).

A `World` holds the files, the deduplicator and `last_run_time` of the live process, and a
history variable: every event a `send_events_batch` call has returned as accepted. An
`Action` is anything that can happen next: a process starts `daemon` (loading the state
file), runs one cycle of its loop or any other `forward_logs` call (dry runs included),
calls one of the deduplicator's read operations, `dedup-stats` runs in a process of its own
(clearing the state file or not), or the live process ends and its memory with it. A run is
any list of actions.

* `records_accepted` — in every run from files that hold no records, every fingerprint the
  live deduplicator or any state file holds is that of an event some `send_events_batch`
  call returned as accepted: no other operation adds a record, and `forward_logs` marks
  only that list.
* `restart_no_resend` — a restarted daemon's first window is `[T - lookback, T)`, and its
  first cycle hands on no event whose fingerprint the state file records with a stamp no
  clock reading of the new process has outlived by the tracking window.
* `restart_resends_expired` — with the default options, a restart within `interval` of the
  last cycle still re-sends an accepted event: its record expires on load while the first
  window reaches back `lookback` seconds.
* `stateFile_never_torn` — however each `_save_state` stops and wherever a process ends, no
  default state file ever holds a torn document: every save goes through a `.tmp` file, and
  no default state file is another's `.tmp` file.
* `restart_keeps_records` — in a run whose saves complete and that never clears the state, a
  crash loses no record: a restarted daemon holds every record of the live one that its own
  clock readings have not outlived.
-/

namespace CrusoeSplunkHec

/-- The files, the live process's forwarder state, and every event a `send_events_batch` call
has returned as accepted so far. -/
structure World where
  fs : FileSystem
  dedup : Option EventDeduplicator
  lastRunTime : Option ℚ
  accepted : List Event

/-- What can happen next. -/
inductive Action where
  /-- A process starts `daemon`: it builds its deduplicator under `home`, loading the state
  file with the clock at `loadClock`, and calls `get_stats` at `statsClock`. -/
  | start (cfg : DaemonConfig) (home : Path) (loadClock statsClock : ℚ)
  /-- One pass of the live daemon's loop. -/
  | cycle (cfg : DaemonConfig) (tick : Tick)
  /-- A `forward_logs` call of the live process, with any window, dry run or not. -/
  | forward (batchSize : Int) (env : Env) (startTime endTime : Option ℚ) (dryRun : Bool)
  /-- `is_duplicate(event)` on the live deduplicator at `now`. -/
  | checkDuplicate (event : Event) (now : ℚ)
  /-- `filter_duplicates(events)` on the live deduplicator. -/
  | filter (clock : Nat → ℚ) (events : List Event)
  /-- `get_stats()` on the live deduplicator at `now`. -/
  | stats (now : ℚ)
  /-- `dedup-stats` in a process of its own: `EventDeduplicator(3600)` under `home`, then
  `clear_state()` with `--clear`, `get_stats()` without. -/
  | dedupStats (home : Path) (loadClock : ℚ) (clear unlinkFails : Bool)
  /-- The live process ends. -/
  | exit

variable (sha256Hex : String → String)

/-- The world after one action. -/
def World.step (w : World) : Action → World
  | .start cfg home loadClock statsClock =>
    { w with dedup := (daemonStart cfg home w.fs loadClock statsClock).dedup, lastRunTime := none }
  | .cycle cfg tick =>
    let c := daemonCycle sha256Hex cfg ⟨w.lastRunTime, w.dedup, w.fs⟩ tick
    ⟨c.after.fs, c.after.dedup, c.after.lastRunTime, w.accepted ++ c.forwarded.accepted⟩
  | .forward batchSize env startTime endTime dryRun =>
    let out := forwardLogs sha256Hex batchSize w.dedup w.fs env startTime endTime dryRun
    { w with fs := out.fs, dedup := out.dedup, accepted := w.accepted ++ out.accepted }
  | .checkDuplicate event now =>
    { w with dedup := w.dedup.map fun d => (d.isDuplicate sha256Hex event now).2 }
  | .filter clock events =>
    { w with dedup := w.dedup.map fun d => (d.filterDuplicates sha256Hex clock events).2 }
  | .stats now => { w with dedup := w.dedup.map fun d => (d.getStats now).2 }
  | .dedupStats home loadClock clear unlinkFails =>
    if clear then
      { w with fs := ((EventDeduplicator.init 3600 none true home w.fs loadClock).clearState
          unlinkFails w.fs).2 }
    else w
  | .exit => { w with dedup := none, lastRunTime := none }

/-- The world after a run. -/
def World.run (w : World) (actions : List Action) : World :=
  actions.foldl (World.step sha256Hex) w

/-! ### Every record is an accepted event's -/

/-- Every fingerprint of `hs` is that of an event of `accepted`. -/
def Accounted (accepted : List Event) (hs : List String) : Prop :=
  ∀ h ∈ hs, ∃ e ∈ accepted, generateEventHash sha256Hex e = h

/-- Every file holds only accounted records. -/
def FilesAccounted (accepted : List Event) (fs : FileSystem) : Prop :=
  ∀ p c, fs p = some c → Accounted sha256Hex accepted c.doc.seenEvents.hashes

/-- The invariant: the live deduplicator and every file hold only fingerprints of accepted
events. -/
structure RecordsAccepted (w : World) : Prop where
  memory : ∀ d, w.dedup = some d → Accounted sha256Hex w.accepted d.seenEvents.hashes
  files : FilesAccounted sha256Hex w.accepted w.fs

section Records

variable {sha256Hex} {accepted : List Event}

theorem Accounted.mono {hs : List String} (h : Accounted sha256Hex accepted hs)
    (more : List Event) : Accounted sha256Hex (accepted ++ more) hs := fun x mem => by
  obtain ⟨e, he, rfl⟩ := h x mem
  exact ⟨e, List.mem_append_left _ he, rfl⟩

theorem Accounted.of_subset {hs hs' : List String} (h : Accounted sha256Hex accepted hs)
    (sub : hs' ⊆ hs) : Accounted sha256Hex accepted hs' := fun x mem => h x (sub mem)

theorem FilesAccounted.mono {fs : FileSystem} (h : FilesAccounted sha256Hex accepted fs)
    (more : List Event) : FilesAccounted sha256Hex (accepted ++ more) fs :=
  fun p c hp => (h p c hp).mono more

/-- `_save_state` of accounted records keeps the files accounted. -/
theorem FilesAccounted.saveState {fs : FileSystem} (h : FilesAccounted sha256Hex accepted fs)
    {doc : StateDoc} (saved : Accounted sha256Hex accepted doc.seenEvents.hashes)
    (statePath : Path) (stop : SaveStop) :
    FilesAccounted sha256Hex accepted (CrusoeSplunkHec.saveState statePath doc stop fs) := by
  intro p c hp
  rcases saveState_cases statePath doc stop fs p with same | gone | ⟨c', written, hc'⟩
  · exact h p c (same ▸ hp)
  · rw [gone] at hp; cases hp
  · rw [written, Option.some.injEq] at hp
    subst hp
    rw [hc']
    exact saved

/-- A forwarding run keeps the invariant, counting what it accepted: it marks only its
accepted list, on a deduplicator the filter can only have purged, and saves what it marked. -/
theorem recordsAccepted_forwardLogs {w : World} (inv : RecordsAccepted sha256Hex w)
    (batchSize : Int) (env : Env) (startTime endTime : Option ℚ) (dryRun : Bool) :
    let out := forwardLogs sha256Hex batchSize w.dedup w.fs env startTime endTime dryRun
    (∀ d, out.dedup = some d → Accounted sha256Hex (w.accepted ++ out.accepted) d.seenEvents.hashes) ∧
      FilesAccounted sha256Hex (w.accepted ++ out.accepted) out.fs := by
  intro out
  obtain ⟨-, store⟩ :=
    @forwardLogs_spec sha256Hex batchSize w.dedup w.fs env startTime endTime dryRun
  rcases filtered : filteredStore sha256Hex batchSize w.dedup env startTime endTime with _ | df
  · rw [filtered] at store
    simp only [markAccepted, Prod.mk.injEq] at store
    refine ⟨fun d hd => ?_, ?_⟩
    · rw [store.1] at hd; cases hd
    · rw [store.2]; exact inv.files.mono _
  · obtain ⟨d, hd, purged⟩ := filteredStore_subset filtered
    rw [filtered] at store
    simp only [markAccepted, Prod.mk.injEq] at store
    have marked : Accounted sha256Hex (w.accepted ++ out.accepted)
        (df.markEventsAsSent sha256Hex out.accepted env.markClock env.saveClock env.saveStop
          w.fs).1.seenEvents.hashes := fun h mem => by
      rcases EventDeduplicator.hashes_markEventsAsSent _ _ _ _ mem with old | new
      · exact (inv.memory d hd).mono _ h (purged old)
      · obtain ⟨e, he, rfl⟩ := List.mem_map.mp new
        exact ⟨e, List.mem_append_right _ he, rfl⟩
    refine ⟨fun d' hd' => ?_, ?_⟩
    · rw [store.1, Option.some.injEq] at hd'
      subst hd'
      exact marked
    · rw [store.2]
      rcases @EventDeduplicator.markEventsAsSent_fs sha256Hex df env.markClock out.accepted
          env.saveClock env.saveStop w.fs with same | saved
      · rw [same]; exact inv.files.mono _
      · rw [saved]; exact (inv.files.mono _).saveState marked _ _

/-- A deduplicator built over accounted files holds only accounted records: `_load_state`
reads them from the state file or keeps the empty map. -/
theorem accounted_init {fs : FileSystem} (files : FilesAccounted sha256Hex accepted fs)
    (window : ℚ) (statePath : Option String) (enabled : Bool) (home : Path) (now : ℚ) :
    Accounted sha256Hex accepted
      (EventDeduplicator.init window statePath enabled home fs now).seenEvents.hashes := by
  intro h mem
  rcases EventDeduplicator.hashes_loadState mem with empty | ⟨c, file, held⟩
  · simp at empty
  · exact files _ c file h held

/-- `clear_state` only deletes a file. -/
theorem FilesAccounted.clearState {fs : FileSystem} (h : FilesAccounted sha256Hex accepted fs)
    (d : EventDeduplicator) (unlinkFails : Bool) :
    FilesAccounted sha256Hex accepted (d.clearState unlinkFails fs).2 := by
  intro p c hp
  simp only [EventDeduplicator.clearState] at hp
  split at hp
  · by_cases deleted : p = d.stateFile
    · subst deleted; simp at hp
    · exact h p c (by rwa [Function.update_noteq deleted] at hp)
  · exact h p c hp

variable {w : World}

/-- An operation that can only purge keeps the live deduplicator accounted. -/
theorem memory_map (inv : RecordsAccepted sha256Hex w) {f : EventDeduplicator → EventDeduplicator}
    (purges : ∀ d, (f d).seenEvents.hashes ⊆ d.seenEvents.hashes) :
    ∀ d, w.dedup.map f = some d → Accounted sha256Hex w.accepted d.seenEvents.hashes := by
  intro d mapped
  obtain ⟨d₀, live, rfl⟩ := Option.map_eq_some'.mp mapped
  exact (inv.memory d₀ live).of_subset (purges d₀)

/-- Every action keeps the invariant. -/
theorem recordsAccepted_step (inv : RecordsAccepted sha256Hex w) :
    ∀ a : Action, RecordsAccepted sha256Hex (w.step sha256Hex a)
  | .start cfg home loadClock statsClock => by
    refine ⟨fun d started => ?_, inv.files⟩
    simp only [World.step, daemonStart] at started
    split at started
    · cases started
      exact (accounted_init inv.files _ _ _ _ _).of_subset
        EventDeduplicator.hashes_cleanupOldEntries_subset
    · cases started
  | .cycle cfg tick =>
    let ⟨memory, files⟩ := recordsAccepted_forwardLogs inv cfg.batchSize tick.env _ _ false
    ⟨memory, files⟩
  | .forward batchSize env startTime endTime dryRun =>
    let ⟨memory, files⟩ := recordsAccepted_forwardLogs inv batchSize env startTime endTime dryRun
    ⟨memory, files⟩
  | .checkDuplicate event now => by
    refine ⟨memory_map inv fun d => ?_, inv.files⟩
    rw [EventDeduplicator.isDuplicate_eq]
    exact EventDeduplicator.hashes_cleanupOldEntries_subset
  | .filter clock events => by
    refine ⟨memory_map inv fun d => ?_, inv.files⟩
    unfold EventDeduplicator.filterDuplicates
    split
    · exact EventDeduplicator.hashes_filterLoop_subset clock events d
    · exact List.Subset.refl _
  | .stats now => ⟨memory_map inv fun _ => EventDeduplicator.hashes_cleanupOldEntries_subset,
      inv.files⟩
  | .dedupStats _ _ false _ => inv
  | .dedupStats _ _ true unlinkFails => ⟨inv.memory, inv.files.clearState _ unlinkFails⟩
  | .exit => ⟨(fun _ gone => nomatch gone), inv.files⟩

/-- Every run keeps the invariant. -/
theorem recordsAccepted_run :
    ∀ (actions : List Action) {w : World}, RecordsAccepted sha256Hex w →
      RecordsAccepted sha256Hex (w.run sha256Hex actions)
  | [], _, inv => inv
  | a :: actions, _, inv => recordsAccepted_run actions (recordsAccepted_step inv a)

end Records

/-- From files that hold no records and no live process, after any run every fingerprint in
the live deduplicator or in any file, complete or truncated, is that of an event some
`send_events_batch` call returned as accepted. -/
theorem records_accepted (fs : FileSystem)
    (blank : ∀ p c, fs p = some c → c.doc.seenEvents.entries = []) (actions : List Action) :
    let w := (⟨fs, none, none, []⟩ : World).run sha256Hex actions
    (∀ d, w.dedup = some d → ∀ h ∈ d.seenEvents.hashes,
        ∃ e ∈ w.accepted, generateEventHash sha256Hex e = h) ∧
      ∀ p c, w.fs p = some c → ∀ h ∈ c.doc.seenEvents.hashes,
        ∃ e ∈ w.accepted, generateEventHash sha256Hex e = h := by
  have start : RecordsAccepted sha256Hex ⟨fs, none, none, []⟩ :=
    ⟨(fun _ none_eq => nomatch none_eq), fun p c hp h mem => by
      simp [Records.hashes, blank p c hp] at mem⟩
  exact ⟨(recordsAccepted_run actions start).memory, (recordsAccepted_run actions start).files⟩

/-- No files at all; a daemon starts, and its first cycle gets one event accepted and marks its
fingerprint. -/
theorem records_accepted_sample :
    let e : Event := ⟨[("start_time", .str "a")]⟩
    let cfg : DaemonConfig := ⟨300, 600, true, 60, 100⟩
    let tick : Tick := ⟨0, ⟨fun _ _ _ => .ok [e],
      fun _ => .http 200 (.object [("text", .str "Success")]), fun _ => 0, 0, 0, .completes⟩⟩
    let w := (⟨fun _ => none, none, none, []⟩ : World).run id
      [.start cfg ⟨false, []⟩ 0 0, .cycle cfg tick]
    (∀ p c, (fun _ => none : FileSystem) p = some c → c.doc.seenEvents.entries = []) ∧
      w.accepted = [e] ∧ (∃ d, w.dedup = some d ∧ generateEventHash id e ∈ d.seenEvents.hashes) ∧
      (∀ d, w.dedup = some d → ∀ h ∈ d.seenEvents.hashes,
          ∃ e ∈ w.accepted, generateEventHash id e = h) ∧
        ∀ p c, w.fs p = some c → ∀ h ∈ c.doc.seenEvents.hashes,
          ∃ e ∈ w.accepted, generateEventHash id e = h := by
  intro e cfg tick w
  have blank : ∀ p c, (fun _ => none : FileSystem) p = some c → c.doc.seenEvents.entries = [] :=
    fun _ _ none_eq => nomatch none_eq
  set d₀ := ((EventDeduplicator.init cfg.trackingWindow none true ⟨false, []⟩ (fun _ => none)
    0).getStats 0).2
  have empty₀ : (d₀.cleanupOldEntries 0).seenEvents.entries = [] := rfl
  set marked := (d₀.cleanupOldEntries 0).markEventsAsSent id [e] 0 0 .completes (fun _ => none)
  have fetched : tick.env.fetch (some (cycleStart cfg.lookback none 0)) (some 0) cfg.batchSize =
      .ok [e] := rfl
  have confirms : ∀ n, (tick.env.respond n).confirms := fun _ => rfl
  have out : (daemonCycle id cfg ⟨none, some d₀, fun _ => none⟩ tick).forwarded =
      ⟨.ok 1, [e], [e], some marked.1, marked.2⟩ :=
    forwardLogs_of_unrecorded d₀ rfl fetched (by simp [Records.hashes, empty₀]) (by decide) confirms
  have accepted : w.accepted = [e] := by
    show [] ++ (daemonCycle id cfg ⟨none, some d₀, fun _ => none⟩ tick).forwarded.accepted = _
    rw [out]
    rfl
  have live : w.dedup = some marked.1 := by
    show (daemonCycle id cfg ⟨none, some d₀, fun _ => none⟩ tick).after.dedup = _
    rw [daemonCycle_dedup, out]
  have recorded : generateEventHash id e ∈ marked.1.seenEvents.hashes :=
    Records.mem_hashes.mpr ⟨0, (EventDeduplicator.mem_markEventsAsSent [e] 0 .completes
      (fun _ => none) _).mpr (.inr ⟨rfl, rfl, List.mem_singleton_self _,
        by simp [Records.hashes, empty₀]⟩)⟩
  exact ⟨blank, accepted, ⟨_, live, recorded⟩, records_accepted id (fun _ => none) blank _⟩

/-! ### No torn state file -/

/-- The live deduplicator, if any, saves to a default state file. -/
def OnDefault (dedup : Option EventDeduplicator) : Prop :=
  ∀ d, dedup = some d → ∃ home, d.stateFile = EventDeduplicator.defaultStateFile home

/-- No default state file holds a torn document. -/
def Whole (fs : FileSystem) : Prop :=
  ∀ home doc, fs (EventDeduplicator.defaultStateFile home) ≠ some (.truncated doc)

section Whole

variable {sha256Hex} {fs : FileSystem}

/-- `_save_state` to a default state file tears no default state file: the one file it can
leave half-written is its `.tmp` file. -/
theorem Whole.saveState (h : Whole fs) (home : Path) (doc : StateDoc) (stop : SaveStop) :
    Whole (CrusoeSplunkHec.saveState (EventDeduplicator.defaultStateFile home) doc stop fs) := by
  intro home' doc' torn
  rcases EventDeduplicator.saveState_defaultStateFile home home' doc stop fs with same | full
  · rw [same] at torn
    exact h home' doc' torn
  · rw [full] at torn
    cases torn

/-- `clear_state` only deletes. -/
theorem Whole.clearState (h : Whole fs) (d : EventDeduplicator) (unlinkFails : Bool) :
    Whole (d.clearState unlinkFails fs).2 := by
  intro home doc torn
  rcases EventDeduplicator.clearState_fs fs unlinkFails (EventDeduplicator.defaultStateFile home)
    with same | gone
  · rw [same] at torn
    exact h home doc torn
  · rw [gone] at torn
    cases torn

variable {w : World} (batchSize : Int) (env : Env) (startTime endTime : Option ℚ) (dryRun : Bool)

/-- A forwarding run keeps the deduplicator on its state file. -/
theorem onDefault_forwardLogs (inv : OnDefault w.dedup) :
    OnDefault (forwardLogs sha256Hex batchSize w.dedup w.fs env startTime endTime dryRun).dedup := by
  intro d' live
  rcases @forwardLogs_store sha256Hex batchSize w.dedup w.fs env startTime endTime dryRun with
    ⟨none_eq, -⟩ | ⟨d, df, hd, file, -, marked, -⟩
  · rw [none_eq] at live
    cases live
  · rw [marked, Option.some.injEq] at live
    obtain ⟨home, onHome⟩ := inv d hd
    exact ⟨home, by rw [← live, (EventDeduplicator.markEventsAsSent_settings _ _ _ _).2.2, file, onHome]⟩

/-- A forwarding run tears no default state file: it saves only through the deduplicator the
filter left, to the state file the deduplicator had. -/
theorem whole_forwardLogs (onDefault : OnDefault w.dedup) (inv : Whole w.fs) :
    Whole (forwardLogs sha256Hex batchSize w.dedup w.fs env startTime endTime dryRun).fs := by
  rcases @forwardLogs_store sha256Hex batchSize w.dedup w.fs env startTime endTime dryRun with
    ⟨-, same⟩ | ⟨d, df, hd, file, -, -, marked⟩
  · rw [same]
    exact inv
  · obtain ⟨home, onHome⟩ := onDefault d hd
    rw [marked]
    rcases @EventDeduplicator.markEventsAsSent_fs sha256Hex df env.markClock _ env.saveClock
        env.saveStop w.fs with same | saved
    · rw [same]
      exact inv
    · rw [saved, file, onHome]
      exact inv.saveState home _ _

/-- An operation that keeps the state file keeps the live deduplicator on a default one. -/
theorem onDefault_map (inv : OnDefault w.dedup) {f : EventDeduplicator → EventDeduplicator}
    (keeps : ∀ d, (f d).stateFile = d.stateFile) : OnDefault (w.dedup.map f) := by
  intro d mapped
  obtain ⟨d₀, live, rfl⟩ := Option.map_eq_some'.mp mapped
  rw [keeps]
  exact inv d₀ live

/-- Every action keeps the live deduplicator on a default state file. -/
theorem onDefault_step (inv : OnDefault w.dedup) : ∀ a : Action, OnDefault (w.step sha256Hex a).dedup
  | .start cfg home _ _ => fun d started => ⟨home, by
      simp only [World.step, daemonStart] at started
      split at started
      · cases started
        simp
      · cases started⟩
  | .cycle cfg tick => onDefault_forwardLogs cfg.batchSize tick.env _ _ false inv
  | .forward batchSize env startTime endTime dryRun =>
    onDefault_forwardLogs batchSize env startTime endTime dryRun inv
  | .checkDuplicate _ _ => onDefault_map inv fun _ => by simp
  | .filter _ _ => onDefault_map inv fun _ => by simp
  | .stats _ => onDefault_map inv fun _ => by simp
  | .dedupStats _ _ clear _ => by cases clear <;> exact inv
  | .exit => fun _ gone => nomatch gone

/-- Every action keeps every default state file whole. -/
theorem whole_step (onDefault : OnDefault w.dedup) (inv : Whole w.fs) :
    ∀ a : Action, Whole (w.step sha256Hex a).fs
  | .start .. | .checkDuplicate .. | .filter .. | .stats .. | .dedupStats _ _ false _ | .exit => inv
  | .cycle cfg tick => whole_forwardLogs cfg.batchSize tick.env _ _ false onDefault inv
  | .forward batchSize env startTime endTime dryRun =>
    whole_forwardLogs batchSize env startTime endTime dryRun onDefault inv
  | .dedupStats _ _ true unlinkFails => inv.clearState _ unlinkFails

/-- Every run keeps every default state file whole. -/
theorem whole_run : ∀ (actions : List Action) {w : World}, OnDefault w.dedup → Whole w.fs →
    Whole (w.run sha256Hex actions).fs
  | [], _, _, inv => inv
  | a :: actions, _, onDefault, inv =>
    whole_run actions (onDefault_step onDefault a) (whole_step onDefault inv a)

end Whole

/-- From files with no torn default state file and no live process, after any run, however
each `_save_state` stops and wherever a process ends, every default state file holds
nothing or a whole document: a restart never reads a torn one. -/
theorem stateFile_never_torn (fs : FileSystem)
    (whole : ∀ home doc, fs (EventDeduplicator.defaultStateFile home) ≠ some (.truncated doc))
    (actions : List Action) (home : Path) :
    let w := (⟨fs, none, none, []⟩ : World).run sha256Hex actions
    w.fs (EventDeduplicator.defaultStateFile home) = none ∨
      ∃ doc, w.fs (EventDeduplicator.defaultStateFile home) = some (.complete doc) := by
  intro w
  have kept : Whole w.fs := whole_run actions (fun _ none_eq => nomatch none_eq) whole
  rcases file : w.fs (EventDeduplicator.defaultStateFile home) with _ | ⟨doc | doc⟩
  · exact .inl rfl
  · exact .inr ⟨doc, rfl⟩
  · exact absurd file (kept home doc)

/-- No files, and a daemon whose only cycle's save stops halfway through writing. -/
theorem stateFile_never_torn_sample :
    (∀ home doc, (fun _ => none : FileSystem) (EventDeduplicator.defaultStateFile home) ≠
        some (.truncated doc)) ∧
      let e : Event := ⟨[("start_time", .str "t")]⟩
      let cfg : DaemonConfig := ⟨300, 600, true, 60, 100⟩
      let env : Env := ⟨sourceFetch (fun _ => 0) [e],
        fun _ => .http 200 (.object [("text", .str "Success")]), fun _ => 0, 0, 0, .writeStops⟩
      let w := (⟨fun _ => none, none, none, []⟩ : World).run id
        [.start cfg ⟨false, []⟩ 0 0, .cycle cfg ⟨100, env⟩, .exit]
      w.fs (EventDeduplicator.defaultStateFile ⟨false, []⟩) = none ∨
        ∃ doc, w.fs (EventDeduplicator.defaultStateFile ⟨false, []⟩) = some (.complete doc) :=
  ⟨(fun _ _ none_eq => nomatch none_eq),
    stateFile_never_torn id (fun _ => none) (fun _ _ none_eq => nomatch none_eq) _ _⟩

/-! ### No record lost to a crash -/

/-- Whether an action keeps the state file up to date: every save it makes completes, and it
does not clear the state. -/
def Action.durable : Action → Bool
  | .cycle _ tick => decide (tick.env.saveStop = .completes)
  | .forward _ env _ _ _ => decide (env.saveStop = .completes)
  | .dedupStats _ _ clear _ => !clear
  | _ => true

/-- Every record of the live deduplicator is in the whole document its state file holds. -/
def Persisted (dedup : Option EventDeduplicator) (fs : FileSystem) : Prop :=
  ∀ d, dedup = some d → ∀ p ∈ d.seenEvents.entries,
    ∃ doc, fs d.stateFile = some (.complete doc) ∧ p ∈ doc.seenEvents.entries

section Durable

variable {sha256Hex} {w : World} (batchSize : Int) {env : Env} (startTime endTime : Option ℚ)
  (dryRun : Bool)

/-- A forwarding run whose save completes keeps the live records in the state file: the
filter only drops records, and a mark writes the whole map it has marked. -/
theorem persisted_forwardLogs (onDefault : OnDefault w.dedup) (inv : Persisted w.dedup w.fs)
    (completes : env.saveStop = .completes) :
    let out := forwardLogs sha256Hex batchSize w.dedup w.fs env startTime endTime dryRun
    Persisted out.dedup out.fs := by
  intro out d' live p mem
  rcases @forwardLogs_store sha256Hex batchSize w.dedup w.fs env startTime endTime dryRun with
    ⟨none_eq, -⟩ | ⟨d, df, hd, file, dropped, marked, saved⟩
  · rw [none_eq] at live
    cases live
  · obtain ⟨home, onHome⟩ := onDefault d hd
    rw [marked, Option.some.injEq] at live
    subst live
    rw [saved]
    rcases @EventDeduplicator.markEventsAsSent_cases sha256Hex df env.markClock out.accepted
        env.saveClock env.saveStop w.fs with same | written
    · simp only [same] at mem ⊢
      rw [file]
      exact inv d hd p (dropped mem)
    · have temp : ((EventDeduplicator.defaultStateFile home).withSuffix ".tmp").isSome := by
        rw [EventDeduplicator.defaultStateFile_withSuffix]; rfl
      rw [written, (EventDeduplicator.markEventsAsSent_settings _ _ _ _).2.2, completes, file,
        onHome, saveState_completes temp]
      rw [completes] at mem
      exact ⟨_, rfl, mem⟩

/-- An operation that keeps the state file and only drops records keeps the live records in
the state file. -/
theorem persisted_map (inv : Persisted w.dedup w.fs) {f : EventDeduplicator → EventDeduplicator}
    (keeps : ∀ d, (f d).stateFile = d.stateFile)
    (drops : ∀ d, (f d).seenEvents.entries ⊆ d.seenEvents.entries) :
    Persisted (w.dedup.map f) w.fs := by
  intro d mapped p mem
  obtain ⟨d₀, live, rfl⟩ := Option.map_eq_some'.mp mapped
  rw [keeps]
  exact inv d₀ live p (drops d₀ mem)

/-- Every action that keeps the state file up to date keeps the live records in it. -/
theorem persisted_step (onDefault : OnDefault w.dedup) (inv : Persisted w.dedup w.fs) :
    ∀ a : Action, a.durable = true → Persisted (w.step sha256Hex a).dedup (w.step sha256Hex a).fs
  | .start cfg home loadClock statsClock, _ => by
    intro d started p mem
    simp only [World.step, daemonStart] at started
    split at started
    · cases started
      simp only [EventDeduplicator.getStats_snd, EventDeduplicator.cleanupOldEntries_stateFile,
        EventDeduplicator.init_stateFile]
      exact EventDeduplicator.mem_init (EventDeduplicator.mem_cleanupOldEntries.mp mem).1
    · cases started
  | .cycle cfg tick, durable =>
    persisted_forwardLogs cfg.batchSize _ _ false onDefault inv (of_decide_eq_true durable)
  | .forward batchSize env startTime endTime dryRun, durable =>
    persisted_forwardLogs batchSize startTime endTime dryRun onDefault inv
      (of_decide_eq_true durable)
  | .checkDuplicate event now, _ =>
    persisted_map inv (fun _ => by simp) fun d p mem => by
      rw [EventDeduplicator.isDuplicate_eq] at mem
      exact (EventDeduplicator.mem_cleanupOldEntries.mp mem).1
  | .filter clock events, _ => persisted_map inv (fun _ => by simp) fun _ =>
      EventDeduplicator.filterDuplicates_entries_subset clock events
  | .stats now, _ => persisted_map inv (fun _ => by simp) fun _ _ mem =>
      (EventDeduplicator.mem_cleanupOldEntries.mp mem).1
  | .dedupStats _ _ false _, _ => inv
  | .exit, _ => fun _ gone => nomatch gone

/-- Every run of such actions keeps the live records in the state file. -/
theorem persisted_run :
    ∀ (actions : List Action) {w : World}, (∀ a ∈ actions, a.durable = true) →
      OnDefault w.dedup → Persisted w.dedup w.fs →
      Persisted (w.run sha256Hex actions).dedup (w.run sha256Hex actions).fs
  | [], _, _, _, inv => inv
  | a :: actions, _, durable, onDefault, inv =>
    persisted_run actions (fun b mem => durable b (List.mem_cons_of_mem _ mem))
      (onDefault_step onDefault a)
      (persisted_step onDefault inv a (durable a (List.mem_cons_self _ _)))

end Durable

/-! ### A restart -/

section Restart

variable {sha256Hex} {cfg : DaemonConfig} {home : Path} {fs : FileSystem} {loadClock statsClock : ℚ}

/-- A record `(h, m)` of a whole state file survives a restart's load and `get_stats` while
their clocks stay below `m + window`. -/
theorem mem_daemonStart_of_complete (dedupOn : cfg.enableDedup = true) {doc : StateDoc}
    (file : fs (EventDeduplicator.defaultStateFile home) = some (.complete doc)) {h : String}
    {m : ℚ} (held : (h, m) ∈ doc.seenEvents.entries) (loaded : loadClock - cfg.trackingWindow < m)
    (stated : statsClock - cfg.trackingWindow < m) :
    ∃ d, (daemonStart cfg home fs loadClock statsClock).dedup = some d ∧ d.enabled = true ∧
      d.trackingWindowSeconds = cfg.trackingWindow ∧ (h, m) ∈ d.seenEvents.entries := by
  refine ⟨_, daemonStart_dedup dedupOn, by simp [EventDeduplicator.init],
    by simp [EventDeduplicator.init], ?_⟩
  rw [EventDeduplicator.getStats_snd, EventDeduplicator.mem_cleanupOldEntries,
    EventDeduplicator.mem_init_of_complete file]
  exact ⟨⟨held, loaded⟩, fun _ => by simpa [EventDeduplicator.init] using stated⟩

end Restart

/-- A restarted daemon's first cycle forwards `[T - lookback, T)`, and hands on no event whose
fingerprint the state file records with a stamp `m` such that the new process's load, its
`get_stats` and every `is_duplicate` call of the cycle read the clock below
`m + tracking_window`. -/
theorem restart_no_resend (cfg : DaemonConfig) (dedupOn : cfg.enableDedup = true) (home : Path)
    (fs : FileSystem) (loadClock statsClock : ℚ) (tick : Tick) :
    let c := daemonCycle sha256Hex cfg (daemonStart cfg home fs loadClock statsClock) tick
    c.startTime = tick.now - cfg.lookback ∧
      ∀ doc, fs (EventDeduplicator.defaultStateFile home) = some (.complete doc) →
        ∀ h m, (h, m) ∈ doc.seenEvents.entries →
          loadClock - cfg.trackingWindow < m → statsClock - cfg.trackingWindow < m →
          (∀ n, tick.env.checkClock n - cfg.trackingWindow < m) →
          ∀ e ∈ c.forwarded.handed, generateEventHash sha256Hex e ≠ h := by
  intro c
  refine ⟨rfl, fun doc file h m held loaded stated checked e he same => ?_⟩
  obtain ⟨d, started, enabled, window, kept⟩ :=
    mem_daemonStart_of_complete dedupOn file held loaded stated
  have handed : e ∈ (forwardLogs sha256Hex cfg.batchSize (some d) fs tick.env
      (some (tick.now - cfg.lookback)) (some tick.now) false).handed := by
    rw [← started]; exact he
  rcases fetched : tick.env.fetch (some (tick.now - cfg.lookback)) (some tick.now)
    cfg.batchSize with raised | logs
  · rw [forwardLogs_of_fetch_error fetched] at handed
    cases handed
  · refine hash_not_mem_of_handed d enabled fetched e handed ?_
    rw [same]
    exact Records.mem_hashes.mpr ⟨m, (EventDeduplicator.mem_filterLoop _ _ _ _).mpr
      ⟨kept, fun _ i _ => by rw [window]; exact checked i⟩⟩

/-- A state file holding the fingerprint of `e`, stamped 10, read at 0 with the default
options, and a first cycle that fetches `e` again with a new event. -/
theorem restart_no_resend_sample :
    let e : Event := ⟨[("start_time", .str "a")]⟩
    let e' : Event := ⟨[("start_time", .str "b")]⟩
    let cfg : DaemonConfig := ⟨300, 600, true, 60, 100⟩
    let home : Path := ⟨true, ["root"]⟩
    let doc : StateDoc := ⟨Records.empty.addNew (generateEventHash id e) 10 rfl, 10, 390⟩
    let fs : FileSystem := fun p => if p = EventDeduplicator.defaultStateFile home then
      some (.complete doc) else none
    let tick : Tick := ⟨0, ⟨fun _ _ _ => .ok [e, e'],
      fun _ => .http 200 (.object [("text", .str "Success")]), fun _ => 0, 0, 0, .completes⟩⟩
    let c := daemonCycle id cfg (daemonStart cfg home fs 0 0) tick
    cfg.enableDedup = true ∧ fs (EventDeduplicator.defaultStateFile home) = some (.complete doc) ∧
      (generateEventHash id e, (10 : ℚ)) ∈ doc.seenEvents.entries ∧
      (0 : ℚ) - cfg.trackingWindow < 10 ∧ (∀ n, tick.env.checkClock n - cfg.trackingWindow < 10) ∧
      tick.env.fetch (some (tick.now - cfg.lookback)) (some tick.now) cfg.batchSize = .ok [e, e'] ∧
      c.startTime = tick.now - cfg.lookback ∧
      ∀ x ∈ c.forwarded.handed, generateEventHash id x ≠ generateEventHash id e := by
  intro e e' cfg home doc fs tick c
  have window : (0 : ℚ) - cfg.trackingWindow < 10 := by norm_num [cfg, DaemonConfig.trackingWindow]
  have file : fs (EventDeduplicator.defaultStateFile home) = some (.complete doc) := if_pos rfl
  have held : (generateEventHash id e, (10 : ℚ)) ∈ doc.seenEvents.entries := by simp [doc]
  have result := restart_no_resend id cfg rfl home fs 0 0 tick
  exact ⟨rfl, file, held, window, fun _ => window, rfl, result.1,
    result.2 doc file _ 10 held window window fun _ => window⟩

/-- With the default options, the first process's first cycle accepts the event that started at
-100 and stamps its fingerprint 0; its second cycle, at 300, forwards `[-30, 300)`, which holds
nothing. A restart at 400, less than `interval` later, purges the record on load
(`400 - 390 ≥ 0`), forwards `[-200, 400)` and sends the event again. -/
theorem restart_resends_expired :
    let e : Event := ⟨[("start_time", .str "t")]⟩
    let cfg : DaemonConfig := ⟨300, 600, true, 60, 100⟩
    let env : ℚ → Env := fun now => ⟨sourceFetch (fun _ => -100) [e],
      fun _ => .http 200 (.object [("text", .str "Success")]), fun _ => now, now, now, .completes⟩
    ∀ (sha256Hex : String → String) (home : Path),
      let st := daemonStart cfg home (fun _ => none) 0 0
      let first := daemonLoop sha256Hex cfg st [⟨0, env 0⟩, ⟨300, env 300⟩]
      let restarted := daemonCycle sha256Hex cfg
        (daemonStart cfg home (finalState st first).fs 400 400) ⟨400, env 400⟩
      ∃ c₀ c₁, first = [c₀, c₁] ∧ c₀.forwarded.result.isOk ∧ c₁.forwarded.result.isOk ∧
        restarted.forwarded.result.isOk ∧ (400 : ℚ) < c₁.endTime + cfg.interval ∧
        restarted.startTime ≤ c₁.endTime - 30 ∧ e ∈ c₀.forwarded.accepted ∧
        e ∈ restarted.forwarded.handed := by
  intro e cfg env sha256Hex home st first restarted
  have fetch : ∀ s t now : ℚ, ∀ l, [e].filter (inWindow (fun _ => -100) s t) = l →
      (env now).fetch (some s) (some t) cfg.batchSize = .ok l := fun s t now l h => by
    rw [← h]; rfl
  -- the first cycle: a fresh store; `e` is fetched, accepted and stamped 0
  set d₀ := ((EventDeduplicator.init cfg.trackingWindow none true home (fun _ => none) 0).getStats
    0).2 with hd₀
  have empty₀ : (d₀.cleanupOldEntries 0).seenEvents.entries = [] := rfl
  set marked₀ := (d₀.cleanupOldEntries 0).markEventsAsSent sha256Hex [e] 0 0 .completes
    (fun _ => none)
  set c₀ := daemonCycle sha256Hex cfg st ⟨0, env 0⟩ with hc₀
  have out₀ : c₀.forwarded = ⟨.ok 1, [e], [e], some marked₀.1, marked₀.2⟩ :=
    forwardLogs_of_unrecorded d₀ rfl
      (fetch (cycleStart cfg.lookback none 0) 0 0 [e] (by norm_num [inWindow, cycleStart, cfg]))
      (by simp [Records.hashes, empty₀]) (by decide) fun _ => rfl
  have after₀ : c₀.after = ⟨some 0, some marked₀.1, marked₀.2⟩ := by
    rw [daemonCycle_after, out₀]; rfl
  -- the second cycle: `[-30, 300)` holds no event
  set c₁ := daemonCycle sha256Hex cfg c₀.after ⟨300, env 300⟩ with hc₁
  have out₁ : c₁.forwarded = ⟨.ok 0, [], [], some marked₀.1, marked₀.2⟩ := by
    rw [hc₁, daemonCycle_forwarded, after₀, forwardLogs_of_fetched
      (fetch (cycleStart cfg.lookback (some 0) 300) 300 300 [] (by norm_num [inWindow, cycleStart]))]
    simp [forwardFetched]
  have loop : first = [c₀, c₁] := by
    show daemonLoop sha256Hex cfg st [⟨0, env 0⟩, ⟨300, env 300⟩] = _
    rw [daemonLoop_cons, if_pos (continues_of_isOk (by decide) (by rw [out₀]; rfl)),
      daemonLoop_cons]
    split <;> rfl
  -- what the first process leaves: a whole state file whose every record is stamped 0
  have left : (finalState st first).fs = marked₀.2 := by
    rw [loop]
    show c₁.forwarded.fs = _
    rw [out₁]
  have saved : marked₀.2 (EventDeduplicator.defaultStateFile home) =
      some (.complete ⟨marked₀.1.seenEvents, 0, cfg.trackingWindow⟩) :=
    saveState_completes (Path.withSuffix_join_isSome home (by decide) ".tmp") _ _
  have stamped : ∀ p ∈ marked₀.1.seenEvents.entries, p.2 = 0 :=
    EventDeduplicator.stamp_markEventsAsSent_of_empty _ _ _ _ empty₀
  -- the restart: the record has expired by 400, and `e` is sent again
  have started := @daemonStart_dedup cfg home (finalState st first).fs 400 400 rfl
  rw [left] at started
  have fresh : generateEventHash sha256Hex e ∉
      ((((EventDeduplicator.init cfg.trackingWindow none true home marked₀.2 400).getStats
        400).2).cleanupOldEntries 400).seenEvents.hashes := fun mem => by
    obtain ⟨t, ht⟩ := Records.mem_hashes.mp mem
    rw [EventDeduplicator.mem_cleanupOldEntries, EventDeduplicator.getStats_snd,
      EventDeduplicator.mem_cleanupOldEntries, EventDeduplicator.mem_init_of_complete saved] at ht
    have expired := ht.1.1.2
    rw [stamped _ ht.1.1.1] at expired
    norm_num [cfg, DaemonConfig.trackingWindow] at expired
  have out₂ : restarted.forwarded.result = .ok 1 ∧ restarted.forwarded.handed = [e] := by
    show (daemonCycle sha256Hex cfg (daemonStart cfg home (finalState st first).fs 400 400)
      ⟨400, env 400⟩).forwarded.result = _ ∧ _
    rw [daemonCycle_forwarded, left, started, daemonStart_lastRunTime]
    dsimp only
    rw [forwardLogs_of_unrecorded _
      (by simp [EventDeduplicator.init])
      (fetch (cycleStart cfg.lookback none 400) 400 400 [e] (by norm_num [inWindow, cycleStart, cfg]))
      fresh (by decide) fun _ => rfl]
    exact ⟨rfl, rfl⟩
  refine ⟨c₀, c₁, loop, by rw [out₀]; rfl, by rw [out₁]; rfl, by rw [out₂.1]; rfl, ?_, ?_,
    by rw [out₀]; simp, by rw [out₂.2]; simp⟩
  · show (400 : ℚ) < 300 + ((300 : Int) : ℚ)
    norm_num
  · show (400 : ℚ) - ((600 : Int) : ℚ) ≤ 300 - 30
    norm_num


/-- In a run whose every save completes and that never clears the state, a crash loses no
record: a daemon restarted under the live process's home holds every record of the live
deduplicator that its load and `get_stats` clocks have not outlived. -/
theorem restart_keeps_records (fs : FileSystem) (actions : List Action)
    (durable : ∀ a ∈ actions, a.durable = true) (cfg : DaemonConfig)
    (dedupOn : cfg.enableDedup = true) (home : Path) (loadClock statsClock : ℚ) :
    let w := (⟨fs, none, none, []⟩ : World).run sha256Hex actions
    ∀ d, w.dedup = some d → d.stateFile = EventDeduplicator.defaultStateFile home →
      ∀ h m, (h, m) ∈ d.seenEvents.entries → loadClock - cfg.trackingWindow < m →
        statsClock - cfg.trackingWindow < m →
        ∃ d', (daemonStart cfg home w.fs loadClock statsClock).dedup = some d' ∧
          (h, m) ∈ d'.seenEvents.entries := by
  intro w d live file h m held loaded stated
  have inv : Persisted w.dedup w.fs := persisted_run actions durable
    (fun _ none_eq => nomatch none_eq) (fun _ none_eq => nomatch none_eq)
  obtain ⟨doc, saved, kept⟩ := inv d live (h, m) held
  rw [file] at saved
  obtain ⟨d', started, -, -, mem⟩ := mem_daemonStart_of_complete dedupOn saved kept loaded stated
  exact ⟨d', started, mem⟩

/-- A daemon that loads a state file holding one record stamped 10, and a restart on the same
files. -/
theorem restart_keeps_records_sample :
    let cfg : DaemonConfig := ⟨300, 600, true, 60, 100⟩
    let home : Path := ⟨true, ["root"]⟩
    let doc : StateDoc := ⟨Records.empty.addNew "k" 10 rfl, 10, 390⟩
    let fs : FileSystem := fun p => if p = EventDeduplicator.defaultStateFile home then
      some (.complete doc) else none
    let actions : List Action := [.start cfg home 0 0]
    let w := (⟨fs, none, none, []⟩ : World).run id actions
    let d := ((EventDeduplicator.init cfg.trackingWindow none true home fs 0).getStats 0).2
    (∀ a ∈ actions, a.durable = true) ∧ cfg.enableDedup = true ∧ w.dedup = some d ∧
      d.stateFile = EventDeduplicator.defaultStateFile home ∧
      ("k", (10 : ℚ)) ∈ d.seenEvents.entries ∧ (0 : ℚ) - cfg.trackingWindow < 10 ∧
      ∃ d', (daemonStart cfg home w.fs 0 0).dedup = some d' ∧
        ("k", (10 : ℚ)) ∈ d'.seenEvents.entries := by
  intro cfg home doc fs actions w d
  have durable : ∀ a ∈ actions, a.durable = true := by simp [actions, Action.durable]
  have live : w.dedup = some d := rfl
  have file : d.stateFile = EventDeduplicator.defaultStateFile home := by simp [d]
  have window : (0 : ℚ) - cfg.trackingWindow < 10 := by norm_num [cfg, DaemonConfig.trackingWindow]
  have held : ("k", (10 : ℚ)) ∈ d.seenEvents.entries := by
    show _ ∈ ((EventDeduplicator.init cfg.trackingWindow none true home fs 0).getStats 0).2.seenEvents.entries
    rw [EventDeduplicator.getStats_snd, EventDeduplicator.mem_cleanupOldEntries,
      EventDeduplicator.mem_init_of_complete (if_pos rfl : fs _ = some (.complete doc))]
    exact ⟨⟨by simp [doc], window⟩, fun _ => by simpa [EventDeduplicator.init] using window⟩
  exact ⟨durable, rfl, live, file, held, window,
    restart_keeps_records id fs actions durable cfg rfl home 0 0 d live file "k" 10 held window window⟩

end CrusoeSplunkHec
