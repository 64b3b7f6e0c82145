import CrusoeSplunkHec.CrusoeClient
import CrusoeSplunkHec.Deduplicator
import CrusoeSplunkHec.SplunkHec

/-!
One forwarding run (`main.py`, `LogForwarder.forward_logs`).

`forward_logs` fetches the window, stops at an empty result, filters the events through
the deduplicator when one is attached, stops again if nothing is left or on a dry run,
sends the rest with `send_events_batch`, and records the events that call returned as
sent, and only those. Its `except` clauses log and re-raise, so whatever the fetch or the
send lets through leaves `forward_logs`. The run is cut into its three phases: `forwardLogs`
is the fetch, `forwardFetched` the filter, `deliver` the send and the commit.

Besides its result and the new deduplicator and files, a run reports the list it handed to
`send_events_batch` and the list that call returned as sent: these are what the results
about a cycle speak of.

* `deliver_spec`, `forwardLogs_spec` — what a run can do: the accepted list is drawn from
  the handed one, and the deduplicator and files end as one `mark_events_as_sent` of exactly
  that list leaves them, on the deduplicator the filter left. The run lemmas below come
  from these.
* `forwardLogs_handed_unrecorded` — what is handed on is drawn from the fetch and has no
  record left by the filter, and every unrecorded event is handed on as many times as it
  was fetched (`forwardLogs_hands_repeated`).
* `forwardLogs_drops_confirmed_batch` — a reply whose JSON body is not an object makes
  `send_events_batch` raise, and the batches confirmed before it are never recorded.
* `forwardLogs_store` — what a run does to the deduplicator and the files, in one inversion
  lemma: nothing to the files, or a mark on the deduplicator the filter left, which keeps
  the state file and only drops records.
-/

namespace CrusoeSplunkHec

/-- What a forwarding run can raise. -/
inductive Raised where
  /-- From the fetch: every page error of `get_audit_logs_paginated`. -/
  | crusoeAPIError
  /-- What `send_events_batch` lets through. -/
  | sendFailed (e : SendError)
  /-- Ctrl-C, anywhere in the run. -/
  | keyboardInterrupt
deriving DecidableEq, Repr

/-- What one `forward_logs` call reads from outside the process. -/
structure Env where
  /-- `get_audit_logs_paginated(start_time, end_time, page_size)`, as it ends. -/
  fetch : Option ℚ → Option ℚ → Int → Except Raised (List Event)
  /-- The sink's answer to the `n`-th batch. -/
  respond : Nat → Response
  /-- `time.time()` at the `n`-th `is_duplicate` call. -/
  checkClock : Nat → ℚ
  /-- `time.time()` in `mark_events_as_sent`. -/
  markClock : ℚ
  /-- `datetime.now()` for the state file's `last_updated`. -/
  saveClock : ℚ
  /-- Where `_save_state` stops. -/
  saveStop : SaveStop

/-- `get_audit_logs_paginated(start_time, end_time, page_size)` against the API `server`, as
`forward_logs` receives it when the loop ends within `fuel` rounds: the events, or the
`CrusoeAPIError` of a page, which `forward_logs` re-raises. -/
def paginatedFetch (server : Query → Page) (fuel : Nat) (startTime endTime : Option ℚ)
    (pageSize : Int) : Option (Except Raised (List Event)) :=
  (getAuditLogsPaginated server startTime endTime pageSize none fuel).map
    (Except.mapError fun _ => .crusoeAPIError)

/-- A forwarding run: its result, what it handed to `send_events_batch` and what that call
returned as sent (empty when it was not called or raised), the deduplicator and the files
after it. -/
structure Forwarded where
  result : Except Raised Nat
  handed : List Event
  accepted : List Event
  dedup : Option EventDeduplicator
  fs : FileSystem

variable (sha256Hex : String → String)

/-- The send and the commit: `send_events_batch`, then `mark_events_as_sent` on the list it
returned, if a deduplicator is attached and the list is not empty. -/
def deliver (batchSize : Int) (dedup : Option EventDeduplicator) (fs : FileSystem) (env : Env)
    (logs : List Event) : Forwarded :=
  match (sendEventsBatch env.respond logs batchSize).result with
  | .error e => ⟨.error (.sendFailed e), logs, [], dedup, fs⟩
  | .ok (sentCount, sent) =>
    match dedup with
    | some d =>
      if sent.isEmpty then ⟨.ok sentCount, logs, sent, some d, fs⟩
      else
        let (d, fs) := d.markEventsAsSent sha256Hex sent env.markClock env.saveClock env.saveStop fs
        ⟨.ok sentCount, logs, sent, some d, fs⟩
    | none => ⟨.ok sentCount, logs, sent, none, fs⟩

/-- `if self.deduplicator: logs = self.deduplicator.filter_duplicates(logs)`. -/
def dedupPhase (dedup : Option EventDeduplicator) (env : Env) (logs : List Event) :
    List Event × Option EventDeduplicator :=
  match dedup with
  | some d =>
    let (unique, d) := d.filterDuplicates sha256Hex env.checkClock logs
    (unique, some d)
  | none => (logs, none)

/-- The phase after a successful fetch of `logs`. -/
def forwardFetched (batchSize : Int) (dedup : Option EventDeduplicator) (fs : FileSystem)
    (env : Env) (dryRun : Bool) (logs : List Event) : Forwarded :=
  if logs.isEmpty then ⟨.ok 0, [], [], dedup, fs⟩
  else
    let (logs, dedup) := dedupPhase sha256Hex dedup env logs
    if logs.isEmpty then ⟨.ok 0, [], [], dedup, fs⟩
    else if dryRun then ⟨.ok logs.length, [], [], dedup, fs⟩
    else deliver sha256Hex batchSize dedup fs env logs

/-- `forward_logs(start_time, end_time, dry_run)` with `page_size = batch_size`. -/
def forwardLogs (batchSize : Int) (dedup : Option EventDeduplicator) (fs : FileSystem)
    (env : Env) (startTime endTime : Option ℚ) (dryRun : Bool) : Forwarded :=
  match env.fetch startTime endTime batchSize with
  | .error e => ⟨.error e, [], [], dedup, fs⟩
  | .ok logs => forwardFetched sha256Hex batchSize dedup fs env dryRun logs

/-! ### What a run does -/

/-- The deduplicator and the files after `mark_events_as_sent(accepted)` on the attached
deduplicator, if there is one. -/
def markAccepted (dedup : Option EventDeduplicator) (env : Env) (accepted : List Event)
    (fs : FileSystem) : Option EventDeduplicator × FileSystem :=
  match dedup with
  | some d =>
    let (d, fs) := d.markEventsAsSent sha256Hex accepted env.markClock env.saveClock env.saveStop fs
    (some d, fs)
  | none => (none, fs)

/-- The deduplicator as `send_events_batch` finds it: after `filter_duplicates` of the fetched
events, or as it was when the fetch raised. -/
def filteredStore (batchSize : Int) (dedup : Option EventDeduplicator) (env : Env)
    (startTime endTime : Option ℚ) : Option EventDeduplicator :=
  match env.fetch startTime endTime batchSize with
  | .ok logs => (dedupPhase sha256Hex dedup env logs).2
  | .error _ => dedup

section Run

variable {sha256Hex} {batchSize : Int} {dedup : Option EventDeduplicator} {fs : FileSystem}
  {env : Env} {logs : List Event}

@[simp] theorem markAccepted_nil : markAccepted sha256Hex dedup env [] fs = (dedup, fs) := by
  cases dedup <;> simp [markAccepted]

@[simp] theorem dedupPhase_nil : dedupPhase sha256Hex dedup env [] = ([], dedup) := by
  cases dedup <;> simp [dedupPhase]

@[simp] theorem dedupPhase_some (d : EventDeduplicator) :
    dedupPhase sha256Hex (some d) env logs =
      ((d.filterDuplicates sha256Hex env.checkClock logs).1,
        some (d.filterDuplicates sha256Hex env.checkClock logs).2) := rfl

theorem dedupPhase_sublist : (dedupPhase sha256Hex dedup env logs).1.Sublist logs := by
  rcases dedup with _ | d
  · exact List.Sublist.refl _
  · rw [dedupPhase_some]
    unfold EventDeduplicator.filterDuplicates
    split
    · exact EventDeduplicator.filterLoop_sublist _ _ _
    · exact List.Sublist.refl _

/-- The filter only purges: the deduplicator `send_events_batch` finds holds a subset of the
records it started with. -/
theorem filteredStore_subset {startTime endTime : Option ℚ} {df : EventDeduplicator}
    (h : filteredStore sha256Hex batchSize dedup env startTime endTime = some df) :
    ∃ d, dedup = some d ∧ df.seenEvents.hashes ⊆ d.seenEvents.hashes := by
  unfold filteredStore at h
  split at h
  · rcases dedup with _ | d
    · cases h
    · refine ⟨d, rfl, ?_⟩
      rw [dedupPhase_some, Option.some.injEq] at h
      subst h
      unfold EventDeduplicator.filterDuplicates
      split
      · exact EventDeduplicator.hashes_filterLoop_subset _ _ _
      · exact fun _ => id
  · exact ⟨df, h, fun _ => id⟩

/-- The filter keeps the deduplicator's state file and only drops records. -/
theorem filteredStore_entries {startTime endTime : Option ℚ} {df : EventDeduplicator}
    (h : filteredStore sha256Hex batchSize dedup env startTime endTime = some df) :
    ∃ d, dedup = some d ∧ df.stateFile = d.stateFile ∧
      df.seenEvents.entries ⊆ d.seenEvents.entries := by
  unfold filteredStore at h
  split at h
  · rcases dedup with _ | d
    · cases h
    · rw [dedupPhase_some, Option.some.injEq] at h
      subst h
      exact ⟨d, rfl, EventDeduplicator.filterDuplicates_stateFile _ _,
        EventDeduplicator.filterDuplicates_entries_subset _ _⟩
  · exact ⟨df, h, rfl, List.Subset.refl _⟩

/-- The commit phase: it hands `send_events_batch` its whole input, keeps from the answer a
list drawn from that input, and marks exactly that list. -/
theorem deliver_spec :
    let out := deliver sha256Hex batchSize dedup fs env logs
    out.handed = logs ∧ out.accepted.Sublist logs ∧
      (out.dedup, out.fs) = markAccepted sha256Hex dedup env out.accepted fs := by
  unfold deliver
  rcases h : (sendEventsBatch env.respond logs batchSize).result with e | ⟨sentCount, sent⟩
  · simp
  · have drawn := sublist_of_sendEventsBatch h
    rcases dedup with _ | d
    · exact ⟨rfl, drawn, rfl⟩
    · by_cases empty : sent = []
      · subst empty
        simp
      · simp [empty, drawn, markAccepted]

/-- The commit phase once `send_events_batch` has returned `(n, accepted)`. -/
theorem deliver_of_sent (d : EventDeduplicator) {sentCount : Nat} {accepted : List Event}
    (sent : (sendEventsBatch env.respond logs batchSize).result = .ok (sentCount, accepted)) :
    deliver sha256Hex batchSize (some d) fs env logs =
      ⟨.ok sentCount, logs, accepted,
        some (d.markEventsAsSent sha256Hex accepted env.markClock env.saveClock env.saveStop fs).1,
        (d.markEventsAsSent sha256Hex accepted env.markClock env.saveClock env.saveStop fs).2⟩ := by
  unfold deliver
  rw [sent]
  by_cases empty : accepted = []
  · subst empty; simp
  · simp [empty]

/-- Against a sink that confirms every batch, the commit phase on a non-empty list with a
positive batch size returns its length. -/
theorem deliver_result_of_confirms (batch : 0 < batchSize) (confirms : ∀ n, (env.respond n).confirms)
    (hne : logs ≠ []) : (deliver sha256Hex batchSize dedup fs env logs).result = .ok logs.length := by
  obtain ⟨size, rfl⟩ := Int.eq_ofNat_of_zero_le batch.le
  have sent := sendEventsBatch_of_confirms env.respond hne (by omega : 0 < size) confirms
  cases dedup <;> simp [deliver, sent, apply_ite Forwarded.result]

/-- `forward_fetched` with its first emptiness test folded into the second: filtering an empty
list changes nothing. -/
theorem forwardFetched_eq (dryRun : Bool) :
    forwardFetched sha256Hex batchSize dedup fs env dryRun logs =
      if (dedupPhase sha256Hex dedup env logs).1.isEmpty then
        ⟨.ok 0, [], [], (dedupPhase sha256Hex dedup env logs).2, fs⟩
      else if dryRun then
        ⟨.ok (dedupPhase sha256Hex dedup env logs).1.length, [], [],
          (dedupPhase sha256Hex dedup env logs).2, fs⟩
      else deliver sha256Hex batchSize (dedupPhase sha256Hex dedup env logs).2 fs env
        (dedupPhase sha256Hex dedup env logs).1 := by
  cases logs with
  | nil => simp [forwardFetched]
  | cons => rfl

variable {startTime endTime : Option ℚ} {dryRun : Bool}

theorem forwardLogs_of_fetched (fetched : env.fetch startTime endTime batchSize = .ok logs) :
    forwardLogs sha256Hex batchSize dedup fs env startTime endTime dryRun =
      forwardFetched sha256Hex batchSize dedup fs env dryRun logs := by
  simp [forwardLogs, fetched]

/-- What a run hands to `send_events_batch`: the events `filter_duplicates` lets through,
unless the fetch raised or the run is a dry run. -/
theorem handed_forwardLogs :
    (forwardLogs sha256Hex batchSize dedup fs env startTime endTime dryRun).handed =
      match env.fetch startTime endTime batchSize with
      | .ok logs => if dryRun then [] else (dedupPhase sha256Hex dedup env logs).1
      | .error _ => [] := by
  unfold forwardLogs
  rcases env.fetch startTime endTime batchSize with e | logs
  · rfl
  · dsimp only
    rw [forwardFetched_eq]
    by_cases empty : (dedupPhase sha256Hex dedup env logs).1 = []
    · simp [empty]
    · cases dryRun <;> simp [empty, deliver_spec]

/-- A run marks exactly what it reports as accepted, on the deduplicator as the filter left
it, and what it accepts was handed on. -/
theorem forwardLogs_spec :
    let out := forwardLogs sha256Hex batchSize dedup fs env startTime endTime dryRun
    out.accepted.Sublist out.handed ∧
      (out.dedup, out.fs) = markAccepted sha256Hex
        (filteredStore sha256Hex batchSize dedup env startTime endTime) env out.accepted fs := by
  unfold forwardLogs filteredStore
  rcases env.fetch startTime endTime batchSize with e | logs
  · simp
  · simp only
    rw [forwardFetched_eq]
    split
    · simp
    · split
      · simp
      · obtain ⟨handed, drawn, store⟩ :=
          @deliver_spec sha256Hex batchSize (dedupPhase sha256Hex dedup env logs).2 fs env
            (dedupPhase sha256Hex dedup env logs).1
        rw [handed]
        exact ⟨drawn, store⟩

/-- What a run does to the deduplicator and the files: with no deduplicator after the filter,
nothing to the files; otherwise it marks what it accepted on the deduplicator the filter left,
which has the old one's state file and only records the old one had. -/
theorem forwardLogs_store :
    let out := forwardLogs sha256Hex batchSize dedup fs env startTime endTime dryRun
    (out.dedup = none ∧ out.fs = fs) ∨
      ∃ d, ∃ df : EventDeduplicator, dedup = some d ∧ df.stateFile = d.stateFile ∧
        df.seenEvents.entries ⊆ d.seenEvents.entries ∧
        out.dedup = some (df.markEventsAsSent sha256Hex out.accepted env.markClock env.saveClock
          env.saveStop fs).1 ∧
        out.fs = (df.markEventsAsSent sha256Hex out.accepted env.markClock env.saveClock
          env.saveStop fs).2 := by
  intro out
  obtain ⟨-, store⟩ := @forwardLogs_spec sha256Hex batchSize dedup fs env startTime endTime dryRun
  rcases filtered : filteredStore sha256Hex batchSize dedup env startTime endTime with _ | df
  · rw [filtered] at store
    simp only [markAccepted, Prod.mk.injEq] at store
    exact .inl store
  · obtain ⟨d, hd, file, dropped⟩ := filteredStore_entries filtered
    rw [filtered] at store
    simp only [markAccepted, Prod.mk.injEq] at store
    exact .inr ⟨d, df, hd, file, dropped, store⟩

/-- A run that hands events on is the commit phase on them, from the deduplicator the filter
left. -/
theorem forwardLogs_eq_deliver_of_handed
    (handed : (forwardLogs sha256Hex batchSize dedup fs env startTime endTime dryRun).handed ≠ []) :
    forwardLogs sha256Hex batchSize dedup fs env startTime endTime dryRun =
      deliver sha256Hex batchSize (filteredStore sha256Hex batchSize dedup env startTime endTime) fs
        env (forwardLogs sha256Hex batchSize dedup fs env startTime endTime dryRun).handed := by
  revert handed
  unfold forwardLogs filteredStore
  rcases env.fetch startTime endTime batchSize with e | logs
  · exact fun h => absurd rfl h
  · simp only
    rw [forwardFetched_eq]
    split
    · exact fun h => absurd rfl h
    · split
      · exact fun h => absurd rfl h
      · exact fun _ => by rw [(@deliver_spec sha256Hex batchSize _ fs env _).1]

/-- With a batch size of zero a run gets nothing accepted, and one that hands events on
raises `ZeroDivisionError`. -/
theorem forwardLogs_batch_zero :
    (forwardLogs sha256Hex 0 dedup fs env startTime endTime dryRun).accepted = [] ∧
      ((forwardLogs sha256Hex 0 dedup fs env startTime endTime dryRun).handed = [] ∨
        (forwardLogs sha256Hex 0 dedup fs env startTime endTime dryRun).result =
          .error (.sendFailed .zeroDivisionError)) := by
  by_cases handed : (forwardLogs sha256Hex 0 dedup fs env startTime endTime dryRun).handed = []
  · exact ⟨List.eq_nil_of_sublist_nil (handed ▸ forwardLogs_spec.1), .inl handed⟩
  · rw [forwardLogs_eq_deliver_of_handed handed]
    simp [deliver, sendEventsBatch_zero _ handed]

/-- With a negative batch size a run gets nothing accepted, and one that hands events on
returns 0. -/
theorem forwardLogs_batch_neg (neg : batchSize < 0) :
    (forwardLogs sha256Hex batchSize dedup fs env startTime endTime dryRun).accepted = [] ∧
      ((forwardLogs sha256Hex batchSize dedup fs env startTime endTime dryRun).handed = [] ∨
        (forwardLogs sha256Hex batchSize dedup fs env startTime endTime dryRun).result = .ok 0) := by
  by_cases handed :
      (forwardLogs sha256Hex batchSize dedup fs env startTime endTime dryRun).handed = []
  · exact ⟨List.eq_nil_of_sublist_nil (handed ▸ forwardLogs_spec.1), .inl handed⟩
  · rw [forwardLogs_eq_deliver_of_handed handed]
    generalize filteredStore sha256Hex batchSize dedup env startTime endTime = store
    cases store <;> simp [deliver, sendEventsBatch_of_neg _ _ neg]

/-- A run with an enabled deduplicator once the filter has left `unique`: nothing more when
`unique` is empty, the commit phase on it otherwise. -/
theorem forwardLogs_of_filtered (d : EventDeduplicator) (enabled : d.enabled = true)
    {unique : List Event} (fetched : env.fetch startTime endTime batchSize = .ok logs)
    (filtered : (EventDeduplicator.filterLoop sha256Hex env.checkClock logs d).1 = unique) :
    forwardLogs sha256Hex batchSize (some d) fs env startTime endTime false =
      if unique = [] then
        ⟨.ok 0, [], [], some (EventDeduplicator.filterLoop sha256Hex env.checkClock logs d).2, fs⟩
      else deliver sha256Hex batchSize
        (some (EventDeduplicator.filterLoop sha256Hex env.checkClock logs d).2) fs env unique := by
  rw [forwardLogs_of_fetched fetched, forwardFetched_eq, dedupPhase_some,
    EventDeduplicator.filterDuplicates_of_enabled enabled, filtered]
  by_cases empty : unique = []
  · subst empty; simp
  · simp [empty]

/-- A run that fetches one event its enabled deduplicator holds no record of, against a sink
that confirms every batch, hands the event on, gets it accepted and marks it. -/
theorem forwardLogs_of_unrecorded (d : EventDeduplicator) (enabled : d.enabled = true) {e : Event}
    (fetched : env.fetch startTime endTime batchSize = .ok [e])
    (fresh : generateEventHash sha256Hex e ∉
      (d.cleanupOldEntries (env.checkClock 0)).seenEvents.hashes)
    (batch : 0 < batchSize) (confirms : ∀ n, (env.respond n).confirms) :
    forwardLogs sha256Hex batchSize (some d) fs env startTime endTime false =
      ⟨.ok 1, [e], [e],
        some ((d.cleanupOldEntries (env.checkClock 0)).markEventsAsSent sha256Hex [e] env.markClock
          env.saveClock env.saveStop fs).1,
        ((d.cleanupOldEntries (env.checkClock 0)).markEventsAsSent sha256Hex [e] env.markClock
          env.saveClock env.saveStop fs).2⟩ := by
  obtain ⟨size, rfl⟩ := Int.eq_ofNat_of_zero_le batch.le
  have sent := sendEventsBatch_of_confirms env.respond (List.cons_ne_nil e [])
    (by omega : 0 < size) confirms
  have unique : EventDeduplicator.filterLoop sha256Hex env.checkClock [e] d =
      ([e], d.cleanupOldEntries (env.checkClock 0)) :=
    EventDeduplicator.filterLoop_cons_of_unrecorded _ [] enabled fresh
  rw [forwardLogs_of_filtered d enabled fetched (congrArg Prod.fst unique), unique,
    if_neg (List.cons_ne_nil _ _), deliver_of_sent _ sent]
  rfl

/-- A run whose fetch raised does nothing else. -/
theorem forwardLogs_of_fetch_error {raised : Raised}
    (failed : env.fetch startTime endTime batchSize = .error raised) :
    forwardLogs sha256Hex batchSize dedup fs env startTime endTime dryRun =
      ⟨.error raised, [], [], dedup, fs⟩ := by
  simp [forwardLogs, failed]

theorem handed_sublist_fetched (fetched : env.fetch startTime endTime batchSize = .ok logs) :
    (forwardLogs sha256Hex batchSize dedup fs env startTime endTime dryRun).handed.Sublist logs := by
  rw [handed_forwardLogs, fetched]
  cases dryRun
  · exact dedupPhase_sublist
  · exact List.nil_sublist _

/-- With an enabled deduplicator, nothing handed on has a record left by `filter_duplicates`. -/
theorem hash_not_mem_of_handed (d : EventDeduplicator) (enabled : d.enabled = true)
    (fetched : env.fetch startTime endTime batchSize = .ok logs) :
    ∀ e ∈ (forwardLogs sha256Hex batchSize (some d) fs env startTime endTime dryRun).handed,
      generateEventHash sha256Hex e ∉
        (EventDeduplicator.filterLoop sha256Hex env.checkClock logs d).2.seenEvents.hashes := by
  intro e he
  simp only [handed_forwardLogs, fetched, dedupPhase_some,
    EventDeduplicator.filterDuplicates_of_enabled enabled] at he
  cases dryRun
  · exact EventDeduplicator.hash_not_mem_filterLoop _ _ _ enabled e he
  · cases he

/-- A run with an enabled deduplicator, from the deduplicator `filter_duplicates` leaves: it
hands on only events with no record there, and marks there what it accepts. -/
theorem forwardLogs_enabled (d : EventDeduplicator) (enabled : d.enabled = true)
    (fetched : env.fetch startTime endTime batchSize = .ok logs) :
    let out := forwardLogs sha256Hex batchSize (some d) fs env startTime endTime dryRun
    let filtered := (EventDeduplicator.filterLoop sha256Hex env.checkClock logs d).2
    let marked := filtered.markEventsAsSent sha256Hex out.accepted env.markClock env.saveClock
      env.saveStop fs
    out.dedup = some marked.1 ∧ out.fs = marked.2 ∧ out.accepted.Sublist out.handed ∧
      out.handed.Sublist logs ∧ ∀ e ∈ out.handed, generateEventHash sha256Hex e ∉ filtered.seenEvents.hashes := by
  intro out filtered marked
  obtain ⟨drawn, store⟩ := @forwardLogs_spec sha256Hex batchSize (some d) fs env startTime endTime
    dryRun
  simp only [filteredStore, fetched, dedupPhase_some,
    EventDeduplicator.filterDuplicates_of_enabled enabled, markAccepted, Prod.mk.injEq] at store
  exact ⟨store.1, store.2, drawn, handed_sublist_fetched fetched,
    hash_not_mem_of_handed d enabled fetched⟩

/-- With an enabled deduplicator, what `forward_logs` hands to `send_events_batch` is drawn in
order from the fetched list, none of it has a record in the deduplicator as `filter_duplicates`
leaves it, and outside a dry run every fetched event the deduplicator held no record of is
handed on, every copy of it. -/
theorem forwardLogs_handed_unrecorded (d : EventDeduplicator) (enabled : d.enabled = true)
    (fetched : env.fetch startTime endTime batchSize = .ok logs) :
    let out := forwardLogs sha256Hex batchSize (some d) fs env startTime endTime dryRun
    out.handed.Sublist logs ∧
      (∀ e ∈ out.handed, generateEventHash sha256Hex e ∉
        (d.filterDuplicates sha256Hex env.checkClock logs).2.seenEvents.hashes) ∧
      (dryRun = false → ∀ e, generateEventHash sha256Hex e ∉ d.seenEvents.hashes →
        out.handed.count e = logs.count e) := by
  refine ⟨handed_sublist_fetched fetched, ?_, fun dry e fresh => ?_⟩
  · rw [EventDeduplicator.filterDuplicates_of_enabled enabled]
    exact hash_not_mem_of_handed d enabled fetched
  · simp only [handed_forwardLogs, fetched, dry, dedupPhase_some,
      EventDeduplicator.filterDuplicates_of_enabled enabled, Bool.false_eq_true, if_false]
    exact EventDeduplicator.count_filterLoop_of_not_mem e _ _ _ fresh

end Run

/-- One event fetched twice into a store that holds a record of another, and confirmed by
Splunk. -/
theorem forwardLogs_handed_unrecorded_sample :
    let e : Event := ⟨[("start_time", .str "2024-01-01T00:00:00Z"), ("action", .str "create")]⟩
    let d : EventDeduplicator :=
      ⟨390, true, Path.ofString "/root/.crusoe_dedup_state.json", Records.empty.addNew "k" 0 rfl⟩
    let env : Env := ⟨fun _ _ _ => .ok [e, e],
      fun _ => .http 200 (.object [("text", .str "Success")]), fun _ => 0, 0, 0, .completes⟩
    let out := forwardLogs id 100 (some d) (fun _ => none) env none none false
    d.enabled = true ∧ env.fetch none none 100 = .ok [e, e] ∧
      out.handed.Sublist [e, e] ∧
      (∀ e' ∈ out.handed, generateEventHash id e' ∉
        (d.filterDuplicates id env.checkClock [e, e]).2.seenEvents.hashes) ∧
      (false = false → ∀ e', generateEventHash id e' ∉ d.seenEvents.hashes →
        out.handed.count e' = [e, e].count e') :=
  ⟨rfl, rfl, forwardLogs_handed_unrecorded _ rfl rfl⟩

/-- A fetched list can hold one event twice (a shift between offset pages repeats it).
Nothing is recorded before the send, so `filter_duplicates` passes both copies, and two
events with one fingerprint go to `send_events_batch`. -/
theorem forwardLogs_hands_repeated :
    let e : Event := ⟨[("start_time", .str "2024-01-01T00:00:00Z"), ("action", .str "create")]⟩
    let d : EventDeduplicator :=
      ⟨390, true, Path.ofString "/root/.crusoe_dedup_state.json", .empty⟩
    let env : Env := ⟨fun _ _ _ => .ok [e, e],
      fun _ => .http 200 (.object [("text", .str "Success")]), fun _ => 0, 0, 0, .completes⟩
    ∀ sha256Hex : String → String,
      (forwardLogs sha256Hex 100 (some d) (fun _ => none) env none none false).handed = [e, e] := by
  intro e d env sha256Hex
  rw [handed_forwardLogs]
  rfl

/-- Splunk confirms the first of two one-event batches and answers the second with a JSON
list. `response_data.get` then raises `AttributeError`, which `send_events_batch` does not
catch, so `forward_logs` raises and the confirmed event is never marked. -/
theorem forwardLogs_drops_confirmed_batch :
    let e₁ : Event := ⟨[("start_time", .str "2024-01-01T00:00:00Z"), ("action", .str "create")]⟩
    let e₂ : Event := ⟨[("start_time", .str "2024-01-01T00:00:01Z"), ("action", .str "delete")]⟩
    let d : EventDeduplicator :=
      ⟨390, true, Path.ofString "/root/.crusoe_dedup_state.json", .empty⟩
    let env : Env := ⟨fun _ _ _ => .ok [e₁, e₂],
      fun n => if n = 1 then .http 200 (.object [("text", .str "Success")])
        else .http 200 (.nonObject (.other "[]")),
      fun _ => 0, 0, 0, .completes⟩
    ∀ sha256Hex : String → String,
      let out := forwardLogs sha256Hex 1 (some d) (fun _ => none) env none none false
      (env.respond 1).confirms ∧ out.handed = [e₁, e₂] ∧
        out.result = .error (.sendFailed .attributeError) ∧ out.accepted = [] ∧ out.dedup = some d := by
  intro e₁ e₂ d env sha256Hex
  have phase : dedupPhase sha256Hex (some d) env [e₁, e₂] = ([e₁, e₂], some d) := rfl
  dsimp only
  rw [forwardLogs_of_fetched (show env.fetch none none 1 = .ok [e₁, e₂] from rfl),
    forwardFetched_eq, phase]
  unfold e₁ e₂ d env
  exact ⟨rfl, rfl, rfl, rfl, rfl⟩

end CrusoeSplunkHec
