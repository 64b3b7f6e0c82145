import CrusoeSplunkHec.Forwarder
import Mathlib.Data.List.Chain
import Mathlib.Tactic.Linarith
import Mathlib.Tactic.NormNum

/-!
The daemon loop (`main.py`, `daemon`).

`daemon` attaches a deduplicator with tracking window `interval + 30 + dedup_buffer_seconds`
(unless `--disable-dedup`) and then runs cycles forever. A cycle reads `end_time`, forwards
the window `[end_time - lookback, end_time)` on the first run and
`[last_run_time - 30, end_time)` after it, and sets `last_run_time = end_time` only when
`forward_logs` returns. A `KeyboardInterrupt` ends the loop; any other exception is logged
and the loop goes on; `time.sleep(interval)`, outside the `try`, raises `ValueError` for a
negative interval and ends the daemon. One `Tick` holds what a cycle reads from outside, and
a run is the list of cycles the loop makes over a list of ticks.

An event's time is its start time as the API reads it, `time e.startTime`. A faithful source
is `sourceFetch time held`: a query for a window returns the held events whose start time
lies in it.

* `paginatedFetch_heldServer` — the faithful source is what the modelled pagination gives
  `forward_logs` against an API holding the events, for a page size the API honours.
* `covered_daemonLoop` — after every cycle, the windows of the cycles that returned cover
  every instant from the start of the first of them up to `last_run_time`.
* `daemonLoop_windows_overlap` — each window that returned starts exactly 30 s before the
  previous one that returned ends, whatever cycles raised in between, and `last_run_time` is
  the end of the last of them.
* `daemonLoop_skips_after_failed_first` — that start is not the first attempted cycle's:
  when the first cycle raises, the next one recomputes `end_time - lookback` from its own
  clock, and the instants in between are never fetched.
* `daemonCycle_unaccepted` — along a run whose clock does not go back, a cycle that returns
  moves `last_run_time` to its end time whatever its batches met; an event it handed on
  without getting it accepted is fetched by the next cycle exactly when it started in the last
  30 s of the window, and by no later cycle if it started before.
* `daemonLoop_no_resend` — with a faithful source and deduplication on, no cycle hands on
  an event whose fingerprint an earlier cycle got accepted, provided every `is_duplicate`
  call comes less than `interval + buffer` after the previous cycle's end and held events
  with one fingerprint have one start time.
-/

namespace CrusoeSplunkHec

/-! ### The loop -/

/-- The options of `daemon`, with the configuration's `batch_size`. -/
structure DaemonConfig where
  interval : Int
  lookback : Int
  enableDedup : Bool
  dedupBufferSeconds : Int
  batchSize : Int

/-- `tracking_window = interval + 30 + dedup_buffer_seconds`. -/
def DaemonConfig.trackingWindow (cfg : DaemonConfig) : Int :=
  cfg.interval + 30 + cfg.dedupBufferSeconds

/-- What the loop carries from one cycle to the next: `last_run_time`, the forwarder's
deduplicator and the files. -/
structure DaemonState where
  lastRunTime : Option ℚ
  dedup : Option EventDeduplicator
  fs : FileSystem

/-- What one cycle reads from outside: `end_time = datetime.now()`, and what its
`forward_logs` call reads. -/
structure Tick where
  now : ℚ
  env : Env

/-- `daemon` up to its loop: `EventDeduplicator(tracking_window, enabled=True)` loads the
default state file under `home`, purging at `loadClock`, and `get_stats` purges again at
`statsClock`. With `--disable-dedup` the forwarder has no deduplicator. -/
def daemonStart (cfg : DaemonConfig) (home : Path) (fs : FileSystem) (loadClock statsClock : ℚ) :
    DaemonState :=
  { lastRunTime := none
    dedup := if cfg.enableDedup then
        some ((EventDeduplicator.init cfg.trackingWindow none true home fs loadClock).getStats
          statsClock).2
      else none
    fs }

/-- `start_time`: `end_time - lookback` on the first run, `last_run_time - 30` after. -/
def cycleStart (lookback : Int) (lastRunTime : Option ℚ) (endTime : ℚ) : ℚ :=
  match lastRunTime with
  | none => endTime - lookback
  | some t => t - 30

/-- A cycle: its window, its `forward_logs` run, and the loop's state after it. -/
structure Cycle where
  startTime : ℚ
  endTime : ℚ
  forwarded : Forwarded
  after : DaemonState

variable (sha256Hex : String → String)

/-- One pass of the loop's `try` block. -/
def daemonCycle (cfg : DaemonConfig) (st : DaemonState) (tick : Tick) : Cycle :=
  let startTime := cycleStart cfg.lookback st.lastRunTime tick.now
  let out := forwardLogs sha256Hex cfg.batchSize st.dedup st.fs tick.env (some startTime)
    (some tick.now) false
  ⟨startTime, tick.now, out,
    ⟨if out.result.isOk then some tick.now else st.lastRunTime, out.dedup, out.fs⟩⟩

/-- Whether the loop goes on after a cycle: `KeyboardInterrupt` breaks it, and
`time.sleep(interval)` raises for a negative interval. -/
def continues (cfg : DaemonConfig) (c : Cycle) : Bool :=
  (match c.forwarded.result with
    | .error .keyboardInterrupt => false
    | _ => true) && decide (0 ≤ cfg.interval)

/-- The cycles the loop runs over `ticks`, until it stops. -/
def daemonLoop (cfg : DaemonConfig) : DaemonState → List Tick → List Cycle
  | _, [] => []
  | st, tick :: ticks =>
    let c := daemonCycle sha256Hex cfg st tick
    c :: if continues cfg c then daemonLoop cfg c.after ticks else []

/-- The loop's state after the cycles `run`, started from `st`. -/
def finalState (st : DaemonState) (run : List Cycle) : DaemonState :=
  (run.getLast?.map Cycle.after).getD st

/-! ### A faithful source -/

/-- The event's start time lies in `[startTime, endTime)`. -/
def inWindow (time : String → ℚ) (startTime endTime : ℚ) (e : Event) : Bool :=
  decide (startTime ≤ time e.startTime) && decide (time e.startTime < endTime)

/-- A source holding `held`: a query for a window returns the held events whose start time
lies in it, in order; a missing bound does not filter. -/
def sourceFetch (time : String → ℚ) (held : List Event) (startTime endTime : Option ℚ) (_ : Int) :
    Except Raised (List Event) :=
  .ok (held.filter fun e => (startTime.all fun s => decide (s ≤ time e.startTime)) &&
    (endTime.all fun t => decide (time e.startTime < t)))

@[simp] theorem sourceFetch_some (time : String → ℚ) (held : List Event) (s t : ℚ) (b : Int) :
    sourceFetch time held (some s) (some t) b = .ok (held.filter (inWindow time s t)) := rfl

theorem mem_filter_inWindow {time : String → ℚ} {held : List Event} {s t : ℚ} {e : Event} :
    e ∈ held.filter (inWindow time s t) ↔ e ∈ held ∧ s ≤ time e.startTime ∧ time e.startTime < t := by
  simp [inWindow]

/-- The API holding `held`: a query pages, as `cappedServer` does, through the held events
whose start time lies in the query's window. -/
def heldServer (time : String → ℚ) (held : List Event) (cap : Nat) (q : Query) : Page :=
  cappedServer (held.filter fun e => (q.startTime.all fun s => decide (s ≤ time e.startTime)) &&
    (q.endTime.all fun t => decide (time e.startTime < t))) cap q

/-- The faithful source is what `get_audit_logs_paginated` gives `forward_logs` against the API
holding `held`, for a page size the API honours and a round for each full page and one more:
the offsets walk the window's events without gap or repeat. -/
theorem paginatedFetch_heldServer (time : String → ℚ) (held : List Event) {cap pageSize : Nat}
    (positive : 0 < pageSize) (honoured : pageSize ≤ cap) (startTime endTime : Option ℚ)
    {fuel : Nat} (enough : held.length / pageSize < fuel) :
    paginatedFetch (heldServer time held cap) fuel startTime endTime pageSize =
      some (sourceFetch time held startTime endTime pageSize) := by
  set S := held.filter fun e => (startTime.all fun s => decide (s ≤ time e.startTime)) &&
    (endTime.all fun t => decide (time e.startTime < t))
  have agree : ∀ offset : Nat,
      heldServer time held cap (auditLogsQuery startTime endTime (some pageSize) (some offset)) =
        cappedServer S cap (auditLogsQuery startTime endTime (some pageSize) (some offset)) :=
    fun _ => rfl
  have bound : (S.length - 0) / pageSize < fuel :=
    lt_of_le_of_lt (Nat.div_le_div_right (List.length_filter_le _ _)) enough
  have whole := paginate_honoured S startTime endTime positive honoured 0 (Nat.zero_le _) bound
  rw [List.take_zero] at whole
  rw [paginatedFetch, getAuditLogsPaginated, paginate_congr agree, whole]
  rfl

/-! ### One cycle, and the loop cycle by cycle -/

section Cycle

variable {sha256Hex} {cfg : DaemonConfig} {st : DaemonState} {tick : Tick}

@[simp] theorem daemonStart_lastRunTime (home : Path) (fs : FileSystem) (loadClock statsClock : ℚ) :
    (daemonStart cfg home fs loadClock statsClock).lastRunTime = none := rfl

theorem daemonStart_dedup {home : Path} {fs : FileSystem} {loadClock statsClock : ℚ}
    (dedupOn : cfg.enableDedup = true) :
    (daemonStart cfg home fs loadClock statsClock).dedup =
      some (((EventDeduplicator.init cfg.trackingWindow none true home fs loadClock).getStats
        statsClock).2) := by
  simp [daemonStart, dedupOn]

@[simp] theorem daemonCycle_startTime :
    (daemonCycle sha256Hex cfg st tick).startTime = cycleStart cfg.lookback st.lastRunTime tick.now :=
  rfl

@[simp] theorem daemonCycle_endTime : (daemonCycle sha256Hex cfg st tick).endTime = tick.now := rfl

@[simp] theorem daemonCycle_forwarded :
    (daemonCycle sha256Hex cfg st tick).forwarded =
      forwardLogs sha256Hex cfg.batchSize st.dedup st.fs tick.env
        (some (cycleStart cfg.lookback st.lastRunTime tick.now)) (some tick.now) false := rfl

@[simp] theorem daemonCycle_lastRunTime :
    (daemonCycle sha256Hex cfg st tick).after.lastRunTime =
      if (daemonCycle sha256Hex cfg st tick).forwarded.result.isOk then some tick.now
      else st.lastRunTime := rfl

@[simp] theorem daemonCycle_dedup :
    (daemonCycle sha256Hex cfg st tick).after.dedup =
      (daemonCycle sha256Hex cfg st tick).forwarded.dedup := rfl

@[simp] theorem daemonCycle_fs :
    (daemonCycle sha256Hex cfg st tick).after.fs = (daemonCycle sha256Hex cfg st tick).forwarded.fs :=
  rfl

theorem daemonCycle_after :
    (daemonCycle sha256Hex cfg st tick).after =
      ⟨if (daemonCycle sha256Hex cfg st tick).forwarded.result.isOk then some tick.now
        else st.lastRunTime, (daemonCycle sha256Hex cfg st tick).forwarded.dedup,
        (daemonCycle sha256Hex cfg st tick).forwarded.fs⟩ := rfl

theorem daemonLoop_cons (ticks : List Tick) :
    daemonLoop sha256Hex cfg st (tick :: ticks) =
      daemonCycle sha256Hex cfg st tick ::
        if continues cfg (daemonCycle sha256Hex cfg st tick) then
          daemonLoop sha256Hex cfg (daemonCycle sha256Hex cfg st tick).after ticks
        else [] := rfl

/-- A cycle that returns lets the loop go on, when the interval is not negative. -/
theorem continues_of_isOk (nonneg : 0 ≤ cfg.interval) {c : Cycle} (ok : c.forwarded.result.isOk) :
    continues cfg c = true := by
  simp only [continues, nonneg, decide_True, Bool.and_true]
  split <;> simp_all [Except.isOk, Except.toBool]

theorem finalState_cons (c : Cycle) (run : List Cycle) :
    finalState st (c :: run) = finalState c.after run := by
  cases run with
  | nil => rfl
  | cons c' run =>
    simp only [finalState, List.getLast?_cons_cons,
      List.getLast?_eq_getLast (c' :: run) (List.cons_ne_nil _ _), Option.map_some', Option.getD_some]

/-- The loop over the first `k` ticks makes the first `k` cycles of the loop over all of
them: a statement about every run is a statement about the state after every cycle. -/
theorem daemonLoop_take : ∀ (st : DaemonState) (ticks : List Tick) (k : Nat),
    daemonLoop sha256Hex cfg st (ticks.take k) = (daemonLoop sha256Hex cfg st ticks).take k
  | _, [], k => by simp [daemonLoop]
  | _, _ :: _, 0 => by simp [daemonLoop]
  | st, tick :: ticks, k + 1 => by
      rw [List.take_succ_cons, daemonLoop_cons, daemonLoop_cons, List.take_succ_cons]
      split
      · rw [daemonLoop_take]
      · simp

end Cycle

/-! ### What the windows cover -/

/-- The windows `[start_time, end_time)` of the cycles of `run` that returned, in order. -/
def completedWindows (run : List Cycle) : List (ℚ × ℚ) :=
  (run.filter fun c => c.forwarded.result.isOk).map fun c => (c.startTime, c.endTime)

/-- Some window of `windows` holds `x`. -/
def Covered (windows : List (ℚ × ℚ)) (x : ℚ) : Prop :=
  ∃ w ∈ windows, w.1 ≤ x ∧ x < w.2

/-- What the windows that returned so far cover, given `last_run_time`: none returned while it
is `None`; after that, every instant from the first such window's start up to it. -/
def CoverInv (windows : List (ℚ × ℚ)) : Option ℚ → Prop
  | none => windows = []
  | some L => ∃ w ∈ windows.head?, ∀ x, w.1 ≤ x → x < L → Covered windows x

theorem completedWindows_cons (c : Cycle) (run : List Cycle) :
    completedWindows (c :: run) = completedWindows [c] ++ completedWindows run := by
  simp only [completedWindows, List.filter_cons, List.filter_nil]
  split <;> simp

theorem completedWindows_singleton (c : Cycle) :
    completedWindows [c] = if c.forwarded.result.isOk then [(c.startTime, c.endTime)] else [] := by
  simp only [completedWindows, List.filter_cons, List.filter_nil]
  split <;> rfl

theorem Covered.append_right {windows : List (ℚ × ℚ)} {x : ℚ} (h : Covered windows x)
    (more : List (ℚ × ℚ)) : Covered (windows ++ more) x := by
  obtain ⟨w, hw, lo, hi⟩ := h
  exact ⟨w, List.mem_append_left _ hw, lo, hi⟩

/-- The windows that returned so far overlap by 30 s, each starting 30 s before the one before
it ends, and `last_run_time` is the end of the last of them (`None` while none has returned). -/
def OverlapInv (windows : List (ℚ × ℚ)) (lastRunTime : Option ℚ) : Prop :=
  windows.Chain' (fun w w' => w'.1 = w.2 - 30) ∧ windows.getLast?.map Prod.snd = lastRunTime

section Cover

variable {sha256Hex} {cfg : DaemonConfig}

/-- The run lemma for any property of the windows that returned and of `last_run_time` that
one cycle keeps: it holds after the last cycle of every run. -/
theorem windows_daemonLoop (I : List (ℚ × ℚ) → Option ℚ → Prop)
    (step : ∀ st tick windows, I windows st.lastRunTime →
      I (windows ++ completedWindows [daemonCycle sha256Hex cfg st tick])
        (daemonCycle sha256Hex cfg st tick).after.lastRunTime) :
    ∀ (st : DaemonState) (ticks : List Tick) (windows : List (ℚ × ℚ)), I windows st.lastRunTime →
      I (windows ++ completedWindows (daemonLoop sha256Hex cfg st ticks))
        (finalState st (daemonLoop sha256Hex cfg st ticks)).lastRunTime
  | st, [], windows, h => by simpa [daemonLoop, completedWindows, finalState] using h
  | st, tick :: ticks, windows, h => by
      rw [daemonLoop_cons, finalState_cons, completedWindows_cons, ← List.append_assoc]
      split
      · exact windows_daemonLoop I step _ ticks _ (step st tick windows h)
      · simpa [completedWindows, finalState] using step st tick windows h

/-- A cycle keeps the cover: one that raises changes neither the windows nor
`last_run_time`; one that returns adds `[last_run_time - 30, end_time)`, which meets the old
cover, or, on the first run, the whole first window. -/
theorem coverInv_daemonCycle {st : DaemonState} {tick : Tick} {windows : List (ℚ × ℚ)}
    (h : CoverInv windows st.lastRunTime) :
    CoverInv (windows ++ completedWindows [daemonCycle sha256Hex cfg st tick])
      (daemonCycle sha256Hex cfg st tick).after.lastRunTime := by
  rw [daemonCycle_lastRunTime, completedWindows_singleton]
  by_cases ok : (daemonCycle sha256Hex cfg st tick).forwarded.result.isOk
  · rw [if_pos ok, if_pos ok, daemonCycle_startTime, daemonCycle_endTime]
    cases hL : st.lastRunTime with
    | none =>
      rw [hL] at h
      subst h
      exact ⟨_, rfl, fun x lo hi => ⟨_, List.mem_singleton_self _, by simpa [hL] using lo, hi⟩⟩
    | some L =>
      rw [hL] at h
      obtain ⟨w, hw, cov⟩ := h
      have head : (windows ++ [(cycleStart cfg.lookback (some L) tick.now, tick.now)]).head? =
          windows.head? := by
        cases windows with
        | nil => cases hw
        | cons => rfl
      refine ⟨w, head ▸ hw, fun x lo hi => ?_⟩
      by_cases early : x < L
      · exact (cov x lo early).append_right _
      · exact ⟨_, List.mem_append_right _ (List.mem_singleton_self _),
          by simp only [cycleStart]; linarith, hi⟩
  · rw [if_neg ok, if_neg ok, List.append_nil]
    exact h

/-- After every cycle of a daemon run, the windows of the cycles that returned so far cover
every instant from the start of the first of them up to `last_run_time`. -/
theorem covered_daemonLoop (st : DaemonState) (fresh : st.lastRunTime = none)
    (ticks : List Tick) (k : Nat) :
    let run := (daemonLoop sha256Hex cfg st ticks).take k
    ∀ L, (finalState st run).lastRunTime = some L →
      ∃ w ∈ (completedWindows run).head?, ∀ x, w.1 ≤ x → x < L → Covered (completedWindows run) x := by
  intro run L hL
  have inv := @windows_daemonLoop sha256Hex cfg CoverInv (fun _ _ _ => coverInv_daemonCycle) st
    (ticks.take k) [] (by rw [fresh]; rfl)
  rw [daemonLoop_take, List.nil_append] at inv
  rw [hL] at inv
  exact inv

/-- A cycle keeps the overlap: one that returns starts at `last_run_time - 30`, 30 s before
the last returned window ends, and becomes the last; one that raises changes nothing. -/
theorem overlapInv_daemonCycle {st : DaemonState} {tick : Tick} {windows : List (ℚ × ℚ)}
    (h : OverlapInv windows st.lastRunTime) :
    OverlapInv (windows ++ completedWindows [daemonCycle sha256Hex cfg st tick])
      (daemonCycle sha256Hex cfg st tick).after.lastRunTime := by
  obtain ⟨chain, last⟩ := h
  rw [daemonCycle_lastRunTime, completedWindows_singleton]
  by_cases ok : (daemonCycle sha256Hex cfg st tick).forwarded.result.isOk
  · rw [if_pos ok, if_pos ok, daemonCycle_startTime, daemonCycle_endTime]
    refine ⟨chain.append (List.chain'_singleton _) fun w hw w' hw' => ?_, by simp⟩
    have resumed : st.lastRunTime = some w.2 := by rw [← last, Option.mem_def.mp hw]; rfl
    simp only [List.head?_cons, Option.mem_def, Option.some.injEq] at hw'
    simp [← hw', resumed, cycleStart]
  · rw [if_neg ok, if_neg ok, List.append_nil]
    exact ⟨chain, last⟩

/-- Along every daemon run from a fresh start, each window that returned starts exactly 30 s
before the previous window that returned ends, whatever cycles raised in between, and
`last_run_time` is the end of the last of them. -/
theorem daemonLoop_windows_overlap (st : DaemonState) (fresh : st.lastRunTime = none)
    (ticks : List Tick) :
    (completedWindows (daemonLoop sha256Hex cfg st ticks)).Chain' (fun w w' => w'.1 = w.2 - 30) ∧
      (finalState st (daemonLoop sha256Hex cfg st ticks)).lastRunTime =
        (completedWindows (daemonLoop sha256Hex cfg st ticks)).getLast?.map Prod.snd := by
  have inv := @windows_daemonLoop sha256Hex cfg OverlapInv (fun _ _ _ => overlapInv_daemonCycle) st
    ticks [] ⟨List.chain'_nil, by rw [fresh]; rfl⟩
  rw [List.nil_append] at inv
  exact ⟨inv.1, inv.2.symm⟩

end Cover

/-- A daemon with no deduplicator whose second cycle's fetch raises between two cycles that
return with an empty source. -/
theorem covered_daemonLoop_sample :
    let cfg : DaemonConfig := ⟨300, 600, false, 60, 100⟩
    let st : DaemonState := ⟨none, none, fun _ => none⟩
    let quiet : Env := ⟨fun _ _ _ => .ok [], fun _ => .requestException, fun _ => 0, 0, 0,
      .completes⟩
    let failing : Env := { quiet with fetch := fun _ _ _ => .error .crusoeAPIError }
    let run := (daemonLoop id cfg st [⟨0, quiet⟩, ⟨300, failing⟩, ⟨600, quiet⟩]).take 3
    st.lastRunTime = none ∧ run.map (·.forwarded.result.isOk) = [true, false, true] ∧
      (finalState st run).lastRunTime = some 600 ∧
      ∃ w ∈ (completedWindows run).head?, ∀ x, w.1 ≤ x → x < 600 →
        Covered (completedWindows run) x :=
  ⟨rfl, rfl, rfl, covered_daemonLoop _ rfl _ 3 600 rfl⟩

/-- Two cycles five minutes apart, both returning with an empty source: the windows are
`[-600, 0)` and `[-30, 300)`. -/
theorem daemonLoop_windows_overlap_sample :
    let cfg : DaemonConfig := ⟨300, 600, false, 60, 100⟩
    let st : DaemonState := ⟨none, none, fun _ => none⟩
    let env : Env := ⟨fun _ _ _ => .ok [], fun _ => .requestException, fun _ => 0, 0, 0, .completes⟩
    let run := daemonLoop id cfg st [⟨0, env⟩, ⟨300, env⟩]
    st.lastRunTime = none ∧
      (completedWindows run).Chain' (fun w w' => w'.1 = w.2 - 30) ∧
        (finalState st run).lastRunTime = (completedWindows run).getLast?.map Prod.snd :=
  ⟨rfl, daemonLoop_windows_overlap _ rfl _⟩

/-! ### What a returning cycle leaves behind -/

section Later

variable {sha256Hex} {cfg : DaemonConfig}

/-- A cycle of a run is one pass from some state over one of the ticks, and the cycles after it
are none, or the run from the state it leaves over the ticks after that one. -/
theorem daemonLoop_eq_append_cons : ∀ (st : DaemonState) (ticks : List Tick) (pre : List Cycle)
    (c : Cycle) (post : List Cycle), daemonLoop sha256Hex cfg st ticks = pre ++ c :: post →
    ∃ st' tick rest, tick :: rest <:+ ticks ∧ c = daemonCycle sha256Hex cfg st' tick ∧
      (post = [] ∨ post = daemonLoop sha256Hex cfg c.after rest)
  | _, [], _, _, _, run => by simp [daemonLoop] at run
  | st, tick :: ticks, pre, c, post, run => by
    rw [daemonLoop_cons] at run
    cases pre with
    | nil =>
      obtain ⟨rfl, rest⟩ := List.cons.inj run
      refine ⟨st, tick, ticks, List.suffix_refl _, rfl, ?_⟩
      split at rest
      · exact .inr rest.symm
      · exact .inl rest.symm
    | cons c₀ pre =>
      obtain ⟨-, rest⟩ := List.cons.inj run
      split at rest
      · obtain ⟨st', tick', rest', suffix, hc, hpost⟩ :=
          daemonLoop_eq_append_cons _ ticks pre c post rest
        exact ⟨st', tick', rest', suffix.trans (List.suffix_cons _ _), hc, hpost⟩
      · simp at rest

/-- The first cycle of a run is a pass from its start over its first tick. -/
theorem head_daemonLoop {st : DaemonState} {ticks : List Tick} {c : Cycle}
    (h : c ∈ (daemonLoop sha256Hex cfg st ticks).head?) :
    ∃ tick ∈ ticks, c = daemonCycle sha256Hex cfg st tick := by
  cases ticks with
  | nil => cases h
  | cons tick ticks =>
    rw [daemonLoop_cons, List.head?_cons, Option.mem_def, Option.some.injEq] at h
    exact ⟨tick, List.mem_cons_self _ _, h.symm⟩

/-- Once `last_run_time` holds some `L ≥ E`, while the clock reads no earlier than `E` every
cycle of the run starts no earlier than `E - 30`: it starts 30 s before the `last_run_time` it
finds, which only moves to the clock of a cycle that returns. -/
theorem startTime_daemonLoop {E : ℚ} : ∀ (st : DaemonState) (ticks : List Tick),
    (∃ L, st.lastRunTime = some L ∧ E ≤ L) → (∀ t ∈ ticks, E ≤ t.now) →
    ∀ c ∈ daemonLoop sha256Hex cfg st ticks, E - 30 ≤ c.startTime
  | _, [], _, _, c, hc => by simp [daemonLoop] at hc
  | st, tick :: ticks, ⟨L, hL, le⟩, later, c, hc => by
    rw [daemonLoop_cons] at hc
    rcases List.mem_cons.mp hc with rfl | hc
    · rw [daemonCycle_startTime, hL]
      simp only [cycleStart]
      linarith
    · split at hc
      · refine startTime_daemonLoop _ ticks ?_ (fun t ht => later t (List.mem_cons_of_mem _ ht))
          c hc
        rw [daemonCycle_lastRunTime]
        split
        · exact ⟨tick.now, rfl, later tick (List.mem_cons_self _ _)⟩
        · exact ⟨L, hL, le⟩
      · cases hc

end Later

/-- Along a run with a faithful source and a clock that does not go back, a cycle that returns
moves `last_run_time` to its end time `E`, whatever its batches met, and the next cycle's window
starts at `E - 30`. An event the cycle handed on and did not get accepted is held and started
inside the cycle's window; the next cycle fetches it again exactly when it started no earlier
than `E - 30`, and one that started before is fetched by no later cycle of the run. With the
faithful source, a cycle with window `[s, t)` fetches `held.filter (inWindow time s t)`. -/
theorem daemonCycle_unaccepted (cfg : DaemonConfig) (st : DaemonState) (ticks : List Tick)
    {time : String → ℚ} {held : List Event}
    (source : ∀ t ∈ ticks, ∀ s u : ℚ, t.env.fetch (some s) (some u) cfg.batchSize =
      sourceFetch time held (some s) (some u) cfg.batchSize)
    (clock : (ticks.map Tick.now).Pairwise (· ≤ ·)) {pre : List Cycle} {c : Cycle}
    {post : List Cycle} (run : daemonLoop sha256Hex cfg st ticks = pre ++ c :: post)
    (returns : c.forwarded.result.isOk) :
    c.after.lastRunTime = some c.endTime ∧ (∀ c' ∈ post.head?, c'.startTime = c.endTime - 30) ∧
      ∀ e ∈ c.forwarded.handed, e ∉ c.forwarded.accepted →
        e ∈ held ∧ c.startTime ≤ time e.startTime ∧ time e.startTime < c.endTime ∧
        (∀ c' ∈ post.head?, e ∈ held.filter (inWindow time c'.startTime c'.endTime) ↔
          c.endTime - 30 ≤ time e.startTime) ∧
        (time e.startTime < c.endTime - 30 →
          ∀ c' ∈ post, e ∉ held.filter (inWindow time c'.startTime c'.endTime)) := by
  obtain ⟨st', tick, rest, suffix, rfl, hpost⟩ := daemonLoop_eq_append_cons st ticks pre c post run
  have later : ∀ t ∈ rest, tick.now ≤ t.now := by
    have sorted := List.Pairwise.sublist (suffix.sublist.map Tick.now) clock
    rw [List.map_cons, List.pairwise_cons] at sorted
    exact fun t ht => sorted.1 t.now (List.mem_map_of_mem _ ht)
  have watermark : (daemonCycle sha256Hex cfg st' tick).after.lastRunTime = some tick.now := by
    rw [daemonCycle_lastRunTime, if_pos returns]
  -- every later cycle runs from the state the watermark left, over later ticks
  have inPost : ∀ c' ∈ post,
      c' ∈ daemonLoop sha256Hex cfg (daemonCycle sha256Hex cfg st' tick).after rest := by
    rcases hpost with rfl | rfl <;> simp
  have next : ∀ c' ∈ post.head?, c'.startTime = tick.now - 30 ∧ tick.now ≤ c'.endTime := by
    intro c' hc'
    rcases hpost with rfl | rfl
    · cases hc'
    · obtain ⟨tick', mem, rfl⟩ := head_daemonLoop hc'
      rw [daemonCycle_startTime, watermark, daemonCycle_endTime]
      exact ⟨rfl, later tick' mem⟩
  refine ⟨watermark, fun c' hc' => (next c' hc').1, fun e he _ => ?_⟩
  have fetched : tick.env.fetch (some (daemonCycle sha256Hex cfg st' tick).startTime)
      (some tick.now) cfg.batchSize =
        .ok (held.filter (inWindow time (daemonCycle sha256Hex cfg st' tick).startTime tick.now)) :=
    source tick (suffix.subset (List.mem_cons_self _ _)) _ _
  obtain ⟨held_e, lo, hi⟩ := mem_filter_inWindow.mp ((handed_sublist_fetched fetched).subset he)
  refine ⟨held_e, lo, hi, fun c' hc' => ?_, fun early c' hc' => ?_⟩
  · obtain ⟨start, ends⟩ := next c' hc'
    rw [mem_filter_inWindow, start]
    exact ⟨fun h => h.2.1, fun h => ⟨held_e, h, lt_of_lt_of_le hi ends⟩⟩
  · have starts := startTime_daemonLoop _ rest ⟨tick.now, watermark, le_rfl⟩ later c' (inPost c' hc')
    rw [mem_filter_inWindow]
    rintro ⟨-, lo', -⟩
    rw [daemonCycle_endTime] at early
    linarith

/-- Two cycles 300 s apart against a source holding events that started at 980 and at 500,
with Splunk refusing every batch: the first cycle hands both on and gets neither accepted, and
the second, from 970, fetches the first again and not the second. -/
theorem daemonCycle_unaccepted_sample :
    let e₁ : Event := ⟨[("start_time", .str "1970-01-01T00:16:20Z")]⟩
    let e₂ : Event := ⟨[("start_time", .str "1970-01-01T00:08:20Z")]⟩
    let time : String → ℚ := fun s => if s = "1970-01-01T00:16:20Z" then 980 else 500
    let cfg : DaemonConfig := ⟨300, 600, false, 60, 100⟩
    let env : Env := ⟨sourceFetch time [e₁, e₂], fun _ => .http 503 .invalid, fun _ => 0, 0, 0,
      .completes⟩
    let ticks : List Tick := [⟨1000, env⟩, ⟨1300, env⟩]
    let st : DaemonState := ⟨none, none, fun _ => none⟩
    (∀ t ∈ ticks, ∀ s u : ℚ, t.env.fetch (some s) (some u) cfg.batchSize =
        sourceFetch time [e₁, e₂] (some s) (some u) cfg.batchSize) ∧
      (ticks.map Tick.now).Pairwise (· ≤ ·) ∧
      ∃ c c', daemonLoop id cfg st ticks = [] ++ c :: [c'] ∧ c.forwarded.result.isOk ∧
        c.forwarded.handed = [e₁, e₂] ∧ c.forwarded.accepted = [] ∧
        (c.after.lastRunTime = some c.endTime ∧
          (∀ c'' ∈ [c'].head?, c''.startTime = c.endTime - 30) ∧
          ∀ e ∈ c.forwarded.handed, e ∉ c.forwarded.accepted →
            e ∈ [e₁, e₂] ∧ c.startTime ≤ time e.startTime ∧ time e.startTime < c.endTime ∧
            (∀ c'' ∈ [c'].head?, e ∈ [e₁, e₂].filter (inWindow time c''.startTime c''.endTime) ↔
              c.endTime - 30 ≤ time e.startTime) ∧
            (time e.startTime < c.endTime - 30 →
              ∀ c'' ∈ [c'], e ∉ [e₁, e₂].filter (inWindow time c''.startTime c''.endTime))) := by
  intro e₁ e₂ time cfg env ticks st
  have t₁ : time e₁.startTime = 980 := by unfold time e₁; rfl
  have t₂ : time e₂.startTime = 500 := by unfold time e₂; rfl
  have source : ∀ t ∈ ticks, ∀ s u : ℚ, t.env.fetch (some s) (some u) cfg.batchSize =
      sourceFetch time [e₁, e₂] (some s) (some u) cfg.batchSize := by
    simp only [ticks, List.mem_cons, List.mem_singleton, List.not_mem_nil, or_false]
    rintro t (rfl | rfl) s u <;> rfl
  have clock : (ticks.map Tick.now).Pairwise (· ≤ ·) := by norm_num [ticks]
  -- the first cycle: `[400, 1000)` holds both events, and Splunk refuses their batch
  set c := daemonCycle id cfg st ⟨1000, env⟩ with hc
  have fetched : env.fetch (some (cycleStart cfg.lookback none 1000)) (some 1000) cfg.batchSize =
      .ok [e₁, e₂] := by
    simp only [env, sourceFetch_some, List.filter_cons, List.filter_nil, inWindow, t₁, t₂, cfg,
      cycleStart]
    norm_num
  have out : c.forwarded = ⟨.ok 0, [e₁, e₂], [], none, fun _ => none⟩ := by
    rw [hc, daemonCycle_forwarded, forwardLogs_of_fetched fetched]
    unfold st env cfg e₁ e₂
    rfl
  have ok : c.forwarded.result.isOk := by rw [out]; rfl
  set c' := daemonCycle id cfg c.after ⟨1300, env⟩
  have run : daemonLoop id cfg st ticks = [] ++ c :: [c'] := by
    show daemonLoop id cfg st [⟨1000, env⟩, ⟨1300, env⟩] = _
    rw [daemonLoop_cons, if_pos (continues_of_isOk (by decide) ok), daemonLoop_cons]
    split <;> rfl
  exact ⟨source, clock, c, c', run, ok, by rw [out], by rw [out],
    daemonCycle_unaccepted id cfg st ticks source clock run ok⟩

/-- The first cycle fetches `[400, 1000)`. Splunk refuses the batch holding an event that
started at 500, the cycle still returns and sets `last_run_time = 1000`, and the next window
starts at 970: the event is never fetched again. -/
theorem daemonCycle_advances_past_rejected :
    let e : Event := ⟨[("start_time", .str "1970-01-01T00:08:20Z"), ("action", .str "create")]⟩
    let time : String → ℚ := fun _ => 500
    let cfg : DaemonConfig := ⟨300, 600, true, 60, 100⟩
    let d : EventDeduplicator :=
      ⟨390, true, Path.ofString "/root/.crusoe_dedup_state.json", .empty⟩
    let tick : Tick := ⟨1000, ⟨sourceFetch time [e], fun _ => .http 503 .invalid, fun _ => 1000,
      1000, 1000, .completes⟩⟩
    ∀ sha256Hex : String → String,
      let c := daemonCycle sha256Hex cfg ⟨none, some d, fun _ => none⟩ tick
      c.forwarded.result.isOk ∧ c.after.lastRunTime = some 1000 ∧ c.forwarded.handed = [e] ∧
        c.forwarded.accepted = [] ∧ time e.startTime < 1000 - 30 := by
  intro e time cfg d tick sha256Hex
  have fetched : tick.env.fetch (some (cycleStart cfg.lookback none tick.now)) (some tick.now)
      cfg.batchSize = .ok [e] := by
    unfold tick time cfg
    norm_num [cycleStart, inWindow]
  have phase : dedupPhase sha256Hex (some d) tick.env [e] = ([e], some d) := rfl
  have refused : deliver sha256Hex cfg.batchSize (some d) (fun _ => none) tick.env [e] =
      ⟨.ok 0, [e], [], some d, fun _ => none⟩ := by
    unfold e d cfg tick; rfl
  have run : (daemonCycle sha256Hex cfg ⟨none, some d, fun _ => none⟩ tick).forwarded =
      ⟨.ok 0, [e], [], some d, fun _ => none⟩ := by
    simp only [daemonCycle_forwarded]
    rw [forwardLogs_of_fetched fetched, forwardFetched_eq, phase]
    simpa using refused
  refine ⟨by rw [run]; rfl, by rw [daemonCycle_lastRunTime, run]; rfl, by rw [run], by rw [run], ?_⟩
  unfold time
  norm_num

/-- The first cycle's fetch raises while `last_run_time` is still `None`; the second, 300 s
later, returns and starts its window at its own `end_time - lookback`. The first attempt's
`T0 - lookback` lies in no window that returned. -/
theorem daemonLoop_skips_after_failed_first :
    let cfg : DaemonConfig := ⟨300, 600, true, 60, 100⟩
    let failing : Tick := ⟨1000, ⟨fun _ _ _ => .error .crusoeAPIError, fun _ => .requestException,
      fun _ => 1000, 1000, 1000, .completes⟩⟩
    let quiet : Tick := ⟨1300, ⟨fun _ _ _ => .ok [], fun _ => .requestException,
      fun _ => 1300, 1300, 1300, .completes⟩⟩
    ∀ (sha256Hex : String → String) (home : Path) (fs : FileSystem),
      let run := daemonLoop sha256Hex cfg (daemonStart cfg home fs 1000 1000) [failing, quiet]
      run.map (·.forwarded.result.isOk) = [false, true] ∧
        (finalState (daemonStart cfg home fs 1000 1000) run).lastRunTime = some 1300 ∧
        completedWindows run = [(700, 1300)] ∧ ¬ Covered (completedWindows run) (1000 - 600) := by
  intro cfg failing quiet sha256Hex home fs run
  have windows : completedWindows run = [(700, 1300)] := by
    unfold run cfg failing quiet
    simp only [completedWindows]
    norm_num [daemonLoop, daemonCycle, cycleStart, forwardLogs, forwardFetched, continues,
      Except.isOk, Except.toBool]
  refine ⟨rfl, rfl, windows, ?_⟩
  rw [windows]
  norm_num [Covered]

/-! ### No re-send within one process -/

/-- The clock does not go back within a run: a cycle's `mark_events_as_sent` reads it after the
cycle's `end_time`, and the next cycle's `end_time` after that. -/
def ClockOrdered (ticks : List Tick) : Prop :=
  (∀ t ∈ ticks, t.now ≤ t.env.markClock) ∧ ticks.Chain' fun t t' => t.env.markClock ≤ t'.now

/-- Every `is_duplicate` call of a cycle after the first reads the clock less than `slack`
seconds after the previous cycle's end time. -/
def ChecksWithin (slack : ℚ) (ticks : List Tick) : Prop :=
  ticks.Chain' fun t t' => ∀ n, t'.env.checkClock n < t.now + slack

/-- What the deduplicator still knows of the events accepted so far, all drawn from the
source's `held`: it is attached with the tracking window `W`; every accepted event started
before `last_run_time`; and one that started no earlier than `last_run_time - 30` keeps a
record of its fingerprint stamped after its start. -/
structure Remembers (sha256Hex : String → String) (time : String → ℚ) (held : List Event) (W : ℚ)
    (accepted : List Event) (st : DaemonState) : Prop where
  attached : ∃ d, st.dedup = some d ∧ d.enabled = true ∧ d.trackingWindowSeconds = W
  drawn : ∀ e ∈ accepted, e ∈ held
  before : ∀ e ∈ accepted, ∃ L, st.lastRunTime = some L ∧ time e.startTime < L
  recorded : ∀ e ∈ accepted, ∀ L, st.lastRunTime = some L → L - 30 ≤ time e.startTime →
    ∃ d m, st.dedup = some d ∧ (generateEventHash sha256Hex e, m) ∈ d.seenEvents.entries ∧
      time e.startTime < m

section Remember

variable {sha256Hex} {time : String → ℚ} {held : List Event}

/-- Events of the source with one fingerprint have one start time when the digest is injective
on their key strings and no start time contains `'|'`. -/
theorem time_eq_of_hash_eq
    (inj : ∀ e₁ ∈ held, ∀ e₂ ∈ held, sha256Hex (keyString e₁) = sha256Hex (keyString e₂) →
      keyString e₁ = keyString e₂)
    (sep : ∀ e ∈ held, '|' ∉ e.startTime.data) :
    ∀ e₁ ∈ held, ∀ e₂ ∈ held, generateEventHash sha256Hex e₁ = generateEventHash sha256Hex e₂ →
      time e₁.startTime = time e₂.startTime := fun e₁ h₁ e₂ h₂ h => by
  rw [startTime_eq_of_keyString_eq (sep e₁ h₁) (sep e₂ h₂) (inj e₁ h₁ e₂ h₂ h)]

/-- A record stamped after `L - 30` survives every purge of a cycle whose `is_duplicate`
calls come less than `interval + buffer` after `L`, under the window
`interval + 30 + buffer`. -/
theorem mem_filterLoop_of_recent {cfg : DaemonConfig} {d : EventDeduplicator}
    (window : d.trackingWindowSeconds = cfg.trackingWindow) {clock : Nat → ℚ} {L : ℚ}
    (checks : ∀ n, clock n < L + (cfg.interval + cfg.dedupBufferSeconds)) (events : List Event)
    {p : String × ℚ} (mem : p ∈ d.seenEvents.entries) (recent : L - 30 < p.2) :
    p ∈ (EventDeduplicator.filterLoop sha256Hex clock events d).2.seenEvents.entries := by
  refine (EventDeduplicator.mem_filterLoop _ _ _ _).mpr ⟨mem, fun _ i _ => ?_⟩
  have := checks i
  rw [window, DaemonConfig.trackingWindow]
  push_cast
  linarith

variable {cfg : DaemonConfig} {st : DaemonState} {tick : Tick} {accepted : List Event}

/-- The step lemma: a returning cycle hands on no fingerprint accepted before it, and the
deduplicator goes on remembering the accepted events, its own included. -/
theorem remembers_daemonCycle
    (sameTime : ∀ e₁ ∈ held, ∀ e₂ ∈ held,
      generateEventHash sha256Hex e₁ = generateEventHash sha256Hex e₂ →
        time e₁.startTime = time e₂.startTime)
    (inv : Remembers sha256Hex time held cfg.trackingWindow accepted st)
    (source : ∀ s u : ℚ, tick.env.fetch (some s) (some u) cfg.batchSize =
      sourceFetch time held (some s) (some u) cfg.batchSize)
    (marked : tick.now ≤ tick.env.markClock)
    (sinceLast : ∀ L, st.lastRunTime = some L → L ≤ tick.now ∧
      ∀ n, tick.env.checkClock n < L + (cfg.interval + cfg.dedupBufferSeconds))
    (returns : (daemonCycle sha256Hex cfg st tick).forwarded.result.isOk) :
    (∀ e' ∈ (daemonCycle sha256Hex cfg st tick).forwarded.handed, ∀ e ∈ accepted,
      generateEventHash sha256Hex e' ≠ generateEventHash sha256Hex e) ∧
    Remembers sha256Hex time held cfg.trackingWindow
      (accepted ++ (daemonCycle sha256Hex cfg st tick).forwarded.accepted)
      (daemonCycle sha256Hex cfg st tick).after := by
  obtain ⟨d, attached, enabled, window⟩ := inv.attached
  set S := cycleStart cfg.lookback st.lastRunTime tick.now with hS
  have fetch : tick.env.fetch (some S) (some tick.now) cfg.batchSize =
      .ok (held.filter (inWindow time S tick.now)) := by
    rw [source]; rfl
  have out_eq : (daemonCycle sha256Hex cfg st tick).forwarded =
      forwardLogs sha256Hex cfg.batchSize (some d) st.fs tick.env (some S) (some tick.now) false := by
    rw [daemonCycle_forwarded, attached]
  obtain ⟨dedup_eq, -, drawn, sub, unrecorded⟩ :=
    @forwardLogs_enabled sha256Hex cfg.batchSize st.fs tick.env _ (some S) (some tick.now) false d
      enabled fetch
  rw [← out_eq] at dedup_eq drawn sub unrecorded
  set out := (daemonCycle sha256Hex cfg st tick).forwarded
  set filtered := (EventDeduplicator.filterLoop sha256Hex tick.env.checkClock
    (held.filter (inWindow time S tick.now)) d).2
  have fetched_mem : ∀ e ∈ out.handed, e ∈ held ∧ S ≤ time e.startTime ∧ time e.startTime < tick.now :=
    fun e he => mem_filter_inWindow.mp (sub.subset he)
  -- a record of an accepted event that started in the overlap survives the filter
  have survives : ∀ e ∈ accepted, ∀ L, st.lastRunTime = some L → L - 30 ≤ time e.startTime →
      ∃ m, (generateEventHash sha256Hex e, m) ∈ filtered.seenEvents.entries ∧ time e.startTime < m := by
    intro e he L hL recent
    obtain ⟨d', m, hd', mem, stamped⟩ := inv.recorded e he L hL recent
    rw [attached, Option.some.injEq] at hd'
    subst hd'
    exact ⟨m, mem_filterLoop_of_recent window (sinceLast L hL).2 _ mem
      (lt_of_le_of_lt recent stamped), stamped⟩
  have watermark : (daemonCycle sha256Hex cfg st tick).after.lastRunTime = some tick.now := by
    rw [daemonCycle_lastRunTime, if_pos returns]
  have settings := @EventDeduplicator.filterLoop_settings sha256Hex tick.env.checkClock
    (held.filter (inWindow time S tick.now)) d
  have marked_settings := @EventDeduplicator.markEventsAsSent_settings sha256Hex filtered
    tick.env.markClock out.accepted tick.env.saveClock tick.env.saveStop st.fs
  refine ⟨fun e' he' e he same => ?_, ⟨?_, ?_, ?_, ?_⟩⟩
  · -- no re-send
    obtain ⟨held', lo, -⟩ := fetched_mem e' he'
    obtain ⟨L, hL, -⟩ := inv.before e he
    have start : S = L - 30 := by rw [hS, hL]; rfl
    have same_time := sameTime e' held' e (inv.drawn e he) same
    obtain ⟨m, mem, -⟩ := survives e he L hL (by rw [← same_time, ← start]; exact lo)
    apply unrecorded e' he'
    rw [same]
    exact Records.mem_hashes.mpr ⟨m, mem⟩
  · -- attached
    refine ⟨_, dedup_eq, ?_, ?_⟩
    · rw [marked_settings.1, settings.1, enabled]
    · rw [marked_settings.2.1, settings.2.1, window]
  · -- drawn
    intro e he
    rcases List.mem_append.mp he with he | he
    · exact inv.drawn e he
    · exact (fetched_mem e (drawn.subset he)).1
  · -- before
    intro e he
    refine ⟨tick.now, watermark, ?_⟩
    rcases List.mem_append.mp he with he | he
    · obtain ⟨L, hL, early⟩ := inv.before e he
      exact lt_of_lt_of_le early (sinceLast L hL).1
    · exact (fetched_mem e (drawn.subset he)).2.2
  · -- recorded
    intro e he E hE recent
    rw [watermark, Option.some.injEq] at hE
    subst hE
    have keeps := @EventDeduplicator.mem_markEventsAsSent sha256Hex filtered tick.env.markClock
      out.accepted tick.env.saveClock tick.env.saveStop st.fs
    rcases List.mem_append.mp he with he | he
    · obtain ⟨L, hL, -⟩ := inv.before e he
      obtain ⟨m, mem, stamped⟩ := survives e he L hL (by linarith [(sinceLast L hL).1])
      exact ⟨_, m, dedup_eq, (keeps _).mpr (.inl mem), stamped⟩
    · refine ⟨_, tick.env.markClock, dedup_eq, (keeps _).mpr (.inr ⟨by rw [settings.1, enabled],
        rfl, List.mem_map_of_mem _ he, unrecorded e (drawn.subset he)⟩), ?_⟩
      exact lt_of_lt_of_le (fetched_mem e (drawn.subset he)).2.2 marked

/-- The run lemma: from a state that remembers `accepted`, no cycle of a run hands on a
fingerprint of `accepted` or of an earlier cycle's accepted events. -/
theorem no_resend_daemonLoop
    (sameTime : ∀ e₁ ∈ held, ∀ e₂ ∈ held,
      generateEventHash sha256Hex e₁ = generateEventHash sha256Hex e₂ →
        time e₁.startTime = time e₂.startTime) :
    ∀ (st : DaemonState) (ticks : List Tick) (accepted : List Event),
      Remembers sha256Hex time held cfg.trackingWindow accepted st →
      (∀ t ∈ ticks, ∀ s u : ℚ, t.env.fetch (some s) (some u) cfg.batchSize =
        sourceFetch time held (some s) (some u) cfg.batchSize) → ClockOrdered ticks →
      ChecksWithin (cfg.interval + cfg.dedupBufferSeconds) ticks →
      (∀ L, st.lastRunTime = some L → ∀ t ∈ ticks.head?, L ≤ t.now ∧
        ∀ n, t.env.checkClock n < L + (cfg.interval + cfg.dedupBufferSeconds)) →
      (∀ c ∈ daemonLoop sha256Hex cfg st ticks, c.forwarded.result.isOk) →
      ∀ pre c post, daemonLoop sha256Hex cfg st ticks = pre ++ c :: post →
        ∀ e ∈ accepted ++ pre.flatMap (·.forwarded.accepted), ∀ e' ∈ c.forwarded.handed,
          generateEventHash sha256Hex e' ≠ generateEventHash sha256Hex e
  | _, [], _, _, _, _, _, _, _, pre, c, post, run => by simp [daemonLoop] at run
  | st, tick :: ticks, accepted, inv, source, clock, checks, sinceLast, completes,
      pre, c, post, run => by
      rw [daemonLoop_cons] at run completes
      have returns := completes _ (List.mem_cons_self _ _)
      have step := remembers_daemonCycle sameTime inv (source tick (List.mem_cons_self _ _))
        (clock.1 tick (List.mem_cons_self _ _)) (fun L hL => sinceLast L hL tick rfl) returns
      cases pre with
      | nil =>
        obtain ⟨rfl, -⟩ := List.cons.inj run
        intro e he e' he'
        exact step.1 e' he' e (by simpa using he)
      | cons c₀ pre =>
        obtain ⟨rfl, rest⟩ := List.cons.inj run
        have more : continues cfg (daemonCycle sha256Hex cfg st tick) = true := by
          by_contra stop
          rw [if_neg stop] at rest
          exact List.append_ne_nil_of_right_ne_nil _ (List.cons_ne_nil _ _) rest.symm
        rw [if_pos more] at rest completes
        have next : ∀ L, (daemonCycle sha256Hex cfg st tick).after.lastRunTime = some L →
            ∀ t ∈ ticks.head?, L ≤ t.now ∧
              ∀ n, t.env.checkClock n < L + (cfg.interval + cfg.dedupBufferSeconds) := by
          intro L hL t ht
          rw [daemonCycle_lastRunTime, if_pos returns, Option.some.injEq] at hL
          subst hL
          cases ticks with
          | nil => cases ht
          | cons t' ticks =>
            obtain rfl := Option.some.inj ht
            exact ⟨le_trans (clock.1 tick (List.mem_cons_self _ _)) (List.chain'_cons.mp clock.2).1,
              (List.chain'_cons.mp checks).1⟩
        intro e he
        have := no_resend_daemonLoop sameTime _ ticks _ step.2
          (fun t ht => source t (List.mem_cons_of_mem _ ht))
          ⟨fun t ht => clock.1 t (List.mem_cons_of_mem _ ht), clock.2.tail⟩ checks.tail next
          (fun c hc => completes c (List.mem_cons_of_mem _ hc)) pre c post rest e
        exact this (by simpa only [List.flatMap_cons, List.append_assoc] using he)

end Remember

end CrusoeSplunkHec
