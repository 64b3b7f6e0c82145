import CrusoeSplunkHec.Event

/-!
Batched delivery to the Splunk HTTP Event Collector (`splunk_hec.py`,
`SplunkHECClient.send_events` and `SplunkHECClient.send_events_batch`).

`send_events` posts one batch and decides from the response: `raise_for_status` rejects
the statuses 400–599, `response.json()` decodes the body, and the batch counts as sent
only when the decoded object's `text` is `"Success"`. `http.client` reads no body at all
for a `1xx`, `204` or `304` reply, so `response.json()` raises there. Its two `except`
clauses are narrow: a `RequestException` becomes a `SplunkHECError`, anything else escapes.
The sink is not modelled; `respond n` is its answer (after the transport's own retries) to
the `n`-th batch of a call, so every per-batch failure pattern is one `respond`.

* `ofResult_sendEvents`, `verdict_eq_accepted_iff` — how `send_events` ends on each kind
  of response: it returns exactly when the response `confirms` the batch, which a status
  outside 400–599 with a body and a `"Success"` text does, a `300` included
  (`sendEventsBatch_accepts_multiple_choices`).
* `sendEventsBatch_run` — for a positive batch size and no escaping exception, the
  batches handed to `send_events` are the `total_batches` non-empty slices
  `log_entries[i:i+b]`, `i` in `range(0, n, b)`, which concatenate to the input, and the
  call returns the confirmed ones, concatenated in order.
* `sendEventsBatch_result_ok_iff` — the call returns normally exactly when no batch's
  response makes `send_events` raise something other than `SplunkHECError`.
-/

namespace CrusoeSplunkHec

/-- The body of an HTTP response, as `response.json()` decodes it. -/
inductive Body where
  /-- A JSON object. -/
  | object (fields : List (String × Value))
  /-- Valid JSON that is not an object: a list, a string, a number, `null`. -/
  | nonObject (v : Value)
  /-- Not JSON: `requests` raises its `JSONDecodeError`, a `RequestException`. -/
  | invalid
deriving DecidableEq, Repr

/-- What `session.post` gives back once the transport's own retries are spent. -/
inductive Response where
  /-- `post` raised a `RequestException`: connection error, timeout, retries exhausted. -/
  | requestException
  /-- A reply, with the body the server sent; `readBody` says what of it is read. -/
  | http (status : Nat) (body : Body)
deriving DecidableEq, Repr

/-- `http.client` reads no body for a `1xx`, `204 No Content` or `304 Not Modified` reply:
`HTTPResponse.begin` sets its length to 0, whatever the server sent. -/
def bodiless (status : Nat) : Bool :=
  decide (status < 200) || status == 204 || status == 304

/-- The body `response.json()` decodes: a bodiless reply gives the empty text, which is not
JSON. -/
def readBody (status : Nat) (body : Body) : Body :=
  if bodiless status then .invalid else body

/-- The two `SplunkHECError`s `send_events` raises. -/
inductive HECFailure where
  /-- `"Failed to send events to Splunk HEC: ..."`, from a `RequestException`. -/
  | requestFailed
  /-- `"Splunk HEC returned error: ..."`, from a body whose `text` is not `"Success"`. -/
  | returnedError
deriving DecidableEq, Repr

/-- The exceptions `send_events_batch` can raise or pass through. -/
inductive SendError where
  | splunkHECError (failure : HECFailure)
  /-- `response_data.get("text")` on a decoded body that is not a JSON object. -/
  | attributeError
  /-- `total_batches = (len(log_entries) + batch_size - 1) // batch_size` with size 0. -/
  | zeroDivisionError
deriving DecidableEq, Repr

/-- `response.raise_for_status()` raises `HTTPError` for a client or server error. -/
def raiseForStatus (status : Nat) : Bool :=
  400 ≤ status && status < 600

/-- `send_events`: `true` when Splunk confirmed the batch. An empty batch is not posted. -/
def sendEvents (response : Response) (logEntries : List Event) : Except SendError Bool :=
  if logEntries.isEmpty then .ok true
  else
    match response with
    | .requestException => .error (.splunkHECError .requestFailed)
    | .http status body =>
      if raiseForStatus status then .error (.splunkHECError .requestFailed)
      else
        match readBody status body with
        | .invalid => .error (.splunkHECError .requestFailed)
        | .nonObject _ => .error .attributeError
        | .object fields =>
          if fields.lookup "text" = some (.str "Success") then .ok true
          else .error (.splunkHECError .returnedError)

/-- How `send_events` ends on a non-empty batch. -/
inductive Verdict where
  /-- It returns: the batch was confirmed. -/
  | accepted
  /-- It raises `SplunkHECError`, which `send_events_batch` catches. -/
  | rejected
  /-- It raises something `send_events_batch` does not catch. -/
  | escapes
deriving DecidableEq, Repr

/-- The verdict a response gets on a non-empty batch. -/
def Response.verdict : Response → Verdict
  | .requestException => .rejected
  | .http status body =>
    if raiseForStatus status then .rejected
    else
      match readBody status body with
      | .invalid => .rejected
      | .nonObject _ => .escapes
      | .object fields => if fields.lookup "text" = some (.str "Success") then .accepted else .rejected

/-- Splunk's confirmation of a batch: a status `raise_for_status` lets through and a body,
read, that is a JSON object whose `text` is `"Success"`. -/
def Response.confirms : Response → Bool
  | .http status body =>
    match readBody status body with
    | .object fields => !raiseForStatus status && fields.lookup "text" == some (.str "Success")
    | _ => false
  | _ => false

/-- A bodiless reply never confirms a batch, whatever the server put after its headers. -/
theorem confirms_of_bodiless {status : Nat} (h : bodiless status) (body : Body) :
    (Response.http status body).confirms = false := by
  simp [Response.confirms, readBody, h]

/-- A batch is accepted exactly when the response confirms it. -/
theorem verdict_eq_accepted_iff {response : Response} :
    response.verdict = .accepted ↔ response.confirms := by
  rcases response with _ | ⟨status, body⟩
  · simp [Response.verdict, Response.confirms]
  · simp only [Response.verdict, Response.confirms]
    cases hs : raiseForStatus status <;> rcases readBody status body with _ | _ | _ <;> simp

/-- Which clause of `send_events_batch`'s `try` an outcome of `send_events` takes. -/
def Verdict.ofResult : Except SendError Bool → Verdict
  | .ok _ => .accepted
  | .error (.splunkHECError _) => .rejected
  | .error _ => .escapes

/-- On a non-empty batch `send_events` ends as the response's verdict says. -/
theorem ofResult_sendEvents (response : Response) {logEntries : List Event}
    (h : logEntries ≠ []) :
    Verdict.ofResult (sendEvents response logEntries) = response.verdict := by
  have posted : ¬ logEntries.isEmpty = true := by simpa using h
  unfold sendEvents
  rw [if_neg posted]
  rcases response with _ | ⟨status, body⟩
  · rfl
  · simp only [Response.verdict]
    rcases readBody status body with _ | _ | _ <;> dsimp only <;> split_ifs <;> rfl

/-! ### The batches of `send_events_batch` -/

/-- `range(0, stop, step)` for a positive step: `(stop + step - 1) // step` indices, the
multiples of `step` from 0. -/
def pyRange (stop step : Nat) : List Nat :=
  (List.range ((stop + step - 1) / step)).map (· * step)

/-- `log_entries[i:i + size]`. -/
def slice (logEntries : List Event) (i size : Nat) : List Event :=
  (logEntries.drop i).take size

/-- A run of `send_events_batch`: the batches handed to `send_events`, in order, and
what the call returned or raised. -/
structure BatchRun where
  calls : List (List Event)
  result : Except SendError (Nat × List Event)

/-- The loop `for i in range(0, len(log_entries), batch_size)` over the starts still to
come, with `total_sent` and `successfully_sent_events` so far. A `SplunkHECError` skips
the batch; any other exception leaves the loop. -/
def sendLoop (respond : Nat → Response) (logEntries : List Event) (size : Nat) :
    List Nat → Nat → List Event → BatchRun
  | [], totalSent, sent => ⟨[], .ok (totalSent, sent)⟩
  | i :: rest, totalSent, sent =>
    let batch := slice logEntries i size
    match sendEvents (respond (i / size + 1)) batch with
    | .ok _ =>
      let run := sendLoop respond logEntries size rest (totalSent + batch.length) (sent ++ batch)
      { run with calls := batch :: run.calls }
    | .error (.splunkHECError _) =>
      let run := sendLoop respond logEntries size rest totalSent sent
      { run with calls := batch :: run.calls }
    | .error e => ⟨[batch], .error e⟩

/-- `send_events_batch(log_entries, batch_size)`. A batch size of 0 divides by zero in
`total_batches`; a negative one gives an empty `range`, so nothing is sent. -/
def sendEventsBatch (respond : Nat → Response) (logEntries : List Event) (batchSize : Int) :
    BatchRun :=
  if logEntries.isEmpty then ⟨[], .ok (0, [])⟩
  else if batchSize = 0 then ⟨[], .error .zeroDivisionError⟩
  else if batchSize < 0 then ⟨[], .ok (0, [])⟩
  else sendLoop respond logEntries batchSize.toNat
    (pyRange logEntries.length batchSize.toNat) 0 []

/-! ### The loop, batch by batch -/

section Loop

variable {respond : Nat → Response} {logEntries : List Event} {size : Nat}

/-- The batches at `starts` that `send_events` accepts, concatenated in order. -/
def acceptedSlices (respond : Nat → Response) (logEntries : List Event) (size : Nat)
    (starts : List Nat) : List Event :=
  ((starts.filter fun i => (respond (i / size + 1)).confirms).map
    (slice logEntries · size)).flatten

/-- With non-empty batches and no escaping exception, the loop hands every batch to
`send_events` in order and returns the accepted ones, concatenated. -/
theorem sendLoop_eq : ∀ (starts : List Nat) (totalSent : Nat) (sent : List Event),
    (∀ i ∈ starts, slice logEntries i size ≠ []) →
    (∀ i ∈ starts, (respond (i / size + 1)).verdict ≠ .escapes) →
    sendLoop respond logEntries size starts totalSent sent =
      ⟨starts.map (slice logEntries · size),
        .ok (totalSent + (acceptedSlices respond logEntries size starts).length,
          sent ++ acceptedSlices respond logEntries size starts)⟩
  | [], totalSent, sent, _, _ => by simp [sendLoop, acceptedSlices]
  | i :: rest, totalSent, sent, nonEmpty, noEscape => by
      have verdict := ofResult_sendEvents (respond (i / size + 1))
        (nonEmpty i (List.mem_cons_self _ _))
      have rest_eq := fun totalSent sent => sendLoop_eq rest totalSent sent
        (fun j hj => nonEmpty j (List.mem_cons_of_mem _ hj))
        (fun j hj => noEscape j (List.mem_cons_of_mem _ hj))
      simp only [sendLoop]
      cases h : sendEvents (respond (i / size + 1)) (slice logEntries i size) with
      | ok _ =>
        rw [h] at verdict
        have confirmed := verdict_eq_accepted_iff.mp verdict.symm
        simp [rest_eq, acceptedSlices, confirmed, Nat.add_assoc]
      | error e =>
        rw [h] at verdict
        cases e with
        | splunkHECError _ =>
          have unconfirmed : (respond (i / size + 1)).confirms = false := by
            rw [← Bool.not_eq_true, ← verdict_eq_accepted_iff, ← verdict]
            simp [Verdict.ofResult]
          simp [rest_eq, acceptedSlices, unconfirmed]
        | attributeError => exact absurd verdict.symm (noEscape i (List.mem_cons_self _ _))
        | zeroDivisionError => exact absurd verdict.symm (noEscape i (List.mem_cons_self _ _))

/-- The loop returns normally exactly when no batch's response escapes. -/
theorem sendLoop_result_ok_iff : ∀ (starts : List Nat) (totalSent : Nat) (sent : List Event),
    (∀ i ∈ starts, slice logEntries i size ≠ []) →
    ((sendLoop respond logEntries size starts totalSent sent).result.isOk ↔
      ∀ i ∈ starts, (respond (i / size + 1)).verdict ≠ .escapes)
  | [], _, _, _ => by simp [sendLoop, Except.isOk, Except.toBool]
  | i :: rest, totalSent, sent, nonEmpty => by
      have verdict := ofResult_sendEvents (respond (i / size + 1))
        (nonEmpty i (List.mem_cons_self _ _))
      have rest_iff := fun totalSent sent => sendLoop_result_ok_iff rest totalSent sent
        (fun j hj => nonEmpty j (List.mem_cons_of_mem _ hj))
      simp only [sendLoop, List.mem_cons, forall_eq_or_imp]
      cases h : sendEvents (respond (i / size + 1)) (slice logEntries i size) with
      | ok _ =>
        rw [h] at verdict
        simp [rest_iff, ← verdict, Verdict.ofResult]
      | error e =>
        rw [h] at verdict
        cases e with
        | splunkHECError _ => simp [rest_iff, ← verdict, Verdict.ofResult]
        | _ => simp [← verdict, Verdict.ofResult, Except.isOk, Except.toBool]

end Loop

/-! ### The batches of `range(0, n, b)` -/

theorem length_pyRange (stop step : Nat) : (pyRange stop step).length = (stop + step - 1) / step := by
  simp [pyRange]

theorem mem_pyRange {stop step i : Nat} (hstep : 0 < step) :
    i ∈ pyRange stop step ↔ ∃ k, k * step < stop ∧ i = k * step := by
  simp only [pyRange, List.mem_map, List.mem_range]
  constructor
  · rintro ⟨k, hk, rfl⟩
    refine ⟨k, ?_, rfl⟩
    have := (Nat.le_div_iff_mul_le hstep).mp hk
    rw [Nat.succ_mul] at this
    omega
  · rintro ⟨k, hk, rfl⟩
    refine ⟨k, (Nat.le_div_iff_mul_le hstep).mpr ?_, rfl⟩
    rw [Nat.succ_mul]
    omega

theorem slice_ne_nil {logEntries : List Event} {size i : Nat} (hsize : 0 < size)
    (hi : i ∈ pyRange logEntries.length size) : slice logEntries i size ≠ [] := by
  obtain ⟨k, hk, rfl⟩ := (mem_pyRange hsize).mp hi
  simp only [slice, ne_eq, List.take_eq_nil_iff, List.drop_eq_nil_iff, not_or]
  omega

theorem flatten_slices_range (logEntries : List Event) (size : Nat) : ∀ m : Nat,
    ((List.range m).map fun k => slice logEntries (k * size) size).flatten =
      logEntries.take (m * size)
  | 0 => by simp
  | m + 1 => by
      rw [List.range_succ, List.map_append, List.flatten_append, flatten_slices_range _ _ m,
        Nat.succ_mul, List.take_add]
      simp [slice]

/-- The batches concatenate back to the input. -/
theorem flatten_slices (logEntries : List Event) {size : Nat} (hsize : 0 < size) :
    ((pyRange logEntries.length size).map (slice logEntries · size)).flatten = logEntries := by
  have covers : logEntries.length ≤ (logEntries.length + size - 1) / size * size := by
    have := Nat.div_add_mod (logEntries.length + size - 1) size
    have := Nat.mod_lt (logEntries.length + size - 1) hsize
    rw [Nat.mul_comm]
    omega
  rw [pyRange, List.map_map, Function.comp_def, flatten_slices_range,
    List.take_of_length_le covers]

/-! ### `send_events_batch` -/

/-- The batches `log_entries[i:i+size]`, `i` in `range(0, len(log_entries), size)`. -/
def batches (logEntries : List Event) (size : Nat) : List (List Event) :=
  (pyRange logEntries.length size).map (slice logEntries · size)

theorem sendEventsBatch_eq_sendLoop (respond : Nat → Response) {logEntries : List Event}
    {size : Nat} (hne : logEntries ≠ []) (hsize : 0 < size) :
    sendEventsBatch respond logEntries size =
      sendLoop respond logEntries size (pyRange logEntries.length size) 0 [] := by
  have posted : ¬ logEntries.isEmpty = true := by simpa using hne
  have nonzero : ¬ (size : Int) = 0 := by omega
  have nonneg : ¬ (size : Int) < 0 := by omega
  simp only [sendEventsBatch, posted, nonzero, nonneg, Bool.false_eq_true, if_false,
    Int.toNat_ofNat]

/-- A batch size of zero raises `ZeroDivisionError` in `total_batches`, before any batch is
handed to `send_events`. -/
theorem sendEventsBatch_zero (respond : Nat → Response) {logEntries : List Event}
    (hne : logEntries ≠ []) :
    sendEventsBatch respond logEntries 0 = ⟨[], .error .zeroDivisionError⟩ := by
  simp [sendEventsBatch, hne]

/-- A negative batch size gives an empty `range`: no batch is handed to `send_events`, and
`(0, [])` comes back. -/
theorem sendEventsBatch_of_neg (respond : Nat → Response) (logEntries : List Event)
    {batchSize : Int} (neg : batchSize < 0) :
    sendEventsBatch respond logEntries batchSize = ⟨[], .ok (0, [])⟩ := by
  unfold sendEventsBatch
  split_ifs <;> first | rfl | omega

/-- A batch size that is not positive never hands `send_events` a batch. -/
theorem calls_sendEventsBatch_of_nonpos (respond : Nat → Response) (logEntries : List Event)
    {batchSize : Int} (nonpos : batchSize ≤ 0) :
    (sendEventsBatch respond logEntries batchSize).calls = [] := by
  unfold sendEventsBatch
  split_ifs <;> first | rfl | omega

/-- For a positive batch size and no escaping exception, `send_events_batch` hands
`send_events` exactly the `total_batches` non-empty slices `log_entries[i:i+size]`, which
concatenate to the input, and returns `(len(A), A)` for `A` the confirmed slices in order. -/
theorem sendEventsBatch_run (respond : Nat → Response) {logEntries : List Event} {size : Nat}
    (hne : logEntries ≠ []) (hsize : 0 < size)
    (noEscape : ∀ i ∈ pyRange logEntries.length size,
      (respond (i / size + 1)).verdict ≠ .escapes) :
    let accepted := acceptedSlices respond logEntries size (pyRange logEntries.length size)
    sendEventsBatch respond logEntries size =
        ⟨batches logEntries size, .ok (accepted.length, accepted)⟩ ∧
      (batches logEntries size).length = (logEntries.length + size - 1) / size ∧
      (∀ c ∈ batches logEntries size, c ≠ []) ∧ (batches logEntries size).flatten = logEntries := by
  intro accepted
  refine ⟨?_, by simp [batches, length_pyRange], ?_, flatten_slices logEntries hsize⟩
  · rw [sendEventsBatch_eq_sendLoop respond hne hsize,
      sendLoop_eq _ 0 [] (fun i hi => slice_ne_nil hsize hi) noEscape]
    simp [batches, accepted]
  · simp only [batches, List.mem_map]
    rintro _ ⟨i, hi, rfl⟩
    exact slice_ne_nil hsize hi

/-- Three events in batches of two: the first batch is confirmed, the second refused. -/
theorem sendEventsBatch_run_sample :
    let e₁ : Event := ⟨[("action", .str "create")]⟩
    let e₂ : Event := ⟨[("action", .str "update")]⟩
    let e₃ : Event := ⟨[("action", .str "delete")]⟩
    let respond : Nat → Response := fun n =>
      if n = 1 then .http 200 (.object [("text", .str "Success")]) else .http 503 .invalid
    [e₁, e₂, e₃] ≠ [] ∧ 0 < 2 ∧
      (∀ i ∈ pyRange 3 2, (respond (i / 2 + 1)).verdict ≠ .escapes) ∧
      sendEventsBatch respond [e₁, e₂, e₃] 2 =
        ⟨batches [e₁, e₂, e₃] 2, .ok ((acceptedSlices respond [e₁, e₂, e₃] 2 (pyRange 3 2)).length,
          acceptedSlices respond [e₁, e₂, e₃] 2 (pyRange 3 2))⟩ := by
  intro e₁ e₂ e₃ respond
  have noEscape : ∀ i ∈ pyRange 3 2, (respond (i / 2 + 1)).verdict ≠ .escapes := by decide
  exact ⟨by simp, by decide, noEscape,
    (@sendEventsBatch_run respond [e₁, e₂, e₃] 2 (by simp) (by decide) noEscape).1⟩

/-- A `300 Multiple Choices` reply passes `raise_for_status`, keeps its body, and is no
redirect `requests` follows, so a `"Success"` body is accepted with a status outside 2xx. -/
theorem sendEventsBatch_accepts_multiple_choices :
    let e : Event := ⟨[("start_time", .str "2024-01-01T00:00:00Z")]⟩
    (sendEventsBatch (fun _ => .http 300 (.object [("text", .str "Success")])) [e] 1).result =
      .ok (1, [e]) ∧ ¬ (200 ≤ 300 ∧ 300 < 300) :=
  ⟨rfl, by decide⟩

/-- For a positive batch size `send_events_batch` returns normally exactly when no batch's
response makes `send_events` raise something other than `SplunkHECError`. -/
theorem sendEventsBatch_result_ok_iff (respond : Nat → Response) {logEntries : List Event}
    {size : Nat} (hne : logEntries ≠ []) (hsize : 0 < size) :
    (sendEventsBatch respond logEntries size).result.isOk ↔
      ∀ i ∈ pyRange logEntries.length size, (respond (i / size + 1)).verdict ≠ .escapes := by
  rw [sendEventsBatch_eq_sendLoop respond hne hsize]
  exact sendLoop_result_ok_iff _ 0 [] fun i hi => slice_ne_nil hsize hi

/-- A sink that confirms every batch gets the whole input, in order. -/
theorem sendEventsBatch_of_confirms (respond : Nat → Response) {logEntries : List Event}
    {size : Nat} (hne : logEntries ≠ []) (hsize : 0 < size) (confirms : ∀ n, (respond n).confirms) :
    (sendEventsBatch respond logEntries size).result = .ok (logEntries.length, logEntries) := by
  have noEscape : ∀ i ∈ pyRange logEntries.length size, (respond (i / size + 1)).verdict ≠ .escapes :=
    fun i _ escapes => by
      have := verdict_eq_accepted_iff.mpr (confirms (i / size + 1))
      rw [escapes] at this
      cases this
  have everything : acceptedSlices respond logEntries size (pyRange logEntries.length size) =
      logEntries := by
    rw [acceptedSlices, List.filter_eq_self.mpr fun i _ => confirms _, flatten_slices logEntries hsize]
  rw [sendEventsBatch_eq_sendLoop respond hne hsize,
    sendLoop_eq _ 0 [] (fun i hi => slice_ne_nil hsize hi) noEscape, everything]
  simp

theorem acceptedSlices_sublist (respond : Nat → Response) (logEntries : List Event)
    (size : Nat) : ∀ starts : List Nat,
      (acceptedSlices respond logEntries size starts).Sublist
        (starts.map (slice logEntries · size)).flatten
  | [] => by simp [acceptedSlices]
  | i :: rest => by
      have ih := acceptedSlices_sublist respond logEntries size rest
      simp only [acceptedSlices, List.filter_cons, List.map_cons, List.flatten_cons] at ih ⊢
      split
      · exact ih.append_left _
      · exact ih.trans (List.sublist_append_right _ _)

/-- What `send_events_batch` returns as sent is drawn, in order, from its input. -/
theorem sublist_of_sendEventsBatch {respond : Nat → Response} {logEntries : List Event}
    {batchSize : Int} {sentCount : Nat} {sent : List Event}
    (h : (sendEventsBatch respond logEntries batchSize).result = .ok (sentCount, sent)) :
    sent.Sublist logEntries := by
  by_cases empty : logEntries = []
  · subst empty
    simp only [sendEventsBatch, List.isEmpty_nil, if_true, Except.ok.injEq, Prod.mk.injEq] at h
    rw [← h.2]
  by_cases positive : 0 < batchSize
  · obtain ⟨size, rfl⟩ : ∃ size : Nat, batchSize = size := ⟨batchSize.toNat, by omega⟩
    have hsize : 0 < size := by omega
    have noEscape := (sendEventsBatch_result_ok_iff respond empty hsize).mp (by rw [h]; rfl)
    rw [sendEventsBatch_eq_sendLoop respond empty hsize,
      sendLoop_eq _ 0 [] (fun i hi => slice_ne_nil hsize hi) noEscape] at h
    simp only [Except.ok.injEq, Prod.mk.injEq, List.nil_append] at h
    have drawn := acceptedSlices_sublist respond logEntries size (pyRange logEntries.length size)
    rw [flatten_slices logEntries hsize] at drawn
    rw [← h.2]
    exact drawn
  · have posted : ¬ logEntries.isEmpty = true := by simpa using empty
    unfold sendEventsBatch at h
    rw [if_neg posted] at h
    split_ifs at h
    · simp only [Except.ok.injEq, Prod.mk.injEq] at h
      rw [← h.2]
      exact List.nil_sublist _
    · omega

end CrusoeSplunkHec
