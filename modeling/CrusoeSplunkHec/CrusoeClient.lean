import CrusoeSplunkHec.Event
import Mathlib.Algebra.Order.Field.Rat

/-!
Fetching audit logs from the Crusoe Cloud API (`crusoe_client.py`,
`CrusoeClient.get_audit_logs` and `CrusoeClient.get_audit_logs_paginated`).

`get_audit_logs` builds the query of one page and turns a `RequestException` into a
`CrusoeAPIError`; the API itself is the parameter `server`, a function from the query to
what the request gives back. `get_audit_logs_paginated` asks for pages of `page_size`
at growing offsets and stops at an empty page, at a page shorter than `page_size`, at
`max_pages`, or at an exception that is not a `CrusoeAPIError` (keeping what it has);
a `CrusoeAPIError` aborts the whole call. Its `while True` loop is modelled with fuel:
`none` means the rounds ran out with the loop still going. Times are seconds since the
epoch, as rationals.

* `paginate_honoured`, `paginate_capped` — the loop against a server that holds `S` for
  the window and caps every page at `cap`, from any prefix it has fetched.
* `getAuditLogsPaginated_cappedServer` — enough fuel gives exactly `S` when
  `page_size ≤ cap`, and `S[:cap]` otherwise: a capped page is taken for the end of the
  data (`getAuditLogsPaginated_loses_capped`).
* `getAuditLogsPaginated_take` — against any server whose pages are slices of `S` at the
  requested offset, short, capped or empty at will, what comes back is a prefix of `S`: the
  offsets follow the pages received, so no event is repeated or skipped.
* `getAuditLogsPaginated_maxPages`, `getAuditLogsPaginated_length_le` — a non-zero
  `max_pages` ends the loop for every server, and with a server that honours the limit it
  bounds the result by `max_pages · page_size`. A `max_pages` of 0 is falsy and sets no
  bound.
-/

namespace CrusoeSplunkHec

/-- The query `get_audit_logs` sends: the window bounds, and `limit` and `offset`, each
left out when its argument is missing or falsy. -/
structure Query where
  startTime : Option ℚ
  endTime : Option ℚ
  limit : Option Int
  offset : Option Int
deriving DecidableEq, Repr

/-- The `params` dict of `get_audit_logs`: `if limit:` and `if offset:` drop a zero. -/
def auditLogsQuery (startTime endTime : Option ℚ) (limit offset : Option Int) : Query :=
  { startTime, endTime, limit := limit.filter (· ≠ 0), offset := offset.filter (· ≠ 0) }

/-- How one `GET .../audit-logs` request ends, as `get_audit_logs` sees it. -/
inductive Page where
  /-- The response's `items` list. -/
  | items (logs : List Event)
  /-- A `RequestException`: `get_audit_logs` raises `CrusoeAPIError`. -/
  | apiError
  /-- Any other exception, such as `data.get` on a JSON body that is not an object. -/
  | unexpected
deriving DecidableEq, Repr

/-- `CrusoeAPIError("Failed to fetch audit logs: ...")`. -/
inductive CrusoeAPIError where
  | failedToFetch
deriving DecidableEq, Repr

/-- The rounds of `get_audit_logs_paginated`'s loop, from `all_logs`, `offset` and
`page_count` so far, with at most `fuel` rounds left. -/
def paginate (server : Query → Page) (startTime endTime : Option ℚ) (pageSize : Int)
    (maxPages : Option Int) :
    Nat → List Event → Nat → Nat → Option (Except CrusoeAPIError (List Event))
  | 0, _, _, _ => none
  | fuel + 1, allLogs, offset, pageCount =>
    if (maxPages.filter (· ≠ 0)).any (fun m => decide (m ≤ (pageCount : Int))) then
      some (.ok allLogs)
    else
      match server (auditLogsQuery startTime endTime (some pageSize) (some offset)) with
      | .apiError => some (.error .failedToFetch)
      | .unexpected => some (.ok allLogs)
      | .items logs =>
        if logs.isEmpty then some (.ok allLogs)
        else if (logs.length : Int) < pageSize then some (.ok (allLogs ++ logs))
        else paginate server startTime endTime pageSize maxPages fuel (allLogs ++ logs)
          (offset + logs.length) (pageCount + 1)

/-- `get_audit_logs_paginated(start_time, end_time, page_size, max_pages)` within `fuel`
rounds. -/
def getAuditLogsPaginated (server : Query → Page) (startTime endTime : Option ℚ)
    (pageSize : Int) (maxPages : Option Int) (fuel : Nat) :
    Option (Except CrusoeAPIError (List Event)) :=
  paginate server startTime endTime pageSize maxPages fuel [] 0 0

/-- The loop reads the server only at its own queries, for the window it was given: a server
that answers those alike gives the same result. -/
theorem paginate_congr {server server' : Query → Page} {startTime endTime : Option ℚ}
    {pageSize : Int} {maxPages : Option Int}
    (agree : ∀ offset : Nat,
      server (auditLogsQuery startTime endTime (some pageSize) (some offset)) =
        server' (auditLogsQuery startTime endTime (some pageSize) (some offset))) :
    ∀ fuel allLogs offset pageCount,
      paginate server startTime endTime pageSize maxPages fuel allLogs offset pageCount =
        paginate server' startTime endTime pageSize maxPages fuel allLogs offset pageCount
  | 0, _, _, _ => rfl
  | fuel + 1, allLogs, offset, pageCount => by
    simp only [paginate, agree offset, paginate_congr agree fuel]

/-! ### A server that caps its pages -/

/-- A server that holds the sequence `S` for the window and answers `limit l`, `offset o`
with `S[o : o + min(l, cap)]`; a missing offset is 0 and a missing limit is `cap`. -/
def cappedServer (S : List Event) (cap : Nat) (q : Query) : Page :=
  .items ((S.drop (q.offset.getD 0).toNat).take (min (q.limit.getD cap).toNat cap))

theorem cappedServer_query (S : List Event) (cap : Nat) (startTime endTime : Option ℚ)
    {pageSize : Nat} (hpage : 0 < pageSize) (offset : Nat) :
    cappedServer S cap (auditLogsQuery startTime endTime (some pageSize) (some offset)) =
      .items ((S.drop offset).take (min pageSize cap)) := by
  by_cases zero : offset = 0
  · subst zero
    simp [cappedServer, auditLogsQuery, Option.filter, hpage.ne']
  · simp [cappedServer, auditLogsQuery, Option.filter, hpage.ne', zero]

section Capped

variable (S : List Event) {cap pageSize : Nat} (startTime endTime : Option ℚ)

/-- When the server honours the limit, every round from the prefix `S[:offset]` goes on to
return all of `S`, given a round for each full page still to come and one more. -/
theorem paginate_honoured (hpage : 0 < pageSize) (honoured : pageSize ≤ cap) :
    ∀ {fuel offset : Nat} (pageCount : Nat), offset ≤ S.length →
      (S.length - offset) / pageSize < fuel →
      paginate (cappedServer S cap) startTime endTime pageSize none fuel (S.take offset)
        offset pageCount = some (.ok S)
  | 0, _, _, _, bound => absurd bound (Nat.not_lt_zero _)
  | fuel + 1, offset, pageCount, within, bound => by
      have page := cappedServer_query S cap startTime endTime hpage offset
      rw [Nat.min_eq_left honoured] at page
      simp only [paginate, Option.filter, Option.any, Bool.false_eq_true, if_false, page]
      by_cases empty : ((S.drop offset).take pageSize).isEmpty = true
      · have : S.length ≤ offset := by simpa [hpage.ne'] using empty
        simp [empty, List.take_of_length_le this]
      · simp only [empty, Bool.false_eq_true, if_false]
        have len : ((S.drop offset).take pageSize).length = min pageSize (S.length - offset) := by
          rw [List.length_take, List.length_drop]
        by_cases short : (((S.drop offset).take pageSize).length : Int) < pageSize
        · have : S.length < offset + pageSize := by rw [len] at short; omega
          simp only [short, if_true, ← List.take_add, List.take_of_length_le this.le]
        · have full : offset + pageSize ≤ S.length := by rw [len] at short; omega
          rw [len, Nat.min_eq_left (by omega)]
          simp only [lt_self_iff_false, if_false, ← List.take_add]
          refine paginate_honoured hpage honoured (pageCount + 1) full ?_
          rw [Nat.div_eq_sub_div hpage (by omega)] at bound
          rw [show S.length - (offset + pageSize) = S.length - offset - pageSize by omega]
          omega

/-- When the server caps pages below `page_size`, the first page is short and ends the
loop: only `S[:cap]` comes back. -/
theorem paginate_capped (hpage : 0 < pageSize) (capped : cap < pageSize) (fuel pageCount : Nat) :
    paginate (cappedServer S cap) startTime endTime pageSize none (fuel + 1) [] 0 pageCount =
      some (.ok (S.take cap)) := by
  have page := cappedServer_query S cap startTime endTime hpage 0
  rw [Nat.min_eq_right capped.le, List.drop_zero] at page
  simp only [paginate, Option.filter, Option.any, Bool.false_eq_true, if_false, page]
  by_cases empty : (S.take cap).isEmpty = true
  · simp [empty, List.isEmpty_iff.mp empty]
  · have short : ((S.take cap).length : Int) < pageSize := by simp; omega
    simp only [empty, Bool.false_eq_true, if_false, short, if_true, List.nil_append]

/-- Against a server that holds `S` for the window and caps every page at `cap`, a
positive `page_size` and more rounds than full pages give exactly `S` when the server
honours the limit, and `S[:cap]` when it caps below `page_size`. -/
theorem getAuditLogsPaginated_cappedServer (hpage : 0 < pageSize) {fuel : Nat}
    (hfuel : S.length / pageSize < fuel) :
    getAuditLogsPaginated (cappedServer S cap) startTime endTime pageSize none fuel =
      some (.ok (if pageSize ≤ cap then S else S.take cap)) := by
  by_cases honoured : pageSize ≤ cap
  · rw [if_pos honoured]
    exact paginate_honoured S startTime endTime hpage honoured 0 (Nat.zero_le _)
      (by simpa using hfuel)
  · have : 0 < fuel := lt_of_le_of_lt (Nat.zero_le _) hfuel
    obtain ⟨rounds, rfl⟩ : ∃ rounds, fuel = rounds + 1 := ⟨fuel - 1, by omega⟩
    rw [if_neg honoured]
    exact paginate_capped S startTime endTime hpage (by omega) rounds 0

end Capped

/-- Three events, pages of two, a server capped at two, three rounds. -/
theorem getAuditLogsPaginated_cappedServer_sample :
    let S : List Event := [⟨[("action", .str "a")]⟩, ⟨[("action", .str "b")]⟩,
      ⟨[("action", .str "c")]⟩]
    0 < 2 ∧ S.length / 2 < 3 ∧
      getAuditLogsPaginated (cappedServer S 2) none none (2 : Nat) none 3 = some (.ok S) := by
  intro S
  have bound : S.length / 2 < 3 := by decide
  exact ⟨by decide, bound, getAuditLogsPaginated_cappedServer S none none (by decide) bound⟩

/-- A server capping pages at one, asked for pages of two: the first page is short, the
loop ends there, and the second event is never fetched. -/
theorem getAuditLogsPaginated_loses_capped :
    let e₁ : Event := ⟨[("action", .str "a")]⟩
    let e₂ : Event := ⟨[("action", .str "b")]⟩
    getAuditLogsPaginated (cappedServer [e₁, e₂] 1) none none 2 none 5 = some (.ok [e₁]) ∧
      [e₁] ≠ [e₁, e₂] :=
  ⟨paginate_capped [_, _] none none (by decide) (by decide) 4 0, by simp⟩


/-! ### Any server -/

/-- The server answers every query with an exception or with a slice of `S` that starts at
the query's offset, a missing offset being 0: pages may be short, capped or empty at will,
but never out of place. -/
def ServesSlices (S : List Event) (server : Query → Page) : Prop :=
  ∀ q logs, server q = .items logs → ∃ n, logs = (S.drop (q.offset.getD 0).toNat).take n

/-- A server that never answers with more events than the query's limit. -/
def HonoursLimit (server : Query → Page) : Prop :=
  ∀ q logs, server q = .items logs → ∀ l, q.limit = some l → logs.length ≤ l.toNat

theorem cappedServer_servesSlices (S : List Event) (cap : Nat) : ServesSlices S (cappedServer S cap) :=
  fun _ _ answer => ⟨_, (Page.items.inj answer).symm⟩

theorem cappedServer_honoursLimit (S : List Event) (cap : Nat) : HonoursLimit (cappedServer S cap) :=
  fun q _ answer l limit => by
    rw [← Page.items.inj answer, limit]
    exact (List.length_take_le _ _).trans (Nat.min_le_left _ _)

theorem auditLogsQuery_offset (startTime endTime : Option ℚ) (limit : Option Int) (offset : Nat) :
    ((auditLogsQuery startTime endTime limit (some offset)).offset.getD 0).toNat = offset := by
  by_cases zero : offset = 0
  · subst zero; simp [auditLogsQuery, Option.filter]
  · simp [auditLogsQuery, Option.filter, zero]

theorem take_append_slice (S : List Event) (offset n : Nat) :
    S.take offset ++ (S.drop offset).take n =
      S.take (offset + ((S.drop offset).take n).length) := by
  have page : (S.drop offset).take ((S.drop offset).take n).length = (S.drop offset).take n := by
    conv_rhs => rw [← List.take_length ((S.drop offset).take n)]
    rw [List.take_take, Nat.min_eq_left (List.length_take_le _ _)]
  rw [List.take_add, page]

section Slices

variable {S : List Event} {server : Query → Page} (startTime endTime : Option ℚ) (pageSize : Int)
  (maxPages : Option Int)

/-- The loop's invariant: from the prefix `S[:offset]` gathered at offset `offset`, whatever
the loop returns is a prefix of `S`. -/
theorem paginate_take (slices : ServesSlices S server) :
    ∀ (fuel offset pageCount : Nat) {logs : List Event},
      paginate server startTime endTime pageSize maxPages fuel (S.take offset) offset pageCount =
        some (.ok logs) → ∃ k, logs = S.take k
  | 0, _, _, _, h => by cases h
  | fuel + 1, offset, pageCount, logs, h => by
    have found : ∀ {k}, (some (.ok (S.take k)) : Option (Except CrusoeAPIError (List Event))) =
        some (.ok logs) → ∃ k, logs = S.take k :=
      fun h => ⟨_, (Except.ok.inj (Option.some.inj h)).symm⟩
    simp only [paginate] at h
    split at h
    · exact found h
    · split at h
      · cases h
      · exact found h
      · rename_i page answer
        obtain ⟨n, rfl⟩ := slices _ _ answer
        rw [auditLogsQuery_offset, take_append_slice] at h
        split at h
        · exact found h
        · split at h
          · exact found h
          · exact paginate_take slices fuel _ _ h

/-- Against any server that serves slices of `S`, `get_audit_logs_paginated` returns, when it
returns a list, a prefix of `S`: however the pages are cut, no event is repeated, skipped or
out of order. -/
theorem getAuditLogsPaginated_take (slices : ServesSlices S server) {fuel : Nat}
    {logs : List Event}
    (returned : getAuditLogsPaginated server startTime endTime pageSize maxPages fuel =
      some (.ok logs)) :
    ∃ k, logs = S.take k :=
  paginate_take startTime endTime pageSize maxPages slices fuel 0 0 returned

/-- Three events, pages of two, a server capped at one. -/
theorem getAuditLogsPaginated_take_sample :
    let S : List Event := [⟨[("action", .str "a")]⟩, ⟨[("action", .str "b")]⟩,
      ⟨[("action", .str "c")]⟩]
    ServesSlices S (cappedServer S 1) ∧
      getAuditLogsPaginated (cappedServer S 1) none none 2 none 3 = some (.ok (S.take 1)) ∧
      ∃ k, S.take 1 = S.take k := by
  intro S
  have returned : getAuditLogsPaginated (cappedServer S 1) none none 2 none 3 =
      some (.ok (S.take 1)) := rfl
  exact ⟨cappedServer_servesSlices S 1, returned,
    getAuditLogsPaginated_take none none 2 none (cappedServer_servesSlices S 1) returned⟩

end Slices

section Rounds

variable {server : Query → Page} {startTime endTime : Option ℚ} {pageSize : Int}
  {maxPages : Option Int}

/-- More rounds never change an answer the loop has given. -/
theorem paginate_succ_of_isSome : ∀ {fuel : Nat} {allLogs : List Event} {offset pageCount : Nat},
    (paginate server startTime endTime pageSize maxPages fuel allLogs offset pageCount).isSome →
      paginate server startTime endTime pageSize maxPages (fuel + 1) allLogs offset pageCount =
        paginate server startTime endTime pageSize maxPages fuel allLogs offset pageCount
  | 0, _, _, _, h => by cases h
  | fuel + 1, allLogs, offset, pageCount, h => by
    rw [paginate.eq_2 _ _ _ _ _ _ _ _ (fuel + 1), paginate.eq_2 _ _ _ _ _ _ _ _ fuel]
    rw [paginate.eq_2] at h
    split_ifs at h ⊢ with limit
    · rfl
    · rcases answer : server (auditLogsQuery startTime endTime (some pageSize) (some offset)) with
        logs | _ | _
      · simp only [answer] at h ⊢
        split_ifs at h ⊢
        · rfl
        · rfl
        · exact paginate_succ_of_isSome h
      · rfl
      · rfl

theorem paginate_add_of_isSome {fuel : Nat} {allLogs : List Event} {offset pageCount : Nat}
    (ends : (paginate server startTime endTime pageSize maxPages fuel allLogs offset pageCount).isSome) :
    ∀ k, paginate server startTime endTime pageSize maxPages (fuel + k) allLogs offset pageCount =
      paginate server startTime endTime pageSize maxPages fuel allLogs offset pageCount
  | 0 => rfl
  | k + 1 => by
    have same := paginate_add_of_isSome ends k
    rw [← Nat.add_assoc, paginate_succ_of_isSome (by rw [same]; exact ends), same]

/-- With `max_pages` set to a non-zero `m`, the loop ends once it has rounds for the pages
still allowed and one more. -/
theorem paginate_isSome_of_maxPages {m : Int} (limited : m ≠ 0) :
    ∀ {fuel : Nat} {allLogs : List Event} {offset pageCount : Nat}, m.toNat - pageCount < fuel →
      (paginate server startTime endTime pageSize (some m) fuel allLogs offset pageCount).isSome
  | 0, _, _, _, bound => absurd bound (Nat.not_lt_zero _)
  | fuel + 1, allLogs, offset, pageCount, bound => by
    rw [paginate.eq_2]
    split_ifs with stop
    · rfl
    · have more : (pageCount : Int) < m := by simpa [Option.filter, limited] using stop
      rcases server (auditLogsQuery startTime endTime (some pageSize) (some offset)) with
        logs | _ | _
      · simp only
        split_ifs
        · rfl
        · rfl
        · exact paginate_isSome_of_maxPages limited (by omega)
      · rfl
      · rfl

/-- With `max_pages` set to a non-zero `m`, `get_audit_logs_paginated` ends for every server:
one answer is given by every run of more than `m` rounds. -/
theorem getAuditLogsPaginated_maxPages {m : Int} (limited : m ≠ 0) :
    ∃ r, ∀ fuel, m.toNat < fuel →
      getAuditLogsPaginated server startTime endTime pageSize (some m) fuel = some r := by
  obtain ⟨r, answer⟩ := Option.isSome_iff_exists.1
    (@paginate_isSome_of_maxPages server startTime endTime pageSize m limited (m.toNat + 1) [] 0 0
      (by omega))
  refine ⟨r, fun fuel more => ?_⟩
  obtain ⟨k, rfl⟩ : ∃ k, fuel = m.toNat + 1 + k := ⟨fuel - (m.toNat + 1), by omega⟩
  rw [getAuditLogsPaginated, paginate_add_of_isSome (by rw [answer]; rfl), answer]

/-- A server that always sends a full page, stopped by `max_pages = 2`. -/
theorem getAuditLogsPaginated_maxPages_sample :
    (2 : Int) ≠ 0 ∧ ∃ r, ∀ fuel, (2 : Int).toNat < fuel →
      getAuditLogsPaginated (fun _ => .items [⟨[]⟩, ⟨[]⟩]) none none 2 (some 2) fuel = some r :=
  ⟨by decide, getAuditLogsPaginated_maxPages (by decide)⟩

/-- With `max_pages` set to `m`, each page the loop still may fetch adds at most
`page_size` events. -/
theorem paginate_length_le (honours : HonoursLimit server) (positive : 0 < pageSize) {m : Int}
    (limited : m ≠ 0) :
    ∀ {fuel : Nat} {allLogs : List Event} {offset pageCount : Nat} {logs : List Event},
      paginate server startTime endTime pageSize (some m) fuel allLogs offset pageCount =
        some (.ok logs) →
      logs.length ≤ allLogs.length + (m.toNat - pageCount) * pageSize.toNat
  | 0, _, _, _, _, h => by cases h
  | fuel + 1, allLogs, offset, pageCount, logs, h => by
    rw [paginate.eq_2] at h
    split_ifs at h with stop
    · cases h; omega
    · have more : (pageCount : Int) < m := by simpa [Option.filter, limited] using stop
      rcases answer : server (auditLogsQuery startTime endTime (some pageSize) (some offset)) with
        page | _ | _ <;> rw [answer] at h
      · have within : page.length ≤ pageSize.toNat :=
          honours _ _ answer pageSize (by simp [auditLogsQuery, Option.filter, positive.ne'])
        simp only at h
        split_ifs at h
        · cases h; omega
        · cases h
          have once : pageSize.toNat ≤ (m.toNat - pageCount) * pageSize.toNat :=
            Nat.le_mul_of_pos_left _ (by omega)
          rw [List.length_append]
          omega
        · have rest := paginate_length_le honours positive limited h
          have pages : m.toNat - pageCount = m.toNat - (pageCount + 1) + 1 := by omega
          rw [pages, Nat.succ_mul]
          rw [List.length_append] at rest
          omega
      · cases h
      · cases h; omega

/-- With `max_pages` set to a non-zero `m` and a server that honours the limit, a positive
`page_size` bounds what `get_audit_logs_paginated` returns by `m · page_size` events. -/
theorem getAuditLogsPaginated_length_le (honours : HonoursLimit server) (positive : 0 < pageSize)
    {m : Int} (limited : m ≠ 0) {fuel : Nat} {logs : List Event}
    (returned : getAuditLogsPaginated server startTime endTime pageSize (some m) fuel =
      some (.ok logs)) :
    logs.length ≤ m.toNat * pageSize.toNat := by
  simpa using paginate_length_le honours positive limited returned

/-- Five events, pages of two, a server capped at two, `max_pages = 2`. -/
theorem getAuditLogsPaginated_length_le_sample :
    let S : List Event := List.replicate 5 ⟨[]⟩
    HonoursLimit (cappedServer S 2) ∧ (0 : Int) < 2 ∧ (2 : Int) ≠ 0 ∧
      getAuditLogsPaginated (cappedServer S 2) none none 2 (some 2) 3 = some (.ok (S.take 4)) ∧
      (S.take 4).length ≤ (2 : Int).toNat * (2 : Int).toNat := by
  intro S
  have returned : getAuditLogsPaginated (cappedServer S 2) none none 2 (some 2) 3 =
      some (.ok (S.take 4)) := rfl
  exact ⟨cappedServer_honoursLimit S 2, by decide, by decide, returned,
    getAuditLogsPaginated_length_le (cappedServer_honoursLimit S 2) (by decide) (by decide)
      returned⟩

end Rounds

end CrusoeSplunkHec
