import Mathlib.Data.List.Nodup
import Mathlib.Algebra.Order.Field.Rat

/-!
The deduplicator's state file (`deduplicator.py`, `EventDeduplicator._save_state` and the
reading half of `EventDeduplicator._load_state`).

`_save_state` writes `{seen_events, last_updated, tracking_window_seconds}` with
`json.dump` into `state_file.with_suffix('.tmp')` and renames that file over the state
file. Each of its file-system steps can raise (the `except` logs and returns) or the
process can die in it; `SaveStop` names where it stops. A file holds a complete document
or a proper prefix of one: a crash or a failed write inside `json.dump` leaves a prefix,
and no proper prefix of a JSON object is JSON, so `json.load` fails on it. Paths are
`pathlib.PurePosixPath`s: the parts of the text between slashes, empty and `.` parts
dropped. Times are seconds since the epoch, as rationals.

* `Records` — the record map, a dict: no hash occurs twice, by construction.
* `saveState_stateFile` — what the state file holds after `_save_state` stops, at each
  stop and for either relation between the state file and its temporary file.
* `saveState_stateFile_atomic`, `saveState_stateFile_of_same` — the save is atomic exactly
  when `with_suffix('.tmp')` names another file: a state file named `*.tmp` is truncated
  by the write and left holding a prefix when `json.dump` stops.
* `saveState_atomic_iff` — which state files those are: the save is atomic at every stop
  exactly when the file's name is not a non-empty stem followed by `.tmp`
  (`withSuffix_tmp_eq_self_iff`).
-/

namespace CrusoeSplunkHec

/-! ### The record map -/

/-- `seen_events`, the map `{event_hash: timestamp_when_seen}`: a Python dict, so no hash
occurs twice. -/
structure Records where
  entries : List (String × ℚ)
  nodup : (entries.map Prod.fst).Nodup
deriving DecidableEq

namespace Records

/-- `{}`. -/
def empty : Records := ⟨[], List.nodup_nil⟩

/-- The hashes the map records, in insertion order. -/
def hashes (r : Records) : List String := r.entries.map Prod.fst

/-- `event_hash in self.seen_events`. -/
def contains (r : Records) (h : String) : Bool := r.hashes.contains h

/-- `{h: t for h, t in self.seen_events.items() if keep(t)}`. -/
def filter (r : Records) (keep : ℚ → Bool) : Records :=
  ⟨r.entries.filter (keep ·.2), r.nodup.sublist ((List.filter_sublist _).map _)⟩

/-- `self.seen_events[event_hash] = t` for a hash the map does not hold yet: a new last
entry. -/
def addNew (r : Records) (h : String) (t : ℚ) (fresh : r.contains h = false) : Records :=
  ⟨r.entries ++ [(h, t)], by
    have : h ∉ r.hashes := by simpa [contains] using fresh
    simpa [hashes] using r.nodup.append (List.nodup_singleton h)
      (List.disjoint_singleton.mpr this)⟩

@[simp] theorem hashes_empty : empty.hashes = [] := rfl

@[simp] theorem contains_iff {r : Records} {h : String} : r.contains h ↔ h ∈ r.hashes := by
  simp [contains]

@[simp] theorem contains_eq_false {r : Records} {h : String} :
    r.contains h = false ↔ h ∉ r.hashes := by
  simp [contains]

theorem mem_hashes {r : Records} {h : String} : h ∈ r.hashes ↔ ∃ t, (h, t) ∈ r.entries := by
  simp [hashes]

@[simp] theorem entries_filter (r : Records) (keep : ℚ → Bool) :
    (r.filter keep).entries = r.entries.filter (keep ·.2) := rfl

@[simp] theorem entries_addNew (r : Records) (h : String) (t : ℚ) (fresh) :
    (r.addNew h t fresh).entries = r.entries ++ [(h, t)] := rfl

theorem hashes_filter_subset (r : Records) (keep : ℚ → Bool) :
    (r.filter keep).hashes ⊆ r.hashes :=
  ((List.filter_sublist _).map _).subset

end Records

/-! ### Paths -/

/-- A path as `pathlib.PurePosixPath` keeps it: absolute or not, and its parts. -/
structure Path where
  absolute : Bool
  parts : List String
deriving DecidableEq, Repr

/-- `Path(text)`: the parts between slashes, empty and `.` parts dropped. -/
def Path.ofString (text : String) : Path :=
  { absolute := text.data.head? = some '/'
    parts := ((text.data.splitOn '/').filter fun part => part ≠ [] ∧ part ≠ ['.']).map String.mk }

/-- `self / name`. -/
def Path.join (p : Path) (name : String) : Path :=
  { p with parts := p.parts ++ [name] }

/-- `path.name`: the last part, empty for a path with none. -/
def Path.name (p : Path) : String :=
  p.parts.getLast?.getD ""

/-- The length of `name` without its suffix: `name.rfind('.')` when that dot is neither
the first nor the last character, so that `suffix = name[i:]` is not empty. -/
def stemLength (name : List Char) : Option Nat :=
  match name.reverse.indexOf? '.' with
  | some j =>
    let i := name.length - 1 - j
    if 0 < i ∧ i < name.length - 1 then some i else none
  | none => none

/-- `path.with_suffix(suffix)`: `ValueError` (here `none`) for an empty name; otherwise the
last part with its suffix replaced, or extended when it has none. -/
def Path.withSuffix (p : Path) (suffix : String) : Option Path :=
  let name := p.name.data
  if name = [] then none
  else
    let stem := match stemLength name with
      | some i => name.take i
      | none => name
    some { p with parts := p.parts.dropLast ++ [String.mk (stem ++ suffix.data)] }

/-- A path with a last part that is not empty has a temporary name. -/
theorem Path.withSuffix_join_isSome (p : Path) {name : String} (named : name.data ≠ [])
    (suffix : String) : ((p.join name).withSuffix suffix).isSome := by
  simp [Path.withSuffix, Path.name, Path.join, named]

/-- Paths whose last parts differ are different. -/
theorem Path.join_ne_join (p q : Path) {a b : String} (differ : a ≠ b) : p.join a ≠ q.join b := by
  intro same
  have := congrArg (fun r : Path => r.parts.getLast?) same
  simp [Path.join] at this
  exact differ this

example : (Path.ofString "/home/u/.crusoe_dedup_state.json").withSuffix ".tmp" =
    some (Path.ofString "/home/u/.crusoe_dedup_state.tmp") := by decide

example : (Path.ofString "/var/lib/dedup.tmp").withSuffix ".tmp" =
    some (Path.ofString "/var/lib/dedup.tmp") := by decide

/-! ### Files and `_save_state` -/

/-- The document `_save_state` serialises. -/
structure StateDoc where
  seenEvents : Records
  lastUpdated : ℚ
  trackingWindowSeconds : ℚ
deriving DecidableEq

/-- What a file holds: the whole text of a document, or a proper prefix of it. -/
inductive Content where
  | complete (doc : StateDoc)
  | truncated (doc : StateDoc)
deriving DecidableEq

/-- The document a file holds, whole or in part. -/
def Content.doc : Content → StateDoc
  | .complete doc => doc
  | .truncated doc => doc

/-- The files of the machine, by path. -/
abbrev FileSystem := Path → Option Content

/-- Where `_save_state` stops: at the first file-system step that raises or in which the
process dies, or after the last one. -/
inductive SaveStop where
  /-- `state_file.parent.mkdir(parents=True, exist_ok=True)` raises. -/
  | mkdirFails
  /-- `open(temp_file, 'w')` raises. -/
  | openFails
  /-- `json.dump` raises or the process dies in it: the temporary file holds a prefix. -/
  | writeStops
  /-- `temp_file.replace(state_file)` raises, or the process dies before it. -/
  | replaceFails
  | completes
deriving DecidableEq, Repr

/-- The file system after `_save_state` writes `doc` for the state file `statePath`. The
temporary path is computed after `mkdir`; a `ValueError` there writes nothing. -/
def saveState (statePath : Path) (doc : StateDoc) (stop : SaveStop) (fs : FileSystem) :
    FileSystem :=
  if stop = .mkdirFails then fs
  else
    match statePath.withSuffix ".tmp" with
    | none => fs
    | some temp =>
      match stop with
      | .mkdirFails | .openFails => fs
      | .writeStops => Function.update fs temp (some (.truncated doc))
      | .replaceFails => Function.update fs temp (some (.complete doc))
      | .completes =>
        Function.update (Function.update fs temp none) statePath (some (.complete doc))

/-- After `_save_state` every file holds what it held before, nothing, or (part of) the new
document. -/
theorem saveState_cases (statePath : Path) (doc : StateDoc) (stop : SaveStop) (fs : FileSystem)
    (p : Path) :
    saveState statePath doc stop fs p = fs p ∨ saveState statePath doc stop fs p = none ∨
      ∃ c, saveState statePath doc stop fs p = some c ∧ c.doc = doc := by
  unfold saveState
  split
  · exact .inl rfl
  · rcases statePath.withSuffix ".tmp" with _ | temp
    · exact .inl rfl
    · cases stop <;> simp only [Function.update_apply] <;> (try split_ifs) <;>
        simp [Content.doc]

/-- What the state file holds after `_save_state` stops: the new document in full once
the rename is done; otherwise the old content, unless the temporary file is the state
file itself, which `open(temp_file, 'w')` has then already truncated. -/
theorem saveState_stateFile (statePath : Path) (doc : StateDoc) (stop : SaveStop)
    (fs : FileSystem) :
    saveState statePath doc stop fs statePath =
      match statePath.withSuffix ".tmp", stop with
      | some _, .completes => some (.complete doc)
      | some temp, .writeStops => if temp = statePath then some (.truncated doc) else fs statePath
      | some temp, .replaceFails =>
        if temp = statePath then some (.complete doc) else fs statePath
      | _, _ => fs statePath := by
  unfold saveState
  rcases h : statePath.withSuffix ".tmp" with _ | temp <;> cases stop <;>
    simp [Function.update_apply, eq_comm]

/-- A save that completes leaves the whole new document in the state file. -/
theorem saveState_completes {statePath : Path} (temp : (statePath.withSuffix ".tmp").isSome)
    (doc : StateDoc) (fs : FileSystem) :
    saveState statePath doc .completes fs statePath = some (.complete doc) := by
  obtain ⟨t, ht⟩ := Option.isSome_iff_exists.mp temp
  rw [saveState_stateFile, ht]

/-- With a temporary file other than the state file, `_save_state` is atomic: wherever it
stops, the state file holds its old content, or nothing if it had none, or the whole new
document. -/
theorem saveState_stateFile_atomic {statePath : Path}
    (distinct : statePath.withSuffix ".tmp" ≠ some statePath) (doc : StateDoc) (stop : SaveStop)
    (fs : FileSystem) :
    saveState statePath doc stop fs statePath = fs statePath ∨
      saveState statePath doc stop fs statePath = some (.complete doc) := by
  rw [saveState_stateFile]
  rcases h : statePath.withSuffix ".tmp" with _ | temp
  · exact .inl (by cases stop <;> rfl)
  · have other : temp ≠ statePath := fun same => distinct (by rw [h, same])
    cases stop <;> simp [other]

/-- A state file that is its own temporary file is truncated by `open(temp_file, 'w')`: a
save that stops in `json.dump` leaves only a prefix of the new document in it. -/
theorem saveState_stateFile_of_same {statePath : Path}
    (same : statePath.withSuffix ".tmp" = some statePath) (doc : StateDoc) (fs : FileSystem) :
    saveState statePath doc .writeStops fs statePath = some (.truncated doc) := by
  rw [saveState_stateFile, same]
  exact if_pos rfl

/-- `_save_state` writes only the state file and its temporary file. -/
theorem saveState_frame {statePath q : Path} (other : q ≠ statePath)
    (notTemp : statePath.withSuffix ".tmp" ≠ some q) (doc : StateDoc) (stop : SaveStop)
    (fs : FileSystem) : saveState statePath doc stop fs q = fs q := by
  unfold saveState
  split
  · rfl
  · rcases h : statePath.withSuffix ".tmp" with _ | temp
    · rfl
    · have : q ≠ temp := fun same => notTemp (by rw [h, same])
      cases stop <;> simp [Function.update_apply, this, other]

/-! ### Which state files are their own temporary file -/

theorem stemLength_tmp {stem : List Char} (named : stem ≠ []) :
    stemLength (stem ++ ".tmp".data) = some stem.length := by
  have rev : (stem ++ ".tmp".data).reverse = ['p', 'm', 't', '.'] ++ stem.reverse := by
    simp [List.reverse_append]
  simp [stemLength, rev, List.indexOf?, named]

theorem stemLength_pos {name : List Char} {i : Nat} (h : stemLength name = some i) : 0 < i := by
  unfold stemLength at h
  split at h
  · dsimp only at h
    split at h
    · cases h; omega
    · cases h
  · cases h

/-- The name `with_suffix('.tmp')` gives a name of `name`'s is `name` itself exactly when
`name` is a non-empty stem followed by `.tmp`. -/
theorem stem_tmp_eq_self_iff (name : List Char) :
    (match stemLength name with
      | some i => name.take i
      | none => name) ++ ".tmp".data = name ↔ ∃ stem, stem ≠ [] ∧ name = stem ++ ".tmp".data := by
  constructor
  · intro same
    split at same
    · rename_i i found
      refine ⟨name.take i, fun empty => ?_, same.symm⟩
      rcases List.take_eq_nil_iff.1 empty with zero | nil
      · exact absurd zero (stemLength_pos found).ne'
      · subst nil; simp at same
    · have := congrArg List.length same
      simp at this
  · rintro ⟨stem, named, rfl⟩
    simp only [stemLength_tmp named, List.take_left]

/-- A path is its own temporary file exactly when its name is a non-empty stem followed by
`.tmp`. -/
theorem withSuffix_tmp_eq_self_iff (p : Path) :
    p.withSuffix ".tmp" = some p ↔ ∃ stem, stem ≠ [] ∧ p.name.data = stem ++ ".tmp".data := by
  obtain ⟨absolute, parts⟩ := p
  dsimp only [Path.withSuffix]
  split
  · rename_i empty
    simp only [reduceCtorEq, false_iff, not_exists, not_and]
    intro stem named same
    rw [same] at empty
    simp at empty
  · rename_i named
    have nonempty : parts ≠ [] := by
      rintro rfl
      exact named rfl
    have last : (Path.mk absolute parts).name = parts.getLast nonempty := by
      simp [Path.name, List.getLast?_eq_getLast parts nonempty]
    rw [Option.some.injEq, Path.mk.injEq]
    simp only [true_and]
    conv_lhs => rhs; rw [← List.dropLast_append_getLast nonempty]
    rw [List.append_cancel_left_eq, List.singleton_inj, ← last, ← stem_tmp_eq_self_iff]
    exact ⟨congrArg String.data, String.ext⟩

/-- `_save_state` leaves the state file holding its old content or the whole new document,
at every stop, for every document and every file system, exactly when the state file's name
is not a non-empty stem followed by `.tmp`. -/
theorem saveState_atomic_iff (statePath : Path) :
    (∀ doc stop fs, saveState statePath doc stop fs statePath = fs statePath ∨
        saveState statePath doc stop fs statePath = some (.complete doc)) ↔
      ¬ ∃ stem, stem ≠ [] ∧ statePath.name.data = stem ++ ".tmp".data := by
  rw [← withSuffix_tmp_eq_self_iff]
  constructor
  · intro atomic same
    have torn := saveState_stateFile_of_same same ⟨Records.empty, 0, 0⟩ (fun _ => none)
    rcases atomic ⟨Records.empty, 0, 0⟩ .writeStops (fun _ => none) with kept | written
    · rw [torn] at kept; cases kept
    · rw [torn] at written; cases written
  · exact fun distinct doc stop fs => saveState_stateFile_atomic distinct doc stop fs

end CrusoeSplunkHec
