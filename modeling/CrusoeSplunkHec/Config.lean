import CrusoeSplunkHec.Forwarder
import Mathlib.Data.Nat.Digits

/-!
The configuration (`config.py`, `AppConfig.from_env` and `AppConfig.validate_config`).

`from_env` reads the process environment (`os.getenv`, after `load_dotenv`) into the three
records, with the source's defaults, and `int()` turns `BATCH_SIZE`, `REQUEST_TIMEOUT` and
`MAX_RETRIES` into integers, raising `ValueError` on any other text. `validate_config`
checks the Crusoe credentials and three required settings, in that order, and nothing else:
the batch size may be any integer. The environment is the parameter `getenv`.

* `pyInt_toString` — every integer is the `int()` of its decimal text, so every integer
  is a possible `batch_size`.
* `validateConfig_ok_iff`, `validateConfig_fromEnv_ok_iff` — what acceptance means: a token
  or both access keys, and a non-empty organization id, HEC token and HEC URL, whatever
  `BATCH_SIZE` holds.
* `forwardLogs_batch_size_unchecked` — `BATCH_SIZE=0` and every negative `BATCH_SIZE` pass
  both, and `send_events` then gets no batch: with `0` every run that hands events on raises
  `ZeroDivisionError`, with a negative size it returns 0.
-/

namespace CrusoeSplunkHec

/-! ### `int()` -/

/-- `str.isspace()` on the ASCII range: space, `\t` to `\r`, and `\x1c` to `\x1f`. -/
def pyIsSpace (c : Char) : Bool :=
  c.toNat = 32 || (9 ≤ c.toNat && c.toNat ≤ 13) || (28 ≤ c.toNat && c.toNat ≤ 31)

/-- `text.strip()`. -/
def pyStrip (text : List Char) : List Char :=
  ((text.dropWhile pyIsSpace).reverse.dropWhile pyIsSpace).reverse

/-- A base-10 literal after its sign: ASCII digits, with single underscores between digits. -/
def decimalLiteral : List Char → Bool
  | [] => false
  | [c] => c.isDigit
  | c :: '_' :: rest => c.isDigit && decimalLiteral rest
  | c :: rest => c.isDigit && decimalLiteral rest

/-- One more digit read into a decimal value. -/
def decimalStep (n : Nat) (c : Char) : Nat :=
  10 * n + (c.toNat - '0'.toNat)

/-- The value of a decimal literal, its underscores skipped. -/
def decimalValue (digits : List Char) : Nat :=
  (digits.filter Char.isDigit).foldl decimalStep 0

/-- `int(text)` for a `str`, in base 10: surrounding whitespace stripped, an optional sign,
then a decimal literal. `none` is the `ValueError`. -/
def pyInt (text : String) : Option Int :=
  match pyStrip text.data with
  | '-' :: body => if decimalLiteral body then some (-(decimalValue body : Int)) else none
  | '+' :: body => if decimalLiteral body then some (decimalValue body) else none
  | body => if decimalLiteral body then some (decimalValue body) else none

example : pyInt " -1_000\n" = some (-1000) := by decide

example : pyInt "1__0" = none ∧ pyInt "" = none ∧ pyInt "ten" = none := by decide

section Digits

theorem digitChar_of_lt_ten : ∀ k, k < 10 →
    (Nat.digitChar k).isDigit ∧ (Nat.digitChar k).toNat - '0'.toNat = k := by
  decide

theorem pyIsSpace_of_isDigit {c : Char} (digit : c.isDigit) : pyIsSpace c = false := by
  simp only [Char.isDigit, Bool.and_eq_true, decide_eq_true_eq] at digit
  have : 48 ≤ c.toNat ∧ c.toNat ≤ 57 := digit
  simp only [pyIsSpace, Bool.or_eq_false_iff, Bool.and_eq_false_iff, decide_eq_false_iff_not]
  omega

/-- `str.strip()` leaves a text with no whitespace as it is. -/
theorem pyStrip_of_no_space {text : List Char} (none : ∀ c ∈ text, pyIsSpace c = false) :
    pyStrip text = text := by
  have keep : ∀ l : List Char, (∀ c ∈ l, pyIsSpace c = false) → l.dropWhile pyIsSpace = l
    | [], _ => rfl
    | c :: _, h => List.dropWhile_cons_of_neg (by simp [h c (List.mem_cons_self _ _)])
  rw [pyStrip, keep text none, keep _ (by simpa using none), List.reverse_reverse]

theorem decimalLiteral_of_digits : ∀ digits : List Char, digits ≠ [] →
    (∀ c ∈ digits, c.isDigit) → decimalLiteral digits := by
  intro digits
  induction digits using decimalLiteral.induct with
  | case1 => exact fun h => absurd rfl h
  | case2 c => exact fun _ all => by simpa [decimalLiteral] using all c (List.mem_singleton_self c)
  | case3 c rest _ => exact fun _ all => absurd (all '_' (by simp)) (by decide)
  | case4 c rest more notUnderscore ih =>
    intro _ all
    rw [decimalLiteral.eq_4 c rest more notUnderscore, all c (List.mem_cons_self _ _),
      ih more fun c hc => all c (List.mem_cons_of_mem _ hc)]
    rfl

/-- `toDigitsCore` prepends the decimal digits of `n`, which read back to `n`, given more fuel
than `n`. -/
theorem toDigitsCore_ten : ∀ (fuel n : Nat) (ds : List Char), n < fuel →
    ∃ l, Nat.toDigitsCore 10 fuel n ds = l ++ ds ∧ l ≠ [] ∧ (∀ c ∈ l, c.isDigit) ∧
      (l ++ ds).foldl decimalStep 0 = ds.foldl decimalStep n
  | 0, _, _, bound => absurd bound (Nat.not_lt_zero _)
  | fuel + 1, n, ds, bound => by
    obtain ⟨digit, value⟩ := digitChar_of_lt_ten (n % 10) (Nat.mod_lt _ (by decide))
    have last : decimalStep (n / 10) (Nat.digitChar (n % 10)) = n := by
      rw [decimalStep, value]; omega
    simp only [Nat.toDigitsCore]
    split
    · rename_i small
      refine ⟨[Nat.digitChar (n % 10)], rfl, List.cons_ne_nil _ _, List.forall_mem_singleton.2 digit, ?_⟩
      rw [List.singleton_append, List.foldl_cons, ← small, last]
    · obtain ⟨l, eq, ne, digits, read⟩ :=
        toDigitsCore_ten fuel (n / 10) (Nat.digitChar (n % 10) :: ds) (by omega)
      refine ⟨l ++ [Nat.digitChar (n % 10)], by rw [eq, List.append_assoc]; rfl,
        by simp, fun c hc => ?_, by rw [List.append_assoc, List.singleton_append, read]; simp [last]⟩
      rcases List.mem_append.mp hc with hc | hc
      · exact digits c hc
      · rw [List.mem_singleton.mp hc]; exact digit

/-- The decimal text of a natural number: non-empty ASCII digits reading back to it. -/
theorem toString_nat_data (m : Nat) :
    (toString m).data ≠ [] ∧ (∀ c ∈ (toString m).data, c.isDigit) ∧
      decimalValue (toString m).data = m := by
  obtain ⟨l, eq, ne, digits, read⟩ := toDigitsCore_ten (m + 1) m [] (Nat.lt_succ_self m)
  rw [List.append_nil] at eq
  have data : (toString m).data = l := eq
  rw [data]
  refine ⟨ne, digits, ?_⟩
  rw [decimalValue, List.filter_eq_self.mpr digits]
  simpa using read

/-- `int(str(n)) == n`: every integer is the `int()` of its decimal text. -/
theorem pyInt_toString (n : Int) : pyInt (toString n) = some n := by
  cases n with
  | ofNat m =>
    obtain ⟨ne, digits, read⟩ := toString_nat_data m
    have data : (toString (Int.ofNat m)).data = (toString m).data := rfl
    unfold pyInt
    rw [data, pyStrip_of_no_space fun c hc => pyIsSpace_of_isDigit (digits c hc)]
    split
    · rename_i body sign
      exact absurd (digits '-' (by rw [sign]; exact List.mem_cons_self _ _)) (by decide)
    · rename_i body sign
      exact absurd (digits '+' (by rw [sign]; exact List.mem_cons_self _ _)) (by decide)
    · rw [if_pos (decimalLiteral_of_digits _ ne digits), read]
      rfl
  | negSucc m =>
    obtain ⟨ne, digits, read⟩ := toString_nat_data (m + 1)
    have data : (toString (Int.negSucc m)).data = '-' :: (toString (m + 1)).data := rfl
    have spaces : ∀ c ∈ '-' :: (toString (m + 1)).data, pyIsSpace c = false := by
      intro c hc
      rcases List.mem_cons.mp hc with rfl | hc
      · decide
      · exact pyIsSpace_of_isDigit (digits c hc)
    unfold pyInt
    rw [data, pyStrip_of_no_space spaces]
    split
    · rename_i body sign
      rw [← (List.cons.inj sign).2, if_pos (decimalLiteral_of_digits _ ne digits), read,
        Int.negSucc_eq]
      rfl
    · rename_i body sign
      exact absurd (List.cons.inj sign).1 (by decide)
    · rename_i notMinus _
      exact (notMinus _ rfl).elim

end Digits

/-! ### The records and `from_env` -/

/-- `CrusoeConfig`. -/
structure CrusoeConfig where
  apiToken : Option String
  accessKeyId : Option String
  secretAccessKey : Option String
  baseUrl : String
  organizationId : String
  region : String
deriving DecidableEq, Repr

/-- `CrusoeConfig.from_env()`. -/
def CrusoeConfig.fromEnv (getenv : String → Option String) : CrusoeConfig where
  apiToken := getenv "CRUSOE_API_TOKEN"
  accessKeyId := getenv "CRUSOE_ACCESS_KEY_ID"
  secretAccessKey := getenv "CRUSOE_SECRET_ACCESS_KEY"
  baseUrl := (getenv "CRUSOE_BASE_URL").getD "https://api.crusoecloud.com/v1alpha5"
  organizationId := (getenv "CRUSOE_ORG_ID").getD ""
  region := (getenv "CRUSOE_REGION").getD "us-east-1"

/-- `SplunkConfig`. -/
structure SplunkConfig where
  hecToken : String
  hecUrl : String
  index : Option String
  sourcetype : String
  source : String
  verifySsl : Bool
deriving DecidableEq, Repr

/-- `SplunkConfig.from_env()`. `str.lower()` and `String.toLower` agree on whether a text
becomes `"true"`. -/
def SplunkConfig.fromEnv (getenv : String → Option String) : SplunkConfig where
  hecToken := (getenv "SPLUNK_HEC_TOKEN").getD ""
  hecUrl := (getenv "SPLUNK_HEC_URL").getD ""
  index := getenv "SPLUNK_INDEX"
  sourcetype := (getenv "SPLUNK_SOURCETYPE").getD "crusoe:audit"
  source := (getenv "SPLUNK_SOURCE").getD "crusoe_api"
  verifySsl := ((getenv "SPLUNK_VERIFY_SSL").getD "true").toLower == "true"

/-- `AppConfig`. -/
structure AppConfig where
  crusoe : CrusoeConfig
  splunk : SplunkConfig
  batchSize : Int
  timeout : Int
  maxRetries : Int
deriving DecidableEq, Repr

/-- `ValueError("invalid literal for int() with base 10: ...")`, with the text `int()` got. -/
inductive ConfigError where
  | invalidLiteral (text : String)
deriving DecidableEq, Repr

/-- `int(os.getenv(name, default))`. -/
def intSetting (getenv : String → Option String) (name default : String) :
    Except ConfigError Int :=
  match pyInt ((getenv name).getD default) with
  | some n => .ok n
  | none => .error (.invalidLiteral ((getenv name).getD default))

/-- `AppConfig.from_env()`: the keyword arguments in order, so the first setting `int()`
refuses is the one reported. -/
def AppConfig.fromEnv (getenv : String → Option String) : Except ConfigError AppConfig := do
  let batchSize ← intSetting getenv "BATCH_SIZE" "100"
  let timeout ← intSetting getenv "REQUEST_TIMEOUT" "30"
  let maxRetries ← intSetting getenv "MAX_RETRIES" "3"
  return ⟨CrusoeConfig.fromEnv getenv, SplunkConfig.fromEnv getenv, batchSize, timeout, maxRetries⟩

/-! ### `validate_config` -/

/-- `bool(value)` for a setting `os.getenv` may leave `None`: `None` and `""` are false. -/
def truthy : Option String → Bool
  | some text => text != ""
  | none => false

/-- `if not value: raise ValueError(message)`. -/
def requireSetting (value message : String) : Except String Unit :=
  if value = "" then .error message else .ok ()

/-- `validate_config()`: the `ValueError` of the first check that fails. -/
def AppConfig.validateConfig (c : AppConfig) : Except String Unit := do
  let hasToken := truthy c.crusoe.apiToken
  let hasKeys := truthy c.crusoe.accessKeyId && truthy c.crusoe.secretAccessKey
  if !hasToken && !hasKeys then
    throw ("Crusoe authentication required: either CRUSOE_API_TOKEN or " ++
      "(CRUSOE_ACCESS_KEY_ID + CRUSOE_SECRET_ACCESS_KEY) must be provided")
  requireSetting c.crusoe.organizationId "CRUSOE_ORG_ID environment variable is required"
  requireSetting c.splunk.hecToken "SPLUNK_HEC_TOKEN environment variable is required"
  requireSetting c.splunk.hecUrl "SPLUNK_HEC_URL environment variable is required"

/-! ### What the configuration admits -/

section Accepted

variable {getenv : String → Option String}

/-- An `Except` bind succeeds exactly when its first step does and the rest succeeds on its
value. -/
theorem except_bind_eq_ok {ε α β : Type} {x : Except ε α} {f : α → Except ε β} {b : β} :
    (x >>= f) = .ok b ↔ ∃ a, x = .ok a ∧ f a = .ok b := by
  cases x <;> simp [bind, Except.bind]

@[simp] theorem requireSetting_eq_ok {value message : String} {u : Unit} :
    requireSetting value message = .ok u ↔ value ≠ "" := by
  unfold requireSetting; split <;> simp [*]

@[simp] theorem intSetting_eq_ok {name default : String} {n : Int} :
    intSetting getenv name default = .ok n ↔ pyInt ((getenv name).getD default) = some n := by
  unfold intSetting; split <;> simp [*]

/-- `from_env` builds a configuration exactly when `int()` takes the three numeric settings;
the records are read off the environment and the numbers are what `int()` returns. -/
theorem fromEnv_eq_ok_iff {cfg : AppConfig} :
    AppConfig.fromEnv getenv = .ok cfg ↔
      cfg.crusoe = CrusoeConfig.fromEnv getenv ∧ cfg.splunk = SplunkConfig.fromEnv getenv ∧
        pyInt ((getenv "BATCH_SIZE").getD "100") = some cfg.batchSize ∧
        pyInt ((getenv "REQUEST_TIMEOUT").getD "30") = some cfg.timeout ∧
        pyInt ((getenv "MAX_RETRIES").getD "3") = some cfg.maxRetries := by
  simp only [AppConfig.fromEnv, except_bind_eq_ok, intSetting_eq_ok, pure, Except.pure,
    Except.ok.injEq]
  constructor
  · rintro ⟨_, batch, _, timeout, _, retries, rfl⟩
    exact ⟨rfl, rfl, batch, timeout, retries⟩
  · rintro ⟨crusoe, splunk, batch, timeout, retries⟩
    exact ⟨_, batch, _, timeout, _, retries, by rw [← crusoe, ← splunk]⟩

/-- What `validate_config` accepts: a token or both access keys, and a non-empty
organization id, HEC token and HEC URL. The batch size, the timeout and the retry count are
never looked at. -/
theorem validateConfig_ok_iff (c : AppConfig) :
    c.validateConfig = .ok () ↔
      (truthy c.crusoe.apiToken ∨ (truthy c.crusoe.accessKeyId ∧ truthy c.crusoe.secretAccessKey)) ∧
        c.crusoe.organizationId ≠ "" ∧ c.splunk.hecToken ≠ "" ∧ c.splunk.hecUrl ≠ "" := by
  have noCredentials : ∀ hasToken hasKeyId hasSecret : Bool,
      (!hasToken && !(hasKeyId && hasSecret)) = true ↔
        ¬ (hasToken = true ∨ (hasKeyId = true ∧ hasSecret = true)) := by decide
  dsimp only [AppConfig.validateConfig]
  split
  · rename_i none
    simp [(noCredentials _ _ _).1 none, throw, throwThe, MonadExceptOf.throw, bind, Except.bind]
  · rename_i some
    simp [not_not.1 (mt (noCredentials _ _ _).2 some), except_bind_eq_ok]

/-- On a configuration `from_env` built, acceptance is a condition on the credentials and the
three required variables of the environment alone, whatever `BATCH_SIZE` holds. -/
theorem validateConfig_fromEnv_ok_iff {cfg : AppConfig} (built : AppConfig.fromEnv getenv = .ok cfg) :
    cfg.validateConfig = .ok () ↔
      (truthy (getenv "CRUSOE_API_TOKEN") ∨
          (truthy (getenv "CRUSOE_ACCESS_KEY_ID") ∧ truthy (getenv "CRUSOE_SECRET_ACCESS_KEY"))) ∧
        (getenv "CRUSOE_ORG_ID").getD "" ≠ "" ∧ (getenv "SPLUNK_HEC_TOKEN").getD "" ≠ "" ∧
        (getenv "SPLUNK_HEC_URL").getD "" ≠ "" := by
  obtain ⟨crusoe, splunk, -⟩ := fromEnv_eq_ok_iff.1 built
  rw [validateConfig_ok_iff, crusoe, splunk]
  rfl

end Accepted

/-- `validate_config` never checks the batch size: with a token, the three required settings
and `BATCH_SIZE` the decimal text of `-n`, the configuration is built and accepted with batch
size `-n`. Then `send_events_batch` calls `send_events` on no chunk, and a run gets nothing
accepted: one that hands events on raises `ZeroDivisionError` at `BATCH_SIZE=0` and returns 0
at a negative size. -/
theorem forwardLogs_batch_size_unchecked (n : Nat) :
    ∃ getenv cfg, AppConfig.fromEnv getenv = .ok cfg ∧ cfg.validateConfig = .ok () ∧
      cfg.batchSize = -n ∧
      (∀ respond logEntries, (sendEventsBatch respond logEntries cfg.batchSize).calls = []) ∧
      ∀ sha256Hex dedup fs env startTime endTime dryRun,
        (forwardLogs sha256Hex cfg.batchSize dedup fs env startTime endTime dryRun).accepted = [] ∧
        ((forwardLogs sha256Hex cfg.batchSize dedup fs env startTime endTime dryRun).handed = [] ∨
          (forwardLogs sha256Hex cfg.batchSize dedup fs env startTime endTime dryRun).result =
            if n = 0 then .error (.sendFailed .zeroDivisionError) else .ok 0) := by
  let getenv : String → Option String := fun name =>
    if name = "BATCH_SIZE" then some (toString (-(n : Int)))
    else [("CRUSOE_API_TOKEN", "token"), ("CRUSOE_ORG_ID", "org"),
      ("SPLUNK_HEC_TOKEN", "hec-token"), ("SPLUNK_HEC_URL", "hec-url")].lookup name
  have built : AppConfig.fromEnv getenv =
      .ok ⟨CrusoeConfig.fromEnv getenv, SplunkConfig.fromEnv getenv, -n, 30, 3⟩ :=
    fromEnv_eq_ok_iff.2 ⟨rfl, rfl, pyInt_toString _, rfl, rfl⟩
  refine ⟨getenv, _, built, (validateConfig_fromEnv_ok_iff built).2 ⟨.inl rfl, ?_⟩, rfl,
    fun respond logEntries => calls_sendEventsBatch_of_nonpos _ _ (neg_nonpos.2 (Int.natCast_nonneg n)),
    fun sha256Hex dedup fs env startTime endTime dryRun => ?_⟩
  · show "org" ≠ "" ∧ "hec-token" ≠ "" ∧ "hec-url" ≠ ""
    decide
  · cases n with
    | zero => simpa using @forwardLogs_batch_zero sha256Hex dedup fs env startTime endTime dryRun
    | succ m =>
      simpa using @forwardLogs_batch_neg sha256Hex _ dedup fs env startTime endTime dryRun
        (by omega)

end CrusoeSplunkHec
