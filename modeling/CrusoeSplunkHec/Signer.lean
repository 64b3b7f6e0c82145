import CrusoeSplunkHec.Config
import CrusoeSplunkHec.CrusoeClient
import Mathlib.Data.String.Basic

/-!
Request signing (`crusoe_client.py`, `CrusoeClient._sign_request` and
`CrusoeClient._create_crusoe_signature`), and `get_audit_logs` as a signed request.

`_sign_request` sends `Authorization: Bearer <token>` when `api_token` is set and not empty;
otherwise, with both access keys set, the headers `_create_crusoe_signature` computes;
otherwise no header at all. `_create_crusoe_signature` strips `/v1alpha5/` from the URL path,
URL-encodes the query parameters sorted by name, reads the UTC clock to the second, and signs
`/v1alpha5/<path>\n<query>\n<method>\n<timestamp>\n` with HMAC-SHA256 under the secret,
decoded from URL-safe base64 after `=` pads it to a multiple of four characters. URL parsing,
URL encoding, base64, HMAC and `datetime.isoformat` are the parameters `SigningLib` holds.

A secret that does not decode raises `CrusoeAPIError`, which `get_audit_logs` does not catch
(it catches `RequestException` only) and `get_audit_logs_paginated` re-raises.
`payload.encode('ascii')` raises `UnicodeEncodeError` on a payload with a character beyond
ASCII; `get_audit_logs_paginated` catches that with its `except Exception` and returns what
it has.

* `signatureTimestamp_injective` — the zero-padded timestamp determines the clock reading.
* `requestPayload_inj` — the signed payload determines the request: when the URL paths, the
  encoded queries and the methods hold no newline, equal payloads have equal stripped paths,
  queries, methods and clock readings. The stripped path is all it pins: `/v1alpha5/x` and
  `x` sign alike.
-/

namespace CrusoeSplunkHec

/-! ### The signer -/

/-- What signing takes from libraries. -/
structure SigningLib where
  /-- `urlparse(url).path`. -/
  urlPath : String → String
  /-- `urlencode(pairs)`, for pairs whose values `str()` has made text. -/
  urlencode : List (String × String) → String
  /-- `base64.urlsafe_b64decode(text)`; `none` is the `binascii.Error` it raises. -/
  urlsafeB64Decode : String → Option (List UInt8)
  /-- `hmac.new(key, message, hashlib.sha256).digest()`. -/
  hmacSha256 : List UInt8 → List UInt8 → List UInt8
  /-- `base64.urlsafe_b64encode(digest).decode('ascii')`. -/
  urlsafeB64Encode : List UInt8 → String
  /-- `dt.isoformat()` of a window bound. -/
  isoformat : ℚ → String

/-- `datetime.now(timezone.utc).replace(microsecond=0)`: each field below the bound
`datetime` keeps it under. -/
structure UtcSecond where
  year : Fin 10000
  month : Fin 13
  day : Fin 32
  hour : Fin 24
  minute : Fin 60
  second : Fin 60
deriving DecidableEq, Repr

/-- `'%0*d' % (width, n)`: the decimal digits of `n`, zero-padded on the left to `width`. -/
def zeroPad (width n : Nat) : List Char :=
  List.replicate (width - (toString n).length) '0' ++ (toString n).data

/-- `str(dt)` for an aware UTC datetime with no microseconds, `dt.isoformat(sep=' ')`. -/
def UtcSecond.pyStr (t : UtcSecond) : String :=
  String.mk (zeroPad 4 t.year ++ '-' :: zeroPad 2 t.month ++ '-' :: zeroPad 2 t.day ++
    ' ' :: zeroPad 2 t.hour ++ ':' :: zeroPad 2 t.minute ++ ':' :: zeroPad 2 t.second ++
    "+00:00".data)

/-- `str(dt).replace(" ", "T")`. -/
def signatureTimestamp (t : UtcSecond) : String :=
  String.mk (t.pyStr.data.map fun c => if c = ' ' then 'T' else c)

/-- `http_path`: the URL path less a leading `/v1alpha5/` (`full_path[10:]`). -/
def httpPath (fullPath : String) : String :=
  if "/v1alpha5/".data.isPrefixOf fullPath.data then String.mk (fullPath.data.drop 10)
  else fullPath

/-- `urlencode(sorted(params.items()))`, or `""` for no parameters. -/
def canonicalQuery (lib : SigningLib) (params : List (String × String)) : String :=
  if params.isEmpty then "" else lib.urlencode (params.mergeSort fun a b => decide (a.1 ≤ b.1))

/-- `f"{api_version}{http_path}\n{canonicalized_query_params}\n{method}\n{timestamp}\n"`. -/
def signaturePayload (path query method timestamp : String) : String :=
  "/v1alpha5/" ++ path ++ "\n" ++ query ++ "\n" ++ method ++ "\n" ++ timestamp ++ "\n"

/-- The payload `_create_crusoe_signature` signs for a request at the clock reading `now`. -/
def requestPayload (lib : SigningLib) (method url : String) (params : List (String × String))
    (now : UtcSecond) : String :=
  signaturePayload (httpPath (lib.urlPath url)) (canonicalQuery lib params) method
    (signatureTimestamp now)

/-- `secret + '=' * (-len(secret) % 4)`. -/
def padSecret (secret : String) : String :=
  secret ++ String.mk (List.replicate (-(secret.length : Int) % 4).toNat '=')

/-- `text.encode('ascii')`: `none` is the `UnicodeEncodeError` of a character beyond ASCII. -/
def asciiEncode (text : String) : Option (List UInt8) :=
  if text.data.all (·.toNat < 128) then some (text.data.map (·.toNat.toUInt8)) else none

/-- `text.rstrip(c)`. -/
def rstrip (c : Char) (text : String) : String :=
  String.mk (text.data.reverse.dropWhile (· == c)).reverse

/-- What `_create_crusoe_signature` raises. -/
inductive SignError where
  /-- `CrusoeAPIError(f"Invalid secret key format: {e}")`: the secret does not decode. -/
  | invalidSecretKey
  /-- `UnicodeEncodeError` from `payload.encode('ascii')`. -/
  | unicodeEncode
deriving DecidableEq, Repr

/-- `_create_crusoe_signature(method, url, params)` for the key pair, at the clock reading
`now`: the payload is built first, then the secret decoded, then the payload encoded. -/
def createCrusoeSignature (lib : SigningLib) (accessKeyId secretAccessKey method url : String)
    (params : List (String × String)) (now : UtcSecond) :
    Except SignError (List (String × String)) :=
  match lib.urlsafeB64Decode (padSecret secretAccessKey) with
  | none => .error .invalidSecretKey
  | some secret =>
    match asciiEncode (requestPayload lib method url params now) with
    | none => .error .unicodeEncode
    | some message =>
      let signature := rstrip '=' (lib.urlsafeB64Encode (lib.hmacSha256 secret message))
      .ok [("X-Crusoe-Timestamp", signatureTimestamp now),
        ("Authorization", "Bearer " ++ ("1.0:" ++ accessKeyId ++ ":" ++ signature))]

/-- `_sign_request(method, url, params)`: the bearer token, else the key signature, else no
header. -/
def signRequest (lib : SigningLib) (c : CrusoeConfig) (method url : String)
    (params : List (String × String)) (now : UtcSecond) :
    Except SignError (List (String × String)) :=
  if truthy c.apiToken then .ok [("Authorization", "Bearer " ++ c.apiToken.getD "")]
  else if truthy c.accessKeyId && truthy c.secretAccessKey then
    createCrusoeSignature lib (c.accessKeyId.getD "") (c.secretAccessKey.getD "") method url
      params now
  else .ok []

/-! ### `get_audit_logs` as a signed request -/

/-- `f"{base_url}/organizations/{organization_id}/audit-logs"`. -/
def auditLogsUrl (c : CrusoeConfig) : String :=
  c.baseUrl ++ "/organizations/" ++ c.organizationId ++ "/audit-logs"

/-- The `params` dict of `get_audit_logs` in insertion order, each value as `urlencode`
writes it: `isoformat()` for the bounds, `str()` for `limit` and `offset`. -/
def queryParams (lib : SigningLib) (q : Query) : List (String × String) :=
  (q.startTime.map fun t => ("start_time", lib.isoformat t)).toList ++
    (q.endTime.map fun t => ("end_time", lib.isoformat t)).toList ++
    (q.limit.map fun l => ("limit", toString l)).toList ++
    (q.offset.map fun o => ("offset", toString o)).toList

/-- `get_audit_logs` against the API `respond`, with the clock reading `clock q` for the
request of query `q`: the request is signed first, and one whose signing raises never
leaves. The pagination loop re-raises every `CrusoeAPIError`, whatever its message, so
`Page.apiError` stands for the signing error as well. -/
def signedServer (lib : SigningLib) (c : CrusoeConfig) (clock : Query → UtcSecond)
    (respond : List (String × String) → Query → Page) (q : Query) : Page :=
  match signRequest lib c "GET" (auditLogsUrl c) (queryParams lib q) (clock q) with
  | .error .invalidSecretKey => .apiError
  | .error .unicodeEncode => .unexpected
  | .ok headers => respond headers q

/-! ### The payload determines the request -/

section Payload

theorem isDigit_of_mem_zeroPad {width n : Nat} {c : Char} (mem : c ∈ zeroPad width n) :
    c.isDigit := by
  rcases List.mem_append.mp mem with zero | digit
  · rw [List.eq_of_mem_replicate zero]
    rfl
  · exact (toString_nat_data n).2.1 c digit

/-- The padding zeros read as nothing: `int()` of the padded digits is `n`. -/
theorem decimalValue_zeroPad (width n : Nat) : decimalValue (zeroPad width n) = n := by
  obtain ⟨-, digits, read⟩ := toString_nat_data n
  have zeros : ∀ k, (List.replicate k '0').foldl decimalStep 0 = 0 := fun k => by
    induction k with
    | zero => rfl
    | succ k ih => rw [List.replicate_succ', List.foldl_append, ih]; rfl
  rw [decimalValue, List.filter_eq_self.mpr digits] at read
  rw [decimalValue, List.filter_eq_self.mpr fun c mem => isDigit_of_mem_zeroPad mem, zeroPad,
    List.foldl_append, zeros, read]

theorem length_zeroPad {width n : Nat} (positive : 0 < width) (small : n < 10 ^ width) :
    (zeroPad width n).length = width := by
  have := Nat.repr_length n width positive small
  simp only [zeroPad, List.length_append, List.length_replicate]
  change width - (Nat.repr n).length + (Nat.repr n).length = width
  omega

/-- A zero-padded clock field whose bound fits the width, then a separator, peels off. -/
theorem zeroPad_append_inj {width k : Nat} (positive : 0 < width) (fits : k ≤ 10 ^ width)
    {a b : Fin k} {c : Char} {l l' : List Char}
    (same : zeroPad width a ++ c :: l = zeroPad width b ++ c :: l') : a = b ∧ l = l' := by
  obtain ⟨fields, rest⟩ := List.append_inj same (by
    rw [length_zeroPad positive (a.isLt.trans_le fits), length_zeroPad positive (b.isLt.trans_le fits)])
  exact ⟨Fin.ext (by rw [← decimalValue_zeroPad width a, fields, decimalValue_zeroPad]),
    (List.cons.inj rest).2⟩

/-- `replace(" ", "T")` changes only the separator between the date and the time. -/
theorem signatureTimestamp_data (t : UtcSecond) :
    (signatureTimestamp t).data = zeroPad 4 t.year ++ '-' :: (zeroPad 2 t.month ++ '-' ::
      (zeroPad 2 t.day ++ 'T' :: (zeroPad 2 t.hour ++ ':' :: (zeroPad 2 t.minute ++ ':' ::
      (zeroPad 2 t.second ++ ['+', '0', '0', ':', '0', '0']))))) := by
  have keep : ∀ w n, (zeroPad w n).map (fun c => if c = ' ' then 'T' else c) = zeroPad w n :=
    fun w n => (List.map_congr_left fun c mem => if_neg fun space => by
      simpa [space] using isDigit_of_mem_zeroPad mem).trans (List.map_id' _)
  simp only [signatureTimestamp, UtcSecond.pyStr, List.map_append, List.map_cons, keep,
    List.append_assoc, List.cons_append]
  rfl

/-- The timestamp determines the clock reading. -/
theorem signatureTimestamp_injective : Function.Injective signatureTimestamp := by
  intro t t' same
  have data := congrArg String.data same
  rw [signatureTimestamp_data, signatureTimestamp_data] at data
  obtain ⟨year, data⟩ := zeroPad_append_inj (by decide) (by decide) data
  obtain ⟨month, data⟩ := zeroPad_append_inj (by decide) (by decide) data
  obtain ⟨day, data⟩ := zeroPad_append_inj (by decide) (by decide) data
  obtain ⟨hour, data⟩ := zeroPad_append_inj (by decide) (by decide) data
  obtain ⟨minute, data⟩ := zeroPad_append_inj (by decide) (by decide) data
  obtain ⟨second, -⟩ := zeroPad_append_inj (by decide) (by decide) data
  cases t
  cases t'
  simp only [UtcSecond.mk.injEq]
  exact ⟨year, month, day, hour, minute, second⟩

theorem newline_not_mem_signatureTimestamp (t : UtcSecond) :
    '\n' ∉ (signatureTimestamp t).data := by
  rw [signatureTimestamp_data]
  intro mem
  have digit : ∀ {w n}, '\n' ∉ zeroPad w n := fun mem => by
    simpa using isDigit_of_mem_zeroPad mem
  simp [digit] at mem

theorem signaturePayload_data (path query method timestamp : String) :
    (signaturePayload path query method timestamp).data = ['\n'].intercalate
      [("/v1alpha5/" ++ path).data, query.data, method.data, timestamp.data, []] := by
  simp [signaturePayload, intercalate_cons_flatten]

/-- Splitting the payload at its newlines gives back its fields, when none holds a newline. -/
theorem signaturePayload_splitOn {path query method timestamp : String}
    (clean : ∀ s ∈ [path, query, method, timestamp], '\n' ∉ s.data) :
    (signaturePayload path query method timestamp).data.splitOn '\n' =
      [("/v1alpha5/" ++ path).data, query.data, method.data, timestamp.data, []] := by
  rw [signaturePayload_data]
  refine List.splitOn_intercalate _ '\n' ?_ (List.cons_ne_nil _ _)
  simp only [List.mem_cons, List.mem_singleton, forall_eq_or_imp, List.not_mem_nil] at clean ⊢
  exact ⟨by simpa using clean.1, clean.2.1, clean.2.2.1, clean.2.2.2.1, id, fun _ => False.elim⟩

/-- The payload is a newline-separated record: with no newline in its fields it determines
them. -/
theorem signaturePayload_inj {path query method timestamp path' query' method' timestamp' : String}
    (clean : ∀ s ∈ [path, query, method, timestamp], '\n' ∉ s.data)
    (clean' : ∀ s ∈ [path', query', method', timestamp'], '\n' ∉ s.data)
    (same : signaturePayload path query method timestamp =
      signaturePayload path' query' method' timestamp') :
    path = path' ∧ query = query' ∧ method = method' ∧ timestamp = timestamp' := by
  have fields := signaturePayload_splitOn clean
  rw [same, signaturePayload_splitOn clean'] at fields
  simp only [List.cons.injEq, String.data_append, List.append_cancel_left_eq, and_true] at fields
  exact ⟨String.ext fields.1.symm, String.ext fields.2.1.symm, String.ext fields.2.2.1.symm,
    String.ext fields.2.2.2.symm⟩

/-- The stripped path holds only characters of the URL path. -/
theorem httpPath_subset (fullPath : String) : (httpPath fullPath).data ⊆ fullPath.data := by
  unfold httpPath
  split
  · exact List.drop_subset _ _
  · exact List.Subset.refl _

/-- The signed payload determines the request: when the URL paths, the encoded queries and the
methods hold no newline, equal payloads come from equal stripped paths, equal encoded queries,
equal methods and one clock reading. -/
theorem requestPayload_inj {lib : SigningLib} {method method' url url' : String}
    {params params' : List (String × String)} {now now' : UtcSecond}
    (clean : ∀ s ∈ [lib.urlPath url, canonicalQuery lib params, method], '\n' ∉ s.data)
    (clean' : ∀ s ∈ [lib.urlPath url', canonicalQuery lib params', method'], '\n' ∉ s.data)
    (same : requestPayload lib method url params now =
      requestPayload lib method' url' params' now') :
    httpPath (lib.urlPath url) = httpPath (lib.urlPath url') ∧
      canonicalQuery lib params = canonicalQuery lib params' ∧ method = method' ∧ now = now' := by
  have fields : ∀ {m u p} (n : UtcSecond),
      (∀ s ∈ [lib.urlPath u, canonicalQuery lib p, m], '\n' ∉ s.data) →
      ∀ s ∈ [httpPath (lib.urlPath u), canonicalQuery lib p, m, signatureTimestamp n],
        '\n' ∉ s.data := by
    intro m u p n given
    simp only [List.mem_cons, List.mem_singleton, forall_eq_or_imp, List.not_mem_nil] at given ⊢
    exact ⟨fun mem => given.1 (httpPath_subset _ mem), given.2.1, given.2.2.1,
      newline_not_mem_signatureTimestamp n, fun _ => False.elim⟩
  obtain ⟨path, query, method, stamp⟩ :=
    signaturePayload_inj (fields now clean) (fields now' clean') same
  exact ⟨path, query, method, signatureTimestamp_injective stamp⟩

/-- Two URL paths that differ by the `/v1alpha5/` prefix alone sign alike: the payload pins
the stripped path, not the URL. -/
theorem requestPayload_inj_sample :
    let lib : SigningLib := ⟨id, fun _ => "", fun _ => none, fun _ _ => [], fun _ => "",
      fun _ => ""⟩
    let now : UtcSecond := ⟨2024, 1, 1, 0, 0, 0⟩
    (∀ s ∈ [lib.urlPath "/v1alpha5/audit-logs", canonicalQuery lib [], "GET"], '\n' ∉ s.data) ∧
      (∀ s ∈ [lib.urlPath "audit-logs", canonicalQuery lib [], "GET"], '\n' ∉ s.data) ∧
      requestPayload lib "GET" "/v1alpha5/audit-logs" [] now =
        requestPayload lib "GET" "audit-logs" [] now ∧
      "/v1alpha5/audit-logs" ≠ "audit-logs" ∧
      httpPath (lib.urlPath "/v1alpha5/audit-logs") = httpPath (lib.urlPath "audit-logs") ∧
        canonicalQuery lib [] = canonicalQuery lib [] ∧ "GET" = "GET" ∧ now = now := by
  intro lib now
  have clean : ∀ s ∈ [lib.urlPath "/v1alpha5/audit-logs", canonicalQuery lib [], "GET"],
      '\n' ∉ s.data := by decide
  have clean' : ∀ s ∈ [lib.urlPath "audit-logs", canonicalQuery lib [], "GET"],
      '\n' ∉ s.data := by decide
  have same : requestPayload lib "GET" "/v1alpha5/audit-logs" [] now =
      requestPayload lib "GET" "audit-logs" [] now := by decide
  exact ⟨clean, clean', same, by decide, requestPayload_inj clean clean' same⟩

end Payload

end CrusoeSplunkHec
