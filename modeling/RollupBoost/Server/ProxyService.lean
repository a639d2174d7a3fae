import RollupBoost.Flashblocks.Builder
import RollupBoost.RateLimit.Address

/-!
# Forwarding to the L2 client

`ProxyService` (`rollup-boost/src/proxy.rs`) answers the calls of the engine API itself and
passes every other request on to the L2 client, whose response goes back to the caller.
`HttpClient::forward` (`client/http.rs`) collects the response and reads an error code from its
body, to label the span of the request.

Reading the code can fail, and then the response is dropped and the caller gets the error of
the reader. So a response passes unchanged exactly if its body can be read as an `RpcResponse`:
a body that is not JSON, a batch or an error code of more than 32 bits cannot.

The client with its layers and the JSON library are not part of this repository. The client
enters as the function from a request to its response. The library enters as the reader of JSON
syntax, which keeps the fields of an object in order and numbers as they are written; what the
derived readers accept of a value is defined here.
-/

namespace RollupBoost

abbrev BoxError := String

structure HttpRequest where
  method : String
  uri : String
  headers : List (String × Bytes)
  body : Bytes

structure ResponseParts where
  status : UInt16
  headers : List (String × Bytes)
  deriving DecidableEq

structure HttpResponse (Body : Type) where
  parts : ResponseParts
  body : Body
  deriving DecidableEq

structure JsonLibrary where
  fromSlice : Bytes → Except BoxError Value
  /-- What is said of a value that is not an `RpcResponse`. -/
  mismatch : Value → BoxError
  /-- The `method` of a request. -/
  requestMethod : Bytes → Except BoxError String

/-! ## Reading a code -/

def digitsValue (digits : List Char) : Option Nat :=
  if digits ≠ [] ∧ digits.all Char.isDigit then
    some (digits.foldl (fun value c => value * 10 + (c.toNat - 48)) 0)
  else none

/-- The integer that a number is written as. Minus zero is a float. -/
def integerValue (text : String) : Option Int :=
  match text.toList with
  | '-' :: digits => (digitsValue digits).bind fun n => if n = 0 then none else some (-(n : Int))
  | digits => (digitsValue digits).map fun n => (n : Int)

namespace Value

/-- `i32` -/
def toI32 : Value → Option Int
  | .number text => (integerValue text).filter fun n => -2 ^ 31 ≤ n ∧ n < 2 ^ 31
  | _ => none

/-- The values of the fields with this name. -/
def fieldsNamed (name : String) (fields : List (String × Value)) : List Value :=
  (fields.filter fun field => field.1 == name).map (·.2)

/-- `JsonRpcError`, as its code. A structure is also read from an array of its fields. -/
def toJsonRpcError : Value → Option Int
  | .object fields =>
      match fieldsNamed "code" fields with
      | [code] => code.toI32
      | _ => none
  | .array [code] => code.toI32
  | _ => none

/-- `Option<JsonRpcError>` -/
def toErrorField : Value → Option (Option Int)
  | .null => some none
  | value => value.toJsonRpcError.map some

/-- `RpcResponse`, as the code of its error. -/
def toRpcResponse : Value → Option (Option Int)
  | .object fields =>
      match fieldsNamed "error" fields with
      | [] => some none
      | [error] => error.toErrorField
      | _ => none
  | .array [error] => error.toErrorField
  | _ => none

end Value

def parseResponseCode (json : JsonLibrary) (bodyBytes : Bytes) :
    Except BoxError (Option Int) := do
  let value ← json.fromSlice bodyBytes
  match value.toRpcResponse with
  | some code => .ok code
  | none => .error (json.mismatch value)

/-! ## Forwarding -/

/-- A client. The body of its response may break off. -/
structure HttpClient where
  url : String
  call : HttpRequest → Except BoxError (HttpResponse (Except BoxError Bytes))

def HttpClient.forward (json : JsonLibrary) (self : HttpClient) (req : HttpRequest) :
    Except BoxError (HttpResponse Bytes) := do
  let res ← self.call { req with uri := self.url }
  let bodyBytes ← res.body
  -- the code is recorded in the span
  let _code ← parseResponseCode json bodyBytes
  .ok { parts := res.parts, body := bodyBytes }

def engineMethod : String := "engine_"

def forwardRequests : List String :=
  ["eth_sendRawTransaction", "eth_sendRawTransactionConditional", "miner_setExtra",
    "miner_setGasPrice", "miner_setGasLimit", "miner_setMaxDASize"]

structure ProxyService where
  inner : HttpRequest → Except BoxError (HttpResponse Bytes)
  l2Client : HttpClient
  builderClient : HttpClient

namespace ProxyService

/-- The response for the caller, and what is sent to the builder without waiting for it. -/
def call (json : JsonLibrary) (self : ProxyService) (req : HttpRequest) :
    Option HttpRequest × Except BoxError (HttpResponse Bytes) :=
  match json.requestMethod req.body with
  | .error e => (none, .error e)
  | .ok method =>
      if method.startsWith engineMethod then (none, self.inner req)
      else
        (if method ∈ forwardRequests then some { req with uri := self.builderClient.url } else none,
          self.l2Client.forward json req)

end ProxyService

/-! ## What can be read -/

namespace Value

/-- A code, alone or as the only field of this name. -/
def IsJsonRpcError (value : Value) : Prop :=
  ∃ code : Value, code.toI32.isSome = true ∧
    (value = .array [code] ∨ ∃ fields, value = .object fields ∧ fieldsNamed "code" fields = [code])

def IsErrorField (value : Value) : Prop := value = .null ∨ value.IsJsonRpcError

/-- An object with at most one error, or an array of just an error. -/
def IsRpcResponse (value : Value) : Prop :=
  (∃ fields, value = .object fields ∧ fieldsNamed "error" fields = []) ∨
    ∃ error : Value, error.IsErrorField ∧
      (value = .array [error] ∨
        ∃ fields, value = .object fields ∧ fieldsNamed "error" fields = [error])

theorem isSome_toJsonRpcError_iff (value : Value) :
    value.toJsonRpcError.isSome = true ↔ value.IsJsonRpcError := by
  constructor
  · intro h
    cases value with
    | object fields =>
        simp only [toJsonRpcError] at h
        split at h
        · next code hcode => exact ⟨code, h, .inr ⟨fields, rfl, hcode⟩⟩
        · exact absurd h (by simp)
    | array items =>
        obtain _ | ⟨code, _ | ⟨other, items⟩⟩ := items
        · exact absurd h (by simp [toJsonRpcError])
        · exact ⟨code, h, .inl rfl⟩
        · exact absurd h (by simp [toJsonRpcError])
    | _ => exact absurd h (by simp [toJsonRpcError])
  · rintro ⟨code, hcode, rfl | ⟨fields, rfl, hfields⟩⟩
    · exact hcode
    · simpa only [toJsonRpcError, hfields] using hcode

theorem isSome_toErrorField_iff (value : Value) :
    value.toErrorField.isSome = true ↔ value.IsErrorField := by
  rw [IsErrorField, ← isSome_toJsonRpcError_iff]
  cases value with
  | null => simp [toErrorField]
  | _ => simp [toErrorField]

theorem isSome_toRpcResponse_iff (value : Value) :
    value.toRpcResponse.isSome = true ↔ value.IsRpcResponse := by
  constructor
  · intro h
    cases value with
    | object fields =>
        simp only [toRpcResponse] at h
        split at h
        · next hnone => exact .inl ⟨fields, rfl, hnone⟩
        · next error herror =>
            exact .inr ⟨error, error.isSome_toErrorField_iff.mp h, .inr ⟨fields, rfl, herror⟩⟩
        · exact absurd h (by simp)
    | array items =>
        obtain _ | ⟨error, _ | ⟨other, items⟩⟩ := items
        · exact absurd h (by simp [toRpcResponse])
        · exact .inr ⟨error, error.isSome_toErrorField_iff.mp h, .inl rfl⟩
        · exact absurd h (by simp [toRpcResponse])
    | _ => exact absurd h (by simp [toRpcResponse])
  · rintro (⟨fields, rfl, hnone⟩ | ⟨error, herror, rfl | ⟨fields, rfl, hfields⟩⟩)
    · simp only [toRpcResponse, hnone, Option.isSome_some]
    · exact error.isSome_toErrorField_iff.mpr herror
    · simpa only [toRpcResponse, hfields] using error.isSome_toErrorField_iff.mpr herror

end Value

/-- The body is JSON with the shape of a response. -/
def JsonLibrary.Reads (json : JsonLibrary) (body : Bytes) : Prop :=
  ∃ value, json.fromSlice body = .ok value ∧ value.IsRpcResponse

theorem parseResponseCode_isOk_iff (json : JsonLibrary) (body : Bytes) :
    (∃ code, parseResponseCode json body = .ok code) ↔ json.Reads body := by
  simp only [parseResponseCode, JsonLibrary.Reads, ← Value.isSome_toRpcResponse_iff]
  cases hvalue : json.fromSlice body with
  | error e => simp [bind, Except.bind]
  | ok value =>
      cases hcode : value.toRpcResponse with
      | none => simp [bind, Except.bind, hcode]
      | some code => simp [bind, Except.bind, hcode]

/-- A complete response is handed on or replaced by an error. -/
theorem HttpClient.forward_eq (json : JsonLibrary) (self : HttpClient) (req : HttpRequest)
    {parts : ResponseParts} {body : Bytes}
    (hresponse : self.call { req with uri := self.url } = .ok ⟨parts, .ok body⟩) :
    (json.Reads body ∧ self.forward json req = .ok ⟨parts, body⟩) ∨
      ¬ json.Reads body ∧ ∃ e, self.forward json req = .error e := by
  rw [← parseResponseCode_isOk_iff]
  cases hcode : parseResponseCode json body with
  | ok code =>
      refine .inl ⟨⟨code, rfl⟩, ?_⟩
      simp [forward, hresponse, hcode, bind, Except.bind]
  | error e =>
      refine .inr ⟨by simp, e, ?_⟩
      simp [forward, hresponse, hcode, bind, Except.bind]

namespace ProxyService

/-- A complete response of the L2 client reaches the caller unchanged exactly if its body can be
read as a response. Otherwise the caller gets an error instead. -/
theorem response_unchanged_iff (json : JsonLibrary) (self : ProxyService) (req : HttpRequest)
    {method : String} (hmethod : json.requestMethod req.body = .ok method)
    (hproxied : method.startsWith engineMethod = false) {parts : ResponseParts} {body : Bytes}
    (hresponse : self.l2Client.call { req with uri := self.l2Client.url } =
      .ok ⟨parts, .ok body⟩) :
    (self.l2Client.forward json req = .ok ⟨parts, body⟩ ↔ json.Reads body) ∧
      ((self.call json req).2 = .ok ⟨parts, body⟩ ↔ json.Reads body) ∧
      (¬ json.Reads body → ∃ e, (self.call json req).2 = .error e) := by
  have hcall : (self.call json req).2 = self.l2Client.forward json req := by
    simp only [call, hmethod, hproxied, Bool.false_eq_true, if_false]
  rw [hcall]
  obtain ⟨hreads, hforward⟩ | ⟨hreads, e, hforward⟩ :=
    self.l2Client.forward_eq json req hresponse
  · exact ⟨iff_of_true hforward hreads, iff_of_true hforward hreads, fun h => absurd hreads h⟩
  · have hne : self.l2Client.forward json req ≠ .ok ⟨parts, body⟩ := by simp [hforward]
    exact ⟨iff_of_false hne hreads, iff_of_false hne hreads, fun _ => ⟨e, hforward⟩⟩

def responseBody : Bytes := utf8 "\x7b\"jsonrpc\":\"2.0\",\"id\":1,\"result\":\"0x1\"\x7d"

def batchBody : Bytes :=
  utf8 "[\x7b\"id\":1,\"result\":\"0x1\"\x7d,\x7b\"id\":2,\"result\":\"0x2\"\x7d]"

def requestBody : Bytes :=
  utf8 "\x7b\"jsonrpc\":\"2.0\",\"id\":1,\"method\":\"eth_blockNumber\"\x7d"

/-- The JSON library on the texts of the tests. -/
def testJson : JsonLibrary where
  fromSlice bytes :=
    if bytes = responseBody then
      .ok (.object [("jsonrpc", .string "2.0"), ("id", .number "1"), ("result", .string "0x1")])
    else if bytes = batchBody then
      .ok (.array [.object [("id", .number "1"), ("result", .string "0x1")],
        .object [("id", .number "2"), ("result", .string "0x2")]])
    else .error "expected value at line 1 column 1"
  mismatch _ := "missing field `code` at line 1 column 24"
  requestMethod bytes :=
    if bytes = requestBody then .ok "eth_blockNumber"
    else .error "expected value at line 1 column 1"

/-- A proxy whose L2 client has one response. -/
def testProxy (status : UInt16) (body : Bytes) : ProxyService where
  inner _ := .error "not an engine call"
  l2Client :=
    { url := "http://localhost:8551"
      call := fun _ => .ok ⟨⟨status, []⟩, .ok body⟩ }
  builderClient :=
    { url := "http://localhost:8552"
      call := fun _ => .error "connection refused" }

def testRequest : HttpRequest where
  method := "POST"
  uri := "http://localhost:8080"
  headers := []
  body := requestBody

theorem forwards_response :
    ((testProxy 200 responseBody).call testJson testRequest).2 =
      .ok ⟨⟨200, []⟩, responseBody⟩ := by
  have hmethod : testJson.requestMethod testRequest.body = .ok "eth_blockNumber" := by
    decide +kernel
  have hbody : testJson.fromSlice responseBody = .ok (.object
      [("jsonrpc", .string "2.0"), ("id", .number "1"), ("result", .string "0x1")]) := by
    simp only [testJson, if_true]
  refine (response_unchanged_iff testJson (testProxy 200 responseBody) testRequest hmethod
    (by decide +kernel) rfl).2.1.mpr ?_
  exact ⟨_, hbody, .inl ⟨_, rfl, rfl⟩⟩

/-- A page that is not JSON and a batch are both replaced by an error. -/
theorem drops_other_responses :
    (testProxy 502 (utf8 "Bad Gateway")).l2Client.forward testJson testRequest =
        .error "expected value at line 1 column 1" ∧
      (testProxy 200 batchBody).l2Client.forward testJson testRequest =
        .error "missing field `code` at line 1 column 24" := by
  decide +kernel

end ProxyService

end RollupBoost
