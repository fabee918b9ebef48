import ApiGateway.Domain

/-!
`internal/handlers/gateway`: the public HTTP handler.

`processRequestOf` is the handler up to its call of `Process`: it splits the
path into at most three pieces, reads the body and builds the
`ProcessRequest`, or writes a JSON error; `handler` then copies the
processor's response to the `ResponseWriter`. Two slips sit in the first part:

* the path check `len(splitedPath) <= 2` rejects `/<service>/<method>`, so only
  paths with a remainder reach `Process` (`processRequestOf_two_segments`,
  `processRequestOf_three_segments`);
* `readBody` returns early when the body is non-nil, which a server request's
  body always is, so `Process` receives an empty body whatever the client sent,
  and nothing is ever rejected as too large (`readBody_of_some`).

and two in the second:

* `Header().Add` canonicalizes, so the copy merges every spelling of a key
  (`copyHeaders_get?`). `SetDefaults` reads only the canonical one, so a
  backend's `content-type` goes out beside an added `application/json`
  (`handler_adds_json_beside_backend_content_type`);
* the status reaches `WriteHeader` unchecked, and a backend status outside
  `[100, 999]`, 0 included, panics (`handler_panics_on_backend_status`).

Exactly the paths `<service>/<method>/<rest>` reach `Process`, once a leading
`/` is trimmed, and the pieces it gets rejoin to the path
(`processRequestOf_eq_ok_iff`).
-/

namespace ApiGateway

namespace Gateway

/-- The part of an inbound `*http.Request` the handler reads; `body` is
`none` where `r.Body` is nil. -/
structure Request where
  method : String
  path : String
  rawQuery : String
  body : Option Bytes
  header : Header
  remoteAddr : String

/-- What the handler writes: the code passed to `WriteHeader`, the header map
and the body. -/
structure Written where
  status : Int
  header : Header
  body : Bytes
deriving DecidableEq

/-- `readBody`. A non-nil body returns `(nil, nil)` at once; a nil body goes
on to `io.ReadAll` through `MaxBytesReader`, which reads the nil body. -/
def readBody (body : Option Bytes) : Except Panic (Except String Bytes) :=
  match body with
  | some _ => .ok (.ok [])
  | none => .error .nilPointerDereference

/-- `writeJSONError`. -/
def writeJSONError (statusCode : Nat) (message : String) : Written :=
  ⟨statusCode, (∅ : Header).set "Content-Type" "application/json; charset=utf-8",
    marshalJSONError message⟩

/-- `httpMethodToDomain`. -/
def httpMethodToDomain (method : String) : HTTPMethod :=
  if method = "GET" then .get
  else if method = "PUT" then .put
  else if method = "POST" then .post
  else if method = "DELETE" then .delete
  else if method = "PATCH" then .patch
  else .unspecified

/-- The handler up to its call of `Process`: the request it passes, or the
error it writes. -/
def processRequestOf (r : Request) : Except Panic (Except Written ProcessRequest) :=
  let splitedPath := splitN (trimPrefix r.path "/") '/' 3
  if splitedPath.length ≤ 2 then .ok (.error (writeJSONError statusBadRequest "Invalid path"))
  else
    let serviceName := splitedPath.getD 0 ""
    let method := splitedPath.getD 1 ""
    let path := if splitedPath.length = 3 then splitedPath.getD 2 "" else ""
    match readBody r.body with
    | .error p => .error p
    | .ok (.error err) =>
      .ok (.error (writeJSONError statusBadRequest ("Failed to read body: " ++ err)))
    | .ok (.ok body) =>
      .ok (.ok ⟨serviceName, httpMethodToDomain r.method, method, path, r.rawQuery, body,
        r.header, r.remoteAddr⟩)

/-- `ResponseWriter.WriteHeader`'s check: a code outside `[100, 999]`
panics. -/
def checkWriteHeaderCode (code : Int) : Except Panic Int :=
  if code < 100 ∨ code > 999 then .error (.invalidWriteHeaderCode code) else .ok code

/-- The loop that copies the response's headers with `Header().Add`. -/
def copyHeaders (headers : Header) : Header :=
  headers.entries.foldl (fun h e => e.2.foldl (fun h value => h.add e.1 value) h) ∅

/-- `gateway.Handler`, given the processor's `Process`. -/
def handler (process : ProcessRequest → ProviderProcessResponse) (r : Request) :
    Except Panic Written :=
  match processRequestOf r with
  | .error p => .error p
  | .ok (.error written) => .ok written
  | .ok (.ok req) =>
    let resp := process req
    match checkWriteHeaderCode resp.statusCode.toNat with
    | .error p => .error p
    | .ok code => .ok ⟨code, copyHeaders resp.headers, resp.body⟩

/-! ### What reaches `Process` -/

/-- A non-nil body is read as empty, whatever it holds. -/
theorem readBody_of_some (b : Bytes) : readBody (some b) = .ok (.ok []) := rfl

section Path

variable {service method : String} (hs : '/' ∉ service.data) (hm : '/' ∉ method.data)
include hs hm

/-- **`/<service>/<method>` is an invalid path.** -/
theorem processRequestOf_two_segments (r : Request) (hp : r.path = "/" ++ service ++ "/" ++ method) :
    processRequestOf r = .ok (.error (writeJSONError statusBadRequest "Invalid path")) := by
  have hsplit : splitN (trimPrefix r.path "/") '/' 3 = [service, method] := by
    simp only [hp, trimPrefix, splitN, String.data_append, List.append_assoc]
    simp only [List.isPrefixOf, List.cons_append, List.nil_append, List.length_singleton,
      List.drop_one, List.tail_cons, if_true, Bool.and_true, beq_self_eq_true]
    rw [splitN_of_sep hs, splitN_of_not_mem hm]; rfl
  simp [processRequestOf, hsplit]

/-- **`/<service>/<method>/<rest>` reaches `Process`** with the service, the
method and the rest as its path, and an empty body if the body is not nil. -/
theorem processRequestOf_three_segments (r : Request) {rest : String} {b : Bytes}
    (hp : r.path = "/" ++ service ++ "/" ++ method ++ "/" ++ rest) (hb : r.body = some b) :
    processRequestOf r = .ok (.ok ⟨service, httpMethodToDomain r.method, method, rest, r.rawQuery,
      [], r.header, r.remoteAddr⟩) := by
  have hsplit : splitN (trimPrefix r.path "/") '/' 3 = [service, method, rest] := by
    simp only [hp, trimPrefix, splitN, String.data_append, List.append_assoc]
    simp only [List.isPrefixOf, List.cons_append, List.nil_append, List.length_singleton,
      List.drop_one, List.tail_cons, if_true, Bool.and_true, beq_self_eq_true]
    rw [splitN_of_sep hs, splitN_of_sep hm]; rfl
  simp [processRequestOf, hsplit, hb, readBody]

end Path

/-- A path of three `/`-separated pieces, the first two free of `/`, splits
into those pieces. -/
theorem splitN_of_pieces {path service method rest : String} (hs : '/' ∉ service.data)
    (hm : '/' ∉ method.data) (hp : path = service ++ "/" ++ method ++ "/" ++ rest) :
    splitN path '/' 3 = [service, method, rest] := by
  simp only [hp, splitN, String.data_append, List.append_assoc]
  rw [List.singleton_append, List.singleton_append, splitN_of_sep hs, splitN_of_sep hm]
  rfl

/-- A split into more than two pieces is three pieces that rejoin to the
path. -/
theorem splitN_eq_three {path : String} (h : 2 < (splitN path '/' 3).length) :
    ∃ service method rest, splitN path '/' 3 = [service, method, rest] ∧ '/' ∉ service.data ∧
      '/' ∉ method.data ∧ path = service ++ "/" ++ method ++ "/" ++ rest := by
  have hle := @splitN_go_length_le '/' path.data 3
  rw [splitN, List.length_map] at h
  obtain ⟨a, b, c, habc⟩ := List.length_eq_three.mp (by omega : (splitN.go '/' path.data 3).length = 3)
  obtain ⟨ha, hb, hpath⟩ := splitN_go_three habc
  refine ⟨⟨a⟩, ⟨b⟩, ⟨c⟩, by rw [splitN, habc]; rfl, ha, hb, String.ext ?_⟩
  simp [hpath]

/-- **The path split round-trips**: a request reaches `Process` exactly when
its body is not nil and its path, less one leading `/`, is
`<service>/<method>/<rest>` with a service and a method free of `/`; `Process`
then gets those three pieces, the request's method, query, headers and
address, and an empty body. -/
theorem processRequestOf_eq_ok_iff (r : Request) (req : ProcessRequest) :
    processRequestOf r = .ok (.ok req) ↔
      ∃ service method rest b, r.body = some b ∧ '/' ∉ service.data ∧ '/' ∉ method.data ∧
        trimPrefix r.path "/" = service ++ "/" ++ method ++ "/" ++ rest ∧
        req = ⟨service, httpMethodToDomain r.method, method, rest, r.rawQuery, [], r.header,
          r.remoteAddr⟩ := by
  constructor
  · intro h
    unfold processRequestOf at h
    dsimp only at h
    split at h
    · cases h
    next hlen =>
    obtain ⟨service, method, rest, hsplit, hs, hm, hpath⟩ := @splitN_eq_three (trimPrefix r.path "/") (by omega)
    rw [hsplit] at h
    cases hb : r.body with
    | none => simp [hb, readBody] at h
    | some b =>
      simp only [hb, readBody, Except.ok.injEq] at h
      exact ⟨service, method, rest, b, rfl, hs, hm, hpath, by rw [← h]; rfl⟩
  · rintro ⟨service, method, rest, b, hb, hs, hm, hpath, rfl⟩
    simp [processRequestOf, splitN_of_pieces hs hm hpath, hb, readBody]

/-- **The spec's first scenario is an invalid path**: whatever the processor
does, `GET /greet/hello?name=ada` is answered 400 `Invalid path`. -/
theorem greet_hello_invalid_path (process : ProcessRequest → ProviderProcessResponse) :
    handler process ⟨"GET", "/greet/hello", "name=ada", some [], ∅, "10.0.0.1:5555"⟩ =
      .ok (writeJSONError statusBadRequest "Invalid path") := by
  simp only [handler, @processRequestOf_two_segments "greet" "hello" (by decide) (by decide)
    ⟨"GET", "/greet/hello", "name=ada", some [], ∅, "10.0.0.1:5555"⟩ (by decide)]

/-- **Every body reaches `Process` empty**: a `POST /greet/hello/echo` passes
`Process` an empty body, whatever the client sent, and is not rejected when
the body is over the 1 MiB of `maxBodySize`. -/
theorem request_body_dropped (b : Bytes) :
    processRequestOf ⟨"POST", "/greet/hello/echo", "", some b, ∅, "10.0.0.1:5555"⟩ =
      .ok (.ok ⟨"greet", .post, "hello", "echo", "", [], ∅, "10.0.0.1:5555"⟩) :=
  @processRequestOf_three_segments "greet" "hello" (by decide) (by decide)
    ⟨"POST", "/greet/hello/echo", "", some b, ∅, "10.0.0.1:5555"⟩ "echo" b
    (show "/greet/hello/echo" = "/" ++ "greet" ++ "/" ++ "hello" ++ "/" ++ "echo" by decide) rfl

/-! ### What the handler writes -/

/-- What a key that held `o` holds after `Header().Add` of each of `values`:
`o` when there are none, else `o`'s values followed by them. -/
def appendValues (o : Option (List String)) (values : List String) : Option (List String) :=
  if values = [] then o else some (o.getD [] ++ values)

theorem appendValues_append (o : Option (List String)) (a b : List String) :
    appendValues (appendValues o a) b = appendValues o (a ++ b) := by
  by_cases ha : a = [] <;> by_cases hb : b = [] <;> simp [appendValues, ha, hb]

/-- The inner loop: adding `name`'s values appends them under its canonical
key and leaves every other key alone. -/
theorem get?_foldl_add (h : Header) (name key : String) (values : List String) :
    (values.foldl (fun h value => h.add name value) h).get? key =
      if canonicalMIMEHeaderKey name = key then appendValues (h.get? key) values else h.get? key := by
  induction values generalizing h with
  | nil => split_ifs <;> simp [appendValues]
  | cons v values ih =>
    rw [List.foldl_cons, ih]
    split_ifs with hk
    · subst hk
      by_cases hv : values = [] <;> simp [Header.add, appendValues, hv]
    · simp [Header.add, Ne.symm hk]

/-- **The header copy merges spellings**: under each key the handler writes the
values of every response entry whose key canonicalizes to it, in iteration
order, and nothing else. -/
theorem copyHeaders_get? (headers : Header) (key : String) :
    (copyHeaders headers).get? key =
      appendValues none ((headers.entries.filter fun e => canonicalMIMEHeaderKey e.1 = key).flatMap
        Prod.snd) := by
  suffices ∀ (l : List (String × List String)) (h : Header),
      (l.foldl (fun h e => e.2.foldl (fun h value => h.add e.1 value) h) h).get? key =
        appendValues (h.get? key) ((l.filter fun e => canonicalMIMEHeaderKey e.1 = key).flatMap
          Prod.snd) from this _ ∅
  intro l
  induction l with
  | nil => simp [appendValues]
  | cons e l ih =>
    intro h
    rw [List.foldl_cons, ih, get?_foldl_add]
    by_cases hk : canonicalMIMEHeaderKey e.1 = key
    · simp [hk, List.filter_cons, appendValues_append]
    · simp [hk, List.filter_cons]

/-- On a request that reaches `Process`, the handler writes the response, or
`WriteHeader` panics on its status. -/
theorem handler_of_processRequestOf {process : ProcessRequest → ProviderProcessResponse} {r : Request}
    {req : ProcessRequest} (h : processRequestOf r = .ok (.ok req)) :
    handler process r =
      match checkWriteHeaderCode (process req).statusCode.toNat with
      | .error p => .error p
      | .ok code => .ok ⟨code, copyHeaders (process req).headers, (process req).body⟩ := by
  unfold handler; rw [h]

/-- **A backend status outside `[100, 999]` aborts the request**: the
processor returns the backend's status as it is, and `WriteHeader` panics on
it, so the client gets no response. -/
theorem handler_panics_on_backend_status {process : ProcessRequest → ProviderProcessResponse}
    {r : Request} {req : ProcessRequest} {resp : ProviderProcessResponse}
    (hreq : processRequestOf r = .ok (.ok req)) (hp : process req = resp.setDefaults)
    (hstatus : resp.statusCode.toNat < 100 ∨ 999 < resp.statusCode.toNat) :
    handler process r = .error (.invalidWriteHeaderCode resp.statusCode.toNat) := by
  rw [handler_of_processRequestOf hreq, hp, ProviderProcessResponse.setDefaults_statusCode,
    checkWriteHeaderCode, if_pos (by omega)]

/-- `GET /greet/hello/world`. -/
def worldRequest : Request := ⟨"GET", "/greet/hello/world", "", some [], ∅, "10.0.0.1:5555"⟩

/-- A backend response that leaves its status at 0: the SDK sends
`uint32(0)`. -/
def zeroStatusResponse : ProviderProcessResponse := ⟨[], toUInt32 0, ∅⟩

/-- The handler panics on a backend's status 0. -/
theorem zero_status_aborts_request :
    handler (fun _ => zeroStatusResponse.setDefaults) worldRequest =
      .error (.invalidWriteHeaderCode 0) :=
  @handler_panics_on_backend_status _ worldRequest
    ⟨"greet", .get, "hello", "world", "", [], ∅, "10.0.0.1:5555"⟩ zeroStatusResponse rfl rfl (by decide)

/-- **A backend's `content-type` gets `application/json` beside it**:
`SetDefaults` looks `Content-Type` up under its canonical spelling only, so on
a non-empty body it adds `application/json` next to a backend's `content-type`.
The header copy then merges both spellings into one `Content-Type`. For every
response without the canonical key, the written `Content-Type` holds
`application/json` and every value the backend sent under another spelling,
in some order. -/
theorem handler_adds_json_beside_backend_content_type
    {process : ProcessRequest → ProviderProcessResponse} {r : Request} {req : ProcessRequest}
    {resp : ProviderProcessResponse} {w : Written}
    (hreq : processRequestOf r = .ok (.ok req)) (hp : process req = resp.setDefaults)
    (hw : handler process r = .ok w) (hbody : resp.body ≠ [])
    (hcanon : resp.headers.get? "Content-Type" = none) :
    ∃ values, w.header.get? "Content-Type" = some values ∧
      values.Perm ("application/json" ::
        (resp.headers.entries.filter fun e => canonicalMIMEHeaderKey e.1 = "Content-Type").flatMap
          Prod.snd) := by
  have hwritten : w.header = copyHeaders resp.setDefaults.headers := by
    rw [handler_of_processRequestOf hreq, hp] at hw
    split at hw
    · cases hw
    · cases hw; rfl
  have hdefault : resp.setDefaults.headers = resp.headers.insert "Content-Type" ["application/json"] := by
    rw [ProviderProcessResponse.setDefaults_headers, if_pos ⟨mt List.length_eq_zero.mp hbody,
      by simp [Header.get, hcanon]⟩]
    simp [Header.set]
  refine ⟨_, ?_, List.Perm.refl _⟩
  rw [hwritten, hdefault, copyHeaders_get?]
  simp [GoMap.insert, GoMap.erase_entries_of_get?_none hcanon, appendValues, List.filter_cons]

/-- A backend answer `{}` whose content type arrives spelled in lower case, as
a backend written in another language sends it. -/
def lowerCaseContentType : ProviderProcessResponse :=
  ⟨[123, 125], 200, GoMap.ofList [("content-type", ["text/plain"])]⟩

/-- The `text/plain` answer goes out with two content types. -/
theorem lower_case_content_type_gets_json :
    ∃ w values, handler (fun _ => lowerCaseContentType.setDefaults) worldRequest = .ok w ∧
      w.header.get? "Content-Type" = some values ∧ values.Perm ["application/json", "text/plain"] :=
  let ⟨values, hv, hperm⟩ := @handler_adds_json_beside_backend_content_type
    (fun _ => lowerCaseContentType.setDefaults) worldRequest
    ⟨"greet", .get, "hello", "world", "", [], ∅, "10.0.0.1:5555"⟩ lowerCaseContentType _ rfl rfl rfl
    (by decide) (by decide)
  ⟨_, values, rfl, hv, hperm⟩

end Gateway

end ApiGateway
