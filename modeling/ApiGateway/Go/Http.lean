import ApiGateway.Go.Map
import ApiGateway.Go.Strings

/-!
`net/http`'s header map and the status codes the gateway answers with.

`Header` is `http.Header`: a `map[string][]string` whose `Get`, `Set`, `Add`
and `Del` first canonicalize the key (`textproto.CanonicalMIMEHeaderKey`). A
key holding a character outside the RFC 7230 token set is left as it is.
Ranging over the map and indexing it directly do not canonicalize.
-/

namespace ApiGateway

/-- `validHeaderFieldByte`: a token character of RFC 7230. -/
def validHeaderFieldByte (c : Char) : Bool :=
  c.isAlphanum || "!#$%&\x27*+-.^_\x60|~".data.contains c

/-- `textproto.CanonicalMIMEHeaderKey`: upper case the first letter and every
letter after a `-`, lower case the rest; a key with a non-token character is
returned unchanged. -/
def canonicalMIMEHeaderKey (s : String) : String :=
  if s.data.all validHeaderFieldByte then ⟨canonicalize true s.data⟩ else s
where
  /-- The loop of `canonicalMIMEHeaderKey`; `upper` holds when the previous
  character was a `-` (or there was none). -/
  canonicalize (upper : Bool) : List Char → List Char
    | [] => []
    | c :: cs =>
      let c := if upper then c.toUpper else c.toLower
      c :: canonicalize (c == '-') cs

/-- `http.Header`. -/
abbrev Header := GoMap String (List String)

namespace Header

/-- `h.Get(key)`: the first value under the canonical key, or `""`. -/
def get (h : Header) (key : String) : String :=
  ((h.get? (canonicalMIMEHeaderKey key)).bind List.head?).getD ""

/-- `h.Set(key, value)`. -/
def set (h : Header) (key value : String) : Header :=
  h.insert (canonicalMIMEHeaderKey key) [value]

/-- `h.Add(key, value)`. -/
def add (h : Header) (key value : String) : Header :=
  let k := canonicalMIMEHeaderKey key
  h.insert k ((h.get? k).getD [] ++ [value])

/-- `h.Del(key)`. -/
def del (h : Header) (key : String) : Header :=
  h.erase (canonicalMIMEHeaderKey key)

@[simp] theorem get_set (h : Header) (key value : String) : (h.set key value).get key = value := by
  simp [get, set]

@[simp] theorem canonicalMIMEHeaderKey_contentType :
    canonicalMIMEHeaderKey "Content-Type" = "Content-Type" := by decide

end Header

/-- The host `net.SplitHostPort` returns for `hostport`, or `""` where it
fails: the part before the last `:`, without the brackets of `[host]:port`. -/
def splitHostPort (hostport : String) : String :=
  let s := hostport.data
  match s.reverse.indexOf? ':' with
  | none => ""
  | some j =>
    let i := s.length - 1 - j
    if s.head? = some '[' then
      match s.indexOf? ']' with
      | none => ""
      | some e =>
        if e + 1 = i ∧ '[' ∉ s.drop 1 ∧ ']' ∉ s.drop (e + 1) then ⟨(s.take e).drop 1⟩ else ""
    else if ':' ∉ s.take i ∧ '[' ∉ s ∧ ']' ∉ s then ⟨s.take i⟩
    else ""

/-! ### Status codes -/

/-- `http.StatusBadRequest`. -/
def statusBadRequest : Nat := 400
/-- `http.StatusUnauthorized`. -/
def statusUnauthorized : Nat := 401
/-- `http.StatusForbidden`. -/
def statusForbidden : Nat := 403
/-- `http.StatusNotFound`. -/
def statusNotFound : Nat := 404
/-- `http.StatusMethodNotAllowed`. -/
def statusMethodNotAllowed : Nat := 405
/-- `http.StatusTooManyRequests`. -/
def statusTooManyRequests : Nat := 429
/-- `http.StatusInternalServerError`. -/
def statusInternalServerError : Nat := 500

end ApiGateway
