import Switchboard.Cache.FunctionCache
import Switchboard.Net.Target

/-!
# Requests and responses

The parts of HTTP that the service deals in, and the errors it reports to clients.
-/

namespace Switchboard

/-- A request. -/
structure Request where
  /-- The method. -/
  method : String
  /-- What the request is for. -/
  target : String
  /-- Names and values of the headers, in order. -/
  headers : List (String × List UInt8)
  /-- The body. -/
  body : List UInt8

/-- The path that the request names; none if its target is not well formed. -/
def Request.path? (r : Request) : Option String := Target.path? r.target

/-- The value of the first header with a name; the case of ASCII letters does not matter. -/
def Request.header? (r : Request) (name : String) : Option (List UInt8) :=
  (r.headers.find? fun h => Text.asciiLower h.1 = Text.asciiLower name).map (·.2)

/-- The body of a response. -/
inductive Body where
  /-- No body, and no type of content. -/
  | none
  /-- A text. -/
  | text (s : String)
  /-- A JSON value. -/
  | json (v : Json)
  /-- A text exposition of counters. -/
  | exposition (s : String)

/-- The type of content. -/
def Body.contentType : Body → Option String
  | none => .none
  | text _ => some "text/plain; charset=utf-8"
  | json _ => some "application/json"
  | exposition _ => some "text/plain; version=0.0.4"

/-- A response. -/
structure Response where
  /-- The status code. -/
  status : Nat
  /-- The body. -/
  body : Body
  /-- Where a redirection points. -/
  location : Option String := .none
  /-- Only the head of the response is sent. -/
  headOnly : Bool := false

/-- A response without a body. -/
def Response.empty (status : Nat) : Response := { status, body := .none }

/-- A response with a text. -/
def Response.text (status : Nat) (s : String) : Response := { status, body := .text s }

/-- A response with a JSON value. -/
def Response.json (status : Nat) (v : Json) : Response := { status, body := .json v }

/-- The JSON form of an error text. -/
def errorBody (text : String) : Json := .object [("error", .str text)]

/-! ## Errors reported to clients -/

/-- An error that a client is told. -/
inductive ApiError where
  /-- The client sent something unusable. -/
  | badRequest (message : String)
  /-- The client asked for something that is not there. -/
  | notFound (message : String)
  /-- The service failed. -/
  | internal (message : String)
deriving DecidableEq

namespace ApiError

/-- The status code of an error. -/
def status : ApiError → Nat
  | badRequest _ => 400
  | notFound _ => 404
  | internal _ => 500

/-- What the client is told. -/
def message : ApiError → String
  | badRequest m => m
  | notFound m => m
  | internal m => m

/-- The wording in diagnostics. -/
def display : ApiError → String
  | badRequest m => "invalid input: " ++ m
  | notFound m => "not found: " ++ m
  | internal m => "internal server error: " ++ m

/-- The JSON form of an error. -/
def body (e : ApiError) : Json := errorBody e.message

/-- The response that tells the client. -/
def response (e : ApiError) : Response := .json e.status e.body

/-- The client is at fault. -/
def isClientError (e : ApiError) : Bool := 400 ≤ e.status && e.status < 500

/-- A missing entry is the client's business, other errors of caches are not. -/
def ofCacheError (e : CacheError) : ApiError :=
  match e with
  | .notFound _ _ => notFound e.message
  | _ => internal e.message

end ApiError

end Switchboard
