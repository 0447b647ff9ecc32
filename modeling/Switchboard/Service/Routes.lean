import Switchboard.Service.PathPattern
import Switchboard.Service.State

/-!
# Routes

Which requests the service answers and how. The built-in pages come first; an application is behind
the paths that its own path is a pattern for, and in front of everything the application does stands
the check of its secret.
-/

namespace Switchboard

/-- The version that the service reports. -/
def version : String := "0.1.0"

/-- A body may not be longer. -/
def greatestBody : Nat := 2097152

/-- The header that holds the secret. -/
def secretHeader : String := "x-vapi-secret"

/-! ## The secret -/

/-- A byte that the value of a header may have to be read as text. -/
def isVisible (b : UInt8) : Bool := b = 0x09 || (0x20 ≤ b && b < 0x7F)

/-- The value of a header matches a secret: it is visible ASCII and the same bytes. -/
def matchesSecret (secret : String) (value : List UInt8) : Bool :=
  value.all isVisible && value = Text.encodeUtf8 secret

/-- A request may pass to an application with the given secret. -/
def passesSecret (secret : String) (r : Request) : Bool :=
  secret.isEmpty || (r.header? secretHeader).any (matchesSecret secret)

/-- The response to a request that may not pass. -/
def secretRefusal : Response := .text 403 "Invalid secret"

/-- The response to a body that is too long. -/
def tooLongRefusal : Response :=
  .text 413 "Failed to buffer the request body: length limit exceeded"

/-! ## Routing -/

/-- A page that the service serves by itself. -/
inductive BuiltIn where
  /-- A sign of life. -/
  | ping
  /-- What the service is. -/
  | health
  /-- What has been counted. -/
  | metrics
  /-- What the caches hold. -/
  | caches
  /-- Emptying the caches. -/
  | clearCaches
deriving DecidableEq

/-- The path of a page. -/
def BuiltIn.path : BuiltIn → String
  | ping => "/ping"
  | health => "/health"
  | metrics => "/metrics"
  | caches => "/caches"
  | clearCaches => "/clearCaches"

/-- The pages that are served; the diagnostic ones are hidden in production. -/
def BuiltIn.served (production : Bool) : List BuiltIn :=
  if production then [ping, health] else [ping, health, metrics, caches, clearCaches]

/-- What a path leads to. -/
inductive Route where
  /-- A page. -/
  | builtIn (page : BuiltIn)
  /-- An application. -/
  | webhook (m : Mount)

/-- The applications with the patterns that their paths are. -/
def State.patterns (s : State) : List (PathPattern × Mount) :=
  s.mounts.filterMap fun m => (PathPattern.ofText m.path).toOption.map fun p => (p, m)

/-- What a path leads to: a page that is served, or else an application. -/
def State.route? (s : State) (path : String) : Option Route :=
  match (BuiltIn.served s.settings.production).find? fun page => page.path = path with
  | some page => some (.builtIn page)
  | none => (PathPattern.find? s.patterns path).map .webhook

/-- An application cannot be served. -/
structure RouteError where
  /-- Its path. -/
  path : String
  /-- Why. -/
  fault : PatternFault
deriving DecidableEq

/-- The wording of the error. -/
def RouteError.message (e : RouteError) : String :=
  match e.fault with
  | .colon | .star => e.fault.message
  | _ => "Invalid route \"" ++ e.path ++ "\": " ++ e.fault.message

/-- Paths can be served side by side, after others that can: each is a pattern, and no two clash. -/
def checkPaths (before : List (String × PathPattern)) : List String → Except RouteError Unit
  | [] => .ok ()
  | path :: rest =>
    match PathPattern.ofText path with
    | .error e => .error ⟨path, e⟩
    | .ok p =>
      match before.find? fun b => b.2.clashes p with
      | some b => .error ⟨path, .clash b.1⟩
      | none => checkPaths (before ++ [(path, p)]) rest

/-- All applications can be served. -/
def State.checkRoutes (s : State) : Except RouteError Unit :=
  checkPaths [] (s.mounts.map Mount.path)

/-! ## Responses -/

/-- What the service is. -/
def State.healthBody (s : State) : Json :=
  .object [("status", .str "ok"), ("version", .str version),
    ("production", .bool s.settings.production),
    ("applications", .arr (s.mounts.map fun m => .str m.path))]

/-- What the caches hold. `clock` writes the time of the last purge. -/
def State.cachesBody (clock : Nat → String) (s : State) : Json :=
  .object [("applications", .arr (s.mounts.map fun m =>
    .object [("serverPath", .str m.path),
      ("toolCallCache", (m.caches.tools.snapshot s.now).toJson clock),
      ("functionCache", (m.caches.functions.snapshot s.now).toJson clock)]))]

/-- The response with a page and the service afterwards. -/
def State.serveBuiltIn (clock : Nat → String) (s : State) : BuiltIn → Response × State
  | .ping => (.text 200 "pong", s)
  | .health => (.json 200 s.healthBody, s)
  | .metrics => ({ status := 200, body := .exposition s.metrics.render }, s)
  | .caches => (.json 200 (s.cachesBody clock), s)
  | .clearCaches =>
    ({ status := 303, body := .none, location := some BuiltIn.caches.path }, s.clearCaches)

/-- Hands the body of a request to an application. -/
def State.serveWebhook (s : State) (m : Mount) (body : List UInt8) :
    Except Panic Response × State :=
  let h := handle s.settings.production s.now m.application m.caches s.metrics body
  let s := { s.setCaches m.path h.caches with
    metrics := h.metrics
    handlerCalls := s.handlerCalls ++ h.handlerCalls }
  (replyTo s.settings.production h.response, s.send h.events)

/-- Serves a request: the response, or the panic that it ended in, and the service afterwards. -/
def State.serve (clock : Nat → String) (s : State) (r : Request) :
    Except Panic Response × State :=
  match r.path?.map s.route? with
  | none => (.ok (.empty 400), s)
  | some none => (.ok (.empty 404), s)
  | some (some (.webhook m)) =>
    if !passesSecret m.application.config.secret r then (.ok secretRefusal, s)
    else if r.method != "POST" then (.ok (.empty 405), s)
    else if greatestBody < r.body.length then (.ok tooLongRefusal, s)
    else s.serveWebhook m r.body
  | some (some (.builtIn page)) =>
    if r.method = "GET" || r.method = "HEAD" then
      let (response, s) := s.serveBuiltIn clock page
      (.ok { response with headOnly := r.method = "HEAD" }, s)
    else (.ok (.empty 405), s)

/-! ## The check of the secret by itself -/

/-- The response to a post when no application stands behind the path. -/
def serveUnattached (path : String) (r : Request) : Response :=
  match r.path? with
  | none => .empty 400
  | some p => if p = path then .empty 500 else .empty 404

end Switchboard
