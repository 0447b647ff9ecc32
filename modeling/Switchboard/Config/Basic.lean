import Switchboard.Net.Address

/-!
# Configuration

What can be configured, with the values that hold when nothing is said, and the rule that the paths
of applications have to keep.

When nothing is said of a whole section it is `{}`. When a section is there and leaves out a field,
that field has a value of its own: one of those named here, or for a switch or a secret the value
that its type has. `Config.ofToml?_of_silent` proves that both come to the same.
-/

namespace Switchboard

/-! ## Fields that are left out -/

/-- The address to listen on if none is given. -/
def ServerConfig.hostIfAbsent : Address := .localhost

/-- The port to listen on if none is given. -/
def ServerConfig.portIfAbsent : UInt16 := 8080

/-- The minutes between two sweeps if none are given. -/
def CacheConfig.purgeIntervalIfAbsent : UInt64 := 30

/-- The minutes after which a sweep takes an entry out if none are given. -/
def CacheConfig.maxAgeIfAbsent : UInt64 := 60

/-- The filter of log lines if none is given. -/
def LoggingConfig.levelIfAbsent : String := "info"

/-- The path of an application if none is given. -/
def ApplicationConfig.serverPathIfAbsent : String := "/vapi"

/-- Whether the report of the end of a call clears caches if nothing is said. -/
def ApplicationConfig.removalIfAbsent : Bool := true

/-! ## Sections -/

/-- Where and how requests are served. -/
structure ServerConfig where
  /-- The address to listen on. -/
  host : Address := ServerConfig.hostIfAbsent
  /-- The port to listen on. -/
  port : UInt16 := ServerConfig.portIfAbsent
  /-- Hides diagnostic routes and the details of errors. -/
  production : Bool := false

/-- When cache entries are purged. -/
structure CacheConfig where
  /-- Minutes between two sweeps; with zero there are none. -/
  purgeIntervalMinutes : UInt64 := CacheConfig.purgeIntervalIfAbsent
  /-- A sweep takes out entries older than this many minutes. -/
  maxAgeMinutes : UInt64 := CacheConfig.maxAgeIfAbsent

/-- What is logged and how. -/
structure LoggingConfig where
  /-- The filter of log lines. -/
  level : String := LoggingConfig.levelIfAbsent
  /-- Log lines are written as JSON. -/
  json : Bool := false

/-- One webhook endpoint. -/
structure ApplicationConfig where
  /-- The path that the platform posts to. -/
  serverPath : String := ApplicationConfig.serverPathIfAbsent
  /-- What the secret header has to say; an empty secret asks for nothing. -/
  secret : String := ""
  /-- The report of the end of a call takes the call's entries out of the caches. -/
  removeCacheOnEndOfCallReport : Bool := true
deriving DecidableEq

/-- The endpoints if there is no list of them: one of which nothing is said. -/
def Config.applicationsIfAbsent : List ApplicationConfig := [{}]

/-- The whole configuration. -/
structure Config where
  /-- Where and how requests are served. -/
  server : ServerConfig := {}
  /-- When cache entries are purged. -/
  cache : CacheConfig := {}
  /-- What is logged. -/
  logging : LoggingConfig := {}
  /-- The endpoints. -/
  applications : List ApplicationConfig := Config.applicationsIfAbsent

/-! ## Durations -/

/-- The greatest number of seconds that a duration can have. -/
def greatestSeconds : Nat := 18446744073709551615

/-- Minutes in seconds, no more than a duration can have. -/
def secondsOfMinutes (minutes : UInt64) : Nat := min (60 * minutes.toNat) greatestSeconds

/-- The seconds between two sweeps. -/
def CacheConfig.purgeIntervalSeconds (c : CacheConfig) : Nat :=
  secondsOfMinutes c.purgeIntervalMinutes

/-- The age in seconds beyond which a sweep takes an entry out. -/
def CacheConfig.maxAgeSeconds (c : CacheConfig) : Nat := secondsOfMinutes c.maxAgeMinutes

/-! ## Paths of applications -/

/-- The paths that are served anyway. -/
def reservedPaths : List String := ["/ping", "/health", "/metrics", "/caches", "/clearCaches"]

/-- What is wrong with the path of an application. -/
inductive PathFault where
  /-- It does not start with a slash, or there is nothing behind the slash. -/
  | malformed
  /-- It is served anyway. -/
  | reserved
  /-- An earlier application has it. -/
  | repeated
deriving DecidableEq

/-- The wording of what is wrong with a path. -/
def PathFault.reason : PathFault → String
  | malformed => "server path must start with '/' and name a route"
  | reserved => "server path collides with a built-in route"
  | repeated => "server path is declared more than once"

/-- The path starts with a slash and goes on. -/
def namesRoute (path : String) : Bool :=
  match path.toList with
  | '/' :: _ :: _ => true
  | _ => false

/-- What is wrong with a path behind the paths `earlier`. -/
def pathFault? (earlier : List String) (path : String) : Option PathFault :=
  if !namesRoute path then some .malformed
  else if reservedPaths.contains path then some .reserved
  else if earlier.contains path then some .repeated
  else none

/-- The first path with something wrong, behind the paths `earlier`. -/
def firstPathFault? (earlier : List String) : List String → Option (String × PathFault)
  | [] => none
  | path :: rest =>
    match pathFault? earlier path with
    | some fault => some (path, fault)
    | none => firstPathFault? (path :: earlier) rest

/-! ## Errors -/

/-- Why a configuration cannot be had. -/
inductive ConfigError where
  /-- The file exists and cannot be read. -/
  | fileRead (reason : String)
  /-- The file is not a configuration. -/
  | parse
  /-- The path of an application is unusable. -/
  | invalidApplication (path : String) (fault : PathFault)
deriving DecidableEq

/-- The wording of a configuration error. -/
def ConfigError.message : ConfigError → String
  | fileRead reason => "failed to read config file: " ++ reason
  | parse => "failed to parse config file"
  | invalidApplication path fault => "invalid application `" ++ path ++ "`: " ++ fault.reason

/-- Refuses applications of which one has an unusable path. -/
def validateApplications (paths : List String) : Except ConfigError Unit :=
  match firstPathFault? [] paths with
  | some (path, fault) => .error (.invalidApplication path fault)
  | none => .ok ()

end Switchboard
