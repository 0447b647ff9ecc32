import Switchboard.Config.File
import Switchboard.Text.Utf8

/-!
# Loading the configuration

The file is read first, then the environment overrides what it sets, and last the paths of the
applications are checked. A numeral or address in the environment that cannot be read changes
nothing.
-/

namespace Switchboard

/-- What the attempt to read a file gave. -/
inductive FileContent where
  /-- There is no such file. -/
  | missing
  /-- The file exists and its bytes cannot be had. -/
  | unreadable (reason : String)
  /-- The bytes of the file. -/
  | bytes (content : List UInt8)

/-- The variables of the environment. -/
abbrev Environment := String → Option String

/-- Why bytes that are not UTF-8 cannot be read. -/
def notUtf8Reason : String := "stream did not contain valid UTF-8"

/-- The configuration that a file gives. -/
def Config.ofFile : FileContent → Except ConfigError Config
  | .missing => .ok {}
  | .unreadable reason => .error (.fileRead reason)
  | .bytes content =>
    match Text.decodeUtf8 content with
    | .error _ => .error (.fileRead notUtf8Reason)
    | .ok s =>
      match (Toml.ofText? s).bind Config.ofToml? with
      | some config => .ok config
      | none => .error .parse

/-- What a variable says when it is set and can be read by `read?`, else what held before. -/
def Environment.override {α : Type} (env : Environment) (name : String)
    (read? : String → Option α) (before : α) : α :=
  ((env name).bind read?).getD before

/-- The words for yes. Every other word means no. -/
def isTruthy (word : String) : Bool := word = "true" || word = "1"

/-- Fills in the secret of an application that has none. -/
def ApplicationConfig.fillSecret (env : Environment) (a : ApplicationConfig) : ApplicationConfig :=
  if a.secret.isEmpty then { a with secret := env.override "VOXHOOK_SECRET" some a.secret } else a

/-- Lets the environment override a configuration. -/
def Config.override (env : Environment) (c : Config) : Config where
  server :=
    { host := env.override "VOXHOOK_HOST" Address.ofText? c.server.host
      port := env.override "VOXHOOK_PORT" Text.readUInt16? c.server.port
      production := env.override "VOXHOOK_PRODUCTION" (some ∘ isTruthy) c.server.production }
  cache :=
    { purgeIntervalMinutes :=
        env.override "VOXHOOK_PURGE_INTERVAL_MINUTES" Text.readUInt64?
          c.cache.purgeIntervalMinutes
      maxAgeMinutes :=
        env.override "VOXHOOK_MAX_AGE_MINUTES" Text.readUInt64? c.cache.maxAgeMinutes }
  logging :=
    { level := env.override "VOXHOOK_LOG_LEVEL" some c.logging.level
      json := env.override "VOXHOOK_LOG_JSON" (some ∘ isTruthy) c.logging.json }
  applications := c.applications.map (ApplicationConfig.fillSecret env)

/-- Loads the configuration from a file, if one is named, and the environment. -/
def Config.load (file : Option FileContent) (env : Environment) : Except ConfigError Config :=
  match (file.map Config.ofFile).getD (.ok {}) with
  | .error e => .error e
  | .ok config =>
    let config := config.override env
    match validateApplications (config.applications.map (·.serverPath)) with
    | .error e => .error e
    | .ok () => .ok config

end Switchboard
