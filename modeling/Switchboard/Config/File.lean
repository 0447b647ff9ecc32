import Switchboard.Config.Basic
import Switchboard.Toml.Document

/-!
# The configuration file

A TOML document has the shape of a configuration if every section and field it gives is of its type.
A section that it does not give is `{}`, a field that a section does not give has the value for that
field, and what is not known is passed over. A section can also be a list of its fields in order,
and a bare date gives none of them.
-/

namespace Switchboard

/-- The fields that a section gives, by name and by place. -/
abbrev Fields := String → Nat → Option Toml

/-- The fields of a section. -/
def Fields.ofToml? : Toml → Option Fields
  | .table _ members => some fun name _ => Assoc.get? name members
  | .array elements => some fun _ place => elements[place]?
  | .tables latestFirst => some fun _ place => latestFirst.reverse[place]?
  | .datetime _ => some fun _ _ => none
  | _ => none

/-- What `view?` sees in a value, or `absent` where there is no value. -/
def givenOr {α : Type} (view? : Toml → Option α) (absent : α) : Option Toml → Option α
  | none => some absent
  | some v => view? v

namespace Toml

/-- The text, if the value is a text. -/
def text? : Toml → Option String
  | text s => some s
  | _ => none

/-- The truth value, if the value is one. -/
def bool? : Toml → Option Bool
  | bool b => some b
  | _ => none

/-- The number, if the value is a whole number. -/
def int? : Toml → Option Int
  | int n => some n
  | _ => none

/-- The number, if the value is an unsigned number of 16 bits. -/
def uint16? (v : Toml) : Option UInt16 := v.int?.bind Switchboard.uint16?

/-- The number, if the value is an unsigned number of 64 bits. -/
def uint64? (v : Toml) : Option UInt64 := v.int?.bind Switchboard.uint64?

/-- The address, if the value is the text of one. -/
def address? (v : Toml) : Option Address := v.text?.bind Address.ofText?

/-- The elements, if the value is a list. -/
def list? : Toml → Option (List Toml)
  | array elements => some elements
  | tables latestFirst => some latestFirst.reverse
  | _ => none

end Toml

/-- The section on serving. -/
def ServerConfig.ofToml? (v : Toml) : Option ServerConfig := do
  let fields ← Fields.ofToml? v
  let host ← givenOr Toml.address? hostIfAbsent (fields "host" 0)
  let port ← givenOr Toml.uint16? portIfAbsent (fields "port" 1)
  let production ← givenOr Toml.bool? default (fields "production" 2)
  return { host, port, production }

/-- The section on purging. -/
def CacheConfig.ofToml? (v : Toml) : Option CacheConfig := do
  let fields ← Fields.ofToml? v
  let purgeIntervalMinutes ←
    givenOr Toml.uint64? purgeIntervalIfAbsent (fields "purge_interval_minutes" 0)
  let maxAgeMinutes ← givenOr Toml.uint64? maxAgeIfAbsent (fields "max_age_minutes" 1)
  return { purgeIntervalMinutes, maxAgeMinutes }

/-- The section on logging. -/
def LoggingConfig.ofToml? (v : Toml) : Option LoggingConfig := do
  let fields ← Fields.ofToml? v
  let level ← givenOr Toml.text? levelIfAbsent (fields "level" 0)
  let json ← givenOr Toml.bool? default (fields "json" 1)
  return { level, json }

/-- One endpoint. -/
def ApplicationConfig.ofToml? (v : Toml) : Option ApplicationConfig := do
  let fields ← Fields.ofToml? v
  let serverPath ← givenOr Toml.text? serverPathIfAbsent (fields "server_path" 0)
  let secret ← givenOr Toml.text? default (fields "secret" 1)
  let removeCacheOnEndOfCallReport ←
    givenOr Toml.bool? removalIfAbsent (fields "remove_cache_on_end_of_call_report" 2)
  return { serverPath, secret, removeCacheOnEndOfCallReport }

/-- All endpoints. -/
def applicationsOfToml? (v : Toml) : Option (List ApplicationConfig) := do
  (← v.list?).mapM ApplicationConfig.ofToml?

/-- The configuration that a document is. -/
def Config.ofToml? (document : Toml) : Option Config := do
  let server ← givenOr ServerConfig.ofToml? {} (document.get? "server")
  let cache ← givenOr CacheConfig.ofToml? {} (document.get? "cache")
  let logging ← givenOr LoggingConfig.ofToml? {} (document.get? "logging")
  let applications ←
    givenOr applicationsOfToml? applicationsIfAbsent (document.get? "applications")
  return { server, cache, logging, applications }

end Switchboard
