import Switchboard.RequestType

/-!
# Counters

What the service counts: answered webhooks by path and type, timed webhooks by type, invocations by
kind and outcome, and purged entries. `Metrics.render` writes the text exposition format with
families and label values in increasing order; how long requests took is not kept, only how many
were timed.
-/

namespace Switchboard

/-- Counts by the values of labels. -/
abbrev Counter := Table (List String) Nat

/-- One more with the given label values. -/
def Counter.increment (c : Counter) (labels : List String) : Counter :=
  c.alter labels fun n => n.getD 0 + 1

/-- How many with the given label values. -/
def Counter.count (c : Counter) (labels : List String) : Nat := (c.get? labels).getD 0

/-- Everything that is counted. -/
structure Metrics where
  /-- Answered webhooks by path and type. -/
  requests : Counter := .empty
  /-- Timed webhooks by type. -/
  durations : Counter := .empty
  /-- Invocations by kind and outcome. -/
  invocations : Counter := .empty
  /-- Purged entries. -/
  purged : Nat := 0

namespace Metrics

/-- The label of an invocation's outcome. -/
def outcomeLabel (success : Bool) : String := if success then "success" else "failure"

/-- Counts an answered webhook. -/
def observeRequest (m : Metrics) (path : String) (t : RequestType) : Metrics :=
  { m with
    requests := m.requests.increment [path, t.name]
    durations := m.durations.increment [t.name] }

/-- Counts an invocation. -/
def observeInvocation (m : Metrics) (kind : CacheKind) (success : Bool) : Metrics :=
  { m with invocations := m.invocations.increment [kind.name, outcomeLabel success] }

/-- Counts invocations of one kind. -/
def observeInvocations (m : Metrics) (kind : CacheKind) (successes : List Bool) : Metrics :=
  successes.foldl (fun m success => m.observeInvocation kind success) m

/-- Counts purged entries. -/
def observePurge (m : Metrics) (count : Nat) : Metrics := { m with purged := m.purged + count }

/-! ## Text exposition -/

/-- A family of counters. -/
structure Family where
  /-- The name of the family. -/
  name : String
  /-- What it counts, for a reader. -/
  help : String
  /-- The kind of the family. -/
  type : String
  /-- What the name of a sample has behind the name of the family. -/
  suffix : String
  /-- The names of the labels. -/
  labels : List String
  /-- The samples: label values and count. -/
  samples : List (List String × Nat)

/-- A label value in quotes can hold neither a quote nor a line end nor a lone backslash. -/
def escapeLabel (value : String) : String :=
  String.join <| value.toList.map fun c =>
    if c = '\\' then "\\\\" else if c = '\n' then "\\n" else if c = '"' then "\\\"" else c.toString

/-- The labels of a sample. -/
def labelText (names values : List String) : String :=
  if names.isEmpty then ""
  else
    "\x7b" ++ ",".intercalate ((names.zip values).map fun (n, v) => n ++ "=\"" ++ escapeLabel v ++
      "\"") ++ "\x7d"

/-- The lines of a family; one without samples has none. -/
def Family.lines (f : Family) : List String :=
  if f.samples.isEmpty then []
  else
    ("# HELP " ++ f.name ++ " " ++ f.help) :: ("# TYPE " ++ f.name ++ " " ++ f.type) ::
      f.samples.map fun (values, count) =>
        f.name ++ f.suffix ++ labelText f.labels values ++ " " ++ toString count

/-- The families by increasing name. -/
def families (m : Metrics) : List Family :=
  [⟨"voxhook_cache_purged_total", "Cache entries evicted by the age-based purge",
      "counter", "", [], [([], m.purged)]⟩,
    ⟨"voxhook_request_duration_seconds", "Time spent answering a webhook request",
      "histogram", "_count", ["type"], m.durations.entries⟩,
    ⟨"voxhook_requests_total", "Webhook requests handled", "counter", "", ["path", "type"],
      m.requests.entries⟩,
    ⟨"voxhook_tool_invocations_total", "Tool and function invocations by outcome", "counter", "",
      ["kind", "outcome"], m.invocations.entries⟩]

/-- The lines of the text exposition. -/
def lines (m : Metrics) : List String := m.families.flatMap Family.lines

/-- The text exposition. -/
def render (m : Metrics) : String := String.join (m.lines.map (· ++ "\n"))

end Metrics

end Switchboard
