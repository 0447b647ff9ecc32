import Switchboard.Outcome
import Switchboard.RequestType

/-!
# Observers

Observers are told about messages and answers. Telling an observer either starts a task of its own
or panics at once; what the task does afterwards concerns nobody else.
-/

namespace Switchboard

/-- What an observer is told. -/
structure Notification where
  /-- Whether a message has arrived or has been answered. -/
  stage : Stage
  /-- The path of the application. -/
  application : String
  /-- The type of the message. -/
  type : RequestType
  /-- The message, or the answer. -/
  body : Json

/-- How the task of an observer ends. -/
inductive TaskEnding where
  /-- It finishes and has taken note. -/
  | finishes
  /-- It panics. -/
  | panics
  /-- It runs forever. -/
  | never
deriving DecidableEq

/-- The task that an observer starts. -/
structure ObserverTask where
  /-- How long it runs before it ends. -/
  delay : Nat
  /-- How it ends. -/
  ending : TaskEnding

/-- What happens when an observer is told something. -/
inductive Reaction where
  /-- It panics in the call that should start its task. -/
  | panics (panic : Panic)
  /-- It starts a task. -/
  | starts (task : ObserverTask)

/-- Telling it goes wrong at once. -/
def Reaction.isPanic : Reaction → Bool
  | panics _ => true
  | starts _ => false

/-- Somebody who is told. -/
structure Observer where
  /-- A name for diagnostics. -/
  label : String
  /-- What happens when it is told something. -/
  react : Notification → Reaction

/-- The observers of one stage, in the order of their registration. -/
structure Audience where
  /-- Those told about messages of every type. -/
  untyped : List Observer := []
  /-- Those told about messages of one type. -/
  typed : List (RequestType × Observer) := []

/-- Those who are told about messages of type `t`, in order. -/
def Audience.of (a : Audience) (t : RequestType) : List Observer :=
  a.untyped ++ (a.typed.filter fun o => o.1 = t).map (·.2)

/-- The observers of both stages. -/
structure Observers where
  /-- Those told about messages. -/
  requests : Audience := {}
  /-- Those told about answers. -/
  responses : Audience := {}

namespace Observers

/-- The observers of a stage. -/
def ofStage (os : Observers) : Stage → Audience
  | .request => os.requests
  | .response => os.responses

/-- Those who are told about messages of type `t` at a stage, in order. -/
def interested (os : Observers) (stage : Stage) (t : RequestType) : List Observer :=
  (os.ofStage stage).of t

/-- One more observer at a stage, of one type or of all. -/
def register (os : Observers) (stage : Stage) (type : Option RequestType) (o : Observer) :
    Observers :=
  let add (a : Audience) : Audience :=
    match type with
    | none => { a with untyped := a.untyped ++ [o] }
    | some t => { a with typed := a.typed ++ [(t, o)] }
  match stage with
  | .request => { os with requests := add os.requests }
  | .response => { os with responses := add os.responses }

end Observers

end Switchboard
