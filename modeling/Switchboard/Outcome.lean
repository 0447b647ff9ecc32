/-!
# How supplied code can end

Handlers, hooks, responders and response producers are supplied from outside. Such code returns,
fails with a `Fault`, or panics. A fault is a chain of errors, outermost first, and turning one of
its errors into text can panic in its turn.
-/

namespace Switchboard

/-- What a panic carries. -/
inductive Panic where
  /-- A message. -/
  | text (message : String)
  /-- Something that is not a message. -/
  | other
deriving DecidableEq, Inhabited

/-- The message shown for a panic. -/
def Panic.message : Panic → String
  | text m => m
  | other => "unknown panic"

/-- The text of an error, or the panic that rendering it ends in. -/
abbrev Rendering := Except Panic String

/-- A chain of errors, outermost first. -/
structure Fault where
  /-- The text of the outermost error. -/
  text : Rendering
  /-- The texts of its causes, the nearest first. -/
  causes : List Rendering

namespace Fault

/-- A single error with the text `s`. -/
def ofText (s : String) : Fault := ⟨.ok s, []⟩

/-- The chain of errors with the given texts. -/
def ofTexts : List String → Fault
  | [] => ofText ""
  | s :: rest => ⟨.ok s, rest.map .ok⟩

/-- What stands between an error and its cause in the text of a chain. -/
def causeMark : String := "\nCaused by: "

/-- Appends the texts of causes; the first panic wins. -/
def appendCauses (acc : String) : List Rendering → Rendering
  | [] => .ok acc
  | .ok s :: rest => appendCauses (acc ++ causeMark ++ s) rest
  | .error p :: _ => .error p

/-- The text of the whole chain, for an error with the text `context` that the fault caused. -/
def chainUnder (context : String) (f : Fault) : Rendering :=
  appendCauses context (f.text :: f.causes)

end Fault

/-- How supplied code ended. -/
inductive Outcome (α : Type) where
  /-- It returned a value. -/
  | returned (value : α)
  /-- It failed. -/
  | failed (fault : Fault)
  /-- It panicked. -/
  | panicked (panic : Panic)

/-- The outcome of code that goes on with `f` after it returns. -/
def Outcome.bind {α β : Type} (o : Outcome α) (f : α → Outcome β) : Outcome β :=
  match o with
  | returned a => f a
  | failed e => failed e
  | panicked p => panicked p

/-- The outcome of code that returns the image of what it would have returned. -/
def Outcome.map {α β : Type} (f : α → β) (o : Outcome α) : Outcome β :=
  o.bind fun a => returned (f a)

/-- Errors with known texts become faults. -/
def Outcome.ofExcept {ε α : Type} (text : ε → String) : Except ε α → Outcome α
  | .ok a => returned a
  | .error e => failed (Fault.ofText (text e))

end Switchboard
