/-!
# Path patterns

The path of an application is a pattern for the paths of requests. A name in braces leaves a segment
open, or what is left of it: `/call/{id}`, `/v-{n}/x`. A name with a star in front leaves everything
open that is left of the path, and stands at the end: `/files/{*rest}`. Doubled braces stand for a
brace. What the names are does not matter.

Of several patterns that accept a path the most exact one decides: where two of them part, one asks
for a certain character and the other leaves something open. Patterns that part otherwise clash, and
may not be served side by side.
-/

namespace Switchboard

/-- A piece of a pattern. -/
inductive PathPiece where
  /-- This character. -/
  | char (c : Char)
  /-- Everything up to the next slash. Something must be left of the path. -/
  | segment
  /-- Everything that is left of the path, which must not be nothing. -/
  | rest
deriving DecidableEq

/-- A pattern for paths. -/
abbrev PathPattern := List PathPiece

/-- What is wrong with a pattern. -/
inductive PatternFault where
  /-- A segment begins with a colon. -/
  | colon
  /-- A segment begins with a star. -/
  | star
  /-- A name is missing or not usable, or a brace has no other half. -/
  | badName
  /-- Something else follows a name in its segment. -/
  | crowded
  /-- Something follows the name with a star. -/
  | restNotLast
  /-- The pattern clashes with another one. -/
  | clash (other : String)
deriving DecidableEq

/-- The wording of a fault. -/
def PatternFault.message : PatternFault → String
  | colon => "Path segments must not start with `:`"
  | star => "Path segments must not start with `*`"
  | badName => "Parameters must be registered with a valid name"
  | crowded => "Only one parameter is allowed per path segment"
  | restNotLast => "Catch-all parameters are only allowed at the end of a route"
  | clash other => "Insertion failed due to conflict with previously registered route: " ++ other

namespace PathPattern

/-! ## Reading -/

/-- What the text of a pattern consists of. -/
inductive Token where
  /-- A brace that opens a name. -/
  | opening
  /-- A brace that closes a name. -/
  | closing
  /-- Any other character, and a doubled brace. -/
  | plain (c : Char)
deriving DecidableEq

/-- Tells braces that enclose names from those that stand for themselves. -/
def tokens : List Char → List Token
  | '{' :: '{' :: rest => .plain '{' :: tokens rest
  | '}' :: '}' :: rest => .plain '}' :: tokens rest
  | '{' :: rest => .opening :: tokens rest
  | '}' :: rest => .closing :: tokens rest
  | c :: rest => .plain c :: tokens rest
  | [] => []

/-- The piece that a name in braces stands for, before the tokens `next`. -/
def named (name : List Char) (next : List Token) : Except PatternFault PathPiece :=
  let segmentEnds := match next with
    | [] => true
    | t :: _ => t = .plain '/'
  if name = [] || name = ['*'] then .error .badName
  else if !segmentEnds then .error .crowded
  else if name.head? != some '*' then .ok .segment
  else if next.isEmpty then .ok .rest
  else .error .restNotLast

/-- The pieces that tokens stand for. `name` is the name that is being read, if one has begun. -/
def pieces : (name : Option (List Char)) → List Token → Except PatternFault PathPattern
  | none, [] => .ok []
  | none, .plain c :: next => (pieces none next).map (.char c :: ·)
  | none, .opening :: next => pieces (some []) next
  | none, .closing :: _ => .error .badName
  | some _, [] => .error .badName
  | some name, .closing :: next =>
    match named name next with
    | .ok p => (pieces none next).map (p :: ·)
    | .error e => .error e
  | some name, .opening :: next => pieces (some (name ++ ['{'])) next
  | some name, .plain c :: next =>
    if (c = '/' || c = '*') && !name.isEmpty then .error .badName
    else pieces (some (name ++ [c])) next

/-- A segment begins with the character `mark`. -/
def hasSegmentWith (mark : Char) : List Char → Bool
  | [] => false
  | c :: rest => (c = '/' && rest.head? = some mark) || hasSegmentWith mark rest

/-- The pattern that a text stands for. -/
def ofText (text : String) : Except PatternFault PathPattern :=
  let cs := text.toList
  if hasSegmentWith ':' cs then .error .colon
  else if hasSegmentWith '*' cs then .error .star
  else pieces none (tokens cs)

/-! ## Accepting -/

/-- The pattern accepts a path. -/
def accepts : PathPattern → List Char → Bool
  | [], path => path.isEmpty
  | .char c :: p, d :: path => c = d && accepts p path
  | .segment :: p, d :: path => accepts p ((d :: path).dropWhile (· != '/'))
  | .rest :: p, _ :: _ => p.isEmpty
  | _ :: _, [] => false

/-- Where the patterns part, the first one asks for a certain character and the second one does
not. -/
def isMoreExact : PathPattern → PathPattern → Bool
  | .char c :: p, .char d :: q => c = d && isMoreExact p q
  | .char _ :: _, _ :: _ => true
  | .segment :: p, .segment :: q => isMoreExact p q
  | _, _ => false

/-- The patterns are the same, or both leave something open where they part. -/
def clashes : PathPattern → PathPattern → Bool
  | [], [] => true
  | .char c :: p, .char d :: q => c = d && clashes p q
  | .segment :: p, .segment :: q => clashes p q
  | .segment :: _, .rest :: _ => true
  | .rest :: _, .segment :: _ => true
  | .rest :: _, .rest :: _ => true
  | _, _ => false

/-- The value of the most exact pattern. -/
def mostExact? {α : Type} : List (PathPattern × α) → Option (PathPattern × α)
  | [] => none
  | a :: others =>
    match mostExact? others with
    | some b => if isMoreExact b.1 a.1 then some b else some a
    | none => some a

/-- The value whose pattern accepts a path, the most exact one if there are several. -/
def find? {α : Type} (entries : List (PathPattern × α)) (path : String) : Option α :=
  (mostExact? (entries.filter fun e => e.1.accepts path.toList)).map (·.2)

/-- What is chosen is one of the entries. -/
theorem mem_of_mostExact? {α : Type} {entries : List (PathPattern × α)} {e : PathPattern × α}
    (h : mostExact? entries = some e) : e ∈ entries := by
  induction entries generalizing e with
  | nil => simp [mostExact?] at h
  | cons a others ih =>
    rw [mostExact?] at h
    split at h
    · next b hb =>
      split at h
      · exact List.mem_cons_of_mem _ (ih (hb.trans h))
      · cases h
        exact List.mem_cons_self
    · cases h
      exact List.mem_cons_self

/-- Characters alone accept exactly themselves. -/
theorem accepts_chars (cs path : List Char) : accepts (cs.map .char) path = decide (cs = path) := by
  induction cs generalizing path with
  | nil => cases path <;> rfl
  | cons c cs ih =>
    cases path with
    | nil => rfl
    | cons d path => simp [accepts, ih]

end PathPattern

end Switchboard
