/-!
# Request targets

A request says what it is for in one of four forms: a path, a whole address with scheme and
authority, an authority alone, or an asterisk. A query and a fragment may stand behind a path;
neither decides which route a request takes, so all that is kept of a target is its path.
-/

namespace Switchboard.Target

/-- A character that may stand in a path as it is. -/
def isPathChar (c : Char) : Bool := ' ' < c && !(['#', '<', '>', '?', '\x60'].contains c)

/-- A character that may stand in a query as it is. -/
def isQueryChar (c : Char) : Bool := ' ' < c && !(['"', '#', '<', '>'].contains c)

/-- A character that may stand in a scheme. -/
def isSchemeChar (c : Char) : Bool := c.isAlphanum || ['+', '-', '.'].contains c

/-- A character that may stand in an authority. -/
def isAuthorityChar (c : Char) : Bool :=
  c.isAlphanum || ['!', '$', '%', '&', '\x27', '(', ')', '*', '+', ',', '-', '.', ':', ';',
    '=', '@', '[', ']', '_', '~'].contains c

/-- A target of more bytes is not read. -/
def longest : Nat := 65534

/-- A scheme may not be longer. -/
def longestScheme : Nat := 64

/-- The characters behind the last `sep`, or all of them if there is none. -/
def afterLast (sep : Char) (cs : List Char) : List Char :=
  (cs.reverse.takeWhile (· != sep)).reverse

/-- An authority: a host, perhaps in brackets, which a user may precede and a port may follow. -/
def isAuthority (cs : List Char) : Bool :=
  let host := afterLast '@' cs
  let port := afterLast ']' host
  !host.isEmpty && cs.all isAuthorityChar && cs.count '[' ≤ 1 && cs.count ']' = cs.count '[' &&
    !port.contains '%' && port.count ':' ≤ 1

/-- The path in what stands behind an authority: everything before the query and the fragment. None
if a character would have to be written in another way. -/
def pathOf? (cs : List Char) : Option (List Char) :=
  let path := cs.takeWhile fun c => c != '?' && c != '#'
  let query := ((cs.drop path.length).takeWhile (· != '#')).drop 1
  if path.all isPathChar && query.all isQueryChar then some path else none

/-- The path in what stands behind a scheme and the mark `://`. An address without a path names the
root. -/
def pathOfAddress? (cs : List Char) : Option (List Char) :=
  let authority := cs.takeWhile fun c => !(['/', '?', '#'].contains c)
  if isAuthority authority then
    (pathOf? (cs.drop authority.length)).map fun path => if path.isEmpty then ['/'] else path
  else none

/-- The path that the characters of a target name. An authority alone names the empty path. -/
def pathOfChars? (cs : List Char) : Option (List Char) :=
  match cs with
  | '/' :: _ => pathOf? cs
  | ['*'] => some ['*']
  | _ =>
    let scheme := cs.takeWhile isSchemeChar
    match cs.drop scheme.length with
    | ':' :: '/' :: '/' :: rest =>
      if scheme.length ≤ longestScheme then pathOfAddress? rest else none
    | _ => if isAuthority cs then some [] else none

/-- The path that a target names; none if the target is not well formed. -/
def path? (target : String) : Option String :=
  if target.utf8ByteSize ≤ longest then (pathOfChars? target.toList).map String.ofList else none

end Switchboard.Target
