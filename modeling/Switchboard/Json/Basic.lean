import Switchboard.Decimal.Shortest
import Switchboard.Table

/-!
# JSON values

`Json` keeps whole numbers and other numbers apart, as the platform's messages do: a whole number
prints without a point and can be an integer argument, another number cannot. The members of an
object are listed with their names strictly increasing; `insert` and `object` keep it so.
-/

namespace Switchboard

/-- A JSON value. -/
inductive Json where
  /-- The value `null`. -/
  | null
  /-- A truth value. -/
  | bool (b : Bool)
  /-- A whole number. -/
  | int (n : Int)
  /-- A number that is not written as a whole number, or is too large to be kept as one. -/
  | float (x : Binary64)
  /-- A text. -/
  | str (s : String)
  /-- A list of values. -/
  | arr (elements : List Json)
  /-- Named values. -/
  | obj (members : List (String × Json))

namespace Json

instance : Inhabited Json := ⟨null⟩

/-- The object with the given members; of two members of one name the later one stays. -/
def object (members : List (String × Json)) : Json := obj (Assoc.ofList members)

/-- The value of a member; nothing for a value that is not an object. -/
def get? (name : String) : Json → Option Json
  | obj members => Assoc.get? name members
  | _ => none

/-- The text, if the value is a text. -/
def str? : Json → Option String
  | str s => some s
  | _ => none

/-- The truth value, if the value is one. -/
def bool? : Json → Option Bool
  | bool b => some b
  | _ => none

/-- The elements, if the value is a list. -/
def arr? : Json → Option (List Json)
  | arr xs => some xs
  | _ => none

/-- The members, if the value is an object. -/
def obj? : Json → Option (List (String × Json))
  | obj members => some members
  | _ => none

/-- The value at the end of a path of member names. -/
def at? : List String → Json → Option Json
  | [], v => some v
  | name :: path, v => (v.get? name).bind (at? path)

/-- A member `name` with the value `v`, or no member. -/
def member? (name : String) (v : Option Json) : List (String × Json) :=
  match v with
  | some v => [(name, v)]
  | none => []

/-- A member of an object is looked up among its members. -/
theorem get?_obj (name : String) (members : List (String × Json)) :
    (obj members).get? name = Assoc.get? name members := rfl

/-- Of members with one name the last one counts. -/
theorem get?_object (name : String) (members : List (String × Json)) :
    (object members).get? name = (members.reverse.find? fun m => m.1 = name).map (·.2) :=
  Assoc.get?_ofList

end Json

end Switchboard
