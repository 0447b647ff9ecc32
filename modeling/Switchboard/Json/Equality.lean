import Switchboard.Json.Basic

/-!
# Equality of JSON values

Whether two JSON values are equal can be decided: the comparison goes down both values side by side
(`Json.beq_iff`).
-/

namespace Switchboard.Json

mutual

/-- The values are equal. -/
def beq : Json → Json → Bool
  | null, null => true
  | bool a, bool b => a == b
  | int a, int b => a == b
  | float a, float b => a == b
  | str a, str b => a == b
  | arr as, arr bs => beqElements as bs
  | obj as, obj bs => beqMembers as bs
  | _, _ => false
termination_by structural a => a

/-- The elements are equal, one by one. -/
def beqElements : List Json → List Json → Bool
  | [], [] => true
  | a :: as, b :: bs => beq a b && beqElements as bs
  | _, _ => false
termination_by structural as => as

/-- The members are equal, one by one. -/
def beqMembers : List (String × Json) → List (String × Json) → Bool
  | [], [] => true
  | a :: as, b :: bs => beqMember a b && beqMembers as bs
  | _, _ => false
termination_by structural as => as

/-- The names and the values of two members are equal. -/
def beqMember : String × Json → String × Json → Bool
  | (name, a), (name', b) => name == name' && beq a b
termination_by structural a => a

end

mutual

/-- The comparison of values decides whether they are equal. It is proved together with the
comparisons that it calls, and these by the recursion that they share. -/
theorem beq_iff (a b : Json) : beq a b = true ↔ a = b := by
  cases a <;> cases b <;> simp [beq]
  case arr.arr as bs => exact beqElements_iff as bs
  case obj.obj as bs => exact beqMembers_iff as bs

/-- The comparison of lists decides whether they are equal. -/
theorem beqElements_iff (as bs : List Json) : beqElements as bs = true ↔ as = bs := by
  cases as <;> cases bs <;> simp [beqElements]
  case cons.cons a as b bs => rw [beq_iff a b, beqElements_iff as bs]

/-- The comparison of objects decides whether their members are equal. -/
theorem beqMembers_iff (as bs : List (String × Json)) : beqMembers as bs = true ↔ as = bs := by
  cases as <;> cases bs <;> simp [beqMembers]
  case cons.cons a as b bs => rw [beqMember_iff a b, beqMembers_iff as bs]

/-- The comparison of members decides whether they are equal. -/
theorem beqMember_iff (a b : String × Json) : beqMember a b = true ↔ a = b := by
  obtain ⟨name, a⟩ := a
  obtain ⟨name', b⟩ := b
  simp [beqMember, beq_iff a b]

end

instance : DecidableEq Json := fun a b => decidable_of_iff (a.beq b = true) (beq_iff a b)

end Switchboard.Json
