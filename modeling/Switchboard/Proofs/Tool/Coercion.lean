import Switchboard.Proofs.Text.Spelling
import Switchboard.Tool.Argument

/-!
# Coercion sees a value and its text alike

The platform may send a number or a truth value as a text. A value and its text are coerced by
different rules, a number by its value and a text by trimming and reading it; this file shows that
the rules agree.

* `coerce_eq_ok_iff`, `coerce_eq_error_iff`: what coercion makes of a value, by what the kind
  accepts; later proofs cite these.
* `accept?_plain`: the text of a scalar is accepted as the scalar itself. The cases are those of the
  scalars; a whole number is spelled by its text (`Text.spells_toString`), and a number that is not
  whole has a point or an exponent in its text (`mark_of_plain_float`), which neither a whole number
  nor a truth value has.
* **`coerces_through_text`**: coercion does not tell a scalar from its text, and takes back what it
  has given.
-/

namespace Switchboard

/-! ## Scalars -/

/-- Truth values, numbers and texts. -/
inductive Json.Scalar : Json → Prop where
  | bool (b : Bool) : Scalar (.bool b)
  | int (n : Int) : Scalar (.int n)
  | float (x : Binary64) : Scalar (.float x)
  | str (s : String) : Scalar (.str s)

/-- The text of a truth value is its word. -/
theorem Json.plain_bool (b : Bool) : (bool b).plain = if b then "true" else "false" := by
  cases b <;> rfl

/-- The text of a whole number is its numeral. -/
theorem Json.plain_int (n : Int) : (int n).plain = toString n := by
  show "" ++ toString n = toString n
  rw [String.empty_append]

/-- The text of another number is its shortest decimal text. -/
theorem Json.plain_float (x : Binary64) : (float x).plain = numberLayout.write x := by
  show "" ++ numberLayout.write x = numberLayout.write x
  rw [String.empty_append]

/-- The text of a number that is not whole has a point, or an exponent with its sign. -/
theorem Json.mark_of_plain_float (x : Binary64) :
    ∃ c ∈ (float x).plain.toList, ∃ c' ∈ (float x).plain.toList,
      (c = '.' ∨ c = 'e') ∧ (c' = '.' ∨ c' = '+' ∨ c' = '-') := by
  rw [plain_float]
  rcases numberLayout.mark_of_write x with hpoint | hpositive | hnegative
  · exact ⟨'.', hpoint, '.', hpoint, .inl rfl, .inl rfl⟩
  · exact ⟨'e', hpositive (by decide), '+', hpositive (by decide), .inr rfl, .inr (.inl rfl)⟩
  · exact ⟨'e', hnegative (by decide), '-', hnegative (by decide), .inr rfl, .inr (.inr rfl)⟩

/-- An argument is shown as its JSON form is. -/
theorem Argument.text_eq_plain (a : Argument) : a.text = a.toJson.plain := by
  cases a with
  | string s => rfl
  | integer n => exact (Json.plain_int n.toInt).symm
  | boolean b => exact (Json.plain_bool b).symm

namespace ParamKind

variable {k : ParamKind} {name : String} {v : Json} {a : Argument}

/-! ## What coercion answers -/

/-- A value is coerced iff it is accepted. -/
theorem coerce_eq_ok_iff : k.coerce name v = .ok a ↔ k.accept? v = some a := by
  unfold coerce
  split
  · cases k <;> simp [accept?]
  · cases k.accept? v <;> simp

/-- A value is missing or of the wrong kind. -/
theorem coerce_eq_error_iff {e : ArgumentError} :
    k.coerce name v = .error e ↔
      (v = .null ∧ e = .missing name) ∨
        (v ≠ .null ∧ k.accept? v = none ∧ e = .wrongKind name k v.compact) := by
  unfold coerce
  split
  · simp [eq_comm]
  · next hv =>
    have hnull : v ≠ .null := hv
    cases haccept : k.accept? v with
    | some a => simp [hnull]
    | none => simp [hnull, eq_comm]

/-- What is accepted is of the kind. -/
theorem kind_of_accept? (h : k.accept? v = some a) : a.kind = k := by
  unfold accept? at h
  split at h
  case h_5 | h_6 =>
    obtain ⟨n, -, rfl⟩ := Option.map_eq_some_iff.1 h
    rfl
  case h_8 =>
    dsimp only at h
    split_ifs at h <;> cases h <;> rfl
  all_goals cases h
  all_goals rfl

/-! ## Values and texts -/

/-- A text is accepted as an integer iff it spells one, blanks at its ends apart. -/
theorem accept?_integer_str {s : String} {n : Int64} :
    integer.accept? (.str s) = some (.integer n) ↔ Text.Spells (Text.trim s).toList n.toInt := by
  rw [← Text.readInt64?_eq_some_iff]
  show (Text.readInt64? (Text.trim s)).map Argument.integer = some (.integer n) ↔ _
  simp

/-- A text that spells no word of 64 bits is no whole number. -/
theorem accept?_integer_str_eq_none (s : String)
    (h : ∀ n : Int64, ¬ Text.Spells (Text.trim s).toList n.toInt) :
    integer.accept? (.str s) = none := by
  cases haccept : integer.accept? (.str s) with
  | none => rfl
  | some a =>
      have hkind := kind_of_accept? haccept
      cases a with
      | integer n => exact absurd (accept?_integer_str.1 haccept) (h n)
      | string s => cases hkind
      | boolean b => cases hkind

/-- A text with a character that neither truth value has is none of them. -/
theorem accept?_boolean_str_eq_none (s : String)
    (h : ∃ c ∈ (Text.trim s).toList, c ∉ "true".toList ∧ c ∉ "false".toList) :
    boolean.accept? (.str s) = none := by
  obtain ⟨c, hc, htrue, hfalse⟩ := h
  have hne : Text.trim s ≠ "true" := fun heq => htrue (by rwa [heq] at hc)
  have hne' : Text.trim s ≠ "false" := fun heq => hfalse (by rwa [heq] at hc)
  simp only [accept?]
  rw [if_neg hne, if_neg hne']

/-- A whole number is accepted as its text is. -/
theorem accept?_plain_int (k : ParamKind) (n : Int) :
    k.accept? (.str (Json.int n).plain) = k.accept? (.int n) := by
  have hspells : Text.Spells (Text.trim (Json.int n).plain).toList n := by
    rw [Json.plain_int, Text.trim_toString]
    exact Text.spells_toString n
  cases k with
  | string => rfl
  | integer =>
      show (Text.readInt64? (Text.trim (Json.int n).plain)).map Argument.integer =
        (int64? n).map Argument.integer
      congr 1
      show (Text.signedNumeral? _).bind int64? = _
      rw [Text.signedNumeral?_eq_some_iff.2 hspells]
      rfl
  | boolean =>
      -- a letter does not spell a number
      show boolean.accept? (.str (Json.int n).plain) = none
      simp only [accept?]
      rw [if_neg, if_neg]
      · intro hfalse
        rw [hfalse] at hspells
        exact absurd (hspells.mem (c := 'f') (by decide)) (by decide)
      · intro htrue
        rw [htrue] at hspells
        exact absurd (hspells.mem (c := 't') (by decide)) (by decide)

/-- Another number is accepted as its text is: as a text only. -/
theorem accept?_plain_float (k : ParamKind) (x : Binary64) :
    k.accept? (.str (Json.float x).plain) = k.accept? (.float x) := by
  obtain ⟨c, hc, c', hc', hmark, hsign⟩ := Json.mark_of_plain_float x
  have htrim : c ∈ (Text.trim (Json.float x).plain).toList :=
    Text.mem_trim hc (by rcases hmark with rfl | rfl <;> decide)
  have htrim' : c' ∈ (Text.trim (Json.float x).plain).toList :=
    Text.mem_trim hc' (by rcases hsign with rfl | rfl | rfl <;> decide)
  cases k with
  | string => rfl
  | integer =>
      refine accept?_integer_str_eq_none _ fun n hspells => absurd (hspells.mem htrim) ?_
      rcases hmark with rfl | rfl <;> decide
  | boolean =>
      refine accept?_boolean_str_eq_none _ ⟨c', htrim', ?_⟩
      rcases hsign with rfl | rfl | rfl <;> decide

/-- A truth value is accepted as its text is. -/
theorem accept?_plain_bool (k : ParamKind) (b : Bool) :
    k.accept? (.str (Json.bool b).plain) = k.accept? (.bool b) := by
  cases k with
  | string => rfl
  | integer =>
      refine accept?_integer_str_eq_none _ fun n hspells => ?_
      cases b with
      | true => exact absurd (hspells.mem (c := 'e') (by decide)) (by decide)
      | false => exact absurd (hspells.mem (c := 'e') (by decide)) (by decide)
  | boolean => cases b <;> decide

/-- **A scalar is accepted as its text is.** -/
theorem accept?_plain (k : ParamKind) (hv : v.Scalar) : k.accept? (.str v.plain) = k.accept? v := by
  cases hv with
  | bool b => exact accept?_plain_bool k b
  | int n => exact accept?_plain_int k n
  | float x => exact accept?_plain_float k x
  | str s => rfl

/-- An argument is accepted from its JSON form. -/
theorem accept?_toJson (a : Argument) : a.kind.accept? a.toJson = some a := by
  cases a with
  | string s => rfl
  | integer n =>
      show (int64? n.toInt).map Argument.integer = _
      rw [int64?_eq_some_iff.2 rfl]
      rfl
  | boolean b => rfl

/-- **Coercion does not tell a scalar from its text**, and takes back what it has given. -/
structure CoercesThroughText (name : String) : Prop where
  /-- A truth value, a number or a text comes to the same argument as its text, or to none as its
  text does. -/
  text : ∀ (k : ParamKind) v a, v.Scalar →
    (k.coerce name v = .ok a ↔ k.coerce name (.str v.plain) = .ok a)
  /-- An argument is taken back, from its JSON form and from its text. -/
  taken_back : ∀ a : Argument, a.kind.coerce name a.toJson = .ok a ∧
    a.kind.coerce name (.str a.text) = .ok a
  /-- What comes of a value is of the kind. -/
  kind : ∀ (k : ParamKind) v a, k.coerce name v = .ok a → a.kind = k
  /-- `null` is no value. -/
  null : ∀ k : ParamKind, k.coerce name .null = .error (.missing name)
  /-- Lists are of no kind. -/
  list : ∀ (k : ParamKind) xs, k.coerce name (.arr xs) =
    .error (.wrongKind name k (Json.arr xs).compact)
  /-- Objects are of no kind. -/
  object : ∀ (k : ParamKind) members,
    k.coerce name (.obj members) = .error (.wrongKind name k (Json.obj members).compact)
  /-- A text is a whole number iff, trimmed, it spells a number of 64 bits, and it is the number
  that it spells. -/
  integer : ∀ s a, ParamKind.integer.coerce name (.str s) = .ok a ↔
    ∃ m : Int, Text.Spells (Text.trim s).toList m ∧ FitsInt64 m ∧
      ∃ n : Int64, n.toInt = m ∧ a = .integer n

/-- **Values are coerced through their text**, kind by kind. -/
theorem coerces_through_text (name : String) : CoercesThroughText name := by
  constructor
  case text =>
    intro k v a hv
    rw [coerce_eq_ok_iff, coerce_eq_ok_iff, accept?_plain k hv]
  case taken_back =>
    intro a
    have hscalar : a.toJson.Scalar := by cases a <;> constructor
    rw [coerce_eq_ok_iff, coerce_eq_ok_iff, a.text_eq_plain, accept?_plain a.kind hscalar]
    exact ⟨accept?_toJson a, accept?_toJson a⟩
  case kind =>
    intro k v a h
    exact kind_of_accept? (coerce_eq_ok_iff.1 h)
  case null => exact fun k => rfl
  case list =>
    intro k xs
    exact coerce_eq_error_iff.2 (.inr ⟨Json.noConfusion, by cases k <;> rfl, rfl⟩)
  case object =>
    intro k members
    exact coerce_eq_error_iff.2 (.inr ⟨Json.noConfusion, by cases k <;> rfl, rfl⟩)
  case integer =>
    intro s a
    rw [coerce_eq_ok_iff]
    constructor
    · intro h
      have hkind := kind_of_accept? h
      cases a with
      | integer n => exact ⟨n.toInt, accept?_integer_str.1 h, fitsInt64_toInt n, n, rfl, rfl⟩
      | string s => cases hkind
      | boolean b => cases hkind
    · rintro ⟨_, hspells, -, n, rfl, rfl⟩
      exact accept?_integer_str.2 hspells

example : ParamKind.integer.coerce "n" (.str " -9223372036854775808\n") =
    .ok (.integer Int64.minValue) := by decide

example : ParamKind.integer.coerce "n" (.str "9223372036854775808") =
    .error (.wrongKind "n" .integer "\"9223372036854775808\"") := by decide

end ParamKind

end Switchboard
