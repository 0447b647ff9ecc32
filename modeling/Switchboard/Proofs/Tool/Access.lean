import Switchboard.Proofs.Tool.Binding
import Switchboard.Proofs.Tool.Draft
import Switchboard.Service.Weather

/-!
# Reading bound arguments

A handler gets its arguments by their place, by their name, or by their name as a value of a kind.
By name the first argument of that name is found, so the ways agree because a draft with two
parameters of one name is not built; and each argument has the kind of its parameter because binding
coerces it to that kind.

* `Arguments.read`: the accessor of a kind. `read_eq`: what it answers, by the argument of that
  name.
* `Bound`: arguments that stand under the names of parameters, in order and with their kinds.
  `bound_of_bind`: successful binding gives such arguments. The laws of look-ups are about `Bound`
  alone.
* `Reading`: what a handler asks of its arguments, where it may ask next by what it has read.
* **`answers_as_declared`**: how bound arguments answer, and that a handler that reads them as they
  are declared gets no error.
-/

namespace Switchboard

namespace Arguments

/-! ## Looking up -/

/-- The argument with a name, as the accessor of a kind gives it. -/
def read (as : Arguments) : ParamKind → String → Except ArgumentError Argument
  | .string, name => (as.string name).map .string
  | .integer, name => (as.integer name).map .integer
  | .boolean, name => (as.boolean name).map .boolean

/-- An argument is read if it is there and of the kind that is asked for. -/
theorem read_eq (as : Arguments) (k : ParamKind) (name : String) :
    as.read k name =
      match as.get? name with
      | none => .error (.missing name)
      | some a => if a.kind = k then .ok a else .error (.wrongKind name k a.text) := by
  cases k <;> simp only [read, string, integer, boolean, require]
  all_goals
    cases as.get? name with
    | none => rfl
    | some a => cases a <;> rfl

/-- There is no argument under a name iff no entry has it. -/
theorem get?_eq_none_iff {as : Arguments} {name : String} :
    as.get? name = none ↔ name ∉ as.entries.map (·.1) := by
  unfold get?
  rw [Option.map_eq_none_iff, List.find?_eq_none, List.mem_map]
  constructor
  · rintro h ⟨entry, hentry, rfl⟩
    exact h entry hentry (by simp)
  · intro h entry hentry hname
    exact h ⟨entry, hentry, by simpa using hname⟩

/-- Where no name stands twice each argument is found by its name. -/
theorem get?_of_nodup {as : Arguments} (hnodup : (as.entries.map (·.1)).Nodup) {i : Nat}
    {name : String} {a : Argument} (h : as.entries[i]? = some (name, a)) :
    as.get? name = some a := by
  obtain ⟨entries⟩ := as
  unfold get?
  dsimp only at hnodup h ⊢
  induction entries generalizing i with
  | nil => cases h
  | cons entry rest ih =>
      obtain ⟨hout, hrest⟩ := List.nodup_cons.1 hnodup
      cases i with
      | zero =>
          obtain rfl : entry = (name, a) := by simpa using h
          simp
      | succ i =>
          have hi : rest[i]? = some (name, a) := by simpa using h
          have hne : entry.1 ≠ name := by
            intro hname
            exact hout (List.mem_map.2 ⟨_, List.mem_of_getElem? hi, hname.symm⟩)
          rw [List.find?_cons_of_neg (by simpa using hne)]
          exact ih hrest hi

/-! ## Bound arguments -/

/-- **The arguments are those of the parameters**: in order, under their names and of their
kinds. -/
def Bound (ps : List Param) (as : Arguments) : Prop :=
  List.Forall₂ (fun p entry => entry.1 = p.name ∧ entry.2.kind = p.kind) ps as.entries

/-- Arguments that are bound are bound to the declared parameters. -/
theorem bound_of_bind {d : ToolDefinition} {v : Json} {as : Arguments} (h : d.bind v = .ok as) :
    as.Bound d.params := by
  obtain ⟨members, hmembers⟩ := ToolDefinition.forall₂_takes_of_bind h
  refine hmembers.imp ?_
  rintro p entry ⟨hname, v, -, hcoerce⟩
  exact ⟨hname, ParamKind.kind_of_accept? (ParamKind.coerce_eq_ok_iff.1 hcoerce)⟩

namespace Bound

variable {ps : List Param} {as : Arguments}

/-- Bound arguments have the names of the parameters, in order. -/
theorem names_eq (h : as.Bound ps) : as.entries.map (·.1) = ps.map Param.name :=
  Param.names_of_forall₂ (h.imp fun _ _ h => h.1)

/-- The argument at the place of a parameter stands under its name and is of its kind. -/
theorem exists_entry (h : as.Bound ps) {i : Nat} {p : Param} (hp : ps[i]? = some p) :
    ∃ a, as.entries[i]? = some (p.name, a) ∧ a.kind = p.kind := by
  obtain ⟨hi, rfl⟩ := List.getElem?_eq_some_iff.1 hp
  have hi' : i < as.entries.length := h.length_eq ▸ hi
  obtain ⟨hname, hkind⟩ := h.get hi hi'
  refine ⟨as.entries[i].2, ?_, hkind⟩
  rw [List.getElem?_eq_getElem hi']
  exact congrArg some (Prod.ext hname rfl)

/-- There is an argument at each place of a parameter and at no other. -/
theorem at?_eq_none_iff (h : as.Bound ps) {i : Nat} : as.at? i = none ↔ ps.length ≤ i := by
  unfold at?
  rw [Option.map_eq_none_iff, List.getElem?_eq_none_iff, h.length_eq]

/-- By its name a parameter's argument is found, and the accessor of its kind gives it. -/
theorem read_eq_ok (h : as.Bound ps) (hnodup : (ps.map Param.name).Nodup) {p : Param}
    (hp : p ∈ ps) :
    ∃ a, a.kind = p.kind ∧ as.read p.kind p.name = .ok a := by
  obtain ⟨i, hi⟩ := List.mem_iff_getElem?.1 hp
  obtain ⟨a, hentry, hkind⟩ := h.exists_entry hi
  have hget := get?_of_nodup (h.names_eq ▸ hnodup) hentry
  refine ⟨a, hkind, ?_⟩
  rw [read_eq, hget]
  exact if_pos hkind

end Bound

end Arguments

/-! ## Readings -/

/-- What a handler asks of its arguments before it comes to a result: one argument after another,
each by its name and as a value of a kind. -/
inductive Reading (α : Type) where
  /-- It has come to a result. -/
  | done (result : α)
  /-- It reads an argument and goes on by what it has read. -/
  | read (k : ParamKind) (name : String) (next : Argument → Reading α)

namespace Reading

variable {α : Type}

/-- Reads the arguments; the first error ends the reading. -/
def run (as : Arguments) : Reading α → Except ArgumentError α
  | done result => .ok result
  | read k name next =>
    match as.read k name with
    | .ok a => (next a).run as
    | .error e => .error e

/-- **Only declared parameters are read, and as they are declared.** -/
inductive Declared (ps : List Param) : Reading α → Prop where
  | done (result : α) : Declared ps (done result)
  | read {p : Param} {next : Argument → Reading α} (hp : p ∈ ps)
      (hnext : ∀ a, a.kind = p.kind → Declared ps (next a)) :
      Declared ps (read p.kind p.name next)

/-- Such a reading of bound arguments ends in a result: by induction on what is read. -/
theorem Declared.run_eq_ok {ps : List Param} {as : Arguments} (hbound : as.Bound ps)
    (hnodup : (ps.map Param.name).Nodup) {r : Reading α} (h : r.Declared ps) :
    ∃ result, r.run as = .ok result := by
  induction h with
  | done result => exact ⟨result, rfl⟩
  | @read p next hp hnext ih =>
      obtain ⟨a, hkind, hread⟩ := hbound.read_eq_ok hnodup hp
      obtain ⟨result, hresult⟩ := ih a hkind
      refine ⟨result, ?_⟩
      rw [run, hread]
      exact hresult

end Reading

/-! ## How bound arguments answer -/

/-- **The arguments answer as the parameters are declared.** -/
structure AnswersAsDeclared (ps : List Param) (as : Arguments) : Prop where
  /-- The argument of a parameter is found by its place and by its name, is of the kind of the
  parameter, and only the accessor of this kind gives it. -/
  declared : ∀ i p, ps[i]? = some p → ∃ a, as.at? i = some a ∧ as.get? p.name = some a ∧
    a.kind = p.kind ∧ as.read p.kind p.name = .ok a ∧
      ∀ k, k ≠ p.kind → as.read k p.name = .error (.wrongKind p.name k a.text)
  /-- There is no argument under another name. -/
  undeclared : ∀ name, name ∉ ps.map Param.name →
    as.get? name = none ∧ ∀ k, as.read k name = .error (.missing name)
  /-- There is one at each place of a parameter and no more. -/
  places : ∀ i, as.at? i = none ↔ ps.length ≤ i
  /-- A handler that reads parameters as they are declared gets no error. -/
  readings : ∀ (α : Type) (r : Reading α), r.Declared ps → ∃ result, r.run as = .ok result

/-- **Bound arguments answer as the draft of the tool declares them.** -/
theorem answers_as_declared {draft : ToolDraft} {d : ToolDefinition} {v : Json} {as : Arguments}
    (hbuild : draft.build = .ok d) (hbind : d.bind v = .ok as) :
    List.Forall₂ ParamDraft.Declares draft.params d.params ∧ AnswersAsDeclared d.params as := by
  have hbound : as.Bound d.params := Arguments.bound_of_bind hbind
  refine ⟨(ToolDraft.declares_of_build hbuild).params, ?_⟩
  constructor
  case declared =>
    intro i p hp
    obtain ⟨a, hentry, hkind⟩ := hbound.exists_entry hp
    have hget : as.get? p.name = some a :=
      Arguments.get?_of_nodup (hbound.names_eq ▸ d.params_nodup) hentry
    refine ⟨a, ?_, hget, hkind, ?_, fun k hk => ?_⟩
    · unfold Arguments.at?
      rw [hentry]
      rfl
    · rw [Arguments.read_eq, hget]
      exact if_pos hkind
    · rw [Arguments.read_eq, hget]
      exact if_neg fun hkind' => hk (hkind'.symm.trans hkind)
  case undeclared =>
    intro name hname
    have hget : as.get? name = none := by
      rw [Arguments.get?_eq_none_iff, hbound.names_eq]
      exact hname
    refine ⟨hget, fun k => ?_⟩
    rw [Arguments.read_eq, hget]
  case places => exact fun i => hbound.at?_eq_none_iff
  case readings => exact fun α r hr => hr.run_eq_ok hbound d.params_nodup

/-- The weather tool, with a number of days and a choice between days and hours. -/
def forecastDraft : ToolDraft :=
  { Weather.draft with
    params :=
      [⟨"city", "string", ""⟩, ⟨"days", " INT ", ""⟩, ⟨"hourly", "Boolean", ""⟩] }

/-- The arguments of its calls come as texts, and some of them are not declared. -/
theorem answers_as_declared_forecast :
    ∃ d as, forecastDraft.build = .ok d ∧
      d.bind (.object [("days", .str "3"), ("city", .str "Ulm"), ("units", .str "C"),
        ("hourly", .str "true")]) = .ok as ∧
      List.Forall₂ ParamDraft.Declares forecastDraft.params d.params ∧
      AnswersAsDeclared d.params as := by
  refine ⟨_, ⟨[("city", .string "Ulm"), ("days", .integer 3), ("hourly", .boolean true)]⟩,
    rfl, ?_, ?_⟩
  · decide +kernel
  · refine answers_as_declared
      (v := .object [("days", .str "3"), ("city", .str "Ulm"), ("units", .str "C"),
        ("hourly", .str "true")]) rfl ?_
    decide +kernel

end Switchboard
