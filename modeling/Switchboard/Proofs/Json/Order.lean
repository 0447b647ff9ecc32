import Switchboard.Json.Reader

/-!
# Members in order

The members of an object are a list with the names strictly increasing. The type of JSON values does
not say so; this file does, and shows that no value without this order is ever read.

* `Assoc.insert_insert`, `Assoc.insert_of_get?`: with `Assoc.get?_insert` these make a member a
  place that can be written to. A second write wins, and writing what stands there changes nothing.
* `at?_insert`: what is found at a path after a member has been written.
* `Json.Ordered`: in every object in the value the names strictly increase.
* **`ordered_of_ofBytes`**: every value that is read is in order. The reader keeps the order of what
  it has read so far, step by step (`State.Ordered`).
-/

namespace Switchboard

open Std

/-! ## Writing to a place -/

namespace Assoc

variable {κ ν : Type} [Ord κ] [TransOrd κ]

/-- The second of two writes wins. -/
theorem insert_insert (k : κ) (v w : ν) (bs : List (κ × ν)) :
    insert k w (insert k v bs) = insert k w bs := by
  induction bs with
  | nil => simp [insert, ReflCmp.compare_self]
  | cons b rest ih =>
      simp only [insert]
      split <;> simp [insert, ReflCmp.compare_self, *]

/-- Writing what stands there changes nothing. -/
theorem insert_of_get? [LawfulEqOrd κ] [DecidableEq κ] {k : κ} {v : ν} {bs : List (κ × ν)}
    (hs : Sorted bs) (h : get? k bs = some v) : insert k v bs = bs := by
  apply eq_of_get? (sorted_insert hs) hs
  intro k'
  rw [get?_insert]
  split
  · next heq => rw [heq, h]
  · rfl

end Assoc

namespace Json

/-- What is found at a path once a member has been written. -/
theorem at?_insert (name : String) (v : Json) (members : List (String × Json)) (step : String)
    (path : List String) :
    (obj (Assoc.insert name v members)).at? (step :: path) =
      if step = name then v.at? path else (obj members).at? (step :: path) := by
  simp only [at?, get?_obj, Assoc.get?_insert]
  split <;> rfl

/-! ## Values in order -/

/-- **The names of the members of every object in the value strictly increase.** -/
inductive Ordered : Json → Prop where
  /-- A value with nothing in it. -/
  | plain {v : Json} (harr : v.arr? = none) (hobj : v.obj? = none) : Ordered v
  /-- A list of values in order. -/
  | arr {elements : List Json} (h : ∀ v ∈ elements, v.Ordered) : Ordered (arr elements)
  /-- An object whose members are in order. -/
  | obj {members : List (String × Json)} (hs : Assoc.Sorted members)
      (h : ∀ m ∈ members, m.2.Ordered) :
      Ordered (obj members)

/-- An object is in order iff its members are, and their values. -/
theorem ordered_obj_iff {members : List (String × Json)} :
    (obj members).Ordered ↔ Assoc.Sorted members ∧ ∀ m ∈ members, m.2.Ordered := by
  constructor
  · intro h
    cases h with
    | plain _ hobj => cases hobj
    | obj hs h => exact ⟨hs, h⟩
  · rintro ⟨hs, h⟩
    exact .obj hs h

/-- The empty object is in order. -/
theorem ordered_nil : (obj []).Ordered := .obj List.Pairwise.nil (by simp)

/-- A member that is in order can be written to an object in order. -/
theorem Ordered.insert {members : List (String × Json)} {v : Json} (h : (Json.obj members).Ordered)
    (name : String) (hv : v.Ordered) : (Json.obj (Assoc.insert name v members)).Ordered := by
  obtain ⟨hs, hmembers⟩ := ordered_obj_iff.1 h
  refine .obj (Assoc.sorted_insert hs) fun m hm => ?_
  rcases Assoc.mem_insert hm with rfl | hm
  · exact hv
  · exact hmembers m hm

/-- A member of a value in order is in order. -/
theorem Ordered.of_get? {v w : Json} {name : String} (h : v.Ordered) (hw : v.get? name = some w) :
    w.Ordered := by
  cases v with
  | obj members =>
      obtain ⟨hs, hmembers⟩ := ordered_obj_iff.1 h
      exact hmembers _ ((Assoc.get?_eq_some_iff hs).1 hw)
  | _ => cases hw

/-! ## The reader -/

/-- What waits for a value holds values in order. -/
def Frame.Ordered : Frame → Prop
  | .list before => ∀ v ∈ before, v.Ordered
  | .member before _ => (obj before).Ordered

/-- What has been read of a value is in order. -/
def Phase.Ordered : Phase → Prop
  | .nextElement before | .afterElement before => ∀ v ∈ before, v.Ordered
  | .nextName before | .name before _ | .afterName before _ | .afterMember before =>
    (obj before).Ordered
  | .word _ v | .done v => v.Ordered
  | .value | .firstElement | .firstName | .number _ | .string _ => True

/-- Everything that has been read is in order. -/
structure State.Ordered (s : State) : Prop where
  phase : s.phase.Ordered
  waiting : ∀ f ∈ s.waiting, f.Ordered

/-- A number is in order, as it has no members. -/
theorem Numeral.ordered_value? {n : Numeral} {v : Json} (h : n.value? = some v) : v.Ordered := by
  have hnumber : ∀ {c : Prop} [Decidable c] {whole : Int} {x : Option Binary64},
      (if c then some (int whole) else x.map float) = some v → v.Ordered := by
    intro c _ whole x hv
    split at hv
    · cases hv
      exact .plain rfl rfl
    · obtain ⟨y, -, rfl⟩ := Option.map_eq_some_iff.1 hv
      exact .plain rfl rfl
  unfold value? at h
  exact hnumber h

namespace State

variable {s t : State} {waiting : List Frame} {i : Nat} {b : UInt8} {bs : List UInt8} {v : Json}

/-- A value in order keeps what it is delivered to in order. -/
theorem ordered_deliver (hv : v.Ordered) (h : ∀ f ∈ waiting, f.Ordered) :
    (deliver v waiting).Ordered := by
  cases waiting with
  | nil => exact ⟨hv, h⟩
  | cons f rest =>
      obtain ⟨hf, hrest⟩ := List.forall_mem_cons.1 h
      cases f with
      | list before => exact ⟨List.forall_mem_cons.2 ⟨hv, hf⟩, hrest⟩
      | member before name => exact ⟨Json.Ordered.insert hf name hv, hrest⟩

/-- The first byte of a value leaves what waits for it in order. -/
theorem ordered_beginValue (h : beginValue waiting i b = .ok s)
    (hw : ∀ f ∈ waiting, f.Ordered) : s.Ordered := by
  have hbool : ∀ b, (bool b).Ordered := fun _ => .plain rfl rfl
  have hnull : null.Ordered := .plain rfl rfl
  unfold beginValue at h
  dsimp only at h
  repeat' split at h
  all_goals cases h
  all_goals exact ⟨by simp [Phase.Ordered, hbool, hnull], hw⟩

/-- A byte between tokens goes on with what has been read, puts it away to wait, or completes a
value. -/
theorem Ordered.between (hs : s.Ordered) (h : s.between i b = .ok t) : t.Ordered := by
  obtain ⟨phase, waiting⟩ := s
  obtain ⟨hphase, hwaiting⟩ := hs
  have hput : ∀ f, Frame.Ordered f → beginValue (f :: waiting) i b = .ok t → t.Ordered :=
    fun f hf hbegin => ordered_beginValue hbegin (List.forall_mem_cons.2 ⟨hf, hwaiting⟩)
  unfold State.between at h
  dsimp only at h
  split at h
  · cases h
    exact ⟨hphase, hwaiting⟩
  cases phase with
  | value => exact ordered_beginValue h hwaiting
  | firstElement =>
      dsimp only at h
      split at h
      · cases h
        exact ordered_deliver (.arr (by simp)) hwaiting
      · exact hput (.list []) (by simp [Frame.Ordered]) h
  | nextElement before =>
      dsimp only at h
      split at h
      · cases h
      · exact hput (.list before) hphase h
  | afterElement before =>
      dsimp only at h
      repeat' split at h
      all_goals cases h
      · exact ⟨hphase, hwaiting⟩
      · exact ordered_deliver (.arr fun v hv => hphase v (List.mem_reverse.1 hv)) hwaiting
  | firstName =>
      dsimp only at h
      repeat' split at h
      all_goals cases h
      · exact ⟨ordered_nil, hwaiting⟩
      · exact ordered_deliver ordered_nil hwaiting
  | nextName before =>
      dsimp only at h
      repeat' split at h
      all_goals cases h
      exact ⟨hphase, hwaiting⟩
  | afterName before name =>
      dsimp only at h
      split at h
      · cases h
        exact ⟨trivial, List.forall_mem_cons.2 ⟨hphase, hwaiting⟩⟩
      · cases h
  | afterMember before =>
      dsimp only at h
      repeat' split at h
      all_goals cases h
      · exact ⟨hphase, hwaiting⟩
      · exact ordered_deliver hphase hwaiting
  | done v => cases h
  | _ =>
      cases h
      exact ⟨hphase, hwaiting⟩

/-- **What has been read stays in order** with the next byte. -/
theorem Ordered.step (hs : s.Ordered) (h : s.step i b = .ok t) : t.Ordered := by
  obtain ⟨phase, waiting⟩ := s
  cases phase with
  | word rest v =>
      obtain ⟨hv, hwaiting⟩ := hs
      cases rest with
      | nil => exact (ordered_deliver hv hwaiting).between h
      | cons e rest =>
          unfold State.step at h
          dsimp only at h
          split at h
          · split at h
            · cases h
              exact ordered_deliver hv hwaiting
            · cases h
              exact ⟨hv, hwaiting⟩
          · cases h
  | number n =>
      unfold State.step at h
      dsimp only at h
      split at h
      · cases h
        exact ⟨trivial, hs.waiting⟩
      · cases h
      · split at h
        · next v hv => exact (ordered_deliver (Numeral.ordered_value? hv) hs.waiting).between h
        · cases h
  | string q =>
      unfold State.step at h
      dsimp only at h
      split at h
      all_goals cases h
      · exact ⟨trivial, hs.waiting⟩
      · exact ordered_deliver (.plain rfl rfl) hs.waiting
  | name before q =>
      unfold State.step at h
      dsimp only at h
      split at h
      all_goals cases h
      · exact ⟨hs.phase, hs.waiting⟩
      · exact ⟨hs.phase, hs.waiting⟩
  | _ => exact hs.between h

/-- What has been read stays in order, by induction on the bytes. -/
theorem Ordered.run (hs : s.Ordered) (h : s.run i bs = .ok t) : t.Ordered := by
  induction bs generalizing s i with
  | nil =>
      cases h
      exact hs
  | cons b rest ih =>
      unfold State.run at h
      split at h
      · next s' hstep => exact ih (hs.step hstep) h
      · cases h

/-- The value that is read in the end is in order. -/
theorem Ordered.finish (hs : s.Ordered) (h : s.finish i = .ok v) : v.Ordered := by
  obtain ⟨phase, waiting⟩ := s
  unfold State.finish at h
  dsimp only at h
  repeat' split at h
  all_goals cases h
  · exact hs.phase
  · next hv => exact Numeral.ordered_value? hv

end State

/-- **Every value that is read is in order.** -/
theorem ordered_of_ofBytes {bytes : List UInt8} {v : Json} (h : ofBytes bytes = .ok v) :
    v.Ordered := by
  have hstart : State.start.Ordered := ⟨trivial, by simp [State.start]⟩
  unfold ofBytes readBytes at h
  cases hrun : State.start.run 0 bytes with
  | error e =>
      rw [hrun] at h
      cases h
  | ok s =>
      rw [hrun] at h
      dsimp only at h
      split at h
      · next hfinish =>
        cases h
        exact (hstart.run hrun).finish hfinish
      · cases h

end Json

end Switchboard
