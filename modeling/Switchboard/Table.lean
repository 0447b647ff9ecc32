/-!
# Tables: finite maps kept in key order

A `Table κ ν` binds each of finitely many keys to one value and lists its bindings with the keys
strictly increasing. Two tables that answer every look-up alike are therefore equal
(`Table.ext_get?`), so a table never remembers the order in which it was filled.

The operations on the underlying lists live in `Assoc`, because other types (the members of a JSON
object) carry such lists without the proof. The statements to use are the four laws of the view
`get?`: `get?_empty`, `get?_insert`, `get?_erase` and `get?_filter`.
-/

set_option linter.unusedSectionVars false

namespace Switchboard

open Std

/-! ## Association lists in key order -/

namespace Assoc

variable {κ ν : Type} [Ord κ]

/-- The value bound to `k`. -/
def get? (k : κ) : List (κ × ν) → Option ν
  | [] => none
  | (k', v) :: rest => if compare k k' = .eq then some v else get? k rest

/-- Binds `k` to `v` at its place in key order, in place of an earlier binding of `k`. -/
def insert (k : κ) (v : ν) : List (κ × ν) → List (κ × ν)
  | [] => [(k, v)]
  | (k', v') :: rest =>
    match compare k k' with
    | .lt => (k, v) :: (k', v') :: rest
    | .eq => (k, v) :: rest
    | .gt => (k', v') :: insert k v rest

/-- Leaves out the binding of `k`. -/
def erase (k : κ) (bs : List (κ × ν)) : List (κ × ν) :=
  bs.filter fun b => compare k b.1 != .eq

/-- The keys strictly increase. -/
def Sorted (bs : List (κ × ν)) : Prop :=
  bs.Pairwise fun a b => compare a.1 b.1 = .lt

/-- The list of the given bindings; of two bindings of one key the later one stays. -/
def ofList (bs : List (κ × ν)) : List (κ × ν) :=
  bs.foldl (fun acc b => insert b.1 b.2 acc) []

/-- What is among bindings after an insertion is the new one or was there before. -/
theorem mem_insert {k : κ} {v : ν} {bs : List (κ × ν)} {b : κ × ν}
    (h : b ∈ insert k v bs) :
    b = (k, v) ∨ b ∈ bs := by
  induction bs with
  | nil => simpa [insert] using h
  | cons c rest ih =>
    obtain ⟨k', v'⟩ := c
    simp only [insert] at h
    split at h
    · simpa using h
    · rcases List.mem_cons.1 h with h | h
      · exact .inl h
      · exact .inr (List.mem_cons_of_mem _ h)
    · rcases List.mem_cons.1 h with h | h
      · exact .inr (h ▸ List.mem_cons_self)
      · rcases ih h with h | h
        · exact .inl h
        · exact .inr (List.mem_cons_of_mem _ h)

/-- What comes before all keys is not among them. -/
theorem get?_of_lt {k : κ} {bs : List (κ × ν)} (h : ∀ b ∈ bs, compare k b.1 = .lt) :
    get? k bs = none := by
  induction bs with
  | nil => rfl
  | cons b rest ih =>
    obtain ⟨hb, hrest⟩ := List.forall_mem_cons.1 h
    simp [get?, hb, ih hrest]

variable [TransOrd κ]

/-- Sorted bindings stay sorted when one is inserted. -/
theorem sorted_insert {k : κ} {v : ν} {bs : List (κ × ν)} (h : Sorted bs) :
    Sorted (insert k v bs) := by
  induction bs with
  | nil => simp [insert, Sorted]
  | cons c rest ih =>
    obtain ⟨k', v'⟩ := c
    obtain ⟨hk', hrest⟩ := List.pairwise_cons.1 h
    simp only [insert]
    split
    · next hlt =>
      refine List.pairwise_cons.2 ⟨fun b hb => ?_, h⟩
      rcases List.mem_cons.1 hb with rfl | hb
      · exact hlt
      · exact TransCmp.lt_trans hlt (hk' b hb)
    · next heq =>
      refine List.pairwise_cons.2 ⟨fun b hb => ?_, hrest⟩
      exact TransCmp.lt_of_eq_of_lt heq (hk' b hb)
    · next hgt =>
      refine List.pairwise_cons.2 ⟨fun b hb => ?_, ih hrest⟩
      rcases mem_insert hb with rfl | hb
      · exact OrientedCmp.lt_of_gt hgt
      · exact hk' b hb

omit [TransOrd κ] in
/-- Sorted bindings stay sorted when some are left out. -/
theorem sorted_filter {p : κ × ν → Bool} {bs : List (κ × ν)} (h : Sorted bs) :
    Sorted (bs.filter p) :=
  List.Pairwise.filter p h

variable [LawfulEqOrd κ] [DecidableEq κ]

/-- A binding that is inserted is found under its key, the others as before. -/
theorem get?_insert {k k' : κ} {v : ν} {bs : List (κ × ν)} :
    get? k' (insert k v bs) = if k' = k then some v else get? k' bs := by
  induction bs with
  | nil => simp [insert, get?, LawfulEqCmp.compare_eq_iff_eq]
  | cons c rest ih =>
    obtain ⟨k₁, v₁⟩ := c
    simp only [insert]
    split
    · simp [get?, LawfulEqCmp.compare_eq_iff_eq]
    · next heq =>
      have heq := LawfulEqCmp.eq_of_compare heq
      subst heq
      by_cases hk : k' = k <;> simp [get?, LawfulEqCmp.compare_eq_iff_eq, hk]
    · next hgt =>
      have hne : k₁ ≠ k := by
        rintro rfl
        simp [ReflCmp.compare_self] at hgt
      by_cases hk : k' = k₁
      · subst hk
        simp [get?, hne]
      · simp [get?, LawfulEqCmp.compare_eq_iff_eq, hk, ih]

/-- Of several bindings of one key the last one counts. -/
theorem get?_ofList {k : κ} {bs : List (κ × ν)} :
    get? k (ofList bs) = (bs.reverse.find? fun b => b.1 = k).map (·.2) := by
  have hfold : ∀ (bs acc : List (κ × ν)),
      get? k (bs.foldl (fun acc b => insert b.1 b.2 acc) acc) =
        ((bs.reverse.find? fun b => b.1 = k).map (·.2)).or (get? k acc) := by
    intro bs
    induction bs with
    | nil => simp
    | cons b rest ih =>
      intro acc
      rw [List.foldl_cons, ih, get?_insert, List.reverse_cons, List.find?_append]
      by_cases hb : b.1 = k
      · cases rest.reverse.find? fun b => decide (b.1 = k) <;> simp [hb]
      · have hk : k ≠ b.1 := fun h => hb h.symm
        cases rest.reverse.find? fun b => decide (b.1 = k) <;> simp [hb, hk]
  rw [ofList, hfold]
  simp [get?]

/-- A binding is found among those that are kept iff it was there and is kept. -/
theorem get?_filter {p : κ → ν → Bool} {k : κ} {bs : List (κ × ν)} (h : Sorted bs) :
    get? k (bs.filter fun b => p b.1 b.2) = (get? k bs).filter (p k) := by
  induction bs with
  | nil => rfl
  | cons c rest ih =>
    obtain ⟨k₁, v₁⟩ := c
    obtain ⟨hk₁, hrest⟩ := List.pairwise_cons.1 h
    by_cases hk : k = k₁
    · subst hk
      by_cases hp : p k v₁
      · simp [get?, hp, Option.filter]
      · simp only [List.filter_cons, hp, get?, LawfulEqCmp.compare_eq_iff_eq]
        simp only [Bool.false_eq_true, ↓reduceIte, Option.filter_some, hp]
        exact get?_of_lt fun b hb => hk₁ b (List.mem_filter.1 hb).1
    · by_cases hp : p k₁ v₁ <;>
        simp [get?, hp, hk, LawfulEqCmp.compare_eq_iff_eq, ih hrest]

/-- Among sorted bindings one is found iff it is there. -/
theorem get?_eq_some_iff {k : κ} {v : ν} {bs : List (κ × ν)} (h : Sorted bs) :
    get? k bs = some v ↔ (k, v) ∈ bs := by
  induction bs with
  | nil => simp [get?]
  | cons c rest ih =>
    obtain ⟨k₁, v₁⟩ := c
    obtain ⟨hk₁, hrest⟩ := List.pairwise_cons.1 h
    by_cases hk : k = k₁
    · subst hk
      have hout : (k, v) ∉ rest := fun hm => by
        have := hk₁ _ hm
        simp [ReflCmp.compare_self] at this
      simp [get?, hout, eq_comm]
    · simp [get?, LawfulEqCmp.compare_eq_iff_eq, hk, ih hrest]

/-- Lists in key order that answer every look-up alike are equal. -/
theorem eq_of_get? {bs cs : List (κ × ν)} (hb : Sorted bs) (hc : Sorted cs)
    (h : ∀ k, get? k bs = get? k cs) : bs = cs := by
  induction bs generalizing cs with
  | nil =>
    cases cs with
    | nil => rfl
    | cons c cs =>
      have := h c.1
      simp [get?, ReflCmp.compare_self] at this
  | cons b bs ih =>
    cases cs with
    | nil =>
      have := h b.1
      simp [get?, ReflCmp.compare_self] at this
    | cons c cs =>
      obtain ⟨hb₁, hbs⟩ := List.pairwise_cons.1 hb
      obtain ⟨hc₁, hcs⟩ := List.pairwise_cons.1 hc
      have hmem : ∀ x, x ∈ b :: bs ↔ x ∈ c :: cs := fun x => by
        rw [← get?_eq_some_iff (k := x.1) (v := x.2) hb,
          ← get?_eq_some_iff (k := x.1) (v := x.2) hc, h]
      have hbc : b = c := by
        rcases List.mem_cons.1 ((hmem b).1 List.mem_cons_self) with hbc | hbc
        · exact hbc
        · rcases List.mem_cons.1 ((hmem c).2 List.mem_cons_self) with hcb | hcb
          · exact hcb.symm
          · have := TransCmp.lt_trans (hb₁ c hcb) (hc₁ b hbc)
            simp [ReflCmp.compare_self] at this
      subst hbc
      have hout : ∀ {ys : List (κ × ν)}, (∀ y ∈ ys, compare b.1 y.1 = .lt) →
          ∀ v, (b.1, v) ∉ ys :=
        fun hy v hm => by
          have := hy _ hm
          simp [ReflCmp.compare_self] at this
      refine congrArg (b :: ·) (ih hbs hcs fun k => ?_)
      apply Option.ext
      intro v
      rw [get?_eq_some_iff hbs, get?_eq_some_iff hcs]
      constructor
      · intro hm
        rcases List.mem_cons.1 ((hmem (k, v)).1 (List.mem_cons_of_mem _ hm)) with rfl | hm'
        · exact absurd hm (hout hb₁ v)
        · exact hm'
      · intro hm
        rcases List.mem_cons.1 ((hmem (k, v)).2 (List.mem_cons_of_mem _ hm)) with rfl | hm'
        · exact absurd hm (hout hc₁ v)
        · exact hm'

end Assoc

/-! ## Tables -/

/-- A finite map, listed with its keys strictly increasing. -/
structure Table (κ ν : Type) [Ord κ] where
  /-- The bindings. -/
  entries : List (κ × ν)
  /-- Keys strictly increase, so no key is bound twice. -/
  sorted : Assoc.Sorted entries

namespace Table

variable {κ ν : Type} [Ord κ]

/-- Binds nothing. -/
def empty : Table κ ν := ⟨[], List.Pairwise.nil⟩

instance : Inhabited (Table κ ν) := ⟨empty⟩

/-- The value bound to `k`. -/
def get? (t : Table κ ν) (k : κ) : Option ν := Assoc.get? k t.entries

/-- `k` is bound. -/
def contains (t : Table κ ν) (k : κ) : Bool := (t.get? k).isSome

/-- How many keys are bound. -/
def size (t : Table κ ν) : Nat := t.entries.length

/-- The bound keys, strictly increasing. -/
def keys (t : Table κ ν) : List κ := t.entries.map (·.1)

/-- The bound values, in the order of their keys. -/
def values (t : Table κ ν) : List ν := t.entries.map (·.2)

/-- Keeps the bindings that satisfy `p`. -/
def filter (t : Table κ ν) (p : κ → ν → Bool) : Table κ ν :=
  ⟨t.entries.filter fun b => p b.1 b.2, Assoc.sorted_filter t.sorted⟩

/-- Leaves out the binding of `k`. -/
def erase (t : Table κ ν) (k : κ) : Table κ ν :=
  t.filter fun k' _ => compare k k' != .eq

variable [TransOrd κ]

/-- Binds `k` to `v`, in place of an earlier binding of `k`. -/
def insert (t : Table κ ν) (k : κ) (v : ν) : Table κ ν :=
  ⟨Assoc.insert k v t.entries, Assoc.sorted_insert t.sorted⟩

/-- Replaces what `k` is bound to by its image under `f`. -/
def alter (t : Table κ ν) (k : κ) (f : Option ν → ν) : Table κ ν :=
  t.insert k (f (t.get? k))

/-! ### The view `get?` -/

/-- Nothing is found in the empty table. -/
@[simp] theorem get?_empty (k : κ) : (empty : Table κ ν).get? k = none := rfl

variable [LawfulEqOrd κ] [DecidableEq κ]

/-- A binding that is inserted into a table is found under its key, the others as before. -/
theorem get?_insert (t : Table κ ν) (k k' : κ) (v : ν) :
    (t.insert k v).get? k' = if k' = k then some v else t.get? k' := by
  simp [get?, insert, Assoc.get?_insert]

/-- A binding is found in a filtered table iff it was there and is kept. -/
theorem get?_filter (t : Table κ ν) (p : κ → ν → Bool) (k : κ) :
    (t.filter p).get? k = (t.get? k).filter (p k) :=
  Assoc.get?_filter t.sorted

/-- A key that is erased is not found, the others as before. -/
theorem get?_erase (t : Table κ ν) (k k' : κ) :
    (t.erase k).get? k' = if k' = k then none else t.get? k' := by
  rw [erase, get?_filter]
  by_cases h : k' = k
  · subst h
    cases t.get? k' <;> simp [Option.filter, ReflCmp.compare_self]
  · have h' : compare k k' ≠ .eq := fun he => h (LawfulEqCmp.eq_of_compare he).symm
    cases t.get? k' <;> simp [Option.filter, h, h']

/-- The bindings of a table are those that are found in it. -/
theorem mem_entries_iff (t : Table κ ν) {k : κ} {v : ν} :
    (k, v) ∈ t.entries ↔ t.get? k = some v :=
  (Assoc.get?_eq_some_iff t.sorted).symm

/-- The keys of a table are those under which something is found. -/
theorem mem_keys_iff (t : Table κ ν) {k : κ} : k ∈ t.keys ↔ ∃ v, t.get? k = some v := by
  simp only [keys, List.mem_map, Prod.exists, exists_and_right, exists_eq_right, mem_entries_iff]

/-- No key stands twice in a table. -/
theorem nodup_keys (t : Table κ ν) : t.keys.Nodup := by
  refine List.pairwise_map.2 (t.sorted.imp fun {a b} hlt heq => ?_)
  have hself : compare b.1 b.1 = .lt := heq ▸ hlt
  simp [ReflCmp.compare_self] at hself

/-- Tables that answer every look-up alike are equal. -/
theorem ext_get? {s t : Table κ ν} (h : ∀ k, s.get? k = t.get? k) : s = t := by
  obtain ⟨bs, hb⟩ := s
  obtain ⟨cs, hc⟩ := t
  have : bs = cs := Assoc.eq_of_get? hb hc h
  subst this
  rfl

end Table

end Switchboard
