import Mathlib.Tactic.SplitIfs
import Switchboard.Json.Reader
import Switchboard.Text.Blank

/-!
# Space around JSON

Space before and after a value does not change what is read. The reader counts bytes to tell the
place of an error, so what has to be shown is that the place decides nothing else; then space leaves
the reader where it starts, and leaves it with its value once there is one.

* `toOption_step`, `toOption_run`, `toOption_finish`: what a byte, bytes and the end of the text
  come to, errors apart, is the same wherever they stand.
* `run_start_of_spaces`, `finish_run_of_spaces`: space before a value and space after it.
* `IsSpacing`, **`ofText_spaced`**: a text with space around it denotes what it denotes alone.
* **`ofText_of_allBlank`**: a blank text denotes nothing, also where its blanks are no space.
-/

namespace Switchboard.Json

open Text

/-! ## The place of a byte -/

/-- What a byte does to a string that is being read, errors apart. -/
def QuotedStep.kept? : QuotedStep → Option (Quoted ⊕ String)
  | more q => some (.inl q)
  | closed s => some (.inr s)
  | wrong _ _ => none

/-- What an escape of four digits comes to does not depend on its place, errors apart. -/
theorem Quoted.kept?_addCode (q : Quoted) (i j code : Nat) (high : Option Nat) :
    (q.addCode i code high).kept? = (q.addCode j code high).kept? := by
  cases high <;> simp only [addCode] <;> split_ifs <;> rfl

/-- What a byte does to a string does not depend on its place, errors apart. -/
theorem Quoted.kept?_step (q : Quoted) (i j : Nat) (b : UInt8) :
    (q.step i b).kept? = (q.step j b).kept? := by
  obtain ⟨decoder, escape⟩ := q
  cases escape with
  | outside =>
      simp only [step]
      split_ifs
      · cases decoder.finish <;> rfl
      all_goals rfl
  | letter =>
      simp only [step]
      split_ifs
      · rfl
      · cases escaped? b <;> rfl
  | hex digits high =>
      simp only [step]
      split_ifs
      · rfl
      · cases hexValue? (b :: digits) with
        | none => rfl
        | some code => exact kept?_addCode _ _ _ code high
  | pairBackslash high =>
      simp only [step]
      split_ifs <;> rfl
  | pairLetter high =>
      simp only [step]
      split_ifs <;> rfl

namespace State

/-- What the first byte of a value comes to does not depend on its place, errors apart. -/
theorem toOption_beginValue (waiting : List Frame) (i j : Nat) (b : UInt8) :
    (beginValue waiting i b).toOption = (beginValue waiting j b).toOption := by
  simp only [beginValue]
  cases digit? b <;> split_ifs <;> rfl

/-- What a byte between tokens comes to does not depend on its place, errors apart. -/
theorem toOption_between (s : State) (i j : Nat) (b : UInt8) :
    (s.between i b).toOption = (s.between j b).toOption := by
  obtain ⟨phase, waiting⟩ := s
  have hvalue := fun waiting => toOption_beginValue waiting i j b
  cases phase <;> simp only [between] <;> split_ifs <;> first | rfl | exact hvalue _

/-- **The place of a byte** matters to errors alone. -/
theorem toOption_step (s : State) (i j : Nat) (b : UInt8) :
    (s.step i b).toOption = (s.step j b).toOption := by
  obtain ⟨phase, waiting⟩ := s
  have hbetween := fun s => toOption_between s i j b
  cases phase with
  | word rest v =>
      cases rest with
      | nil => exact hbetween _
      | cons e rest =>
          simp only [step]
          split_ifs <;> rfl
  | number n =>
      simp only [step]
      cases n.step b with
      | more n => rfl
      | wrong f => rfl
      | ended =>
          cases n.value? with
          | none => rfl
          | some v => exact hbetween _
  | string q =>
      have hq := q.kept?_step i j b
      simp only [step]
      cases hi : q.step i b <;> cases hj : q.step j b <;> rw [hi, hj] at hq <;> cases hq <;> rfl
  | name before q =>
      have hq := q.kept?_step i j b
      simp only [step]
      cases hi : q.step i b <;> cases hj : q.step j b <;> rw [hi, hj] at hq <;> cases hq <;> rfl
  | _ => simp only [step, hbetween _]

/-- **What bytes come to** does not depend on their place, errors apart, by induction on them. -/
theorem toOption_run (s : State) (i j : Nat) (bs : List UInt8) :
    (s.run i bs).toOption = (s.run j bs).toOption := by
  induction bs generalizing s i j with
  | nil => rfl
  | cons b rest ih =>
      have hstep := s.toOption_step i j b
      simp only [run]
      cases hi : s.step i b <;> cases hj : s.step j b <;> rw [hi, hj] at hstep
      · rfl
      · cases hstep
      · cases hstep
      · obtain rfl := Option.some.inj hstep
        exact ih _ _ _

/-- What the end of the text comes to does not depend on its place, errors apart. -/
theorem toOption_finish (s : State) (i j : Nat) :
    (s.finish i).toOption = (s.finish j).toOption := by
  obtain ⟨phase, waiting⟩ := s
  cases phase with
  | number n =>
      simp only [finish]
      split_ifs
      · cases n.value? with
        | none => rfl
        | some v => rcases waiting with _ | ⟨_ | _, _⟩ <;> rfl
      · rfl
  | _ => rfl

end State

/-- Results that are equal apart from errors have the same value. -/
theorem eq_ok_of_toOption_eq {ε α : Type} {x y : Except ε α} {a : α}
    (h : x.toOption = y.toOption) (hx : x = .ok a) : y = .ok a := by
  subst hx
  cases y with
  | error e => cases h
  | ok b => rw [Option.some.inj h]

/-! ## Space -/

/-- Space is one of four bytes. -/
theorem isSpace_iff {b : UInt8} :
    isSpace b = true ↔ b = 0x20 ∨ b = 0x09 ∨ b = 0x0A ∨ b = 0x0D := by
  simp [isSpace, or_assoc]

/-- A number that may end is ended by a space. -/
theorem Numeral.step_of_space {n : Numeral} {b : UInt8} (hn : n.complete = true)
    (hb : isSpace b = true) :
    n.step b = .ended := by
  have hspace : digit? b = none ∧ ∀ pointAllowed, n.extend pointAllowed b = .ended := by
    obtain rfl | rfl | rfl | rfl := isSpace_iff.1 hb
    all_goals exact ⟨rfl, fun pointAllowed => by cases pointAllowed <;> rfl⟩
  obtain ⟨hdigit, hextend⟩ := hspace
  unfold complete at hn
  unfold step
  rw [hdigit]
  cases hpart : n.part <;> simp_all

namespace State

variable {s t : State} {v : Json} {b : UInt8} {bs : List UInt8}

/-- Bytes that can be read can be read at any other place. -/
theorem run_of_run {i : Nat} (h : s.run i bs = .ok t) (j : Nat) : s.run j bs = .ok t :=
  eq_ok_of_toOption_eq (s.toOption_run i j bs) h

/-- A text that can end can end at any other place. -/
theorem finish_of_finish {i : Nat} (h : s.finish i = .ok v) (j : Nat) : s.finish j = .ok v :=
  eq_ok_of_toOption_eq (s.toOption_finish i j) h

/-- Space before a value leaves the reader where it starts. -/
theorem run_start_of_spaces (h : ∀ b ∈ bs, isSpace b = true) (i : Nat) :
    start.run i bs = .ok start := by
  induction bs generalizing i with
  | nil => rfl
  | cons b rest ih =>
      obtain ⟨hb, hrest⟩ := List.forall_mem_cons.1 h
      have hstep : start.step i b = .ok start := if_pos hb
      simp only [run, hstep, ih hrest]

/-- A space where the text could end leaves the reader with its value. -/
theorem finish_step_of_space {i : Nat} (h : s.finish i = .ok v) (hb : isSpace b = true) :
    ∃ t, s.step i b = .ok t ∧ t.finish (i + 1) = .ok v := by
  obtain ⟨phase, waiting⟩ := s
  have hbetween : ∀ s : State, s.between i b = .ok s := fun s => if_pos hb
  cases phase with
  | done w => exact ⟨⟨.done w, waiting⟩, hbetween ⟨.done w, waiting⟩, h⟩
  | number n =>
      simp only [finish] at h
      split_ifs at h with hn
      · split at h
        · cases h
        · next w hw =>
          cases h
          refine ⟨⟨.done v, []⟩, ?_, rfl⟩
          simp only [step, Numeral.step_of_space hn hb, hw, hbetween, deliver]
        · cases h
        · cases h
  | _ => cases h

/-- Space after a value leaves the reader with it. -/
theorem finish_run_of_spaces {i : Nat} (h : s.finish i = .ok v)
    (hbs : ∀ b ∈ bs, isSpace b = true) :
    ∃ t, s.run i bs = .ok t ∧ t.finish (i + bs.length) = .ok v := by
  induction bs generalizing s i with
  | nil => exact ⟨s, rfl, h⟩
  | cons b rest ih =>
      obtain ⟨hb, hrest⟩ := List.forall_mem_cons.1 hbs
      obtain ⟨t, ht, hfinish⟩ := finish_step_of_space h hb
      obtain ⟨u, hu, hvalue⟩ := ih hfinish hrest
      refine ⟨u, ?_, ?_⟩
      · simp only [run, ht, hu]
      · rw [List.length_cons, Nat.add_comm rest.length, ← Nat.add_assoc]
        exact hvalue

end State

/-- Bytes denote a value iff the reader takes them all and has the value in the end. -/
theorem readBytes_eq_ok_iff {bs : List UInt8} {v : Json} :
    readBytes bs = .ok v ↔ ∃ s, State.start.run 0 bs = .ok s ∧
      s.finish bs.length = .ok v := by
  unfold readBytes
  cases State.start.run 0 bs <;> simp

/-- Bytes with spaces around them denote what they denote alone. -/
theorem readBytes_spaced {before bs after : List UInt8} {v : Json} (h : readBytes bs = .ok v)
    (hbefore : ∀ b ∈ before, isSpace b = true) (hafter : ∀ b ∈ after, isSpace b = true) :
    readBytes (before ++ bs ++ after) = .ok v := by
  obtain ⟨s, hrun, hfinish⟩ := readBytes_eq_ok_iff.1 h
  have hvalue := State.finish_of_finish hfinish (before ++ bs).length
  obtain ⟨t, hrest, hend⟩ := State.finish_run_of_spaces hvalue hafter
  refine readBytes_eq_ok_iff.2 ⟨t, ?_, by rwa [List.length_append]⟩
  have hbytes : State.start.run 0 (before ++ bs) = .ok s := by
    rw [State.run_append, State.run_start_of_spaces hbefore]
    exact State.run_of_run hrun _
  rw [State.run_append, hbytes, Nat.zero_add]
  exact hrest

/-! ## Texts -/

/-- The bytes of a text are those of its characters one after the other. -/
theorem encodeUtf8_eq (s : String) : encodeUtf8 s = s.toList.flatMap String.utf8EncodeChar := by
  have hbytes : s.toByteArray = s.toList.utf8Encode := by
    have hchars := String.toByteArray_ofList (l := s.toList)
    rwa [String.ofList_toList] at hchars
  unfold encodeUtf8
  rw [String.toUTF8_eq_toByteArray, hbytes, List.utf8Encode, List.data_toByteArray]

/-- The bytes of two texts together are those of the one and then of the other. -/
theorem encodeUtf8_append (s t : String) : encodeUtf8 (s ++ t) = encodeUtf8 s ++ encodeUtf8 t := by
  simp only [encodeUtf8_eq, String.toList_append, List.flatMap_append]

/-- A text denotes what its bytes denote. -/
theorem ofText_eq_ok_iff {s : String} {v : Json} :
    ofText s = .ok v ↔ readBytes (encodeUtf8 s) = .ok v := by
  unfold ofText ofBytes
  cases readBytes (encodeUtf8 s) <;> simp

/-- The text is space, as it may stand between the parts of a JSON text. -/
def IsSpacing (s : String) : Prop :=
  ∀ c ∈ s.toList, c = ' ' ∨ c = '\t' ∨ c = '\n' ∨ c = '\r'

/-- The bytes of a text of space are space. -/
theorem IsSpacing.isSpace {s : String} (h : IsSpacing s) :
    ∀ b ∈ encodeUtf8 s, isSpace b = true := by
  intro b hb
  rw [encodeUtf8_eq, List.mem_flatMap] at hb
  obtain ⟨c, hc, hb⟩ := hb
  have hspaces : [' ', '\t', '\n', '\r'].all (fun c => (String.utf8EncodeChar c).all Json.isSpace) =
      true := by decide
  have hbytes := List.all_eq_true.1 hspaces c (by simpa using h c hc)
  exact List.all_eq_true.1 hbytes b hb

/-- **Space around a text** does not change what it denotes. -/
theorem ofText_spaced {before s after : String} {v : Json} (h : ofText s = .ok v)
    (hbefore : IsSpacing before) (hafter : IsSpacing after) :
    ofText (before ++ s ++ after) = .ok v := by
  rw [ofText_eq_ok_iff] at h ⊢
  rw [encodeUtf8_append, encodeUtf8_append]
  exact readBytes_spaced h hbefore.isSpace hafter.isSpace

/-! ## Blank texts -/

/-- The blank characters are finitely many. -/
theorem toNat_mem_of_isBlank {c : Char} (h : isBlank c = true) :
    c.toNat ∈ [0x20, 0x09, 0x0A, 0x0B, 0x0C, 0x0D] ++ blankBeyondAscii := by
  simp only [isBlank, Bool.or_eq_true, Bool.and_eq_true, decide_eq_true_eq,
    List.contains_iff_mem] at h
  rw [List.mem_append]
  rcases h with (h | h) | h
  · exact .inl (by simp [h])
  · refine .inl ?_
    simp only [List.mem_cons]
    omega
  · exact .inr h.2

/-- The bytes of a blank character are spaces, or no value begins with them. -/
theorem bytes_of_isBlank {c : Char} (h : isBlank c = true) :
    (∀ b ∈ String.utf8EncodeChar c, isSpace b = true) ∨
      (State.start.run 0 (String.utf8EncodeChar c)).toOption.isNone = true := by
  have hblanks : ([0x20, 0x09, 0x0A, 0x0B, 0x0C, 0x0D] ++ blankBeyondAscii).all (fun n =>
      (String.utf8EncodeChar (Char.ofNat n)).all isSpace ||
        (State.start.run 0 (String.utf8EncodeChar (Char.ofNat n))).toOption.isNone) =
          true := by decide
  have hbytes := List.all_eq_true.1 hblanks c.toNat (toNat_mem_of_isBlank h)
  rwa [Char.ofNat_toNat, Bool.or_eq_true, List.all_eq_true] at hbytes

/-- No value begins in blank characters. -/
theorem State.run_start_of_blanks {cs : List Char} (h : ∀ c ∈ cs, isBlank c = true)
    {i : Nat} {s : State} (hrun : start.run i (cs.flatMap String.utf8EncodeChar) = .ok s) :
    s = start := by
  induction cs generalizing i with
  | nil => exact (Except.ok.inj hrun).symm
  | cons c rest ih =>
      obtain ⟨hc, hrest⟩ := List.forall_mem_cons.1 h
      rw [List.flatMap_cons, run_append] at hrun
      rcases bytes_of_isBlank hc with hspaces | hnone
      · rw [run_start_of_spaces hspaces] at hrun
        exact ih hrest hrun
      · rw [start.toOption_run 0 i] at hnone
        cases hfirst : start.run i (String.utf8EncodeChar c) <;> rw [hfirst] at hrun hnone
        · cases hrun
        · cases hnone

/-- **A blank text** denotes nothing. -/
theorem ofText_of_allBlank {s : String} (h : allBlank s = true) (v : Json) :
    ofText s ≠ .ok v := by
  intro hs
  rw [ofText_eq_ok_iff, encodeUtf8_eq, readBytes_eq_ok_iff] at hs
  obtain ⟨t, hrun, hfinish⟩ := hs
  obtain rfl := State.run_start_of_blanks (List.all_eq_true.1 h) hrun
  cases hfinish

/-- A no-break space is blank, but it may not stand around a value. -/
example : allBlank "\u00a0" = true ∧ (ofText "\u00a0null").toOption.isNone = true := by decide

end Switchboard.Json
