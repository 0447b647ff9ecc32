import Mathlib.Data.List.TakeWhile
import Switchboard.Decimal.Shortest
import Switchboard.Text.Blank
import Switchboard.Text.Numeral

/-!
# Numbers and their texts

* `Spells`: the grammar of whole numbers in text, with the number that is spelled.
  **`readInt64?_eq_some_iff`**: a text is read as a word of 64 bits iff it spells the value of the
  word. `spells_toString`: every number is spelled by the text that is written for it.
* `mem_trimChars`, `trim_eq_self`: what trimming keeps.
* `Binary64.Layout.mark_of_write`: the text of a number that is not a whole number has a point or an
  exponent, so it does not spell a whole number.
-/

namespace Switchboard

/-! ## Words of 64 bits -/

/-- A word of 64 bits has a value that fits it. -/
theorem fitsInt64_toInt (w : Int64) : FitsInt64 w.toInt :=
  ⟨w.le_toInt, Int.le_of_lt_add_one w.toInt_lt⟩

/-- A number is the word with its value. -/
theorem int64?_eq_some_iff {n : Int} {w : Int64} : int64? n = some w ↔ w.toInt = n := by
  unfold int64?
  constructor
  · intro h
    split at h
    · next hfits =>
      obtain rfl := Option.some.inj h
      exact Int64.toInt_ofInt_of_le hfits.1 (Int.lt_add_one_of_le hfits.2)
    · cases h
  · rintro rfl
    rw [if_pos (fitsInt64_toInt w), Int64.ofInt_toInt]

namespace Text

/-! ## Whole numbers -/

/-- At least one digit `0` to `9`, and nothing else. -/
structure IsDigits (cs : List Char) : Prop where
  ne_nil : cs ≠ []
  isDigit : ∀ c ∈ cs, c.isDigit = true

/-- **The characters spell a whole number**: digits in decimal behind an optional sign. -/
inductive Spells : List Char → Int → Prop where
  | unsigned {ds : List Char} (h : IsDigits ds) : Spells ds (Nat.ofDigitChars 10 ds 0)
  | plus {ds : List Char} (h : IsDigits ds) : Spells ('+' :: ds) (Nat.ofDigitChars 10 ds 0)
  | minus {ds : List Char} (h : IsDigits ds) :
      Spells ('-' :: ds) (-(Nat.ofDigitChars 10 ds 0 : Int))

/-- A numeral consists of digits and signs. -/
theorem Spells.mem {cs : List Char} {n : Int} (h : Spells cs n) {c : Char} (hc : c ∈ cs) :
    c.isDigit = true ∨ c = '+' ∨ c = '-' := by
  cases h with
  | unsigned h => exact .inl (h.isDigit c hc)
  | plus h =>
      rcases List.mem_cons.1 hc with rfl | hc
      · exact .inr (.inl rfl)
      · exact .inl (h.isDigit c hc)
  | minus h =>
      rcases List.mem_cons.1 hc with rfl | hc
      · exact .inr (.inr rfl)
      · exact .inl (h.isDigit c hc)

/-- A digit has a value iff it is one of `0` to `9`. -/
theorem digit?_eq_some_iff {c : Char} {d : Nat} :
    digit? c = some d ↔ c.isDigit = true ∧ d = c.toNat - '0'.toNat := by
  have hdigit : (decide ('0' ≤ c) && decide (c ≤ '9')) = c.isDigit := rfl
  unfold digit?
  rw [hdigit]
  split
  · next h => simp [h, eq_comm]
  · next h => simp [h]

/-- Digits are read into the number that they denote: by induction on the digits, after any
number. -/
theorem digits?_eq_some_iff {cs : List Char} {acc n : Nat} :
    digits? acc cs = some n ↔ (∀ c ∈ cs, c.isDigit = true) ∧
      Nat.ofDigitChars 10 cs acc = n := by
  induction cs generalizing acc with
  | nil => simp [digits?]
  | cons c cs ih =>
      rw [digits?, Option.bind_eq_some_iff, List.forall_mem_cons, Nat.ofDigitChars_cons,
        Nat.mul_comm 10]
      constructor
      · rintro ⟨d, hd, hrest⟩
        obtain ⟨hc, rfl⟩ := digit?_eq_some_iff.1 hd
        obtain ⟨hcs, hn⟩ := ih.1 hrest
        exact ⟨⟨hc, hcs⟩, hn⟩
      · rintro ⟨⟨hc, hcs⟩, hn⟩
        exact ⟨_, digit?_eq_some_iff.2 ⟨hc, rfl⟩, ih.2 ⟨hcs, hn⟩⟩

/-- Text is a numeral iff it consists of digits, and at least of one. -/
theorem numeral?_eq_some_iff {cs : List Char} {n : Nat} :
    numeral? cs = some n ↔ IsDigits cs ∧ Nat.ofDigitChars 10 cs 0 = n := by
  cases cs with
  | nil =>
      constructor
      · intro h
        cases h
      · rintro ⟨h, -⟩
        exact absurd rfl h.ne_nil
  | cons c cs =>
      rw [numeral?, digits?_eq_some_iff]
      · exact ⟨fun ⟨h, hn⟩ => ⟨⟨List.cons_ne_nil c cs, h⟩, hn⟩,
          fun ⟨h, hn⟩ => ⟨h.isDigit, hn⟩⟩
      · exact List.cons_ne_nil c cs

/-- Behind a minus sign a numeral is read as its opposite. -/
theorem signedNumeral?_minus (cs : List Char) :
    signedNumeral? ('-' :: cs) = (numeral? cs).map fun n : Nat => -(n : Int) := by
  rw [signedNumeral?]
  cases numeral? cs <;> rfl

/-- **Text is a signed numeral** iff it spells a number. -/
theorem signedNumeral?_eq_some_iff {cs : List Char} {n : Int} :
    signedNumeral? cs = some n ↔ Spells cs n := by
  constructor
  · intro h
    unfold signedNumeral? at h
    split at h
    · next cs =>
      have hminus : signedNumeral? ('-' :: cs) = some n := h
      rw [signedNumeral?_minus] at hminus
      obtain ⟨m, hm, rfl⟩ := Option.map_eq_some_iff.1 hminus
      obtain ⟨hdigits, rfl⟩ := numeral?_eq_some_iff.1 hm
      exact .minus hdigits
    · obtain ⟨m, hm, rfl⟩ := Option.map_eq_some_iff.1 h
      obtain ⟨hdigits, rfl⟩ := numeral?_eq_some_iff.1 hm
      exact .plus hdigits
    · obtain ⟨m, hm, rfl⟩ := Option.map_eq_some_iff.1 h
      obtain ⟨hdigits, rfl⟩ := numeral?_eq_some_iff.1 hm
      exact .unsigned hdigits
  · intro h
    cases h with
    | plus h => exact Option.map_eq_some_iff.2 ⟨_, numeral?_eq_some_iff.2 ⟨h, rfl⟩, rfl⟩
    | minus h =>
        rw [signedNumeral?_minus]
        exact Option.map_eq_some_iff.2 ⟨_, numeral?_eq_some_iff.2 ⟨h, rfl⟩, rfl⟩
    | unsigned h =>
        -- a digit in front is no sign
        unfold signedNumeral?
        split
        · exact absurd (h.isDigit '-' List.mem_cons_self) (by decide)
        · exact absurd (h.isDigit '+' List.mem_cons_self) (by decide)
        · exact Option.map_eq_some_iff.2 ⟨_, numeral?_eq_some_iff.2 ⟨h, rfl⟩, rfl⟩

/-- **A text is read as a word iff it spells the value of the word.** -/
theorem readInt64?_eq_some_iff {s : String} {w : Int64} :
    readInt64? s = some w ↔ Spells s.toList w.toInt := by
  unfold readInt64?
  rw [Option.bind_eq_some_iff]
  constructor
  · rintro ⟨n, hn, hw⟩
    rw [int64?_eq_some_iff.1 hw]
    exact signedNumeral?_eq_some_iff.1 hn
  · intro h
    exact ⟨w.toInt, signedNumeral?_eq_some_iff.2 h, int64?_eq_some_iff.2 rfl⟩

/-- The decimal digits of a number are digits. -/
theorem isDigits_toDigits (n : Nat) : IsDigits (Nat.toDigits 10 n) :=
  ⟨Nat.toDigits_ne_nil, fun _ hc => Nat.isDigit_of_mem_toDigits (by decide) (by decide) hc⟩

/-- Every whole number is spelled by its text. -/
theorem spells_toString (n : Int) : Spells (toString n).toList n := by
  rw [Int.toString_eq_repr, Int.repr_eq_if]
  split
  · next hn =>
    have hspells := Spells.unsigned (isDigits_toDigits n.toNat)
    rw [Nat.ofDigitChars_ten_toDigits, Int.toNat_of_nonneg hn] at hspells
    rwa [Nat.toList_repr]
  · next hn =>
    have hspells := Spells.minus (isDigits_toDigits (-n).toNat)
    rw [Nat.ofDigitChars_ten_toDigits, Int.toNat_of_nonneg (by omega), Int.neg_neg] at hspells
    rwa [String.toList_append, Nat.toList_repr]

/-! ## Trimming -/

/-- Only blank characters are left out in front. -/
theorem mem_dropWhile_isBlank {c : Char} {cs : List Char} (h : c ∈ cs) (hc : isBlank c = false) :
    c ∈ cs.dropWhile isBlank := by
  rw [← List.takeWhile_append_dropWhile (p := isBlank) (l := cs)] at h
  rcases List.mem_append.1 h with hfront | hrest
  · have hblank := List.mem_takeWhile_imp hfront
    rw [hc] at hblank
    cases hblank
  · exact hrest

/-- Only blank characters are left out. -/
theorem mem_trimChars {c : Char} {cs : List Char} (h : c ∈ cs) (hc : isBlank c = false) :
    c ∈ trimChars cs := by
  unfold trimChars
  rw [List.mem_reverse]
  refine mem_dropWhile_isBlank ?_ hc
  rw [List.mem_reverse]
  exact mem_dropWhile_isBlank h hc

/-- A character that is not blank is not trimmed off. -/
theorem mem_trim {c : Char} {s : String} (h : c ∈ s.toList) (hc : isBlank c = false) :
    c ∈ (trim s).toList := by
  rw [trim, String.toList_ofList]
  exact mem_trimChars h hc

/-- A text without blank characters stays as it is. -/
theorem trim_eq_self {s : String} (h : ∀ c ∈ s.toList, isBlank c = false) : trim s = s := by
  have hfront : ∀ cs : List Char, (∀ c ∈ cs, isBlank c = false) →
      cs.dropWhile isBlank = cs := by
    intro cs hcs
    cases cs with
    | nil => rfl
    | cons c cs => exact List.dropWhile_cons_of_neg (by simp [hcs c List.mem_cons_self])
  unfold trim trimChars
  rw [hfront _ h, hfront _ fun c hc => h c (List.mem_reverse.1 hc), List.reverse_reverse,
    String.ofList_toList]

/-- No digit is blank. -/
theorem isBlank_of_isDigit {c : Char} (h : c.isDigit = true) : isBlank c = false := by
  have hbounds : 48 ≤ c.toNat ∧ c.toNat ≤ 57 := by
    rw [Char.isDigit, Bool.and_eq_true, decide_eq_true_eq, decide_eq_true_eq] at h
    exact ⟨UInt32.le_iff_toNat_le.1 h.1, UInt32.le_iff_toNat_le.1 h.2⟩
  unfold isBlank
  simp only [Bool.or_eq_false_iff, Bool.and_eq_false_iff, decide_eq_false_iff_not]
  omega

/-- The text of a whole number has no blank characters. -/
theorem trim_toString (n : Int) : trim (toString n) = toString n := by
  refine trim_eq_self fun c hc => ?_
  rcases (spells_toString n).mem hc with hdigit | rfl | rfl
  · exact isBlank_of_isDigit hdigit
  · decide
  · decide

end Text

/-! ## Other numbers -/

/-- **The text of a number has a point, or the mark of an exponent**, as the layout has it. -/
theorem Binary64.Layout.mark_of_write (l : Layout) (x : Binary64) :
    '.' ∈ (l.write x).toList ∨ l.positiveMark.toList ⊆ (l.write x).toList ∨
      l.negativeMark.toList ⊆ (l.write x).toList := by
  unfold write
  dsimp only
  split
  · left
    simp
  · split
    · left
      split <;> simp
    · right
      by_cases hlarge : 0 ≤ x.shortest.exponent + (toString x.shortest.digits).length - 1
      · left
        intro c hc
        rw [if_pos hlarge]
        simp [hc]
      · right
        intro c hc
        rw [if_neg hlarge]
        simp [hc]

end Switchboard
