import Mathlib.Tactic.SplitIfs
import Switchboard.Proofs.Json.Spacing

/-!
# What the UTF-8 decoder accepts

The decoder takes one byte at a time and knows of a character that has begun only how many bytes are
missing, which may come next and the bits so far. This file holds it to the encoder, which has been
written without it: bytes are read as a text iff they are the bytes of that text.

* `utf8Numbers`, `utf8EncodeChar_eq_iff`: the bytes of a character from its number, and the numbers
  that have a given first byte.
* `Unfinished.Finishes`, `Unfinished.Follows`: the bytes that finish a character, and the bytes it
  has begun with.
* `Decoder.Spells`, `Decoder.spells_cons_iff`: what a decoder will have read when certain bytes have
  come is the same before and after the first of them.
* **`decodeUtf8_eq_ok_iff`**: bytes are read as a text iff they are its bytes.
-/

namespace Switchboard.Text

/-! ## The bytes of a character -/

/-- The number of a character is below 0x110000. -/
theorem toNat_lt (c : Char) : c.toNat < 0x110000 := by
  rcases c.valid with hlow | ⟨-, hhigh⟩
  · exact Nat.lt_trans hlow (by decide)
  · exact hhigh

/-- A number that is no surrogate is the number of a character. -/
theorem toNat_ofNat {n : Nat} (h : n < 0xD800 ∨ 0xDFFF < n ∧ n < 0x110000) :
    (Char.ofNat n).toNat = n := by
  rw [Char.toNat, Char.ofNat, dif_pos h]
  rfl

/-- A character is the one with its number. -/
theorem eq_ofNat {c : Char} {n : Nat} (h : c.toNat = n) : c = Char.ofNat n := by
  rw [← h, Char.ofNat_toNat]

/-- The bytes of the character with the number `v`, as numbers: the first one tells how many there
are, and each of the others carries six bits. -/
def utf8Numbers (v : Nat) : List Nat :=
  if v < 0x80 then [v]
  else if v < 0x800 then [0xC0 + v / 0x40, 0x80 + v % 0x40]
  else if v < 0x10000 then [0xE0 + v / 0x1000, 0x80 + v / 0x40 % 0x40, 0x80 + v % 0x40]
  else [0xF0 + v / 0x40000, 0x80 + v / 0x1000 % 0x40, 0x80 + v / 0x40 % 0x40, 0x80 + v % 0x40]

/-- The bytes of a character are those of its number. -/
theorem map_toNat_utf8EncodeChar (c : Char) :
    (String.utf8EncodeChar c).map UInt8.toNat = utf8Numbers c.toNat := by
  have hbound : c.val.toNat < 0x110000 := toNat_lt c
  change _ = utf8Numbers c.val.toNat
  unfold String.utf8EncodeChar utf8Numbers
  dsimp only
  generalize c.val.toNat = v at hbound
  split_ifs <;> simp only [List.map_cons, List.map_nil, UInt8.toNat_ofNat', List.cons.injEq,
    and_true] <;> omega

/-- Bytes are those of a character iff they are those of its number. -/
theorem utf8EncodeChar_eq_iff {c : Char} {bs : List UInt8} :
    String.utf8EncodeChar c = bs ↔ utf8Numbers c.toNat = bs.map UInt8.toNat := by
  rw [← map_toNat_utf8EncodeChar]
  exact (List.map_inj_right fun _ _ => UInt8.toNat_inj.1).symm

section numbers

variable {v n k : Nat} {ns : List Nat}

/-- Which numbers have a first byte below 0x80: they are that byte. -/
theorem utf8Numbers_one_iff (hn : n < 0x80) : utf8Numbers v = n :: ns ↔ v = n ∧ ns = [] := by
  unfold utf8Numbers
  split_ifs
  · rw [List.cons.injEq, eq_comm (a := [])]
  all_goals exact iff_of_false (fun h => absurd (List.cons.inj h).1 (by omega)) (by omega)

/-- Which numbers have a first byte of two: its bits, and six more in the second byte. -/
theorem utf8Numbers_two_iff (hlow : 2 ≤ k) (hhigh : k < 0x20) :
    utf8Numbers v = (0xC0 + k) :: ns ↔ v / 0x40 = k ∧ ns = [0x80 + v % 0x40] := by
  unfold utf8Numbers
  split_ifs
  · exact iff_of_false (fun h => absurd (List.cons.inj h).1 (by omega)) (by omega)
  · rw [List.cons.injEq, eq_comm (b := ns), Nat.add_left_cancel_iff]
  all_goals exact iff_of_false (fun h => absurd (List.cons.inj h).1 (by omega)) (by omega)

/-- Which numbers have a first byte of three: its bits, and twelve more in the others. Numbers with
fewer bytes do not. -/
theorem utf8Numbers_three_iff (hk : k < 0x10) :
    utf8Numbers v = (0xE0 + k) :: ns ↔
      (0x800 ≤ v ∧ v / 0x1000 = k) ∧ ns = [0x80 + v / 0x40 % 0x40, 0x80 + v % 0x40] := by
  unfold utf8Numbers
  split_ifs
  · exact iff_of_false (fun h => absurd (List.cons.inj h).1 (by omega)) (by omega)
  · exact iff_of_false (fun h => absurd (List.cons.inj h).1 (by omega)) (by omega)
  · rw [List.cons.injEq, eq_comm (b := ns), Nat.add_left_cancel_iff,
      and_iff_right (a := 0x800 ≤ v) (by omega)]
  · exact iff_of_false (fun h => absurd (List.cons.inj h).1 (by omega)) (by omega)

/-- Which numbers have a first byte of four: its bits, and eighteen more in the others. Numbers with
fewer bytes do not. -/
theorem utf8Numbers_four_iff (hk : k < 5) :
    utf8Numbers v = (0xF0 + k) :: ns ↔
      (0x10000 ≤ v ∧ v / 0x40000 = k) ∧
      ns = [0x80 + v / 0x1000 % 0x40, 0x80 + v / 0x40 % 0x40, 0x80 + v % 0x40] := by
  unfold utf8Numbers
  split_ifs
  · exact iff_of_false (fun h => absurd (List.cons.inj h).1 (by omega)) (by omega)
  · exact iff_of_false (fun h => absurd (List.cons.inj h).1 (by omega)) (by omega)
  · exact iff_of_false (fun h => absurd (List.cons.inj h).1 (by omega)) (by omega)
  · rw [List.cons.injEq, eq_comm (b := ns), Nat.add_left_cancel_iff,
      and_iff_right (a := 0x10000 ≤ v) (by omega)]

/-- With these bytes no character starts. -/
theorem utf8Numbers_ne (hv : v < 0x110000) (hn : 0x80 ≤ n ∧ n < 0xC2 ∨ 0xF5 ≤ n) :
    utf8Numbers v ≠ n :: ns := by
  unfold utf8Numbers
  split_ifs <;> exact fun h => absurd (List.cons.inj h).1 (by omega)

end numbers

/-! ## A character that has begun -/

namespace Unfinished

/-- What is left unfinished behind one more byte. -/
def advance (u : Unfinished) (b : UInt8) : Unfinished :=
  { u with
    missing := u.missing - 1, value := u.value * 64 + (b.toNat - 0x80), low := 0x80, high := 0xBF }

/-- **Bytes finish a character**: each is one of those that may come, and none is missing. -/
inductive Finishes : Unfinished → List UInt8 → Char → Prop where
  | last {u : Unfinished} {b : UInt8} (hlow : u.low ≤ b) (hhigh : b ≤ u.high)
      (hmissing : u.missing ≤ 1) :
      Finishes u [b] (Char.ofNat (u.value * 64 + (b.toNat - 0x80)))
  | more {u : Unfinished} {b : UInt8} {bs : List UInt8} {c : Char} (hlow : u.low ≤ b)
      (hhigh : b ≤ u.high) (hmissing : ¬ u.missing ≤ 1) (h : Finishes (u.advance b) bs c) :
      Finishes u (b :: bs) c

variable {u : Unfinished} {bs : List UInt8} {c : Char}

/-- One byte finishes a character that misses one. -/
theorem finishes_iff_of_one (hmissing : u.missing = 1) :
    u.Finishes bs c ↔ ∃ b, bs = [b] ∧ (u.low ≤ b ∧ b ≤ u.high) ∧
      c = Char.ofNat (u.value * 64 + (b.toNat - 0x80)) := by
  constructor
  · intro h
    cases h with
    | @last _ b hlow hhigh _ => exact ⟨b, rfl, ⟨hlow, hhigh⟩, rfl⟩
    | more _ _ hmore _ => omega
  · rintro ⟨b, rfl, ⟨hlow, hhigh⟩, hc⟩
    rw [hc]
    exact .last hlow hhigh (by omega)

/-- A character that misses more bytes takes one of them and is finished by the others. -/
theorem finishes_iff_of_more (hmissing : 1 < u.missing) :
    u.Finishes bs c ↔ ∃ b rest, bs = b :: rest ∧ (u.low ≤ b ∧ b ≤ u.high) ∧
      (u.advance b).Finishes rest c := by
  constructor
  · intro h
    cases h with
    | last _ _ hlast => omega
    | @more _ b rest _ hlow hhigh _ h => exact ⟨b, rest, rfl, ⟨hlow, hhigh⟩, h⟩
  · rintro ⟨b, rest, rfl, ⟨hlow, hhigh⟩, h⟩
    exact .more hlow hhigh (by omega) h

/-- **The bytes that a character has begun with**: the bytes that finish it are the other ones of
its bytes. -/
def Follows (u : Unfinished) (before : List UInt8) : Prop :=
  ∀ bs c, u.Finishes bs c ↔ String.utf8EncodeChar c = before ++ bs

variable {i k : Nat} {b low high : UInt8}

/-- What follows a first byte of two is any one that goes on. -/
theorem follows_two (hb : b.toNat = 0xC0 + k) (hk : 2 ≤ k) (hk' : k < 0x20) :
    Follows ⟨i, 1, k, 0x80, 0xBF⟩ [b] := by
  intro bs c
  rw [utf8EncodeChar_eq_iff, List.singleton_append, List.map_cons, hb, utf8Numbers_two_iff hk hk',
    finishes_iff_of_one rfl]
  simp only [UInt8.le_iff_toNat_le, UInt8.reduceToNat]
  constructor
  · rintro ⟨t, rfl, ht, hc⟩
    rw [hc, toNat_ofNat (by omega)]
    refine ⟨by omega, ?_⟩
    rw [List.map_singleton, List.singleton_inj]
    omega
  · rintro ⟨hc, hbs⟩
    obtain ⟨t, rfl, ht⟩ := List.map_eq_singleton_iff.1 hbs
    exact ⟨t, rfl, by omega, eq_ofNat (by omega)⟩

/-- The second byte is what keeps short characters and surrogates from being written in three
bytes. -/
theorem follows_three (hb : b.toNat = 0xE0 + k) (hk : k < 0x10)
    (hrange : k = 0 ∧ low.toNat = 0xA0 ∧ high.toNat = 0xBF ∨
      k = 0xD ∧ low.toNat = 0x80 ∧ high.toNat = 0x9F ∨
      (k ≠ 0 ∧ k ≠ 0xD) ∧ low.toNat = 0x80 ∧ high.toNat = 0xBF) :
    Follows ⟨i, 2, k, low, high⟩ [b] := by
  intro bs c
  rw [utf8EncodeChar_eq_iff, List.singleton_append, List.map_cons, hb, utf8Numbers_three_iff hk,
    finishes_iff_of_more (Nat.lt_succ_self 1)]
  constructor
  · rintro ⟨t, rest, rfl, ht, h⟩
    obtain ⟨t', rfl, ht', hc⟩ := (finishes_iff_of_one rfl).1 h
    simp only [advance, UInt8.le_iff_toNat_le, UInt8.reduceToNat] at ht ht' hc
    rw [hc, toNat_ofNat (by omega)]
    refine ⟨by omega, ?_⟩
    simp only [List.map_cons, List.map_nil, List.cons.injEq, and_true]
    omega
  · rintro ⟨hc, hbs⟩
    have hvalid : c.toNat < 0xD800 ∨ 0xDFFF < c.toNat ∧ c.toNat < 0x110000 := c.valid
    obtain ⟨t, rest, rfl, ht, hrest⟩ := List.map_eq_cons_iff.1 hbs
    obtain ⟨t', rfl, ht'⟩ := List.map_eq_singleton_iff.1 hrest
    refine ⟨t, [t'], rfl, ?_, (finishes_iff_of_one rfl).2 ⟨t', rfl, ?_, eq_ofNat ?_⟩⟩ <;>
      simp only [advance, UInt8.le_iff_toNat_le, UInt8.reduceToNat] <;> omega

/-- The second byte is what keeps short characters and numbers beyond the last character from being
written in four bytes. -/
theorem follows_four (hb : b.toNat = 0xF0 + k) (hk : k < 5)
    (hrange : k = 0 ∧ low.toNat = 0x90 ∧ high.toNat = 0xBF ∨
      k = 4 ∧ low.toNat = 0x80 ∧ high.toNat = 0x8F ∨
      (k ≠ 0 ∧ k ≠ 4) ∧ low.toNat = 0x80 ∧ high.toNat = 0xBF) :
    Follows ⟨i, 3, k, low, high⟩ [b] := by
  intro bs c
  rw [utf8EncodeChar_eq_iff, List.singleton_append, List.map_cons, hb, utf8Numbers_four_iff hk,
    finishes_iff_of_more (Nat.lt_add_of_pos_left (Nat.succ_pos 1))]
  constructor
  · rintro ⟨t, rest, rfl, ht, h⟩
    obtain ⟨t', rest', rfl, ht', h'⟩ := (finishes_iff_of_more (Nat.lt_succ_self 1)).1 h
    obtain ⟨t'', rfl, ht'', hc⟩ := (finishes_iff_of_one rfl).1 h'
    simp only [advance, UInt8.le_iff_toNat_le, UInt8.reduceToNat] at ht ht' ht'' hc
    rw [hc, toNat_ofNat (by omega)]
    refine ⟨by omega, ?_⟩
    simp only [List.map_cons, List.map_nil, List.cons.injEq, and_true]
    omega
  · rintro ⟨hc, hbs⟩
    have hbound := toNat_lt c
    obtain ⟨t, rest, rfl, ht, hrest⟩ := List.map_eq_cons_iff.1 hbs
    obtain ⟨t', rest', rfl, ht', hrest'⟩ := List.map_eq_cons_iff.1 hrest
    obtain ⟨t'', rfl, ht''⟩ := List.map_eq_singleton_iff.1 hrest'
    refine ⟨t, _, rfl, ?_, (finishes_iff_of_more (Nat.lt_succ_self 1)).2 ⟨t', [t''], rfl, ?_,
      (finishes_iff_of_one rfl).2 ⟨t'', rfl, ?_, eq_ofNat ?_⟩⟩⟩ <;>
      simp only [advance, UInt8.le_iff_toNat_le, UInt8.reduceToNat] <;> omega

end Unfinished

/-! ## The bytes of a text -/

section bytes

variable {b : UInt8} {bs : List UInt8} {cs : List Char}

/-- Only no characters have no bytes. -/
theorem nil_eq_flatMap_iff : [] = cs.flatMap String.utf8EncodeChar ↔ cs = [] := by
  cases cs with
  | nil => exact iff_of_true rfl rfl
  | cons c rest =>
      rw [List.flatMap_cons, eq_comm, List.append_eq_nil_iff]
      exact iff_of_false (fun h => String.utf8EncodeChar_ne_nil h.1) nofun

/-- The first byte of a text is that of its first character. -/
theorem cons_eq_flatMap_iff :
    b :: bs = cs.flatMap String.utf8EncodeChar ↔
      ∃ c ending rest, cs = c :: rest ∧ String.utf8EncodeChar c = b :: ending ∧
        bs = ending ++ rest.flatMap String.utf8EncodeChar := by
  constructor
  · intro h
    cases cs with
    | nil => cases h
    | cons c rest =>
        obtain ⟨b', ending, hc⟩ :=
          List.exists_cons_of_ne_nil (String.utf8EncodeChar_ne_nil (c := c))
        rw [List.flatMap_cons, hc, List.cons_append] at h
        obtain ⟨rfl, rfl⟩ := List.cons.inj h
        exact ⟨c, ending, rest, rfl, hc, rfl⟩
  · rintro ⟨c, ending, rest, rfl, hc, rfl⟩
    rw [List.flatMap_cons, hc, List.cons_append]

end bytes

namespace Decoder

/-- **The characters that a decoder will have read** when the bytes have come that spell the last of
them. -/
def Spells (d : Decoder) (bs : List UInt8) (cs : List Char) : Prop :=
  d.flaw = none ∧
    match d.unfinished with
    | none => ∃ more, cs = d.chars.reverse ++ more ∧ bs = more.flatMap String.utf8EncodeChar
    | some u => ∃ c ending more,
        u.Finishes ending c ∧ cs = d.chars.reverse ++ c :: more ∧
        bs = ending ++ more.flatMap String.utf8EncodeChar

variable {chars cs : List Char} {unfinished : Option Unfinished} {u : Unfinished} {i size : Nat}
  {b : UInt8} {bs : List UInt8}

/-- A decoder that has met a flaw spells nothing. -/
theorem not_spells_of_flaw : ¬ Spells ⟨chars, unfinished, some i, size⟩ bs cs :=
  fun h => nomatch h.1

/-- Between two characters a decoder spells whatever characters follow. -/
theorem spells_between_iff :
    Spells ⟨chars, none, none, size⟩ bs cs ↔
      ∃ more, cs = chars.reverse ++ more ∧ bs = more.flatMap String.utf8EncodeChar :=
  ⟨And.right, And.intro rfl⟩

/-- Within a character a decoder spells this one, once it is finished, and whatever characters
follow. -/
theorem spells_within_iff :
    Spells ⟨chars, some u, none, size⟩ bs cs ↔ ∃ c ending more,
      u.Finishes ending c ∧ cs = chars.reverse ++ c :: more ∧
      bs = ending ++ more.flatMap String.utf8EncodeChar :=
  ⟨And.right, And.intro rfl⟩

/-- **The first byte of a character** is the whole of it, or the others follow, or no character
starts with it. -/
theorem begin_cases (d : Decoder) (b : UInt8) :
    (d.begin b = { d with chars := Char.ofNat b.toNat :: d.chars, size := d.size + 1 } ∧
      ∀ ending c, String.utf8EncodeChar c = b :: ending ↔
        c = Char.ofNat b.toNat ∧ ending = []) ∨
    (∃ u : Unfinished, d.begin b = { d with unfinished := some u, size := d.size + 1 } ∧
      u.Follows [b]) ∨
    (d.begin b = { d with flaw := some d.size, size := d.size + 1 } ∧
      ∀ ending c, String.utf8EncodeChar c ≠ b :: ending) := by
  have hnone : 0x80 ≤ b.toNat ∧ b.toNat < 0xC2 ∨ 0xF5 ≤ b.toNat →
      ∀ ending c, String.utf8EncodeChar c ≠ b :: ending :=
    fun hb ending c hc => utf8Numbers_ne (toNat_lt c) hb (utf8EncodeChar_eq_iff.1 hc)
  generalize hbegin : d.begin b = next
  unfold begin at hbegin
  simp only [UInt8.lt_iff_toNat_lt, ← UInt8.toNat_inj, UInt8.reduceToNat] at hbegin
  split_ifs at hbegin <;> subst hbegin
  · refine .inl ⟨rfl, fun ending c => ?_⟩
    rw [utf8EncodeChar_eq_iff, List.map_cons, utf8Numbers_one_iff (by omega), List.map_eq_nil_iff]
    exact and_congr_left' ⟨eq_ofNat, fun hc => hc ▸ toNat_ofNat (by omega)⟩
  · exact .inr (.inr ⟨rfl, hnone (by omega)⟩)
  · exact .inr (.inl ⟨_, rfl, Unfinished.follows_two (by omega) (by omega) (by omega)⟩)
  · exact .inr (.inl ⟨_, rfl, Unfinished.follows_three (by omega) (by omega) (by simp)⟩)
  · exact .inr (.inl ⟨_, rfl, Unfinished.follows_three (by omega) (by omega) (by simp)⟩)
  · exact .inr (.inl ⟨_, rfl, Unfinished.follows_three (by omega) (by omega) (by simp; omega)⟩)
  · exact .inr (.inl ⟨_, rfl, Unfinished.follows_four (by omega) (by omega) (by simp)⟩)
  · exact .inr (.inl ⟨_, rfl, Unfinished.follows_four (by omega) (by omega) (by simp; omega)⟩)
  · exact .inr (.inl ⟨_, rfl, Unfinished.follows_four (by omega) (by omega) (by simp)⟩)
  · exact .inr (.inr ⟨rfl, hnone (by omega)⟩)

/-- The first byte of a character changes nothing about what is spelled. -/
theorem spells_cons_iff_of_between :
    Spells ⟨chars, none, none, size⟩ (b :: bs) cs ↔
      (begin ⟨chars, none, none, size⟩ b).Spells bs cs := by
  rw [spells_between_iff]
  simp only [cons_eq_flatMap_iff]
  obtain ⟨hbegin, hwhole⟩ | ⟨u, hbegin, hu⟩ | ⟨hbegin, hnone⟩ :=
    begin_cases ⟨chars, none, none, size⟩ b
  · rw [hbegin, spells_between_iff, List.reverse_cons]
    constructor
    · rintro ⟨more, rfl, c, ending, rest, rfl, hc, rfl⟩
      obtain ⟨rfl, rfl⟩ := (hwhole ending c).1 hc
      exact ⟨rest, by simp, rfl⟩
    · rintro ⟨rest, rfl, rfl⟩
      exact ⟨_ :: rest, by simp, _, [], rest, rfl, (hwhole _ _).2 ⟨rfl, rfl⟩, rfl⟩
  · rw [hbegin, spells_within_iff]
    constructor
    · rintro ⟨more, rfl, c, ending, rest, rfl, hc, rfl⟩
      exact ⟨c, ending, rest, (hu ending c).2 hc, rfl, rfl⟩
    · rintro ⟨c, ending, rest, hends, rfl, rfl⟩
      exact ⟨c :: rest, rfl, c, ending, rest, rfl, (hu ending c).1 hends, rfl⟩
  · rw [hbegin]
    refine iff_of_false ?_ not_spells_of_flaw
    rintro ⟨more, -, c, ending, rest, -, hc, -⟩
    exact hnone ending c hc

/-- One more byte of a character changes nothing about what is spelled: it is the first of those
that finish it. -/
theorem spells_cons_iff_of_within :
    Spells ⟨chars, some u, none, size⟩ (b :: bs) cs ↔
      (feed ⟨chars, some u, none, size⟩ b).Spells bs cs := by
  rw [spells_within_iff]
  unfold feed
  dsimp only
  by_cases hrange : u.low ≤ b ∧ b ≤ u.high
  · rw [if_pos (by simpa using hrange)]
    by_cases hmissing : u.missing ≤ 1
    · rw [if_pos hmissing, spells_between_iff, List.reverse_cons]
      constructor
      · rintro ⟨c, ending, more, hends, rfl, hbytes⟩
        cases hends with
        | last _ _ _ =>
            obtain ⟨rfl, rfl⟩ := List.cons.inj hbytes
            exact ⟨more, by simp, rfl⟩
        | more _ _ hmore _ => exact absurd hmissing hmore
      · rintro ⟨more, rfl, rfl⟩
        exact ⟨_, [b], more, .last hrange.1 hrange.2 hmissing, by simp, rfl⟩
    · rw [if_neg hmissing, spells_within_iff]
      constructor
      · rintro ⟨c, ending, more, hends, rfl, hbytes⟩
        cases hends with
        | last _ _ hlast => exact absurd hlast hmissing
        | @more _ _ ending _ _ _ _ hends =>
            obtain ⟨rfl, rfl⟩ := List.cons.inj hbytes
            exact ⟨c, ending, more, hends, rfl, rfl⟩
      · rintro ⟨c, ending, more, hends, rfl, rfl⟩
        exact ⟨c, b :: ending, more, .more hrange.1 hrange.2 hmissing hends, rfl, rfl⟩
  · rw [if_neg (by simpa using hrange)]
    refine iff_of_false ?_ not_spells_of_flaw
    rintro ⟨c, ending, more, hends, -, hbytes⟩
    cases hends with
    | last hlow hhigh _ | more hlow hhigh _ _ =>
        obtain ⟨rfl, -⟩ := List.cons.inj hbytes
        exact hrange ⟨hlow, hhigh⟩

variable {d : Decoder}

/-- **A byte changes nothing about what is spelled** by it and the bytes behind it. -/
theorem spells_cons_iff : d.Spells (b :: bs) cs ↔ (d.feed b).Spells bs cs := by
  obtain ⟨chars, _ | u, _ | i, size⟩ := d
  · exact spells_cons_iff_of_between
  · exact iff_of_false not_spells_of_flaw not_spells_of_flaw
  · exact spells_cons_iff_of_within
  · exact iff_of_false not_spells_of_flaw not_spells_of_flaw

/-- At the end of the bytes the characters have been read, if none is unfinished. -/
theorem spells_nil_iff : d.Spells [] cs ↔ d.finish = .ok (String.ofList cs) := by
  obtain ⟨chars, _ | u, _ | i, size⟩ := d
  · change _ ↔ Except.ok (String.ofList chars.reverse) = _
    simp only [spells_between_iff, nil_eq_flatMap_iff, exists_eq_right, List.append_nil]
    rw [Except.ok.injEq, String.ofList_inj, eq_comm]
  · exact iff_of_false not_spells_of_flaw nofun
  · rw [spells_within_iff]
    refine iff_of_false ?_ nofun
    rintro ⟨c, ending, more, hends, -, hnil⟩
    obtain rfl := (List.append_eq_nil_iff.1 hnil.symm).1
    cases hends
  · exact iff_of_false not_spells_of_flaw nofun

/-- **A decoder spells what it reads**, by induction on the bytes. -/
theorem spells_iff : d.Spells bs cs ↔ (bs.foldl feed d).finish = .ok (String.ofList cs) := by
  induction bs generalizing d with
  | nil => exact spells_nil_iff
  | cons b rest ih => rw [spells_cons_iff, ih, List.foldl_cons]

end Decoder

/-- **Bytes are read as a text iff they are the bytes of it.** -/
theorem decodeUtf8_eq_ok_iff {bytes : List UInt8} {s : String} :
    decodeUtf8 bytes = .ok s ↔ bytes = encodeUtf8 s := by
  have hspells : decodeUtf8 bytes = .ok s ↔ Decoder.Spells .start bytes s.toList := by
    rw [Decoder.spells_iff, String.ofList_toList]
    rfl
  rw [hspells, Json.encodeUtf8_eq, Decoder.start, Decoder.spells_between_iff]
  simp only [List.reverse_nil, List.nil_append, exists_eq_left']

end Switchboard.Text
