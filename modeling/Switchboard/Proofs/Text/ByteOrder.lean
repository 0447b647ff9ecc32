import Switchboard.CacheKey
import Switchboard.Proofs.Text.Utf8

/-!
# The order of texts and that of their bytes

Texts are compared by their characters. UTF-8 has been made so that it comes to the same to compare
their bytes, though characters take from one to four of them.

* `utf8EncodeChar_append_lt`: of two characters the first difference in their bytes decides as the
  characters do.
* **`encodeUtf8_lt_iff`**: a text comes before another iff its bytes do.
* `CacheKey.Precedes`, `CacheKey.precedes_iff`: the order of keys, by bytes.
-/

namespace Switchboard

namespace Text

/-- Of two lists of bytes the first bytes decide, unless they are the same. -/
theorem cons_lt_of_le {x y : Nat} {bs bs' : List UInt8} (hy : y < 256) (h : x ≤ y)
    (hrest : x = y → bs < bs') :
    UInt8.ofNat x :: bs < UInt8.ofNat y :: bs' := by
  rw [List.cons_lt_cons_iff]
  rcases Nat.lt_or_eq_of_le h with hlt | rfl
  · left
    rw [UInt8.lt_iff_toNat_lt, UInt8.toNat_ofNat_of_lt' (Nat.lt_trans hlt hy),
      UInt8.toNat_ofNat_of_lt' hy]
    exact hlt
  · exact .inr ⟨rfl, hrest rfl⟩

/-- **A character that comes before another does so in bytes**, whatever follows. -/
theorem utf8EncodeChar_append_lt {c c' : Char} (h : c < c') (bs bs' : List UInt8) :
    String.utf8EncodeChar c ++ bs < String.utf8EncodeChar c' ++ bs' := by
  have hlt : c.val.toNat < c'.val.toNat := h
  have hbound : c'.val.toNat < 0x110000 := toNat_lt c'
  unfold String.utf8EncodeChar
  dsimp only
  generalize c.val.toNat = v at hlt
  generalize c'.val.toNat = w at hlt hbound
  -- encodings of different lengths differ in the first byte, and those of one length are compared
  -- digit by digit
  split
  · split
    · exact cons_lt_of_le (by omega) (by omega) fun _ => by omega
    · split
      · exact cons_lt_of_le (by omega) (by omega) fun _ => by omega
      · split <;> exact cons_lt_of_le (by omega) (by omega) fun _ => by omega
  · rw [if_neg (by omega : ¬ w ≤ 127)]
    split
    · split
      · exact cons_lt_of_le (by omega) (by omega) fun _ =>
          cons_lt_of_le (by omega) (by omega) fun _ => by omega
      · split <;> exact cons_lt_of_le (by omega) (by omega) fun _ => by omega
    · rw [if_neg (by omega : ¬ w ≤ 2047)]
      split
      · split
        · exact cons_lt_of_le (by omega) (by omega) fun _ =>
            cons_lt_of_le (by omega) (by omega) fun _ =>
            cons_lt_of_le (by omega) (by omega) fun _ => by omega
        · exact cons_lt_of_le (by omega) (by omega) fun _ => by omega
      · rw [if_neg (by omega : ¬ w ≤ 65535)]
        exact cons_lt_of_le (by omega) (by omega) fun _ =>
          cons_lt_of_le (by omega) (by omega) fun _ =>
          cons_lt_of_le (by omega) (by omega) fun _ =>
            cons_lt_of_le (by omega) (by omega) fun _ => by omega

/-- What comes before another list of characters does so in bytes: by induction up to the first
difference. -/
theorem flatMap_utf8EncodeChar_lt {cs cs' : List Char} (h : cs < cs') :
    cs.flatMap String.utf8EncodeChar < cs'.flatMap String.utf8EncodeChar := by
  change List.Lex (· < ·) cs cs' at h
  induction h with
  | @nil c rest =>
      rw [List.flatMap_nil, List.flatMap_cons]
      obtain ⟨b, bs, hbytes⟩ :=
        List.exists_cons_of_ne_nil (String.utf8EncodeChar_ne_nil (c := c))
      rw [hbytes]
      exact List.nil_lt_cons _ _
  | @cons c rest rest' _ ih =>
      rw [List.flatMap_cons, List.flatMap_cons]
      exact List.append_left_lt ih
  | @rel c rest c' rest' hlt =>
      rw [List.flatMap_cons, List.flatMap_cons]
      exact utf8EncodeChar_append_lt hlt _ _

/-- **A text comes before another iff its bytes do.** -/
theorem encodeUtf8_lt_iff {s t : String} : encodeUtf8 s < encodeUtf8 t ↔ compare s t = .lt := by
  have hmono : ∀ {s t : String}, compare s t = .lt → encodeUtf8 s < encodeUtf8 t := by
    intro s t h
    rw [Json.encodeUtf8_eq, Json.encodeUtf8_eq]
    exact flatMap_utf8EncodeChar_lt (String.lt_iff.1 (compareOfLessAndEq_eq_lt.1 h))
  constructor
  · intro h
    cases hcompare : compare s t with
    | lt => rfl
    | eq =>
        rw [Std.LawfulEqCmp.eq_of_compare hcompare] at h
        exact absurd h (List.lt_irrefl _)
    | gt => exact absurd h (List.lt_asymm (hmono (Std.OrientedCmp.lt_of_gt hcompare)))
  · exact hmono

end Text

/-! ## Keys -/

namespace CacheKey

/-- **The key comes before another**: the bytes of its session do, or, for one session, those of its
assistant. -/
def Precedes (k k' : CacheKey) : Prop :=
  Text.encodeUtf8 k.session < Text.encodeUtf8 k'.session ∨
    k.session = k'.session ∧ Text.encodeUtf8 k.assistant < Text.encodeUtf8 k'.assistant

/-- Keys are kept in the order of the bytes of their sessions, and for one session of their
assistants. -/
theorem precedes_iff {k k' : CacheKey} : k.Precedes k' ↔ compare k k' = .lt := by
  have hkeys : compare k k' =
      (compare k.session k'.session).then (compare k.assistant k'.assistant) := rfl
  rw [hkeys, Ordering.then_eq_lt, Std.LawfulEqCmp.compare_eq_iff_eq, Precedes,
    Text.encodeUtf8_lt_iff, Text.encodeUtf8_lt_iff]

/-- The order of keys is not that of their display texts. -/
theorem exists_precedes_display_lt :
    ∃ k k' : CacheKey, k.Precedes k' ∧ Text.encodeUtf8 k'.display < Text.encodeUtf8 k.display :=
  ⟨⟨"a", "z"⟩, ⟨"a!", "b"⟩, precedes_iff.2 (by decide),
    Text.encodeUtf8_lt_iff.2 (by decide)⟩

end CacheKey

end Switchboard
