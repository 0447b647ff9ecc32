import Switchboard.Proofs.Service.Secret
import Switchboard.Proofs.Text.Utf8

/-!
# Secrets that lock everybody out

The check of a secret reads the header as text, and only visible ASCII can be read as text. A secret
may have other characters, and HTTP lets their bytes stand in a header, but no header that has them
is ever the same text.

* `LegalInHeader`: the bytes that HTTP lets stand in the value of a header.
* `IsAscii`, `forall_encodeUtf8_lt_iff`: texts all of whose bytes are those of ASCII.
* `State.Admits`: a post is let through to the handler of an application.
* **`secret_admits_iff_ascii`**: the post that shows the secret is let through iff the secret is
  ASCII; if it is not, no post whatever is let through.
-/

namespace Switchboard

/-- A byte that may stand in the value of a header: a tab, or anything but the control characters of
ASCII. -/
def LegalInHeader (b : UInt8) : Prop := b = 0x09 ∨ 0x20 ≤ b ∧ b ≠ 0x7F

/-- The text has no characters but those of ASCII. -/
def IsAscii (s : String) : Prop := ∀ c ∈ s.toList, c.toNat < 128

instance (s : String) : Decidable (IsAscii s) :=
  List.decidableBAll (fun c : Char => c.toNat < 128) s.toList

/-- Of the bytes that a header may hold, those below 0x80 are visible. -/
theorem isVisible_iff_of_legal {b : UInt8} (h : LegalInHeader b) :
    isVisible b = true ↔ b < 0x80 := by
  have hbound := b.toNat_lt
  unfold LegalInHeader at h
  unfold isVisible
  simp only [Bool.or_eq_true, Bool.and_eq_true, decide_eq_true_eq, UInt8.le_iff_toNat_le,
    UInt8.lt_iff_toNat_lt, ← UInt8.toNat_inj, ne_eq, UInt8.reduceToNat] at h ⊢
  omega

namespace Text

/-- A character has bytes of ASCII alone iff it is a character of ASCII: the first byte of every
other one is greater. -/
theorem forall_utf8EncodeChar_lt_iff {c : Char} :
    (∀ b ∈ String.utf8EncodeChar c, b < 0x80) ↔ c.toNat < 128 := by
  have hnumbers : (∀ b ∈ String.utf8EncodeChar c, b < 0x80) ↔
      ∀ n ∈ utf8Numbers c.toNat, n < 0x80 := by
    rw [← map_toNat_utf8EncodeChar, List.forall_mem_map]
    exact forall₂_congr fun b _ => UInt8.lt_iff_toNat_lt
  rw [hnumbers, utf8Numbers]
  split_ifs
  · exact List.forall_mem_singleton
  all_goals exact iff_of_false (fun h => absurd (h _ List.mem_cons_self) (by omega)) (by omega)

/-- All bytes of a text are below 0x80 iff it is ASCII. -/
theorem forall_encodeUtf8_lt_iff {s : String} :
    (∀ b ∈ encodeUtf8 s, b < 0x80) ↔ IsAscii s := by
  rw [Json.encodeUtf8_eq]
  simp only [List.mem_flatMap, forall_exists_index, and_imp]
  constructor
  · exact fun h c hc => forall_utf8EncodeChar_lt_iff.1 fun b hb => h b c hc hb
  · exact fun h b c hc hb => forall_utf8EncodeChar_lt_iff.2 (h c hc) b hb

end Text

/-- A secret that may stand in a header is visible there iff it is ASCII. -/
theorem visible_iff_ascii {secret : String}
    (hlegal : ∀ b ∈ Text.encodeUtf8 secret, LegalInHeader b) :
    (Text.encodeUtf8 secret).all isVisible = true ↔ IsAscii secret := by
  rw [← Text.forall_encodeUtf8_lt_iff, List.all_eq_true]
  exact forall₂_congr fun b hb => isVisible_iff_of_legal (hlegal b hb)

namespace State

variable {s : State} {m : Mount} {r : Request} {clock : Nat → String}

/-- **A post is let through** to the handler of an application, which reads its body unless that is
too long. -/
def Admits (clock : Nat → String) (s : State) (m : Mount) (r : Request) : Prop :=
  s.serve clock r =
    if greatestBody < r.body.length then (.ok tooLongRefusal, s) else s.serveWebhook m r.body

/-- Who is let through is not told that the secret is wrong. -/
theorem Admits.ne_refusal (h : s.Admits clock m r) : (s.serve clock r).1 ≠ .ok secretRefusal := by
  rw [show s.serve clock r = _ from h]
  split
  · intro hresponse
    have hstatus : tooLongRefusal.status = secretRefusal.status :=
      congrArg Response.status (Except.ok.inj hresponse)
    exact absurd hstatus (by decide)
  · exact serveWebhook_ne_refusal m r.body

/-- A post to an application with a secret is let through iff it shows the secret in visible bytes.
-/
theorem admits_iff_knows (hsecret : m.application.config.secret ≠ "") (hpost : r.method = "POST")
    (hroute : s.webhook? r = some m) (clock : Nat → String) :
    s.Admits clock m r ↔ r.Knows m.application.config.secret := by
  constructor
  · intro h
    by_contra hstranger
    have hrefused := serve_of_stranger hsecret hpost hroute hstranger clock
    exact h.ne_refusal (congrArg Prod.fst hrefused)
  · intro hknows
    unfold Admits
    rw [serve_post hroute hpost, if_pos ((passesSecret_iff hsecret r).2 hknows)]

/-- **Who shows the secret of an application is let through iff the secret is ASCII.** Where it is
not, every post is refused, whatever it shows, and leaves no trace. -/
theorem secret_admits_iff_ascii (hsecret : m.application.config.secret ≠ "")
    (hlegal : ∀ b ∈ Text.encodeUtf8 m.application.config.secret, LegalInHeader b)
    (clock : Nat → String) (s : State) :
    (∀ r, r.method = "POST" → s.webhook? r = some m →
      r.header? secretHeader = some (Text.encodeUtf8 m.application.config.secret) →
        (s.Admits clock m r ↔ IsAscii m.application.config.secret)) ∧
    (¬ IsAscii m.application.config.secret → ∀ r, r.method = "POST" →
      s.webhook? r = some m → s.serve clock r = (.ok (.text 403 "Invalid secret"), s)) := by
  have hascii := visible_iff_ascii hlegal
  constructor
  · intro r hpost hroute hheader
    rw [admits_iff_knows hsecret hpost hroute, ← hascii]
    exact ⟨fun hknows => hknows.visible, fun hvisible => ⟨hheader, hvisible⟩⟩
  · intro hforeign r hpost hroute
    exact serve_of_stranger hsecret hpost hroute
      (fun hknows => hforeign (hascii.1 hknows.visible)) clock

/-- A service with the weather application behind a secret. -/
def lockedService (secret : String) : State where
  settings := {}
  observers := {}
  mounts := [{ application := Weather.application { secret } }]

/-- A post to it that shows the secret. -/
def postShowing (secret : String) : Request :=
  { weatherPost "assistant-request" "a" with headers := [(secretHeader, Text.encodeUtf8 secret)] }

/-- The one application of the locked service is the weather application with its secret. -/
theorem webhook?_lockedService {secret : String} {m : Mount}
    (h : (lockedService secret).webhook? (postShowing secret) = some m) :
    m = { application := Weather.application { secret } } :=
  List.mem_singleton.1 (mem_of_webhook? h)

/-- A post that shows the secret `sesame` is let through, and one that shows the secret `sésame` is
refused. -/
theorem secret_admits_iff_ascii_sesame :
    (∀ b ∈ Text.encodeUtf8 "sesame" ++ Text.encodeUtf8 "sésame", LegalInHeader b) ∧
    (∃ m, (lockedService "sesame").webhook? (postShowing "sesame") = some m ∧
      (lockedService "sesame").Admits (fun time => toString time) m (postShowing "sesame")) ∧
    ∃ m, (lockedService "sésame").webhook? (postShowing "sésame") = some m ∧
      m.application.config.secret = "sésame" ∧
      (postShowing "sésame").header? secretHeader = some (Text.encodeUtf8 "sésame") ∧
      (lockedService "sésame").serve (fun time => toString time) (postShowing "sésame") =
        (.ok (.text 403 "Invalid secret"), lockedService "sésame") := by
  have hlegal : ∀ b ∈ Text.encodeUtf8 "sesame" ++ Text.encodeUtf8 "sésame",
      LegalInHeader b := by
    unfold LegalInHeader
    decide +kernel
  obtain ⟨hplain, hforeign⟩ := List.forall_mem_append.1 hlegal
  refine ⟨hlegal, ?_, ?_⟩
  · obtain ⟨m, hm⟩ := Option.isSome_iff_exists.1
      (by decide +kernel : ((lockedService "sesame").webhook? (postShowing "sesame")).isSome = true)
    obtain rfl := webhook?_lockedService hm
    have hadmits := (secret_admits_iff_ascii (by decide) hplain (fun time => toString time)
      (lockedService "sesame")).1 _ rfl hm (by decide +kernel)
    exact ⟨_, hm, hadmits.2 (by decide +kernel)⟩
  · obtain ⟨m, hm⟩ := Option.isSome_iff_exists.1
      (by decide +kernel : ((lockedService "sésame").webhook? (postShowing "sésame")).isSome =
        true)
    obtain rfl := webhook?_lockedService hm
    have hrefused := (secret_admits_iff_ascii (by decide) hforeign (fun time => toString time)
      (lockedService "sésame")).2 (by decide +kernel) _ rfl hm
    exact ⟨_, hm, rfl, by decide +kernel, hrefused⟩

end State

end Switchboard
