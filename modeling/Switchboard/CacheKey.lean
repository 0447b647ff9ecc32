import Switchboard.Json.Basic

/-!
# Keys of cache entries

Functions are registered for one call, the session, and one assistant that takes part in it. Two
keys with the same display text can differ: the sessions `a` and `a/b` with the assistants `b/c` and
`c`.
-/

namespace Switchboard

open Std

/-- A session and an assistant. -/
structure CacheKey where
  /-- The id of the call. -/
  session : String
  /-- The id of the assistant. -/
  assistant : String
deriving DecidableEq, Inhabited

/-- The id of an assistant that has not been given one. -/
def defaultAssistant : String := "default"

/-- The member of an assistant's metadata that holds its id. -/
def assistantIdMember : String := "x-voxhook-assistant-id"

namespace CacheKey

/-- The text shown for a key. -/
def display (k : CacheKey) : String := k.session ++ "/" ++ k.assistant

/-- Keys are ordered by session, then by assistant. -/
instance : Ord CacheKey := ⟨compareLex (compareOn session) (compareOn assistant)⟩

instance : TransOrd CacheKey :=
  inferInstanceAs (TransCmp (compareLex (compareOn session) (compareOn assistant)))

instance : LawfulEqOrd CacheKey where
  eq_of_compare {a b} h := by
    have h : (compare a.session b.session).then (compare a.assistant b.assistant) = .eq := h
    obtain ⟨hs, ha⟩ := Ordering.then_eq_eq.1 h
    have hs := LawfulEqCmp.eq_of_compare hs
    have ha := LawfulEqCmp.eq_of_compare ha
    cases a
    cases b
    simp_all

/-- The JSON form of a key. -/
def toJson (k : CacheKey) : Json :=
  .object [("sessionId", .str k.session), ("assistantId", .str k.assistant)]

/-- The key that a JSON value denotes: an object with both ids, or a list of exactly both. -/
def ofJson? : Json → Option CacheKey
  | .arr [.str session, .str assistant] => some ⟨session, assistant⟩
  | .obj members => do
    let session ← (Assoc.get? "sessionId" members).bind Json.str?
    let assistant ← (Assoc.get? "assistantId" members).bind Json.str?
    return ⟨session, assistant⟩
  | _ => none

/-- Keys with the same display text can differ. -/
theorem display_not_injective : ∃ k k' : CacheKey, k ≠ k' ∧ k.display = k'.display :=
  ⟨⟨"a", "b/c"⟩, ⟨"a/b", "c"⟩, by decide, by decide⟩

end CacheKey

end Switchboard
