import Switchboard.Proofs.Json.Order
import Switchboard.Proofs.Service.Registration

/-!
# Marking an answer

A responder's answer is marked with the id of its assistant (`stamp`), and messages that echo the
assistant are read for that id (`assistantOf`). The writer and the reader go down the same path,
`idPath`, in different ways: the writer makes what is missing on the way and stops at what is no
object, the reader takes anything but a text for no id.

* `Unmarked`, `Settled`: the answers with room for an id, and all others.
* `stampMetadata_cases`, `stamp_cases`: what marking can do.
* `stamp_stamp`: a second mark changes nothing.
* `at?_stamp_elsewhere`: off the path to the id nothing is written.
* `at?_stamp_of_unmarked`, `stamp_of_settled`: at the end of the path an id is written if there is
  room for it, and otherwise nothing at all.
* **`stamp_faithful`**: marking an answer never changes whom its assistant resolves to, and changes
  nothing else in it.
-/

namespace Switchboard

/-- Where the id of an assistant stands in an answer, and in a message that echoes the assistant. -/
def idPath : List String := [assistantMember, "metadata", assistantIdMember]

/-- **The answer has room for an id**: it describes an assistant whose metadata are missing, or are
an object without an id. -/
inductive Unmarked (answer : Json) : Prop where
  /-- The assistant has no metadata. -/
  | bare {assistant : List (String × Json)}
      (hassistant : answer.get? assistantMember = some (.obj assistant))
      (hmetadata : Assoc.get? "metadata" assistant = none) : Unmarked answer
  /-- The metadata have no id. -/
  | nameless {assistant metadata : List (String × Json)}
      (hassistant : answer.get? assistantMember = some (.obj assistant))
      (hmetadata : Assoc.get? "metadata" assistant = some (.obj metadata))
      (hid : Assoc.get? assistantIdMember metadata = none) : Unmarked answer

/-- **The answer has no room for an id.** -/
inductive Settled (answer : Json) : Prop where
  /-- The metadata have one, be it a text or not. -/
  | identified {id : Json} (hid : answer.at? idPath = some id) : Settled answer
  /-- The metadata are not an object. -/
  | misfit {assistant : List (String × Json)} {metadata : Json}
      (hassistant : answer.get? assistantMember = some (.obj assistant))
      (hmetadata : Assoc.get? "metadata" assistant = some metadata) (hobj : metadata.obj? = none) :
      Settled answer
  /-- No assistant is described. -/
  | unassisted (hassistant : ∀ assistant, answer.get? assistantMember ≠ some (.obj assistant)) :
      Settled answer

/-! ## What marking can do -/

/-- Metadata are given an id if they are an object without one, and stay as they are otherwise. -/
theorem stampMetadata_cases (v : Json) :
    (∃ metadata, v = .obj metadata ∧ Assoc.get? assistantIdMember metadata = none ∧
      stampMetadata v = .obj (Assoc.insert assistantIdMember (.str defaultAssistant) metadata)) ∨
    ((∀ metadata, v = .obj metadata → Assoc.get? assistantIdMember metadata ≠ none) ∧
      stampMetadata v = v) := by
  cases v with
  | obj metadata =>
      cases hid : Assoc.get? assistantIdMember metadata with
      | none => exact .inl ⟨metadata, rfl, hid, by simp [stampMetadata, hid]⟩
      | some id =>
          refine .inr ⟨?_, by simp [stampMetadata, hid]⟩
          rintro _ ⟨⟩
          simp [hid]
  | _ => exact .inr ⟨nofun, rfl⟩

/-- An assistant is stamped in its metadata, which are made if there are none. -/
theorem stampAssistant_obj (assistant : List (String × Json)) :
    stampAssistant (.obj assistant) =
      .obj (Assoc.insert "metadata"
        (stampMetadata ((Assoc.get? "metadata" assistant).getD (.obj []))) assistant) :=
  rfl

/-- An answer is stamped in its assistant. -/
theorem stamp_of_assistant {members assistant : List (String × Json)}
    (h : Assoc.get? assistantMember members = some (.obj assistant)) :
    stamp (.obj members) =
      .obj (Assoc.insert assistantMember (stampAssistant (.obj assistant)) members) := by
  simp [stamp, h]

/-- The assistant in an answer is marked; an answer without one stays as it is. -/
theorem stamp_cases (answer : Json) :
    (∃ members assistant, answer = .obj members ∧
      Assoc.get? assistantMember members = some (.obj assistant) ∧
      stamp answer =
        .obj (Assoc.insert assistantMember (stampAssistant (.obj assistant)) members)) ∨
    ((∀ assistant, answer.get? assistantMember ≠ some (.obj assistant)) ∧
      stamp answer = answer) := by
  cases answer with
  | obj members =>
      by_cases h : ∃ assistant, Assoc.get? assistantMember members = some (.obj assistant)
      · obtain ⟨assistant, h⟩ := h
        exact .inl ⟨members, assistant, rfl, h, stamp_of_assistant h⟩
      · have hnone : ∀ assistant, Assoc.get? assistantMember members ≠
            some (.obj assistant) := by simpa using h
        refine .inr ⟨hnone, ?_⟩
        unfold stamp
        dsimp only
        split
        · next hassistant => exact absurd hassistant (hnone _)
        · rfl
  | _ => exact .inr ⟨nofun, rfl⟩

/-! ## Marking twice -/

/-- Metadata are stamped once. -/
theorem stampMetadata_idem (v : Json) : stampMetadata (stampMetadata v) = stampMetadata v := by
  rcases stampMetadata_cases v with ⟨metadata, rfl, hid, hstamp⟩ | ⟨-, hstamp⟩
  · rw [hstamp]
    simp [stampMetadata, Assoc.get?_insert]
  · rw [hstamp, hstamp]

/-- An assistant is stamped once. -/
theorem stampAssistant_idem (assistant : List (String × Json)) :
    stampAssistant (stampAssistant (.obj assistant)) = stampAssistant (.obj assistant) := by
  simp only [stampAssistant_obj, Assoc.get?_insert, if_true, Option.getD_some, stampMetadata_idem,
    Assoc.insert_insert]

/-- **An answer is stamped once**: to stamp it again changes nothing. -/
theorem stamp_stamp (answer : Json) : stamp (stamp answer) = stamp answer := by
  rcases stamp_cases answer with ⟨members, assistant, rfl, -, hstamp⟩ | ⟨-, hstamp⟩
  · have hmarked : Assoc.get? assistantMember
        (Assoc.insert assistantMember (stampAssistant (.obj assistant)) members) =
          some (stampAssistant (.obj assistant)) := by
      rw [Assoc.get?_insert, if_pos rfl]
    rw [hstamp, stamp_of_assistant hmarked, ← stampAssistant_obj, stampAssistant_idem,
      Assoc.insert_insert]
  · rw [hstamp, hstamp]

/-! ## Off the path -/

/-- A stamp leaves all of the metadata but the id. -/
theorem at?_stampMetadata_elsewhere {path : List String} (h : ¬ path <+: [assistantIdMember])
    (v : Json) :
    (stampMetadata v).at? path = v.at? path := by
  rcases stampMetadata_cases v with ⟨metadata, rfl, hid, hstamp⟩ | ⟨-, hstamp⟩
  · rw [hstamp]
    rcases path with - | ⟨name, rest⟩
    · exact absurd List.nil_prefix h
    rw [Json.at?_insert]
    split
    · next hname =>
      subst hname
      rcases rest with - | ⟨name, rest⟩
      · exact absurd List.prefix_rfl h
      · -- below the id, which is a text, and was not there before
        simp [Json.at?, Json.get?, hid]
    · rfl
  · rw [hstamp]

/-- A stamp leaves all of the assistant but what leads to the id. -/
theorem at?_stampAssistant_elsewhere {path : List String}
    (h : ¬ path <+: ["metadata", assistantIdMember]) (assistant : List (String × Json)) :
    (stampAssistant (.obj assistant)).at? path = (Json.obj assistant).at? path := by
  rcases path with - | ⟨name, rest⟩
  · exact absurd List.nil_prefix h
  rw [stampAssistant_obj, Json.at?_insert]
  split
  · next hname =>
    subst hname
    have hrest : ¬ rest <+: [assistantIdMember] := by simpa [List.cons_prefix_cons] using h
    rw [at?_stampMetadata_elsewhere hrest]
    cases hmetadata : Assoc.get? "metadata" assistant with
    | some metadata => simp [Json.at?, Json.get?, hmetadata]
    | none =>
        rcases rest with - | ⟨name, rest⟩
        · exact absurd List.nil_prefix hrest
        · simp [Json.at?, Json.get?, hmetadata, Assoc.get?]
  · rfl

/-- **Off the path to the id nothing is written.** -/
theorem at?_stamp_elsewhere {path : List String} (h : ¬ path <+: idPath) (answer : Json) :
    (stamp answer).at? path = answer.at? path := by
  rcases stamp_cases answer with ⟨members, assistant, rfl, hassistant, hstamp⟩ | ⟨-, hstamp⟩
  · rcases path with - | ⟨name, rest⟩
    · exact absurd List.nil_prefix h
    rw [hstamp, Json.at?_insert]
    split
    · next hname =>
      subst hname
      have hrest : ¬ rest <+: ["metadata", assistantIdMember] := by
        simpa [idPath, List.cons_prefix_cons] using h
      rw [at?_stampAssistant_elsewhere hrest]
      simp [Json.at?, Json.get?, hassistant]
    · rfl
  · rw [hstamp]

/-! ## At the end of the path -/

/-- The id of an answer is that in the metadata of its assistant. -/
theorem at?_idPath {answer assistant : Json} (h : answer.get? assistantMember = some assistant) :
    answer.at? idPath = assistant.at? ["metadata", assistantIdMember] := by
  simp [idPath, Json.at?, h]

/-- There is room for an id, or there is none. -/
theorem unmarked_or_settled (answer : Json) : Unmarked answer ∨ Settled answer := by
  by_cases hassistant : ∃ assistant, answer.get? assistantMember = some (.obj assistant)
  · obtain ⟨assistant, hassistant⟩ := hassistant
    cases hmetadata : Assoc.get? "metadata" assistant with
    | none => exact .inl (.bare hassistant hmetadata)
    | some v =>
        cases hv : v.obj? with
        | none => exact .inr (.misfit hassistant hmetadata hv)
        | some metadata =>
            obtain rfl : v = .obj metadata := by
              cases v with
              | obj members => exact congrArg Json.obj (Option.some.inj hv)
              | _ => cases hv
            cases hid : Assoc.get? assistantIdMember metadata with
            | none => exact .inl (.nameless hassistant hmetadata hid)
            | some id =>
                have hfound : answer.at? idPath = some id := by
                  simp [at?_idPath hassistant, Json.at?, Json.get?, hmetadata, hid]
                exact .inr (.identified hfound)
  · exact .inr (.unassisted (by simpa using hassistant))

/-- **Where there is room for an id the default is written.** -/
theorem at?_stamp_of_unmarked {answer : Json} (h : Unmarked answer) :
    (stamp answer).at? idPath = some (.str defaultAssistant) := by
  cases h with
  | bare hassistant hmetadata =>
      rw [at?_idPath (get?_stamp hassistant), stampAssistant_obj, hmetadata]
      simp [Json.at?, Json.get?, Assoc.get?_insert, stampMetadata, Assoc.get?]
  | nameless hassistant hmetadata hid =>
      rw [at?_idPath (get?_stamp hassistant), stampAssistant_obj, hmetadata]
      simp [Json.at?, Json.get?, Assoc.get?_insert, stampMetadata, hid]

/-- Where there is no room for one, the metadata of an assistant stay as they are. -/
theorem stampMetadata_of_settled {answer : Json} {assistant : List (String × Json)}
    (h : Settled answer) (hassistant : answer.get? assistantMember = some (.obj assistant)) :
    ∃ metadata, Assoc.get? "metadata" assistant = some metadata ∧
      stampMetadata metadata = metadata := by
  cases h with
  | identified hid =>
      rw [at?_idPath hassistant] at hid
      obtain ⟨metadata, hmetadata, hid⟩ := Option.bind_eq_some_iff.1 hid
      refine ⟨metadata, hmetadata, ?_⟩
      rcases stampMetadata_cases metadata with ⟨_, rfl, hnone, -⟩ | ⟨-, hsame⟩
      · simp [Json.at?, Json.get?, hnone] at hid
      · exact hsame
  | @misfit other metadata hother hmetadata hobj =>
      obtain rfl : assistant = other := by simpa [hassistant] using hother
      refine ⟨metadata, hmetadata, ?_⟩
      rcases stampMetadata_cases metadata with ⟨_, rfl, -, -⟩ | ⟨-, hsame⟩
      · cases hobj
      · exact hsame
  | unassisted hnone => exact absurd hassistant (hnone _)

/-- An id that is there is kept. -/
theorem at?_stamp_of_identified {answer id : Json} (h : answer.at? idPath = some id) :
    (stamp answer).at? idPath = some id := by
  rcases stamp_cases answer with ⟨members, assistant, rfl, hassistant, -⟩ | ⟨-, hstamp⟩
  · have hbefore : (Json.obj members).get? assistantMember = some (.obj assistant) := hassistant
    obtain ⟨metadata, hmetadata, hsame⟩ := stampMetadata_of_settled (.identified h) hbefore
    rw [at?_idPath hbefore] at h
    rw [at?_idPath (get?_stamp hbefore), stampAssistant_obj, hmetadata, Option.getD_some, hsame,
      Json.at?_insert, if_pos rfl, ← h]
    simp [Json.at?, Json.get?, hmetadata]
  · rwa [hstamp]

/-- **Where there is no room for one nothing is written.** -/
theorem stamp_of_settled {answer : Json} (ho : answer.Ordered) (h : Settled answer) :
    stamp answer = answer := by
  rcases stamp_cases answer with ⟨members, assistant, rfl, hassistant, hstamp⟩ | ⟨-, hstamp⟩
  · obtain ⟨metadata, hmetadata, hsame⟩ := stampMetadata_of_settled h hassistant
    have hmembers : Assoc.Sorted members := (Json.ordered_obj_iff.1 ho).1
    have hassistant' : Assoc.Sorted assistant := (Json.ordered_obj_iff.1 (ho.of_get? hassistant)).1
    rw [hstamp, stampAssistant_obj, hmetadata, Option.getD_some, hsame,
      Assoc.insert_of_get? hassistant' hmetadata, Assoc.insert_of_get? hmembers hassistant]
  · exact hstamp

/-! ## Order and resolution -/

/-- Metadata in order are in order when stamped. -/
theorem ordered_stampMetadata {v : Json} (h : v.Ordered) : (stampMetadata v).Ordered := by
  rcases stampMetadata_cases v with ⟨metadata, rfl, -, hstamp⟩ | ⟨-, hstamp⟩
  · rw [hstamp]
    exact h.insert _ (.plain rfl rfl)
  · rwa [hstamp]

/-- An answer in order is in order when stamped. -/
theorem ordered_stamp {answer : Json} (h : answer.Ordered) : (stamp answer).Ordered := by
  rcases stamp_cases answer with ⟨members, assistant, rfl, hassistant, hstamp⟩ | ⟨-, hstamp⟩
  · have hordered : (Json.obj assistant).Ordered := h.of_get? hassistant
    have hmetadata : ((Assoc.get? "metadata" assistant).getD (.obj [])).Ordered := by
      cases hm : Assoc.get? "metadata" assistant with
      | none => exact Json.ordered_nil
      | some metadata => exact hordered.of_get? hm
    rw [hstamp, stampAssistant_obj]
    exact h.insert _ (hordered.insert _ (ordered_stampMetadata hmetadata))
  · rwa [hstamp]

/-- **A marked answer names the assistant that it named before.** -/
theorem assistantOf_stamp (answer : Json) : assistantOf (stamp answer) = assistantOf answer := by
  rcases stamp_cases answer with ⟨members, assistant, rfl, hassistant, -⟩ | ⟨-, hstamp⟩
  · have hbefore : (Json.obj members).get? assistantMember = some (.obj assistant) := hassistant
    rw [assistantOf_eq hbefore, assistantOf_eq (get?_stamp hbefore), namedBy_stampAssistant]
  · rw [hstamp]

/-- The assistant of a message depends on one member of it. -/
theorem assistantOf_congr {message message' : Json}
    (h : message.get? assistantMember = message'.get? assistantMember) :
    assistantOf message = assistantOf message' := by
  show (((message.get? assistantMember).bind _).bind _).getD _ = _
  rw [h]
  rfl

/-- **Marking an answer is faithful to it.** -/
structure StampFaithful (answer : Json) : Prop where
  /-- The marked answer names the assistant that the answer names. -/
  resolves : assistantOf (stamp answer) = assistantOf answer
  /-- So does every message that echoes the marked assistant. -/
  echoed : ∀ message, message.get? assistantMember = (stamp answer).get? assistantMember →
    assistantOf message = assistantOf answer
  /-- Where an assistant is described, with metadata that are missing or an object, there is an id
  afterwards. -/
  present : ∀ assistant, answer.get? assistantMember = some (.obj assistant) →
    (∀ v, Assoc.get? "metadata" assistant = some v → ∃ metadata, v = .obj metadata) →
      ∃ id, (stamp answer).at? idPath = some id
  /-- A second mark changes nothing. -/
  idempotent : stamp (stamp answer) = stamp answer
  /-- Where there is room for an id the default is written. -/
  written : Unmarked answer → (stamp answer).at? idPath = some (.str defaultAssistant)
  /-- An id that is there, of any type, is kept. -/
  kept : ∀ id, answer.at? idPath = some id → (stamp answer).at? idPath = some id
  /-- Nothing is written off the path to the id. -/
  elsewhere : ∀ path, ¬ path <+: idPath → (stamp answer).at? path = answer.at? path
  /-- Without room for an id nothing is written at all. -/
  settled : answer.Ordered → Settled answer → stamp answer = answer
  /-- There is room for an id, or there is none. -/
  decided : Unmarked answer ∨ Settled answer
  /-- The names of members still increase. -/
  ordered : answer.Ordered → (stamp answer).Ordered
  /-- They do in every answer that can be read. -/
  read : ∀ bytes, Json.ofBytes bytes = .ok answer → answer.Ordered

/-- **Stamping is faithful**: an answer gets an id where it should have one and has none, and is
otherwise what it was. -/
theorem stamp_faithful (answer : Json) : StampFaithful answer := by
  constructor
  case resolves => exact assistantOf_stamp answer
  case echoed =>
    intro message hecho
    rw [assistantOf_congr hecho, assistantOf_stamp]
  case present =>
    intro assistant hassistant hmetadata
    rcases unmarked_or_settled answer with hunmarked | hsettled
    · exact ⟨_, at?_stamp_of_unmarked hunmarked⟩
    · cases hsettled with
      | identified hid => exact ⟨_, at?_stamp_of_identified hid⟩
      | @misfit other v hother hv hobj =>
          obtain rfl : assistant = other := by simpa [hassistant] using hother
          obtain ⟨metadata, rfl⟩ := hmetadata v hv
          cases hobj
      | unassisted hnone => exact absurd hassistant (hnone _)
  case idempotent => exact stamp_stamp answer
  case written => exact at?_stamp_of_unmarked
  case kept => exact fun _ => at?_stamp_of_identified
  case elsewhere => exact fun path h => at?_stamp_elsewhere h answer
  case settled => exact stamp_of_settled
  case decided => exact unmarked_or_settled answer
  case ordered => exact ordered_stamp
  case read => exact fun _ => Json.ordered_of_ofBytes

end Switchboard
