import Payments.Proofs.Json.Members
import Payments.Webhook.Event

/-!
Payloads that spell an envelope. Each of them is read to that envelope, whatever value its object is
and whatever other members stand around.
-/

namespace Payments.Webhook

open Json Json.Reader

/-- The data of an event, with its object once among other members. -/
def SpellsData (text : List UInt8) (object : Json) (rest : List UInt8) : Prop :=
  ∃ members,
    Record (only "object" (Value 125)) text members rest ∧
    (namesAmong ["object"] members).Nodup ∧ ("object", object) ∈ members

namespace Envelope

structure MadeUpOf (envelope : Envelope) (members : List (String × Json)) : Prop where
  once : (namesAmong ["id", "type", "created", "livemode", "data"] members).Nodup
  id : ("id", .str envelope.id) ∈ members
  type : ("type", .str envelope.type) ∈ members
  created : ∀ value, ("created", value) ∈ members →
    ∃ n, value = .num (.int n) ∧ -2 ^ 63 ≤ n ∧ n ≤ 2 ^ 63 - 1
  livemode : ∀ value, ("livemode", value) ∈ members → ∃ b, value = .bool b
  object : ("data", envelope.object) ∈ members

/-- The payload is an object that spells the envelope. -/
def SpelledBy (envelope : Envelope) (payload : List UInt8) : Prop :=
  ∃ members rest,
    Record (only "data" SpellsData) (spaceless payload) members rest ∧
    rest.all isSpace = true ∧ envelope.MadeUpOf members

def put (member : String × Json) (draft : Draft) : Draft :=
  if member.1 = "id" then { draft with id := member.2.str? }
  else if member.1 = "type" then { draft with type := member.2.str? }
  else if member.1 = "data" then { draft with object := some member.2 }
  else draft

def draftOf (members : List (String × Json)) : Draft :=
  members.foldl (fun draft member => put member draft) {}

end Envelope

section

variable {text rest : List UInt8} {object : Json} {envelope : Envelope} {payload : List UInt8}

theorem SpellsData.length_lt (spelled : SpellsData text object rest) :
    rest.length < text.length := by
  obtain ⟨members, isRecord, _⟩ := spelled
  exact isRecord.length_lt fun name => only_length_lt Value.length_lt

theorem reads_data (spelled : SpellsData (spaceless text) object rest) :
    Reads Envelope.dataReader 126 text object rest := by
  obtain ⟨members, isRecord, once, isObject⟩ := spelled
  refine reads_record (fun member draft => if member.1 = "object" then some member.2 else draft) ?_
    (fun name => only_length_lt Value.length_lt) isRecord once ?_
  · rintro ⟨name, value⟩ _ text rest spelled
    by_cases own : name = "object"
    · subst own
      exact Reads.map (reads_value spelled).spaces
    · simp only [only, own, if_false] at spelled ⊢
      exact Takes.other (by simpa [Field.of] using own) spelled
  · exact foldl_of_mem (fun draft => draft) (fun _ => rfl)
      (fun other draft different => if_neg different) List.mem_cons_self isObject once none

theorem Envelope.put_of_other {name : String} {value : Json} (noId : name ≠ "id")
    (noType : name ≠ "type") (noData : name ≠ "data") :
    Envelope.put (name, value) = fun draft => draft := by
  funext draft
  simp [Envelope.put, noId, noType, noData]

theorem finish?_of_madeUpOf {members : List (String × Json)} (made : envelope.MadeUpOf members) :
    (Envelope.draftOf members).finish? = some envelope := by
  have id : (Envelope.draftOf members).id = some envelope.id :=
    foldl_of_mem Envelope.Draft.id (fun _ => rfl) (by grind [Envelope.put])
      List.mem_cons_self made.id made.once {}
  have type : (Envelope.draftOf members).type = some envelope.type :=
    foldl_of_mem Envelope.Draft.type (fun _ => rfl) (by grind [Envelope.put])
      (by simp) made.type made.once {}
  have object : (Envelope.draftOf members).object = some envelope.object :=
    foldl_of_mem Envelope.Draft.object (fun _ => rfl) (by grind [Envelope.put])
      (by simp) made.object made.once {}
  unfold Envelope.Draft.finish?
  rw [id, type, object]
  rfl

theorem parse_of_spelledBy (spelled : envelope.SpelledBy payload) :
    Reader.parse Envelope.reader payload = .ok envelope := by
  obtain ⟨members, rest, isRecord, ended, made⟩ := spelled
  refine parse_of_reads (reads_record Envelope.put ?_
    (fun name => only_length_lt SpellsData.length_lt) isRecord made.once
    (finish?_of_madeUpOf made)) ended
  rintro ⟨name, value⟩ among text rest spelled
  by_cases isName : name ∈ ["id", "type", "created", "livemode", "data"]
  · simp only [List.mem_cons, List.not_mem_nil, or_false] at isName
    rcases isName with rfl | rfl | rfl | rfl | rfl
    · cases eq_of_once made.once (by decide) among made.id
      exact Reads.map (reads_string spelled)
    · cases eq_of_once made.once (by decide) among made.type
      exact Reads.map (reads_string spelled)
    · obtain ⟨n, rfl, inRange⟩ := made.created value among
      exact Reads.map (reads_int spelled inRange)
    · obtain ⟨b, rfl⟩ := made.livemode value among
      exact Reads.map (reads_bool spelled)
    · exact Reads.map (reads_data spelled)
  · have isOther := isName
    simp only [List.mem_cons, List.not_mem_nil, or_false, not_or] at isName
    rw [Envelope.put_of_other isName.1 isName.2.1 isName.2.2.2.2]
    rw [only, if_neg isName.2.2.2.2] at spelled
    exact Takes.other isOther spelled

end

end Payments.Webhook
