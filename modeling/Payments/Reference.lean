import Payments.Refusal
import Payments.Text.Blank

/-!
Names the gateway gives out: the reference of a charge, which joins a stored payment to every later
word about it, and the identifier of an event.
-/

namespace Payments

structure Reference where
  text : String
  ne_empty : text ≠ ""
  not_blank : ∀ c ∈ text.toList, Text.isBlank c = false
deriving DecidableEq, Repr

structure EventId where
  text : String
  starts : "evt_".toList.isPrefixOf text.toList = true
deriving DecidableEq, Repr

def Reference.ofText (text : String) : Except Refusal Reference :=
  if valid : text ≠ "" ∧ text.toList.all (!Text.isBlank ·) then
    .ok ⟨text, valid.1, by simpa using valid.2⟩
  else .error (.invalidReference text)

theorem Reference.text_inj {reference other : Reference} :
    reference.text = other.text ↔ reference = other := by
  cases reference
  cases other
  simp

theorem Reference.ofText_eq_ok_iff {text : String} {reference : Reference} :
    Reference.ofText text = .ok reference ↔ reference.text = text := by
  unfold Reference.ofText
  constructor
  · intro made
    split at made
    · cases made
      rfl
    · cases made
  · rintro rfl
    exact dif_pos ⟨reference.ne_empty, by simpa using reference.not_blank⟩

def EventId.ofText (text : String) : Except Refusal EventId :=
  if starts : "evt_".toList.isPrefixOf text.toList = true then .ok ⟨text, starts⟩
  else .error (.invalidReference text)

end Payments
