import Payments.Json.Reader

/-!
The reader of values of any shape. It fails only where the text is no JSON, never because of the
shape of what stands there.
-/

namespace Payments.Json.Reader

/-- The reader takes every shape: it faults only at text that is no JSON. -/
def TakesAll {α : Type} (reader : Reader α) : Prop :=
  ∀ depth bytes, (reader.run depth).run bytes ≠ .error .mismatch

section

variable {α β : Type} {reader : Reader α}

namespace TakesAll

theorem pure (x : α) : TakesAll (Pure.pure x : Reader α) := fun _ _ => nofun

theorem malformed : TakesAll (Reader.malformed : Reader α) := by
  intro depth bytes failed
  cases failed

theorem bind {next : α → Reader β} (takesAll : TakesAll reader) (onward : ∀ x, TakesAll (next x)) :
    TakesAll (reader >>= next) := by
  intro depth bytes failed
  have inTurn : ((reader >>= next).run depth).run bytes =
    ((reader.run depth).run bytes).bind fun read => ((next read.1).run depth).run read.2 := rfl
  rw [inTurn] at failed
  cases outcome : (reader.run depth).run bytes with
  | error fault =>
      rw [outcome] at failed
      cases failed
      exact takesAll depth bytes outcome
  | ok read =>
      rw [outcome] at failed
      exact onward _ _ _ failed

theorem get : TakesAll (MonadState.get : Reader (List UInt8)) := fun _ _ => nofun

theorem ite {condition : Prop} [Decidable condition] {other : Reader α} (holds : TakesAll reader)
    (fails : TakesAll other) : TakesAll (if condition then reader else other) := by
  split
  · exact holds
  · exact fails

end TakesAll

open TakesAll

theorem takesAll_advance : TakesAll advance := fun _ _ => nofun

theorem takesAll_peek : TakesAll peek := fun _ _ => nofun

theorem takesAll_literal (word : String) : TakesAll (literal word) :=
  .bind .get fun _ => .ite (fun _ _ => nofun) .malformed

theorem takesAll_next (c : Char) : TakesAll (next c) := by
  refine .bind .get fun bytes => ?_
  split
  · exact .ite (fun _ _ => nofun) (.pure false)
  · exact .pure false

theorem takesAll_digits1 : TakesAll digits1 :=
  .bind (fun _ _ => nofun) fun found => .ite .malformed (.pure found)

theorem takesAll_numeral : TakesAll numeral := by
  refine .bind (takesAll_next '-') fun negative => .bind takesAll_digits1 fun whole => ?_
  have signed : ∀ fraction minus, TakesAll (digits1 >>= fun exponent =>
      Pure.pure (⟨negative, whole, fraction, some (minus, exponent)⟩ : Numeral)) :=
    fun _ _ => .bind takesAll_digits1 fun _ => .pure _
  have marked : ∀ (fraction : List Nat) (marked : Bool), TakesAll (if marked = true then
      next '-' >>= fun minus =>
        if minus = true then digits1 >>= fun exponent =>
          Pure.pure (⟨negative, whole, fraction, some (minus, exponent)⟩ : Numeral)
        else discard (next '+') >>= fun _ => digits1 >>= fun exponent =>
          Pure.pure ⟨negative, whole, fraction, some (minus, exponent)⟩
      else Pure.pure ⟨negative, whole, fraction, none⟩) := by
    intro fraction marked
    refine .ite (.bind (takesAll_next '-') fun minus => .ite (signed _ _) ?_) (.pure _)
    exact .bind (.bind (takesAll_next '+') fun _ => .pure _) fun _ => signed _ _
  have rest : ∀ fraction, TakesAll (next 'e' >>= fun found =>
      if found = true then Pure.pure true >>= fun marked => _ else next 'E' >>= fun marked => _) :=
    fun fraction => .bind (takesAll_next 'e') fun _ =>
      .ite (.bind (.pure true) (marked fraction)) (.bind (takesAll_next 'E') (marked fraction))
  have decimal : TakesAll (next '.' >>= fun found =>
      if found = true then digits1 >>= fun fraction => _ else Pure.pure [] >>= fun fraction => _) :=
    .bind (takesAll_next '.') fun _ => .ite (.bind takesAll_digits1 rest) (.bind (.pure []) rest)
  exact .ite (.bind .malformed fun _ => decimal) decimal

theorem takesAll_number : TakesAll number := by
  refine .bind takesAll_numeral fun numeral => ?_
  split
  · exact .pure _
  · exact .malformed

theorem takesAll_quoted : TakesAll quoted := by
  refine .bind .get fun bytes => ?_
  split
  · exact .malformed
  · split
    · exact .malformed
    · exact fun _ _ => nofun

theorem takesAll_another (close : Char) (first : Bool) : TakesAll (another close first) := by
  refine .bind takesAll_peek fun found => ?_
  split
  · exact .malformed
  · refine .ite (.pure false) (.ite (.pure true) (.ite ?_ .malformed))
    refine .bind takesAll_advance fun _ => ?_
    refine .bind takesAll_peek fun found => ?_
    split
    · exact .malformed
    · exact .ite .malformed (.pure true)

theorem takesAll_elements (takesAll : TakesAll reader) (fuel : Nat) (first : Bool) (read : List α) :
    TakesAll (elements reader fuel first read) := by
  induction fuel generalizing first read with
  | zero => exact .malformed
  | succ fuel ih =>
      refine .bind (takesAll_another _ _) fun more => .ite ?_ ?_
      · exact .bind takesAll fun _ => ih _ _
      · exact .bind takesAll_advance fun _ => .pure _

theorem takesAll_key : TakesAll key := by
  refine .bind takesAll_peek fun found => ?_
  split
  · exact takesAll_quoted
  · exact .malformed

theorem takesAll_colon : TakesAll colon := by
  refine .bind takesAll_peek fun found => ?_
  split
  · exact takesAll_advance
  · exact .malformed

theorem takesAll_members {member : String → Reader α} (takesAll : ∀ name, TakesAll (member name))
    (fuel : Nat) (first : Bool) (read : List α) : TakesAll (members member fuel first read) := by
  induction fuel generalizing first read with
  | zero => exact .malformed
  | succ fuel ih =>
      refine .bind (takesAll_another _ _) fun more => .ite ?_ ?_
      · exact .bind takesAll_key fun name => .bind takesAll_colon fun _ =>
          .bind (takesAll name) fun _ => ih _ _
      · exact .bind takesAll_advance fun _ => .pure _

theorem takesAll_room : TakesAll room := fun _ _ => nofun

theorem takesAll_scalar : TakesAll valueWithin.scalar := by
  refine .bind takesAll_peek fun found => ?_
  split
  · exact .bind (takesAll_literal _) fun _ => .pure _
  · exact .bind (takesAll_literal _) fun _ => .pure _
  · exact .bind (takesAll_literal _) fun _ => .pure _
  · exact .bind takesAll_quoted fun _ => .pure _
  · exact .ite (.bind takesAll_number fun _ => .pure _) .malformed
  · exact .malformed

theorem takesAll_valueWithin (depth : Nat) : TakesAll (valueWithin depth) := by
  induction depth with
  | zero => exact takesAll_scalar
  | succ depth ih =>
      refine .bind takesAll_peek fun found => ?_
      split
      · exact .bind takesAll_advance fun _ => .bind takesAll_room fun _ =>
          .bind (takesAll_elements ih _ _ _) fun _ => .pure _
      · exact .bind takesAll_advance fun _ => .bind takesAll_room fun _ =>
          .bind (takesAll_members (fun name => .bind ih fun _ => .pure _) _ _ _) fun _ => .pure _
      · exact takesAll_scalar

theorem takesAll_value : TakesAll value := .bind (fun _ _ => nofun) fun _ => takesAll_valueWithin _

end

end Payments.Json.Reader
