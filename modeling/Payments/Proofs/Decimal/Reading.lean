import Mathlib.Data.List.TakeWhile
import Payments.Proofs.Decimal.Places
import Payments.Proofs.Text.Digits

/-!
Decimals read back from their text. As long as there is room for the digits, reading takes them in
one by one and never rounds; and there is room for all digits that writing a decimal gives.
-/

namespace Payments.Decimal

namespace Partial

variable {soFar : Partial} {digits : List Char}

structure Extends (soFar : Partial) (digits : List Char) (longer : Partial) : Prop where
  negative : longer.negative = soFar.negative
  point : longer.point = soFar.point
  units : longer.units = Nat.ofDigitChars 10 digits soFar.units
  scale : longer.scale = if soFar.point then soFar.scale + digits.length else soFar.scale

theorem push?_of_room {digit : Nat} (room : soFar.units * 10 + digit < 2 ^ 96)
    (places : soFar.point = true → soFar.scale + 1 ≤ 28) :
    ∃ longer, soFar.push? digit = some longer ∧ longer.negative = soFar.negative ∧
      longer.point = soFar.point ∧ longer.units = soFar.units * 10 + digit ∧
      longer.scale = if soFar.point then soFar.scale + 1 else soFar.scale := by
  have bound : (if soFar.point then soFar.scale + 1 else soFar.scale) ≤ 28 := by
    split
    · exact places ‹_›
    · exact soFar.scale_le
  unfold push?
  rw [dif_pos ⟨room, bound⟩]
  exact ⟨_, rfl, rfl, rfl, rfl, rfl⟩

theorem read_digits (soFar : Partial) (started : Bool) (rest : List Char)
    (digital : ∀ c ∈ digits, c.isDigit = true)
    (room : Nat.ofDigitChars 10 digits soFar.units < 2 ^ 96)
    (places : soFar.point = true → soFar.scale + digits.length ≤ 28) :
    ∃ longer, Extends soFar digits longer ∧
      soFar.read started (digits ++ rest) = longer.read (started || !digits.isEmpty) rest := by
  induction digits generalizing soFar started with
  | nil => exact ⟨soFar, ⟨rfl, rfl, Nat.ofDigitChars_nil.symm, by simp⟩, by simp⟩
  | cons c digits ih =>
      obtain ⟨isDigit, digital⟩ := List.forall_mem_cons.mp digital
      rw [Nat.ofDigitChars_cons, Nat.mul_comm] at room
      simp only [List.length_cons] at places
      obtain ⟨next, pushed, negative, point, units, scale⟩ :=
        push?_of_room ((le_ofDigitChars digits _).trans_lt room) (fun isBehind => by
          have bound := places isBehind
          omega)
      have bound : next.point = true → next.scale + digits.length ≤ 28 := by
        intro isBehind
        rw [point] at isBehind
        have bound := places isBehind
        rw [scale, if_pos isBehind]
        omega
      obtain ⟨longer, extended, onward⟩ := ih next true digital (units ▸ room) bound
      refine ⟨longer, ⟨?_, ?_, ?_, ?_⟩, ?_⟩
      · rw [extended.negative, negative]
      · rw [extended.point, point]
      · rw [extended.units, units, Nat.ofDigitChars_cons, Nat.mul_comm]
      · rw [extended.scale, scale, point, List.length_cons]
        split <;> omega
      · rw [List.cons_append, read, digit?, if_pos isDigit]
        dsimp only
        rw [pushed, List.isEmpty_cons, Bool.not_false, Bool.or_true]
        exact onward.trans (by rw [Bool.true_or])

end Partial

variable {x : Decimal}

def withoutZeroSign (x : Decimal) : Decimal :=
  { x with negativeZero := false, units_eq_zero := nofun }

theorem signed_isNegative (x : Decimal) : signed x.isNegative x.units.natAbs = x.units := by
  cases zero : x.negativeZero with
  | true =>
      rw [x.units_eq_zero zero]
      cases x.isNegative <;> rfl
  | false => rw [isNegative, zero, Bool.or_false, signed_natAbs]

theorem finish_eq {read : Partial} (negative : read.negative = x.isNegative)
    (units : read.units = x.units.natAbs) (scale : read.scale = x.scale) :
    read.finish = x.withoutZeroSign := by
  apply ext
  · change signed read.negative read.units = x.units
    rw [negative, units, signed_isNegative]
  · exact scale
  · rfl

def magnitudeText (x : Decimal) : List Char :=
  Nat.toDigits 10 (x.units.natAbs / 10 ^ x.scale) ++
    if x.scale = 0 then [] else '.' :: paddedDigits x.scale (x.units.natAbs % 10 ^ x.scale)

theorem read_point (soFar : Partial) (before : soFar.point = false) (rest : List Char) :
    soFar.read true ('.' :: rest) = { soFar with point := true }.read true rest := by
  rw [Partial.read]
  simp [digit?, before]

theorem read_magnitudeText (x : Decimal) :
    (Partial.start x.isNegative).read false x.magnitudeText = .ok x.withoutZeroSign := by
  have start : Nat.ofDigitChars 10 (Nat.toDigits 10 (x.units.natAbs / 10 ^ x.scale))
      (Partial.start x.isNegative).units = x.units.natAbs / 10 ^ x.scale :=
    Nat.ofDigitChars_ten_toDigits
  have room : x.units.natAbs / 10 ^ x.scale < 2 ^ 96 := (Nat.div_le_self _ _).trans_lt x.units_lt
  obtain ⟨whole, read, onward⟩ := Partial.read_digits (Partial.start x.isNegative) false
    (if x.scale = 0 then [] else '.' :: paddedDigits x.scale (x.units.natAbs % 10 ^ x.scale))
    (fun c member => isDigit_of_mem_toDigits member) (start ▸ room) nofun
  have units : whole.units = x.units.natAbs / 10 ^ x.scale := read.units.trans start
  have some : (Nat.toDigits 10 (x.units.natAbs / 10 ^ x.scale)).isEmpty = false :=
    List.isEmpty_eq_false_iff.mpr Nat.toDigits_ne_nil
  rw [magnitudeText, onward, some]
  split
  · rename_i noPlaces
    rw [noPlaces, Nat.pow_zero, Nat.div_one] at units
    exact congrArg Except.ok (finish_eq read.negative units (read.scale.trans noPlaces.symm))
  · rename_i places
    have places : 0 < x.scale := Nat.pos_of_ne_zero places
    have fraction : x.units.natAbs % 10 ^ x.scale < 10 ^ x.scale :=
      Nat.mod_lt _ (Nat.pow_pos (by decide))
    have digits : Nat.ofDigitChars 10 (paddedDigits x.scale (x.units.natAbs % 10 ^ x.scale))
        whole.units = x.units.natAbs := by
      rw [ofDigitChars_paddedDigits places fraction, units, Nat.div_add_mod]
    have length := length_paddedDigits places fraction
    have noPlaces : whole.scale = 0 := read.scale
    rw [Bool.not_false, Bool.false_or, read_point whole read.point]
    obtain ⟨all, readAll, ended⟩ := Partial.read_digits { whole with point := true } true []
      (fun c member => isDigit_of_mem_paddedDigits member) (digits.symm ▸ x.units_lt)
      (fun _ => by
        have bound := x.scale_le
        simp only [noPlaces, length]
        omega)
    rw [List.append_nil, Bool.true_or] at ended
    have scale : all.scale = x.scale := by
      rw [readAll.scale, length]
      simp only [noPlaces, if_true]
      omega
    exact ended.trans (congrArg Except.ok
      (finish_eq (readAll.negative.trans read.negative) (readAll.units.trans digits) scale))

theorem toList_text (x : Decimal) :
    x.text.toList = (if x.isNegative then ['-'] else []) ++ x.magnitudeText := by
  rw [text, String.toList_ofList, magnitudeText, List.append_assoc]

theorem mem_text {c : Char} (member : c ∈ x.text.toList) : c.isDigit = true ∨ c = '.' ∨ c = '-' := by
  rw [toList_text, magnitudeText, List.mem_append, List.mem_append] at member
  rcases member with sign | whole | fraction
  · split at sign
    · exact .inr (.inr (List.mem_singleton.mp sign))
    · cases sign
  · exact .inl (isDigit_of_mem_toDigits whole)
  · split at fraction
    · cases fraction
    · rcases List.mem_cons.mp fraction with point | digit
      · exact .inr (.inl point)
      · exact .inl (isDigit_of_mem_paddedDigits digit)

theorem ofPlain_text (x : Decimal) : ofPlain x.text.toList = .ok x.withoutZeroSign := by
  have read := read_magnitudeText x
  rw [toList_text]
  cases negative : x.isNegative with
  | true =>
      rw [negative] at read
      exact read
  | false =>
      rw [negative] at read
      rw [if_neg Bool.false_ne_true, List.nil_append]
      obtain ⟨c, digits, isText⟩ := List.exists_cons_of_ne_nil
        (Nat.toDigits_ne_nil (n := x.units.natAbs / 10 ^ x.scale) (b := 10))
      have digit : c.isDigit = true :=
        isDigit_of_mem_toDigits (isText ▸ List.mem_cons_self : c ∈ Nat.toDigits 10 _)
      have starts : ∃ rest, x.magnitudeText = c :: rest := by
        rw [magnitudeText, isText]
        exact ⟨_, List.cons_append⟩
      obtain ⟨rest, whole⟩ := starts
      rw [whole] at read ⊢
      unfold ofPlain
      split
      · rename_i none
        cases none
      · rename_i minus
        cases minus
        cases digit
      · rename_i plus
        cases plus
        cases digit
      · exact read

/-- What is written is read as it was, but for the sign of a zero. -/
theorem ofText_text (x : Decimal) : ofText x.text = .ok x.withoutZeroSign := by
  have unmarked : ∀ c ∈ x.text.toList, (!isExponentMark c) = true := by
    intro c member
    rcases mem_text member with digit | rfl | rfl
    · have noMark : c ≠ 'e' ∧ c ≠ 'E' := by
        constructor <;> rintro rfl <;> cases digit
      simp [isExponentMark, noMark]
    · decide
    · decide
  have whole : x.text.toList.takeWhile (!isExponentMark ·) = x.text.toList :=
    List.takeWhile_eq_self_iff.mpr unmarked
  have none : x.text.toList.dropWhile (!isExponentMark ·) = [] :=
    List.dropWhile_eq_nil_iff.mpr unmarked
  rw [ofText, whole, none]
  exact ofPlain_text x

end Payments.Decimal
