import Mathlib.Data.List.Basic
import Payments.Proofs.Text.Trim
import Payments.Text.LowerCase

/-!
Lower case of a piece of a text. Every character has one lower-case form wherever it stands, except the
capital sigma, which looks at the letters around it; so a piece that is put elsewhere keeps its
lower-case form exactly if each of its sigmas does. Blanks around a text are no letters, so that it is
all one whether it is trimmed before or after.
-/

namespace Payments.Text

/-- A cased letter stands before, given backwards, and none after: here a sigma is a final one. -/
def endsWord (before after : List Char) : Bool := meetsCased before && !meetsCased after

def lowerAt (before after : List Char) (c : Char) : List Char :=
  if c = 'Σ' then (if endsWord before after then ['ς'] else ['σ']) else lowerChar c

/-- Lower case of a piece of a text that has these characters before it, given backwards, and after
it. -/
def lowerBetween (before after : List Char) : List Char → List Char
  | [] => []
  | c :: rest => lowerAt before (rest ++ after) c ++ lowerBetween (c :: before) after rest

/-- Each capital sigma of the piece has the lower-case form that it has in the piece alone. -/
def KeepsSigmas (before piece after : List Char) : Prop :=
  ∀ left right, piece = left ++ 'Σ' :: right →
    endsWord (left.reverse ++ before.reverse) (right ++ after) = endsWord left.reverse right

variable {before after front piece rest chars needle : List Char} {c : Char} {text : String}

theorem lowerFrom_eq : lowerFrom before chars = lowerBetween before [] chars := by
  induction chars generalizing before with
  | nil => rfl
  | cons c rest ih =>
      rw [lowerFrom, lowerBetween, ih, lowerAt, endsWord, List.append_nil]

theorem toList_lower : (lower text).toList = lowerBetween [] [] text.toList := by
  rw [lower, String.toList_ofList, lowerFrom_eq]

theorem lowerBetween_append :
    lowerBetween before after (front ++ rest) =
      lowerBetween before (rest ++ after) front ++
        lowerBetween (front.reverse ++ before) after rest := by
  induction front generalizing before with
  | nil => rfl
  | cons c front ih =>
      rw [List.cons_append, lowerBetween, lowerBetween, ih, List.reverse_cons]
      simp only [List.append_assoc, List.singleton_append]

theorem lowerAt_inj {other otherAfter : List Char} :
    lowerAt before after 'Σ' = lowerAt other otherAfter 'Σ' ↔
      endsWord before after = endsWord other otherAfter := by
  unfold lowerAt
  cases endsWord before after <;> cases endsWord other otherAfter <;> simp

theorem length_lowerAt {other otherAfter : List Char} :
    (lowerAt before after c).length = (lowerAt other otherAfter c).length := by
  unfold lowerAt
  split
  · split <;> split <;> rfl
  · rfl

theorem lowerBetween_eq_iff {other otherAfter : List Char} :
    lowerBetween before after piece = lowerBetween other otherAfter piece ↔
      ∀ left right, piece = left ++ 'Σ' :: right →
        endsWord (left.reverse ++ before) (right ++ after) =
          endsWord (left.reverse ++ other) (right ++ otherAfter) := by
  induction piece generalizing before other with
  | nil => simp [lowerBetween]
  | cons c rest ih =>
      rw [lowerBetween, lowerBetween]
      constructor
      · intro same left right split
        obtain ⟨here, later⟩ := List.append_inj same length_lowerAt
        rw [ih] at later
        cases left with
        | nil =>
            obtain ⟨rfl, rfl⟩ := List.cons.inj split
            exact lowerAt_inj.mp here
        | cons d left =>
            obtain ⟨rfl, isRest⟩ := List.cons.inj split
            simpa using later left right isRest
      · intro same
        congr 1
        · by_cases sigma : c = 'Σ'
          · subst sigma
            exact lowerAt_inj.mpr (same [] rest rfl)
          · rw [lowerAt, lowerAt, if_neg sigma, if_neg sigma]
        · refine ih.mpr fun left right isRest => ?_
          simpa using same (c :: left) right (by rw [isRest, List.cons_append])

theorem lowerBetween_eq_alone_iff :
    lowerBetween before.reverse after piece = lowerBetween [] [] piece ↔
      KeepsSigmas before piece after := by
  rw [lowerBetween_eq_iff]
  simp only [List.append_nil, KeepsSigmas]

theorem occursIn_iff : occursIn needle chars = true ↔ needle <:+: chars := by
  induction chars with
  | nil => rw [occursIn, List.isEmpty_iff, List.infix_nil]
  | cons c rest ih =>
      rw [occursIn, Bool.or_eq_true, List.isPrefixOf_iff_prefix, ih, List.infix_cons_iff]

/-! ## Blanks -/

def blankCodes : List Nat :=
  [9, 10, 11, 12, 13, 0x20, 0x85, 0xA0, 0x1680, 0x2000, 0x2001, 0x2002, 0x2003, 0x2004, 0x2005,
   0x2006, 0x2007, 0x2008, 0x2009, 0x200A, 0x2028, 0x2029, 0x202F, 0x205F, 0x3000]

theorem isBlank_iff : isBlank c = true ↔ c.toNat ∈ blankCodes := by
  simp only [isBlank, blankCodes, Bool.or_eq_true, Bool.and_eq_true, decide_eq_true_eq,
    beq_iff_eq, List.mem_cons, List.not_mem_nil, or_false]
  omega

theorem blank_facts (blank : isBlank c = true) :
    lowerChar c = [c] ∧ isCaseIgnorable c = false ∧ isCased c = false := by
  have listed : ∀ code ∈ blankCodes,
      lowerChar (Char.ofNat code) = [Char.ofNat code] ∧
        isCaseIgnorable (Char.ofNat code) = false ∧ isCased (Char.ofNat code) = false := by
    decide +kernel
  simpa only [Char.ofNat_toNat] using listed c.toNat (isBlank_iff.mp blank)

theorem lowerRuns_clear : ∀ run ∈ lowerRuns, ∀ code ∈ blankCodes,
    code < run.2.2.2 ∨ run.2.2.2 + (run.2.1 - run.1) < code := by
  decide +kernel

theorem isBlank_ofNat {code : Nat} (other : code ∉ blankCodes) :
    isBlank (Char.ofNat code) = false := by
  by_cases valid : code.isValidChar
  · have isCode : Char.ofNat code = Char.ofNatAux code valid := dif_pos valid
    rw [isCode, Bool.eq_false_iff, Ne, isBlank_iff]
    exact other
  · have isNull : Char.ofNat code = '\x00' := dif_neg valid
    rw [isNull]
    rfl

theorem lowerChar_clear (clear : isBlank c = false) : ∀ d ∈ lowerChar c, isBlank d = false := by
  unfold lowerChar
  split
  · rename_i ascii
    have listed : ∀ code < 0x80, isBlank (Char.ofNat code) = false →
        isBlank (Char.ofNat code).toLower = false := by
      decide +kernel
    have lowered := listed c.toNat ascii
    rw [Char.ofNat_toNat] at lowered
    simpa using lowered clear
  · split
    · rw [List.forall_mem_cons, List.forall_mem_singleton]
      decide
    · split
      · rename_i first last step lower found
        have inRun := List.find?_some found
        simp only [Bool.and_eq_true, decide_eq_true_eq] at inRun
        rw [List.forall_mem_singleton]
        refine isBlank_ofNat fun isCode => ?_
        have apart := lowerRuns_clear _ (List.mem_of_find?_eq_some found) _ isCode
        dsimp only at apart
        omega
      · simpa using clear

theorem lowerAt_clear (clear : isBlank c = false) :
    ∀ d ∈ lowerAt before after c, isBlank d = false := by
  unfold lowerAt
  split
  · split <;> exact List.forall_mem_singleton.mpr (by decide)
  · exact lowerChar_clear clear

theorem lowerAt_of_blank (blank : isBlank c = true) : lowerAt before after c = [c] := by
  rw [lowerAt, if_neg (by rintro rfl; cases blank), (blank_facts blank).1]

theorem lowerAt_ne_nil : lowerAt before after c ≠ [] := by
  unfold lowerAt lowerChar
  repeat' split
  all_goals simp

theorem lowerBetween_of_blank (blank : ∀ c ∈ chars, isBlank c = true) :
    lowerBetween before after chars = chars := by
  induction chars generalizing before with
  | nil => rfl
  | cons c rest ih =>
      rw [lowerBetween, lowerAt_of_blank (blank c List.mem_cons_self),
        ih fun d member => blank d (List.mem_cons_of_mem c member), List.singleton_append]

theorem meetsCased_cons :
    meetsCased (c :: rest) = if isCaseIgnorable c then meetsCased rest else isCased c := by
  rw [meetsCased, meetsCased, List.dropWhile_cons]
  cases isCaseIgnorable c <;> rfl

theorem meetsCased_append_blank (blank : ∀ c ∈ after, isBlank c = true) :
    meetsCased (chars ++ after) = meetsCased chars := by
  induction chars with
  | nil =>
      cases after with
      | nil => rfl
      | cons c after =>
          obtain ⟨-, counts, uncased⟩ := blank_facts (blank c List.mem_cons_self)
          rw [List.nil_append, meetsCased_cons, counts, uncased]
          rfl
  | cons c rest ih => rw [List.cons_append, meetsCased_cons, meetsCased_cons, ih]

theorem keepsSigmas_of_blank (blankBefore : ∀ c ∈ before, isBlank c = true)
    (blankAfter : ∀ c ∈ after, isBlank c = true) : KeepsSigmas before piece after := by
  intro left right _
  rw [endsWord, endsWord, meetsCased_append_blank blankAfter,
    meetsCased_append_blank (by simpa using blankBefore)]

theorem tight_lowerBetween (tight : Tight chars) : Tight (lowerBetween before after chars) := by
  constructor
  · cases chars with
    | nil => simp [lowerBetween]
    | cons c rest =>
        intro d first
        rw [lowerBetween, List.head?_append_of_ne_nil _ lowerAt_ne_nil] at first
        exact lowerAt_clear (tight.head c rfl) d (List.mem_of_mem_head? first)
  · obtain rfl | ⟨front, c, rfl⟩ := chars.eq_nil_or_concat
    · simp [lowerBetween]
    · intro d last
      rw [List.concat_eq_append, lowerBetween_append, lowerBetween, lowerBetween, List.append_nil,
        List.getLast?_append_of_ne_nil _ lowerAt_ne_nil] at last
      exact lowerAt_clear (tight.last c (by simp)) d (List.mem_of_mem_getLast? last)

theorem padded_lower {core : String} (padded : Padded core text) :
    Padded (lower core) (lower text) := by
  obtain ⟨front, back, blankFront, blankBack, isText⟩ := padded
  refine ⟨front, back, blankFront, blankBack, ?_⟩
  rw [toList_lower, toList_lower, isText, lowerBetween_append, lowerBetween_append,
    lowerBetween_of_blank blankFront, lowerBetween_of_blank blankBack, List.append_nil,
    List.append_nil, lowerBetween_eq_alone_iff.mpr (keepsSigmas_of_blank blankFront blankBack)]

theorem trim_lower (text : String) : trim (lower text) = lower (trim text) := by
  refine trim_eq_of_padded ?_ (padded_lower (padded_trim text))
  rw [toList_lower]
  exact tight_lowerBetween (tight_trim text)

end Payments.Text
