import Mathlib.Data.List.TakeWhile
import Payments.Text.Blank

/-!
What trimming leaves of a text: the one piece of it that has blanks around it only and none at its
own ends. So blanks that are put around a text do not change what is left of it.
-/

namespace Payments.Text

def Padded (core text : String) : Prop :=
  ∃ front back : List Char, (∀ c ∈ front, isBlank c = true) ∧ (∀ c ∈ back, isBlank c = true) ∧
    text.toList = front ++ core.toList ++ back

structure Tight (chars : List Char) : Prop where
  head : ∀ c ∈ chars.head?, isBlank c = false
  last : ∀ c ∈ chars.getLast?, isBlank c = false

variable {chars front rest back : List Char} {text core word : String}

theorem trimStart_append (blank : ∀ c ∈ front, isBlank c = true) :
    trimStart (front ++ rest) = trimStart rest := by
  rw [trimStart, trimStart, List.dropWhile_append_of_pos blank]

theorem trimStart_of_blank (blank : ∀ c ∈ chars, isBlank c = true) : trimStart chars = [] := by
  have dropped : trimStart (chars ++ []) = trimStart [] := trimStart_append blank
  rwa [List.append_nil] at dropped

theorem trimStart_of_head (clear : ∀ c ∈ chars.head?, isBlank c = false) :
    trimStart chars = chars := by
  cases chars with
  | nil => rfl
  | cons c rest => simp [trimStart, clear c rfl]

theorem trimEnd_append (blank : ∀ c ∈ back, isBlank c = true)
    (clear : ∀ c ∈ chars.getLast?, isBlank c = false) : trimEnd (chars ++ back) = chars := by
  rw [trimEnd, List.reverse_append, trimStart_append (by simpa using blank),
    trimStart_of_head (by simpa using clear), List.reverse_reverse]

theorem Padded.refl (text : String) : Padded text text := ⟨[], [], by simp, by simp, by simp⟩

theorem Padded.trans (inner : Padded core word) (outer : Padded word text) : Padded core text := by
  obtain ⟨front, back, blankFront, blankBack, isWord⟩ := inner
  obtain ⟨before, after, blankBefore, blankAfter, isText⟩ := outer
  refine ⟨before ++ front, back ++ after, ?_, ?_, by simp [isText, isWord]⟩
  · exact fun c member => (List.mem_append.mp member).elim (blankBefore c) (blankFront c)
  · exact fun c member => (List.mem_append.mp member).elim (blankBack c) (blankAfter c)

theorem tight_trim (text : String) : Tight (trim text).toList := by
  have ends : ∀ (chars : List Char), ∀ c ∈ (trimStart chars).head?, isBlank c = false := by
    intro chars c first
    have stopped := List.head?_dropWhile_not isBlank chars
    rw [show (chars.dropWhile isBlank).head? = some c from first] at stopped
    exact Bool.eq_false_iff.mpr (by simpa using stopped)
  constructor
  · intro c first
    have kept : trimEnd (trimStart text.toList) <+: trimStart text.toList := by
      rw [← List.reverse_suffix, trimEnd, List.reverse_reverse]
      exact List.dropWhile_suffix isBlank
    obtain ⟨cutOff, whole⟩ := kept
    rw [trim, String.toList_ofList] at first
    refine ends text.toList c ?_
    rw [← whole, List.head?_append, first]
    rfl
  · intro c last
    rw [trim, String.toList_ofList, trimEnd, List.getLast?_reverse] at last
    exact ends _ c last

theorem padded_trim (text : String) : Padded (trim text) text := by
  have split : ∀ chars : List Char, chars = chars.takeWhile isBlank ++ trimStart chars := fun chars =>
    List.takeWhile_append_dropWhile.symm
  have blank : ∀ chars : List Char, ∀ c ∈ chars.takeWhile isBlank, isBlank c = true :=
    fun _ _ member => List.mem_takeWhile_imp member
  refine ⟨_, ((trimStart text.toList).reverse.takeWhile isBlank).reverse, blank text.toList,
    fun c member => blank _ c (List.mem_reverse.mp member), ?_⟩
  have trailing := congrArg List.reverse (split (trimStart text.toList).reverse)
  rw [List.reverse_reverse, List.reverse_append] at trailing
  rw [trim, String.toList_ofList, List.append_assoc, trimEnd, ← trailing]
  exact split _

theorem trim_eq_of_padded (tight : Tight core.toList) (padded : Padded core text) :
    trim text = core := by
  obtain ⟨front, back, blankFront, blankBack, isText⟩ := padded
  rw [trim, isText, List.append_assoc, trimStart_append blankFront]
  cases isCore : core.toList with
  | nil =>
      rw [List.nil_append, trimStart_of_blank blankBack, ← String.ofList_toList (s := core), isCore]
      rfl
  | cons c rest =>
      rw [isCore] at tight
      rw [trimStart_of_head (by simpa using tight.head), trimEnd_append blankBack tight.last,
        ← isCore, String.ofList_toList]

theorem Padded.trim_eq (padded : Padded word text) : trim text = trim word :=
  trim_eq_of_padded (tight_trim word) ((padded_trim word).trans padded)

theorem tight_of_not_blank (clear : ∀ c ∈ chars, isBlank c = false) : Tight chars :=
  ⟨fun c first => clear c (List.mem_of_mem_head? first),
    fun c last => clear c (List.mem_of_mem_getLast? last)⟩

end Payments.Text
