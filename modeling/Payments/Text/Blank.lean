/-!
Blank characters, as the Unicode property White_Space lists them, and texts without the blanks at
their ends.
-/

namespace Payments.Text

def isBlank (c : Char) : Bool :=
  let code := c.toNat
  (9 ≤ code && code ≤ 13) || code == 0x20 || code == 0x85 || code == 0xA0 || code == 0x1680 ||
    (0x2000 ≤ code && code ≤ 0x200A) || code == 0x2028 || code == 0x2029 || code == 0x202F ||
    code == 0x205F || code == 0x3000

def trimStart (chars : List Char) : List Char := chars.dropWhile isBlank

def trimEnd (chars : List Char) : List Char := (trimStart chars.reverse).reverse

def trim (text : String) : String := String.ofList (trimEnd (trimStart text.toList))

def nonBlank? (text : String) : Option String :=
  if trim text = "" then none else some (trim text)

theorem trimStart_of_not_blank {chars : List Char} (clear : ∀ c ∈ chars, isBlank c = false) :
    trimStart chars = chars := by
  cases chars with
  | nil => rfl
  | cons c rest => simp [trimStart, clear c (by simp)]

theorem trimEnd_of_not_blank {chars : List Char} (clear : ∀ c ∈ chars, isBlank c = false) :
    trimEnd chars = chars := by
  rw [trimEnd, trimStart_of_not_blank (by simpa using clear), List.reverse_reverse]

end Payments.Text
