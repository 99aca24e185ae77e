import Payments.Text.GraphemeExtend
import Payments.Text.Unprintable

/-!
Texts in double quotes, as messages show them: quotes and backslashes are escaped, and so is every
character that would not show on its own.
-/

namespace Payments.Text

def escapeCode (c : Char) : List Char :=
  ['\\', 'u', '\x7b'] ++ Nat.toDigits 16 c.toNat ++ ['\x7d']

/-- Hangul fillers count as letters and have no shape. -/
def isFiller (c : Char) : Bool := ['\u115f', '\u1160', '\u3164', '\uffa0'].contains c

/-- The halfwidth sound marks belong to the letter before them and still have a place of their
own. -/
def isHalfwidthMark (c : Char) : Bool := c = '\uff9e' || c = '\uff9f'

def isShown (c : Char) : Bool :=
  !(isUnprintable c || isFiller c || (isGraphemeExtend c && !isHalfwidthMark c))

def escapeChar (c : Char) : List Char :=
  if c = '\x00' then ['\\', '0']
  else if c = '\t' then ['\\', 't']
  else if c = '\r' then ['\\', 'r']
  else if c = '\n' then ['\\', 'n']
  else if c = '"' ∨ c = '\\' then ['\\', c]
  else if isShown c then [c]
  else escapeCode c

def quoted (text : String) : String :=
  String.ofList ('"' :: text.toList.flatMap escapeChar ++ ['"'])

end Payments.Text
