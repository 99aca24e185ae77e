import Payments.Power

/-!
Universally unique identifiers. Those of version 7 start with a time in milliseconds, so that later
ones sort after earlier ones.
-/

namespace Payments

structure Uuid where
  value : Nat
deriving DecidableEq, Repr, Inhabited

namespace Uuid

def compareTo (x y : Uuid) : Ordering := compare x.value y.value

/-- Version 7 from a time in milliseconds and a counter that fills the remaining bits. -/
def ofTime (millis counter : Nat) : Uuid :=
  ⟨((((millis % 2 ^ 48) * 16 + 7) * 2 ^ 12 + counter / 2 ^ 62 % 2 ^ 12) * 4 + 2) * 2 ^ 62 +
    counter % 2 ^ 62⟩

def version (x : Uuid) : Nat := x.value / 2 ^ 76 % 16

def hexDigits : List Char := "0123456789abcdef".toList

def hex : Nat → Nat → List Char
  | 0, _ => []
  | count + 1, n => hex count (n / 16) ++ [hexDigits.getD (n % 16) '0']

def text (x : Uuid) : String :=
  let digits := hex 32 x.value
  let group (start length : Nat) := (digits.drop start).take length
  String.ofList (group 0 8 ++ '-' :: group 8 4 ++ '-' :: group 12 4 ++ '-' :: group 16 4 ++
    '-' :: group 20 12)

def digit? (c : Char) : Option Nat :=
  if c.isDigit then some (c.toNat - '0'.toNat)
  else if 'a' ≤ c && c ≤ 'f' then some (c.toNat - 'a'.toNat + 10)
  else if 'A' ≤ c && c ≤ 'F' then some (c.toNat - 'A'.toNat + 10)
  else none

def ofDigits? (chars : List Char) : Option Uuid :=
  if chars.length = 32 then
    (chars.foldlM (fun n c => (digit? c).map (n * 16 + ·)) 0).map (⟨·⟩)
  else none

/-- The groups joined by hyphens, the digits alone, or the groups in braces or after `urn:uuid:`. -/
def ofText? (text : String) : Option Uuid :=
  let chars := text.toList
  let chars :=
    if chars.head? = some '\x7b' ∧ chars.getLast? = some '\x7d' ∧ chars.length = 38 then
      (chars.drop 1).take 36
    else if "urn:uuid:".toList.isPrefixOf chars then chars.drop 9
    else chars
  if chars.length = 36 ∧ [8, 13, 18, 23].all (chars[·]? = some '-') then
    ofDigits? (chars.take 8 ++ (chars.drop 9).take 4 ++ (chars.drop 14).take 4 ++
      (chars.drop 19).take 4 ++ chars.drop 24)
  else ofDigits? chars

end Uuid

end Payments
