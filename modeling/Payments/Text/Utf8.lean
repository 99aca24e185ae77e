/-!
UTF-8. A byte string is read as a list of characters and of ill-formed pieces, each piece the
longest start of a character that breaks off. A text is the bytes without such pieces, or with the
replacement character in their place.
-/

namespace Payments.Text

def bytesOf (text : String) : List UInt8 := text.toList.flatMap String.utf8EncodeChar

def isContinuation (b : UInt8) : Bool := 0x80 ≤ b && b ≤ 0xBF

/-- The bytes that may follow a leading byte, and how many bytes of the character follow it. -/
def following (lead : UInt8) : Option (UInt8 × UInt8 × Nat) :=
  if 0xC2 ≤ lead && lead ≤ 0xDF then some (0x80, 0xBF, 1)
  else if lead = 0xE0 then some (0xA0, 0xBF, 2)
  else if lead = 0xED then some (0x80, 0x9F, 2)
  else if 0xE1 ≤ lead && lead ≤ 0xEF then some (0x80, 0xBF, 2)
  else if lead = 0xF0 then some (0x90, 0xBF, 3)
  else if 0xF1 ≤ lead && lead ≤ 0xF3 then some (0x80, 0xBF, 3)
  else if lead = 0xF4 then some (0x80, 0x8F, 3)
  else none

def tailBits (b : UInt8) : Nat := b.toNat % 64

def decodeTail (lead : UInt8) (rest : List UInt8) : Option Char × Nat :=
  match following lead, rest with
  | some (low, high, count), b :: more =>
    if low ≤ b && b ≤ high then
      match count, more with
      | 1, _ => (some (Char.ofNat (lead.toNat % 32 * 64 + tailBits b)), 1)
      | 2, c :: _ =>
        if isContinuation c then
          (some (Char.ofNat ((lead.toNat % 16 * 64 + tailBits b) * 64 + tailBits c)), 2)
        else (none, 1)
      | 3, c :: d :: _ =>
        if isContinuation c && isContinuation d then
          (some (Char.ofNat
            (((lead.toNat % 8 * 64 + tailBits b) * 64 + tailBits c) * 64 + tailBits d)), 3)
        else if isContinuation c then (none, 2)
        else (none, 1)
      | 3, c :: _ => if isContinuation c then (none, 2) else (none, 1)
      | _, _ => (none, 1)
    else (none, 0)
  | _, _ => (none, 0)

def decodePieces : List UInt8 → List (Option Char)
  | [] => []
  | lead :: rest =>
    if lead < 0x80 then some (Char.ofNat lead.toNat) :: decodePieces rest
    else
      let (c, taken) := decodeTail lead rest
      c :: decodePieces (rest.drop taken)
termination_by bytes => bytes.length
decreasing_by all_goals simp; try omega

def ofBytes? (bytes : List UInt8) : Option String :=
  ((decodePieces bytes).mapM id).map String.ofList

def ofBytesLossy (bytes : List UInt8) : String :=
  String.ofList ((decodePieces bytes).map (·.getD '\uFFFD'))

end Payments.Text
