import Payments.Text.Blank
import Payments.Text.Split

/-!
The shape of an e-mail address: something on both sides of a single at sign, and a point inside the
domain.
-/

namespace Payments.Email

def isDomain (chars : List Char) : Bool :=
  chars.contains '.' && chars.head? != some '.' && chars.getLast? != some '.'

def isPlausible (text : String) : Bool :=
  let chars := (Text.trim text).toList
  match Text.cut? '@' chars with
  | some (name, domain) =>
    !name.isEmpty && !domain.contains '@' && isDomain domain && !chars.any Text.isBlank
  | none => false

end Payments.Email
