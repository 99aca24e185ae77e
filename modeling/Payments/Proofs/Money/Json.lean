import Payments.Json.Writer
import Payments.Money
import Payments.Proofs.Decimal.Reading
import Payments.Proofs.Json.Members
import Payments.Proofs.Rows.RoundTrip

/-!
Money in JSON. An object that spells an amount and a currency is read as that money, whatever else
is in it; and what is written of money is such an object, so that it is read as it was.
-/

namespace Payments

open Json Json.Reader

section

variable {text : String} {chars : List Char}

theorem escape_of_plain (plain : Plain chars) : chars.flatMap escape = chars := by
  induction chars with
  | nil => rfl
  | cons c chars ih =>
      obtain ⟨printable, _, noQuote, noSlash⟩ := plain c List.mem_cons_self
      have itself : escape c = [c] := by
        have other : ∀ d : Char, d.toNat < 0x20 → c ≠ d := by
          rintro d small rfl
          omega
        have noControl : ¬ c.toNat < 0x20 := by omega
        simp [escape, noQuote, noSlash, noControl, other '\n' (by decide), other '\r' (by decide),
          other '\t' (by decide), other '\x08' (by decide), other '\x0c' (by decide)]
      rw [List.flatMap_cons, itself, List.singleton_append,
        ih fun d later => plain d (List.mem_cons_of_mem c later)]

theorem bytes_quote (plain : Plain text.toList) :
    (quote text).flatMap String.utf8EncodeChar = quotedBytes text := by
  have mark : String.utf8EncodeChar '"' = [0x22] := encode_of_small (by decide)
  rw [quote, escape_of_plain plain, quotedBytes, Text.bytesOf, List.cons_append, List.flatMap_cons,
    List.flatMap_append, List.flatMap_singleton, mark]
  rfl

end

namespace Money

inductive IsAmount : Json → Decimal → Prop
  | text {text : String} {amount : Decimal} :
      Decimal.ofText text = .ok amount → IsAmount (.str text) amount
  | number {n : Number} {amount : Decimal} : ofNumber? n = some amount → IsAmount (.num n) amount

structure MadeUpOf (money : Money) (members : List (String × Json)) : Prop where
  once : (namesAmong ["amount", "currency"] members).Nodup
  amount : ∃ value, ("amount", value) ∈ members ∧ IsAmount value money.amount
  currency : ∃ text, ("currency", .str text) ∈ members ∧ money.currency.IsNamedBy text

/-- The payload is an object that spells the money. -/
def SpelledBy (money : Money) (payload : List UInt8) : Prop :=
  ∃ members rest, Record (fun _ => Anything) (spaceless payload) members rest ∧
    rest.all isSpace = true ∧ money.MadeUpOf members

def put (money : Money) (member : String × Json) (draft : Option Decimal × Option Currency) :
    Option Decimal × Option Currency :=
  if member.1 = "amount" then (some money.amount, draft.2)
  else if member.1 = "currency" then (draft.1, some money.currency)
  else draft

section

variable {depth : Nat} {text rest payload : List UInt8} {money : Money}
  {members : List (String × Json)}

theorem reads_decimal {value : Json} {amount : Decimal} (isAmount : IsAmount value amount)
    (spelled : Anything (spaceless text) value rest) : Reads decimal depth text amount rest := by
  obtain ⟨levels, spelled⟩ := spelled
  generalize start : spaceless text = front at spelled
  cases isAmount with
  | text isDecimal =>
      cases spelled.scalar nofun nofun with
      | str quotes =>
          obtain ⟨inside, _, rfl, _⟩ := id quotes
          refine Reads.bind (reads_peek start) ((reads_quoted quotes).filterMap ?_)
          rw [isDecimal]
          rfl
  | number isDecimal =>
      cases spelled.scalar nofun nofun with
      | num spelled isNumber =>
          obtain ⟨b, after, rfl, _, starts⟩ := spelled.head
          refine Reads.bind (reads_peek start) ?_
          generalize Char.ofNat b.toNat = c at starts
          split
          · rename_i same
            cases same
            cases starts
          · rename_i same
            cases same
            rw [if_pos starts]
            exact (reads_number spelled isNumber).filterMap isDecimal
          · rename_i none
            cases none

theorem reads_currency {currency : Currency} {code : String} (named : currency.IsNamedBy code)
    (spelled : Anything (spaceless text) (.str code) rest) :
    Reads currencyReader depth text currency rest := by
  refine (reads_string spelled).filterMap ?_
  rw [Currency.ofText_eq_ok_iff_isNamedBy.mpr named]
  rfl

theorem finish_of_madeUpOf (made : money.MadeUpOf members) :
    members.foldl (fun draft member => money.put member draft) (none, none) =
      (some money.amount, some money.currency) := by
  obtain ⟨value, isAmount, _⟩ := made.amount
  obtain ⟨code, isCurrency, _⟩ := made.currency
  apply Prod.ext
  · exact foldl_of_mem Prod.fst (fun _ => rfl) (by grind [put]) (by simp) isAmount made.once _
  · exact foldl_of_mem Prod.snd (fun _ => rfl) (by grind [put]) (by simp) isCurrency made.once _

theorem parse_of_spelledBy (spelled : money.SpelledBy payload) :
    parse Money.reader payload = .ok money := by
  obtain ⟨members, rest, isRecord, ended, made⟩ := spelled
  refine parse_of_reads (reads_record money.put ?_ (fun _ => Anything.length_lt) isRecord made.once
    ?_) ended
  · rintro ⟨name, value⟩ among text rest spelled
    by_cases isName : name ∈ ["amount", "currency"]
    · simp only [List.mem_cons, List.not_mem_nil, or_false] at isName
      rcases isName with rfl | rfl
      · obtain ⟨_, member, isAmount⟩ := made.amount
        cases eq_of_once made.once (by decide) among member
        exact Reads.map (reads_decimal isAmount spelled)
      · obtain ⟨_, member, named⟩ := made.currency
        cases eq_of_once made.once (by decide) among member
        exact Reads.map (reads_currency named spelled)
    · have isOther := isName
      simp only [List.mem_cons, List.not_mem_nil, or_false, not_or] at isName
      have same : money.put (name, value) = id := by
        funext draft
        simp [put, isName]
      rw [same]
      exact Takes.other isOther spelled
  · rw [finish_of_madeUpOf made]
    rfl

theorem plain_text (amount : Decimal) : Plain amount.text.toList := by
  intro c member
  rcases Decimal.mem_text member with digit | rfl | rfl
  · have range : 0x30 ≤ c.toNat ∧ c.toNat ≤ 0x39 := by
      simpa [Char.isDigit, UInt32.le_iff_toNat_le] using digit
    refine ⟨by omega, by omega, ?_, ?_⟩
    · rintro rfl
      cases digit
    · rintro rfl
      cases digit
  · decide
  · decide

theorem plain_code (currency : Currency) : Plain currency.code.toList := by
  intro c member
  have upper : c.isUpper = true := currency.isUpper_code c member
  have range : 0x41 ≤ c.toNat ∧ c.toNat ≤ 0x5A := by
    delta Char.isUpper at upper
    simpa [UInt32.le_iff_toNat_le] using upper
  refine ⟨by omega, by omega, ?_, ?_⟩
  · rintro rfl
    cases upper
  · rintro rfl
    cases upper

theorem bytes_json (money : Money) :
    Text.bytesOf money.json.text =
      0x7B :: (quotedBytes "amount" ++ 0x3A :: (quotedBytes money.amount.text ++ 0x2C ::
        (quotedBytes "currency" ++ 0x3A :: (quotedBytes money.currency.code ++ [0x7D])))) := by
  have chars : money.json.text.toList = '\x7b' :: (quote "amount" ++ ':' ::
      (quote money.amount.text ++ ',' :: (quote "currency" ++ ':' ::
        (quote money.currency.code ++ ['\x7d'])))) := by
    simp [Json.text, json, Json.chars, memberChars, separated]
  have mark : ∀ c : Char, c.toNat < 0x80 → String.utf8EncodeChar c = [UInt8.ofNat c.toNat] :=
    fun _ small => encode_of_small small
  rw [Text.bytesOf, chars]
  simp only [List.flatMap_cons, List.flatMap_append, List.flatMap_nil,
    bytes_quote (plain_text money.amount), bytes_quote (plain_code money.currency),
    bytes_quote (by decide : Plain "amount".toList),
    bytes_quote (by decide : Plain "currency".toList)]
  rw [mark '\x7b' (by decide), mark ':' (by decide), mark ',' (by decide), mark '\x7d' (by decide)]
  rfl

theorem spelledBy_json (money : Money) :
    Money.SpelledBy ⟨money.amount.withoutZeroSign, money.currency⟩
      (Text.bytesOf money.json.text) := by
  rw [bytes_json]
  have plain : ∀ name ∈ ["amount", "currency"], Plain name.toList := by decide
  refine ⟨[("amount", .str money.amount.text), ("currency", .str money.currency.code)], [],
    ⟨_, spaceless_cons rfl, ?_⟩, rfl, ?_⟩
  · exact .next rfl
        (member_of_plain (plain _ (by simp)) (anything_of_plain (plain_text money.amount))) <|
      .next (spaceless_cons rfl)
        (member_of_plain (plain _ (by simp)) (anything_of_plain (plain_code money.currency))) <|
      .close (spaceless_cons rfl)
  · refine ⟨by simp [namesAmong],
      ⟨_, List.mem_cons_self, .text (Decimal.ofText_text money.amount)⟩, _,
      List.mem_cons_of_mem _ List.mem_cons_self, ?_⟩
    exact Currency.ofText_eq_ok_iff_isNamedBy.mp money.currency.ofText_code

/-- The same amount with the same places in the same currency. Only a zero may have lost its sign. -/
structure Same (money again : Money) : Prop where
  compare : again.amount.compareTo money.amount = .eq
  units : again.amount.units = money.amount.units
  scale : again.amount.scale = money.amount.scale
  currency : again.currency = money.currency
  unsigned : again.amount.negativeZero = false
  whole : money.amount.negativeZero = false → again = money

theorem same_withoutZeroSign (money : Money) :
    money.Same ⟨money.amount.withoutZeroSign, money.currency⟩ where
  compare := Std.compare_self
  units := rfl
  scale := rfl
  currency := rfl
  unsigned := rfl
  whole := by
    intro unsigned
    have same : money.amount.withoutZeroSign = money.amount := Decimal.ext rfl rfl unsigned.symm
    rw [same]

/-- Money is read as it was written. Whatever it was read from before, its currency is then told by
three upper-case letters, so that writing and reading it once more makes no difference. -/
theorem json_read_back :
    (∀ money : Money, ∃ again,
      parse Money.reader (Text.bytesOf money.json.text) = .ok again ∧ money.Same again) ∧
    (∀ payload money, parse Money.reader payload = .ok money →
      (money.currency.code.toList.length = 3 ∧
        ∀ c ∈ money.currency.code.toList, 'A' ≤ c ∧ c ≤ 'Z') ∧
      ∃ again, parse Money.reader (Text.bytesOf money.json.text) = .ok again ∧
        money.Same again) ∧
    ∀ payload money, Money.SpelledBy money payload → parse Money.reader payload = .ok money := by
  have readBack : ∀ money : Money, ∃ again,
      parse Money.reader (Text.bytesOf money.json.text) = .ok again ∧ money.Same again :=
    fun money => ⟨_, parse_of_spelledBy money.spelledBy_json, money.same_withoutZeroSign⟩
  refine ⟨readBack, fun payload money _ => ⟨money.currency.code_bounds, readBack money⟩, ?_⟩
  exact fun payload money spelled => parse_of_spelledBy spelled

end

end Money

end Payments
