import Mathlib.Data.List.DropRight
import Payments.Json.Reader

/-!
How JSON values are spelled: a grammar of texts, each with the value it spells and with what follows
it. The reader of values takes every text of the grammar, so the only values it cannot take are
those nested too deep and the numbers that no floating-point number comes near.
-/

namespace Payments.Json

namespace Reader

def spaceless (text : List UInt8) : List UInt8 := text.dropWhile isSpace

/-- The inside of a string up to its closing quote, and the bytes that it stands for. -/
inductive Pieces : List UInt8 → List UInt8 → List UInt8 → Prop
  | close {rest : List UInt8} : Pieces (0x22 :: rest) [] rest
  | plain {b : UInt8} {text bytes rest : List UInt8} :
      0x20 ≤ b → b ≠ 0x22 → b ≠ 0x5C → Pieces text bytes rest →
      Pieces (b :: text) (b :: bytes) rest
  | escape {b c : UInt8} {text bytes rest : List UInt8} :
      unescape? b = some c → Pieces text bytes rest →
      Pieces (0x5C :: b :: text) (c :: bytes) rest
  | unit {a b c d : UInt8} {unit : Nat} {text bytes rest : List UInt8} :
      hex4? a b c d = some unit → unit < 0xD800 ∨ 0xDFFF < unit → Pieces text bytes rest →
      Pieces (0x5C :: 0x75 :: a :: b :: c :: d :: text)
        (String.utf8EncodeChar (Char.ofNat unit) ++ bytes) rest
  | pair {a b c d e f g h : UInt8} {high low : Nat} {text bytes rest : List UInt8} :
      hex4? a b c d = some high → 0xD800 ≤ high ∧ high ≤ 0xDBFF →
      hex4? e f g h = some low → 0xDC00 ≤ low ∧ low ≤ 0xDFFF → Pieces text bytes rest →
      Pieces (0x5C :: 0x75 :: a :: b :: c :: d :: 0x5C :: 0x75 :: e :: f :: g :: h :: text)
        (String.utf8EncodeChar
          (Char.ofNat (0x10000 + (high - 0xD800) * 0x400 + (low - 0xDC00))) ++ bytes) rest

def Quoted (text : List UInt8) (s : String) (rest : List UInt8) : Prop :=
  ∃ inside bytes, text = 0x22 :: inside ∧ Pieces inside bytes rest ∧ Text.ofBytes? bytes = some s

def NotNext (bytes : List UInt8) (rest : List UInt8) : Prop := ∀ b ∈ bytes, rest.head? ≠ some b

def digitByte (digit : Nat) : UInt8 := UInt8.ofNat (digit + 0x30)

structure Digits (text : List UInt8) (digits : List Nat) (rest : List UInt8) : Prop where
  ne_nil : digits ≠ []
  below : ∀ digit ∈ digits, digit < 10
  split : text = digits.map digitByte ++ rest
  ended : ∀ b, rest.head? = some b → isDigit b = false

inductive Fraction : List UInt8 → List Nat → List UInt8 → Prop
  | none {rest : List UInt8} : NotNext [0x2E] rest → Fraction rest [] rest
  | point {text rest : List UInt8} {digits : List Nat} :
      Digits text digits rest → Fraction (0x2E :: text) digits rest

inductive Exponent : List UInt8 → Option (Bool × List Nat) → List UInt8 → Prop
  | none {rest : List UInt8} : NotNext [0x65, 0x45] rest → Exponent rest Option.none rest
  | plain {mark : UInt8} {text rest : List UInt8} {digits : List Nat} :
      mark = 0x65 ∨ mark = 0x45 → Digits text digits rest →
      Exponent (mark :: text) (some (false, digits)) rest
  | plus {mark : UInt8} {text rest : List UInt8} {digits : List Nat} :
      mark = 0x65 ∨ mark = 0x45 → Digits text digits rest →
      Exponent (mark :: 0x2B :: text) (some (false, digits)) rest
  | minus {mark : UInt8} {text rest : List UInt8} {digits : List Nat} :
      mark = 0x65 ∨ mark = 0x45 → Digits text digits rest →
      Exponent (mark :: 0x2D :: text) (some (true, digits)) rest

/-- A number as it is spelled. It does not begin with a zero before other digits. -/
structure Spelled (text : List UInt8) (numeral : Numeral) (rest : List UInt8) : Prop where
  parts : ∃ unsigned afterWhole afterFraction,
    text = (if numeral.negative then 0x2D :: unsigned else unsigned) ∧
    Digits unsigned numeral.whole afterWhole ∧
    Fraction afterWhole numeral.fraction afterFraction ∧
    Exponent afterFraction numeral.exponent rest
  noZero : numeral.whole.head? = some 0 → numeral.whole.length = 1

inductive Scalar : List UInt8 → Json → List UInt8 → Prop
  | null {rest : List UInt8} : Scalar (Text.bytesOf "null" ++ rest) .null rest
  | yes {rest : List UInt8} : Scalar (Text.bytesOf "true" ++ rest) (.bool true) rest
  | no {rest : List UInt8} : Scalar (Text.bytesOf "false" ++ rest) (.bool false) rest
  | num {text rest : List UInt8} {numeral : Numeral} {n : Number} :
      Spelled text numeral rest → numeral.number? = some n → Scalar text (.num n) rest
  | str {text rest : List UInt8} {s : String} : Quoted text s rest → Scalar text (.str s) rest

section

variable {α : Type}

/-- Items between commas, up to a closing bracket. -/
inductive Items (close : UInt8) (item : List UInt8 → α → List UInt8 → Prop) :
    Bool → List UInt8 → List α → List UInt8 → Prop
  | close {first : Bool} {text rest : List UInt8} :
      spaceless text = close :: rest → Items close item first text [] rest
  | next {first : Bool} {text start middle rest : List UInt8} {x : α} {items : List α} :
      (if first then text = start else spaceless text = 0x2C :: start) →
      item (spaceless start) x middle → Items close item false middle items rest →
      Items close item first text (x :: items) rest

def Member (value : List UInt8 → Json → List UInt8 → Prop) (text : List UInt8)
    (member : String × Json) (rest : List UInt8) : Prop :=
  ∃ afterName inner, Quoted text member.1 afterName ∧ spaceless afterName = 0x3A :: inner ∧
    value (spaceless inner) member.2 rest

end

/-- A value with containers nested at most so deep. Of several members of one name the last
counts. -/
def Value : Nat → List UInt8 → Json → List UInt8 → Prop
  | 0, text, value, rest => Scalar text value rest
  | depth + 1, text, value, rest => Scalar text value rest ∨
      (∃ inside items, text = 0x5B :: inside ∧ value = .arr items ∧
        Items 0x5D (Value depth) true inside items rest) ∨
      ∃ inside members, text = 0x7B :: inside ∧ value = .obj (lastOfEach members) ∧
        Items 0x7D (Member (Value depth)) true inside members rest

/-- The reader takes this from the front of the text, and leaves the rest. -/
def Reads {α : Type} (reader : Reader α) (depth : Nat) (text : List UInt8) (x : α)
    (rest : List UInt8) : Prop :=
  (reader.run depth).run text = .ok (x, rest)

section

variable {α β : Type} {reader : Reader α} {depth : Nat} {text middle rest : List UInt8} {x : α}
  {y : β}

theorem Reads.bind {next : α → Reader β} (first : Reads reader depth text x middle)
    (second : Reads (next x) depth middle y rest) : Reads (reader >>= next) depth text y rest := by
  have inTurn : ((reader >>= next).run depth).run text =
    ((reader.run depth).run text).bind fun read => ((next read.1).run depth).run read.2 := rfl
  rw [Reads, inTurn, first]
  exact second

theorem reads_pure (x : α) : Reads (pure x : Reader α) depth text x text := rfl

theorem reads_peek {b : UInt8} (start : spaceless text = b :: rest) :
    Reads peek depth text (some (Char.ofNat b.toNat)) (b :: rest) := by
  change Except.ok ((spaceless text).head?.map _, spaceless text) = _
  rw [start]
  rfl

theorem reads_advance {b : UInt8} : Reads advance depth (b :: rest) () rest := rfl

theorem reads_literal (word : String) :
    Reads (literal word) depth (Text.bytesOf word ++ rest) () rest := by
  have isPrefix : (Text.bytesOf word).isPrefixOf (Text.bytesOf word ++ rest) = true :=
    List.isPrefixOf_iff_prefix.mpr (List.prefix_append _ _)
  refine Reads.bind (rfl : Reads MonadState.get depth _ _ _) ?_
  rw [if_pos isPrefix]
  exact congrArg (fun left => Except.ok ((), left)) List.drop_left

theorem stringBytes_of_pieces {bytes : List UInt8} (pieces : Pieces text bytes rest)
    (read : List UInt8) : stringBytes read text = some (read.reverse ++ bytes, rest) := by
  induction pieces generalizing read with
  | close => simp [stringBytes]
  | plain printable noQuote noSlash _ ih =>
      simp [stringBytes, printable, noSlash, ih]
  | @escape b c text bytes rest stands _ ih =>
      have noUnit : b ≠ 0x75 := by
        rintro rfl
        cases stands
      simp [stringBytes, stands, noUnit, ih]
  | unit isUnit single _ ih =>
      rw [stringBytes]
      simp only [isUnit]
      rw [if_neg (by simp; omega), if_neg (by simp; omega), ih]
      simp
  | pair isHigh high isLow low _ ih =>
      rw [stringBytes]
      simp only [isHigh, isLow]
      rw [if_neg (by simp; omega), if_pos (by simpa using high), if_pos (by simpa using low), ih]
      simp

theorem reads_quoted {s : String} (quotes : Quoted text s rest) :
    Reads quoted depth text s rest := by
  obtain ⟨inside, bytes, rfl, pieces, isText⟩ := quotes
  refine Reads.bind (rfl : Reads MonadState.get depth _ _ _) ?_
  have found : stringBytes [] (0x22 :: inside).tail = some (bytes, rest) :=
    stringBytes_of_pieces pieces []
  rw [found]
  simp only [isText]
  rfl

theorem reads_next {b : UInt8} {c : Char} (same : b.toNat = c.toNat) :
    Reads (next c) depth (b :: rest) true rest := by
  refine Reads.bind (rfl : Reads MonadState.get depth _ _ _) ?_
  simp only [same, if_true]
  rfl

theorem reads_next_other {c : Char} (other : ∀ b, rest.head? = some b → b.toNat ≠ c.toNat) :
    Reads (next c) depth rest false rest := by
  refine Reads.bind (rfl : Reads MonadState.get depth _ _ _) ?_
  cases rest with
  | nil => rfl
  | cons b rest =>
      simp only [other b rfl, if_false]
      rfl

theorem isDigit_digitByte {digit : Nat} (below : digit < 10) :
    isDigit (digitByte digit) = true ∧ (digitByte digit).toNat - 0x30 = digit := by
  have each : ∀ digit < 10,
      isDigit (digitByte digit) = true ∧ (digitByte digit).toNat - 0x30 = digit := by decide
  exact each digit below

theorem takeWhile_digits {digits : List Nat} (below : ∀ digit ∈ digits, digit < 10)
    (ended : ∀ b, rest.head? = some b → isDigit b = false) :
    (digits.map digitByte ++ rest).takeWhile isDigit = digits.map digitByte := by
  induction digits with
  | nil =>
      cases rest with
      | nil => rfl
      | cons b rest => simp [ended b rfl]
  | cons digit digits ih =>
      have isOne := (isDigit_digitByte (below digit List.mem_cons_self)).1
      simp [isOne, ih fun later member => below later (List.mem_cons_of_mem _ member)]

theorem reads_digits {digits : List Nat} (spelled : Digits text digits rest) :
    Reads Reader.digits depth text digits rest := by
  obtain ⟨_, below, rfl, ended⟩ := spelled
  have valued : (digits.map digitByte).map (·.toNat - 0x30) = digits := by
    rw [List.map_map]
    refine (List.map_congr_left fun digit member => ?_).trans (List.map_id digits)
    exact (isDigit_digitByte (below digit member)).2
  refine Reads.bind (rfl : Reads MonadState.get depth _ _ _) ?_
  rw [takeWhile_digits below ended]
  refine Reads.bind (x := ()) (congrArg (fun left => Except.ok ((), left)) List.drop_left) ?_
  rw [valued]
  exact reads_pure _

theorem Digits.head {digits : List Nat} (spelled : Digits text digits rest) :
    ∃ digit < 10, text.head? = some (digitByte digit) := by
  obtain ⟨ne_nil, below, rfl, _⟩ := spelled
  cases digits with
  | nil => exact absurd rfl ne_nil
  | cons digit digits => exact ⟨digit, below digit List.mem_cons_self, rfl⟩

theorem Digits.notNext {digits : List Nat} (spelled : Digits text digits rest) {c : Char}
    (noDigit : isDigit (UInt8.ofNat c.toNat) = false) :
    ∀ b, text.head? = some b → b.toNat ≠ c.toNat := by
  intro b isNext same
  obtain ⟨digit, below, isHead⟩ := spelled.head
  cases isNext.symm.trans isHead
  rw [← same, UInt8.ofNat_toNat, (isDigit_digitByte below).1] at noDigit
  cases noDigit

theorem reads_digits1 {digits : List Nat} (spelled : Digits text digits rest) :
    Reads digits1 depth text digits rest := by
  refine Reads.bind (reads_digits spelled) ?_
  have some : digits.isEmpty = false := List.isEmpty_eq_false_iff.mpr spelled.ne_nil
  rw [some]
  rfl

theorem NotNext.toNat_ne {bytes : List UInt8} (other : NotNext bytes rest) {c : Char}
    (among : UInt8.ofNat c.toNat ∈ bytes) : ∀ b, rest.head? = some b → b.toNat ≠ c.toNat := by
  intro b isNext same
  refine other _ among ?_
  rw [← same, UInt8.ofNat_toNat, isNext]

theorem Reads.fraction {next' : List Nat → Reader β} {digits : List Nat}
    (spelled : Fraction text digits middle) (onward : Reads (next' digits) depth middle y rest) :
    Reads (next '.' >>= fun point =>
      if point = true then digits1 >>= next' else pure [] >>= next') depth text y rest := by
  cases spelled with
  | none other =>
      refine Reads.bind (reads_next_other (other.toNat_ne (by decide))) ?_
      exact Reads.bind (reads_pure _) onward
  | point spelled => exact Reads.bind (reads_next rfl) (Reads.bind (reads_digits1 spelled) onward)

theorem Reads.marked {next' : Bool → Reader β} {mark : UInt8} (isMark : mark = 0x65 ∨ mark = 0x45)
    (onward : Reads (next' true) depth text y rest) :
    Reads (next 'e' >>= fun found =>
      if found = true then pure true >>= next' else next 'E' >>= next') depth (mark :: text) y
      rest := by
  rcases isMark with rfl | rfl
  · exact Reads.bind (reads_next rfl) (Reads.bind (reads_pure _) onward)
  · refine Reads.bind (reads_next_other ?_) (Reads.bind (reads_next rfl) onward)
    rintro b ⟨⟩
    decide

theorem Reads.unmarked {next' : Bool → Reader β} (other : NotNext [0x65, 0x45] text)
    (onward : Reads (next' false) depth text y rest) :
    Reads (next 'e' >>= fun found =>
      if found = true then pure true >>= next' else next 'E' >>= next') depth text y rest := by
  refine Reads.bind (reads_next_other (other.toNat_ne (by decide))) ?_
  exact Reads.bind (reads_next_other (other.toNat_ne (by decide))) onward

theorem Reads.discard (reads : Reads reader depth text x rest) :
    Reads (discard reader) depth text () rest := by
  have inTurn : ((Functor.discard reader : Reader PUnit).run depth).run text =
    ((reader.run depth).run text).bind fun read => .ok (⟨⟩, read.2) := rfl
  rw [Reads, inTurn, reads]
  rfl

theorem reads_numeral {numeral : Numeral} (spelled : Spelled text numeral rest) :
    Reads Reader.numeral depth text numeral rest := by
  obtain ⟨⟨unsigned, afterWhole, afterFraction, rfl, whole, fraction, exponent⟩, noZero⟩ := spelled
  obtain ⟨negative, wholeDigits, fractionDigits, exponentDigits⟩ := numeral
  have signed : Reads (next '-') depth (if negative = true then 0x2D :: unsigned else unsigned)
      negative unsigned := by
    cases negative with
    | true => exact reads_next rfl
    | false => exact reads_next_other (whole.notNext (by decide))
  refine Reads.bind signed (Reads.bind (reads_digits1 whole) ?_)
  rw [if_neg (by simpa using noZero)]
  refine Reads.fraction fraction ?_
  cases exponent with
  | none other => exact Reads.unmarked other (reads_pure _)
  | plain isMark digits =>
      refine Reads.marked isMark (Reads.bind (reads_next_other (digits.notNext (by decide))) ?_)
      refine Reads.bind (reads_next_other (digits.notNext (by decide))).discard ?_
      exact Reads.bind (reads_digits1 digits) (reads_pure _)
  | plus isMark digits =>
      refine Reads.marked isMark (Reads.bind (reads_next_other ?_) ?_)
      · rintro b ⟨⟩
        decide
      refine Reads.bind (reads_next rfl).discard ?_
      exact Reads.bind (reads_digits1 digits) (reads_pure _)
  | minus isMark digits =>
      refine Reads.marked isMark (Reads.bind (reads_next rfl) ?_)
      exact Reads.bind (reads_digits1 digits) (reads_pure _)

theorem reads_number {numeral : Numeral} {n : Number} (spelled : Spelled text numeral rest)
    (isNumber : numeral.number? = some n) : Reads number depth text n rest := by
  refine Reads.bind (reads_numeral spelled) ?_
  rw [isNumber]
  exact reads_pure n

theorem Reads.spaces {next : Option Char → Reader β}
    (reads : Reads (peek >>= next) depth (spaceless text) y rest) :
    Reads (peek >>= next) depth text y rest := by
  have again : spaceless (spaceless text) = spaceless text := List.dropWhile_idempotent _ _
  have same : ((peek : Reader _).run depth).run (spaceless text) =
      ((peek : Reader _).run depth).run text := by
    change Except.ok ((spaceless (spaceless text)).head?.map _, spaceless (spaceless text)) = _
    rw [again]
    rfl
  have inTurn : ∀ text, ((peek >>= next).run depth).run text =
    ((peek.run depth).run text).bind fun read => ((next read.1).run depth).run read.2 :=
    fun _ => rfl
  rw [Reads, inTurn, same, ← inTurn] at reads
  exact reads

theorem spaceless_cons {b : UInt8} (noSpace : isSpace b = false) :
    spaceless (b :: rest) = b :: rest := by
  simp [spaceless, noSpace]

def begins (b : UInt8) : Bool :=
  !isSpace b && b != 0x2C && b != 0x3A && b != 0x5D && b != 0x7D

theorem begins_digitByte {digit : Nat} (below : digit < 10) :
    begins (digitByte digit) = true ∧
      startsNumber (Char.ofNat (digitByte digit).toNat) = true := by
  have each : ∀ digit < 10, begins (digitByte digit) = true ∧
      startsNumber (Char.ofNat (digitByte digit).toNat) = true := by decide
  exact each digit below

theorem Spelled.head {numeral : Numeral} (spelled : Spelled text numeral rest) :
    ∃ b after, text = b :: after ∧ begins b = true ∧
      startsNumber (Char.ofNat b.toNat) = true := by
  obtain ⟨⟨unsigned, afterWhole, afterFraction, rfl, whole, _⟩, _⟩ := spelled
  cases numeral.negative with
  | true => exact ⟨_, _, rfl, rfl, rfl⟩
  | false =>
      obtain ⟨digit, below, isHead⟩ := whole.head
      obtain ⟨after, rfl⟩ := List.head?_eq_some_iff.mp isHead
      exact ⟨_, after, rfl, begins_digitByte below⟩

theorem noSpace_of_begins {b : UInt8} (isFirst : begins b = true) : isSpace b = false := by
  simp only [begins, Bool.and_eq_true, Bool.not_eq_true'] at isFirst
  exact isFirst.1.1.1.1

theorem reads_scalar {value : Json} (spelled : Scalar text value rest) :
    Reads valueWithin.scalar depth text value rest := by
  cases spelled with
  | null =>
      refine Reads.bind (reads_peek (spaceless_cons (b := 0x6E) rfl)) ?_
      exact Reads.bind (reads_literal "null") (reads_pure _)
  | yes =>
      refine Reads.bind (reads_peek (spaceless_cons (b := 0x74) rfl)) ?_
      exact Reads.bind (reads_literal "true") (reads_pure _)
  | no =>
      refine Reads.bind (reads_peek (spaceless_cons (b := 0x66) rfl)) ?_
      exact Reads.bind (reads_literal "false") (reads_pure _)
  | num spelled isNumber =>
      obtain ⟨b, after, rfl, isFirst, starts⟩ := spelled.head
      refine Reads.bind (reads_peek (spaceless_cons (noSpace_of_begins isFirst))) ?_
      have number : Reads (number >>= fun n => pure (Json.num n)) depth (b :: after) _ rest :=
        Reads.bind (reads_number spelled isNumber) (reads_pure _)
      generalize Char.ofNat b.toNat = c at starts
      split
      case h_5 _ same =>
        cases same
        rw [if_pos starts]
        exact number
      all_goals
        rename_i same
        cases same
      all_goals cases starts
  | str quotes =>
      obtain ⟨inside, _, rfl, _⟩ := id quotes
      refine Reads.bind (reads_peek (spaceless_cons rfl)) ?_
      exact Reads.bind (reads_quoted quotes) (reads_pure _)

theorem Scalar.head {value : Json} (spelled : Scalar text value rest) :
    ∃ b after, text = b :: after ∧ begins b = true ∧ b ≠ 0x5B ∧ b ≠ 0x7B := by
  cases spelled with
  | null => exact ⟨0x6E, _, rfl, rfl, by decide⟩
  | yes => exact ⟨0x74, _, rfl, rfl, by decide⟩
  | no => exact ⟨0x66, _, rfl, rfl, by decide⟩
  | num spelled _ =>
      obtain ⟨b, after, rfl, isFirst, starts⟩ := spelled.head
      refine ⟨b, after, rfl, isFirst, ?_, ?_⟩
      · rintro rfl
        cases starts
      · rintro rfl
        cases starts
  | str quotes =>
      obtain ⟨inside, _, rfl, _⟩ := quotes
      exact ⟨_, _, rfl, rfl, by decide⟩

theorem Value.head {value : Json} {levels : Nat} (spelled : Value levels text value rest) :
    ∃ b after, text = b :: after ∧ begins b = true := by
  have scalar : Scalar text value rest → ∃ b after, text = b :: after ∧ begins b = true := by
    intro spelled
    obtain ⟨b, after, rfl, isFirst, _⟩ := spelled.head
    exact ⟨b, after, rfl, isFirst⟩
  cases levels with
  | zero => exact scalar spelled
  | succ levels =>
      rcases spelled with spelled | ⟨inside, _, rfl, _⟩ | ⟨inside, _, rfl, _⟩
      · exact scalar spelled
      · exact ⟨_, _, rfl, rfl⟩
      · exact ⟨_, _, rfl, rfl⟩

theorem length_spaceless_le (text : List UInt8) : (spaceless text).length ≤ text.length :=
  (List.dropWhile_sublist isSpace).length_le

theorem Pieces.length_lt {bytes : List UInt8} (pieces : Pieces text bytes rest) :
    rest.length < text.length := by
  induction pieces <;> simp only [List.length_cons] at * <;> omega

theorem Quoted.length_lt {s : String} (quotes : Quoted text s rest) :
    rest.length < text.length := by
  obtain ⟨inside, bytes, rfl, pieces, _⟩ := quotes
  exact pieces.length_lt.trans (Nat.lt_succ_self _)

theorem Digits.length_lt {digits : List Nat} (spelled : Digits text digits rest) :
    rest.length < text.length := by
  have positive := List.length_pos_iff.mpr spelled.ne_nil
  rw [spelled.split, List.length_append, List.length_map]
  omega

theorem Fraction.length_le {digits : List Nat} (spelled : Fraction text digits rest) :
    rest.length ≤ text.length := by
  cases spelled with
  | none => exact Nat.le_refl _
  | point digits => exact (digits.length_lt.trans (Nat.lt_succ_self _)).le

theorem Exponent.length_le {digits : Option (Bool × List Nat)}
    (spelled : Exponent text digits rest) : rest.length ≤ text.length := by
  cases spelled with
  | none => exact Nat.le_refl _
  | plain _ digits | plus _ digits | minus _ digits =>
      have shorter := digits.length_lt
      simp only [List.length_cons]
      omega

theorem Spelled.length_lt {numeral : Numeral} (spelled : Spelled text numeral rest) :
    rest.length < text.length := by
  obtain ⟨⟨unsigned, afterWhole, afterFraction, rfl, whole, fraction, exponent⟩, _⟩ := spelled
  have shorter := exponent.length_le.trans_lt (fraction.length_le.trans_lt whole.length_lt)
  split
  · exact shorter.trans (Nat.lt_succ_self _)
  · exact shorter

theorem Scalar.length_lt {value : Json} (spelled : Scalar text value rest) :
    rest.length < text.length := by
  have word : ∀ word : List UInt8, 0 < word.length → rest.length < (word ++ rest).length := by
    intro word positive
    rw [List.length_append]
    omega
  cases spelled with
  | null => exact word _ (by decide)
  | yes => exact word _ (by decide)
  | no => exact word _ (by decide)
  | num spelled _ => exact spelled.length_lt
  | str quotes => exact quotes.length_lt

theorem length_start_le {first : Bool} {start : List UInt8}
    (goes : if first then text = start else spaceless text = 0x2C :: start) :
    start.length ≤ text.length := by
  cases first with
  | true => exact (congrArg List.length goes).ge
  | false =>
      have goes : spaceless text = 0x2C :: start := goes
      have bound := length_spaceless_le text
      rw [goes] at bound
      exact (Nat.le_succ _).trans bound

theorem Items.length_lt {close : UInt8} {item : List UInt8 → α → List UInt8 → Prop} {first : Bool}
    {items : List α} (shorter : ∀ {text x rest}, item text x rest → rest.length < text.length)
    (spelled : Items close item first text items rest) : rest.length < text.length := by
  induction spelled with
  | @close first text rest start =>
      have bound := length_spaceless_le text
      rw [start] at bound
      exact bound
  | @next first text start middle rest x items goes isItem _ ih =>
      have isShorter := shorter isItem
      have bound := length_spaceless_le start
      have before := length_start_le goes
      omega

theorem Member.length_lt {value : List UInt8 → Json → List UInt8 → Prop} {member : String × Json}
    (shorter : ∀ {text v rest}, value text v rest → rest.length < text.length)
    (spelled : Member value text member rest) : rest.length < text.length := by
  obtain ⟨afterName, inner, quotes, colon, isValue⟩ := spelled
  have afterShorter := quotes.length_lt
  have innerShorter := length_spaceless_le afterName
  have valueShorter := length_spaceless_le inner
  have restShorter := shorter isValue
  rw [colon, List.length_cons] at innerShorter
  omega

theorem Value.length_lt {levels : Nat} {value : Json} (spelled : Value levels text value rest) :
    rest.length < text.length := by
  induction levels generalizing text value rest with
  | zero => exact Scalar.length_lt spelled
  | succ levels ih =>
      rcases spelled with spelled | ⟨inside, items, rfl, _, spelled⟩ |
        ⟨inside, members, rfl, _, spelled⟩
      · exact spelled.length_lt
      · exact (spelled.length_lt ih).trans (Nat.lt_succ_self _)
      · exact (spelled.length_lt (Member.length_lt ih)).trans (Nat.lt_succ_self _)

theorem eq_of_ofNat {b : UInt8} {c : Char} (same : Char.ofNat b.toNat = c) :
    b = UInt8.ofNat c.toNat := by
  have value : (Char.ofNat b.toNat).toNat = b.toNat := by
    have bound := b.toNat_lt
    rw [Char.ofNat, dif_pos (.inl (by omega))]
    rfl
  rw [← same, value, UInt8.ofNat_toNat]

theorem ofNat_ne_of_begins {b : UInt8} (isFirst : begins b = true) :
    Char.ofNat b.toNat ≠ ']' ∧ Char.ofNat b.toNat ≠ '\x7d' := by
  constructor <;>
  · intro same
    rw [eq_of_ofNat same] at isFirst
    cases isFirst

section

variable {close : UInt8} {c : Char} {first : Bool}

theorem reads_another_close (start : spaceless text = close :: rest)
    (isClose : Char.ofNat close.toNat = c) :
    Reads (another c first) depth text false (close :: rest) := by
  refine Reads.bind (reads_peek start) ?_
  simp only [isClose, if_true]
  rfl

theorem reads_another_next {start after : List UInt8} {b : UInt8} (noComma : c ≠ ',')
    (goes : if first then text = start else spaceless text = 0x2C :: start)
    (isNext : spaceless start = b :: after) (other : Char.ofNat b.toNat ≠ c) :
    Reads (another c first) depth text true (b :: after) := by
  cases first with
  | true =>
      cases goes
      refine Reads.bind (reads_peek isNext) ?_
      simp only [other, if_false, if_true]
      rfl
  | false =>
      refine Reads.bind (reads_peek goes) ?_
      change Reads (if ',' = c then _ else if false = true then _ else if ',' = ',' then _ else _)
        depth (0x2C :: start) true (b :: after)
      rw [if_neg noComma.symm, if_neg Bool.false_ne_true, if_pos rfl]
      refine Reads.bind reads_advance (Reads.bind (reads_peek isNext) ?_)
      simp only [other, if_false]
      rfl

end

theorem reads_items {loop : Nat → Bool → List α → Reader (List α)} {element : Reader α}
    {close : UInt8} {c : Char} {item : List UInt8 → α → List UInt8 → Prop} {first : Bool}
    {items : List α}
    (recursion : ∀ fuel first read, loop (fuel + 1) first read = another c first >>= fun more =>
      if more = true then element >>= fun x => loop fuel false (x :: read)
      else advance >>= fun _ => pure read.reverse)
    (isClose : Char.ofNat close.toNat = c) (noComma : c ≠ ',')
    (each : ∀ {text x rest}, item text x rest → Reads element depth text x rest)
    (head : ∀ {text x rest}, item text x rest →
      ∃ b after, text = b :: after ∧ Char.ofNat b.toNat ≠ c)
    (shorter : ∀ {text x rest}, item text x rest → rest.length < text.length)
    (spelled : Items close item first text items rest) {fuel : Nat} (room : text.length < fuel)
    (read : List α) : Reads (loop fuel first read) depth text (read.reverse ++ items) rest := by
  induction spelled generalizing fuel read with
  | @close first text rest start =>
      obtain ⟨fuel, rfl⟩ := Nat.exists_eq_succ_of_ne_zero (Nat.ne_zero_of_lt room)
      rw [recursion, List.append_nil]
      exact Reads.bind (reads_another_close start isClose) (Reads.bind reads_advance (reads_pure _))
  | @next first text start middle rest x items goes isItem spelled ih =>
      obtain ⟨fuel, rfl⟩ := Nat.exists_eq_succ_of_ne_zero (Nat.ne_zero_of_lt room)
      obtain ⟨b, after, isNext, other⟩ := head isItem
      have fewer : middle.length < fuel := by
        have startShorter := length_start_le goes
        have itemShorter := shorter isItem
        have bound := length_spaceless_le start
        omega
      rw [recursion]
      refine Reads.bind (reads_another_next noComma goes isNext other) ?_
      rw [← isNext]
      refine Reads.bind (each isItem) ?_
      have onward := ih fewer (x :: read)
      rwa [List.reverse_cons, List.append_assoc] at onward

def ReadsEach (levels depth : Nat) : Prop :=
  ∀ {text value rest}, Value levels text value rest →
    Reads (valueWithin levels) depth text value rest

section

variable {levels : Nat} {inside : List UInt8}

theorem reads_member {member : String × Json} (each : ReadsEach levels depth)
    (spelled : Member (Value levels) text member rest) :
    Reads (key >>= fun name => colon >>= fun _ =>
      valueWithin levels >>= fun value => pure (name, value)) depth text member rest := by
  obtain ⟨afterName, inner, quotes, isColon, isValue⟩ := spelled
  obtain ⟨inside, _, rfl, _⟩ := id quotes
  have named : Reads key depth (0x22 :: inside) member.1 afterName :=
    Reads.bind (reads_peek (spaceless_cons rfl)) (reads_quoted quotes)
  have parted : Reads colon depth afterName () inner :=
    Reads.bind (reads_peek isColon) reads_advance
  refine Reads.bind named (Reads.bind parted (Reads.bind ?_ (reads_pure _)))
  cases levels with
  | zero => exact Reads.spaces (each isValue)
  | succ levels => exact Reads.spaces (each isValue)

theorem reads_array {items : List Json} (each : ReadsEach levels depth)
    (spelled : Items 0x5D (Value levels) true inside items rest) :
    Reads (valueWithin (levels + 1)) depth (0x5B :: inside) (.arr items) rest := by
  refine Reads.bind (reads_peek (spaceless_cons rfl)) (Reads.bind reads_advance ?_)
  refine Reads.bind (rfl : Reads room depth inside (inside.length + 1) inside) ?_
  refine Reads.bind ?_ (reads_pure _)
  refine reads_items (fun _ _ _ => rfl) rfl (by decide) each ?_ Value.length_lt spelled
    (Nat.lt_succ_self _) []
  intro text value rest spelled
  obtain ⟨b, after, rfl, isFirst⟩ := spelled.head
  exact ⟨b, after, rfl, (ofNat_ne_of_begins isFirst).1⟩

theorem reads_object {found : List (String × Json)} (each : ReadsEach levels depth)
    (spelled : Items 0x7D (Member (Value levels)) true inside found rest) :
    Reads (valueWithin (levels + 1)) depth (0x7B :: inside) (.obj (lastOfEach found)) rest := by
  refine Reads.bind (reads_peek (spaceless_cons rfl)) (Reads.bind reads_advance ?_)
  refine Reads.bind (rfl : Reads room depth inside (inside.length + 1) inside) ?_
  refine Reads.bind ?_ (reads_pure _)
  refine reads_items ?_ rfl (by decide) (reads_member each) ?_ (Member.length_lt Value.length_lt)
    spelled (Nat.lt_succ_self _) []
  · intro fuel first read
    simp only [members, bind_assoc]
    rfl
  · rintro text member rest ⟨afterName, inner, ⟨inside, _, rfl, _⟩, _⟩
    exact ⟨_, _, rfl, by decide⟩

theorem reads_value {value : Json} (spelled : Value levels text value rest) :
    Reads (valueWithin levels) depth text value rest := by
  induction levels generalizing text value rest with
  | zero => exact reads_scalar spelled
  | succ levels ih =>
      rcases spelled with spelled | ⟨inside, items, rfl, rfl, spelled⟩ |
        ⟨inside, found, rfl, rfl, spelled⟩
      · obtain ⟨b, after, rfl, isFirst, noArray, noObject⟩ := spelled.head
        refine Reads.bind (reads_peek (spaceless_cons (noSpace_of_begins isFirst))) ?_
        split
        · rename_i same
          exact absurd (eq_of_ofNat (Option.some.inj same)) noArray
        · rename_i same
          exact absurd (eq_of_ofNat (Option.some.inj same)) noObject
        · exact reads_scalar spelled
      · exact reads_array ih spelled
      · exact reads_object ih spelled

end

end

end Reader

end Payments.Json
