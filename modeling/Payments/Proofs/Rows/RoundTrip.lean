import Payments.Proofs.Charge.Rules
import Payments.Proofs.Decimal.Places
import Payments.Rows.Audit
import Payments.Rows.Payment

/-!
Payments and audit entries as rows of a database table. Main statement: what was written as a row is read
back as it was, an amount with its scale as well, and of rows from elsewhere those are read that name a
currency, a reference and statuses; all others are corrupt.
-/

namespace Payments

section

variable {ε α β : Type} {isExpected : ε → Prop} {first : Except ε α} {next : α → Except ε β}

def FailsOnly (isExpected : ε → Prop) (outcome : Except ε α) : Prop :=
  ∀ error, outcome = .error error → isExpected error

theorem FailsOnly.bind (firstFails : FailsOnly isExpected first)
    (nextFails : ∀ value, FailsOnly isExpected (next value)) :
    FailsOnly isExpected (first >>= next) := by
  intro error failed
  cases outcome : first with
  | error fault =>
      rw [outcome] at failed
      cases failed
      exact firstFails _ outcome
  | ok value =>
      rw [outcome] at failed
      exact nextFails value error failed

theorem exists_ok_bind_iff {onward : Prop}
    (nextOk : ∀ value, first = .ok value → ((∃ result, next value = .ok result) ↔ onward)) :
    (∃ result, first >>= next = .ok result) ↔ (∃ value, first = .ok value) ∧ onward := by
  cases outcome : first with
  | error error =>
      constructor
      · rintro ⟨_, ok⟩
        cases ok
      · rintro ⟨⟨_, ok⟩, _⟩
        cases ok
  | ok value =>
      rw [and_iff_right ⟨value, rfl⟩]
      exact nextOk value outcome

theorem mapError_eq_ok_iff {γ : Type} {rename : ε → γ} {value : α} :
    first.mapError rename = .ok value ↔ first = .ok value := by
  cases first <;> simp [Except.mapError]

theorem failsOnly_mapError {γ : Type} {rename : ε → γ} {isNamed : γ → Prop}
    (named : ∀ error, isNamed (rename error)) : FailsOnly isNamed (first.mapError rename) := by
  intro error failed
  cases first with
  | error fault =>
      cases failed
      exact named fault
  | ok value => cases failed

end

namespace Currency

theorem toUpper_of_isUpper {c : Char} (upper : c.isUpper = true) : c.toUpper = c := by
  delta Char.isUpper at upper
  delta Char.toUpper
  grind

theorem ofText_code (currency : Currency) : ofText currency.code = .ok currency := by
  have upper : currency.code.toList.map Char.toUpper = currency.code.toList := by
    refine (List.map_congr_left fun c member => ?_).trans (List.map_id _)
    exact toUpper_of_isUpper (currency.isUpper_code c member)
  have named : ofText (String.ofList ([] ++ currency.code.toList ++ [])) = .ok currency :=
    ofText_surrounded (by simp) (by simp) upper
  simpa using named

/-- Three ASCII letters, blanks around them apart. -/
def IsShape (text : String) : Prop :=
  (Text.trim text).toList.length = 3 ∧ ∀ c ∈ (Text.trim text).toList, c.isAlpha = true

theorem exists_ofText_iff {text : String} :
    (∃ currency, ofText text = .ok currency) ↔ IsShape text := by
  constructor
  · rintro ⟨currency, named⟩
    have isNamed := ofText_eq_ok_iff_isNamedBy.mp named
    exact ⟨isNamed.length, isNamed.letters⟩
  · rintro ⟨length, letters⟩
    have given : Text.trim text ≠ "" := fun empty => by simp [empty] at length
    unfold ofText
    dsimp only
    rw [if_neg given, dif_pos ⟨length, List.all_eq_true.mpr letters⟩]
    exact ⟨_, rfl⟩

end Currency

theorem Reference.exists_ofText_iff {text : String} :
    (∃ reference, Reference.ofText text = .ok reference) ↔
      text ≠ "" ∧ ∀ c ∈ text.toList, Text.isBlank c = false := by
  simp only [Reference.ofText_eq_ok_iff]
  constructor
  · rintro ⟨reference, rfl⟩
    exact ⟨reference.ne_empty, reference.not_blank⟩
  · rintro ⟨given, clear⟩
    exact ⟨⟨text, given, clear⟩, rfl⟩

namespace Status

/-- The name of a status in any letter case. -/
def IsName (text : String) : Prop :=
  ∃ status : Status, text.toList.map Char.toUpper = status.name.toList

theorem ofText?_name (status : Status) : ofText? status.name = some status := by
  cases status <;> decide +kernel

theorem ofStored_eq_ok_iff {text : String} {status : Status} :
    ofStored text = .ok status ↔ ofText? text = some status := by
  unfold ofStored
  cases ofText? text <;> simp

theorem exists_ofStored_iff {text : String} :
    (∃ status, ofStored text = .ok status) ↔ IsName text := by
  simp only [ofStored_eq_ok_iff]
  constructor
  · rintro ⟨status, found⟩
    have named := List.find?_some found
    exact ⟨status, (of_decide_eq_true named).symm⟩
  · rintro ⟨status, named⟩
    have known : status ∈ all := by cases status <;> decide
    have found : (ofText? text).isSome = true :=
      List.find?_isSome.mpr ⟨status, known, decide_eq_true named.symm⟩
    exact Option.isSome_iff_exists.mp found

theorem ofStored_failsOnly (text : String) :
    FailsOnly (fun error => ∃ reason, error = .corrupt reason) (ofStored text) := by
  unfold ofStored
  intro error failed
  split at failed
  · cases failed
  · cases failed
    exact ⟨_, rfl⟩

end Status

theorem EventType.ofName?_name (eventType : EventType) :
    EventType.ofName? eventType.name = some eventType := by
  cases eventType <;> decide +kernel

namespace PaymentRow

variable {payment : Payment} {row : PaymentRow}

theorem exists_payment_iff : (∃ payment, row.payment = .ok payment) ↔
    Currency.IsShape row.currency ∧
    (row.reference ≠ "" ∧ ∀ c ∈ row.reference.toList, Text.isBlank c = false) ∧
    Status.IsName row.status := by
  have steps : (∃ payment, row.payment = .ok payment) ↔
      (∃ currency, Currency.ofText row.currency = .ok currency) ∧
      (∃ reference, Reference.ofText row.reference = .ok reference) ∧
      (∃ status, Status.ofStored row.status = .ok status) ∧ True := by
    unfold PaymentRow.payment
    refine (exists_ok_bind_iff fun _ _ => exists_ok_bind_iff fun _ _ => exists_ok_bind_iff fun _ _ =>
      iff_true_intro ⟨_, rfl⟩).trans ?_
    simp only [mapError_eq_ok_iff]
  rw [steps, Currency.exists_ofText_iff, Reference.exists_ofText_iff, Status.exists_ofStored_iff,
    and_true]

theorem payment_failsOnly (row : PaymentRow) :
    FailsOnly (fun error => ∃ reason, error = .corrupt reason) row.payment := by
  refine (failsOnly_mapError fun _ => ⟨_, rfl⟩).bind fun currency => ?_
  refine (failsOnly_mapError fun _ => ⟨_, rfl⟩).bind fun reference => ?_
  exact (Status.ofStored_failsOnly row.status).bind fun status error failed => nomatch failed

theorem payment_of_ofPayment? (written : ofPayment? payment = some row)
    (places : payment.money.amount.scale = payment.money.currency.places)
    (unsigned : payment.money.amount.negativeZero = false) : row.payment = .ok payment := by
  obtain ⟨amount, atPlaces, isRow⟩ := Option.bind_eq_some_iff.mp written
  cases isRow
  have few : payment.money.amount.scale ≤ 4 := by
    have bound := payment.money.currency.places_le
    omega
  have restored : amount.roundTo payment.money.currency.places = payment.money.amount := by
    rw [← places]
    exact Decimal.roundTo_of_atPlaces? few unsigned atPlaces
  simp only [PaymentRow.payment, Currency.ofText_code, Reference.ofText_eq_ok_iff.mpr rfl, restored,
    Status.ofStored_eq_ok_iff.mpr (Status.ofText?_name payment.status), bind, Except.bind,
    Except.mapError, pure, Except.pure]

theorem written_of_ofMinor {minor : Int64} {currency : Currency}
    (money : payment.money = .ofMinor minor currency) :
    ∃ row, ofPayment? payment = some row ∧ row.amount.scale = 4 ∧
      row.amount.value = payment.money.amount.value := by
  have few : payment.money.amount.scale ≤ 4 := by
    rw [money]
    exact Nat.le_trans currency.places_le (by decide)
  have room : ∃ amount, payment.money.amount.atPlaces? 4 = some amount := by
    rw [Decimal.atPlaces?_of_le few, ← Option.isSome_iff_exists, ← Option.ne_none_iff_isSome, ne_eq,
      Decimal.ofUnits?_eq_none_iff, Int.natAbs_mul, Int.natAbs_pow]
    have grows : 10 ^ (4 - payment.money.amount.scale) ≤ 10 ^ 4 :=
      Nat.pow_le_pow_right (by decide) (Nat.sub_le _ _)
    have units : payment.money.amount.units = minor.toInt := by rw [money]; rfl
    have lower := Int64.le_toInt minor
    have upper := Int64.toInt_lt minor
    have product : payment.money.amount.units.natAbs * 10 ^ (4 - payment.money.amount.scale) ≤
        2 ^ 63 * 10 ^ 4 := Nat.mul_le_mul (by omega) grows
    have base : (10 : Int).natAbs = 10 := rfl
    rw [base]
    omega
  obtain ⟨amount, atPlaces⟩ := room
  have same := Decimal.value_of_atPlaces? atPlaces
  exact ⟨_, by rw [ofPayment?, atPlaces]; rfl, same⟩

end PaymentRow

namespace AuditRow

variable {row : AuditRow}

theorem readStatus_name (status : Status) : readStatus status.name = .ok status := by
  rw [readStatus, mapError_eq_ok_iff, Status.ofStored_eq_ok_iff, Status.ofText?_name]

theorem exists_readStatus_iff {text : String} :
    (∃ status, readStatus text = .ok status) ↔ Status.IsName text := by
  simp only [readStatus, mapError_eq_ok_iff]
  exact Status.exists_ofStored_iff

theorem readStatus_failsOnly (text : String) :
    FailsOnly (fun error => ∃ reason, error = .corrupt reason) (readStatus text) :=
  failsOnly_mapError fun _ => ⟨_, rfl⟩

theorem exists_readEventType_iff {name : String} :
    (∃ eventType, readEventType name = .ok eventType) ↔ ∃ eventType : EventType, eventType.name = name := by
  constructor
  · rintro ⟨eventType, read⟩
    unfold readEventType at read
    split at read
    · rename_i known found
      have named := List.find?_some found
      exact ⟨known, of_decide_eq_true named⟩
    · cases read
  · rintro ⟨eventType, rfl⟩
    exact ⟨eventType, by rw [readEventType, EventType.ofName?_name]⟩

theorem readEventType_failsOnly (name : String) :
    FailsOnly (fun error => ∃ reason, error = .corrupt reason) (readEventType name) := by
  intro error failed
  unfold readEventType at failed
  split at failed
  · cases failed
  · cases failed
    exact ⟨_, rfl⟩

theorem exists_mapM_readStatus_iff {text? : Option String} :
    (∃ status?, text?.mapM readStatus = .ok status?) ↔
      ∀ text ∈ text?, Status.IsName text := by
  cases text? with
  | none => exact iff_of_true ⟨_, rfl⟩ (by simp)
  | some text =>
      simp only [Option.mem_some_iff, forall_eq', ← exists_readStatus_iff, Option.mapM_some]
      cases readStatus text with
      | error error => exact iff_of_false (fun ⟨_, ok⟩ => nomatch ok) (fun ⟨_, ok⟩ => nomatch ok)
      | ok status => exact iff_of_true ⟨some status, rfl⟩ ⟨status, rfl⟩

theorem mapM_readStatus_failsOnly (text? : Option String) :
    FailsOnly (fun error => ∃ reason, error = .corrupt reason) (text?.mapM readStatus) := by
  intro error failed
  cases text? with
  | none => cases failed
  | some text =>
      rw [Option.mapM_some] at failed
      cases read : readStatus text with
      | error fault =>
          rw [read] at failed
          cases failed
          exact readStatus_failsOnly text _ read
      | ok status =>
          rw [read] at failed
          cases failed

theorem exists_entry_iff : (∃ entry, row.entry = .ok entry) ↔
    (∃ eventType : EventType, eventType.name = row.eventType) ∧
    (∀ text ∈ row.previousStatus, Status.IsName text) ∧ Status.IsName row.newStatus := by
  unfold AuditRow.entry
  refine (exists_ok_bind_iff fun _ _ => exists_ok_bind_iff fun _ _ => exists_ok_bind_iff fun _ _ =>
    iff_true_intro ⟨_, rfl⟩).trans ?_
  rw [exists_readEventType_iff, exists_mapM_readStatus_iff, exists_readStatus_iff, and_true]

theorem entry_failsOnly (row : AuditRow) :
    FailsOnly (fun error => ∃ reason, error = .corrupt reason) row.entry := by
  refine (readEventType_failsOnly _).bind fun eventType => ?_
  refine (mapM_readStatus_failsOnly _).bind fun previousStatus => ?_
  exact (readStatus_failsOnly _).bind fun newStatus error failed => nomatch failed

theorem entry_ofEntry (entry : AuditEntry) : (ofEntry entry).entry = .ok entry := by
  have previous : (entry.previousStatus.map Status.name).mapM readStatus =
      .ok entry.previousStatus := by
    cases entry.previousStatus with
    | none => rfl
    | some status =>
        rw [Option.map_some, Option.mapM_some, readStatus_name]
        rfl
  simp only [AuditRow.entry, ofEntry, readEventType, EventType.ofName?_name, previous,
    readStatus_name, bind, Except.bind, pure, Except.pure]

end AuditRow

/-- A payment with an amount in smallest units, and any audit entry, is read back from its row as it was.
A row from elsewhere is read exactly if its texts are in order, and is corrupt otherwise. -/
theorem rows_read_back :
    (∀ (payment : Payment) (minor : Int64) (currency : Currency),
      payment.money = .ofMinor minor currency →
        ∃ row, PaymentRow.ofPayment? payment = some row ∧ row.amount.scale = 4 ∧
          row.amount.value = payment.money.amount.value ∧ row.payment = .ok payment ∧
          payment.money.minor = .ok minor) ∧
    (∀ entry, (AuditRow.ofEntry entry).entry = .ok entry) ∧
    (∀ row : PaymentRow,
      ((∃ payment, row.payment = .ok payment) ↔
        Currency.IsShape row.currency ∧
        (row.reference ≠ "" ∧ ∀ c ∈ row.reference.toList, Text.isBlank c = false) ∧
        Status.IsName row.status) ∧
      ∀ error, row.payment = .error error → ∃ reason, error = .corrupt reason) ∧
    ∀ row : AuditRow,
      ((∃ entry, row.entry = .ok entry) ↔
        (∃ eventType : EventType, eventType.name = row.eventType) ∧
        (∀ text ∈ row.previousStatus, Status.IsName text) ∧ Status.IsName row.newStatus) ∧
      ∀ error, row.entry = .error error → ∃ reason, error = .corrupt reason := by
  refine ⟨?_, AuditRow.entry_ofEntry, fun row => ⟨PaymentRow.exists_payment_iff, row.payment_failsOnly⟩,
    fun row => ⟨AuditRow.exists_entry_iff, row.entry_failsOnly⟩⟩
  intro payment minor currency money
  obtain ⟨row, written, scale, value⟩ := PaymentRow.written_of_ofMinor money
  have places : payment.money.amount.scale = payment.money.currency.places := by rw [money]; rfl
  have unsigned : payment.money.amount.negativeZero = false := by rw [money]; rfl
  refine ⟨row, written, scale, value, PaymentRow.payment_of_ofPayment? written places unsigned, ?_⟩
  rw [money]
  exact (Currency.toMinor_eq_ok_iff currency _ minor).mpr (Currency.value_ofMinor currency minor)

def debt : Payment where
  id := ⟨1⟩
  reference := ⟨"pi_5", by decide, by simp [Text.isBlank]⟩
  userId := "42"
  planId := "premium"
  money := .ofMinor Int64.minValue ⟨"CHF", rfl, by simp⟩
  status := .refunded
  receiptUrl := none
  customerId := some "cus_1"
  description := none
  createdAt := ⟨1760000000, 5⟩
  updatedAt := ⟨1760000001, 0⟩
  version := 3

def damaged : PaymentRow where
  id := ⟨1⟩
  reference := "pi_5"
  userId := "42"
  planId := "premium"
  amount := .hundred
  currency := "CHF"
  status := "SETTLED"
  receiptUrl := none
  customerId := none
  description := none
  createdAt := ⟨1760000000, 0⟩
  updatedAt := ⟨1760000000, 0⟩
  version := 1

theorem rows_read_back_debt :
    (∃ row, PaymentRow.ofPayment? debt = some row ∧ row.payment = .ok debt) ∧
    ∃ error reason, damaged.payment = .error error ∧ error = .corrupt reason := by
  obtain ⟨written, -, rows, -⟩ := rows_read_back
  obtain ⟨row, isRow, -, -, read, -⟩ := written debt Int64.minValue ⟨"CHF", rfl, by simp⟩ rfl
  have failed : damaged.payment = .error (.corrupt "unknown payment status: SETTLED") := by
    decide +kernel
  obtain ⟨reason, corrupt⟩ := (rows damaged).2 _ failed
  exact ⟨⟨row, isRow, read⟩, _, reason, failed, corrupt⟩

end Payments
