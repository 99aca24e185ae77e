import Payments.Proofs.Webhook.Signature

/-!
Signing and verifying. A header made by signing is read back as it was made, and the signed message
determines the time and the payload, so a signature made for one delivery is good for another only if
the keyed digest takes the same value on two different messages.
-/

namespace Payments.Text

theorem bytesOf_injective : Function.Injective bytesOf := by
  intro text other same
  apply String.toByteArray_inj.mp
  rw [← String.utf8Encode_toList, ← String.utf8Encode_toList]
  exact congrArg List.toByteArray same

end Payments.Text

namespace Payments.Digest

theorem hexDigit_injective {m n : Nat} (small : m < 16) (small' : n < 16)
    (same : hexDigit m = hexDigit n) : m = n := by
  have distinct : ∀ m < 16, ∀ n < 16, hexDigit m = hexDigit n → m = n := by decide
  exact distinct m small n small' same

theorem hex_injective : Function.Injective hex := by
  intro bytes
  induction bytes with
  | nil =>
      intro other same
      cases other with
      | nil => rfl
      | cons b rest => cases same
  | cons b rest ih =>
      intro other same
      cases other with
      | nil => cases same
      | cons b' rest' =>
          simp only [hex, List.flatMap_cons, List.cons_append, List.nil_append,
            List.cons.injEq] at same
          obtain ⟨high, low, later⟩ := same
          have bound := b.toNat_lt
          have bound' := b'.toNat_lt
          have highs := hexDigit_injective (by omega) (by omega) high
          have lows := hexDigit_injective (by omega) (by omega) low
          have sameByte : b = b' := UInt8.toNat_inj.mp (by omega)
          rw [sameByte, ih later]

end Payments.Digest

namespace Payments.Webhook

def InNumber (c : Char) : Prop :=
  c = '-' ∨ (48 ≤ c.toNat ∧ c.toNat ≤ 57) ∨ (97 ≤ c.toNat ∧ c.toNat ≤ 102)

namespace InNumber

variable {c : Char}

theorem not_blank (inNumber : InNumber c) : Text.isBlank c = false := by
  rcases inNumber with rfl | ⟨lower, upper⟩ | ⟨lower, upper⟩
  · decide
  · simp [Text.isBlank]
    omega
  · simp [Text.isBlank]
    omega

theorem ne {other : Char} (inNumber : InNumber c) (outside : ¬InNumber other) : c ≠ other := by
  rintro rfl
  exact outside inNumber

theorem of_digit (digit : c.isDigit) : InNumber c := by
  rw [Char.isDigit_iff_toNat] at digit
  exact .inr (.inl ⟨digit.1, digit.2⟩)

theorem of_mem_hex {bytes : List UInt8} (member : c ∈ Digest.hex bytes) : InNumber c := by
  have all : ∀ n < 16, InNumber (Digest.hexDigit n) := by
    unfold InNumber
    decide
  simp only [Digest.hex, List.mem_flatMap, List.mem_cons, List.not_mem_nil, or_false] at member
  obtain ⟨b, _, rfl | rfl⟩ := member
  · exact all _ (by have := b.toNat_lt; omega)
  · exact all _ (by omega)

end InNumber

theorem toList_repr_spec (n : Nat) :
    n.repr.toList ≠ [] ∧ (∀ c ∈ n.repr.toList, c.isDigit) ∧
      Nat.ofDigitChars 10 n.repr.toList 0 = n := by
  rw [Nat.repr_eq_ofList_toDigits, String.toList_ofList]
  exact ⟨Nat.toDigits_ne_nil, fun c member => Nat.isDigit_of_mem_toDigits (by decide) (by decide)
    member, Nat.ofDigitChars_ten_toDigits⟩

theorem toList_toString (n : Int) :
    (toString n).toList =
      if 0 ≤ n then n.toNat.repr.toList else '-' :: (-n).toNat.repr.toList := by
  change n.repr.toList = _
  rw [Int.repr_eq_if]
  split
  · rfl
  · rw [String.toList_append]
    rfl

theorem denotes_toString (n : Int) : Denotes (toString n).toList n := by
  rw [toList_toString]
  by_cases nonneg : 0 ≤ n
  · obtain ⟨some, digital, value⟩ := toList_repr_spec n.toNat
    have denotes := Denotes.plain some digital
    rw [value, Int.toNat_of_nonneg nonneg] at denotes
    rwa [if_pos nonneg]
  · obtain ⟨some, digital, value⟩ := toList_repr_spec (-n).toNat
    have denotes := Denotes.minus some digital
    rw [value, Int.toNat_of_nonneg (by omega), Int.neg_neg] at denotes
    rwa [if_neg nonneg]

theorem Denotes.unique {chars : List Char} {m n : Int} (denotes : Denotes chars m)
    (denotes' : Denotes chars n) : m = n := by
  cases denotes with
  | plain _ digital =>
      have unsigned {sign : Char} (notDigit : ¬sign.isDigit) (rest : List Char) :
          chars ≠ sign :: rest := by
        rintro rfl
        exact notDigit (digital sign (by simp))
      exact ((Denotes.plain_iff (unsigned (by decide)) (unsigned (by decide))).mp denotes').2.2.symm
  | plus => exact (Denotes.plus_iff.mp denotes').2.2.symm
  | minus => exact (Denotes.minus_iff.mp denotes').2.2.symm

theorem InNumber.of_mem_toString {n : Int} {c : Char} (member : c ∈ (toString n).toList) :
    InNumber c := by
  rw [toList_toString] at member
  split at member
  · exact .of_digit ((toList_repr_spec _).2.1 c member)
  · rcases List.mem_cons.mp member with rfl | digit
    · exact .inl rfl
    · exact .of_digit ((toList_repr_spec _).2.1 c digit)

theorem toString_injective : Function.Injective (toString : Int → String) := by
  intro m n same
  have denotes := denotes_toString m
  rw [same] at denotes
  exact denotes.unique (denotes_toString n)

theorem point_notMem (n : Int) : 0x2E ∉ Text.bytesOf (toString n) := by
  intro member
  obtain ⟨c, isChar, coded⟩ := List.mem_flatMap.mp member
  have inNumber := InNumber.of_mem_toString isChar
  have small : c.val.toNat ≤ 127 := by
    change c.toNat ≤ 127
    rcases inNumber with rfl | digit | letter
    · decide
    · omega
    · omega
  simp only [String.utf8EncodeChar, small, if_true, List.mem_singleton] at coded
  have code : c.toNat = 0x2E := by
    have codes := congrArg UInt8.toNat coded
    change 46 = c.toNat % 256 at codes
    change c.toNat ≤ 127 at small
    omega
  rcases inNumber with rfl | digit | letter
  · cases code
  · omega
  · omega

theorem eq_of_append_cons_eq {α : Type} {mark : α} {before before' after after' : List α}
    (clear : mark ∉ before) (clear' : mark ∉ before')
    (same : before ++ mark :: after = before' ++ mark :: after') :
    before = before' ∧ after = after' := by
  rcases List.append_eq_append_iff.mp same with ⟨more, rfl, later⟩ | ⟨more, rfl, later⟩
  · cases more with
    | nil => simpa using later
    | cons first rest =>
        rw [List.cons_append, List.cons.injEq] at later
        simp [later.1] at clear'
  · cases more with
    | nil => simpa [eq_comm] using later
    | cons first rest =>
        rw [List.cons_append, List.cons.injEq] at later
        simp [later.1] at clear

theorem signedMessage_injective : Function.Injective (Function.uncurry signedMessage) := by
  rintro ⟨time, payload⟩ ⟨otherTime, other⟩ same
  obtain ⟨sameTime, samePayload⟩ :=
    eq_of_append_cons_eq (point_notMem _) (point_notMem _) same
  have decimals := Text.bytesOf_injective sameTime
  exact Prod.ext (Int64.toInt_inj.mp (toString_injective decimals)) samePayload

def stamped (time : Int64) (digest : List Char) : String :=
  "t=" ++ toString time.toInt ++ ",v1=" ++ String.ofList digest

theorem signatureHeader_eq (payload : List UInt8) (secret : String) (time : Int64) :
    signatureHeader payload secret time = stamped time (digest secret time payload) := rfl

section Stamped

open SignatureHeader

variable {time : Int64} {digest : List Char}

theorem piecesOf_stamped (inNumber : ∀ c ∈ digest, InNumber c) :
    piecesOf (stamped time digest) =
      [['t'] ++ '=' :: (toString time.toInt).toList, ['v', '1'] ++ '=' :: digest] := by
  have written : stamped time digest =
      ofPieces [['t'] ++ '=' :: (toString time.toInt).toList, ['v', '1'] ++ '=' :: digest] := by
    apply String.toList_inj.mp
    simp [stamped, ofPieces, List.intercalate]
  have clear : ∀ {value : List Char}, (∀ c ∈ value, InNumber c) → ',' ∉ value :=
    fun numeric member => (numeric _ member).ne (by unfold InNumber; decide) rfl
  have clearTime := clear fun c => InNumber.of_mem_toString (n := time.toInt)
  rw [written, piecesOf_ofPieces (by simp)]
  generalize (toString time.toInt).toList = decimal at clearTime ⊢
  simp [clearTime, clear inNumber]

theorem field?_of_inNumber {key value : List Char}
    (clearKey : key.all fun c => c != '=' && !Text.isBlank c)
    (inNumber : ∀ c ∈ value, InNumber c) :
    field? (key ++ '=' :: value) = some (key, value) := by
  have clearKey : ∀ c ∈ key, c ≠ '=' ∧ Text.isBlank c = false := by simpa using clearKey
  have clear : ∀ c ∈ key ++ '=' :: value, Text.isBlank c = false := by
    intro c member
    rcases List.mem_append.mp member with inKey | behind
    · exact (clearKey c inKey).2
    · rcases List.mem_cons.mp behind with rfl | inValue
      · decide
      · exact (inNumber c inValue).not_blank
  rw [field?_eq_some_iff, Text.trimStart_of_not_blank clear, Text.trimEnd_of_not_blank clear]
  exact ⟨rfl, fun member => (clearKey _ member).1 rfl⟩

theorem parse_stamped (inNumber : ∀ c ∈ digest, InNumber c) :
    parse (stamped time digest) = .ok (time, [digest]) := by
  have timeField : field? (['t'] ++ '=' :: (toString time.toInt).toList) = some _ :=
    field?_of_inNumber (by decide) fun c => InNumber.of_mem_toString
  have digestField : field? (['v', '1'] ++ '=' :: digest) = some _ :=
    field?_of_inNumber (by decide) inNumber
  have read := int64?_eq_some_iff.mpr (denotes_toString time.toInt)
  rw [parse_eq_ok_iff, piecesOf_stamped inNumber, valuesOf_cons ['t'], valuesOf_cons ['v', '1'],
    valuesOf_of_field timeField, valuesOf_of_field timeField, valuesOf_of_field digestField,
    valuesOf_of_field digestField]
  generalize (toString time.toInt).toList = decimal at read ⊢
  simp [read]

end Stamped

theorem verify_stamped {payload other : List UInt8} {secret : String}
    {time otherTime tolerance now : Int64} :
    verify other (stamped otherTime (digest secret time payload)) secret tolerance now = .ok () ↔
      |now.toInt - otherTime.toInt| ≤ max tolerance.toInt 0 ∧
        Digest.hmac (Text.bytesOf secret) (signedMessage otherTime other) =
          Digest.hmac (Text.bytesOf secret) (signedMessage time payload) := by
  have parsed : SignatureHeader.parse (stamped otherTime (digest secret time payload)) =
      .ok (otherTime, [digest secret time payload]) := parse_stamped fun c => InNumber.of_mem_hex
  rw [verify_eq_ok_iff, parsed]
  constructor
  · rintro ⟨_, _, parsed, inWindow, matched⟩
    cases parsed
    exact ⟨inWindow, Digest.hex_injective (List.mem_singleton.mp matched)⟩
  · rintro ⟨inWindow, agree⟩
    exact ⟨otherTime, _, rfl, inWindow, List.mem_singleton.mpr (congrArg Digest.hex agree)⟩

/-- What was signed is accepted as long as its time is near enough. The same signature under another
payload or another time is accepted only if the keyed digests of two different messages agree. -/
theorem signing_agrees_with_verifying :
    (∀ (payload : List UInt8) (secret : String) (time tolerance now : Int64),
      verify payload (signatureHeader payload secret time) secret tolerance now = .ok () ↔
        |now.toInt - time.toInt| ≤ max tolerance.toInt 0) ∧
    Function.Injective (Function.uncurry signedMessage) ∧
    (∀ (payload other : List UInt8) (secret : String) (time tolerance now : Int64),
      other ≠ payload →
        signedMessage time other ≠ signedMessage time payload ∧
        (verify other (signatureHeader payload secret time) secret tolerance now = .ok () ↔
          |now.toInt - time.toInt| ≤ max tolerance.toInt 0 ∧
            Digest.hmac (Text.bytesOf secret) (signedMessage time other) =
              Digest.hmac (Text.bytesOf secret) (signedMessage time payload))) ∧
    (∀ (payload other : List UInt8) (secret : String) (time otherTime tolerance now : Int64),
      (otherTime, other) ≠ (time, payload) →
        signedMessage otherTime other ≠ signedMessage time payload ∧
        (verify other (stamped otherTime (digest secret time payload)) secret tolerance now =
            .ok () ↔
          |now.toInt - otherTime.toInt| ≤ max tolerance.toInt 0 ∧
            Digest.hmac (Text.bytesOf secret) (signedMessage otherTime other) =
              Digest.hmac (Text.bytesOf secret) (signedMessage time payload))) := by
  have apart {time otherTime : Int64} {payload other : List UInt8}
      (different : (otherTime, other) ≠ (time, payload)) :
      signedMessage otherTime other ≠ signedMessage time payload := by
    intro same
    exact different (@signedMessage_injective (otherTime, other) (time, payload) same)
  refine ⟨fun payload secret time tolerance now => ?_, signedMessage_injective,
    fun payload other secret time tolerance now different => ⟨?_, ?_⟩,
    fun payload other secret time otherTime tolerance now different =>
      ⟨apart different, verify_stamped⟩⟩
  · rw [signatureHeader_eq, verify_stamped]
    exact and_iff_left rfl
  · apply apart
    simpa using different
  · rw [signatureHeader_eq]
    exact verify_stamped

theorem signing_agrees_with_verifying_tampered :
    verify [0x7B, 0x7D] (signatureHeader [0x7B, 0x7D] "whsec" 1700000000) "whsec" 300
        1700000010 = .ok () ∧
      verify [0x7B, 0x20, 0x7D] (signatureHeader [0x7B, 0x7D] "whsec" 1700000000) "whsec" 300
        1700000010 ≠ .ok () ∧
      verify [0x7B, 0x7D] (stamped 1700000009 (digest "whsec" 1700000000 [0x7B, 0x7D])) "whsec" 300
        1700000010 ≠ .ok () := by
  obtain ⟨agrees, _, otherPayload, otherStamp⟩ := signing_agrees_with_verifying
  refine ⟨(agrees _ _ _ _ _).mpr (by decide), ?_, ?_⟩
  · intro accepted
    have collision := ((otherPayload _ _ _ _ _ _ (by decide)).2.mp accepted).2
    revert collision
    decide +kernel
  · intro accepted
    have collision := ((otherStamp _ _ _ _ _ _ _ (by decide)).2.mp accepted).2
    revert collision
    decide +kernel

end Payments.Webhook
