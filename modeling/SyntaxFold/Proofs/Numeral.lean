import SyntaxFold.Operator
import SyntaxFold.Proofs.Outcome
import SyntaxFold.Value.Data

/-!
# Integers written in decimal digits

Every run of digits is read as the number that it denotes, so an integer of 64 bits is read back
from its digits. `Denotes` is the grammar of integers: a run of digits after at most one sign. In a
literal underscores may stand anywhere; `Separates` says where text has more of them than other
text, and both are read alike.

For a negative integer the digits of its literal are those of its magnitude, and the sign is an
operator. The magnitude of the least integer does not fit: it is read as a double, whose negative
is that integer again.
-/

namespace SyntaxFold

namespace Numeral

/-! ## Integers of 64 bits -/

/-- The integers that fit 64 bits are the values of the integers of 64 bits. -/
theorem int64OfInt?_eq_some_iff {value : Int} {whole : Int64} :
    int64OfInt? value = some whole ↔ value = whole.toInt := by
  unfold int64OfInt?
  have least := whole.le_toInt
  have greatest := whole.toInt_lt
  constructor
  · split
    · next inRange =>
        intro same
        obtain rfl := Option.some.inj same
        rw [Int64.toInt_ofInt_of_le inRange.1 inRange.2]
    · exact fun impossible => by cases impossible
  · rintro rfl
    rw [if_pos ⟨least, greatest⟩, Int64.ofInt_toInt]

/-- The least integer is the only one whose negative does not fit. -/
theorem eq_minValue_of_overflow {value : Int64} (overflows : int64OfInt? (-value.toInt) = none) :
    value = Int64.minValue := by
  unfold int64OfInt? at overflows
  have least := value.le_toInt
  have greatest := value.toInt_lt
  split at overflows
  · cases overflows
  · next outside =>
      apply Int64.toInt_inj.1
      rw [Int64.toInt_minValue]
      omega

/-! ## Runs of digits -/

/-- At least one decimal digit and nothing else. -/
structure IsRun (text : List Char) : Prop where
  nonempty : text ≠ []
  digits : ∀ c ∈ text, c.isDigit = true

theorem isRun_toDigits (number : Nat) : IsRun (Nat.toDigits 10 number) where
  nonempty := Nat.toDigits_ne_nil
  digits _ := Nat.isDigit_of_mem_toDigits (by decide) (by decide)

/-- Zeros may stand before a run of digits. -/
theorem IsRun.zeros_append {text : List Char} (run : IsRun text) (zeros : Nat) :
    IsRun (List.replicate zeros '0' ++ text) where
  nonempty := List.append_ne_nil_of_right_ne_nil _ run.nonempty
  digits c member := by
    rcases List.mem_append.1 member with zero | inText
    · obtain rfl := List.eq_of_mem_replicate zero
      decide
    · exact run.digits c inText

theorem digit?_eq_some_iff {c : Char} {digit : Nat} :
    digit? c = some digit ↔ c.isDigit = true ∧ c.toNat - '0'.toNat = digit := by
  have isDigit : c.isDigit = true ↔ '0' ≤ c ∧ c ≤ '9' := Char.isDigit_iff_toNat
  rw [digit?, isDigit, Option.ite_none_right_eq_some, Option.some.injEq]

theorem mapM_digit?_eq_some_iff {text : List Char} {values : List Nat} :
    text.mapM digit? = some values ↔
      (∀ c ∈ text, c.isDigit = true) ∧ text.map (fun c => c.toNat - '0'.toNat) = values := by
  induction text generalizing values with
  | nil => simp
  | cons c rest ih =>
      rw [List.mapM_cons, List.forall_mem_cons, List.map_cons]
      constructor
      · intro read
        obtain ⟨digit, first, tail⟩ := Option.bind_eq_some_iff.1 read
        obtain ⟨others, othersRead, same⟩ := Option.bind_eq_some_iff.1 tail
        obtain ⟨isDigit, rfl⟩ := digit?_eq_some_iff.1 first
        obtain ⟨digits, rfl⟩ := ih.1 othersRead
        exact ⟨⟨isDigit, digits⟩, Option.some.inj same⟩
      · rintro ⟨⟨isDigit, digits⟩, rfl⟩
        rw [digit?_eq_some_iff.2 ⟨isDigit, rfl⟩, ih.2 ⟨digits, rfl⟩]
        rfl

/-- A run of digits is read as the number that it denotes, and other text is not read. -/
theorem natural?_eq_some_iff {text : List Char} {number : Nat} :
    natural? text = some number ↔ IsRun text ∧ Nat.ofDigitChars 10 text 0 = number := by
  have denoted : ofDigits (text.map fun c => c.toNat - '0'.toNat) = Nat.ofDigitChars 10 text 0 := by
    rw [ofDigits, List.foldl_map, Nat.ofDigitChars_eq_foldl]
  unfold natural?
  split
  · next isEmpty =>
      simp only [reduceCtorEq, false_iff]
      exact fun read => read.1.nonempty (List.isEmpty_iff.1 isEmpty)
  · next filled =>
      rw [Option.map_eq_some_iff]
      constructor
      · rintro ⟨values, read, rfl⟩
        obtain ⟨digits, rfl⟩ := mapM_digit?_eq_some_iff.1 read
        exact ⟨⟨fun empty => filled (List.isEmpty_iff.2 empty), digits⟩, denoted.symm⟩
      · rintro ⟨run, rfl⟩
        exact ⟨_, mapM_digit?_eq_some_iff.2 ⟨run.digits, rfl⟩, denoted⟩

/-! ## Integers with a sign -/

/-- The integers that text can denote: after at most one sign a run of digits, in which zeros may
lead. -/
inductive Denotes : List Char → Int → Prop
  | unsigned {digits : List Char} :
      IsRun digits → Denotes digits (Nat.ofDigitChars 10 digits 0)
  | positive {digits : List Char} :
      IsRun digits → Denotes ('+' :: digits) (Nat.ofDigitChars 10 digits 0)
  | negative {digits : List Char} :
      IsRun digits → Denotes ('-' :: digits) (-Nat.ofDigitChars 10 digits 0)

/-- A run of digits has no sign. -/
theorem IsRun.splitSign_eq {text : List Char} (run : IsRun text) :
    splitSign text = (false, text) := by
  unfold splitSign
  split
  · exact absurd (run.digits '-' List.mem_cons_self) (by decide)
  · exact absurd (run.digits '+' List.mem_cons_self) (by decide)
  · rfl

theorem integer?_eq_some_iff_of_splitSign {text body : List Char} {negative : Bool}
    (sign : splitSign text = (negative, body)) {value : Int} :
    integer? text = some value ↔
      ∃ number, natural? body = some number ∧
        (if negative then -number else number : Int) = value := by
  simp [integer?, sign, Option.bind_eq_some_iff]

theorem integer?_eq_some_iff {text : List Char} {value : Int} :
    integer? text = some value ↔ Denotes text value := by
  constructor
  · intro read
    obtain ⟨⟨negative, body⟩, sign⟩ : ∃ signed, splitSign text = signed := ⟨_, rfl⟩
    obtain ⟨number, magnitude, rfl⟩ := (integer?_eq_some_iff_of_splitSign sign).1 read
    obtain ⟨run, rfl⟩ := natural?_eq_some_iff.1 magnitude
    unfold splitSign at sign
    split at sign
    · cases sign
      exact .negative run
    · cases sign
      exact .positive run
    · cases sign
      exact .unsigned run
  · intro denotes
    cases denotes with
    | unsigned run =>
        rw [integer?_eq_some_iff_of_splitSign run.splitSign_eq]
        exact ⟨_, natural?_eq_some_iff.2 ⟨run, rfl⟩, rfl⟩
    | positive run =>
        rw [integer?_eq_some_iff_of_splitSign rfl]
        exact ⟨_, natural?_eq_some_iff.2 ⟨run, rfl⟩, rfl⟩
    | negative run =>
        rw [integer?_eq_some_iff_of_splitSign rfl]
        exact ⟨_, natural?_eq_some_iff.2 ⟨run, rfl⟩, rfl⟩

/-- Text is read as an integer of 64 bits exactly if it denotes that integer. -/
theorem int64?_eq_some_iff {text : List Char} {value : Int64} :
    int64? text = some value ↔ Denotes text value.toInt := by
  simp [int64?, Option.bind_eq_some_iff, integer?_eq_some_iff, int64OfInt?_eq_some_iff]

/-! ## Separators -/

/-- Text into which underscores have been put, any number of them and at any places. -/
inductive Separates : List Char → List Char → Prop
  | nil : Separates [] []
  | keep {plain text : List Char} (c : Char) :
      Separates plain text → Separates (c :: plain) (c :: text)
  | separator {plain text : List Char} : Separates plain text → Separates plain ('_' :: text)

theorem Separates.refl (text : List Char) : Separates text text := by
  induction text with
  | nil => exact .nil
  | cons c rest ih => exact .keep c ih

/-- Any text comes from what remains without its underscores. -/
theorem separates_filter (text : List Char) : Separates (text.filter (· != '_')) text := by
  induction text with
  | nil => exact .nil
  | cons c rest ih =>
      by_cases separator : c = '_'
      · subst separator
        exact .separator ih
      · rw [List.filter_cons, if_pos (bne_iff_ne.2 separator)]
        exact .keep c ih

/-- What remains without underscores does not depend on how many were put in. -/
theorem Separates.filter_eq {plain text : List Char} (separates : Separates plain text) :
    plain.filter (· != '_') = text.filter (· != '_') := by
  induction separates with
  | nil => rfl
  | keep c _ ih => rw [List.filter_cons, List.filter_cons, ih]
  | separator _ ih => exact ih

theorem IsRun.filter_eq {text : List Char} (run : IsRun text) :
    text.filter (· != '_') = text := by
  refine List.filter_eq_self.2 fun c member => bne_iff_ne.2 ?_
  rintro rfl
  exact absurd (run.digits '_' member) (by decide)

end Numeral

namespace Value

open Numeral

/-! ## Numeric literals -/

/-- A literal has a value exactly if its text without underscores is read, first as an integer of
64 bits and then as a double. -/
theorem ofNumeral_eq_ok_iff {text : String} {value : Value} :
    ofNumeral text = .ok value ↔
      (∃ whole, Numeral.int64? (text.toList.filter (· != '_')) = some whole ∧
        value = .integer whole) ∨
      Numeral.int64? (text.toList.filter (· != '_')) = none ∧
        ∃ nearest, Numeral.float? (text.toList.filter (· != '_')) = some nearest ∧
          value = number nearest := by
  cases whole : Numeral.int64? (text.toList.filter (· != '_')) <;>
    cases nearest : Numeral.float? (text.toList.filter (· != '_')) <;>
      simp [ofNumeral, whole, nearest, eq_comm]

/-- An error shows the text with its underscores. -/
theorem ofNumeral_eq_error {text : String} {error : FoldError}
    (failed : ofNumeral text = .error error) : error = .invalidNumber text := by
  simp only [ofNumeral] at failed
  split at failed
  · cases failed
  · split at failed
    · cases failed
    · cases failed
      rfl

/-- Digits whose number fits 64 bits are read as this number, with any underscores among them. -/
theorem ofNumeral_of_isRun {plain : List Char} {text : String} {value : Int64} (run : IsRun plain)
    (separates : Separates plain text.toList)
    (same : (Nat.ofDigitChars 10 plain 0 : Int) = value.toInt) :
    ofNumeral text = .ok (.integer value) := by
  have denotes : Denotes plain value.toInt := same ▸ .unsigned run
  rw [ofNumeral_eq_ok_iff, ← separates.filter_eq, run.filter_eq]
  exact .inl ⟨value, int64?_eq_some_iff.2 denotes, rfl⟩

/-- An integer that is not negative is read back from its digits. -/
theorem ofNumeral_repr {number : Nat} {value : Int64} (same : (number : Int) = value.toInt) :
    ofNumeral number.repr = .ok (.integer value) := by
  apply ofNumeral_of_isRun (isRun_toDigits number)
  · rw [Nat.toList_repr]
    exact .refl _
  · rw [Nat.ofDigitChars_ten_toDigits, same]

/-- A negative integer is the negative of what is read from the digits of its magnitude. -/
theorem negate_ofNumeral_repr {value : Int64} (negative : value.toInt < 0) :
    (ofNumeral value.toInt.natAbs.repr >>= negate) = .ok (.integer value) := by
  cases found : int64OfInt? (-value.toInt) with
  | none =>
      obtain rfl := eq_minValue_of_overflow found
      rfl
  | some magnitude =>
      have opposite : -value.toInt = magnitude.toInt := int64OfInt?_eq_some_iff.1 found
      have read : ofNumeral value.toInt.natAbs.repr = .ok (.integer magnitude) :=
        ofNumeral_repr (by omega)
      have back : int64OfInt? (-magnitude.toInt) = some value :=
        int64OfInt?_eq_some_iff.2 (by omega)
      simp only [read, ok_bind, negate, back]

/-- Integers are exact in every spelling, and underscores make no difference anywhere: not to the
value of a literal, nor to whether it has one. An error shows them as they were written. -/
theorem ofNumeral_ignores_separators :
    (∀ (number zeros : Nat) (text : String), (number : Int) ≤ Int64.maxValue.toInt →
      Separates (List.replicate zeros '0' ++ Nat.toDigits 10 number) text.toList →
        ∃ value : Int64, value.toInt = number ∧ ofNumeral text = .ok (.integer value)) ∧
    (∀ (text : String) (error : FoldError),
      ofNumeral text = .error error → error = .invalidNumber text) ∧
    ∀ plain text : String, Separates plain.toList text.toList →
      ∀ value, ofNumeral plain = .ok value ↔ ofNumeral text = .ok value := by
  refine ⟨?_, fun _ _ => ofNumeral_eq_error, ?_⟩
  · intro number zeros text fits separates
    have exact : (Int64.ofNat number).toInt = number := by
      apply Int64.toInt_ofNat_of_lt
      rw [Int64.toInt_maxValue] at fits
      omega
    refine ⟨Int64.ofNat number, exact, ?_⟩
    apply ofNumeral_of_isRun ((isRun_toDigits number).zeros_append zeros) separates
    rw [Nat.ofDigitChars_append, Nat.ofDigitChars_replicate_zero, Nat.mul_zero,
      Nat.ofDigitChars_ten_toDigits, exact]
  · intro plain text separates value
    rw [ofNumeral_eq_ok_iff, ofNumeral_eq_ok_iff, separates.filter_eq]

/-- The greatest integer after two zeros, with underscores at both ends and between its digits; a
literal that is refused; and one that is read as a double, with underscores around its marker. -/
theorem ofNumeral_ignores_separators_maxValue :
    ((9223372036854775807 : Nat) ≤ Int64.maxValue.toInt ∧
      Separates (List.replicate 2 '0' ++ Nat.toDigits 10 9223372036854775807)
        "_00_9__223372036854775807_".toList ∧
      ofNumeral "_00_9__223372036854775807_" = .ok (.integer Int64.maxValue)) ∧
    (ofNumeral "0_x_1" = .error (.invalidNumber "0_x_1")) ∧
    Separates "1e3".toList "1_e__3".toList ∧ ofNumeral "1e3" = .ok (.integer 1000) ∧
      ofNumeral "1_e__3" = .ok (.integer 1000) := by
  obtain ⟨exact, refused, kept⟩ := ofNumeral_ignores_separators
  have digits : Separates (List.replicate 2 '0' ++ Nat.toDigits 10 9223372036854775807)
      "_00_9__223372036854775807_".toList := by
    have plain : List.replicate 2 '0' ++ Nat.toDigits 10 9223372036854775807 =
        "_00_9__223372036854775807_".toList.filter (· != '_') := by decide +kernel
    exact plain ▸ separates_filter _
  have spaced : Separates "1e3".toList "1_e__3".toList := by
    have plain : "1e3".toList = "1_e__3".toList.filter (· != '_') := by decide +kernel
    exact plain ▸ separates_filter _
  have thousand : ofNumeral "1e3" = .ok (.integer 1000) := by rfl
  refine ⟨⟨by decide, digits, ?_⟩, ?_, spaced, thousand, (kept _ _ spaced _).1 thousand⟩
  · obtain ⟨value, same, read⟩ := exact _ _ _ (by decide) digits
    obtain rfl : value = Int64.maxValue := Int64.toInt_inj.1 same
    exact read
  · cases failed : ofNumeral "0_x_1" with
    | ok value => cases failed
    | error error => rw [refused _ _ failed]

end Value

end SyntaxFold
