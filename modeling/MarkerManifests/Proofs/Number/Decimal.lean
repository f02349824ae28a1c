import MarkerManifests.Number.Integer

/-!
# Decimal texts of integers

The digits of a natural number end with its last digit and begin with a zero only if the number
is zero. So the decimal text of a 64-bit integer reads back as the integer.
-/

namespace MarkerManifests
namespace Decimal

theorem digit?_digitChar {digit : Nat} (small : digit < 10) :
    digit? (Nat.digitChar digit) = some digit := by
  have all : ∀ digit < 10, digit? (Nat.digitChar digit) = some digit := by decide
  exact all digit small

theorem digits_of_lt {value : Nat} (small : value < 10) :
    digits value = [Nat.digitChar value] :=
  Nat.toDigits_of_lt_base small

theorem digits_of_le {value : Nat} (large : 10 ≤ value) :
    digits value = digits (value / 10) ++ [Nat.digitChar (value % 10)] :=
  Nat.toDigits_of_base_le (by decide) large

/-- Digits are those of one number after another digit. -/
theorem digits_induction
    (property : Nat → List Char → Prop)
    (single : ∀ digit, digit < 10 → property digit [Nat.digitChar digit])
    (append : ∀ value digit, 0 < value → digit < 10 → property value (digits value) →
      property (value * 10 + digit) (digits value ++ [Nat.digitChar digit]))
    (value : Nat) :
    property value (digits value) := by
  induction value using Nat.strongRecOn with
  | ind value inductionHypothesis =>
      by_cases small : value < 10
      · rw [digits_of_lt small]
        exact single value small
      · rw [digits_of_le (Nat.le_of_not_lt small)]
        have extended := append (value / 10) (value % 10) (by omega) (by omega)
          (inductionHypothesis (value / 10) (by omega))
        rwa [show value / 10 * 10 + value % 10 = value by omega] at extended

theorem exists_digit_of_mem_digits
    {value : Nat}
    {character : Char}
    (member : character ∈ digits value) :
    ∃ digit, digit < 10 ∧ character = Nat.digitChar digit := by
  revert member
  refine digits_induction (fun _ text => character ∈ text →
    ∃ digit, digit < 10 ∧ character = Nat.digitChar digit) ?_ ?_ value
  · intro digit small member
    exact ⟨digit, small, List.mem_singleton.mp member⟩
  · intro value digit _ small before member
    rcases List.mem_append.mp member with inFront | last
    · exact before inFront
    · exact ⟨digit, small, List.mem_singleton.mp last⟩

/-- The digits of a number begin with a digit, which is zero for zero only. -/
theorem digits_eq_cons (value : Nat) :
    ∃ digit rest, digit < 10 ∧ digits value = Nat.digitChar digit :: rest ∧
      (digit = 0 → value = 0 ∧ rest = []) := by
  refine digits_induction (fun value text => ∃ digit rest, digit < 10 ∧
    text = Nat.digitChar digit :: rest ∧ (digit = 0 → value = 0 ∧ rest = [])) ?_ ?_ value
  · intro digit small
    exact ⟨digit, [], small, rfl, fun zero => ⟨zero, rfl⟩⟩
  · intro value digit positive small found
    obtain ⟨first, rest, smallFirst, shape, zero⟩ := found
    refine ⟨first, rest ++ [Nat.digitChar digit], smallFirst, by rw [shape]; rfl, ?_⟩
    exact fun isZero => absurd (zero isZero).1 (Nat.ne_of_gt positive)

theorem digits_ne_nil (value : Nat) : digits value ≠ [] :=
  Nat.toDigits_ne_nil

end Decimal

namespace Integer

open Decimal

/-! ## Digits -/

theorem readDigits_append
    {limit : Nat}
    {overflow : Fault}
    {value middle : Nat}
    {text : List Char}
    (isRead : readDigits limit overflow value text = .ok middle)
    (rest : List Char) :
    readDigits limit overflow value (text ++ rest) =
      readDigits limit overflow middle rest := by
  induction text generalizing value with
  | nil =>
      cases isRead
      rfl
  | cons character text inductionHypothesis =>
      rw [List.cons_append, readDigits]
      rw [readDigits] at isRead
      split at isRead
      · cases isRead
      · split at isRead
        · rename_i fits
          rw [if_pos fits]
          exact inductionHypothesis isRead
        · cases isRead

theorem readDigits_digit
    {limit value digit : Nat}
    (overflow : Fault)
    (small : digit < 10)
    (fits : value * 10 + digit ≤ limit) :
    readDigits limit overflow value [Nat.digitChar digit] = .ok (value * 10 + digit) := by
  rw [readDigits, digit?_digitChar small]
  dsimp only
  rw [if_pos fits, readDigits]

/-- The digits of a number within the limit are read as the number. -/
theorem readDigits_digits
    {limit value : Nat}
    (overflow : Fault)
    (fits : value ≤ limit) :
    readDigits limit overflow 0 (digits value) = .ok value := by
  revert fits
  refine digits_induction (fun value text =>
    value ≤ limit → readDigits limit overflow 0 text = .ok value) ?_ ?_ value
  · intro digit small fits
    have single := readDigits_digit overflow small (by omega : 0 * 10 + digit ≤ limit)
    rwa [Nat.zero_mul, Nat.zero_add] at single
  · intro value digit _ small before fits
    rw [readDigits_append (before (by omega)), readDigits_digit overflow small fits]

theorem readMagnitude_digits
    {limit value : Nat}
    (overflow : Fault)
    (fits : value ≤ limit) :
    readMagnitude limit overflow (digits value) = .ok value := by
  rw [readMagnitude, if_neg (digits_ne_nil value), readDigits_digits overflow fits]

/-! ## Signed integers -/

/-- The magnitude of the least integer of 64 bits. -/
theorem pow_two_63_eq : Nat.pow 2 63 = 9223372036854775808 := rfl

/-- The decimal text of an integer reads back as the integer. -/
@[simp] theorem read_render (value : Int64) : read (render value) = .ok value := by
  have lower := value.le_toInt
  have upper := value.toInt_lt
  rw [render, integer]
  split
  · rename_i isNegative
    have magnitude : value.toInt.natAbs ≤ Nat.pow 2 63 := by
      rw [pow_two_63_eq]
      omega
    have signed : -(value.toInt.natAbs : Int) = value.toInt := by omega
    rw [read, readMagnitude_digits _ magnitude]
    exact congrArg Except.ok ((congrArg Int64.ofInt signed).trans (Int64.ofInt_toInt value))
  · rename_i notNegative
    have magnitude : value.toInt.natAbs ≤ Nat.pow 2 63 - 1 := by
      rw [pow_two_63_eq]
      omega
    have unsigned : (value.toInt.natAbs : Int) = value.toInt := by omega
    obtain ⟨digit, rest, small, shape, -⟩ := digits_eq_cons value.toInt.natAbs
    have notSign : ∀ digit < 10, Nat.digitChar digit ≠ '-' ∧ Nat.digitChar digit ≠ '+' := by
      decide
    unfold read
    split
    · rename_i empty
      exact absurd empty (digits_ne_nil _)
    · rename_i isMinus
      rw [shape] at isMinus
      exact absurd (List.cons.inj isMinus).1 (notSign digit small).1
    · rename_i isPlus
      rw [shape] at isPlus
      exact absurd (List.cons.inj isPlus).1 (notSign digit small).2
    · rw [readMagnitude_digits _ magnitude]
      exact congrArg Except.ok ((congrArg Int64.ofInt unsigned).trans (Int64.ofInt_toInt value))

/-- Decimal texts consist of digits and signs. -/
theorem mem_integer
    {value : Int}
    {character : Char}
    (member : character ∈ integer value) :
    character = '-' ∨ ∃ digit, digit < 10 ∧ character = Nat.digitChar digit := by
  rw [integer] at member
  split at member
  · rcases List.mem_cons.mp member with isSign | isDigit
    · exact Or.inl isSign
    · exact Or.inr (exists_digit_of_mem_digits isDigit)
  · exact Or.inr (exists_digit_of_mem_digits member)

end Integer
end MarkerManifests
