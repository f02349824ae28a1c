import MarkerManifests.Number.Reader
import MarkerManifests.Proofs.Number.Decimal
import MarkerManifests.Proofs.Text.Cutting

/-!
# Numbers and their texts

A number at the start of a text ends where a character follows that belongs to no number, so what
was read from a whole text is also read when such a text follows. Natural numbers and negative
integers read back from their decimal texts; whether a double does depends on its shortest text.
-/

namespace MarkerManifests
namespace Number

/-! ## Where numbers end -/

/-- The text does not begin with a character that goes on with a number. -/
def Ends (text : List Char) : Prop :=
  ∀ first ∈ text.head?, Decimal.digit? first = none ∧ first ≠ '.' ∧ first ≠ 'e' ∧ first ≠ 'E'

theorem ends_nil : Ends [] :=
  fun _ isFirst => nomatch isFirst

theorem Ends.not_startsWithDigit
    {rest : List Char}
    (ends : Ends rest) :
    startsWithDigit rest = false := by
  cases rest with
  | nil => rfl
  | cons first others => simp [startsWithDigit, (ends first rfl).1]

variable {text rest left : List Char}

theorem startsWithDigit_append
    (text : List Char)
    (ends : Ends rest) :
    startsWithDigit (text ++ rest) = startsWithDigit text := by
  cases text with
  | nil => exact ends.not_startsWithDigit
  | cons first others => rfl

theorem collect_append
    {limit value taken collected count : Nat}
    (ends : Ends rest)
    (isCollected : collect limit value taken text = (collected, count, left)) :
    collect limit value taken (text ++ rest) = (collected, count, left ++ rest) := by
  induction text generalizing value taken with
  | nil =>
      cases isCollected
      cases rest with
      | nil => rfl
      | cons first others =>
          rw [List.nil_append, collect, (ends first rfl).1]
  | cons character text inductionHypothesis =>
      rw [List.cons_append, collect]
      rw [collect] at isCollected
      split at isCollected
      · cases isCollected
        rfl
      · split at isCollected
        · rename_i fits
          rw [if_pos fits]
          exact inductionHypothesis isCollected
        · rename_i exceeds
          rw [if_neg exceeds]
          cases isCollected
          rfl

theorem skipDigits_append
    (text : List Char)
    (ends : Ends rest) :
    skipDigits (text ++ rest) = ((skipDigits text).1, (skipDigits text).2 ++ rest) := by
  induction text with
  | nil =>
      cases rest with
      | nil => rfl
      | cons first others => simp [skipDigits, (ends first rfl).1]
  | cons character text inductionHypothesis =>
      cases isDigit : (Decimal.digit? character).isSome with
      | false => simp [skipDigits, isDigit]
      | true =>
          simp only [skipDigits, Prod.mk.injEq] at inductionHypothesis
          simp [skipDigits, isDigit, inductionHypothesis]

/-! ## Readers that stop where numbers end -/

/-- What the reader reads from a text, it reads when a text follows that goes on with no number. -/
def Prefixed {Value : Type} (read : List Char → Except Stop (Value × List Char)) : Prop :=
  ∀ ⦃text value left⦄, read text = .ok (value, left) →
    ∀ ⦃rest⦄, Ends rest → read (text ++ rest) = .ok (value, left ++ rest)

theorem Prefixed.map
    {Value Other : Type}
    {read : List Char → Except Stop (Value × List Char)}
    (prefixed : Prefixed read)
    (function : Value × List Char → Other × List Char)
    (onValue : ∀ value left rest, function (value, left ++ rest) =
      ((function (value, left)).1, (function (value, left)).2 ++ rest)) :
    Prefixed fun text => (read text).map function := by
  intro text value left isRead rest ends
  obtain ⟨⟨found, foundLeft⟩, isFound, same⟩ := Except.exists_of_map_eq_ok isRead
  have followed := prefixed isFound ends
  dsimp only
  rw [followed]
  exact congrArg Except.ok (by rw [onValue, same])

theorem prefixed_finish (significand : Nat) (exponent : Int) :
    Prefixed (finish significand exponent) := by
  intro text value left isRead rest ends
  unfold finish at isRead ⊢
  split at isRead
  · cases isRead
    rfl
  · cases isRead

theorem prefixed_readExponentDigits
    (significand : Nat)
    (exponent : Int)
    (positive : Bool) :
    Prefixed (readExponentDigits significand exponent positive) := by
  intro text value left isRead rest ends
  cases text with
  | nil => cases isRead
  | cons character others =>
      rw [List.cons_append, readExponentDigits]
      rw [readExponentDigits] at isRead
      split at isRead
      · split at isRead <;> cases isRead
      · rename_i digit _
        cases collected : collect greatestExponent digit 0 others with
        | mk written remaining =>
            obtain ⟨count, after⟩ := remaining
            rw [collected] at isRead
            rw [collect_append ends collected]
            dsimp only at isRead ⊢
            rw [startsWithDigit_append after ends]
            split at isRead
            · rename_i startsDigit
              rw [if_pos startsDigit]
              cases after with
              | nil => cases startsDigit
              | cons first more =>
                  split at isRead
                  · cases isRead
                  · rename_i inRange
                    rw [if_neg inRange]
                    cases isRead
                    rw [List.cons_append, List.tail_cons, skipDigits_append more ends]
                    rfl
            · rename_i noDigit
              rw [if_neg noDigit]
              exact prefixed_finish _ _ isRead ends

/-- A mark that the text does not begin with does not begin a longer text either. -/
theorem append_ne_cons
    {mark : Char}
    (ends : Ends rest)
    (isMark : mark = '.' ∨ mark = 'e' ∨ mark = 'E')
    (absent : ∀ tail, text = mark :: tail → False) :
    ∀ tail, text ++ rest = mark :: tail → False := by
  intro tail begins
  cases text with
  | nil =>
      rw [List.nil_append] at begins
      subst begins
      obtain ⟨-, noPoint, noSmall, noLarge⟩ := ends mark rfl
      rcases isMark with isPoint | isSmall | isLarge
      · exact noPoint isPoint
      · exact noSmall isSmall
      · exact noLarge isLarge
  | cons first others => exact absent others (by rw [(List.cons.inj begins).1])

theorem prefixed_readExponent (significand : Nat) (exponent : Int) :
    Prefixed (readExponent significand exponent) := by
  intro text value left isRead rest ends
  have digits := fun positive => prefixed_readExponentDigits significand exponent positive
  -- after the letter there is a character, since digits have to follow
  have unsigned : ∀ {letter others}, letter = 'e' ∨ letter = 'E' →
      (∀ tail, others = '+' :: tail → False) → (∀ tail, others = '-' :: tail → False) →
        readExponentDigits significand exponent true others = .ok (value, left) →
          readExponent significand exponent (letter :: (others ++ rest)) =
            .ok (value, left ++ rest) := by
    intro letter others isLetter noPlus noMinus isRead
    cases others with
    | nil => cases isRead
    | cons first more =>
        have noPlusAfter : ∀ tail, first :: more ++ rest = '+' :: tail → False :=
          fun tail begins => noPlus more (by rw [(List.cons.inj begins).1])
        have noMinusAfter : ∀ tail, first :: more ++ rest = '-' :: tail → False :=
          fun tail begins => noMinus more (by rw [(List.cons.inj begins).1])
        rcases isLetter with rfl | rfl
        · rw [readExponent.eq_3 _ _ _ noPlusAfter noMinusAfter]
          exact digits true isRead ends
        · rw [readExponent.eq_6 _ _ _ noPlusAfter noMinusAfter]
          exact digits true isRead ends
  unfold readExponent at isRead
  split at isRead
  · exact digits true isRead ends
  · exact digits false isRead ends
  · rename_i others noPlus noMinus
    exact unsigned (Or.inl rfl) noPlus noMinus isRead
  · exact digits true isRead ends
  · exact digits false isRead ends
  · rename_i others noPlus noMinus
    exact unsigned (Or.inr rfl) noPlus noMinus isRead
  · rename_i _ _ noSmall _ _ noLarge
    have noSmallAfter := append_ne_cons ends (Or.inr (Or.inl rfl)) noSmall
    have noLargeAfter := append_ne_cons ends (Or.inr (Or.inr rfl)) noLarge
    rw [readExponent.eq_7 _ _ _ (fun _ => noSmallAfter _) (fun _ => noSmallAfter _)
      noSmallAfter (fun _ => noLargeAfter _) (fun _ => noLargeAfter _) noLargeAfter]
    exact prefixed_finish _ _ isRead ends

theorem prefixed_readFraction (significand : Nat) (exponent : Int) :
    Prefixed (readFraction significand exponent) := by
  intro text value left isRead rest ends
  unfold readFraction at isRead ⊢
  cases collected : collect greatestNatural significand 0 text with
  | mk digits remaining =>
      obtain ⟨count, after⟩ := remaining
      rw [collected] at isRead
      rw [collect_append ends collected]
      dsimp only at isRead ⊢
      rw [startsWithDigit_append after ends]
      split at isRead
      · rename_i startsDigit
        rw [if_pos startsDigit, skipDigits_append after ends]
        exact prefixed_readExponent _ _ isRead ends
      · rename_i noDigit
        rw [if_neg noDigit]
        split at isRead
        · cases isRead
        · rename_i someDigit
          rw [if_neg someDigit]
          exact prefixed_readExponent _ _ isRead ends

theorem prefixed_readAfterLong (significand dropped : Nat) :
    Prefixed (readAfterLong significand dropped) := by
  intro text value left isRead rest ends
  unfold readAfterLong at isRead
  split at isRead
  · exact prefixed_readFraction _ _ isRead ends
  · rename_i noPoint
    rw [readAfterLong.eq_2 _ _ _ (append_ne_cons ends (Or.inl rfl) noPoint)]
    exact prefixed_readExponent _ _ isRead ends

theorem prefixed_ofDouble
    {read : List Char → Except Stop (Double × List Char)}
    (prefixed : Prefixed read)
    (positive : Bool) :
    Prefixed fun text => (read text).map (ofDouble positive) :=
  prefixed.map (ofDouble positive) fun _ _ _ => rfl

theorem prefixed_readAfterInteger (positive : Bool) (significand : Nat) :
    Prefixed (readAfterInteger positive significand) := by
  intro text value left isRead rest ends
  unfold readAfterInteger at isRead
  split at isRead
  · exact prefixed_ofDouble (prefixed_readFraction _ _) positive isRead ends
  · exact prefixed_ofDouble (prefixed_readExponent _ _) positive isRead ends
  · exact prefixed_ofDouble (prefixed_readExponent _ _) positive isRead ends
  · rename_i noPoint noSmall noLarge
    rw [readAfterInteger.eq_4 _ _ _ (append_ne_cons ends (Or.inl rfl) noPoint)
      (append_ne_cons ends (Or.inr (Or.inl rfl)) noSmall)
      (append_ne_cons ends (Or.inr (Or.inr rfl)) noLarge)]
    split at isRead
    · rename_i isPositive
      rw [if_pos isPositive]
      cases isRead
      rfl
    · rename_i isNegative
      rw [if_neg isNegative]
      cases isRead
      rfl

theorem prefixed_readUnsigned (positive : Bool) :
    Prefixed (readUnsigned positive) := by
  intro text value left isRead rest ends
  unfold readUnsigned at isRead
  split at isRead
  · cases isRead
  · rename_i others
    rw [List.cons_append, readUnsigned, startsWithDigit_append others ends]
    split at isRead
    · cases isRead
    · rename_i noDigit
      rw [if_neg noDigit]
      exact prefixed_readAfterInteger _ _ isRead ends
  · rename_i character others notZero
    rw [List.cons_append, readUnsigned.eq_3 _ _ _ notZero]
    split at isRead
    · split at isRead <;> cases isRead
    · rename_i digit _
      cases collected : collect greatestNatural digit 0 others with
      | mk significand remaining =>
          obtain ⟨count, after⟩ := remaining
          rw [collected] at isRead
          rw [collect_append ends collected]
          dsimp only at isRead ⊢
          rw [startsWithDigit_append after ends]
          split at isRead
          · rename_i startsDigit
            rw [if_pos startsDigit, skipDigits_append after ends]
            exact prefixed_ofDouble (prefixed_readAfterLong _ _) positive isRead ends
          · rename_i noDigit
            rw [if_neg noDigit]
            exact prefixed_readAfterInteger _ _ isRead ends

/-- What is read as a number from a text is read when a text follows that goes on with no
number. -/
theorem prefixed_readPrefix : Prefixed readPrefix := by
  intro text value left isRead rest ends
  unfold readPrefix at isRead
  split at isRead
  · cases isRead
  · exact prefixed_readUnsigned _ isRead ends
  · rename_i nonempty noMinus
    split at isRead
    · rename_i startsDigit
      have nonemptyAfter : text ++ rest = [] → False :=
        fun empty => nonempty (List.append_eq_nil_iff.mp empty).1
      have noMinusAfter : ∀ tail, text ++ rest = '-' :: tail → False := by
        intro tail begins
        obtain ⟨first, others, rfl⟩ := List.exists_cons_of_ne_nil nonempty
        exact noMinus others (by rw [(List.cons.inj begins).1])
      rw [readPrefix.eq_3 _ nonemptyAfter noMinusAfter, startsWithDigit_append text ends,
        if_pos startsDigit]
      exact prefixed_readUnsigned _ isRead ends
    · cases isRead

theorem readPrefix_of_read
    {number : Number}
    (isRead : read text = .ok number) :
    readPrefix text = .ok (number, []) := by
  unfold read at isRead
  dsimp only at isRead
  split at isRead
  · rename_i found
    cases isRead
    exact found
  · cases isRead
  · split at isRead <;> cases isRead

theorem read_of_readPrefix
    {number : Number}
    (isRead : readPrefix text = .ok (number, [])) :
    read text = .ok number := by
  rw [read, isRead]

/-! ## Numbers that are read -/

/-- Whether a number is kept the way in which numbers are read: only integers below zero are kept
as negative integers. -/
def IsNormal : Number → Prop
  | negative value => value < 0
  | natural _ => True
  | double _ => True

theorem greatestNatural_eq : greatestNatural = 18446744073709551615 := rfl

theorem isNormal_ofNegated (magnitude : Nat) : (ofNegated magnitude).IsNormal := by
  unfold ofNegated
  split
  · rename_i fits
    rw [Integer.pow_two_63_eq] at fits
    have inRange : (Int64.ofInt (-(magnitude : Int))).toInt = -(magnitude : Int) :=
      Int64.toInt_ofInt_of_le (by omega) (by omega)
    rw [IsNormal, Int64.lt_iff_toInt_lt, inRange]
    exact (by omega : -(magnitude : Int) < 0)
  · trivial

theorem isNormal_of_map_ofDouble
    {result : Except Stop (Double × List Char)}
    {positive : Bool}
    {number : Number}
    (isRead : result.map (ofDouble positive) = .ok (number, left)) :
    number.IsNormal := by
  obtain ⟨⟨value, after⟩, -, same⟩ := Except.exists_of_map_eq_ok isRead
  cases same
  trivial

theorem isNormal_of_readAfterInteger
    {positive : Bool}
    {significand : Nat}
    {number : Number}
    (isRead : readAfterInteger positive significand text = .ok (number, left)) :
    number.IsNormal := by
  unfold readAfterInteger at isRead
  split at isRead
  · exact isNormal_of_map_ofDouble isRead
  · exact isNormal_of_map_ofDouble isRead
  · exact isNormal_of_map_ofDouble isRead
  · split at isRead
    · cases isRead
      trivial
    · cases isRead
      exact isNormal_ofNegated significand

theorem isNormal_of_readUnsigned
    {positive : Bool}
    {number : Number}
    (isRead : readUnsigned positive text = .ok (number, left)) :
    number.IsNormal := by
  unfold readUnsigned at isRead
  split at isRead
  · cases isRead
  · split at isRead
    · cases isRead
    · exact isNormal_of_readAfterInteger isRead
  · split at isRead
    · split at isRead <;> cases isRead
    · dsimp only at isRead
      split at isRead
      · exact isNormal_of_map_ofDouble isRead
      · exact isNormal_of_readAfterInteger isRead

/-- Numbers that are read are kept that way. -/
theorem isNormal_of_readPrefix
    {number : Number}
    (isRead : readPrefix text = .ok (number, left)) :
    number.IsNormal := by
  unfold readPrefix at isRead
  split at isRead
  · cases isRead
  · exact isNormal_of_readUnsigned isRead
  · split at isRead
    · exact isNormal_of_readUnsigned isRead
    · cases isRead

/-! ## Reading written integers -/

theorem collect_append_of_all
    {limit value taken collected count : Nat}
    (isCollected : collect limit value taken text = (collected, count, []))
    (rest : List Char) :
    collect limit value taken (text ++ rest) = collect limit collected count rest := by
  induction text generalizing value taken with
  | nil =>
      cases isCollected
      rfl
  | cons character text inductionHypothesis =>
      rw [List.cons_append, collect]
      rw [collect] at isCollected
      split at isCollected
      · cases isCollected
      · split at isCollected
        · rename_i fits
          rw [if_pos fits]
          exact inductionHypothesis isCollected
        · cases isCollected

/-- The digits after the first one complete the number. -/
theorem collect_digits
    {limit value : Nat}
    (fits : value ≤ limit) :
    ∃ digit rest, digit < 10 ∧ Decimal.digits value = Nat.digitChar digit :: rest ∧
      (digit = 0 → value = 0 ∧ rest = []) ∧
      ∀ taken, ∃ count, collect limit digit taken rest = (value, count, []) := by
  revert fits
  refine Decimal.digits_induction (fun value text => value ≤ limit →
    ∃ digit rest, digit < 10 ∧ text = Nat.digitChar digit :: rest ∧
      (digit = 0 → value = 0 ∧ rest = []) ∧
      ∀ taken, ∃ count, collect limit digit taken rest = (value, count, [])) ?_ ?_ value
  · intro digit small _
    exact ⟨digit, [], small, rfl, fun zero => ⟨zero, rfl⟩, fun taken => ⟨taken, rfl⟩⟩
  · intro value last positive small before fits
    obtain ⟨digit, rest, smallFirst, shape, zero, collects⟩ := before (by omega)
    refine ⟨digit, rest ++ [Nat.digitChar last], smallFirst, by rw [shape]; rfl, ?_, ?_⟩
    · exact fun isZero => absurd (zero isZero).1 (Nat.ne_of_gt positive)
    · intro taken
      obtain ⟨count, collected⟩ := collects taken
      refine ⟨count + 1, ?_⟩
      rw [collect_append_of_all collected, collect, Decimal.digit?_digitChar small]
      dsimp only
      rw [if_pos fits, collect]

theorem readUnsigned_digits
    {value : Nat}
    (positive : Bool)
    (fits : value ≤ greatestNatural) :
    readUnsigned positive (Decimal.digits value) =
      .ok (if positive then natural value.toUInt64 else ofNegated value, []) := by
  have complete : ∀ value, readAfterInteger positive value [] =
      .ok (if positive then natural value.toUInt64 else ofNegated value, []) := by
    intro value
    cases positive <;> rfl
  obtain ⟨digit, rest, small, shape, zero, collects⟩ := collect_digits fits
  by_cases isZero : digit = 0
  · obtain ⟨valueZero, restNil⟩ := zero isZero
    subst isZero valueZero restNil
    rw [shape]
    exact complete 0
  · have notZero : Nat.digitChar digit = '0' → False := by
      have all : ∀ digit < 10, digit ≠ 0 → Nat.digitChar digit ≠ '0' := by decide
      exact all digit small isZero
    obtain ⟨count, collected⟩ := collects 0
    rw [shape, readUnsigned.eq_3 _ _ _ notZero, Decimal.digit?_digitChar small]
    dsimp only
    rw [collected]
    exact complete value

theorem startsWithDigit_digits (value : Nat) :
    startsWithDigit (Decimal.digits value) = true := by
  obtain ⟨digit, rest, small, shape, -⟩ := Decimal.digits_eq_cons value
  rw [shape, startsWithDigit, Decimal.digit?_digitChar small]
  rfl

theorem readPrefix_digits
    {value : Nat}
    (fits : value ≤ greatestNatural) :
    readPrefix (Decimal.digits value) = .ok (natural value.toUInt64, []) := by
  obtain ⟨digit, rest, small, shape, -⟩ := Decimal.digits_eq_cons value
  have noMinus : ∀ tail, Decimal.digits value = '-' :: tail → False := by
    intro tail begins
    rw [shape] at begins
    have all : ∀ digit < 10, Nat.digitChar digit ≠ '-' := by decide
    exact all digit small (List.cons.inj begins).1
  rw [readPrefix.eq_3 _ (Decimal.digits_ne_nil value) noMinus,
    if_pos (startsWithDigit_digits value), readUnsigned_digits true fits]
  rfl

theorem ofNegated_natAbs
    {value : Int64}
    (isNegative : value < 0) :
    ofNegated value.toInt.natAbs = negative value := by
  have below : value.toInt < 0 := Int64.lt_iff_toInt_lt.mp isNegative
  have lower := value.le_toInt
  have signed : -(value.toInt.natAbs : Int) = value.toInt := by omega
  rw [ofNegated, if_pos (by rw [Integer.pow_two_63_eq]; omega), signed, Int64.ofInt_toInt]

theorem readPrefix_integer
    {value : Int64}
    (isNegative : value < 0) :
    readPrefix (Decimal.integer value.toInt) = .ok (negative value, []) := by
  have below : value.toInt < 0 := Int64.lt_iff_toInt_lt.mp isNegative
  have lower := value.le_toInt
  have fits : value.toInt.natAbs ≤ greatestNatural := by
    rw [greatestNatural_eq]
    omega
  rw [Decimal.integer, if_pos below, readPrefix, readUnsigned_digits false fits,
    if_neg Bool.false_ne_true, ofNegated_natAbs isNegative]

end Number

/-- The text of the double reads back as the double. -/
def Double.ReadsBack (spelling : Double.Spelling) (value : Double) : Prop :=
  Number.read (value.text spelling) = .ok (.double value)

namespace Number

/-- The double in the number, if there is one. -/
def double? : Number → Option Double
  | double value => some value
  | _ => none

/-- The text of a number reads back as the number, if that is true of doubles. -/
theorem readPrefix_text
    {spelling : Double.Spelling}
    {number : Number}
    (normal : number.IsNormal)
    (doubles : ∀ value ∈ number.double?, value.ReadsBack spelling) :
    readPrefix (number.text spelling) = .ok (number, []) := by
  cases number with
  | natural value =>
      have fits : value.toNat ≤ greatestNatural := by
        have below := value.toNat_lt
        rw [greatestNatural_eq]
        omega
      rw [text, readPrefix_digits fits]
      exact congrArg (fun value => Except.ok (natural value, [])) (UInt64.ofNat_toNat)
  | negative value => exact readPrefix_integer normal
  | double value => exact readPrefix_of_read (doubles value rfl)

theorem read_text
    {spelling : Double.Spelling}
    {number : Number}
    (normal : number.IsNormal)
    (doubles : ∀ value ∈ number.double?, value.ReadsBack spelling) :
    read (number.text spelling) = .ok number :=
  read_of_readPrefix (readPrefix_text normal doubles)

/-! ## The characters of numbers -/

/-- The characters of numbers. -/
def characters : List Char :=
  ['0', '1', '2', '3', '4', '5', '6', '7', '8', '9', '-', '+', '.', 'e']

theorem digitChar_mem_characters {digit : Nat} (small : digit < 10) :
    Nat.digitChar digit ∈ characters := by
  have all : ∀ digit < 10, Nat.digitChar digit ∈ characters := by decide
  exact all digit small

theorem digits_subset_characters (value : Nat) : Decimal.digits value ⊆ characters := by
  intro character member
  obtain ⟨digit, small, rfl⟩ := Decimal.exists_digit_of_mem_digits member
  exact digitChar_mem_characters small

theorem integer_subset_characters (value : Int) : Decimal.integer value ⊆ characters := by
  intro character member
  rcases Integer.mem_integer member with rfl | ⟨digit, small, rfl⟩
  · decide
  · exact digitChar_mem_characters small

theorem spell_subset_characters
    (spelling : Double.Spelling)
    (digits : Nat)
    (exponent : Int) :
    Double.spell spelling digits exponent ⊆ characters := by
  have inDigits := digits_subset_characters digits
  have taken : ∀ count, (Decimal.digits digits).take count ⊆ characters :=
    fun count _ member => inDigits (List.mem_of_mem_take member)
  have dropped : ∀ count, (Decimal.digits digits).drop count ⊆ characters :=
    fun count _ member => inDigits (List.mem_of_mem_drop member)
  have zeros : ∀ count, List.replicate count '0' ⊆ characters := by
    intro count character member
    rw [List.eq_of_mem_replicate member]
    decide
  have plus : ∀ point : Int,
      (if spelling.plusSign ∧ 0 < point then ['+'] else []) ⊆ characters := by
    intro point
    split
    · decide
    · exact List.nil_subset characters
  unfold Double.spell
  dsimp only
  split
  · exact List.append_subset.mpr ⟨List.append_subset.mpr ⟨inDigits, zeros _⟩, by decide⟩
  split
  · exact List.append_subset.mpr ⟨taken _, List.cons_subset.mpr ⟨by decide, dropped _⟩⟩
  split
  · exact List.append_subset.mpr ⟨List.append_subset.mpr ⟨by decide, zeros _⟩, inDigits⟩
  refine List.append_subset.mpr ⟨List.append_subset.mpr ⟨?_, List.cons_subset.mpr
    ⟨by decide, plus _⟩⟩, integer_subset_characters _⟩
  split
  · exact inDigits
  · exact List.append_subset.mpr ⟨taken _, List.cons_subset.mpr ⟨by decide, dropped _⟩⟩

theorem text_subset_characters
    (spelling : Double.Spelling)
    (number : Number) :
    number.text spelling ⊆ characters := by
  cases number with
  | natural value => exact digits_subset_characters value.toNat
  | negative value => exact integer_subset_characters value.toInt
  | double value =>
      have sign : (if value.negative then ['-'] else []) ⊆ characters := by
        split
        · decide
        · exact List.nil_subset characters
      unfold text Double.text
      dsimp only
      split
      · exact List.append_subset.mpr ⟨sign, by decide⟩
      · exact List.append_subset.mpr ⟨sign, spell_subset_characters _ _ _⟩

end Number
end MarkerManifests
