import Mathlib.Data.Nat.Digits.Defs
import ComptimeTyping.Constant.Basic
import ComptimeTyping.Proofs.Marks

/-! Which texts are integers, and which integers they are. A text is read without its
separators: an optional sign, the mark of a base, and digits, which count by their position. The
text of an integer is one of those, and it is read as that integer. -/

namespace ComptimeTyping

namespace Literal

variable {base size : Nat} {chars rest : List Char} {value : Int}

/-! ## Digits -/

/-- A character stands for a digit of a base, in either case. -/
def IsDigit (base : Nat) (char : Char) (digit : Nat) : Prop :=
  digit < base ∧ (char = digit.digitChar ∨ char = digit.digitChar.toUpper)

/-- A character in a run of characters is told by its place. -/
theorem eq_of_between {low char : Char} {count : Nat} {spell : Nat → Char}
    (spelled : ∀ place < count, Char.ofNat (low.toNat + place) = spell place) (least : low ≤ char)
    (greatest : char.toNat < low.toNat + count) : char = spell (char.toNat - low.toNat) := by
  have number : low.toNat ≤ char.toNat := least
  rw [← spelled _ (by omega), Nat.add_sub_cancel' number, Char.ofNat_toNat]

theorem isDigit_of_digit? {char : Char} {digit : Nat} (read : digit? base char = some digit) :
    IsDigit base char digit := by
  have decimal : ∀ place < 10, Char.ofNat ('0'.toNat + place) = place.digitChar := by decide
  have lower : ∀ place < 6, Char.ofNat ('a'.toNat + place) = (place + 10).digitChar := by decide
  have upper : ∀ place < 6, Char.ofNat ('A'.toNat + place) = (place + 10).digitChar.toUpper := by
    decide
  unfold digit? at read
  rcases Option.filter_eq_some_iff.mp read with ⟨found, small⟩
  refine ⟨of_decide_eq_true small, ?_⟩
  repeat' split at found
  all_goals cases found
  · next between => exact .inl (eq_of_between decimal between.1 (Nat.lt_succ_of_le between.2))
  · next between => exact .inl (eq_of_between lower between.1 (Nat.lt_succ_of_le between.2))
  · next between => exact .inr (eq_of_between upper between.1 (Nat.lt_succ_of_le between.2))

theorem digit?_eq_some_iff (narrow : base ≤ 16) {char : Char} {digit : Nat} :
    digit? base char = some digit ↔ IsDigit base char digit := by
  refine ⟨isDigit_of_digit?, ?_⟩
  have spelled : ∀ digit < 16, digit? 16 digit.digitChar = some digit ∧
      digit? 16 digit.digitChar.toUpper = some digit := by decide
  rintro ⟨small, isChar⟩
  have found : digit? 16 char = some digit := by
    rcases isChar with rfl | rfl
    · exact (spelled digit (Nat.lt_of_lt_of_le small narrow)).1
    · exact (spelled digit (Nat.lt_of_lt_of_le small narrow)).2
  unfold digit? at found ⊢
  rw [Option.filter_eq_some_iff] at found ⊢
  exact ⟨found.1, decide_eq_true small⟩

/-! ## Numerals -/

/-- One or more digits of a base. The last one counts once, and each of the others `base` times
as much as the one behind it. -/
def IsNumeral (base : Nat) (chars : List Char) (size : Nat) : Prop :=
  chars ≠ [] ∧ ∃ digits, List.Forall₂ (IsDigit base) chars digits ∧
    Nat.ofDigits base digits.reverse = size

theorem mapM_digit?_eq_some_iff (narrow : base ≤ 16) {digits : List Nat} :
    chars.mapM (digit? base) = some digits ↔ List.Forall₂ (IsDigit base) chars digits := by
  induction chars generalizing digits with
  | nil => simp [eq_comm]
  | cons char chars induction =>
      simp only [List.mapM_cons, Option.bind_eq_bind, Option.bind_eq_some_iff, induction,
        digit?_eq_some_iff narrow, Option.pure_def, Option.some.injEq, exists_and_left,
        List.forall₂_cons_left_iff, @eq_comm _ digits]

theorem positional_eq_ofDigits (digits : List Nat) :
    positional base digits = Nat.ofDigits base digits.reverse := by
  rw [Nat.ofDigits_eq_foldr, positional, List.foldl_eq_foldr_reverse]
  simp only [Nat.cast_id, Nat.add_comm, Nat.mul_comm]

theorem digits?_eq_some_iff (narrow : base ≤ 16) :
    digits? base chars = some size ↔ IsNumeral base chars size := by
  unfold digits? IsNumeral
  simp only [List.isEmpty_iff]
  split
  · next empty => simp [empty]
  · next nonempty =>
      simp only [Option.map_eq_some_iff, mapM_digit?_eq_some_iff narrow, positional_eq_ofDigits,
        nonempty, ne_eq, not_false_eq_true, true_and]

/-! ## Grammar -/

/-- The marks behind a zero, each with the base that it stands for. -/
def baseMarks : List (Char × Nat) :=
  [('x', 16), ('X', 16), ('o', 8), ('O', 8), ('b', 2), ('B', 2)]

/-- What may stand behind a sign, and the number that it is. -/
inductive IsMagnitude : List Char → Nat → Prop
  | zero : IsMagnitude ['0'] 0
  | decimal {chars : List Char} {size : Nat} (numeral : IsNumeral 10 chars size)
      (start : chars.head? ≠ some '0') : IsMagnitude chars size
  | octal {chars : List Char} {size : Nat} (numeral : IsNumeral 8 chars size) :
      IsMagnitude ('0' :: chars) size
  | marked {mark : Char} {base : Nat} {chars : List Char} {size : Nat}
      (isMark : (mark, base) ∈ baseMarks) (numeral : IsNumeral base chars size) :
      IsMagnitude ('0' :: mark :: chars) size

/-- The texts of integers without separators, and the integers. -/
inductive IsInteger : List Char → Int → Prop
  | unsigned {chars : List Char} {size : Nat} (magnitude : IsMagnitude chars size) :
      IsInteger chars size
  | positive {chars : List Char} {size : Nat} (magnitude : IsMagnitude chars size) :
      IsInteger ('+' :: chars) size
  | negative {chars : List Char} {size : Nat} (magnitude : IsMagnitude chars size) :
      IsInteger ('-' :: chars) (-size)

theorem exists_digit?_of_isNumeral (narrow : base ≤ 16) {first : Char}
    (numeral : IsNumeral base (first :: rest) size) : ∃ digit, digit? base first = some digit := by
  rcases numeral with ⟨_, digits, each, _⟩
  cases each with
  | cons isDigit _ => exact ⟨_, (digit?_eq_some_iff narrow).mpr isDigit⟩

/-- No mark is a digit of base eight, so a zero in front of such digits is not part of one. -/
theorem not_mem_baseMarks {first : Char} (numeral : IsNumeral 8 (first :: rest) size)
    (base : Nat) : (first, base) ∉ baseMarks := by
  rcases exists_digit?_of_isNumeral (by decide) numeral with ⟨digit, read⟩
  have unread : ∀ marked ∈ baseMarks, digit? 8 marked.1 = none := by decide
  intro member
  rw [unread _ member] at read
  cases read

theorem unsigned?_of_mark {mark : Char} (isMark : (mark, base) ∈ baseMarks) :
    unsigned? ('0' :: mark :: rest) = digits? base rest := by
  simp only [baseMarks, List.mem_cons, Prod.mk.injEq, List.not_mem_nil, or_false] at isMark
  rcases isMark with ⟨rfl, rfl⟩ | ⟨rfl, rfl⟩ | ⟨rfl, rfl⟩ | ⟨rfl, rfl⟩ | ⟨rfl, rfl⟩ | ⟨rfl, rfl⟩
  all_goals rfl

theorem unsigned?_of_no_mark {first : Char} (noMark : ∀ base, (first, base) ∉ baseMarks) :
    unsigned? ('0' :: first :: rest) = digits? 8 (first :: rest) := by
  have hexadecimal : ¬(first = 'x' ∨ first = 'X') := by
    rintro (rfl | rfl)
    all_goals exact noMark 16 (by decide)
  have octal : ¬(first = 'o' ∨ first = 'O') := by
    rintro (rfl | rfl)
    all_goals exact noMark 8 (by decide)
  have binary : ¬(first = 'b' ∨ first = 'B') := by
    rintro (rfl | rfl)
    all_goals exact noMark 2 (by decide)
  rw [unsigned?, if_neg hexadecimal, if_neg octal, if_neg binary]

theorem unsigned?_of_no_zero (noZero : chars.head? ≠ some '0') :
    unsigned? chars = digits? 10 chars := by
  unfold unsigned?
  split
  · exact absurd rfl noZero
  · exact absurd rfl noZero
  · rfl

theorem narrow_of_mark {mark : Char} (isMark : (mark, base) ∈ baseMarks) : base ≤ 16 := by
  have narrow : ∀ marked ∈ baseMarks, marked.2 ≤ 16 := by decide
  exact narrow _ isMark

theorem isMagnitude_of_unsigned? (read : unsigned? chars = some size) : IsMagnitude chars size := by
  by_cases zero : chars.head? = some '0'
  · rcases chars with _ | ⟨_, _ | ⟨mark, rest⟩⟩
    · cases zero
    · cases zero
      cases read
      exact .zero
    · cases zero
      by_cases isMark : ∃ base, (mark, base) ∈ baseMarks
      · rcases isMark with ⟨base, isMark⟩
        rw [unsigned?_of_mark isMark, digits?_eq_some_iff (narrow_of_mark isMark)] at read
        exact .marked isMark read
      · rw [unsigned?_of_no_mark (not_exists.mp isMark), digits?_eq_some_iff (by decide)] at read
        exact .octal read
  · rw [unsigned?_of_no_zero zero, digits?_eq_some_iff (by decide)] at read
    exact .decimal read zero

theorem unsigned?_eq_some_iff : unsigned? chars = some size ↔ IsMagnitude chars size := by
  refine ⟨isMagnitude_of_unsigned?, ?_⟩
  intro magnitude
  cases magnitude with
  | zero => rfl
  | decimal numeral start =>
      rw [unsigned?_of_no_zero start]
      exact (digits?_eq_some_iff (by decide)).mpr numeral
  | @octal chars _ numeral =>
      cases chars with
      | nil => exact absurd rfl numeral.1
      | cons first rest =>
          rw [unsigned?_of_no_mark (not_mem_baseMarks numeral)]
          exact (digits?_eq_some_iff (by decide)).mpr numeral
  | marked isMark numeral =>
      rw [unsigned?_of_mark isMark]
      exact (digits?_eq_some_iff (narrow_of_mark isMark)).mpr numeral

/-! ## Signs -/

theorem splitSign_of_isMagnitude (magnitude : IsMagnitude chars size) :
    splitSign chars = (false, chars) := by
  cases magnitude with
  | zero | octal | marked => rfl
  | decimal numeral _ =>
      unfold splitSign
      split
      · rcases exists_digit?_of_isNumeral (by decide) numeral with ⟨digit, read⟩
        cases read
      · rcases exists_digit?_of_isNumeral (by decide) numeral with ⟨digit, read⟩
        cases read
      · rfl

theorem isInteger_iff :
    IsInteger chars value ↔ ∃ size, IsMagnitude (splitSign chars).2 size ∧
      (if (splitSign chars).1 then -(size : Int) else size) = value := by
  constructor
  · intro written
    cases written with
    | @unsigned _ size magnitude =>
        refine ⟨size, ?_⟩
        rw [splitSign_of_isMagnitude magnitude]
        exact ⟨magnitude, rfl⟩
    | positive magnitude => exact ⟨_, magnitude, rfl⟩
    | negative magnitude => exact ⟨_, magnitude, rfl⟩
  · rintro ⟨size, magnitude, rfl⟩
    unfold splitSign at magnitude ⊢
    split at magnitude
    · exact .negative magnitude
    · exact .positive magnitude
    · exact .unsigned magnitude

theorem integer?_eq_some_iff {text : String} :
    integer? text = some value ↔ IsInteger (withoutSeparators text) value := by
  have read : integer? text = (unsigned? (splitSign (withoutSeparators text)).2).map
      fun size : Nat => if (splitSign (withoutSeparators text)).1 then -(size : Int) else size := by
    unfold integer?
    rcases splitSign (withoutSeparators text) with ⟨negative, body⟩
    dsimp only
    cases unsigned? body <;> rfl
  rw [read]
  simp only [Option.map_eq_some_iff, unsigned?_eq_some_iff, isInteger_iff]

/-! ## Texts of integers -/

theorem isNumeral_toDigits (wide : 1 < base) (size : Nat) :
    IsNumeral base (Nat.toDigits base size) size := by
  refine ⟨Nat.toDigits_ne_nil, ?_⟩
  induction size using Nat.strong_induction_on with
  | _ size induction =>
      rw [Nat.toDigits_eq_if wide]
      split
      · next small =>
          exact ⟨[size], .cons ⟨small, .inl rfl⟩ .nil, Nat.ofDigits_singleton⟩
      · next large =>
          have positive : 0 < base := Nat.zero_lt_of_lt wide
          have less : size / base < size := Nat.div_lt_self (by omega) wide
          rcases induction (size / base) less with ⟨digits, each, value⟩
          have last : IsDigit base (size % base).digitChar (size % base) :=
            ⟨Nat.mod_lt size positive, .inl rfl⟩
          refine ⟨digits ++ [size % base], List.rel_append each (.cons last .nil), ?_⟩
          rw [List.reverse_append, List.reverse_singleton, List.singleton_append, Nat.ofDigits_cons,
            value, Nat.mod_add_div]

theorem head?_toDigits (wide : 1 < base) (positive : 0 < size) :
    (Nat.toDigits base size).head? ≠ some '0' := by
  induction size using Nat.strong_induction_on with
  | _ size induction =>
      rw [Nat.toDigits_eq_if wide]
      split
      · next small =>
          intro zero
          have same : size.digitChar = '0' := Option.some.inj zero
          exact absurd (Nat.digitChar_eq_zero.mp same) (Nat.ne_of_gt positive)
      · next large =>
          rw [List.head?_append_of_ne_nil _ Nat.toDigits_ne_nil]
          exact induction (size / base) (Nat.div_lt_self positive wide)
            (Nat.div_pos (by omega) (by omega))

/-- The text of a number is its magnitude. -/
theorem isMagnitude_repr (size : Nat) : IsMagnitude size.repr.toList size := by
  rw [Nat.toList_repr]
  rcases Nat.eq_zero_or_pos size with rfl | positive
  · exact .zero
  · exact .decimal (isNumeral_toDigits (by decide) size) (head?_toDigits (by decide) positive)

theorem isInteger_toString (value : Int) : IsInteger (toString value).toList value := by
  rw [Int.toString_eq_repr, Int.repr_eq_if]
  split
  · next positive =>
      have magnitude := IsInteger.unsigned (isMagnitude_repr value.toNat)
      rwa [Int.toNat_of_nonneg positive] at magnitude
  · next negative =>
      have magnitude := IsInteger.negative (isMagnitude_repr (-value).toNat)
      rw [Int.toNat_of_nonneg (by omega), Int.neg_neg] at magnitude
      rw [String.toList_append]
      exact magnitude

/-! ## Separators -/

theorem withoutSeparators_toString (value : Int) :
    withoutSeparators (toString value) = (toString value).toList := by
  rw [withoutSeparators, List.filter_eq_self]
  intro char member
  have noSeparator : '_' ∉ (toString value).toList :=
    Text.not_mem_toString_int (by decide) (by decide) value
  exact bne_iff_ne.mpr fun separator => noSeparator (separator ▸ member)

/-- Separators leave no trace, whatever they stand between. -/
theorem withoutSeparators_intercalate (parts : List String) :
    withoutSeparators ("_".intercalate parts) = withoutSeparators (String.join parts) := by
  unfold withoutSeparators
  rw [String.toList_intercalate, String.toList_join, List.flatMap_def]
  generalize parts.map String.toList = texts
  have noTrace : "_".toList.filter (· != '_') = [] := rfl
  induction texts with
  | nil => rfl
  | cons first texts induction =>
      cases texts with
      | nil => rw [List.intercalate_singleton, List.flatten_singleton]
      | cons second texts =>
          rw [List.intercalate_cons_cons, List.flatten_cons, List.filter_append,
            List.filter_append, noTrace, List.append_nil, induction, ← List.filter_append]

end Literal

namespace Constant

/-- Without its separators a text is read exactly if it is an optional sign and digits of base
ten, or of another base behind its mark, and it is read as what these digits mean by their
position. The text of an integer is read as that integer. Separators between any parts of a text,
which may be empty, change nothing. -/
theorem integers_read_exactly :
    (∀ (text : String) (constant : Constant), ofIntegerLiteral? text = some constant ↔
      ∃ value, Literal.IsInteger (text.toList.filter (· != '_')) value ∧ constant = .int value) ∧
    (∀ value : Int, ofIntegerLiteral? (render (.int value)) = some (.int value)) ∧
    ∀ parts : List String,
      ofIntegerLiteral? ("_".intercalate parts) = ofIntegerLiteral? (String.join parts) := by
  refine ⟨fun text constant => ?_, fun value => ?_, fun parts => ?_⟩
  · simp only [ofIntegerLiteral?, Option.map_eq_some_iff, Literal.integer?_eq_some_iff,
      @eq_comm _ _ constant]
    rfl
  · have written := Literal.isInteger_toString value
    rw [← Literal.withoutSeparators_toString, ← Literal.integer?_eq_some_iff] at written
    rw [ofIntegerLiteral?, render, written]
    rfl
  · rw [ofIntegerLiteral?, Literal.integer?, Literal.withoutSeparators_intercalate]
    rfl

/-- A zero in front is the mark of base eight. -/
example : ofIntegerLiteral? "-0_17" = some (.int (-15)) ∧ ofIntegerLiteral? "08" = none :=
  ⟨rfl, rfl⟩

end Constant

end ComptimeTyping
