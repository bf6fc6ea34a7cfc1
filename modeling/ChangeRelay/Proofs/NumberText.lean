import ChangeRelay.Json.Print
import ChangeRelay.Proofs.DecimalDigits
import ChangeRelay.Proofs.ShortestDecimal

/-!
Numbers as JSON are read back. A whole number is its digits. A binary number is written in one of
four layouts, which split digits and power of ten differently, but each of them is a decimal of the
same size; and a decimal of that size is read as the number.
-/
namespace ChangeRelay.Json

open Number (Binary64 Decimal RealStyle NoDigit isDigit decimalDigits readDecimal digits_append)

def EndsNumber (rest : List Char) : Prop :=
  ∀ c ∈ rest.head?, isDigit c = false ∧ c ≠ '.' ∧ c ≠ 'e' ∧ c ≠ 'E'

theorem EndsNumber.noDigit {rest : List Char} (ends : EndsNumber rest) : NoDigit rest :=
  fun c first => (ends c first).1

theorem fraction_none {rest : List Char} (ends : EndsNumber rest) :
    fraction? rest = some ([], rest) := by
  unfold fraction?
  split
  · rename_i more
    exact absurd rfl (ends '.' rfl).2.1
  · rfl

theorem exponent_none {rest : List Char} (ends : EndsNumber rest) :
    exponent? rest = some (none, rest) := by
  cases rest with
  | nil => rfl
  | cons c rest =>
    obtain ⟨-, -, small, large⟩ := ends c rfl
    simp [exponent?, small, large]

def Opens (whole : List Char) : Prop :=
  (∀ c ∈ whole, isDigit c = true) ∧ whole ≠ [] ∧ ¬(whole.head? = some '0' ∧ whole.length ≠ 1)

theorem decimalDigits_opens (n : Nat) : Opens (decimalDigits n) := by
  refine ⟨Number.decimalDigits_isDigit n, ?_⟩
  by_cases zero : n = 0
  · subst zero
    rw [decimalDigits]
    decide
  · obtain ⟨first, rest, same, -, proper⟩ := Number.decimalDigits_cons zero
    rw [same]
    simp [proper]

theorem unsigned_whole {whole rest : List Char} (opens : Opens whole) (ends : EndsNumber rest)
    (negative : Bool) :
    unsigned? negative (whole ++ rest) =
      some (.int (if negative then -(readDecimal whole : Int) else readDecimal whole), rest) := by
  obtain ⟨all, filled, proper⟩ := opens
  have leading : ¬(whole = [] ∨ (whole.head? = some '0' ∧ whole.length ≠ 1)) := by
    rintro (empty | zero)
    · exact filled empty
    · exact proper zero
  simp only [unsigned?, digits_append all ends.noDigit, if_neg leading, fraction_none ends,
    exponent_none ends, and_self, if_true]

def fractionText (part tail : List Char) : List Char :=
  if part = [] then tail else '.' :: part ++ tail

theorem fraction_read {part tail : List Char} (all : ∀ c ∈ part, isDigit c = true)
    (stops : NoDigit tail) (noPoint : tail.head? ≠ some '.') :
    NoDigit (fractionText part tail) ∧ fraction? (fractionText part tail) = some (part, tail) := by
  unfold fractionText
  by_cases empty : part = []
  · subst empty
    rw [if_pos rfl]
    constructor
    · exact stops
    · unfold fraction?
      split
      · exact absurd rfl noPoint
      · rfl
  · rw [if_neg empty]
    constructor
    · intro c first
      cases first
      decide
    · simp only [fraction?, List.cons_append, digits_append all stops, if_neg empty]

theorem unsigned_real {whole part tail rest : List Char} {power : Option Int} (opens : Opens whole)
    (all : ∀ c ∈ part, isDigit c = true) (stops : NoDigit tail) (noPoint : tail.head? ≠ some '.')
    (read : exponent? tail = some (power, rest)) (marked : part ≠ [] ∨ power ≠ none)
    (negative : Bool) :
    unsigned? negative (whole ++ fractionText part tail) =
      some (.real (Binary64.ofDecimal negative (readDecimal (whole ++ part))
        (power.getD 0 - part.length)), rest) := by
  obtain ⟨wholeAll, filled, proper⟩ := opens
  obtain ⟨noDigit, fraction⟩ := fraction_read all stops noPoint
  have leading : ¬(whole = [] ∨ (whole.head? = some '0' ∧ whole.length ≠ 1)) := by
    rintro (empty | zero)
    · exact filled empty
    · exact proper zero
  have notWhole : ¬(part = [] ∧ power = none) := by
    rintro ⟨noPart, noPower⟩
    rcases marked with part | power
    · exact part noPart
    · exact power noPower
  simp only [unsigned?, digits_append wholeAll noDigit, if_neg leading, fraction, read,
    if_neg notWhole]

theorem number_sign {whole : List Char} (opens : Opens whole) (negative : Bool)
    (rest : List Char) :
    number? ((if negative then ['-'] else []) ++ (whole ++ rest)) =
      unsigned? negative (whole ++ rest) := by
  cases negative with
  | true => rfl
  | false =>
    obtain ⟨all, filled, -⟩ := opens
    cases whole with
    | nil => exact absurd rfl filled
    | cons c more =>
      have digit := all c List.mem_cons_self
      unfold number?
      split
      · rename_i same
        cases same
        cases digit
      · rfl

theorem int_read (n : Int) {rest : List Char} (ends : EndsNumber rest) :
    number? (Number.intDigits n ++ rest) = some (.int n, rest) := by
  cases n with
  | ofNat n =>
    have opens := decimalDigits_opens n
    have read := unsigned_whole opens ends false
    rw [Number.readDecimal_decimalDigits] at read
    exact (number_sign opens false rest).trans read
  | negSucc n =>
    have opens := decimalDigits_opens (n + 1)
    have read := unsigned_whole opens ends true
    rw [Number.readDecimal_decimalDigits] at read
    exact (number_sign opens true rest).trans read

theorem exponent_text (value : Int) :
    realStyle.exponent value =
      (if value < 0 then ['-'] else []) ++ decimalDigits value.natAbs := by
  have some_ : 1 - (decimalDigits value.natAbs).length = 0 := by
    have filled := List.length_pos_iff.mpr (decimalDigits_opens value.natAbs).2.1
    omega
  simp only [RealStyle.exponent, realStyle, some_, RealStyle.zeros, List.replicate_zero,
    List.append_nil, Bool.false_eq_true, if_false]

theorem exponent_read (value : Int) {rest : List Char} (ends : EndsNumber rest) :
    exponent? ('e' :: (realStyle.exponent value ++ rest)) = some (some value, rest) := by
  have opens := decimalDigits_opens value.natAbs
  have digits (negative : Bool) : exponentDigits? negative (decimalDigits value.natAbs ++ rest) =
      some (if negative then -(value.natAbs : Int) else value.natAbs, rest) := by
    simp only [exponentDigits?, digits_append opens.1 ends.noDigit, if_neg opens.2.1,
      Number.readDecimal_decimalDigits]
  rw [exponent_text]
  by_cases below : value < 0
  · have size : -(value.natAbs : Int) = value := by omega
    have read := digits true
    rw [if_pos rfl, size] at read
    simp only [exponent?, below, if_true, List.cons_append, List.nil_append, true_or, read,
      Option.map_some]
  · have size : (value.natAbs : Int) = value := by omega
    obtain ⟨all, filled, -⟩ := opens
    cases spelled : decimalDigits value.natAbs with
    | nil => exact absurd spelled filled
    | cons c more =>
      have digit := all c (spelled ▸ List.mem_cons_self)
      have plain := digits false
      rw [spelled] at plain
      simp only [exponent?, below, if_false, List.nil_append, List.cons_append, true_or, if_true]
      split
      · rename_i same
        cases same
        cases digit
      · rename_i same
        cases same
        cases digit
      · rw [← List.cons_append, plain, size]
        rfl

theorem opens_of_first {first : Char} {more : List Char} (proper : first ≠ '0')
    (all : ∀ c ∈ first :: more, isDigit c = true) : Opens (first :: more) := by
  refine ⟨all, List.cons_ne_nil _ _, ?_⟩
  rintro ⟨zero, -⟩
  exact proper (Option.some.inj zero)

theorem real_read {whole part tail rest : List Char} {power : Option Int} (opens : Opens whole)
    (all : ∀ c ∈ part, isDigit c = true) (stops : NoDigit tail) (noPoint : tail.head? ≠ some '.')
    (read : exponent? tail = some (power, rest)) (marked : part ≠ [] ∨ power ≠ none)
    (negative : Bool) :
    number? ((if negative then ['-'] else []) ++ (whole ++ fractionText part tail)) =
      some (.real (Binary64.ofDecimal negative (readDecimal (whole ++ part))
        (power.getD 0 - part.length)), rest) :=
  (number_sign opens negative _).trans
    (unsigned_real opens all stops noPoint read marked negative)

theorem positional_read {whole part rest : List Char} (opens : Opens whole)
    (all : ∀ c ∈ part, isDigit c = true) (filled : part ≠ []) (ends : EndsNumber rest)
    (negative : Bool) :
    number? ((if negative then ['-'] else []) ++ (whole ++ '.' :: part ++ rest)) =
      some (.real (Binary64.ofDecimal negative (readDecimal (whole ++ part)) (-part.length)),
        rest) := by
  have noPoint : rest.head? ≠ some '.' := fun same => (ends '.' same).2.1 rfl
  have read := real_read opens all ends.noDigit noPoint (exponent_none ends) (Or.inl filled)
    negative
  rw [fractionText, if_neg filled] at read
  rw [List.append_assoc]
  simpa using read

theorem zeros_isDigit (count : Nat) : ∀ c ∈ RealStyle.zeros count, isDigit c = true := by
  intro c member
  rw [List.eq_of_mem_replicate member]
  decide

theorem zero_opens : Opens ['0'] := by
  refine ⟨zeros_isDigit 1, List.cons_ne_nil _ _, ?_⟩
  rintro ⟨-, several⟩
  exact several rfl

theorem all_append {first second : List Char} (one : ∀ c ∈ first, isDigit c = true)
    (two : ∀ c ∈ second, isDigit c = true) : ∀ c ∈ first ++ second, isDigit c = true := by
  intro c member
  rcases List.mem_append.mp member with before | after
  · exact one c before
  · exact two c after

def position (decimal : Decimal) : Int := (decimalDigits decimal.digits).length + decimal.exponent

theorem scientific_layout {decimal : Decimal} (filled : decimal.digits ≠ 0)
    (far : position decimal ≤ realStyle.leastPosition ∨
      realStyle.greatestPosition < position decimal) :
    ∃ first more, decimalDigits decimal.digits = first :: more ∧ first ≠ '0' ∧
      ∀ rest, realStyle.decimal decimal ++ rest = [first] ++ fractionText more
        ('e' :: (realStyle.exponent (decimal.exponent + more.length) ++ rest)) := by
  obtain ⟨first, more, spelled, -, proper⟩ := Number.decimalDigits_cons filled
  refine ⟨first, more, spelled, proper, ?_⟩
  intro rest
  have power : position decimal - 1 = decimal.exponent + more.length := by
    rw [position, spelled, List.length_cons]
    omega
  have text : realStyle.decimal decimal = (decimalDigits decimal.digits).take 1 ++
      (if (decimalDigits decimal.digits).tail = [] then [] else
        '.' :: (decimalDigits decimal.digits).tail) ++
      'e' :: realStyle.exponent (position decimal - 1) := if_pos far
  rw [text, power, spelled, fractionText]
  by_cases alone : more = []
  · simp [alone]
  · simp [alone]

/-- A number with a point and without an exponent that is as large as a decimal. -/
structure Positional (whole part : List Char) (decimal : Decimal) : Prop where
  opens : Opens whole
  digits : ∀ c ∈ part, isDigit c = true
  filled : part ≠ []
  value : Decimal.value ⟨readDecimal (whole ++ part), -part.length⟩ = decimal.value

section
variable {decimal : Decimal} {first : Char} {more : List Char}
  (spelled : decimalDigits decimal.digits = first :: more) (proper : first ≠ '0')
include spelled

theorem zeros_positional {count : Nat} (zeros : (count : Int) = -position decimal) :
    Positional ['0'] (RealStyle.zeros count ++ first :: more) decimal := by
  have all := Number.decimalDigits_isDigit decimal.digits
  have value := Number.readDecimal_decimalDigits decimal.digits
  rw [position, spelled] at zeros
  rw [spelled] at all value
  constructor
  · exact zero_opens
  · exact all_append (zeros_isDigit count) all
  · simp
  · have digits : readDecimal (['0'] ++ (RealStyle.zeros count ++ first :: more)) =
        decimal.digits := by
      rw [Number.readDecimal_append, Number.readDecimal_append, value, RealStyle.zeros,
        Number.readDecimal_zeros]
      have zero : readDecimal ['0'] = 0 := Number.readDecimal_zeros 1
      rw [zero, Nat.zero_mul, Nat.zero_mul, Nat.zero_add, Nat.zero_add]
    have exponent : -((RealStyle.zeros count ++ first :: more).length : Int) =
        decimal.exponent := by
      rw [List.length_append, RealStyle.zeros, List.length_replicate]
      push_cast
      omega
    rw [digits, exponent]

include proper

theorem whole_positional {count : Nat} (zeros : (count : Int) = decimal.exponent) :
    Positional (first :: more ++ RealStyle.zeros count) ['0'] decimal := by
  have all := Number.decimalDigits_isDigit decimal.digits
  have value := Number.readDecimal_decimalDigits decimal.digits
  rw [spelled] at all value
  constructor
  · exact opens_of_first proper (all_append all (zeros_isDigit count))
  · exact zeros_isDigit 1
  · exact List.cons_ne_nil _ _
  · have digits : readDecimal (first :: more ++ RealStyle.zeros count ++ ['0']) =
        decimal.digits * 10 ^ count * 10 := by
      have zero : readDecimal ['0'] = 0 := Number.readDecimal_zeros 1
      rw [Number.readDecimal_append, Number.readDecimal_append, value, zero, RealStyle.zeros,
        Number.readDecimal_zeros, List.length_replicate]
      rfl
    rw [digits, Decimal.value, Decimal.value, ← zeros, zpow_natCast]
    push_cast
    rw [List.length_singleton, Nat.cast_one, zpow_neg_one, mul_inv_cancel_right₀ (by norm_num)]

theorem split_positional {count : Nat} (here : (count : Int) = position decimal)
    (some_ : 0 < count) (fewer : count < (first :: more).length) :
    Positional ((first :: more).take count) ((first :: more).drop count) decimal := by
  have all := Number.decimalDigits_isDigit decimal.digits
  have value := Number.readDecimal_decimalDigits decimal.digits
  rw [position, spelled] at here
  rw [spelled] at all value
  constructor
  · obtain ⟨before, rfl⟩ := Nat.exists_eq_add_one.mpr some_
    rw [List.take_succ_cons]
    apply opens_of_first proper
    intro c member
    rcases List.mem_cons.mp member with same | later
    · exact all c (List.mem_cons.mpr (Or.inl same))
    · exact all c (List.mem_cons_of_mem _ (List.mem_of_mem_take later))
  · intro c member
    exact all c (List.mem_of_mem_drop member)
  · intro empty
    have length := congrArg List.length empty
    rw [List.length_drop, List.length_nil] at length
    omega
  · have exponent : -(((first :: more).drop count).length : Int) = decimal.exponent := by
      rw [List.length_drop]
      omega
    rw [List.take_append_drop, value, exponent]

end

theorem positional_layout {decimal : Decimal} (filled : decimal.digits ≠ 0)
    (near : ¬(position decimal ≤ realStyle.leastPosition ∨
      realStyle.greatestPosition < position decimal)) :
    ∃ whole part, realStyle.decimal decimal = whole ++ '.' :: part ∧
      Positional whole part decimal := by
  obtain ⟨first, more, spelled, -, proper⟩ := Number.decimalDigits_cons filled
  have length : position decimal = (first :: more).length + decimal.exponent := by
    rw [position, spelled]
  have text : realStyle.decimal decimal =
      if position decimal ≤ 0 then
        ['0', '.'] ++ RealStyle.zeros (-position decimal).toNat ++ first :: more
      else if (first :: more).length ≤ (position decimal).toNat then
        first :: more ++ RealStyle.zeros ((position decimal).toNat - (first :: more).length) ++
          ['.', '0']
      else (first :: more).take (position decimal).toNat ++
        '.' :: (first :: more).drop (position decimal).toNat := by
    rw [← spelled]
    exact if_neg near
  rw [text]
  by_cases small : position decimal ≤ 0
  · rw [if_pos small]
    exact ⟨_, _, rfl, zeros_positional spelled (by omega)⟩
  · rw [if_neg small]
    by_cases large : (first :: more).length ≤ (position decimal).toNat
    · rw [if_pos large]
      exact ⟨_, _, rfl, whole_positional spelled proper (by omega)⟩
    · rw [if_neg large]
      exact ⟨_, _, rfl, split_positional spelled proper (by omega) (by omega) (by omega)⟩

theorem decimal_read {decimal : Decimal} (filled : decimal.digits ≠ 0) {rest : List Char}
    (ends : EndsNumber rest) (negative : Bool) :
    ∃ digits exponent, Decimal.value ⟨digits, exponent⟩ = decimal.value ∧
      number? ((if negative then ['-'] else []) ++ (realStyle.decimal decimal ++ rest)) =
        some (.real (Binary64.ofDecimal negative digits exponent), rest) := by
  by_cases far : position decimal ≤ realStyle.leastPosition ∨
      realStyle.greatestPosition < position decimal
  · obtain ⟨first, more, spelled, proper, text⟩ := scientific_layout filled far
    have all := Number.decimalDigits_isDigit decimal.digits
    have value := Number.readDecimal_decimalDigits decimal.digits
    rw [spelled] at all value
    have opens : Opens [first] := opens_of_first proper fun c member =>
      all c (List.mem_singleton.mp member ▸ List.mem_cons_self)
    have moreDigits : ∀ c ∈ more, isDigit c = true := fun c member =>
      all c (List.mem_cons_of_mem _ member)
    have stops (tail : List Char) : NoDigit ('e' :: tail) := by
      intro c same
      cases same
      decide
    have read := real_read opens moreDigits (stops _) (by simp)
      (exponent_read (decimal.exponent + more.length) ends) (Or.inr (Option.some_ne_none _))
      negative
    have whole : [first] ++ more = first :: more := rfl
    rw [whole, value, Option.getD_some, add_sub_cancel_right] at read
    refine ⟨decimal.digits, decimal.exponent, rfl, ?_⟩
    rw [text]
    exact read
  · obtain ⟨whole, part, text, positional⟩ := positional_layout filled far
    refine ⟨_, _, positional.value, ?_⟩
    rw [text]
    exact positional_read positional.opens positional.digits positional.filled ends negative

/-- A finite binary number is read back from its own text. -/
theorem real_round_trip (negative : Bool) (bits : Fin Number.magnitudes) {rest : List Char}
    (ends : EndsNumber rest) :
    number? (real (.finite negative bits) ++ rest) =
      some (.real (.finite negative bits), rest) := by
  obtain ⟨bits, small⟩ := bits
  simp only [real, RealStyle.finite]
  by_cases zero : bits = 0
  · subst zero
    have read := positional_read zero_opens (zeros_isDigit 1) (List.cons_ne_nil _ _) ends negative
    rw [if_pos rfl, List.append_assoc]
    exact read
  · rw [if_neg zero, List.append_assoc]
    have holds := Number.shortest_holds zero
    have filled := Binary64.digits_ne_zero zero holds
    obtain ⟨digits, exponent, value, read⟩ := decimal_read filled ends negative
    rw [← value] at holds
    rw [read, Binary64.ofDecimal_eq zero small negative holds]

end ChangeRelay.Json
