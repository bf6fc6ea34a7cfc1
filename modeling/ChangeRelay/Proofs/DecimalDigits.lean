import ChangeRelay.Json.Parse
import ChangeRelay.Number.Decimal
import Mathlib.Algebra.Group.Nat.Defs

/-!
Digits of whole numbers, written and read. Reading undoes writing, zeros in front change nothing,
and zeros at the end stand for a power of ten.
-/
namespace ChangeRelay.Number

theorem digitChar_isDigit : ∀ n < 10, isDigit (digitChar n) = true := by decide

theorem digitChar_value : ∀ n < 10, digitValue (digitChar n) = n := by decide

theorem digitChar_zero : ∀ n < 10, digitChar n = '0' → n = 0 := by decide

theorem digitsValue_nil (base done : Nat) : digitsValue base done [] = done := rfl

theorem digitsValue_cons (base done : Nat) (c : Char) (rest : List Char) :
    digitsValue base done (c :: rest) = digitsValue base (done * base + digitValue c) rest := by
  delta digitsValue
  rfl

theorem digitsValue_append (base done : Nat) (first second : List Char) :
    digitsValue base done (first ++ second) =
      digitsValue base (digitsValue base done first) second := by
  induction first generalizing done with
  | nil => rfl
  | cons c rest ih => rw [List.cons_append, digitsValue_cons, digitsValue_cons, ih]

theorem digitsValue_eq (done : Nat) (digits : List Char) :
    digitsValue 10 done digits = done * 10 ^ digits.length + readDecimal digits := by
  have shift : ∀ start, digitsValue 10 (done + start) digits =
      done * 10 ^ digits.length + digitsValue 10 start digits := by
    induction digits generalizing done with
    | nil =>
      intro start
      simp [digitsValue_nil]
    | cons c rest ih =>
      intro start
      have step : (done + start) * 10 + digitValue c = done * 10 + (start * 10 + digitValue c) := by
        omega
      simp only [digitsValue_cons, step, ih, List.length_cons, Nat.pow_succ]
      rw [Nat.mul_assoc, Nat.mul_comm 10]
  have whole := shift 0
  rw [Nat.add_zero] at whole
  exact whole

theorem readDecimal_append (first second : List Char) :
    readDecimal (first ++ second) =
      readDecimal first * 10 ^ second.length + readDecimal second := by
  rw [readDecimal, digitsValue_append, digitsValue_eq]
  rfl

theorem readDecimal_zeros (count : Nat) : readDecimal (List.replicate count '0') = 0 := by
  induction count with
  | zero => rfl
  | succ count ih => exact ih

theorem readDecimal_decimalDigits (n : Nat) : readDecimal (decimalDigits n) = n := by
  induction n using decimalDigits.induct with
  | case1 n small =>
    rw [decimalDigits, if_pos small]
    have value := digitChar_value n small
    simp [readDecimal, digitsValue_cons, digitsValue_nil, value]
  | case2 n large ih =>
    rw [decimalDigits, if_neg large, readDecimal_append, ih]
    have value := digitChar_value (n % 10) (by omega)
    simp only [List.length_singleton, Nat.pow_one, readDecimal, digitsValue_cons, digitsValue_nil,
      value]
    omega

theorem decimalDigits_isDigit (n : Nat) : ∀ c ∈ decimalDigits n, isDigit c = true := by
  induction n using decimalDigits.induct with
  | case1 n small =>
    rw [decimalDigits, if_pos small]
    intro c member
    rw [List.mem_singleton.mp member]
    exact digitChar_isDigit n small
  | case2 n large ih =>
    rw [decimalDigits, if_neg large]
    intro c member
    rcases List.mem_append.mp member with before | last
    · exact ih c before
    · rw [List.mem_singleton.mp last]
      exact digitChar_isDigit _ (by omega)

theorem decimalDigits_cons {n : Nat} (filled : n ≠ 0) :
    ∃ first rest, decimalDigits n = first :: rest ∧ isDigit first = true ∧ first ≠ '0' := by
  induction n using decimalDigits.induct with
  | case1 n small =>
    rw [decimalDigits, if_pos small]
    refine ⟨digitChar n, [], rfl, digitChar_isDigit n small, ?_⟩
    intro zero
    exact filled (digitChar_zero n small zero)
  | case2 n large ih =>
    obtain ⟨first, rest, same, digit, proper⟩ := ih (by omega)
    rw [decimalDigits, if_neg large, same]
    exact ⟨first, rest ++ [digitChar (n % 10)], rfl, digit, proper⟩

def NoDigit (rest : List Char) : Prop := ∀ c ∈ rest.head?, isDigit c = false

theorem digits_append {digits rest : List Char} (all : ∀ c ∈ digits, isDigit c = true)
    (stops : NoDigit rest) : Json.digits (digits ++ rest) = (digits, rest) := by
  unfold Json.digits
  induction digits with
  | nil =>
    cases rest with
    | nil => rfl
    | cons c rest => simp [stops c rfl]
  | cons c digits ih =>
    have first := all c List.mem_cons_self
    have others := ih fun d member => all d (List.mem_cons_of_mem c member)
    rw [Prod.mk.injEq] at others
    simp [first, others.1, others.2]

end ChangeRelay.Number
