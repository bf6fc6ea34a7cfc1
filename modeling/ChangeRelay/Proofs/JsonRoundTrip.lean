import ChangeRelay.Proofs.NumberText
import ChangeRelay.Proofs.QuotedText

/-!
Values as JSON are read back. The text of a value opens with a character that is neither a blank
nor a closing bracket, and what follows it in a list or in a record ends a number; so each value is
read back whatever is written behind it. No such text holds the end of a line.
-/
namespace ChangeRelay.Value

mutual

def isFinite : Value → Bool
  | .real (.finite ..) => true
  | .real _ => false
  | .list items => itemsFinite items
  | .record fields => fieldsFinite fields
  | _ => true

def itemsFinite : List Value → Bool
  | [] => true
  | item :: items => isFinite item && itemsFinite items

def fieldsFinite : List (String × Value) → Bool
  | [] => true
  | (_, value) :: fields => isFinite value && fieldsFinite fields

end

theorem itemsFinite_map {α : Type} {write : α → Value} (each : ∀ a, isFinite (write a) = true)
    (all : List α) : itemsFinite (all.map write) = true := by
  induction all with
  | nil => rfl
  | cons a more ih => simp [itemsFinite, each a, ih]

end ChangeRelay.Value

namespace ChangeRelay.Json

open Number (Binary64 Decimal isDigit)
open Value (isFinite itemsFinite fieldsFinite)

def OpensNumber (c : Char) : Prop := c = '-' ∨ isDigit c = true

theorem unsigned_opens {negative : Bool} {text : List Char} {read : Value × List Char}
    (reads : unsigned? negative text = some read) :
    ∃ c more, text = c :: more ∧ isDigit c = true := by
  cases text with
  | nil => cases reads
  | cons c more =>
    refine ⟨c, more, rfl, ?_⟩
    by_contra none_
    have empty : digits (c :: more) = ([], c :: more) := by
      simp [digits, none_]
    rw [unsigned?, empty] at reads
    cases reads

theorem number_opens {text : List Char} {read : Value × List Char}
    (reads : number? text = some read) : ∃ c more, text = c :: more ∧ OpensNumber c := by
  unfold number? at reads
  split at reads
  · exact ⟨_, _, rfl, Or.inl rfl⟩
  · obtain ⟨c, more, same, digit⟩ := unsigned_opens reads
    exact ⟨c, more, same, Or.inr digit⟩

theorem value_of_number {text : List Char} {read : Value × List Char}
    (reads : number? text = some read) (fuel : Nat) : value? (fuel + 1) text = some read := by
  obtain ⟨c, more, rfl, opens⟩ := number_opens reads
  have other (d : Char) (differs : ¬OpensNumber d) : c ≠ d := by
    rintro rfl
    exact differs opens
  unfold value?
  split
  case h_7 => exact reads
  all_goals
    rename_i same
    exact absurd (List.cons.inj same).1 (other _ (by unfold OpensNumber; decide))

theorem finite_read {x : Binary64} (finite : isFinite (.real x) = true) {rest : List Char}
    (ends : EndsNumber rest) : number? (real x ++ rest) = some (.real x, rest) := by
  cases x with
  | finite negative bits => exact real_round_trip negative bits ends
  | infinite negative => cases finite
  | notANumber => cases finite

/-- A character that opens a value: it is not skipped, and it does not end a list. -/
def OpensValue (c : Char) : Prop := isBlank c = false ∧ c ≠ ']'

theorem opensValue_of_number {c : Char} (opens : OpensNumber c) : OpensValue c := by
  constructor
  · by_contra blank
    simp only [isBlank, Bool.not_eq_false, Bool.or_eq_true, beq_iff_eq] at blank
    unfold OpensNumber at opens
    rcases blank with ((rfl | rfl) | rfl) | rfl <;> revert opens <;> decide
  · rintro rfl
    revert opens
    unfold OpensNumber
    decide

theorem number_opensValue {text : List Char} {read : Value × List Char}
    (reads : number? (text ++ []) = some read) : ∃ c more, text = c :: more ∧ OpensValue c := by
  rw [List.append_nil] at reads
  obtain ⟨c, more, same, opens⟩ := number_opens reads
  exact ⟨c, more, same, opensValue_of_number opens⟩

theorem endsNumber_nil : EndsNumber [] := by
  intro c first
  cases first

theorem printed_opens {value : Value} (finite : isFinite value = true) :
    ∃ c more, printed value = c :: more ∧ OpensValue c := by
  unfold OpensValue
  cases value with
  | null => exact ⟨_, _, rfl, by decide⟩
  | bool b => cases b <;> exact ⟨_, _, rfl, by decide⟩
  | int n => exact number_opensValue (int_read n endsNumber_nil)
  | real x => exact number_opensValue (finite_read finite endsNumber_nil)
  | text s => exact ⟨_, _, rfl, by decide⟩
  | list items => cases items <;> exact ⟨_, _, rfl, by decide⟩
  | record fields => cases fields <;> exact ⟨_, _, rfl, by decide⟩

theorem skipBlanks_printed {value : Value} (finite : isFinite value = true) (rest : List Char) :
    skipBlanks (printed value ++ rest) = printed value ++ rest := by
  obtain ⟨c, more, same, filled, -⟩ := printed_opens finite
  rw [same, List.cons_append]
  simp [skipBlanks, filled]

theorem skipBlanks_items (items : List Value) (rest : List Char) :
    skipBlanks (printedItems items ++ rest) = printedItems items ++ rest := by
  cases items <;> rfl

theorem items_endNumber (items : List Value) (rest : List Char) :
    EndsNumber (printedItems items ++ rest) := by
  intro c first
  cases items <;> cases first <;> decide

theorem fields_endNumber (fields : List (String × Value)) (rest : List Char) :
    EndsNumber (printedFields fields ++ rest) := by
  intro c first
  cases fields <;> cases first <;> decide

theorem value_list {c : Char} (opens : OpensValue c) (fuel : Nat) (more : List Char) :
    value? (fuel + 1) ('[' :: c :: more) =
      (items? fuel (c :: more)).map fun (items, rest) => (.list items, rest) := by
  obtain ⟨filled, noEnd⟩ := opens
  have kept : skipBlanks (c :: more) = c :: more := by simp [skipBlanks, filled]
  simp only [value?, kept]
  split
  · rename_i same
    exact absurd (List.cons.inj same).1 noEnd
  · rfl

theorem value_record (fuel : Nat) (more : List Char) :
    value? (fuel + 1) ('\x7b' :: '"' :: more) =
      (fields? fuel ('"' :: more)).map fun (fields, rest) => (.record fields, rest) := rfl

theorem fields_first {fuel : Nat} {value : Value} {text : List Char}
    (kept : skipBlanks text = text) (name : String) (rest : List Char) :
    (value? fuel text = some (value, '\x7d' :: rest) →
      fields? (fuel + 1) (quoted name ++ ':' :: text) = some ([(name, value)], rest)) ∧
    (value? fuel text = some (value, ',' :: rest) →
      fields? (fuel + 1) (quoted name ++ ':' :: text) =
        (fields? fuel rest).map fun (fields, rest) => ((name, value) :: fields, rest)) := by
  have spelled := text_read name (':' :: text)
  have plain (c : Char) (rest : List Char) (filled : isBlank c = false) :
      skipBlanks (c :: rest) = c :: rest := by simp [skipBlanks, filled]
  have colon := plain ':' text (by decide)
  rw [fields?, quoted, List.cons_append, List.cons_append, plain '"' _ (by decide)]
  simp only [List.append_assoc, List.singleton_append, spelled, colon, kept]
  constructor
  · intro read
    simp only [read, plain '\x7d' rest (by decide)]
  · intro read
    simp only [read, plain ',' rest (by decide)]

structure ReadsWithin (fuel : Nat) : Prop where
  value : ∀ value rest, isFinite value = true → (printed value).length ≤ fuel → EndsNumber rest →
    value? fuel (printed value ++ rest) = some (value, rest)
  items : ∀ item items rest, isFinite item = true → itemsFinite items = true →
    (printed item ++ printedItems items).length ≤ fuel →
    items? fuel (printed item ++ printedItems items ++ rest) = some (item :: items, rest)
  fields : ∀ name value fields rest, isFinite value = true → fieldsFinite fields = true →
    (quoted name ++ ':' :: printed value ++ printedFields fields).length ≤ fuel →
    fields? fuel (quoted name ++ ':' :: printed value ++ printedFields fields ++ rest) =
      some ((name, value) :: fields, rest)

section
variable {fuel : Nat} (within : ReadsWithin fuel)
include within

theorem value_step {value : Value} {rest : List Char} (finite : isFinite value = true)
    (enough : (printed value).length ≤ fuel + 1) (ends : EndsNumber rest) :
    value? (fuel + 1) (printed value ++ rest) = some (value, rest) := by
  cases value with
  | null => rfl
  | bool b => cases b <;> rfl
  | int n => exact value_of_number (int_read n ends) fuel
  | real x => exact value_of_number (finite_read finite ends) fuel
  | text s =>
    have read := text_read s rest
    simp only [printed, quoted, List.cons_append, List.append_assoc, List.nil_append, value?, read,
      Option.map_some]
  | list items =>
    cases items with
    | nil => rfl
    | cons item items =>
      obtain ⟨first, others⟩ := Bool.and_eq_true_iff.mp finite
      have read := within.items item items rest first others (Nat.le_of_succ_le_succ enough)
      obtain ⟨c, more, opened, opens⟩ := printed_opens first
      rw [printed, opened]
      rw [opened] at read
      simp only [List.cons_append] at read ⊢
      rw [value_list opens, read]
      rfl
  | record fields =>
    cases fields with
    | nil => rfl
    | cons field fields =>
      obtain ⟨name, value⟩ := field
      obtain ⟨first, others⟩ := Bool.and_eq_true_iff.mp finite
      have read := within.fields name value fields rest first others
        (Nat.le_of_succ_le_succ enough)
      simp only [printed, quoted, List.cons_append] at read ⊢
      rw [value_record, read]
      rfl

theorem items_step {item : Value} {items : List Value} (finite : isFinite item = true)
    (others : itemsFinite items = true)
    (enough : (printed item ++ printedItems items).length ≤ fuel + 1) (rest : List Char) :
    items? (fuel + 1) (printed item ++ printedItems items ++ rest) =
      some (item :: items, rest) := by
  have filled : 0 < (printedItems items).length := by cases items <;> exact Nat.zero_lt_succ _
  rw [List.length_append] at enough
  have first := within.value item _ finite (by omega) (items_endNumber items rest)
  rw [List.append_assoc, items?, skipBlanks_printed finite, first]
  dsimp only
  rw [skipBlanks_items]
  cases items with
  | nil => rfl
  | cons next items =>
    obtain ⟨second, others⟩ := Bool.and_eq_true_iff.mp others
    have bound : (printed next ++ printedItems items).length ≤ fuel := by
      simp only [printedItems, List.cons_append, List.length_cons] at enough
      omega
    have read := within.items next items rest second others bound
    simp only [printedItems, List.cons_append, read, Option.map_some]

theorem fields_step {name : String} {value : Value} {fields : List (String × Value)}
    (finite : isFinite value = true) (others : fieldsFinite fields = true)
    (enough : (quoted name ++ ':' :: printed value ++ printedFields fields).length ≤ fuel + 1)
    (rest : List Char) :
    fields? (fuel + 1) (quoted name ++ ':' :: printed value ++ printedFields fields ++ rest) =
      some ((name, value) :: fields, rest) := by
  have filled : 0 < (printedFields fields).length := by
    cases fields <;> exact Nat.zero_lt_succ _
  simp only [List.length_append, List.length_cons] at enough
  have first := within.value value _ finite (by omega) (fields_endNumber fields rest)
  have kept := skipBlanks_printed finite (printedFields fields ++ rest)
  simp only [List.append_assoc, List.cons_append]
  cases fields with
  | nil => exact (fields_first kept name rest).1 first
  | cons field fields =>
    obtain ⟨next, second⟩ := field
    obtain ⟨finite, others⟩ := Bool.and_eq_true_iff.mp others
    have bound : (quoted next ++ ':' :: printed second ++ printedFields fields).length ≤ fuel := by
      simp only [printedFields, List.cons_append, List.append_assoc, List.length_cons,
        List.length_append] at enough ⊢
      omega
    have read := within.fields next second fields rest finite others bound
    have step := (fields_first kept name
      (quoted next ++ ':' :: printed second ++ printedFields fields ++ rest)).2 first
    rw [step, read]
    rfl

end

theorem readsWithin (fuel : Nat) : ReadsWithin fuel := by
  induction fuel with
  | zero =>
    constructor
    · intro value rest finite nothing
      obtain ⟨c, more, opened, -⟩ := printed_opens finite
      simp [opened] at nothing
    · intro item items rest finite others nothing
      obtain ⟨c, more, opened, -⟩ := printed_opens finite
      simp [opened] at nothing
    · intro name value fields rest finite others nothing
      simp [quoted] at nothing
  | succ fuel within =>
    constructor
    · intro value rest finite enough ends
      exact value_step within finite enough ends
    · intro item items rest finite others enough
      exact items_step within finite others enough rest
    · intro name value fields rest finite others enough
      exact fields_step within finite others enough rest

/-- A value is read back from its text. -/
theorem parse_printed {value : Value} (finite : isFinite value = true) :
    parse? (printed value) = some value := by
  have read := (readsWithin ((printed value).length + 1)).value value [] finite (Nat.le_succ _)
    endsNumber_nil
  have kept := skipBlanks_printed finite []
  rw [List.append_nil] at read kept
  rw [parse?, kept, read]
  rfl

theorem digits_not_newline {text : List Char} (all : ∀ c ∈ text, isDigit c = true) :
    '\n' ∉ text := by
  intro member
  exact absurd (all '\n' member) (by decide)

theorem sign_not_newline (negative : Prop) [Decidable negative] :
    '\n' ∉ if negative then ['-'] else [] := by
  split <;> decide

theorem int_not_newline (n : Int) : '\n' ∉ Number.intDigits n := by
  have digits (n : Nat) := digits_not_newline (Number.decimalDigits_isDigit n)
  cases n with
  | ofNat n => exact digits n
  | negSucc n =>
    intro member
    rcases List.mem_cons.mp member with sign | later
    · cases sign
    · exact digits (n + 1) later

theorem decimal_not_newline {decimal : Decimal} (filled : decimal.digits ≠ 0) :
    '\n' ∉ realStyle.decimal decimal := by
  by_cases far : position decimal ≤ realStyle.leastPosition ∨
      realStyle.greatestPosition < position decimal
  · obtain ⟨first, more, spelled, -, text⟩ := scientific_layout filled far
    have digits := digits_not_newline (Number.decimalDigits_isDigit decimal.digits)
    have power := digits_not_newline
      (Number.decimalDigits_isDigit (decimal.exponent + more.length).natAbs)
    have sign := sign_not_newline (decimal.exponent + more.length < 0)
    rw [spelled, List.mem_cons, not_or] at digits
    rw [← List.append_nil (realStyle.decimal decimal), text, exponent_text, fractionText]
    split <;> simp [digits, power, sign]
  · obtain ⟨whole, part, text, positional⟩ := positional_layout filled far
    have before := digits_not_newline positional.opens.1
    have after := digits_not_newline positional.digits
    simp [text, before, after]

theorem real_not_newline (x : Binary64) : '\n' ∉ real x := by
  cases x with
  | finite negative bits =>
    obtain ⟨bits, small⟩ := bits
    have sign := sign_not_newline (negative = true)
    simp only [real, Number.RealStyle.finite]
    by_cases zero : bits = 0
    · simp [zero, sign]
    · have decimal := decimal_not_newline
        (Number.Binary64.digits_ne_zero zero (Number.shortest_holds zero))
      simp [zero, sign, decimal]
  | infinite negative => cases negative <;> decide
  | notANumber => decide

mutual

theorem printed_not_newline (value : Value) : '\n' ∉ printed value := by
  cases value with
  | null => decide
  | bool b => cases b <;> decide
  | int n => exact int_not_newline n
  | real x => exact real_not_newline x
  | text s => exact quoted_not_newline s
  | list items =>
    cases items with
    | nil => decide
    | cons item items =>
      have first := printed_not_newline item
      have others := items_not_newline items
      simp [printed, first, others]
  | record fields =>
    cases fields with
    | nil => decide
    | cons field fields =>
      obtain ⟨name, value⟩ := field
      have first := printed_not_newline value
      have others := fields_not_newline fields
      simp [printed, quoted_not_newline, first, others]

theorem items_not_newline (items : List Value) : '\n' ∉ printedItems items := by
  cases items with
  | nil => decide
  | cons item items =>
    have first := printed_not_newline item
    have others := items_not_newline items
    simp [printedItems, first, others]

theorem fields_not_newline (fields : List (String × Value)) : '\n' ∉ printedFields fields := by
  cases fields with
  | nil => decide
  | cons field fields =>
    obtain ⟨name, value⟩ := field
    have first := printed_not_newline value
    have others := fields_not_newline fields
    simp [printedFields, quoted_not_newline, first, others]

end

end ChangeRelay.Json
