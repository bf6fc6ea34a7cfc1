import ChangeRelay.Json.Parse
import ChangeRelay.Json.Print

/-!
Texts as JSON are read back. Every character is read back from its own escape, whatever follows it,
and no escape holds the end of a line.
-/
namespace ChangeRelay.Json

theorem hexValue_hexDigit : ∀ d < 16, hexValue? (Text.hexDigit d) = some d := by decide

theorem fourDigits_read {n : Nat} (small : n < 65536) (rest : List Char) :
    fourDigits? (Text.hexDigits n 4 ++ rest) = some (n, rest) := by
  have digits : Text.hexDigits n 4 = [Text.hexDigit (n / 16 / 16 / 16 % 16),
      Text.hexDigit (n / 16 / 16 % 16), Text.hexDigit (n / 16 % 16), Text.hexDigit (n % 16)] := rfl
  have value (d : Nat) : hexValue? (Text.hexDigit (d % 16)) = some (d % 16) :=
    hexValue_hexDigit _ (Nat.mod_lt _ (by omega))
  rw [digits]
  simp only [List.cons_append, List.nil_append, fourDigits?, value, Option.some.injEq,
    Prod.mk.injEq, and_true]
  omega

theorem unicodeEscape_read {c : Char} (low : c.toNat < 0x20) (rest : List Char) :
    unicodeEscape? (Text.hexDigits c.toNat 4 ++ rest) = some (c, rest) := by
  have noFirst : ¬(0xD800 ≤ c.toNat ∧ c.toNat < 0xDC00) := by omega
  have noSecond : ¬(0xDC00 ≤ c.toNat ∧ c.toNat < 0xE000) := by omega
  unfold unicodeEscape?
  rw [fourDigits_read (by omega)]
  simp only [noFirst, noSecond, if_false, Char.ofNat_toNat]

def shortEscapes : List Char := ['"', '\\', '\x08', '\x0c', '\n', '\r', '\t']

theorem escaped_plain {c : Char} (plain : c ∉ shortEscapes) :
    escaped c = if c.toNat < 0x20 then ['\\', 'u'] ++ Text.hexDigits c.toNat 4 else [c] := by
  simp only [shortEscapes, List.mem_cons, List.not_mem_nil, or_false, not_or] at plain
  obtain ⟨quote, backslash, backspace, feed, newline, return_, tab⟩ := plain
  simp only [escaped, quote, backslash, backspace, feed, newline, return_, tab, if_false]

theorem escaped_read (fuel : Nat) (c : Char) (rest : List Char) :
    textBody (fuel + 1) (escaped c ++ rest) =
      (textBody fuel rest).map fun (body, rest) => (c :: body, rest) := by
  by_cases short : c ∈ shortEscapes
  · simp only [shortEscapes, List.mem_cons, List.not_mem_nil, or_false] at short
    rcases short with rfl | rfl | rfl | rfl | rfl | rfl | rfl <;> rfl
  · rw [escaped_plain short]
    split
    · rename_i low
      have read := unicodeEscape_read low rest
      simp [textBody, escape?, read]
    · rename_i high
      have noQuote : c ≠ '"' := fun same => short (same ▸ by decide)
      have noBackslash : c ≠ '\\' := fun same => short (same ▸ by decide)
      simp [textBody, noQuote, noBackslash, high]

theorem textBody_read (text : List Char) {fuel : Nat} (enough : text.length < fuel)
    (rest : List Char) :
    textBody fuel (text.flatMap escaped ++ '"' :: rest) = some (text, rest) := by
  induction text generalizing fuel with
  | nil =>
    obtain ⟨less, rfl⟩ := Nat.exists_eq_add_one.mpr enough
    rfl
  | cons c more ih =>
    rw [List.length_cons] at enough
    obtain ⟨less, rfl⟩ := Nat.exists_eq_add_one.mpr (Nat.zero_lt_of_lt enough)
    rw [List.flatMap_cons, List.append_assoc, escaped_read, ih (by omega)]
    rfl

theorem escaped_length (c : Char) : 0 < (escaped c).length := by
  by_cases short : c ∈ shortEscapes
  · simp only [shortEscapes, List.mem_cons, List.not_mem_nil, or_false] at short
    rcases short with rfl | rfl | rfl | rfl | rfl | rfl | rfl <;> decide
  · rw [escaped_plain short]
    split <;> simp

theorem length_le_flatMap (text : List Char) : text.length ≤ (text.flatMap escaped).length := by
  induction text with
  | nil => exact Nat.le_refl _
  | cons c more ih =>
    have some_ := escaped_length c
    rw [List.flatMap_cons, List.length_append, List.length_cons]
    omega

theorem text_read (text : String) (rest : List Char) :
    text? (text.toList.flatMap escaped ++ '"' :: rest) = some (text, rest) := by
  have enough : text.toList.length <
      (text.toList.flatMap escaped ++ '"' :: rest).length + 1 := by
    have shorter := length_le_flatMap text.toList
    rw [List.length_append]
    omega
  rw [text?, textBody_read text.toList enough, Option.map_some]
  dsimp only
  rw [String.ofList_toList]

theorem hexDigit_not_newline : ∀ d < 16, Text.hexDigit d ≠ '\n' := by decide

theorem hexDigits_not_newline (n width : Nat) : '\n' ∉ Text.hexDigits n width := by
  induction width generalizing n with
  | zero => exact List.not_mem_nil
  | succ width ih =>
    intro member
    rcases List.mem_append.mp member with before | last
    · exact ih _ before
    · have digit := hexDigit_not_newline (n % 16) (Nat.mod_lt _ (by omega))
      exact digit (List.mem_singleton.mp last).symm

theorem escaped_not_newline (c : Char) : '\n' ∉ escaped c := by
  by_cases short : c ∈ shortEscapes
  · simp only [shortEscapes, List.mem_cons, List.not_mem_nil, or_false] at short
    rcases short with rfl | rfl | rfl | rfl | rfl | rfl | rfl <;> decide
  · rw [escaped_plain short]
    split
    · have digits := hexDigits_not_newline c.toNat 4
      simpa using digits
    · rename_i high
      intro member
      rw [← List.mem_singleton.mp member] at high
      exact high (by decide)

theorem quoted_not_newline (text : String) : '\n' ∉ quoted text := by
  have escapes : '\n' ∉ text.toList.flatMap escaped := by
    intro member
    obtain ⟨c, -, inside⟩ := List.mem_flatMap.mp member
    exact escaped_not_newline c inside
  simpa [quoted] using escapes

end ChangeRelay.Json
