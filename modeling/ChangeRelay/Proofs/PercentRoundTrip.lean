import ChangeRelay.Text.Percent

/-!
Reading undoes writing, for UTF-8 and for percent escapes on top of it. Every character is read back
from its own bytes, whatever follows them, and every byte from its own escape.
-/
namespace ChangeRelay.Text

namespace Utf8

theorem toNat_toUInt8 {n : Nat} (small : n < 256) : n.toUInt8.toNat = n := by
  have same : n.toUInt8.toNat = n % 256 := rfl
  omega

theorem decode_last {low high bits n : Nat} (rest : List UInt8) (least : low ≤ n) (most : n ≤ high)
    (small : n < 256) :
    decodeFrom (.inside 0 low high bits) (n.toUInt8 :: rest) =
      some (Char.ofNat (bits * 0x40 + (n - 0x80))) :: decodeFrom .between rest := by
  simp [decodeFrom, toNat_toUInt8 small, least, most]

theorem decode_next {more low high bits n : Nat} (rest : List UInt8) (least : low ≤ n)
    (most : n ≤ high) (small : n < 256) :
    decodeFrom (.inside (more + 1) low high bits) (n.toUInt8 :: rest) =
      decodeFrom (.inside more 0x80 0xBF (bits * 0x40 + (n - 0x80))) rest := by
  simp [decodeFrom, toNat_toUInt8 small, least, most]

theorem decode_first {n : Nat} {reading : Reading} (rest : List UInt8) (small : n < 256)
    (starts : first n = (none, reading)) :
    decodeFrom .between (n.toUInt8 :: rest) = decodeFrom reading rest := by
  simp [decodeFrom, toNat_toUInt8 small, starts]

theorem first_of_two {n : Nat} (least : 0x80 ≤ n) (most : n < 0x800) :
    first (0xC0 + n / 0x40) = (none, .inside 0 0x80 0xBF (n / 0x40)) := by
  have start : ¬0xC0 + n / 0x40 < 0x80 := by omega
  have noTail : ¬0xC0 + n / 0x40 < 0xC2 := by omega
  have two : 0xC0 + n / 0x40 < 0xE0 := by omega
  simp only [first, start, noTail, two, if_true, if_false, Nat.add_sub_cancel_left]

theorem first_of_three {n : Nat} (least : 0x800 ≤ n) (most : n < 0x10000)
    (valid : n < 0xD800 ∨ 0xDFFF < n) :
    ∃ low high, first (0xE0 + n / 0x1000) = (none, .inside 1 low high (n / 0x1000)) ∧
      low ≤ 0x80 + n / 0x40 % 0x40 ∧ 0x80 + n / 0x40 % 0x40 ≤ high := by
  have start : ¬0xE0 + n / 0x1000 < 0x80 := by omega
  have noTail : ¬0xE0 + n / 0x1000 < 0xC2 := by omega
  have noTwo : ¬0xE0 + n / 0x1000 < 0xE0 := by omega
  have three : 0xE0 + n / 0x1000 < 0xF0 := by omega
  by_cases lowest : n / 0x1000 = 0
  · refine ⟨0xA0, 0xBF, ?_, by omega, by omega⟩
    simp [first, lowest]
  · by_cases surrogates : n / 0x1000 = 13
    · refine ⟨0x80, 0x9F, ?_, by omega, by omega⟩
      simp [first, surrogates]
    · have notLowest : ¬0xE0 + n / 0x1000 = 0xE0 := by omega
      have notSurrogates : ¬0xE0 + n / 0x1000 = 0xED := by omega
      refine ⟨0x80, 0xBF, ?_, by omega, by omega⟩
      simp only [first, start, noTail, noTwo, three, notLowest, notSurrogates, if_true, if_false,
        Nat.add_sub_cancel_left]

theorem first_of_four {n : Nat} (least : 0x10000 ≤ n) (most : n < 0x110000) :
    ∃ low high, first (0xF0 + n / 0x40000) = (none, .inside 2 low high (n / 0x40000)) ∧
      low ≤ 0x80 + n / 0x1000 % 0x40 ∧ 0x80 + n / 0x1000 % 0x40 ≤ high := by
  have start : ¬0xF0 + n / 0x40000 < 0x80 := by omega
  have noTail : ¬0xF0 + n / 0x40000 < 0xC2 := by omega
  have noTwo : ¬0xF0 + n / 0x40000 < 0xE0 := by omega
  have noThree : ¬0xF0 + n / 0x40000 < 0xF0 := by omega
  by_cases lowest : n / 0x40000 = 0
  · refine ⟨0x90, 0xBF, ?_, by omega, by omega⟩
    simp [first, lowest]
  · by_cases highest : n / 0x40000 = 4
    · refine ⟨0x80, 0x8F, ?_, by omega, by omega⟩
      simp [first, highest]
    · have notThree : ¬0xF0 + n / 0x40000 = 0xE0 := by omega
      have notSurrogates : ¬0xF0 + n / 0x40000 = 0xED := by omega
      have notLowest : ¬0xF0 + n / 0x40000 = 0xF0 := by omega
      have four : 0xF0 + n / 0x40000 < 0xF4 := by omega
      refine ⟨0x80, 0xBF, ?_, by omega, by omega⟩
      simp only [first, start, noTail, noTwo, noThree, notThree, notSurrogates, notLowest, four,
        if_true, if_false, Nat.add_sub_cancel_left]

theorem scalar (c : Char) : c.toNat < 0xD800 ∨ 0xDFFF < c.toNat ∧ c.toNat < 0x110000 := c.valid

theorem decode_encodeChar (c : Char) (rest : List UInt8) :
    decodeFrom .between (encodeChar c ++ rest) = some c :: decodeFrom .between rest := by
  have valid := scalar c
  have back := Char.ofNat_toNat c
  unfold encodeChar
  generalize c.toNat = n at valid back ⊢
  rw [← back]
  by_cases one : n < 0x80
  · simp only [one, if_true, List.singleton_append]
    simp [decodeFrom, first, toNat_toUInt8 (by omega : n < 256), one]
  · by_cases two : n < 0x800
    · simp only [one, two, if_true, if_false, List.cons_append, List.nil_append]
      rw [decode_first _ (by omega) (first_of_two (by omega) two),
        decode_last rest (by omega) (by omega) (by omega)]
      have sum : n / 0x40 * 0x40 + (0x80 + n % 0x40 - 0x80) = n := by omega
      rw [sum]
    · by_cases three : n < 0x10000
      · obtain ⟨low, high, starts, least, most⟩ :=
          first_of_three (by omega : 0x800 ≤ n) three (by omega)
        simp only [one, two, three, if_true, if_false, List.cons_append, List.nil_append]
        rw [decode_first _ (by omega) starts, decode_next _ least most (by omega),
          decode_last rest (by omega) (by omega) (by omega)]
        have sum : (n / 0x1000 * 0x40 + (0x80 + n / 0x40 % 0x40 - 0x80)) * 0x40 +
            (0x80 + n % 0x40 - 0x80) = n := by omega
        rw [sum]
      · obtain ⟨low, high, starts, least, most⟩ :=
          first_of_four (by omega : 0x10000 ≤ n) (by omega)
        simp only [one, two, three, if_false, List.cons_append, List.nil_append]
        rw [decode_first _ (by omega) starts, decode_next _ least most (by omega),
          decode_next _ (by omega) (by omega) (by omega),
          decode_last rest (by omega) (by omega) (by omega)]
        have sum : ((n / 0x40000 * 0x40 + (0x80 + n / 0x1000 % 0x40 - 0x80)) * 0x40 +
            (0x80 + n / 0x40 % 0x40 - 0x80)) * 0x40 + (0x80 + n % 0x40 - 0x80) = n := by omega
        rw [sum]

theorem decodeFrom_encode (text : List Char) :
    decodeFrom .between (encode text) = text.map some := by
  induction text with
  | nil => rfl
  | cons c rest ih =>
    rw [encode, List.flatMap_cons, decode_encodeChar, List.map_cons]
    exact congrArg (some c :: ·) ih

theorem decodeLossy_encode (text : List Char) : decodeLossy (encode text) = text := by
  rw [decodeLossy, decodeFrom_encode, List.map_map]
  exact List.map_id text

theorem toNat_ofNat {n : Nat} (small : n < 0x80) : (Char.ofNat n).toNat = n := by
  have valid : n.isValidChar := Or.inl (by omega)
  rw [Char.ofNat, dif_pos valid]
  rfl

theorem encode_plain {bytes : List UInt8} (plain : ∀ byte ∈ bytes, byte.toNat < 0x80) :
    encode (bytes.map fun byte => Char.ofNat byte.toNat) = bytes := by
  induction bytes with
  | nil => rfl
  | cons byte rest ih =>
    have small := plain byte List.mem_cons_self
    have others := ih fun other member => plain other (List.mem_cons_of_mem _ member)
    rw [List.map_cons, encode, List.flatMap_cons, encodeChar, toNat_ofNat small]
    simp only [small, if_true, List.singleton_append]
    rw [encode] at others
    rw [others]
    simp

end Utf8

namespace Percent

theorem hexValue_upperHexDigit : ∀ n < 16, hexValue (upperHexDigit n) = some n := by
  decide

theorem upperHexDigit_plain : ∀ n < 16, isPlain (upperHexDigit n) = true := by
  decide

theorem percent_not_plain : isPlain 37 = false := by
  decide

theorem unescape_other {byte : UInt8} (other : byte ≠ 37) (rest : List UInt8) :
    unescape (byte :: rest) = byte :: unescape rest := by
  match rest with
  | [] => rfl
  | [_] => rfl
  | _ :: _ :: _ => rw [unescape, if_neg other]

theorem unescape_escapeByte (byte : UInt8) (rest : List UInt8) :
    unescape (escapeByte byte ++ rest) = byte :: unescape rest := by
  unfold escapeByte
  by_cases plain : isPlain byte = true
  · rw [if_pos plain, List.singleton_append]
    refine unescape_other ?_ rest
    rintro rfl
    rw [percent_not_plain] at plain
    cases plain
  · have size : byte.toNat < 256 := byte.toNat_lt
    rw [if_neg plain, List.cons_append, List.cons_append, List.cons_append, List.nil_append,
      unescape, if_pos rfl, hexValue_upperHexDigit _ (by omega),
      hexValue_upperHexDigit _ (by omega)]
    have sum : byte.toNat / 16 * 16 + byte.toNat % 16 = byte.toNat := by omega
    simp [sum]

theorem unescape_escapeBytes (bytes : List UInt8) :
    unescape (bytes.flatMap escapeByte) = bytes := by
  induction bytes with
  | nil => rfl
  | cons byte rest ih => rw [List.flatMap_cons, unescape_escapeByte, ih]

theorem escapeByte_parts {byte part : UInt8} (member : part ∈ escapeByte byte) :
    isPlain part = true ∨ part = 37 := by
  unfold escapeByte at member
  split at member
  · rename_i plain
    rw [List.mem_singleton.mp member]
    exact Or.inl plain
  · have size : byte.toNat < 256 := byte.toNat_lt
    simp only [List.mem_cons, List.not_mem_nil, or_false] at member
    rcases member with rfl | rfl | rfl
    · exact Or.inr rfl
    · exact Or.inl (upperHexDigit_plain _ (by omega))
    · exact Or.inl (upperHexDigit_plain _ (by omega))

theorem plain_small {byte : UInt8} (plain : isPlain byte = true) : byte.toNat < 0x80 := by
  simp only [isPlain, Bool.or_eq_true, Bool.and_eq_true, decide_eq_true_eq, beq_iff_eq] at plain
  omega

theorem decode_escape (text : List Char) : decode (escape text) = text := by
  have plain : ∀ byte ∈ (Utf8.encode text).flatMap escapeByte, byte.toNat < 0x80 := by
    intro byte member
    obtain ⟨whole, -, part⟩ := List.mem_flatMap.mp member
    rcases escapeByte_parts part with plain | rfl
    · exact plain_small plain
    · decide
  rw [decode, escape, Utf8.encode_plain plain, unescape_escapeBytes, Utf8.decodeLossy_encode]

end Percent
end ChangeRelay.Text
