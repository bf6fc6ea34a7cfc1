import ChangeRelay.Text.Utf8

/-!
Reading bytes in a charset. A sequence that the charset does not allow has no text. The name of a
charset may be written with any marks between its letters and digits and in any case.
-/
namespace ChangeRelay.Text

inductive Charset where
  | utf8
  | ascii
  | latin1
  | utf16LittleEndian
  deriving DecidableEq, Repr

namespace Charset

def names : List (String × Charset) :=
  [("utf_8", .utf8), ("utf8", .utf8), ("u8", .utf8), ("utf", .utf8), ("ascii", .ascii),
    ("us_ascii", .ascii), ("646", .ascii), ("iso646_us", .ascii), ("latin_1", .latin1),
    ("latin1", .latin1), ("latin", .latin1), ("l1", .latin1), ("iso_8859_1", .latin1),
    ("iso8859_1", .latin1), ("iso8859", .latin1), ("8859", .latin1), ("cp819", .latin1),
    ("utf_16_le", .utf16LittleEndian), ("utf_16le", .utf16LittleEndian)]

def isNamePart (c : Char) : Bool := c.isAlphanum || c == '.'

/-- A name in small letters, with one underscore for every run of marks inside it. -/
def plainName : List Char → List Char
  | [] => []
  | c :: rest =>
    if isNamePart c then c.toLower :: plainName rest
    else
      match plainName rest with
      | [] => []
      | '_' :: more => '_' :: more
      | more => '_' :: more

def withoutMark : List Char → List Char
  | '_' :: rest => rest
  | name => name

def named? (name : String) : Option Charset :=
  names.lookup (String.ofList (withoutMark (plainName name.toList)))

def asciiChar? (byte : UInt8) : Option Char :=
  if byte.toNat < 0x80 then some (Char.ofNat byte.toNat) else none

def decodePairs? : List UInt8 → Option (List Char)
  | [] => some []
  | [_] => none
  | low :: high :: rest =>
    let unit := low.toNat + 0x100 * high.toNat
    if unit < 0xD800 ∨ 0xE000 ≤ unit then (decodePairs? rest).map (Char.ofNat unit :: ·)
    else
      match rest with
      | low :: high :: rest =>
        let second := low.toNat + 0x100 * high.toNat
        if unit < 0xDC00 ∧ 0xDC00 ≤ second ∧ second < 0xE000 then
          (decodePairs? rest).map
            (Char.ofNat (0x10000 + (unit - 0xD800) * 0x400 + (second - 0xDC00)) :: ·)
        else none
      | _ => none

def decode? (bytes : List UInt8) : Charset → Option (List Char)
  | .utf8 => Utf8.decode? bytes
  | .ascii => bytes.mapM asciiChar?
  | .latin1 => some (bytes.map fun byte => Char.ofNat byte.toNat)
  | .utf16LittleEndian => decodePairs? bytes

end Charset
end ChangeRelay.Text
