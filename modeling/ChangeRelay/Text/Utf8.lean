/-!
UTF-8. Reading goes byte by byte: a character in progress remembers how many bytes it still needs
and between which bounds the next one lies, so that each longest part that cannot be completed is
reported once and the byte that broke it is read again as a first byte.
-/
namespace ChangeRelay.Text.Utf8

def encodeChar (c : Char) : List UInt8 :=
  let n := c.toNat
  if n < 0x80 then [n.toUInt8]
  else if n < 0x800 then [(0xC0 + n / 0x40).toUInt8, (0x80 + n % 0x40).toUInt8]
  else if n < 0x10000 then
    [(0xE0 + n / 0x1000).toUInt8, (0x80 + n / 0x40 % 0x40).toUInt8, (0x80 + n % 0x40).toUInt8]
  else
    [(0xF0 + n / 0x40000).toUInt8, (0x80 + n / 0x1000 % 0x40).toUInt8,
      (0x80 + n / 0x40 % 0x40).toUInt8, (0x80 + n % 0x40).toUInt8]

def encode (text : List Char) : List UInt8 := text.flatMap encodeChar

/-- Where a reader stands: between characters, or inside one that needs `more + 1` bytes, the next
of them within bounds, with the bits read so far. -/
inductive Reading where
  | between
  | inside (more low high bits : Nat)
  deriving DecidableEq, Repr

/-- What a byte does between characters: a character (`none` for a byte that starts nothing), or
the start of a longer one. -/
def first (byte : Nat) : Option (Option Char) × Reading :=
  if byte < 0x80 then (some (some (Char.ofNat byte)), .between)
  else if byte < 0xC2 then (some none, .between)
  else if byte < 0xE0 then (none, .inside 0 0x80 0xBF (byte - 0xC0))
  else if byte = 0xE0 then (none, .inside 1 0xA0 0xBF 0)
  else if byte = 0xED then (none, .inside 1 0x80 0x9F 13)
  else if byte < 0xF0 then (none, .inside 1 0x80 0xBF (byte - 0xE0))
  else if byte = 0xF0 then (none, .inside 2 0x90 0xBF 0)
  else if byte < 0xF4 then (none, .inside 2 0x80 0xBF (byte - 0xF0))
  else if byte = 0xF4 then (none, .inside 2 0x80 0x8F 4)
  else (some none, .between)

def decodeFrom : Reading → List UInt8 → List (Option Char)
  | .between, [] => []
  | .inside .., [] => [none]
  | .between, byte :: rest =>
    match first byte.toNat with
    | (some out, reading) => out :: decodeFrom reading rest
    | (none, reading) => decodeFrom reading rest
  | .inside more low high bits, byte :: rest =>
    let b := byte.toNat
    if low ≤ b ∧ b ≤ high then
      let value := bits * 0x40 + (b - 0x80)
      match more with
      | 0 => some (Char.ofNat value) :: decodeFrom .between rest
      | more + 1 => decodeFrom (.inside more 0x80 0xBF value) rest
    else
      match first b with
      | (some out, reading) => none :: out :: decodeFrom reading rest
      | (none, reading) => none :: decodeFrom reading rest

def decodeLossy (bytes : List UInt8) : List Char :=
  (decodeFrom .between bytes).map (·.getD '\uFFFD')

def decode? (bytes : List UInt8) : Option (List Char) := (decodeFrom .between bytes).mapM id

end ChangeRelay.Text.Utf8
