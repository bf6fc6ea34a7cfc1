/-!
Bytes written in 64 letters, four letters for three bytes. Characters that are no letters are passed
over; enough padding ends the text early.
-/
namespace ChangeRelay.Text.Base64

def letterValue? (c : Char) : Option Nat :=
  if 'A' ≤ c ∧ c ≤ 'Z' then some (c.toNat - 65)
  else if 'a' ≤ c ∧ c ≤ 'z' then some (c.toNat - 71)
  else if '0' ≤ c ∧ c ≤ '9' then some (c.toNat + 4)
  else if c = '+' then some 62
  else if c = '/' then some 63
  else none

/-- The bytes that the letters from here on complete. `filled` letters of a group of four have been
read, with `bits` left over from them, and `pads` signs of padding stand behind them. -/
def decodeFrom (filled bits pads : Nat) : List Char → Option (List UInt8)
  | [] => if filled = 0 then some [] else none
  | c :: rest =>
    if c = '=' then
      if 2 ≤ filled then
        if 4 ≤ filled + (pads + 1) then some [] else decodeFrom filled bits (pads + 1) rest
      else decodeFrom filled bits pads rest
    else
      match letterValue? c with
      | none => decodeFrom filled bits pads rest
      | some v =>
        match filled with
        | 0 => decodeFrom 1 v 0 rest
        | 1 => (decodeFrom 2 (v % 16) 0 rest).map ((bits * 4 + v / 16).toUInt8 :: ·)
        | 2 => (decodeFrom 3 (v % 4) 0 rest).map ((bits * 16 + v / 4).toUInt8 :: ·)
        | _ => (decodeFrom 0 0 0 rest).map ((bits * 64 + v).toUInt8 :: ·)

def decode? (text : List Char) : Option (List UInt8) := decodeFrom 0 0 0 text

end ChangeRelay.Text.Base64
