import ChangeRelay.Text.Pieces
import ChangeRelay.Number.Decimal

/-!
The host part of a URI. A host in brackets is an address of eight groups, or of a later kind
announced by `v`; some characters beyond ASCII are refused because they decompose into delimiters.
-/
namespace ChangeRelay.Uri

inductive HostFlaw where
  | oneSidedBracket
  | badFutureAddress
  | shortAddressInBrackets
  | noAddress (host : String)
  | hiddenDelimiter (host : String)
  deriving DecidableEq, Repr

namespace Host

def isHexDigit (c : Char) : Bool :=
  Number.isDigit c || ('a' ≤ c && c ≤ 'f') || ('A' ≤ c && c ≤ 'F')

def isOctet (text : List Char) : Bool :=
  text != [] && text.all Number.isDigit && text.length ≤ 3 &&
    (text == ['0'] || text.head? != some '0') && Number.readDecimal text ≤ 255

def isShortAddress (text : List Char) : Bool :=
  let parts := Text.pieces '.' text
  parts.length == 4 && parts.all isOctet

def isGroup (text : List Char) : Bool :=
  text != [] && text.all isHexDigit && text.length ≤ 4

/-- The groups of an address with a four-part address at its end written as two groups. -/
def groups? (text : List Char) : Option (List (List Char)) :=
  let parts := Text.pieces ':' text
  match parts.getLast? with
  | some last =>
    if last.contains '.' then
      if isShortAddress last then some (parts.dropLast ++ [['0'], ['0']]) else none
    else some parts
  | none => none

/-- Whether the groups before and after a gap are in order; an outer end may be empty only right
beside the gap. -/
def isSide (groups : List (List Char)) : Bool := groups == [[]] || groups.all isGroup

def sideLength (groups : List (List Char)) : Nat := if groups == [[]] then 0 else groups.length

def areGroups (groups : List (List Char)) : Bool :=
  let inner := groups.tail.dropLast
  match inner.idxOf? [] with
  | none => groups.length == 8 && groups.all isGroup
  | some gap =>
    let before := groups.take (gap + 1)
    let after := groups.drop (gap + 2)
    !(inner.drop (gap + 1)).contains [] && isSide before && isSide after &&
      sideLength before + sideLength after ≤ 7

def isLongAddress (text : List Char) : Bool :=
  let (address, zone) := Text.cut '%' text
  let zoned := match zone with
    | none => true
    | some zone => zone != [] && !zone.contains '%'
  zoned && 3 ≤ (Text.pieces ':' address).length &&
    match groups? address with
    | some groups => groups.length ≤ 9 && areGroups groups
    | none => false

def isFutureAddress : List Char → Bool
  | 'v' :: rest =>
    let (version, address) := Text.cut '.' rest
    version != [] && version.all isHexDigit && (address.getD []) != []
  | _ => false

def delimiterLike : List Char :=
  ['\u2047', '\u2048', '\u2049', '\u2100', '\u2101', '\u2105', '\u2106', '\u2a74', '\ufe13',
    '\ufe16', '\ufe55', '\ufe56', '\ufe5f', '\ufe6b', '\uff03', '\uff0f', '\uff1a', '\uff1f',
    '\uff20']

/-- Looks at the address between the brackets only: whatever stands before the opening bracket and
behind the closing one passes. -/
def checkBrackets (host : List Char) : Except HostFlaw Unit :=
  if host.contains '[' != host.contains ']' then .error .oneSidedBracket
  else if !host.contains '[' then .ok ()
  else
    let address := (Text.cut ']' ((Text.cut '[' host).2.getD [])).1
    if address.head? = some 'v' then
      if isFutureAddress address then .ok () else .error .badFutureAddress
    else if isShortAddress address then .error .shortAddressInBrackets
    else if isLongAddress address then .ok ()
    else .error (.noAddress (String.ofList address))

def checkDelimiters (host : List Char) : Except HostFlaw Unit :=
  if host.any delimiterLike.contains then .error (.hiddenDelimiter (String.ofList host)) else .ok ()

end Host
end ChangeRelay.Uri
