import ChangeRelay.Path.Relative
import ChangeRelay.Text.Percent
import ChangeRelay.Uri.Host

/-!
URIs as locations. The path of a URI is what is left when scheme, host, parameters, query and
fragment are taken away; its escapes are read as UTF-8. A path with a drive loses the slash before
it and has its backslashes turned into slashes. The URI of a local path is `file://` and the
path with every byte escaped that is not plain.
-/
namespace ChangeRelay.Uri

def schemesWithParameters : List String :=
  ["", "ftp", "hdl", "prospero", "http", "imap", "https", "shttp", "rtsp", "rtsps", "rtspu", "sip",
    "sips", "mms", "sftp", "tel"]

def cleaned (text : List Char) : List Char :=
  (text.dropWhile fun c => c.toNat ≤ 0x20).filter fun c => c != '\t' && c != '\r' && c != '\n'

def isSchemeChar (c : Char) : Bool :=
  ('a' ≤ c && c ≤ 'z') || ('A' ≤ c && c ≤ 'Z') || Number.isDigit c || ['+', '-', '.'].contains c

def isLetter (c : Char) : Bool := ('a' ≤ c && c ≤ 'z') || ('A' ≤ c && c ≤ 'Z')

/-- The scheme in lower case and the rest; no scheme if what stands before the first colon is no
scheme's name. -/
def scheme (text : List Char) : List Char × List Char :=
  match Text.cut ':' text with
  | (name, some rest) =>
    if name.head?.any isLetter && name.all isSchemeChar then (name.map Char.toLower, rest)
    else ([], text)
  | (_, none) => ([], text)

def endsHost (c : Char) : Bool := c == '/' || c == '?' || c == '#'

def host : List Char → List Char × List Char
  | '/' :: '/' :: rest => (rest.takeWhile (!endsHost ·), rest.dropWhile (!endsHost ·))
  | text => ([], text)

def withoutParameters (text : List Char) : List Char :=
  let last := (text.reverse.takeWhile (· != '/')).reverse
  text.take (text.length - last.length) ++ (Text.cut ';' last).1

def rawPath (text : List Char) : Except HostFlaw (List Char) := do
  let (name, rest) := scheme (cleaned text)
  let (authority, rest) := host rest
  Host.checkBrackets authority
  Host.checkDelimiters authority
  let path := (Text.cut '?' (Text.cut '#' rest).1).1
  if schemesWithParameters.contains (String.ofList name) then return withoutParameters path
  else return path

/-- A path with a drive in front, which is any character but a separator and a colon. Backslashes
separate too. -/
def drivePath (text : List Char) : Path :=
  let slashed := text.map fun c => if c = '\\' then '/' else c
  let (drive, rest) := match slashed with
    | letter :: ':' :: rest => if letter = '/' then ([], slashed) else ([letter, ':'], rest)
    | _ => ([], slashed)
  let names := (Text.pieces '/' rest).filter Path.significant
  let root := if rest.head? = some '/' then ['/'] else []
  Path.ofChars (drive ++ root ++ Text.joined '/' names)

def pathOfRaw (raw : List Char) : Path :=
  match raw with
  | '/' :: letter :: ':' :: rest => drivePath (letter :: ':' :: rest)
  | raw => Path.ofChars raw

def pathOf (uri : String) : Except HostFlaw Path :=
  (rawPath uri.toList).map fun raw => pathOfRaw (Text.Percent.decode raw)

def ofPath (path : Path) : String :=
  String.ofList ("file://".toList ++ Text.Percent.escape path.chars)

inductive NoRelative where
  | host (flaw : HostFlaw)
  | way (noWay : Path.NoWay)
  deriving DecidableEq, Repr

/-- The way from one URI's path to another's; the target is read first. -/
def fromTo (base uri : String) : Except NoRelative Path := do
  let target ← (pathOf uri).mapError .host
  let base ← (pathOf base).mapError .host
  (target.relativeTo base).mapError .way

end ChangeRelay.Uri
