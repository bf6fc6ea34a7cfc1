import ChangeRelay.Path
import ChangeRelay.Text.Percent

/-!
From a URI to the local file that holds its content. The protocol is what stands before `://`;
without one, or with a protocol of a single letter, the location is local. Behind `::` a URI may
name further stores, whose protocols have to be known as well. The rest of a local location is
unescaped once and read as a path.
-/
namespace ChangeRelay.Storage

inductive Refusal where
  | unknownProtocol (protocol : String)
  | unavailable (advice : String)
  deriving DecidableEq, Repr

def Refusal.reason : Refusal → String
  | .unknownProtocol protocol => "Protocol not known: " ++ protocol
  | .unavailable advice => advice

inductive Store where
  | localFiles
  | otherFiles
  | refused (refusal : Refusal)
  deriving DecidableEq, Repr

def unavailableStores : List (String × String) :=
  let cloud := "Please install gcsfs to access Google Storage"
  let bucket := "Install s3fs to access S3"
  let web := "HTTPFileSystem requires \"requests\" and \"aiohttp\" to be installed"
  let lake := "Install adlfs to access Azure Datalake Gen2 and Azure Blob Storage"
  let shell := "SFTPFileSystem requires \"paramiko\" to be installed"
  let cluster := "pyarrow and local java libraries required for HDFS"
  [("s3", bucket), ("s3a", bucket), ("gs", cloud), ("gcs", cloud), ("http", web), ("https", web),
    ("abfs", lake), ("az", lake), ("adl", "Install adlfs to access Azure Datalake Gen1"),
    ("sftp", shell), ("ssh", shell), ("hdfs", cluster), ("arrow_hdfs", cluster),
    ("smb", "SMB requires \"smbprotocol\" or \"smbprotocol[kerberos]\" installed"),
    ("github", "Install the requests package to use the github FS"),
    ("git", "Install pygit2 to browse local git repos"),
    ("webhdfs", "webHDFS access requires \"requests\" to be installed"),
    ("webdav", "Install webdav4 to access WebDAV"),
    ("hf", "Install huggingface_hub to access HfFileSystem"),
    ("oss", "Install ossfs to access Alibaba Object Storage System"),
    ("box", "Please install boxfs to access BoxFileSystem")]

def otherStores : List String := ["memory", "data"]

def storeOf (protocol : List Char) : Store :=
  let name := String.ofList protocol
  if name = "file" ∨ name = "local" then .localFiles
  else if otherStores.contains name then .otherFiles
  else
    match unavailableStores.lookup name with
    | some advice => .refused (.unavailable advice)
    | none => .refused (.unknownProtocol name)

def separator : List Char := "://".toList

/-- The protocol of a location; a single letter is none. -/
def protocol (location : List Char) : List Char :=
  match Text.cutAt separator location with
  | some (name, _) =>
    if 1 < name.length then name
    else if (Text.after? "data:".toList location).isSome then "data".toList
    else "file".toList
  | none => if (Text.after? "data:".toList location).isSome then "data".toList else "file".toList

def isSmallLetter (c : Char) : Bool := 'a' ≤ c && c ≤ 'z'

/-- The locations of a chain. A single small word in a chain is a protocol. -/
def chain (uri : List Char) : Nat → List (List Char)
  | 0 => [uri]
  | fuel + 1 =>
    match Text.cutAt [':', ':'] uri with
    | some (first, rest) => first :: chain rest fuel
    | none => [uri]

def asLocation (link : List Char) : List Char :=
  if link.all isSmallLetter then link ++ separator else link

def locations (uri : List Char) : List (List Char) :=
  match chain uri uri.length with
  | [single] => [single]
  | links => links.map asLocation

def localPart (location : List Char) : List Char :=
  let marks := ["file://", "file:", "local://", "local:"]
  (marks.findSome? fun mark => Text.after? mark.toList location).getD location

def withoutFinalSlashes (text : List Char) : List Char :=
  (text.reverse.dropWhile (· == '/')).reverse

def placeOf (location : List Char) : List Char :=
  let trimmed := withoutFinalSlashes (localPart location)
  if trimmed = [] then ['/'] else trimmed

/-- The first refusal among the stores of a chain, looked at from its end. -/
def refusal? (links : List (List Char)) : Option Refusal :=
  links.reverse.findSome? fun link =>
    match storeOf (protocol link) with
    | .refused refusal => some refusal
    | _ => none

inductive Opened where
  | inLocalFiles (place : List Char)
  | elsewhere
  deriving DecidableEq, Repr

abbrev Opener := String → Except Refusal Opened

def openUri : Opener := fun uri =>
  let links := locations uri.toList
  match refusal? links, links with
  | some refusal, _ => .error refusal
  | none, first :: _ =>
    if storeOf (protocol first) = .localFiles then .ok (.inLocalFiles (placeOf first))
    else .ok .elsewhere
  | none, [] => .ok .elsewhere

/-- The path of what a URI is opened as, none for a store without local files. -/
def locateBy (opener : Opener) (uri : String) : Except Refusal (Option Path) :=
  (opener uri).map fun
    | .inLocalFiles place => some (Path.ofChars (Text.Percent.decode place))
    | .elsewhere => none

def locate (uri : String) : Except Refusal (Option Path) := locateBy openUri uri

end ChangeRelay.Storage
