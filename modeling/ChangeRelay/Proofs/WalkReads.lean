import ChangeRelay.Delta.Walk
import Mathlib.Data.Int.Bitwise

/-!
What a walk reads. A walk reads a node's attributes one after the other and only as far as they
matter; the first one that fails ends it. `Seen` says what a node comes to if nothing fails, and
`Refused` which attribute fails first. `Walked` and `Broken` say the same of several trees, one
after the other, each node before its children.
-/
namespace ChangeRelay.Delta

variable {φ : Type}

inductive Read where
  | resource
  | path
  | kind
  | location
  | file
  | exclusions
  | flags
  | children
  deriving DecidableEq, Repr

def Subject.IsAt (subject : Subject φ) (resource : Resource φ) (path : Path) : Prop :=
  subject.resource = .ok resource ∧ resource.workspacePath = .ok path

def Subject.Counts (subject : Subject φ) (guide : Guide φ) (resource : Resource φ) (path : Path) :
    Prop :=
  subject.IsAt resource path ∧ Exclusion.passesThrough guide.ignoredFolders path = false

def Subject.Shows (subject : Subject φ) (guide : Guide φ) (path : Path) (kind : Kind) (file : φ) :
    Prop :=
  ∃ resource, subject.Counts guide resource path ∧ subject.kind = .ok kind ∧ kind ≠ .removed ∧
    resource.file = .ok (some file)

def Guide.find (guide : Guide φ) (cache : Exclusion.Cache) (file : φ) : Exclusion.Found :=
  Exclusion.find guide.providers cache (guide.look file).project

def Subject.Stays (subject : Subject φ) (guide : Guide φ) (cache : Exclusion.Cache) (kind : Kind)
    (file : φ) : Prop :=
  ∃ path exclusions, subject.Shows guide path kind file ∧
    (guide.find cache file).paths = .ok exclusions ∧ Exclusion.covers exclusions path = false

/-- Whether flags, in two's complement, tell of content, replacement or encoding. -/
def Interesting (flags : Int) : Prop :=
  flags.testBit 0 = true ∨ flags.testBit 1 = true ∨ flags.testBit 2 = true

/-- What a node comes to: whether the walk goes on below it, its event, the cache after it. -/
inductive Seen (guide : Guide φ) (subject : Subject φ) (cache : Exclusion.Cache) :
    Verdict → Option (FileEvent φ) → Exclusion.Cache → Prop where
  | ignored {resource : Resource φ} {path : Path} (at_ : subject.IsAt resource path)
      (ignored : Exclusion.passesThrough guide.ignoredFolders path = true) :
      Seen guide subject cache .skip none cache
  | lost {resource : Resource φ} {path : Path} (counts : subject.Counts guide resource path)
      (kind : subject.kind = .ok .removed) (location : resource.location = .ok none) :
      Seen guide subject cache .goOn none cache
  | removed {resource : Resource φ} {path : Path} {uri : String}
      (counts : subject.Counts guide resource path) (kind : subject.kind = .ok .removed)
      (location : resource.location = .ok (some uri)) :
      Seen guide subject cache .goOn (some (.removed uri)) cache
  | noFile {resource : Resource φ} {path : Path} {kind : Kind}
      (counts : subject.Counts guide resource path) (told : subject.kind = .ok kind)
      (present : kind ≠ .removed) (noFile : ∀ file, resource.file ≠ .ok (some file)) :
      Seen guide subject cache .goOn none cache
  | excluded {path : Path} {kind : Kind} {file : φ} {exclusions : List Path}
      (shows_ : subject.Shows guide path kind file)
      (found : (guide.find cache file).paths = .ok exclusions)
      (covered : Exclusion.covers exclusions path = true) :
      Seen guide subject cache .skip none (guide.find cache file).cache
  | added {file : φ} (stays : subject.Stays guide cache .added file) :
      Seen guide subject cache .goOn (some (.added file)) (guide.find cache file).cache
  | changed {file : φ} {flags : Int} (stays : subject.Stays guide cache .changed file)
      (told : subject.flags = .ok flags) (interesting : Interesting flags) :
      Seen guide subject cache .goOn (some (.changed file (.ofFlags flags)))
        (guide.find cache file).cache
  | unchanged {file : φ} {flags : Int} (stays : subject.Stays guide cache .changed file)
      (told : subject.flags = .ok flags) (dull : ¬Interesting flags) :
      Seen guide subject cache .goOn none (guide.find cache file).cache

/-- Which attribute of a node fails first, and with what. -/
inductive Refused (guide : Guide φ) (subject : Subject φ) (cache : Exclusion.Cache) :
    Read → Failure → Exclusion.Cache → Prop where
  | resource {failure : Failure} (fails : subject.resource = .error failure) :
      Refused guide subject cache .resource failure cache
  | path {resource : Resource φ} {failure : Failure} (shown : subject.resource = .ok resource)
      (fails : resource.workspacePath = .error failure) :
      Refused guide subject cache .path failure cache
  | kind {resource : Resource φ} {path : Path} {failure : Failure}
      (counts : subject.Counts guide resource path) (fails : subject.kind = .error failure) :
      Refused guide subject cache .kind failure cache
  | location {resource : Resource φ} {path : Path} {failure : Failure}
      (counts : subject.Counts guide resource path) (kind : subject.kind = .ok .removed)
      (fails : resource.location = .error failure) :
      Refused guide subject cache .location failure cache
  | exclusions {path : Path} {kind : Kind} {file : φ} {failure : Failure}
      (shows_ : subject.Shows guide path kind file)
      (fails : (guide.find cache file).paths = .error failure) :
      Refused guide subject cache .exclusions failure (guide.find cache file).cache
  | flags {file : φ} {failure : Failure} (stays : subject.Stays guide cache .changed file)
      (fails : subject.flags = .error failure) :
      Refused guide subject cache .flags failure (guide.find cache file).cache

/-- Trees walked to their end, with the events on the way and the caches before and after. -/
inductive Walked (guide : Guide φ) :
    List (Delta φ) → Exclusion.Cache → List (FileEvent φ) → Exclusion.Cache → Prop where
  | done (cache : Exclusion.Cache) : Walked guide [] cache [] cache
  | skipped {subject : Subject φ} {children rest : List (Delta φ)}
      {event : Option (FileEvent φ)} {events : List (FileEvent φ)}
      {before between after : Exclusion.Cache}
      (seen : Seen guide subject before .skip event between)
      (others : Walked guide rest between events after) :
      Walked guide (.node subject children :: rest) before (event.toList ++ events) after
  | entered {subject : Subject φ} {children rest : List (Delta φ)}
      {event : Option (FileEvent φ)} {inner outer : List (FileEvent φ)}
      {before between within after : Exclusion.Cache}
      (seen : Seen guide subject before .goOn event between) (free : subject.barrier = none)
      (below : Walked guide children between inner within)
      (others : Walked guide rest within outer after) :
      Walked guide (.node subject children :: rest) before (event.toList ++ inner ++ outer) after

/-- A walk that ends at the first read that fails: the node's place, as positions among siblings
from the outermost one on, and the attribute. -/
inductive Broken (guide : Guide φ) :
    List (Delta φ) → Exclusion.Cache → List Nat → Read → Failure → Exclusion.Cache → Prop where
  | here {subject : Subject φ} {children rest : List (Delta φ)} {read : Read} {failure : Failure}
      {before after : Exclusion.Cache} (refused : Refused guide subject before read failure after) :
      Broken guide (.node subject children :: rest) before [0] read failure after
  | barred {subject : Subject φ} {children rest : List (Delta φ)} {event : Option (FileEvent φ)}
      {failure : Failure} {before after : Exclusion.Cache}
      (seen : Seen guide subject before .goOn event after)
      (barred : subject.barrier = some failure) :
      Broken guide (.node subject children :: rest) before [0] .children failure after
  | inside {subject : Subject φ} {children rest : List (Delta φ)} {event : Option (FileEvent φ)}
      {place : List Nat} {read : Read} {failure : Failure} {before between after : Exclusion.Cache}
      (seen : Seen guide subject before .goOn event between) (free : subject.barrier = none)
      (inner : Broken guide children between place read failure after) :
      Broken guide (.node subject children :: rest) before (0 :: place) read failure after
  | later {delta : Delta φ} {rest : List (Delta φ)} {events : List (FileEvent φ)} {position : Nat}
      {place : List Nat} {read : Read} {failure : Failure} {before between after : Exclusion.Cache}
      (walked : Walked guide [delta] before events between)
      (others : Broken guide rest between (position :: place) read failure after) :
      Broken guide (delta :: rest) before ((position + 1) :: place) read failure after

/-- Whether the walk reads an attribute of a node. -/
def Performs (guide : Guide φ) (subject : Subject φ) (cache : Exclusion.Cache) : Read → Prop
  | .resource => True
  | .path => ∃ resource, subject.resource = .ok resource
  | .kind => ∃ resource path, subject.Counts guide resource path
  | .location => ∃ resource path, subject.Counts guide resource path ∧ subject.kind = .ok .removed
  | .file => ∃ resource path kind, subject.Counts guide resource path ∧
      subject.kind = .ok kind ∧ kind ≠ .removed
  | .exclusions => ∃ path kind file, subject.Shows guide path kind file
  | .flags => ∃ file, subject.Stays guide cache .changed file
  | .children => ∃ event after, Seen guide subject cache .goOn event after

/-- Whether two nodes show the same in an attribute. For a file, failing is the same as none. -/
def SameAt (subject other : Subject φ) : Read → Prop
  | .resource => ∀ failure, subject.resource = .error failure ↔ other.resource = .error failure
  | .path => ∀ resource otherResource, subject.resource = .ok resource →
      other.resource = .ok otherResource → otherResource.workspacePath = resource.workspacePath
  | .kind => other.kind = subject.kind
  | .location => ∀ resource otherResource, subject.resource = .ok resource →
      other.resource = .ok otherResource → otherResource.location = resource.location
  | .file => ∀ resource otherResource, subject.resource = .ok resource →
      other.resource = .ok otherResource →
      ∀ file, resource.file = .ok (some file) ↔ otherResource.file = .ok (some file)
  | .exclusions => True
  | .flags => other.flags = subject.flags
  | .children => other.barrier = subject.barrier

def SameReads (guide : Guide φ) (subject other : Subject φ) (cache : Exclusion.Cache) : Prop :=
  ∀ read, Performs guide subject cache read → SameAt subject other read

/-- Trees that show the same wherever the walk of the first ones reads. Behind a read that fails,
and below a node that is skipped, they may differ altogether. -/
inductive Agree (guide : Guide φ) : List (Delta φ) → List (Delta φ) → Exclusion.Cache → Prop where
  | done (cache : Exclusion.Cache) : Agree guide [] [] cache
  | refused {subject other : Subject φ} {children otherChildren rest otherRest : List (Delta φ)}
      {read : Read} {failure : Failure} {before after : Exclusion.Cache}
      (same : SameReads guide subject other before)
      (refused : Refused guide subject before read failure after) :
      Agree guide (.node subject children :: rest) (.node other otherChildren :: otherRest) before
  | barred {subject other : Subject φ} {children otherChildren rest otherRest : List (Delta φ)}
      {event : Option (FileEvent φ)} {failure : Failure} {before after : Exclusion.Cache}
      (same : SameReads guide subject other before)
      (seen : Seen guide subject before .goOn event after)
      (barred : subject.barrier = some failure) :
      Agree guide (.node subject children :: rest) (.node other otherChildren :: otherRest) before
  | skipped {subject other : Subject φ} {children otherChildren rest otherRest : List (Delta φ)}
      {event : Option (FileEvent φ)} {before after : Exclusion.Cache}
      (same : SameReads guide subject other before)
      (seen : Seen guide subject before .skip event after)
      (others : Agree guide rest otherRest after) :
      Agree guide (.node subject children :: rest) (.node other otherChildren :: otherRest) before
  | entered {subject other : Subject φ} {children otherChildren rest otherRest : List (Delta φ)}
      {event : Option (FileEvent φ)} {before after : Exclusion.Cache}
      (same : SameReads guide subject other before)
      (seen : Seen guide subject before .goOn event after) (free : subject.barrier = none)
      (others : Agree guide (children ++ rest) (otherChildren ++ otherRest) after) :
      Agree guide (.node subject children :: rest) (.node other otherChildren :: otherRest) before

end ChangeRelay.Delta
