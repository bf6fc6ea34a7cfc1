import ChangeRelay.Proofs.ChangeSets
import ChangeRelay.Proofs.UriRoundTrip
import ChangeRelay.Storage

/-!
Both readings of a local path's URI. Whoever opens the URI and takes no more than the protocol away
comes to the path, and so does the reading as a URI unless the path looks like one on a drive. So
different paths have different URIs.
-/
namespace ChangeRelay

namespace Text

theorem after_unmarked {mark : Char} {more text : List Char} (free : mark ∉ text) :
    after? (mark :: more) text = none := by
  cases text with
  | nil => rfl
  | cons c rest =>
    simp only [List.mem_cons, not_or] at free
    simp [after?, free.1]

theorem cutAt_unmarked {mark : Char} {more text : List Char} (free : mark ∉ text) :
    cutAt (mark :: more) text = none := by
  induction text with
  | nil => rfl
  | cons c rest ih =>
    have here : after? (mark :: more) (c :: rest) = none := after_unmarked free
    have later := ih fun member => free (List.mem_cons_of_mem _ member)
    simp only [cutAt, here, later, Option.map_none]

theorem mem_joined {mark : Char} {parts : List (List Char)} {c : Char}
    (member : c ∈ joined mark parts) : c = mark ∨ ∃ part ∈ parts, c ∈ part := by
  induction parts with
  | nil => cases member
  | cons part rest ih =>
    cases rest with
    | nil => exact Or.inr ⟨part, List.mem_cons_self, member⟩
    | cons next more =>
      rw [joined, List.mem_append, List.mem_cons] at member
      · rcases member with here | slash | later
        · exact Or.inr ⟨part, List.mem_cons_self, here⟩
        · exact Or.inl slash
        · rcases ih later with slash | ⟨other, listed, inOther⟩
          · exact Or.inl slash
          · exact Or.inr ⟨other, List.mem_cons_of_mem _ listed, inOther⟩
      · exact List.cons_ne_nil _ _

theorem mem_joined_of_part {mark : Char} {parts : List (List Char)} {part : List Char} {c : Char}
    (listed : part ∈ parts) (member : c ∈ part) : c ∈ joined mark parts := by
  induction parts with
  | nil => cases listed
  | cons first rest ih =>
    cases rest with
    | nil =>
      rw [← List.mem_singleton.mp listed]
      exact member
    | cons next more =>
      rw [joined, List.mem_append, List.mem_cons]
      · rcases List.mem_cons.mp listed with rfl | later
        · exact Or.inl member
        · exact Or.inr (Or.inr (ih later))
      · exact List.cons_ne_nil _ _

theorem mem_piece {mark : Char} {text piece : List Char} {c : Char}
    (listed : piece ∈ pieces mark text) (member : c ∈ piece) : c ∈ text := by
  rw [← joined_pieces mark text]
  exact mem_joined_of_part listed member

theorem joined_last {parts : List (List Char)} (filled : parts ≠ [])
    (names : ∀ part ∈ parts, Path.significant part = true ∧ '/' ∉ part) :
    ∃ before last, joined '/' parts = before ++ [last] ∧ last ≠ '/' := by
  induction parts with
  | nil => exact absurd rfl filled
  | cons part rest ih =>
    obtain ⟨some_, free⟩ := names part List.mem_cons_self
    have others := fun other member => names other (List.mem_cons_of_mem part member)
    cases rest with
    | nil =>
      have nonempty : part ≠ [] := by
        rintro rfl
        cases some_
      refine ⟨part.dropLast, part.getLast nonempty,
        (part.dropLast_append_getLast nonempty).symm, ?_⟩
      intro same
      exact free (same ▸ part.getLast_mem nonempty)
    | cons next more =>
      obtain ⟨before, last, same, proper⟩ := ih (List.cons_ne_nil _ _) others
      refine ⟨part ++ '/' :: before, last, ?_, proper⟩
      rw [joined, same, List.append_assoc, List.cons_append]
      exact List.cons_ne_nil _ _

theorem encodeChar_last {c : Char} (proper : c ≠ '/') :
    ∃ before byte, Utf8.encodeChar c = before ++ [byte] ∧ byte ≠ 47 := by
  have continues (n : Nat) : (0x80 + n % 0x40).toUInt8 ≠ 47 := by
    intro same
    have code := congrArg UInt8.toNat same
    rw [Utf8.toNat_toUInt8 (by omega)] at code
    have slash : (47 : UInt8).toNat = 47 := rfl
    omega
  unfold Utf8.encodeChar
  simp only
  split
  · rename_i small
    refine ⟨[], _, rfl, ?_⟩
    intro same
    have code := congrArg UInt8.toNat same
    rw [Utf8.toNat_toUInt8 (by omega)] at code
    exact proper (Char.ext (UInt32.toNat_inj.mp code))
  · split
    · exact ⟨[_], _, rfl, continues _⟩
    · split
      · exact ⟨[_, _], _, rfl, continues _⟩
      · exact ⟨[_, _, _], _, rfl, continues _⟩

namespace Percent

theorem upperHexDigit_ne_slash : ∀ n < 16, upperHexDigit n ≠ 47 := by
  decide

theorem escapeByte_last {byte : UInt8} (proper : byte ≠ 47) :
    ∃ before last, escapeByte byte = before ++ [last] ∧ last ≠ 47 := by
  unfold escapeByte
  split
  · exact ⟨[], byte, rfl, proper⟩
  · exact ⟨[37, _], _, rfl, upperHexDigit_ne_slash _ (Nat.mod_lt _ (by decide))⟩

theorem escape_append (first second : List Char) :
    escape (first ++ second) = escape first ++ escape second := by
  simp only [escape, Utf8.encode, List.flatMap_append, List.map_append]

theorem escape_last (text : List Char) {c : Char} (proper : c ≠ '/') :
    (escape (text ++ [c])).getLast? ≠ some '/' := by
  obtain ⟨bytes, byte, encoded, notSlash⟩ := encodeChar_last proper
  obtain ⟨before, last, escaped, other⟩ := escapeByte_last notSlash
  have spelled : escape [c] =
      ((bytes.flatMap escapeByte ++ before).map fun byte => Char.ofNat byte.toNat) ++
        [Char.ofNat last.toNat] := by
    simp [escape, Utf8.encode, encoded, escaped]
  have member : last ∈ escapeByte byte := by simp [escaped]
  have small : last.toNat < 0x80 := by
    rcases escapeByte_parts member with plain | rfl
    · exact plain_small plain
    · decide
  rw [escape_append, spelled, ← List.append_assoc, List.getLast?_concat]
  intro same
  have code := congrArg Char.toNat (Option.some.inj same)
  rw [Utf8.toNat_ofNat small] at code
  exact other (UInt8.toNat_inj.mp code)

end Percent

end Text

namespace Path

theorem mem_name {text : List Char} {name : String} (listed : name ∈ (ofChars text).names)
    {c : Char} (member : c ∈ name.toList) : c ∈ text := by
  obtain ⟨piece, kept, rfl⟩ := List.mem_map.mp listed
  rw [String.toList_ofList] at member
  exact Text.mem_piece (List.mem_filter.mp kept).1 member

end Path

namespace Storage

/-- Openers that take the protocol of local files away and leave the place behind it as it is,
escapes included. -/
def StripsFileProtocol (opener : Opener) : Prop :=
  ∀ place : List Char, place.head? = some '/' → ':' ∉ place →
    place = ['/'] ∨ place.getLast? ≠ some '/' →
      opener (String.ofList ("file://".toList ++ place)) = .ok (.inLocalFiles place)

theorem chain_single {place : List Char} (free : ':' ∉ place) (fuel : Nat) :
    chain ("file://".toList ++ place) fuel = ["file://".toList ++ place] := by
  cases fuel with
  | zero => rfl
  | succ fuel =>
    have unchained : Text.cutAt [':', ':'] ("file://".toList ++ place) = none := by
      simp [Text.cutAt, Text.after?, Text.cutAt_unmarked free]
    rw [chain, unchained]

theorem withoutFinalSlashes_eq {text : List Char} (proper : text.getLast? ≠ some '/') :
    withoutFinalSlashes text = text := by
  unfold withoutFinalSlashes
  cases reversed : text.reverse with
  | nil => simpa using reversed.symm
  | cons last before =>
    have spelled : text = before.reverse ++ [last] := by
      rw [← List.reverse_reverse text, reversed, List.reverse_cons]
    have other : last ≠ '/' := by
      rintro rfl
      exact proper (by rw [spelled, List.getLast?_concat])
    rw [List.dropWhile_cons_of_neg (by simpa using other), spelled]
    simp

theorem openUri_strips : StripsFileProtocol openUri := by
  intro place rooted free ends
  have links : locations (String.ofList ("file://".toList ++ place)).toList =
      ["file://".toList ++ place] := by
    rw [String.toList_ofList, locations, chain_single free]
  have store : storeOf (protocol ("file://".toList ++ place)) = .localFiles := rfl
  have reachable : refusal? ["file://".toList ++ place] = none := rfl
  have own : localPart ("file://".toList ++ place) = place := rfl
  have kept : placeOf ("file://".toList ++ place) = place := by
    unfold placeOf
    rw [own]
    rcases ends with rfl | proper
    · rfl
    · rw [withoutFinalSlashes_eq proper, if_neg]
      rintro rfl
      cases rooted
  simp only [openUri, links, reachable, store, if_true, kept]

theorem escaped_place {path : Path} (clean : path.Clean) (rooted : path.anchor = .single) :
    let place := Text.Percent.escape path.chars
    place.head? = some '/' ∧ ':' ∉ place ∧ (place = ['/'] ∨ place.getLast? ≠ some '/') := by
  have chars := Uri.chars_rooted clean rooted
  refine ⟨?_, Text.not_in_escape path.chars (by decide), ?_⟩
  · rw [chars, Text.escape_slash]
    rfl
  · by_cases empty : path.names.map String.toList = []
    · have bare : path.joinedNames = [] := by rw [Path.joinedNames, empty]; rfl
      rw [chars, bare]
      exact Or.inl (by decide)
    · obtain ⟨before, last, joined, proper⟩ := Text.joined_last empty (Path.clean_parts clean)
      have spelled : path.chars = ('/' :: before) ++ [last] := by
        rw [chars, Path.joinedNames, joined]
        rfl
      rw [spelled]
      exact Or.inr (Text.Percent.escape_last _ proper)

theorem locateBy_ofPath {opener : Opener} (strips : StripsFileProtocol opener) {path : Path}
    (clean : path.Clean) (rooted : path.anchor = .single) :
    locateBy opener (Uri.ofPath path) = .ok (some path) := by
  obtain ⟨root, free, ends⟩ := escaped_place clean rooted
  have opened : opener (Uri.ofPath path) = .ok (.inLocalFiles (Text.Percent.escape path.chars)) :=
    strips _ root free ends
  rw [locateBy, opened]
  simp only [Except.map, Text.Percent.decode_escape, Path.ofChars_chars clean]

end Storage

namespace Uri

def slashed (text : List Char) : List Char := text.map fun c => if c = '\\' then '/' else c

def joinedAgain (text : List Char) : List Char :=
  (if text.head? = some '/' then ['/'] else []) ++
    Text.joined '/' ((Text.pieces '/' text).filter Path.significant)

theorem drivePath_letter {letter : Char} (proper : letter ≠ '/') (plain : letter ≠ '\\')
    (text : List Char) :
    drivePath (letter :: ':' :: text) =
      Path.ofChars (letter :: ':' :: joinedAgain (slashed text)) := by
  have mapped : (letter :: ':' :: text).map (fun c => if c = '\\' then '/' else c) =
      letter :: ':' :: slashed text := by
    rw [List.map_cons, List.map_cons, if_neg plain, if_neg (by decide)]
    rfl
  unfold drivePath
  dsimp only
  rw [mapped]
  simp only [proper, if_false]
  rfl

theorem anchor_opens {c : Char} (proper : c ≠ '/') (rest : List Char) :
    (Path.ofChars (c :: rest)).anchor = .relative := by
  simp [Path.ofChars, Anchor.ofChars, proper]

theorem drivePath_slashed {text : List Char} {name : String}
    (listed : name ∈ (drivePath ('\\' :: ':' :: text)).names) : '\\' ∉ name.toList := by
  intro member
  have read : drivePath ('\\' :: ':' :: text) =
      Path.ofChars (joinedAgain (slashed ('\\' :: ':' :: text))) := rfl
  rw [read] at listed
  have absent : '\\' ∉ slashed ('\\' :: ':' :: text) := by
    intro inText
    obtain ⟨c, -, same⟩ := List.mem_map.mp inText
    split at same
    · cases same
    · contradiction
  rcases List.mem_append.mp (Path.mem_name listed member) with root | joined
  · split at root
    · cases List.mem_singleton.mp root
    · cases root
  · rcases Text.mem_joined joined with slash | ⟨piece, kept, inPiece⟩
    · cases slash
    · exact absent (Text.mem_piece (List.mem_filter.mp kept).1 inPiece)

/-- A path that looks like one on a drive is read as another one: without the root, or without its
backslashes. -/
theorem pathOfRaw_drive {path : Path} (clean : path.Clean) (rooted : path.anchor = .single)
    (drive : path.opensWithDrive = true) : pathOfRaw path.chars ≠ path := by
  obtain ⟨anchor, names⟩ := path
  cases names with
  | nil => cases drive
  | cons name more =>
    rw [Path.opensWithDrive] at drive
    split at drive
    · rename_i letter rest found
      have spelled : name.toList = letter :: ':' :: rest := Option.some.inj found
      obtain ⟨tail, opens⟩ : ∃ tail, (Path.mk anchor (name :: more)).joinedNames =
          letter :: ':' :: tail := by
        cases more with
        | nil => exact ⟨rest, by simp [Path.joinedNames, Text.joined, spelled]⟩
        | cons next others =>
          exact ⟨rest ++ '/' :: Text.joined '/' (next.toList :: others.map String.toList),
            by simp [Path.joinedNames, Text.joined, spelled]⟩
      have proper : letter ≠ '/' := by
        rintro rfl
        exact (clean name List.mem_cons_self).2 (by simp [spelled])
      have read : pathOfRaw (Path.mk anchor (name :: more)).chars =
          drivePath (letter :: ':' :: tail) := by
        rw [chars_rooted clean rooted, opens, pathOfRaw]
      rw [read]
      intro same
      by_cases back : letter = '\\'
      · subst back
        have listed : name ∈ (drivePath ('\\' :: ':' :: tail)).names := by
          rw [same]
          exact List.mem_cons_self
        exact drivePath_slashed listed (by simp [spelled])
      · rw [drivePath_letter proper back] at same
        have relative := anchor_opens proper (':' :: joinedAgain (slashed tail))
        rw [same, rooted] at relative
        cases relative
    · cases drive

theorem pathOf_ofPath_iff {path : Path} (clean : path.Clean) (rooted : path.anchor = .single) :
    pathOf (ofPath path) = .ok path ↔ path.opensWithDrive = false := by
  constructor
  · intro read
    rw [pathOf, rawPath_ofPath clean rooted] at read
    simp only [Except.map, Text.Percent.decode_escape, Except.ok.injEq] at read
    rw [Bool.eq_false_iff]
    exact fun drive => pathOfRaw_drive clean rooted drive read
  · exact pathOf_ofPath clean rooted

/-- For every path from the root, whatever its names: its URI is located at the path again, by
whoever opens URIs if the opener takes away the protocol only; and it is read as a URI of the path
exactly if the first name does not look like a drive. Different paths have different URIs, so the
different projects of a workspace have different scopes. -/
theorem local_uris_read_back :
    (∀ path : Path, path.Clean → path.anchor = .single →
      (∀ opener : Storage.Opener, Storage.StripsFileProtocol opener →
        Storage.locateBy opener (ofPath path) = .ok (some path)) ∧
      Snapshot.storageResolver (.text (ofPath path)) = .ok (some path) ∧
      (pathOf (ofPath path) = .ok path ↔ path.opensWithDrive = false)) ∧
    (∀ first second : Path, first.Clean → second.Clean → first ≠ second →
      ofPath first ≠ ofPath second) ∧
    ∀ workspace : Workspace, workspace.Built →
      ∀ first ∈ workspace.members, ∀ second ∈ workspace.members, first ≠ second →
        first.project.scope ≠ second.project.scope := by
  refine ⟨?_, ?_, ?_⟩
  · intro path clean rooted
    have located : Storage.locate (ofPath path) = .ok (some path) :=
      Storage.locateBy_ofPath Storage.openUri_strips clean rooted
    refine ⟨fun opener strips => Storage.locateBy_ofPath strips clean rooted, ?_,
      pathOf_ofPath_iff clean rooted⟩
    rw [Snapshot.storageResolver, located]
    rfl
  · intro first second firstClean secondClean apart same
    exact apart (ofPath_injective firstClean secondClean same)
  · intro workspace built first firstListed second secondListed apart same
    have sound := Workspace.built_sound built
    exact apart (Workspace.same_scope sound firstListed secondListed same)

def oddPath : Path := ⟨.single, ["a b", "50%", "#c?d;e", "x:[::]", "\n%41", "é"]⟩

theorem odd_uris_read_back :
    ofPath oddPath = "file:///a%20b/50%25/%23c%3Fd%3Be/x%3A%5B%3A%3A%5D/%0A%2541/%C3%A9" ∧
    Storage.locateBy Storage.openUri (ofPath oddPath) = .ok (some oddPath) ∧
    pathOf (ofPath oddPath) = .ok oddPath ∧
    ofPath oddPath ≠ ofPath ⟨.single, ["a b", "50%"]⟩ ∧
    (Workspace.Member.mk 0 "app" (.parse "/w/app")).project.scope ≠
      (Workspace.Member.mk 1 "lib" (.parse "/w/app/lib")).project.scope := by
  obtain ⟨reads, differ, scopes⟩ := local_uris_read_back
  have clean : oddPath.Clean := by
    simp only [Path.Clean, Path.IsName, oddPath]
    decide
  have other : (Path.mk .single ["a b", "50%"]).Clean := by
    simp only [Path.Clean, Path.IsName]
    decide
  obtain ⟨located, -, read⟩ := reads oddPath clean rfl
  exact ⟨by decide, located _ Storage.openUri_strips, read.mpr (by decide),
    differ _ _ clean other (by decide), scopes _ Workspace.nestedSample_built _ List.mem_cons_self _
      (List.mem_cons_of_mem _ List.mem_cons_self) (by decide)⟩

end Uri

end ChangeRelay
