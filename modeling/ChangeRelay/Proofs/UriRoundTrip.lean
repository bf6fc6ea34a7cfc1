import ChangeRelay.Proofs.PathText
import ChangeRelay.Proofs.PercentRoundTrip
import ChangeRelay.Uri

/-!
The path of a local path's URI is that path again. Escaped text has none of the characters that part
a URI, so its path is all that stands behind the empty host; and unless the first component looks
like a drive, the text that was escaped is read as it was written.
-/
namespace ChangeRelay

namespace Text

theorem cut_unmarked {mark : Char} {text : List Char} (free : mark ∉ text) :
    cut mark text = (text, none) := by
  induction text with
  | nil => rfl
  | cons c rest ih =>
    simp only [List.mem_cons, not_or] at free
    simp [cut, Ne.symm free.1, ih free.2]

theorem escaped_code {text : List Char} {c : Char} (member : c ∈ Percent.escape text) :
    48 ≤ c.toNat ∧ c.toNat ≤ 57 ∨ 65 ≤ c.toNat ∧ c.toNat ≤ 90 ∨ 97 ≤ c.toNat ∧ c.toNat ≤ 122 ∨
      c.toNat = 95 ∨ c.toNat = 46 ∨ c.toNat = 45 ∨ c.toNat = 126 ∨ c.toNat = 47 ∨
      c.toNat = 37 := by
  obtain ⟨byte, part, rfl⟩ := List.mem_map.mp member
  obtain ⟨whole, -, inEscape⟩ := List.mem_flatMap.mp part
  rcases Percent.escapeByte_parts inEscape with plain | rfl
  · rw [Utf8.toNat_ofNat (Percent.plain_small plain)]
    simp only [Percent.isPlain, Bool.or_eq_true, Bool.and_eq_true, decide_eq_true_eq,
      beq_iff_eq] at plain
    omega
  · decide

theorem not_in_escape {c : Char} (text : List Char)
    (strange : c.toNat < 37 ∨ c.toNat = 58 ∨ c.toNat = 59 ∨ c.toNat = 63 ∨ c.toNat = 91 ∨
      c.toNat = 93) : c ∉ Percent.escape text := by
  intro member
  have code := escaped_code member
  omega

theorem escape_slash (text : List Char) :
    Percent.escape ('/' :: text) = '/' :: Percent.escape text := by
  have byte : Utf8.encode ('/' :: text) = 47 :: Utf8.encode text := rfl
  have plain : Percent.escapeByte 47 = [47] := by decide
  rw [Percent.escape, byte, List.flatMap_cons, plain]
  rfl

end Text

namespace Path

/-- Whether the first component has a colon as its second character. -/
def opensWithDrive (path : Path) : Bool :=
  match path.names.head?.map String.toList with
  | some (_ :: ':' :: _) => true
  | _ => false

theorem drive_of_joined {path : Path} (clean : path.Clean) {letter : Char} {rest : List Char}
    (opens : path.joinedNames = letter :: ':' :: rest) : path.opensWithDrive = true := by
  obtain ⟨anchor, names⟩ := path
  cases names with
  | nil => cases opens
  | cons name more =>
    have filled := (clean name List.mem_cons_self).1
    cases spelled : name.toList with
    | nil =>
      rw [spelled] at filled
      cases filled
    | cons c others =>
      cases more with
      | nil =>
        simp only [joinedNames, List.map_cons, List.map_nil, Text.joined, spelled] at opens
        obtain ⟨rfl, rfl⟩ := List.cons.inj opens
        simp [opensWithDrive, spelled]
      | cons next further =>
        simp only [joinedNames, List.map_cons, Text.joined, spelled, List.cons_append] at opens
        have second := (List.cons.inj opens).2
        cases others with
        | nil => exact absurd (List.cons.inj second).1 (by decide)
        | cons d tail =>
          have colon : d = ':' := (List.cons.inj second).1
          subst colon
          simp [opensWithDrive, spelled]

end Path

namespace Uri

open Text (cut_unmarked not_in_escape)

theorem cleaned_escaped (text : List Char) :
    cleaned ("file://".toList ++ Text.Percent.escape text) =
      "file://".toList ++ Text.Percent.escape text := by
  have marks : ("file://".toList.all fun c => c != '\t' && c != '\r' && c != '\n') = true := rfl
  have kept : ∀ c ∈ "file://".toList ++ Text.Percent.escape text,
      (c != '\t' && c != '\r' && c != '\n') = true := by
    intro c member
    rcases List.mem_append.mp member with mark | escaped
    · exact List.all_eq_true.mp marks c mark
    · have code := Text.escaped_code escaped
      simp only [Bool.and_eq_true, bne_iff_ne]
      refine ⟨⟨?_, ?_⟩, ?_⟩ <;> rintro rfl <;> revert code <;> decide
  have start : ("file://".toList ++ Text.Percent.escape text).dropWhile
      (fun c => decide (c.toNat ≤ 0x20)) = "file://".toList ++ Text.Percent.escape text := rfl
  rw [cleaned, start, List.filter_eq_self.mpr kept]

theorem scheme_escaped (text : List Char) :
    scheme ("file://".toList ++ Text.Percent.escape text) =
      ("file".toList, '/' :: '/' :: Text.Percent.escape text) := rfl

theorem rawPath_escaped (text : List Char) :
    rawPath ("file://".toList ++ Text.Percent.escape ('/' :: text)) =
      .ok (Text.Percent.escape ('/' :: text)) := by
  have authority : host ('/' :: '/' :: Text.Percent.escape ('/' :: text)) =
      ([], Text.Percent.escape ('/' :: text)) := by
    rw [Text.escape_slash]
    rfl
  have noFragment := cut_unmarked (not_in_escape (c := '#') ('/' :: text) (by decide))
  have noQuery := cut_unmarked (not_in_escape (c := '?') ('/' :: text) (by decide))
  have noParameters : schemesWithParameters.contains (String.ofList "file".toList) = false := by
    decide
  simp only [rawPath, cleaned_escaped, scheme_escaped, authority, noFragment, noQuery,
    noParameters]
  rfl

theorem chars_rooted {path : Path} (clean : path.Clean) (rooted : path.anchor = .single) :
    path.chars = '/' :: path.joinedNames := by
  rw [Path.chars_eq clean (Or.inl (by rw [rooted]; decide)), rooted]
  rfl

theorem pathOfRaw_chars {path : Path} (clean : path.Clean) (rooted : path.anchor = .single)
    (plain : path.opensWithDrive = false) : pathOfRaw path.chars = path := by
  unfold pathOfRaw
  split
  · rename_i raw letter rest opens
    rw [chars_rooted clean rooted] at opens
    have drive := Path.drive_of_joined clean (List.cons.inj opens).2
    rw [plain] at drive
    cases drive
  · exact Path.ofChars_chars clean

theorem rawPath_ofPath {path : Path} (clean : path.Clean) (rooted : path.anchor = .single) :
    rawPath (ofPath path).toList = .ok (Text.Percent.escape path.chars) := by
  have spelled : (ofPath path).toList = "file://".toList ++ Text.Percent.escape path.chars :=
    String.toList_ofList
  rw [spelled, chars_rooted clean rooted, rawPath_escaped]

theorem pathOf_ofPath {path : Path} (clean : path.Clean) (rooted : path.anchor = .single)
    (plain : path.opensWithDrive = false) : pathOf (ofPath path) = .ok path := by
  rw [pathOf, rawPath_ofPath clean rooted, Except.map, Text.Percent.decode_escape,
    pathOfRaw_chars clean rooted plain]

theorem ofPath_injective {first second : Path} (firstClean : first.Clean)
    (secondClean : second.Clean) (same : ofPath first = ofPath second) : first = second := by
  have escaped : Text.Percent.escape first.chars = Text.Percent.escape second.chars :=
    List.append_cancel_left (String.ofList_injective same)
  have chars := congrArg Text.Percent.decode escaped
  rw [Text.Percent.decode_escape, Text.Percent.decode_escape] at chars
  rw [← Path.ofChars_chars firstClean, chars, Path.ofChars_chars secondClean]

end Uri
end ChangeRelay
