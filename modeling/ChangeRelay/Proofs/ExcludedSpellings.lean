import ChangeRelay.Proofs.OwnExclusions
import ChangeRelay.Proofs.PathSpellings

/-!
Exclusions by the texts that they are written as. A path is excluded exactly if one of the entries
has its root and names that come first in it; how the path and the entries are written and how often
and in which order the entries stand makes no difference. What several providers exclude together is
what any of them excludes.
-/
namespace ChangeRelay.Exclusion

open ChangeRelay.Path (SameSpelled SpelledBelow)

theorem covers_iff_spelled (entries : List String) (text : String) :
    covers (entries.map Path.parse) (Path.parse text) = true ↔
      ∃ entry ∈ entries, SpelledBelow entry text := by
  simp [covers, Path.spelledBelow_iff]

theorem covers_iff_parents (exclusions : List Path) (path : Path) :
    covers exclusions path = true ↔
      ∃ steps ≤ path.names.length, Path.parent^[steps] path ∈ exclusions := by
  simp only [covers, List.any_eq_true, Path.isWithin_iff_parents]
  constructor
  · rintro ⟨_, excluded, steps, few, rfl⟩
    exact ⟨steps, few, excluded⟩
  · rintro ⟨steps, few, excluded⟩
    exact ⟨_, excluded, steps, few, rfl⟩

/-- Each of these texts spells the path that one of the others spells. -/
def SpelledAmong (entries others : List String) : Prop :=
  ∀ entry ∈ entries, ∃ other ∈ others, SameSpelled entry other

theorem mem_of_spelledAmong {entries others : List String} (among : SpelledAmong entries others)
    {path : Path} (member : path ∈ entries.map Path.parse) : path ∈ others.map Path.parse := by
  obtain ⟨entry, listed, rfl⟩ := List.mem_map.mp member
  obtain ⟨other, there, same⟩ := among entry listed
  rw [(Path.sameSpelled_iff entry other).mp same]
  exact List.mem_map_of_mem there

theorem covers_respelled {entries others : List String} {text other : String}
    (forth : SpelledAmong entries others) (back : SpelledAmong others entries)
    (same : SameSpelled text other) :
    covers (entries.map Path.parse) (Path.parse text) =
      covers (others.map Path.parse) (Path.parse other) := by
  rw [(Path.sameSpelled_iff text other).mp same]
  exact covers_same (fun _ => ⟨mem_of_spelledAmong forth, mem_of_spelledAmong back⟩) _

theorem covers_below {exclusions : List Path} {text inner : String}
    (below : SpelledBelow text inner) (covered : covers exclusions (Path.parse text) = true) :
    covers exclusions (Path.parse inner) = true := by
  obtain ⟨entry, listed, within⟩ := List.any_eq_true.mp covered
  exact List.any_eq_true.mpr ⟨entry, listed,
    Path.isWithin_trans ((Path.spelledBelow_iff text inner).mp below) within⟩

theorem Whole.covers_iff {providers : List Provider} {project : Project} {united : List Path}
    (whole : Whole providers project united) (path : Path) :
    covers united path = true ↔
      ∃ provider ∈ providers, ∃ own, provider project = .ok own ∧ covers own path = true := by
  simp only [covers, List.any_eq_true, whole.union]
  constructor
  · rintro ⟨entry, ⟨provider, listed, own, answer, member⟩, within⟩
    exact ⟨provider, listed, own, answer, entry, member, within⟩
  · rintro ⟨provider, listed, own, answer, entry, member, within⟩
    exact ⟨entry, ⟨provider, listed, own, answer, member⟩, within⟩

theorem askAll_ok_iff (providers : List Provider) (project : Project) :
    (∃ united, (askAll project providers [] 0).1 = .ok united) ↔
      ∀ provider ∈ providers, ∃ own, provider project = .ok own :=
  ⟨fun ⟨_, united⟩ => (whole_of_askAll united).answered, fun answered => askAll_ok answered [] 0⟩

theorem registered_covers (lists : List (List (String × List String))) {project : Project}
    {scope : String} (told : project.scope = .text scope) :
    ∃ united, (askAll project (Static.providersOf lists) [] 0).1 = .ok united ∧
      ∀ text, covers united (Path.parse text) = true ↔
        ∃ call ∈ lists.flatten, call.1 = scope ∧ ∃ entry ∈ call.2, SpelledBelow entry text := by
  obtain ⟨united, answer, member⟩ := Static.askAll_registered lists told [] 0
  refine ⟨united, answer, fun text => ?_⟩
  simp only [covers, List.any_eq_true, member, List.not_mem_nil, false_or, Path.spelledBelow_iff]
  constructor
  · rintro ⟨_, ⟨call, listed, own, entry, written, rfl⟩, within⟩
    exact ⟨call, listed, own, entry, written, within⟩
  · rintro ⟨call, listed, own, entry, written, within⟩
    exact ⟨_, ⟨call, listed, own, entry, written, rfl⟩, within⟩

/-- However a path and the entries are written, the path is excluded exactly if an entry has the
same root and names that come first in it. That is so exactly if the path or one of the folders
around it is an entry. Spellings, order and repetition make no difference, and with a path all that
lies below it is excluded. Providers have a union unless one of them fails, and the union excludes
what any of them does; with exclusions that are set up front, that goes by the entries for the
project's scope. -/
theorem covered_by_components :
    (∀ (entries : List String) (text : String),
      covers (entries.map Path.parse) (Path.parse text) = true ↔
        ∃ entry ∈ entries, SpelledBelow entry text) ∧
    (∀ (exclusions : List Path) (path : Path), covers exclusions path = true ↔
      ∃ steps ≤ path.names.length, Path.parent^[steps] path ∈ exclusions) ∧
    (∀ (entries others : List String) (text other : String), SpelledAmong entries others →
      SpelledAmong others entries → SameSpelled text other →
        covers (entries.map Path.parse) (Path.parse text) =
          covers (others.map Path.parse) (Path.parse other)) ∧
    (∀ (exclusions : List Path) (text inner : String), SpelledBelow text inner →
      covers exclusions (Path.parse text) = true → covers exclusions (Path.parse inner) = true) ∧
    (∀ (providers : List Provider) (project : Project),
      ((∃ united, (askAll project providers [] 0).1 = .ok united) ↔
        ∀ provider ∈ providers, ∃ own, provider project = .ok own) ∧
      ∀ united, (askAll project providers [] 0).1 = .ok united → ∀ path,
        (covers united path = true ↔
          ∃ provider ∈ providers, ∃ own, provider project = .ok own ∧ covers own path = true)) ∧
    ∀ (lists : List (List (String × List String))) (project : Project) (scope : String),
      project.scope = .text scope →
        ∃ united, (askAll project (Static.providersOf lists) [] 0).1 = .ok united ∧
          ∀ text, covers united (Path.parse text) = true ↔
            ∃ call ∈ lists.flatten, call.1 = scope ∧ ∃ entry ∈ call.2, SpelledBelow entry text := by
  refine ⟨covers_iff_spelled, covers_iff_parents, ?_, ?_, ?_, ?_⟩
  · exact fun _ _ _ _ forth back same => covers_respelled forth back same
  · exact fun _ _ _ below covered => covers_below below covered
  · exact fun providers project =>
      ⟨askAll_ok_iff providers project, fun _ united => (whole_of_askAll united).covers_iff⟩
  · exact fun lists _ _ told => registered_covers lists told

def spelledEntries : List String := ["///app/gen/.", "lib//", "//srv/./share/", "lib"]

def respelledEntries : List String := ["//srv//share", "./lib", "/app//gen"]

def spelledProject : Project := ⟨"app", .text "scope:app", "file:///w/app"⟩

def spelledLists : List (List (String × List String)) :=
  [[("scope:app", spelledEntries)], [("scope:lib", ["/"])]]

/-- Two dots are a name, a root of two slashes is another one, a name that only starts like that of
an entry is not excluded, and what another scope has makes no difference. -/
theorem covered_by_components_sample :
    (SpelledAmong spelledEntries respelledEntries ∧ SpelledAmong respelledEntries spelledEntries ∧
      SameSpelled "/app/./gen//.." "///app/gen/../" ∧
      covers (spelledEntries.map Path.parse) (Path.parse "/app/./gen//..") =
        covers (respelledEntries.map Path.parse) (Path.parse "///app/gen/../")) ∧
    (SpelledBelow "/app/gen" "/app//gen/../x" ∧
      covers (spelledEntries.map Path.parse) (Path.parse "/app/gen") = true ∧
      covers (spelledEntries.map Path.parse) (Path.parse "/app//gen/../x") = true) ∧
    covers (spelledEntries.map Path.parse) (Path.parse "/app/generated") = false ∧
    covers (spelledEntries.map Path.parse) (Path.parse "//app/gen") = false ∧
    ∃ united, (askAll spelledProject (Static.providersOf spelledLists) [] 0).1 = .ok united ∧
      covers united (Path.parse "lib/./a.c") = true ∧ covers united (Path.parse "/app") = false ∧
      ∃ provider ∈ Static.providersOf spelledLists, ∃ own, provider spelledProject = .ok own ∧
        covers own (Path.parse "lib/./a.c") = true := by
  obtain ⟨-, -, respelled, below, union, registered⟩ := covered_by_components
  have forth : SpelledAmong spelledEntries respelledEntries := by
    simp only [SpelledAmong, Path.sameSpelled_iff]
    decide +kernel
  have back : SpelledAmong respelledEntries spelledEntries := by
    simp only [SpelledAmong, Path.sameSpelled_iff]
    decide +kernel
  have same : SameSpelled "/app/./gen//.." "///app/gen/../" :=
    (Path.sameSpelled_iff _ _).mpr (by decide +kernel)
  have within : SpelledBelow "/app/gen" "/app//gen/../x" :=
    (Path.spelledBelow_iff _ _).mpr (by decide +kernel)
  have outer : covers (spelledEntries.map Path.parse) (Path.parse "/app/gen") = true := by
    decide +kernel
  obtain ⟨united, answer, covered⟩ := registered spelledLists spelledProject "scope:app" rfl
  have inLib : covers united (Path.parse "lib/./a.c") = true := by
    simp only [covered, Path.spelledBelow_iff]
    decide +kernel
  refine ⟨⟨forth, back, same, respelled _ _ _ _ forth back same⟩,
    ⟨within, outer, below _ _ _ within outer⟩, by decide +kernel, by decide +kernel, united, answer,
    inLib, ?_, ((union _ _).2 united answer _).mp inLib⟩
  rw [Bool.eq_false_iff, ne_eq, covered]
  simp only [Path.spelledBelow_iff]
  decide +kernel

end ChangeRelay.Exclusion
