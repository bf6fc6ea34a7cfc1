import ChangeRelay.Proofs.SnapshotMaking

/-!
Asking language providers. The first opinion is kept. Every provider that fails is noted, and every
later opinion that differs from the kept one; the notes stand in the order of the providers. What is
kept and which conflicts there are depends on the providers with an opinion only.
-/
namespace ChangeRelay.Snapshot

def opinions (view : FileView) (detectors : List LanguageDetector) : List Value :=
  (detectors.filterMap fun detector => (detector.language view).toOption).filter
    fun answer => answer != .null

def hasOpinion (view : FileView) (detector : LanguageDetector) : Bool :=
  match detector.language view with
  | .error _ => false
  | .ok answer => answer != .null

def failureNote (view : FileView) (detector : LanguageDetector) : Option Notice :=
  match detector.language view with
  | .error failure => some (.languageFailed view.uri detector.name failure)
  | .ok _ => none

def noteOn (view : FileView) (kept : Option Value) (detector : LanguageDetector) : Option Notice :=
  match detector.language view, kept with
  | .error failure, _ => some (.languageFailed view.uri detector.name failure)
  | .ok _, none => none
  | .ok answer, some kept =>
    if answer = .null ∨ answer.agrees kept = true then none
    else some (.languagesConflict view.name kept answer)

def conflictsWith (view : FileView) (kept : Value) (answers : List Value) : List Notice :=
  (answers.filter fun answer => !answer.agrees kept).map (.languagesConflict view.name kept)

/-- The conflicts of the later opinions with the first one. -/
def conflicts (view : FileView) : List Value → List Notice
  | [] => []
  | kept :: later => conflictsWith view kept later

def atLevel (level : Notice.Level) (notices : List Notice) : List Notice :=
  notices.filter fun notice => notice.level == level

theorem firstOpinion_eq (view : FileView) (detectors : List LanguageDetector) :
    firstOpinion view detectors = (opinions view detectors).head?.getD .null := by
  rw [opinions, List.head?_filter]
  rfl

theorem opinions_cons (view : FileView) (detector : LanguageDetector)
    (rest : List LanguageDetector) :
    (∃ failure, detector.language view = .error failure ∧
        opinions view (detector :: rest) = opinions view rest) ∨
      (detector.language view = .ok .null ∧
        opinions view (detector :: rest) = opinions view rest) ∨
      ∃ answer, answer ≠ .null ∧ detector.language view = .ok answer ∧
        opinions view (detector :: rest) = answer :: opinions view rest := by
  cases told : detector.language view with
  | error failure => exact Or.inl ⟨failure, rfl, by simp [opinions, told, Except.toOption]⟩
  | ok answer =>
    by_cases silent : answer = .null
    · subst silent
      exact Or.inr (Or.inl ⟨rfl, by simp [opinions, told, Except.toOption]⟩)
    · exact Or.inr (Or.inr ⟨answer, silent, rfl, by simp [opinions, told, Except.toOption, silent]⟩)

section
variable {view : FileView} {detector : LanguageDetector} (kept : Value)
  (rest : List LanguageDetector)

theorem ask_failing {failure : Failure} (told : detector.language view = .error failure) :
    (askLanguages view kept (detector :: rest)).notices =
      .languageFailed view.uri detector.name failure :: (askLanguages view kept rest).notices := by
  simp only [askLanguages, told]

theorem ask_silent (told : detector.language view = .ok .null) :
    askLanguages view kept (detector :: rest) = askLanguages view kept rest := by
  simp only [askLanguages, told, if_true]

theorem ask_first {answer : Value} (spoken : answer ≠ .null)
    (told : detector.language view = .ok answer) :
    askLanguages view .null (detector :: rest) = askLanguages view answer rest := by
  simp only [askLanguages, told, spoken, if_true, if_false]

theorem ask_later {answer : Value} (spoken : answer ≠ .null) (settled : kept ≠ .null)
    (told : detector.language view = .ok answer) :
    (askLanguages view kept (detector :: rest)).notices =
      (if answer.agrees kept = true then [] else [.languagesConflict view.name kept answer]) ++
        (askLanguages view kept rest).notices := by
  simp only [askLanguages, told, spoken, settled, if_false]
  split <;> rfl

end

/-- The notes on providers in their order, each made with the first opinion among all those before
it. -/
def notesBehind (view : FileView) (before detectors : List LanguageDetector) : List Notice :=
  detectors.zipIdx.filterMap fun (detector, place) =>
    noteOn view (opinions view (before ++ detectors.take place)).head? detector

theorem opinions_append (view : FileView) (first second : List LanguageDetector) :
    opinions view (first ++ second) = opinions view first ++ opinions view second := by
  simp [opinions]

theorem opinions_spoken {view : FileView} {detectors : List LanguageDetector} {answer : Value}
    (member : answer ∈ opinions view detectors) : answer ≠ .null := by
  simpa using (List.mem_filter.mp member).2

theorem notesBehind_cons (view : FileView) (before : List LanguageDetector)
    (detector : LanguageDetector) (rest : List LanguageDetector) :
    notesBehind view before (detector :: rest) =
      (noteOn view (opinions view before).head? detector).toList ++
        notesBehind view (before ++ [detector]) rest := by
  have later : ∀ place, before ++ (detector :: rest).take (place + 1) =
      before ++ [detector] ++ rest.take place := by simp
  simp only [notesBehind, List.zipIdx_cons, List.zipIdx_succ, List.filterMap_cons,
    List.filterMap_map, Function.comp_def, List.take_zero, List.append_nil, later]
  cases noteOn view (opinions view before).head? detector <;> rfl

/-- Asking goes on with the first opinion of those asked before, and notes as told. -/
theorem ask_notices (view : FileView) (before detectors : List LanguageDetector) :
    (askLanguages view ((opinions view before).head?.getD .null) detectors).notices =
      notesBehind view before detectors := by
  induction detectors generalizing before with
  | nil => rfl
  | cons detector rest ih =>
    have next := ih (before ++ [detector])
    rw [opinions_append] at next
    rw [notesBehind_cons, ← next]
    rcases opinions_cons view detector [] with
      ⟨failure, told, same⟩ | ⟨told, same⟩ | ⟨answer, spoken, told, same⟩
    · have note : noteOn view (opinions view before).head? detector =
          some (.languageFailed view.uri detector.name failure) := by
        cases (opinions view before).head? <;> simp only [noteOn, told]
      rw [ask_failing _ _ told, same, note]
      simp [opinions]
    · have note : noteOn view (opinions view before).head? detector = none := by
        cases (opinions view before).head? <;> simp [noteOn, told]
      rw [ask_silent _ _ told, same, note]
      simp [opinions]
    · cases first : (opinions view before).head? with
      | none =>
        have nothing : opinions view before = [] := List.head?_eq_none_iff.mp first
        have note : noteOn view none detector = none := by simp only [noteOn, told]
        rw [Option.getD_none, ask_first rest spoken told, same, note, nothing]
        rfl
      | some kept =>
        have settled : kept ≠ .null := opinions_spoken (List.mem_of_head? first)
        have note : (noteOn view (some kept) detector).toList =
            if answer.agrees kept = true then []
            else [.languagesConflict view.name kept answer] := by
          simp only [noteOn, told, spoken, false_or]
          split <;> rfl
        rw [Option.getD_some, ask_later _ _ spoken settled told, same, note, List.head?_append,
          first]
        rfl

theorem failures_noted (view : FileView) (kept : Value) (detectors : List LanguageDetector) :
    atLevel .debug (askLanguages view kept detectors).notices =
      detectors.filterMap (failureNote view) := by
  induction detectors generalizing kept with
  | nil => rfl
  | cons detector rest ih =>
    rcases opinions_cons view detector [] with
      ⟨failure, told, -⟩ | ⟨told, -⟩ | ⟨answer, spoken, told, -⟩
    · have note : failureNote view detector =
          some (.languageFailed view.uri detector.name failure) := by
        simp only [failureNote, told]
      rw [ask_failing _ _ told, List.filterMap_cons_some note, ← ih kept]
      rfl
    · have note : failureNote view detector = none := by simp only [failureNote, told]
      rw [ask_silent _ _ told, List.filterMap_cons_none note, ih]
    · have note : failureNote view detector = none := by simp only [failureNote, told]
      rw [List.filterMap_cons_none note]
      by_cases settled : kept = .null
      · rw [settled, ask_first _ spoken told, ih]
      · rw [ask_later _ _ spoken settled told, ← ih kept]
        split <;> rfl

theorem conflicts_settled (view : FileView) {kept : Value} (settled : kept ≠ .null)
    (detectors : List LanguageDetector) :
    atLevel .error (askLanguages view kept detectors).notices =
      conflictsWith view kept (opinions view detectors) := by
  induction detectors with
  | nil => rfl
  | cons detector rest ih =>
    rcases opinions_cons view detector rest with
      ⟨failure, told, same⟩ | ⟨told, same⟩ | ⟨answer, spoken, told, same⟩
    · rw [ask_failing _ _ told, same, ← ih]
      rfl
    · rw [ask_silent _ _ told, same, ih]
    · rw [ask_later _ _ spoken settled told, same]
      cases differs : answer.agrees kept with
      | true => simpa [conflictsWith, differs] using ih
      | false => simpa [conflictsWith, differs, atLevel, Notice.level] using ih

theorem conflicts_noted (view : FileView) (detectors : List LanguageDetector) :
    atLevel .error (askLanguages view .null detectors).notices =
      conflicts view (opinions view detectors) := by
  induction detectors with
  | nil => rfl
  | cons detector rest ih =>
    rcases opinions_cons view detector rest with
      ⟨failure, told, same⟩ | ⟨told, same⟩ | ⟨answer, spoken, told, same⟩
    · rw [ask_failing _ _ told, same, ← ih]
      rfl
    · rw [ask_silent _ _ told, same, ih]
    · rw [ask_first _ spoken told, same, conflicts_settled view spoken]
      rfl

theorem opinions_filter (view : FileView) (detectors : List LanguageDetector) :
    opinions view (detectors.filter (hasOpinion view)) = opinions view detectors := by
  induction detectors with
  | nil => rfl
  | cons detector rest ih =>
    rcases opinions_cons view detector rest with
      ⟨failure, told, same⟩ | ⟨told, same⟩ | ⟨answer, spoken, told, same⟩
    · have silent : hasOpinion view detector = false := by simp only [hasOpinion, told]
      rw [List.filter_cons_of_neg (by simp [silent]), same, ih]
    · have silent : hasOpinion view detector = false := by simp [hasOpinion, told]
      rw [List.filter_cons_of_neg (by simp [silent]), same, ih]
    · have speaks : hasOpinion view detector = true := by simp [hasOpinion, told, spoken]
      rw [List.filter_cons_of_pos speaks, same, ← ih]
      simp [opinions, told, Except.toOption, spoken]

theorem languages_agree_iff (first second : Language) :
    (Value.text first.name).agrees (.text second.name) = true ↔ first = second := by
  constructor
  · intro agree
    have names : first.name = second.name := by simpa [Value.agrees] using agree
    have found := named_name first
    rw [names, named_name second] at found
    exact (Option.some.inj found).symm
  · rintro rfl
    simp [Value.agrees]

/-- For all providers and files: what is kept is the first opinion, null if no provider has one.
Each provider is noted on its own, in the order of the providers: with a debug entry if it fails,
and with an error that names both if its opinion differs from the first one before it. Providers
that fail or have no opinion may come in or go anywhere, and neither the language nor the conflicts
change. -/
theorem language_by_opinions (view : FileView) (detectors : List LanguageDetector) :
    let told := firstLanguage detectors view
    told.value = (opinions view detectors).head?.getD .null ∧
    told.notices = (detectors.zipIdx.filterMap fun (detector, place) =>
      noteOn view (opinions view (detectors.take place)).head? detector) ∧
    atLevel .debug told.notices = detectors.filterMap (failureNote view) ∧
    atLevel .error told.notices = conflicts view (opinions view detectors) ∧
    (∀ first second : Language,
      (Value.text first.name).agrees (.text second.name) = true ↔ first = second) ∧
    ∀ others : List LanguageDetector,
      others.filter (hasOpinion view) = detectors.filter (hasOpinion view) →
        (firstLanguage others view).value = told.value ∧
          atLevel .error (firstLanguage others view).notices = atLevel .error told.notices := by
  have value : ∀ detectors, (firstLanguage detectors view).value =
      (opinions view detectors).head?.getD .null := by
    intro detectors
    rw [firstLanguage, askLanguages_value, if_pos rfl, firstOpinion_eq]
  refine ⟨value detectors, ask_notices view [] detectors, failures_noted view .null detectors,
    conflicts_noted view detectors, languages_agree_iff, ?_⟩
  intro others same
  have opinions : opinions view others = opinions view detectors := by
    rw [← opinions_filter view others, same, opinions_filter]
  constructor
  · rw [value, value, opinions]
  · rw [firstLanguage, conflicts_noted, firstLanguage, conflicts_noted, opinions]

/-- Two providers that disagree, and the same two among others that fail or are silent. -/
theorem language_by_opinions_sample :
    let view : FileView := ⟨.text "file:///w/a.js", "a.js", ⟨"w", .text "scope:w", "file:///w"⟩,
      "a.js", .ok (.text "utf-8"), .ok (.text "")⟩
    let provider (name : String) (answer : Except Failure Value) : LanguageDetector :=
      ⟨name, fun _ => answer⟩
    let two := [provider "Suffix" (.ok (.text "JS")), provider "Header" (.ok (.text "TS"))]
    let all := [provider "Broken" (.error (.reported .runtime "crashed")),
      provider "Suffix" (.ok (.text "JS")), provider "Silent" (.ok .null),
      provider "Header" (.ok (.text "TS")),
      provider "Broken" (.error (.reported .runtime "crashed"))]
    two.filter (hasOpinion view) = all.filter (hasOpinion view) ∧
      (firstLanguage two view).value = .text "JS" ∧
      atLevel .error (firstLanguage two view).notices =
        [.languagesConflict "a.js" (.text "JS") (.text "TS")] ∧
      (atLevel .debug (firstLanguage all view).notices).length = 2 := by
  intro view provider two all
  have same : two.filter (hasOpinion view) = all.filter (hasOpinion view) := rfl
  obtain ⟨value, -, failures, errors, -, alike⟩ := language_by_opinions view all
  obtain ⟨sameValue, sameErrors⟩ := alike two same
  refine ⟨same, sameValue.trans value, sameErrors.trans errors, ?_⟩
  rw [failures]
  rfl

end ChangeRelay.Snapshot
