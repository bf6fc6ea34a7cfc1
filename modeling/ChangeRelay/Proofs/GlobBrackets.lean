import ChangeRelay.Glob

/-!
What a bracket in a glob pattern stands for. Its inside is read from left to right as ranges and
members, which is the way the hyphens are cut; taking the empty ranges away does not change what the
others hold. It may bring a `!` to the front, though, and the bracket is then taken for a negated
one.
-/
namespace ChangeRelay.Glob

inductive Item where
  | member (c : Char)
  | range (low high : Char)
  deriving DecidableEq, Repr

/-- The inside of a bracket from left to right: a hyphen between two characters makes a range, and
every other character is a member. -/
def items : List Char → List Item
  | low :: '-' :: high :: rest => .range low high :: items rest
  | c :: rest => .member c :: items rest
  | [] => []

namespace Item

def Holds : Item → Char → Prop
  | .member d, c => c = d
  | .range low high, c => low ≤ c ∧ c ≤ high

instance (item : Item) (c : Char) : Decidable (item.Holds c) :=
  match item with
  | .member d => inferInstanceAs (Decidable (c = d))
  | .range low high => inferInstanceAs (Decidable (low ≤ c ∧ c ≤ high))

def isVoid : Item → Bool
  | .member _ => false
  | .range low high => decide (high < low)

def marks : Item → List Mark
  | .member c => [.char c]
  | .range low high => [.char low, .range, .char high]

def bounds : Item → Char × Char
  | .member c => (c, c)
  | .range low high => (low, high)

theorem void_holds {item : Item} (void : item.isVoid = true) (c : Char) : ¬item.Holds c := by
  cases item with
  | member d => cases void
  | range low high =>
    have less : high < low := by simpa [isVoid] using void
    rintro ⟨above, below⟩
    exact absurd (Char.le_trans above below) (Char.not_le.mpr less)

end Item

theorem Item.exists_holds {item : Item} (filled : item.isVoid = false) : ∃ c, item.Holds c := by
  cases item with
  | member d => exact ⟨d, rfl⟩
  | range low high =>
    have ordered : low ≤ high := Char.not_lt.mp (by simpa [isVoid] using filled)
    exact ⟨low, Char.le_refl low, ordered⟩

def solid (items : List Item) : List Item := items.filter fun item => !item.isVoid

theorem solid_holds (items : List Item) (c : Char) :
    (∃ item ∈ solid items, item.Holds c) ↔ ∃ item ∈ items, item.Holds c := by
  constructor
  · rintro ⟨item, listed, holds⟩
    exact ⟨item, (List.mem_filter.mp listed).1, holds⟩
  · rintro ⟨item, listed, holds⟩
    have filled : item.isVoid = false :=
      Bool.eq_false_iff.mpr fun void => Item.void_holds void c holds
    exact ⟨item, List.mem_filter.mpr ⟨listed, by simp [filled]⟩, holds⟩

/-- Items cut at their ranges, behind what stands before them: each range has its ends in two
chunks. -/
def chunksOf (before : List Char) : List Item → List (List Char)
  | [] => [before]
  | .member c :: rest => chunksOf (before ++ [c]) rest
  | .range low high :: rest => (before ++ [low]) :: chunksOf [high] rest

theorem chunks_first (text : List Char) (least : Nat) {held : List Char} (filled : held ≠ []) :
    ∃ first more, chunks least held text = first :: more ∧ first ≠ [] := by
  induction text generalizing held with
  | nil => exact ⟨held.reverse, [], rfl, by simpa using filled⟩
  | cons c rest ih =>
    rw [chunks]
    split
    · exact ⟨held.reverse, _, rfl, by simpa using filled⟩
    · exact ih (List.cons_ne_nil c held)

theorem keepLastHyphen_opened (chunk text : List Char) (least : Nat) {held : List Char}
    (filled : held ≠ []) :
    keepLastHyphen (chunk :: chunks least held text) =
      chunk :: keepLastHyphen (chunks least held text) := by
  obtain ⟨first, more, cut, some_⟩ := chunks_first text least filled
  rw [cut]
  cases first with
  | nil => exact absurd rfl some_
  | cons => cases more <;> rfl

/-- Cutting a text at its hyphens comes to its items, once enough stands before the text: the hyphen
behind the next character has to cut, and a hyphen at the start of the text must not, unless it is
all of it. -/
theorem keepLastHyphen_chunks (text : List Char) {least : Nat} {held : List Char}
    (room : least ≤ held.length + 1)
    (opens : ∀ more, text = '-' :: more → held.length < least ∨ more = []) :
    keepLastHyphen (chunks least held text) = chunksOf held.reverse (items text) := by
  fun_induction items text generalizing least held with
  | case1 low high rest ih =>
    have whole : ¬(low = '-' ∧ least ≤ held.length) := by
      rintro ⟨rfl, enough⟩
      rcases opens _ rfl with few | nothing
      · omega
      · cases nothing
    have cut : '-' = '-' ∧ least ≤ (low :: held).length := ⟨rfl, room⟩
    -- The high end stays with the next chunk, even if it is a hyphen itself.
    have next : ¬(high = '-' ∧ 2 ≤ ([] : List Char).length) := by simp
    rw [chunks, if_neg whole, chunks, if_pos cut, chunks, if_neg next,
      keepLastHyphen_opened _ _ _ (List.cons_ne_nil high []), ih (Nat.le_refl 2), chunksOf,
      List.reverse_cons]
    · rfl
    · exact fun more _ => Or.inl Nat.one_lt_two
  | case2 c rest noRange ih =>
    by_cases last : c = '-' ∧ least ≤ held.length
    · -- A hyphen that cuts here ends the text, and is a member after all.
      obtain ⟨rfl, enough⟩ := last
      rcases opens rest rfl with few | rfl
      · omega
      · rw [chunks, if_pos ⟨rfl, enough⟩]
        rfl
    · rw [chunks, if_neg last, ih, chunksOf, List.reverse_cons]
      · rw [List.length_cons]
        omega
      · rintro more rfl
        cases more with
        | nil => exact Or.inr rfl
        | cons high others => exact absurd rfl (noRange high others)
  | case3 => rfl

theorem marks_cons (c : Char) (first : List Char) (others : List (List Char)) :
    marks ((c :: first) :: others) = .char c :: marks (first :: others) := by
  cases others <;> rfl

theorem marks_split (first next : List Char) (others : List (List Char)) :
    marks (first :: next :: others) = first.map .char ++ .range :: marks (next :: others) := rfl

theorem dropEmptyRanges_chunksOf (items : List Item) (before : List Char) :
    ∃ tail others, dropEmptyRanges (chunksOf before items) = (before ++ tail) :: others ∧
      marks (tail :: others) = (solid items).flatMap Item.marks := by
  induction items generalizing before with
  | nil => exact ⟨[], [], by simp [chunksOf, dropEmptyRanges], rfl⟩
  | cons item rest ih =>
    cases item with
    | member c =>
      obtain ⟨tail, others, dropped, marked⟩ := ih (before ++ [c])
      refine ⟨c :: tail, others, ?_, ?_⟩
      · rw [chunksOf, dropped, List.append_assoc, List.singleton_append]
      · rw [marks_cons, marked]
        rfl
    | range low high =>
      -- The chunk behind the cut still starts with the high end, whatever was dropped after it.
      obtain ⟨tail, others, dropped, marked⟩ := ih [high]
      have step : dropEmptyRanges (chunksOf before (.range low high :: rest)) =
          if high < low then (before ++ tail) :: others
          else (before ++ [low]) :: (high :: tail) :: others := by
        rw [chunksOf, dropEmptyRanges, dropped]
        simp
      rw [step]
      by_cases void : high < low
      · refine ⟨tail, others, if_pos void, ?_⟩
        rw [marked]
        simp [solid, Item.isVoid, void]
      · refine ⟨[low], (high :: tail) :: others, if_neg void, ?_⟩
        rw [marks_split, marks_cons, marked]
        simp [solid, Item.isVoid, void, Item.marks]

theorem marks_of_inside (text : List Char) {least : Nat} {held : List Char}
    (room : least ≤ held.length + 1) (few : held.length < least) :
    marks (dropEmptyRanges (keepLastHyphen (chunks least held text))) =
      held.reverse.map .char ++ (solid (items text)).flatMap Item.marks := by
  obtain ⟨tail, others, dropped, marked⟩ :=
    dropEmptyRanges_chunksOf (items text) held.reverse
  rw [keepLastHyphen_chunks text room fun _ _ => Or.inl few, dropped, ← marked]
  generalize held.reverse = before
  induction before with
  | nil => rfl
  | cons c more ih => rw [List.cons_append, marks_cons, ih]; rfl

theorem ranges_of_items (items : List Item) :
    ranges (items.flatMap Item.marks) = items.map Item.bounds := by
  induction items with
  | nil => rfl
  | cons item rest ih =>
    cases item with
    | range low high =>
      rw [List.flatMap_cons, List.map_cons, ← ih]
      rfl
    | member c =>
      rw [List.flatMap_cons, List.map_cons, ← ih]
      cases rest with
      | nil => rfl
      | cons next => cases next <;> rfl

theorem inRanges_iff (items : List Item) (c : Char) :
    inRanges (items.map Item.bounds) c = true ↔ ∃ item ∈ items, item.Holds c := by
  rw [inRanges, List.any_map, List.any_eq_true]
  refine exists_congr fun item => and_congr_right fun _ => ?_
  have within (low high : Char) :
      (decide (low ≤ c) && decide (c ≤ high)) = true ↔ low ≤ c ∧ c ≤ high := by
    rw [Bool.and_eq_true, decide_eq_true_iff, decide_eq_true_iff]
  cases item with
  | member d =>
    refine (within d d).trans ⟨fun both => Char.le_antisymm both.2 both.1, ?_⟩
    rintro rfl
    exact ⟨Char.le_refl c, Char.le_refl c⟩
  | range low high => exact within low high

/-- What a bracket means: one of its items or, negated, none of them. -/
def AsWritten (negated : Bool) (content : List Char) (c : Char) : Prop :=
  (∃ item ∈ items content, item.Holds c) ↔ negated = false

/-- What a bracket that is taken for a negated one excludes. -/
def misreadAs : List Item → Option (List Item)
  | .member '!' :: more => some more
  | .range '!' high :: more => some (.member '-' :: .member high :: more)
  | _ => none

/-- A bracket that is not negated, but would be without its empty ranges. -/
def Misread (negated : Bool) (content : List Char) : Prop :=
  negated = false ∧ (misreadAs (solid (items content))).isSome = true

/-- What a bracket is taken for: what it means, unless a `!` comes to the front. -/
def AsRead (negated : Bool) (content : List Char) (c : Char) : Prop :=
  match negated, misreadAs (solid (items content)) with
  | false, some others => ¬∃ item ∈ others, item.Holds c
  | _, _ => AsWritten negated content c

instance (negated : Bool) (content : List Char) (c : Char) :
    Decidable (AsWritten negated content c) :=
  inferInstanceAs (Decidable (_ ↔ _))

theorem accepts_oneOf (negated : Bool) (items : List Item) (c : Char) :
    (Piece.oneOf negated (ranges (items.flatMap Item.marks))).accepts c = true ↔
      ((∃ item ∈ items, item.Holds c) ↔ negated = false) := by
  rw [Piece.accepts, ranges_of_items, ← inRanges_iff]
  cases inRanges (items.map Item.bounds) c <;> cases negated <;> decide

theorem oneOf_negated (content : List Char) :
    oneOf ('!' :: content) =
      .oneOf true (ranges ((solid (items content)).flatMap Item.marks)) := by
  have marked : marks (dropEmptyRanges (keepLastHyphen (chunks 2 [] ('!' :: content)))) =
      .char '!' :: (solid (items content)).flatMap Item.marks :=
    marks_of_inside content (Nat.le_refl 2) Nat.one_lt_two
  rw [oneOf, List.head?_cons, if_pos rfl, marked]
  rfl

theorem oneOf_unmarked {content : List Char} (unmarked : content.head? ≠ some '!') :
    oneOf content =
      match misreadAs (solid (items content)) with
      | some others => .oneOf true (ranges (others.flatMap Item.marks))
      | none => .oneOf false (ranges ((solid (items content)).flatMap Item.marks)) := by
  have marked : marks (dropEmptyRanges (keepLastHyphen (chunks 1 [] content))) =
      (solid (items content)).flatMap Item.marks :=
    marks_of_inside content (Nat.le_refl 1) Nat.one_pos
  rw [oneOf, if_neg unmarked, marked]
  cases solid (items content) with
  | nil => rfl
  | cons first more =>
    cases first with
    | member c =>
      by_cases bang : c = '!'
      · subst bang
        rfl
      · simp [misreadAs, Item.marks, bang]
    | range low high =>
      by_cases bang : low = '!'
      · subst bang
        rfl
      · simp [misreadAs, Item.marks, bang]

def shown (negated : Bool) (content : List Char) : List Char :=
  if negated then '!' :: content else content

theorem accepts_bracket {negated : Bool} {content : List Char}
    (unmarked : negated = false → content.head? ≠ some '!') (c : Char) :
    (oneOf (shown negated content)).accepts c = true ↔ AsRead negated content c := by
  cases negated with
  | true =>
    rw [shown, if_pos rfl, oneOf_negated, accepts_oneOf, solid_holds]
    rfl
  | false =>
    rw [shown, if_neg Bool.false_ne_true, oneOf_unmarked (unmarked rfl)]
    unfold AsRead
    cases misreadAs (solid (items content)) with
    | none =>
      dsimp only
      rw [accepts_oneOf, solid_holds]
      rfl
    | some others =>
      dsimp only
      rw [accepts_oneOf]
      simp

theorem asRead_of_not_misread {negated : Bool} {content : List Char}
    (straight : ¬Misread negated content) (c : Char) :
    AsRead negated content c ↔ AsWritten negated content c := by
  cases negated with
  | true => rfl
  | false =>
    unfold AsRead
    cases found : misreadAs (solid (items content)) with
    | none => rfl
    | some others => exact absurd ⟨rfl, by rw [found]; rfl⟩ straight

theorem misreadAs_cases {items others : List Item} (misread : misreadAs items = some others) :
    (∃ more, items = .member '!' :: more ∧ others = more) ∨
      ∃ high more, items = .range '!' high :: more ∧
        others = .member '-' :: .member high :: more := by
  unfold misreadAs at misread
  split at misread
  · exact Or.inl ⟨_, rfl, (Option.some.inj misread).symm⟩
  · exact Or.inr ⟨_, _, rfl, (Option.some.inj misread).symm⟩
  · cases misread

/-- A misread bracket is never taken for what it means: what it excludes is part of what it means,
and if it excludes nothing it means no more than the `!`. -/
theorem misread_differs {negated : Bool} {content : List Char} (misread : Misread negated content) :
    ∃ c, ¬(AsRead negated content c ↔ AsWritten negated content c) := by
  obtain ⟨rfl, taken⟩ := misread
  obtain ⟨others, found⟩ := Option.isSome_iff_exists.mp taken
  have meant : ∀ c, AsWritten false content c ↔ ∃ item ∈ solid (items content), item.Holds c := by
    intro c
    rw [solid_holds, AsWritten]
    exact iff_true_right rfl
  have read : ∀ c, AsRead false content c ↔ ¬∃ item ∈ others, item.Holds c := by
    intro c
    unfold AsRead
    rw [found]
  have filled : ∀ item ∈ solid (items content), item.isVoid = false := by
    intro item listed
    simpa using (List.mem_filter.mp listed).2
  simp only [meant, read]
  obtain ⟨more, whole, rfl⟩ | ⟨high, more, whole, rfl⟩ := misreadAs_cases found
  · rw [whole] at filled ⊢
    cases others with
    | nil => exact ⟨'a', by simp [Item.Holds]⟩
    | cons item rest =>
      have listed : item ∈ Item.member '!' :: item :: rest :=
        List.mem_cons_of_mem _ List.mem_cons_self
      obtain ⟨c, holds⟩ := Item.exists_holds (filled item listed)
      refine ⟨c, fun same => ?_⟩
      exact same.mpr ⟨item, listed, holds⟩ ⟨item, List.mem_cons_self, holds⟩
  · rw [whole] at filled ⊢
    have ordered : '!' ≤ high :=
      Char.not_lt.mp (by simpa [Item.isVoid] using filled _ List.mem_cons_self)
    refine ⟨high, fun same => ?_⟩
    have member : ∃ item ∈ Item.range '!' high :: more, item.Holds high :=
      ⟨_, List.mem_cons_self, ordered, Char.le_refl high⟩
    exact same.mpr member ⟨.member high, List.mem_cons_of_mem _ List.mem_cons_self, rfl⟩

end ChangeRelay.Glob
