import ChangeRelay.Path

/-!
Order and containment of paths. Component order is transitive and total, and a folder comes before
all that lies within it. Folders around one path are told apart by their depth.
-/
namespace ChangeRelay.Path

theorem namesBefore_prefix {first second : List String} (within : first <+: second) :
    namesBefore first second = true := by
  obtain ⟨rest, rfl⟩ := within
  induction first with
  | nil => cases rest <;> rfl
  | cons name more ih => simpa [namesBefore] using ih

theorem namesBefore_cons (first second : String) (firstRest secondRest : List String) :
    namesBefore (first :: firstRest) (second :: secondRest) = true ↔
      first < second ∨ first = second ∧ namesBefore firstRest secondRest = true := by
  by_cases same : first = second
  · subst same
    simp [namesBefore]
  · simp [namesBefore, same]

theorem namesBefore_trans {first second third : List String}
    (early : namesBefore first second = true) (late : namesBefore second third = true) :
    namesBefore first third = true := by
  induction first generalizing second third with
  | nil => cases third <;> rfl
  | cons a as ih =>
    cases second with
    | nil => cases early
    | cons b bs =>
      cases third with
      | nil => cases late
      | cons c cs =>
        rw [namesBefore_cons] at early late ⊢
        rcases early with less | ⟨rfl, rest⟩
        · rcases late with further | ⟨rfl, -⟩
          · exact Or.inl (String.lt_trans less further)
          · exact Or.inl less
        · rcases late with further | ⟨rfl, others⟩
          · exact Or.inl further
          · exact Or.inr ⟨rfl, ih rest others⟩

theorem lt_or_eq_or_lt (first second : String) :
    first < second ∨ first = second ∨ second < first := by
  by_cases less : first < second
  · exact Or.inl less
  · by_cases more : second < first
    · exact Or.inr (Or.inr more)
    · exact Or.inr (Or.inl (String.le_antisymm (String.not_lt.mp more) (String.not_lt.mp less)))

theorem namesBefore_total (first second : List String) :
    namesBefore first second = true ∨ namesBefore second first = true := by
  induction first generalizing second with
  | nil => exact Or.inl (by cases second <;> rfl)
  | cons a as ih =>
    cases second with
    | nil => exact Or.inr rfl
    | cons b bs =>
      rw [namesBefore_cons, namesBefore_cons]
      rcases lt_or_eq_or_lt a b with less | same | more
      · exact Or.inl (Or.inl less)
      · rcases ih bs with early | late
        · exact Or.inl (Or.inr ⟨same, early⟩)
        · exact Or.inr (Or.inr ⟨same.symm, late⟩)
      · exact Or.inr (Or.inl more)

theorem namesBefore_antisymm {first second : List String}
    (early : namesBefore first second = true) (late : namesBefore second first = true) :
    first = second := by
  induction first generalizing second with
  | nil =>
    cases second with
    | nil => rfl
    | cons => cases late
  | cons a as ih =>
    cases second with
    | nil => cases early
    | cons b bs =>
      rw [namesBefore_cons] at early late
      rcases early with less | ⟨rfl, rest⟩
      · rcases late with more | ⟨same, -⟩
        · exact absurd (String.lt_trans less more) (String.lt_irrefl a)
        · exact absurd (same ▸ less) (String.lt_irrefl b)
      · rcases late with more | ⟨-, others⟩
        · exact absurd more (String.lt_irrefl a)
        · rw [ih rest others]

theorem namesBefore_append (base first second : List String) :
    namesBefore (base ++ first) (base ++ second) = namesBefore first second := by
  induction base with
  | nil => rfl
  | cons name rest ih => simpa [namesBefore] using ih

theorem before_of_anchor (first second : Path) (same : first.anchor = second.anchor) :
    first.before second = namesBefore first.names second.names := by
  obtain ⟨anchor, names⟩ := first
  obtain ⟨other, others⟩ := second
  change anchor = other at same
  subst same
  cases anchor with
  | relative => rfl
  | single => exact namesBefore_append ["/"] names others
  | double => exact namesBefore_append ["//"] names others

theorem before_below (folder : Path) (first second : List String) :
    (Path.mk folder.anchor (folder.names ++ first)).before
      ⟨folder.anchor, folder.names ++ second⟩ = namesBefore first second :=
  (before_of_anchor ⟨folder.anchor, folder.names ++ first⟩ ⟨folder.anchor, folder.names ++ second⟩
    rfl).trans (namesBefore_append folder.names first second)

theorem before_trans (first second third : Path) (early : first.before second = true)
    (late : second.before third = true) : first.before third = true :=
  namesBefore_trans early late

theorem before_total (first second : Path) :
    (first.before second || second.before first) = true := by
  rw [Bool.or_eq_true]
  exact namesBefore_total first.parts second.parts

def Precedes (first second : Path) : Prop := first.before second = true ∧ first ≠ second

theorem isWithin_iff (path folder : Path) :
    path.isWithin folder = true ↔ path.anchor = folder.anchor ∧ folder.names <+: path.names := by
  simp [isWithin]

theorem isWithin_refl (path : Path) : path.isWithin path = true := by
  simp [isWithin]

theorem isWithin_trans {path folder outer : Path} (inner : path.isWithin folder = true)
    (around : folder.isWithin outer = true) : path.isWithin outer = true := by
  rw [isWithin_iff] at inner around ⊢
  exact ⟨inner.1.trans around.1, around.2.trans inner.2⟩

theorem isWithin_child (path : Path) (name : String) : (path.child name).isWithin path = true := by
  rw [isWithin_iff]
  exact ⟨rfl, List.prefix_append path.names [name]⟩

theorem isWithin_same_depth {path first second : Path} (inFirst : path.isWithin first = true)
    (inSecond : path.isWithin second = true)
    (depth : first.names.length = second.names.length) : first = second := by
  rw [isWithin_iff] at inFirst inSecond
  obtain ⟨anchor, names⟩ := first
  obtain ⟨other, others⟩ := second
  have anchors : anchor = other := inFirst.1.symm.trans inSecond.1
  have same : names = others :=
    List.prefix_of_prefix_length_le inFirst.2 inSecond.2 (Nat.le_of_eq depth) |>.eq_of_length depth
  rw [anchors, same]

theorem isWithin_depth {path folder : Path} (within : path.isWithin folder = true) :
    folder.names.length ≤ path.names.length := by
  rw [isWithin_iff] at within
  exact within.2.length_le

end ChangeRelay.Path
