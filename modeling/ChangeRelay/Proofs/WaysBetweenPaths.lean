import ChangeRelay.Proofs.PathLaws
import ChangeRelay.Uri

/-!
The way from one path to another. It leads up from the base to the deepest folder that both paths
lie in, one `..` for every component left behind, and from there on to the target. There is no way
between paths of different roots, nor up from a folder that is itself a `..`.
-/
namespace ChangeRelay

namespace Path

/-- How many components two lists have in common before they first differ. -/
def sharedDepth : List String → List String → Nat
  | name :: rest, other :: more => if name = other then sharedDepth rest more + 1 else 0
  | _, _ => 0

theorem sharedDepth_le (first second : List String) :
    sharedDepth first second ≤ first.length := by
  induction first generalizing second with
  | nil => exact Nat.le_refl 0
  | cons name rest ih =>
    cases second with
    | nil => exact Nat.zero_le _
    | cons other more =>
      rw [sharedDepth, List.length_cons]
      have bound := ih more
      split <;> omega

theorem take_prefix_iff {first second : List String} {depth : Nat}
    (within : depth ≤ first.length) :
    first.take depth <+: second ↔ depth ≤ sharedDepth first second := by
  induction first generalizing second depth with
  | nil =>
    have top : depth = 0 := Nat.le_zero.mp within
    simp [top]
  | cons name rest ih =>
    cases depth with
    | zero => simp
    | succ depth =>
      cases second with
      | nil => simp [sharedDepth]
      | cons other more =>
        have deeper : depth ≤ rest.length := Nat.le_of_succ_le_succ within
        rw [List.take_succ_cons, List.cons_prefix_cons, ih deeper, sharedDepth]
        split
        · rename_i same
          simp [same]
        · rename_i differs
          simp [differs]

theorem take_sharedDepth (first second : List String) :
    first.take (sharedDepth first second) = second.take (sharedDepth first second) := by
  have bound := sharedDepth_le first second
  have shared := List.prefix_iff_eq_take.mp ((take_prefix_iff bound).mpr (Nat.le_refl _))
  rwa [List.length_take, Nat.min_eq_left bound] at shared

theorem prefix_iff_sharedDepth (first second : List String) :
    first <+: second ↔ sharedDepth first second = first.length := by
  have whole : first.take first.length <+: second ↔ first.length ≤ sharedDepth first second :=
    take_prefix_iff (Nat.le_refl first.length)
  rw [List.take_length] at whole
  rw [whole]
  have bound := sharedDepth_le first second
  omega

theorem sharedDepth_concat {names second : List String} {name : String}
    (outside : ¬names ++ [name] <+: second) :
    sharedDepth (names ++ [name]) second = sharedDepth names second := by
  induction names generalizing second with
  | nil =>
    cases second with
    | nil => rfl
    | cons other more =>
      have differs : name ≠ other := by
        rintro rfl
        exact outside (List.prefix_append [name] more)
      simp [sharedDepth, differs]
  | cons first rest ih =>
    cases second with
    | nil => rfl
    | cons other more =>
      rw [List.cons_append, sharedDepth, sharedDepth]
      split
      · rename_i same
        rw [List.cons_append, List.cons_prefix_cons] at outside
        rw [ih fun inside => outside ⟨same, inside⟩]
      · rfl

/-- Between paths of one root, climbing ends at the shared folder, unless a `..` is in the way. -/
theorem climb_sameRoot {target : Path} {anchor : Anchor} (same : target.anchor = anchor)
    (names : List String) :
    climb target anchor names =
      if ".." ∈ names.reverse.drop (sharedDepth names.reverse target.names) then
        .error .parentName
      else
        .ok (names.length - sharedDepth names.reverse target.names,
          sharedDepth names.reverse target.names) := by
  induction names with
  | nil =>
    have within : target.isWithin ⟨anchor, []⟩ = true :=
      (isWithin_iff _ _).mpr ⟨same, List.nil_prefix⟩
    rw [climb, if_pos within]
    simp [sharedDepth]
  | cons name outer ih =>
    have within : target.isWithin ⟨anchor, outer.reverse ++ [name]⟩ = true ↔
        outer.reverse ++ [name] <+: target.names := by
      rw [isWithin_iff]
      exact and_iff_right same
    rw [climb, List.reverse_cons]
    by_cases inside : outer.reverse ++ [name] <+: target.names
    · have all : sharedDepth (outer.reverse ++ [name]) target.names = outer.length + 1 := by
        rw [(prefix_iff_sharedDepth _ _).mp inside, List.length_append, List.length_reverse,
          List.length_singleton]
      rw [if_pos (within.mpr inside), all, List.drop_of_length_le (by simp)]
      simp
    · have bound := sharedDepth_le outer.reverse target.names
      rw [List.length_reverse] at bound
      rw [if_neg (mt within.mp inside), sharedDepth_concat inside,
        List.drop_append_of_le_length (by rwa [List.length_reverse]), ih]
      by_cases parent : name = ".."
      · simp [parent]
      · rw [if_neg parent]
        by_cases blocked :
            ".." ∈ outer.reverse.drop (sharedDepth outer.reverse target.names)
        · simp [blocked, Except.map]
        · have steps : outer.length - sharedDepth outer.reverse target.names + 1 =
              outer.length + 1 - sharedDepth outer.reverse target.names := by omega
          simp [blocked, Ne.symm parent, Except.map, steps]

/-- Between paths of different roots, climbing goes on to the very top or to a `..`. -/
theorem climb_otherRoot {target : Path} {anchor : Anchor} (differs : target.anchor ≠ anchor)
    (names : List String) :
    climb target anchor names =
      if ".." ∈ names then .error .parentName else .error .roots := by
  have outside (list : List String) : ¬target.isWithin ⟨anchor, list⟩ = true := by
    rw [isWithin_iff]
    exact fun within => differs within.1
  induction names with
  | nil => rw [climb, if_neg (outside [])]; rfl
  | cons name outer ih =>
    rw [climb, if_neg (outside _), ih]
    by_cases parent : name = ".."
    · simp [parent]
    · by_cases blocked : ".." ∈ outer
      · simp [parent, blocked, Except.map]
      · simp [parent, Ne.symm parent, blocked, Except.map]

/-- A base from which one cannot go up to what it shares with the target. -/
def Blocked (base target : Path) : Prop :=
  base.anchor ≠ target.anchor ∨ ".." ∈ base.names.drop (sharedDepth base.names target.names)

theorem relativeTo_blocked {target base : Path} (blocked : Blocked base target) :
    ∃ noWay, target.relativeTo base = .error noWay := by
  rw [relativeTo]
  by_cases same : target.anchor = base.anchor
  · rcases blocked with differs | parent
    · exact absurd same.symm differs
    · rw [climb_sameRoot same, List.reverse_reverse, if_pos parent]
      exact ⟨_, rfl⟩
  · rw [climb_otherRoot same]
    by_cases parent : ".." ∈ base.names.reverse
    · rw [if_pos parent]
      exact ⟨_, rfl⟩
    · rw [if_neg parent]
      exact ⟨_, rfl⟩

theorem relativeTo_open {target base : Path} (unblocked : ¬Blocked base target) :
    target.relativeTo base =
      .ok ⟨.relative,
        List.replicate (base.names.length - sharedDepth base.names target.names) ".." ++
          target.names.drop (sharedDepth base.names target.names)⟩ := by
  rw [Blocked, not_or, Decidable.not_not] at unblocked
  obtain ⟨same, direct⟩ := unblocked
  rw [relativeTo, climb_sameRoot same.symm, List.reverse_reverse, if_neg direct,
    List.length_reverse]

theorem fewer_steps_outside {base target : List String} {steps : Nat}
    (fewer : steps < base.length - sharedDepth base target) (rest : List String) :
    base.take (base.length - steps) ++ rest ≠ target := by
  intro reached
  have within : base.take (base.length - steps) <+: target := ⟨rest, reached⟩
  have depth := (take_prefix_iff (Nat.sub_le _ _)).mp within
  omega

end Path

namespace Uri

theorem fromTo_read {base uri : String} {start goal : Path} (baseRead : pathOf base = .ok start)
    (goalRead : pathOf uri = .ok goal) :
    fromTo base uri = (goal.relativeTo start).mapError .way := by
  rw [fromTo, goalRead, baseRead]
  rfl

section
variable {base uri : String} {start goal : Path} (baseRead : pathOf base = .ok start)
  (goalRead : pathOf uri = .ok goal)
include baseRead goalRead

theorem fromTo_blocked (blocked : Path.Blocked start goal) :
    ∃ noWay, fromTo base uri = .error (.way noWay) := by
  obtain ⟨noWay, failed⟩ := Path.relativeTo_blocked blocked
  refine ⟨noWay, ?_⟩
  rw [fromTo_read baseRead goalRead, failed]
  rfl

theorem fromTo_open (open_ : ¬Path.Blocked start goal) :
    let shared := Path.sharedDepth start.names goal.names
    fromTo base uri = .ok ⟨.relative,
      List.replicate (start.names.length - shared) ".." ++ goal.names.drop shared⟩ := by
  rw [fromTo_read baseRead goalRead, Path.relativeTo_open open_]
  rfl

end

/-- For every two URIs that can be read: there is no way from one to the other exactly if their
paths have different roots, or if a component of the base beyond what both share is `..`. Otherwise
the way has one `..` for each component of the base beyond that, and then the rest of the target.
Going back so many components and on along the rest leads to the target; going back fewer does
not, whatever is appended. -/
theorem way_through_shared_folder {base uri : String} {start goal : Path}
    (baseRead : pathOf base = .ok start) (goalRead : pathOf uri = .ok goal) :
    let shared := Path.sharedDepth start.names goal.names
    let up := start.names.length - shared
    ((∃ noWay, fromTo base uri = .error (.way noWay)) ↔
      start.anchor ≠ goal.anchor ∨ ".." ∈ start.names.drop shared) ∧
    ((∃ way, fromTo base uri = .ok way) ↔
      ¬(start.anchor ≠ goal.anchor ∨ ".." ∈ start.names.drop shared)) ∧
    ∀ way, fromTo base uri = .ok way →
      way = ⟨.relative, List.replicate up ".." ++ goal.names.drop shared⟩ ∧
      goal = ⟨start.anchor, start.names.take (start.names.length - up) ++ way.names.drop up⟩ ∧
      ∀ fewer < up, ∀ rest, start.names.take (start.names.length - fewer) ++ rest ≠ goal.names := by
  intro shared up
  by_cases blocked : Path.Blocked start goal
  · obtain ⟨noWay, failed⟩ := fromTo_blocked baseRead goalRead blocked
    have cause : start.anchor ≠ goal.anchor ∨ ".." ∈ start.names.drop shared := blocked
    simp [failed, cause]
  · have open_ : ¬(start.anchor ≠ goal.anchor ∨ ".." ∈ start.names.drop shared) := blocked
    have found : fromTo base uri =
        .ok ⟨.relative, List.replicate up ".." ++ goal.names.drop shared⟩ :=
      fromTo_open baseRead goalRead blocked
    refine ⟨?_, ?_, ?_⟩
    · simp [found, open_]
    · simp [found, open_]
    · intro way told
      rw [found] at told
      cases told
      refine ⟨rfl, ?_, fun fewer less rest => Path.fewer_steps_outside less rest⟩
      have same : start.anchor = goal.anchor :=
        Decidable.byContradiction fun differs => open_ (Or.inl differs)
      have depth : start.names.length - up = shared :=
        Nat.sub_sub_self (Path.sharedDepth_le start.names goal.names)
      have onwards : (List.replicate up ".." ++ goal.names.drop shared).drop up =
          goal.names.drop shared := List.drop_left' List.length_replicate
      have joined : start.names.take shared ++ goal.names.drop shared = goal.names := by
        rw [Path.take_sharedDepth, List.take_append_drop]
      rw [same, depth, onwards, joined]

/-- From a project to a configuration file of the project around it. -/
theorem way_from_nested_project :
    fromTo "file:///ws/app/lib%20one" "file:///ws/app/.sonarlint/c.json" =
      .ok ⟨.relative, ["..", ".sonarlint", "c.json"]⟩ := by
  have baseRead : pathOf "file:///ws/app/lib%20one" = .ok ⟨.single, ["ws", "app", "lib one"]⟩ := by
    rfl
  have goalRead : pathOf "file:///ws/app/.sonarlint/c.json" =
      .ok ⟨.single, ["ws", "app", ".sonarlint", "c.json"]⟩ := by rfl
  obtain ⟨-, found, leads⟩ := way_through_shared_folder baseRead goalRead
  obtain ⟨way, told⟩ := found.mpr (by decide)
  rw [told, (leads way told).1]
  rfl

end Uri
end ChangeRelay
