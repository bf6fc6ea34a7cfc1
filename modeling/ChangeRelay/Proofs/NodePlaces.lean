import ChangeRelay.Proofs.UnexcludedWalk

/-!
Where the nodes of trees lie. The nodes that are listed, each before its children, are those that
lie somewhere, below the nodes above them.
-/
namespace ChangeRelay.Delta

variable {φ : Type}

theorem preorderAll_node (subject : Subject φ) (children rest : List (Delta φ)) :
    preorderAll (.node subject children :: rest) =
      subject :: (preorderAll children ++ preorderAll rest) := by
  rw [preorderAll, preorder, List.cons_append]

theorem preorderAll_append (first second : List (Delta φ)) :
    preorderAll (first ++ second) = preorderAll first ++ preorderAll second := by
  induction first with
  | nil => rfl
  | cons delta rest ih => rw [List.cons_append, preorderAll, preorderAll, ih, List.append_assoc]

mutual

theorem lies_of_mem {delta : Delta φ} {subject : Subject φ} (member : subject ∈ delta.preorder) :
    ∃ above, Lies [delta] above subject := by
  obtain ⟨own, children⟩ := delta
  rw [preorder] at member
  rcases List.mem_cons.mp member with here | below
  · subst here
    exact ⟨[], .here⟩
  · obtain ⟨above, lies⟩ := lies_of_memAll below
    exact ⟨own :: above, .inside lies⟩

theorem lies_of_memAll {deltas : List (Delta φ)} {subject : Subject φ}
    (member : subject ∈ preorderAll deltas) : ∃ above, Lies deltas above subject := by
  match deltas with
  | [] => cases member
  | delta :: rest =>
    rw [preorderAll] at member
    rcases List.mem_append.mp member with here | later
    · obtain ⟨above, lies⟩ := lies_of_mem here
      exact ⟨above, lies_cons.mpr (Or.inl lies)⟩
    · obtain ⟨above, lies⟩ := lies_of_memAll later
      exact ⟨above, .later lies⟩

end

theorem lies_append {first second : List (Delta φ)} {above : List (Subject φ)} {below : Subject φ}
    (lies : Lies (first ++ second) above below) :
    Lies first above below ∨ Lies second above below := by
  induction first with
  | nil => exact Or.inr lies
  | cons delta rest ih =>
    rcases lies_cons.mp lies with here | later
    · exact Or.inl (lies_cons.mpr (Or.inl here))
    · exact (ih later).imp .later id

theorem lies_memAll {deltas : List (Delta φ)} {above : List (Subject φ)} {below : Subject φ}
    (lies : Lies deltas above below) : below ∈ preorderAll deltas := by
  induction lies with
  | here => simp [preorderAll, preorder]
  | inside inner ih => simp [preorderAll, preorder, ih]
  | later others ih => simp [preorderAll, ih]

theorem lies_outermost {deltas : List (Delta φ)} {below : Subject φ} (lies : Lies deltas [] below) :
    below ∈ deltas.map subject := by
  induction deltas with
  | nil => cases lies
  | cons delta rest ih =>
    cases lies with
    | here => exact List.mem_cons_self
    | later others => exact List.mem_cons_of_mem _ (ih others)

theorem lies_first {deltas : List (Delta φ)} {child below : Subject φ} {above : List (Subject φ)}
    (lies : Lies deltas (child :: above) below) : Lies deltas [] child := by
  induction deltas with
  | nil => cases lies
  | cons delta rest ih =>
    cases lies with
    | inside inner => exact .here
    | later others => exact .later (ih others)

def HangsUnder (delta : Delta φ) (child parent : Subject φ) : Prop :=
  ∃ above, Lies [delta] (above ++ [parent]) child

theorem hangs_of_lies {delta : Delta φ} {above : List (Subject φ)} {below : Subject φ}
    (lies : Lies [delta] above below) :
    below = delta.subject ∨ ∃ parent, delta.HangsUnder below parent := by
  rcases List.eq_nil_or_concat above with rfl | ⟨upper, parent, rfl⟩
  · exact Or.inl (List.mem_singleton.mp (lies_outermost lies))
  · rw [List.concat_eq_append] at lies
    exact Or.inr ⟨parent, upper, lies⟩

end ChangeRelay.Delta
