import VibeLink.Filesystem.Tree
import Mathlib.Data.List.Induction

/-! Making, taking away and moving entries of a tree. -/

namespace VibeLink.Filesystem

variable {N : Type}

theorem Entry.path_injective {entry other : Entry N} (same : entry.path = other.path) : entry = other := by
  have ⟨directory, name⟩ := List.append_inj' same rfl
  cases entry
  cases other
  exact congrArg₂ Entry.mk directory (List.head_eq_of_cons_eq name)

@[simp] theorem Entry.path_ne_nil (entry : Entry N) : entry.path ≠ [] := by
  simp [path]

theorem Entry.directory_ne_path (entry : Entry N) : entry.directory ≠ entry.path := fun same =>
  List.cons_ne_nil _ _ (List.self_eq_append_right.mp same)

theorem prefix_snoc {path directory : Path N} {name : N} (within : path <+: directory) :
    path <+: directory ++ [name] := within.trans (List.prefix_append _ _)

namespace FileTree

def bare : FileTree N where
  node path := if path.isEmpty then some .directory else none
  root := rfl
  parent directory name exists' := by simp at exists'

variable [DecidableEq N] (tree : FileTree N)

def insert (entry : Entry N) (node : Node N) (directory : tree.node entry.directory = some .directory)
    (free : tree.node entry.path = none) : FileTree N where
  node path := if path = entry.path then some node else tree.node path
  root := by rw [if_neg entry.path_ne_nil.symm, tree.root]
  parent above name exists' := by
    by_cases new : above ++ [name] = entry.path
    · have same := Entry.path_injective (show (⟨above, name⟩ : Entry N).path = entry.path from new)
      rw [← same] at directory free
      rw [if_neg (same ▸ Entry.directory_ne_path ⟨above, name⟩)]
      exact directory
    · rw [if_neg new] at exists'
      have is := tree.parent above name exists'
      rw [if_neg fun same => by rw [same, free] at is; cases is]
      exact is

def without (entries : List (Entry N)) : FileTree N where
  node path := if ∃ entry ∈ entries, entry.path <+: path then none else tree.node path
  root := by
    rw [if_neg fun ⟨entry, _, within⟩ => entry.path_ne_nil (List.prefix_nil.mp within), tree.root]
  parent directory name exists' := by
    split at exists'
    · exact absurd rfl exists'
    · rename_i kept
      rw [if_neg fun ⟨entry, member, within⟩ => kept ⟨entry, member, prefix_snoc within⟩]
      exact tree.parent directory name exists'

/-- What a rename refuses: nothing to move, no directory to move it to, one below what is moved, or something there that
cannot be replaced. -/
def Movable (source target : Entry N) : Prop :=
  tree.node source.path ≠ none ∧ tree.node target.directory = some .directory ∧ ¬source.path <+: target.directory ∧
    (tree.node target.path = none ∨
      tree.node source.path ≠ some .directory ∧ tree.node target.path ≠ some .directory)

instance (source target : Entry N) : Decidable (tree.Movable source target) :=
  inferInstanceAs (Decidable (_ ∧ _ ∧ _ ∧ _))

/-- The source is at the target, with all that is below it. -/
def movedNode (source target : Entry N) (path : Path N) : Option (Node N) :=
  if target.path <+: path then tree.node (source.path ++ path.drop target.path.length)
  else if source.path <+: path then none
  else tree.node path

def move (source target : Entry N) (movable : tree.Movable source target) : FileTree N where
  node := tree.movedNode source target
  root := by
    rw [movedNode, if_neg fun within => target.path_ne_nil (List.prefix_nil.mp within),
      if_neg fun within => source.path_ne_nil (List.prefix_nil.mp within), tree.root]
  parent directory name exists' := by
    obtain ⟨moves, is, outside, replaces⟩ := movable
    unfold movedNode at exists' ⊢
    by_cases at' : target.path = directory ++ [name]
    · have same := Entry.path_injective (show target.path = (⟨directory, name⟩ : Entry N).path from at')
      rw [same] at is outside
      rw [if_neg, if_neg outside]
      · exact is
      · rw [at']
        exact fun within => absurd within.length_le (by simp)
    · by_cases below : target.path <+: directory
      · rw [if_pos (prefix_snoc below), List.drop_append_of_le_length below.length_le, ← List.append_assoc] at exists'
        rw [if_pos below]
        exact tree.parent _ _ exists'
      · have beyond : ¬target.path <+: directory ++ [name] := fun within =>
          (List.prefix_concat_iff.mp within).elim at' below
        rw [if_neg beyond] at exists'
        rw [if_neg below]
        split at exists'
        · exact absurd rfl exists'
        · rename_i kept
          rw [if_neg fun within => kept (prefix_snoc within)]
          exact tree.parent _ _ exists'

/-- `rename` -/
def rename (source target : Entry N) : Option (FileTree N) :=
  if movable : tree.Movable source target then some (tree.move source target movable) else none

variable {tree}

theorem node_without (entries : List (Entry N)) (path : Path N) : (tree.without entries).node path =
    if ∃ entry ∈ entries, entry.path <+: path then none else tree.node path := rfl

theorem without_eq_without {entries others : List (Entry N)} (here : ∀ entry ∈ entries, tree.node entry.path ≠ none)
    (there : ∀ other ∈ others, tree.node other.path ≠ none) : tree.without entries = tree.without others ↔
      (∀ entry ∈ entries, ∃ other ∈ others, other.path <+: entry.path) ∧
        ∀ other ∈ others, ∃ entry ∈ entries, entry.path <+: other.path := by
  have covered {entries others : List (Entry N)} (here : ∀ entry ∈ entries, tree.node entry.path ≠ none)
      (same : tree.without entries = tree.without others) :
      ∀ entry ∈ entries, ∃ other ∈ others, other.path <+: entry.path := by
    intro entry member
    by_contra kept
    have nodes := congrFun (congrArg FileTree.node same) entry.path
    rw [node_without, node_without, if_pos ⟨entry, member, List.prefix_refl _⟩, if_neg kept] at nodes
    exact here entry member nodes.symm
  constructor
  · intro same
    exact ⟨covered here same, covered there same.symm⟩
  · intro ⟨forward, backward⟩
    ext1
    funext path
    rw [node_without, node_without]
    refine if_congr ?_ rfl rfl
    constructor
    · intro ⟨entry, member, within⟩
      have ⟨other, also, above⟩ := forward entry member
      exact ⟨other, also, above.trans within⟩
    · intro ⟨other, member, within⟩
      have ⟨entry, also, above⟩ := backward other member
      exact ⟨entry, also, above.trans within⟩

theorem not_prefix_of_free {path place : Path N} (free : tree.node place = none) (exists' : tree.node path ≠ none) :
    ¬place <+: path := by
  intro within
  by_cases same : place = path
  · exact exists' (same ▸ free)
  · cases (node_of_within exists' within same).symm.trans free

theorem source_of_movedNode {source other target : Entry N} (free : tree.node target.path = none)
    (here : tree.node source.path ≠ none) (there : tree.node other.path ≠ none)
    (same : tree.movedNode source target = tree.movedNode other target) : source = other := by
  have above {source other : Entry N} (here : tree.node source.path ≠ none)
      (same : tree.movedNode source target = tree.movedNode other target) : other.path <+: source.path := by
    by_contra kept
    have nodes := congrFun same source.path
    rw [movedNode, movedNode, if_neg (not_prefix_of_free free here), if_neg (not_prefix_of_free free here),
      if_pos (List.prefix_refl _), if_neg kept] at nodes
    exact here nodes.symm
  have down := above here same
  exact Entry.path_injective ((above there same.symm).eq_of_length_le down.length_le)

theorem rename_eq_some {source target : Entry N} {after : FileTree N} : tree.rename source target = some after ↔
    tree.Movable source target ∧ after.node = tree.movedNode source target := by
  unfold rename
  split
  · rename_i movable
    rw [Option.some.injEq]
    constructor
    · rintro rfl
      exact ⟨movable, rfl⟩
    · intro ⟨_, nodes⟩
      ext1
      exact nodes.symm
  · rename_i fixed
    exact iff_of_false nofun fun movable => fixed movable.1

end FileTree

end VibeLink.Filesystem

/-! Files whose directories can be listed, so that an empty one can be told. -/

