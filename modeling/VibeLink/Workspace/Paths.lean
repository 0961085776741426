import VibeLink.Filesystem.Changes
import VibeLink.Relational.Outcome

/-! Paths of a workspace, and whether they lead out of it (`app/git/paths.rs`). -/

namespace VibeLink.Workspace

open Filesystem

/-- A component of the text of a path. -/
inductive Component (N : Type)
  | volume | rootDir | curDir | parentDir
  | normal (name : N)
  deriving DecidableEq

def Component.name? {N : Type} : Component N → Option N
  | .normal name => some name
  | _ => none

def Component.escapes {N : Type} : Component N → Bool
  | .volume | .rootDir | .parentDir => true
  | .curDir | .normal _ => false

variable {N : Type} [DecidableEq N]

def validateRepoRelativePath (path : List (Component N)) : Except String (List (Component N)) :=
  if path.head? = some .rootDir then .error "git file path must be relative"
  else if path.any Component.escapes then .error "git file path must stay within the workspace"
  else .ok path

/-- `Path::join`, of a path without roots. -/
def join (root : Path N) (relative : List (Component N)) : Path N := root ++ relative.filterMap Component.name?

section Containing

variable (tree : FileTree N) (links : Nat)

def containPath (root : Path N) (relPath : List (Component N)) : Except String (Path N) := do
  let relative ← validateRepoRelativePath relPath
  match tree.canonicalize links root with
  | none => .error "canonicalize workspace"
  | some root =>
    let joined := join root relative
    if ¬root <+: joined then .error "file path escapes workspace"
    else match tree.canonicalize links joined with
      | some canonical => if ¬root <+: canonical then .error "file path escapes workspace" else .ok canonical
      | none => match tree.canonicalize links joined.dropLast with
        | some parent => if ¬root <+: parent then .error "file path escapes workspace" else .ok joined
        -- nothing is known of a path whose parent does not exist
        | none => .ok joined

/-- Wherever a path leads is within the root. -/
structure Within (root path : Path N) : Prop where
  nearest : ∀ place, tree.Nearest links path place → root <+: place
  reads : ∀ place, tree.canonicalize links path = some place → root <+: place
  creates : ∀ entry, tree.entry links path = some entry → root <+: entry.path
  writes : ∀ place, tree.target links path = some place → root <+: place

/-- The parent of the path does not exist, and what of the path does is outside. -/
structure Astray (root path : Path N) : Prop where
  orphan : tree.canonicalize links path.dropLast = none
  outside : ∃ place, tree.Nearest links path place ∧ ¬root <+: place

/-- The path is a link in the workspace to a free place outside. -/
structure Dangling (root path : Path N) : Prop where
  parent : ∃ parent, tree.canonicalize links path.dropLast = some parent ∧ root <+: parent
  free : ∃ place, tree.target links path = some place ∧ tree.node place = none ∧ ¬root <+: place

end Containing

variable {tree : FileTree N} {links : Nat} {root path place : Path N} {relPath : List (Component N)}

omit [DecidableEq N] in
theorem not_rootDir_of_escapes (plain : ¬relPath.any Component.escapes = true) : relPath.head? ≠ some .rootDir := by
  cases relPath with
  | nil => simp
  | cons component rest =>
    intro is
    cases is
    simp [Component.escapes] at plain

theorem validateRepoRelativePath_eq_ok {relative : List (Component N)} :
    validateRepoRelativePath relPath = .ok relative ↔ relative = relPath ∧ ¬relPath.any Component.escapes = true := by
  unfold validateRepoRelativePath
  split
  · rename_i is
    exact iff_of_false nofun fun plain => not_rootDir_of_escapes plain.2 is
  · split
    · rename_i escapes
      exact iff_of_false nofun fun plain => plain.2 escapes
    · rename_i plain
      constructor
      · intro same
        cases same
        exact ⟨rfl, plain⟩
      · intro same
        rw [same.1]

/-- What `contain_path` accepts. -/
theorem containPath_eq_ok : containPath tree links root relPath = .ok path ↔
    ¬relPath.any Component.escapes = true ∧ ∃ root', tree.canonicalize links root = some root' ∧
      (tree.canonicalize links (join root' relPath) = some path ∧ root' <+: path ∨
        tree.canonicalize links (join root' relPath) = none ∧ path = join root' relPath ∧
          ∀ parent, tree.canonicalize links path.dropLast = some parent → root' <+: parent) := by
  rw [containPath, Relational.bind_eq_ok]
  simp only [validateRepoRelativePath_eq_ok, and_assoc, exists_eq_left]
  refine and_congr_right fun _ => ?_
  cases tree.canonicalize links root with
  | none => simp
  | some root =>
  have within : root <+: join root relPath := List.prefix_append _ _
  simp only [within, not_true_eq_false, if_false, Option.some.injEq, exists_eq_left']
  cases tree.canonicalize links (join root relPath) with
  | some canonical =>
    simp only [Option.some.injEq, reduceCtorEq, false_and, or_false]
    split
    · rename_i outside
      exact iff_of_false nofun fun ⟨same, inside⟩ => outside (same ▸ inside)
    · rename_i inside
      rw [Except.ok.injEq, and_iff_left_of_imp fun same => same ▸ not_not.mp inside]
  | none =>
    simp only [reduceCtorEq, false_and, true_and, false_or]
    cases parent : tree.canonicalize links (join root relPath).dropLast with
    | none =>
      rw [Except.ok.injEq, eq_comm (b := path), and_iff_left_of_imp]
      rintro rfl
      simp [parent]
    | some parent' =>
      dsimp only
      split
      · rename_i outside
        refine iff_of_false nofun fun ⟨same, inside⟩ => outside (inside parent' (same ▸ parent))
      · rename_i inside
        rw [Except.ok.injEq, eq_comm (b := path), and_iff_left_of_imp]
        rintro rfl parent'' same
        cases parent.symm.trans same
        exact not_not.mp inside

omit [DecidableEq N] in
theorem within_of_canonical {given : Path N} (resolved : tree.canonicalize links given = some path) (inside : root <+: path) :
    Within tree links root path := by
  have ⟨node, found, plain⟩ := FileTree.node_of_canonicalize resolved
  have same : tree.canonicalize links path = some path := FileTree.canonicalize_of_node found plain
  refine ⟨?_, ?_, ?_, ?_⟩
  · intro place ⟨part, within, here, longest⟩
    have whole := longest path (List.prefix_refl path) (by simp [same])
    cases same.symm.trans (List.IsPrefix.eq_of_length_le within whole.length_le ▸ here)
    exact inside
  · intro place here
    cases same.symm.trans here
    exact inside
  · intro entry named
    rw [FileTree.path_of_entry (by simp [found]) named]
    exact inside
  · intro place here
    cases (FileTree.target_of_node found plain).symm.trans here
    exact inside

theorem within_iff_of_missing (missing : tree.canonicalize links path = none)
    (checked : ∀ parent, tree.canonicalize links path.dropLast = some parent → root <+: parent) (proper : path ≠ []) :
    Within tree links root path ↔ ¬(Astray tree links root path ∨ Dangling tree links root path) := by
  constructor
  · rintro within (⟨_, place, near, outside⟩ | ⟨_, place, leads, _, outside⟩)
    · exact outside (within.nearest place near)
    · exact outside (within.writes place leads)
  intro good
  have ⟨astray, dangling⟩ := not_or.mp good
  obtain ⟨directory, name, rfl⟩ : ∃ directory name, path = directory ++ [name] :=
    ⟨_, _, (List.dropLast_append_getLast proper).symm⟩
  simp only [List.dropLast_concat] at checked
  refine ⟨?_, by simp [missing], ?_, ?_⟩
  · intro place near
    cases parent : tree.canonicalize links directory with
    | none =>
      by_contra outside
      exact astray ⟨by rwa [List.dropLast_concat], place, near, outside⟩
    | some parent' =>
      have ⟨part, within, here, longest⟩ := near
      cases List.prefix_concat_iff.mp within with
      | inl whole => cases missing.symm.trans (whole ▸ here)
      | inr within =>
        have above := longest directory (List.prefix_append _ _) (by simp [parent])
        cases (within.eq_of_length_le above.length_le ▸ here).symm.trans parent
        exact checked place parent
  · intro entry named
    have ⟨_, resolved, _⟩ := FileTree.entry_eq_some.mp named
    exact prefix_snoc (checked _ resolved)
  · intro place leads
    have ⟨parent, resolved, _⟩ := FileTree.canonicalize_of_target leads
    by_contra outside
    refine dangling ⟨⟨parent, ?_, checked parent resolved⟩, place, leads, ?_, outside⟩
    · rwa [List.dropLast_concat]
    · by_contra exists'
      cases missing.symm.trans (FileTree.canonicalize_eq_some.mpr ⟨leads, exists'⟩)

omit [DecidableEq N] in
theorem ne_nil_of_missing (missing : tree.canonicalize links path = none) : path ≠ [] := by
  rintro rfl
  cases (FileTree.canonicalize_of_node tree.root rfl).symm.trans missing

omit [DecidableEq N] in
theorem Astray.missing (astray : Astray tree links root path) : tree.canonicalize links path = none := by
  by_contra exists'
  have ⟨place, resolved⟩ := Option.ne_none_iff_exists'.mp exists'
  have proper : path ≠ [] := by
    rintro rfl
    exact exists' astray.orphan
  obtain ⟨directory, name, rfl⟩ : ∃ directory name, path = directory ++ [name] :=
    ⟨_, _, (List.dropLast_append_getLast proper).symm⟩
  have leads := (FileTree.canonicalize_eq_some.mp resolved).1
  have ⟨parent, above, _⟩ := FileTree.canonicalize_of_target leads
  have orphan := astray.orphan
  rw [List.dropLast_concat, above] at orphan
  cases orphan

omit [DecidableEq N] in
theorem Dangling.missing (dangling : Dangling tree links root path) : tree.canonicalize links path = none := by
  have ⟨place, leads, free, _⟩ := dangling.free
  rw [FileTree.canonicalize, leads, Option.filter_some, free]
  rfl

/-- Which paths are accepted though they lead out of the workspace: those whose parent does not exist and that are
outside as far as they do exist, and links to a free place outside. -/
theorem containPath_within (tree : FileTree N) (links : Nat) (root : Path N) (relPath : List (Component N)) :
    (∀ root' path, tree.canonicalize links root = some root' → containPath tree links root relPath = .ok path →
      Within tree links root' path) ↔
    ∀ root', tree.canonicalize links root = some root' → ¬relPath.any Component.escapes = true →
      ¬(Astray tree links root' (join root' relPath) ∨ Dangling tree links root' (join root' relPath)) := by
  constructor
  · intro all root' resolved plain bad
    have missing : tree.canonicalize links (join root' relPath) = none := bad.elim Astray.missing Dangling.missing
    have checked : ∀ parent, tree.canonicalize links (join root' relPath).dropLast = some parent → root' <+: parent := by
      intro parent above
      cases bad with
      | inl astray => cases astray.orphan.symm.trans above
      | inr dangling =>
        have ⟨_, same, inside⟩ := dangling.parent
        cases same.symm.trans above
        exact inside
    have accepted := containPath_eq_ok.mpr ⟨plain, root', resolved, .inr ⟨missing, rfl, checked⟩⟩
    exact (within_iff_of_missing missing checked (ne_nil_of_missing missing)).mp (all root' _ resolved accepted) bad
  · intro good root' path resolved accepted
    have ⟨plain, root'', same, how⟩ := containPath_eq_ok.mp accepted
    cases resolved.symm.trans same
    cases how with
    | inl canonical => exact within_of_canonical canonical.1 canonical.2
    | inr missing =>
      obtain ⟨missing, rfl, checked⟩ := missing
      exact (within_iff_of_missing missing checked (ne_nil_of_missing missing)).mpr (good root' resolved plain)

/-! A link to a free place outside, and a link to a directory outside with two names after it that do not exist. -/

def linkedOut : FileTree String :=
  (((FileTree.bare.insert ⟨[], "workspace"⟩ .directory rfl rfl).insert ⟨[], "home"⟩ .directory rfl (by decide)).insert
    ⟨["workspace"], "notes"⟩ (.link true [.name "home", .name "notes"]) rfl (by decide)).insert
    ⟨["workspace"], "cache"⟩ (.link true [.name "home"]) rfl (by decide)

theorem containPath_escapes : ¬∀ root' path, linkedOut.canonicalize 40 ["workspace"] = some root' →
    containPath linkedOut 40 ["workspace"] [.normal "notes"] = .ok path → Within linkedOut 40 root' path := by
  intro all
  have within := all ["workspace"] ["workspace", "notes"] (by decide) (by decide)
  exact absurd (within.writes ["home", "notes"] (by decide)) (by decide)

example : containPath linkedOut 40 ["workspace"] [.normal "cache", .normal "new", .normal "file"] =
    .ok ["workspace", "cache", "new", "file"] := by decide

end VibeLink.Workspace
