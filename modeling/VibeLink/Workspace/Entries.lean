import VibeLink.Workspace.Paths
import VibeLink.Relational.Arranged

/-! Renaming and deleting in a workspace (`app/fsops.rs`). -/

namespace VibeLink.Workspace

open Filesystem

variable {N : Type} [DecidableEq N]

section Calls

variable (tree : FileTree N) (links : Nat) (root : Path N)

/-- `std::fs::rename` -/
def renamePath (source target : Path N) : Option (FileTree N) :=
  (tree.entry links source).bind fun source => (tree.entry links target).bind fun target => tree.rename source target

def renameNative (fromRel toRel : List (Component N)) : Except String (FileTree N) := do
  let source ← containPath tree links root fromRel
  let target ← containPath tree links root toRel
  if (tree.canonicalize links target).isSome then .error "target already exists"
  else match renamePath tree links source target with
    | some renamed => .ok renamed
    | none => .error "rename"

def deletions : List (List (Component N)) → Except String (List (Path N))
  | [] => .ok []
  | relPath :: rest => do
    let path ← containPath tree links root relPath
    if some path = tree.canonicalize links root then .error "cannot delete workspace root"
    else
      let paths ← deletions rest
      return path :: paths

/-- `deleteAll` is `trash::delete_all`. -/
def deleteNative (deleteAll : FileTree N → List (Path N) → FileTree N × Except String Unit)
    (relPaths : List (List (Component N))) : FileTree N × Except String Unit :=
  match deletions tree links root relPaths with
  | .error error => (tree, .error error)
  | .ok paths => deleteAll tree paths

/-- What is trashed is what the paths name, all that is below it included; of a link it is the link. -/
def Trashes (deleteAll : FileTree N → List (Path N) → FileTree N × Except String Unit) : Prop :=
  ∀ tree paths after, deleteAll tree paths = (after, .ok ()) →
    ∃ entries, List.Forall₂ (fun path entry => tree.entry links path = some entry) paths entries ∧
      after = tree.without entries

def joined (relPath : List (Component N)) : Option (Path N) :=
  (tree.canonicalize links root).map fun root => join root relPath

def Names (relPath : List (Component N)) (entry : Entry N) : Prop :=
  ∃ path ∈ joined tree links root relPath, tree.entry links path = some entry ∧ tree.node entry.path ≠ none

/-- Where a relative path leads: to what it resolves to, and where it names a link that resolves to nothing, to that. -/
def LeadsTo (relPath : List (Component N)) (place : Path N) : Prop :=
  ∃ path ∈ joined tree links root relPath, ∃ entry, tree.entry links path = some entry ∧
    place = (tree.canonicalize links path).getD entry.path

/-- Nothing is led to but what is named, and nothing is named but what is led to. -/
structure Covered (relPaths : List (List (Component N))) : Prop where
  named : ∀ relPath ∈ relPaths, ∀ entry, Names tree links root relPath entry →
    ∃ other ∈ relPaths, ∃ place, LeadsTo tree links root other place ∧ place <+: entry.path
  led : ∀ relPath ∈ relPaths, ∀ place, LeadsTo tree links root relPath place →
    ∃ other ∈ relPaths, ∃ entry, Names tree links root other entry ∧ entry.path <+: place

end Calls

variable {tree after : FileTree N} {links : Nat} {root path : Path N} {relPath : List (Component N)} {entry acted : Entry N}

omit [DecidableEq N] in
theorem Names.unique {other : Entry N} (named : Names tree links root relPath entry)
    (also : Names tree links root relPath other) : entry = other := by
  have ⟨_, stands, names, _⟩ := named
  have ⟨_, again, more, _⟩ := also
  cases Option.mem_unique stands again
  exact Option.some.inj (names.symm.trans more)

omit [DecidableEq N] in
theorem LeadsTo.unique {place other : Path N} (leads : LeadsTo tree links root relPath place)
    (also : LeadsTo tree links root relPath other) : place = other := by
  have ⟨_, stands, _, names, same⟩ := leads
  have ⟨_, again, _, more, same'⟩ := also
  cases Option.mem_unique stands again
  cases names.symm.trans more
  exact same.trans same'.symm

theorem leadsTo_of_containPath (accepted : containPath tree links root relPath = .ok path)
    (named : Names tree links root relPath entry) (acts : tree.entry links path = some acted) :
    LeadsTo tree links root relPath acted.path ∧ tree.node acted.path ≠ none := by
  have ⟨_, root', resolved, how⟩ := containPath_eq_ok.mp accepted
  have stands : joined tree links root relPath = some (join root' relPath) := by
    rw [joined, resolved, Option.map_some]
  have ⟨_, same, names, exists'⟩ := named
  cases stands.symm.trans same
  suffices acted.path = (tree.canonicalize links (join root' relPath)).getD entry.path ∧
      tree.node acted.path ≠ none from ⟨⟨_, stands, entry, names, this.1⟩, this.2⟩
  cases how with
  | inl canonical =>
    have ⟨node, found, _⟩ := FileTree.node_of_canonicalize canonical.1
    rw [canonical.1, FileTree.path_of_entry (by simp [found]) acts]
    exact ⟨rfl, by simp [found]⟩
  | inr missing =>
    obtain ⟨missing, rfl, _⟩ := missing
    cases names.symm.trans acts
    rw [missing]
    exact ⟨rfl, exists'⟩

def Rejected (tree : FileTree N) (links : Nat) (root : Path N) (relPath : List (Component N)) : Prop :=
  ∀ path, containPath tree links root relPath = .ok path → some path = tree.canonicalize links root

theorem forall₂_of_deletions {relPaths : List (List (Component N))} {paths : List (Path N)}
    (handed : deletions tree links root relPaths = .ok paths) :
    List.Forall₂ (fun relPath path => containPath tree links root relPath = .ok path ∧
      some path ≠ tree.canonicalize links root) relPaths paths := by
  induction relPaths generalizing paths with
  | nil =>
    cases handed
    exact .nil
  | cons relPath rest ih =>
    have ⟨path, accepted, more⟩ := Relational.bind_eq_ok.mp handed
    split at more
    · cases more
    rename_i other
    have ⟨others, rest, same⟩ := Relational.bind_eq_ok.mp more
    cases same
    exact .cons ⟨accepted, other⟩ (ih rest)

theorem deleteNative_of_rejected {relPaths : List (List (Component N))} (member : relPath ∈ relPaths)
    (rejected : Rejected tree links root relPath)
    (deleteAll : FileTree N → List (Path N) → FileTree N × Except String Unit) :
    (deleteNative tree links root deleteAll relPaths).1 = tree := by
  unfold deleteNative
  split
  · rfl
  · rename_i paths handed
    have ⟨path, _, accepted, other⟩ := Relational.forall_exists_of_forall₂ (forall₂_of_deletions handed) relPath member
    exact absurd (rejected path accepted) other

theorem forall₂_leadsTo {relPaths : List (List (Component N))} {paths : List (Path N)} {entries acts : List (Entry N)}
    (named : List.Forall₂ (Names tree links root) relPaths entries)
    (accepted : List.Forall₂ (fun relPath path => containPath tree links root relPath = .ok path ∧
      some path ≠ tree.canonicalize links root) relPaths paths)
    (acted : List.Forall₂ (fun path entry => tree.entry links path = some entry) paths acts) :
    List.Forall₂ (fun relPath entry => LeadsTo tree links root relPath entry.path ∧ tree.node entry.path ≠ none)
      relPaths acts := by
  induction named generalizing paths acts with
  | nil =>
    cases accepted
    cases acted
    exact .nil
  | cons named _ ih =>
    cases accepted with
    | cons accepted rest =>
    cases acted with
    | cons acts more => exact .cons (leadsTo_of_containPath accepted.1 named acts) (ih rest more)

theorem without_eq_iff_covered {relPaths : List (List (Component N))} {entries acts : List (Entry N)}
    (named : List.Forall₂ (Names tree links root) relPaths entries)
    (led : List.Forall₂ (fun relPath entry => LeadsTo tree links root relPath entry.path ∧ tree.node entry.path ≠ none)
      relPaths acts) : tree.without acts = tree.without entries ↔ Covered tree links root relPaths := by
  have entryOf := Relational.forall_exists_of_forall₂ named
  have pathOf := Relational.forall_exists_of_forall₂ (List.Forall₂.flip named)
  have actOf := Relational.forall_exists_of_forall₂ led
  have ledOf := Relational.forall_exists_of_forall₂ (List.Forall₂.flip led)
  rw [FileTree.without_eq_without]
  · constructor
    · intro ⟨forward, backward⟩
      constructor
      · intro relPath member entry names
        have ⟨same, among, again⟩ := entryOf relPath member
        cases names.unique again
        have ⟨act, acts, within⟩ := backward entry among
        have ⟨other, also, leads, _⟩ := ledOf act acts
        exact ⟨other, also, _, leads, within⟩
      · intro relPath member place leads
        have ⟨act, acts, again, _⟩ := actOf relPath member
        cases leads.unique again
        have ⟨entry, among, within⟩ := forward act acts
        have ⟨other, also, names⟩ := pathOf entry among
        exact ⟨other, also, entry, names, within⟩
    · intro covered
      constructor
      · intro act acts
        have ⟨relPath, member, leads, _⟩ := ledOf act acts
        have ⟨other, also, entry, names, within⟩ := covered.led relPath member _ leads
        have ⟨same, among, again⟩ := entryOf other also
        cases names.unique again
        exact ⟨entry, among, within⟩
      · intro entry among
        have ⟨relPath, member, names⟩ := pathOf entry among
        have ⟨other, also, place, leads, within⟩ := covered.named relPath member entry names
        have ⟨act, acts, again, _⟩ := actOf other also
        cases leads.unique again
        exact ⟨act, acts, within⟩
  · intro act member
    have ⟨_, _, _, exists'⟩ := ledOf act member
    exact exists'
  · intro entry member
    have ⟨_, _, _, _, _, exists'⟩ := pathOf entry member
    exact exists'

omit [DecidableEq N] in
theorem leadsTo_self (named : Names tree links root relPath entry)
    (still : ∀ absolute steps, tree.node entry.path = some (.link absolute steps) →
      ∀ path ∈ joined tree links root relPath, tree.canonicalize links path = none) :
    LeadsTo tree links root relPath entry.path := by
  have ⟨path, stands, names, exists'⟩ := named
  refine ⟨path, stands, entry, names, ?_⟩
  cases found : tree.node entry.path with
  | none => exact absurd found exists'
  | some node =>
    cases node with
    | link absolute steps => rw [still absolute steps found path stands, Option.getD_none]
    | file | directory => rw [FileTree.canonicalize_of_entry names found rfl, Option.getD_some]

omit [DecidableEq N] in
theorem covered_of_plain {relPaths : List (List (Component N))}
    (plain : ∀ relPath ∈ relPaths, ∃ entry, Names tree links root relPath entry ∧
      LeadsTo tree links root relPath entry.path) : Covered tree links root relPaths := by
  constructor
  · intro relPath member entry names
    have ⟨other, again, leads⟩ := plain relPath member
    cases names.unique again
    exact ⟨relPath, member, _, leads, List.prefix_refl _⟩
  · intro relPath member place leads
    have ⟨entry, names, again⟩ := plain relPath member
    cases leads.unique again
    exact ⟨relPath, member, entry, names, List.prefix_refl _⟩

section Renaming

variable {fromRel toRel : List (Component N)} {source target : Entry N}

theorem renameNative_eq_ok (renamed : renameNative tree links root fromRel toRel = .ok after)
    (named : Names tree links root fromRel source)
    (aim : ∃ path ∈ joined tree links root toRel, tree.entry links path = some target) :
    ∃ acted, LeadsTo tree links root fromRel acted.path ∧ tree.node acted.path ≠ none ∧
      after.node = tree.movedNode acted target := by
  have ⟨path, accepted, rest⟩ := Relational.bind_eq_ok.mp renamed
  have ⟨toPath, toAccepted, rest⟩ := Relational.bind_eq_ok.mp rest
  split at rest
  · cases rest
  rename_i absent
  split at rest
  · rename_i moved
    cases rest
    have ⟨acted, acts, more⟩ := Option.bind_eq_some_iff.mp moved
    have ⟨target', aims, done⟩ := Option.bind_eq_some_iff.mp more
    have ⟨leads, exists'⟩ := leadsTo_of_containPath accepted named acts
    have same : target' = target := by
      have ⟨_, root', resolved, how⟩ := containPath_eq_ok.mp toAccepted
      have ⟨_, stands, names⟩ := aim
      cases (by rw [joined, resolved, Option.map_some] : joined tree links root toRel = some (join root' toRel)).symm.trans
        stands
      cases how with
      | inl canonical =>
        have ⟨node, found, plain⟩ := FileTree.node_of_canonicalize canonical.1
        rw [FileTree.canonicalize_of_node found plain] at absent
        exact absurd rfl absent
      | inr missing =>
        obtain ⟨_, rfl, _⟩ := missing
        exact Option.some.inj (aims.symm.trans names)
    exact ⟨acted, leads, exists', same ▸ (FileTree.rename_eq_some.mp done).2⟩
  · cases rest

theorem renames_iff (renamed : renameNative tree links root fromRel toRel = .ok after)
    (named : Names tree links root fromRel source)
    (aim : ∃ path ∈ joined tree links root toRel, tree.entry links path = some target) :
    (tree.node target.path = none ∧ after.node = tree.movedNode source target) ↔
      tree.node target.path = none ∧ ∀ absolute steps, tree.node source.path = some (.link absolute steps) →
        ∀ path ∈ joined tree links root fromRel, tree.canonicalize links path = none := by
  have ⟨acted, leads, exists', nodes⟩ := renameNative_eq_ok renamed named aim
  refine and_congr_right fun free => ?_
  rw [nodes]
  constructor
  · intro same
    have ⟨path, stands, names, there⟩ := named
    cases FileTree.source_of_movedNode free exists' there same
    intro absolute steps found path' stands'
    cases Option.mem_unique stands stands'
    by_contra resolves
    have ⟨place, resolved⟩ := Option.ne_none_iff_exists'.mp resolves
    have ⟨_, again, _, _, place'⟩ := leads
    cases Option.mem_unique stands again
    rw [resolved, Option.getD_some] at place'
    have ⟨node, plain, no⟩ := FileTree.node_of_canonicalize resolved
    rw [← place', found] at plain
    cases plain
    cases no
  · intro still
    rw [Entry.path_injective (leads.unique (leadsTo_self named still))]

end Renaming

/-- What is deleted is what is named, and what is renamed too, exactly where no link that resolves is in play. -/
theorem acts_on_named (deleteAll : FileTree N → List (Path N) → FileTree N × Except String Unit)
    (trashes : Trashes links deleteAll) (tree : FileTree N) (root : Path N) :
    (∀ relPaths, (∃ relPath ∈ relPaths, Rejected tree links root relPath) →
      (deleteNative tree links root deleteAll relPaths).1 = tree) ∧
    (∀ relPaths entries after, List.Forall₂ (Names tree links root) relPaths entries →
      deleteNative tree links root deleteAll relPaths = (after, .ok ()) →
      (after = tree.without entries ↔ Covered tree links root relPaths)) ∧
    ∀ fromRel toRel source target after, Names tree links root fromRel source →
      (∃ path ∈ joined tree links root toRel, tree.entry links path = some target) →
      renameNative tree links root fromRel toRel = .ok after →
      ((tree.node target.path = none ∧ after.node = tree.movedNode source target) ↔
        tree.node target.path = none ∧ ∀ absolute steps, tree.node source.path = some (.link absolute steps) →
          ∀ path ∈ joined tree links root fromRel, tree.canonicalize links path = none) := by
  refine ⟨fun relPaths ⟨relPath, member, rejected⟩ => deleteNative_of_rejected member rejected deleteAll, ?_,
    fun _ _ _ _ _ named aim renamed => renames_iff renamed named aim⟩
  intro relPaths entries after named deleted
  unfold deleteNative at deleted
  split at deleted
  · cases deleted
  rename_i paths handed
  obtain ⟨acts, acted, rfl⟩ := trashes tree paths after deleted
  exact without_eq_iff_covered named (forall₂_leadsTo named (forall₂_of_deletions handed) acted)

/-! A trash, and a workspace with a file, a link to it and a directory. -/

def entriesOf (tree : FileTree N) (links : Nat) : List (Path N) → Option (List (Entry N))
  | [] => some []
  | path :: rest => (tree.entry links path).bind fun entry => (entriesOf tree links rest).map (entry :: ·)

omit [DecidableEq N] in
theorem forall₂_entriesOf {paths : List (Path N)} {entries : List (Entry N)}
    (found : entriesOf tree links paths = some entries) :
    List.Forall₂ (fun path entry => tree.entry links path = some entry) paths entries := by
  induction paths generalizing entries with
  | nil =>
    cases found
    exact .nil
  | cons path rest ih =>
    have ⟨entry, here, more⟩ := Option.bind_eq_some_iff.mp found
    have ⟨others, there, same⟩ := Option.map_eq_some_iff.mp more
    cases same
    exact .cons here (ih there)

def discardAll (links : Nat) (tree : FileTree N) (paths : List (Path N)) : FileTree N × Except String Unit :=
  match entriesOf tree links paths with
  | some entries => (tree.without entries, .ok ())
  | none => (tree, .error "could not access")

theorem trashes_discardAll : Trashes (N := N) links (discardAll links) := by
  intro tree paths after discarded
  unfold discardAll at discarded
  split at discarded
  · rename_i entries found
    cases discarded
    exact ⟨entries, forall₂_entriesOf found, rfl⟩
  · cases discarded

theorem bare_root : (FileTree.bare (N := String)).node [] = some .directory := rfl

theorem bare_workspace : (FileTree.bare (N := String)).node ["workspace"] = none := rfl

def linkedIn : FileTree String :=
  (((FileTree.bare.insert ⟨[], "workspace"⟩ .directory bare_root bare_workspace).insert ⟨["workspace"], "docs"⟩ .directory rfl (by decide)).insert
    ⟨["workspace"], "readme"⟩ (.file [104, 105]) rfl (by decide)).insert
    ⟨["workspace"], "link"⟩ (.link false [.name "readme"]) rfl (by decide)

theorem acts_on_named_readme :
    (deleteNative linkedIn 40 ["workspace"] (discardAll 40) [[.normal "readme"]]).1 =
      linkedIn.without [⟨["workspace"], "readme"⟩] := by
  have names : Names linkedIn 40 ["workspace"] [.normal "readme"] ⟨["workspace"], "readme"⟩ :=
    ⟨["workspace", "readme"], by decide, by decide, by decide⟩
  have deleted : deleteNative linkedIn 40 ["workspace"] (discardAll 40) [[.normal "readme"]] =
      (linkedIn.without [⟨["workspace"], "readme"⟩], .ok ()) := rfl
  refine (((acts_on_named (discardAll 40) trashes_discardAll linkedIn ["workspace"]).2.1 _ _ _ (.cons names .nil)
    (Prod.ext rfl (by rw [deleted]))).mpr (covered_of_plain ?_))
  intro relPath member
  cases List.mem_singleton.mp member
  exact ⟨⟨["workspace"], "readme"⟩, names, ["workspace", "readme"], by decide, ⟨["workspace"], "readme"⟩, by decide,
    by decide⟩

/-- The link stays and what it links to goes. -/
theorem deletes_otherwise : ¬∀ relPaths entries after, List.Forall₂ (Names linkedIn 40 ["workspace"]) relPaths entries →
    deleteNative linkedIn 40 ["workspace"] (discardAll 40) relPaths = (after, .ok ()) →
    after = linkedIn.without entries := by
  intro all
  have names : Names linkedIn 40 ["workspace"] [.normal "link"] ⟨["workspace"], "link"⟩ :=
    ⟨["workspace", "link"], by decide, by decide, by decide⟩
  have same := all [[.normal "link"]] _ (linkedIn.without [⟨["workspace"], "readme"⟩]) (.cons names .nil) rfl
  have nodes := congrFun (congrArg FileTree.node same) ["workspace", "link"]
  revert nodes
  decide

end VibeLink.Workspace
