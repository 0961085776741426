import Mathlib.Data.List.Induction
import Mathlib.Data.List.Infix
import Mathlib.Tactic.Common

/-! Files, directories and symbolic links, and where a path leads among them. -/

namespace VibeLink.Filesystem

abbrev Path (N : Type) := List N

/-- One part of the text of a link. -/
inductive Step (N : Type)
  | up
  | name (name : N)
  deriving DecidableEq

inductive Node (N : Type)
  | file (content : List UInt8)
  | directory
  | link (absolute : Bool) (steps : List (Step N))
  deriving DecidableEq

def Node.isLink {N : Type} : Node N → Bool
  | .link _ _ => true
  | _ => false

/-- Whatever exists is in a directory. -/
@[ext] structure FileTree (N : Type) where
  node : Path N → Option (Node N)
  root : node [] = some .directory
  parent : ∀ directory name, node (directory ++ [name]) ≠ none → node directory = some .directory

/-- A place for a name. -/
structure Entry (N : Type) where
  directory : Path N
  name : N
  deriving DecidableEq

def Entry.path {N : Type} (entry : Entry N) : Path N := entry.directory ++ [entry.name]

variable {N : Type}

namespace FileTree

section Walking

variable (tree : FileTree N)

def isDirectory (path : Path N) : Bool :=
  match tree.node path with
  | some .directory => true
  | _ => false

/-- The place steps lead to from a directory; `follow` goes on at a link.  Its last name need not exist. -/
def walk (follow : Path N → List (Step N) → Option (Path N)) (at' : Path N) : List (Step N) → Option (Path N)
  | [] => some at'
  | .up :: rest => walk follow at'.dropLast rest
  | .name name :: rest =>
    match tree.node (at' ++ [name]) with
    | some .directory => walk follow (at' ++ [name]) rest
    | some (.link absolute steps) => follow (if absolute then [] else at') (steps ++ rest)
    | some (.file _) | none => if rest.isEmpty then some (at' ++ [name]) else none

def locate : Nat → Path N → List (Step N) → Option (Path N)
  | 0 => tree.walk fun _ _ => none
  | links + 1 => tree.walk (locate links)

variable (links : Nat)

/-- Where opening a path leads, with a new file made if none exists. -/
def target (path : Path N) : Option (Path N) := tree.locate links [] (path.map .name)

def canonicalize (path : Path N) : Option (Path N) := (tree.target links path).filter fun at' => (tree.node at').isSome

def entry (path : Path N) : Option (Entry N) :=
  path.getLast?.bind fun name => (tree.canonicalize links path.dropLast).bind fun directory =>
    if tree.isDirectory directory then some ⟨directory, name⟩ else none

def Nearest (path at' : Path N) : Prop :=
  ∃ part, part <+: path ∧ tree.canonicalize links part = some at' ∧
    ∀ other, other <+: path → (tree.canonicalize links other).isSome → other <+: part

end Walking

variable {tree : FileTree N} {links : Nat} {at' path end' : Path N} {name : N} {steps : List (Step N)}

theorem node_of_within (exists' : tree.node path ≠ none) {part : Path N} (within : part <+: path) (proper : part ≠ path) :
    tree.node part = some .directory := by
  induction path using List.reverseRecOn with
  | nil => exact absurd (List.prefix_nil.mp within) proper
  | append_singleton path name ih =>
    have directory := tree.parent path name exists'
    cases List.prefix_concat_iff.mp within with
    | inl same => exact absurd same proper
    | inr within =>
      by_cases same : part = path
      · exact same ▸ directory
      · exact ih (by simp [directory]) within same

theorem isDirectory_iff : tree.isDirectory path = true ↔ tree.node path = some .directory := by
  unfold isDirectory
  split <;> simp_all

/-- A place that a walk can end in: something that is no link, or a free place in a directory. -/
def Landed (tree : FileTree N) (path : Path N) : Prop :=
  (∃ node, tree.node path = some node ∧ node.isLink = false) ∨
    tree.node path = none ∧ ∃ entry : Entry N, entry.path = path ∧ tree.node entry.directory = some .directory

theorem landed_dropLast (directory : tree.node at' = some .directory) : tree.node at'.dropLast = some .directory := by
  by_cases root : at' = []
  · exact root ▸ tree.root
  · exact node_of_within (by simp [directory]) (List.dropLast_prefix at')
      fun same => root (by have := congrArg List.length same; simp at this; exact List.length_eq_zero_iff.mp (by omega))

theorem landed_of_walk {follow : Path N → List (Step N) → Option (Path N)}
    (followed : ∀ at' steps end', tree.node at' = some .directory → follow at' steps = some end' → Landed tree end')
    (directory : tree.node at' = some .directory) (found : tree.walk follow at' steps = some end') :
    Landed tree end' := by
  induction steps generalizing at' with
  | nil =>
    cases found
    exact .inl ⟨_, directory, rfl⟩
  | cons step rest ih =>
  cases step with
  | up => exact ih (landed_dropLast directory) found
  | name name =>
    rw [walk] at found
    split at found
    · rename_i down
      exact ih down found
    · refine followed _ _ _ ?_ found
      split
      · exact tree.root
      · exact directory
    · rename_i file
      split at found
      · cases found
        exact .inl ⟨_, file, rfl⟩
      · cases found
    · rename_i free
      split at found
      · cases found
        exact .inr ⟨free, ⟨at', name⟩, rfl, directory⟩
      · cases found

theorem landed_of_locate (directory : tree.node at' = some .directory) (found : tree.locate links at' steps = some end') :
    Landed tree end' := by
  induction links generalizing at' steps end' with
  | zero => exact landed_of_walk (by simp) directory found
  | succ links ih => exact landed_of_walk (fun _ _ _ => ih) directory found

theorem walk_names {follow : Path N → List (Step N) → Option (Path N)} {names : Path N} {node : Node N}
    (found : tree.node (at' ++ names) = some node) (plain : node.isLink = false) :
    tree.walk follow at' (names.map .name) = some (at' ++ names) := by
  induction names generalizing at' with
  | nil => rw [List.append_nil]; rfl
  | cons name rest ih =>
    rw [List.append_cons] at found ⊢
    rw [List.map_cons, walk]
    cases rest with
    | nil =>
      rw [List.append_nil] at found ⊢
      cases node with
      | link => cases plain
      | file | directory => simp [found, walk]
    | cons next rest =>
      have directory : tree.node (at' ++ [name]) = some .directory :=
        node_of_within (found ▸ Option.some_ne_none node) (List.prefix_append _ (next :: rest)) (by simp)
      simp only [directory]
      exact ih found

theorem locate_names {names : Path N} {node : Node N} (found : tree.node (at' ++ names) = some node)
    (plain : node.isLink = false) : tree.locate links at' (names.map .name) = some (at' ++ names) := by
  cases links <;> exact walk_names found plain

theorem walk_snoc {follow : Path N → List (Step N) → Option (Path N)}
    (followed : ∀ at' steps, tree.node at' = some .directory → (follow at' (steps ++ [.name name])).isSome →
      ∃ directory, follow at' steps = some directory ∧ tree.node directory = some .directory)
    (directory : tree.node at' = some .directory) (found : (tree.walk follow at' (steps ++ [.name name])).isSome) :
    ∃ directory, tree.walk follow at' steps = some directory ∧ tree.node directory = some .directory := by
  induction steps generalizing at' with
  | nil => exact ⟨at', rfl, directory⟩
  | cons step rest ih =>
  cases step with
  | up => exact ih (landed_dropLast directory) found
  | name first =>
    rw [List.cons_append, walk] at found
    rw [walk]
    cases here : tree.node (at' ++ [first]) with
    | none => simp [here] at found
    | some node =>
    cases node with
    | file => simp [here] at found
    | directory =>
      simp only [here] at found
      exact ih here found
    | link absolute steps =>
      simp only [here, ← List.append_assoc] at found
      refine followed _ _ ?_ found
      split
      · exact tree.root
      · exact directory

theorem locate_snoc (directory : tree.node at' = some .directory)
    (found : (tree.locate links at' (steps ++ [.name name])).isSome) :
    ∃ directory, tree.locate links at' steps = some directory ∧ tree.node directory = some .directory := by
  induction links generalizing at' steps with
  | zero => exact walk_snoc (by simp) directory found
  | succ links ih => exact walk_snoc (fun _ _ => ih) directory found

theorem walk_concat {follow : Path N → List (Step N) → Option (Path N)} {node : Node N}
    (found : tree.node (end' ++ [name]) = some node) (plain : node.isLink = false)
    (followed : ∀ at' steps, follow at' steps = some end' → follow at' (steps ++ [.name name]) = some (end' ++ [name]))
    (before : tree.walk follow at' steps = some end') :
    tree.walk follow at' (steps ++ [.name name]) = some (end' ++ [name]) := by
  induction steps generalizing at' with
  | nil =>
    cases before
    exact walk_names found plain
  | cons step rest ih =>
  cases step with
  | up => exact ih before
  | name first =>
    have directory := tree.parent end' name (found ▸ Option.some_ne_none node)
    rw [walk] at before
    rw [List.cons_append, walk]
    cases here : tree.node (at' ++ [first]) with
    | none =>
      simp only [here] at before
      split at before
      · cases before
        cases here.symm.trans directory
      · cases before
    | some node =>
    cases node with
    | file =>
      simp only [here] at before
      split at before
      · cases before
        cases here.symm.trans directory
      · cases before
    | directory =>
      simp only [here] at before ⊢
      exact ih before
    | link absolute steps =>
      simp only [here] at before ⊢
      rw [← List.append_assoc]
      exact followed _ _ before

theorem locate_concat {node : Node N} (found : tree.node (end' ++ [name]) = some node) (plain : node.isLink = false)
    (before : tree.locate links at' steps = some end') :
    tree.locate links at' (steps ++ [.name name]) = some (end' ++ [name]) := by
  induction links generalizing at' steps with
  | zero => exact walk_concat found plain (by simp) before
  | succ links ih => exact walk_concat found plain (fun _ _ => ih) before

section Canonical

variable {canonical : Path N}

theorem canonicalize_eq_some : tree.canonicalize links path = some canonical ↔
    tree.target links path = some canonical ∧ tree.node canonical ≠ none := by
  rw [canonicalize, Option.filter_eq_some_iff, Option.isSome_iff_ne_none]

theorem node_of_canonicalize (resolved : tree.canonicalize links path = some canonical) :
    ∃ node, tree.node canonical = some node ∧ node.isLink = false := by
  have ⟨found, exists'⟩ := canonicalize_eq_some.mp resolved
  cases landed_of_locate tree.root found with
  | inl node => exact node
  | inr free => exact absurd free.1 exists'

theorem target_of_node {node : Node N} (found : tree.node path = some node) (plain : node.isLink = false) :
    tree.target links path = some path := locate_names found plain

theorem canonicalize_of_node {node : Node N} (found : tree.node path = some node) (plain : node.isLink = false) :
    tree.canonicalize links path = some path :=
  canonicalize_eq_some.mpr ⟨target_of_node found plain, by simp [found]⟩

theorem canonicalize_of_target (found : tree.target links (path ++ [name]) = some at') :
    ∃ directory, tree.canonicalize links path = some directory ∧ tree.node directory = some .directory := by
  rw [target, List.map_append] at found
  have ⟨directory, before, is⟩ := locate_snoc tree.root (Option.isSome_of_eq_some found)
  exact ⟨directory, canonicalize_eq_some.mpr ⟨before, by simp [is]⟩, is⟩

theorem entry_eq_some {entry : Entry N} : tree.entry links (path ++ [name]) = some entry ↔
    entry.name = name ∧ tree.canonicalize links path = some entry.directory ∧
      tree.node entry.directory = some .directory := by
  rw [FileTree.entry, List.getLast?_concat, List.dropLast_concat, Option.bind_some, Option.bind_eq_some_iff]
  constructor
  · rintro ⟨directory, resolved, chosen⟩
    split at chosen
    · rename_i is
      cases chosen
      exact ⟨rfl, resolved, isDirectory_iff.mp is⟩
    · cases chosen
  · rintro ⟨rfl, resolved, is⟩
    exact ⟨entry.directory, resolved, if_pos (isDirectory_iff.mpr is)⟩

theorem path_of_entry (exists' : tree.node path ≠ none) {entry : Entry N} (named : tree.entry links path = some entry) :
    entry.path = path := by
  cases path using List.reverseRecOn with
  | nil => cases named
  | append_singleton directory name =>
    have ⟨name, resolved, _⟩ := entry_eq_some.mp named
    have is := tree.parent directory _ exists'
    cases (canonicalize_of_node is rfl).symm.trans resolved
    rw [Entry.path, name]

theorem canonicalize_of_entry {entry : Entry N} {node : Node N} (named : tree.entry links path = some entry)
    (found : tree.node entry.path = some node) (plain : node.isLink = false) :
    tree.canonicalize links path = some entry.path := by
  cases path using List.reverseRecOn with
  | nil => cases named
  | append_singleton directory name =>
    obtain ⟨rfl, resolved, _⟩ := entry_eq_some.mp named
    have before := (canonicalize_eq_some.mp resolved).1
    have leads := locate_concat found plain before
    refine canonicalize_eq_some.mpr ⟨?_, by simp [found]⟩
    rw [target, List.map_append]
    exact leads

end Canonical

end FileTree

end VibeLink.Filesystem
