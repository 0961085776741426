import VibeLink.Git.UnifiedDiff

/-! One hunk of a file's diff staged, unstaged or discarded (`apply_hunk_native` in `app/git/stage.rs`). -/

namespace VibeLink.Git

inductive GitHunkAction
  | stage | unstage | discard
  deriving DecidableEq

/-- What `git apply` is called with, where the action is one for the area. -/
def applyArguments : GitDiffArea → GitHunkAction → Option (List String)
  | .unstaged, .stage => some ["apply", "--cached", "--whitespace=nowarn", "-"]
  | .staged, .unstage => some ["apply", "--cached", "--reverse", "--whitespace=nowarn", "-"]
  | .unstaged, .discard => some ["apply", "--reverse", "--whitespace=nowarn", "-"]
  | _, _ => none

/-- The call of Git with its input, given the diff that Git prints now.  No diff is asked for in a review, for lack of
a base. -/
def applyHunkNative (digest : List Char → List Char) (path : List Char) (area : GitDiffArea) (diff : List Char)
    (hunkId : List Char) (action : GitHunkAction) : Except String (List String × List Char) :=
  if area = .review then .error "review diff requires baseRef"
  else do
    let parsed ← parseUnifiedDiff digest path area diff
    if parsed.wholeFileOnly then .error "binary, rename, copy, and type-change diffs require a whole-file action"
    else match parsed.rawHunks.find? (·.1 = hunkId) with
      | none => .error "stale_view: hunk is no longer present in the current diff"
      | some (_, raw) => match applyArguments area action with
        | none => .error "hunk action is incompatible with the selected diff area"
        | some args => .ok (args, parsed.preamble ++ raw)

variable {digest : List Char → List Char} {path : List Char} {area : GitDiffArea}

/-- The diff with this hunk alone. -/
def Document.only (document : Document) (hunk : Hunk) : Document := ⟨document.header, [hunk]⟩

theorem text_only (document : Document) (hunk : Hunk) :
    (document.only hunk).text = document.preamble ++ endLines hunk.lines := by
  rw [Document.text, Document.only, List.flatMap_singleton]
  rfl

/-- With another text a hunk has another id. -/
theorem id_parsed_inj (collisionFree : Function.Injective digest) {hunk other : Hunk} :
    (hunk.parsed digest path area).id = (other.parsed digest path area).id ↔ endLines hunk.lines = endLines other.lines := by
  refine ⟨fun same => ?_, fun same => by rw [Hunk.parsed, Hunk.parsed, same]⟩
  exact (List.cons.inj (List.append_cancel_left (collisionFree same))).2

theorem applyHunkNative_eq_ok (collisionFree : Function.Injective digest) (document : Document) (shown : Hunk)
    (action : GitHunkAction) (args : List String) (patch : List Char) :
    applyHunkNative digest path area document.text (shown.parsed digest path area).id action = .ok (args, patch) ↔
      applyArguments area action = some args ∧
        (∀ hunk ∈ document.hunks, ∀ side, hunk.start side < 2 ^ 32 ∧ hunk.count side < 2 ^ 32) ∧
        isWholeFileOnly document.text = false ∧
        ∃ hunk ∈ document.hunks, endLines hunk.lines = endLines shown.lines ∧ patch = (document.only hunk).text := by
  unfold applyHunkNative
  by_cases review : area = .review
  · rw [if_pos review, review]
    exact iff_of_false nofun fun h => nomatch h.1
  · rw [if_neg review]
    simp only [Relational.bind_eq_ok, parseUnifiedDiff_text, text_only]
    constructor
    · intro ⟨_, ⟨small, same⟩, applied⟩
      subst same
      dsimp only at applied
      split at applied
      · cases applied
      · rename_i whole
        split at applied
        · cases applied
        · rename_i id raw found
          rw [List.find?_map] at found
          obtain ⟨hunk, first, same⟩ := Option.map_eq_some_iff.1 found
          cases same
          have named := List.find?_some first
          split at applied
          · cases applied
          · rename_i known
            cases applied
            exact ⟨known, small, Bool.eq_false_iff.2 whole, hunk, List.mem_of_find?_eq_some first,
              (id_parsed_inj collisionFree).1 (of_decide_eq_true named), rfl⟩
    · intro ⟨known, small, whole, hunk, member, same, shown'⟩
      refine ⟨_, ⟨small, rfl⟩, ?_⟩
      dsimp only
      rw [if_neg (Bool.eq_false_iff.1 whole), List.find?_map]
      cases found : document.hunks.find? (_ ∘ _) with
      | none =>
        have other := List.find?_eq_none.1 found hunk member
        exact absurd (decide_eq_true ((id_parsed_inj collisionFree).2 same)) other
      | some first =>
        have named := List.find?_some found
        have here := (id_parsed_inj collisionFree).1 (of_decide_eq_true named)
        dsimp only [Option.map_some]
        rw [known, here, shown', same]

theorem oldName_feed : '\n' ∉ "--- a/n".toList := by decide

theorem oldName_plain : startsHunk "--- a/n".toList = false := by decide

theorem newName_feed : '\n' ∉ "+++ b/n".toList := by decide

theorem newName_plain : startsHunk "+++ b/n".toList = false := by decide

theorem letter_feed : '\n' ∉ ['x'] := by decide

def letterLine : LineText := ⟨['x'], letter_feed⟩

def deletionHunk : Hunk :=
  ⟨fun side => if side = .old then 9 else 10, none, [.context letterLine, .deletion letterLine]⟩

/-- A line is added at the top of the file, and one is deleted further down. -/
def editedDocument : Document where
  header := [⟨⟨_, oldName_feed⟩, oldName_plain⟩, ⟨⟨_, newName_feed⟩, newName_plain⟩]
  hunks := [⟨fun side => if side = .old then 0 else 1, none, [.addition letterLine]⟩, deletionHunk]

end VibeLink.Git
