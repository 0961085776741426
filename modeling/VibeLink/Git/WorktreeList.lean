import VibeLink.Git.WorkingStatus

/-! The worktrees of a repository as `git worktree list --porcelain -z` prints them (`app/git/worktree.rs`). -/

namespace VibeLink.Git

structure NativeWorktreeRow where
  worktreePath : List Char
  head : List Char
  branch : Option (List Char)
  detached : Bool
  bare : Bool
  locked : Bool
  lockReason : Option (List Char)
  prunable : Bool
  prunableReason : Option (List Char)
  isMain : Bool
  deriving DecidableEq

def NativeWorktreeRow.default : NativeWorktreeRow := ⟨[], [], none, false, false, false, none, false, none, false⟩

def stripPrefix (part text : List Char) : Option (List Char) :=
  if part.isPrefixOf text then some (text.drop part.length) else none

def trimTimes (part : List Char) : Nat → List Char → List Char
  | 0, text => text
  | n + 1, text => if part.isPrefixOf text then trimTimes part n (text.drop part.length) else text

/-- `str::trim_start_matches`: the part is taken away as often as the text begins with it. -/
def trimStartMatches (part text : List Char) : List Char := trimTimes part text.length text

def headsPrefix : List Char := "refs/heads/".toList

def reasonOf (word field : List Char) : Option (List Char) := (stripPrefix (word ++ [' ']) field).filter (· ≠ [])

def NativeWorktreeRow.parseField (row : NativeWorktreeRow) (field : List Char) : NativeWorktreeRow :=
  match stripPrefix "HEAD ".toList field with
  | some head => { row with head }
  | none => match stripPrefix "branch ".toList field with
    | some branch => { row with branch := some (trimStartMatches headsPrefix branch) }
    | none =>
      if field = "detached".toList then { row with detached := true }
      else if field = "bare".toList then { row with bare := true }
      else if field = "locked".toList || "locked ".toList.isPrefixOf field then
        { row with locked := true, lockReason := reasonOf "locked".toList field }
      else if field = "prunable".toList || "prunable ".toList.isPrefixOf field then
        { row with prunable := true, prunableReason := reasonOf "prunable".toList field }
      else row

def parseWorktreeField (current : Option NativeWorktreeRow) (field : List Char) : Option NativeWorktreeRow :=
  match stripPrefix "worktree ".toList field with
  | some path => some { NativeWorktreeRow.default with worktreePath := path }
  | none => current.map (·.parseField field)

def collectRow (rows : List NativeWorktreeRow × Option NativeWorktreeRow) (field : List Char) :
    List NativeWorktreeRow × Option NativeWorktreeRow :=
  if field = [] then (rows.1 ++ rows.2.toList, none) else (rows.1, parseWorktreeField rows.2 field)

def parseWorktreeListNul (output : List Char) : List NativeWorktreeRow :=
  let rows := (output.splitOn '\x00').foldl collectRow ([], none)
  rows.1 ++ rows.2.toList

section Worktrees

structure Value where
  text : List Char
  zero : '\x00' ∉ text

/-- What is checked out; nothing is said of a head that cannot be resolved. -/
inductive Checkout
  | bare
  | detached (head : Value)
  | branch (head reference : Value)
  | unresolved (head : Value)

structure Worktree where
  path : Value
  checkout : Checkout
  lockReason : Option Value
  prunableReason : Option Value

def Checkout.fields : Checkout → List (List Char)
  | .bare => ["bare".toList]
  | .detached head => ["HEAD ".toList ++ head.text, "detached".toList]
  | .branch head reference => ["HEAD ".toList ++ head.text, "branch ".toList ++ reference.text]
  | .unresolved head => ["HEAD ".toList ++ head.text]

def lockField (reason : Value) : List Char :=
  "locked".toList ++ if reason.text = [] then [] else ' ' :: reason.text

def Worktree.fields (worktree : Worktree) : List (List Char) :=
  ("worktree ".toList ++ worktree.path.text) :: worktree.checkout.fields ++
    (worktree.lockReason.map lockField).toList ++
    (worktree.prunableReason.map fun reason => "prunable ".toList ++ reason.text).toList

def printedList (worktrees : List Worktree) : List Char :=
  (worktrees.flatMap fun worktree => worktree.fields ++ [[]]).flatMap (· ++ ['\x00'])

def Checkout.head : Checkout → List Char
  | .bare => []
  | .detached head | .branch head _ | .unresolved head => head.text

def Checkout.reference : Checkout → Option (List Char)
  | .branch _ reference => some reference.text
  | _ => none

/-- The name of a branch is its reference without the one prefix of all branches. -/
def branchName (reference : List Char) : List Char := (stripPrefix headsPrefix reference).getD reference

/-- The row of a worktree, with what is taken of the reference of its branch. -/
def Worktree.row (worktree : Worktree) (name : List Char → List Char) : NativeWorktreeRow where
  worktreePath := worktree.path.text
  head := worktree.checkout.head
  branch := worktree.checkout.reference.map name
  detached := match worktree.checkout with
    | .detached _ => true
    | _ => false
  bare := match worktree.checkout with
    | .bare => true
    | _ => false
  locked := worktree.lockReason.isSome
  lockReason := (worktree.lockReason.map Value.text).filter (· ≠ [])
  prunable := worktree.prunableReason.isSome
  prunableReason := (worktree.prunableReason.map Value.text).filter (· ≠ [])
  isMain := false

end Worktrees

section Prefixes

variable {part text : List Char} {n : Nat}

theorem stripPrefix_append (part text : List Char) : stripPrefix part (part ++ text) = some text := by
  rw [stripPrefix, if_pos (List.isPrefixOf_iff_prefix.2 (List.prefix_append _ _)), List.drop_left]

theorem trimTimes_of_not (other : part.isPrefixOf text = false) (n : Nat) : trimTimes part n text = text := by
  cases n with
  | zero => rfl
  | succ n => rw [trimTimes, if_neg (by rw [other]; exact Bool.false_ne_true)]

theorem not_prefix_trimTimes (filled : part ≠ []) (enough : text.length ≤ n) :
    part.isPrefixOf (trimTimes part n text) = false := by
  have long := List.length_pos_iff.2 filled
  induction n generalizing text with
  | zero =>
    rw [List.length_eq_zero_iff.1 (Nat.le_zero.1 enough), trimTimes]
    cases part with
    | nil => exact absurd rfl filled
    | cons c part => rfl
  | succ n ih =>
    rw [trimTimes]
    split
    · apply ih
      rw [List.length_drop]
      omega
    · rename_i other
      exact Bool.eq_false_iff.2 other

theorem trimStartMatches_eq (filled : part ≠ []) (text : List Char) :
    trimStartMatches part text = (stripPrefix part text).getD text ↔ (part ++ part).isPrefixOf text = false := by
  by_cases here : part.isPrefixOf text = true
  · obtain ⟨rest, rfl⟩ := List.isPrefixOf_iff_prefix.1 here
    have twice : (part ++ part).isPrefixOf (part ++ rest) = part.isPrefixOf rest := by
      apply Bool.eq_iff_iff.2
      rw [List.isPrefixOf_iff_prefix, List.isPrefixOf_iff_prefix, List.prefix_append_right_inj]
    obtain ⟨n, length⟩ := Nat.exists_eq_succ_of_ne_zero (n := (part ++ rest).length) (by
      rw [List.length_append]
      have long := List.length_pos_iff.2 filled
      omega)
    rw [stripPrefix_append, Option.getD_some, twice, trimStartMatches]
    constructor
    · intro same
      rw [← same]
      exact not_prefix_trimTimes filled (Nat.le_refl _)
    · intro other
      rw [length, trimTimes, if_pos here, List.drop_left, trimTimes_of_not other]
  · have other := Bool.eq_false_iff.2 here
    rw [stripPrefix, if_neg here, Option.getD_none, trimStartMatches, trimTimes_of_not other]
    refine iff_of_true rfl (Bool.eq_false_iff.2 fun twice => here ?_)
    exact List.isPrefixOf_iff_prefix.2 ((List.prefix_append _ _).trans (List.isPrefixOf_iff_prefix.1 twice))

end Prefixes

section Reading

variable {worktree : Worktree} {rows : List NativeWorktreeRow}

theorem parseField_head (row : NativeWorktreeRow) (head : List Char) :
    row.parseField ("HEAD ".toList ++ head) = { row with head } := by
  rw [NativeWorktreeRow.parseField, stripPrefix_append]

theorem parseField_branch (row : NativeWorktreeRow) (reference : List Char) :
    row.parseField ("branch ".toList ++ reference) =
      { row with branch := some (trimStartMatches headsPrefix reference) } := by
  have other : stripPrefix "HEAD ".toList ("branch ".toList ++ reference) = none := by simp [stripPrefix]
  rw [NativeWorktreeRow.parseField, other, stripPrefix_append]

theorem parseField_locked (row : NativeWorktreeRow) (reason : Value) : row.parseField (lockField reason) =
    { row with locked := true, lockReason := (some reason.text).filter (· ≠ []) } := by
  delta lockField
  by_cases empty : reason.text = []
  · simp [NativeWorktreeRow.parseField, stripPrefix, reasonOf, Option.filter, empty]
  · simp [NativeWorktreeRow.parseField, stripPrefix, reasonOf, empty]

theorem parseField_prunable (row : NativeWorktreeRow) (reason : List Char) :
    row.parseField ("prunable ".toList ++ reason) =
      { row with prunable := true, prunableReason := (some reason).filter (· ≠ []) } := by
  simp [NativeWorktreeRow.parseField, stripPrefix, reasonOf]

def Worktree.attributes (worktree : Worktree) : List (List Char) :=
  worktree.checkout.fields ++ (worktree.lockReason.map lockField).toList ++
    (worktree.prunableReason.map fun reason => "prunable ".toList ++ reason.text).toList

theorem head_attributes (worktree : Worktree) : ∀ field ∈ worktree.attributes, ∃ c, field.head? = some c ∧ c ≠ 'w' := by
  have locked (reason : Value) : (lockField reason).head? = some 'l' := rfl
  intro field member
  rw [Worktree.attributes, List.mem_append, List.mem_append, Option.mem_toList, Option.mem_toList,
    Option.map_eq_some_iff, Option.map_eq_some_iff] at member
  obtain (checkout | ⟨reason, _, rfl⟩) | ⟨reason, _, rfl⟩ := member
  · cases same : worktree.checkout <;> rw [same] at checkout <;> simp [Checkout.fields] at checkout
    · exact ⟨'b', by rw [checkout]; rfl, by decide⟩
    · cases checkout with
      | inl head => exact ⟨'H', by rw [head]; rfl, by decide⟩
      | inr detached => exact ⟨'d', by rw [detached]; rfl, by decide⟩
    · cases checkout with
      | inl head => exact ⟨'H', by rw [head]; rfl, by decide⟩
      | inr branch => exact ⟨'b', by rw [branch]; rfl, by decide⟩
    · exact ⟨'H', by rw [checkout]; rfl, by decide⟩
  · exact ⟨'l', locked reason, by decide⟩
  · exact ⟨'p', rfl, by decide⟩

theorem collectRow_some {field : List Char} (first : ∃ c, field.head? = some c ∧ c ≠ 'w') (row : NativeWorktreeRow) :
    collectRow (rows, some row) field = (rows, some (row.parseField field)) := by
  obtain ⟨c, first, other⟩ := first
  cases field with
  | nil => cases first
  | cons d rest =>
    cases first
    have inside : stripPrefix "worktree ".toList (c :: rest) = none := by simp [stripPrefix, Ne.symm other]
    rw [collectRow, if_neg (List.cons_ne_nil _ _), parseWorktreeField, inside]
    rfl

theorem foldl_collectRow {fields : List (List Char)} (attributes : ∀ field ∈ fields, ∃ c, field.head? = some c ∧ c ≠ 'w')
    (row : NativeWorktreeRow) : fields.foldl collectRow (rows, some row) =
      (rows, some (fields.foldl NativeWorktreeRow.parseField row)) := by
  induction fields generalizing row with
  | nil => rfl
  | cons field rest ih =>
    rw [List.foldl_cons, collectRow_some (attributes field List.mem_cons_self),
      ih fun other member => attributes other (List.mem_cons_of_mem _ member), List.foldl_cons]

theorem foldl_attributes (worktree : Worktree) : worktree.attributes.foldl NativeWorktreeRow.parseField
    { NativeWorktreeRow.default with worktreePath := worktree.path.text } =
      worktree.row (trimStartMatches headsPrefix) := by
  have detached (row : NativeWorktreeRow) : row.parseField "detached".toList = { row with detached := true } := by
    simp [NativeWorktreeRow.parseField, stripPrefix]
  have bare (row : NativeWorktreeRow) : row.parseField "bare".toList = { row with bare := true } := by
    simp [NativeWorktreeRow.parseField, stripPrefix]
  obtain ⟨path, checkout, lockReason, prunableReason⟩ := worktree
  rw [Worktree.attributes, List.foldl_append, List.foldl_append]
  have checked : checkout.fields.foldl NativeWorktreeRow.parseField
      { NativeWorktreeRow.default with worktreePath := path.text } =
        Worktree.row ⟨path, checkout, none, none⟩ (trimStartMatches headsPrefix) := by
    cases checkout with
    | bare => rw [Checkout.fields, List.foldl_cons, List.foldl_nil, bare]; rfl
    | detached head =>
      rw [Checkout.fields, List.foldl_cons, List.foldl_cons, List.foldl_nil, parseField_head, detached]
      rfl
    | branch head reference =>
      rw [Checkout.fields, List.foldl_cons, List.foldl_cons, List.foldl_nil, parseField_head, parseField_branch]
      rfl
    | unresolved head => rw [Checkout.fields, List.foldl_cons, List.foldl_nil, parseField_head]; rfl
  have locked : (lockReason.map lockField).toList.foldl NativeWorktreeRow.parseField
      (Worktree.row ⟨path, checkout, none, none⟩ (trimStartMatches headsPrefix)) =
        Worktree.row ⟨path, checkout, lockReason, none⟩ (trimStartMatches headsPrefix) := by
    cases lockReason with
    | none => rfl
    | some reason => exact parseField_locked _ reason
  dsimp only
  rw [checked, locked]
  cases prunableReason with
  | none => rfl
  | some reason => exact parseField_prunable _ reason.text

theorem foldl_fields (worktree : Worktree) (rows : List NativeWorktreeRow) :
    (worktree.fields ++ [[]]).foldl collectRow (rows, none) =
      (rows ++ [worktree.row (trimStartMatches headsPrefix)], none) := by
  have first : collectRow (rows, none) ("worktree ".toList ++ worktree.path.text) =
      (rows, some { NativeWorktreeRow.default with worktreePath := worktree.path.text }) := by
    rw [collectRow, if_neg (by simp), parseWorktreeField, stripPrefix_append]
  have fields : worktree.fields = ("worktree ".toList ++ worktree.path.text) :: worktree.attributes := by
    simp only [Worktree.fields, Worktree.attributes, List.cons_append]
  rw [fields, List.cons_append, List.foldl_cons, first, List.foldl_append, foldl_collectRow (head_attributes worktree),
    foldl_attributes]
  rfl

theorem zero_fields (worktree : Worktree) : ∀ field ∈ worktree.fields ++ [[]], '\x00' ∉ field := by
  have marked {mark : List Char} (solid : '\x00' ∉ mark) (value : Value) : '\x00' ∉ mark ++ value.text :=
    fun member => (List.mem_append.1 member).elim solid value.zero
  have checkout : ∀ field ∈ worktree.checkout.fields, '\x00' ∉ field := by
    cases worktree.checkout with
    | bare => exact List.forall_mem_singleton.2 (by decide)
    | detached head =>
      exact List.forall_mem_cons.2 ⟨marked (by decide) head, List.forall_mem_singleton.2 (by decide)⟩
    | branch head reference =>
      exact List.forall_mem_cons.2 ⟨marked (by decide) head, List.forall_mem_singleton.2 (marked (by decide) reference)⟩
    | unresolved head => exact List.forall_mem_singleton.2 (marked (by decide) head)
  have locked (reason : Value) : '\x00' ∉ lockField reason := by
    delta lockField
    split
    · decide
    · have solid : '\x00' ∉ "locked ".toList := by decide
      exact marked solid reason
  intro field member
  rw [Worktree.fields, List.mem_append, List.mem_append, List.mem_append, List.mem_cons, Option.mem_toList,
    Option.mem_toList, Option.map_eq_some_iff, Option.map_eq_some_iff, List.mem_singleton] at member
  obtain (((rfl | inside) | ⟨reason, _, rfl⟩) | ⟨reason, _, rfl⟩) | rfl := member
  · exact marked (by decide) worktree.path
  · exact checkout field inside
  · exact locked reason
  · exact marked (by decide) reason
  · exact List.not_mem_nil

theorem parseWorktreeListNul_printed (worktrees : List Worktree) :
    parseWorktreeListNul (printedList worktrees) =
      worktrees.map fun worktree => worktree.row (trimStartMatches headsPrefix) := by
  have zero : ∀ field ∈ worktrees.flatMap fun worktree => worktree.fields ++ [[]], '\x00' ∉ field := by
    intro field member
    obtain ⟨worktree, _, inside⟩ := List.mem_flatMap.1 member
    exact zero_fields worktree field inside
  have all (rows : List NativeWorktreeRow) :
      (worktrees.flatMap fun worktree => worktree.fields ++ [[]]).foldl collectRow (rows, none) =
        (rows ++ worktrees.map fun worktree => worktree.row (trimStartMatches headsPrefix), none) := by
    clear zero
    induction worktrees generalizing rows with
    | nil => rw [List.map_nil, List.append_nil]; rfl
    | cons worktree rest ih =>
      rw [List.flatMap_cons, List.foldl_append, foldl_fields, ih, List.map_cons, List.append_assoc, List.singleton_append]
  rw [parseWorktreeListNul, printedList, splitOn_printed zero, List.foldl_append, all]
  simp [collectRow]

/-- The rows are read as they are if no name of a branch begins with the prefix of references to branches. -/
theorem parseWorktreeListNul_iff (worktrees : List Worktree) :
    parseWorktreeListNul (printedList worktrees) = worktrees.map (·.row branchName) ↔
      ∀ worktree ∈ worktrees, ∀ reference ∈ worktree.checkout.reference,
        (headsPrefix ++ headsPrefix).isPrefixOf reference = false := by
  rw [parseWorktreeListNul_printed, List.map_inj_left]
  apply forall₂_congr
  intro worktree _
  have named : worktree.row (trimStartMatches headsPrefix) = worktree.row branchName ↔
      worktree.checkout.reference.map (trimStartMatches headsPrefix) = worktree.checkout.reference.map branchName :=
    ⟨fun same => congrArg NativeWorktreeRow.branch same, fun same => by rw [Worktree.row, same]; rfl⟩
  rw [named]
  cases worktree.checkout.reference with
  | none => simp
  | some reference =>
    rw [Option.map_some, Option.map_some, Option.some.injEq, branchName, trimStartMatches_eq (by decide)]
    simp

/-- Its branch is called `refs/heads/x`. -/
def nestedBranch : Worktree where
  path := ⟨"/repo".toList, by decide⟩
  checkout := .branch ⟨"e69de29".toList, by decide⟩ ⟨"refs/heads/refs/heads/x".toList, by decide +kernel⟩
  lockReason := none
  prunableReason := none

/-- The name is read as `x`. -/
theorem nestedBranch_trimmed :
    parseWorktreeListNul (printedList [nestedBranch]) ≠ [nestedBranch].map (·.row branchName) := by
  decide +kernel

end Reading

end VibeLink.Git
