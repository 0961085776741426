import VibeLink.Relational.Ancestry
import VibeLink.Relational.Arranged
import VibeLink.Workspace.Rows
import Mathlib.Data.List.Perm.Basic

/-! Each workspace stands in the rows once. -/

namespace VibeLink.Workspace.Rows

open VibeLink.Relational

/-! ### Maps -/

section Maps

variable {α : Type} {entries : List (String × α)} {key : String} {a : α}

theorem mem_of_mapOf (found : mapOf entries key = some a) : (key, a) ∈ entries := by
  obtain ⟨before, after, parts, _⟩ := List.lookup_eq_some_iff.mp found
  apply List.mem_reverse.mp
  rw [parts]
  exact List.mem_append_right before List.mem_cons_self

theorem isSome_mapOf_iff : (mapOf entries key).isSome ↔ ∃ a, (key, a) ∈ entries := by
  unfold mapOf
  rw [List.lookup_isSome_iff]
  constructor
  · intro ⟨entry, member, same⟩
    exact ⟨entry.2, beq_iff_eq.mp same ▸ List.mem_reverse.mp member⟩
  · intro ⟨a, member⟩
    exact ⟨(key, a), List.mem_reverse.mpr member, beq_self_eq_true key⟩

theorem mapOf_eq_some_iff (nodup : (entries.map Prod.fst).Nodup) : mapOf entries key = some a ↔ (key, a) ∈ entries := by
  constructor
  · exact mem_of_mapOf
  · intro member
    obtain ⟨other, found⟩ := Option.isSome_iff_exists.mp (isSome_mapOf_iff.mpr ⟨a, member⟩)
    have same := List.inj_on_of_nodup_map nodup (mem_of_mapOf found) member rfl
    cases same
    exact found

end Maps

theorem mapOf_key_iff {α : Type} {f : α → String} {l : List α} (nodup : (l.map f).Nodup) {key : String} {a : α} :
    mapOf (l.map fun a => (f a, a)) key = some a ↔ a ∈ l ∧ f a = key := by
  have keys : ((l.map fun a => (f a, a)).map Prod.fst).Nodup := by
    rw [List.map_map]
    exact nodup
  rw [mapOf_eq_some_iff keys, List.mem_map]
  constructor
  · intro ⟨b, member, same⟩
    cases same
    exact ⟨member, rfl⟩
  · intro ⟨member, same⟩
    exact ⟨a, member, same ▸ rfl⟩

/-! ### The order -/

/-- The sessions that are named so far. -/
structure Named (sessions : List SessionMeta) (named : List SessionMeta × List String) : Prop where
  ids : named.1.map SessionMeta.id = named.2
  nodup : named.2.Nodup
  among : ∀ session ∈ named.1, session ∈ sessions

theorem Named.next {sessions : List SessionMeta} {named : List SessionMeta × List String} (distinct : (sessions.map SessionMeta.id).Nodup)
    (kept : Named sessions named) (id : String) :
    Named sessions (nextNamed (mapOf (sessions.map fun session => (session.id, session))) named id) := by
  unfold nextNamed
  split
  · exact kept
  · rename_i session found
    have ⟨member, same⟩ := (mapOf_key_iff distinct).mp found
    split
    · exact kept
    · rename_i fresh
      refine ⟨?_, ?_, ?_⟩
      · rw [List.map_append, kept.ids, List.map_singleton, same]
      · exact List.nodup_append.mpr ⟨kept.nodup, List.nodup_singleton id, fun a old b here => by
          rw [List.mem_singleton.mp here]
          exact fun same => fresh (same ▸ old)⟩
      · intro other there
        cases List.mem_append.mp there with
        | inl old => exact kept.among other old
        | inr new => exact List.mem_singleton.mp new ▸ member

theorem orderSessions_perm {sessions : List SessionMeta} (distinct : (sessions.map SessionMeta.id).Nodup) (order : List String) :
    (orderSessions sessions order).Perm sessions := by
  unfold orderSessions
  split
  · exact .refl sessions
  · have kept : ∀ (order : List String) named, Named sessions named →
        Named sessions (order.foldl (nextNamed (mapOf (sessions.map fun session => (session.id, session)))) named) := by
      intro order
      induction order with
      | nil => exact fun _ kept => kept
      | cons id order ih => exact fun named kept => ih _ (kept.next distinct id)
    have kept := kept order ([], []) ⟨rfl, List.nodup_nil, fun _ none => (by cases none)⟩
    dsimp only
    revert kept
    generalize order.foldl _ _ = named
    intro kept
    have once : (named.1 ++ sessions.filter fun session => session.id ∉ named.2).Nodup := by
      refine List.nodup_append.mpr ⟨?_, distinct.of_map.filter _, ?_⟩
      · exact List.Nodup.of_map SessionMeta.id (kept.ids ▸ kept.nodup)
      · intro a first b second same
        have absent := of_decide_eq_true (List.mem_filter.mp second).2
        refine absent ?_
        rw [← same, ← kept.ids]
        exact List.mem_map_of_mem first
    refine (List.perm_ext_iff_of_nodup once distinct.of_map).mpr fun session => ?_
    rw [List.mem_append, List.mem_filter]
    constructor
    · rintro (first | second)
      · exact kept.among session first
      · exact second.1
    · intro member
      by_cases used : session.id ∈ named.2
      · rw [← kept.ids] at used
        obtain ⟨other, there, same⟩ := List.mem_map.mp used
        cases List.inj_on_of_nodup_map distinct (kept.among other there) member same
        exact .inl there
      · exact .inr ⟨member, decide_eq_true used⟩

/-! ### Projections and what they are bound to -/

/-- Ids are distinct, and a session is bound to one projection at most. -/
structure Distinct (ordered : List SessionMeta) (worktrees : List WorktreeProjection) : Prop where
  sessionIds : (ordered.map SessionMeta.id).Nodup
  worktreeIds : (worktrees.map WorktreeProjection.id).Nodup
  bound : ∀ session ∈ ordered, ∀ first ∈ worktrees, ∀ second ∈ worktrees,
    first.sessionId = some session.id → second.sessionId = some session.id → first = second

section Projections

variable {ordered : List SessionMeta} {worktrees : List WorktreeProjection} {id parentId : String}
  {projection : WorktreeProjection} {session : SessionMeta}

theorem isSome_of_not_isNone {α : Type} {a : Option α} (known : ¬a.isNone) : a.isSome := by
  cases a with
  | none => exact absurd rfl known
  | some a => rfl

theorem ne_empty_of_truthy {text : Option String} {value : String} (is : truthy text = some value) : text = some value ∧ value ≠ "" := by
  have ⟨same, nonempty⟩ := Option.filter_eq_some_iff.mp is
  exact ⟨same, of_decide_eq_true nonempty⟩

theorem sessionsById_iff (distinct : Distinct ordered worktrees) :
    sessionsById ordered id = some session ↔ session ∈ ordered ∧ session.id = id := mapOf_key_iff distinct.sessionIds

theorem projectionById_iff (distinct : Distinct ordered worktrees) :
    projectionById worktrees id = some projection ↔ projection ∈ worktrees ∧ projection.id = id := mapOf_key_iff distinct.worktreeIds

theorem isSome_projectionBySession_iff :
    (projectionBySession ordered worktrees id).isSome ↔ ∃ projection ∈ worktrees, boundTo ordered projection = some id := by
  unfold projectionBySession
  rw [isSome_mapOf_iff]
  constructor
  · intro ⟨projection, member⟩
    obtain ⟨other, there, same⟩ := List.mem_filterMap.mp member
    obtain ⟨key, bound, same⟩ := Option.map_eq_some_iff.mp same
    cases same
    exact ⟨_, there, bound⟩
  · intro ⟨projection, member, bound⟩
    exact ⟨projection, List.mem_filterMap.mpr ⟨projection, member, by rw [bound]; rfl⟩⟩

theorem exists_of_boundTo (distinct : Distinct ordered worktrees) (bound : boundTo ordered projection = some id) :
    projection.sessionId = some id ∧ ∃ session ∈ ordered, session.id = id := by
  have ⟨same, known⟩ := Option.filter_eq_some_iff.mp bound
  obtain ⟨session, found⟩ := Option.isSome_iff_exists.mp known
  exact ⟨same, session, (sessionsById_iff distinct).mp found⟩

def up (ordered : List SessionMeta) (worktrees : List WorktreeProjection) (id : String) : Option String :=
  (projectionById worktrees id).bind (boundParent ordered worktrees)

theorem up_id (distinct : Distinct ordered worktrees) (member : projection ∈ worktrees) :
    up ordered worktrees projection.id = boundParent ordered worktrees projection := by
  unfold up
  rw [(projectionById_iff distinct).mpr ⟨member, rfl⟩]
  rfl

theorem up_of_mem_boundChildIds (distinct : Distinct ordered worktrees) (member : id ∈ boundChildIds ordered worktrees parentId) :
    up ordered worktrees id = some parentId := by
  obtain ⟨projection, there, same⟩ := List.mem_map.mp member
  have ⟨there, parent⟩ := List.mem_filter.mp there
  rw [← same, up_id distinct there]
  exact of_decide_eq_true parent

theorem boundChildIds_nodup (distinct : Distinct ordered worktrees) (parentId : String) :
    (boundChildIds ordered worktrees parentId).Nodup :=
  distinct.worktreeIds.sublist (List.filter_sublist.map WorktreeProjection.id)

theorem boundTo_of_isSome (distinct : Distinct ordered worktrees) (here : projection.sessionId = some id)
    (known : (projectionBySession ordered worktrees id).isSome) : boundTo ordered projection = some id := by
  obtain ⟨other, _, bound⟩ := isSome_projectionBySession_iff.mp known
  obtain ⟨_, session, there⟩ := exists_of_boundTo distinct bound
  exact Option.filter_eq_some_iff.mpr ⟨here, Option.isSome_iff_exists.mpr ⟨session, (sessionsById_iff distinct).mpr there⟩⟩

theorem of_boundParent (distinct : Distinct ordered worktrees) (parent : boundParent ordered worktrees projection = some parentId) :
    (∃ id, boundTo ordered projection = some id) ∧ truthy projection.parentWorktreeId = some parentId := by
  unfold boundParent at parent
  split at parent
  · rename_i sessionId named here names
    split at parent
    · cases parent
    · rename_i both
      have known := isSome_of_not_isNone fun isNone => both (.inl isNone)
      refine ⟨⟨sessionId, boundTo_of_isSome distinct here known⟩, ?_⟩
      split at parent
      · cases parent
      · split at parent
        · cases parent
          exact names
        · cases parent
  · cases parent

end Projections

/-! ### Nodes -/

theorem flattenWorktreeNodes_eq (nodes : List WorkspaceWorktreeNode) : flattenWorktreeNodes nodes = nodes.flatMap withBelow := by
  induction nodes with
  | nil =>
    rw [flattenWorktreeNodes]
    rfl
  | cons node rest ih =>
    cases node with | mk session worktree worktrees =>
    rw [flattenWorktreeNodes, ih]
    rfl

section Nodes

variable (ordered : List SessionMeta) (worktrees : List WorktreeProjection)

/-- A node shows the session that its projection is bound to. -/
structure Shown (node : WorkspaceWorktreeNode) : Prop where
  session : node.session ∈ ordered
  worktree : node.worktree ∈ worktrees
  bound : node.worktree.sessionId = some node.session.id

/-- No projection stands twice in the tree of a node, and each is below that of the node. -/
structure Grown (node : WorkspaceWorktreeNode) : Prop where
  below : ∀ other ∈ withBelow node, Shown ordered worktrees other ∧
    Reaches (up ordered worktrees) other.worktree.id node.worktree.id
  nodup : ((withBelow node).map fun node => node.worktree.id).Nodup

def CacheGrown (nodesBySession : Cache) : Prop :=
  ∀ id node, nodesBySession id = some node → Grown ordered worktrees node ∧ node.session.id = id

variable {ordered worktrees}

theorem Grown.shown {node : WorkspaceWorktreeNode} (grown : Grown ordered worktrees node) : Shown ordered worktrees node :=
  (grown.below node List.mem_cons_self).1

theorem nodup_flatMap_withBelow {nodes : List WorkspaceWorktreeNode} (grown : ∀ node ∈ nodes, Grown ordered worktrees node)
    (nodup : (nodes.map fun node => node.worktree.id).Nodup)
    (apart : ∀ first ∈ nodes, ∀ second ∈ nodes, ∀ id, Reaches (up ordered worktrees) id first.worktree.id →
      Reaches (up ordered worktrees) id second.worktree.id → first.worktree.id = second.worktree.id) :
    ((nodes.flatMap withBelow).map fun node => node.worktree.id).Nodup := by
  rw [List.map_flatMap, List.nodup_flatMap]
  refine ⟨fun node member => (grown node member).nodup, ?_⟩
  refine (List.pairwise_map.mp nodup).imp_of_mem fun {first second} here there differ => ?_
  intro id among other
  obtain ⟨x, inside, same⟩ := List.mem_map.mp among
  obtain ⟨y, inside', same'⟩ := List.mem_map.mp other
  have below := ((grown first here).below x inside).2
  have below' := ((grown second there).below y inside').2
  exact differ (apart first here second there id (same ▸ below) (same' ▸ below'))

theorem grown_mk (distinct : Distinct ordered worktrees) {session : SessionMeta} {projection : WorktreeProjection}
    {children nodes : List WorkspaceWorktreeNode} (perm : nodes.Perm children) (here : session ∈ ordered)
    (member : projection ∈ worktrees) (bound : projection.sessionId = some session.id)
    (acyclic : ¬Above (up ordered worktrees) projection.id projection.id) (grown : ∀ node ∈ children, Grown ordered worktrees node)
    (sub : (children.map fun node => node.worktree.id).Sublist (boundChildIds ordered worktrees projection.id)) :
    Grown ordered worktrees (.mk session projection nodes) := by
  have parent : ∀ node ∈ children, up ordered worktrees node.worktree.id = some projection.id := fun node among =>
    up_of_mem_boundChildIds distinct (sub.subset (List.mem_map_of_mem among))
  have flat : (flattenWorktreeNodes nodes).Perm (children.flatMap withBelow) := by
    rw [flattenWorktreeNodes_eq]
    exact perm.flatMap_right withBelow
  have below : ∀ other ∈ flattenWorktreeNodes nodes, Shown ordered worktrees other ∧
      Above (up ordered worktrees) other.worktree.id projection.id := by
    intro other among
    obtain ⟨child, there, inside⟩ := List.mem_flatMap.mp (flat.mem_iff.mp among)
    have ⟨shown, path⟩ := (grown child there).below other inside
    exact ⟨shown, Relation.TransGen.tail' path (parent child there)⟩
  constructor
  · intro other among
    cases among with
    | head => exact ⟨⟨here, member, bound⟩, .refl⟩
    | tail _ among => exact ⟨(below other among).1, (below other among).2.to_reflTransGen⟩
  · refine List.nodup_cons.mpr ⟨?_, ?_⟩
    · intro again
      obtain ⟨other, among, same⟩ := List.mem_map.mp again
      have above := (below other among).2
      rw [show other.worktree.id = projection.id from same] at above
      exact acyclic above
    · refine (flat.map _).nodup_iff.mpr (nodup_flatMap_withBelow grown (sub.nodup (boundChildIds_nodup distinct _)) ?_)
      exact fun first one second other id => eq_of_siblings acyclic (parent first one) (parent second other)

end Nodes

/-! ### `buildNode` -/

theorem sortNodes_perm (locale : Locale) (ordered : List SessionMeta) (nodes : List WorkspaceWorktreeNode) :
    (sortNodes locale ordered nodes).Perm nodes := List.perm_insertionSort _ nodes

section Build

variable {locale : Locale} {ordered : List SessionMeta} {worktrees : List WorktreeProjection}

/-- What a call for one id leaves: nodes that are grown, and that of the id. -/
def Builds (ordered : List SessionMeta) (worktrees : List WorktreeProjection) (id : String)
    (out : Option WorkspaceWorktreeNode × Cache) : Prop :=
  CacheGrown ordered worktrees out.2 ∧ ∀ node, out.1 = some node → node.worktree.id = id ∧ Grown ordered worktrees node

theorem gather_spec {build : String → Cache → Option (Option WorkspaceWorktreeNode × Cache)} {ids : List String}
    (step : ∀ id ∈ ids, ∀ nodesBySession out, CacheGrown ordered worktrees nodesBySession → build id nodesBySession = some out →
      Builds ordered worktrees id out)
    {nodesBySession : Cache} {out : List WorkspaceWorktreeNode × Cache} (cached : CacheGrown ordered worktrees nodesBySession)
    (gathered : gather build ids nodesBySession = some out) :
    CacheGrown ordered worktrees out.2 ∧ (∀ node ∈ out.1, Grown ordered worktrees node) ∧
      (out.1.map fun node => node.worktree.id).Sublist ids := by
  induction ids generalizing nodesBySession out with
  | nil =>
    cases gathered
    exact ⟨cached, fun _ none => (by cases none), .slnil⟩
  | cons id rest ih =>
    obtain ⟨first, built, gathered⟩ := Option.bind_eq_some_iff.mp gathered
    obtain ⟨others, remaining, same⟩ := Option.bind_eq_some_iff.mp gathered
    cases same
    have ⟨cached, found⟩ := step id List.mem_cons_self nodesBySession first cached built
    have ⟨cached, grown, sub⟩ := ih (fun other member => step other (List.mem_cons_of_mem id member)) cached remaining
    refine ⟨cached, ?_, ?_⟩
    · intro node member
      cases List.mem_append.mp member with
      | inl here => exact (found node (Option.mem_toList.mp here)).2
      | inr there => exact grown node there
    · cases is : first.1 with
      | none => exact sub.cons id
      | some node =>
        have same := (found node is).1
        show (node.worktree.id :: _).Sublist _
        rw [same]
        exact sub.cons_cons id

theorem projection_eq_of_session (distinct : Distinct ordered worktrees) {node : WorkspaceWorktreeNode} {projection : WorktreeProjection}
    (shown : Shown ordered worktrees node) (member : projection ∈ worktrees) (bound : projection.sessionId = some node.session.id) :
    node.worktree = projection :=
  distinct.bound node.session shown.session node.worktree shown.worktree projection member shown.bound bound

theorem buildNode_spec (distinct : Distinct ordered worktrees) {fuel : Nat} {projection : WorktreeProjection} {lineage : List String}
    {nodesBySession : Cache} {out : Option WorkspaceWorktreeNode × Cache} (member : projection ∈ worktrees)
    (acyclic : ¬Above (up ordered worktrees) projection.id projection.id)
    (bound : ∃ id, boundTo ordered projection = some id) (cached : CacheGrown ordered worktrees nodesBySession)
    (built : buildNode locale ordered worktrees fuel projection lineage nodesBySession = some out) :
    Builds ordered worktrees projection.id out := by
  induction fuel generalizing projection lineage nodesBySession out with
  | zero => cases built
  | succ fuel ih =>
    obtain ⟨sessionId, bound⟩ := bound
    obtain ⟨is, session, here, named⟩ := exists_of_boundTo distinct bound
    have key := (ne_empty_of_truthy is).1
    have found := (sessionsById_iff distinct).mpr ⟨here, named⟩
    unfold buildNode at built
    rw [key, is] at built
    dsimp only [Option.getD_some] at built
    split at built
    · rename_i existing hit
      cases built
      refine ⟨cached, fun node is' => ?_⟩
      cases is'
      have ⟨grown, same⟩ := cached sessionId existing hit
      exact ⟨by rw [projection_eq_of_session distinct grown.shown member (same ▸ is)], grown⟩
    · rw [found] at built
      dsimp only at built
      split at built
      · cases built
        exact ⟨cached, fun _ is => (by cases is)⟩
      · obtain ⟨children, gathered, same⟩ := Option.bind_eq_some_iff.mp built
        cases same
        have step : ∀ id ∈ boundChildIds ordered worktrees projection.id, ∀ nodesBySession out,
            CacheGrown ordered worktrees nodesBySession → buildChild worktrees
              (fun child => buildNode locale ordered worktrees fuel child (projection.id :: lineage)) id nodesBySession = some out →
            Builds ordered worktrees id out := by
          intro id child nodesBySession out cached built
          have parent := up_of_mem_boundChildIds distinct child
          obtain ⟨other, there, same⟩ := List.mem_map.mp child
          have ⟨there, lists⟩ := List.mem_filter.mp there
          unfold buildChild at built
          rw [(projectionById_iff distinct).mpr ⟨there, same⟩] at built
          have bound := (of_boundParent distinct (of_decide_eq_true lists)).1
          exact same ▸ ih there (fun cycle => acyclic (above_of_edge cycle (same ▸ parent))) bound cached built
        have ⟨cached, grown, sub⟩ := gather_spec step cached gathered
        have node := grown_mk distinct (sortNodes_perm locale ordered children.1) here member (named ▸ is) acyclic grown sub
        refine ⟨fun id other hit => ?_, fun other is => ?_⟩
        · dsimp only at hit
          rw [Function.update_apply] at hit
          split at hit
          · rename_i same
            cases hit
            exact ⟨node, named.trans same.symm⟩
          · exact cached id other hit
        · cases is
          exact ⟨rfl, node⟩

theorem exists_gather {build : String → Cache → Option (Option WorkspaceWorktreeNode × Cache)} {ids : List String}
    (step : ∀ id ∈ ids, ∀ nodesBySession, ∃ out, build id nodesBySession = some out) (nodesBySession : Cache) :
    ∃ out, gather build ids nodesBySession = some out := by
  induction ids generalizing nodesBySession with
  | nil => exact ⟨_, rfl⟩
  | cons id rest ih =>
    obtain ⟨first, built⟩ := step id List.mem_cons_self nodesBySession
    obtain ⟨others, gathered⟩ := ih (fun other member => step other (List.mem_cons_of_mem id member)) first.2
    exact ⟨_, Option.bind_eq_some_iff.mpr ⟨first, built, Option.bind_eq_some_iff.mpr ⟨others, gathered, rfl⟩⟩⟩

theorem exists_buildNode {fuel : Nat} {projection : WorktreeProjection} {lineage : List String} (nodesBySession : Cache)
    (member : projection ∈ worktrees) (nodup : lineage.Nodup) (among : lineage ⊆ worktrees.map WorktreeProjection.id)
    (enough : worktrees.length < fuel + lineage.length) :
    ∃ out, buildNode locale ordered worktrees fuel projection lineage nodesBySession = some out := by
  induction fuel generalizing projection lineage nodesBySession with
  | zero =>
    have short := (nodup.subperm among).length_le
    rw [List.length_map] at short
    omega
  | succ fuel ih =>
    unfold buildNode
    split
    · exact ⟨_, rfl⟩
    · split
      · exact ⟨_, rfl⟩
      · split
        · exact ⟨_, rfl⟩
        · split
          · exact ⟨_, rfl⟩
          · rename_i fresh
            have step : ∀ id ∈ boundChildIds ordered worktrees projection.id, ∀ nodesBySession, ∃ out, buildChild worktrees
                (fun child => buildNode locale ordered worktrees fuel child (projection.id :: lineage)) id nodesBySession = some out := by
              intro id _ nodesBySession
              unfold buildChild
              split
              · exact ⟨_, rfl⟩
              · rename_i child found
                obtain ⟨_, there, same⟩ := List.mem_map.mp (mem_of_mapOf found)
                cases same
                refine ih nodesBySession there (List.nodup_cons.mpr ⟨fresh, nodup⟩) ?_ ?_
                · exact List.cons_subset.mpr ⟨List.mem_map_of_mem member, among⟩
                · rw [List.length_cons]
                  omega
            obtain ⟨out, gathered⟩ := exists_gather step nodesBySession
            exact ⟨_, Option.bind_eq_some_iff.mpr ⟨out, gathered, rfl⟩⟩

end Build

/-! ### Root worktrees -/

section Attach

variable {locale : Locale} {ordered : List SessionMeta} {worktrees : List WorktreeProjection}

/-- What hangs on a session: a tree of a projection with no parent. -/
structure Hangs (ordered : List SessionMeta) (worktrees : List WorktreeProjection) (root : String × WorkspaceWorktreeNode) : Prop where
  grown : Grown ordered worktrees root.2
  top : up ordered worktrees root.2.worktree.id = none
  on : ∃ session ∈ ordered, session.id = root.1
  unbound : ∀ projection ∈ worktrees, boundTo ordered projection ≠ some root.1

/-- What is attached when these projections are gone through. -/
structure Attaching (ordered : List SessionMeta) (worktrees seen : List WorktreeProjection) (attached : Attached) : Prop where
  cached : CacheGrown ordered worktrees attached.nodesBySession
  hangs : ∀ root ∈ attached.roots, Hangs ordered worktrees root
  ids : (attached.roots.map fun root => root.2.worktree.id).Sublist (seen.map WorktreeProjection.id)
  attached : attached.attachedSessionIds = ((attached.roots.map Prod.snd).flatMap withBelow).map fun node => node.session.id

theorem of_rootParent (distinct : Distinct ordered worktrees) {projection : WorktreeProjection} {parentSessionId : String}
    (member : projection ∈ worktrees) (parent : rootParent ordered worktrees projection = some parentSessionId) :
    (∃ id, boundTo ordered projection = some id) ∧ up ordered worktrees projection.id = none ∧
      (∃ session ∈ ordered, session.id = parentSessionId) ∧
      ∀ other ∈ worktrees, boundTo ordered other ≠ some parentSessionId := by
  unfold rootParent at parent
  split at parent
  · cases parent
  · rename_i sessionId is
    split at parent
    · cases parent
    · rename_i known
      split at parent
      · cases parent
      · rename_i listed
        split at parent
        · cases parent
        · split at parent
          · cases parent
          · split at parent
            · cases parent
            · rename_i both
              cases parent
              rw [not_or] at both
              have known := isSome_of_not_isNone known
              refine ⟨⟨sessionId, boundTo_of_isSome distinct is known⟩, ?_, ?_, ?_⟩
              · rw [up_id distinct member]
                cases parent : boundParent ordered worktrees projection with
                | none => rfl
                | some parentId =>
                  refine absurd ?_ listed
                  rw [(of_boundParent distinct parent).2]
                  exact List.contains_iff_mem.mpr (List.mem_map_of_mem (List.mem_filter.mpr ⟨member, decide_eq_true parent⟩))
              · obtain ⟨session, found⟩ := Option.isSome_iff_exists.mp (isSome_of_not_isNone both.1)
                exact ⟨session, (sessionsById_iff distinct).mp found⟩
              · exact fun other there bound => both.2 (isSome_projectionBySession_iff.mpr ⟨other, there, bound⟩)

theorem attach_spec (distinct : Distinct ordered worktrees) {seen : List WorktreeProjection} {projection : WorktreeProjection}
    {attached : Attached} (member : projection ∈ worktrees) (kept : Attaching ordered worktrees seen attached) :
    ∃ after, attach locale ordered worktrees attached projection = some after ∧
      Attaching ordered worktrees (seen ++ [projection]) after := by
  have longer : (seen.map WorktreeProjection.id).Sublist ((seen ++ [projection]).map WorktreeProjection.id) :=
    (List.sublist_append_left _ _).map _
  unfold attach
  split
  · exact ⟨attached, rfl, { kept with ids := kept.ids.trans longer }⟩
  · rename_i parentSessionId parent
    obtain ⟨bound, top, on, unbound⟩ := of_rootParent distinct member parent
    obtain ⟨out, built⟩ := @exists_buildNode locale ordered worktrees (worktrees.length + 1) projection [] attached.nodesBySession
      member List.nodup_nil (List.nil_subset _) (Nat.lt_succ_self _)
    obtain ⟨cached, grown⟩ := buildNode_spec distinct member (not_above_of_reaches .refl top) bound kept.cached built
    rw [built, Option.bind_eq_bind, Option.bind_some]
    cases is : out.1 with
    | none => exact ⟨_, rfl, { kept with cached, ids := kept.ids.trans longer }⟩
    | some node =>
      obtain ⟨same, grown⟩ := grown node is
      refine ⟨_, rfl, cached, ?_, ?_, ?_⟩
      · intro root among
        cases List.mem_append.mp among with
        | inl old => exact kept.hangs root old
        | inr new =>
          cases List.mem_singleton.mp new
          exact ⟨grown, (congrArg _ same).trans top, on, unbound⟩
      · rw [List.map_append, List.map_append]
        refine kept.ids.append ?_
        show [node.worktree.id].Sublist [projection.id]
        rw [same]
      · rw [List.map_append, List.flatMap_append, List.map_append, ← kept.attached]
        simp

theorem foldlM_attach (distinct : Distinct ordered worktrees) {seen rest : List WorktreeProjection} {attached : Attached}
    (among : rest ⊆ worktrees) (kept : Attaching ordered worktrees seen attached) :
    ∃ after, rest.foldlM (attach locale ordered worktrees) attached = some after ∧
      Attaching ordered worktrees (seen ++ rest) after := by
  induction rest generalizing seen attached with
  | nil => exact ⟨attached, rfl, (List.append_nil seen).symm ▸ kept⟩
  | cons projection rest ih =>
    have ⟨here, among⟩ := List.cons_subset.mp among
    obtain ⟨next, attaches, kept⟩ : ∃ next, attach locale ordered worktrees attached projection = some next ∧ _ :=
      attach_spec distinct here kept
    obtain ⟨after, attached, kept⟩ := ih among kept
    rw [List.append_assoc] at kept
    exact ⟨after, Option.bind_eq_some_iff.mpr ⟨next, attaches, attached⟩, kept⟩

end Attach

/-! ### The rows -/

section Rows

variable {locale : Locale} {ordered : List SessionMeta} {worktrees : List WorktreeProjection} {attached : Attached}

def alone (ordered : List SessionMeta) (attached : Attached) : List SessionMeta :=
  ordered.filter fun session => session.id ∉ attached.attachedSessionIds

def attachedNodes (attached : Attached) : List WorkspaceWorktreeNode := (attached.roots.map Prod.snd).flatMap withBelow

theorem shown_of_mem_attachedNodes {seen : List WorktreeProjection} (kept : Attaching ordered worktrees seen attached)
    {node : WorkspaceWorktreeNode} (member : node ∈ attachedNodes attached) : Shown ordered worktrees node := by
  obtain ⟨root, there, inside⟩ := List.mem_flatMap.mp member
  obtain ⟨hung, among, same⟩ := List.mem_map.mp there
  cases same
  exact ((kept.hangs hung among).grown.below node inside).1

theorem attachedNodes_nodup {seen : List WorktreeProjection} (distinct : (seen.map WorktreeProjection.id).Nodup)
    (kept : Attaching ordered worktrees seen attached) :
    ((attachedNodes attached).map fun node => node.worktree.id).Nodup := by
  have root {node : WorkspaceWorktreeNode} (member : node ∈ attached.roots.map Prod.snd) :
      Grown ordered worktrees node ∧ up ordered worktrees node.worktree.id = none := by
    obtain ⟨hung, among, same⟩ := List.mem_map.mp member
    cases same
    exact ⟨(kept.hangs hung among).grown, (kept.hangs hung among).top⟩
  apply nodup_flatMap_withBelow
  · exact fun node member => (root member).1
  · rw [List.map_map]
    exact kept.ids.nodup distinct
  · intro first one second other id below below'
    cases below.comparable below' with
    | inl path => exact eq_of_reaches path (root one).2
    | inr path => exact (eq_of_reaches path (root other).2).symm

theorem attachedSessions_nodup (distinct : Distinct ordered worktrees) (kept : Attaching ordered worktrees worktrees attached) :
    ((attachedNodes attached).map WorkspaceWorktreeNode.session).Nodup := by
  have nodup := attachedNodes_nodup distinct.worktreeIds kept
  refine List.Nodup.map_on (fun first one second other same => ?_) (List.Nodup.of_map _ nodup)
  have shown := shown_of_mem_attachedNodes kept one
  have shown' := shown_of_mem_attachedNodes kept other
  exact List.inj_on_of_nodup_map nodup one other
    (congrArg WorktreeProjection.id (projection_eq_of_session distinct shown shown'.worktree (same ▸ shown'.bound)))

theorem shown_append_perm (distinct : Distinct ordered worktrees) (kept : Attaching ordered worktrees worktrees attached) :
    (alone ordered attached ++
      (attachedNodes attached).map WorkspaceWorktreeNode.session).Perm ordered := by
  have ids : attached.attachedSessionIds = ((attachedNodes attached).map WorkspaceWorktreeNode.session).map SessionMeta.id := by
    rw [List.map_map]
    exact kept.attached
  have among {session : SessionMeta} (member : session ∈ (attachedNodes attached).map WorkspaceWorktreeNode.session) :
      session ∈ ordered := by
    obtain ⟨node, there, same⟩ := List.mem_map.mp member
    exact same ▸ (shown_of_mem_attachedNodes kept there).session
  refine (List.perm_ext_iff_of_nodup ?_ distinct.sessionIds.of_map).mpr fun session => ?_
  · refine List.nodup_append.mpr ⟨distinct.sessionIds.of_map.filter _, attachedSessions_nodup distinct kept, ?_⟩
    intro session alone other there same
    refine of_decide_eq_true (List.mem_filter.mp alone).2 ?_
    rw [ids, same]
    exact List.mem_map_of_mem there
  · rw [List.mem_append, alone, List.mem_filter]
    constructor
    · rintro (stands | there)
      · exact stands.1
      · exact among there
    · intro member
      by_cases hangs : session.id ∈ attached.attachedSessionIds
      · rw [ids] at hangs
        obtain ⟨other, there, same⟩ := List.mem_map.mp hangs
        exact .inr (List.inj_on_of_nodup_map distinct.sessionIds (among there) member same ▸ there)
      · exact .inl ⟨member, decide_eq_true hangs⟩

theorem roots_perm (distinct : Distinct ordered worktrees) (kept : Attaching ordered worktrees worktrees attached) :
    ((alone ordered attached).flatMap fun session =>
      attached.roots.filter fun root => root.1 = session.id).Perm attached.roots := by
  have nodup : ((alone ordered attached).map SessionMeta.id).Nodup :=
    distinct.sessionIds.sublist (List.filter_sublist.map SessionMeta.id)
  have buckets := buckets_perm (fun root : String × WorkspaceWorktreeNode => some root.1) nodup attached.roots
  have none_left : (attached.roots.filter fun root => decide (∀ id ∈ (alone ordered attached).map SessionMeta.id, some root.1 ≠ some id)) = [] := by
    apply List.filter_eq_nil_iff.mpr
    intro root among all
    have hangs := kept.hangs root among
    obtain ⟨session, member, named⟩ := hangs.on
    have alone : session.id ∉ attached.attachedSessionIds := by
      intro there
      rw [kept.attached] at there
      obtain ⟨node, inside, same⟩ := List.mem_map.mp there
      have shown := shown_of_mem_attachedNodes kept inside
      refine hangs.unbound node.worktree shown.worktree (Option.filter_eq_some_iff.mpr ⟨?_, ?_⟩)
      · rw [shown.bound, ← named, ← same]
      · exact Option.isSome_iff_exists.mpr ⟨session, (sessionsById_iff distinct).mpr ⟨member, named⟩⟩
    exact of_decide_eq_true all root.1 (named ▸ List.mem_map_of_mem (List.mem_filter.mpr ⟨member, decide_eq_true alone⟩)) rfl
  rw [none_left, List.append_nil, List.flatMap_map] at buckets
  simpa using buckets

theorem rootsOf_flatten_perm (attached : Attached) (sessionId : String) :
    (flattenWorktreeNodes (rootsOf locale ordered attached sessionId)).Perm
      ((attached.roots.filter fun root => root.1 = sessionId).flatMap fun root => withBelow root.2) := by
  rw [flattenWorktreeNodes_eq]
  refine ((sortNodes_perm locale ordered _).flatMap_right withBelow).trans ?_
  rw [List.flatMap_map]

def expand (locale : Locale) (ordered : List SessionMeta) (attached : Attached) (session : SessionMeta) : List SessionMeta :=
  session :: (flattenWorktreeNodes (rootsOf locale ordered attached session.id)).map WorkspaceWorktreeNode.session

theorem expand_perm (distinct : Distinct ordered worktrees) (kept : Attaching ordered worktrees worktrees attached) :
    ((alone ordered attached).flatMap (expand locale ordered attached)).Perm ordered := by
  have apart := (List.flatMap_append_perm (alone ordered attached)
    (fun session => [session]) fun session =>
      (flattenWorktreeNodes (rootsOf locale ordered attached session.id)).map WorkspaceWorktreeNode.session).symm
  refine apart.trans (List.Perm.trans ?_ (shown_append_perm distinct kept))
  rw [List.flatMap_singleton']
  refine List.Perm.append_left _ ?_
  rw [← List.map_flatMap]
  refine List.Perm.map _ ?_
  refine (List.Perm.flatMap_left _ fun session _ => rootsOf_flatten_perm attached session.id).trans ?_
  rw [← List.flatMap_assoc, attachedNodes, List.flatMap_map]
  exact (roots_perm distinct kept).flatMap_right _

end Rows

theorem flatten_rowsOf_perm {groups : List WorkspaceGroup} {placed : SessionMeta → Option String}
    {node : SessionMeta → WorkspaceSessionNode} {shown : List SessionMeta} (distinct : (groups.map WorkspaceGroup.id).Nodup) :
    (flattenWorkspaceRows (rowsOf groups placed node shown)).Perm (shown.flatMap fun session =>
      (node session).session :: (flattenWorktreeNodes (node session).worktrees).map WorkspaceWorktreeNode.session) := by
  have buckets := buckets_perm placed distinct shown
  rw [List.flatMap_map] at buckets
  simp only [List.forall_mem_map] at buckets
  refine List.Perm.trans ?_ (buckets.flatMap_right _)
  rw [List.flatMap_append, List.flatMap_assoc]
  unfold flattenWorkspaceRows rowsOf
  rw [List.flatMap_append, List.flatMap_map, List.flatMap_map]
  simp only [rowNodes, List.flatMap_map, List.flatMap_singleton]
  exact .refl _

theorem workspaceRows_once (locale : Locale) {sessions : List SessionMeta} {groups : List WorkspaceGroup} {worktrees : List WorktreeProjection}
    (groupIds : String → Option String) (order : List String) (distinct : Distinct sessions worktrees)
    (groupsDistinct : (groups.map WorkspaceGroup.id).Nodup) :
    ∃ rows, workspaceRows locale sessions groups groupIds order worktrees = some rows ∧ (flattenWorkspaceRows rows).Perm sessions := by
  have perm := orderSessions_perm distinct.sessionIds order
  have distinct : Distinct (orderSessions sessions order) worktrees :=
    ⟨(perm.map SessionMeta.id).nodup_iff.mpr distinct.sessionIds, distinct.worktreeIds,
      fun session member => distinct.bound session (perm.mem_iff.mp member)⟩
  have start : Attaching (orderSessions sessions order) worktrees [] ⟨fun _ => none, [], []⟩ :=
    ⟨fun _ _ hit => (by cases hit), fun _ among => (by cases among), .slnil, rfl⟩
  obtain ⟨attached, attaches, kept⟩ : ∃ after,
      worktrees.foldlM (attach locale (orderSessions sessions order) worktrees) ⟨fun _ => none, [], []⟩ = some after ∧ _ :=
    foldlM_attach distinct (List.Subset.refl worktrees) start
  unfold workspaceRows
  dsimp only
  rw [attaches]
  exact ⟨_, rfl, (flatten_rowsOf_perm groupsDistinct).trans ((expand_perm distinct kept).trans perm)⟩

/-- A worktree with a group of its own, under its repository. -/
theorem workspaceRows_nested : ∃ rows, workspaceRows ⟨fun left right => if left < right then -1 else 1, String.toLower⟩
      [⟨"repository", 0, some "/repository"⟩, ⟨"feature", 1, some "/feature"⟩] [⟨"group", none⟩]
      (fun id => if id = "feature" then some "group" else none) ["feature"]
      [⟨"tree", none, some ⟨"/repository", some "feature", some "repository"⟩, some "tree"⟩] = some rows ∧
    (flattenWorkspaceRows rows).Perm [⟨"repository", 0, some "/repository"⟩, ⟨"feature", 1, some "/feature"⟩] :=
  workspaceRows_once _ _ _ ⟨by decide, by decide, by decide⟩ (by decide)

end VibeLink.Workspace.Rows
