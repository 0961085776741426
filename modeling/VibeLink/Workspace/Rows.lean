import VibeLink.Terminal.TitleCoalescing
import Mathlib.Algebra.Order.Ring.Nat
import Mathlib.Data.List.Sort
import Mathlib.Logic.Function.Basic

/-! The rows of the list of workspaces (`src/state/workspaceGroups.ts`, `orderSessions` of `src/state/profiles.ts`). -/

namespace VibeLink.Workspace.Rows

structure SessionMeta where
  id : String
  createdAt : Int
  workspaceFolder : Option String
  deriving DecidableEq

structure WorkspaceGroup where
  id : String
  rootFolder : Option String
  deriving DecidableEq

structure NativeWorktree where
  isMain : Bool
  deriving DecidableEq

structure WorktreeRecord where
  repositoryPath : String
  sessionId : Option String
  parentSessionId : Option String
  deriving DecidableEq

structure WorktreeProjection where
  id : String
  native : Option NativeWorktree
  record : Option WorktreeRecord
  parentWorktreeId : Option String
  deriving DecidableEq

inductive WorkspaceWorktreeNode
  | mk (session : SessionMeta) (worktree : WorktreeProjection) (worktrees : List WorkspaceWorktreeNode)

def WorkspaceWorktreeNode.session : WorkspaceWorktreeNode → SessionMeta
  | mk session _ _ => session

def WorkspaceWorktreeNode.worktree : WorkspaceWorktreeNode → WorktreeProjection
  | mk _ worktree _ => worktree

def WorkspaceWorktreeNode.worktrees : WorkspaceWorktreeNode → List WorkspaceWorktreeNode
  | mk _ _ worktrees => worktrees

structure WorkspaceSessionNode where
  session : SessionMeta
  worktrees : List WorkspaceWorktreeNode
  detached : List WorktreeProjection

inductive WorkspaceRow
  | group (group : WorkspaceGroup) (sessions : List WorkspaceSessionNode)
  | session (node : WorkspaceSessionNode)

/-- What the host decides of strings. -/
structure Locale where
  localeCompare : String → String → Int
  toLowerCase : String → String

/-- `text || undefined` -/
def truthy (text : Option String) : Option String := text.filter fun text => text ≠ ""

/-- `new Map(entries)`, of which the last for a key counts. -/
def mapOf {α : Type} (entries : List (String × α)) (key : String) : Option α := entries.reverse.lookup key

/-! ### `orderSessions` -/

/-- The sessions that the order names, and their ids. -/
def nextNamed (byId : String → Option SessionMeta) (named : List SessionMeta × List String) (id : String) :
    List SessionMeta × List String :=
  match byId id with
  | none => named
  | some session => if id ∈ named.2 then named else (named.1 ++ [session], named.2 ++ [id])

def orderSessions (sessions : List SessionMeta) (order : List String) : List SessionMeta :=
  if order = [] then sessions
  else
    let named := order.foldl (nextNamed (mapOf (sessions.map fun session => (session.id, session)))) ([], [])
    named.1 ++ sessions.filter fun session => session.id ∉ named.2

/-! ### Folders -/

/-- `.trim().replace(/\\/g, '/').replace(/\/+$/, '')` -/
def slashed (folder : String) : String :=
  String.ofList (((Terminal.Titles.trim folder.toList).map fun c => if c = '\\' then '/' else c).reverse.dropWhile (· = '/')).reverse

def workspaceFolderKey (locale : Locale) (folder : Option String) : Option String :=
  truthy (folder.map fun folder => locale.toLowerCase (slashed folder))

def normalizeRepositoryPath (locale : Locale) (path : Option String) : String := locale.toLowerCase (slashed (path.getD ""))

def olderSession (locale : Locale) (left right : SessionMeta) : SessionMeta :=
  if left.createdAt < right.createdAt ∨ (left.createdAt = right.createdAt ∧ locale.localeCompare left.id right.id < 0) then left
  else right

/-! ### `workspaceRows` -/

def WorktreeProjection.sessionId (projection : WorktreeProjection) : Option String :=
  truthy (projection.record.bind WorktreeRecord.sessionId)

section

variable (locale : Locale) (ordered : List SessionMeta) (worktrees : List WorktreeProjection)

def sessionsById : String → Option SessionMeta := mapOf (ordered.map fun session => (session.id, session))

def orderRank : String → Option Nat := mapOf (ordered.zipIdx.map fun entry => (entry.1.id, entry.2))

def boundTo (projection : WorktreeProjection) : Option String :=
  projection.sessionId.filter fun id => (sessionsById ordered id).isSome

def projectionBySession : String → Option WorktreeProjection :=
  mapOf (worktrees.filterMap fun projection => (boundTo ordered projection).map fun id => (id, projection))

def projectionById : String → Option WorktreeProjection := mapOf (worktrees.map fun projection => (projection.id, projection))

/-- The id under which `boundChildIdsByParentId` lists a projection. -/
def boundParent (projection : WorktreeProjection) : Option String :=
  match projection.sessionId, truthy projection.parentWorktreeId with
  | some sessionId, some parentId =>
    if (projectionBySession ordered worktrees sessionId).isNone ∨ parentId = projection.id then none
    else match (projectionById worktrees parentId).bind WorktreeProjection.sessionId with
      | none => none
      | some parentSession => if (projectionBySession ordered worktrees parentSession).isSome then some parentId else none
  | _, _ => none

/-- `boundChildIdsByParentId.get(parentId) ?? []` -/
def boundChildIds (parentId : String) : List String :=
  (worktrees.filter fun projection => boundParent ordered worktrees projection = some parentId).map WorktreeProjection.id

/-- `Number.MAX_SAFE_INTEGER` -/
def maxSafeInteger : Nat := 2 ^ 53 - 1

def byVisibleOrder (left right : WorkspaceWorktreeNode) : Int :=
  let leftRank := (orderRank ordered left.session.id).getD maxSafeInteger
  let rightRank := (orderRank ordered right.session.id).getD maxSafeInteger
  if leftRank = rightRank then locale.localeCompare left.session.id right.session.id else leftRank - rightRank

/-- `.sort(byVisibleOrder)` -/
def sortNodes : List WorkspaceWorktreeNode → List WorkspaceWorktreeNode :=
  List.insertionSort fun left right => byVisibleOrder locale ordered left right ≤ 0

abbrev Cache : Type := String → Option WorkspaceWorktreeNode

/-- `.flatMap` over the ids of children, with what is in `nodesBySession`. -/
def gather (build : String → Cache → Option (Option WorkspaceWorktreeNode × Cache)) :
    List String → Cache → Option (List WorkspaceWorktreeNode × Cache)
  | [], nodesBySession => some ([], nodesBySession)
  | id :: rest, nodesBySession => do
    let first ← build id nodesBySession
    let others ← gather build rest first.2
    return (first.1.toList ++ others.1, others.2)

def buildChild (build : WorktreeProjection → Cache → Option (Option WorkspaceWorktreeNode × Cache)) (childId : String)
    (nodesBySession : Cache) : Option (Option WorkspaceWorktreeNode × Cache) :=
  match projectionById worktrees childId with
  | none => some (none, nodesBySession)
  | some child => build child nodesBySession

/-- `none` when the calls go deeper than `fuel`. -/
def buildNode : Nat → WorktreeProjection → List String → Cache → Option (Option WorkspaceWorktreeNode × Cache)
  | 0, _, _, _ => none
  | fuel + 1, projection, lineage, nodesBySession =>
    match nodesBySession ((projection.record.bind WorktreeRecord.sessionId).getD "") with
    | some existing => some (some existing, nodesBySession)
    | none => match projection.sessionId with
      | none => some (none, nodesBySession)
      | some sessionId => match sessionsById ordered sessionId with
        | none => some (none, nodesBySession)
        | some session =>
          if projection.id ∈ lineage then some (none, nodesBySession)
          else do
            let children ← gather (buildChild worktrees fun child => buildNode fuel child (projection.id :: lineage))
              (boundChildIds ordered worktrees projection.id) nodesBySession
            let node := .mk session projection (sortNodes locale ordered children.1)
            return (some node, Function.update children.2 sessionId (some node))

def flattenWorktreeNodes : List WorkspaceWorktreeNode → List WorkspaceWorktreeNode
  | [] => []
  | .mk session worktree worktrees :: rest =>
    .mk session worktree worktrees :: (flattenWorktreeNodes worktrees ++ flattenWorktreeNodes rest)

/-- `[node, ...flattenWorktreeNodes(node.worktrees)]` -/
def withBelow (node : WorkspaceWorktreeNode) : List WorkspaceWorktreeNode := node :: flattenWorktreeNodes node.worktrees

/-- `rootWorktreesByParentSession` before it is sorted, as what is pushed under each id, with `attachedSessionIds`. -/
structure Attached where
  nodesBySession : Cache
  roots : List (String × WorkspaceWorktreeNode)
  attachedSessionIds : List String

def rootParent (projection : WorktreeProjection) : Option String :=
  match projection.sessionId with
  | none => none
  | some sessionId =>
    if (projectionBySession ordered worktrees sessionId).isNone then none
    else if (truthy projection.parentWorktreeId).any fun id => (boundChildIds ordered worktrees id).contains projection.id then none
    else match truthy (projection.record.bind WorktreeRecord.parentSessionId) with
      | none => none
      | some parentSessionId =>
        if parentSessionId = sessionId then none
        else if (sessionsById ordered parentSessionId).isNone ∨ (projectionBySession ordered worktrees parentSessionId).isSome then none
        else some parentSessionId

def attach (attached : Attached) (projection : WorktreeProjection) : Option Attached :=
  match rootParent ordered worktrees projection with
  | none => some attached
  | some parentSessionId => do
    let built ← buildNode locale ordered worktrees (worktrees.length + 1) projection [] attached.nodesBySession
    match built.1 with
    | none => return { attached with nodesBySession := built.2 }
    | some node => return {
        nodesBySession := built.2
        roots := attached.roots ++ [(parentSessionId, node)]
        attachedSessionIds := attached.attachedSessionIds ++ (withBelow node).map fun node => node.session.id }

/-- `rootWorktreesByParentSession.get(sessionId) ?? []` -/
def rootsOf (attached : Attached) (sessionId : String) : List WorkspaceWorktreeNode :=
  sortNodes locale ordered ((attached.roots.filter fun root => root.1 = sessionId).map Prod.snd)

/-- The repository under which a projection that owns no session is shown. -/
def detachedUnder (projection : WorktreeProjection) : Option String :=
  match projection.record with
  | none => none
  | some record =>
    if (truthy record.sessionId).isSome ∨ (projection.native.any NativeWorktree.isMain) then none
    else truthy (some (normalizeRepositoryPath locale (some record.repositoryPath)))

/-- `detachedByRepository.get(repository) ?? []` -/
def detachedOf (repository : String) : List WorktreeProjection :=
  worktrees.filter fun projection => detachedUnder locale projection = some repository

/-- `groupIdByRootFolder`'s keys and `groupIdByRootSession`. -/
structure Roots where
  folders : List String := []
  groupIdByRootSession : String → Option String := fun _ => none

def nextRoot (roots : Roots) (group : WorkspaceGroup) : Roots :=
  match workspaceFolderKey locale group.rootFolder with
  | none => roots
  | some rootFolder =>
    if rootFolder ∈ roots.folders then roots
    else
      let folders := roots.folders ++ [rootFolder]
      match ordered.filter fun session => workspaceFolderKey locale session.workspaceFolder = some rootFolder with
      | [] => { roots with folders }
      | first :: rest =>
        let root := rest.foldl (olderSession locale) first
        { folders, groupIdByRootSession := Function.update roots.groupIdByRootSession root.id (some group.id) }

def sessionNode (attached : Attached) (session : SessionMeta) : WorkspaceSessionNode where
  session
  worktrees := rootsOf locale ordered attached session.id
  detached := if (projectionBySession ordered worktrees session.id).isSome then []
    else detachedOf locale worktrees (normalizeRepositoryPath locale session.workspaceFolder)

end

def groupOf (groupIdByRootSession groupIds : String → Option String) (session : SessionMeta) : Option String :=
  (truthy (groupIdByRootSession session.id)).orElse fun _ => groupIds session.id

/-- The rows of the groups, and those of the sessions that no group has. -/
def rowsOf (groups : List WorkspaceGroup) (placed : SessionMeta → Option String) (node : SessionMeta → WorkspaceSessionNode)
    (shown : List SessionMeta) : List WorkspaceRow :=
  (groups.map fun group => .group group ((shown.filter fun session => placed session = some group.id).map node)) ++
    (shown.filter fun session => ∀ group ∈ groups, placed session ≠ some group.id).map fun session => .session (node session)

def workspaceRows (locale : Locale) (sessions : List SessionMeta) (groups : List WorkspaceGroup) (groupIds : String → Option String)
    (order : List String) (worktrees : List WorktreeProjection) : Option (List WorkspaceRow) :=
  let ordered := orderSessions sessions order
  (worktrees.foldlM (attach locale ordered worktrees) ⟨fun _ => none, [], []⟩).map fun attached =>
    let roots := groups.foldl (nextRoot locale ordered) {}
    rowsOf groups (groupOf roots.groupIdByRootSession groupIds) (sessionNode locale ordered worktrees attached)
      (ordered.filter fun session => session.id ∉ attached.attachedSessionIds)

def rowNodes : WorkspaceRow → List WorkspaceSessionNode
  | .group _ sessions => sessions
  | .session node => [node]

def flattenWorkspaceRows (rows : List WorkspaceRow) : List SessionMeta :=
  rows.flatMap fun row => (rowNodes row).flatMap fun node =>
    node.session :: (flattenWorktreeNodes node.worktrees).map WorkspaceWorktreeNode.session

end VibeLink.Workspace.Rows
