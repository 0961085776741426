import VibeLink.Daemon.State
import VibeLink.Remote.LayoutOrder

/-! The listing of workspaces and panes that a remote client reads (`daemon/session.rs`). -/

namespace VibeLink.Daemon

open Relational Remote

inductive RemotePaneActivity
  | idle | running | waiting | done | error
  deriving DecidableEq

structure PaneProjectionState where
  activity : RemotePaneActivity
  unreadCount : UInt32

structure RemoteWorkspaceProjectionWorkspace where
  id : String
  name : String
  paneCount : UInt32
  workspaceFolder : Option String

structure RemoteWorkspaceProjectionPane where
  activity : RemotePaneActivity
  alive : Bool
  cols : UInt16
  desktopActive : Bool
  groupId : String
  groupOrder : UInt32
  id : String
  lastOutputAt : Nat
  order : UInt32
  paneGeneration : Nat
  role : String
  rows : UInt16
  tabOrder : UInt32
  title : String
  unreadCount : UInt32
  workspaceId : String

structure RemoteWorkspaceProjection where
  workspaces : List RemoteWorkspaceProjectionWorkspace
  attachedWorkspaceId : Option String
  panes : List RemoteWorkspaceProjectionPane

/-- A call returns an error, or it panics and takes its thread with it. -/
inductive Stop
  | error (text : String)
  | panic (text : String)

namespace DaemonState

variable (parsers : Parsers) (s : DaemonState) (env : Env)

def listSessions : List SessionMeta :=
  orderBy (fun a b => decide (a.createdAt ≤ b.createdAt)) ((env.order s.sessions.rows).map fun session =>
    { session.info with paneCount := session.panes.rows.length })

def projectPane (positions : Positions) (paneStates : Uuid → Option PaneProjectionState) (workspaceId : Uuid)
    (pane : Pane) : Except Stop RemoteWorkspaceProjectionPane :=
  match positions.lookup pane.id with
  | none => .error (.panic "layout projection covers every live pane")
  | some position =>
    let state := paneStates pane.id
    .ok {
      activity := (state.map PaneProjectionState.activity).getD .idle
      alive := pane.alive
      cols := pane.config.cols
      desktopActive := s.desktopSelection.workspaceId = some workspaceId ∧ s.desktopSelection.paneId = some pane.id
      groupId := position.groupId
      groupOrder := position.groupOrder
      id := pane.id
      lastOutputAt := pane.lastOutputAt
      order := position.order
      paneGeneration := pane.outputCursor.1
      role := pane.config.role.getD ""
      rows := pane.config.rows
      tabOrder := position.tabOrder
      title := (pane.config.title.or pane.config.shell).getD "Shell"
      unreadCount := (state.map PaneProjectionState.unreadCount).getD 0
      workspaceId }

def remoteWorkspaceProjection (workspaceId : Option Uuid) (paneStates : Uuid → Option PaneProjectionState) :
    Except Stop RemoteWorkspaceProjection := do
  let workspaces := (s.listSessions env).map fun session => {
    id := session.id
    name := session.name
    paneCount := (u32TryFrom session.paneCount).getD (.ofNat (UInt32.size - 1))
    workspaceFolder := session.workspaceFolder }
  match workspaceId with
  | none => pure ⟨workspaces, none, []⟩
  | some workspaceId =>
    let session ← (s.session workspaceId).mapError Stop.error
    let positions := paneLayoutPositions parsers session.layoutJson (session.panes.rows.map Pane.toMeta)
    let panes ← session.panes.rows.mapM (s.projectPane positions paneStates workspaceId)
    pure ⟨workspaces, some workspaceId, orderBy (fun a b => decide (a.order ≤ b.order)) panes⟩

variable {parsers s env} {session : Session} {workspaceId : Uuid} {paneStates : Uuid → Option PaneProjectionState}

theorem exists_projectPane (s : DaemonState) (paneStates : Uuid → Option PaneProjectionState) (workspaceId : Uuid)
    {positions : Positions} {pane : Pane} (covered : pane.id ∈ positions) :
    ∃ listed, s.projectPane positions paneStates workspaceId pane = .ok listed := by
  obtain ⟨position, found⟩ := Option.isSome_iff_exists.1 (AList.lookup_isSome.2 covered)
  rw [projectPane, found]
  exact ⟨_, rfl⟩

theorem exists_mapM_projectPane (s : DaemonState) (paneStates : Uuid → Option PaneProjectionState)
    (workspaceId : Uuid) {positions : Positions} {panes : List Pane} (covered : ∀ pane ∈ panes, pane.id ∈ positions) :
    ∃ listed, panes.mapM (s.projectPane positions paneStates workspaceId) = .ok listed := by
  induction panes with
  | nil => exact ⟨[], rfl⟩
  | cons pane panes ih =>
    obtain ⟨first, head⟩ := exists_projectPane s paneStates workspaceId (covered pane List.mem_cons_self)
    obtain ⟨rest, tail⟩ := ih fun pane member => covered pane (List.mem_cons_of_mem _ member)
    rw [List.mapM_cons, head, tail]
    exact ⟨first :: rest, rfl⟩

/-- The `expect` of the listing never panics. -/
theorem exists_projection (found : s.sessions.find workspaceId = some session) : ∃ projection,
    s.remoteWorkspaceProjection parsers env (some workspaceId) paneStates = .ok projection := by
  have ids : (session.panes.rows.map Pane.toMeta).map PaneMeta.id = session.panes.rows.map Pane.id := List.map_map
  have distinct : ((session.panes.rows.map Pane.toMeta).map PaneMeta.id).Nodup := ids ▸ session.panes.nodup
  have covered (pane : Pane) (member : pane ∈ session.panes.rows) :
      pane.id ∈ paneLayoutPositions parsers session.layoutJson (session.panes.rows.map Pane.toMeta) :=
    mem_paneLayoutPositions distinct (ids ▸ List.mem_map_of_mem member)
  obtain ⟨listed, all⟩ := exists_mapM_projectPane s paneStates workspaceId covered
  simp only [remoteWorkspaceProjection, session_eq_ok.2 found, Except.mapError, bind, Except.bind, all]
  exact ⟨_, rfl⟩

end DaemonState

open DaemonState

/-- For every text that is stored as the layout and at most 2^32 live panes: each has one position, the
numbers are those from `0` on, given out along the tree when the layout covers the live panes and along
their list otherwise, and the listing finds every pane. -/
theorem panes_positioned (parsers : Parsers) (layoutJson : Option String) (panes : List PaneMeta)
    (distinct : (panes.map PaneMeta.id).Nodup) (few : panes.length ≤ UInt32.size) :
    (paneLayoutPositions parsers layoutJson panes).keys.Perm (panes.map PaneMeta.id) ∧
    ((paneLayoutPositions parsers layoutJson panes).entries.map fun entry => entry.2.order.toNat).Perm
      (List.range panes.length) ∧
    (∀ raw layout, layoutJson = some raw → Describes parsers raw layout → layout.Covers (panes.map PaneMeta.id) →
      layout.Fits → Follow (paneLayoutPositions parsers layoutJson panes) layout.reading) ∧
    ((∀ raw layout, layoutJson = some raw → Describes parsers raw layout →
      layout.Covers (panes.map PaneMeta.id) → ¬layout.Fits) →
      Follow (paneLayoutPositions parsers layoutJson panes) (panes.map PaneMeta.id)) ∧
    ∀ (s : DaemonState) (env : Env) (workspaceId : Uuid) (session : Session)
      (paneStates : Uuid → Option PaneProjectionState), s.sessions.find workspaceId = some session →
      ∃ projection, s.remoteWorkspaceProjection parsers env (some workspaceId) paneStates = .ok projection := by
  obtain ⟨order, perm, follow⟩ := exists_follow parsers layoutJson distinct few
  have length : order.length = panes.length := perm.length_eq.trans (List.length_map ..)
  refine ⟨follow.keys.trans perm, length ▸ follow.orders, ?_, ?_, ?_⟩
  · rintro raw layout rfl describes covers fits
    exact follow_reading distinct describes covers fits
  · intro otherwise
    rcases paneLayoutPositions_cases parsers layoutJson distinct with
      ⟨raw, layout, text, describes, covers, fits, _⟩ | ⟨_, same⟩
    · exact (otherwise raw layout text describes covers fits).elim
    · rw [same]
      exact follow_fallback distinct few
  · intro s env workspaceId session paneStates found
    exact exists_projection found

def plainPane (id : Uuid) : PaneMeta where
  id := id
  config := ⟨id, none, [], none, [], none, none, none, none, false, 80, 24⟩
  alive := true

/-- `{"version":2,"pages":[]}` -/
def olderLayout : String := "\x7b\"version\":2,\"pages\":[]\x7d"

def olderParsers : Parsers where
  json raw := if raw = olderLayout then some (.obj [("version", .num "2"), ("pages", .arr [])]) else none
  uuid _ := none
  keyed raw value h := by
    split at h
    · cases h
      refine .obj (by decide) ?_
      intro field member
      rcases List.mem_pair.1 member with rfl | rfl
      · exact .num
      · exact .arr (List.forall_mem_nil _)
    · cases h

theorem older_layout_positioned :
    (paneLayoutPositions olderParsers (some olderLayout)
      [plainPane "67e55044-10b1-426f-9247-bb680e5fe0c8", plainPane "67e55044-10b1-426f-9247-bb680e5fe0c9"]).keys.Perm
      ["67e55044-10b1-426f-9247-bb680e5fe0c8", "67e55044-10b1-426f-9247-bb680e5fe0c9"] :=
  (panes_positioned olderParsers (some olderLayout)
    [plainPane "67e55044-10b1-426f-9247-bb680e5fe0c8", plainPane "67e55044-10b1-426f-9247-bb680e5fe0c9"]
    (by decide) (by decide)).1

/-- The `n`-th of as many panes as one likes. -/
def numberedPane (n : Nat) : PaneMeta :=
  plainPane (String.ofList ("00000000-0000-4000-8000-".toList ++ Nat.toDigits 10 (100000000000 + n)))

theorem nodup_numberedPane (n : Nat) : (((List.range n).map numberedPane).map PaneMeta.id).Nodup := by
  rw [List.map_map]
  apply List.nodup_range.map
  intro a b same
  have digits := List.append_cancel_left (String.ofList_injective same)
  have numbers := congrArg (Nat.ofDigitChars 10 · 0) digits
  simp only [Nat.ofDigitChars_ten_toDigits] at numbers
  omega

/-- With one pane more than there are numbers, two panes share one. -/
theorem positions_exhausted : ¬∀ (parsers : Parsers) (layoutJson : Option String) (panes : List PaneMeta),
    (panes.map PaneMeta.id).Nodup →
      ((paneLayoutPositions parsers layoutJson panes).entries.map fun entry => entry.2.order.toNat).Perm
        (List.range panes.length) := by
  intro claim
  have perm := claim olderParsers none ((List.range (UInt32.size + 1)).map numberedPane) (nodup_numberedPane _)
  have last : UInt32.size ∈ List.range ((List.range (UInt32.size + 1)).map numberedPane).length := by
    rw [List.length_map, List.length_range]
    exact List.mem_range.2 (Nat.lt_succ_self _)
  obtain ⟨entry, _, same⟩ := List.mem_map.1 (perm.mem_iff.2 last)
  exact Nat.ne_of_lt entry.2.order.toNat_lt same

end VibeLink.Daemon
