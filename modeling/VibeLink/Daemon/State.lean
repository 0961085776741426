import VibeLink.Relational.Table
import VibeLink.Relational.Outcome
import VibeLink.Daemon.Protocol

/-! Panes, workspaces and what the daemon knows of both (`daemon/pty.rs`, `daemon/session.rs`). -/

namespace VibeLink.Daemon

open VibeLink.Relational Tx

/-- What a call finds outside the state.  The clock may be read twice; the terminals answer a
resize each as they will. -/
structure Env where
  now : Nat
  later : Nat
  instant : Nat
  drawn : Uuid
  /-- The iteration order of the hash maps. -/
  order : ∀ {α : Type}, List α → List α
  /-- What the terminal says to the size that the call asks for. -/
  resizes : Except String Unit
  /-- What the terminal of a pane says to its original size. -/
  restores : Uuid → Except String Unit
  now_le : now ≤ later
  perm : ∀ {α : Type} (xs : List α), (order xs).Perm xs

/-- A terminal and its process.  Its size is what it was spawned with or resized to, which is never
zero. -/
structure Pane where
  id : Uuid
  config : PaneConfig
  alive : Bool
  scrollback : ScrollbackRing
  outputGeneration : Nat
  outputSequence : Nat
  lastOutputAt : Nat
  cols_pos : 0 < config.cols
  rows_pos : 0 < config.rows
  deriving DecidableEq

structure PaneOutputRecord where
  reset : Bool
  sequence : Nat
  deriving DecidableEq

theorem max_one_pos (n : UInt16) : 0 < max n 1 := by
  rw [UInt16.lt_iff_toNat_lt]
  have one : (1 : UInt16) ≤ max n 1 := by
    show 1 ≤ if n ≤ 1 then 1 else n
    split
    · exact UInt16.le_refl 1
    · rename_i h
      exact UInt16.le_of_lt (UInt16.not_le.1 h)
  exact UInt16.le_iff_toNat_le.1 one

theorem max_one_of_pos {n : UInt16} (h : 0 < n) : max n 1 = n := by
  rw [UInt16.lt_iff_toNat_lt] at h
  show (if n ≤ 1 then 1 else n) = n
  split
  · rename_i le
    rw [UInt16.le_iff_toNat_le] at le
    exact UInt16.toNat_inj.1 (Nat.le_antisymm h le)
  · rfl

namespace Pane

/-- `DEFAULT_SCROLLBACK_CAP` -/
def defaultScrollbackCap : Nat := 8 * 1024 * 1024

/-- A pane whose process has been started, with the scrollback it is restored from. -/
def spawn (config : PaneConfig) (restoredScrollback : Option Bytes) : Pane where
  id := config.paneId
  config := { config with cols := max config.cols 1, rows := max config.rows 1 }
  alive := true
  scrollback := match restoredScrollback with
    | some bytes => (ScrollbackRing.new defaultScrollbackCap).seedProtected bytes
    | none => .new defaultScrollbackCap
  outputGeneration := 1
  outputSequence := 0
  lastOutputAt := 0
  cols_pos := max_one_pos _
  rows_pos := max_one_pos _

def toMeta (pane : Pane) : PaneMeta := ⟨pane.id, pane.config, pane.alive⟩

def outputCursor (pane : Pane) : Nat × Nat := (pane.outputGeneration, pane.outputSequence)

def assignOutputGeneration (pane : Pane) (generation : Nat) : Pane :=
  { pane with outputGeneration := generation, outputSequence := 0 }

def setSize (pane : Pane) (cols rows : UInt16) (cols_pos : 0 < cols) (rows_pos : 0 < rows) : Pane :=
  { pane with config := { pane.config with cols, rows }, cols_pos, rows_pos }

def resize (pane : Pane) (cols rows : UInt16) (pty : Except String Unit) : Except String Pane :=
  if pane.config.cols = max cols 1 ∧ pane.config.rows = max rows 1 then .ok pane
  else pty.map fun _ => pane.setSize (max cols 1) (max rows 1) (max_one_pos _) (max_one_pos _)

def kill (pane : Pane) : Pane := { pane with alive := false }

def scrollbackSnapshot (pane : Pane) : Bytes := pane.scrollback.snapshot

def rebaseScrollback (pane : Pane) (snapshot : Bytes) : Pane :=
  { pane with scrollback := pane.scrollback.rebase snapshot }

/-- `push(bytes) || take_rebased()`: a pending rebase stays pending behind a clear. -/
def recordOutput (pane : Pane) (bytes : Bytes) (now : Nat) : PaneOutputRecord × Pane :=
  let (cleared, scrollback) := pane.scrollback.push bytes
  let (reset, scrollback) := if cleared then (true, scrollback) else scrollback.takeRebased
  let sequence := saturatingAdd pane.outputSequence 1
  (⟨reset, sequence⟩, { pane with scrollback, outputSequence := sequence, lastOutputAt := now })

def setTitle (pane : Pane) (title : String) : Pane :=
  { pane with config := { pane.config with title := some title } }

def setRole (pane : Pane) (role : Option String) : Pane :=
  { pane with config := { pane.config with role } }

end Pane

structure Session where
  info : SessionMeta
  layoutJson : Option String
  panes : Table Pane.id
  sleeping : Bool
  cleanExit : Bool

abbrev Session.id (session : Session) : Uuid := session.info.id

/-- A `HashSet` of client ids. -/
abbrev ClientSet := Table (id : Uuid → Uuid)

/-- The counters are `u64`s in the code, which panics before one of them wraps. -/
structure DaemonState where
  sessions : Table Session.id
  clients : Table (Prod.fst : Uuid × Sender → Uuid)
  paneClients : Uuid → ClientSet
  sessionClients : Uuid → ClientSet
  paneLeases : Table RemotePaneLease.paneId
  nextPaneGeneration : Nat
  nextPaneLeaseRevision : Nat
  desktopSelection : DesktopSelection
  /-- The panes whose spawn is cancelled, with the instant at which that is forgotten. -/
  spawnCancellations : Table (Prod.fst : (Uuid × Uuid) × Nat → Uuid × Uuid)

abbrev DaemonResult (α : Type) := Tx DaemonState String α

namespace DaemonState

def new : DaemonState where
  sessions := .empty
  clients := .empty
  paneClients := fun _ => .empty
  sessionClients := fun _ => .empty
  paneLeases := .empty
  nextPaneGeneration := 1
  nextPaneLeaseRevision := 1
  desktopSelection := ⟨none, none⟩
  spawnCancellations := .empty

variable (s : DaemonState) (env : Env)

def session (sessionId : Uuid) : Except String Session :=
  match s.sessions.find sessionId with
  | some session => .ok session
  | none => .error s!"unknown session {sessionId}"

def pane (sessionId paneId : Uuid) : Option Pane :=
  (s.sessions.find sessionId).bind fun session => session.panes.find paneId

def findPane (paneId : Uuid) : Option (Uuid × Uuid) :=
  -- the order is that of the keys, which no write through a `&mut Session` changes
  (env.order (s.sessions.rows.map Session.id)).findSome? fun sessionId =>
    if (s.pane sessionId paneId).isSome then some (sessionId, paneId) else none

/-- The error for a pane that is not in the session, by where it is found instead. -/
def strayPane (sessionId paneId : Uuid) : String :=
  match s.findPane env paneId with
  | some (ownerSessionId, _) => s!"pane {paneId} belongs to session {ownerSessionId}, not {sessionId}"
  | none => s!"unknown pane {paneId} in session {sessionId}"

def paneInSession (sessionId paneId : Uuid) : Except String Pane := do
  let session ← s.session sessionId
  match session.panes.find paneId with
  | some pane => .ok pane
  | none => .error (s.strayPane env sessionId paneId)

def paneInSessionMut (sessionId paneId : Uuid) : Except String Pane :=
  match s.pane sessionId paneId with
  | some pane => .ok pane
  | none => do
    let _ ← s.session sessionId
    .error (s.strayPane env sessionId paneId)

def paneAnyMut (paneId : Uuid) : Except String (Uuid × Pane) :=
  match s.findPane env paneId with
  | none => .error s!"unknown pane {paneId}"
  | some (sessionId, paneId) =>
    match s.pane sessionId paneId with
    | some pane => .ok (sessionId, pane)
    | none => .error s!"unknown pane {paneId}"

def paneOutputGeneration (paneId : Uuid) : Option Nat := do
  let (sessionId, _) ← s.findPane env paneId
  let pane ← s.pane sessionId paneId
  pure pane.outputGeneration

def senders (clientIds : ClientSet) : List Sender :=
  (env.order clientIds.rows).filterMap fun clientId => (s.clients.find clientId).map Prod.snd

def sendersForPane (paneId : Uuid) : List Sender := s.senders env (s.paneClients paneId)

def sendersForPaneOrSession (sessionId paneId : Uuid) : List Sender :=
  s.senders env ((s.sessionClients sessionId).rows.foldl Table.put (s.paneClients paneId))

def allSenders : List Sender := (env.order s.clients.rows).map Prod.snd

/-- What a write through a `&mut Session` comes to. -/
def editSession (sessionId : Uuid) (f : Session → Session)
    (id_eq : ∀ session, (f session).id = session.id := by intro session; rfl) : DaemonState :=
  { s with sessions := s.sessions.update (fun session => decide (session.id = sessionId)) f id_eq }

/-- `IndexMap::insert`, and what a write through a `&mut Pane` of the session comes to. -/
def putPane (sessionId : Uuid) (pane : Pane) : DaemonState :=
  s.editSession sessionId fun session => { session with panes := session.panes.put pane }

/-- `IndexMap::shift_remove` -/
def dropPane (sessionId paneId : Uuid) : DaemonState :=
  s.editSession sessionId fun session => { session with panes := session.panes.erase paneId }

/-- `session.meta.pane_count = session.panes.len()` -/
def countPanes (sessionId : Uuid) : DaemonState :=
  s.editSession sessionId fun session =>
    { session with info := { session.info with paneCount := session.panes.rows.length } }

/-- `pane_clients.remove(&pane_id)` -/
def forgetPaneClients (paneId : Uuid) : DaemonState :=
  { s with paneClients := Function.update s.paneClients paneId .empty }

section Lookups

variable {s env} {sessionId paneId i j : Uuid} {pane : Pane} {session : Session}

theorem session_eq_ok : s.session sessionId = .ok session ↔ s.sessions.find sessionId = some session := by
  simp only [DaemonState.session]
  split
  · rename_i h
    simp [h]
  · rename_i h
    simp [h]

theorem pane_eq_some : s.pane sessionId paneId = some pane ↔
    ∃ session, s.sessions.find sessionId = some session ∧ session.panes.find paneId = some pane :=
  Option.bind_eq_some_iff

theorem pane_of_find (h : s.sessions.find sessionId = some session) (paneId : Uuid) :
    s.pane sessionId paneId = session.panes.find paneId := by
  rw [DaemonState.pane, h, Option.bind_some]

theorem pane_id (h : s.pane sessionId paneId = some pane) : pane.id = paneId := by
  obtain ⟨session, _, found⟩ := pane_eq_some.1 h
  exact Table.key_of_find found

theorem find_isSome_of_pane (h : s.pane sessionId paneId = some pane) :
    (s.sessions.find sessionId).isSome := by
  obtain ⟨session, found, _⟩ := pane_eq_some.1 h
  rw [found, Option.isSome_some]

theorem paneInSession_eq_ok : s.paneInSession env sessionId paneId = .ok pane ↔
    s.pane sessionId paneId = some pane := by
  simp only [paneInSession, DaemonState.session]
  cases h : s.sessions.find sessionId with
  | none => simp [DaemonState.pane, h, Bind.bind, Except.bind]
  | some session =>
    rw [pane_of_find h]
    simp only [Bind.bind, Except.bind]
    cases session.panes.find paneId <;> simp

theorem paneInSessionMut_eq : s.paneInSessionMut env sessionId paneId = s.paneInSession env sessionId paneId := by
  simp only [paneInSessionMut, paneInSession, DaemonState.session]
  cases h : s.sessions.find sessionId with
  | none => simp [DaemonState.pane, h, Bind.bind, Except.bind]
  | some session =>
    rw [pane_of_find h]
    simp only [Bind.bind, Except.bind]

theorem paneInSessionMut_eq_ok : s.paneInSessionMut env sessionId paneId = .ok pane ↔
    s.pane sessionId paneId = some pane := by
  rw [paneInSessionMut_eq, paneInSession_eq_ok]

theorem findPane_eq_some {found : Uuid × Uuid} (h : s.findPane env paneId = some found) :
    ∃ pane, s.pane found.1 paneId = some pane ∧ found.2 = paneId := by
  obtain ⟨_, sessionId, _, _, here, _⟩ := List.findSome?_eq_some_iff.1 h
  split at here
  · rename_i exists_
    cases here
    exact ⟨_, Option.eq_some_iff_get_eq.2 ⟨exists_, rfl⟩, rfl⟩
  · cases here

theorem findPane_isSome (h : s.pane sessionId paneId = some pane) : (s.findPane env paneId).isSome := by
  rw [findPane, List.findSome?_isSome_iff]
  obtain ⟨session, found, _⟩ := pane_eq_some.1 h
  refine ⟨sessionId, (env.perm _).mem_iff.2 (List.mem_map.2 ⟨session, Table.mem_of_find found,
    Table.key_of_find found⟩), ?_⟩
  rw [h]
  rfl

theorem paneOutputGeneration_eq_some {generation : Nat} :
    s.paneOutputGeneration env paneId = some generation ↔ ∃ sessionId pane,
      s.findPane env paneId = some (sessionId, paneId) ∧ s.pane sessionId paneId = some pane ∧
        pane.outputGeneration = generation := by
  simp only [paneOutputGeneration, Option.bind_eq_bind, Option.bind_eq_some_iff, Option.pure_def,
    Option.some.injEq]
  constructor
  · rintro ⟨⟨sessionId, _⟩, found, pane, here, rfl⟩
    obtain ⟨_, _, rfl⟩ := findPane_eq_some found
    exact ⟨sessionId, pane, found, here, rfl⟩
  · rintro ⟨sessionId, pane, found, here, rfl⟩
    exact ⟨_, found, pane, here, rfl⟩

theorem paneAnyMut_eq (found : s.findPane env paneId = some (sessionId, paneId))
    (here : s.pane sessionId paneId = some pane) : s.paneAnyMut env paneId = .ok (sessionId, pane) := by
  simp only [paneAnyMut, found, here]

section Writes

variable {f : Session → Session} {hf : ∀ session, (f session).id = session.id}

theorem find_editSession : (s.editSession sessionId f hf).sessions.find =
    modify s.sessions.find sessionId f := Table.find_update_key _ _ _ hf

theorem pane_editSession : (s.editSession sessionId f hf).pane i j =
    if i = sessionId then (s.sessions.find i).bind fun session => (f session).panes.find j
    else s.pane i j := by
  rw [DaemonState.pane, find_editSession]
  split
  · rename_i here
    rw [here, modify_same, Option.bind_map]
    rfl
  · rename_i elsewhere
    rw [modify_of_ne elsewhere]
    rfl

theorem pane_editSession_of_panes (same : ∀ session, (f session).panes = session.panes) :
    (s.editSession sessionId f hf).pane = s.pane := by
  funext i j
  rw [pane_editSession]
  split
  · simp only [same]
    rfl
  · rfl

@[simp] theorem pane_countPanes : (s.countPanes sessionId).pane = s.pane :=
  pane_editSession_of_panes fun _ => rfl

theorem pane_putPane : (s.putPane sessionId pane).pane i j =
    if i = sessionId ∧ j = pane.id then (s.sessions.find i).map fun _ => pane else s.pane i j := by
  rw [putPane, pane_editSession, DaemonState.pane]
  by_cases hi : i = sessionId
  · rw [if_pos hi]
    cases s.sessions.find i with
    | none => simp
    | some session =>
      rw [Option.bind_some, Option.bind_some, Table.find_put, Function.update_apply]
      by_cases hj : j = pane.id <;> simp [hi, hj]
  · rw [if_neg hi, if_neg fun here => hi here.1]

theorem pane_dropPane : (s.dropPane sessionId paneId).pane i j =
    if i = sessionId ∧ j = paneId then none else s.pane i j := by
  rw [dropPane, pane_editSession, DaemonState.pane]
  by_cases hi : i = sessionId
  · rw [if_pos hi]
    cases s.sessions.find i with
    | none => simp
    | some session =>
      rw [Option.bind_some, Option.bind_some, Table.find_erase, Function.update_apply]
      by_cases hj : j = paneId <;> simp [hi, hj]
  · rw [if_neg hi, if_neg fun here => hi here.1]

end Writes

end Lookups

end DaemonState

end VibeLink.Daemon
