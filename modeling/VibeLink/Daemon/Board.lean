import VibeLink.Relational.Runs
import VibeLink.Daemon.Protocol
import Mathlib.Logic.Function.Basic

/-! What leases are about: the sizes and generations of the panes, who holds which pane until when,
and the moves that change either. -/

namespace VibeLink.Daemon

open VibeLink.Relational

structure Slot where
  generation : Nat
  sequence : Nat
  cols : UInt16
  rows : UInt16
  deriving DecidableEq

structure Board where
  panes : Uuid → Uuid → Option Slot
  leases : Uuid → Option RemotePaneLease
  nextGeneration : Nat

inductive Move
  | spawn (sessionId paneId : Uuid) (cols rows : UInt16)
  | drop (kept : Uuid → Uuid → Bool)
  | output (sessionId paneId : Uuid)
  | resize (sessionId paneId : Uuid) (cols rows : UInt16)
  /-- A new lease, and the pane gets its target size. -/
  | claim (lease : RemotePaneLease)
  /-- The lease changes its target, and the pane its size with it. -/
  | update (lease : RemotePaneLease)
  | renew (lease : RemotePaneLease)
  /-- The lease ends, and the pane gets its size back or not. -/
  | finish (lease : RemotePaneLease) (restored : Bool)

namespace Board

variable (b : Board) {sessionId paneId i j : Uuid} {cols rows : UInt16} {lease : RemotePaneLease}

def edit (sessionId paneId : Uuid) (f : Slot → Slot) : Board :=
  { b with panes := fun i j => if i = sessionId ∧ j = paneId then (b.panes i j).map f else b.panes i j }

def setSize (sessionId paneId : Uuid) (cols rows : UInt16) : Board :=
  b.edit sessionId paneId fun slot => { slot with cols, rows }

def hold (lease : RemotePaneLease) : Board :=
  { b with leases := Function.update b.leases lease.paneId (some lease) }

def release (paneId : Uuid) : Board := { b with leases := Function.update b.leases paneId none }

def move : Move → Board
  | .spawn sessionId paneId cols rows =>
    { b with
      panes := fun i j =>
        if i = sessionId ∧ j = paneId then some ⟨b.nextGeneration, 0, cols, rows⟩ else b.panes i j
      nextGeneration := b.nextGeneration + 1 }
  | .drop kept => { b with panes := fun i j => if kept i j then b.panes i j else none }
  | .output sessionId paneId => b.edit sessionId paneId fun slot =>
    { slot with sequence := saturatingAdd slot.sequence 1 }
  | .resize sessionId paneId cols rows => b.setSize sessionId paneId cols rows
  | .claim lease | .update lease =>
    (b.setSize lease.sessionId lease.paneId lease.targetCols lease.targetRows).hold lease
  | .renew lease => b.hold lease
  | .finish lease restored =>
    (if restored then b.setSize lease.sessionId lease.paneId lease.originalCols lease.originalRows
      else b).release lease.paneId

@[simp] theorem leases_edit (f : Slot → Slot) : (b.edit sessionId paneId f).leases = b.leases := rfl

@[simp] theorem nextGeneration_edit (f : Slot → Slot) :
    (b.edit sessionId paneId f).nextGeneration = b.nextGeneration := rfl

@[simp] theorem leases_setSize : (b.setSize sessionId paneId cols rows).leases = b.leases := rfl

@[simp] theorem nextGeneration_setSize :
    (b.setSize sessionId paneId cols rows).nextGeneration = b.nextGeneration := rfl

@[simp] theorem panes_hold : (b.hold lease).panes = b.panes := rfl

@[simp] theorem nextGeneration_hold : (b.hold lease).nextGeneration = b.nextGeneration := rfl

@[simp] theorem leases_hold : (b.hold lease).leases = Function.update b.leases lease.paneId (some lease) := rfl

@[simp] theorem panes_release : (b.release paneId).panes = b.panes := rfl

@[simp] theorem nextGeneration_release : (b.release paneId).nextGeneration = b.nextGeneration := rfl

@[simp] theorem leases_release : (b.release paneId).leases = Function.update b.leases paneId none := rfl

@[simp] theorem leases_finish {restored : Bool} : (b.move (.finish lease restored)).leases =
    Function.update b.leases lease.paneId none := by
  rw [move, leases_release]
  split <;> rfl

variable {b}

theorem leases_finish_eq_some {restored : Bool} {p : Uuid} {other : RemotePaneLease} :
    (b.move (.finish lease restored)).leases p = some other ↔
      p ≠ lease.paneId ∧ b.leases p = some other := by
  rw [leases_finish, Function.update_apply]
  split <;> simp [*]

theorem panes_edit_eq_some {f : Slot → Slot} {slot : Slot} :
    (b.edit sessionId paneId f).panes i j = some slot ↔
      ∃ old, b.panes i j = some old ∧ slot = if i = sessionId ∧ j = paneId then f old else old := by
  simp only [edit]
  split
  · rw [Option.map_eq_some_iff]
    simp only [eq_comm]
  · simp

theorem setSize_self {slot : Slot} (h : b.panes sessionId paneId = some slot) (hcols : slot.cols = cols)
    (hrows : slot.rows = rows) : b.setSize sessionId paneId cols rows = b := by
  subst hcols hrows
  simp only [setSize, edit]
  congr 1
  funext i j
  split
  · rename_i here
    obtain ⟨rfl, rfl⟩ := here
    simp [h]
  · rfl

end Board

end VibeLink.Daemon
