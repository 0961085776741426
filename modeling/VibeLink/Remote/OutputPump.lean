import VibeLink.Relational.Outcome
import VibeLink.Remote.AckWindow
import VibeLink.Remote.BinaryFrames
import Mathlib.Algebra.Order.Ring.Nat

/-! How the output of panes reaches a client of protocol version 2 (`remote/bridge.rs`). -/

namespace VibeLink.Remote.Bridge

open Relational Tx

abbrev Uuid := BitVec 128

end VibeLink.Remote.Bridge
