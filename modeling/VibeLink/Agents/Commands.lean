import VibeLink.Lexing.Finding
import VibeLink.Binary.Unicode
import VibeLink.Coordinator.Store
import Mathlib.Data.List.TakeWhile

/-! The commands that run VibeLink's scripts, and by which they are known again (`app/agent_hooks.rs`). -/

namespace VibeLink.Agents

open Lexing (indexOf)
open Coordinator (isWhiteSpace)

abbrev Text := List Char

/-- `replace` of a character. -/
def replaceChar (old : Char) (new text : Text) : Text := text.flatMap fun c => if c = old then new else [c]

/-! ### Specifications -/

/-! ### What is found again -/

end VibeLink.Agents
