import VibeLink.Agents.Commands
import VibeLink.Lexing.Lines
import VibeLink.Lexing.Toml

/-! The tables in Codex's `config.toml` by which hooks are trusted, and the taking out of VibeLink's
(`remove_codex_trust_blocks` in `app/agent_hooks.rs`). -/

namespace VibeLink.Agents

open Coordinator (isWhiteSpace)
open Lexing (lines newline joined ended)
open Lexing.Toml (Line linesFrom)

def trim (text : Text) : Text := ((text.dropWhile isWhiteSpace).reverse.dropWhile isWhiteSpace).reverse

def escapeTomlBasic (value : Text) : Text := replaceChar '"' "\\\"".toList (replaceChar '\\' "\\\\".toList value)

def codexTrustMarker : Text := "# Managed by VibeLink agent completion hooks".toList

def trustTable : Text := "[hooks.state.".toList

def tomlTrustHeaderMatches (header key : Text) : Bool :=
  header = trustTable ++ '\'' :: key ++ "']".toList || header = trustTable ++ '"' :: escapeTomlBasic key ++ "\"]".toList

def looksLikeHeader (trimmed : Text) : Bool := trimmed.head? = some '[' && trimmed.getLast? = some ']'

/-- A pass over the lines: whether it is in a table to take out, and the lines that it has left. -/
structure Pass (α : Type) where
  inside : Bool
  output : List α

section Sweeping

variable {α : Type} (text : α → Text) (keys : List Text)

def popMarker (output : List α) : List α :=
  match output.getLast? with
  | some line => if trim (text line) = codexTrustMarker then output.dropLast else output
  | none => output

def headerMatches (line : α) : Bool := keys.any (tomlTrustHeaderMatches (trim (text line)))

/-- A line in the loop of `remove_codex_trust_blocks`. -/
def sweep (pass : Pass α) (line : α) : Pass α :=
  if pass.inside && !looksLikeHeader (trim (text line)) then pass
  else if headerMatches text keys line then ⟨true, popMarker text pass.output⟩
  else ⟨false, pass.output ++ [line]⟩

def swept (lines : List α) : List α := (lines.foldl (sweep text keys) ⟨false, []⟩).output

end Sweeping

def written (newline : Text) (closed : Bool) (output : List Text) : Text :=
  let result := joined newline output
  if closed && !ended result then result ++ newline else result

def removeCodexTrustBlocks (text : Text) (keys : List Text) : Text :=
  if keys.isEmpty then text else written (newline text) (ended text) (swept id keys (lines text))

/-! ### What is to be taken out -/

def tomlLines (text : Text) : List Line := linesFrom 0 (.plain 0) (lines text)

def namesTrust (keys : List Text) (name : Option (List Text)) : Bool :=
  keys.any fun key => name = some ["hooks".toList, "state".toList, key]

section Tables

variable (keys : List Text)

/-- The tables of the keys go, each with all its lines and with a marker directly before it; everything else stays. -/
def passOver (pass : Pass Line) (line : Line) : Pass Line :=
  match line.kind with
  | .header name =>
    if namesTrust keys name then ⟨true, if pass.inside then pass.output else popMarker Line.text pass.output⟩
    else ⟨false, pass.output ++ [line]⟩
  | .inner => if pass.inside then pass else ⟨false, pass.output ++ [line]⟩

def passed (lines : List Line) : Pass Line := lines.foldl (passOver keys) ⟨false, []⟩

def foreignLines (text : Text) : List Line := (passed keys (tomlLines text)).output

/-- Nothing but the tables goes, and what is left has nothing more to take out. -/
structure RemovesExactly (text : Text) : Prop where
  exactly : swept Line.text keys (tomlLines text) = foreignLines keys text
  lines : (lines (removeCodexTrustBlocks text keys)).filter (fun line => !line.isEmpty) =
    ((foreignLines keys text).map Line.text).filter fun line => !line.isEmpty
  again : removeCodexTrustBlocks (removeCodexTrustBlocks text keys) keys = removeCodexTrustBlocks text keys

/-- A line that is as it is read: a header of a key is written in one of the two ways, another header after a table to
take out has nothing after its bracket, and no line of a value passes for a header. -/
def Recognised (pass : Pass Line) (line : Line) : Prop :=
  let ends := looksLikeHeader (trim line.text) = true
  let matched := headerMatches Line.text keys line = true
  let again := matched ∧ popMarker Line.text pass.output = pass.output
  match line.kind with
  | .header name =>
    if namesTrust keys name then (if pass.inside then ends → again else matched)
    else ¬matched ∧ (pass.inside → ends)
  | .inner => if pass.inside then ends → again else ¬matched

/-- All lines are recognised, and what is left does not end in two empty lines after another one. -/
structure Removable (text : Text) : Prop where
  recognised : ∀ before line after, tomlLines text = before ++ line :: after → Recognised keys (passed keys before) line
  ending : keys = [] ∨ ¬∃ front, front ≠ [] ∧ (foreignLines keys text).map Line.text = front ++ [[], []]

end Tables

/-! ### The header that is written -/

end VibeLink.Agents
