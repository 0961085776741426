import VibeLink.Daemon.Scrollback

/-! How the frontend reads what a pane has put out (`terminal/clearSequences.ts`).  An array gives
`undefined` behind its end, and `subarray` is `List.extract`. -/

namespace VibeLink.Terminal

open VibeLink.Daemon (Bytes isParam isIntermediate isFinal)

/-- `CLEAR_SEQUENCES` -/
def clearSequences : List Bytes :=
  [[0x1b, 0x5b, 0x32, 0x4a],                                            -- ESC [2J
   [0x1b, 0x5b, 0x33, 0x4a],                                            -- ESC [3J
   [0x1b, 0x63],                                                        -- ESC c
   [0x1b, 0x5b, 0x48, 0x1b, 0x5b, 0x4a],                                -- ESC [H ESC [J
   [0x1b, 0x5b, 0x48, 0x1b, 0x5b, 0x30, 0x4a],                          -- ESC [H ESC [0J
   [0x1b, 0x5b, 0x31, 0x3b, 0x31, 0x48, 0x1b, 0x5b, 0x4a],              -- ESC [1;1H ESC [J
   [0x1b, 0x5b, 0x31, 0x3b, 0x31, 0x48, 0x1b, 0x5b, 0x30, 0x4a],        -- ESC [1;1H ESC [0J
   [0x1b, 0x5b, 0x66, 0x1b, 0x5b, 0x4a],                                -- ESC [f ESC [J
   [0x1b, 0x5b, 0x66, 0x1b, 0x5b, 0x30, 0x4a]]                          -- ESC [f ESC [0J

def csiClearSequences : List Bytes := clearSequences.filter fun sequence => sequence[1]? = some 0x5b

def nonCsiClearSequences : List Bytes := clearSequences.filter fun sequence => sequence[1]? ≠ some 0x5b

def bytesMatch (haystack : Bytes) (offset : Nat) (needle : Bytes) : Bool :=
  (List.range needle.length).all fun i => haystack[offset + i]? = needle[i]?

/-- Where `indexOf(0x1b, index + 1)` comes to, one after another. -/
def escapes (bytes : Bytes) : List Nat :=
  (List.range bytes.length).filter fun index => bytes[index]? = some 0x1b

/-- A forward pass over the escapes, each with the sequences that the byte behind it allows. -/
def findLastClearSpan (bytes : Bytes) : Option (Nat × Nat) :=
  (escapes bytes).foldl (fun span index =>
    (if bytes[index + 1]? = some 0x5b then csiClearSequences else nonCsiClearSequences).foldl
      (fun span sequence =>
        let candidateEnd := index + sequence.length
        if (span.all fun span => span.2 < candidateEnd) ∧ bytesMatch bytes index sequence then
          some (index, candidateEnd)
        else span) span) none

def includeAdjacentFrom (bytes : Bytes) : Nat → Nat → Nat
  | 0, nextStart => nextStart
  | fuel + 1, nextStart =>
    match clearSequences.find? fun candidate => candidate.length ≤ nextStart ∧
      bytesMatch bytes (nextStart - candidate.length) candidate with
    | none => nextStart
    | some sequence => includeAdjacentFrom bytes fuel (nextStart - sequence.length)

/-- Each round moves `nextStart` to the left. -/
def includeAdjacentClearPrefix (bytes : Bytes) (start : Nat) : Nat :=
  includeAdjacentFrom bytes start start

/-- `while (cursor < end && p(cursor)) cursor += 1`, with as many left as there are up to the end. -/
def advance (p : Nat → Bool) : Nat → Nat → Nat
  | 0, cursor => cursor
  | left + 1, cursor => if p cursor then advance p left (cursor + 1) else cursor

/-- Where the parameters of a control sequence end, and where its intermediate bytes do. -/
def csiEnds (bytes : Bytes) (last paramsStart : Nat) : Nat × Nat :=
  let paramsEnd := advance (fun cursor => bytes[cursor]?.any isParam) (last - paramsStart) paramsStart
  (paramsEnd, advance (fun cursor => bytes[cursor]?.any isIntermediate) (last - paramsEnd) paramsEnd)

def isTerminator (bytes : Bytes) (cursor : Nat) : Bool :=
  bytes[cursor]? = some 0x07 ∨ bytes[cursor]? = some 0x1b ∧ bytes[cursor + 1]? = some 0x5c

def stringEnd (bytes : Bytes) (last payloadStart : Nat) : Nat :=
  advance (fun cursor => ¬isTerminator bytes cursor) (last - payloadStart) payloadStart

def terminatorLength (bytes : Bytes) (cursor : Nat) : Nat :=
  if bytes[cursor]? = some 0x07 then 1 else 2

/-- What a round of the scan for state finds, and where the next one begins. -/
structure StateRound where
  index : Nat
  preserved : Option Bytes
  title : Option Bytes
  deriving DecidableEq

def stateRound (bytes : Bytes) (last index : Nat) : StateRound :=
  if bytes[index]? ≠ some 0x1b then ⟨index + 1, none, none⟩
  else match bytes[index + 1]? with
    | some 0x5b =>
      let paramsStart := index + 2
      let (paramsEnd, cursor) := csiEnds bytes last paramsStart
      let final := bytes[cursor]?
      if last ≤ cursor ∨ ¬final.any isFinal then ⟨index + 2, none, none⟩
      else
        let intermediateCount := cursor - paramsEnd
        let firstParam := bytes[paramsStart]?
        let isModeToggle := (final = some 0x68 ∨ final = some 0x6c) ∧ intermediateCount = 0
        let isKittyState := final = some 0x75 ∧ intermediateCount = 0 ∧
          (firstParam = some 0x3e ∨ firstParam = some 0x3c ∨ firstParam = some 0x3d)
        let isCursorStyle := final = some 0x71 ∧ intermediateCount = 1 ∧ bytes[paramsEnd]? = some 0x20
        ⟨cursor + 1, if isModeToggle ∨ isKittyState ∨ isCursorStyle then
          some (bytes.extract index (cursor + 1)) else none, none⟩
    | some 0x3d | some 0x3e => ⟨index + 2, some (bytes.extract index (index + 2)), none⟩
    | some 0x28 | some 0x29 =>
      ⟨index + 3, if index + 2 < last then some (bytes.extract index (index + 3)) else none, none⟩
    | some 0x5d =>
      let cursor := stringEnd bytes last (index + 2)
      if last ≤ cursor then ⟨last, none, none⟩
      else
        let behind := cursor + terminatorLength bytes cursor
        let code := bytes[index + 2]?
        ⟨behind, none, if (code = some 0x30 ∨ code = some 0x32) ∧ bytes[index + 3]? = some 0x3b then
          some (bytes.extract index behind) else none⟩
    | _ => ⟨index + 2, none, none⟩

/-- `while (index < end)`, with what is preserved and the last title from here on. -/
def terminalStateSequencesFrom (bytes : Bytes) (last : Nat) : Nat → Nat → List Bytes × Option Bytes
  | 0, _ => ([], none)
  | fuel + 1, index =>
    if last ≤ index then ([], none)
    else
      let round := stateRound bytes last index
      let (preserved, lastTitle) := terminalStateSequencesFrom bytes last fuel round.index
      (round.preserved.toList ++ preserved, lastTitle.or round.title)

/-- Every round moves on, so that there are no more of them than bytes. -/
def terminalStateSequencesIn (bytes : Bytes) (last : Nat) : List Bytes :=
  let (preserved, lastTitle) := terminalStateSequencesFrom bytes last last 0
  preserved ++ lastTitle.toList

end VibeLink.Terminal
