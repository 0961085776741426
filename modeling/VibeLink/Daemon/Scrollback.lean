import Mathlib.Data.List.Basic

/-! The scrollback of a pane: the raw bytes since its last clear (`daemon/scrollback.rs`). -/

namespace VibeLink.Daemon

abbrev Bytes := List UInt8

/-- `CLEAR_SEQUENCES` -/
def clearSequences : List Bytes :=
  [[0x1b, 0x5b, 0x32, 0x4a],                                            -- ESC [2J
   [0x1b, 0x5b, 0x33, 0x4a],                                            -- ESC [3J
   [0x1b, 0x63],                                                        -- ESC c
   [0x1b, 0x5b, 0x48, 0x1b, 0x5b, 0x4a],                                -- ESC [H ESC [J
   [0x1b, 0x5b, 0x48, 0x1b, 0x5b, 0x30, 0x4a],                          -- ESC [H ESC [0J
   [0x1b, 0x5b, 0x31, 0x3b, 0x31, 0x48, 0x1b, 0x5b, 0x4a],              -- ESC [1;1H ESC [J
   [0x1b, 0x5b, 0x31, 0x3b, 0x31, 0x48, 0x1b, 0x5b, 0x30, 0x4a],        -- ESC [1;1H ESC [0J
   [0x1b, 0x5b, 0x66, 0x1b, 0x5b, 0x4a],                                -- ESC [f ESC [J
   [0x1b, 0x5b, 0x66, 0x1b, 0x5b, 0x30, 0x4a]]                          -- ESC [f ESC [0J

structure ScrollbackRing where
  buf : Bytes
  cap : Nat
  pendingClearPrefix : Bytes
  protectedPrefixLen : Nat
  rebased : Bool
  deriving DecidableEq

def findSubslice (haystack needle : Bytes) : Option Nat :=
  if needle = [] ∨ haystack.length < needle.length then none
  else (List.range (haystack.length - needle.length + 1)).reverse.find? fun i =>
    (haystack.drop i).take needle.length = needle

/-- Of the last occurrences of the clear sequences, the one that ends last. -/
def findLastClearSpan (bytes : Bytes) : Option (Nat × Nat) :=
  if ¬bytes.contains 0x1b then none
  else clearSequences.foldl (fun clearSpan sequence =>
    match findSubslice bytes sequence with
    | none => clearSpan
    | some pos =>
      let last := pos + sequence.length
      if clearSpan.all fun span => span.2 < last then some (pos, last) else clearSpan) none

/-- Each round moves `start` to the left, so that it is itself fuel enough. -/
def includeAdjacentFrom (bytes : Bytes) : Nat → Nat → Nat
  | 0, start => start
  | fuel + 1, start =>
    match clearSequences.find? fun sequence => sequence.length ≤ start ∧
      (bytes.drop (start - sequence.length)).take sequence.length = sequence with
    | none => start
    | some sequence => includeAdjacentFrom bytes fuel (start - sequence.length)

def includeAdjacentClearPrefix (bytes : Bytes) (start : Nat) : Nat :=
  includeAdjacentFrom bytes start start

def isParam (byte : UInt8) : Bool := 0x30 ≤ byte ∧ byte ≤ 0x3f

def isIntermediate (byte : UInt8) : Bool := 0x20 ≤ byte ∧ byte ≤ 0x2f

def isFinal (byte : UInt8) : Bool := 0x40 ≤ byte ∧ byte ≤ 0x7e

/-- The body of a string sequence up to BEL or ESC \, its terminator, and what follows. -/
def splitString : Bytes → Option (Bytes × Bytes × Bytes)
  | [] => none
  | 0x07 :: rest => some ([], [0x07], rest)
  | 0x1b :: 0x5c :: rest => some ([], [0x1b, 0x5c], rest)
  | byte :: rest => (splitString rest).map fun (body, terminator, rest) => (byte :: body, terminator, rest)

/-- Mode toggles, kitty keyboard state and cursor style outlive a clear. -/
def isStateCsi (firstParam : Option UInt8) (intermediates : Bytes) (finalByte : UInt8) : Bool :=
  let modeToggle := (finalByte = 0x68 ∨ finalByte = 0x6c) ∧ intermediates = []
  let kittyState := finalByte = 0x75 ∧ intermediates = [] ∧
    (firstParam = some 0x3e ∨ firstParam = some 0x3c ∨ firstParam = some 0x3d)
  let cursorStyle := finalByte = 0x71 ∧ intermediates = [0x20]
  modeToggle ∨ kittyState ∨ cursorStyle

/-- The sequences to preserve in their order, and apart from them the last title.  Every round
consumes a byte, so that the length is fuel enough. -/
def stateSequencesFrom : Nat → Bytes → List Bytes × Option Bytes
  | 0, _ | _, [] => ([], none)
  | fuel + 1, byte :: rest =>
    if byte ≠ 0x1b then stateSequencesFrom fuel rest
    else match rest with
      | 0x5b :: rest =>
        let params := rest.takeWhile isParam
        let intermediates := (rest.dropWhile isParam).takeWhile isIntermediate
        match (rest.dropWhile isParam).dropWhile isIntermediate with
        | [] => ([], none)
        | finalByte :: after =>
          if ¬isFinal finalByte then stateSequencesFrom fuel rest
          else
            let (preserved, title) := stateSequencesFrom fuel after
            if isStateCsi rest.head? intermediates finalByte then
              ((0x1b :: 0x5b :: params ++ intermediates ++ [finalByte]) :: preserved, title)
            else (preserved, title)
      | 0x3d :: after =>
        let (preserved, title) := stateSequencesFrom fuel after
        ([0x1b, 0x3d] :: preserved, title)
      | 0x3e :: after =>
        let (preserved, title) := stateSequencesFrom fuel after
        ([0x1b, 0x3e] :: preserved, title)
      | 0x28 :: after =>
        let (preserved, title) := stateSequencesFrom fuel (after.drop 1)
        ((after.take 1).map (fun charset => [0x1b, 0x28, charset]) ++ preserved, title)
      | 0x29 :: after =>
        let (preserved, title) := stateSequencesFrom fuel (after.drop 1)
        ((after.take 1).map (fun charset => [0x1b, 0x29, charset]) ++ preserved, title)
      | 0x5d :: rest =>
        match splitString rest with
        | none => ([], none)
        | some (body, terminator, after) =>
          let (preserved, title) := stateSequencesFrom fuel after
          let isTitle := (rest[0]? = some 0x30 ∨ rest[0]? = some 0x32) ∧ rest[1]? = some 0x3b
          (preserved, title.or
            (if isTitle then some (0x1b :: 0x5d :: body ++ terminator) else none))
      | rest => stateSequencesFrom fuel (rest.drop 1)

def terminalStateSequences (bytes : Bytes) : List Bytes :=
  let (preserved, title) := stateSequencesFrom bytes.length bytes
  preserved ++ title.toList

/-- The longest end of the bytes, up to one byte less than the longest clear sequence, with which
a clear sequence begins. -/
def trailingClearPrefix (bytes : Bytes) : Bytes :=
  let maxLen := min ((clearSequences.map fun sequence => sequence.length - 1).foldl max 0) bytes.length
  let suffixes := (List.range maxLen).reverse.map fun len => bytes.drop (bytes.length - (len + 1))
  (suffixes.find? fun suffix => clearSequences.any suffix.isPrefixOf).getD []

namespace ScrollbackRing

def new (cap : Nat) : ScrollbackRing := ⟨[], cap, [], 0, false⟩

def clear (ring : ScrollbackRing) : ScrollbackRing :=
  { ring with buf := [], pendingClearPrefix := [], protectedPrefixLen := 0 }

def clearLiveOutput (ring : ScrollbackRing) : ScrollbackRing :=
  { ring with buf := ring.buf.take ring.protectedPrefixLen, pendingClearPrefix := [] }

/-- `extend`, and the drain of what no longer fits. -/
def store (ring : ScrollbackRing) (bytes pending : Bytes) : ScrollbackRing :=
  let buf := ring.buf ++ bytes
  let overflow := buf.length - ring.cap
  { ring with
    buf := buf.drop overflow
    pendingClearPrefix := pending
    protectedPrefixLen := ring.protectedPrefixLen - overflow }

def push (ring : ScrollbackRing) (bytes : Bytes) : Bool × ScrollbackRing :=
  let detectionBytes := ring.pendingClearPrefix ++ bytes
  let pending := trailingClearPrefix detectionBytes
  match findLastClearSpan detectionBytes with
  | some (start, last) =>
    let discarded := ring.buf.drop ring.protectedPrefixLen ++ detectionBytes.take start
    let preservedState := (terminalStateSequences discarded).flatten
    let bytesToStore :=
      if 0 < ring.protectedPrefixLen then detectionBytes.drop last
      else detectionBytes.drop (includeAdjacentClearPrefix detectionBytes start)
    (true, ring.clearLiveOutput.store (preservedState ++ bytesToStore) pending)
  | none => (false, ring.store bytes pending)

def seedProtected (ring : ScrollbackRing) (bytes : Bytes) : ScrollbackRing :=
  let ring := (ring.clear.push bytes).2
  { ring with protectedPrefixLen := ring.buf.length }

def rebase (ring : ScrollbackRing) (snapshot : Bytes) : ScrollbackRing :=
  { (ring.clear.push snapshot).2 with rebased := true }

def takeRebased (ring : ScrollbackRing) : Bool × ScrollbackRing :=
  (ring.rebased, { ring with rebased := false })

def snapshot (ring : ScrollbackRing) : Bytes := ring.buf

end ScrollbackRing

end VibeLink.Daemon
