import Mathlib.Data.List.Basic
import Mathlib.Tactic.Common

/-! What remains of an agent's output without its control sequences (`src/terminal/agentActivity.ts`), over code units. -/

namespace VibeLink.Terminal.AgentActivity

structure OutputParseState where
  inOsc : Bool
  inCsi : Bool
  pendingEsc : Bool

structure StrippedOutput where
  text : List UInt16
  bell : Bool

/-- A reading, with the state after it. -/
structure Reading where
  output : StrippedOutput
  state : OutputParseState

def Reading.nothing (state : OutputParseState) : Reading := ⟨⟨[], false⟩, state⟩

/-- `out += …` before what follows -/
def Reading.put (collect : Bool) (unit : UInt16) (rest : Reading) : Reading :=
  if collect then { rest with output.text := unit :: rest.output.text } else rest

def Reading.ring (rest : Reading) : Reading := { rest with output.bell := true }

def Reading.append (first second : Reading) : Reading :=
  ⟨⟨first.output.text ++ second.output.text, first.output.bell || second.output.bell⟩, second.state⟩

def Reading.silent (reading : Reading) : Reading := { reading with output.text := [] }

/-- A control character that is not the bell, a tab or the end of a line. -/
def isControl (code : UInt16) : Bool :=
  code ≤ 0x08 || code == 0x0b || code == 0x0c || (0x0e ≤ code && code ≤ 0x1f) || code == 0x7f

/-- The loop of `stripTerminalControls`, from some index on. -/
def strip (collect : Bool) (state : OutputParseState) : List UInt16 → Reading
  | [] => .nothing state
  | code :: rest =>
    if state.inOsc then
      if code = 0x07 then strip collect { state with inOsc := false } rest
      else if code = 0x1b then
        match rest with
        | [] => .nothing { state with pendingEsc := true }
        | next :: after =>
          if next = 0x5c then strip collect { state with inOsc := false } after
          else strip collect state (next :: after)
      else strip collect state rest
    else if state.inCsi then
      if 0x40 ≤ code ∧ code ≤ 0x7e then (strip collect { state with inCsi := false } rest).put collect 0x20
      else strip collect state rest
    else if code = 0x1b then
      match rest with
      | [] => .nothing { state with pendingEsc := true }
      | next :: after =>
        if next = 0x5d then strip collect { state with inOsc := true } after
        else if next = 0x5b then strip collect { state with inCsi := true } after
        else (strip collect state after).put collect 0x20
    else if code = 0x07 then ((strip collect state rest).put collect 0x20).ring
    else if isControl code then (strip collect state rest).put collect 0x20
    else (strip collect state rest).put collect code

def stripIntroduced (collect : Bool) (state : OutputParseState) (introducer : UInt16) (rest : List UInt16) : Reading :=
  if state.inOsc then
    if introducer = 0x5c then strip collect { state with inOsc := false } rest
    else strip collect state (introducer :: rest)
  else if introducer = 0x5d then strip collect { state with inOsc := true } rest
  else if introducer = 0x5b then strip collect { state with inCsi := true } rest
  else (strip collect state rest).put collect 0x20

def stripTerminalControls (text : List UInt16) (state : OutputParseState) (collect : Bool) : Reading :=
  match state.pendingEsc, text with
  | true, introducer :: rest => stripIntroduced collect { state with pendingEsc := false } introducer rest
  | _, text => strip collect state text

structure Chunk where
  text : List UInt16
  collect : Bool

def stripChunks : List Chunk → OutputParseState → Reading
  | [], state => .nothing state
  | chunk :: rest, state =>
    let reading := stripTerminalControls chunk.text state chunk.collect
    reading.append (stripChunks rest reading.state)

/-! ### A text read in two parts -/

section Reading

variable (first second : Reading) (state : OutputParseState) (collect : Bool) (unit : UInt16)

@[simp] theorem Reading.nothing_append : (nothing state).append second = second := rfl

@[simp] theorem Reading.put_false : first.put false unit = first := rfl

@[simp] theorem Reading.put_append : (first.put collect unit).append second = (first.append second).put collect unit := by
  cases collect with
  | false => rfl
  | true => rfl

@[simp] theorem Reading.ring_append : first.ring.append second = (first.append second).ring := by
  simp [ring, append]

@[simp] theorem Reading.put_state : (first.put collect unit).state = first.state := by
  cases collect with
  | false => rfl
  | true => rfl

@[simp] theorem Reading.ring_state : first.ring.state = first.state := rfl

@[simp] theorem Reading.silent_nothing : (nothing state).silent = nothing state := rfl

@[simp] theorem Reading.silent_put : (first.put collect unit).silent = first.silent := by
  cases collect with
  | false => rfl
  | true => rfl

@[simp] theorem Reading.silent_ring : first.ring.silent = first.silent.ring := rfl

@[simp] theorem Reading.silent_append : (first.append second).silent = first.silent.append second.silent := rfl

end Reading

theorem stripTerminalControls_resolved {state : OutputParseState} (resolved : state.pendingEsc = false) (collect : Bool)
    (text : List UInt16) : stripTerminalControls text state collect = strip collect state text := by
  unfold stripTerminalControls
  rw [resolved]

theorem strip_escape {state : OutputParseState} (resolved : state.pendingEsc = false) (outside : state.inOsc ∨ ¬state.inCsi)
    (collect : Bool) (rest : List UInt16) :
    strip collect state (0x1b :: rest) = stripTerminalControls rest { state with pendingEsc := true } collect := by
  cases state with | mk inOsc inCsi pendingEsc =>
  cases resolved
  cases rest with
  | nil =>
    cases inOsc with
    | true => rfl
    | false =>
      cases inCsi with
      | true => exact absurd outside (by decide)
      | false => rfl
  | cons next after =>
    cases inOsc with
    | true => rfl
    | false =>
      cases inCsi with
      | true => exact absurd outside (by decide)
      | false => rfl

theorem strip_append {state : OutputParseState} (resolved : state.pendingEsc = false) (collect : Bool) (text rest : List UInt16) :
    strip collect state (text ++ rest) =
      (strip collect state text).append (stripTerminalControls rest (strip collect state text).state collect) := by
  fun_induction strip collect state text with
  | case1 state => exact (stripTerminalControls_resolved resolved collect rest).symm
  | case3 state inOsc _ => exact strip_escape resolved (.inl inOsc) collect rest
  | case9 state outside inCsi => exact strip_escape resolved (.inr inCsi) collect rest
  | case2 _ _ _ ih | case4 _ _ _ _ ih | case5 _ _ _ _ _ _ ih | case6 _ _ _ _ _ _ ih | case7 _ _ _ _ _ _ ih | case8 _ _ _ _ _ _ ih
  | case10 _ _ _ _ ih | case11 _ _ _ _ _ ih | case12 _ _ _ _ _ _ _ ih | case13 _ _ _ _ _ ih | case14 _ _ _ _ _ _ _ _ ih
  | case15 _ _ _ _ _ _ _ _ ih =>
    simp only [Reading.put_append, Reading.put_state, Reading.ring_append, Reading.ring_state, ← ih resolved, List.cons_append]
    conv_lhs => rw [strip.eq_def]
    simp [*]

theorem stripIntroduced_append {state : OutputParseState} (resolved : state.pendingEsc = false) (collect : Bool)
    (introducer : UInt16) (text rest : List UInt16) :
    stripIntroduced collect state introducer (text ++ rest) = (stripIntroduced collect state introducer text).append
      (stripTerminalControls rest (stripIntroduced collect state introducer text).state collect) := by
  unfold stripIntroduced
  split
  · split
    · refine strip_append ?_ collect text rest
      exact resolved
    · exact strip_append resolved collect (introducer :: text) rest
  · split
    · refine strip_append ?_ collect text rest
      exact resolved
    · split
      · refine strip_append ?_ collect text rest
        exact resolved
      · rw [Reading.put_append, Reading.put_state, strip_append resolved]

theorem stripTerminalControls_nil (state : OutputParseState) (collect : Bool) :
    stripTerminalControls [] state collect = .nothing state := by
  unfold stripTerminalControls
  cases state.pendingEsc with
  | false => rfl
  | true => rfl

theorem stripTerminalControls_append (state : OutputParseState) (collect : Bool) (text rest : List UInt16) :
    stripTerminalControls (text ++ rest) state collect =
      (stripTerminalControls text state collect).append
        (stripTerminalControls rest (stripTerminalControls text state collect).state collect) := by
  cases pending : state.pendingEsc with
  | false =>
    rw [stripTerminalControls_resolved pending, stripTerminalControls_resolved pending]
    exact strip_append pending collect text rest
  | true =>
    cases text with
    | nil =>
      rw [stripTerminalControls_nil]
      rfl
    | cons introducer after =>
      have introduced (text : List UInt16) : stripTerminalControls (introducer :: text) state collect =
          stripIntroduced collect { state with pendingEsc := false } introducer text := by
        unfold stripTerminalControls
        rw [pending]
      rw [List.cons_append, introduced, introduced]
      exact stripIntroduced_append rfl collect introducer after rest

/-! ### Readings that do not collect -/

theorem Reading.eq_of_silent {first second : Reading} (same : first.silent = second.silent) :
    first.output.bell = second.output.bell ∧ first.state = second.state := by
  injection same with output state
  injection output with _ bell
  exact ⟨bell, state⟩

theorem strip_silent (collect : Bool) (state : OutputParseState) (text : List UInt16) :
    (strip collect state text).silent = strip false state text := by
  fun_induction strip collect state text with
  | case1 | case3 | case9 =>
    conv_rhs => rw [strip.eq_def]
    simp [*]
  | case2 _ _ _ ih | case4 _ _ _ _ ih | case5 _ _ _ _ _ _ ih | case6 _ _ _ _ _ _ ih | case7 _ _ _ _ _ _ ih | case8 _ _ _ _ _ _ ih
  | case10 _ _ _ _ ih | case11 _ _ _ _ _ ih | case12 _ _ _ _ _ _ _ ih | case13 _ _ _ _ _ ih | case14 _ _ _ _ _ _ _ _ ih
  | case15 _ _ _ _ _ _ _ _ ih =>
    simp only [Reading.silent_put, Reading.silent_ring, ih]
    conv_rhs => rw [strip.eq_def]
    simp [*]

theorem stripTerminalControls_silent (text : List UInt16) (state : OutputParseState) (collect : Bool) :
    (stripTerminalControls text state collect).silent = stripTerminalControls text state false := by
  unfold stripTerminalControls
  split
  · unfold stripIntroduced
    split
    · split
      · exact strip_silent _ _ _
      · exact strip_silent _ _ _
    · split
      · exact strip_silent _ _ _
      · split
        · exact strip_silent _ _ _
        · rw [Reading.silent_put]
          exact strip_silent _ _ _
  · exact strip_silent _ _ _

theorem stripChunks_collected (texts : List (List UInt16)) (state : OutputParseState) :
    stripChunks (texts.map fun text => ⟨text, true⟩) state = stripTerminalControls texts.flatten state true := by
  induction texts generalizing state with
  | nil => exact (stripTerminalControls_nil state true).symm
  | cons text rest ih =>
    rw [List.flatten_cons, stripTerminalControls_append, ← ih]
    rfl

theorem stripChunks_silent (chunks : List Chunk) (state : OutputParseState) :
    (stripChunks chunks state).silent = (stripChunks (chunks.map fun chunk => ⟨chunk.text, true⟩) state).silent := by
  induction chunks generalizing state with
  | nil => rfl
  | cons chunk rest ih =>
    have same : (stripTerminalControls chunk.text state chunk.collect).silent = (stripTerminalControls chunk.text state true).silent :=
      (stripTerminalControls_silent _ _ _).trans (stripTerminalControls_silent _ _ _).symm
    have state_eq : (stripTerminalControls chunk.text state chunk.collect).state = (stripTerminalControls chunk.text state true).state :=
      (Reading.eq_of_silent same).2
    show (Reading.append _ _).silent = (Reading.append _ _).silent
    rw [Reading.silent_append, Reading.silent_append, ih, state_eq]
    exact congrArg (Reading.append · _) same

theorem stripTerminalControls_chunks (chunks : List Chunk) (state : OutputParseState) :
    stripChunks (chunks.map fun chunk => ⟨chunk.text, true⟩) state =
        stripTerminalControls (chunks.map Chunk.text).flatten state true ∧
      (stripChunks chunks state).output.bell =
        (stripTerminalControls (chunks.map Chunk.text).flatten state true).output.bell ∧
      (stripChunks chunks state).state = (stripTerminalControls (chunks.map Chunk.text).flatten state true).state := by
  have collected := stripChunks_collected (chunks.map Chunk.text) state
  rw [List.map_map] at collected
  have silent := stripChunks_silent chunks state
  rw [show stripChunks (chunks.map fun chunk => ⟨chunk.text, true⟩) state = _ from collected] at silent
  exact ⟨collected, Reading.eq_of_silent silent⟩

/-! ### What is left has nothing to strip -/

def Clean (text : List UInt16) : Prop := ∀ unit ∈ text, isControl unit = false

theorem clean_nil : Clean [] := fun _ member => absurd member List.not_mem_nil

theorem clean_put {first : Reading} (clean : Clean first.output.text) (collect : Bool) {unit : UInt16}
    (printed : isControl unit = false) : Clean (first.put collect unit).output.text := by
  cases collect with
  | false => exact clean
  | true => exact (List.forall_mem_cons (p := fun unit => isControl unit = false)).2 ⟨printed, clean⟩

theorem clean_blank {first : Reading} (clean : Clean first.output.text) (collect : Bool) :
    Clean (first.put collect 0x20).output.text := clean_put clean collect (by decide)

theorem clean_strip (collect : Bool) (state : OutputParseState) (text : List UInt16) :
    Clean (strip collect state text).output.text := by
  fun_induction strip collect state text with
  | case1 | case3 | case9 => exact clean_nil
  | case2 _ _ _ ih | case4 _ _ _ _ ih | case5 _ _ _ _ _ _ ih | case6 _ _ _ _ _ _ ih | case8 _ _ _ _ _ _ ih
  | case10 _ _ _ _ ih | case11 _ _ _ _ _ ih => exact ih
  | case7 _ _ _ _ _ _ ih | case12 _ _ _ _ _ _ _ ih | case13 _ _ _ _ _ ih | case14 _ _ _ _ _ _ _ _ ih =>
    exact clean_blank ih collect
  | case15 _ _ _ _ _ _ _ printed ih => exact clean_put ih collect (Bool.eq_false_iff.2 printed)

theorem clean_stripTerminalControls (text : List UInt16) (state : OutputParseState) (collect : Bool) :
    Clean (stripTerminalControls text state collect).output.text := by
  unfold stripTerminalControls
  split
  · unfold stripIntroduced
    split
    · split
      · exact clean_strip _ _ _
      · exact clean_strip _ _ _
    · split
      · exact clean_strip _ _ _
      · split
        · exact clean_strip _ _ _
        · exact clean_blank (clean_strip _ _ _) collect
  · exact clean_strip _ _ _

theorem clean_stripChunks (chunks : List Chunk) (state : OutputParseState) :
    Clean (stripChunks chunks state).output.text := by
  induction chunks generalizing state with
  | nil => exact clean_nil
  | cons chunk rest ih =>
    intro unit member
    cases List.mem_append.1 member with
    | inl first => exact clean_stripTerminalControls _ _ _ unit first
    | inr later => exact ih _ unit later

def idle : OutputParseState := ⟨false, false, false⟩

theorem strip_clean {text : List UInt16} (clean : Clean text) : strip true idle text = ⟨⟨text, false⟩, idle⟩ := by
  induction text with
  | nil => rfl
  | cons unit text ih =>
    have printed := clean unit List.mem_cons_self
    have escape : unit ≠ 0x1b := by
      rintro rfl
      exact absurd printed (by decide)
    have bell : unit ≠ 0x07 := by
      rintro rfl
      exact absurd printed (by decide)
    have step : strip true idle (unit :: text) = (strip true idle text).put true unit := by
      rw [strip.eq_def]
      simp [idle, escape, bell, printed]
    rw [step, ih fun unit member => clean unit (List.mem_cons_of_mem _ member)]
    rfl

theorem stripChunks_again (chunks : List Chunk) (state : OutputParseState) :
    stripTerminalControls (stripChunks chunks state).output.text idle true =
      ⟨⟨(stripChunks chunks state).output.text, false⟩, idle⟩ :=
  strip_clean (clean_stripChunks chunks state)

end VibeLink.Terminal.AgentActivity
