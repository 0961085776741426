import VibeLink.Relational.Runs
import Mathlib.Data.List.Chain
import Mathlib.Logic.Function.Basic

/-! The titles of panes, of which not every one is passed on (`src/terminal/titleCoalescing.ts`). -/

namespace VibeLink.Terminal.Titles

open VibeLink.Relational

def TITLE_COALESCE_MS : Int := 250

/-- `ANIMATION_GLYPHS` -/
def isAnimationGlyph (c : Char) : Bool :=
  (0x2800 ≤ c.toNat && c.toNat ≤ 0x28FF) || "▁▂▃▄▅▆▇█▏▎▍▌▋▊▉◐◓◑◒◴◵◶◷◜◝◞◟◠◡|/\\-".toList.contains c

/-- `\s` -/
def isSpace (c : Char) : Bool :=
  let n := c.toNat
  (9 ≤ n && n ≤ 13) || n == 32 || n == 0xA0 || n == 0x1680 || (0x2000 ≤ n && n ≤ 0x200A) || n == 0x2028 || n == 0x2029 ||
    n == 0x202F || n == 0x205F || n == 0x3000 || n == 0xFEFF

def blankRuns (run : Char → Bool) : List Char → List Char
  | [] => []
  | [c] => if run c then [' '] else [c]
  | c :: next :: rest =>
    if run c then if run next then blankRuns run (next :: rest) else ' ' :: blankRuns run (next :: rest)
    else c :: blankRuns run (next :: rest)

/-- `.replace(/\.{1,6}(?=\s*$)/u, '')` -/
def withoutDots (title : List Char) : List Char :=
  let spaces := (title.reverse.takeWhile isSpace).reverse
  let text := title.reverse.dropWhile isSpace
  (text.drop (min 6 (text.takeWhile (· = '.')).length)).reverse ++ spaces

def trim (title : List Char) : List Char := ((title.dropWhile isSpace).reverse.dropWhile isSpace).reverse

def paneTitleSignature (title : String) : String :=
  String.ofList (trim (blankRuns isSpace (withoutDots (blankRuns isAnimationGlyph title.toList))))

structure PaneTitleState where
  timer : Option Nat := none
  sentSignature : Option String := none
  pending : Option String := none
  lastEmitAt : Option Int := none

/-- A timer that is set, with the clock when it was. -/
structure Timer where
  paneId : String
  setAt : Int
  delay : Int
  deriving DecidableEq

structure Emit where
  title : String
  at' : Int

/-- What was submitted for a pane and passed on since it was cleared. -/
structure History where
  submitted : Option String := none
  emitted : List Emit := []

structure State where
  states : String → Option PaneTitleState
  timers : Nat → Option Timer
  nextHandle : Nat
  history : String → History

def initial : State := ⟨fun _ => none, fun _ => none, 0, fun _ => {}⟩

def State.put (s : State) (paneId : String) (state : PaneTitleState) (history : History) : State :=
  { s with states := Function.update s.states paneId (some state), history := Function.update s.history paneId history }

def PaneTitleState.sending (state : PaneTitleState) (title : String) (now : Int) : PaneTitleState :=
  { state with pending := none, sentSignature := some (paneTitleSignature title), lastEmitAt := some now }

def History.sending (history : History) (title : String) (now : Int) : History :=
  { history with emitted := history.emitted ++ [⟨title, now⟩] }

/-- `now`: the reading of the clock -/
def flush (s : State) (paneId : String) (now : Int) : State :=
  match s.states paneId with
  | none => s
  | some state => match state.pending with
    | none => s
    | some pending => s.put paneId (state.sending pending now) ((s.history paneId).sending pending now)

def State.pane (s : State) (paneId : String) : PaneTitleState := (s.states paneId).getD {}

def State.asked (s : State) (paneId title : String) : History := { s.history paneId with submitted := some title }

/-- `later`: the second reading of the clock, in `flush` -/
def submit (s : State) (paneId title : String) (now later : Int) : State :=
  let signature := paneTitleSignature title
  let state := s.pane paneId
  let history := s.asked paneId title
  if some signature = state.sentSignature then s.put paneId state history
  else
    let queued := s.put paneId { state with pending := some title } history
    if state.timer.isSome then queued
    else match state.lastEmitAt with
      | none => flush queued paneId later
      | some last =>
        if TITLE_COALESCE_MS ≤ now - last then flush queued paneId later
        else { s.put paneId { state with pending := some title, timer := some s.nextHandle } history with
          timers := Function.update s.timers s.nextHandle (some ⟨paneId, now, TITLE_COALESCE_MS - (now - last)⟩)
          nextHandle := s.nextHandle + 1 }

def fire (s : State) (handle : Nat) (now : Int) : State :=
  match s.timers handle with
  | none => s
  | some timer =>
    let s := { s with timers := Function.update s.timers handle none }
    match s.states timer.paneId with
    | none => flush s timer.paneId now
    | some state => flush (s.put timer.paneId { state with timer := none } (s.history timer.paneId)) timer.paneId now

def clearTimer (timers : Nat → Option Timer) : Option Nat → Nat → Option Timer
  | none => timers
  | some handle => Function.update timers handle none

def clear (s : State) (paneId : String) : State :=
  { s with
    timers := clearTimer s.timers ((s.states paneId).bind PaneTitleState.timer)
    states := Function.update s.states paneId none
    history := Function.update s.history paneId {} }

inductive Act
  | submit (paneId title : String) (now later : Int)
  | fire (handle : Nat) (now : Int)
  | clear (paneId : String)

def next (s : State) : Act → State
  | .submit paneId title now later => submit s paneId title now later
  | .fire handle now => fire s handle now
  | .clear paneId => clear s paneId

/-! ### What is promised -/

def History.sent (history : History) : Option String := history.emitted.getLast?.map fun emit => paneTitleSignature emit.title

def Quiet (s : State) (paneId : String) : Prop := ∀ handle timer, s.timers handle = some timer → timer.paneId ≠ paneId

structure Holds (s : State) : Prop where
  apart : ∀ paneId, (s.history paneId).emitted.Pairwise fun earlier later => earlier.at' + TITLE_COALESCE_MS ≤ later.at'
  differ : ∀ paneId, (s.history paneId).emitted.IsChain fun earlier later =>
    paneTitleSignature earlier.title ≠ paneTitleSignature later.title
  settles : ∀ paneId, Quiet s paneId → (s.history paneId).sent =
    (s.history paneId).submitted.map paneTitleSignature

/-- The clock does not go back within a call, and no timer is early. -/
def Timely (s : State) : Act → Prop
  | .submit _ _ now later => now ≤ later
  | .fire handle now => ∀ timer, s.timers handle = some timer → timer.setAt + timer.delay ≤ now
  | .clear _ => True

/-- No timer fires while the title that was submitted last is the one that was passed on last. -/
def Moved (s : State) : Act → Prop
  | .fire handle _ => ∀ timer, s.timers handle = some timer →
    (s.history timer.paneId).submitted.map paneTitleSignature ≠ (s.history timer.paneId).sent
  | .submit _ _ _ _ | .clear _ => True

/-! ### What is kept for each pane -/

structure Kept (state : PaneTitleState) (history : History) : Prop where
  sent : state.sentSignature = history.sent
  last : state.lastEmitAt = history.emitted.getLast?.map Emit.at'
  queued : state.pending.isSome = state.timer.isSome
  newest : ∀ title, state.pending = some title → some (paneTitleSignature title) ≠ state.sentSignature ∧
    (history.submitted = some title ∨ history.submitted.map paneTitleSignature = state.sentSignature)
  settled : state.pending = none → history.submitted.map paneTitleSignature = state.sentSignature
  apart : history.emitted.IsChain fun earlier later => earlier.at' + TITLE_COALESCE_MS ≤ later.at'
  differ : history.emitted.IsChain fun earlier later => paneTitleSignature earlier.title ≠ paneTitleSignature later.title

section Panes

variable {s : State} {paneId title : String} {now last : Int} {state : PaneTitleState} {history : History}

theorem kept_new : Kept {} {} :=
  ⟨rfl, rfl, rfl, fun _ is => (by cases is), fun _ => rfl, .nil, .nil⟩

theorem Kept.send (kept : Kept state history) (other : some (paneTitleSignature title) ≠ state.sentSignature)
    (due : ∀ last, state.lastEmitAt = some last → last + TITLE_COALESCE_MS ≤ now) :
    Kept ({ state with timer := none }.sending title now) ({ history with submitted := some title }.sending title now) where
  sent := by
    show _ = (history.emitted ++ [(⟨title, now⟩ : Emit)]).getLast?.map _
    rw [List.getLast?_concat]
    rfl
  last := by
    show _ = (history.emitted ++ [(⟨title, now⟩ : Emit)]).getLast?.map _
    rw [List.getLast?_concat]
    rfl
  queued := rfl
  newest _ is := by cases is
  settled _ := rfl
  apart := by
    refine List.isChain_append.mpr ⟨kept.apart, .singleton _, fun earlier there later is => ?_⟩
    cases is
    refine due earlier.at' ?_
    rw [kept.last, there]
    rfl
  differ := by
    refine List.isChain_append.mpr ⟨kept.differ, .singleton _, fun earlier there later is same => ?_⟩
    cases is
    refine other ?_
    rw [kept.sent, History.sent, there, ← same]
    rfl

theorem Kept.wait (kept : Kept state history) (other : some (paneTitleSignature title) ≠ state.sentSignature) (handle : Nat) :
    Kept { state with pending := some title, timer := some handle } { history with submitted := some title } where
  sent := kept.sent
  last := kept.last
  queued := rfl
  newest _ is := by
    cases is
    exact ⟨other, .inl rfl⟩
  settled is := by cases is
  apart := kept.apart
  differ := kept.differ

theorem Kept.repeat (kept : Kept state history) (same : some (paneTitleSignature title) = state.sentSignature) :
    Kept state { history with submitted := some title } where
  sent := kept.sent
  last := kept.last
  queued := kept.queued
  newest pending is := ⟨(kept.newest pending is).1, .inr same⟩
  settled _ := same
  apart := kept.apart
  differ := kept.differ

end Panes

/-! ### What is kept for all -/

structure Invariant (s : State) : Prop where
  kept : ∀ paneId state, s.states paneId = some state → Kept state (s.history paneId)
  empty : ∀ paneId, s.states paneId = none → s.history paneId = {}
  set : ∀ paneId state handle, s.states paneId = some state → state.timer = some handle →
    ∃ timer, s.timers handle = some timer ∧ timer.paneId = paneId
  owned : ∀ handle timer, s.timers handle = some timer → ∃ state last, s.states timer.paneId = some state ∧
    state.timer = some handle ∧ state.lastEmitAt = some last ∧ timer.setAt + timer.delay = last + TITLE_COALESCE_MS
  fresh : ∀ handle, s.nextHandle ≤ handle → s.timers handle = none

section Steps

variable {s : State} {paneId title : String} {now later last : Int} {state : PaneTitleState} {history : History} {handle : Nat}
  {timer : Timer}

theorem Invariant.pane (invariant : Invariant s) (paneId : String) : Kept (s.pane paneId) (s.history paneId) := by
  cases found : s.states paneId with
  | none =>
    rw [State.pane, found, invariant.empty paneId found]
    exact kept_new
  | some state =>
    rw [State.pane, found]
    exact invariant.kept paneId state found

theorem Invariant.put (invariant : Invariant s) (kept : Kept state history) (same : state.timer = (s.pane paneId).timer)
    (timed : state.timer ≠ none → state.lastEmitAt = (s.pane paneId).lastEmitAt) : Invariant (s.put paneId state history) where
  kept other state' found := by
    dsimp only [State.put] at found ⊢
    rw [Function.update_apply] at found ⊢
    split at found
    · rename_i here
      cases found
      rw [if_pos here]
      exact kept
    · rename_i away
      rw [if_neg away]
      exact invariant.kept other state' found
  empty other found := by
    dsimp only [State.put] at found ⊢
    rw [Function.update_apply] at found ⊢
    split at found
    · cases found
    · rename_i away
      rw [if_neg away]
      exact invariant.empty other found
  set other state' handle found is := by
    dsimp only [State.put] at found ⊢
    rw [Function.update_apply] at found
    split at found
    · rename_i here
      cases found
      rw [same, State.pane] at is
      cases before : s.states paneId with
      | none =>
        rw [before] at is
        cases is
      | some state' =>
        rw [before] at is
        rw [here]
        exact invariant.set paneId state' handle before is
    · exact invariant.set other state' handle found is
  owned handle timer there := by
    have ⟨state', last, found, is, since, due⟩ := invariant.owned handle timer there
    dsimp only [State.put]
    rw [Function.update_apply]
    split
    · rename_i here
      have before : s.pane paneId = state' := by rw [State.pane, ← here, found]; rfl
      rw [before] at same timed
      exact ⟨state, last, rfl, same.trans is, (timed (by rw [same, is]; exact Option.some_ne_none _)).trans since, due⟩
    · exact ⟨state', last, found, is, since, due⟩
  fresh := invariant.fresh

theorem Invariant.arm (invariant : Invariant s) (kept : Kept state history) (idle : (s.pane paneId).timer = none)
    (is : state.timer = some s.nextHandle) (since : state.lastEmitAt = some last) (own : timer.paneId = paneId)
    (due : timer.setAt + timer.delay = last + TITLE_COALESCE_MS) :
    Invariant { s.put paneId state history with
      timers := Function.update s.timers s.nextHandle (some timer), nextHandle := s.nextHandle + 1 } where
  kept other state' found := by
    dsimp only [State.put] at found ⊢
    rw [Function.update_apply] at found ⊢
    split at found
    · rename_i here
      cases found
      rw [if_pos here]
      exact kept
    · rename_i away
      rw [if_neg away]
      exact invariant.kept other state' found
  empty other found := by
    dsimp only [State.put] at found ⊢
    rw [Function.update_apply] at found ⊢
    split at found
    · cases found
    · rename_i away
      rw [if_neg away]
      exact invariant.empty other found
  set other state' handle found held := by
    dsimp only [State.put] at found ⊢
    rw [Function.update_apply] at found ⊢
    split at found
    · rename_i here
      cases found
      rw [if_pos (Option.some_inj.mp (held.symm.trans is)), here]
      exact ⟨timer, rfl, own⟩
    · have ⟨timer', there, own'⟩ := invariant.set other state' handle found held
      have old : handle ≠ s.nextHandle := by
        intro same
        rw [invariant.fresh handle (Nat.le_of_eq same.symm)] at there
        cases there
      rw [if_neg old]
      exact ⟨timer', there, own'⟩
  owned handle timer' there := by
    dsimp only [State.put] at there ⊢
    rw [Function.update_apply] at there ⊢
    split at there
    · rename_i new
      cases there
      rw [if_pos own, new]
      exact ⟨state, last, rfl, is, since, due⟩
    · have ⟨state', last', found, held, since', due'⟩ := invariant.owned handle timer' there
      have away : timer'.paneId ≠ paneId := by
        intro same
        rw [State.pane, ← same, found] at idle
        exact Option.some_ne_none handle (held.symm.trans idle)
      rw [if_neg away]
      exact ⟨state', last', found, held, since', due'⟩
  fresh handle le := by
    dsimp only
    rw [Function.update_of_ne (Nat.ne_of_gt le)]
    exact invariant.fresh handle (Nat.le_of_succ_le le)

theorem Invariant.disarm (invariant : Invariant s) (found : s.states paneId = some state) (held : state.timer = some handle)
    {state' : PaneTitleState} (kept : Kept state' history) (idle : state'.timer = none) :
    Invariant ({ s with timers := Function.update s.timers handle none }.put paneId state' history) where
  kept other state'' found' := by
    dsimp only [State.put] at found' ⊢
    rw [Function.update_apply] at found' ⊢
    split at found'
    · rename_i here
      cases found'
      rw [if_pos here]
      exact kept
    · rename_i away
      rw [if_neg away]
      exact invariant.kept other state'' found'
  empty other found' := by
    dsimp only [State.put] at found' ⊢
    rw [Function.update_apply] at found' ⊢
    split at found'
    · cases found'
    · rename_i away
      rw [if_neg away]
      exact invariant.empty other found'
  set other state'' handle' found' held' := by
    dsimp only [State.put] at found' ⊢
    rw [Function.update_apply] at found' ⊢
    split at found'
    · cases found'
      cases idle.symm.trans held'
    · rename_i away
      have ⟨timer, there, own⟩ := invariant.set other state'' handle' found' held'
      rw [if_neg]
      · exact ⟨timer, there, own⟩
      · intro same
        have ⟨timer', there', own'⟩ := invariant.set paneId state handle found held
        rw [same, there'] at there
        cases there
        exact away (own.symm.trans own')
  owned handle' timer there := by
    dsimp only [State.put] at there ⊢
    rw [Function.update_apply] at there ⊢
    split at there
    · cases there
    · rename_i other
      have ⟨state'', last, found', held', since, due⟩ := invariant.owned handle' timer there
      rw [if_neg]
      · exact ⟨state'', last, found', held', since, due⟩
      · intro same
        rw [same, found] at found'
        cases found'
        exact other (Option.some_inj.mp (held'.symm.trans held))
  fresh handle' le := by
    dsimp only [State.put]
    rw [Function.update_apply]
    split
    · rfl
    · exact invariant.fresh handle' le

theorem flush_put (pending : state.pending = some title) :
    flush (s.put paneId state history) paneId now = s.put paneId (state.sending title now) (history.sending title now) := by
  simp [flush, State.put, pending]

theorem invariant_submit (invariant : Invariant s) (forward : now ≤ later) : Invariant (submit s paneId title now later) := by
  have kept := invariant.pane paneId
  unfold submit
  dsimp only
  split
  · rename_i same
    exact invariant.put (kept.repeat same) rfl fun _ => rfl
  rename_i other
  split
  · rename_i held
    have ⟨handle, waiting⟩ := Option.isSome_iff_exists.mp held
    have same : { s.pane paneId with pending := some title } = { s.pane paneId with pending := some title, timer := some handle } := by
      rw [← waiting]
    rw [same]
    exact invariant.put (kept.wait other handle) waiting.symm fun _ => rfl
  · rename_i idle
    have waiting := Option.not_isSome_iff_eq_none.mp idle
    have send (due : ∀ last, (s.pane paneId).lastEmitAt = some last → last + TITLE_COALESCE_MS ≤ later) :
        Invariant (flush (s.put paneId { s.pane paneId with pending := some title } (s.asked paneId title)) paneId later) := by
      rw [flush_put rfl]
      refine invariant.put ?_ rfl fun held => absurd waiting held
      have sent := kept.send other due
      rwa [← waiting] at sent
    split
    · rename_i never
      exact send fun last since => by cases never.symm.trans since
    · rename_i last since
      split
      · rename_i due
        refine send fun last' since' => ?_
        cases since.symm.trans since'
        omega
      · refine invariant.arm (kept.wait other s.nextHandle) waiting rfl since rfl ?_
        dsimp only
        omega

theorem fire_eq (invariant : Invariant s) (there : s.timers handle = some timer) : ∃ state last title,
    s.states timer.paneId = some state ∧ state.timer = some handle ∧ state.lastEmitAt = some last ∧
      timer.setAt + timer.delay = last + TITLE_COALESCE_MS ∧ state.pending = some title ∧
      fire s handle now = { s with timers := Function.update s.timers handle none }.put timer.paneId
        ({ state with timer := none }.sending title now) ((s.history timer.paneId).sending title now) := by
  have ⟨state, last, found, held, since, due⟩ := invariant.owned handle timer there
  have kept := invariant.kept timer.paneId state found
  have waiting : state.pending.isSome = true := by rw [kept.queued, held]; rfl
  have ⟨title, pending⟩ := Option.isSome_iff_exists.mp waiting
  refine ⟨state, last, title, found, held, since, due, pending, ?_⟩
  unfold fire
  rw [there]
  dsimp only
  rw [found]
  exact flush_put pending

theorem invariant_fire (invariant : Invariant s) (timely : Timely s (.fire handle now)) (moved : Moved s (.fire handle now)) :
    Invariant (fire s handle now) := by
  cases there : s.timers handle with
  | none =>
    unfold fire
    rw [there]
    exact invariant
  | some timer =>
    have ⟨state, last, title, found, held, since, due, pending, fires⟩ := @fire_eq s now handle timer invariant there
    have time := timely timer there
    have newest := moved timer there
    have kept := invariant.kept timer.paneId state found
    have ⟨other, asked⟩ := kept.newest title pending
    have submitted : (s.history timer.paneId).submitted = some title := asked.resolve_right fun same => newest (same.trans kept.sent)
    rw [fires]
    refine invariant.disarm found held ?_ rfl
    have due' (last' : Int) (since' : state.lastEmitAt = some last') : last' + TITLE_COALESCE_MS ≤ now := by
      cases since.symm.trans since'
      omega
    have sent := kept.send other due'
    rwa [← submitted] at sent

theorem moved_of_holds (invariant : Invariant s) (there : s.timers handle = some timer) (holds : Holds (fire s handle now)) :
    (s.history timer.paneId).submitted.map paneTitleSignature ≠ (s.history timer.paneId).sent := by
  have ⟨state, last, title, found, held, since, due, pending, fires⟩ := @fire_eq s now handle timer invariant there
  have ⟨other, _⟩ := (invariant.kept timer.paneId state found).newest title pending
  have settles := holds.settles timer.paneId
  rw [fires] at settles
  dsimp only [State.put] at settles
  rw [Function.update_self, History.sent, History.sending, List.getLast?_concat] at settles
  have quiet : Quiet ({ s with timers := Function.update s.timers handle none }.put timer.paneId
      ({ state with timer := none }.sending title now) ((s.history timer.paneId).sending title now)) timer.paneId := by
    intro handle' timer' there' same
    dsimp only [State.put] at there'
    rw [Function.update_apply] at there'
    split at there'
    · cases there'
    · rename_i away
      have ⟨state', _, found', held', _⟩ := invariant.owned handle' timer' there'
      rw [same, found] at found'
      cases found'
      exact away (Option.some_inj.mp (held'.symm.trans held))
  have same := settles quiet
  rw [← (invariant.kept timer.paneId state found).sent]
  exact fun back => other (Eq.trans same back)

theorem clearTimer_eq (invariant : Invariant s) (handle : Nat) :
    clearTimer s.timers ((s.states paneId).bind PaneTitleState.timer) handle =
      (s.timers handle).filter fun timer => timer.paneId ≠ paneId := by
  cases there : s.timers handle with
  | none =>
    cases (s.states paneId).bind PaneTitleState.timer with
    | none => exact there
    | some other =>
      rw [clearTimer, Function.update_apply, there, ite_self]
      rfl
  | some timer =>
    have ⟨state, last, found, held, _⟩ := invariant.owned handle timer there
    by_cases here : timer.paneId = paneId
    · rw [← here, found, Option.bind_some, held, clearTimer, Function.update_self]
      rw [Option.filter_some, if_neg (by simp)]
    · rw [Option.filter_some, if_pos (by simpa using here)]
      cases is : (s.states paneId).bind PaneTitleState.timer with
      | none => exact there
      | some other =>
        rw [clearTimer, Function.update_of_ne, there]
        intro same
        have ⟨state', found', held'⟩ := Option.bind_eq_some_iff.mp is
        have ⟨timer', there', own⟩ := invariant.set paneId state' other found' held'
        rw [← same, there] at there'
        cases there'
        exact here own

theorem invariant_clear (invariant : Invariant s) : Invariant (clear s paneId) := by
  have timers := @clearTimer_eq s paneId invariant
  constructor
  · intro other state found
    dsimp only [clear] at found ⊢
    rw [Function.update_apply] at found ⊢
    split at found
    · cases found
    · rename_i away
      rw [if_neg away]
      exact invariant.kept other state found
  · intro other found
    dsimp only [clear] at found ⊢
    rw [Function.update_apply] at found ⊢
    split at found
    · rename_i here
      rw [if_pos here]
    · rename_i away
      rw [if_neg away]
      exact invariant.empty other found
  · intro other state handle found held
    dsimp only [clear] at found ⊢
    rw [timers]
    rw [Function.update_apply] at found
    split at found
    · cases found
    · rename_i away
      have ⟨timer, there, own⟩ := invariant.set other state handle found held
      rw [there, Option.filter_some, if_pos (by simpa [own] using away)]
      exact ⟨timer, rfl, own⟩
  · intro handle timer there
    dsimp only [clear] at there
    rw [timers] at there
    have ⟨there, away⟩ := Option.filter_eq_some_iff.mp there
    have ⟨state, last, found, held, since, due⟩ := invariant.owned handle timer there
    refine ⟨state, last, ?_, held, since, due⟩
    dsimp only [clear]
    rw [Function.update_of_ne (by simpa using away)]
    exact found
  · intro handle le
    dsimp only [clear]
    rw [timers, invariant.fresh handle le]
    rfl

theorem invariant_next {act : Act} (invariant : Invariant s) (timely : Timely s act) (moved : Moved s act) : Invariant (next s act) := by
  cases act with
  | submit paneId title now later => exact invariant_submit invariant timely
  | fire handle now => exact invariant_fire invariant timely moved
  | clear paneId => exact invariant_clear invariant

theorem Invariant.holds (invariant : Invariant s) : Holds s where
  apart paneId := by
    have trans : IsTrans Emit fun earlier later => earlier.at' + TITLE_COALESCE_MS ≤ later.at' := by
      refine ⟨fun first second third before after => ?_⟩
      have window : 0 ≤ TITLE_COALESCE_MS := by decide
      omega
    exact List.isChain_iff_pairwise.mp (invariant.pane paneId).apart
  differ paneId := (invariant.pane paneId).differ
  settles paneId quiet := by
    have kept := invariant.pane paneId
    have idle : (s.pane paneId).timer = none := by
      cases found : s.states paneId with
      | none =>
        rw [State.pane, found]
        rfl
      | some state =>
        rw [State.pane, found]
        rw [Option.eq_none_iff_forall_not_mem]
        intro handle held
        have ⟨timer, there, own⟩ := invariant.set paneId state handle found held
        exact quiet handle timer there own
    have waiting : (s.pane paneId).pending = none := by
      rw [← Option.not_isSome_iff_eq_none, kept.queued, idle]
      exact Bool.false_ne_true
    rw [← kept.sent]
    exact (kept.settled waiting).symm

theorem moved_of_holds_next {act : Act} (invariant : Invariant s) (holds : Holds (next s act)) : Moved s act := by
  cases act with
  | submit paneId title now later => trivial
  | fire handle now => exact fun timer there => moved_of_holds invariant there holds
  | clear paneId => trivial

end Steps

theorem invariant_initial : Invariant initial where
  kept _ _ is := by cases is
  empty _ _ := rfl
  set _ _ _ is := by cases is
  owned _ _ is := by cases is
  fresh _ _ := rfl

/-- The promises are kept in every state of a run if and only if no timer fires after the title has changed back. -/
theorem holds_iff (acts : List Act) (timely : Throughout next Timely initial acts) :
    Throughout next (fun s act => Holds (next s act)) initial acts ↔ Throughout next Moved initial acts := by
  have from_invariant : ∀ s, Invariant s → Throughout next Timely s acts →
      (Throughout next (fun s act => Holds (next s act)) s acts ↔ Throughout next Moved s acts) := by
    clear timely
    induction acts with
    | nil => exact fun _ _ _ => Iff.rfl
    | cons act acts ih =>
      intro s invariant timely
      constructor
      · intro holds
        have moved := moved_of_holds_next invariant holds.1
        exact ⟨moved, (ih _ (invariant_next invariant timely.1 moved) timely.2).mp holds.2⟩
      · intro moved
        have after := invariant_next invariant timely.1 moved.1
        exact ⟨after.holds, (ih _ after timely.2).mpr moved.2⟩
  exact from_invariant initial invariant_initial timely

def changed : List Act := [.submit "pane" "a" 0 0, .submit "pane" "b" 10 10, .fire 0 250]

theorem holds_changed : Throughout next (fun s act => Holds (next s act)) initial changed := by
  have set : ((changed.take 2).foldl next initial).timers 0 = some ⟨"pane", 10, 240⟩ := by decide +kernel
  have sent : (((changed.take 2).foldl next initial).history "pane").sent = some "a" := by decide +kernel
  have submitted : (((changed.take 2).foldl next initial).history "pane").submitted.map paneTitleSignature = some "b" := by
    decide +kernel
  have timely : Throughout next Timely initial changed := by
    refine ⟨Int.le_refl 0, Int.le_refl 10, fun timer there => ?_, trivial⟩
    cases set.symm.trans there
    decide
  refine (holds_iff changed timely).mpr ⟨trivial, trivial, fun timer there => ?_, trivial⟩
  cases set.symm.trans there
  exact fun same => absurd (submitted.symm.trans (same.trans sent)) (by decide)

theorem quiet_fire {s : State} {timer : Timer} (invariant : Invariant s) (set : s.timers 0 = some timer) (one : s.nextHandle = 1)
    (now : Int) (paneId : String) :
    Quiet (fire s 0 now) paneId := by
  have ⟨_, _, _, _, _, _, _, _, fires⟩ := @fire_eq _ now 0 _ invariant set
  intro handle timer there
  rw [fires] at there
  dsimp only [State.put] at there
  rw [Function.update_apply] at there
  split at there
  · cases there
  · rename_i other
    rw [invariant.fresh handle (one ▸ Nat.one_le_iff_ne_zero.mpr other)] at there
    cases there

def queued : State := submit (submit (submit initial "pane" "a" 0 0) "pane" "b" 10 10) "pane" "a" 20 20

theorem invariant_queued : Invariant queued :=
  invariant_submit (invariant_submit (invariant_submit invariant_initial (Int.le_refl 0)) (Int.le_refl 10)) (Int.le_refl 20)

def back : List Act := [.submit "pane" "a" 0 0, .submit "pane" "b" 10 10, .submit "pane" "a" 20 20, .fire 0 250]

theorem settles_on_old : ¬∀ acts, Throughout next Timely initial acts → Throughout next (fun s act => Holds (next s act)) initial acts := by
  intro always
  have set : queued.timers 0 = some ⟨"pane", 10, 240⟩ := by decide +kernel
  have one : queued.nextHandle = 1 := by decide +kernel
  have timely : Throughout next Timely initial back := by
    refine ⟨Int.le_refl 0, Int.le_refl 10, Int.le_refl 20, fun timer there => ?_, trivial⟩
    cases set.symm.trans there
    decide
  have settles : Holds (fire queued 0 250) := (always back timely).2.2.2.1
  have sent : ((fire queued 0 250).history "pane").sent = some "b" := by decide +kernel
  have submitted : ((fire queued 0 250).history "pane").submitted.map paneTitleSignature = some "a" := by decide +kernel
  have same := settles.settles "pane" (quiet_fire invariant_queued set one 250 "pane")
  exact absurd (sent.symm.trans (same.trans submitted)) (by decide)

end VibeLink.Terminal.Titles
