import VibeLink.Relational.Pages
import VibeLink.Coordinator.Replay

/-! The event log of a run as its consumers read it: catch-up behind a cursor and
acknowledgements (`orchestration/durable.rs`). -/

namespace VibeLink.Coordinator

open VibeLink.Relational Tx

structure EventCatchup where
  events : List RunEventRecord
  acknowledgedSequence : Nat
  latestSequence : Nat
  hasMore : Bool

/-- `limit.clamp(1, 1000)` -/
def pageSize (limit : UInt32) : Nat := min (max limit.toNat 1) 1000

namespace Store

def acknowledgedSequence (s : Store) (consumerId : String) (runId : Uuid) : Nat :=
  ((s.acknowledgements.find (consumerId, runId)).map EventAcknowledgement.acknowledgedSequence).getD 0

/-- The rows of `run_events` with `run_id=?1`. -/
def eventLog (s : Store) (runId : Uuid) : List RunEventRecord :=
  s.runEvents.filter fun event => decide (event.runId = some runId)

/-- The cursor of the client, but never one before what its consumer has acknowledged. -/
def eventCursor (s : Store) (runId : Uuid) (consumerId : String) (afterSequence : Option UInt64) : Nat :=
  let acknowledgedSequence := s.acknowledgedSequence consumerId runId
  max ((afterSequence.map UInt64.toNat).getD acknowledgedSequence) acknowledgedSequence

/-- What is read on one connection, once the run is known to exist. -/
def eventCatchup (s : Store) (runId : Uuid) (consumerId : String) (afterSequence : Option UInt64)
    (limit : UInt32) : EventCatchup :=
  let acknowledgedSequence := s.acknowledgedSequence consumerId runId
  let cursor := s.eventCursor runId consumerId afterSequence
  let latestSequence := s.latestSequence runId
  -- the cursor is bound as an `i64`
  let events := (orderBy (fun a b => decide (a.sequence ≤ b.sequence))
    ((s.eventLog runId).filter fun event => decide (asI64 cursor < event.sequence))).take (pageSize limit)
  let hasMore := match events.getLast? with
    | some event => decide (event.sequence < latestSequence)
    | none => decide (cursor < latestSequence)
  { events, acknowledgedSequence, latestSequence, hasMore }

end Store

def eventsAfter (runId : Uuid) (consumerId : String) (afterSequence : Option UInt64)
    (limit : UInt32) : CoordinatorResult EventCatchup := do
  let consumerId ← .ofExcept (required consumerId "event consumer id")
  let _ ← readRun runId
  .gets fun s => s.eventCatchup runId consumerId afterSequence limit

/-- A client that reads on after the last event it got, for as long as there is more. -/
def catchUp (runId : Uuid) (consumerId : String) (limit : UInt32) :
    Nat → Option UInt64 → CoordinatorResult (List EventCatchup)
  | 0, _ => pure []
  | fuel + 1, afterSequence => do
    let page ← eventsAfter runId consumerId afterSequence limit
    if page.hasMore then do
      let last := page.events.getLast?.map fun event => UInt64.ofNat event.sequence
      let pages ← catchUp runId consumerId limit fuel (last.or afterSequence)
      pure (page :: pages)
    else pure [page]

/-- From here on a cursor is negative once it is an `i64`. -/
def cursorBound : Nat := UInt64.size / 2

/-- The log as the database keeps it: rows in the order of their `AUTOINCREMENT` keys, which are
positive `i64`s, as the acknowledged sequences are. -/
structure Store.Logged (s : Store) : Prop where
  ascending : Ascending RunEventRecord.sequence s.runEvents
  fits : ∀ event ∈ s.runEvents, event.sequence < cursorBound
  acknowledged : ∀ consumerId runId, s.acknowledgedSequence consumerId runId < cursorBound

/-- The pages bring the events past `start`, each once and in order, and each page says whether
events remain. -/
structure CaughtUp (log : List RunEventRecord) (start : Nat) (pages : List EventCatchup) : Prop where
  every : ∀ event, event ∈ pages.flatMap EventCatchup.events ↔ event ∈ log ∧ start < event.sequence
  ordered : Ascending RunEventRecord.sequence (pages.flatMap EventCatchup.events)
  hasMore : ∀ before page after, pages = before ++ page :: after → (page.hasMore = true ↔
    ∃ event ∈ log, start < event.sequence ∧
      event ∉ (before ++ [page]).flatMap EventCatchup.events)

section Pages

variable {s : Store} {runId : Uuid} {consumerId : String} {afterSequence : Option UInt64}
  {limit : UInt32} {n c : Nat} {event : RunEventRecord}

theorem asI64_of_lt (h : n < cursorBound) : asI64 n = n := by
  have hn : n < UInt64.size := h.trans_le (Nat.div_le_self _ _)
  rw [cursorBound] at h
  simp only [asI64, Nat.mod_eq_of_lt hn, if_pos h]

theorem asI64_neg (h : cursorBound ≤ n) (hn : n < UInt64.size) : asI64 n < 0 := by
  rw [cursorBound] at h
  simp only [asI64, Nat.mod_eq_of_lt hn, if_neg h.not_gt]
  omega

namespace Store

theorem Logged.eventLog (logged : s.Logged) (runId : Uuid) :
    Ascending RunEventRecord.sequence (s.eventLog runId) := List.Pairwise.filter _ logged.ascending

theorem Logged.lt (logged : s.Logged) (h : event ∈ s.eventLog runId) : event.sequence < cursorBound :=
  logged.fits event (List.mem_of_mem_filter h)

theorem lt_latestSequence : c < s.latestSequence runId ↔
    ∃ event ∈ s.eventLog runId, c < event.sequence := by
  simp [latestSequence, eventLog, lt_foldl_max]

theorem lt_latestSequence_iff_past : c < s.latestSequence runId ↔
    past RunEventRecord.sequence (s.eventLog runId) c ≠ [] := by
  rw [lt_latestSequence, ne_eq, past_eq_nil]
  push Not
  rfl

theorem Logged.selected (logged : s.Logged) (runId : Uuid) (hc : c < UInt64.size) :
    (orderBy (fun a b => decide (a.sequence ≤ b.sequence))
      ((s.eventLog runId).filter fun event => decide (asI64 c < event.sequence))) =
      if c < cursorBound then past RunEventRecord.sequence (s.eventLog runId) c
      else s.eventLog runId := by
  rw [Ascending.orderBy (List.Pairwise.filter _ (logged.eventLog runId))]
  split
  · rename_i h
    simp only [asI64_of_lt h, past, Int.ofNat_lt]
  · rename_i h
    have negative := asI64_neg (not_lt.1 h) hc
    apply List.filter_eq_self.2
    intro event _
    simpa using negative.trans_le (Int.natCast_nonneg _)

theorem Logged.cursor_lt (logged : s.Logged) :
    s.eventCursor runId consumerId afterSequence < UInt64.size := by
  have acknowledged := (logged.acknowledged consumerId runId).trans_le (Nat.div_le_self _ _)
  simp only [eventCursor, max_lt_iff]
  refine ⟨?_, acknowledged⟩
  cases afterSequence with
  | none => exact acknowledged
  | some sequence => exact sequence.toNat_lt

theorem acknowledgedSequence_le_eventCursor :
    s.acknowledgedSequence consumerId runId ≤ s.eventCursor runId consumerId afterSequence :=
  le_max_right _ _

end Store

theorem pageSize_pos (limit : UInt32) : 0 < pageSize limit := by
  simp only [pageSize, lt_min_iff, lt_max_iff]
  omega

section Below

variable (limit) (logged : s.Logged) (below : s.eventCursor runId consumerId afterSequence < cursorBound)

include logged below

theorem eventCatchup_events : (s.eventCatchup runId consumerId afterSequence limit).events =
    (past RunEventRecord.sequence (s.eventLog runId)
      (s.eventCursor runId consumerId afterSequence)).take (pageSize limit) := by
  simp only [Store.eventCatchup, logged.selected runId logged.cursor_lt, if_pos below, pageSize]

theorem eventCatchup_hasMore : (s.eventCatchup runId consumerId afterSequence limit).hasMore = true ↔
    (past RunEventRecord.sequence (s.eventLog runId)
      (s.eventCursor runId consumerId afterSequence)).drop (pageSize limit) ≠ [] := by
  have events := eventCatchup_events limit logged below
  simp only [Store.eventCatchup] at events ⊢
  rw [events]
  split
  · rename_i event last
    rw [decide_eq_true_iff, Store.lt_latestSequence_iff_past,
      (logged.eventLog runId).past_last last]
  · rename_i last
    rw [List.getLast?_eq_none_iff, List.take_eq_nil_iff] at last
    have nothing := last.resolve_left (pageSize_pos limit).ne'
    rw [decide_eq_true_iff, Store.lt_latestSequence_iff_past, nothing, List.drop_nil]

theorem next_eventCursor {event : RunEventRecord}
    (last : (s.eventCatchup runId consumerId afterSequence limit).events.getLast? = some event) :
    s.eventCursor runId consumerId (some (UInt64.ofNat event.sequence)) = event.sequence ∧
      past RunEventRecord.sequence (s.eventLog runId) event.sequence =
        (past RunEventRecord.sequence (s.eventLog runId)
          (s.eventCursor runId consumerId afterSequence)).drop (pageSize limit) := by
  rw [eventCatchup_events limit logged below] at last
  obtain ⟨inLog, later⟩ := mem_past.1 (List.mem_of_mem_take (List.mem_of_getLast? last))
  have acknowledged : s.acknowledgedSequence consumerId runId ≤ event.sequence :=
    Store.acknowledgedSequence_le_eventCursor.trans later.le
  have fits : event.sequence < UInt64.size :=
    (logged.lt inLog).trans_le (Nat.div_le_self _ _)
  refine ⟨?_, (logged.eventLog runId).past_last last⟩
  simp only [Store.eventCursor, Option.map_some, Option.getD_some]
  rw [UInt64.toNat_ofNat_of_lt' fits, max_eq_left acknowledged]

end Below

abbrev received (pages : List EventCatchup) : List RunEventRecord := pages.flatMap EventCatchup.events

section Walk

variable (limit) (logged : s.Logged) (found : (s.runs.find runId).isSome) (named : trim consumerId ≠ "")

include found named

theorem eventsAfter_eq (afterSequence : Option UInt64) :
    eventsAfter runId consumerId afterSequence limit s =
      (.ok (s.eventCatchup runId (trim consumerId) afterSequence limit), s) := by
  obtain ⟨run, row⟩ := Option.isSome_iff_exists.1 found
  simp [eventsAfter, required, named, Tx.ofExcept, readRun, expect, row, gets, Bind.bind]

section Logged

include logged

theorem catchUp_below (fuel : Nat) (afterSequence : Option UInt64)
    (below : s.eventCursor runId (trim consumerId) afterSequence < cursorBound)
    (enough : (past RunEventRecord.sequence (s.eventLog runId)
      (s.eventCursor runId (trim consumerId) afterSequence)).length < fuel) :
    ∃ pages, catchUp runId consumerId limit fuel afterSequence s = (.ok pages, s) ∧
      received pages = past RunEventRecord.sequence (s.eventLog runId)
        (s.eventCursor runId (trim consumerId) afterSequence) ∧
      ∀ before page rest, pages = before ++ page :: rest →
        (page.hasMore = true ↔ received rest ≠ []) := by
  induction fuel generalizing afterSequence with
  | zero => exact absurd enough (Nat.not_lt_zero _)
  | succ fuel ih =>
    have events := eventCatchup_events limit logged below
    have more := eventCatchup_hasMore limit logged below
    have next {event} := @next_eventCursor _ _ _ _ limit logged below event
    have asked := eventsAfter_eq limit found named afterSequence
    generalize s.eventCatchup runId (trim consumerId) afterSequence limit = page at *
    generalize past RunEventRecord.sequence (s.eventLog runId)
      (s.eventCursor runId (trim consumerId) afterSequence) = log at *
    by_cases hmore : page.hasMore = true
    · have remain := more.1 hmore
      have nonempty : log ≠ [] := by
        rintro rfl
        exact remain List.drop_nil
      have start : page.events ≠ [] := by
        rw [events, ne_eq, List.take_eq_nil_iff, not_or]
        exact ⟨(pageSize_pos limit).ne', nonempty⟩
      obtain ⟨event, last⟩ : ∃ event, page.events.getLast? = some event :=
        ⟨_, List.getLast?_eq_some_getLast start⟩
      obtain ⟨cursor, rest⟩ := next last
      have fits : event.sequence < cursorBound := by
        obtain ⟨following, member⟩ := List.exists_mem_of_ne_nil _ remain
        rw [← rest, mem_past] at member
        exact member.2.trans (logged.lt member.1)
      obtain ⟨pages, walked, got, flags⟩ := ih (some (UInt64.ofNat event.sequence))
        (by rw [cursor]; exact fits) (by
          rw [cursor, rest, List.length_drop]
          have := List.length_pos_of_ne_nil nonempty
          have := pageSize_pos limit
          omega)
      rw [cursor, rest] at got
      refine ⟨page :: pages, ?_, ?_, ?_⟩
      · simp [catchUp, Bind.bind, asked, hmore, last, walked, Pure.pure]
      · rw [received, List.flatMap_cons, events, ← received, got, List.take_append_drop]
      · intro before page' rest split
        cases before with
        | nil =>
          cases split
          rw [got]
          exact more
        | cons first before =>
          cases split
          exact flags before page' rest rfl
    · have nothing : log.drop (pageSize limit) = [] := not_not.1 fun h => hmore (more.2 h)
      refine ⟨[page], ?_, ?_, ?_⟩
      · simp [catchUp, Bind.bind, asked, hmore, Pure.pure]
      · rw [received, List.flatMap_singleton, events]
        conv_rhs => rw [← List.take_append_drop (pageSize limit) log, nothing, List.append_nil]
      · intro before page' rest split
        cases before with
        | nil =>
          cases split
          simp [hmore]
        | cons first before => simp at split

theorem caughtUp_below (fuel : Nat) (afterSequence : Option UInt64)
    (below : s.eventCursor runId (trim consumerId) afterSequence < cursorBound)
    (enough : (s.eventLog runId).length < fuel) :
    ∃ pages, catchUp runId consumerId limit fuel afterSequence s = (.ok pages, s) ∧
      CaughtUp (s.eventLog runId) (s.eventCursor runId (trim consumerId) afterSequence) pages := by
  have shorter : (past RunEventRecord.sequence (s.eventLog runId)
      (s.eventCursor runId (trim consumerId) afterSequence)).length < fuel :=
    (List.length_filter_le _ _).trans_lt enough
  obtain ⟨pages, walked, got, flags⟩ :=
    catchUp_below limit logged found named fuel afterSequence below shorter
  have ascends := (logged.eventLog runId).filter (s.eventCursor runId (trim consumerId) afterSequence)
  rw [← got] at ascends
  refine ⟨pages, walked, ?_, ascends, ?_⟩
  · intro event
    rw [← received, got, mem_past]
  · intro before page rest split
    have whole : received pages = received (before ++ [page]) ++ received rest := by
      rw [split, ← List.flatMap_append, List.append_assoc, List.singleton_append]
    rw [flags before page rest split]
    constructor
    · intro remain
      obtain ⟨event, later⟩ := List.exists_mem_of_ne_nil _ remain
      have member : event ∈ received pages := by
        rw [whole]
        exact List.mem_append_right _ later
      have past := mem_past.1 (got ▸ member)
      refine ⟨event, past.1, past.2, fun sooner => ?_⟩
      rw [whole] at ascends
      exact lt_irrefl _ ((List.pairwise_append.1 ascends).2.2 event sooner event later)
    · rintro ⟨event, inLog, later, notYet⟩ nothing
      have member : event ∈ received pages := by
        rw [got]
        exact mem_past.2 ⟨inLog, later⟩
      rw [whole, nothing, List.append_nil] at member
      exact notYet member

end Logged

theorem catchUp_succeeds (fuel : Nat) (afterSequence : Option UInt64) :
    ∃ pages, catchUp runId consumerId limit (fuel + 1) afterSequence s =
        (.ok (s.eventCatchup runId (trim consumerId) afterSequence limit :: pages), s) ∧
      ((s.eventCatchup runId (trim consumerId) afterSequence limit).hasMore = false → pages = []) := by
  induction fuel generalizing afterSequence with
  | zero =>
    have asked := eventsAfter_eq limit found named afterSequence
    refine ⟨[], ?_, fun _ => rfl⟩
    cases more : (s.eventCatchup runId (trim consumerId) afterSequence limit).hasMore <;>
      simp [catchUp, Bind.bind, asked, more, Pure.pure]
  | succ fuel ih =>
    have asked := eventsAfter_eq limit found named afterSequence
    generalize s.eventCatchup runId (trim consumerId) afterSequence limit = page at *
    cases more : page.hasMore with
    | false =>
      refine ⟨[], ?_, fun _ => rfl⟩
      rw [catchUp]
      simp [Bind.bind, asked, more, Pure.pure]
    | true =>
      generalize next : (page.events.getLast?.map fun event =>
        UInt64.ofNat event.sequence).or afterSequence = last at *
      obtain ⟨pages, walked, -⟩ := ih last
      refine ⟨s.eventCatchup runId (trim consumerId) last limit :: pages, ?_, nofun⟩
      rw [catchUp]
      simp [Bind.bind, asked, more, next, walked, Pure.pure]

include logged in
theorem caughtUp_above (fuel : Nat) (afterSequence : Option UInt64)
    (above : cursorBound ≤ s.eventCursor runId (trim consumerId) afterSequence) :
    ∃ pages, catchUp runId consumerId limit (fuel + 1) afterSequence s = (.ok pages, s) ∧
      (CaughtUp (s.eventLog runId) (s.eventCursor runId (trim consumerId) afterSequence) pages ↔
        s.eventLog runId = []) := by
  obtain ⟨pages, walked, last⟩ := catchUp_succeeds limit found named fuel afterSequence
  have events : (s.eventCatchup runId (trim consumerId) afterSequence limit).events =
      (s.eventLog runId).take (pageSize limit) := by
    simp only [Store.eventCatchup, logged.selected runId logged.cursor_lt, if_neg above.not_gt]
  refine ⟨_, walked, fun caughtUp => ?_, fun empty => ?_⟩
  · by_contra nonempty
    have start : (s.eventLog runId).take (pageSize limit) ≠ [] := by
      rw [ne_eq, List.take_eq_nil_iff, not_or]
      exact ⟨(pageSize_pos limit).ne', nonempty⟩
    obtain ⟨event, member⟩ := List.exists_mem_of_ne_nil _ start
    obtain ⟨inLog, later⟩ := (caughtUp.every event).1 (by
      rw [List.flatMap_cons, events]
      exact List.mem_append_left _ member)
    exact absurd (logged.lt inLog) (above.trans_lt later).not_gt
  · have done : (s.eventCatchup runId (trim consumerId) afterSequence limit).hasMore = false := by
      rw [empty, List.take_nil] at events
      simp only [Store.eventCatchup] at events ⊢
      rw [events]
      simp only [List.getLast?_nil, decide_eq_false_iff_not, Store.lt_latestSequence, empty]
      simp
    rw [last done, empty]
    rw [empty, List.take_nil] at events
    refine ⟨?_, ?_, ?_⟩
    · simp [events]
    · simp [events, Ascending]
    · intro before page rest split
      cases before with
      | nil =>
        cases split
        simp [done]
      | cons first before => simp at split

end Walk

end Pages

section Acknowledgements

def Store.Numbered (s : Store) : Prop :=
  ∀ i event, s.runEvents[i]? = some event → event.sequence = i + 1

def Store.Acknowledged (s : Store) : Prop :=
  ∀ consumerId runId, s.acknowledgedSequence consumerId runId ≤ s.latestSequence runId

/-- The log grows at its end, and acknowledgements grow with it. -/
structure Store.Advances (s s' : Store) : Prop where
  latest : ∀ runId, s.latestSequence runId ≤ s'.latestSequence runId
  grows : ∀ consumerId runId,
    s.acknowledgedSequence consumerId runId ≤ s'.acknowledgedSequence consumerId runId
  numbered : s.Numbered → s'.Numbered
  acknowledged : s.Acknowledged → s'.Acknowledged

theorem Store.Advances.of_same {s s' : Store} (events : s'.runEvents = s.runEvents)
    (acknowledgements : s'.acknowledgements = s.acknowledgements) : s.Advances s' := by
  have latest (runId : Uuid) : s'.latestSequence runId = s.latestSequence runId := by
    rw [latestSequence, events, latestSequence]
  have ack (consumerId : String) (runId : Uuid) :
      s'.acknowledgedSequence consumerId runId = s.acknowledgedSequence consumerId runId := by
    rw [acknowledgedSequence, acknowledgements, acknowledgedSequence]
  refine ⟨fun runId => (latest runId).ge, fun c r => (ack c r).ge, fun h => ?_, fun h c r => ?_⟩
  · rw [Numbered, events]
    exact h
  · rw [latest, ack]
    exact h c r

instance : Aside Store.Advances where
  refl _ := .of_same rfl rfl
  trans _ _ _ h h' :=
    ⟨fun runId => (h.latest runId).trans (h'.latest runId),
      fun c runId => (h.grows c runId).trans (h'.grows c runId),
      fun numbered => h'.numbered (h.numbered numbered),
      fun acknowledged => h'.acknowledged (h.acknowledged acknowledged)⟩
  runs _ _ := .of_same rfl rfl
  tasks _ _ := .of_same rfl rfl
  messages _ _ := .of_same rfl rfl
  gates _ _ := .of_same rfl rfl
  notifications _ _ := .of_same rfl rfl
  runDecisions _ _ := .of_same rfl rfl
  launchOperations _ _ := .of_same rfl rfl
  launchClaims _ _ := .of_same rfl rfl
  resources _ _ := .of_same rfl rfl

instance : AsideDispatches Store.Advances := ⟨fun _ _ => .of_same rfl rfl⟩

instance : AsideAgents Store.Advances := ⟨fun _ _ => .of_same rfl rfl⟩

instance : AsideOperations Store.Advances := ⟨fun _ _ => .of_same rfl rfl⟩

theorem Store.latestSequence_append (s : Store) (event : RunEventRecord) (runId : Uuid) :
    s.latestSequence runId ≤
      ({ s with runEvents := s.runEvents ++ [event] } : Store).latestSequence runId := by
  apply le_of_forall_lt
  intro c before
  obtain ⟨first, member, later⟩ := lt_latestSequence.1 before
  refine lt_latestSequence.2 ⟨first, ?_, later⟩
  rw [eventLog, List.filter_append]
  exact List.mem_append_left _ member

instance : AsideEvents Store.Advances where
  runEvents s event sequence := by
    have latest := s.latestSequence_append event
    refine ⟨latest, fun _ _ => le_rfl, ?_, fun acknowledged c runId =>
      (acknowledged c runId).trans (latest runId)⟩
    intro numbered i found h
    rcases lt_trichotomy i s.runEvents.length with hi | rfl | hi
    · rw [List.getElem?_append_left hi] at h
      exact numbered i found h
    · rw [List.getElem?_append_right le_rfl, Nat.sub_self] at h
      cases h
      exact sequence
    · rw [List.getElem?_eq_none (by simpa using Nat.succ_le_of_lt hi)] at h
      cases h

/-- `ON CONFLICT … DO UPDATE SET acknowledged_sequence=MAX(…)` -/
theorem Store.acknowledgedSequence_upsert {s s' : Store} {row : EventAcknowledgement}
    {f : EventAcknowledgement → EventAcknowledgement} {hf}
    (h : s'.acknowledgements = (s.acknowledgements.insert? row).getD
      (s.acknowledgements.update (fun a => decide (a.key = row.key)) f hf))
    (larger : ∀ a, (f a).acknowledgedSequence = max a.acknowledgedSequence row.acknowledgedSequence)
    (consumerId : String) (runId : Uuid) :
    s'.acknowledgedSequence consumerId runId =
      if (consumerId, runId) = row.key then
        max (s.acknowledgedSequence consumerId runId) row.acknowledgedSequence
      else s.acknowledgedSequence consumerId runId := by
  simp only [acknowledgedSequence, h]
  cases inserted : s.acknowledgements.insert? row with
  | some table =>
    rw [Option.getD_some, Table.find_insert inserted]
    split
    · rename_i key
      have fresh := (Table.insert?_eq_some.1 inserted).1
      simp [key, fresh]
    · rename_i other
      rw [Function.update_of_ne other]
  | none =>
    rw [Option.getD_none, Table.find_update_key]
    split
    · rename_i key
      have taken : s.acknowledgements.find row.key ≠ none := by
        intro fresh
        rw [Table.insert?, dif_neg (Table.find_eq_none.1 fresh)] at inserted
        cases inserted
      obtain ⟨old, found⟩ := Option.ne_none_iff_exists'.1 taken
      simp [key, found, larger]
    · rename_i other
      rw [modify_of_ne other]

theorem Store.Advances.of_upsert {s s' : Store} {row : EventAcknowledgement}
    {f : EventAcknowledgement → EventAcknowledgement} {hf} (events : s'.runEvents = s.runEvents)
    (h : s'.acknowledgements = (s.acknowledgements.insert? row).getD
      (s.acknowledgements.update (fun a => decide (a.key = row.key)) f hf))
    (larger : ∀ a, (f a).acknowledgedSequence = max a.acknowledgedSequence row.acknowledgedSequence)
    (within : row.acknowledgedSequence ≤ s.latestSequence row.runId) : s.Advances s' := by
  have sequence := acknowledgedSequence_upsert h larger
  have latest (runId : Uuid) : s'.latestSequence runId = s.latestSequence runId := by
    rw [latestSequence, events, latestSequence]
  refine ⟨fun runId => (latest runId).ge, fun c r => ?_, fun numbered => ?_, fun acknowledged c r => ?_⟩
  · rw [sequence]
    split
    · exact le_max_left _ _
    · exact le_rfl
  · rw [Numbered, events]
    exact numbered
  · rw [sequence, latest]
    split
    · rename_i key
      cases key
      exact max_le (acknowledged _ _) within
    · exact acknowledged c r

theorem stored_le (n : Nat) : stored n ≤ n := by
  have le := Nat.mod_le n UInt64.size
  simp only [stored, nonnegative, asI64]
  split <;> omega

theorem acknowledgeEvents_advances {platform : Platform} {env : Env} {operationId : Uuid}
    {request : AcknowledgeEventsRequest} (s : Store) :
    (acknowledgeEvents platform env operationId request).wlp (fun _ => s.Advances) s := by
  simp only [acknowledgeEvents, wlp_bind, wlp_ofExcept]
  intro consumerId _
  apply wlp_mutate_cases
  · exact fun _ _ _ => refl s
  · intro _
    simp only [wlp_bind, wlp_readRun, wlp_gets, wlp_require, wlp_write, wlp_expect, wlp_pure]
    intro run _ _ within _ _ operations _
    exact .of_upsert rfl rfl (fun _ => rfl) ((stored_le _).trans within)

instance (platform : Platform) (call : Call) : Respects Store.Advances (perform platform call) := by
  apply perform_respects
  intro request is
  apply (perform_settled platform call).respects
  intro s
  obtain ⟨operationId, env, op⟩ := call
  cases is
  exact acknowledgeEvents_advances s

theorem run_advances (platform : Platform) (before after : List Call) :
    (run platform before).Advances (run platform (before ++ after)) := by
  induction after using List.reverseRecOn with
  | nil => rw [List.append_nil]; exact refl _
  | append_singleton after call ih =>
    rw [← List.append_assoc, run_snoc]
    exact trans ih (Respects.respects _)

theorem run_acknowledged (platform : Platform) (calls : List Call) :
    (run platform calls).Acknowledged :=
  (run_advances platform [] calls).acknowledged fun _ _ => Nat.zero_le _

theorem run_numbered (platform : Platform) (calls : List Call) : (run platform calls).Numbered :=
  (run_advances platform [] calls).numbered nofun

theorem run_logged (platform : Platform) (calls : List Call)
    (fits : (run platform calls).runEvents.length < cursorBound) : (run platform calls).Logged := by
  have numbered := run_numbered platform calls
  have small : ∀ event ∈ (run platform calls).runEvents, event.sequence < cursorBound := by
    intro event member
    obtain ⟨i, found⟩ := List.mem_iff_getElem?.1 member
    have hi := (List.getElem?_eq_some_iff.1 found).1
    rw [numbered i event found]
    omega
  refine ⟨?_, small, fun consumerId runId => ?_⟩
  · apply List.pairwise_iff_getElem.2
    intro i j hi hj before
    rw [numbered i _ (List.getElem?_eq_getElem hi), numbered j _ (List.getElem?_eq_getElem hj)]
    omega
  · apply (run_acknowledged platform calls consumerId runId).trans_lt
    by_contra large
    obtain ⟨event, member, later⟩ := Store.lt_latestSequence.1
      ((show cursorBound - 1 < cursorBound by decide).trans_le (not_lt.1 large))
    have := small event (List.mem_of_mem_filter member)
    omega

end Acknowledgements

/-- A consumer that reads on from page to page gets the events past its cursor, each once and in
order, exactly when its cursor is an `i64` or there are no events; and its acknowledged sequence
never decreases nor exceeds the latest one. -/
theorem events_caught_up (s : Store) (runId : Uuid) (consumerId : String) (afterSequence : Option UInt64)
    (limit : UInt32) (fuel : Nat) (platform : Platform) (before after : List Call) :
    (s.Logged → (s.runs.find runId).isSome → trim consumerId ≠ "" → (s.eventLog runId).length < fuel →
      ∃ pages, catchUp runId consumerId limit fuel afterSequence s = (.ok pages, s) ∧
        (CaughtUp (s.eventLog runId) (s.eventCursor runId (trim consumerId) afterSequence) pages ↔
          (∀ n ∈ afterSequence, n.toNat < cursorBound) ∨ s.eventLog runId = [])) ∧
      (run platform before).acknowledgedSequence consumerId runId ≤
        (run platform (before ++ after)).acknowledgedSequence consumerId runId ∧
      (run platform before).acknowledgedSequence consumerId runId ≤
        (run platform before).latestSequence runId := by
  refine ⟨fun logged found named enough => ?_, (run_advances platform before after).grows consumerId runId,
    run_acknowledged platform before consumerId runId⟩
  have bounded : s.eventCursor runId (trim consumerId) afterSequence < cursorBound ↔
      ∀ n ∈ afterSequence, n.toNat < cursorBound := by
    have acknowledged := logged.acknowledged (trim consumerId) runId
    cases afterSequence <;> simp [Store.eventCursor, acknowledged]
  rw [← bounded]
  by_cases below : s.eventCursor runId (trim consumerId) afterSequence < cursorBound
  · obtain ⟨pages, walked, caughtUp⟩ :=
      caughtUp_below limit logged found named fuel afterSequence below enough
    exact ⟨pages, walked, fun _ => .inl below, fun _ => caughtUp⟩
  · obtain ⟨fuel, rfl⟩ := Nat.exists_eq_succ_of_ne_zero (Nat.ne_zero_of_lt enough)
    obtain ⟨pages, walked, lost⟩ :=
      caughtUp_above limit logged found named fuel afterSequence (not_lt.1 below)
    exact ⟨pages, walked, lost.trans (or_iff_right below).symm⟩

/-- Two pages bring the two events of a run that has started. -/
theorem startedRun_caught_up :
    ∃ pages, catchUp "run-0" "consumer" 1 3 none (run .plain startedRun) =
        (.ok pages, run .plain startedRun) ∧
      CaughtUp ((run .plain startedRun).eventLog "run-0")
        ((run .plain startedRun).eventCursor "run-0" (trim "consumer") none) pages := by
  have logged := run_logged .plain startedRun (by decide +kernel)
  obtain ⟨pages, walked, caughtUp⟩ := (events_caught_up (run .plain startedRun) "run-0" "consumer"
    none 1 3 .plain [] []).1 logged (by decide +kernel) (by decide +kernel) (by decide +kernel)
  exact ⟨pages, walked, caughtUp.2 (.inl nofun)⟩

/-- A cursor of `2 ^ 63` is past every event, and brings the log from its first event on. -/
theorem startedRun_read_again :
    ∃ pages, catchUp "run-0" "consumer" 1 3 (some (UInt64.ofNat cursorBound)) (run .plain startedRun) =
        (.ok pages, run .plain startedRun) ∧
      ¬CaughtUp ((run .plain startedRun).eventLog "run-0")
        ((run .plain startedRun).eventCursor "run-0" (trim "consumer")
          (some (UInt64.ofNat cursorBound))) pages := by
  have logged := run_logged .plain startedRun (by decide +kernel)
  obtain ⟨pages, walked, lost⟩ := caughtUp_above 1 logged
    (show ((run .plain startedRun).runs.find "run-0").isSome by decide +kernel)
    (show trim "consumer" ≠ "" by decide +kernel) 2 (some (UInt64.ofNat cursorBound))
    (by decide +kernel)
  have nonempty : ((run .plain startedRun).eventLog "run-0").isEmpty = false := by decide +kernel
  refine ⟨pages, walked, fun caughtUp => ?_⟩
  rw [lost.1 caughtUp] at nonempty
  cases nonempty

end VibeLink.Coordinator
