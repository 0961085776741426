import VibeLink.Desktop.Returning

/-! What requests of one connection do to those of a later one. -/

namespace VibeLink.Desktop

open Relational

variable {R N : Type}

def Event.outcome? (req : Req) : Event R N → Option (Outcome R N)
  | .returned other outcome => if other = req then some outcome else none
  | _ => none

def Worker.hands : Worker R N → Bool
  | .routing _ _ | .handing _ _ _ => true
  | _ => false

namespace ClientShared

structure Sound (s : ClientShared R N) : Prop where
  returned : ∀ req outcome, s.Returned req outcome ↔ .returned req outcome ∈ s.log
  once : ∀ req, (s.log.filterMap (Event.outcome? req)).length ≤ 1
  own : ∀ req message, .returned req (.answered message) ∈ s.log → responseReq message = some req
  routed : ∀ generation current, .routed generation current ∈ s.log → generation = current
  failed : ∀ sent other, .failed sent other ∈ s.log →
    ∀ request ∈ s.requests other, ∀ connection ∈ request.sent, connection ≤ sent
  torn : ∀ sent connection, .torn sent connection ∈ s.log → connection ≤ sent

/-- The generation is advanced while no reader has a message to hand on, the writer is replaced while those that are
not written are pending, and a request that has run out of time finds its connection where it was. -/
def Orderly (s : ClientShared R N) : Step R N → Prop
  | .advance => ∀ worker ∈ s.workers, worker.hands = false
  | .connect => ∀ req < s.nextReq, ∀ request ∈ s.requests req, request.phase = .registered → req ∈ s.pending
  | .proceed req _ _ => ∀ request ∈ s.requests req, ∀ sent ∈ request.sent,
    (request.phase = .sweeping → s.pending = [] ∨ s.writer ≤ sent) ∧
    (request.phase = .replacing → s.mayReconnect = false ∨ s.writer ≤ sent)
  | _ => True

section Invariants

variable (s : ClientShared R N)

/-- A request that is or will be written to a connection no later than this one. -/
structure Before (sent : Nat) (other : Req) : Prop where
  known : other < s.nextReq
  written : ∀ request, s.requests other = some request → ∀ connection ∈ request.sent, connection ≤ sent
  unwritten : ∀ request, s.requests other = some request → request.phase = .registered →
    s.writer ≤ sent ∧ other ∉ s.pending

structure Fits (req : Req) (request : Request R N) : Prop where
  sent : ∀ connection ∈ request.sent, connection ≤ s.writer
  channel : ∀ message ∈ request.channel, responseReq message = some req
  taken : ∀ taken, request.phase = .failing taken → ∀ sent ∈ request.sent, ∀ other ∈ taken, s.Before sent other

def Admits : Worker R N → Prop
  | .routing generation _ => generation = s.generation
  | .handing generation req message => generation = s.generation ∧ responseReq message = some req
  | _ => True

def Allows : Event R N → Prop
  | .returned req outcome => s.Returned req outcome ∧ ∀ message, outcome = .answered message → responseReq message = some req
  | .routed generation current => generation = current
  | .failed sent other => s.Before sent other
  | .torn sent connection => connection ≤ sent

structure Safe : Prop where
  fresh : ∀ req, s.nextReq ≤ req → s.requests req = none
  pending : ∀ req ∈ s.pending, req < s.nextReq
  requests : ∀ req request, s.requests req = some request → s.Fits req request
  workers : ∀ worker ∈ s.workers, s.Admits worker
  log : ∀ event ∈ s.log, s.Allows event
  returned : ∀ req outcome, s.Returned req outcome → .returned req outcome ∈ s.log
  once : ∀ req, (s.log.filterMap (Event.outcome? req)).length ≤ 1
  holder : ∀ sent, s.reconnecting = some (.background (some sent), .connecting) → s.writer ≤ sent

end Invariants

/-- What holds of requests and events in one state holds in the other. -/
structure Follows (s t : ClientShared R N) : Prop where
  writer : s.writer ≤ t.writer
  before : ∀ sent other, s.Before sent other → t.Before sent other
  returned : ∀ req outcome, s.Returned req outcome → t.Returned req outcome

section Follows

variable {s t : ClientShared R N} {req : Req} {request request' : Request R N}

theorem Fits.follow (fits : s.Fits req request) (follows : s.Follows t) : t.Fits req request where
  sent connection sent := Nat.le_trans (fits.sent connection sent) follows.writer
  channel := fits.channel
  taken taken failing sent written other member :=
    follows.before _ _ (fits.taken taken failing sent written other member)

theorem Allows.follow {event : Event R N} (allows : s.Allows event) (follows : s.Follows t) : t.Allows event := by
  cases event with
  | returned => exact ⟨follows.returned _ _ allows.1, allows.2⟩
  | routed => exact allows
  | failed => exact follows.before _ _ allows
  | torn => exact allows

theorem Safe.sound (safe : s.Safe) : s.Sound where
  returned req outcome := ⟨safe.returned req outcome, fun member => (safe.log _ member).1⟩
  once := safe.once
  own _ message member := (safe.log _ member).2 message rfl
  routed _ _ member := safe.log _ member
  failed sent other member request found := (safe.log _ member : s.Before sent other).written request found
  torn _ _ member := safe.log _ member

theorem Safe.known (safe : s.Safe) (found : s.requests req = some request) : req < s.nextReq := by
  apply Nat.lt_of_not_le
  intro far
  rw [safe.fresh req far] at found
  cases found

/-- `request'` is `request` some steps later. -/
structure Succeeds (s : ClientShared R N) (request request' : Request R N) : Prop where
  sent : ∀ connection ∈ request'.sent, connection ∈ request.sent ∨ request.phase = .registered ∧ connection = s.writer
  registered : request'.phase = .registered → request.phase = .registered
  returned : ∀ outcome, request.phase = .returned outcome → request'.phase = .returned outcome

theorem Follows.setRequest (found : s.requests req = some request) (succeeds : s.Succeeds request request') :
    s.Follows (s.setRequest req request') where
  writer := Nat.le_refl _
  before sent other before := by
    refine ⟨before.known, fun next there connection written => ?_, fun next there registered => ?_⟩
    · rw [setRequest_requests] at there
      split at there
      · rename_i same
        cases there
        subst same
        cases succeeds.sent connection written with
        | inl old => exact before.written request found connection old
        | inr new =>
          rw [new.2]
          exact (before.unwritten request found new.1).1
      · exact before.written next there connection written
    · rw [setRequest_requests] at there
      split at there
      · rename_i same
        cases there
        subst same
        exact before.unwritten request found (succeeds.registered registered)
      · exact before.unwritten next there registered
  returned other outcome := by
    rintro ⟨old, there, returned⟩
    by_cases same : other = req
    · subst same
      rw [found] at there
      cases there
      exact ⟨request', by rw [setRequest_requests, if_pos rfl], succeeds.returned outcome returned⟩
    · exact ⟨old, by rw [setRequest_requests, if_neg same, there], returned⟩

theorem Safe.setRequest (safe : s.Safe) (found : s.requests req = some request) (succeeds : s.Succeeds request request')
    (returns : ∀ outcome, request'.phase = .returned outcome → request.phase = .returned outcome)
    (fits : s.Fits req request') : (s.setRequest req request').Safe := by
  have follows := Follows.setRequest found succeeds
  refine ⟨fun other far => ?_, safe.pending, fun other next there => ?_, safe.workers,
    fun event member => (safe.log event member).follow follows, fun other outcome returned => ?_, safe.once, safe.holder⟩
  · rw [setRequest_requests, if_neg (Nat.ne_of_gt (Nat.lt_of_lt_of_le (safe.known found) far))]
    exact safe.fresh other far
  · rw [setRequest_requests] at there
    split at there
    · rename_i same
      cases there
      subst same
      exact fits.follow follows
    · exact (safe.requests other next there).follow follows
  · apply safe.returned other outcome
    obtain ⟨next, there, returned⟩ := returned
    rw [setRequest_requests] at there
    split at there
    · rename_i same
      cases there
      subst same
      exact ⟨request, found, returns outcome returned⟩
    · exact ⟨next, there, returned⟩

theorem Follows.offer (message : DaemonToClient R N) : s.Follows (s.offer req message) := by
  have refl : s.Follows s := ⟨Nat.le_refl _, fun _ _ => id, fun _ _ => id⟩
  rw [ClientShared.offer]
  split
  · rename_i request found
    split
    · exact refl
    · exact .setRequest found ⟨fun _ => .inl, id, fun _ => id⟩
  · exact refl

theorem Safe.offer {message : DaemonToClient R N} (safe : s.Safe) (own : responseReq message = some req) :
    (s.offer req message).Safe := by
  rw [ClientShared.offer]
  split
  · rename_i request found
    split
    · exact safe
    · have fits := safe.requests req request found
      refine safe.setRequest found ⟨fun _ => .inl, id, fun _ => id⟩ (fun _ => id) ⟨fits.sent, fun _ same => ?_, fits.taken⟩
      cases same
      exact own
  · exact safe

theorem Follows.update {pending : List Req} {workers : List (Worker R N)} {reconnecting : Option (Holder × Stage)}
    {shuttingDown : Bool} (shrinks : ∀ req ∈ pending, req ∈ s.pending) :
    s.Follows { s with pending, workers, reconnecting, shuttingDown } where
  writer := Nat.le_refl _
  before _ other before := ⟨before.known, before.written, fun request found registered =>
    ⟨(before.unwritten request found registered).1,
      fun member => (before.unwritten request found registered).2 (shrinks other member)⟩⟩
  returned _ _ returned := returned

theorem Safe.update {pending : List Req} {workers : List (Worker R N)} {reconnecting : Option (Holder × Stage)}
    {shuttingDown : Bool} (safe : s.Safe) (shrinks : ∀ req ∈ pending, req ∈ s.pending)
    (admits : ∀ worker ∈ workers, s.Admits worker)
    (holder : ∀ sent, reconnecting = some (.background (some sent), .connecting) → s.writer ≤ sent) :
    Safe { s with pending, workers, reconnecting, shuttingDown } where
  fresh := safe.fresh
  pending req member := safe.pending req (shrinks req member)
  requests req request found := (safe.requests req request found).follow (.update shrinks)
  workers worker member := by
    cases worker with
    | routing => exact admits _ member
    | handing => exact admits _ member
    | _ => trivial
  log event member := (safe.log event member).follow (.update shrinks)
  returned := safe.returned
  once := safe.once
  holder := holder

theorem Safe.setWorker {i : Nat} {worker : Worker R N} (safe : s.Safe) (admits : s.Admits worker) :
    (s.setWorker i worker).Safe := by
  refine safe.update (fun _ => id) (fun other member => ?_) safe.holder
  cases List.mem_or_eq_of_mem_set member with
  | inl before => exact safe.workers other before
  | inr new =>
    rw [new]
    exact admits

theorem Safe.hire {worker : Worker R N} {shuttingDown : Bool} (safe : s.Safe) (admits : s.Admits worker) :
    Safe { s with shuttingDown, workers := s.workers ++ [worker] } := by
  refine safe.update (fun _ => id) (fun other member => ?_) safe.holder
  cases List.mem_append.1 member with
  | inl before => exact safe.workers other before
  | inr new =>
    rw [List.mem_singleton.1 new]
    exact admits

theorem Safe.removePending (safe : s.Safe) (req : Req) : (s.removePending req).Safe :=
  safe.update (fun _ member => (List.mem_filter.1 member).1) safe.workers safe.holder

theorem Safe.takePending (safe : s.Safe) : s.takePending.Safe :=
  safe.update (fun _ member => (nomatch member)) safe.workers safe.holder

theorem Safe.finishReconnect (safe : s.Safe) : s.finishReconnect.Safe :=
  safe.update (fun _ => id) safe.workers fun _ same => (nomatch same)

theorem Safe.beginReconnect {holder : Holder} (safe : s.Safe)
    (first : ∀ sent, holder = .background (some sent) → s.mayReconnect = false ∨ s.writer ≤ sent) :
    (s.beginReconnect holder).Safe := by
  rw [ClientShared.beginReconnect]
  split
  · rename_i may
    refine safe.update (fun _ => id) safe.workers fun sent same => ?_
    cases same
    cases first sent rfl with
    | inl not => cases may.symm.trans not
    | inr before => exact before
  · exact safe

theorem Follows.note (event : Event R N) : s.Follows (s.note event) where
  writer := Nat.le_refl _
  before _ _ before := ⟨before.known, before.written, before.unwritten⟩
  returned _ _ returned := returned

theorem Safe.note {event : Event R N} (safe : s.Safe) (allows : s.Allows event)
    (silent : ∀ req, event.outcome? req = none) : (s.note event).Safe where
  fresh := safe.fresh
  pending := safe.pending
  requests req request found := (safe.requests req request found).follow (.note event)
  workers := safe.workers
  log other member := by
    cases List.mem_append.1 member with
    | inl before => exact (safe.log other before).follow (.note event)
    | inr new =>
      rw [List.mem_singleton.1 new]
      exact allows.follow (.note event)
  returned req outcome returned := List.mem_append_left _ (safe.returned req outcome returned)
  once req := by
    rw [ClientShared.note, List.filterMap_append, List.filterMap_cons_none (silent req), List.filterMap_nil,
      List.append_nil]
    exact safe.once req
  holder := safe.holder

theorem Safe.ends {outcome : Outcome R N} (safe : s.Safe) (found : s.requests req = some request)
    (first : ∀ outcome, request.phase ≠ .returned outcome)
    (own : ∀ message, outcome = .answered message → responseReq message = some req) :
    (s.ends req request outcome).Safe := by
  have succeeds : s.Succeeds request { request with phase := .returned outcome } :=
    ⟨fun _ => .inl, fun same => (by cases same), fun outcome returned => absurd returned (first outcome)⟩
  have follows := Follows.setRequest found succeeds
  have fits := safe.requests req request found
  have none_ : s.log.filterMap (Event.outcome? req) = [] := by
    rw [List.filterMap_eq_nil_iff]
    intro event member
    cases event with
    | returned other old =>
      rw [Event.outcome?]
      split
      · rename_i same
        obtain ⟨before, there, returned⟩ := (safe.log _ member).1
        rw [same, found] at there
        cases there
        exact absurd returned (first old)
      · rfl
    | _ => rfl
  refine ⟨fun other far => ?_, safe.pending, fun other next there => ?_, safe.workers, fun event member => ?_,
    fun other old returned => ?_, fun other => ?_, safe.holder⟩
  · rw [ClientShared.ends, ClientShared.note, ClientShared.become, setRequest_requests, if_neg (Nat.ne_of_gt (Nat.lt_of_lt_of_le (safe.known found) far))]
    exact safe.fresh other far
  · rw [ClientShared.ends, ClientShared.note, ClientShared.become, setRequest_requests] at there
    split at there
    · rename_i same
      cases there
      subst same
      have fits' : s.Fits other { request with phase := .returned outcome } :=
        ⟨fits.sent, fits.channel, fun _ failing => by cases failing⟩
      exact (fits'.follow follows).follow (.note _)
    · exact ((safe.requests other next there).follow follows).follow (.note _)
  · cases List.mem_append.1 member with
    | inl before => exact ((safe.log event before).follow follows).follow (.note _)
    | inr new =>
      rw [List.mem_singleton.1 new]
      exact ⟨⟨_, by rw [ClientShared.ends, ClientShared.note, ClientShared.become, setRequest_requests, if_pos rfl], rfl⟩, own⟩
  · obtain ⟨next, there, returned⟩ := returned
    rw [ClientShared.ends, ClientShared.note, ClientShared.become, setRequest_requests] at there
    split at there
    · rename_i same
      cases there
      cases returned
      rw [same]
      exact List.mem_append_right _ (List.mem_singleton_self _)
    · exact List.mem_append_left _ (safe.returned other old ⟨next, there, returned⟩)
  · rw [ClientShared.ends, ClientShared.note, ClientShared.become, ClientShared.setRequest, List.filterMap_append]
    by_cases same : other = req
    · rw [same, none_]
      exact List.length_filterMap_le _ _
    · have silent : (Event.returned req outcome).outcome? other = none := if_neg (Ne.symm same)
      rw [List.filterMap_cons_none silent, List.filterMap_nil, List.append_nil]
      exact safe.once other

theorem Safe.register (safe : s.Safe) (timeout : Nat) : (s.next (.request timeout)).Safe := by
  have requests_ (req : Req) : (s.next (.request timeout)).requests req =
      if req = s.nextReq then some ⟨.registered, timeout, none, none⟩ else s.requests req := Function.update_apply _ _ _ _
  have follows : s.Follows (s.next (.request timeout)) := by
    refine ⟨Nat.le_refl _, fun sent other before => ?_, fun req outcome returned => ?_⟩
    · have ne : other ≠ s.nextReq := Nat.ne_of_lt before.known
      refine ⟨Nat.lt_succ_of_lt before.known, fun request found => ?_, fun request found registered => ?_⟩
      · rw [requests_, if_neg ne] at found
        exact before.written request found
      · rw [requests_, if_neg ne] at found
        obtain ⟨writer, away⟩ := before.unwritten request found registered
        refine ⟨writer, fun member => ?_⟩
        cases List.mem_append.1 member with
        | inl old => exact away old
        | inr new => exact ne (List.mem_singleton.1 new)
    · obtain ⟨request, found, returned⟩ := returned
      exact ⟨request, by rw [requests_, if_neg (Nat.ne_of_lt (safe.known found)), found], returned⟩
  refine ⟨fun req far => ?_, fun req member => ?_, fun req request found => ?_, safe.workers,
    fun event member => (safe.log event member).follow follows, fun req outcome returned => ?_, safe.once, safe.holder⟩
  · rw [requests_, if_neg (Nat.ne_of_gt far)]
    exact safe.fresh req (Nat.le_of_succ_le far)
  · cases List.mem_append.1 member with
    | inl old => exact Nat.lt_succ_of_lt (safe.pending req old)
    | inr new =>
      rw [List.mem_singleton.1 new]
      exact Nat.lt_succ_self _
  · rw [requests_] at found
    split at found
    · cases found
      exact ⟨nofun, nofun, fun _ failing => nomatch failing⟩
    · exact (safe.requests req request found).follow follows
  · obtain ⟨request, found, returned⟩ := returned
    rw [requests_] at found
    split at found
    · cases found
      cases returned
    · exact safe.returned req outcome ⟨request, found, returned⟩

theorem Safe.advance {holder : Holder} (safe : s.Safe) (quiet : ∀ worker ∈ s.workers, worker.hands = false) :
    Safe { s with generation := s.generation + 1, reconnecting := some (holder, .advanced) } where
  fresh := safe.fresh
  pending := safe.pending
  requests req request found := (safe.requests req request found).follow
    ⟨Nat.le_refl _, fun _ _ before => ⟨before.known, before.written, before.unwritten⟩, fun _ _ => id⟩
  workers worker member := by
    cases worker with
    | routing => exact absurd (quiet _ member) nofun
    | handing => exact absurd (quiet _ member) nofun
    | _ => trivial
  log event member := (safe.log event member).follow
    ⟨Nat.le_refl _, fun _ _ before => ⟨before.known, before.written, before.unwritten⟩, fun _ _ => id⟩
  returned := safe.returned
  once := safe.once
  holder _ same := nomatch same

theorem Safe.connect {holder : Holder} (safe : s.Safe)
    (pending : ∀ req < s.nextReq, ∀ request ∈ s.requests req, request.phase = .registered → req ∈ s.pending) :
    Safe { s with writer := s.writer + 1, reconnecting := some (holder, .swapped) } := by
  have follows : s.Follows { s with writer := s.writer + 1, reconnecting := some (holder, .swapped) } := by
    refine ⟨Nat.le_succ _, fun sent other before => ?_, fun _ _ => id⟩
    refine ⟨before.known, before.written, fun request found registered => ?_⟩
    exact absurd (pending other before.known request found registered) (before.unwritten request found registered).2
  exact ⟨safe.fresh, safe.pending, fun req request found => (safe.requests req request found).follow follows,
    safe.workers, fun event member => (safe.log event member).follow follows, safe.returned, safe.once,
    fun _ same => nomatch same⟩

theorem Safe.become {phase : Phase R N} (safe : s.Safe) (found : s.requests req = some request)
    (first : ∀ outcome, request.phase ≠ .returned outcome) (later : phase ≠ .registered)
    (unfinished : ∀ outcome, phase ≠ .returned outcome)
    (taken : ∀ taken, phase = .failing taken → ∀ sent ∈ request.sent, ∀ other ∈ taken, s.Before sent other) :
    (s.become req request phase).Safe := by
  have fits := safe.requests req request found
  refine safe.setRequest found ⟨fun _ => .inl, fun same => absurd same later, fun outcome same =>
    absurd same (first outcome)⟩ (fun outcome same => absurd same (unfinished outcome)) ⟨fits.sent, fits.channel, taken⟩

theorem Safe.work {worker : Worker R N} (safe : s.Safe) (i pick : Nat) (there : worker ∈ s.workers) :
    (s.work i pick worker).Safe := by
  cases worker with
  | got generation message =>
    rw [ClientShared.work]
    split
    · rename_i current
      exact safe.setWorker (of_decide_eq_true current).symm
    · exact safe.setWorker trivial
  | routing generation message =>
    have same := safe.workers _ there
    have noted := @Safe.note _ _ _ (.routed generation s.generation) safe same fun _ => rfl
    simp only [ClientShared.work]
    split
    · rename_i req response
      split
      · exact (noted.removePending req).setWorker ⟨same, response⟩
      · exact noted.setWorker trivial
    · exact noted.setWorker trivial
  | handing generation req message =>
    obtain ⟨same, own⟩ := safe.workers _ there
    have noted := @Safe.note _ _ _ (.routed generation s.generation) (safe.offer own) same fun _ => rfl
    exact noted.setWorker trivial
  | lost =>
    rw [ClientShared.work]
    split
    · exact safe.setWorker trivial
    · exact safe.setWorker trivial
  | sweeping => exact safe.takePending.setWorker trivial
  | failing taken message reconnects =>
    rw [ClientShared.work]
    split
    · exact (safe.offer rfl).setWorker trivial
    · split
      · exact safe.setWorker trivial
      · exact safe.setWorker trivial
  | beginning =>
    rw [ClientShared.work]
    have begun : (s.beginReconnect (.worker i)).Safe := safe.beginReconnect fun _ same => by cases same
    refine begun.setWorker ?_
    split
    · trivial
    · trivial
  | reading => exact safe
  | reconnecting => exact safe
  | ended => exact safe

theorem Before.of_pending {sent : Nat} (safe : s.Safe) (before : s.pending = [] ∨ s.writer ≤ sent) {other : Req}
    (member : other ∈ s.pending) : s.takePending.Before sent other := by
  have late : s.writer ≤ sent := by
    cases before with
    | inl nothing =>
      rw [nothing] at member
      cases member
    | inr late => exact late
  exact ⟨safe.pending other member, fun request found connection written =>
    Nat.le_trans ((safe.requests other request found).sent connection written) late, fun _ _ _ => ⟨late, nofun⟩⟩

theorem Safe.proceed {written : Bool} {pick : Nat} (safe : s.Safe) (found : s.requests req = some request)
    (orderly : s.Orderly (.proceed req written pick)) : (s.proceed req request written pick).Safe := by
  have fits := safe.requests req request found
  have order := orderly request found
  obtain ⟨phase, timeout, sent, channel⟩ := request
  cases phase with
  | registered =>
    dsimp only [ClientShared.proceed]
    split
    · refine safe.setRequest found ⟨fun connection same => .inr ⟨rfl, ?_⟩, nofun, nofun⟩ nofun
        ⟨fun connection same => ?_, fits.channel, fun _ failing => nomatch failing⟩
      · cases same
        rfl
      · cases same
        exact Nat.le_refl _
    · exact safe.become found nofun nofun nofun fun _ failing => nomatch failing
  | refused =>
    have begun : (s.beginReconnect (.background none)).Safe := safe.beginReconnect fun _ same => by cases same
    exact begun.become ((beginReconnect_requests _ ▸ found :)) nofun nofun nofun fun _ failing => nomatch failing
  | withdrawn error => exact (safe.removePending req).ends found nofun nofun
  | waiting =>
    cases channel with
    | some message =>
      refine safe.ends found nofun fun _ same => ?_
      cases same
      exact fits.channel message rfl
    | none =>
      dsimp only [ClientShared.proceed]
      split
      · exact safe.become found nofun nofun nofun fun _ failing => nomatch failing
      · exact safe.become found nofun nofun nofun fun _ failing => nomatch failing
  | late => exact (safe.removePending req).become found nofun nofun nofun fun _ failing => nomatch failing
  | sweeping =>
    refine safe.takePending.become found nofun nofun nofun fun taken failing connection written other member => ?_
    cases failing
    exact .of_pending safe ((order connection written).1 rfl) member
  | failing taken =>
    dsimp only [ClientShared.proceed]
    split
    · rename_i other rest picked
      obtain ⟨head, tail⟩ := mem_of_pickOf picked
      have follows := @Follows.setRequest _ _ _ _ _ ⟨.failing rest, timeout, sent, channel⟩ found
        ⟨fun _ => .inl, nofun, nofun⟩
      have goes : (s.become req ⟨.failing taken, timeout, sent, channel⟩ (.failing rest)).Safe := by
        refine safe.become found nofun nofun nofun fun others failing connection written next member => ?_
        cases failing
        exact fits.taken taken rfl connection written next (tail next member)
      have offered := @Safe.offer _ _ _ other (.error (some other) (stalledText req timeout)) goes rfl
      cases sent with
      | none => exact offered
      | some connection =>
        exact @Safe.note _ _ _ (.failed connection other) offered
          ((Follows.offer _).before _ _ (follows.before _ _ (fits.taken taken rfl connection rfl other head)))
          fun _ => rfl
    · exact safe.become found nofun nofun nofun fun _ failing => nomatch failing
  | replacing =>
    have begun : (s.beginReconnect (.background sent)).Safe := safe.beginReconnect fun connection same => by
      cases same
      exact (order connection rfl).2 rfl
    exact begun.ends ((beginReconnect_requests _ ▸ found :)) nofun nofun
  | returned => exact safe

theorem Safe.conclude {holder : Holder} {connected : Bool} (safe : s.Safe) : (s.conclude holder connected).Safe := by
  have finished := safe.finishReconnect
  cases holder with
  | worker i =>
    refine finished.setWorker ?_
    cases connected with
    | true => trivial
    | false => trivial
  | background =>
    cases connected with
    | true => exact @Safe.hire _ _ _ (.reading s.generation) _ finished trivial
    | false => exact finished
  | restart => exact finished

theorem Safe.next {step : Step R N} (safe : s.Safe) (orderly : s.Orderly step) : (s.next step).Safe := by
  cases step with
  | request timeout => exact safe.register timeout
  | proceed req written pick =>
    simp only [ClientShared.next]
    split
    · rename_i request found
      exact safe.proceed found orderly
    · exact safe
  | send written =>
    simp only [ClientShared.next]
    split
    · exact safe
    · exact safe.beginReconnect fun _ same => by cases same
  | read i message =>
    simp only [ClientShared.next]
    split
    · exact safe.setWorker trivial
    · exact safe
  | lose i error =>
    simp only [ClientShared.next]
    split
    · exact safe.setWorker trivial
    · exact safe
  | work i pick =>
    simp only [ClientShared.next]
    split
    · rename_i worker there
      exact safe.work i pick (List.mem_of_getElem? there)
    · exact safe
  | restart => exact safe.beginReconnect fun _ same => by cases same
  | stop =>
    simp only [ClientShared.next]
    split
    · split
      · exact safe.conclude
      · exact safe
    · exact safe
  | connect =>
    simp only [ClientShared.next]
    split
    · rename_i holder stage
      have connected := @Safe.connect _ _ _ holder safe orderly
      split
      · rename_i sent
        exact @Safe.note _ _ _ (.torn sent s.writer) connected (safe.holder sent stage) fun _ => rfl
      · exact connected
    · exact safe
  | advance =>
    simp only [ClientShared.next]
    split
    · rename_i holder stage
      have advanced := @Safe.advance _ _ _ holder safe orderly
      split
      · exact @Safe.hire _ _ _ (.reading (s.generation + 1)) _ advanced trivial
      · exact advanced
    · exact safe
  | conclude registered =>
    simp only [ClientShared.next]
    split
    · exact safe.conclude
    · exact safe
  | shutDown => exact safe.hire trivial

theorem Safe.initial : (initial : ClientShared R N).Safe where
  fresh _ _ := rfl
  pending _ member := nomatch member
  requests _ _ found := nomatch found
  workers worker member := by
    rw [List.mem_singleton.1 member]
    trivial
  log _ member := nomatch member
  returned _ _ returned := by
    obtain ⟨_, found, _⟩ := returned
    cases found
  once _ := Nat.zero_le _
  holder _ same := nomatch same

end Follows

section Runs

/-- A request has one outcome, and does nothing to those of a later connection. -/
theorem requests_keep_to_their_connection (steps : List (Step R N))
    (orderly : Throughout next Orderly initial steps) :
    (run steps).Sound ∧ ∀ req request, (run steps).requests req = some request →
      ∀ schedule : Nat → Step R N, (∀ n, ∃ m, n ≤ m ∧ (schedule m).of req) →
        ∃ n outcome, (after next schedule (run steps) n).Returned req outcome := by
  have safe : (run steps).Safe := run_invariant (fun _ _ => Safe.next) Safe.initial orderly
  exact ⟨safe.sound, fun req request there _ fair => returns (safe.known there) there fair⟩

end Runs

instance (s : ClientShared R N) (step : Step R N) [DecidableEq R] [DecidableEq N] : Decidable (s.Orderly step) := by
  cases step with
  | advance => exact inferInstanceAs (Decidable (∀ worker ∈ s.workers, worker.hands = false))
  | connect => exact inferInstanceAs (Decidable (∀ req < s.nextReq, ∀ request ∈ s.requests req,
      request.phase = .registered → req ∈ s.pending))
  | proceed req => exact inferInstanceAs (Decidable (∀ request ∈ s.requests req, ∀ sent ∈ request.sent,
      (request.phase = .sweeping → s.pending = [] ∨ s.writer ≤ sent) ∧
      (request.phase = .replacing → s.mayReconnect = false ∨ s.writer ≤ sent)))
  | _ => exact inferInstanceAs (Decidable True)

section Stalled

/-- The first request runs out of time, and the second is answered on the connection that comes then. -/
def stalled : List (Step Unit Unit) :=
  [.request 10000, .proceed 1 true 0, .proceed 1 true 0, .proceed 1 true 0, .proceed 1 true 0, .proceed 1 true 0,
    .proceed 1 true 0, .connect, .advance, .conclude true, .request 10000, .proceed 2 true 0, .read 1 (.pong 2),
    .work 1 0, .work 1 0, .work 1 0, .proceed 2 true 0]

theorem answered_behind_stalled : (run stalled).Sound :=
  (requests_keep_to_their_connection stalled (by decide +kernel)).1

/-- A request that is written behind the failing of the others and before the writer is replaced fails, when it runs
out of time, a request of the next connection. -/
theorem not_every_request_keeps : ¬∀ steps : List (Step Unit Unit), (run steps).Sound := by
  intro sound
  have failed := (sound
    [.request 10000, .proceed 1 true 0, .proceed 1 true 0, .proceed 1 true 0, .proceed 1 true 0,
      .request 10000, .proceed 2 true 0,
      .proceed 1 true 0, .proceed 1 true 0, .connect, .advance, .conclude true,
      .request 10000, .proceed 3 true 0,
      .proceed 2 true 0, .proceed 2 true 0, .proceed 2 true 0, .proceed 2 true 0]).failed 0 3 (by decide +kernel)
  exact absurd (failed _ rfl 1 rfl) (by decide)

end Stalled

end ClientShared

end VibeLink.Desktop
