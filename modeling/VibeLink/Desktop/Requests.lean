import VibeLink.Relational.Runs
import Mathlib.Logic.Function.Basic
import Mathlib.Data.List.Rotate

/-! The requests of a client to the daemon, its readers, and the replacement of its connection (`app/daemon_client.rs`).
`R` are the results that the daemon replies with, `N` what it says without being asked. -/

namespace VibeLink.Desktop

abbrev Req := Nat

variable {R N : Type}

inductive DaemonToClient (R N : Type)
  | pong (req : Req)
  | reply (req : Req) (result : R)
  | error (req : Option Req) (message : String)
  | notice (notice : N)
  deriving DecidableEq

def responseReq : DaemonToClient R N → Option Req
  | .pong req | .reply req _ => some req
  | .error req _ => req
  | .notice _ => none

inductive Outcome (R N : Type)
  | answered (message : DaemonToClient R N)
  | failed (error : String)
  deriving DecidableEq

/-- Where a request stands between two of its steps. -/
inductive Phase (R N : Type)
  /-- It has been put among the pending ones. -/
  | registered
  /-- It could not be written. -/
  | refused
  /-- All that is left is to take it from the pending ones. -/
  | withdrawn (error : String)
  | waiting
  /-- It has run out of time. -/
  | late
  | sweeping
  | failing (taken : List Req)
  | replacing
  | returned (outcome : Outcome R N)
  deriving DecidableEq

structure Request (R N : Type) where
  phase : Phase R N
  timeout : Nat
  /-- The connection it was written to: a ghost that no step reads. -/
  sent : Option Nat
  /-- The room for one message. -/
  channel : Option (DaemonToClient R N)
  deriving DecidableEq

/-- Where a reader, or a thread that fails the pending requests, stands between two of its steps. -/
inductive Worker (R N : Type)
  | reading (generation : Nat)
  | got (generation : Nat) (message : DaemonToClient R N)
  | routing (generation : Nat) (message : DaemonToClient R N)
  /-- It has taken a request from the pending ones. -/
  | handing (generation : Nat) (req : Req) (message : DaemonToClient R N)
  | lost (generation : Nat) (error : String)
  | sweeping (message : String) (reconnects : Bool)
  | failing (taken : List Req) (message : String) (reconnects : Bool)
  | beginning
  /-- It replaces the connection. -/
  | reconnecting
  | ended
  deriving DecidableEq

/-- Who replaces the connection: the worker at a place, a thread that was started for it, or `restart`.
Of such a thread the ghost is what the request was sent on that has started it. -/
inductive Holder
  | worker (i : Nat)
  | background (cause : Option Nat)
  | restart
  deriving DecidableEq

inductive Stage
  | connecting
  /-- The writer has been replaced. -/
  | swapped
  /-- The generation has been advanced. -/
  | advanced
  deriving DecidableEq

inductive Event (R N : Type)
  | returned (req : Req) (outcome : Outcome R N)
  /-- A message of one generation has been routed in another. -/
  | routed (generation current : Nat)
  /-- A request that was sent on a connection and never answered has failed another. -/
  | failed (sent : Nat) (other : Req)
  /-- A request that was sent on a connection and never answered has torn one down. -/
  | torn (sent connection : Nat)
  deriving DecidableEq

structure ClientShared (R N : Type) where
  /-- The number of the connection that is written to. -/
  writer : Nat
  generation : Nat
  shuttingDown : Bool
  /-- Whether the connection is being replaced, and if so how far that is. -/
  reconnecting : Option (Holder × Stage)
  nextReq : Req
  pending : List Req
  requests : Req → Option (Request R N)
  workers : List (Worker R N)
  log : List (Event R N)

namespace ClientShared

def initial : ClientShared R N where
  writer := 0
  generation := 0
  shuttingDown := false
  reconnecting := none
  nextReq := 1
  pending := []
  requests := fun _ => none
  workers := [.reading 0]
  log := []

section Operations

variable (s : ClientShared R N)

def note (event : Event R N) : ClientShared R N := { s with log := s.log ++ [event] }

def setRequest (req : Req) (request : Request R N) : ClientShared R N :=
  { s with requests := Function.update s.requests req (some request) }

def setWorker (i : Nat) (worker : Worker R N) : ClientShared R N := { s with workers := s.workers.set i worker }

/-- `try_send` of a message to the one that waits for it. -/
def offer (req : Req) (message : DaemonToClient R N) : ClientShared R N :=
  match s.requests req with
  | some request =>
    if request.channel.isSome then s else s.setRequest req { request with channel := some message }
  | none => s

def removePending (req : Req) : ClientShared R N := { s with pending := s.pending.filter (· ≠ req) }

def takePending : ClientShared R N := { s with pending := [] }

def reconnectIsAllowed (shuttingDown reconnecting : Bool) : Bool := !shuttingDown && !reconnecting

def mayReconnect : Bool := reconnectIsAllowed s.shuttingDown s.reconnecting.isSome

def beginReconnect (holder : Holder) : ClientShared R N :=
  if s.mayReconnect then { s with reconnecting := some (holder, .connecting) } else s

def finishReconnect : ClientShared R N := { s with reconnecting := none }

/-- Whether somebody still has the other end of a request's channel. -/
def listened (req : Req) : Bool :=
  req ∈ s.pending ∨ (s.workers.any fun worker => match worker with
    | .handing _ other _ => req = other
    | .failing taken _ _ => req ∈ taken
    | _ => false) ∨ (List.range s.nextReq).any fun other => match (s.requests other).map Request.phase with
      | some (.failing taken) => req ∈ taken
      | _ => false

def readerGenerationIsCurrent (currentGeneration readerGeneration : Nat) : Bool := currentGeneration = readerGeneration

end Operations

end ClientShared

def timeoutText (req : Req) (timeout : Nat) : String := s!"daemon request {req} timed out after {timeout}ms"

def stalledText (req : Req) (timeout : Nat) : String := s!"daemon connection stalled: {timeoutText req timeout}"

def closedText (req : Req) : String := s!"daemon request {req} response channel closed"

def pickOf (taken : List Req) (pick : Nat) : Option (Req × List Req) :=
  match taken.rotate pick with
  | [] => none
  | req :: rest => some (req, rest)

namespace ClientShared

def become (s : ClientShared R N) (req : Req) (request : Request R N) (phase : Phase R N) : ClientShared R N :=
  s.setRequest req { request with phase }

def ends (s : ClientShared R N) (req : Req) (request : Request R N) (outcome : Outcome R N) : ClientShared R N :=
  (s.become req request (.returned outcome)).note (.returned req outcome)

/-- One step of a request.  The world says whether it can be written, and which of those that fail is the next. -/
def proceed (s : ClientShared R N) (req : Req) (request : Request R N) (written : Bool) (pick : Nat) : ClientShared R N :=
  match request.phase with
  | .registered =>
    if written then s.setRequest req { request with phase := .waiting, sent := some s.writer }
    else s.become req request .refused
  | .refused => (s.beginReconnect (.background none)).become req request (.withdrawn "write daemon message")
  | .withdrawn error => (s.removePending req).ends req request (.failed error)
  | .waiting => match request.channel with
    | some message => s.ends req request (.answered message)
    | none => if s.listened req then s.become req request .late else s.become req request (.withdrawn (closedText req))
  | .late => (s.removePending req).become req request .sweeping
  | .sweeping => s.takePending.become req request (.failing s.pending)
  | .failing taken => match pickOf taken pick with
    | some (other, rest) =>
      let after := (s.become req request (.failing rest)).offer other (.error (some other) (stalledText req request.timeout))
      match request.sent with
      | some sent => after.note (.failed sent other)
      | none => after
    | none => s.become req request .replacing
  | .replacing =>
    (s.beginReconnect (.background request.sent)).ends req request (.failed (timeoutText req request.timeout))
  | .returned _ => s

def work (s : ClientShared R N) (i : Nat) (pick : Nat) : Worker R N → ClientShared R N
  | .got generation message =>
    if readerGenerationIsCurrent s.generation generation then s.setWorker i (.routing generation message)
    else s.setWorker i .ended
  | .routing generation message =>
    let s' := s.note (.routed generation s.generation)
    match responseReq message with
    | some req =>
      if req ∈ s.pending then (s'.removePending req).setWorker i (.handing generation req message)
      else s'.setWorker i (.reading generation)
    | none => s'.setWorker i (.reading generation)
  | .handing generation req message =>
    ((s.offer req message).note (.routed generation s.generation)).setWorker i (.reading generation)
  | .lost generation error =>
    if readerGenerationIsCurrent s.generation generation then
      s.setWorker i (.sweeping s!"daemon connection lost: {error}" true)
    else s.setWorker i .ended
  | .sweeping message reconnects => s.takePending.setWorker i (.failing s.pending message reconnects)
  | .failing taken message reconnects => match pickOf taken pick with
    | some (other, rest) =>
      (s.offer other (.error (some other) message)).setWorker i (.failing rest message reconnects)
    | none => s.setWorker i (if reconnects then .beginning else .ended)
  | .beginning =>
    (s.beginReconnect (.worker i)).setWorker i (if s.mayReconnect then .reconnecting else .ended)
  | .reading _ | .reconnecting | .ended => s

end ClientShared

inductive Step (R N : Type)
  | request (timeout : Nat)
  | proceed (req : Req) (written : Bool) (pick : Nat)
  /-- A message that wants no answer. -/
  | send (written : Bool)
  | read (worker : Nat) (message : DaemonToClient R N)
  | lose (worker : Nat) (error : String)
  | work (worker : Nat) (pick : Nat)
  | restart
  /-- There is no new connection. -/
  | stop
  /-- There is one, and it is the one to write to. -/
  | connect
  | advance
  /-- The browser host has been registered on the new connection, or could not be. -/
  | conclude (registered : Bool)
  | shutDown
  deriving DecidableEq

/-- A worker and a `restart` that replace the connection go on until they have one or are told to stop. -/
def Holder.mayStop (shuttingDown : Bool) : Holder → Bool
  | .worker _ => shuttingDown
  | .background _ | .restart => true

namespace ClientShared

/-- What becomes of the one who has tried to replace the connection. -/
def conclude (s : ClientShared R N) (holder : Holder) (connected : Bool) : ClientShared R N :=
  let s := s.finishReconnect
  match holder with
  | .worker i => s.setWorker i (if connected then .reading s.generation else .ended)
  | .background _ => if connected then { s with workers := s.workers ++ [.reading s.generation] } else s
  | .restart => s

def next (s : ClientShared R N) : Step R N → ClientShared R N
  | .request timeout =>
    { s with
      nextReq := s.nextReq + 1
      pending := s.pending ++ [s.nextReq]
      requests := Function.update s.requests s.nextReq (some ⟨.registered, timeout, none, none⟩) }
  | .proceed req written pick => match s.requests req with
    | some request => s.proceed req request written pick
    | none => s
  | .send written => if written then s else s.beginReconnect (.background none)
  | .read i message => match s.workers[i]? with
    | some (.reading generation) => s.setWorker i (.got generation message)
    | _ => s
  | .lose i error => match s.workers[i]? with
    | some (.reading generation) => s.setWorker i (.lost generation error)
    | _ => s
  | .work i pick => match s.workers[i]? with
    | some worker => s.work i pick worker
    | none => s
  | .restart => s.beginReconnect .restart
  | .stop => match s.reconnecting with
    | some (holder, .connecting) => if holder.mayStop s.shuttingDown then s.conclude holder false else s
    | _ => s
  | .connect => match s.reconnecting with
    | some (holder, .connecting) =>
      let s' := { s with writer := s.writer + 1, reconnecting := some (holder, .swapped) }
      match holder with
      | .background (some sent) => s'.note (.torn sent s.writer)
      | _ => s'
    | _ => s
  | .advance => match s.reconnecting with
    | some (holder, .swapped) =>
      let s' := { s with generation := s.generation + 1, reconnecting := some (holder, .advanced) }
      match holder with
      | .restart => { s' with workers := s.workers ++ [.reading (s.generation + 1)] }
      | _ => s'
    | _ => s
  | .conclude registered => match s.reconnecting with
    | some (holder, .advanced) => s.conclude holder registered
    | _ => s
  | .shutDown =>
    { s with
      shuttingDown := true
      workers := s.workers ++ [.sweeping "daemon client is shutting down" false] }

def run (steps : List (Step R N)) : ClientShared R N := steps.foldl next initial

end ClientShared

end VibeLink.Desktop
