import VibeLink.Daemon.Traffic

/-! A spawn and its cancellation, which both give up the lock between their steps
(`spawn_pane_for_session_internal` in `daemon/panes.rs`, `cancel_pane_spawn` in `daemon/session.rs`). -/

namespace VibeLink.Daemon

open VibeLink.Relational Tx

structure SpawnRequest where
  sessionId : Uuid
  config : PaneConfig
  restoredScrollback : Option Bytes
  attachClient : Option Uuid

inductive Spawner
  | requested
  /-- No cancellation has been found. -/
  | admitted
  /-- The workspace is there. -/
  | accepted
  | started
  /-- The process is not wanted. -/
  | killing
  /-- With the generation of the process, if it has been inserted. -/
  | finished (inserted : Option Nat)
  deriving DecidableEq

/-- `instant` is when the state was locked to cancel. -/
inductive Canceller
  | waiting
  /-- What is left to do is to persist the state and to kill the process. -/
  | killing (instant : Nat) (pane : Pane)
  /-- The state was not persisted. -/
  | failed (instant : Nat)
  | finished (instant : Nat)
  deriving DecidableEq

structure SpawnRace where
  state : DaemonState
  spawner : Spawner
  canceller : Canceller
  /-- The process that the spawn has started has not been killed. -/
  running : Bool

inductive SpawnAction
  /-- What comes of starting a process is not for the daemon to say. -/
  | spawn (env : Env) (starts : Except String Unit)
  | cancel (env : Env) (persists : Except String Unit)

def Canceller.instant : Canceller → Option Nat
  | .waiting => none
  | .killing instant _ | .failed instant | .finished instant => some instant

namespace SpawnRequest

abbrev paneId (request : SpawnRequest) : Uuid := request.config.paneId

def pane (request : SpawnRequest) : Pane := .spawn request.config request.restoredScrollback

def insert (request : SpawnRequest) (m : SpawnRace) (env : Env) : SpawnRace :=
  match paneSpawnCancelled env request.sessionId request.paneId m.state with
  | (.ok false, s) =>
    match insertPaneOrRecover request.sessionId request.pane s with
    | (.ok _, s') =>
      let s' := match request.attachClient with
        | some clientId => next s' ⟨env, .attachClientToPane clientId request.paneId⟩
        | none => s'
      { m with state := s', spawner := .finished (some s.nextPaneGeneration) }
    | (.error _, s') => { m with state := s', spawner := .killing }
  | (_, s) => { m with state := s, spawner := .killing }

def step (request : SpawnRequest) (m : SpawnRace) : SpawnAction → SpawnRace
  | .spawn env starts =>
    match m.spawner with
    | .requested =>
      match paneSpawnCancelled env request.sessionId request.paneId m.state with
      | (.ok false, s) => { m with state := s, spawner := .admitted }
      | (_, s) => { m with state := s, spawner := .finished none }
    | .admitted =>
      match m.state.session request.sessionId with
      | .ok _ => { m with spawner := .accepted }
      | .error _ => { m with spawner := .finished none }
    | .accepted =>
      match starts with
      | .ok _ => { m with spawner := .started, running := true }
      | .error _ => { m with spawner := .finished none }
    | .started => request.insert m env
    | .killing => { m with spawner := .finished none, running := false }
    | .finished _ => m
  | .cancel env persists =>
    match m.canceller with
    | .waiting =>
      match cancelPaneSpawn env request.sessionId request.paneId m.state with
      | (.ok (some pane), s) => { m with state := s, canceller := .killing env.instant pane }
      | (_, s) => { m with state := s, canceller := .finished env.instant }
    | .killing instant pane =>
      match persists with
      | .ok _ => { m with
          canceller := .finished instant
          running := if m.spawner = .finished (some pane.outputGeneration) then false else m.running }
      | .error _ => { m with canceller := .failed instant }
    | .failed _ | .finished _ => m

def start (s : DaemonState) : SpawnRace := ⟨s, .requested, .waiting, false⟩

end SpawnRequest

/-- After a cancellation the spawn takes its steps before the cancellation is forgotten. -/
def SpawnRace.Timely (m : SpawnRace) : SpawnAction → Prop
  | .spawn env _ => ∀ instant ∈ m.canceller.instant, env.instant < instant + DaemonState.spawnCancellationTtl
  | .cancel _ _ => True

section Lookups

variable {s : DaemonState} {env : Env} {sessionId paneId : Uuid}

theorem paneSpawnCancelled_eq : paneSpawnCancelled env sessionId paneId s =
    (.ok ((s.pruneSpawnCancellations env).spawnCancellations.find (sessionId, paneId)).isSome,
      s.pruneSpawnCancellations env) := rfl

theorem find_pruneSpawnCancellations {row : (Uuid × Uuid) × Nat} {key : Uuid × Uuid}
    (recorded : s.spawnCancellations.find key = some row) (live : env.instant < row.2) :
    (s.pruneSpawnCancellations env).spawnCancellations.find key = some row := by
  rw [← show row.1 = key from Table.key_of_find recorded]
  apply Table.find_of_mem
  exact List.mem_filter.2 ⟨Table.mem_of_find recorded, decide_eq_true live⟩

theorem session_eq_error {e : String} (h : s.session sessionId = .error e) : s.sessions.find sessionId = none := by
  rw [DaemonState.session] at h
  split at h
  · cases h
  · assumption

/-- What a cancellation comes to, in a workspace that is there. -/
structure Cancelled (s : DaemonState) (env : Env) (sessionId paneId : Uuid) (s' : DaemonState) : Prop where
  recorded : s'.spawnCancellations.find (sessionId, paneId) =
    some ((sessionId, paneId), env.instant + DaemonState.spawnCancellationTtl)
  pane : ∀ i j, s'.pane i j = if i = sessionId ∧ j = paneId then none else s.pane i j
  sessions : ∀ i, (s'.sessions.find i).isSome = (s.sessions.find i).isSome

theorem cancelPaneSpawn_cancelled : (cancelPaneSpawn env sessionId paneId).wp
    (fun pane s' => Cancelled s env sessionId paneId s' ∧ pane = s.pane sessionId paneId)
    (fun _ s' => (s.sessions.find sessionId = none ∧ s' = s) ∨
      Cancelled s env sessionId paneId s' ∧ s.pane sessionId paneId = none) s := by
  simp only [cancelPaneSpawn, closePane, wp_bind, wp_reads, wp_write, wp_gets, wp_ite, wp_pure,
    DaemonState.session_eq_ok]
  have recorded : (((s.pruneSpawnCancellations env).recordCancellation env sessionId paneId).spawnCancellations).find
      (sessionId, paneId) = some ((sessionId, paneId), env.instant + DaemonState.spawnCancellationTtl) :=
    Table.find_put_self _ ((sessionId, paneId), _)
  have panes : ((s.pruneSpawnCancellations env).recordCancellation env sessionId paneId).pane = s.pane := rfl
  have absent (none_ : s.pane sessionId paneId = none) (i j : Uuid) :
      s.pane i j = if i = sessionId ∧ j = paneId then none else s.pane i j := by
    split
    · rename_i here
      rw [here.1, here.2, none_]
    · rfl
  refine ⟨fun _ found => ⟨fun _ _ => ⟨fun none_ => ⟨fun _ _ => ?_, fun _ _ => ?_⟩, fun some_ => ?_⟩, ?_⟩, ?_⟩
  · exact ⟨⟨recorded, absent none_, fun _ => rfl⟩, none_.symm⟩
  · exact .inr ⟨⟨recorded, absent none_, fun _ => rfl⟩, none_⟩
  · refine ⟨⟨?_, fun i j => ?_, fun i => ?_⟩, rfl⟩
    · rw [DaemonState.removePane]
      split <;> exact recorded
    · rw [pane_removePane, panes]
    · exact sessions_removePane i
  · intro e gone
    have none_ : s.sessions.find sessionId = none := session_eq_error gone
    cases none_.symm.trans found
  · intro e gone
    exact .inl ⟨session_eq_error gone, trivial⟩

end Lookups

section Race

variable {request : SpawnRequest} {m : SpawnRace} {env : Env} {s : DaemonState} {instant generation : Nat}

def Gone (s : DaemonState) (generation : Nat) : Prop :=
  ∀ i j pane, s.pane i j = some pane → pane.outputGeneration ≠ generation

/-- A process that runs has somebody to end it, and what is cancelled is not inserted. -/
structure SpawnRace.Sound (request : SpawnRequest) (m : SpawnRace) : Prop where
  numbered : (board m.state).Numbered
  running : m.running → m.spawner = .started ∨ m.spawner = .killing ∨ ∃ g, m.spawner = .finished (some g) ∧
    (m.canceller = .waiting ∨ (∃ instant pane, m.canceller = .killing instant pane ∧ pane.outputGeneration = g) ∨
      ∃ instant, m.canceller = .failed instant)
  placed : ∀ g, m.spawner = .finished (some g) → m.canceller = .waiting →
    ∃ pane, m.state.pane request.sessionId request.paneId = some pane ∧ pane.outputGeneration = g
  marked : ∀ instant ∈ m.canceller.instant, m.state.sessions.find request.sessionId = none ∨
    m.state.spawnCancellations.find (request.sessionId, request.paneId) =
      some ((request.sessionId, request.paneId), instant + DaemonState.spawnCancellationTtl)
  gone : m.canceller.instant.isSome → ∀ g, m.spawner = .finished (some g) → Gone m.state g

theorem insert_cases (request : SpawnRequest) (m : SpawnRace) (env : Env) :
    request.insert m env = { m with state := m.state.pruneSpawnCancellations env, spawner := .killing } ∨
      (m.state.pruneSpawnCancellations env).spawnCancellations.find (request.sessionId, request.paneId) = none ∧
        ∃ s, Spawned (m.state.pruneSpawnCancellations env) request.sessionId request.pane s ∧
          request.insert m env = { m with
            state := s
            spawner := .finished (some (m.state.pruneSpawnCancellations env).nextPaneGeneration) } := by
  simp only [SpawnRequest.insert, paneSpawnCancelled_eq]
  cases found : (m.state.pruneSpawnCancellations env).spawnCancellations.find (request.sessionId, request.paneId) with
  | some row => exact .inl rfl
  | none =>
    have spec := wp_iff_forall.1
      (@insertPaneOrRecover_inserted (m.state.pruneSpawnCancellations env) request.sessionId request.pane)
    dsimp only [Option.isSome_none]
    split
    · rename_i info s performed
      have numbered (h : (board (m.state.pruneSpawnCancellations env)).Numbered) : (board s).Numbered := by
        rw [← show next _ ⟨env, .insertPane request.sessionId request.pane⟩ = s from
          snd_bind_pure.trans (congrArg Prod.snd performed)]
        exact next_numbered h
      have spawned := (spec.1 info s performed).spawned numbered
      refine .inr ⟨rfl, ?_⟩
      cases request.attachClient with
      | none => exact ⟨s, spawned, rfl⟩
      | some clientId => exact ⟨_, spawned.attach clientId, rfl⟩
    · rename_i e s performed
      rw [spec.2 e s performed]
      exact .inl rfl

namespace SpawnRace.Sound

theorem start {s : DaemonState} (numbered : (board s).Numbered) : (SpawnRequest.start s).Sound request where
  numbered := numbered
  running h := by cases h
  placed g h _ := by cases h
  marked instant h := by cases h
  gone h := by cases h

theorem idle (sound : m.Sound request)
    (early : m.spawner = .requested ∨ m.spawner = .admitted ∨ m.spawner = .accepted) : ¬m.running := by
  intro runs
  have late := sound.running runs
  cases spawner : m.spawner <;> simp [spawner] at early late

theorem moves {spawner : Spawner} {running : Bool} (numbered : (board s).Numbered)
    (pending : ∀ g, spawner ≠ .finished (some g)) (runs : running → spawner = .started ∨ spawner = .killing)
    (marked : ∀ instant ∈ m.canceller.instant, s.sessions.find request.sessionId = none ∨
      s.spawnCancellations.find (request.sessionId, request.paneId) =
        some ((request.sessionId, request.paneId), instant + DaemonState.spawnCancellationTtl)) :
    SpawnRace.Sound request { m with state := s, spawner, running } where
  numbered := numbered
  running h := (runs h).elim .inl fun h => .inr (.inl h)
  placed g h _ := absurd h (pending g)
  marked := marked
  gone _ g h := absurd h (pending g)

theorem pruned (sound : m.Sound request)
    (timely : ∀ instant ∈ m.canceller.instant, env.instant < instant + DaemonState.spawnCancellationTtl)
    (instant : Nat) (cancelled : instant ∈ m.canceller.instant) :
    (m.state.pruneSpawnCancellations env).sessions.find request.sessionId = none ∨
      (m.state.pruneSpawnCancellations env).spawnCancellations.find (request.sessionId, request.paneId) =
        some ((request.sessionId, request.paneId), instant + DaemonState.spawnCancellationTtl) :=
  (sound.marked instant cancelled).imp id fun recorded =>
    find_pruneSpawnCancellations recorded (timely instant cancelled)

theorem inserts (sound : m.Sound request)
    (timely : ∀ instant ∈ m.canceller.instant, env.instant < instant + DaemonState.spawnCancellationTtl) :
    (request.insert m env).Sound request := by
  have numbered : (board (m.state.pruneSpawnCancellations env)).Numbered := sound.numbered
  obtain killed | ⟨fresh, s, spawned, inserted⟩ := insert_cases request m env
  · rw [killed]
    exact moves numbered nofun (fun _ => .inr rfl) (sound.pruned timely)
  · have waiting : m.canceller.instant = none := by
      rw [Option.eq_none_iff_forall_ne_some]
      intro instant cancelled
      obtain missing | recorded := sound.pruned timely instant cancelled
      · have session := spawned.session
        rw [missing] at session
        cases session
      · cases fresh.symm.trans recorded
    rw [inserted]
    refine ⟨spawned.numbered numbered, fun _ => .inr (.inr ⟨_, rfl, .inl ?_⟩), fun g same _ => ?_, ?_, ?_⟩
    · cases canceller : m.canceller with
      | waiting => rfl
      | killing instant pane =>
        rw [canceller] at waiting
        cases waiting
      | failed instant =>
        rw [canceller] at waiting
        cases waiting
      | finished instant =>
        rw [canceller] at waiting
        cases waiting
    · cases same
      exact ⟨_, (spawned.pane _ _).trans (if_pos ⟨rfl, rfl⟩), rfl⟩
    · intro instant cancelled
      cases waiting.symm.trans cancelled
    · intro cancelled
      rw [waiting] at cancelled
      cases cancelled

theorem gone_of_cancelled (sound : m.Sound request) (waiting : m.canceller = .waiting)
    (cancelled : Cancelled m.state env request.sessionId request.paneId s)
    (inserted : m.spawner = .finished (some generation)) : Gone s generation := by
  obtain ⟨pane, here, same⟩ := sound.placed generation inserted waiting
  intro i j other there process
  rw [cancelled.pane] at there
  split at there
  · cases there
  · rename_i elsewhere
    exact elsewhere (sound.numbered.unique i j other.slot _ _ pane.slot (board_panes_of_pane there)
      (board_panes_of_pane here) (process.trans same.symm))

theorem cancels (sound : m.Sound request) (waiting : m.canceller = .waiting) (env : Env)
    (persists : Except String Unit) : (request.step m (.cancel env persists)).Sound request := by
  have spec := wp_iff_forall.1 (@cancelPaneSpawn_cancelled m.state env request.sessionId request.paneId)
  have numbered (s : DaemonState)
      (same : (cancelPaneSpawn env request.sessionId request.paneId m.state).2 = s) : (board s).Numbered := by
    rw [← same, ← snd_bind_pure]
    exact @next_numbered _ ⟨env, .cancelPaneSpawn request.sessionId request.paneId⟩ sound.numbered
  -- with nothing at its place, the process has not been inserted
  have pending (none_ : m.state.pane request.sessionId request.paneId = none) (g : Nat) :
      m.spawner ≠ .finished (some g) := by
    intro inserted
    obtain ⟨pane, here, _⟩ := sound.placed g inserted waiting
    cases none_.symm.trans here
  have alone (none_ : m.state.pane request.sessionId request.paneId = none) (runs : m.running) :
      m.spawner = .started ∨ m.spawner = .killing := by
    obtain started | killing | ⟨g, inserted, _⟩ := sound.running runs
    · exact .inl started
    · exact .inr killing
    · exact absurd inserted (pending none_ g)
  have absent (s : DaemonState) (numbered : (board s).Numbered)
      (none_ : m.state.pane request.sessionId request.paneId = none)
      (marked : s.sessions.find request.sessionId = none ∨
        s.spawnCancellations.find (request.sessionId, request.paneId) =
          some ((request.sessionId, request.paneId), env.instant + DaemonState.spawnCancellationTtl)) :
      SpawnRace.Sound request { m with state := s, canceller := .finished env.instant } :=
    @moves request { m with canceller := .finished env.instant } s m.spawner m.running numbered (pending none_)
      (alone none_) fun instant cancelled => by
        cases cancelled
        exact marked
  simp only [SpawnRequest.step, waiting]
  split
  · rename_i pane s performed
    obtain ⟨cancelled, here⟩ := spec.1 _ s performed
    refine ⟨numbered s (congrArg Prod.snd performed), fun runs => ?_, nofun, ?_, ?_⟩
    · obtain started | killing | ⟨g, inserted, _⟩ := sound.running runs
      · exact .inl started
      · exact .inr (.inl killing)
      · obtain ⟨_, placed, same⟩ := sound.placed g inserted waiting
        cases here.trans placed
        exact .inr (.inr ⟨g, inserted, .inr (.inl ⟨_, _, rfl, same⟩)⟩)
    · intro instant same
      cases same
      exact .inr cancelled.recorded
    · intro _ g inserted
      exact sound.gone_of_cancelled waiting cancelled inserted
  · rename_i outcome s other performed
    have numbered := numbered s (congrArg Prod.snd performed)
    cases outcome with
    | ok pane =>
      cases pane with
      | some pane => exact absurd rfl (other pane)
      | none =>
        obtain ⟨cancelled, here⟩ := spec.1 none s performed
        exact absent s numbered here.symm (.inr cancelled.recorded)
    | error e =>
      obtain ⟨missing, rfl⟩ | ⟨cancelled, none_⟩ := spec.2 e s performed
      · refine absent _ numbered ?_ (.inl missing)
        rw [DaemonState.pane, missing]
        rfl
      · exact absent s numbered none_ (.inr cancelled.recorded)

theorem step (sound : m.Sound request) {action : SpawnAction} (timely : m.Timely action) :
    (request.step m action).Sound request := by
  cases action with
  | cancel env persists =>
    cases canceller : m.canceller with
    | waiting => exact sound.cancels canceller env persists
    | failed instant =>
      simp only [SpawnRequest.step, canceller]
      exact sound
    | finished instant =>
      simp only [SpawnRequest.step, canceller]
      exact sound
    | killing instant pane =>
      have cancelled : m.canceller.instant = some instant := congrArg Canceller.instant canceller
      cases persists with
      | ok _ =>
        simp only [SpawnRequest.step, canceller]
        refine ⟨sound.numbered, fun runs => ?_, nofun, fun at_ same => ?_, fun _ => ?_⟩
        · split at runs
          · cases runs
          · rename_i other
            obtain started | killing | ⟨g, inserted, waiting | ⟨_, _, killing, same⟩ | ⟨_, failed⟩⟩ := sound.running runs
            · exact .inl started
            · exact .inr (.inl killing)
            · cases canceller.symm.trans waiting
            · cases canceller.symm.trans killing
              rw [same] at other
              exact absurd inserted other
            · cases canceller.symm.trans failed
        · exact sound.marked at_ (cancelled.trans same)
        · exact sound.gone (congrArg Option.isSome cancelled)
      | error e =>
        simp only [SpawnRequest.step, canceller]
        refine ⟨sound.numbered, fun runs => ?_, nofun, fun at_ same => ?_, fun _ => ?_⟩
        · obtain started | killing | ⟨g, inserted, _⟩ := sound.running runs
          · exact .inl started
          · exact .inr (.inl killing)
          · exact .inr (.inr ⟨g, inserted, .inr (.inr ⟨instant, rfl⟩)⟩)
        · exact sound.marked at_ (cancelled.trans same)
        · exact sound.gone (congrArg Option.isSome cancelled)
  | spawn env starts =>
    have marked := sound.marked
    have pruned := sound.pruned timely
    cases spawner : m.spawner with
    | requested =>
      have idle := sound.idle (.inl spawner)
      have numbered : (board (m.state.pruneSpawnCancellations env)).Numbered := sound.numbered
      simp only [SpawnRequest.step, spawner, paneSpawnCancelled_eq]
      cases (m.state.pruneSpawnCancellations env).spawnCancellations.find (request.sessionId, request.paneId) with
      | none => exact moves numbered nofun (fun runs => absurd runs idle) pruned
      | some row => exact moves numbered nofun (fun runs => absurd runs idle) pruned
    | admitted =>
      have idle := sound.idle (.inr (.inl spawner))
      simp only [SpawnRequest.step, spawner]
      cases m.state.session request.sessionId with
      | ok session => exact moves sound.numbered nofun (fun runs => absurd runs idle) marked
      | error e => exact moves sound.numbered nofun (fun runs => absurd runs idle) marked
    | accepted =>
      have idle := sound.idle (.inr (.inr spawner))
      simp only [SpawnRequest.step, spawner]
      cases starts with
      | ok _ => exact moves sound.numbered nofun (fun _ => .inl rfl) marked
      | error e => exact moves sound.numbered nofun (fun runs => absurd runs idle) marked
    | started =>
      simp only [SpawnRequest.step, spawner]
      exact sound.inserts timely
    | killing =>
      simp only [SpawnRequest.step, spawner]
      exact moves sound.numbered nofun nofun marked
    | finished inserted =>
      simp only [SpawnRequest.step, spawner]
      exact sound

end SpawnRace.Sound

/-- Wherever the cancellation comes between the steps of the spawn, no pane has the process when both have
ended, and with the state persisted the process does not run. -/
theorem cancelled_spawn_leaves_nothing (calls : List Call) (request : SpawnRequest) (actions : List SpawnAction)
    (timely : Throughout request.step SpawnRace.Timely (SpawnRequest.start (run calls)) actions)
    (inserted : Option Nat) (instant : Nat)
    (spawned : (actions.foldl request.step (SpawnRequest.start (run calls))).spawner = .finished inserted)
    (cancelled : (actions.foldl request.step (SpawnRequest.start (run calls))).canceller ∈
      [.failed instant, .finished instant]) :
    (∀ g ∈ inserted, Gone (actions.foldl request.step (SpawnRequest.start (run calls))).state g) ∧
      ((actions.foldl request.step (SpawnRequest.start (run calls))).canceller = .finished instant →
        (actions.foldl request.step (SpawnRequest.start (run calls))).running = false) := by
  have sound : (actions.foldl request.step (SpawnRequest.start (run calls))).Sound request :=
    @run_invariant _ _ _ _ (SpawnRace.Sound request) (fun _ _ sound timely => sound.step timely) actions _
      (SpawnRace.Sound.start (run_numbered calls)) timely
  constructor
  · intro g here
    apply sound.gone
    · simp only [List.mem_cons, List.not_mem_nil, or_false] at cancelled
      obtain failed | finished := cancelled
      · rw [failed]
        rfl
      · rw [finished]
        rfl
    · rw [spawned, here]
  · intro finished
    rw [Bool.eq_false_iff]
    intro runs
    have late := sound.running runs
    simp [spawned, finished] at late

end Race

instance SpawnRace.decidableTimely (m : SpawnRace) : ∀ action : SpawnAction, Decidable (m.Timely action)
  | .spawn env _ => inferInstanceAs
      (Decidable (∀ instant ∈ m.canceller.instant, env.instant < instant + DaemonState.spawnCancellationTtl))
  | .cancel _ _ => inferInstanceAs (Decidable True)

def workRun : List Call := [.plain 0 "session" (.createSession "work" none)]

def paneRequest : SpawnRequest :=
  ⟨"session", ⟨"pane", none, [], none, [], none, none, none, none, false, 80, 24⟩, none, none⟩

def lateCancel : List SpawnAction :=
  List.replicate 4 (.spawn (.plain 0 "") (.ok ())) ++ List.replicate 2 (.cancel (.plain 1 "") (.ok ()))

theorem lateCancel_leaves_nothing :
    (∀ g ∈ some 1, Gone (lateCancel.foldl paneRequest.step (SpawnRequest.start (run workRun))).state g) ∧
      ((lateCancel.foldl paneRequest.step (SpawnRequest.start (run workRun))).canceller = .finished 1 →
        (lateCancel.foldl paneRequest.step (SpawnRequest.start (run workRun))).running = false) :=
  cancelled_spawn_leaves_nothing workRun paneRequest lateCancel (by decide +kernel) (some 1) 1
    (by decide +kernel) (by decide +kernel)

/-- The process is started when the cancellation comes. -/
example :
    let m := [.spawn (.plain 0 "") (.ok ()), .spawn (.plain 0 "") (.ok ()), .spawn (.plain 0 "") (.ok ()),
      .cancel (.plain 1 "") (.ok ()), .spawn (.plain 2 "") (.ok ()), .spawn (.plain 2 "") (.ok ())].foldl
        paneRequest.step (SpawnRequest.start (run workRun))
    m.spawner = .finished none ∧ m.canceller = .finished 1 ∧ m.running = false := by
  decide +kernel

end VibeLink.Daemon
