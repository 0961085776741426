import Mathlib.Algebra.Order.Ring.Nat
import Mathlib.Data.List.Induction
import Mathlib.Tactic.Common

/-! When the daemon ends itself (`daemon/lifecycle.rs`): nobody has ever connected, or everybody has gone. -/

namespace VibeLink.Daemon

/-- Durations are in nanoseconds. -/
structure LifecycleConfig where
  idleGrace : Nat
  adoptionTimeout : Nat
  idleShutdownEnabled : Bool
  deriving DecidableEq

def LifecycleConfig.default : LifecycleConfig := ⟨300 * 10 ^ 9, 120 * 10 ^ 9, true⟩

/-- What keeps a daemon alive. -/
structure DaemonActivity where
  clients : Nat
  livePanes : Nat
  scheduledAutomations : Nat
  remoteRunning : Bool
  deriving DecidableEq

def DaemonActivity.isIdle (activity : DaemonActivity) : Bool :=
  activity.clients == 0 && activity.livePanes == 0 && activity.scheduledAutomations == 0 && !activity.remoteRunning

inductive ShutdownReason
  | neverAdopted | idle
  deriving DecidableEq

structure IdleTracker (T : Type) where
  started : T
  adoptionTimeout : Nat
  idleGrace : Nat
  enabled : Bool
  adopted : Bool
  idleSince : Option T

section Tracker

variable {T : Type} [HSub T T Nat]

namespace IdleTracker

def new (started : T) (config : LifecycleConfig) : IdleTracker T :=
  ⟨started, config.adoptionTimeout, config.idleGrace, config.idleShutdownEnabled, false, none⟩

def observe (tracker : IdleTracker T) (activity : DaemonActivity) (now : T) : IdleTracker T × Option ShutdownReason :=
  if 0 < activity.clients then ({ tracker with adopted := true, idleSince := none }, none)
  else if !tracker.enabled then (tracker, none)
  else if !tracker.adopted then
    -- neither scheduled automations nor the remote service are asked about here
    (tracker, if activity.livePanes = 0 ∧ tracker.adoptionTimeout ≤ (now - tracker.started : Nat) then some .neverAdopted
      else none)
  else if !activity.isIdle then ({ tracker with idleSince := none }, none)
  else
    let since := tracker.idleSince.getD now
    ({ tracker with idleSince := some since }, if tracker.idleGrace ≤ (now - since : Nat) then some .idle else none)

end IdleTracker

abbrev Observation (T : Type) := DaemonActivity × T

def tracked (config : LifecycleConfig) (started : T) (past : List (Observation T)) : IdleTracker T :=
  past.foldl (fun tracker observation => (tracker.observe observation.1 observation.2).1) (.new started config)

def reason (config : LifecycleConfig) (started : T) (past : List (Observation T)) (next : Observation T) :
    Option ShutdownReason := ((tracked config started past).observe next.1 next.2).2

/-- The last observations, from one at `since` on, have all been idle. -/
def IdleSince (past : List (Observation T)) (since : T) : Prop :=
  ∃ before activity after, past = before ++ (activity, since) :: after ∧
    ∀ observation ∈ (activity, since) :: after, observation.1.isIdle = true

/-- What the tracker knows of the observations. -/
structure Tracks (config : LifecycleConfig) (started : T) (past : List (Observation T)) (tracker : IdleTracker T) :
    Prop where
  started : tracker.started = started
  adoptionTimeout : tracker.adoptionTimeout = config.adoptionTimeout
  idleGrace : tracker.idleGrace = config.idleGrace
  enabled : tracker.enabled = config.idleShutdownEnabled
  adopted : tracker.adopted = true ↔ ∃ observation ∈ past, 0 < observation.1.clients
  idleSince : ∀ since, tracker.idleSince = some since → IdleSince past since
  waiting : tracker.idleSince ≠ none → tracker.enabled = true ∧ tracker.adopted = true

variable {config : LifecycleConfig} {started : T} {past : List (Observation T)} {activity : DaemonActivity} {now since : T}
  {tracker : IdleTracker T}

omit [HSub T T Nat] in
theorem IdleSince.snoc (idle : IdleSince past since) (also : activity.isIdle = true) :
    IdleSince (past ++ [(activity, now)]) since := by
  obtain ⟨before, first, after, rfl, all⟩ := idle
  refine ⟨before, first, after ++ [(activity, now)], by simp, fun observation member => ?_⟩
  rw [← List.cons_append, List.mem_append, List.mem_singleton] at member
  cases member with
  | inl member => exact all observation member
  | inr same => exact same ▸ also

omit [HSub T T Nat] in
theorem IdleSince.here (idle : activity.isIdle = true) : IdleSince (past ++ [(activity, now)]) now :=
  ⟨past, activity, [], rfl, by simpa using idle⟩

theorem DaemonActivity.isIdle_iff : activity.isIdle = true ↔ activity.clients = 0 ∧ activity.livePanes = 0 ∧
    activity.scheduledAutomations = 0 ∧ activity.remoteRunning = false := by
  simp [isIdle, and_assoc]

namespace Tracks

omit [HSub T T Nat] in
theorem new : Tracks config started [] (.new started config) where
  started := rfl
  adoptionTimeout := rfl
  idleGrace := rfl
  enabled := rfl
  adopted := by simp [IdleTracker.new]
  idleSince := by simp [IdleTracker.new]
  waiting := by simp [IdleTracker.new]

omit [HSub T T Nat] in
theorem idle_getD (tracks : Tracks config started past tracker) (idle : activity.isIdle = true) :
    IdleSince (past ++ [(activity, now)]) (tracker.idleSince.getD now) := by
  cases known : tracker.idleSince with
  | none => exact .here idle
  | some since => exact (tracks.idleSince since known).snoc idle

theorem observe (tracks : Tracks config started past tracker) :
    Tracks config started (past ++ [(activity, now)]) (tracker.observe activity now).1 := by
  have adopted (alone : activity.clients = 0) : tracker.adopted = true ↔
      ∃ observation ∈ past ++ [(activity, now)], 0 < observation.1.clients := by
    rw [tracks.adopted]
    simp [alone]
  unfold IdleTracker.observe
  split
  · rename_i connected
    exact { tracks with
      adopted := iff_of_true rfl ⟨_, List.mem_append_right _ List.mem_cons_self, connected⟩
      idleSince := by simp
      waiting := by simp }
  rename_i alone
  replace alone := Nat.eq_zero_of_not_pos alone
  have unchanged (resting : ¬(tracker.enabled = true ∧ tracker.adopted = true)) :
      Tracks config started (past ++ [(activity, now)]) tracker :=
    { tracks with
      adopted := adopted alone
      idleSince := fun _ known => absurd (tracks.waiting (by simp [known])) resting }
  split
  · rename_i disabled
    exact unchanged (by simp_all)
  split
  · rename_i waiting
    exact unchanged (by simp_all)
  rename_i enabled waited
  have running : tracker.enabled = true ∧ tracker.adopted = true := by simp_all
  split
  · exact { tracks with
      adopted := adopted alone
      idleSince := by simp
      waiting := by simp }
  · rename_i idle
    exact { tracks with
      adopted := adopted alone
      idleSince := by simpa using tracks.idle_getD (by simpa using idle)
      waiting := fun _ => running }

theorem tracked : Tracks config started past (tracked config started past) := by
  induction past using List.reverseRecOn with
  | nil => exact new
  | append_singleton past next tracks =>
    rw [Daemon.tracked, List.foldl_append]
    exact tracks.observe

end Tracks

/-- A reason is right to be given: nothing is being served, `Idle` has lasted the grace, and ending is allowed. -/
structure Rightly (config : LifecycleConfig) (started : T) (past : List (Observation T)) (next : Observation T) :
    Prop where
  isIdle : reason config started past next ≠ none → next.1.isIdle = true
  lasted : reason config started past next = some .idle →
    ∃ since, IdleSince (past ++ [next]) since ∧ config.idleGrace ≤ (next.2 - since : Nat)
  enabled : reason config started past next ≠ none → config.idleShutdownEnabled = true

/-- Nobody has ever connected and the time to do so is up, while automations are scheduled or the remote service runs. -/
structure Unattended (config : LifecycleConfig) (started : T) (past : List (Observation T)) (next : Observation T) :
    Prop where
  enabled : config.idleShutdownEnabled = true
  unadopted : ∀ observation ∈ past ++ [next], observation.1.clients = 0
  livePanes : next.1.livePanes = 0
  expired : config.adoptionTimeout ≤ (next.2 - started : Nat)
  busy : 0 < next.1.scheduledAutomations ∨ next.1.remoteRunning = true

/-- `NeverAdopted` needs no client ever, no pane now, and the time. -/
theorem reason_neverAdopted (next : Observation T) : reason config started past next = some .neverAdopted ↔
    config.idleShutdownEnabled = true ∧ (∀ observation ∈ past ++ [next], observation.1.clients = 0) ∧
      next.1.livePanes = 0 ∧ config.adoptionTimeout ≤ (next.2 - started : Nat) := by
  have tracks : Tracks config started past (tracked config started past) := Tracks.tracked
  have never : (∀ observation ∈ past ++ [next], observation.1.clients = 0) ↔
      (tracked config started past).adopted = false ∧ next.1.clients = 0 := by
    rw [← Bool.not_eq_true, tracks.adopted]
    simp [or_imp, forall_and]
  rw [never, ← tracks.enabled, ← tracks.adoptionTimeout]
  simp only [reason, IdleTracker.observe, tracks.started]
  by_cases connected : 0 < next.1.clients
  · simp [connected, Nat.ne_of_gt connected]
  cases (tracked config started past).enabled <;> cases (tracked config started past).adopted <;>
    cases next.1.isIdle <;> simp_all

/-- `Idle` is what an idle observation returns at the end of the grace. -/
theorem isIdle_of_reason_idle {next : Observation T} (ended : reason config started past next = some .idle) :
    config.idleShutdownEnabled = true ∧ next.1.isIdle = true ∧
      config.idleGrace ≤ (next.2 - (tracked config started past).idleSince.getD next.2 : Nat) := by
  have tracks : Tracks config started past (tracked config started past) := Tracks.tracked
  rw [← tracks.enabled, ← tracks.idleGrace]
  simp only [reason, IdleTracker.observe] at ended
  by_cases connected : 0 < next.1.clients
  · simp [connected] at ended
  revert ended
  cases (tracked config started past).enabled <;> cases (tracked config started past).adopted <;>
    cases next.1.isIdle <;> simp [connected]

theorem rightly_iff (next : Observation T) :
    Rightly config started past next ↔ ¬Unattended config started past next := by
  constructor
  · intro rightly unattended
    have ended := (reason_neverAdopted next).mpr
      ⟨unattended.enabled, unattended.unadopted, unattended.livePanes, unattended.expired⟩
    have idle := DaemonActivity.isIdle_iff.mp (rightly.isIdle (by simp [ended]))
    cases unattended.busy with
    | inl scheduled => exact Nat.ne_of_gt scheduled idle.2.2.1
    | inr remote => simp [remote] at idle
  intro attended
  cases ended : reason config started past next with
  | none => exact ⟨absurd ended, by simp [ended], absurd ended⟩
  | some given =>
  cases given with
  | neverAdopted =>
    have ⟨enabled, unadopted, livePanes, expired⟩ := (reason_neverAdopted next).mp ended
    have quiet : ¬(0 < next.1.scheduledAutomations ∨ next.1.remoteRunning = true) :=
      fun busy => attended ⟨enabled, unadopted, livePanes, expired, busy⟩
    have alone := unadopted next (by simp)
    exact ⟨fun _ => DaemonActivity.isIdle_iff.mpr (by simp_all), by simp [ended], fun _ => enabled⟩
  | idle =>
    have ⟨enabled, idle, lasted⟩ := isIdle_of_reason_idle ended
    exact ⟨fun _ => idle, fun _ => ⟨_, Tracks.tracked.idle_getD idle, lasted⟩, fun _ => enabled⟩

/-- Whatever is observed: a daemon ends only while it is idle, and allowed to, unless it was never adopted; then it also
ends with automations scheduled or the remote service running, which is all that goes wrong. -/
theorem ends_rightly (config : LifecycleConfig) (started : T) (observations : List (Observation T)) :
    (∀ past next, past ++ [next] <+: observations → Rightly config started past next) ↔
      ∀ past next, past ++ [next] <+: observations → ¬Unattended config started past next :=
  forall_congr' fun _ => forall_congr' fun next => imp_congr_right fun _ => rightly_iff next

end Tracker

/-- A scheduled automation waits, and two minutes pass with nobody connecting. -/
theorem ends_over_scheduled : ¬∀ past next, past ++ [next] <+: [(DaemonActivity.mk 0 0 1 false, 120 * 10 ^ 9)] →
    Rightly LifecycleConfig.default 0 past next := by
  intro rightly
  have ended : reason LifecycleConfig.default 0 [] (DaemonActivity.mk 0 0 1 false, 120 * 10 ^ 9) =
      some .neverAdopted := by
    decide
  exact absurd ((rightly [] _ (List.prefix_refl _)).isIdle (ended ▸ Option.some_ne_none _)) (by decide)

end VibeLink.Daemon
