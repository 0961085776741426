import VibeLink.Coordinator.Effects
import VibeLink.Coordinator.Frames

/-! Who works on what: the statuses and owners of dispatches beside the statuses of agents, and
the invariant that ties the two tables together. -/

namespace VibeLink.Coordinator

open VibeLink.Relational

/-- An agent is bound to the dispatch, and the dispatch has not ended. -/
def DispatchStatus.isLive : DispatchStatus → Bool
  | .dispatched | .running | .waiting => true
  | _ => false

theorem DispatchStatus.isActive_iff {status : DispatchStatus} :
    status.isActive ↔ status = .pending ∨ status.isLive := by
  cases status <;> simp [isActive, isLive]

/-- The columns of the two tables that have to keep in step. -/
structure Crew where
  post : Uuid → Option (DispatchStatus × Option Uuid)
  status : Uuid → Option AgentLifecycleStatus

namespace Crew

def Owns (C : Crew) (a d : Uuid) : Prop :=
  ∃ status : DispatchStatus, C.post d = some (status, some a) ∧ status.isLive

/-- Every live dispatch has an active agent, and no agent has two. -/
structure Manned (C : Crew) : Prop where
  unbound : ∀ d owner, C.post d = some (.pending, owner) → owner = none
  owned : ∀ d status owner, C.post d = some (status, owner) → status.isLive →
    ∃ a st, owner = some a ∧ C.status a = some st ∧ st.isActive
  one : ∀ a d d', C.Owns a d → C.Owns a d' → d = d'

def assign (C : Crew) (d : Uuid) (status : DispatchStatus) (owner : Option Uuid) : Crew :=
  { C with post := Function.update C.post d (some (status, owner)) }

def enroll (C : Crew) (a : Uuid) (st : AgentLifecycleStatus) : Crew :=
  { C with status := Function.update C.status a (some st) }

def set (C : Crew) (a : Uuid) (st : AgentLifecycleStatus) : Crew :=
  { C with status := modify C.status a fun _ => st }

variable {C : Crew} {a d i : Uuid} {status : DispatchStatus} {owner : Option Uuid}
  {st : AgentLifecycleStatus}

@[simp] theorem assign_post_self : (C.assign d status owner).post d = some (status, owner) :=
  Function.update_self ..

@[simp] theorem assign_post_of_ne (h : i ≠ d) : (C.assign d status owner).post i = C.post i :=
  Function.update_of_ne h ..

@[simp] theorem assign_status : (C.assign d status owner).status = C.status := rfl

@[simp] theorem set_post : (C.set a st).post = C.post := rfl

@[simp] theorem set_status_self : (C.set a st).status a = (C.status a).map fun _ => st := modify_same

@[simp] theorem set_status_of_ne (h : i ≠ a) : (C.set a st).status i = C.status i := modify_of_ne h

theorem set_assign_comm : (C.assign d status owner).set a st = (C.set a st).assign d status owner := rfl

@[simp] theorem owns_set : (C.set a st).Owns i d ↔ C.Owns i d := Iff.rfl

theorem not_owns (h : C.post d = some (status, owner)) (final : status.isLive = false) : ¬C.Owns a d := by
  rintro ⟨live, found, islive⟩
  rw [h] at found
  cases found
  rw [final] at islive
  cases islive

theorem Owns.of_assign (h : (C.assign d status owner).Owns a i) (other : i ≠ d) : C.Owns a i := by
  obtain ⟨live, found, islive⟩ := h
  rw [assign_post_of_ne other] at found
  exact ⟨live, found, islive⟩

theorem manned_empty : Manned ⟨fun _ => none, fun _ => none⟩ := by
  constructor
  · rintro d owner ⟨⟩
  · rintro d status owner ⟨⟩
  · rintro a d d' ⟨status, ⟨⟩, _⟩

namespace Manned

theorem assign_idle (h : C.Manned) (final : status.isLive = false)
    (unbound : status = .pending → owner = none) : (C.assign d status owner).Manned := by
  have elsewhere {a i : Uuid} (owns : (C.assign d status owner).Owns a i) : i ≠ d := by
    rintro rfl
    exact not_owns assign_post_self final owns
  constructor
  · intro i owner' found
    by_cases hi : i = d
    · subst hi
      rw [assign_post_self] at found
      cases found
      exact unbound rfl
    · exact h.unbound i owner' (assign_post_of_ne hi ▸ found)
  · intro i live owner' found islive
    by_cases hi : i = d
    · subst hi
      rw [assign_post_self] at found
      cases found
      rw [final] at islive
      cases islive
    · exact h.owned i live owner' (assign_post_of_ne hi ▸ found) islive
  · intro a i j hi hj
    exact h.one a i j (hi.of_assign (elsewhere hi)) (hj.of_assign (elsewhere hj))

theorem assign_live (h : C.Manned) (live : status.isLive) (working : C.status a = some st)
    (active : st.isActive) (free : ∀ i, i ≠ d → ¬C.Owns a i) :
    (C.assign d status (some a)).Manned := by
  constructor
  · intro i owner found
    by_cases hi : i = d
    · subst hi
      rw [assign_post_self] at found
      cases found
      cases live
    · exact h.unbound i owner (assign_post_of_ne hi ▸ found)
  · intro i other owner found islive
    by_cases hi : i = d
    · subst hi
      rw [assign_post_self] at found
      cases found
      exact ⟨a, st, rfl, working, active⟩
    · exact h.owned i other owner (assign_post_of_ne hi ▸ found) islive
  · intro b i j hi hj
    have self {k : Uuid} (owns : (C.assign d status (some a)).Owns b k) (hk : k = d) : b = a := by
      obtain ⟨other, found, _⟩ := owns
      rw [hk, assign_post_self] at found
      cases found
      rfl
    by_cases hid : i = d
    · by_cases hjd : j = d
      · rw [hid, hjd]
      · exact absurd (self hi hid ▸ hj.of_assign hjd) (free j hjd)
    · by_cases hjd : j = d
      · exact absurd (self hj hjd ▸ hi.of_assign hid) (free i hid)
      · exact h.one b i j (hi.of_assign hid) (hj.of_assign hjd)

theorem set_active (h : C.Manned) (active : st.isActive) : (C.set a st).Manned := by
  refine ⟨h.unbound, fun i live owner found islive => ?_, h.one⟩
  obtain ⟨b, st', rfl, working, active'⟩ := h.owned i live owner found islive
  by_cases hb : b = a
  · subst hb
    exact ⟨b, st, rfl, by rw [set_status_self, working, Option.map_some], active⟩
  · exact ⟨b, st', rfl, (set_status_of_ne hb).trans working, active'⟩

theorem set_free (h : C.Manned) (free : ∀ i, ¬C.Owns a i) : (C.set a st).Manned := by
  refine ⟨h.unbound, fun i live owner found islive => ?_, h.one⟩
  obtain ⟨b, st', rfl, working, active⟩ := h.owned i live owner found islive
  have other : b ≠ a := by
    rintro rfl
    exact free i ⟨live, found, islive⟩
  exact ⟨b, st', rfl, (set_status_of_ne other).trans working, active⟩

theorem enroll (h : C.Manned) (free : ∀ i, ¬C.Owns a i) : (C.enroll a st).Manned := by
  refine ⟨h.unbound, fun i live owner found islive => ?_, h.one⟩
  obtain ⟨b, st', rfl, working, active⟩ := h.owned i live owner found islive
  have other : b ≠ a := by
    rintro rfl
    exact free i ⟨live, found, islive⟩
  exact ⟨b, st', rfl, (Function.update_of_ne other ..).trans working, active⟩

theorem relabel {C' : Crew} (h : C.Manned)
    (posts : ∀ i, C'.post i = C.post i ∨ ∃ (live live' : DispatchStatus) (owner : Option Uuid),
      C.post i = some (live, owner) ∧ C'.post i = some (live', owner) ∧ live.isLive ∧ live'.isLive)
    (crew : ∀ i, C'.status i = C.status i ∨ ∃ st : AgentLifecycleStatus,
      C'.status i = some st ∧ st.isActive) : C'.Manned := by
  have back {i : Uuid} {status : DispatchStatus} {owner : Option Uuid}
      (found : C'.post i = some (status, owner)) (live : status.isLive) :
      ∃ status : DispatchStatus, C.post i = some (status, owner) ∧ status.isLive := by
    rcases posts i with same | ⟨old, new, owner', was, now, wasLive, _⟩
    · exact ⟨status, same ▸ found, live⟩
    · cases found.symm.trans now
      exact ⟨old, was, wasLive⟩
  constructor
  · intro i owner found
    rcases posts i with same | ⟨_, new, _, _, now, _, nowLive⟩
    · exact h.unbound i owner (same ▸ found)
    · cases found.symm.trans now
      cases nowLive
  · intro i status owner found live
    obtain ⟨old, was, wasLive⟩ := back found live
    obtain ⟨a, st, rfl, working, active⟩ := h.owned i old owner was wasLive
    rcases crew a with same | ⟨st', now, active'⟩
    · exact ⟨a, st, rfl, same.trans working, active⟩
    · exact ⟨a, st', rfl, now, active'⟩
  · rintro a i j ⟨status, found, live⟩ ⟨status', found', live'⟩
    exact h.one a i j (back found live) (back found' live')

theorem free_of_inactive (h : C.Manned) (found : C.status a = some st) (idle : st.isActive = false)
    (i : Uuid) : ¬C.Owns a i := by
  rintro ⟨live, post, islive⟩
  obtain ⟨b, st', same, working, active⟩ := h.owned i live _ post islive
  cases same
  cases found.symm.trans working
  rw [idle] at active
  cases active

theorem free_of_absent (h : C.Manned) (absent : C.status a = none) (i : Uuid) : ¬C.Owns a i := by
  rintro ⟨live, post, islive⟩
  obtain ⟨b, st, same, working, _⟩ := h.owned i live _ post islive
  cases same
  cases absent.symm.trans working

theorem free_of_ended (h : C.Manned) (owns : C.Owns a d) (final : status.isLive = false) (i : Uuid) :
    ¬(C.assign d status owner).Owns a i := by
  intro owns'
  by_cases hi : i = d
  · subst hi
    exact not_owns assign_post_self final owns'
  · exact hi (h.one a i d (owns'.of_assign hi) owns)

section Steps

variable {status' : DispatchStatus} {st' : AgentLifecycleStatus}

theorem go_on (h : C.Manned) (owns : C.Owns a d) (live : status.isLive) :
    (C.assign d status (some a)).Manned := by
  obtain ⟨old, found, wasLive⟩ := owns
  obtain ⟨b, st, same, working, active⟩ := h.owned d old _ found wasLive
  cases same
  exact h.assign_live live working active fun i hi owns => hi (h.one a i d owns ⟨old, found, wasLive⟩)

theorem bind (h : C.Manned) (found : C.status a = some st) (idle : st.isActive = false)
    (live : status.isLive) (active : st'.isActive) : ((C.assign d status (some a)).set a st').Manned := by
  rw [set_assign_comm]
  apply (h.set_active active).assign_live live _ active
  · exact fun i _ owns => h.free_of_inactive found idle i (owns_set.1 owns)
  · rw [set_status_self, found, Option.map_some]

theorem finish (h : C.Manned) (found : C.post d = some (status, owner)) (active : status.isActive)
    (final : status'.isActive = false) :
    (owner.elim (C.assign d status' owner) fun a => (C.assign d status' owner).set a st).Manned := by
  have idle : status'.isLive = false := by
    rw [← Bool.not_eq_true]
    intro live
    rw [DispatchStatus.isActive_iff.2 (.inr live)] at final
    cases final
  have ended : (C.assign d status' owner).Manned := by
    apply h.assign_idle idle
    rintro rfl
    cases final
  cases owner with
  | none => exact ended
  | some a =>
    apply ended.set_free
    rcases DispatchStatus.isActive_iff.1 active with rfl | live
    · cases h.unbound d _ found
    · exact h.free_of_ended ⟨status, found, live⟩ idle

theorem dismiss {C' : Crew} {P : Uuid → Prop} (h : C.Manned)
    (posts : ∀ i status owner, C'.post i = some (status, owner) →
      status.isActive = false ∨ ¬P i ∧ C.post i = some (status, owner))
    (crew : ∀ i, C'.status i = C.status i ∨
      ∃ d status, P d ∧ C.post d = some (status, some i))
    (apart : ∀ a d i status, P d → C.post d = some (status, some a) → C.Owns a i → P i) :
    C'.Manned := by
  have back {i : Uuid} {status : DispatchStatus} {owner : Option Uuid}
      (found : C'.post i = some (status, owner)) (active : status.isActive) :
      ¬P i ∧ C.post i = some (status, owner) := by
    rcases posts i status owner found with final | kept
    · rw [active] at final
      cases final
    · exact kept
  have live {status : DispatchStatus} (h : status.isLive) : status.isActive :=
    DispatchStatus.isActive_iff.2 (.inr h)
  constructor
  · intro i owner found
    exact h.unbound i owner (back found rfl).2
  · intro i status owner found islive
    obtain ⟨outside, was⟩ := back found (live islive)
    obtain ⟨a, st, rfl, working, active⟩ := h.owned i status owner was islive
    rcases crew a with same | ⟨d, status', inside, worked⟩
    · exact ⟨a, st, rfl, same.trans working, active⟩
    · exact absurd (apart a d i status' inside worked ⟨status, was, islive⟩) outside
  · rintro a i j ⟨status, found, islive⟩ ⟨status', found', islive'⟩
    exact h.one a i j ⟨status, (back found (live islive)).2, islive⟩
      ⟨status', (back found' (live islive')).2, islive'⟩

end Steps

end Manned

end Crew

def Ledger.crew (L : Ledger) : Crew where
  post d := (L.dispatches d).map fun row => (row.status, row.agentInstanceId)
  status a := (L.agents a).map AgentInstanceRecord.status

def Store.crew (s : Store) : Crew := s.ledger.crew

section Views

variable {L : Ledger} {s : Store}

theorem Ledger.crew_putDispatch (L : Ledger) (row : DispatchRow) :
    (L.putDispatch row).crew = L.crew.assign row.id row.status row.agentInstanceId := by
  simp only [crew, Crew.assign, putDispatch_dispatches]
  congr 1
  funext d
  by_cases hd : d = row.id
  · subst hd
    simp
  · simp [hd]

theorem Ledger.crew_putAgent (L : Ledger) (agent : AgentInstanceRecord) :
    (L.putAgent agent).crew = L.crew.enroll agent.id agent.status := by
  simp only [crew, Crew.enroll, putAgent]
  congr 1
  funext a
  by_cases ha : a = agent.id
  · subst ha
    simp
  · simp [ha]

theorem Store.crew_post {d : Uuid} {row : DispatchRow} (found : s.ledger.dispatches d = some row) :
    s.crew.post d = some (row.status, row.agentInstanceId) := by
  simp only [crew, Ledger.crew, found, Option.map_some]

theorem Store.crew_status {a : Uuid} {agent : AgentInstanceRecord}
    (found : s.ledger.agents a = some agent) : s.crew.status a = some agent.status := by
  simp only [crew, Ledger.crew, found, Option.map_some]

end Views

end VibeLink.Coordinator
