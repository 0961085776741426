import VibeLink.Daemon.Chunks
import VibeLink.Lexing.Finding

/-! What the scrollback keeps over everything that is done to it (`daemon/scrollback.rs`). -/

namespace VibeLink.Daemon

open Lexing

inductive RingAct
  | push (bytes : Bytes)
  | seedProtected (bytes : Bytes)
  | rebase (snapshot : Bytes)
  | takeRebased
  | clear

/-- What has been written since the last seed, and the seed before it. -/
def RingAct.written (sent : Bytes) : RingAct → Bytes
  | .push bytes => sent ++ bytes
  | .seedProtected bytes => bytes
  | .rebase snapshot => snapshot
  | .takeRebased => sent
  | .clear => []

def RingAct.Continues : RingAct → Prop
  | .push _ => True
  | .takeRebased => True
  | _ => False

def Clearless (bytes : Bytes) : Prop := ∀ start last, ¬Occurs clearSequences bytes start last

theorem Clearless.of_append {sent chunk : Bytes} (clearless : Clearless (sent ++ chunk)) : Clearless sent :=
  fun start last here => clearless start last (here.append chunk)

namespace ScrollbackRing

def perform (ring : ScrollbackRing) : RingAct → ScrollbackRing
  | .push bytes => (ring.push bytes).2
  | .seedProtected bytes => ring.seedProtected bytes
  | .rebase snapshot => ring.rebase snapshot
  | .takeRebased => ring.takeRebased.2
  | .clear => ring.clear

def run (ring : ScrollbackRing) (acts : List RingAct) : ScrollbackRing := acts.foldl perform ring

def protectedPrefix (ring : ScrollbackRing) : Bytes := ring.buf.take ring.protectedPrefixLen

def aging (ring : ScrollbackRing) : RingAct → Nat
  | .push bytes => ring.overflow bytes
  | _ => 0

def aged : ScrollbackRing → List RingAct → Nat
  | _, [] => 0
  | ring, act :: acts => ring.aging act + aged (ring.perform act) acts

variable {ring : ScrollbackRing} {sent chunk : Bytes} {act : RingAct} {cap : Nat}

/-- The buffer fits, and so does the protected prefix. -/
structure Sized (cap : Nat) (ring : ScrollbackRing) : Prop where
  cap_eq : ring.cap = cap
  within : ring.buf.length ≤ cap
  guarded : ring.protectedPrefixLen ≤ ring.buf.length

theorem protectedPrefix_prefix (ring : ScrollbackRing) (chunk : Bytes) :
    ring.protectedPrefix <+: ring.stored chunk := by
  unfold stored
  cases findLastClearSpan (ring.detectionBytes chunk) with
  | none => exact (List.take_prefix _ _).trans (List.prefix_append _ _)
  | some span => exact List.prefix_append _ _

theorem take_stored (guarded : ring.protectedPrefixLen ≤ ring.buf.length) :
    (ring.stored chunk).take ring.protectedPrefixLen = ring.protectedPrefix := by
  have kept := List.prefix_iff_eq_take.1 (ring.protectedPrefix_prefix chunk)
  rw [protectedPrefix, List.length_take, Nat.min_eq_left guarded] at kept
  exact kept.symm

theorem protectedPrefixLen_le_stored (guarded : ring.protectedPrefixLen ≤ ring.buf.length) :
    ring.protectedPrefixLen ≤ (ring.stored chunk).length := by
  have le := (ring.protectedPrefix_prefix chunk).length_le
  rwa [protectedPrefix, List.length_take, Nat.min_eq_left guarded] at le

theorem Sized.push (sized : Sized cap ring) (chunk : Bytes) : Sized cap (ring.push chunk).2 := by
  have le : ring.protectedPrefixLen ≤ (ring.stored chunk).length := protectedPrefixLen_le_stored sized.guarded
  have same := sized.cap_eq
  rw [push_snd]
  refine ⟨same, ?_, ?_⟩
  · rw [List.length_drop, overflow]
    omega
  · dsimp only
    rw [List.length_drop]
    omega

theorem Sized.clear (sized : Sized cap ring) : Sized cap ring.clear :=
  ⟨sized.cap_eq, Nat.zero_le _, Nat.le_refl 0⟩

theorem Sized.perform (sized : Sized cap ring) (act : RingAct) : Sized cap (ring.perform act) := by
  cases act with
  | push bytes => exact sized.push bytes
  | seedProtected bytes =>
    have seeded := sized.clear.push bytes
    exact ⟨seeded.cap_eq, seeded.within, Nat.le_refl _⟩
  | rebase snapshot =>
    have seeded := sized.clear.push snapshot
    exact ⟨seeded.cap_eq, seeded.within, seeded.guarded⟩
  | takeRebased => exact ⟨sized.cap_eq, sized.within, sized.guarded⟩
  | clear => exact sized.clear

theorem sized_run (cap : Nat) (acts : List RingAct) : Sized cap ((new cap).run acts) := by
  induction acts using List.reverseRecOn with
  | nil => exact ⟨rfl, Nat.zero_le _, Nat.le_refl 0⟩
  | append_singleton acts act ih =>
    rw [run, List.foldl_append]
    exact ih.perform act

/-- The ring holds the end of what has been written, as long as that has no clear sequence. -/
structure Tells (cap : Nat) (sent : Bytes) (ring : ScrollbackRing) : Prop where
  cap_eq : ring.cap = cap
  pending : ring.pendingClearPrefix = trailingClearPrefix sent
  recent : Clearless sent → ring.buf = sent.rtake cap

theorem Tells.push (tells : Tells cap sent ring) (chunk : Bytes) : Tells cap (sent ++ chunk) (ring.push chunk).2 := by
  rw [push_snd]
  refine ⟨tells.cap_eq, ?_, fun clearless => ?_⟩
  · rw [← trailingClearPrefix_append, ← tells.pending]
    rfl
  · have missed : findLastClearSpan (ring.detectionBytes chunk) = none := by
      rw [findLastClearSpan_eq_none]
      intro start last here
      rw [detectionBytes, tells.pending] at here
      exact clearless _ _ ((carried_trailingClearPrefix sent).occurs_iff.1 here)
    have stored : ring.stored chunk = sent.rtake cap ++ chunk := by
      rw [ScrollbackRing.stored, missed, ← tells.recent clearless.of_append]
    rw [← rtake_append_rtake, overflow, stored, tells.cap_eq]
    rfl

theorem Tells.clear (tells : Tells cap sent ring) : Tells cap [] ring.clear :=
  ⟨tells.cap_eq, rfl, fun _ => (List.rtake_nil cap).symm⟩

theorem Tells.perform (tells : Tells cap sent ring) (act : RingAct) : Tells cap (act.written sent) (ring.perform act) := by
  cases act with
  | push bytes => exact tells.push bytes
  | seedProtected bytes =>
    have seeded := tells.clear.push bytes
    exact ⟨seeded.cap_eq, seeded.pending, seeded.recent⟩
  | rebase snapshot =>
    have seeded := tells.clear.push snapshot
    exact ⟨seeded.cap_eq, seeded.pending, seeded.recent⟩
  | takeRebased => exact ⟨tells.cap_eq, tells.pending, tells.recent⟩
  | clear => exact tells.clear

theorem tells_run (cap : Nat) (acts : List RingAct) :
    Tells cap (acts.foldl RingAct.written []) ((new cap).run acts) := by
  induction acts using List.reverseRecOn with
  | nil => exact ⟨rfl, rfl, fun _ => (List.rtake_nil cap).symm⟩
  | append_singleton acts act ih =>
    rw [run, List.foldl_append, List.foldl_append]
    exact ih.perform act

theorem protectedPrefix_perform (sized : Sized cap ring) (continues : act.Continues) :
    (ring.perform act).protectedPrefix = ring.protectedPrefix.drop (ring.aging act) := by
  cases act with
  | push bytes =>
    dsimp only [ScrollbackRing.perform, aging]
    rw [push_snd, ← @take_stored ring bytes sized.guarded, List.drop_take]
    rfl
  | takeRebased => rfl
  | seedProtected bytes => exact continues.elim
  | rebase snapshot => exact continues.elim
  | clear => exact continues.elim

theorem protectedPrefix_run {acts : List RingAct} (sized : Sized cap ring) (continues : ∀ act ∈ acts, act.Continues) :
    (ring.run acts).protectedPrefix = ring.protectedPrefix.drop (ring.aged acts) := by
  induction acts generalizing ring with
  | nil => rfl
  | cons act acts ih =>
    have later := ih (sized.perform act) fun later there => continues later (List.mem_cons_of_mem _ there)
    rw [protectedPrefix_perform sized (continues act List.mem_cons_self), List.drop_drop] at later
    exact later

theorem full_of_aging (ring : ScrollbackRing) (aging : 0 < ring.aging act) : (ring.perform act).buf.length = ring.cap := by
  cases act with
  | push bytes =>
    dsimp only [ScrollbackRing.perform, ScrollbackRing.aging] at aging ⊢
    rw [push_snd, List.length_drop]
    unfold overflow at aging ⊢
    omega
  | seedProtected bytes => cases aging
  | rebase snapshot => cases aging
  | takeRebased => cases aging
  | clear => cases aging

/-- What the scrollback is to keep. -/
structure Retains (cap : Nat) (acts : List RingAct) (ring : ScrollbackRing) : Prop where
  within : ring.buf.length ≤ cap
  guarded : ring.protectedPrefixLen ≤ ring.buf.length
  recent : Clearless (acts.foldl RingAct.written []) → ring.snapshot = (acts.foldl RingAct.written []).rtake cap
  seeded : ∀ bytes, (ring.seedProtected bytes).protectedPrefix = (ring.seedProtected bytes).snapshot
  survives : ∀ later, (∀ act ∈ later, act.Continues) →
    (ring.run later).protectedPrefix = ring.protectedPrefix.drop (ring.aged later)
  full : ∀ act, 0 < ring.aging act → (ring.perform act).buf.length = cap

theorem retains (cap : Nat) (acts : List RingAct) : Retains cap acts ((new cap).run acts) where
  within := (sized_run cap acts).within
  guarded := (sized_run cap acts).guarded
  recent := (tells_run cap acts).recent
  seeded _ := List.take_length
  survives _ := protectedPrefix_run (sized_run cap acts)
  full _ aging := (full_of_aging _ aging).trans (sized_run cap acts).cap_eq

end ScrollbackRing

end VibeLink.Daemon
