import VibeLink.Remote.Sequences
import VibeLink.Lexing.Finding
import Mathlib.Data.Finset.Lattice.Lemmas
import Mathlib.Data.Finset.Basic

/-! The items kept for a client that reconnects (`ReplayBuffer` in `remote/v2/wire.rs`). -/

universe u

namespace VibeLink.Remote

open VibeLink.Relational

variable {α : Type u}

structure ReplayItem (α : Type u) where
  sequence : UInt64
  bytes : Nat
  item : α
  deriving DecidableEq

structure ReplayBuffer (α : Type u) where
  maxItems : Nat
  maxBytes : Nat
  bytes : Nat
  items : List (ReplayItem α)

/-- The gap names the oldest number that is available. -/
inductive ReplayError
  | gap (oldestAvailable : UInt64)
  deriving DecidableEq

inductive PushFailure
  | refused (message : String)
  | panicked
  /-- Nothing is left to evict, and the loop goes on. -/
  | diverged
  deriving DecidableEq

namespace ReplayBuffer

def new (maxItems maxBytes : Nat) : Except String (ReplayBuffer α) :=
  if maxItems = 0 ∨ maxBytes = 0 then .error "remote-v2 replay bounds must be non-zero"
  else .ok ⟨maxItems, maxBytes, 0, []⟩

def evict (maxItems maxBytes : Nat) : Nat → List (ReplayItem α) → Option (Nat × List (ReplayItem α))
  | bytes, [] => if maxBytes < bytes then none else some (bytes, [])
  | bytes, oldest :: items =>
    if maxItems < items.length + 1 ∨ maxBytes < bytes then evict maxItems maxBytes (bytes - oldest.bytes) items
    else some (bytes, oldest :: items)

def push (overflowChecks : Bool) (b : ReplayBuffer α) (item : ReplayItem α) :
    Except PushFailure Unit × ReplayBuffer α :=
  if b.maxBytes < item.bytes then (.error (.refused "remote-v2 replay item exceeds byte bound"), b)
  else if (b.items.getLast?).any (fun last => item.sequence ≤ last.sequence) then
    (.error (.refused "remote-v2 replay sequence must increase"), b)
  else
    let items := b.items ++ [item]
    if overflowChecks ∧ UInt64.size ≤ b.bytes + item.bytes then (.error .panicked, { b with items })
    else
      let bytes := (b.bytes + item.bytes) % UInt64.size
      match evict b.maxItems b.maxBytes bytes items with
      | none => (.error .diverged, { b with items, bytes })
      | some (bytes, items) => (.ok (), { b with items, bytes })

def replayAfter (b : ReplayBuffer α) (acknowledged : UInt64) : Except ReplayError (List (UInt64 × α)) :=
  let items := (b.items.filter fun item => acknowledged < item.sequence).map fun item => (item.sequence, item.item)
  match b.items.head? with
  | some oldest => if following acknowledged < oldest.sequence then .error (.gap oldest.sequence) else .ok items
  | none => .ok items

end ReplayBuffer

/-- A buffer, and what was pushed into it. -/
structure Pushes (α : Type u) where
  buffer : ReplayBuffer α
  pushed : List (ReplayItem α)
  broken : Bool

namespace Pushes

def start (buffer : ReplayBuffer α) : Pushes α := ⟨buffer, [], false⟩

def step (overflowChecks : Bool) (p : Pushes α) (item : ReplayItem α) : Pushes α :=
  let (answer, buffer) := p.buffer.push overflowChecks item
  match answer with
  | .ok _ => { p with buffer, pushed := p.pushed ++ [item] }
  | .error (.refused _) => { p with buffer }
  | .error _ => { p with buffer, broken := true }

def evicted (p : Pushes α) : List (ReplayItem α) := p.pushed.take (p.pushed.length - p.buffer.items.length)

def Gap (p : Pushes α) (acknowledged : UInt64) : Prop :=
  ∃ oldest, p.buffer.replayAfter acknowledged = .error (.gap oldest)

end Pushes

/-- What a buffer keeps of the items pushed, and replays of them. -/
structure Pushes.Kept (p : Pushes α) : Prop where
  calm : p.broken = false
  content : p.evicted ++ p.buffer.items = p.pushed
  newest : p.buffer.items.getLast? = p.pushed.getLast?
  items : p.buffer.items.length ≤ p.buffer.maxItems
  bytes : (p.buffer.items.map ReplayItem.bytes).sum ≤ p.buffer.maxBytes
  replays : ∀ acknowledged items, p.buffer.replayAfter acknowledged = .ok items →
    items = (p.pushed.filter fun item => acknowledged < item.sequence).map fun item => (item.sequence, item.item)
  /-- The oldest item is not the next one. -/
  gap : ∀ acknowledged, p.Gap acknowledged ↔
    ∃ oldest, p.buffer.items.head? = some oldest ∧ acknowledged.toNat + 1 < oldest.sequence.toNat
  evicted : ∀ acknowledged, (∃ item ∈ p.evicted, acknowledged < item.sequence) → p.Gap acknowledged
  consecutive : ∀ acknowledged, Consecutive (p.pushed.map ReplayItem.sequence) →
    (∀ first, p.pushed.head? = some first → first.sequence.toNat ≤ acknowledged.toNat + 1) →
    (p.Gap acknowledged ↔ ∃ item ∈ p.evicted, acknowledged < item.sequence)

/-- The bytes of the buffer, with those of an item that may be taken, are counted in a `usize`. -/
def Counts (p : Pushes α) (item : ReplayItem α) : Prop :=
  item.bytes ≤ p.buffer.maxBytes → p.buffer.bytes + item.bytes < UInt64.size

instance (p : Pushes α) (item : ReplayItem α) : Decidable (Counts p item) :=
  inferInstanceAs (Decidable (_ → _))

theorem ReplayBuffer.evict_eq {maxItems : Nat} (maxBytes : Nat) (positive : 0 < maxItems) (items : List (ReplayItem α))
    (fits : ∀ newest, items.getLast? = some newest → newest.bytes ≤ maxBytes) :
    ∃ kept, evict maxItems maxBytes (items.map ReplayItem.bytes).sum items =
        some ((kept.map ReplayItem.bytes).sum, kept) ∧
      kept <:+ items ∧ kept.getLast? = items.getLast? ∧ kept.length ≤ maxItems ∧
      (kept.map ReplayItem.bytes).sum ≤ maxBytes := by
  induction items with
  | nil => exact ⟨[], rfl, List.suffix_refl _, rfl, Nat.zero_le _, Nat.zero_le _⟩
  | cons oldest items ih =>
    cases items with
    | nil =>
      have small := fits oldest rfl
      have within : ¬(maxItems < ([] : List (ReplayItem α)).length + 1 ∨
          maxBytes < ([oldest].map ReplayItem.bytes).sum) := by
        simp only [List.length_nil, List.map_singleton, List.sum_singleton]
        omega
      refine ⟨[oldest], by rw [evict, if_neg within], List.suffix_refl _, rfl, positive, ?_⟩
      rw [List.map_singleton, List.sum_singleton]
      exact small
    | cons next items =>
      rw [evict]
      split
      · have rest : ((oldest :: next :: items).map ReplayItem.bytes).sum - oldest.bytes =
            ((next :: items).map ReplayItem.bytes).sum := by
          rw [List.map_cons, List.sum_cons]
          omega
        obtain ⟨kept, evicts, suffix, newest, within⟩ := ih fun newest last => fits newest (by
          rw [List.getLast?_cons_cons]
          exact last)
        rw [rest]
        exact ⟨kept, evicts, suffix.trans (List.suffix_cons _ _), newest.trans (List.getLast?_cons_cons).symm, within⟩
      · rename_i within
        obtain ⟨items', bytes⟩ := not_or.1 within
        exact ⟨_, rfl, List.suffix_refl _, rfl, Nat.not_lt.1 items', Nat.not_lt.1 bytes⟩

theorem following_lt {acknowledged oldest : UInt64} :
    following acknowledged < oldest ↔ acknowledged.toNat + 1 < oldest.toNat := by
  rw [UInt64.lt_iff_toNat_lt]
  cases Decidable.em (acknowledged = 0xffffffffffffffff) with
  | inr ne => rw [following_toNat ne]
  | inl limit =>
    have lt := oldest.toNat_lt
    rw [following, if_pos limit, limit]
    change 18446744073709551615 < oldest.toNat ↔ 18446744073709551615 + 1 < oldest.toNat
    omega

namespace Pushes

/-- What a run of pushes keeps. -/
structure Holds (p : Pushes α) : Prop where
  calm : p.broken = false
  positive : 0 < p.buffer.maxItems
  counter : p.buffer.bytes = (p.buffer.items.map ReplayItem.bytes).sum
  suffix : p.buffer.items <:+ p.pushed
  newest : p.buffer.items.getLast? = p.pushed.getLast?
  items : p.buffer.items.length ≤ p.buffer.maxItems
  bytes : (p.buffer.items.map ReplayItem.bytes).sum ≤ p.buffer.maxBytes
  increasing : p.pushed.Pairwise fun item later => item.sequence < later.sequence

variable {p : Pushes α} {overflowChecks : Bool} {acknowledged : UInt64}

theorem gap_iff (p : Pushes α) (acknowledged : UInt64) :
    p.Gap acknowledged ↔
      ∃ oldest, p.buffer.items.head? = some oldest ∧ acknowledged.toNat + 1 < oldest.sequence.toNat := by
  unfold Gap ReplayBuffer.replayAfter
  cases p.buffer.items.head? with
  | none => simp
  | some oldest =>
    dsimp only
    split
    · rename_i less
      exact iff_of_true ⟨_, rfl⟩ ⟨oldest, rfl, following_lt.1 less⟩
    · rename_i within
      apply iff_of_false
      · intro ⟨_, gap⟩
        cases gap
      · intro ⟨_, head, less⟩
        cases head
        exact within (following_lt.2 less)

theorem replayAfter_ok {items : List (UInt64 × α)} (ok : p.buffer.replayAfter acknowledged = .ok items) :
    ¬p.Gap acknowledged ∧ items = (p.buffer.items.filter fun item => acknowledged < item.sequence).map
      fun item => (item.sequence, item.item) := by
  constructor
  · intro ⟨_, gap⟩
    cases ok.symm.trans gap
  · unfold ReplayBuffer.replayAfter at ok
    dsimp only at ok
    split at ok
    · split at ok
      · cases ok
      · cases ok
        rfl
    · cases ok
      rfl

namespace Holds

theorem content (holds : p.Holds) : p.evicted ++ p.buffer.items = p.pushed := by
  obtain ⟨front, split⟩ := holds.suffix
  have length : p.pushed.length - p.buffer.items.length = front.length := by
    rw [← split, List.length_append, Nat.add_sub_cancel]
  rw [evicted, length, ← split, List.take_left]

theorem exists_oldest (holds : p.Holds) {item : ReplayItem α} (member : item ∈ p.evicted) :
    ∃ oldest, p.buffer.items.head? = some oldest ∧ item.sequence < oldest.sequence := by
  have content := holds.content
  cases items : p.buffer.items with
  | nil =>
    have newest := holds.newest
    rw [items] at newest
    rw [items, List.append_nil] at content
    rw [content, List.getLast?_eq_none_iff.1 newest.symm] at member
    cases member
  | cons oldest rest =>
    have increasing := holds.increasing
    rw [← content, items, List.pairwise_append] at increasing
    exact ⟨oldest, rfl, increasing.2.2 item member oldest List.mem_cons_self⟩

theorem gap_of_evicted (holds : p.Holds) (missed : ∃ item ∈ p.evicted, acknowledged < item.sequence) :
    p.Gap acknowledged := by
  obtain ⟨item, member, behind⟩ := missed
  obtain ⟨oldest, head, before⟩ := holds.exists_oldest member
  refine (p.gap_iff acknowledged).2 ⟨oldest, head, ?_⟩
  rw [UInt64.lt_iff_toNat_lt] at behind before
  omega

theorem evicted_of_gap (holds : p.Holds) (consecutive : Consecutive (p.pushed.map ReplayItem.sequence))
    (first : ∀ first, p.pushed.head? = some first → first.sequence.toNat ≤ acknowledged.toNat + 1)
    (gap : p.Gap acknowledged) : ∃ item ∈ p.evicted, acknowledged < item.sequence := by
  obtain ⟨oldest, head, less⟩ := (p.gap_iff acknowledged).1 gap
  have content := holds.content
  cases last : p.evicted.getLast? with
  | none =>
    rw [List.getLast?_eq_none_iff.1 last, List.nil_append] at content
    exact absurd (first oldest (content ▸ head)) (Nat.not_le_of_lt less)
  | some item =>
    rw [← content, List.map_append, Consecutive, List.isChain_append] at consecutive
    have follows := consecutive.2.2 item.sequence
      (by rw [List.getLast?_map, last]; rfl) oldest.sequence (by rw [List.head?_map, head]; rfl)
    refine ⟨item, List.mem_of_getLast? last, UInt64.lt_iff_toNat_lt.2 ?_⟩
    omega

theorem kept (holds : p.Holds) : p.Kept where
  calm := holds.calm
  content := holds.content
  newest := holds.newest
  items := holds.items
  bytes := holds.bytes
  replays acknowledged items ok := by
    obtain ⟨complete, items⟩ := replayAfter_ok ok
    have none : p.evicted.filter (fun item => acknowledged < item.sequence) = [] := by
      apply List.filter_eq_nil_iff.2
      intro item member behind
      exact complete (holds.gap_of_evicted ⟨item, member, decide_eq_true_iff.1 behind⟩)
    rw [items, ← holds.content, List.filter_append, none, List.nil_append]
  gap := p.gap_iff
  evicted _ := holds.gap_of_evicted
  consecutive _ consecutive first := ⟨holds.evicted_of_gap consecutive first, holds.gap_of_evicted⟩

theorem push_cases (overflowChecks : Bool) (holds : p.Holds) {item : ReplayItem α} (counts : Counts p item) :
    (∃ message, p.buffer.push overflowChecks item = (.error (.refused message), p.buffer)) ∨
      ∃ kept, p.buffer.push overflowChecks item =
          (.ok (), { p.buffer with bytes := (kept.map ReplayItem.bytes).sum, items := kept }) ∧
        kept <:+ p.buffer.items ++ [item] ∧ kept.getLast? = some item ∧ kept.length ≤ p.buffer.maxItems ∧
        (kept.map ReplayItem.bytes).sum ≤ p.buffer.maxBytes ∧
        ∀ last, p.buffer.items.getLast? = some last → last.sequence < item.sequence := by
  unfold ReplayBuffer.push
  split
  · exact .inl ⟨_, rfl⟩
  · rename_i fits
    split
    · exact .inl ⟨_, rfl⟩
    · rename_i increases
      have counts := counts (Nat.not_lt.1 fits)
      have small : ¬(overflowChecks ∧ UInt64.size ≤ p.buffer.bytes + item.bytes) :=
        fun overflow => Nat.not_le_of_lt counts overflow.2
      have bytes : (p.buffer.bytes + item.bytes) % UInt64.size =
          ((p.buffer.items ++ [item]).map ReplayItem.bytes).sum := by
        rw [Nat.mod_eq_of_lt counts, holds.counter, List.map_append, List.sum_append, List.map_singleton,
          List.sum_singleton]
      obtain ⟨kept, evicts, suffix, newest, items, within⟩ :=
        ReplayBuffer.evict_eq p.buffer.maxBytes holds.positive (p.buffer.items ++ [item]) (by
          intro newest last
          rw [List.getLast?_concat] at last
          cases last
          exact Nat.not_lt.1 fits)
      dsimp only
      rw [if_neg small, bytes, evicts]
      refine .inr ⟨kept, rfl, suffix, newest.trans List.getLast?_concat, items, within, fun last found => ?_⟩
      rw [found] at increases
      simpa using increases

theorem step (holds : p.Holds) {item : ReplayItem α} (counts : Counts p item) :
    (p.step overflowChecks item).Holds := by
  cases holds.push_cases overflowChecks counts with
  | inl refused =>
    obtain ⟨message, push⟩ := refused
    have stepped : p.step overflowChecks item = p := by
      simp only [Pushes.step, push]
    rw [stepped]
    exact holds
  | inr accepted =>
    obtain ⟨kept, push, suffix, newest, items, within, increases⟩ := accepted
    have stepped : p.step overflowChecks item =
        { p with
          buffer := { p.buffer with bytes := (kept.map ReplayItem.bytes).sum, items := kept }
          pushed := p.pushed ++ [item] } := by
      simp only [Pushes.step, push]
    rw [stepped]
    refine ⟨holds.calm, holds.positive, rfl, ?_, ?_, items, within, ?_⟩
    · obtain ⟨front, split⟩ := holds.suffix
      rw [← split, List.append_assoc]
      exact suffix.trans (List.suffix_append _ _)
    · exact newest.trans List.getLast?_concat.symm
    · dsimp only
      rw [List.pairwise_append]
      refine ⟨holds.increasing, List.pairwise_singleton _ _, fun earlier member last here => ?_⟩
      rw [List.mem_singleton.1 here]
      cases before : p.pushed.getLast? with
      | none =>
        rw [List.getLast?_eq_none_iff.1 before] at member
        cases member
      | some last =>
        have less := increases last (holds.newest.trans before)
        have increasing := holds.increasing
        obtain ⟨front, split⟩ := List.getLast?_eq_some_iff.1 before
        rw [split] at increasing member
        cases List.mem_append.1 member with
        | inl earlier =>
          exact UInt64.lt_trans ((List.pairwise_append.1 increasing).2.2 _ earlier _ List.mem_cons_self) less
        | inr last =>
          rw [List.mem_singleton.1 last]
          exact less

theorem start {maxItems maxBytes : Nat} {b : ReplayBuffer α} (created : ReplayBuffer.new maxItems maxBytes = .ok b) :
    (Pushes.start b).Holds := by
  unfold ReplayBuffer.new at created
  split at created
  · cases created
  · rename_i nonzero
    cases created
    exact ⟨rfl, Nat.pos_of_ne_zero (not_or.1 nonzero).1, rfl, List.suffix_refl _, rfl, Nat.zero_le _,
      Nat.zero_le _, .nil⟩

end Holds

end Pushes

/-- In every run whose pushes are all counted, what is kept is within the limits and ends with the newest
item, and what is replayed is complete. -/
theorem replay_complete (overflowChecks : Bool) {maxItems maxBytes : Nat} {b : ReplayBuffer α}
    (created : ReplayBuffer.new maxItems maxBytes = .ok b) (items : List (ReplayItem α))
    (counts : Throughout (Pushes.step overflowChecks) Counts (.start b) items) :
    (items.foldl (Pushes.step overflowChecks) (.start b)).Kept := by
  have step : ∀ (p : Pushes α) (item : ReplayItem α), p.Holds → Counts p item → (p.step overflowChecks item).Holds :=
    fun _ _ holds counts => holds.step counts
  exact (run_invariant step (.start created) counts).kept

theorem two_items_replayed :
    (([⟨1, 4, "one"⟩, ⟨2, 4, "two"⟩, ⟨3, 4, "three"⟩] : List (ReplayItem String)).foldl (Pushes.step true)
      (.start ⟨2, 8, 0, []⟩)).Kept :=
  replay_complete true (show ReplayBuffer.new 2 8 = .ok ⟨2, 8, 0, []⟩ from rfl) _ (by decide)

/-- A gap is reported in front of the first item pushed, where nothing is evicted; and the count of the bytes
can go round. -/
theorem gap_without_eviction :
    ((([⟨5, 1, ()⟩] : List (ReplayItem Unit)).foldl (Pushes.step true) (.start ⟨2, 8, 0, []⟩)).evicted = [] ∧
      (([⟨5, 1, ()⟩] : List (ReplayItem Unit)).foldl (Pushes.step true) (.start ⟨2, 8, 0, []⟩)).Gap 0) ∧
    (([⟨1, 0xffffffffffffffff, ()⟩, ⟨2, 1, ()⟩] : List (ReplayItem Unit)).foldl (Pushes.step true)
      (.start ⟨2, 0xffffffffffffffff, 0, []⟩)).broken ∧
    ¬((([⟨1, 0xffffffffffffffff, ()⟩, ⟨2, 1, ()⟩] : List (ReplayItem Unit)).foldl (Pushes.step false)
      (.start ⟨2, 0xffffffffffffffff, 0, []⟩)).buffer.items.map ReplayItem.bytes).sum ≤ 0xffffffffffffffff :=
  ⟨⟨by decide, 5, by decide⟩, by decide, by decide⟩

end VibeLink.Remote

/-! The operations that a device has asked for last (`OperationReplayWindow` in `remote/v2/wire.rs`). -/

namespace VibeLink.Remote

open Lexing

structure OperationReplayWindow where
  capacity : Nat
  order : List String
  ids : Finset String

namespace OperationReplayWindow

def empty (capacity : Nat) : OperationReplayWindow := ⟨capacity, [], ∅⟩

/-- The loop of `record`. -/
def expire (capacity : Nat) : List String → Finset String → List String × Finset String
  | [], ids => ([], ids)
  | expired :: order, ids =>
    if capacity < (expired :: order).length then expire capacity order (ids.erase expired)
    else (expired :: order, ids)

def record (window : OperationReplayWindow) (operationId : String) : Bool × OperationReplayWindow :=
  if operationId ∈ window.ids then (false, window)
  else
    let (order, ids) := expire window.capacity (window.order ++ [operationId]) (insert operationId window.ids)
    (true, { window with order, ids })

/-- The set and the list hold the same ids. -/
structure Sound (window : OperationReplayWindow) : Prop where
  ids : window.ids = window.order.toFinset
  distinct : window.order.Nodup
  bounded : window.order.length ≤ window.capacity

variable {window : OperationReplayWindow} {operationId : String}

theorem expire_eq (capacity : Nat) {order : List String} (distinct : order.Nodup) :
    expire capacity order order.toFinset = (order.rtake capacity, (order.rtake capacity).toFinset) := by
  induction order with
  | nil =>
    rw [List.rtake_nil]
    rfl
  | cons expired order ih =>
    rw [List.nodup_cons] at distinct
    rw [expire]
    split
    · rename_i long
      have shorter : (expired :: order).rtake capacity = order.rtake capacity :=
        rtake_append_of_le [expired] (Nat.le_of_lt_succ long)
      rw [shorter, List.toFinset_cons, Finset.erase_insert (by rw [List.mem_toFinset]; exact distinct.1)]
      exact ih distinct.2
    · rename_i short
      rw [rtake_of_length_le (Nat.le_of_not_lt short)]

theorem record_known (known : operationId ∈ window.ids) : window.record operationId = (false, window) :=
  if_pos known

theorem record_new (sound : window.Sound) (unknown : operationId ∉ window.ids) :
    window.record operationId = (true, { window with
      order := (window.order ++ [operationId]).rtake window.capacity
      ids := ((window.order ++ [operationId]).rtake window.capacity).toFinset }) := by
  have distinct : (window.order ++ [operationId]).Nodup := by
    rw [sound.ids, List.mem_toFinset] at unknown
    rw [List.nodup_append_comm]
    exact List.nodup_cons.2 ⟨unknown, sound.distinct⟩
  have ids : insert operationId window.ids = (window.order ++ [operationId]).toFinset := by
    rw [sound.ids, List.toFinset_append, List.toFinset_cons, List.toFinset_nil, Finset.union_comm]
    rfl
  rw [record, if_neg unknown, ids, expire_eq window.capacity distinct]

theorem Sound.empty (capacity : Nat) : (empty capacity).Sound := ⟨rfl, List.nodup_nil, Nat.zero_le _⟩

theorem Sound.record (sound : window.Sound) (operationId : String) : (window.record operationId).2.Sound := by
  by_cases known : operationId ∈ window.ids
  · rw [record_known known]
    exact sound
  · rw [record_new sound known]
    have distinct : (window.order ++ [operationId]).Nodup := by
      rw [sound.ids, List.mem_toFinset] at known
      rw [List.nodup_append_comm]
      exact List.nodup_cons.2 ⟨known, sound.distinct⟩
    refine ⟨rfl, distinct.sublist (rtake_suffix _ _).sublist, ?_⟩
    rw [length_rtake]
    exact Nat.min_le_left _ _

end OperationReplayWindow

/-- A window, and the ids that it has accepted so far. -/
structure Operations where
  window : OperationReplayWindow
  accepted : List String

namespace Operations

def start (capacity : Nat) : Operations := ⟨.empty capacity, []⟩

def next (operations : Operations) (operationId : String) : Operations :=
  let (fresh, window) := operations.window.record operationId
  { window, accepted := if fresh then operations.accepted ++ [operationId] else operations.accepted }

/-- The window holds the ids accepted last. -/
structure Current (capacity : Nat) (operations : Operations) : Prop where
  sound : operations.window.Sound
  bound : operations.window.capacity = capacity
  order : operations.window.order = operations.accepted.rtake capacity

variable {capacity : Nat} {operations : Operations} {operationId : String}

theorem Current.next (current : operations.Current capacity) (operationId : String) :
    (operations.next operationId).Current capacity := by
  have sound := current.sound.record operationId
  by_cases known : operationId ∈ operations.window.ids
  · rw [Operations.next, OperationReplayWindow.record_known known]
    exact current
  · rw [OperationReplayWindow.record_new current.sound known] at sound
    rw [Operations.next, OperationReplayWindow.record_new current.sound known]
    refine ⟨sound, current.bound, ?_⟩
    dsimp only
    rw [current.bound, current.order, rtake_append_rtake, if_pos rfl]

theorem current_run (capacity : Nat) (operationIds : List String) :
    (operationIds.foldl next (start capacity)).Current capacity := by
  induction operationIds using List.reverseRecOn with
  | nil => exact ⟨.empty capacity, rfl, (List.rtake_nil capacity).symm⟩
  | append_singleton operationIds operationId ih =>
    rw [List.foldl_append]
    exact ih.next operationId

/-- An operation is accepted when it is none of those accepted last. -/
theorem accepts_iff (capacity : Nat) (operationIds : List String) (operationId : String) :
    (((operationIds.foldl next (start capacity)).window.record operationId).1 = true ↔
      operationId ∉ (operationIds.foldl next (start capacity)).accepted.rtake capacity) ∧
    (operationIds.foldl next (start capacity)).window.Sound ∧
    (operationIds.foldl next (start capacity)).window.capacity = capacity := by
  have current := current_run capacity operationIds
  refine ⟨?_, current.sound, current.bound⟩
  rw [← current.order, ← List.mem_toFinset, ← current.sound.ids]
  by_cases known : operationId ∈ (operationIds.foldl next (start capacity)).window.ids
  · simp [OperationReplayWindow.record_known known, known]
  · simp [OperationReplayWindow.record_new current.sound known, known]

end Operations

end VibeLink.Remote
