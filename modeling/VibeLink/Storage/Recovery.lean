import VibeLink.Storage.Files
import Mathlib.Data.List.Induction

/-! What is left of a document after calls that have been cut short, and after damage. -/

namespace VibeLink.Storage

open Relational Tx

abbrev SamePrimary : Faulty Disk → Faulty Disk → Prop := Within (Same Disk.primary)

namespace SamePrimary

variable {α : Type}

instance (error : String) (f : Disk → α) : Respects SamePrimary (looks error f) := respects_step fun _ _ => rfl

instance : Respects SamePrimary createDirAll := inferInstanceAs (Respects _ (looks _ _))

instance : Respects SamePrimary temporaryExists := inferInstanceAs (Respects (Within _) (query _))

instance : Respects SamePrimary finish := by
  dsimp only [finish]
  infer_instance

instance (error : String) : Respects SamePrimary (removeTemporary error) := by
  have removes : Respects (Same Disk.primary) (tryWrite (fun disk : Disk =>
      disk.temporary.map fun _ => { disk with temporary := none }) error) := by
    apply respects_tryWrite
    intro disk disk' removed
    obtain ⟨_, _, rfl⟩ := Option.map_eq_some_iff.1 removed
    rfl
  exact respects_step fun _ _ => rfl

instance (now : Nat) (error : String) : Respects SamePrimary (createTemporary now error) := by
  have creates : Respects (Same Disk.primary) (tryWrite (fun disk : Disk =>
      if disk.temporary.isSome then none else some { disk with temporary := some ⟨[], now⟩ }) error) := by
    apply respects_tryWrite
    intro disk disk' created
    split at created
    · cases created
    · cases created
      rfl
  exact respects_step fun _ _ => rfl

instance (now : Nat) : Respects SamePrimary (cleanupStaleTemp now) := by
  dsimp only [cleanupStaleTemp]
  refine Respects.bind (k := fun modified => ?_)
  cases modified with
  | none => infer_instance
  | some modified => infer_instance

end SamePrimary

section Survives

variable {disk : Disk} {now : Nat} {bytes : Bytes}

theorem survives_looks {α : Type} {error : String} {f : Disk → α} {Q : α → Disk → Prop}
    {C : Fault String → Disk → Prop} (seen : Q (f disk) disk) (cut : ∀ fault, C fault disk) :
    (looks error f).Survives Q C disk := survives_step seen (fun _ => cut _) fun _ => cut _

/-- A fault before the document is replaced leaves it alone, and one behind it comes too late. -/
def Replaced (before : Option Bytes) (bytes : Bytes) (fault : Fault String) (disk : Disk) : Prop :=
  disk.primary = before ∨ ending (.error fault : Except _ Unit) = .interrupted ∧ disk.primary = some bytes

/-- The temporary file holds the bytes, and the document is as it was. -/
def Filled (before : Option Bytes) (bytes : Bytes) (disk : Disk) : Prop :=
  disk.primary = before ∧ ∀ temporary ∈ disk.temporary, temporary.content = bytes

theorem survives_same {α : Type} {x : FileResult α} [kept : Respects SamePrimary x] {before : Option Bytes}
    (same : disk.primary = before) :
    x.Survives (fun _ t => t.primary = before) (Replaced before bytes) disk := by
  refine (Survives.of_respects (R := Same Disk.primary)).mono ?_ ?_
  · intro _ t still
    exact still.trans same
  · intro _ t still
    exact .inl (still.trans same)

theorem fill_primary (part : Option Nat) (content : Disk → Bytes) (disk : Disk) :
    (fillTemporary.torn now content part disk).primary = disk.primary := by
  cases part with
  | none => rfl
  | some => rfl

theorem survives_fillTemporary {before : Option Bytes} {error : String} {content : Disk → Bytes}
    (same : disk.primary = before) (what : content disk = bytes) :
    (fillTemporary now error content).Survives (fun _ => Filled before bytes) (Replaced before bytes) disk := by
  refine survives_step ?_ (fun part => .inl ?_) fun part => .inl ?_
  · rw [wp_write]
    refine ⟨same, fun temporary member => ?_⟩
    obtain ⟨_, _, rfl⟩ := Option.map_eq_some_iff.1 member
    exact what
  · exact (fill_primary part content disk).trans same
  · exact (fill_primary part content disk).trans same

theorem Filled.looks {before : Option Bytes} {error : String} {α : Type} {f : Disk → α}
    (filled : Filled before bytes disk) :
    (Storage.looks error f).Survives (fun _ => Filled before bytes) (Replaced before bytes) disk :=
  survives_looks filled fun _ => .inl filled.1

theorem Filled.copyToBackup {before : Option Bytes} (filled : Filled before bytes disk) :
    Storage.copyToBackup.Survives (fun _ => Filled before bytes) (fun _ t => t.primary = before) disk := by
  have torn (part : Option Nat) : (Storage.copyToBackup.torn part disk).primary = before := by
    cases part with
    | none => exact filled.1
    | some => exact filled.1
  refine survives_step ?_ torn torn
  rw [wp_tryWrite]
  constructor
  · intro t copied
    obtain ⟨_, _, rfl⟩ := Option.map_eq_some_iff.1 copied
    exact filled
  · intro _
    exact filled.1

theorem Filled.renameTemporary {before : Option Bytes} (filled : Filled before bytes disk) :
    Storage.renameTemporary.Survives (fun _ t => t.primary = some bytes) (fun _ t => t.primary = before) disk := by
  refine survives_step ?_ (fun _ => filled.1) fun _ => filled.1
  rw [wp_tryWrite]
  constructor
  · intro t renamed
    obtain ⟨temporary, there, rfl⟩ := Option.map_eq_some_iff.1 renamed
    exact congrArg some (filled.2 temporary there)
  · intro _
    exact filled.1

theorem Filled.replaceFile {before : Option Bytes} {backup : Bool} (filled : Filled before bytes disk) :
    (Storage.replaceFile backup).Survives (fun _ t => t.primary = some bytes) (fun _ t => t.primary = before) disk := by
  have copied : (do
      Storage.copyToBackup
      Storage.renameTemporary).Survives (fun _ t => t.primary = some bytes) (fun _ t => t.primary = before) disk :=
    filled.copyToBackup.seq fun _ _ => Filled.renameTemporary
  refine Survives.bind (survives_query ?_ ?_ filled.1)
  · split
    · exact copied
    · exact filled.renameTemporary
  · split
    · exact copied
    · exact filled.renameTemporary

theorem survives_writeBytes : (writeBytes now bytes).Survives (fun _ t => t.primary = some bytes)
    (Replaced disk.primary bytes) disk := by
  refine Survives.seq (survives_same rfl) fun _ _ same => ?_
  refine Survives.seq (survives_same same) fun _ _ same => ?_
  refine Survives.seq (survives_same same) fun active t same => ?_
  split
  · exact survives_fail (.inl same)
  · refine Survives.seq (survives_same same) fun _ _ same => ?_
    refine Survives.seq (survives_fillTemporary same rfl) fun _ _ filled => ?_
    refine Survives.seq filled.looks fun _ _ filled => ?_
    refine Survives.seq filled.looks fun _ t filled => ?_
    refine Survives.orElse filled.replaceFile (fun _ => .inl) fun fault u same => ?_
    refine (Survives.of_respects (R := Same Disk.primary)).mono ?_ ?_
    · intro _ v still
      exact .inl (still.trans same)
    · intro _ v still
      exact ⟨.inl (still.trans same), .inl (still.trans same)⟩

theorem survives_write (disk : Disk) (now : Nat) (bytes : Bytes) : (write now bytes).Survives (fun _ t => t.primary = some bytes)
    (Replaced disk.primary bytes) disk := by
  refine survives_writeBytes.seq fun _ t written => ?_
  exact (survives_query written written (.inr ⟨rfl, written⟩)).seq fun _ _ written => survives_pure written

theorem survives_load {T : Type} (now : Nat) (default : T) {value : T} {parse : Bytes → Except DocumentError T}
    (there : disk.primary = some bytes) (accepted : parse bytes = .ok value) :
    (load now default parse).Survives (fun report t => report.value = value ∧ t.primary = some bytes)
      (fun _ t => t.primary = some bytes) disk := by
  have cleaned : (cleanupStaleTemp now).Survives (fun _ t => t.primary = some bytes) (fun _ t => t.primary = some bytes)
      disk := (Survives.of_respects (R := Same Disk.primary)).mono (fun _ _ same => same.trans there)
        fun _ _ same => same.trans there
  have parsed : Parsed.of parse (some bytes) = .valid value := by
    rw [Parsed.of, Option.map_some, accepted]
  refine Survives.bind (cleaned.seq fun _ t there => ?_)
  have read : (readAndParse parse .primary).Survives (fun found t => found = .valid value ∧ t.primary = some bytes)
      (fun _ t => t.primary = some bytes) t := by
    refine Survives.bind (survives_step ?_ (fun _ => there) fun _ => there)
    rw [wp_gets]
    refine survives_pure ⟨?_, there⟩
    rw [← parsed, ← there]
    rfl
  refine read.seq fun found t valid => ?_
  obtain ⟨rfl, there⟩ := valid
  have finished : finish.Survives (fun _ t => t.primary = some bytes) (fun _ t => t.primary = some bytes) t :=
    (Survives.of_respects (R := Same Disk.primary)).mono (fun _ _ same => same.trans there)
      fun _ _ same => same.trans there
  exact survives_pure (finished.seq fun _ t there => survives_pure ⟨rfl, there⟩)

end Survives

section Quiet

variable {disk : Disk} {now : Nat} {bytes : Bytes}

theorem write_quiet (free : disk.temporary = none) : write now bytes ⟨disk, []⟩ = (.ok (),
    ⟨{ disk with primary := some bytes, backup := disk.primary.or disk.backup, temporary := none }, []⟩) := by
  cases disk with
  | mk primary backup temporary quarantined =>
    cases free
    cases primary with
    | none => rfl
    | some => rfl

/-- What is made of a damaged document whose predecessor holds the value. -/
def restored {T : Type} (value : T) : Parsed T → Option T
  | .valid other => some other
  | .unsupported _ _ => none
  | .invalid => some value
  | .missing => some value

theorem load_damaged {T : Type} {default value : T} {parse : Bytes → Except DocumentError T} {before : Bytes}
    (damaged : Option Bytes) (free : disk.temporary = none) (kept : disk.backup = some before)
    (accepted : parse before = .ok value) :
    (load now default parse ⟨{ disk with primary := damaged }, []⟩).1.toOption.map LoadReport.value =
      restored value (.of parse damaged) := by
  have backup : Parsed.of parse (some before) = .valid value := by
    rw [Parsed.of, Option.map_some, accepted]
  have run : (load now default parse).wp (fun report _ => some report.value = restored value (.of parse damaged))
      (fun _ _ => none = restored value (.of parse damaged)) ⟨{ disk with primary := damaged }, []⟩ := by
    simp only [load, loadWithRecovery, wp_bind, cleanupStaleTemp, looks, wp_step, wp_gets, readAndParse, readFile, free,
      Option.map_none, wp_pure, Disk.file]
    cases damaged with
    | none =>
      have gone : Parsed.of parse none = .missing := rfl
      simp only [gone, wp_bind, wp_step, wp_gets, wp_pure, kept, backup]
      rfl
    | some bytes =>
      cases found : Parsed.of parse (some bytes) with
      | valid other => rfl
      | unsupported => rfl
      | invalid =>
        simp only [wp_bind, wp_step, wp_gets, wp_pure, kept, backup]
        rfl
      | missing =>
        simp only [wp_bind, wp_step, wp_gets, wp_pure, kept, backup]
        rfl
  simp only [wp] at run
  split at run
  · rename_i ran
    rw [ran]
    exact run
  · rename_i ran
    rw [ran]
    exact run

theorem load_valid {T : Type} {default value : T} {parse : Bytes → Except DocumentError T}
    (free : disk.temporary = none) (there : disk.primary = some bytes) (accepted : parse bytes = .ok value) :
    (load now default parse ⟨disk, []⟩).2.state = disk := by
  have valid : Parsed.of parse (some bytes) = .valid value := by
    rw [Parsed.of, Option.map_some, accepted]
  have run : (load now default parse).wp (fun _ w => w.state = disk) (fun _ w => w.state = disk) ⟨disk, []⟩ := by
    simp only [load, loadWithRecovery, wp_bind, cleanupStaleTemp, looks, wp_step, wp_gets, readAndParse, readFile, free,
      Option.map_none, wp_pure, Disk.file, there, valid]
    rfl
  rwa [wp_snd (I := fun w : Faulty Disk => w.state = disk)] at run

theorem load_missing {T : Type} {default : T} {parse : Bytes → Except DocumentError T} (free : disk.temporary = none)
    (primary : disk.primary = none) (backup : disk.backup = none) :
    (load now default parse ⟨disk, []⟩).2.state = disk := by
  cases disk with
  | mk primary backup temporary quarantined =>
    cases free
    cases primary
    cases backup
    rfl

end Quiet

/-- The last completed write, or one behind it that was interrupted. -/
def Current (writes : List (Bytes × Ending)) (bytes : Bytes) : Prop :=
  ∃ earlier ending later, writes = earlier ++ (bytes, ending) :: later ∧ (∀ write ∈ later, write.2 ≠ .completed) ∧
    (ending = .completed ∨ ending = .interrupted ∧ ∃ write ∈ earlier, write.2 = .completed)

namespace Current

variable {writes : List (Bytes × Ending)} {bytes other : Bytes}

theorem of_completed : Current (writes ++ [(bytes, .completed)]) bytes :=
  ⟨writes, .completed, [], rfl, List.forall_mem_nil _, .inl rfl⟩

theorem of_interrupted (some_ : ∃ write ∈ writes, write.2 = .completed) :
    Current (writes ++ [(bytes, .interrupted)]) bytes :=
  ⟨writes, .interrupted, [], rfl, List.forall_mem_nil _, .inr ⟨rfl, some_⟩⟩

theorem append (current : Current writes bytes) {ending : Ending} (ends : ending ≠ .completed) :
    Current (writes ++ [(other, ending)]) bytes := by
  obtain ⟨earlier, ending', later, rfl, none_, kind⟩ := current
  refine ⟨earlier, ending', later ++ [(other, ending)], ?_, ?_, kind⟩
  · rw [List.append_assoc, List.cons_append]
  · intro write member
    cases List.mem_append.1 member with
    | inl before => exact none_ write before
    | inr new =>
      rw [List.mem_singleton.1 new]
      exact ends

end Current

section Runs

variable {T : Type} {default : T} {parse : Bytes → Except DocumentError T}

def History.Stands (parse : Bytes → Except DocumentError T) (history : History) : Prop :=
  (∃ write ∈ history.writes, write.2 = .completed) → ∃ bytes, Current history.writes bytes ∧
    history.disk.primary = some bytes ∧ ∃ value, parse bytes = .ok value

def Accepts (parse : Bytes → Except DocumentError T) (attempt : Attempt) : Prop :=
  ∀ bytes, attempt.call = .write bytes → ∃ value, parse bytes = .ok value

theorem History.Stands.next {history : History} {attempt : Attempt} (stands : history.Stands parse)
    (accepts : Accepts parse attempt) : (history.next default parse attempt).Stands parse := by
  cases attempt with
  | mk call now fates =>
    cases call with
    | load =>
      intro written
      obtain ⟨bytes, current, there, value, accepted⟩ := stands written
      refine ⟨bytes, current, ?_, value, accepted⟩
      have survives := (survives_load now default there accepted).ran fates
      have kept := wp_mono survives (fun _ _ done => done.2) fun _ _ => id
      rwa [wp_snd (I := fun w : Faulty Disk => w.state.primary = some bytes)] at kept
    | write bytes =>
      have survives := (survives_write history.disk now bytes).ran fates
      have accepted := accepts bytes rfl
      simp only [History.next]
      simp only [wp] at survives
      cases ran : write now bytes ⟨history.disk, fates⟩ with
      | mk result after =>
        rw [ran] at survives
        cases result with
        | ok => exact fun _ => ⟨bytes, .of_completed, survives, accepted⟩
        | error fault =>
          have unfinished : ending (.error fault : Except _ Unit) ≠ .completed := by
            cases fault with
            | refused => exact nofun
            | failed => exact nofun
            | crashed => exact nofun
          intro written
          obtain ⟨write, member, completed⟩ := written
          have before : ∃ write ∈ history.writes, write.2 = .completed := by
            cases List.mem_append.1 member with
            | inl before => exact ⟨write, before, completed⟩
            | inr new =>
              rw [List.mem_singleton.1 new] at completed
              exact absurd completed unfinished
          cases survives with
          | inl same =>
            obtain ⟨old, current, there, accepted⟩ := stands before
            exact ⟨old, current.append unfinished, same.trans there, accepted⟩
          | inr replaced =>
            obtain ⟨interrupted, there⟩ := replaced
            refine ⟨bytes, ?_, there, accepted⟩
            dsimp only
            rw [interrupted]
            exact .of_interrupted before

theorem History.stands {attempts : List Attempt} (accepts : ∀ attempt ∈ attempts, Accepts parse attempt) :
    (History.run default parse attempts).Stands parse := by
  induction attempts using List.reverseRecOn with
  | nil =>
    intro written
    obtain ⟨write, member, _⟩ := written
    cases member
  | append_singleton attempts attempt ih =>
    rw [History.run, List.foldl_append]
    refine (ih fun attempt member => accepts attempt (List.mem_append_left _ member)).next ?_
    exact accepts attempt (List.mem_append_right _ (List.mem_singleton_self _))

/-- What calls leave behind that have not been cut short. -/
structure History.Clean (parse : Bytes → Except DocumentError T) (history : History) : Prop where
  free : history.disk.temporary = none
  primary : history.disk.primary = history.writes.getLast?.map Prod.fst
  backup : history.disk.backup = history.writes.dropLast.getLast?.map Prod.fst
  accepted : ∀ write ∈ history.writes, ∃ value, parse write.1 = .ok value

theorem History.Clean.next {history : History} {attempt : Attempt} (clean : history.Clean parse)
    (quiet : attempt.fates = []) (accepts : Accepts parse attempt) : (history.next default parse attempt).Clean parse := by
  cases attempt with
  | mk call now fates =>
    cases quiet
    cases call with
    | load =>
      have same : (load now default parse ⟨history.disk, []⟩).2.state = history.disk := by
        cases last : history.writes.getLast? with
        | none =>
          have primary := clean.primary
          have backup := clean.backup
          rw [List.getLast?_eq_none_iff.1 last] at primary backup
          exact load_missing clean.free primary backup
        | some write =>
          have primary := clean.primary
          rw [last] at primary
          obtain ⟨value, accepted⟩ := clean.accepted write (List.mem_of_getLast? last)
          exact load_valid clean.free primary accepted
      simp only [History.next, same]
      exact clean
    | write bytes =>
      simp only [History.next, write_quiet clean.free]
      refine ⟨rfl, ?_, ?_, ?_⟩
      · rw [List.getLast?_concat]
        rfl
      · dsimp only
        rw [List.dropLast_concat, clean.primary]
        cases last : history.writes.getLast? with
        | none =>
          rw [clean.backup, List.getLast?_eq_none_iff.1 last]
          rfl
        | some write => rfl
      · intro write member
        cases List.mem_append.1 member with
        | inl before => exact clean.accepted write before
        | inr new =>
          rw [List.mem_singleton.1 new]
          exact accepts bytes rfl

theorem History.clean (default : T) {attempts : List Attempt} (accepts : ∀ attempt ∈ attempts, Accepts parse attempt)
    (quiet : ∀ attempt ∈ attempts, attempt.fates = []) : (History.run default parse attempts).Clean parse := by
  induction attempts using List.reverseRecOn with
  | nil => exact ⟨rfl, rfl, rfl, List.forall_mem_nil _⟩
  | append_singleton attempts attempt ih =>
    rw [History.run, List.foldl_append]
    have last : attempt ∈ attempts ++ [attempt] := List.mem_append_right _ (List.mem_singleton_self _)
    refine (ih ?_ ?_).next (quiet attempt last) (accepts attempt last)
    · intro attempt member
      exact accepts attempt (List.mem_append_left _ member)
    · intro attempt member
      exact quiet attempt (List.mem_append_left _ member)

/-- Whatever calls are cut short, a load that returns after a completed write returns the value of the last one
or of an interrupted write behind it.  And where none is cut short, a damaged document is replaced by its
predecessor: unless it reads as one of a newer schema, which is refused, or as another valid document. -/
theorem load_recovers (default : T) (parse : Bytes → Except DocumentError T) (attempts : List Attempt)
    (accepts : ∀ attempt ∈ attempts, Accepts parse attempt) :
    (∀ now fates report, (load now default parse ⟨(History.run default parse attempts).disk, fates⟩).1 = .ok report →
      (∃ write ∈ (History.run default parse attempts).writes, write.2 = .completed) →
      ∃ bytes, Current (History.run default parse attempts).writes bytes ∧ parse bytes = .ok report.value) ∧
    ∀ now earlier previous latest, (∀ attempt ∈ attempts, attempt.fates = []) →
      (History.run default parse attempts).writes = earlier ++ [(previous, .completed), (latest, .completed)] →
      ∃ value, parse previous = .ok value ∧ ∀ damaged,
        (load now default parse ⟨{ (History.run default parse attempts).disk with primary := damaged }, []⟩).1.toOption.map
          LoadReport.value = restored value (.of parse damaged) := by
  constructor
  · intro now fates report loaded written
    obtain ⟨bytes, current, there, value, accepted⟩ := History.stands accepts written
    have survives := (survives_load now default there accepted).ran fates
    simp only [wp] at survives
    split at survives
    · rename_i ran
      rw [ran, Except.ok.injEq] at loaded
      rw [← loaded, survives.1]
      exact ⟨bytes, current, accepted⟩
    · rename_i ran
      rw [ran] at loaded
      cases loaded
  · intro now earlier previous latest quiet writes
    have clean := History.clean default accepts quiet
    have backup := clean.backup
    have pair : [(previous, Ending.completed), (latest, .completed)] = [(previous, .completed)] ++ [(latest, .completed)] := rfl
    rw [writes, pair, ← List.append_assoc, List.dropLast_concat, List.getLast?_concat] at backup
    have member : (previous, Ending.completed) ∈ (History.run default parse attempts).writes := by
      rw [writes]
      exact List.mem_append_right _ List.mem_cons_self
    obtain ⟨value, accepted⟩ := clean.accepted _ member
    exact ⟨value, accepted, fun damaged => load_damaged damaged clean.free backup accepted⟩

end Runs

def schemaOne : Bytes → Except DocumentError UInt8
  | [1, value] => .ok value
  | [schema, _] => .error (.unsupportedSchema schema.toUInt64 1)
  | _ => .error .invalid

def twice : List Attempt := [⟨.write [1, 10], 0, []⟩, ⟨.write [1, 20], 1, []⟩]

/-- The third write has got as far as the backup, and a byte of it. -/
def torn : List Attempt :=
  twice ++ [⟨.write [1, 30], 2, List.replicate 8 .done ++ [.crashed (some 1)]⟩]

theorem accepts_torn : ∀ attempt ∈ torn, Accepts schemaOne attempt := by
  intro attempt member bytes written
  simp only [torn, twice, List.cons_append, List.nil_append, List.mem_cons, List.not_mem_nil, or_false] at member
  rcases member with rfl | rfl | rfl
  · cases written
    exact ⟨10, rfl⟩
  · cases written
    exact ⟨20, rfl⟩
  · cases written
    exact ⟨30, rfl⟩

theorem torn_recovers :
    (∃ bytes, Current (History.run 0 schemaOne torn).writes bytes ∧ schemaOne bytes = .ok 20) ∧
    (load 3 0 schemaOne ⟨{ (History.run 0 schemaOne twice).disk with primary := some [1] }, []⟩).1.toOption.map
      LoadReport.value = some 10 := by
  constructor
  · exact (load_recovers 0 schemaOne torn accepts_torn).1 3 [] ⟨20, .primary, []⟩ (by decide) (by decide)
  · have accepts : ∀ attempt ∈ twice, Accepts schemaOne attempt :=
      fun attempt member => accepts_torn attempt (List.mem_append_left _ member)
    obtain ⟨value, previous, recovers⟩ := (load_recovers 0 schemaOne twice accepts).2 3 [] [1, 10] [1, 20]
      (by decide) (by decide)
    cases previous
    exact recovers (some [1])

/-- A bit of the schema number is turned over. -/
theorem not_every_damage_recovers :
    ¬∀ (T : Type) (default : T) (parse : Bytes → Except DocumentError T) (attempts : List Attempt),
      (∀ attempt ∈ attempts, Accepts parse attempt) → ∀ now earlier previous latest,
      (∀ attempt ∈ attempts, attempt.fates = []) →
      (History.run default parse attempts).writes = earlier ++ [(previous, .completed), (latest, .completed)] →
      ∃ value, parse previous = .ok value ∧ ∀ damaged, damaged ≠ some latest →
        (load now default parse ⟨{ (History.run default parse attempts).disk with primary := damaged }, []⟩).1.toOption.map
          LoadReport.value = some value := by
  intro recovers
  have accepts : ∀ attempt ∈ twice, Accepts schemaOne attempt :=
    fun attempt member => accepts_torn attempt (List.mem_append_left _ member)
  obtain ⟨value, _, recovers⟩ := recovers UInt8 0 schemaOne twice accepts 3 [] [1, 10] [1, 20] (by decide) (by decide)
  exact absurd (recovers (some [3, 20]) (by decide)) (by simp [show (load 3 0 schemaOne
    ⟨{ (History.run 0 schemaOne twice).disk with primary := some [3, 20] }, []⟩).1.toOption = none by decide])

end VibeLink.Storage
