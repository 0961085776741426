import VibeLink.Memory.Store
import VibeLink.Storage.Recovery
import VibeLink.Relational.Outcome
import VibeLink.Relational.Runs

/-! A file that is written a line at a time, some of them cut short. -/

namespace VibeLink.Memory

open Relational Tx Storage
open Coordinator (trim)

section Lines

def Fresh (content : Bytes) : Prop := ∀ byte ∈ content.getLast?, byte = newline

instance (content : Bytes) : Decidable (Fresh content) :=
  inferInstanceAs (Decidable (∀ byte ∈ content.getLast?, byte = newline))

theorem fresh_concat (content : Bytes) : Fresh (content ++ [newline]) := by
  intro byte last
  rw [List.getLast?_concat, Option.mem_some] at last
  exact last.symm

theorem lines_ne_nil {content : Bytes} (some_ : content ≠ []) : lines content ≠ [] := by
  cases content with
  | nil => exact absurd rfl some_
  | cons byte rest =>
    rw [lines]
    split
    · exact List.cons_ne_nil _ _
    · exact List.cons_ne_nil _ _

theorem lines_append {content : Bytes} (fresh : Fresh content) (more : Bytes) :
    lines (content ++ more) = lines content ++ lines more := by
  induction content with
  | nil => rfl
  | cons byte rest ih =>
    rw [List.cons_append, lines, lines]
    cases rest with
    | nil =>
      have ends : byte = newline := fresh byte rfl
      rw [if_pos ends, if_pos ends]
      rfl
    | cons next rest =>
      have split_ := ih fun byte last => fresh byte (by rwa [List.getLast?_cons_cons])
      rw [split_]
      split
      · rfl
      · cases first : lines (next :: rest) with
        | nil => exact absurd first (lines_ne_nil (List.cons_ne_nil _ _))
        | cons line others => rfl

theorem lines_of_notMem {content : Bytes} (plain : newline ∉ content) (some_ : content ≠ []) :
    lines content = [content] := by
  induction content with
  | nil => exact absurd rfl some_
  | cons byte rest ih =>
    rw [List.mem_cons, not_or] at plain
    rw [lines, if_neg (Ne.symm plain.1)]
    cases rest with
    | nil => rfl
    | cons next rest =>
      rw [ih plain.2 (List.cons_ne_nil _ _)]
      rfl

theorem lines_concat {content : Bytes} (plain : newline ∉ content) :
    lines (content ++ [newline]) = [content] := by
  induction content with
  | nil => rfl
  | cons byte rest ih =>
    rw [List.mem_cons, not_or] at plain
    rw [List.cons_append, lines, if_neg (Ne.symm plain.1), ih plain.2]
    rfl

theorem stripped_eq {line : Bytes} (plain : ∀ byte ∈ line, byte ≠ newline ∧ byte ≠ carriageReturn) :
    stripped line = line := by
  rw [stripped, List.rdropWhile_eq_self_iff]
  intro some_ ends
  rw [decide_eq_true_iff] at ends
  have last := plain _ (List.getLast_mem some_)
  exact ends.elim last.1 last.2

end Lines

/-- What is relied on of `serde_json`: it reads what it has written, on one line, and no beginning of it. -/
def Codec.Lawful (codec : Codec) (record : MemoryRecord) : Prop :=
  codec.parse (codec.toText record) = some record ∧
  (∀ byte ∈ codec.toText record, byte ≠ newline ∧ byte ≠ carriageReturn) ∧
  ∀ n < (codec.toText record).length, codec.parse ((codec.toText record).take n) = none

instance (codec : Codec) (record : MemoryRecord) : Decidable (codec.Lawful record) :=
  inferInstanceAs (Decidable (_ ∧ _ ∧ _))

section Parsing

variable {codec : Codec} {record : MemoryRecord} {content : Bytes}

theorem Codec.Lawful.plain (lawful : codec.Lawful record) : newline ∉ codec.toText record :=
  fun member => (lawful.2.1 _ member).1 rfl

theorem parsedLines_append (fresh : Fresh content) (more : Bytes) :
    parsedLines codec (content ++ more) = parsedLines codec content ++ parsedLines codec more := by
  rw [parsedLines, lines_append fresh, List.filterMap_append]
  rfl

theorem parsedLines_line (lawful : codec.Lawful record) : parsedLines codec (line codec record) = [record] := by
  rw [parsedLines, line, lines_concat lawful.plain, List.filterMap_cons, stripped_eq lawful.2.1, lawful.1]
  rfl

theorem parsedLines_take (lawful : codec.Lawful record) (n : Nat) :
    parsedLines codec ((line codec record).take n) = [] ∨
      parsedLines codec ((line codec record).take n) = [record] := by
  have plain (m : Nat) : ∀ byte ∈ (codec.toText record).take m, byte ≠ newline ∧ byte ≠ carriageReturn :=
    fun byte member => lawful.2.1 byte (List.mem_of_mem_take member)
  by_cases whole_ : (codec.toText record).length < n
  · right
    rw [List.take_of_length_le, parsedLines_line lawful]
    rw [line, List.length_append, List.length_singleton]
    omega
  · rw [line, List.take_append_of_le_length (by omega)]
    by_cases empty : (codec.toText record).take n = []
    · left
      rw [empty]
      rfl
    · rw [parsedLines, lines_of_notMem (fun member => (plain n _ member).1 rfl) empty, List.filterMap_cons,
        stripped_eq (plain n)]
      by_cases short : n < (codec.toText record).length
      · left
        rw [lawful.2.2 n short]
        rfl
      · right
        rw [List.take_of_length_le (by omega), lawful.1]
        rfl

theorem fresh_flatMap (records : List MemoryRecord) : Fresh (records.flatMap (line codec)) := by
  cases records using List.reverseRecOn with
  | nil => exact nofun
  | append_singleton records record =>
    rw [List.flatMap_append, List.flatMap_singleton, line, ← List.append_assoc]
    exact fresh_concat _

theorem parsedLines_flatMap {records : List MemoryRecord} (lawful : ∀ record ∈ records, codec.Lawful record) :
    parsedLines codec (records.flatMap (line codec)) = records := by
  induction records with
  | nil => rfl
  | cons record records ih =>
    rw [List.flatMap_cons, line, parsedLines_append (fresh_concat _), ih, ← line, parsedLines_line]
    · rfl
    · exact lawful record List.mem_cons_self
    · exact fun other member => lawful other (List.mem_cons_of_mem _ member)

end Parsing

section Live

variable {records : List MemoryRecord} {record : MemoryRecord}

theorem find_live (id : String) : (live records).find id =
    ((records.foldl Table.put .empty : Table MemoryRecord.id).find id).filter fun record => !record.deleted :=
  Table.find_retain _ _ _

theorem find_live_concat : (live (records ++ [record])).find =
    Function.update (live records).find record.id (if record.deleted then none else some record) := by
  funext id
  rw [find_live, List.foldl_append, List.foldl_cons, List.foldl_nil, Table.find_put]
  by_cases same : id = record.id
  · rw [same, Function.update_self, Function.update_self]
    cases deleted : record.deleted with
    | true => rw [Option.filter_some_neg (by rw [deleted]; rfl), if_pos rfl]
    | false => rw [Option.filter_some_pos (by rw [deleted]; rfl), if_neg Bool.false_ne_true]
  · rw [Function.update_of_ne same, Function.update_of_ne same, find_live]

theorem not_deleted_of_find {id : String} (found : (live records).find id = some record) : record.deleted = false := by
  rw [find_live, Option.filter_eq_some_iff, Bool.not_eq_true'] at found
  exact found.2

theorem find_live_inOrder : (live (inOrder (live records))).find = (live records).find := by
  funext id
  have perm : (inOrder (live records)).Perm (live records).rows := perm_orderBy _ _
  have nodup : ((inOrder (live records)).map MemoryRecord.id).Nodup := (perm.map _).nodup_iff.2 (live records).nodup
  rw [find_live]
  cases found : (live records).find id with
  | none =>
    rw [Table.find_foldl_put_of_notMem]
    · rfl
    · rw [(perm.map MemoryRecord.id).mem_iff]
      exact Table.find_eq_none.1 found
  | some record =>
    have same := Table.key_of_find found
    have member : record ∈ inOrder (live records) := perm.mem_iff.2 (Table.mem_of_find found)
    rw [← same, Table.find_foldl_put_of_mem nodup member]
    exact Option.filter_some_pos (by rw [not_deleted_of_find found]; rfl)

end Live

section Effects

variable {codec : Codec} {disk t : Disk} {record : MemoryRecord} {now : Nat}

/-- Every record that a read finds is one that `serde_json` writes and reads. -/
def Readable (codec : Codec) (disk : Disk) : Prop :=
  ∀ id record, (stored codec disk).find id = some record → codec.Lawful record

def SameRecords (codec : Codec) (disk t : Disk) : Prop := (stored codec t).find = (stored codec disk).find

def Appended (codec : Codec) (record : MemoryRecord) (disk t : Disk) : Prop :=
  (stored codec t).find =
    Function.update (stored codec disk).find record.id (if record.deleted then none else some record)

theorem Appended.of_same {u : Disk} (appended : Appended codec record disk t) (same : SameRecords codec u disk) :
    Appended codec record u t := by
  rw [Appended, appended, same]

theorem Readable.same (readable : Readable codec disk) (same : SameRecords codec disk t) : Readable codec t :=
  fun id record found => readable id record (same ▸ found)

theorem Readable.append (readable : Readable codec disk) (lawful : codec.Lawful record)
    (appended : Appended codec record disk t) : Readable codec t := by
  intro id other found
  rw [appended] at found
  by_cases same : id = record.id
  · rw [same, Function.update_self] at found
    split at found
    · cases found
    · cases found
      exact lawful
  · rw [Function.update_of_ne same] at found
    exact readable id other found

theorem stored_eq (primary : t.primary = some (disk.primary.getD [] ++ more)) (fresh : Fresh (disk.primary.getD [])) :
    stored codec t = live (parsedLines codec (disk.primary.getD []) ++ parsedLines codec more) := by
  rw [stored, primary, Option.getD_some, parsedLines_append fresh]

theorem appended_line (lawful : codec.Lawful record) (fresh : Fresh (disk.primary.getD []))
    (primary : t.primary = some (disk.primary.getD [] ++ line codec record)) : Appended codec record disk t := by
  rw [Appended, stored_eq primary fresh, parsedLines_line lawful, find_live_concat]
  rfl

theorem appended_take (lawful : codec.Lawful record) (fresh : Fresh (disk.primary.getD [])) {n : Nat}
    (primary : t.primary = some (disk.primary.getD [] ++ (line codec record).take n)) :
    SameRecords codec disk t ∨ Appended codec record disk t := by
  cases parsedLines_take lawful n with
  | inl nothing =>
    left
    rw [SameRecords, stored_eq primary fresh, nothing, List.append_nil]
    rfl
  | inr all =>
    right
    rw [Appended, stored_eq primary fresh, all, find_live_concat]
    rfl

theorem survives_appendRecord (lawful : codec.Lawful record) (fresh : Fresh (disk.primary.getD [])) :
    (appendRecord codec record).Survives (fun _ => Appended codec record disk)
      (fun _ t => SameRecords codec disk t ∨ Appended codec record disk t) disk := by
  have torn {t : Disk} (there : t.primary = some (disk.primary.getD [])) (part : Option Nat) :
      SameRecords codec disk (appendRecord.torn codec record part t) ∨
        Appended codec record disk (appendRecord.torn codec record part t) := by
    cases part with
    | none =>
      left
      rw [SameRecords, stored, appendRecord.torn, there]
      rfl
    | some n =>
      apply appended_take lawful fresh
      rw [appendRecord.torn, appendRecord.append, there]
      rfl
  have opened : Survives (step whole "open memory store" (Tx.write fun disk =>
      { disk with primary := some (disk.primary.getD []) }))
      (fun _ t => t.primary = some (disk.primary.getD []))
      (fun _ t => SameRecords codec disk t ∨ Appended codec record disk t) disk :=
    survives_step (wp_write ▸ rfl) (fun _ => .inl rfl) fun _ => .inl rfl
  have written {t : Disk} (there : t.primary = some (disk.primary.getD [])) :
      Survives (step (appendRecord.torn codec record) "append memory store"
        (Tx.write fun disk => appendRecord.append (line codec record) disk)) (fun _ => Appended codec record disk)
        (fun _ t => SameRecords codec disk t ∨ Appended codec record disk t) t := by
    refine survives_step ?_ (torn there) (torn there)
    rw [wp_write]
    apply appended_line lawful fresh
    rw [appendRecord.append, there]
    rfl
  refine Survives.seq (survives_looks (Q := fun _ t => t = disk) rfl fun _ => .inl rfl) fun _ t same => ?_
  subst same
  refine opened.seq fun _ t there => (written there).seq fun _ u appended => ?_
  exact survives_looks appended fun _ => .inr appended

theorem mem_inOrder {records : Table MemoryRecord.id} :
    record ∈ inOrder records ↔ records.find record.id = some record := by
  rw [inOrder, mem_orderBy]
  exact ⟨Table.find_of_mem, Table.mem_of_find⟩

theorem same_compacted (readable : Readable codec disk)
    (primary : t.primary = some ((inOrder (stored codec disk)).flatMap (line codec))) : SameRecords codec disk t := by
  have lawful : ∀ record ∈ inOrder (stored codec disk), codec.Lawful record :=
    fun record member => readable record.id record (mem_inOrder.1 member)
  rw [SameRecords, stored, primary, Option.getD_some, parsedLines_flatMap lawful]
  exact find_live_inOrder

theorem same_of_primary (primary : t.primary = disk.primary) : SameRecords codec disk t := by
  rw [SameRecords, stored, primary]
  rfl

theorem survives_compactRecords (readable : Readable codec disk) :
    (compactRecords codec now (inOrder (stored codec disk))).Survives
      (fun _ t => SameRecords codec disk t ∧ Fresh (t.primary.getD [])) (fun _ t => SameRecords codec disk t) disk := by
  refine survives_writeBytes.mono ?_ ?_
  · intro _ t written
    refine ⟨same_compacted readable written, ?_⟩
    rw [written]
    exact fresh_flatMap _
  · intro _ t replaced
    cases replaced with
    | inl same => exact same_of_primary same
    | inr written => exact same_compacted readable written.2

theorem survives_readRecords (readable : Readable codec disk) :
    (readRecords codec now).Survives (fun records t => records = inOrder (stored codec disk) ∧ SameRecords codec disk t ∧
      (Fresh (disk.primary.getD []) ∨ memoryCompactLines < (lines (disk.primary.getD [])).length →
        Fresh (t.primary.getD []))) (fun _ t => SameRecords codec disk t) disk := by
  refine Survives.bind (survives_looks ?_ fun _ => rfl)
  cases there : disk.primary with
  | none =>
    refine survives_pure ⟨?_, rfl, fun _ => ?_⟩
    · rw [stored, there]
      rfl
    · rw [there]
      exact nofun
  | some bytes =>
    have found : inOrder (live (parsedLines codec bytes)) = inOrder (stored codec disk) := by rw [stored, there]; rfl
    dsimp only
    rw [found]
    split
    · exact (survives_compactRecords readable).seq fun _ t done => survives_pure ⟨rfl, done.1, fun _ => done.2⟩
    · rename_i few
      refine survives_pure ⟨rfl, rfl, fun fresh => ?_⟩
      rw [there]
      exact fresh.resolve_right few

theorem find_inOrder (records : Table MemoryRecord.id) (id : String) :
    ((inOrder records).find? fun record => record.id = id) = records.find id := by
  cases found : records.find id with
  | none =>
    rw [List.find?_eq_none]
    intro record member
    rw [decide_eq_true_iff]
    intro same
    rw [← same, mem_inOrder.1 member] at found
    cases found
  | some record =>
    have same := Table.key_of_find found
    cases first : (inOrder records).find? fun record => record.id = id with
    | none =>
      have missing := List.find?_eq_none.1 first record (mem_inOrder.2 (by rw [same]; exact found))
      exact absurd (decide_eq_true same) missing
    | some other =>
      have here := mem_inOrder.1 (List.mem_of_find?_eq_some first)
      have same' : other.id = id := by
        have holds := List.find?_some first
        rwa [decide_eq_true_iff] at holds
      rw [same', found] at here
      exact here.symm

def Call.Ready (call : Call) (content : Bytes) : Prop :=
  Fresh content ∨ call.reads ∧ memoryCompactLines < (lines content).length

theorem survives_rewrite {id : String} {change : MemoryRecord → MemoryRecord} (readable : Readable codec disk)
    (ready : ∀ record ∈ rewritten codec disk id change, codec.Lawful record ∧ (Fresh (disk.primary.getD []) ∨
      memoryCompactLines < (lines (disk.primary.getD [])).length)) :
    (rewrite codec now id change).Survives
      (fun _ t => ∃ record ∈ rewritten codec disk id change, Appended codec record disk t)
      (fun _ t => SameRecords codec disk t ∨ ∃ record ∈ rewritten codec disk id change,
        Appended codec record disk t) disk := by
  rw [rewrite]
  split
  · exact survives_fail (.inl rfl)
  · rename_i named
    refine ((survives_readRecords readable).mono ?_ fun _ _ => .inl).bind
    intro records t read
    obtain ⟨rfl, same, fresh⟩ := read
    rw [find_inOrder]
    cases found : (stored codec disk).find (trim id) with
    | none => exact survives_fail (.inl same)
    | some record =>
      have this : rewritten codec disk id change = some (change record) := by
        rw [rewritten, if_neg named, found, Option.map_some]
      obtain ⟨lawful, begins⟩ := ready _ this
      have appends : (appendRecord codec (change record)).Survives
          (fun _ u => ∃ record ∈ rewritten codec disk id change, Appended codec record disk u)
          (fun _ u => SameRecords codec disk u ∨ ∃ record ∈ rewritten codec disk id change,
            Appended codec record disk u) t := by
        refine (survives_appendRecord lawful (fresh begins)).mono ?_ ?_
        · intro _ u appended
          exact ⟨_, this, appended.of_same same⟩
        · intro _ u done
          cases done with
          | inl same' => exact .inl (same'.trans same)
          | inr appended => exact .inr ⟨_, this, appended.of_same same⟩
      exact appends.seq fun _ _ done => survives_pure done

/-- Nothing is said of other ids than the one that a call is about. -/
def Spares (codec : Codec) (target : Option String) (disk t : Disk) : Prop :=
  ∀ id, target ≠ some id → (stored codec t).find id = (stored codec disk).find id

theorem SameRecords.spares {target : Option String} (same : SameRecords codec disk t) : Spares codec target disk t :=
  fun id _ => congrFun same id

theorem Appended.spares (appended : Appended codec record disk t) : Spares codec (some record.id) disk t := by
  intro id ne
  rw [appended, Function.update_of_ne fun same => ne (congrArg some same.symm)]

variable {place : Place}

/-- What the call appends is read back, and begins a line of its own. -/
def Call.Sound (codec : Codec) (place : Place) (disk : Disk) (now : Nat) (call : Call) : Prop :=
  ∀ record ∈ call.appended codec place disk now, codec.Lawful record ∧ call.Ready (disk.primary.getD [])

theorem survives_finish {Q : Unit → Disk → Prop} {C : Fault String → Disk → Prop} (done : Q () disk)
    (cut : C .crashed disk) : finish.Survives Q C disk :=
  (survives_query done done cut).seq fun _ _ done => survives_pure done

theorem survives_listMemory (now : Nat) (readable : Readable codec disk) :
    (listMemory codec now).Survives
      (fun records t => records = sortRecords (inOrder (stored codec disk)) ∧ SameRecords codec disk t)
      (fun _ t => SameRecords codec disk t) disk :=
  (survives_readRecords readable).seq fun _ _ read => survives_pure ⟨congrArg sortRecords read.1, read.2.1⟩

theorem survives_searchMemory {query : String} {limit : Nat} (readable : Readable codec disk) :
    (searchMemory codec now query limit).Survives (fun _ t => SameRecords codec disk t)
      (fun _ t => SameRecords codec disk t) disk := by
  rw [searchMemory]
  split
  · exact survives_fail rfl
  · exact (survives_listMemory now readable).seq fun _ _ listed => survives_pure listed.2

theorem record_not_deleted (input : MemoryAddInput) (place : Place) (drawn : String) (now : Nat)
    (record : MemoryRecord) (added : input.record place drawn now = .ok record) : record.deleted = false := by
  simp only [MemoryAddInput.record, bind_eq_ok, pure, Except.pure, Except.ok.injEq] at added
  obtain ⟨_, _, _, _, _, _, _, _, _, _, rfl⟩ := added
  rfl

theorem Readable.settled {target : Option String} {o : Option MemoryRecord} (readable : Readable codec disk)
    (about : ∀ record ∈ o, codec.Lawful record ∧ target = some record.id)
    (done : SameRecords codec disk t ∨ ∃ record ∈ o, Appended codec record disk t) :
    Readable codec t ∧ Spares codec target disk t := by
  cases done with
  | inl same => exact ⟨readable.same same, same.spares⟩
  | inr done =>
    obtain ⟨record, member, appended⟩ := done
    obtain ⟨lawful, rfl⟩ := about record member
    exact ⟨readable.append lawful appended, appended.spares⟩

theorem id_of_rewritten {id : String} {change : MemoryRecord → MemoryRecord}
    (keeps : ∀ record, (change record).id = record.id) (made : rewritten codec disk id change = some record) :
    trim id = record.id := by
  rw [rewritten] at made
  split at made
  · cases made
  · obtain ⟨old, found, rfl⟩ := Option.map_eq_some_iff.1 made
    rw [keeps]
    exact (Table.key_of_find found).symm

theorem survives_rewriting {id : String} {change : MemoryRecord → MemoryRecord}
    (keeps : ∀ record, (change record).id = record.id) (readable : Readable codec disk)
    (sound : ∀ record ∈ rewritten codec disk id change, codec.Lawful record ∧ (Fresh (disk.primary.getD []) ∨
      memoryCompactLines < (lines (disk.primary.getD [])).length)) :
    (rewrite codec now id change).Survives (fun _ t => Readable codec t ∧ Spares codec (some (trim id)) disk t)
      (fun _ t => Readable codec t ∧ Spares codec (some (trim id)) disk t) disk := by
  have about : ∀ record ∈ rewritten codec disk id change, codec.Lawful record ∧ some (trim id) = some record.id :=
    fun record made => ⟨(sound record made).1, congrArg some (id_of_rewritten keeps made)⟩
  refine (survives_rewrite readable sound).mono ?_ ?_
  · intro _ t done
    exact readable.settled about (.inr done)
  · intro _ t done
    exact readable.settled about done

theorem survives_adding {made : Except String MemoryRecord}
    (sound : ∀ record ∈ made.toOption, codec.Lawful record ∧ Fresh (disk.primary.getD [])) :
    (do
      let record ← ofExcept (made.mapError Fault.refused)
      appendRecord codec record
      pure record : FileResult MemoryRecord).Survives
      (fun record t => made = .ok record ∧ Appended codec record disk t)
      (fun _ t => SameRecords codec disk t ∨ ∃ record ∈ made.toOption, Appended codec record disk t) disk := by
  cases made with
  | error error => exact (survives_fail (.inl rfl)).bind
  | ok record =>
    obtain ⟨lawful, fresh⟩ := sound record rfl
    refine Survives.seq (Q := fun a t => a = record ∧ t = disk) (survives_pure ⟨rfl, rfl⟩) fun a t same => ?_
    obtain ⟨rfl, rfl⟩ := same
    refine Survives.seq ((survives_appendRecord lawful fresh).mono (fun _ _ => id) ?_) fun _ t appended => ?_
    · intro _ t done
      exact done.imp_right fun appended => ⟨a, rfl, appended⟩
    · exact survives_pure ⟨rfl, appended⟩

theorem Survives.finished {α β : Type} {x : FileResult α} {g : α → β} {I : Disk → Prop} {Q : α → Disk → Prop}
    (ran : x.Survives (fun a t => I t ∧ Q a t) (fun _ => I) disk) :
    (do
      let a ← x
      finish
      pure (g a)).Survives (fun b t => I t ∧ ∃ a, g a = b ∧ Q a t) (fun _ => I) disk := by
  refine Tx.Survives.seq ran fun a t done => ?_
  refine Tx.Survives.seq (survives_finish (Q := fun _ t => I t ∧ Q a t) done done.1) fun _ u done => ?_
  exact survives_pure ⟨done.1, a, rfl, done.2⟩

theorem Survives.silent {α : Type} {x : FileResult α} {target : Option String}
    (ran : x.Survives (fun _ t => Readable codec t ∧ Spares codec target disk t)
      (fun _ t => Readable codec t ∧ Spares codec target disk t) disk) :
    (do
      let _ ← x
      finish
      pure (none : Option MemoryRecord)).Survives
      (fun added t => (Readable codec t ∧ Spares codec target disk t) ∧
        ∀ record ∈ added, (stored codec t).find record.id = some record)
      (fun _ t => Readable codec t ∧ Spares codec target disk t) disk := by
  have ends := Survives.finished (g := fun _ => (none : Option MemoryRecord)) (Q := fun _ _ => True)
    (ran.mono (fun _ _ done => ⟨done, trivial⟩) fun _ _ => id)
  refine ends.mono ?_ fun _ _ => id
  intro added t done
  obtain ⟨settled, _, rfl, _⟩ := done
  exact ⟨settled, fun _ none => absurd none (Option.not_mem_none _)⟩

theorem survives_add {input : MemoryAddInput} {drawn : String} (readable : Readable codec disk)
    (sound : (Call.add input drawn).Sound codec place disk now) :
    ((Call.add input drawn).perform codec place now).Survives
      (fun added t => (Readable codec t ∧ Spares codec ((Call.add input drawn).target place now) disk t) ∧
        ∀ record ∈ added, (stored codec t).find record.id = some record)
      (fun _ t => Readable codec t ∧ Spares codec ((Call.add input drawn).target place now) disk t) disk := by
  have alive := record_not_deleted input place drawn now
  simp only [Call.Sound, Call.appended, Call.Ready, Call.reads, Bool.false_eq_true, false_and, or_false] at sound
  simp only [Call.perform, addMemory, Call.target]
  generalize input.record place drawn now = made at sound alive ⊢
  have about : ∀ record ∈ made.toOption, codec.Lawful record ∧ made.toOption.map MemoryRecord.id = some record.id := by
    intro record member
    refine ⟨(sound record member).1, ?_⟩
    rw [Option.mem_def.1 member, Option.map_some]
  generalize made.toOption.map MemoryRecord.id = target at about ⊢
  have adds := (survives_adding sound).mono
    (R := fun record t => (Readable codec t ∧ Spares codec target disk t) ∧
      (stored codec t).find record.id = some record)
    (D := fun _ t => Readable codec t ∧ Spares codec target disk t) ?_ fun _ t => readable.settled about
  · refine (Survives.finished (g := some) adds).mono ?_ fun _ _ => id
    intro added t done
    obtain ⟨settled, record, rfl, found⟩ := done
    refine ⟨settled, fun other same => ?_⟩
    cases same
    exact found
  · intro record t done
    obtain ⟨rfl, appended⟩ := done
    refine ⟨readable.settled about (.inr ⟨record, rfl, appended⟩), ?_⟩
    rw [appended, Function.update_self, alive record rfl]
    rfl

theorem survives_perform (place : Place) (now : Nat) (call : Call) (readable : Readable codec disk) (sound : call.Sound codec place disk now) :
    (call.perform codec place now).Survives
      (fun added t => (Readable codec t ∧ Spares codec (call.target place now) disk t) ∧
        ∀ record ∈ added, (stored codec t).find record.id = some record)
      (fun _ t => Readable codec t ∧ Spares codec (call.target place now) disk t) disk := by
  have ends (t : Disk) (same : SameRecords codec disk t) : Readable codec t ∧ Spares codec none disk t :=
    ⟨readable.same same, same.spares⟩
  cases call with
  | add input drawn => exact survives_add readable sound
  | list =>
    rw [Call.perform]
    refine Survives.silent ?_
    exact (survives_listMemory now readable).mono (fun _ t listed => ends t listed.2) fun _ => ends
  | search query limit =>
    rw [Call.perform]
    refine Survives.silent ?_
    exact (survives_searchMemory readable).mono (fun _ => ends) fun _ => ends
  | remove id =>
    simp only [Call.Sound, Call.appended, Call.Ready, Call.reads, true_and] at sound
    rw [Call.perform]
    refine Survives.silent ?_
    rw [removeMemory]
    refine Tx.Survives.seq (survives_rewriting ?_ readable sound) fun _ _ done => survives_pure done
    intro _
    rfl
  | pin id pinned =>
    simp only [Call.Sound, Call.appended, Call.Ready, Call.reads, true_and] at sound
    rw [Call.perform]
    refine Survives.silent ?_
    rw [setMemoryPinned]
    refine survives_rewriting ?_ readable sound
    intro _
    rfl

end Effects

section Runs

variable (codec : Codec) (place : Place)

/-- What `serde_json` is relied on for. -/
def History.Reads (history : History) (attempt : Attempt) : Prop :=
  ∀ record ∈ attempt.call.appended codec place history.disk attempt.now, codec.Lawful record

def History.Begins (history : History) (attempt : Attempt) : Prop :=
  ∀ record ∈ attempt.call.appended codec place history.disk attempt.now,
    attempt.call.Ready (history.disk.primary.getD [])

instance (call : Call) (content : Bytes) : Decidable (call.Ready content) := inferInstanceAs (Decidable (_ ∨ _))

instance (history : History) (attempt : Attempt) : Decidable (history.Reads codec place attempt) :=
  inferInstanceAs (Decidable (∀ record ∈ attempt.call.appended codec place history.disk attempt.now,
    codec.Lawful record))

instance (history : History) (attempt : Attempt) : Decidable (history.Begins codec place attempt) :=
  inferInstanceAs (Decidable (∀ _ ∈ attempt.call.appended codec place history.disk attempt.now,
    attempt.call.Ready (history.disk.primary.getD [])))

/-- The records that have been added and are not superseded or removed. -/
structure History.Holds (history : History) : Prop where
  readable : Readable codec history.disk
  kept : ∀ earlier entry later record, history.log = earlier ++ entry :: later → entry.added = some record →
    (∀ other ∈ later, other.target ≠ some record.id) → (stored codec history.disk).find record.id = some record

variable {codec place} {history : History}

theorem History.Holds.initial : History.initial.Holds codec where
  readable := by
    intro id record found
    cases found
  kept earlier entry later record log := by
    cases List.append_eq_nil_iff.1 log.symm with
    | intro _ rest => cases rest

theorem History.Holds.log (holds : history.Holds codec) {disk : Disk} {entry : Entry} (readable : Readable codec disk)
    (spares : Spares codec entry.target history.disk disk)
    (added : ∀ record ∈ entry.added, (stored codec disk).find record.id = some record) :
    (⟨disk, history.log ++ [entry]⟩ : History).Holds codec where
  readable := readable
  kept earlier before later record log found rest := by
    cases List.eq_nil_or_concat later with
    | inl nothing =>
      rw [nothing] at log
      cases (List.append_inj' log rfl).2
      exact added record found
    | inr more =>
      obtain ⟨init, last, rfl⟩ := more
      rw [List.concat_eq_append] at log rest
      rw [← List.cons_append, ← List.append_assoc] at log
      obtain ⟨before_, same⟩ := List.append_inj' log rfl
      cases same
      rw [spares record.id (rest entry (List.mem_append_right _ (List.mem_singleton_self _)))]
      exact holds.kept earlier before init record before_ found
        fun other member => rest other (List.mem_append_left _ member)

theorem History.Holds.next {attempt : Attempt} (holds : history.Holds codec)
    (sound : history.Reads codec place attempt ∧ history.Begins codec place attempt) :
    (history.next codec place attempt).Holds codec := by
  have survives := (survives_perform place attempt.now attempt.call holds.readable
    fun record appended => ⟨sound.1 record appended, sound.2 record appended⟩).ran attempt.fates
  simp only [wp] at survives
  simp only [History.next]
  cases ran : attempt.call.perform codec place attempt.now ⟨history.disk, attempt.fates⟩ with
  | mk result after =>
    rw [ran] at survives
    cases result with
    | ok added => exact holds.log survives.1.1 survives.1.2 survives.2
    | error fault => exact holds.log survives.1 survives.2 fun _ none => absurd none (Option.not_mem_none _)

end Runs

section Torn

def note (id title : String) (now : Nat) : MemoryRecord where
  id
  scope := .global
  sessionId := none
  title
  body := "Body"
  tags := []
  refs := []
  origin := ⟨.user, none, none, none⟩
  createdAt := now
  updatedAt := now
  pinned := false
  deleted := false

def noteText (id title : String) (now : Nat) : Bytes :=
  (s!"\x7b\"id\":\"{id}\",\"scope\":\"global\",\"sessionId\":null,\"title\":\"{title}\",\"body\":\"Body\",\"tags\":[]," ++
    s!"\"refs\":[],\"origin\":\x7b\"kind\":\"user\"\x7d,\"createdAt\":{now},\"updatedAt\":{now},\"pinned\":false," ++
    "\"deleted\":false\x7d").toList.map fun c => UInt8.ofNat c.toNat

/-- `serde_json` on two notes. -/
def notes : Codec where
  toText record := noteText record.id record.title record.createdAt
  parse text :=
    if text = noteText "one" "First" 1 then some (note "one" "First" 1)
    else if text = noteText "two" "Second" 2 then some (note "two" "Second" 2)
    else none

def firstText : List UInt8 :=
  [123, 34, 105, 100, 34, 58, 34, 111, 110, 101, 34, 44, 34, 115, 99, 111, 112, 101, 34, 58, 34, 103, 108, 111, 98,
    97, 108, 34, 44, 34, 115, 101, 115, 115, 105, 111, 110, 73, 100, 34, 58, 110, 117, 108, 108, 44, 34, 116, 105,
    116, 108, 101, 34, 58, 34, 70, 105, 114, 115, 116, 34, 44, 34, 98, 111, 100, 121, 34, 58, 34, 66, 111, 100,
    121, 34, 44, 34, 116, 97, 103, 115, 34, 58, 91, 93, 44, 34, 114, 101, 102, 115, 34, 58, 91, 93, 44, 34, 111,
    114, 105, 103, 105, 110, 34, 58, 123, 34, 107, 105, 110, 100, 34, 58, 34, 117, 115, 101, 114, 34, 125, 44, 34,
    99, 114, 101, 97, 116, 101, 100, 65, 116, 34, 58, 49, 44, 34, 117, 112, 100, 97, 116, 101, 100, 65, 116, 34,
    58, 49, 44, 34, 112, 105, 110, 110, 101, 100, 34, 58, 102, 97, 108, 115, 101, 44, 34, 100, 101, 108, 101, 116,
    101, 100, 34, 58, 102, 97, 108, 115, 101, 125]

def secondText : List UInt8 :=
  [123, 34, 105, 100, 34, 58, 34, 116, 119, 111, 34, 44, 34, 115, 99, 111, 112, 101, 34, 58, 34, 103, 108, 111, 98,
    97, 108, 34, 44, 34, 115, 101, 115, 115, 105, 111, 110, 73, 100, 34, 58, 110, 117, 108, 108, 44, 34, 116, 105,
    116, 108, 101, 34, 58, 34, 83, 101, 99, 111, 110, 100, 34, 44, 34, 98, 111, 100, 121, 34, 58, 34, 66, 111, 100,
    121, 34, 44, 34, 116, 97, 103, 115, 34, 58, 91, 93, 44, 34, 114, 101, 102, 115, 34, 58, 91, 93, 44, 34, 111,
    114, 105, 103, 105, 110, 34, 58, 123, 34, 107, 105, 110, 100, 34, 58, 34, 117, 115, 101, 114, 34, 125, 44, 34,
    99, 114, 101, 97, 116, 101, 100, 65, 116, 34, 58, 50, 44, 34, 117, 112, 100, 97, 116, 101, 100, 65, 116, 34,
    58, 50, 44, 34, 112, 105, 110, 110, 101, 100, 34, 58, 102, 97, 108, 115, 101, 44, 34, 100, 101, 108, 101, 116,
    101, 100, 34, 58, 102, 97, 108, 115, 101, 125]

set_option maxRecDepth 4000 in
theorem noteText_first : noteText "one" "First" 1 = firstText := by
  have same (s : String) : toString s = s := rfl
  have digit : Nat.toDigits 10 1 = ['1'] := by decide
  simp [noteText, firstText, same, digit]

set_option maxRecDepth 4000 in
theorem noteText_second : noteText "two" "Second" 2 = secondText := by
  have same (s : String) : toString s = s := rfl
  have digit : Nat.toDigits 10 2 = ['2'] := by decide
  simp [noteText, secondText, same, digit]

def knownNotes : Codec where
  toText record :=
    if record = note "one" "First" 1 then firstText
    else if record = note "two" "Second" 2 then secondText
    else noteText record.id record.title record.createdAt
  parse text :=
    if text = firstText then some (note "one" "First" 1)
    else if text = secondText then some (note "two" "Second" 2)
    else none

theorem notes_eq : notes = knownNotes := by
  have texts : notes.toText = knownNotes.toText := by
    funext record
    dsimp only [notes, knownNotes]
    split
    · rename_i same
      rw [same]
      exact noteText_first
    · split
      · rename_i same
        rw [same]
        exact noteText_second
      · rfl
  have parses : notes.parse = knownNotes.parse := by
    funext text
    dsimp only [notes, knownNotes]
    rw [noteText_first, noteText_second]
  calc
    notes = ⟨notes.toText, notes.parse⟩ := rfl
    _ = ⟨knownNotes.toText, knownNotes.parse⟩ := by rw [texts, parses]
    _ = knownNotes := rfl

theorem take_ne {text other : Bytes} {n : Nat} (short : n < text.length)
    (apart : other = text ∨ other.isPrefixOf text = false) : text.take n ≠ other := by
  intro same
  cases apart with
  | inl whole => exact absurd ((List.take_eq_self_iff _).1 (same.trans whole)) (Nat.not_le_of_lt short)
  | inr apart =>
    rw [List.isPrefixOf_iff_prefix.2 (same ▸ List.take_prefix n text)] at apart
    cases apart

theorem lawful_first : knownNotes.Lawful (note "one" "First" 1) :=
  ⟨by decide +kernel, by decide +kernel, fun _ short =>
    (if_neg (take_ne short (.inl rfl))).trans (if_neg (take_ne short (.inr (by decide +kernel))))⟩

theorem lawful_second : knownNotes.Lawful (note "two" "Second" 2) :=
  ⟨by decide +kernel, by decide +kernel, fun _ short =>
    (if_neg (take_ne short (.inr (by decide +kernel)))).trans (if_neg (take_ne short (.inl rfl)))⟩

def addNote (id title : String) (now : Nat) (fates : List Fate) : Attempt where
  call := .add
    { title
      body := "Body"
      tags := []
      refs := []
      origin := ⟨.user, none, none, none⟩
      pinned := false
      id := some id } ""
  now
  fates

def cutShort : List Attempt := [addNote "one" "First" 1 [], addNote "two" "Second" 2 [.done, .done, .crashed (some 40)]]

end Torn

end VibeLink.Memory
