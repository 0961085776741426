import VibeLink.Agents.CodexTrust

/-! What the loop of `remove_codex_trust_blocks` leaves (`app/agent_hooks.rs`), against the tables of the text. -/

namespace VibeLink.Agents

open Coordinator (isWhiteSpace)
open Lexing (lines newline joined ended)
open Lexing.Toml (Line)

section Agreeing

variable {keys : List Text} {pass : Pass Line} {line : Line} {output : List Line}

theorem popMarker_eq (text : α → Text) (output : List α) :
    popMarker text output = output ∨
      ∃ front marker, output = front ++ [marker] ∧ trim (text marker) = codexTrustMarker ∧
        popMarker text output = front := by
  unfold popMarker
  split
  · rename_i last there
    split
    · rename_i marks
      have some : output ≠ [] := fun empty => by simp [empty] at there
      refine .inr ⟨output.dropLast, last, ?_, marks, rfl⟩
      rw [← List.dropLast_append_getLast some]
      rw [List.getLast?_eq_some_getLast some, Option.some.injEq] at there
      simp [there]
    · exact .inl rfl
  · exact .inl rfl

theorem popMarker_sublist (text : α → Text) (output : List α) : (popMarker text output).Sublist output := by
  obtain same | ⟨front, marker, is, _, same⟩ := popMarker_eq text output
  · rw [same]
  · rw [same, is]
    exact List.sublist_append_left _ _

theorem mem_popMarker {text : α → Text} {output : List α} {a : α} (member : a ∈ output)
    (plain : trim (text a) ≠ codexTrustMarker) : a ∈ popMarker text output := by
  obtain same | ⟨front, marker, is, marks, same⟩ := popMarker_eq text output
  · rwa [same]
  · rw [same]
    rw [is, List.mem_append, List.mem_singleton] at member
    cases member with
    | inl before => exact before
    | inr last => exact absurd (last ▸ marks) plain

theorem dropWhile_eq_of_subset {α : Type} {p q : α → Bool} {list rest : List α} {a : α} (more : ∀ b, p b = true → q b = true)
    (stop : q a = false) (left : list.dropWhile p = a :: rest) : list.dropWhile q = a :: rest := by
  induction list with
  | nil => cases left
  | cons b list ih =>
    rw [List.dropWhile_cons] at left
    split at left
    · rename_i blank
      rw [List.dropWhile_cons_of_pos (more b blank)]
      exact ih left
    · cases left
      rw [List.dropWhile_cons_of_neg (by simp [stop])]

theorem trim_of_bracket {text : Text} (head : (text.dropWhile Lexing.Toml.isBlank).head? = some '[') :
    (trim text).head? = some '[' := by
  have ⟨rest, left⟩ := List.head?_eq_some_iff.mp head
  have blank (c : Char) (blank : Lexing.Toml.isBlank c = true) : isWhiteSpace c = true := by
    simp only [Lexing.Toml.isBlank, Bool.or_eq_true, decide_eq_true_eq] at blank
    cases blank with
    | inl space => rw [space]; decide
    | inr tab => rw [tab]; decide
  rw [trim, dropWhile_eq_of_subset blank (by decide) left, List.reverse_cons, List.dropWhile_append]
  split
  · rfl
  · rw [List.reverse_append]
    rfl

theorem matches_looksLikeHeader {trimmed key : Text} (matched : tomlTrustHeaderMatches trimmed key = true) :
    looksLikeHeader trimmed = true := by
  have looks (middle : Text) (c : Char) : looksLikeHeader (trustTable ++ middle ++ [c, ']']) = true := by
    have head : (trustTable ++ middle ++ [c, ']']).head? = some '[' := by
      rw [List.append_assoc, List.head?_append]
      rfl
    rw [looksLikeHeader, head, List.getLast?_append]
    rfl
  unfold tomlTrustHeaderMatches at matched
  rw [Bool.or_eq_true, decide_eq_true_iff, decide_eq_true_iff] at matched
  cases matched with
  | inl literal =>
    rw [literal]
    exact looks ('\'' :: key) '\''
  | inr basic =>
    rw [basic]
    exact looks ('"' :: escapeTomlBasic key) '"'

theorem looks_of_headerMatches (matched : headerMatches Line.text keys line = true) :
    looksLikeHeader (trim line.text) = true := by
  have ⟨_, _, one⟩ := List.any_eq_true.mp matched
  exact matches_looksLikeHeader one

theorem sweep_cases {α : Type} (text : α → Text) (keys : List Text) (pass : Pass α) (line : α) :
    (pass.inside = true ∧ looksLikeHeader (trim (text line)) = false ∧ sweep text keys pass line = pass) ∨
      (headerMatches text keys line = true ∧ sweep text keys pass line = ⟨true, popMarker text pass.output⟩) ∨
      (headerMatches text keys line = false ∧ (pass.inside = true → looksLikeHeader (trim (text line)) = true) ∧
        sweep text keys pass line = ⟨false, pass.output ++ [line]⟩) := by
  unfold sweep
  split
  · rename_i within
    rw [Bool.and_eq_true, Bool.not_eq_true'] at within
    exact .inl ⟨within.1, within.2, rfl⟩
  · rename_i ends
    rw [Bool.and_eq_true, Bool.not_eq_true', not_and, Bool.not_eq_false] at ends
    split
    · rename_i matched
      exact .inr (.inl ⟨matched, rfl⟩)
    · rename_i unmatched
      exact .inr (.inr ⟨Bool.eq_false_iff.mpr unmatched, ends, rfl⟩)

theorem passOver_cases (keys : List Text) (pass : Pass Line) (line : Line) :
    (pass.inside = true ∧ passOver keys pass line = pass ∧
      (Recognised keys pass line ↔ (looksLikeHeader (trim line.text) = true → headerMatches Line.text keys line = true ∧
        popMarker Line.text pass.output = pass.output))) ∨
      (pass.inside = false ∧ passOver keys pass line = ⟨true, popMarker Line.text pass.output⟩ ∧
        (∃ name, line.kind = .header name) ∧ (Recognised keys pass line ↔ headerMatches Line.text keys line = true)) ∨
      (passOver keys pass line = ⟨false, pass.output ++ [line]⟩ ∧
        (pass.inside = true → ∃ name, line.kind = .header name) ∧
        (Recognised keys pass line ↔ headerMatches Line.text keys line = false ∧
          (pass.inside = true → looksLikeHeader (trim line.text) = true))) := by
  obtain ⟨inside, output⟩ := pass
  unfold passOver Recognised
  cases kind : line.kind with
  | header name =>
    dsimp only
    split
    · cases inside with
      | true => exact .inl ⟨rfl, rfl, Iff.rfl⟩
      | false => exact .inr (.inl ⟨rfl, rfl, ⟨name, rfl⟩, Iff.rfl⟩)
    · exact .inr (.inr ⟨rfl, fun _ => ⟨name, rfl⟩, by rw [Bool.not_eq_true]⟩)
  | inner =>
    dsimp only
    cases inside with
    | true => exact .inl ⟨rfl, rfl, Iff.rfl⟩
    | false => exact .inr (.inr ⟨rfl, nofun, by simp⟩)

theorem sweep_eq_passOver (recognised : Recognised keys pass line) :
    sweep Line.text keys pass line = passOver keys pass line := by
  obtain ⟨inside, does, iff⟩ | ⟨outside, does, _, iff⟩ | ⟨does, _, iff⟩ := passOver_cases keys pass line
  · have again := iff.mp recognised
    rw [does]
    obtain ⟨_, _, done⟩ | ⟨matched, done⟩ | ⟨unmatched, ends, done⟩ := sweep_cases Line.text keys pass line
    · exact done
    · rw [done, (again (looks_of_headerMatches matched)).2, ← inside]
    · rw [(again (ends inside)).1] at unmatched
      cases unmatched
  · have matched := iff.mp recognised
    rw [does]
    obtain ⟨inside, _⟩ | ⟨_, done⟩ | ⟨unmatched, _⟩ := sweep_cases Line.text keys pass line
    · rw [outside] at inside
      cases inside
    · exact done
    · rw [matched] at unmatched
      cases unmatched
  · have ⟨unmatched, ends⟩ := iff.mp recognised
    rw [does]
    obtain ⟨inside, plain, _⟩ | ⟨matched, _⟩ | ⟨_, _, done⟩ := sweep_cases Line.text keys pass line
    · rw [ends inside] at plain
      cases plain
    · rw [unmatched] at matched
      cases matched
    · exact done

def IsPlain (line : Line) : Prop := trim line.text ≠ codexTrustMarker

theorem plain_of_head (head : (trim line.text).head? = some '[') : IsPlain line := by
  intro marks
  rw [marks] at head
  cases head

theorem plain_of_looks (looks : looksLikeHeader (trim line.text) = true) : IsPlain line := by
  rw [looksLikeHeader, Bool.and_eq_true, decide_eq_true_iff] at looks
  exact plain_of_head looks.1

def IsStep {α : Type} (text : α → Text) (step : Pass α → α → Pass α) : Prop :=
  ∀ pass line, (step pass line).output = pass.output ∨ (step pass line).output = popMarker text pass.output ∨
    (step pass line).output = pass.output ++ [line]

theorem isStep_sweep {α : Type} (text : α → Text) (keys : List Text) : IsStep text (sweep text keys) := by
  intro pass line
  obtain ⟨_, _, done⟩ | ⟨_, done⟩ | ⟨_, _, done⟩ := sweep_cases text keys pass line
  · exact .inl (by rw [done])
  · exact .inr (.inl (by rw [done]))
  · exact .inr (.inr (by rw [done]))

theorem isStep_passOver (keys : List Text) : IsStep Line.text (passOver keys) := by
  intro pass line
  obtain ⟨_, done, _⟩ | ⟨_, done, _⟩ | ⟨done, _⟩ := passOver_cases keys pass line
  · exact .inl (by rw [done])
  · exact .inr (.inl (by rw [done]))
  · exact .inr (.inr (by rw [done]))

section Steps

theorem IsStep.sublist {α : Type} {text : α → Text} {step : Pass α → α → Pass α} (is : IsStep text step) (pass : Pass α)
    (line : α) : (step pass line).output.Sublist (pass.output ++ [line]) := by
  obtain same | popped | pushed := is pass line
  · rw [same]
    exact List.sublist_append_left _ _
  · rw [popped]
    exact (popMarker_sublist _ _).trans (List.sublist_append_left _ _)
  · rw [pushed]

theorem IsStep.foldl_sublist {α : Type} {text : α → Text} {step : Pass α → α → Pass α} (is : IsStep text step)
    (pass : Pass α) (lines : List α) : (lines.foldl step pass).output.Sublist (pass.output ++ lines) := by
  induction lines generalizing pass with
  | nil => simp
  | cons line lines ih =>
    have here := (is.sublist pass line).append_right lines
    rw [List.append_assoc] at here
    exact (ih (step pass line)).trans here

variable {step : Pass Line → Line → Pass Line} {lines : List Line} {other : Line}

theorem IsStep.stays (is : IsStep Line.text step) (plain : IsPlain other) (there : other ∈ pass.output) :
    other ∈ (lines.foldl step pass).output := by
  induction lines generalizing pass with
  | nil => exact there
  | cons line lines ih =>
    apply ih
    obtain same | popped | pushed := is pass line
    · rwa [same]
    · rw [popped]
      exact mem_popMarker there plain
    · rw [pushed]
      exact List.mem_append_left _ there

theorem IsStep.gone (is : IsStep Line.text step) (absent : other ∉ lines) (gone : other ∉ pass.output) :
    other ∉ (lines.foldl step pass).output := by
  induction lines generalizing pass with
  | nil => exact gone
  | cons line lines ih =>
    refine ih (List.not_mem_of_not_mem_cons absent) fun back => ?_
    cases List.mem_append.mp ((is.sublist pass line).subset back) with
    | inl before => exact gone before
    | inr new => exact List.ne_of_not_mem_cons absent (List.mem_singleton.mp new)

end Steps

def Stuck (other : Line) (pass : Pass Line) : Prop :=
  other ∈ pass.output ∧ (pass.inside = true ∨ pass.output.getLast? ≠ some other)

theorem Stuck.passOver {other : Line} (stuck : Stuck other pass) (new : other ≠ line) :
    Stuck other (passOver keys pass line) := by
  obtain ⟨_, done, _⟩ | ⟨outside, done, _⟩ | ⟨done, _⟩ := passOver_cases keys pass line
  · rwa [done]
  · have last := stuck.2.resolve_left (by simp [outside])
    rw [done]
    refine ⟨?_, .inl rfl⟩
    obtain same | ⟨front, marker, is, _, same⟩ := popMarker_eq Line.text pass.output
    · rw [same]
      exact stuck.1
    · have there := stuck.1
      rw [is, List.getLast?_concat, ne_eq, Option.some.injEq] at last
      rw [is, List.mem_append, List.mem_singleton] at there
      rw [same]
      exact there.resolve_right (Ne.symm last)
  · rw [done]
    refine ⟨List.mem_append_left _ stuck.1, .inr ?_⟩
    rw [List.getLast?_concat, ne_eq, Option.some.injEq]
    exact Ne.symm new

theorem Stuck.foldl {other : Line} {lines : List Line} (stuck : Stuck other pass) (absent : other ∉ lines) :
    Stuck other (lines.foldl (VibeLink.Agents.passOver keys) pass) := by
  induction lines generalizing pass with
  | nil => exact stuck
  | cons line lines ih =>
    exact ih (stuck.passOver (List.ne_of_not_mem_cons absent)) (List.not_mem_of_not_mem_cons absent)

def Apart (other : Line) (one two : Pass Line) : Prop :=
  (IsPlain other ∧ other ∈ one.output ∧ other ∉ two.output) ∨
    (IsPlain other ∧ other ∈ two.output ∧ other ∉ one.output) ∨ Stuck other two ∧ other ∉ one.output

theorem Apart.ne {other : Line} {lines : List Line} {one two : Pass Line} (apart : Apart other one two)
    (absent : other ∉ lines) :
    (lines.foldl (sweep Line.text keys) one).output ≠ (lines.foldl (passOver keys) two).output := by
  intro same
  obtain ⟨plain, there, gone⟩ | ⟨plain, there, gone⟩ | ⟨stuck, gone⟩ := apart
  · exact (isStep_passOver keys).gone absent gone (same ▸ (isStep_sweep Line.text keys).stays plain there)
  · exact (isStep_sweep Line.text keys).gone absent gone (same ▸ (isStep_passOver keys).stays plain there)
  · exact (isStep_sweep Line.text keys).gone absent gone (same ▸ (stuck.foldl absent).1)

theorem apart_of_not_recognised (header : ∀ name, line.kind = .header name → IsPlain line) (nodup : pass.output.Nodup)
    (new : line ∉ pass.output) (not : ¬Recognised keys pass line) :
    ∃ other, (other = line ∨ other ∈ pass.output) ∧ Apart other (sweep Line.text keys pass line) (passOver keys pass line) := by
  obtain ⟨inside, does, iff⟩ | ⟨outside, does, ⟨name, is⟩, iff⟩ | ⟨does, named, iff⟩ := passOver_cases keys pass line
  · rw [iff] at not
    rw [does]
    obtain ⟨_, plain, _⟩ | ⟨matched, done⟩ | ⟨_, ends, done⟩ := sweep_cases Line.text keys pass line
    · exact absurd (fun looks => absurd looks (by simp [plain])) not
    · obtain same | ⟨front, marker, is, _, popped⟩ := popMarker_eq Line.text pass.output
      · exact absurd (fun _ => ⟨matched, same⟩) not
      · have there : marker ∈ pass.output := by
          rw [is]
          exact List.mem_append_right _ List.mem_cons_self
        refine ⟨marker, .inr there, .inr (.inr ⟨⟨there, .inl inside⟩, ?_⟩)⟩
        rw [is] at nodup
        rw [done, popped]
        intro before
        exact (List.nodup_append.mp nodup).2.2 marker before marker List.mem_cons_self rfl
    · rw [done]
      exact ⟨line, .inl rfl, .inl ⟨plain_of_looks (ends inside), List.mem_append_right _ List.mem_cons_self, new⟩⟩
  · rw [iff] at not
    rw [does]
    obtain ⟨inside, _⟩ | ⟨matched, _⟩ | ⟨_, _, done⟩ := sweep_cases Line.text keys pass line
    · rw [outside] at inside
      cases inside
    · exact absurd matched not
    · rw [done]
      refine ⟨line, .inl rfl, .inl ⟨header name is, List.mem_append_right _ List.mem_cons_self, fun there => ?_⟩⟩
      exact new ((popMarker_sublist _ _).subset there)
  · rw [iff] at not
    rw [does]
    obtain ⟨inside, plain, done⟩ | ⟨matched, done⟩ | ⟨unmatched, ends, _⟩ := sweep_cases Line.text keys pass line
    · have ⟨name, is⟩ := named inside
      rw [done]
      exact ⟨line, .inl rfl, .inr (.inl ⟨header name is, List.mem_append_right _ List.mem_cons_self, new⟩)⟩
    · rw [done]
      refine ⟨line, .inl rfl, .inr (.inl ⟨plain_of_looks (looks_of_headerMatches matched),
        List.mem_append_right _ List.mem_cons_self, fun there => ?_⟩)⟩
      exact new ((popMarker_sublist _ _).subset there)
    · exact absurd ⟨unmatched, ends⟩ not

theorem foldl_sweep_eq_iff {lines : List Line} (header : ∀ line ∈ lines, ∀ name, line.kind = .header name → IsPlain line)
    (nodup : (pass.output ++ lines).Nodup) :
    (lines.foldl (sweep Line.text keys) pass).output = (lines.foldl (passOver keys) pass).output ↔
      ∀ before line after, lines = before ++ line :: after → Recognised keys (before.foldl (passOver keys) pass) line := by
  induction lines generalizing pass with
  | nil => exact iff_of_true rfl fun before _ _ empty => by simp at empty
  | cons first rest ih =>
    have parts := List.nodup_append.mp nodup
    have new : first ∉ pass.output := fun there => parts.2.2 first there first List.mem_cons_self rfl
    by_cases here : Recognised keys pass first
    · have next : ((passOver keys pass first).output ++ rest).Nodup := by
        refine List.Nodup.sublist (((isStep_passOver keys).sublist pass first).append_right rest) ?_
        rwa [List.append_assoc]
      rw [List.foldl_cons, List.foldl_cons, sweep_eq_passOver here,
        ih (fun line member => header line (List.mem_cons_of_mem _ member)) next]
      constructor
      · intro all before line after same
        cases before with
        | nil =>
          cases same
          exact here
        | cons _ before =>
          cases same
          exact all before line after rfl
      · intro all before line after same
        exact all (first :: before) line after (by rw [same]; rfl)
    · refine iff_of_false ?_ fun all => here (all [] first rest rfl)
      have ⟨other, among, apart⟩ := apart_of_not_recognised (header first List.mem_cons_self) parts.1 new here
      refine apart.ne fun later => ?_
      cases among with
      | inl same => exact (List.nodup_cons.mp parts.2.1).1 (same ▸ later)
      | inr before => exact parts.2.2 other before other (List.mem_cons_of_mem _ later) rfl

end Agreeing

/-! ### The text that is written -/

section Writing

variable {keys : List Text} {text : Text} {output : List Text}

theorem sweep_map {α β : Type} (f : α → β) (text : β → Text) (keys : List Text) (pass : Pass α) (line : α) :
    sweep text keys ⟨pass.inside, pass.output.map f⟩ (f line) =
      ⟨(sweep (text ∘ f) keys pass line).inside, (sweep (text ∘ f) keys pass line).output.map f⟩ := by
  have popped : popMarker text (pass.output.map f) = (popMarker (text ∘ f) pass.output).map f := by
    unfold popMarker
    rw [List.getLast?_map]
    cases pass.output.getLast? with
    | none => rfl
    | some last =>
      simp only [Option.map_some, Function.comp_apply]
      split
      · exact List.map_dropLast.symm
      · rfl
  unfold sweep
  by_cases skips : (pass.inside && !looksLikeHeader (trim ((text ∘ f) line))) = true
  · rw [if_pos skips]
    exact if_pos skips
  · rw [if_neg skips]
    refine (if_neg skips).trans ?_
    by_cases matched : headerMatches (text ∘ f) keys line = true
    · rw [if_pos matched, popped]
      exact if_pos matched
    · rw [if_neg matched, List.map_append]
      exact if_neg matched

theorem swept_map {α β : Type} (f : α → β) (text : β → Text) (keys : List Text) (lines : List α) :
    swept text keys (lines.map f) = (swept (text ∘ f) keys lines).map f := by
  have all (pass : Pass α) : (lines.map f).foldl (sweep text keys) ⟨pass.inside, pass.output.map f⟩ =
      ⟨(lines.foldl (sweep (text ∘ f) keys) pass).inside, (lines.foldl (sweep (text ∘ f) keys) pass).output.map f⟩ := by
    induction lines generalizing pass with
    | nil => rfl
    | cons line lines ih =>
      rw [List.map_cons, List.foldl_cons, sweep_map, ih]
      rfl
  exact congrArg Pass.output (all ⟨false, []⟩)

theorem swept_lines (keys : List Text) (text : Text) :
    swept id keys (lines text) = (swept Line.text keys (tomlLines text)).map Line.text := by
  have same := swept_map Line.text id keys (tomlLines text)
  rwa [tomlLines, Lexing.Toml.map_text_linesFrom] at same

theorem unmatched_of_mem_foldl {α : Type} {text : α → Text} {pass : Pass α} {lines : List α}
    (before : ∀ line ∈ pass.output, headerMatches text keys line = false) :
    ∀ line ∈ (lines.foldl (sweep text keys) pass).output, headerMatches text keys line = false := by
  induction lines generalizing pass with
  | nil => exact before
  | cons first lines ih =>
    apply ih
    intro line member
    obtain ⟨_, _, done⟩ | ⟨_, done⟩ | ⟨unmatched, _, done⟩ := sweep_cases text keys pass first
    · rw [done] at member
      exact before line member
    · rw [done] at member
      exact before line ((popMarker_sublist _ _).subset member)
    · rw [done] at member
      cases List.mem_append.mp member with
      | inl there => exact before line there
      | inr new => rwa [List.mem_singleton.mp new]

theorem swept_of_unmatched {α : Type} {text : α → Text} {lines : List α}
    (unmatched : ∀ line ∈ lines, headerMatches text keys line = false) : swept text keys lines = lines := by
  have all (output : List α) : lines.foldl (sweep text keys) ⟨false, output⟩ = ⟨false, output ++ lines⟩ := by
    induction lines generalizing output with
    | nil => simp
    | cons line lines ih =>
      have here : sweep text keys ⟨false, output⟩ line = ⟨false, output ++ [line]⟩ := by
        simp [sweep, unmatched line List.mem_cons_self]
      rw [List.foldl_cons, here, ih fun other member => unmatched other (List.mem_cons_of_mem _ member)]
      simp
  exact congrArg Pass.output (all [])

theorem swept_sublist {α : Type} (text : α → Text) (keys : List Text) (lines : List α) :
    (swept text keys lines).Sublist lines := by
  have all := (isStep_sweep text keys).foldl_sublist ⟨false, []⟩ lines
  rwa [List.nil_append] at all

/-- Lines of a text that are left of it. -/
structure Left (text : Text) (front : List Text) (last : Text) : Prop where
  fits : ∀ line ∈ front, Lexing.Fits (newline text) line
  feed : '\n' ∉ last
  closed : ended text = true → Lexing.Fits (newline text) last

theorem left_of_sublist (sub : output.Sublist (lines text)) (some : output ≠ []) :
    ∃ front last, output = front ++ [last] ∧ Left text front last := by
  have nonempty : text ≠ [] := by
    rintro rfl
    exact some (List.sublist_nil.mp sub)
  have ⟨front, last, broken⟩ := Lexing.broken nonempty
  rw [broken.lines] at sub
  have ⟨one, two, same, first, second⟩ := List.sublist_append_iff.mp sub
  cases List.sublist_singleton.mp second with
  | inl empty =>
    rw [empty, List.append_nil] at same
    subst same
    refine ⟨output.dropLast, output.getLast some, (List.dropLast_append_getLast some).symm, ?_⟩
    have fits : ∀ line ∈ output, Lexing.Fits (newline text) line := fun line member =>
      broken.fits line (first.subset member)
    exact ⟨fun line member => fits line (List.mem_of_mem_dropLast member), (fits _ (List.getLast_mem some)).1,
      fun _ => fits _ (List.getLast_mem some)⟩
  | inr whole =>
    rw [whole] at same
    exact ⟨one, last, same, fun line member => broken.fits line (first.subset member), broken.feed, broken.closed⟩

theorem written_of_ended {newline : Text} {closed : Bool} (ends : ended (joined newline output) = true) :
    written newline closed output = joined newline output := by
  simp [written, ends]

theorem written_of_open {newline : Text} {closed : Bool} (open' : ended (joined newline output) = false) :
    written newline closed output = joined newline output ++ if closed then newline else [] := by
  cases closed <;> simp [written, open']

theorem unmatched_nil (text : α → Text) (keys : List Text) {line : α} (empty : text line = []) :
    headerMatches text keys line = false := by
  rw [headerMatches, Bool.eq_false_iff]
  intro matched
  have ⟨key, _, one⟩ := List.any_eq_true.mp matched
  have looks := matches_looksLikeHeader one
  rw [empty] at looks
  cases looks

/-- The lines of a text that is written. -/
structure Reread (text : Text) (output : List Text) (result : Text) : Prop where
  unbroken : ∀ line ∈ lines result, line = [] ∨ line ∈ output
  filled : (lines result).filter (fun line => !line.isEmpty) = output.filter fun line => !line.isEmpty
  again : written (newline result) (ended result) (lines result) = result ↔
    ¬∃ front, front ≠ [] ∧ output = front ++ [[], []]

theorem reread_short (text : Text) (short : output = [] ∨ output = [[]]) :
    Reread text output (written (newline text) (ended text) output) := by
  have empty : joined (newline text) output = [] := by
    cases short with
    | inl none => rw [none]; rfl
    | inr one => rw [one]; rfl
  have result : written (newline text) (ended text) output = if ended text then newline text else [] := by
    rw [written_of_open (by rw [empty]; rfl), empty, List.nil_append]
  have blank : output.filter (fun line => !line.isEmpty) = [] := by
    cases short with
    | inl none => rw [none]; rfl
    | inr one => rw [one]; rfl
  have none : ¬∃ front, front ≠ [] ∧ output = front ++ [[], []] := by
    rintro ⟨front, some, same⟩
    have length := congrArg List.length same
    rw [List.length_append, List.length_cons, List.length_singleton] at length
    have zero := List.length_pos_of_ne_nil some
    cases short with
    | inl none => rw [none, List.length_nil] at length; omega
    | inr one => rw [one, List.length_singleton] at length; omega
  rw [result]
  split
  · cases Lexing.newline_either text with
    | inl crlf =>
      have blanks : ∀ line ∈ lines Lexing.crlf, line = [] := by decide
      rw [crlf]
      exact ⟨fun line member => .inl (blanks line member), blank.symm, iff_of_true (by decide) none⟩
    | inr feed =>
      have blanks : ∀ line ∈ lines ['\n'], line = [] := by decide
      rw [feed]
      exact ⟨fun line member => .inl (blanks line member), blank.symm, iff_of_true (by decide) none⟩
  · exact ⟨nofun, blank.symm, iff_of_true (by decide) none⟩

theorem reread_filled {front : List Text} {last : Text} (left : Left text front last) (some : last ≠ []) :
    Reread text (front ++ [last]) (written (newline text) (ended text) (front ++ [last])) := by
  have either := Lexing.newline_either text
  have open' : ended (joined (newline text) (front ++ [last])) = false := by
    rw [Bool.eq_false_iff]
    exact fun ends => some ((Lexing.ended_joined either left.feed).mp ends).1
  have none : ¬∃ first, first ≠ [] ∧ front ++ [last] = first ++ [[], []] := by
    rintro ⟨first, _, same⟩
    have same := congrArg List.getLast? same
    simp [some] at same
  rw [written_of_open open']
  cases closed : ended text with
  | true =>
    have fits : ∀ line ∈ front ++ [last], Lexing.Fits (newline text) line := by
      intro line member
      cases List.mem_append.mp member with
      | inl there => exact left.fits line there
      | inr one => exact List.mem_singleton.mp one ▸ left.closed closed
    have reads := Lexing.lines_joined_append either fits (by simp)
    have end' : newline (joined (newline text) (front ++ [last]) ++ newline text) = newline text := by
      have all := Lexing.newline_joined either fits (by simp : '\n' ∉ ([] : List Char)) (by simp)
      rwa [Lexing.joined_snoc (by simp), List.append_nil] at all
    rw [if_pos rfl]
    refine ⟨fun line member => .inr (reads ▸ member), by rw [reads], iff_of_true ?_ none⟩
    rw [reads, end', Lexing.ended_append either, written_of_open open', if_pos rfl]
  | false =>
    have reads := Lexing.lines_joined either left.fits left.feed some
    rw [if_neg Bool.false_ne_true, List.append_nil]
    refine ⟨fun line member => .inr (reads ▸ member), by rw [reads], iff_of_true ?_ none⟩
    have same : joined (newline (joined (newline text) (front ++ [last]))) (front ++ [last]) =
        joined (newline text) (front ++ [last]) := by
      by_cases alone : front = []
      · rw [alone]
        rfl
      · rw [Lexing.newline_joined either left.fits left.feed alone]
    rw [reads, open', written_of_open (by rw [same, open']), if_neg Bool.false_ne_true, List.append_nil, same]

theorem reread_blank {front : List Text} (left : Left text front []) (some : front ≠ []) :
    Reread text (front ++ [[]]) (written (newline text) (ended text) (front ++ [[]])) := by
  have either := Lexing.newline_either text
  have ends : ended (joined (newline text) (front ++ [[]])) = true :=
    (Lexing.ended_joined either left.feed).mpr ⟨rfl, some⟩
  have same : joined (newline text) (front ++ [[]]) = joined (newline text) front ++ newline text := by
    rw [Lexing.joined_snoc some, List.append_nil]
  have reads : lines (joined (newline text) front ++ newline text) = front :=
    Lexing.lines_joined_append either left.fits some
  have end' : newline (joined (newline text) front ++ newline text) = newline text := by
    rw [← same, Lexing.newline_joined either left.fits left.feed some]
  rw [written_of_ended ends, same]
  refine ⟨fun line member => .inr (List.mem_append_left _ (reads ▸ member)), by rw [reads]; simp, ?_⟩
  rw [reads, end', Lexing.ended_append either]
  have last : front = front.dropLast ++ [front.getLast some] := (List.dropLast_append_getLast some).symm
  have feed : '\n' ∉ front.getLast some := (left.fits _ (List.getLast_mem some)).1
  have twice : ended (joined (newline text) front) = true ↔ ∃ first, first ≠ [] ∧ front ++ [[]] = first ++ [[], []] := by
    rw [last, Lexing.ended_joined either feed]
    constructor
    · intro ⟨empty, more⟩
      refine ⟨front.dropLast, more, ?_⟩
      rw [empty, List.append_assoc]
      rfl
    · intro ⟨first, more, same⟩
      have same' : (front.dropLast ++ [front.getLast some]) ++ [[]] = (first ++ [[]]) ++ [[]] := by
        rw [same, List.append_assoc]
        rfl
      have inner := List.append_cancel_right same'
      have ⟨init, one⟩ := List.append_inj' inner rfl
      exact ⟨(List.cons.inj one).1, init ▸ more⟩
  rw [← twice]
  cases again : ended (joined (newline text) front) with
  | true =>
    rw [written_of_ended again]
    refine iff_of_false (fun shorter => ?_) (by simp)
    have length := congrArg List.length shorter
    rw [List.length_append] at length
    cases either with
    | inl crlf => rw [crlf] at length; simp [Lexing.crlf] at length
    | inr feed => rw [feed] at length; simp at length
  | false =>
    rw [written_of_open again, if_pos rfl]
    exact iff_of_true rfl (by simp)

theorem reread (sub : output.Sublist (lines text)) :
    Reread text output (written (newline text) (ended text) output) := by
  by_cases some : output = []
  · exact reread_short text (.inl some)
  · have ⟨front, last, same, left⟩ := left_of_sublist sub some
    subst same
    by_cases empty : last = []
    · subst empty
      by_cases alone : front = []
      · subst alone
        exact reread_short text (.inr rfl)
      · exact reread_blank left alone
    · exact reread_filled left empty

end Writing

theorem recognised_iff (keys : List Text) (text : Text) :
    swept Line.text keys (tomlLines text) = foreignLines keys text ↔
      ∀ before line after, tomlLines text = before ++ line :: after → Recognised keys (passed keys before) line := by
  refine @foldl_sweep_eq_iff keys ⟨false, []⟩ (tomlLines text) (fun line member name header => ?_) ?_
  · exact plain_of_head (trim_of_bracket (Lexing.Toml.head_of_header member header))
  · exact Lexing.Toml.nodup_linesFrom _ _ _

theorem removeCodexTrustBlocks_eq (some : keys ≠ []) (text : Text) :
    removeCodexTrustBlocks text keys = written (newline text) (ended text) (swept id keys (lines text)) := by
  have filled : keys.isEmpty = false := by simpa using some
  rw [removeCodexTrustBlocks, filled, if_neg Bool.false_ne_true]

theorem unmatched_removeCodexTrustBlocks (some : keys ≠ []) (text : Text) :
    ∀ line ∈ lines (removeCodexTrustBlocks text keys), headerMatches id keys line = false := by
  intro line member
  rw [removeCodexTrustBlocks_eq some] at member
  cases (reread (swept_sublist id keys (lines text))).unbroken line member with
  | inl empty => exact unmatched_nil id keys empty
  | inr left => exact unmatched_of_mem_foldl (by simp) line left

theorem removesExactly_iff (keys : List Text) (text : Text) : RemovesExactly keys text ↔ Removable keys text := by
  have rest (exactly : swept Line.text keys (tomlLines text) = foreignLines keys text) :
      (lines (removeCodexTrustBlocks text keys)).filter (fun line => !line.isEmpty) =
          ((foreignLines keys text).map Line.text).filter (fun line => !line.isEmpty) ∧
        (removeCodexTrustBlocks (removeCodexTrustBlocks text keys) keys = removeCodexTrustBlocks text keys ↔
          (keys = [] ∨ ¬∃ front, front ≠ [] ∧ (foreignLines keys text).map Line.text = front ++ [[], []])) := by
    rw [← exactly, ← swept_lines]
    by_cases none : keys = []
    · subst none
      have all : swept id [] (lines text) = lines text := swept_of_unmatched fun _ _ => rfl
      rw [all]
      exact ⟨rfl, iff_of_true rfl (.inl rfl)⟩
    · have removed := removeCodexTrustBlocks_eq none
      have read := reread (swept_sublist id keys (lines text))
      have unmatched := unmatched_removeCodexTrustBlocks none text
      rw [removed (removeCodexTrustBlocks text keys), swept_of_unmatched unmatched, removed]
      exact ⟨read.filled, read.again.trans ⟨.inr, fun either => either.resolve_left none⟩⟩
  constructor
  · intro removes
    exact ⟨(recognised_iff keys text).mp removes.exactly, (rest removes.exactly).2.mp removes.again⟩
  · intro removable
    have exactly := (recognised_iff keys text).mpr removable.recognised
    exact ⟨exactly, (rest exactly).1, (rest exactly).2.mpr removable.ending⟩

/-- A user's table behind VibeLink's, with a comment on its header. -/
def commentedConfig : Text := "[hooks.state.\"hooks.json:stop:0:0\"]\nenabled = true\n\n[tui] # mine\ntheme = \"dark\"\n".toList

theorem removes_commented :
    removeCodexTrustBlocks commentedConfig ["hooks.json:stop:0:0".toList] = ['\n'] ∧
      ¬RemovesExactly ["hooks.json:stop:0:0".toList] commentedConfig := by
  refine ⟨by decide +kernel, fun removes => ?_⟩
  exact absurd removes.lines (by decide +kernel)

example : removeCodexTrustBlocks "model = \"o3\"\n\n# Managed by VibeLink agent completion hooks\n[hooks.state.'k']\na = 1\n[tui]\n".toList
    ["k".toList] = "model = \"o3\"\n\n[tui]\n".toList := by
  decide +kernel

end VibeLink.Agents
