import Mathlib.Data.List.Infix
import Mathlib.Data.List.Basic
import Mathlib.Tactic.Common

/-! The lines of a text, which end in a line feed or in a carriage return and a line feed, and the text of lines. -/

namespace VibeLink.Lexing

def extend (c : Char) : List (List Char) → List (List Char)
  | [] => [[c]]
  | line :: more => (c :: line) :: more

/-- The last line needs no end; a carriage return that no line feed follows belongs to its line. -/
def lines : List Char → List (List Char)
  | [] => []
  | c :: rest =>
    if c = '\n' then [] :: lines rest
    else if c = '\r' ∧ rest.head? = some '\n' then lines rest
    else extend c (lines rest)

def crlf : List Char := ['\r', '\n']

def newline (text : List Char) : List Char := if crlf <:+: text then crlf else ['\n']

def joined (between : List Char) : List (List Char) → List Char
  | [] => []
  | [line] => line
  | line :: next :: more => line ++ between ++ joined between (next :: more)

def ended (text : List Char) : Bool := text.getLast? = some '\n'

def Fits (between line : List Char) : Prop := '\n' ∉ line ∧ (between = ['\n'] → line.getLast? ≠ some '\r')

variable {text rest line between : List Char} {all front more : List (List Char)} {c : Char}

theorem newline_either (text : List Char) : newline text = crlf ∨ newline text = ['\n'] := by
  unfold newline
  split
  · exact .inl rfl
  · exact .inr rfl

theorem ended_append (either : between = crlf ∨ between = ['\n']) (text : List Char) : ended (text ++ between) = true := by
  unfold ended
  cases either with
  | inl same => simp [same, crlf]
  | inr same => simp [same]

theorem lines_append (either : between = crlf ∨ between = ['\n']) (fits : Fits between line) (rest : List Char) :
    lines (line ++ between ++ rest) = line :: lines rest := by
  have ⟨feed, back⟩ := fits
  induction line with
  | nil =>
    cases either with
    | inl same => simp [same, crlf, lines]
    | inr same => simp [same, lines]
  | cons c line ih =>
    have one : c ≠ '\n' := (List.ne_of_not_mem_cons feed).symm
    have more := List.not_mem_of_not_mem_cons feed
    have last : ¬(c = '\r' ∧ (line ++ between ++ rest).head? = some '\n') := by
      intro ⟨return', next⟩
      cases line with
      | nil =>
        cases either with
        | inl same => simp [same, crlf] at next
        | inr same => exact back same (by simp [return'])
      | cons d line =>
        simp only [List.cons_append, List.head?_cons, Option.some.injEq] at next
        exact more (next ▸ List.mem_cons_self)
    have rest' : lines (line ++ between ++ rest) = line :: lines rest := by
      cases line with
      | nil => exact ih (by simp [Fits]) (by simp) (by simp)
      | cons d line =>
        have back' : between = ['\n'] → (d :: line).getLast? ≠ some '\r' := fun same => by
          simpa using back same
        exact ih ⟨more, back'⟩ more back'
    rw [List.cons_append, List.cons_append, lines, if_neg one, if_neg last, rest']
    rfl

theorem lines_single (feed : '\n' ∉ line) (some : line ≠ []) : lines line = [line] := by
  induction line with
  | nil => exact absurd rfl some
  | cons c line ih =>
    have one : c ≠ '\n' := (List.ne_of_not_mem_cons feed).symm
    have more := List.not_mem_of_not_mem_cons feed
    have last : ¬(c = '\r' ∧ line.head? = Option.some '\n') := fun ⟨_, next⟩ => more (List.mem_of_mem_head? next)
    rw [lines, if_neg one, if_neg last]
    cases line with
    | nil => rfl
    | cons d line =>
      rw [ih more (List.cons_ne_nil _ _)]
      rfl

theorem joined_cons (some : more ≠ []) (between line : List Char) :
    joined between (line :: more) = line ++ between ++ joined between more := by
  cases more with
  | nil => exact absurd rfl some
  | cons => rfl

theorem lines_joined_append (either : between = crlf ∨ between = ['\n']) (fits : ∀ line ∈ all, Fits between line)
    (some : all ≠ []) : lines (joined between all ++ between) = all := by
  induction all with
  | nil => exact absurd rfl some
  | cons line more ih =>
    have here := fits line List.mem_cons_self
    cases more with
    | nil =>
      have alone := lines_append either here []
      rw [List.append_nil] at alone
      exact alone
    | cons next more =>
      rw [joined_cons (List.cons_ne_nil _ _), List.append_assoc _ _ between, lines_append either here,
        ih (fun line member => fits line (List.mem_cons_of_mem _ member)) (List.cons_ne_nil _ _)]

theorem lines_joined (either : between = crlf ∨ between = ['\n']) (fits : ∀ line ∈ front, Fits between line)
    (feed : '\n' ∉ line) (some : line ≠ []) : lines (joined between (front ++ [line])) = front ++ [line] := by
  induction front with
  | nil => exact lines_single feed some
  | cons first front ih =>
    rw [List.cons_append, joined_cons (by simp), lines_append either (fits first List.mem_cons_self),
      ih fun line member => fits line (List.mem_cons_of_mem _ member)]

theorem joined_snoc (some : front ≠ []) (between line : List Char) :
    joined between (front ++ [line]) = joined between front ++ between ++ line := by
  induction front with
  | nil => exact absurd rfl some
  | cons first front ih =>
    cases front with
    | nil => rfl
    | cons next front =>
      rw [List.cons_append, joined_cons (by simp), ih (List.cons_ne_nil _ _), joined_cons (List.cons_ne_nil _ _)]
      simp

theorem ended_joined (either : between = crlf ∨ between = ['\n']) (feed : '\n' ∉ line) :
    ended (joined between (front ++ [line])) = true ↔ line = [] ∧ front ≠ [] := by
  by_cases empty : line = []
  · subst empty
    by_cases alone : front = []
    · subst alone
      simp [joined, ended]
    · rw [joined_snoc alone, List.append_nil, ended_append either]
      simp [alone]
  · refine iff_of_false (fun ends => feed ?_) fun both => empty both.1
    have last : (joined between (front ++ [line])).getLast? = line.getLast? := by
      by_cases alone : front = []
      · subst alone
        rfl
      · rw [joined_snoc alone, List.getLast?_append_of_ne_nil _ empty]
    unfold ended at ends
    rw [last, decide_eq_true_iff] at ends
    exact List.mem_of_getLast? ends

theorem newline_eq_feed : newline text = ['\n'] ↔ ¬crlf <:+: text := by
  unfold newline
  split
  · rename_i there
    exact iff_of_false (by decide) fun absent => absent there
  · rename_i absent
    exact iff_of_true rfl absent

theorem crlf_infix_append (inside : crlf <:+: line ++ '\n' :: rest) (feed : '\n' ∉ line) :
    line.getLast? = some '\r' ∨ crlf <:+: rest := by
  induction line with
  | nil =>
    cases List.infix_cons_iff.mp inside with
    | inl here => cases (List.cons_prefix_cons.mp here).1
    | inr later => exact .inr later
  | cons c line ih =>
    have more := List.not_mem_of_not_mem_cons feed
    cases List.infix_cons_iff.mp inside with
    | inl here =>
      have ⟨return', next⟩ := List.cons_prefix_cons.mp here
      cases line with
      | nil => exact .inl (by rw [← return']; rfl)
      | cons d line =>
        have feed' := (List.cons_prefix_cons.mp next).1
        exact absurd (feed' ▸ List.mem_cons_self) more
    | inr later =>
      cases ih later more with
      | inl last =>
        left
        cases line with
        | nil => cases last
        | cons d line => exact last
      | inr inside => exact .inr inside

theorem newline_joined (either : between = crlf ∨ between = ['\n']) (fits : ∀ line ∈ front, Fits between line)
    (feed : '\n' ∉ line) (some : front ≠ []) : newline (joined between (front ++ [line])) = between := by
  cases either with
  | inl same =>
    subst same
    rw [joined_snoc some]
    exact if_pos (List.infix_append _ _ _)
  | inr same =>
    subst same
    rw [newline_eq_feed]
    clear some
    induction front with
    | nil =>
      intro inside
      exact feed (inside.subset (by simp [crlf]))
    | cons first front ih =>
      have ⟨feed', back⟩ := fits first List.mem_cons_self
      rw [List.cons_append, joined_cons (by simp), List.append_assoc]
      intro inside
      cases crlf_infix_append inside feed' with
      | inl last => exact back rfl last
      | inr later => exact ih (fun line member => fits line (List.mem_cons_of_mem _ member)) later

theorem head_of_lines (empty : lines text = [] :: more) : text.head? = some '\n' ∨ crlf <:+: text := by
  cases text with
  | nil => cases empty
  | cons c rest =>
    rw [lines] at empty
    split at empty
    · rename_i feed
      exact .inl (by rw [feed]; rfl)
    · split at empty
      · rename_i both
        right
        cases rest with
        | nil => cases both.2
        | cons d rest =>
          have next : d = '\n' := by simpa using both.2
          rw [both.1, next]
          exact (List.prefix_append crlf rest).isInfix
      · cases rest' : lines rest with
        | nil =>
          rw [rest'] at empty
          cases empty
        | cons =>
          rw [rest'] at empty
          cases empty

/-- How the lines of a text are made up. -/
structure Broken (text : List Char) (front : List (List Char)) (last : List Char) : Prop where
  lines : lines text = front ++ [last]
  fits : ∀ line ∈ front, Fits (newline text) line
  feed : '\n' ∉ last
  closed : ended text = true → Fits (newline text) last
  shut : ended text = false → last ≠ []

theorem Fits.cons {all : List (List Char)} (fits : Fits (newline rest) line) (feed : c ≠ '\n')
    (both : ¬(c = '\r' ∧ rest.head? = some '\n')) (first : Lexing.lines rest = line :: all) :
    Fits (newline (c :: rest)) (c :: line) := by
  refine ⟨fun member => ?_, fun same => ?_⟩
  · cases List.mem_cons.mp member with
    | inl is => exact feed is.symm
    | inr member => exact fits.1 member
  · have none : ¬crlf <:+: rest := fun inside => newline_eq_feed.mp same (inside.trans (List.suffix_cons c rest).isInfix)
    cases line with
    | nil =>
      intro back
      have back : c = '\r' := by simpa using back
      exact both ⟨back, (head_of_lines first).resolve_right none⟩
    | cons d line =>
      rw [List.getLast?_cons_cons]
      exact fits.2 (newline_eq_feed.mpr none)

theorem Fits.mono (fits : Fits (newline rest) line) (c : Char) : Fits (newline (c :: rest)) line := by
  refine ⟨fits.1, fun same => fits.2 (newline_eq_feed.mpr fun inside => ?_)⟩
  exact newline_eq_feed.mp same (inside.trans (List.suffix_cons c rest).isInfix)

theorem broken (some : text ≠ []) : ∃ front last, Broken text front last := by
  induction text with
  | nil => exact absurd rfl some
  | cons c rest ih =>
    cases rest with
    | nil =>
      by_cases feed : c = '\n'
      · subst feed
        refine ⟨[], [], rfl, by simp, by simp, fun _ => ⟨by simp, by simp⟩, fun open' => ?_⟩
        cases open'
      · have only : Lexing.lines [c] = [[c]] := by simp [Lexing.lines, feed, extend]
        refine ⟨[], [c], only, by simp, by simpa using Ne.symm feed, fun closed => ?_, by simp⟩
        simp [ended, feed] at closed
    | cons d rest =>
      have ⟨front, last, same, fits, feed, closed, shut⟩ := ih (List.cons_ne_nil _ _)
      have end' : ended (c :: d :: rest) = ended (d :: rest) := rfl
      by_cases feed' : c = '\n'
      · refine ⟨[] :: front, last, ?_, ?_, feed, fun ends => (closed (end' ▸ ends)).mono c, fun open' => shut (end' ▸ open')⟩
        · rw [Lexing.lines, if_pos feed', same]
          rfl
        · intro line member
          cases List.mem_cons.mp member with
          | inl is =>
            rw [is]
            exact ⟨by simp, by simp⟩
          | inr member => exact (fits line member).mono c
      · by_cases both : c = '\r' ∧ (d :: rest).head? = Option.some '\n'
        · refine ⟨front, last, ?_, fun line member => (fits line member).mono c, feed,
            fun ends => (closed (end' ▸ ends)).mono c, fun open' => shut (end' ▸ open')⟩
          rw [Lexing.lines, if_neg feed', if_pos both, same]
        · cases front with
          | nil =>
            refine ⟨[], c :: last, ?_, by simp, ?_, fun ends => (closed (end' ▸ ends)).cons feed' both same, by simp⟩
            · rw [Lexing.lines, if_neg feed', if_neg both, same]
              rfl
            · intro member
              cases List.mem_cons.mp member with
              | inl is => exact feed' is.symm
              | inr member => exact feed member
          | cons first front =>
            refine ⟨(c :: first) :: front, last, ?_, ?_, feed, fun ends => (closed (end' ▸ ends)).mono c,
              fun open' => shut (end' ▸ open')⟩
            · rw [Lexing.lines, if_neg feed', if_neg both, same]
              rfl
            · intro line member
              cases List.mem_cons.mp member with
              | inl is =>
                rw [is]
                exact (fits first List.mem_cons_self).cons feed' both same
              | inr member => exact (fits line (List.mem_cons_of_mem _ member)).mono c

end VibeLink.Lexing
