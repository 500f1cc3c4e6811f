import Mathlib.Data.List.Basic
import Mathlib.Tactic.Cases

/-!
# Lines

A sequence is divided into lines by a mark that ends each line; what comes after the last
mark is a line of its own, unless it is empty. `upTo` is what is read of a sequence when it
is read up to its first mark.
-/

namespace Lines

variable {α : Type} [DecidableEq α]

/-- The beginning of a sequence, up to and with its first mark; all of it if it has none. -/
def upTo (mark : α) : List α → List α
  | [] => []
  | a :: rest => if a = mark then [a] else a :: upTo mark rest

/-- The lines of a sequence, with their marks. -/
def lines (mark : α) : List α → List (List α)
  | [] => []
  | a :: rest =>
    if a = mark then [a] :: lines mark rest
    else
      match lines mark rest with
      | [] => [[a]]
      | line :: others => (a :: line) :: others

theorem upTo_append_drop (mark : α) (l : List α) : upTo mark l ++ l.drop (upTo mark l).length = l := by
  induction l with
  | nil => rfl
  | cons _ _ ih =>
    rw [upTo]
    split_ifs
    · rfl
    · simpa using ih

theorem upTo_cases (mark : α) (l : List α) :
    (∃ line, mark ∉ line ∧ upTo mark l = line ++ [mark]) ∨ mark ∉ upTo mark l := by
  induction l with
  | nil => exact .inr (by simp [upTo])
  | cons a _ ih =>
    by_cases ha : a = mark
    · exact .inl ⟨[], by simp, by simp [upTo, ha]⟩
    · rcases ih with ⟨line, hline, heq⟩ | hnone
      · exact .inl ⟨a :: line, by simp [hline, Ne.symm ha], by simp [upTo, ha, heq]⟩
      · exact .inr (by simp [upTo, ha, hnone, Ne.symm ha])

variable {mark : α}

theorem upTo_eq_nil {l} (h : upTo mark l = []) : l = [] := by
  cases l with
  | nil => rfl
  | cons =>
    rw [upTo] at h
    split_ifs at h

theorem lines_append {line} (h : mark ∉ line) (rest : List α) :
    lines mark (line ++ mark :: rest) = (line ++ [mark]) :: lines mark rest := by
  induction line with
  | nil => simp [lines]
  | cons a line ih =>
    have ha : a ≠ mark := fun ha => h (ha ▸ List.mem_cons_self)
    have hline : mark ∉ line := fun hline => h (List.mem_cons_of_mem _ hline)
    simp [lines, ha, ih hline]

theorem lines_of_not_mem {line} (h : mark ∉ line) (hne : line ≠ []) : lines mark line = [line] := by
  induction line with
  | nil => exact absurd rfl hne
  | cons a line ih =>
    have ha : a ≠ mark := fun ha => h (ha ▸ List.mem_cons_self)
    have hline : mark ∉ line := fun hline => h (List.mem_cons_of_mem _ hline)
    cases line with
    | nil => simp [lines]
    | cons =>
      rw [lines, if_neg ha, ih hline (by simp)]

end Lines
