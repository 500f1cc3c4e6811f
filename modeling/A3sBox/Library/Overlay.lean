import Mathlib.Logic.Function.Basic

/-!
# Union directories

A place is read from the upper layer if that has an entry for it, and from the lower one otherwise. An entry is
content, or a mark that hides what the lower layer has there. `merge_record`: changes recorded in the upper layer are
seen as if made in place. `merge_of_touches`: so they are over another lower layer, if that has nothing where the
first had nothing.
-/

namespace Overlay

open Function

variable {P F : Type} [DecidableEq P] {changes : List (P × Option F)} {p : P}

/-! ### Changes -/

/-- What is at each place. -/
abbrev Files (P F : Type) := P → Option F

/-- The files after some changes, each of them new content for a place or its removal. -/
def change (files : Files P F) (changes : List (P × Option F)) : Files P F :=
  changes.foldl (fun files c => update files c.1 c.2) files

/-- Some change is at the place. -/
def Touches (changes : List (P × Option F)) (p : P) : Prop := ∃ content, (p, content) ∈ changes

omit [DecidableEq P] in
theorem not_touches_nil (p) : ¬ Touches ([] : List (P × Option F)) p := by
  rintro ⟨_, h⟩
  cases h

omit [DecidableEq P] in
theorem touches_cons {c} : Touches (c :: changes) p ↔ p = c.1 ∨ Touches changes p := by
  constructor
  · rintro ⟨content, h⟩
    rcases List.mem_cons.mp h with rfl | h
    · exact .inl rfl
    · exact .inr ⟨content, h⟩
  · rintro (rfl | ⟨content, h⟩)
    · exact ⟨c.2, List.mem_cons_self⟩
    · exact ⟨content, List.mem_cons_of_mem _ h⟩

theorem change_of_not_touches (h : ¬ Touches changes p) (files : Files P F) : change files changes p = files p := by
  induction changes generalizing files with
  | nil => rfl
  | cons _ _ ih =>
    rw [touches_cons, not_or] at h
    exact (ih h.2 _).trans (update_of_ne h.1 _ _)

/-! ### Layers -/

/-- The upper layer: content, or a mark that hides the place. -/
abbrev Upper (P F : Type) := P → Option (Option F)

variable (lower : Files P F)

/-- What is seen of two layers. -/
def merge (upper : Upper P F) : Files P F := fun p => (upper p).getD (lower p)

/-- The entry of the upper layer for a place that is to have some content, or none. -/
def mark (p : P) : Option F → Option (Option F)
  | some content => some (some content)
  | none => if (lower p).isSome then some none else none

/-- The changes of the upper layer for some changes. -/
def marks (changes : List (P × Option F)) : List (P × Option (Option F)) :=
  changes.map fun c => (c.1, mark lower c.1 c.2)

/-- The upper layer after some changes. -/
def record (upper : Upper P F) (changes : List (P × Option F)) : Upper P F :=
  change upper (marks lower changes)

omit [DecidableEq P] in
theorem touches_marks {lower} : Touches (marks lower changes) p ↔ Touches changes p := by
  induction changes with
  | nil => exact iff_of_false (not_touches_nil p) (not_touches_nil p)
  | cons _ _ ih => rw [touches_cons, ← ih]; exact touches_cons

omit [DecidableEq P] in
/-- An entry shows what it was made for, over any lower layer without new places. -/
theorem getD_mark {lower lower' : Files P F} (h : lower' p ≠ none → lower p ≠ none) (content : Option F) :
    (mark lower p content).getD (lower' p) = content := by
  cases content with
  | some => rfl
  | none =>
    by_cases hp : (lower p).isSome
    · rw [mark, if_pos hp]; rfl
    · rw [mark, if_neg hp]
      exact not_not.mp fun h' => hp (Option.isSome_iff_ne_none.mpr (h h'))

/-- **Changes are seen**: the upper layer after some changes shows the changed files. -/
theorem merge_record (lower) (upper : Upper P F) (changes) :
    merge lower (record lower upper changes) = change (merge lower upper) changes := by
  induction changes generalizing upper with
  | nil => rfl
  | cons c _ ih =>
    have hone : merge lower (update upper c.1 (mark lower c.1 c.2)) =
        update (merge lower upper) c.1 c.2 := by
      funext p
      by_cases hp : p = c.1
      · subst hp
        simp only [merge, update_self]
        exact getD_mark id c.2
      · simp only [merge, update_of_ne hp]
    exact (ih _).trans (by rw [hone]; rfl)

theorem record_of_touches {lower} (h : Touches changes p)
    (upper : Upper P F) (files : Files P F) : record lower upper changes p = mark lower p (change files changes p) := by
  induction changes generalizing upper files with
  | nil => exact absurd h (not_touches_nil p)
  | cons c changes ih =>
    by_cases hrest : Touches changes p
    · exact ih hrest _ _
    · -- the first change is the last one at this place
      obtain rfl := (touches_cons.mp h).resolve_right hrest
      have hkept := change_of_not_touches (mt (@touches_marks _ _ changes c.1 lower).mp hrest)
      calc record lower upper (c :: changes) c.1
          = update upper c.1 (mark lower c.1 c.2) c.1 := hkept _
        _ = mark lower c.1 c.2 := update_self ..
        _ = mark lower c.1 (change files (c :: changes) c.1) := by
          rw [show change files (c :: changes) c.1 = c.2 from
            (change_of_not_touches hrest _).trans (update_self ..)]

/-- **Changes last**: a changed place is seen as it was left, over any lower layer without new places. -/
theorem merge_of_touches {lower lower'} (h : Touches changes p)
    (hnew : lower' p ≠ none → lower p ≠ none) (upper : Upper P F) :
    merge lower' (record lower upper changes) p = change (merge lower upper) changes p := by
  rw [merge, record_of_touches h upper (merge lower upper), getD_mark hnew]

end Overlay
