import Mathlib.Data.List.Nodup
import Mathlib.Data.List.Perm.Basic
import Mathlib.Logic.Relation

/-!
# Orders in which everything comes after what it points at

Lists in which every vertex stands after all its successors, as a depth-first search makes them: what `r` relates
stands in the opposite order (`Closed.precedes`), and one without repetitions exists only where `r` has no cycle
(`Closed.acyclic`).
-/

namespace PostOrder

open Relation List

universe u

variable {V : Type u} {r : V → V → Prop} {l : List V} {a b : V}

/-- Every member of `l` stands after all that `r` relates it to. -/
def Closed (r : V → V → Prop) (l : List V) : Prop := ∀ l₁ a, l₁ ++ [a] <+: l → ∀ b, r a b → b ∈ l₁

/-- `a` stands before `b` in `l`. -/
def Precedes (l : List V) (a b : V) : Prop := [a, b].Sublist l

/-- The relation has no cycle. -/
def Acyclic (r : V → V → Prop) : Prop := ∀ a, ¬ TransGen r a a

theorem closed_nil : Closed r [] := by
  intro l₁ a h
  simp at h

variable (hl : Closed r l)

include hl

/-- A vertex whose successors are all listed may be listed next. -/
theorem Closed.snoc (ha : ∀ b, r a b → b ∈ l) : Closed r (l ++ [a]) := by
  intro l₁ x h b hb
  rcases prefix_concat_iff.mp h with h | h
  · -- the vertex just listed
    obtain ⟨rfl, rfl⟩ := concat_inj.mp (by simpa using h)
    exact ha b hb
  · exact hl l₁ x h b hb

omit hl in
/-- The part of the list up to a member. -/
theorem prefix_of_mem (ha : a ∈ l) : ∃ l₁, l₁ ++ [a] <+: l := by
  obtain ⟨l₁, l₂, rfl⟩ := append_of_mem ha
  exact ⟨l₁, l₂, by simp⟩

/-- What `r` relates to a listed vertex stands before it. -/
theorem Closed.precedes (ha : a ∈ l) (hab : r a b) : Precedes l b a := by
  obtain ⟨l₁, h⟩ := prefix_of_mem ha
  have hb : [b].Sublist l₁ := singleton_sublist.mpr (hl l₁ a h b hab)
  exact (hb.append (List.Sublist.refl [a])).trans h.sublist

/-- A path from a listed vertex ends strictly before that vertex. -/
theorem Closed.mem_of_transGen {l₁} (ha : l₁ ++ [a] <+: l) (h : TransGen r a b) : b ∈ l₁ := by
  induction h with
  | single hab => exact hl l₁ a ha _ hab
  | tail _ hbc ih =>
    obtain ⟨k, hk⟩ := prefix_of_mem ih
    have hkl := hk.trans ((prefix_append l₁ [a]).trans ha)
    exact hk.subset (mem_append_left _ (hl k _ hkl _ hbc))

/-- No listed vertex lies on a cycle. -/
theorem Closed.not_transGen_self (hn : l.Nodup) (ha : a ∈ l) : ¬ TransGen r a a := by
  intro h
  obtain ⟨_, hp⟩ := prefix_of_mem ha
  have hmem := hl.mem_of_transGen hp h
  exact disjoint_of_nodup_append (hp.sublist.nodup hn) hmem (mem_singleton_self a)

/-- If every vertex with a successor is listed, there is no cycle at all. -/
theorem Closed.acyclic (hn : l.Nodup) (hall : ∀ a b, r a b → a ∈ l) : Acyclic r := by
  intro a h
  obtain ⟨b, hab, -⟩ := TransGen.head'_iff.mp h
  exact hl.not_transGen_self hn (hall a b hab) h

omit hl

/-- Turning a list round turns the order of its members round. -/
theorem precedes_reverse : Precedes l.reverse a b ↔ Precedes l b a := by
  unfold Precedes
  rw [← reverse_sublist]
  simp

end PostOrder
