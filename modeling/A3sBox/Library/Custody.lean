import Mathlib.Data.List.Nodup
import Mathlib.Data.List.Perm.Basic

/-!
# Things in someone's hands

`Kept` says that nothing is in two hands or twice in one, and that everything is in some hand. It is kept when things
go from one holder to another (`Kept.move`) and when a new thing comes (`Kept.add`).
-/

namespace Custody

open List

variable {ο α : Type}

/-- Everything that is there is in exactly one hand, and once. -/
structure Kept (holds : ο → List α) (there : α → Prop) : Prop where
  nodup : ∀ o, (holds o).Nodup
  apart : ∀ {a o o'}, a ∈ holds o → a ∈ holds o' → o = o'
  known : ∀ {a o}, a ∈ holds o → there a
  held : ∀ {a}, there a → ∃ o, a ∈ holds o

variable {holds holds' : ο → List α} {there : α → Prop}

theorem Kept.existsUnique (h : Kept holds there) {a} (ha : there a) : ∃! o, a ∈ holds o := by
  obtain ⟨o, ho⟩ := h.held ha
  exact ⟨o, ho, fun o' ho' => h.apart ho' ho⟩

theorem Kept.move (h : Kept holds there) {giver taker} (things : List α) (hne : giver ≠ taker)
    (hgiver : (things ++ holds' giver).Perm (holds giver)) (htaker : (holds' taker).Perm (things ++ holds taker))
    (hothers : ∀ o, o ≠ giver → o ≠ taker → holds' o = holds o) : Kept holds' there := by
  have hnodup := hgiver.nodup_iff.mpr (h.nodup giver)
  obtain ⟨hthings, hleft, hdisjoint⟩ := nodup_append.mp hnodup
  have hmoved : ∀ {a}, a ∈ things → a ∈ holds giver := fun ha => hgiver.mem_iff.mp (mem_append_left _ ha)
  -- what a hand holds now it held before, or it was moved to the taker
  have hbefore : ∀ {a o}, a ∈ holds' o → a ∈ holds o ∨ o = taker ∧ a ∈ things := by
    intro a o ha
    by_cases htake : o = taker
    · subst htake
      cases mem_append.mp (htaker.mem_iff.mp ha) with
      | inl hthing => exact .inr ⟨rfl, hthing⟩
      | inr hheld => exact .inl hheld
    · by_cases hgive : o = giver
      · subst hgive
        exact .inl (hgiver.mem_iff.mp (mem_append_right _ ha))
      · rw [hothers o hgive htake] at ha
        exact .inl ha
  -- what was moved is no longer with the giver
  have hgone : ∀ {a o}, a ∈ things → a ∈ holds' o → o = taker := by
    intro a o ha hheld
    rcases hbefore hheld with hheld' | ⟨htake, -⟩
    · have hgive : o = giver := h.apart hheld' (hmoved ha)
      subst hgive
      exact absurd rfl (hdisjoint a ha a hheld)
    · exact htake
  refine ⟨fun o => ?_, fun {a o o'} ha ha' => ?_, fun {a o} ha => ?_, fun {a} ha => ?_⟩
  · by_cases htake : o = taker
    · subst htake
      rw [htaker.nodup_iff, nodup_append]
      refine ⟨hthings, h.nodup o, ?_⟩
      rintro a ha _ hb rfl
      exact hne (h.apart (hmoved ha) hb)
    · by_cases hgive : o = giver
      · subst hgive
        exact hleft
      · rw [hothers o hgive htake]
        exact h.nodup o
  · rcases hbefore ha with hheld | ⟨rfl, hthing⟩
    · rcases hbefore ha' with hheld' | ⟨rfl, hthing'⟩
      · exact h.apart hheld hheld'
      · exact hgone hthing' ha
    · exact (hgone hthing ha').symm
  · rcases hbefore ha with hheld | ⟨-, hthing⟩
    · exact h.known hheld
    · exact h.known (hmoved hthing)
  · obtain ⟨o, ho⟩ := h.held ha
    by_cases hgive : o = giver
    · subst hgive
      cases mem_append.mp (hgiver.mem_iff.mpr ho) with
      | inl hthing => exact ⟨taker, htaker.mem_iff.mpr (mem_append_left _ hthing)⟩
      | inr hkept => exact ⟨o, hkept⟩
    · by_cases htake : o = taker
      · subst htake
        exact ⟨o, htaker.mem_iff.mpr (mem_append_right _ ho)⟩
      · refine ⟨o, ?_⟩
        rw [hothers o hgive htake]
        exact ho

/-- A new thing comes into a hand. -/
theorem Kept.add (h : Kept holds there) (taker : ο) {a there'} (hnew : ¬ there a)
    (hthere : ∀ b, there' b ↔ there b ∨ b = a) (htaker : (holds' taker).Perm (a :: holds taker))
    (hothers : ∀ o, o ≠ taker → holds' o = holds o) : Kept holds' there' := by
  have hbefore : ∀ {b o}, b ∈ holds' o → b ∈ holds o ∨ o = taker ∧ b = a := by
    intro b o hb
    by_cases htake : o = taker
    · subst htake
      cases mem_cons.mp (htaker.mem_iff.mp hb) with
      | inl heq => exact .inr ⟨rfl, heq⟩
      | inr hheld => exact .inl hheld
    · rw [hothers o htake] at hb
      exact .inl hb
  refine ⟨fun o => ?_, fun {b o o'} hb hb' => ?_, fun {b o} hb => ?_, fun {b} hb => ?_⟩
  · by_cases htake : o = taker
    · subst htake
      rw [htaker.nodup_iff, nodup_cons]
      exact ⟨fun ha => hnew (h.known ha), h.nodup o⟩
    · rw [hothers o htake]
      exact h.nodup o
  · rcases hbefore hb with hheld | ⟨rfl, rfl⟩
    · rcases hbefore hb' with hheld' | ⟨rfl, rfl⟩
      · exact h.apart hheld hheld'
      · exact absurd (h.known hheld) hnew
    · rcases hbefore hb' with hheld' | ⟨rfl, -⟩
      · exact absurd (h.known hheld') hnew
      · rfl
  · rcases hbefore hb with hheld | ⟨-, heq⟩
    · exact (hthere b).mpr (.inl (h.known hheld))
    · exact (hthere b).mpr (.inr heq)
  · rcases (hthere b).mp hb with hbefore | rfl
    · obtain ⟨o, ho⟩ := h.held hbefore
      by_cases htake : o = taker
      · subst htake
        exact ⟨o, htaker.mem_iff.mpr (mem_cons_of_mem _ ho)⟩
      · refine ⟨o, ?_⟩
        rw [hothers o htake]
        exact ho
    · exact ⟨taker, htaker.mem_iff.mpr mem_cons_self⟩

end Custody
