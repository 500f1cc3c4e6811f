import Mathlib.Algebra.Order.BigOperators.Group.List
import Mathlib.Algebra.Order.Ring.Nat
import Mathlib.Data.List.AList

/-!
# Totals over a map

A number for every value of a map, summed over all keys, or over all keys but one. To
change the value of a key changes the total by that value alone (`total_insert`). What is found after a key is erased
was there before (`lookup_of_erase`); after one is inserted, it may be the new value (`lookup_of_insert`).
-/

namespace Totals

open List

variable {α β : Type} [DecidableEq α] {map : AList fun _ : α => β}

theorem lookup_of_erase {key erased value}
    (h : (map.erase erased).lookup key = some value) : map.lookup key = some value := by
  by_cases hkey : key = erased
  · rw [hkey, AList.lookup_erase] at h
    cases h
  · rwa [AList.lookup_erase_ne hkey] at h

theorem lookup_of_insert {key inserted value new} (h : (map.insert inserted new).lookup key = some value) :
    key = inserted ∧ new = value ∨ key ≠ inserted ∧ map.lookup key = some value := by
  by_cases hkey : key = inserted
  · rw [hkey, AList.lookup_insert] at h
    exact .inl ⟨hkey, Option.some.inj h⟩
  · rw [AList.lookup_insert_ne hkey] at h
    exact .inr ⟨hkey, h⟩

/-- The values of all keys but one. -/
def others (map : AList fun _ : α => β) (key : α) : List β :=
  (map.entries.filter fun entry => !decide (entry.1 = key)).map Sigma.snd

variable (f : β → ℕ)

/-- The total over all keys. -/
def total (map : AList fun _ : α => β) : ℕ := (map.entries.map fun entry => f entry.2).sum

/-- The total over all keys but one. -/
def totalOthers (map : AList fun _ : α => β) (key : α) : ℕ := ((others map key).map f).sum

theorem filter_kerase (key : α) (l : List (Sigma fun _ : α => β)) :
    (l.kerase key).filter (fun entry => !decide (entry.1 = key)) = l.filter fun entry => !decide (entry.1 = key) := by
  induction l with
  | nil => rfl
  | cons entry _ ih =>
    by_cases h : key = entry.1
    · simp [h]
    · rw [kerase_cons_ne h]
      simp [Ne.symm h, ih]

theorem others_insert (map) (key : α) (value : β) :
    others (map.insert key value) key = others map key := by
  simp [others, filter_kerase]

theorem sum_entries (key : α) {l : List (Sigma fun _ : α => β)} (h : l.NodupKeys) : (l.map fun entry => f entry.2).sum =
      ((l.dlookup key).map f).getD 0 +
        ((l.filter fun entry => !decide (entry.1 = key)).map fun entry => f entry.2).sum := by
  induction l with
  | nil => rfl
  | cons entry l ih =>
    obtain ⟨key', _⟩ := entry
    obtain ⟨hnot, hnodup⟩ := nodupKeys_cons.1 h
    by_cases hkey : key' = key
    · subst hkey
      have hall : (l.filter fun entry => !decide (entry.1 = key')) = l := by
        refine filter_eq_self.2 fun entry hentry => ?_
        have hmem : entry.1 ∈ l.keys := mem_keys_of_mem hentry
        simpa using fun heq : entry.1 = key' => hnot (heq ▸ hmem)
      simp [hall]
    · have hne : key ≠ key' := Ne.symm hkey
      rw [map_cons, sum_cons, ih hnodup, dlookup_cons_ne _ _ hne]
      simp [hkey]
      omega

theorem total_eq (map) (key : α) :
    total f map = ((map.lookup key).map f).getD 0 + totalOthers f map key := by
  rw [total, sum_entries f key map.nodupKeys, totalOthers, others, map_map]
  rfl

theorem total_insert (map) (key : α) (value : β) :
    total f (map.insert key value) = f value + totalOthers f map key := by
  rw [total_eq f _ key, AList.lookup_insert, totalOthers, others_insert]
  rfl

omit [DecidableEq α] in
theorem total_le {f g} (h : ∀ value, f value ≤ g value) : total f map ≤ total g map :=
  sum_le_sum fun entry _ => h entry.2

theorem totalOthers_add (f g : β → ℕ) (map) (key : α) :
    totalOthers (fun value => f value + g value) map key = totalOthers f map key + totalOthers g map key :=
  sum_map_add

end Totals
