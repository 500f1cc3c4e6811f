import Mathlib.Algebra.GroupWithZero.Nat
import Mathlib.Algebra.Order.BigOperators.Group.List
import Mathlib.Algebra.Order.Group.Nat
import Mathlib.Logic.Function.Basic

/-!
# Entries that own slots

An entry holds the number of a slot, which is its own. A sweep looks at each entry of a list with its slot: the entry
stays, moves to another list, or goes and frees its slot. As long as no two entries hold the same slot, a sweep finds
every slot filled and leaves those of others alone (`sweep_spec`), and so does a visit of several groups
(`visitAll_spec`).
-/

namespace Slots

open List Function

universe u

variable {σ τ γ κ : Type u}

/-- What is in each slot, if anything. -/
abbrev Table (σ : Type u) := ℕ → Option σ

/-- What becomes of an entry. -/
inductive Fate (σ τ : Type u) where
  | stays (slot : σ) (own : τ)
  | moves (slot : σ) (own : τ)
  | goes

/-- What a sweep leaves. -/
structure Swept (σ τ : Type u) where
  table : Table σ
  stayed : List (ℕ × τ)
  moved : List (ℕ × τ)
  gone : List (σ × τ)

/-- Each entry is looked at with its slot; nothing if a slot is empty. -/
def sweep (fate : ℕ → σ → τ → Fate σ τ) (table : Table σ) : List (ℕ × τ) → Option (Swept σ τ)
  | [] => some ⟨table, [], [], []⟩
  | (i, own) :: entries => do
    let slot ← table i
    match fate i slot own with
    | .stays slot own =>
      let r ← sweep fate (update table i (some slot)) entries
      some { r with stayed := (i, own) :: r.stayed }
    | .moves slot own =>
      let r ← sweep fate (update table i (some slot)) entries
      some { r with moved := (i, own) :: r.moved }
    | .goes =>
      let r ← sweep fate (update table i none) entries
      some { r with gone := (slot, own) :: r.gone }

/-- Groups are visited one after the other. -/
def visitAll (visit : Table σ → γ → Option (Table σ × γ × List κ)) (table : Table σ) :
    List γ → Option (Table σ × List γ × List κ)
  | [] => some (table, [], [])
  | g :: groups => do
    let (table, g, gone) ← visit table g
    let (table, groups, rest) ← visitAll visit table groups
    some (table, g :: groups, gone ++ rest)

/-! ### Who holds a slot -/

/-- How many entries hold a slot. -/
def holders (entries : List (ℕ × τ)) (i : ℕ) : ℕ := (entries.map Prod.fst).count i

@[simp] theorem holders_nil (i : ℕ) : holders ([] : List (ℕ × τ)) i = 0 := rfl

@[simp] theorem holders_cons (e : ℕ × τ) (entries : List (ℕ × τ)) (i : ℕ) :
    holders (e :: entries) i = holders entries i + if e.1 = i then 1 else 0 := by
  simp [holders, count_cons]

@[simp] theorem holders_append (front back : List (ℕ × τ)) (i : ℕ) :
    holders (front ++ back) i = holders front i + holders back i := by
  simp [holders]

variable {entries : List (ℕ × τ)}

theorem holders_pos {e} (h : e ∈ entries) : 0 < holders entries e.1 := count_pos_iff.mpr (mem_map_of_mem h)

/-- The slot of each entry is filled, and the two are as they should be. -/
def Owned (table : Table σ) (good : ℕ → σ → τ → Prop) (entries : List (ℕ × τ)) : Prop :=
  ∀ e ∈ entries, ∃ slot, table e.1 = some slot ∧ good e.1 slot e.2

variable {good : ℕ → σ → τ → Prop} {table : Table σ}

theorem Owned.frame {table'} (h : Owned table good entries)
    (hsame : ∀ i, 0 < holders entries i → table' i = table i) : Owned table' good entries := by
  intro e he
  rw [hsame e.1 (holders_pos he)]
  exact h e he

theorem Owned.append {front back} (hfront : Owned table good front) (hback : Owned table good back) :
    Owned table good (front ++ back) :=
  forall_mem_append.mpr ⟨hfront, hback⟩

variable {i : ℕ}

theorem Owned.cons {slot own} (hslot : table i = some slot) (hgood : good i slot own)
    (h : Owned table good entries) : Owned table good ((i, own) :: entries) :=
  forall_mem_cons.mpr ⟨⟨slot, hslot, hgood⟩, h⟩

theorem Owned.mono {good'} (h : Owned table good entries)
    (himp : ∀ i slot own, (i, own) ∈ entries → table i = some slot → good i slot own → good' i slot own) :
    Owned table good' entries := by
  intro e he
  obtain ⟨slot, hslot, hgood⟩ := h e he
  exact ⟨slot, hslot, himp e.1 slot e.2 he hslot hgood⟩

/-! ### Sweeps -/

/-- What a sweep does to entries whose slots no other entry holds. -/
structure SweepSpec (table : Table σ) (entries : List (ℕ × τ)) (stay move : ℕ → σ → τ → Prop)
    (go : σ → τ → Prop) (r : Swept σ τ) : Prop where
  holders_le : ∀ i, holders r.stayed i + holders r.moved i ≤ holders entries i
  frame : ∀ i, holders entries i = 0 → r.table i = table i
  stayed : Owned r.table stay r.stayed
  moved : Owned r.table move r.moved
  gone : ∀ c ∈ r.gone, go c.1 c.2

theorem sweep_spec {fate stay move go}
    (hstay : ∀ i slot own slot' own', good i slot own → fate i slot own = .stays slot' own' → stay i slot' own')
    (hmove : ∀ i slot own slot' own', good i slot own → fate i slot own = .moves slot' own' → move i slot' own')
    (hgo : ∀ i slot own, good i slot own → fate i slot own = .goes → go slot own) (hapart : ∀ i, holders entries i ≤ 1)
    (howned : Owned table good entries) :
    ∃ r, sweep fate table entries = some r ∧ SweepSpec table entries stay move go r := by
  induction entries generalizing table with
  | nil =>
    exact ⟨⟨table, [], [], []⟩, rfl, fun _ => le_rfl, fun _ _ => rfl, forall_mem_nil _,
      forall_mem_nil _, forall_mem_nil _⟩
  | cons e entries ih =>
    obtain ⟨i, own⟩ := e
    obtain ⟨slot, hslot, hgood⟩ := howned (i, own) mem_cons_self
    have hnone : holders entries i = 0 := by
      have := hapart i
      simp only [holders_cons, if_true] at this
      omega
    -- whatever is put into this slot, the sweep of the rest goes through
    have hrest : ∀ filled, ∃ r, sweep fate (update table i filled) entries = some r ∧
        SweepSpec (update table i filled) entries stay move go r := by
      intro filled
      apply ih
      · intro j
        have := hapart j
        simp only [holders_cons] at this
        omega
      · intro e he
        have hne : e.1 ≠ i := by
          rintro rfl
          exact absurd hnone (holders_pos he).ne'
        rw [update_of_ne hne]
        exact howned e (mem_cons_of_mem _ he)
    have hkept : ∀ filled r, SweepSpec (update table i filled) entries stay move go r →
        r.table i = filled ∧ ∀ j, holders ((i, own) :: entries) j = 0 → r.table j = table j := by
      intro filled r hr
      refine ⟨by rw [hr.frame i hnone, update_self], fun j hj => ?_⟩
      simp only [holders_cons] at hj
      have hne : j ≠ i := by
        rintro rfl
        simp at hj
      rw [hr.frame j (by omega), update_of_ne hne]
    cases hfate : fate i slot own with
    | stays slot' own' =>
      obtain ⟨r, hsweep, hr⟩ := hrest (some slot')
      obtain ⟨hi, hframe⟩ := hkept _ r hr
      refine ⟨{ r with stayed := (i, own') :: r.stayed }, by simp [sweep, hslot, hfate, hsweep], ?_⟩
      refine ⟨fun j => ?_, hframe, .cons hi (hstay i slot own slot' own' hgood hfate) hr.stayed, hr.moved, hr.gone⟩
      have := hr.holders_le j
      simp only [holders_cons]
      omega
    | moves slot' own' =>
      obtain ⟨r, hsweep, hr⟩ := hrest (some slot')
      obtain ⟨hi, hframe⟩ := hkept _ r hr
      refine ⟨{ r with moved := (i, own') :: r.moved }, by simp [sweep, hslot, hfate, hsweep], ?_⟩
      refine ⟨fun j => ?_, hframe, hr.stayed, .cons hi (hmove i slot own slot' own' hgood hfate) hr.moved, hr.gone⟩
      have := hr.holders_le j
      simp only [holders_cons]
      omega
    | goes =>
      obtain ⟨r, hsweep, hr⟩ := hrest none
      obtain ⟨-, hframe⟩ := hkept _ r hr
      refine ⟨{ r with gone := (slot, own) :: r.gone }, by simp [sweep, hslot, hfate, hsweep], ?_⟩
      refine ⟨fun j => ?_, hframe, hr.stayed, hr.moved, forall_mem_cons.mpr ⟨hgo i slot own hgood hfate, hr.gone⟩⟩
      have := hr.holders_le j
      simp only [holders_cons]
      omega

/-! ### Visits -/

/-- How many entries of the groups hold a slot. -/
def held (holds : γ → ℕ → ℕ) (groups : List γ) (i : ℕ) : ℕ := (groups.map fun g => holds g i).sum

@[simp] theorem held_cons (holds : γ → ℕ → ℕ) (g : γ) (groups : List γ) (i : ℕ) :
    held holds (g :: groups) i = holds g i + held holds groups i := by
  simp [held]

variable {groups : List γ}

variable {holds : γ → ℕ → ℕ}

theorem held_eq_zero (h : ∀ g ∈ groups, holds g i = 0) : held holds groups i = 0 := by
  apply sum_eq_zero
  intro n hn
  obtain ⟨g, hg, rfl⟩ := mem_map.mp hn
  exact h g hg

theorem held_set {g g' more} (hmore : holds g' i = holds g i + more) {n} (hg : groups[n]? = some g) :
    held holds (groups.set n g') i = held holds groups i + more := by
  induction groups generalizing n with
  | nil => cases hg
  | cons _ _ ih =>
    cases n with
    | zero =>
      cases hg
      simp only [set_cons_zero, held_cons]
      omega
    | succ =>
      simp only [set_cons_succ, held_cons, ih hg]
      omega

/-- What a visit does to a group whose slots no other entry holds. -/
structure VisitSpec (holds : γ → ℕ → ℕ) (post : Table σ → γ → Prop) (go : κ → Prop) (table : Table σ) (g : γ)
    (r : Table σ × γ × List κ) : Prop where
  holds_le : ∀ i, holds r.2.1 i ≤ holds g i
  frame : ∀ i, holds g i = 0 → r.1 i = table i
  post : post r.1 r.2.1
  gone : ∀ c ∈ r.2.2, go c

theorem visitAll_spec {pre post : Table σ → γ → Prop} {go : κ → Prop}
    {visit : Table σ → γ → Option (Table σ × γ × List κ)}
    (hpre : ∀ table table' g, pre table g → (∀ i, 0 < holds g i → table' i = table i) → pre table' g)
    (hpost : ∀ table table' g, post table g → (∀ i, 0 < holds g i → table' i = table i) → post table' g)
    (hvisit : ∀ table g, (∀ i, holds g i ≤ 1) → pre table g →
      ∃ r, visit table g = some r ∧ VisitSpec holds post go table g r)
    (hapart : ∀ i, held holds groups i ≤ 1) (hgood : ∀ g ∈ groups, pre table g) :
    ∃ r, visitAll visit table groups = some r ∧ (∀ i, held holds r.2.1 i ≤ held holds groups i) ∧
      (∀ i, held holds groups i = 0 → r.1 i = table i) ∧ (∀ g ∈ r.2.1, post r.1 g) ∧ ∀ c ∈ r.2.2, go c := by
  induction groups generalizing table with
  | nil =>
    exact ⟨(table, [], []), rfl, fun _ => le_rfl, fun _ _ => rfl, forall_mem_nil _, forall_mem_nil _⟩
  | cons g groups ih =>
    simp only [held_cons] at hapart
    obtain ⟨⟨table₁, g', gone⟩, hg, hspec⟩ := hvisit table g (fun i => by have := hapart i; omega)
      (hgood g mem_cons_self)
    -- the other groups hold none of the slots that the visit has changed
    have hothers : ∀ g₁ ∈ groups, pre table₁ g₁ := by
      intro g₁ hg₁
      apply hpre table table₁ g₁ (hgood g₁ (mem_cons_of_mem _ hg₁))
      intro i hi
      have hle : holds g₁ i ≤ held holds groups i := single_le_sum (fun _ _ => Nat.zero_le _) _ (mem_map_of_mem hg₁)
      exact hspec.frame i (by have := hapart i; omega)
    obtain ⟨⟨table₂, groups', rest⟩, hall, hle, hframe, hafter, hgone⟩ :=
      ih (fun i => by have := hapart i; omega) hothers
    refine ⟨(table₂, g' :: groups', gone ++ rest), by simp [visitAll, hg, hall], ?_, ?_, ?_, ?_⟩
    · intro i
      have h₁ := hspec.holds_le i
      have h₂ := hle i
      simp only [held_cons] at h₁ h₂ ⊢
      omega
    · intro i hi
      simp only [held_cons] at hi
      have h₁ : table₁ i = table i := hspec.frame i (by omega)
      have h₂ : table₂ i = table₁ i := hframe i (by omega)
      exact h₂.trans h₁
    · refine forall_mem_cons.mpr ⟨hpost table₁ table₂ _ hspec.post fun i hi => ?_, hafter⟩
      have hle₁ := hspec.holds_le i
      exact hframe i (by have := hapart i; simp only at hi hle₁; omega)
    · exact forall_mem_append.mpr ⟨hspec.gone, hgone⟩

end Slots
