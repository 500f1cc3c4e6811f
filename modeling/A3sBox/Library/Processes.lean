import Mathlib.Logic.Function.Basic
import Mathlib.Tactic.Cases

/-!
# Processes that share a state

A step of a process changes what all share and what is its own. In its window a process relies on something it has
read. If it enters only while no other is in its own, at most one is, and what is said about it has to survive only
the steps of processes outside. A file that is replaced has a temporary file beside it, which all share.

`Rule.holds`: what a `Rule` is about holds in every run.
-/

namespace Processes

variable {ι σ κ : Type} [DecidableEq ι]

/-- What the processes share, and where each of them is. -/
structure State (ι σ κ : Type) where
  shared : σ
  place : ι → κ

/-- The state after a step of a process. -/
def State.move (s : State ι σ κ) (p : ι) (shared : σ) (place : κ) : State ι σ κ :=
  ⟨shared, Function.update s.place p place⟩

variable (s : State ι σ κ)

@[simp] theorem State.move_shared (p : ι) (shared : σ) (place : κ) : (s.move p shared place).shared = shared := rfl

@[simp] theorem State.move_place_self (p : ι) (shared : σ) (place : κ) :
    (s.move p shared place).place p = place := Function.update_self ..

variable {p : ι}

theorem State.move_place_ne {q} (h : q ≠ p) (shared : σ) (place : κ) :
    (s.move p shared place).place q = s.place q := Function.update_of_ne h ..

/-- What is said of the place of each process, after a step of one. -/
theorem State.forall_move {P : ι → κ → Prop} {shared : σ} {place : κ} (hself : P p place)
    (hother : ∀ q, q ≠ p → P q (s.place q)) (q : ι) : P q ((s.move p shared place).place q) :=
  (Function.forall_update_iff s.place P).mpr ⟨hself, hother⟩ q

/-- The runs in which every step meets a condition on the state before it, its process, and what it leads to. -/
inductive Run (step : ι → σ → κ → σ → κ → Prop) (ok : State ι σ κ → ι → σ → κ → Prop) (init : State ι σ κ) :
    State ι σ κ → Prop where
  | start : Run step ok init init
  | step {s : State ι σ κ} (p : ι) {shared : σ} {place : κ} (before : Run step ok init s)
      (h : step p s.shared (s.place p) shared place) (meets : ok s p shared place) :
      Run step ok init (s.move p shared place)

variable {ok : State ι σ κ → ι → σ → κ → Prop} {step : ι → σ → κ → σ → κ → Prop} {s init : State ι σ κ}

/-- What holds at the beginning and survives every step holds in every run. -/
theorem Run.induct {P : State ι σ κ → Prop} (h : Run step ok init s) (hinit : P init)
    (hstep : ∀ s p shared place, P s → step p s.shared (s.place p) shared place → ok s p shared place →
      P (s.move p shared place)) :
    P s := by
  induction h with
  | start => exact hinit
  | step p _ h meets ih => exact hstep _ p _ _ ih h meets

/-- A run that meets a condition meets a weaker one. -/
theorem Run.mono {ok'}
    (himp : ∀ s p shared place, ok s p shared place → ok' s p shared place) (h : Run step ok init s) :
    Run step ok' init s := by
  induction h with
  | start => exact .start
  | step p _ h meets ih => exact .step p ih h (himp _ _ _ _ meets)

/-- A condition on what a step does to the process and to what is shared may be read as part of the step. -/
theorem Run.restrict {within : ι → σ → κ → σ → κ → Prop}
    (h : Run step (fun s p shared place => ok s p shared place ∧ within p s.shared (s.place p) shared place) init s) :
    Run (fun p shared place shared' place' =>
      step p shared place shared' place' ∧ within p shared place shared' place') ok init s := by
  induction h with
  | start => exact .start
  | step p _ h meets ih => exact .step p ih ⟨h, meets.2⟩ meets.1

/-! ### Windows -/

/-- At most one process is in its window. -/
def Exclusive (inside : κ → Prop) (s : State ι σ κ) : Prop :=
  ∀ p q, inside (s.place p) → inside (s.place q) → p = q

/-- What is known of a state: `G` of what the processes share, `L` of each process. -/
structure Known (inside : κ → Prop) (G : σ → Prop) (L : ι → σ → κ → Prop) (s : State ι σ κ) : Prop where
  shared : G s.shared
  /-- What is known of each process. -/
  own : ∀ p, L p s.shared (s.place p)
  /-- At most one process is in its window. -/
  exclusive : Exclusive inside s

/-- What has to be shown for one step. -/
structure Rule (step : ι → σ → κ → σ → κ → Prop) (ok : State ι σ κ → ι → σ → κ → Prop) (inside : κ → Prop)
    (G : σ → Prop) (L : ι → σ → κ → Prop) : Prop where
  /-- A step keeps what is known of what they share. -/
  shared : ∀ {p s l s' l'}, G s → L p s l → step p s l s' l' → G s'
  /-- A step keeps what is known of the process that takes it. -/
  own : ∀ {p s l s' l'}, G s → L p s l → step p s l s' l' → L p s' l'
  /-- A step keeps what is known of another process, unless both are in their windows. -/
  other : ∀ {p q s l s' l' k}, q ≠ p → G s → L p s l → L q s k → ¬ (inside l ∧ inside k) → step p s l s' l' → L q s' k
  /-- A window is entered only while no other process is in its own. -/
  enter : ∀ {s : State ι σ κ} {p s' l'}, Known inside G L s → step p s.shared (s.place p) s' l' →
    ok s p s' l' → ¬ inside (s.place p) → inside l' → ∀ q, q ≠ p → ¬ inside (s.place q)

variable {step : ι → σ → κ → σ → κ → Prop} {ok : State ι σ κ → ι → σ → κ → Prop} {inside : κ → Prop}
  {G : σ → Prop} {L : ι → σ → κ → Prop}

/-- At most one process is in its window after a step. -/
theorem Rule.exclusive_move (rule : Rule step ok inside G L) (known : Known inside G L s) {s' l'}
    (h : step p s.shared (s.place p) s' l') (meets : ok s p s' l') : Exclusive inside (s.move p s' l') := by
  -- while the process that took the step is in its window, no other is
  have halone : inside l' → ∀ q, q ≠ p → ¬ inside (s.place q) := by
    intro hl' q hq hinside
    by_cases hl : inside (s.place p)
    · exact hq (known.exclusive q p hinside hl)
    · exact rule.enter known h meets hl hl' q hq hinside
  intro q r hq hr
  by_cases hqp : q = p <;> by_cases hrp : r = p
  · rw [hqp, hrp]
  · subst hqp
    rw [State.move_place_self] at hq
    rw [State.move_place_ne _ hrp] at hr
    exact absurd hr (halone hq r hrp)
  · subst hrp
    rw [State.move_place_self] at hr
    rw [State.move_place_ne _ hqp] at hq
    exact absurd hq (halone hr q hqp)
  · rw [State.move_place_ne _ hqp] at hq
    rw [State.move_place_ne _ hrp] at hr
    exact known.exclusive q r hq hr

theorem Rule.known_move (rule : Rule step ok inside G L) (known : Known inside G L s) {s' : σ} {l' : κ}
    (h : step p s.shared (s.place p) s' l') (meets : ok s p s' l') :
    Known inside G L (s.move p s' l') where
  shared := rule.shared known.shared (known.own p) h
  own := by
    refine s.forall_move (P := fun q => L q s') (rule.own known.shared (known.own p) h) fun q hq => ?_
    exact rule.other hq known.shared (known.own p) (known.own q)
      (fun hboth => hq (known.exclusive q p hboth.2 hboth.1)) h
  exclusive := rule.exclusive_move known h meets

/-- **The rule for runs.** -/
theorem Rule.holds (rule : Rule step ok inside G L) (h : Run step ok init s) (hinit : Known inside G L init) :
    Known inside G L s :=
  h.induct hinit fun _ _ _ _ known hstep meets => rule.known_move known hstep meets

/-! ### Files that are replaced -/

/-- What a file may hold. -/
inductive Content (α : Type) where
  /-- A value, written out whole. -/
  | whole (value : α)
  /-- A text that is no value, and what a parser says of it. -/
  | broken (why : String)
  deriving DecidableEq, Repr

/-- A file, and the temporary file beside it. -/
structure Disk (α : Type) where
  file : Option (Content α)
  tmp : Option (Content α)

variable {α : Type}

/-- Write the temporary file. -/
def Disk.write (disk : Disk α) (content : Content α) : Disk α := { disk with tmp := some content }

/-- Rename the temporary file over the file, if it is there. -/
def Disk.rename (disk : Disk α) : Option (Disk α) := disk.tmp.map fun content => ⟨some content, none⟩

end Processes
