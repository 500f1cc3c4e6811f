import A3sBox.Core.Config
import A3sBox.Core.Error
import A3sBox.Library.Custody
import A3sBox.Library.Processes

/-!
# The warm pool

`runtime/src/pool/warm_pool.rs` and `scaler.rs`: virtual machines are booted in advance and kept idle. A caller gets
one and gives it back; a background task removes machines that were idle for too long and boots new ones.

## The model

Callers and the background task are processes, and a step goes from one `await` to the next. The idle machines are
behind a lock, which a task keeps while it waits for that of the statistics, but not while it boots or destroys.
Machines are numbered in the order of their boots. What the scaler decides is left open; what it does with a decision
is not.

`pool_bounded`: when there are never more idle machines than `max_size`, and each is in exactly one place: idle, in
one task's hands, or destroyed. `overfull_and_leaked` are runs in which this fails.
-/

namespace A3sBox.WarmPool

open Processes Custody List State

/-! ### The scaler -/

/-- The scaler of a pool. -/
structure PoolScaler where
  /-- How many machines are to be kept idle now. -/
  currentMinIdle : ℕ
  maxMinIdle : ℕ
  deriving DecidableEq, Repr

/-- What the rates say. -/
inductive Pressure where
  /-- It is too early to say. -/
  | none
  /-- Too many callers find no idle machine. -/
  | high
  /-- Nearly every caller finds one. -/
  | low
  deriving DecidableEq, Repr

/-- The scaler of a new pool. -/
def PoolScaler.new (policy : ScalingPolicy) (initialMinIdle maxSize : ℕ) : PoolScaler :=
  ⟨initialMinIdle, if 0 < policy.maxMinIdle then min policy.maxMinIdle maxSize else maxSize⟩

/-- The scaler follows the rates. -/
def PoolScaler.evaluate (scaler : PoolScaler) : Pressure → PoolScaler
  | .none => scaler
  | .high =>
    let newMin := min (scaler.currentMinIdle + 1) scaler.maxMinIdle
    if scaler.currentMinIdle < newMin then { scaler with currentMinIdle := newMin } else scaler
  | .low =>
    let newMin := max (scaler.currentMinIdle - 1) 1
    if newMin < scaler.currentMinIdle then { scaler with currentMinIdle := newMin } else scaler

/-! ### The pool -/

/-- An idle machine. -/
structure WarmVm where
  vm : ℕ
  createdAt : ℕ
  deriving DecidableEq, Repr

/-- What the tasks share. -/
structure Pool where
  idle : List WarmVm
  /-- A task keeps the lock of the idle machines. -/
  locked : Bool
  scaler : Option PoolScaler
  booted : ℕ
  destroyed : List ℕ
  deriving DecidableEq, Repr

/-- One more machine was booted. -/
def Pool.boot (pool : Pool) : Pool := { pool with booted := pool.booted + 1 }

/-- Destroy a machine. -/
def Pool.destroy (pool : Pool) (vm : ℕ) : Pool := { pool with destroyed := vm :: pool.destroyed }

/-- Machines are removed from the idle ones and destroyed, as far as this succeeds. -/
def removeIdleVms (pool : Pool) (boxIds : List ℕ) (destroys : ℕ → Bool) : Pool :=
  let removed := (pool.idle.filter fun warm => warm.vm ∈ boxIds).map WarmVm.vm
  { pool with
    idle := pool.idle.filter fun warm => warm.vm ∉ boxIds
    destroyed := removed.filter destroys ++ pool.destroyed }

/-- So many machines are booted and added; if one cannot be booted, those that were added are removed. -/
def fillLoop (boots destroys : ℕ → Bool) (now : ℕ → ℕ) : ℕ → List ℕ → Pool → Pool
  | 0, _, pool => pool
  | needed + 1, addedIds, pool =>
    if boots pool.booted then
      let vm := pool.booted
      fillLoop boots destroys now needed (addedIds ++ [vm])
        { pool.boot with idle := pool.idle ++ [⟨vm, now vm⟩] }
    else removeIdleVms pool addedIds destroys

/-- Boot machines until there are enough. -/
def fillToMin (config : PoolConfig) (boots destroys : ℕ → Bool) (now : ℕ → ℕ) (pool : Pool) : Pool :=
  fillLoop boots destroys now (config.minIdle - pool.idle.length) [] pool

/-- The pool is started. No other task runs before it is. -/
def start (config : PoolConfig) (boots destroys : ℕ → Bool) (now : ℕ → ℕ) : Except BoxError Pool :=
  if config.maxSize = 0 then .error (.poolError "Pool max_size must be greater than 0")
  else if config.maxSize < config.minIdle then
    let minIdle := config.minIdle
    let maxSize := config.maxSize
    .error (.poolError s!"Pool min_idle ({minIdle}) cannot exceed max_size ({maxSize})")
  else
    let scaler :=
      if config.scaling.enabled then some (PoolScaler.new config.scaling config.minIdle config.maxSize) else none
    .ok (fillToMin config boots destroys now ⟨[], false, scaler, 0, []⟩)

/-! ### The tasks -/

/-- The tasks. -/
inductive Task where
  | maintenance
  | caller (i : ℕ)
  deriving DecidableEq, Repr

/-- Where a task is. The callers also have the machines that were handed out to them. -/
inductive Place where
  | outside (own : List ℕ)
  /-- `acquire` has taken an idle machine, and keeps the lock. -/
  | acquired (own : List ℕ) (vm : ℕ)
  /-- `acquire` has found none, and boots one. -/
  | booting (own : List ℕ)
  | bootedVm (own : List ℕ) (vm : ℕ)
  /-- `release` has put a machine back, and keeps the lock. -/
  | released (own : List ℕ)
  /-- A machine is being destroyed: `release` has found the pool full, or the caller wants it so. -/
  | destroying (own : List ℕ) (vm : ℕ)
  | sleeping (minIdle : ℕ)
  /-- It destroys machines that it has removed. -/
  | evicting (minIdle : ℕ) (expired : List ℕ)
  | scaling (minIdle : ℕ)
  | counting (minIdle : ℕ)
  /-- It boots so many machines. -/
  | filling (minIdle needed : ℕ)
  /-- It has booted one, and so many are still to come. -/
  | adding (minIdle needed vm : ℕ)
  | added (minIdle needed : ℕ)
  | stopped
  deriving DecidableEq, Repr

/-- The machines in the hands of a task. -/
def Place.held : Place → List ℕ
  | .outside own | .booting own | .released own => own
  | .acquired own vm | .bootedVm own vm | .destroying own vm => vm :: own
  | .evicting _ expired => expired
  | .adding _ _ vm => [vm]
  | _ => []

/-- How many machines a task is going to add without another look at the pool. -/
def Place.toAdd : Place → ℕ
  | .filling _ needed | .added _ needed => needed
  | .adding _ needed _ => needed + 1
  | _ => 0

/-- The machine was idle for too long. -/
def expired (config : PoolConfig) (now : ℕ) (warm : WarmVm) : Bool :=
  config.idleTtlSecs.toNat * 1000000000 < now - warm.createdAt

/-- The steps of the tasks. -/
inductive Step (config : PoolConfig) : Task → Pool → Place → Pool → Place → Prop where
  /-- `acquire` takes the idle machine that was added last. -/
  | acquire {i pool own rest warm} (free : pool.locked = false) (idle : pool.idle = rest ++ [warm]) :
      Step config (.caller i) pool (.outside own) { pool with idle := rest, locked := true } (.acquired own warm.vm)
  | acquireReturn {i pool own vm} :
      Step config (.caller i) pool (.acquired own vm) { pool with locked := false } (.outside (vm :: own))
  | acquireMiss {i pool own} (free : pool.locked = false) (idle : pool.idle = []) :
      Step config (.caller i) pool (.outside own) pool (.booting own)
  | bootOk {i pool own} : Step config (.caller i) pool (.booting own) pool.boot (.bootedVm own pool.booted)
  | bootFails {i pool own} : Step config (.caller i) pool (.booting own) pool (.outside own)
  | bootReturn {i pool own vm} : Step config (.caller i) pool (.bootedVm own vm) pool (.outside (vm :: own))
  /-- `release` puts a machine back. -/
  | release {i pool own vm now} (free : pool.locked = false) (has : vm ∈ own)
      (room : pool.idle.length < config.maxSize) :
      Step config (.caller i) pool (.outside own) { pool with idle := pool.idle ++ [⟨vm, now⟩], locked := true }
        (.released (own.erase vm))
  | releaseReturn {i pool own} :
      Step config (.caller i) pool (.released own) { pool with locked := false } (.outside own)
  | releaseFull {i pool own vm} (free : pool.locked = false) (has : vm ∈ own)
      (full : config.maxSize ≤ pool.idle.length) :
      Step config (.caller i) pool (.outside own) pool (.destroying (own.erase vm) vm)
  /-- A caller destroys a machine instead of giving it back. -/
  | callerDestroys {i pool own vm} (has : vm ∈ own) :
      Step config (.caller i) pool (.outside own) pool (.destroying (own.erase vm) vm)
  | destroyOk {i pool own vm} : Step config (.caller i) pool (.destroying own vm) (pool.destroy vm) (.outside own)
  | destroyFails {i pool own vm} : Step config (.caller i) pool (.destroying own vm) pool (.outside own)
  /-- The background task removes the machines that were idle for too long. -/
  | evict {pool minIdle now} (ttl : 0 < config.idleTtlSecs) (free : pool.locked = false) :
      Step config .maintenance pool (.sleeping minIdle)
        { pool with idle := pool.idle.filter fun warm => !expired config now warm }
        (.evicting minIdle ((pool.idle.filter (expired config now)).map WarmVm.vm))
  | noEvict {pool minIdle} (ttl : config.idleTtlSecs = 0) :
      Step config .maintenance pool (.sleeping minIdle) pool (.scaling minIdle)
  | evictOk {pool minIdle vm expired} :
      Step config .maintenance pool (.evicting minIdle (vm :: expired)) (pool.destroy vm) (.evicting minIdle expired)
  /-- Destroying one of them failed, which is ignored. -/
  | evictFails {pool minIdle vm expired} :
      Step config .maintenance pool (.evicting minIdle (vm :: expired)) pool (.evicting minIdle expired)
  | evicted {pool minIdle} : Step config .maintenance pool (.evicting minIdle []) pool (.scaling minIdle)
  | scale {pool minIdle scaler pressure} (scaled : pool.scaler = some scaler) :
      Step config .maintenance pool (.scaling minIdle) { pool with scaler := some (scaler.evaluate pressure) }
        (.counting (scaler.evaluate pressure).currentMinIdle)
  | noScale {pool minIdle} (scaled : pool.scaler = none) :
      Step config .maintenance pool (.scaling minIdle) pool (.counting minIdle)
  | few {pool minIdle} (free : pool.locked = false) (few : pool.idle.length < minIdle) :
      Step config .maintenance pool (.counting minIdle) pool (.filling minIdle (minIdle - pool.idle.length))
  | enough {pool minIdle} (free : pool.locked = false) (enough : minIdle ≤ pool.idle.length) :
      Step config .maintenance pool (.counting minIdle) pool (.sleeping minIdle)
  /-- The background task has booted a machine. -/
  | fillBoot {pool minIdle needed} :
      Step config .maintenance pool (.filling minIdle (needed + 1)) pool.boot (.adding minIdle needed pool.booted)
  | fillFails {pool minIdle needed} :
      Step config .maintenance pool (.filling minIdle (needed + 1)) pool (.sleeping minIdle)
  /-- It adds the machine, however many there are now. -/
  | add {pool minIdle needed vm now} (free : pool.locked = false) :
      Step config .maintenance pool (.adding minIdle needed vm)
        { pool with idle := pool.idle ++ [⟨vm, now⟩], locked := true } (.added minIdle needed)
  | addReturn {pool minIdle needed} :
      Step config .maintenance pool (.added minIdle needed) { pool with locked := false } (.filling minIdle needed)
  | filled {pool minIdle} : Step config .maintenance pool (.filling minIdle 0) pool (.sleeping minIdle)
  | shutdown {pool minIdle} : Step config .maintenance pool (.sleeping minIdle) pool .stopped

/-- No caller has a machine. -/
def initial (config : PoolConfig) (pool : Pool) : State Task Pool Place :=
  ⟨pool, fun
    | .maintenance => .sleeping config.minIdle
    | .caller _ => .outside []⟩

/-! ### Where the machines are -/

/-- Who has machines. -/
inductive Owner where
  | idle
  | task (t : Task)
  | destroyed
  deriving DecidableEq, Repr

/-- The machines that someone has. -/
def holdings (s : State Task Pool Place) : Owner → List ℕ
  | .idle => s.shared.idle.map WarmVm.vm
  | .task t => (s.place t).held
  | .destroyed => s.shared.destroyed

/-- Every machine that was booted is in exactly one place. -/
abbrev InOnePlace (s : State Task Pool Place) : Prop := Kept (holdings s) fun vm => vm < s.shared.booted

section Moves

variable {s : State Task Pool Place} {p : Task} {pool : Pool} {place : Place} {there : ℕ → Prop}

theorem holdings_other {o} (htask : o ≠ .task p) (hidle : o = .idle → pool.idle = s.shared.idle)
    (hdestroyed : o = .destroyed → pool.destroyed = s.shared.destroyed) :
    holdings (s.move p pool place) o = holdings s o := by
  cases o with
  | idle => simp [holdings, hidle]
  | task t =>
    have hne : t ≠ p := fun heq => htask (by rw [heq])
    simp [holdings, move_place_ne _ hne]
  | destroyed => exact hdestroyed rfl

variable (h : Kept (holdings s) there)

include h

theorem kept_take (vms : List ℕ) (hidle : (vms ++ pool.idle.map WarmVm.vm).Perm (s.shared.idle.map WarmVm.vm))
    (hheld : place.held.Perm (vms ++ (s.place p).held)) (hdestroyed : pool.destroyed = s.shared.destroyed) :
    Kept (holdings (s.move p pool place)) there := by
  have hne : Owner.idle ≠ .task p := nofun
  refine h.move vms hne hidle ?_ fun o hidle htask =>
    holdings_other htask (absurd · hidle) fun _ => hdestroyed
  simpa only [holdings, move_place_self] using hheld

theorem kept_give (vms : List ℕ) (hheld : (vms ++ place.held).Perm (s.place p).held)
    (hidle : (pool.idle.map WarmVm.vm).Perm (vms ++ s.shared.idle.map WarmVm.vm))
    (hdestroyed : pool.destroyed = s.shared.destroyed) : Kept (holdings (s.move p pool place)) there := by
  have hne : Owner.task p ≠ .idle := nofun
  refine h.move vms hne ?_ hidle fun o htask hidle =>
    holdings_other htask (absurd · hidle) fun _ => hdestroyed
  simpa only [holdings, move_place_self] using hheld

theorem kept_destroy {vm} (hheld : (vm :: place.held).Perm (s.place p).held)
    (hidle : pool.idle = s.shared.idle) (hdestroyed : pool.destroyed = vm :: s.shared.destroyed) :
    Kept (holdings (s.move p pool place)) there := by
  have hne : Owner.task p ≠ .destroyed := nofun
  refine h.move [vm] hne ?_ ?_ fun o htask hne => holdings_other htask (fun _ => hidle) (absurd · hne)
  · simpa only [holdings, move_place_self, singleton_append] using hheld
  · simp [holdings, hdestroyed]

omit h in
theorem inOnePlace_boot (h : InOnePlace s) (hheld : place.held.Perm (s.shared.booted :: (s.place p).held)) :
    InOnePlace (s.move p s.shared.boot place) := by
  refine Kept.add h (.task p) (Nat.lt_irrefl s.shared.booted) ?_ ?_ fun o htask =>
    holdings_other htask (fun _ => rfl) fun _ => rfl
  · simp only [move_shared, Pool.boot]
    omega
  · simpa only [holdings, move_place_self] using hheld

/-- A task takes a step without a machine. -/
theorem kept_same (hheld : place.held.Perm (s.place p).held)
    (hidle : pool.idle = s.shared.idle) (hdestroyed : pool.destroyed = s.shared.destroyed) :
    Kept (holdings (s.move p pool place)) there :=
  kept_take h [] (by rw [hidle]; rfl) hheld hdestroyed

omit h

end Moves

/-! ### Whole runs -/

/-- The condition on a step: no destroying fails, and a machine is put back only while there is room for it besides the
machines that the background task is going to add. -/
def Careful (config : PoolConfig) (s : State Task Pool Place) (p : Task) (pool : Pool) (_ : Place) : Prop :=
  match s.place p with
  | .destroying _ vm => vm ∈ pool.destroyed
  | .evicting _ (vm :: _) => vm ∈ pool.destroyed
  | .outside _ =>
    s.shared.idle.length < pool.idle.length → s.shared.idle.length + (s.place .maintenance).toAdd < config.maxSize
  | _ => True

variable {config : PoolConfig} {destroys : ℕ → Bool} {s : State Task Pool Place} {pool : Pool} {place : Place}

theorem inOnePlace_step {p} (h : InOnePlace s) (hstep : Step config p s.shared (s.place p) pool place)
    (hcareful : Careful config s p pool place) : InOnePlace (s.move p pool place) := by
  -- a machine in the hands of a task has not been destroyed
  have hnot : ∀ vm, vm ∈ (s.place p).held → vm ∉ s.shared.destroyed := by
    intro vm hheld hdestroyed
    have hsame : Owner.task p = .destroyed := h.apart hheld hdestroyed
    cases hsame
  generalize hplace : s.place p = before at hstep
  cases hstep with
  | @acquire i _ own rest warm free hidle =>
    refine kept_take h [warm.vm] ?_ ?_ rfl
    · rw [hidle, map_append]
      exact perm_append_comm
    · rw [hplace]
      rfl
  | acquireReturn | acquireMiss | bootFails | bootReturn | releaseReturn
  | noEvict | evicted | scale | noScale | few | enough | fillFails | addReturn | filled | shutdown =>
    exact kept_same h (by rw [hplace]; rfl) rfl rfl
  | bootOk | fillBoot =>
    exact inOnePlace_boot h (by rw [hplace]; rfl)
  | @release i _ own vm now free has room =>
    refine kept_give h [vm] ?_ ?_ rfl
    · rw [hplace]
      exact (perm_cons_erase has).symm
    · rw [map_append]
      exact perm_append_comm
  | releaseFull free has full | callerDestroys has =>
    exact kept_same h (by rw [hplace]; exact (perm_cons_erase has).symm) rfl rfl
  | destroyOk | evictOk =>
    exact kept_destroy h (by rw [hplace]; rfl) rfl rfl
  | destroyFails | evictFails =>
    rw [Careful, hplace] at hcareful
    exact absurd hcareful (hnot _ (by rw [hplace]; exact mem_cons_self))
  | @evict _ minIdle now ttl free =>
    refine kept_take h ((s.shared.idle.filter (expired config now)).map WarmVm.vm) ?_ ?_ rfl
    · rw [← map_append]
      exact (filter_append_perm _ _).map _
    · rw [hplace]
      simp [Place.held]
  | @add _ minIdle needed vm now free =>
    refine kept_give h [vm] ?_ ?_ rfl
    · rw [hplace]
      rfl
    · rw [map_append]
      exact perm_append_comm

/-- How many machines a task wants to be idle. -/
def Place.minIdle : Place → ℕ
  | .sleeping minIdle | .evicting minIdle _ | .scaling minIdle | .counting minIdle | .filling minIdle _
  | .adding minIdle _ _ | .added minIdle _ => minIdle
  | _ => 0

/-- There is room for what the background task is going to add, and no more are wanted than there is room for. -/
structure Bounded (config : PoolConfig) (s : State Task Pool Place) : Prop where
  idle : s.shared.idle.length + (s.place .maintenance).toAdd ≤ config.maxSize
  /-- The background task does not want too many. -/
  minIdle : (s.place .maintenance).minIdle ≤ config.maxSize
  scaler : ∀ scaler, s.shared.scaler = some scaler →
    scaler.currentMinIdle ≤ config.maxSize ∧ scaler.maxMinIdle ≤ config.maxSize

theorem evaluate_le {scaler : PoolScaler} {bound : ℕ} (h : scaler.currentMinIdle ≤ bound ∧ scaler.maxMinIdle ≤ bound)
    (pressure : Pressure) :
    (scaler.evaluate pressure).currentMinIdle ≤ bound ∧ (scaler.evaluate pressure).maxMinIdle ≤ bound := by
  obtain ⟨hcurrent, hmax⟩ := h
  cases pressure with
  | none => exact ⟨hcurrent, hmax⟩
  | high =>
    simp only [PoolScaler.evaluate]
    split_ifs
    · exact ⟨Nat.le_trans (Nat.min_le_right _ _) hmax, hmax⟩
    · exact ⟨hcurrent, hmax⟩
  | low =>
    simp only [PoolScaler.evaluate]
    split_ifs with hless
    · exact ⟨Nat.le_trans (Nat.le_of_lt hless) hcurrent, hmax⟩
    · exact ⟨hcurrent, hmax⟩

theorem Bounded.caller (h : Bounded config s) {i}
    (hidle : pool.idle.length + (s.place .maintenance).toAdd ≤ config.maxSize)
    (hscaler : pool.scaler = s.shared.scaler) :
    Bounded config (s.move (.caller i) pool place) := by
  refine ⟨?_, ?_, ?_⟩
  · exact hidle
  · exact h.minIdle
  · rw [move_shared, hscaler]
    exact h.scaler

theorem Bounded.maintenance (h : Bounded config s) (hidle : pool.idle.length + place.toAdd ≤ config.maxSize)
    (hmin : place.minIdle ≤ config.maxSize) (hscaler : pool.scaler = s.shared.scaler) :
    Bounded config (s.move .maintenance pool place) := by
  refine ⟨?_, ?_, ?_⟩
  · exact hidle
  · exact hmin
  · rw [move_shared, hscaler]
    exact h.scaler

theorem bounded_step {p : Task} (h : Bounded config s) (hstep : Step config p s.shared (s.place p) pool place)
    (hcareful : Careful config s p pool place) : Bounded config (s.move p pool place) := by
  have hidle := h.idle
  have hmin := h.minIdle
  generalize hplace : s.place p = before at hstep
  cases hstep with
  | @acquire i _ own rest warm free hpopped =>
    refine h.caller ?_ rfl
    rw [hpopped, length_append] at hidle
    simp only
    omega
  | acquireReturn | acquireMiss | bootOk | bootFails | bootReturn | releaseReturn | releaseFull | callerDestroys
  | destroyOk | destroyFails =>
    exact h.caller hidle rfl
  | @release i _ own vm now free has room =>
    refine h.caller ?_ rfl
    rw [Careful, hplace] at hcareful
    simp only [length_append, length_singleton] at hcareful ⊢
    omega
  | @evict _ minIdle now ttl free =>
    rw [hplace] at hidle hmin
    refine h.maintenance ?_ hmin rfl
    have hle := length_filter_le (fun warm => !expired config now warm) s.shared.idle
    simp only [Place.toAdd] at hidle ⊢
    omega
  | noEvict | evictOk | evictFails | evicted | noScale | enough | fillBoot | addReturn | filled =>
    rw [hplace] at hidle hmin
    exact h.maintenance hidle hmin rfl
  | shutdown =>
    rw [hplace] at hidle
    exact h.maintenance hidle (Nat.zero_le _) rfl
  | @scale _ minIdle scaler pressure scaled =>
    rw [hplace] at hidle
    have hscaler := evaluate_le (h.scaler scaler scaled) pressure
    refine ⟨?_, ?_, ?_⟩
    · exact hidle
    · exact hscaler.1
    · intro scaler' heq
      cases heq
      exact hscaler
  | @few _ minIdle free hfew =>
    rw [hplace] at hmin
    refine h.maintenance ?_ hmin rfl
    simp only [Place.toAdd, Place.minIdle] at hmin ⊢
    omega
  | @fillFails _ minIdle needed =>
    rw [hplace] at hidle hmin
    exact h.maintenance (by simp only [Place.toAdd] at hidle ⊢; omega) hmin rfl
  | @add _ minIdle needed vm now free =>
    rw [hplace] at hidle hmin
    refine h.maintenance ?_ hmin rfl
    simp only [Place.toAdd, length_append, length_singleton] at hidle ⊢
    omega

theorem inOnePlace_fillBoot (now : ℕ) (h : InOnePlace (initial config pool)) :
    InOnePlace (initial config { pool.boot with idle := pool.idle ++ [⟨pool.booted, now⟩] }) := by
  refine Kept.add h .idle (Nat.lt_irrefl pool.booted) ?_ ?_ ?_
  · simp only [initial, Pool.boot]
    omega
  · simp only [holdings, initial, map_append]
    exact perm_append_comm
  · intro o hidle
    cases o with
    | idle => exact absurd rfl hidle
    | task => rfl
    | destroyed => rfl

variable (hdestroys : ∀ vm, destroys vm = true)

include hdestroys

theorem inOnePlace_removeIdleVms {boxIds}
    (h : InOnePlace (initial config pool)) : InOnePlace (initial config (removeIdleVms pool boxIds destroys)) := by
  have hne : Owner.idle ≠ .destroyed := nofun
  have hall : ∀ vms : List ℕ, vms.filter destroys = vms := fun vms => filter_eq_self.mpr fun vm _ => hdestroys vm
  refine h.move ((pool.idle.filter fun warm => warm.vm ∈ boxIds).map WarmVm.vm) hne ?_ ?_ ?_
  · simp only [holdings, initial, removeIdleVms, ← map_append]
    refine List.Perm.map _ ?_
    simpa using filter_append_perm (fun warm : WarmVm => decide (warm.vm ∈ boxIds)) pool.idle
  · simp only [removeIdleVms, hall]
    rfl
  · intro o hidle hdestroyed
    cases o with
    | idle => exact absurd rfl hidle
    | task => rfl
    | destroyed => exact absurd rfl hdestroyed

theorem fillLoop_spec (boots : ℕ → Bool) (now : ℕ → ℕ) (needed : ℕ)
    (addedIds : List ℕ) (h : InOnePlace (initial config pool)) :
    InOnePlace (initial config (fillLoop boots destroys now needed addedIds pool)) ∧
      (fillLoop boots destroys now needed addedIds pool).idle.length ≤ pool.idle.length + needed ∧
      (fillLoop boots destroys now needed addedIds pool).scaler = pool.scaler := by
  induction needed generalizing addedIds pool with
  | zero => exact ⟨h, Nat.le_refl _, rfl⟩
  | succ _ ih =>
    rw [fillLoop]
    split_ifs
    · obtain ⟨hone, hlen, hscaler⟩ := ih (addedIds ++ [pool.booted]) (inOnePlace_fillBoot (now pool.booted) h)
      rw [length_append, length_singleton, Nat.add_assoc, Nat.add_comm 1] at hlen
      exact ⟨hone, hlen, hscaler⟩
    · refine ⟨inOnePlace_removeIdleVms hdestroys h, ?_, rfl⟩
      exact Nat.le_trans (length_filter_le _ _) (Nat.le_add_right _ _)

omit hdestroys in
/-- Before a machine is booted, none is anywhere. -/
theorem inOnePlace_empty (config) (scaler : Option PoolScaler) :
    InOnePlace (initial config ⟨[], false, scaler, 0, []⟩) := by
  have hnone : ∀ o, holdings (initial config ⟨[], false, scaler, 0, []⟩) o = [] := by
    intro o
    cases o with
    | idle => rfl
    | task t => cases t <;> rfl
    | destroyed => rfl
  refine ⟨fun o => ?_, fun {a o o'} ha => ?_, fun {a o} ha => ?_, fun ha => absurd ha (Nat.not_lt_zero _)⟩
  · rw [hnone]
    exact nodup_nil
  · rw [hnone] at ha
    cases ha
  · rw [hnone] at ha
    cases ha

/-- **A pool that is started is within its size, and has each of its machines once.** -/
theorem start_spec {boots now} (h : start config boots destroys now = .ok pool) :
    InOnePlace (initial config pool) ∧ Bounded config (initial config pool) := by
  unfold start at h
  split at h
  · cases h
  split at h
  · cases h
  next hless =>
    cases h
    have hle := Nat.le_of_not_lt hless
    obtain ⟨hone, hlen, hscaler⟩ :=
      fillLoop_spec hdestroys boots now (config.minIdle - 0) [] (inOnePlace_empty config _)
    refine ⟨hone, ?_, hle, ?_⟩
    · exact Nat.le_trans hlen (by simpa using hle)
    · intro scaler hsome
      replace hsome := hscaler.symm.trans hsome
      split_ifs at hsome with henabled
      cases hsome
      refine ⟨hle, ?_⟩
      unfold PoolScaler.new
      split_ifs
      · exact Nat.min_le_right _ _
      · exact Nat.le_refl _

omit hdestroys

/-- **The pool is never larger than it may be, and every machine that was booted is in exactly one place**, if a machine
is given back only while there is room for it besides the machines that the background task is going to add, and no
destroying fails. -/
theorem pool_bounded {config : PoolConfig} {boots destroys : ℕ → Bool} {now : ℕ → ℕ} {pool : Pool}
    {s : State Task Pool Place} (hstart : start config boots destroys now = .ok pool)
    (hdestroys : ∀ vm, destroys vm = true) (h : Run (Step config) (Careful config) (initial config pool) s) :
    s.shared.idle.length ≤ config.maxSize ∧ (∀ vm < s.shared.booted, ∃! o, vm ∈ holdings s o) ∧
      ∀ o, (holdings s o).Nodup := by
  obtain ⟨hone, hbounded⟩ : InOnePlace s ∧ Bounded config s := by
    refine Run.induct (P := fun s => InOnePlace s ∧ Bounded config s) h (start_spec hdestroys hstart) ?_
    intro s p pool place hknown hstep hcareful
    exact ⟨inOnePlace_step hknown.1 hstep hcareful, bounded_step hknown.2 hstep hcareful⟩
  refine ⟨?_, fun vm hvm => hone.existsUnique hvm, hone.nodup⟩
  exact Nat.le_trans (Nat.le_add_right _ _) hbounded.idle

/-- Room for one machine. -/
def oneMachine : PoolConfig := { minIdle := 1, maxSize := 1 }

/-- One machine is idle. -/
def onePool : Pool := ⟨[⟨0, 0⟩], false, none, 1, []⟩

/-- A caller has it. -/
def handedOut : State Task Pool Place :=
  ((initial oneMachine onePool).move (.caller 0) ⟨[], true, none, 1, []⟩ (.acquired [] 0)).move (.caller 0)
    ⟨[], false, none, 1, []⟩ (.outside [0])

/-- The same with room for another machine. -/
def twoMachines : PoolConfig := { oneMachine with maxSize := 2 }

/-- A machine is given back while the background task boots another in its place: there is room for both. -/
theorem given_back : ∃ s, Run (Step twoMachines) (Careful twoMachines) (initial twoMachines onePool) s ∧
    s.shared.idle.map WarmVm.vm = [0, 1] ∧ s.shared.idle.length ≤ twoMachines.maxSize ∧
      ∀ vm < 2, ∃! o, vm ∈ holdings s o := by
  have hstart : start twoMachines (fun _ => true) (fun _ => true) (fun _ => 0) = .ok onePool := rfl
  have hidle : onePool.idle = [] ++ [⟨0, 0⟩] := rfl
  have hacquire : Run (Step twoMachines) (Careful twoMachines) (initial twoMachines onePool) _ :=
    .step (.caller 0) .start (.acquire rfl hidle) (by exact fun hmore => absurd hmore (by decide))
  have hout := hacquire.step (.caller 0) .acquireReturn (by trivial)
  have hevict := hout.step .maintenance (@Step.evict twoMachines _ 1 0 (by decide) rfl) (by trivial)
  have hscale := (hevict.step .maintenance .evicted (by trivial)).step .maintenance (.noScale rfl) (by trivial)
  have hboot := (hscale.step .maintenance (.few rfl (by decide)) (by trivial)).step .maintenance .fillBoot (by trivial)
  have hrelease := hboot.step (.caller 0)
    (@Step.release twoMachines 0 _ [0] 0 7 rfl mem_cons_self (by decide)) (by exact fun _ => (by decide : 0 + 1 < 2))
  have hreturn := hrelease.step (.caller 0) .releaseReturn (by trivial)
  have hrun := hreturn.step .maintenance (@Step.add twoMachines _ 1 0 1 8 rfl) (by trivial)
  obtain ⟨hbound, hone, -⟩ := pool_bounded hstart (fun _ => rfl) hrun
  exact ⟨_, hrun, rfl, hbound, hone⟩

/-- A machine is given back while another is booted in its place, and both are idle; a machine that was idle for too
long cannot be destroyed, and is forgotten. -/
theorem overfull_and_leaked : start oneMachine (fun _ => true) (fun _ => true) (fun _ => 0) = .ok onePool ∧
    (∃ s, Run (Step oneMachine) (fun _ _ _ _ => True) (initial oneMachine onePool) s ∧
      oneMachine.maxSize < s.shared.idle.length) ∧
    ∃ s, Run (Step oneMachine) (fun _ _ _ _ => True) (initial oneMachine onePool) s ∧
      ∃ vm < s.shared.booted, ∀ o, vm ∉ holdings s o := by
  refine ⟨rfl, ?_, ?_⟩
  · have hidle : onePool.idle = [] ++ [⟨0, 0⟩] := rfl
    have hout : Run (Step oneMachine) (fun _ _ _ _ => True) (initial oneMachine onePool) handedOut :=
      Run.step (Task.caller 0) (Run.step (Task.caller 0) .start (.acquire rfl hidle) trivial) .acquireReturn trivial
    -- the background task finds no idle machine, and decides to boot one
    have hevict := hout.step .maintenance (@Step.evict oneMachine _ 1 0 (by decide) rfl) trivial
    have hscale := (hevict.step .maintenance .evicted trivial).step .maintenance (.noScale rfl) trivial
    have hboot := (hscale.step .maintenance (.few rfl (by decide)) trivial).step .maintenance .fillBoot trivial
    -- the machine is given back before the new one is added
    have hrelease := hboot.step (.caller 0)
      (@Step.release oneMachine 0 _ [0] 0 7 rfl mem_cons_self (by decide)) trivial
    have hreturn := hrelease.step (.caller 0) .releaseReturn trivial
    exact ⟨_, hreturn.step .maintenance (@Step.add oneMachine _ 1 0 1 8 rfl) trivial, by decide⟩
  · have hevict : Run (Step oneMachine) (fun _ _ _ _ => True) (initial oneMachine onePool) _ :=
      .step .maintenance .start (@Step.evict oneMachine onePool 1 400000000000 (by decide) rfl) trivial
    refine ⟨_, hevict.step .maintenance .evictFails trivial, 0, by decide, ?_⟩
    intro o
    cases o with
    | idle => decide
    | task t =>
      cases t with
      | maintenance => decide
      | caller => exact not_mem_nil
    | destroyed => decide

end A3sBox.WarmPool
