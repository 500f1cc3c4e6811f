import A3sBox.Core.Error
import A3sBox.Library.Totals

/-!
# The scale manager

`runtime/src/scale/manager.rs`: the instances of every service, how many of them it is to have, and the requests that
change that number. All together are to have at most `maxInstances`.

## The model

Numbers are `UInt32`: a count is truncated, and a sum that does not fit panics or wraps around, depending on how the
program was compiled. Time is passed in. In a `Run` an instance is registered only while `instancesToCreate` asks for
one.

`total_active_le`: when the active instances of all services are at most `maxInstances`. `accepted_twice` is a run
with two requests before the first instance.
-/

namespace A3sBox.Scale

open Totals List

/-! ### Instances -/

/-- The states of an instance. -/
inductive InstanceState where
  | creating
  | booting
  | ready
  | busy
  | draining
  | stopping
  | stopped
  | failed
  deriving DecidableEq, Repr

/-- It counts as active. -/
def InstanceState.active : InstanceState → Bool
  | .stopped | .failed => false
  | _ => true

/-- The health of an instance; the share of the CPU is the bits of an `f32`. -/
structure InstanceHealth where
  cpuPercent : Option UInt32
  memoryBytes : Option UInt64
  inflightRequests : UInt32
  healthy : Bool
  deriving DecidableEq, Repr

/-- Nothing known, and healthy. -/
def InstanceHealth.default : InstanceHealth := ⟨none, none, 0, true⟩

/-- An instance. -/
structure TrackedInstance where
  id : String
  state : InstanceState
  createdAt : ℕ
  readyAt : Option ℕ
  endpoint : Option String
  health : InstanceHealth
  deriving DecidableEq, Repr

/-- The instances of a service. -/
structure ServiceInstances where
  targetReplicas : UInt32
  instances : List TrackedInstance
  deriving DecidableEq, Repr

/-- No instances. -/
def ServiceInstances.new : ServiceInstances := ⟨0, []⟩

/-- A change of state. -/
structure InstanceEvent where
  instanceId : String
  service : String
  fromState : InstanceState
  toState : InstanceState
  timestamp : ℕ
  message : String
  deriving DecidableEq, Repr

/-- The manager. -/
structure ScaleManager where
  maxInstances : UInt32
  services : AList fun _ : String => ServiceInstances
  events : List InstanceEvent
  maxEvents : ℕ

/-- A manager without services. -/
def ScaleManager.new (maxInstances : UInt32) : ScaleManager := ⟨maxInstances, ∅, [], 1000⟩

section

variable (manager : ScaleManager)

/-- The instances of a service. -/
def ScaleManager.service (service : String) : ServiceInstances :=
  (manager.services.lookup service).getD .new

/-! ### Requests -/

/-- A request. -/
structure ScaleRequest where
  service : String
  replicas : UInt32
  requestId : String
  deriving DecidableEq, Repr

/-- What is told about an instance. -/
structure InstanceInfo where
  id : String
  state : InstanceState
  service : String
  createdAt : ℕ
  readyAt : Option ℕ
  endpoint : Option String
  health : InstanceHealth
  deriving DecidableEq, Repr

/-- The answer to a request. -/
structure ScaleResponse where
  requestId : String
  accepted : Bool
  currentReplicas : UInt32
  targetReplicas : UInt32
  instances : List InstanceInfo
  error : Option String
  deriving DecidableEq, Repr

/-- `saturating_sub` of `u32`. -/
def saturatingSub (a b : UInt32) : UInt32 := if b ≤ a then a - b else 0

/-- The sum of `u32` numbers. -/
def sumU32 (profile : Profile) : List UInt32 → Except (Fault String) UInt32
  | [] => .ok 0
  | n :: rest => do
    let sum ← sumU32 profile rest
    if profile = .debug ∧ n.toNat + sum.toNat ≥ 2 ^ 32 then .error .panic else .ok (n + sum)

/-- The number of elements, as a `u32`. -/
def countU32 {α : Type} (l : List α) : UInt32 := UInt32.ofNat l.length

/-- Process a request: as many instances as wanted, but not more than the instances of the other services leave. -/
def ScaleManager.processRequest (profile : Profile) (manager : ScaleManager) (request : ScaleRequest) :
    ScaleManager × Except (Fault String) ScaleResponse :=
  let service := request.service
  let desired := request.replicas
  match sumU32 profile ((others manager.services service).map fun svc => countU32 svc.instances) with
  | .error fault => (manager, .error fault)
  | .ok totalOther =>
    let svc := manager.service service
    let current := countU32 svc.instances
    let available := saturatingSub manager.maxInstances totalOther
    let target := min desired available
    let accepted := target = desired
    let maxTotal := manager.maxInstances
    let error :=
      if accepted then none
      else some s!"Capped to {target} instances (max {maxTotal} total, {totalOther} used by other services)"
    let instances := svc.instances.map fun i =>
      ⟨i.id, i.state, service, i.createdAt, i.readyAt, i.endpoint, i.health⟩
    ({ manager with services := manager.services.insert service { svc with targetReplicas := target } },
      .ok ⟨request.requestId, accepted, current, target, instances, error⟩)

/-- Register an instance, unless there is one with its name. -/
def ScaleManager.registerInstance (now : ℕ) (service instanceId : String) (endpoint : Option String) : ScaleManager :=
  let svc := manager.service service
  let svc :=
    if svc.instances.any fun i => i.id == instanceId then svc
    else { svc with
      instances := svc.instances ++ [⟨instanceId, .creating, now, none, endpoint, InstanceHealth.default⟩] }
  { manager with services := manager.services.insert service svc }

/-- How many instances of a service are still to be created. -/
def ScaleManager.instancesToCreate (service : String) : UInt32 :=
  match manager.services.lookup service with
  | some svc => saturatingSub svc.targetReplicas (countU32 (svc.instances.filter fun i => i.state.active))
  | none => 0

/-! ### Changes of instances -/

/-- Change the first element that meets a test. -/
def modifyFirst {α : Type} (p : α → Bool) (f : α → α) : List α → List α
  | [] => []
  | a :: rest => if p a then f a :: rest else a :: modifyFirst p f rest

variable (service instanceId : String)

/-- An instance by its id. -/
def ScaleManager.find : Option TrackedInstance :=
  (manager.services.lookup service).bind fun svc => svc.instances.find? fun i => i.id == instanceId

/-- Change the instances of a service. -/
def ScaleManager.changeService (service : String)
    (change : List TrackedInstance → List TrackedInstance) : ScaleManager :=
  match manager.services.lookup service with
  | none => manager
  | some svc =>
    { manager with services := manager.services.insert service { svc with instances := change svc.instances } }

/-- Change one instance. -/
def ScaleManager.changeInstance (change : TrackedInstance → TrackedInstance) : ScaleManager :=
  manager.changeService service (modifyFirst (fun i => i.id == instanceId) change)

/-- Add an event; the oldest go when there are too many. -/
def ScaleManager.pushEvent (event : InstanceEvent) : ScaleManager :=
  let events := manager.events ++ [event]
  { manager with events := events.drop (events.length - manager.maxEvents) }

/-- An instance has a new state. -/
def ScaleManager.updateState (now : ℕ) (service instanceId : String)
    (newState : InstanceState) : ScaleManager × Option InstanceEvent :=
  match manager.find service instanceId with
  | none => (manager, none)
  | some i =>
    if i.state = newState then (manager, none)
    else
      let event := ⟨instanceId, service, i.state, newState, now, ""⟩
      let change (i : TrackedInstance) : TrackedInstance :=
        { i with
          state := newState
          readyAt := if newState = .ready ∧ i.readyAt = none then some now else i.readyAt }
      ((manager.changeInstance service instanceId change).pushEvent event, some event)

/-- An instance has a new health. -/
def ScaleManager.updateHealth (health : InstanceHealth) :
    ScaleManager := manager.changeInstance service instanceId fun i => { i with health }

/-- Set where an instance is reached. -/
def ScaleManager.updateEndpoint (service instanceId endpoint : String) : ScaleManager :=
  manager.changeInstance service instanceId fun i => { i with endpoint := some endpoint }

/-- Remove an instance. -/
def ScaleManager.deregisterInstance : ScaleManager × Bool :=
  let manager' := manager.changeService service fun instances => instances.filter fun i => i.id != instanceId
  (manager', decide ((manager'.service service).instances.length < (manager.service service).instances.length))

/-- Move an instance on in its drain: to `next`, if it is in one of the states `before`. -/
def ScaleManager.drainStep (now : ℕ) (service instanceId : String)
    (before : List InstanceState) (next : InstanceState) (message : String) : ScaleManager × Option InstanceEvent :=
  match manager.find service instanceId with
  | none => (manager, none)
  | some i =>
    if i.state ∉ before then (manager, none)
    else
      let event := ⟨instanceId, service, i.state, next, now, message⟩
      ((manager.changeInstance service instanceId fun i => { i with state := next }).pushEvent event, some event)

/-- An instance is to drain. -/
def ScaleManager.startDrain (now : ℕ) (service instanceId : String) : ScaleManager × Option InstanceEvent :=
  manager.drainStep now service instanceId [.ready, .busy] .draining "Graceful drain initiated"

/-- An instance has drained. -/
def ScaleManager.completeDrain (now : ℕ) (service instanceId : String) : ScaleManager × Option InstanceEvent :=
  manager.drainStep now service instanceId [.draining] .stopping "Drain complete, stopping instance"

/-! ### Runs -/

/-- The calls. -/
inductive Call where
  | request (request : ScaleRequest)
  | register (service instanceId : String) (endpoint : Option String)
  | updateState (service instanceId : String) (newState : InstanceState)
  | updateHealth (service instanceId : String) (health : InstanceHealth)
  | updateEndpoint (service instanceId endpoint : String)
  | deregister (service instanceId : String)
  | startDrain (service instanceId : String)
  | completeDrain (service instanceId : String)
  deriving DecidableEq, Repr

/-- The effect of a call. -/
def ScaleManager.call (profile : Profile) (manager : ScaleManager) (now : ℕ) : Call → ScaleManager
  | .request request => (manager.processRequest profile request).1
  | .register service instanceId endpoint => manager.registerInstance now service instanceId endpoint
  | .updateState service instanceId newState => (manager.updateState now service instanceId newState).1
  | .updateHealth service instanceId health => manager.updateHealth service instanceId health
  | .updateEndpoint service instanceId endpoint => manager.updateEndpoint service instanceId endpoint
  | .deregister service instanceId => (manager.deregisterInstance service instanceId).1
  | .startDrain service instanceId => (manager.startDrain now service instanceId).1
  | .completeDrain service instanceId => (manager.completeDrain now service instanceId).1

/-- What the callers keep to: an instance is registered only while one is still to be created. -/
def Asked : Call → Prop
  | .register service _ _ => 0 < manager.instancesToCreate service
  | _ => True

end

instance (manager : ScaleManager) : DecidablePred (Asked manager)
  | .register service _ _ => inferInstanceAs (Decidable (0 < manager.instancesToCreate service))
  | .request _ | .updateState _ _ _ | .updateHealth _ _ _ | .updateEndpoint _ _ _ | .deregister _ _
  | .startDrain _ _ | .completeDrain _ _ => isTrue trivial

/-- The runs in which every call meets a condition. -/
inductive Run (profile : Profile) (maxInstances : UInt32) (ok : ScaleManager → Call → Prop) : ScaleManager → Prop where
  | start : Run profile maxInstances ok (.new maxInstances)
  | call {manager} (now : ℕ) (call : Call) (before : Run profile maxInstances ok manager) (asked : Asked manager call)
      (meets : ok manager call) : Run profile maxInstances ok (manager.call profile now call)

variable (svc : ServiceInstances)

/-- How many are active. -/
def activeCount : ℕ := (svc.instances.filter fun i => i.state.active).length

/-- How many are not. -/
def inactiveCount : ℕ := (svc.instances.filter fun i => !i.state.active).length

variable (manager : ScaleManager)

/-- How many are active in all. -/
def ScaleManager.totalActive : ℕ := total activeCount manager.services

/-- What a service has or may still create. -/
def reserved : ℕ := max (activeCount svc) svc.targetReplicas.toNat

/-- The condition on a call. A request comes while no other service has instances still to be created, or leaves room
for what they have or may still create; and no instance is revived. -/
def Careful : Call → Prop
  | .request request =>
    request.replicas.toNat + totalOthers reserved manager.services request.service ≤ manager.maxInstances.toNat ∨
      (∀ svc ∈ others manager.services request.service, svc.targetReplicas.toNat ≤ activeCount svc) ∧
        manager.maxInstances.toNat + totalOthers inactiveCount manager.services request.service < 2 ^ 32
  | .updateState service instanceId newState =>
    ∀ i, manager.find service instanceId = some i → newState.active = true → i.state.active = true
  | _ => True

/-! ### The bound -/

/-- What is reserved is within the limit. -/
def Inv : Prop := total reserved manager.services ≤ manager.maxInstances.toNat

variable {manager : ScaleManager} {service instanceId : String} {now : ℕ} {profile : Profile}

open ScaleManager

theorem inv_iff (service) :
    Inv manager ↔ reserved (manager.service service) + totalOthers reserved manager.services service ≤
      manager.maxInstances.toNat := by
  rw [Inv, total_eq reserved manager.services service, ScaleManager.service]
  cases manager.services.lookup service with
  | none => simp [reserved, activeCount, ServiceInstances.new]
  | some => rfl

variable {svc : ServiceInstances} {request : ScaleRequest} {maxInstances : UInt32}

/-- A service may be changed where it reserves no more than it did. -/
theorem inv_insert (hinv : Inv manager) (h : reserved svc ≤ reserved (manager.service service)) :
    Inv { manager with services := manager.services.insert service svc } := by
  have hbefore := (inv_iff service).1 hinv
  rw [Inv, total_insert]
  exact le_trans (Nat.add_le_add_right h _) hbefore

theorem service_of_lookup (h : manager.services.lookup service = some svc) : manager.service service = svc := by
  rw [ScaleManager.service, h]
  rfl

theorem inv_changeService (hinv : Inv manager) (service) {change}
    (h : ∀ svc, manager.services.lookup service = some svc →
      activeCount { svc with instances := change svc.instances } ≤ activeCount svc) :
    Inv (manager.changeService service change) := by
  rw [changeService]
  rcases hlookup : manager.services.lookup service with _ | svc
  · exact hinv
  · refine inv_insert hinv ?_
    rw [service_of_lookup hlookup]
    have hactive := h svc hlookup
    simp only [reserved]
    omega

/-- To change the first instance with a name adds no active instance, if the change revives it not. -/
theorem length_filter_modifyFirst {p f}
    (l : List TrackedInstance) (h : ∀ i, l.find? p = some i → (f i).state.active = true → i.state.active = true) :
    ((modifyFirst p f l).filter fun i => i.state.active).length ≤ (l.filter fun i => i.state.active).length := by
  induction l with
  | nil => exact le_rfl
  | cons a _ ih =>
    rw [modifyFirst]
    split_ifs with hp
    · have ha := h a (by simp [hp])
      rcases hactive : a.state.active with _ | _
      · have hf : (f a).state.active = false := by
          rcases hf : (f a).state.active with _ | _
          · rfl
          · rw [ha hf] at hactive
            cases hactive
        simp [hf, hactive]
      · rcases hf : (f a).state.active with _ | _ <;> simp [hf, hactive]
    · have hrest := ih fun i hi => h i (by simpa [hp] using hi)
      rcases hactive : a.state.active with _ | _
      · simpa [hactive] using hrest
      · simpa [hactive] using hrest

section

variable (hinv : Inv manager)
include hinv

theorem inv_changeInstance {change}
    (h : ∀ i, manager.find service instanceId = some i → (change i).state.active = true → i.state.active = true) :
    Inv (manager.changeInstance service instanceId change) := by
  refine inv_changeService hinv service fun svc hlookup => ?_
  refine length_filter_modifyFirst svc.instances fun i hi => h i ?_
  rw [find, hlookup]
  exact hi

theorem inv_pushEvent (event : InstanceEvent) : Inv (manager.pushEvent event) := hinv

theorem inv_updateState {newState} (h : Careful manager (.updateState service instanceId newState)) :
    Inv (manager.updateState now service instanceId newState).1 := by
  rw [updateState]
  rcases hfind : manager.find service instanceId with _ | i
  · exact hinv
  · simp only
    split_ifs
    · exact hinv
    · exact inv_pushEvent (inv_changeInstance hinv fun i hi hactive => h i hi hactive) _

theorem inv_drainStep {before next message} (h : ∀ state ∈ before, state.active = true) :
    Inv (manager.drainStep now service instanceId before next message).1 := by
  rw [drainStep]
  rcases hfind : manager.find service instanceId with _ | i
  · exact hinv
  · simp only
    split_ifs with hstate
    · refine inv_pushEvent (inv_changeInstance hinv fun j hj _ => ?_) _
      obtain rfl : i = j := Option.some.inj (hfind.symm.trans hj)
      exact h i.state hstate
    · exact hinv

theorem activeCount_lt (service) : activeCount (manager.service service) < 2 ^ 32 := by
  have hbefore := (inv_iff service).1 hinv
  have hmax := manager.maxInstances.toNat_lt
  simp only [reserved] at hbefore
  omega

/-- While an instance is asked for, the active instances are fewer than the target. -/
theorem activeCount_lt_target (h : 0 < manager.instancesToCreate service) :
    activeCount (manager.service service) < (manager.service service).targetReplicas.toNat := by
  rw [instancesToCreate] at h
  rcases hlookup : manager.services.lookup service with _ | svc
  · simp [hlookup] at h
  · have hlt := activeCount_lt hinv service
    rw [service_of_lookup hlookup] at hlt ⊢
    have hcount : (countU32 (svc.instances.filter fun i => i.state.active)).toNat = activeCount svc := by
      exact Nat.mod_eq_of_lt hlt
    simp only [hlookup, saturatingSub] at h
    split_ifs at h with hle
    · have hsub := UInt32.toNat_sub_of_le _ _ hle
      have hpos : 0 < (svc.targetReplicas - countU32 (svc.instances.filter fun i => i.state.active)).toNat := h
      omega
    · exact absurd h (by decide)

theorem inv_registerInstance {endpoint} (h : Asked manager (.register service instanceId endpoint)) :
    Inv (manager.registerInstance now service instanceId endpoint) := by
  have hlt := activeCount_lt_target hinv h
  refine inv_insert hinv ?_
  split_ifs
  · exact le_rfl
  · simp only [reserved, activeCount, filter_append, length_append] at hlt ⊢
    have hone : ([⟨instanceId, .creating, now, none, endpoint, InstanceHealth.default⟩].filter
        fun i : TrackedInstance => i.state.active).length ≤ 1 := length_filter_le _ _
    omega

end

theorem sumU32_ok {l n} (h : sumU32 profile l = .ok n) : n.toNat = (l.map UInt32.toNat).sum % 2 ^ 32 := by
  induction l generalizing n with
  | nil =>
    obtain rfl := Except.ok.inj h
    rfl
  | cons _ _ ih =>
    obtain ⟨_, hsum, h⟩ := except_bind_ok h
    split_ifs at h
    obtain rfl := Except.ok.inj h
    rw [UInt32.toNat_add, ih hsum, map_cons, sum_cons, Nat.add_mod_mod]

theorem sum_map_mod (l : List ServiceInstances) :
    ((l.map fun svc => countU32 svc.instances).map UInt32.toNat).sum % 2 ^ 32 =
      (l.map fun svc => svc.instances.length).sum % 2 ^ 32 := by
  induction l with
  | nil => rfl
  | cons _ _ ih =>
    simp only [map_cons, sum_cons, countU32, UInt32.toNat_ofNat'] at ih ⊢
    rw [Nat.mod_add_mod, Nat.add_mod, ih, ← Nat.add_mod]

theorem length_eq_counts (svc) : svc.instances.length = activeCount svc + inactiveCount svc := by
  rw [activeCount, inactiveCount, ← countP_eq_length_filter, ← countP_eq_length_filter,
    length_eq_countP_add_countP (fun i : TrackedInstance => i.state.active)]
  simp

/-- A request changes nothing, or it sets the target of its service. -/
theorem processRequest_cases (profile : Profile) (manager : ScaleManager) (request : ScaleRequest) :
    (manager.processRequest profile request).1 = manager ∨
      ∃ totalOther,
        sumU32 profile ((others manager.services request.service).map fun svc => countU32 svc.instances) =
            .ok totalOther ∧
          (manager.processRequest profile request).1 =
            { manager with
              services := manager.services.insert request.service
                { manager.service request.service with
                  targetReplicas := min request.replicas (saturatingSub manager.maxInstances totalOther) } } := by
  rcases hsum : sumU32 profile ((others manager.services request.service).map fun svc => countU32 svc.instances)
    with fault | totalOther
  · exact .inl (by simp only [processRequest, hsum])
  · exact .inr ⟨totalOther, hsum, by simp only [processRequest, hsum]⟩

theorem toNat_min_le_left (a b : UInt32) : (min a b).toNat ≤ a.toNat := UInt32.le_iff_toNat_le.1 (Std.min_le_left)

theorem toNat_min_saturatingSub (desired a b : UInt32) :
    (min desired (saturatingSub a b)).toNat ≤ a.toNat - b.toNat := by
  have hmin : (min desired (saturatingSub a b)).toNat ≤ (saturatingSub a b).toNat :=
    UInt32.le_iff_toNat_le.1 (Std.min_le_right)
  rw [saturatingSub] at hmin ⊢
  split_ifs at hmin ⊢ with hle
  · rwa [UInt32.toNat_sub_of_le _ _ hle] at hmin
  · exact le_trans hmin (Nat.zero_le _)

variable (hinv : Inv manager)

include hinv

/-- **A careful request leaves room for the others.** -/
theorem target_add_others_le (h : Careful manager (.request request)) {totalOther}
    (hsum : sumU32 profile ((others manager.services request.service).map fun svc => countU32 svc.instances) =
      .ok totalOther) :
    (min request.replicas (saturatingSub manager.maxInstances totalOther)).toNat +
      totalOthers reserved manager.services request.service ≤ manager.maxInstances.toNat := by
  rcases h with hroom | ⟨hcreated, _⟩
  · exact le_trans (Nat.add_le_add_right (toNat_min_le_left _ _) _) hroom
  · have hbefore := (inv_iff request.service).1 hinv
    -- while the others have nothing to create, what they hold is what they run
    have hreserved : totalOthers reserved manager.services request.service =
        totalOthers activeCount manager.services request.service :=
      congrArg List.sum (map_congr_left fun svc hsvc => max_eq_left (hcreated svc hsvc))
    have hlength : totalOthers (fun svc => svc.instances.length) manager.services request.service =
        totalOthers activeCount manager.services request.service +
          totalOthers inactiveCount manager.services request.service := by
      rw [← totalOthers_add, totalOthers, totalOthers, map_congr_left fun svc _ => length_eq_counts svc]
    have hother : totalOther.toNat = totalOthers (fun svc => svc.instances.length) manager.services request.service := by
      rw [sumU32_ok hsum, sum_map_mod]
      exact Nat.mod_eq_of_lt (by rw [totalOthers] at hlength; omega)
    have htarget := toNat_min_saturatingSub request.replicas manager.maxInstances totalOther
    omega

theorem inv_processRequest (h : Careful manager (.request request)) :
    Inv (manager.processRequest profile request).1 := by
  rcases processRequest_cases profile manager request with hsame | ⟨_, hsum, hset⟩
  · rw [hsame]
    exact hinv
  · rw [hset]
    have hbefore := (inv_iff request.service).1 hinv
    have htarget := target_add_others_le hinv h hsum
    rw [Inv, total_insert]
    simp only [reserved, activeCount] at hbefore htarget ⊢
    omega

theorem inv_deregisterInstance (service instanceId) : Inv (manager.deregisterInstance service instanceId).1 :=
  inv_changeService hinv service fun svc _ => by
    rw [activeCount, filter_comm]
    exact length_filter_le _ _

/-- **A careful call keeps the bound.** -/
theorem inv_call {call} (hasked : Asked manager call) (h : Careful manager call) :
    Inv (manager.call profile now call) := by
  cases call with
  | request => exact inv_processRequest hinv h
  | register => exact inv_registerInstance hinv hasked
  | updateState => exact inv_updateState hinv h
  | updateHealth service instanceId health | updateEndpoint service instanceId endpoint =>
    exact inv_changeInstance hinv fun _ _ hactive => hactive
  | deregister service instanceId => exact inv_deregisterInstance hinv service instanceId
  | startDrain service instanceId | completeDrain service instanceId => exact inv_drainStep hinv (by decide)

omit hinv

/-! ### The number of instances allowed does not change -/

theorem maxInstances_changeService (manager : ScaleManager) (service : String)
    (change : List TrackedInstance → List TrackedInstance) :
    (manager.changeService service change).maxInstances = manager.maxInstances := by
  rw [changeService]
  cases manager.services.lookup service <;> rfl

theorem maxInstances_drainStep (manager : ScaleManager) (now : ℕ) (service instanceId : String)
    (before : List InstanceState) (next : InstanceState) (message : String) :
    (manager.drainStep now service instanceId before next message).1.maxInstances = manager.maxInstances := by
  rw [drainStep]
  cases manager.find service instanceId with
  | none => rfl
  | some =>
    simp only
    split_ifs
    · exact maxInstances_changeService _ _ _
    · rfl

theorem maxInstances_call (profile : Profile) (manager : ScaleManager) (now : ℕ) (call : Call) :
    (manager.call profile now call).maxInstances = manager.maxInstances := by
  cases call with
  | request request =>
    rcases processRequest_cases profile manager request with hsame | ⟨_, _, hset⟩
    · exact congrArg maxInstances hsame
    · exact (congrArg maxInstances hset : _)
  | register => rfl
  | updateState service instanceId =>
    simp only [ScaleManager.call, ScaleManager.updateState]
    cases manager.find service instanceId with
    | none => rfl
    | some =>
      simp only
      split_ifs
      · rfl
      · exact maxInstances_changeService _ _ _
  | updateHealth service instanceId health | updateEndpoint service instanceId endpoint
  | deregister => exact maxInstances_changeService _ _ _
  | startDrain service instanceId | completeDrain service instanceId => exact maxInstances_drainStep _ _ _ _ _ _ _

/-! ### The runs -/

theorem run_inv (h : Run profile maxInstances Careful manager) : Inv manager ∧ manager.maxInstances = maxInstances := by
  induction h with
  | start => exact ⟨Nat.zero_le _, rfl⟩
  | call _ _ _ asked meets ih =>
    exact ⟨inv_call ih.1 asked meets, (maxInstances_call _ _ _ _).trans ih.2⟩

/-- **In a careful run the active instances fit**: if a request comes only while no other service has instances still to
be created, or there is room for them, there are never more active instances than are allowed. -/
theorem total_active_le {profile : Profile} {maxInstances : UInt32} {manager : ScaleManager}
    (h : Run profile maxInstances Careful manager) : manager.totalActive ≤ maxInstances.toNat := by
  obtain ⟨hinv, hmax⟩ := run_inv h
  rw [← hmax]
  exact le_trans (total_le fun svc => le_max_left _ _) hinv

/-- Make calls one after the other. -/
def ScaleManager.calls (profile : Profile) : ScaleManager → List Call → ScaleManager
  | manager, [] => manager
  | manager, call :: calls => (manager.call profile 0 call).calls profile calls

/-- What the calls have to meet, each where it is made. -/
def Meet (profile : Profile) (ok : ScaleManager → Call → Prop) : ScaleManager → List Call → Prop
  | _, [] => True
  | manager, call :: calls =>
    Asked manager call ∧ ok manager call ∧ Meet profile ok (manager.call profile 0 call) calls

theorem run_calls {ok calls} (before : Run profile maxInstances ok manager)
    (h : Meet profile ok manager calls) : Run profile maxInstances ok (manager.calls profile calls) := by
  induction calls generalizing manager with
  | nil => exact before
  | cons call _ ih => exact ih (.call 0 call before h.1 h.2.1) h.2.2

/-- Two services are scaled one after the other, and each instance is registered before the next request. -/
def oneByOne : List Call :=
  [.request ⟨"a", 1, "r1"⟩, .register "a" "a1" none, .request ⟨"b", 1, "r2"⟩, .register "b" "b1" none]

/-- Both services are scaled before any instance is registered. -/
def bothFirst : List Call :=
  [.request ⟨"a", 1, "r1"⟩, .request ⟨"b", 1, "r2"⟩, .register "a" "a1" none, .register "b" "b1" none]

theorem one_by_one_fits : ((new 2).calls .release oneByOne).totalActive ≤ (2 : UInt32).toNat :=
  total_active_le (run_calls .start
    ⟨trivial, .inl (by decide), by decide, trivial, trivial, .inr (by decide), by decide, trivial, trivial⟩)

theorem accepted_twice : Run .release 1 (fun _ _ => True) ((new 1).calls .release bothFirst) ∧
      ((new 1).calls .release bothFirst).totalActive = 2 := by
  refine ⟨run_calls .start ?_, by decide⟩
  exact ⟨trivial, trivial, trivial, trivial, by decide, trivial, by decide, trivial, trivial⟩

end A3sBox.Scale
