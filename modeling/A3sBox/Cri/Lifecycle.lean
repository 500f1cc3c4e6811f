import A3sBox.Core.Error
import A3sBox.Cri.PersistentStore

/-!
# Stopping pods and containers

`stop_pod_sandbox`, `remove_pod_sandbox` and `stop_container` of `cri/src/runtime_service/mod.rs`, with
`service_ops.rs` and `destroy_with_options` of `runtime/src/vm/mod.rs`. If the workload of a container does not stop
in time, the virtual machine is stopped. Its manager is taken out of the map, and its state set to stopped, before the
process is.

## The model

The calls run one after the other. What an attempt to stop a process does is up to the host (`StopAttempt`), and so is
whether a workload exits while it is waited for. Networks, root file systems and streams are left out.

`calls_alive_iff`, `success_stopped_iff`: a process is stopped exactly by the first attempt.
`orphan_reported_stopped`: if that fails, the next call succeeds, and the process runs on.
-/

namespace A3sBox.Cri.Lifecycle

open Option Function

/-! ### Results -/

/-- The status for an error of the runtime. -/
def boxErrorToStatus : BoxError → Status
  | .boxBootError message (some hint) => ⟨.internal, s!"{message} (hint: {hint})"⟩
  | .boxBootError message none => ⟨.internal, message⟩
  | .ociImageError message => ⟨.notFound, message⟩
  | .registryError registry message => ⟨.unavailable, s!"{registry}: {message}"⟩
  | .timeoutError message => ⟨.deadlineExceeded, message⟩
  | .configError message => ⟨.invalidArgument, message⟩
  | .ioError message => ⟨.internal, message⟩
  | .teeConfig message => ⟨.failedPrecondition, message⟩
  | .teeNotSupported message => ⟨.failedPrecondition, message⟩
  | .execError message => ⟨.internal, message⟩
  | other => ⟨.internal, other.toText⟩

/-! ### Virtual machines -/

/-- The state of a virtual machine, as its manager has it. -/
inductive BoxState where
  | created
  | ready
  | busy
  | compacting
  | stopped
  deriving DecidableEq, Repr

/-- The manager of a virtual machine. -/
structure VmManager where
  state : BoxState
  handler : Bool
  deriving DecidableEq, Repr

/-- What `stop` of the handler does. -/
structure StopAttempt where
  error : Option BoxError
  ends : Bool

/-- Destroy a virtual machine: its manager, whether its process runs, and the result. -/
def VmManager.destroyWithOptions (vm : VmManager) (alive : Bool) (attempt : StopAttempt) :
    VmManager × Bool × Except BoxError Unit :=
  if vm.state = .stopped then (vm, alive, .ok ())
  else if vm.handler then
    match attempt.error with
    | some e => (⟨.stopped, false⟩, alive && !attempt.ends, .error e)
    | none => (⟨.stopped, false⟩, alive && !attempt.ends, .ok ())
  else (⟨.stopped, false⟩, alive, .ok ())

/-! ### The service -/

/-- The kinds of events. -/
inductive EventType where
  | started
  | stopped
  | deleted
  deriving DecidableEq, Repr

/-- An event of a container. -/
structure Event where
  containerId : String
  sandboxId : String
  type : EventType
  createdAt : ℤ
  reason : String
  message : String
  deriving DecidableEq, Repr

/-- The service, and the processes of the virtual machines. -/
structure Service where
  stores : Stores
  vmManagers : AList fun _ : String => VmManager
  /-- The containers whose supervisors can be told to stop. -/
  workloadStops : List String
  events : List Event
  /-- Whether the process of the virtual machine of a sandbox runs. -/
  alive : String → Bool

variable (s : Service)

/-- Send an event. -/
def Service.emit (event : Event) : Service := { s with events := event :: s.events }

/-- Change a container. -/
def Service.mutateContainers (mutation : Mutation) : Service :=
  { s with stores := { s.stores with
      containers := (mutation.containers s.stores.containers).getD s.stores.containers } }

/-- Change a sandbox. -/
def Service.mutateSandboxes (mutation : Mutation) : Service :=
  { s with stores := { s.stores with
      sandboxes := (mutation.sandboxes s.stores.sandboxes).getD s.stores.sandboxes } }

/-- Change a container, and send an event if there was something to change. -/
def Service.mutateAndEmit (mutation : Mutation) (event : Event) : Service :=
  if (mutation.containers s.stores.containers).isSome then (s.mutateContainers mutation).emit event else s

variable (sandboxId : String)

/-- Forget the supervisors of containers. -/
def Service.forget (ids : List String) : Service :=
  { s with workloadStops := s.workloadStops.filter fun id => !ids.contains id }

/-- Destroy the virtual machine of a sandbox: whether there was one. -/
def Service.destroySandboxVm (attempt : StopAttempt) : Service × Except Status Bool :=
  match s.vmManagers.lookup sandboxId with
  | none => (s, .ok false)
  | some vm =>
    let (_, alive, result) := vm.destroyWithOptions (s.alive sandboxId) attempt
    ({ s with vmManagers := s.vmManagers.erase sandboxId, alive := update s.alive sandboxId alive },
      (result.mapError boxErrorToStatus).map fun _ => true)

/-! ### Workloads -/

/-- How a workload exits, as its supervisor records it. -/
structure Exit where
  finishedAt : ℤ
  exitCode : Int32
  /-- Whether it has used too much memory. -/
  oomKilled : Bool
  deriving DecidableEq, Repr

/-- The text of the event that a workload has exited. -/
def exitMessage (exit : Exit) : String :=
  let code := toString exit.exitCode
  s!"Container workload exited with code {code}"

/-- The supervisor of a container records how the workload exits. -/
def Service.workloadExits (container : Container) (exit : Exit) : Service :=
  (s.mutateAndEmit (.markContainerExitedIfRunning container.id exit.finishedAt exit.exitCode exit.oomKilled)
    ⟨container.id, container.sandboxId, .stopped, exit.finishedAt, "ContainerStopped",
      exitMessage exit⟩).forget [container.id]

/-- Tell the supervisor of a container to stop the workload, and wait: whether the container has exited. `exit` is how
the workload exits, if it does. -/
def Service.stopContainerWorkload (container : Container) (exit : Option Exit) : Service × Bool :=
  if s.workloadStops.contains container.id then
    let s := s.forget [container.id]
    let s := (exit.map fun exit => s.workloadExits container exit).getD s
    match s.stores.containers.lookup container.id with
    | some current => (s, current.state == .exited)
    | none => (s, true)
  else (s, false)

/-! ### The calls -/

/-- Stop the containers of a sandbox, and record their exit. `exits` says which workloads exit while they are waited
for. -/
def Service.stopContainers (exits : String → Option Exit) (now : ℤ) : Service :=
  let running := (containersOf s.stores.containers sandboxId).filter fun container => container.state == .running
  let s := running.foldl (fun s container => (s.stopContainerWorkload container (exits container.id)).1) s
  let containers := containersOf s.stores.containers sandboxId
  let s := (containers.filter fun container => container.state != .exited).foldl (fun s container =>
    s.mutateAndEmit (.markContainerExited container.id now 137)
      ⟨container.id, container.sandboxId, .stopped, now, "StopPodSandbox",
        "Container stopped by pod sandbox shutdown"⟩) s
  s.forget (containers.map (·.id))

/-- Destroy the virtual machine of a sandbox, and record that it is not ready. -/
def Service.stopVm (attempt : StopAttempt) : Service × Except Status Unit :=
  match s.destroySandboxVm sandboxId attempt with
  | (s, .error e) => (s, .error e)
  | (s, .ok _) => (s.mutateSandboxes (.updateSandboxState sandboxId .notReady), .ok ())

/-- `StopPodSandbox`. -/
def Service.stopPodSandbox (exits : String → Option Exit) (now : ℤ)
    (attempt : StopAttempt) : Service × Except Status Unit :=
  match s.stores.sandboxes.lookup sandboxId with
  | none => (s, .error ⟨.notFound, s!"Sandbox not found: {sandboxId}"⟩)
  | some sandbox =>
    if sandbox.state ≠ .ready then (s, .ok ())
    else (s.stopContainers sandboxId exits now).stopVm sandboxId attempt

/-- `StopContainer`. -/
def Service.stopContainer (containerId : String) (exit : Option Exit) (now : ℤ)
    (attempt : StopAttempt) : Service × Except Status Unit :=
  match s.stores.containers.lookup containerId with
  | none => (s, .error ⟨.notFound, s!"Container not found: {containerId}"⟩)
  | some container =>
    match container.state with
    | .exited => (s, .ok ())
    | .created =>
      ((s.mutateAndEmit (.markContainerExited containerId now 0)
        ⟨containerId, container.sandboxId, .stopped, now, "StopContainer",
          "Created container stopped before workload start"⟩).forget [containerId], .ok ())
    | .running =>
      match s.stopContainerWorkload container exit with
      | (s, true) => (s.forget [containerId], .ok ())
      | (s, false) =>
        if hasOtherRunningContainers s.stores.containers container then
          let id := container.id
          let sandbox := container.sandboxId
          (s, .error ⟨.failedPrecondition,
            s!"StopContainer cannot fall back to sandbox VM teardown for container {id} while other containers in " ++
              s!"sandbox {sandbox} are still running"⟩)
        else
          match s.stopVm container.sandboxId attempt with
          | (s, .error e) => (s, .error e)
          | (s, .ok ()) =>
            ((s.mutateAndEmit (.markContainerExitedIfRunning containerId now 137 false)
              ⟨containerId, container.sandboxId, .stopped, now, "StopContainer",
                "Container stopped by sandbox VM teardown fallback"⟩).forget [containerId], .ok ())

/-- `RemovePodSandbox`. -/
def Service.removePodSandbox (sandboxId : String) (now : ℤ) (attempt : StopAttempt) : Service × Except Status Unit :=
  match s.stores.sandboxes.lookup sandboxId with
  | none => (s, .ok ())
  | some sandbox =>
    if sandbox.state = .ready then
      (s, .error ⟨.failedPrecondition, s!"RemovePodSandbox requires a stopped sandbox; sandbox {sandboxId} is Ready"⟩)
    else
      match s.destroySandboxVm sandboxId attempt with
      | (s, .error e) => (s, .error e)
      | (s, .ok _) =>
        let removed := containersOf s.stores.containers sandboxId
        let s := (s.mutateContainers (.removeContainersBySandbox sandboxId)).forget (removed.map (·.id))
        let s := removed.foldl (fun s container =>
          let name := container.name
          s.emit ⟨container.id, container.sandboxId, .deleted, now, "ContainerDeleted",
            s!"Container {name} removed with pod sandbox"⟩) s
        (s.mutateSandboxes (.removeSandbox sandboxId), .ok ())

/-- A call, with what the host does meanwhile. -/
inductive Call where
  | stopPodSandbox (sandboxId : String) (exits : String → Option Exit) (now : ℤ) (attempt : StopAttempt)
  | stopContainer (containerId : String) (exit : Option Exit) (now : ℤ) (attempt : StopAttempt)
  | removePodSandbox (sandboxId : String) (now : ℤ) (attempt : StopAttempt)

/-- Make a call. -/
def Service.call : Call → Service × Except Status Unit
  | .stopPodSandbox sandboxId exits now attempt => s.stopPodSandbox sandboxId exits now attempt
  | .stopContainer containerId exit now attempt => s.stopContainer containerId exit now attempt
  | .removePodSandbox sandboxId now attempt => s.removePodSandbox sandboxId now attempt

/-- Make calls, one after the other. -/
def Service.calls (history : List Call) : Service := history.foldl (fun s call => (s.call call).1) s

/-! ### What a call does to virtual machines -/

/-- Whether the service has the manager of a virtual machine that it can still stop. -/
def Service.hasHandler (sandboxId : String) : Bool :=
  (s.vmManagers.lookup sandboxId).any fun vm => vm.state != .stopped && vm.handler

/-- The managers, the processes and the sandboxes are the same. -/
structure SameVms (s s' : Service) : Prop where
  vmManagers : s'.vmManagers = s.vmManagers
  alive : s'.alive = s.alive
  sandboxes : s'.stores.sandboxes = s.stores.sandboxes

theorem SameVms.refl : SameVms s s := ⟨rfl, rfl, rfl⟩

variable {s s' : Service} {sandboxId other : String}

theorem SameVms.trans {s''} (h : SameVms s s') (h' : SameVms s' s'') : SameVms s s'' :=
  ⟨h'.vmManagers.trans h.vmManagers, h'.alive.trans h.alive, h'.sandboxes.trans h.sandboxes⟩

theorem SameVms.hasHandler (h : SameVms s s') : s'.hasHandler = s.hasHandler := by
  funext sandboxId
  rw [Service.hasHandler, Service.hasHandler, h.vmManagers]

theorem SameVms.foldl {α : Type} {f} (hf : ∀ s a, SameVms s (f s a)) (l : List α)
    (s) : SameVms s (l.foldl f s) := by
  induction l generalizing s with
  | nil => exact .refl s
  | cons a _ ih => exact (hf s a).trans (ih (f s a))

variable (s)

theorem sameVms_emit (event : Event) : SameVms s (s.emit event) := ⟨rfl, rfl, rfl⟩

theorem sameVms_mutateAndEmit (mutation : Mutation) (event : Event) : SameVms s (s.mutateAndEmit mutation event) := by
  rw [Service.mutateAndEmit]
  split_ifs
  · exact ⟨rfl, rfl, rfl⟩
  · exact .refl s

theorem sameVms_forget (ids : List String) : SameVms s (s.forget ids) := ⟨rfl, rfl, rfl⟩

theorem sameVms_workloadExits (container : Container) (exit : Exit) : SameVms s (s.workloadExits container exit) :=
  (sameVms_mutateAndEmit s _ _).trans (sameVms_forget _ _)

theorem sameVms_stopContainerWorkload (container : Container) (exit : Option Exit) :
    SameVms s (s.stopContainerWorkload container exit).1 := by
  rw [Service.stopContainerWorkload]
  split_ifs
  · have hexit : SameVms s ((exit.map fun exit => (s.forget [container.id]).workloadExits container exit).getD
        (s.forget [container.id])) := by
      cases exit with
      | none => exact sameVms_forget s _
      | some exit => exact (sameVms_forget s _).trans (sameVms_workloadExits _ container exit)
    dsimp only
    split <;> exact hexit
  · exact .refl s

theorem destroySandboxVm_alive (sandboxId) (attempt : StopAttempt) :
    (s.destroySandboxVm sandboxId attempt).1.alive =
      update s.alive sandboxId (s.alive sandboxId && !(s.hasHandler sandboxId && attempt.ends)) := by
  rw [Service.destroySandboxVm, Service.hasHandler]
  cases hvm : s.vmManagers.lookup sandboxId with
  | none => simp
  | some vm =>
    simp only [VmManager.destroyWithOptions, any_some]
    by_cases hstopped : vm.state = .stopped
    · simp [hstopped]
    · have hne : (vm.state != .stopped) = true := bne_iff_ne.mpr hstopped
      cases hhandler : vm.handler
      · simp [hstopped]
      · cases attempt.error <;> simp [hstopped, hne]

theorem destroySandboxVm_hasHandler (hne : other ≠ sandboxId) (attempt : StopAttempt) :
    (s.destroySandboxVm sandboxId attempt).1.hasHandler other = s.hasHandler other := by
  rw [Service.destroySandboxVm]
  split
  · rfl
  · simp only [Service.hasHandler, AList.lookup_erase_ne hne]

/-- The sandbox that is destroyed when a container is stopped: the workload does not exit, and no other runs in it. -/
def Service.fallback (s : Service) (containerId : String) (exit : Option Exit) : Option String :=
  match s.stores.containers.lookup containerId with
  | none => none
  | some container =>
    let (s', exited) := s.stopContainerWorkload container exit
    if container.state = .running ∧ !exited ∧ !hasOtherRunningContainers s'.stores.containers container then
      some container.sandboxId
    else none

/-- The sandbox whose process a call attempts to stop, if it gets that far. -/
def Call.stops (s : Service) : Call → Option String
  | .stopPodSandbox id _ _ _ => if (s.stores.sandboxes.lookup id).any (·.state == .ready) then some id else none
  | .removePodSandbox id _ _ => if (s.stores.sandboxes.lookup id).any (·.state != .ready) then some id else none
  | .stopContainer containerId exit _ _ => s.fallback containerId exit

/-- How an attempt of a call to stop a process goes. -/
def Call.attempt : Call → StopAttempt
  | .stopPodSandbox _ _ _ attempt => attempt
  | .stopContainer _ _ _ attempt => attempt
  | .removePodSandbox _ _ attempt => attempt

/-- The sandbox that a call is to stop or remove. -/
def Call.sandbox : Call → Option String
  | .stopPodSandbox id _ _ _ => some id
  | .removePodSandbox id _ _ => some id
  | .stopContainer .. => none

/-- The first attempt of some calls to stop the process of a sandbox. -/
def Service.firstAttempt (s : Service) (sandboxId : String) : List Call → Option StopAttempt
  | [] => none
  | call :: history =>
    if call.stops s = some sandboxId then some call.attempt else (s.call call).1.firstAttempt sandboxId history

theorem sameVms_stopContainers (sandboxId) (exits : String → Option Exit) (now : ℤ) :
    SameVms s (s.stopContainers sandboxId exits now) :=
  ((SameVms.foldl (fun s container => sameVms_stopContainerWorkload s container _) _ s).trans
    (SameVms.foldl (fun s _ => sameVms_mutateAndEmit s _ _) _ _)).trans (sameVms_forget _ _)

/-- The virtual machine of a sandbox was destroyed, and the others are as they were. -/
structure Destroyed (s : Service) (sandboxId : String) (attempt : StopAttempt) (s' : Service) : Prop where
  /-- The process is stopped if there was a handler, and the attempt ends it. -/
  alive : s'.alive = update s.alive sandboxId (s.alive sandboxId && !(s.hasHandler sandboxId && attempt.ends))
  /-- The manager is gone. -/
  gone : s'.hasHandler sandboxId = false
  hasHandler : ∀ {other}, other ≠ sandboxId → s'.hasHandler other = s.hasHandler other
  sandboxes : ∀ {other}, other ≠ sandboxId → s'.stores.sandboxes.lookup other = s.stores.sandboxes.lookup other

theorem destroyed_destroySandboxVm (sandboxId) (attempt : StopAttempt) :
    Destroyed s sandboxId attempt (s.destroySandboxVm sandboxId attempt).1 where
  alive := destroySandboxVm_alive s sandboxId attempt
  gone := by
    rw [Service.destroySandboxVm]
    split
    next hvm => rw [Service.hasHandler, hvm, any_none]
    next => simp only [Service.hasHandler, AList.lookup_erase, any_none]
  hasHandler hne := destroySandboxVm_hasHandler s hne attempt
  sandboxes _ := by
    rw [Service.destroySandboxVm]
    split <;> rfl

variable {s}

theorem Destroyed.of_sameVms {s₁ s₂ s₃ attempt} (h : Destroyed s₁ sandboxId attempt s₂)
    (hbefore : SameVms s s₁) (hafter : SameVms s₂ s₃) :
    Destroyed s sandboxId attempt s₃ where
  alive := by rw [hafter.alive, h.alive, hbefore.alive, hbefore.hasHandler]
  gone := by rw [hafter.hasHandler, h.gone]
  hasHandler hne := by rw [hafter.hasHandler, h.hasHandler hne, hbefore.hasHandler]
  sandboxes hne := by rw [hafter.sandboxes, h.sandboxes hne, hbefore.sandboxes]

theorem Destroyed.mutateSandboxes {attempt mutation} (h : Destroyed s sandboxId attempt s')
    (hother : ∀ {other}, other ≠ sandboxId →
      (s'.mutateSandboxes mutation).stores.sandboxes.lookup other = s'.stores.sandboxes.lookup other) :
    Destroyed s sandboxId attempt (s'.mutateSandboxes mutation) where
  alive := h.alive
  gone := h.gone
  hasHandler := h.hasHandler
  sandboxes hne := (hother hne).trans (h.sandboxes hne)

variable {β : Type} {id : String} {history : List Call}

theorem removeKey_lookup_ne {m : AList fun _ : String => β} (hne : other ≠ id) :
    ((removeKey m id).getD m).lookup other = m.lookup other := by
  rw [removeKey]
  split_ifs
  · exact AList.lookup_erase_ne hne
  · rfl

theorem destroyed_stopVm (s) (sandboxId) (attempt : StopAttempt) :
    Destroyed s sandboxId attempt (s.stopVm sandboxId attempt).1 := by
  have hdestroyed := destroyed_destroySandboxVm s sandboxId attempt
  rw [Service.stopVm]
  split
  next hdestroy => rwa [hdestroy] at hdestroyed
  next hdestroy =>
    rw [hdestroy] at hdestroyed
    refine hdestroyed.mutateSandboxes fun hne => ?_
    change ((updateIf _ _ _ _).getD _).lookup _ = _
    rw [updateIf]
    split
    · rfl
    · split_ifs
      · exact AList.lookup_insert_ne hne
      · rfl

/-- What stopping a container does to virtual machines. -/
theorem stopContainer_destroyed (s) (containerId : String) (exit : Option Exit) (now : ℤ) (attempt : StopAttempt) :
    match s.fallback containerId exit with
    | none => SameVms s (s.stopContainer containerId exit now attempt).1
    | some id => Destroyed s id attempt (s.stopContainer containerId exit now attempt).1 := by
  rw [Service.stopContainer, Service.fallback]
  cases s.stores.containers.lookup containerId with
  | none => exact .refl s
  | some container =>
    have hstop := sameVms_stopContainerWorkload s container exit
    rcases hworkload : s.stopContainerWorkload container exit with ⟨s₁, exited⟩
    rw [hworkload] at hstop
    cases hstate : container.state with
    | exited => simpa [hstate] using SameVms.refl s
    | created => simpa [hstate] using (sameVms_mutateAndEmit s _ _).trans (sameVms_forget _ _)
    | running =>
      cases exited with
      | true => simpa [hstate, hworkload] using hstop.trans (sameVms_forget s₁ [containerId])
      | false =>
        cases hothers : hasOtherRunningContainers s₁.stores.containers container with
        | true => simpa [hstate, hworkload, hothers] using hstop
        | false =>
          have hdestroyed := (destroyed_stopVm s₁ container.sandboxId attempt).of_sameVms hstop (.refl _)
          simp only [hstate, hworkload, hothers]
          rcases hvm : s₁.stopVm container.sandboxId attempt with ⟨s₂, _ | _⟩
          · rwa [hvm] at hdestroyed
          · rw [hvm] at hdestroyed
            exact hdestroyed.of_sameVms (.refl s) ((sameVms_mutateAndEmit s₂ _ _).trans (sameVms_forget _ _))

/-- **What a call does to virtual machines**: nothing, or it destroys the one whose process it attempts to stop. -/
theorem call_destroyed (s) (call : Call) : match call.stops s with
    | none => SameVms s (s.call call).1
    | some id => Destroyed s id call.attempt (s.call call).1 := by
  cases call with
  | stopContainer containerId exit now attempt => exact stopContainer_destroyed s containerId exit now attempt
  | stopPodSandbox id exits now attempt =>
    simp only [Service.call, Service.stopPodSandbox, Call.stops]
    cases hsandbox : s.stores.sandboxes.lookup id with
    | none => exact .refl s
    | some sandbox =>
      by_cases hready : sandbox.state = .ready
      · simp only [hready, ne_eq, not_true_eq_false, if_false, any_some]
        exact (destroyed_stopVm _ id attempt).of_sameVms (sameVms_stopContainers s id exits now) (.refl _)
      · simpa [hready] using SameVms.refl s
  | removePodSandbox id _ attempt =>
    simp only [Service.call, Service.removePodSandbox, Call.stops]
    cases hsandbox : s.stores.sandboxes.lookup id with
    | none => exact .refl s
    | some sandbox =>
      by_cases hready : sandbox.state = .ready
      · simpa [hready] using SameVms.refl s
      · have hne : (sandbox.state != .ready) = true := bne_iff_ne.mpr hready
        have hdestroyed := destroyed_destroySandboxVm s id attempt
        simp only [hready, if_false, any_some, hne, if_true]
        split
        next hdestroy => rwa [hdestroy] at hdestroyed
        next s' _ hdestroy =>
          rw [hdestroy] at hdestroyed
          refine Destroyed.mutateSandboxes ?_ fun hne => removeKey_lookup_ne hne
          have hremoved : SameVms s' ((s'.mutateContainers (.removeContainersBySandbox id)).forget
              ((containersOf s'.stores.containers id).map (·.id))) := ⟨rfl, rfl, rfl⟩
          exact hdestroyed.of_sameVms (.refl s)
            (hremoved.trans (SameVms.foldl (fun s _ => sameVms_emit s _) (containersOf s'.stores.containers id) _))

/-- A call that does not attempt to stop the process of a sandbox leaves it, its handler and the sandbox. -/
theorem call_untouched {call : Call} (h : call.stops s ≠ some sandboxId) :
    (s.call call).1.alive sandboxId = s.alive sandboxId ∧
      (s.call call).1.hasHandler sandboxId = s.hasHandler sandboxId ∧
      (s.call call).1.stores.sandboxes.lookup sandboxId = s.stores.sandboxes.lookup sandboxId := by
  have hdestroyed := call_destroyed s call
  cases hstops : call.stops s with
  | none =>
    rw [hstops] at hdestroyed
    exact ⟨by rw [hdestroyed.alive], by rw [hdestroyed.hasHandler], by rw [hdestroyed.sandboxes]⟩
  | some id =>
    rw [hstops] at hdestroyed h
    have hne : sandboxId ≠ id := fun heq => h (congrArg some heq.symm)
    exact ⟨by rw [hdestroyed.alive, update_of_ne hne], hdestroyed.hasHandler hne, hdestroyed.sandboxes hne⟩

/-- **When a process does not run after some calls**: it did not run before, or the service had its handler and the
first attempt to stop it ended it. -/
theorem calls_alive_iff (s : Service) (history : List Call) (sandboxId : String) :
    (s.calls history).alive sandboxId = false ↔ s.alive sandboxId = false ∨
      s.hasHandler sandboxId = true ∧
        ∃ attempt, s.firstAttempt sandboxId history = some attempt ∧ attempt.ends = true := by
  induction history generalizing s with
  | nil => simp [Service.calls, Service.firstAttempt]
  | cons call history ih =>
    have hcalls : s.calls (call :: history) = (s.call call).1.calls history := rfl
    rw [hcalls, ih, Service.firstAttempt]
    by_cases hstops : call.stops s = some sandboxId
    · -- the manager is gone, so that no later attempt can end the process
      have hdestroyed := call_destroyed s call
      rw [hstops] at hdestroyed
      rw [hdestroyed.gone, hdestroyed.alive, update_self, if_pos hstops]
      cases s.alive sandboxId <;> cases s.hasHandler sandboxId <;> simp
    · obtain ⟨halive, hhandler, -⟩ := call_untouched hstops
      rw [halive, hhandler, if_neg hstops]

/-! ### Sandboxes that are attended -/

/-- Every process that runs has a handler, and its sandbox is ready. -/
def Service.Attended (s : Service) : Prop :=
  ∀ sandboxId, s.alive sandboxId = true →
    s.hasHandler sandboxId = true ∧
      ∃ sandbox, s.stores.sandboxes.lookup sandboxId = some sandbox ∧ sandbox.state = .ready

theorem Service.Attended.of_sameVms (h : s.Attended) (hsame : SameVms s s') : s'.Attended := by
  intro sandboxId halive
  rw [hsame.alive] at halive
  rw [hsame.hasHandler, hsame.sandboxes]
  exact h sandboxId halive

theorem Service.Attended.of_destroyed {attempt} (h : s.Attended)
    (hdestroyed : Destroyed s sandboxId attempt s') (hends : attempt.ends = true) : s'.Attended := by
  intro other halive
  rw [hdestroyed.alive] at halive
  by_cases hne : other = sandboxId
  · -- the process of the sandbox has ended
    subst hne
    rw [update_self, hends, Bool.and_eq_true] at halive
    obtain ⟨halive, hhandler⟩ := halive
    rw [(h other halive).1] at hhandler
    cases hhandler
  · rw [update_of_ne hne] at halive
    rw [hdestroyed.hasHandler hne, hdestroyed.sandboxes hne]
    exact h other halive

/-- A call whose attempt ends the process leaves no process without a handler. -/
theorem Service.Attended.call (h : s.Attended) {call : Call} (hends : call.attempt.ends = true) :
    (s.call call).1.Attended := by
  have hdestroyed := call_destroyed s call
  cases hstops : call.stops s with
  | none =>
    rw [hstops] at hdestroyed
    exact h.of_sameVms hdestroyed
  | some =>
    rw [hstops] at hdestroyed
    exact h.of_destroyed hdestroyed hends

theorem Service.Attended.calls (h : s.Attended) (hends : ∀ call ∈ history, call.attempt.ends = true) :
    (s.calls history).Attended := by
  induction history generalizing s with
  | nil => exact h
  | cons call _ ih =>
    exact ih (h.call (hends call List.mem_cons_self)) fun call' hmem => hends call' (List.mem_cons_of_mem _ hmem)

/-- To stop or remove a sandbox that is ready succeeds only with an attempt to stop the process. -/
theorem stops_of_ok {call : Call} (hready : ∃ sandbox, s.stores.sandboxes.lookup sandboxId = some sandbox ∧
    sandbox.state = .ready) (htarget : call.sandbox = some sandboxId) (hok : (s.call call).2 = .ok ()) :
    call.stops s = some sandboxId := by
  obtain ⟨sandbox, hsandbox, hready⟩ := hready
  cases call with
  | stopContainer => cases htarget
  | stopPodSandbox =>
    cases htarget
    simp [Call.stops, hsandbox, hready]
  | removePodSandbox =>
    cases htarget
    simp [Service.call, Service.removePodSandbox, hsandbox, hready] at hok

/-- Calls that end with one that stops or removes a sandbox which was ready make an attempt to stop its process. -/
theorem firstAttempt_ne_none {call : Call} (hready : ∃ sandbox, s.stores.sandboxes.lookup sandboxId = some sandbox ∧
    sandbox.state = .ready) (htarget : call.sandbox = some sandboxId)
    (hok : ((s.calls history).call call).2 = .ok ()) : s.firstAttempt sandboxId (history ++ [call]) ≠ none := by
  induction history generalizing s with
  | nil =>
    rw [List.nil_append, Service.firstAttempt, if_pos (stops_of_ok hready htarget hok)]
    exact some_ne_none _
  | cons first history ih =>
    rw [List.cons_append, Service.firstAttempt]
    by_cases hstops : first.stops s = some sandboxId
    · rw [if_pos hstops]
      exact some_ne_none _
    · rw [if_neg hstops]
      refine ih ?_ hok
      rwa [(call_untouched hstops).2.2]

theorem calls_concat (s : Service) (history : List Call) (call : Call) :
    s.calls (history ++ [call]) = ((s.calls history).call call).1 := by
  simp [Service.calls]

/-- **When a sandbox that was stopped does not run**: after any calls, a call to stop or remove a sandbox that succeeds
leaves the process of its virtual machine stopped exactly if that did not run at first, or the service had its handler
and the first attempt that was made to stop it has ended it. If processes were attended at first and this one ran, the
service had its handler, and there was an attempt. -/
theorem success_stopped_iff (init : Service) (history : List Call) {call : Call} {sandboxId : String}
    (htarget : call.sandbox = some sandboxId) (hok : ((init.calls history).call call).2 = .ok ()) :
    (((init.calls history).call call).1.alive sandboxId = false ↔ init.alive sandboxId = false ∨
        init.hasHandler sandboxId = true ∧
          ∃ attempt, init.firstAttempt sandboxId (history ++ [call]) = some attempt ∧ attempt.ends = true) ∧
      (init.Attended → init.alive sandboxId = true →
        init.hasHandler sandboxId = true ∧ init.firstAttempt sandboxId (history ++ [call]) ≠ none) := by
  constructor
  · rw [← calls_concat, calls_alive_iff]
  · intro hinit halive
    obtain ⟨hhandler, hready⟩ := hinit sandboxId halive
    exact ⟨hhandler, firstAttempt_ne_none hready htarget hok⟩

/-- If every attempt to stop a process ends it, a sandbox that was stopped or removed does not run. -/
theorem stopped_of_effective {init : Service} (hinit : init.Attended)
    (hhistory : ∀ call ∈ history, call.attempt.ends = true) {call : Call} (hends : call.attempt.ends = true)
    (htarget : call.sandbox = some sandboxId) (hok : ((init.calls history).call call).2 = .ok ()) :
    ((init.calls history).call call).1.alive sandboxId = false := by
  have hattended := hinit.calls hhistory
  generalize init.calls history = s at hattended hok ⊢
  have hcall : (s.call call).1 = s.calls [call] := rfl
  rw [hcall, calls_alive_iff]
  cases halive : s.alive sandboxId with
  | false => exact .inl rfl
  | true =>
    obtain ⟨hhandler, hready⟩ := hattended sandboxId halive
    exact .inr ⟨hhandler, call.attempt, if_pos (stops_of_ok hready htarget hok), hends⟩

/-- A sandbox that is ready. -/
def podSandbox (id : String) : PodSandbox :=
  ⟨id, "web", "default", "uid", 0, .ready, 1, ∅, ∅, "", "", "", [], ⟨[], [], []⟩, []⟩

/-- A service with one sandbox, whose virtual machine runs. -/
def oneSandbox : Service where
  stores := ⟨AList.insert "pod" (podSandbox "pod") ∅, ∅⟩
  vmManagers := AList.insert "pod" ⟨.ready, true⟩ ∅
  workloadStops := []
  events := []
  alive id := id == "pod"

/-- `StopPodSandbox` of the sandbox, with an attempt to stop its process. -/
def stopPod (error : Option BoxError) (ends : Bool) : Call := .stopPodSandbox "pod" (fun _ => none) 1 ⟨error, ends⟩

theorem attended_oneSandbox : oneSandbox.Attended := by
  intro id halive
  obtain rfl := eq_of_beq halive
  exact ⟨rfl, podSandbox "pod", rfl, rfl⟩

/-- The sandbox is stopped and removed, and does not run. -/
theorem stopped_then_removed :
    ((oneSandbox.calls [stopPod none true]).call (.removePodSandbox "pod" 2 ⟨none, true⟩)).1.alive "pod" = false :=
  stopped_of_effective attended_oneSandbox (by simp [stopPod, Call.attempt]) rfl rfl rfl

/-- The first attempt to stop the process ends it and reports an error; the sandbox is stopped once more and removed,
with attempts that would not end it, and does not run. -/
theorem stopped_at_once : ((oneSandbox.calls [stopPod (some (.other "wait: ECHILD")) true, stopPod none false]).call
    (.removePodSandbox "pod" 2 ⟨none, false⟩)).1.alive "pod" = false :=
  (success_stopped_iff oneSandbox [stopPod (some (.other "wait: ECHILD")) true, stopPod none false] rfl
    (by decide)).1.mpr (.inr ⟨rfl, ⟨some (.other "wait: ECHILD"), true⟩, rfl, rfl⟩)

/-- The process of a sandbox cannot be stopped, and `StopPodSandbox` fails. The next succeeds, and so does
`RemovePodSandbox`, and the process still runs. -/
theorem orphan_reported_stopped :
    (oneSandbox.call (stopPod (some (.other "kill: EPERM")) false)).2 = .error ⟨.internal, "kill: EPERM"⟩ ∧
    ((oneSandbox.calls [stopPod (some (.other "kill: EPERM")) false]).call (stopPod none true)).2 = .ok () ∧
    ((oneSandbox.calls [stopPod (some (.other "kill: EPERM")) false]).call (stopPod none true)).1.alive "pod" = true ∧
    ((oneSandbox.calls [stopPod (some (.other "kill: EPERM")) false, stopPod none true]).call
      (.removePodSandbox "pod" 2 ⟨none, true⟩)).2 = .ok () ∧
    (oneSandbox.calls [stopPod (some (.other "kill: EPERM")) false, stopPod none true,
      .removePodSandbox "pod" 2 ⟨none, true⟩]).alive "pod" = true := by
  decide

end A3sBox.Cri.Lifecycle
