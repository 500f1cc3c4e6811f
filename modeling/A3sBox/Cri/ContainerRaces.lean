import A3sBox.Cri.Lifecycle

/-!
# Calls that race for a container

`start_container`, `stop_container` and `stop_pod_sandbox` of `cri/src/runtime_service/mod.rs`, and the supervisor of
`supervisor.rs`. A call may be interrupted at every `await`, and decides on what it has read.

## The model

Each call is a process, in which the supervisor that it spawns goes on. Reading or changing a store, or a map of the
service, is one step. A workload runs until it ends, a virtual machine may die at any time, and a wait may end at any
time. Streams, logs and what persists the stores are left out.

`container_lifecycle`: what holds of a container in every run in which no call acts on what has become stale
(`Orderly`). `exit_recorded_twice` and `workload_left_running` are other runs.
-/

namespace A3sBox.Cri.Races

open Processes Lifecycle Function List Option State AList

/-! ### What is shared -/

/-- The channel on which a supervisor is told to stop its workload. -/
inductive Signal where
  | pending
  | sent
  | closed
  deriving DecidableEq, Repr

/-- The workload of a container, that a process has launched. -/
structure Workload where
  containerId : String
  sandboxId : String
  running : Bool
  cancelled : Bool

/-- What the calls share. -/
structure Shared (ι : Type) where
  stores : Stores
  /-- The sandboxes whose virtual machines have a manager. -/
  vmManagers : String → Bool
  /-- The supervisor that the sender for a container reaches. -/
  workloadStops : String → Option ι
  signal : ι → Signal
  workload : ι → Option Workload
  alive : String → Bool
  events : List Event

variable {ι : Type} [DecidableEq ι] (s : Shared ι)

/-- The containers. -/
def Shared.containers : Containers := s.stores.containers

/-- The containers change. -/
def Shared.withContainers (containers : Containers) : Shared ι :=
  { s with stores := { s.stores with containers } }

variable (sandboxId : String)

/-- The sandbox is not ready. -/
def Shared.notReady : Shared ι :=
  { s with stores := { s.stores with
      sandboxes := ((Mutation.updateSandboxState sandboxId .notReady).sandboxes s.stores.sandboxes).getD
        s.stores.sandboxes } }

/-- Take the sender for a container, if it is there, and tell the supervisor to stop. -/
def Shared.send (id : String) : Shared ι :=
  match s.workloadStops id with
  | none => s
  | some p =>
    { s with workloadStops := update s.workloadStops id none, signal := update s.signal p .sent }

/-- Drop the sender for a container. -/
def Shared.forget (id : String) : Shared ι :=
  match s.workloadStops id with
  | none => s
  | some p =>
    { s with
      workloadStops := update s.workloadStops id none
      signal := update s.signal p (if s.signal p = .pending then .closed else s.signal p) }

/-- A container has stopped. -/
def stoppedEvent (container : Container) (now : ℤ) (reason message : String) : Event :=
  ⟨container.id, container.sandboxId, .stopped, now, reason, message⟩

/-- A container was started. -/
def startedEvent (container : Container) (now : ℤ) : Event :=
  let name := container.name
  ⟨container.id, container.sandboxId, .started, now, "ContainerStarted", s!"Container {name} started"⟩

/-! ### The calls -/

/-- Where a process is. -/
inductive Place where
  | idle
  | starting (container : Container)
  /-- It has found the virtual machine. -/
  | connecting (container : Container)
  | launched (container : Container)
  | started (container : Container) (now : ℤ)
  /-- It has put the sender where others find it. -/
  | registered (container : Container) (now : ℤ)
  /-- The supervisor waits; `stopRequested` is whether it has read its channel. -/
  | supervising (container : Container) (stopRequested : Bool)
  | ended (container : Container) (exit : Exit)
  /-- The supervisor or `StopContainer` has recorded an exit, and has to send the event. -/
  | recorded (container : Container) (now : ℤ) (reason message : String)
  | cleaning (container : Container)
  | stopCreated (container : Container) (now : ℤ)
  | stopRunning (container : Container) (now : ℤ)
  | stopWaiting (container : Container) (now : ℤ)
  | stopFallback (container : Container) (now : ℤ)
  | stopTorn (container : Container) (now : ℤ)
  /-- It has recorded that the sandbox is not ready. -/
  | stopMarking (container : Container) (now : ℤ)
  /-- `StopPodSandbox` has read a sandbox that is ready. -/
  | podListing (sandboxId : String)
  /-- It tells the supervisors of these containers to stop, and waits. -/
  | podStopping (sandboxId : String) (containers : List Container)
  /-- It has read the containers again, and records these as exited. -/
  | podMarking (sandboxId : String) (ids : List String) (containers : List Container) (now : ℤ)
  /-- It has recorded the exit of a container, and has to send the event. -/
  | podRecorded (sandboxId : String) (ids : List String) (container : Container) (rest : List Container) (now : ℤ)
  /-- It drops the senders of these containers. -/
  | podForgetting (sandboxId : String) (ids : List String)
  /-- It has recorded that the sandbox is not ready, once its virtual machine is stopped. -/
  | podUpdating (sandboxId : String)
  | returned

/-- Take the manager of a virtual machine, if it is there, and stop its process, unless that `survives`. -/
def Shared.teardown (survives : Bool) : Shared ι :=
  if s.vmManagers sandboxId then
    { s with
      vmManagers := update s.vmManagers sandboxId false
      alive := update s.alive sandboxId (s.alive sandboxId && survives) }
  else s

/-- What `start_container` does. -/
inductive StartStep : ι → Shared ι → Place → Shared ι → Place → Prop where
  | read {p s id container} (h : s.containers.lookup id = some container) (hcreated : container.state = .created) :
      StartStep p s .idle s (.starting container)
  | find {p s container} (h : s.vmManagers container.sandboxId = true) :
      StartStep p s (.starting container) s (.connecting container)
  /-- Something fails before the workload is launched. -/
  | fails {p s place container} (h : place = .starting container ∨ place = .connecting container) :
      StartStep p s place s .returned
  | launch {p s container} (h : s.alive container.sandboxId = true) :
      StartStep p s (.connecting container)
        { s with
          workload := update s.workload p (some ⟨container.id, container.sandboxId, true, false⟩)
          signal := update s.signal p .pending }
        (.launched container)
  /-- Record that the container runs, if it is still created. -/
  | mark {p s container containers} (now : ℤ)
      (h : (Mutation.markContainerStartedIfCreated container.id now).containers s.containers = some containers) :
      StartStep p s (.launched container) (s.withContainers containers) (.started container now)
  /-- It is not: the sender is dropped, and the workload has a supervisor all the same. -/
  | late {p s container} (now : ℤ)
      (h : (Mutation.markContainerStartedIfCreated container.id now).containers s.containers = none) :
      StartStep p s (.launched container) { s with signal := update s.signal p .closed }
        (.supervising container false)
  | register {p s container now} :
      StartStep p s (.started container now)
        { s with workloadStops := update s.workloadStops container.id (some p) } (.registered container now)
  | emit {p s container now} :
      StartStep p s (.registered container now) { s with events := startedEvent container now :: s.events }
        (.supervising container false)

/-- What the supervisor of a container does. -/
inductive SupervisorStep : ι → Shared ι → Place → Shared ι → Place → Prop where
  /-- It is told to stop, and tells the guest. -/
  | cancel {p s container w} (h : s.signal p = .sent) (hw : s.workload p = some w) :
      SupervisorStep p s (.supervising container false)
        { s with workload := update s.workload p (some { w with cancelled := true }) }
        (.supervising container true)
  /-- The sender is gone: it waits on. -/
  | closed {p s container} (h : s.signal p = .closed) :
      SupervisorStep p s (.supervising container false) s (.supervising container true)
  | ends {p s container stopRequested} (exit : Exit) :
      SupervisorStep p s (.supervising container stopRequested) s (.ended container exit)
  | mark {p s container exit containers}
      (h : (Mutation.markContainerExitedIfRunning container.id exit.finishedAt exit.exitCode
        exit.oomKilled).containers s.containers = some containers) :
      SupervisorStep p s (.ended container exit) (s.withContainers containers)
        (.recorded container exit.finishedAt "ContainerStopped" (exitMessage exit))
  | late {p s container exit}
      (h : (Mutation.markContainerExitedIfRunning container.id exit.finishedAt exit.exitCode
        exit.oomKilled).containers s.containers = none) :
      SupervisorStep p s (.ended container exit) s (.cleaning container)

/-- What `stop_container` does. -/
inductive StopStep : ι → Shared ι → Place → Shared ι → Place → Prop where
  | readCreated {p s id container} (now : ℤ) (h : s.containers.lookup id = some container)
      (hcreated : container.state = .created) : StopStep p s .idle s (.stopCreated container now)
  | readRunning {p s id container} (now : ℤ) (h : s.containers.lookup id = some container)
      (hrunning : container.state = .running) : StopStep p s .idle s (.stopRunning container now)
  /-- Record that a created container has exited, whatever it does now. -/
  | markCreated {p s container now containers}
      (h : (Mutation.markContainerExited container.id now 0).containers s.containers = some containers) :
      StopStep p s (.stopCreated container now) (s.withContainers containers)
        (.recorded container now "StopContainer" "Created container stopped before workload start")
  | send {p q s container now} (h : s.workloadStops container.id = some q) :
      StopStep p s (.stopRunning container now) (s.send container.id) (.stopWaiting container now)
  | unsent {p s container now} (h : s.workloadStops container.id = none) :
      StopStep p s (.stopRunning container now) s (.stopFallback container now)
  | exited {p s container current now} (h : s.containers.lookup container.id = some current)
      (hexited : current.state = .exited) : StopStep p s (.stopWaiting container now) s (.cleaning container)
  | timeout {p s container current now} (h : s.containers.lookup container.id = some current)
      (hexited : current.state ≠ .exited) : StopStep p s (.stopWaiting container now) s (.stopFallback container now)
  /-- Another container of the sandbox runs. -/
  | refuse {p s container now} (h : hasOtherRunningContainers s.containers container = true) :
      StopStep p s (.stopFallback container now) s .returned
  | fails {p s container now} (survives : Bool) (hothers : hasOtherRunningContainers s.containers container = false)
      (h : s.vmManagers container.sandboxId = true) :
      StopStep p s (.stopFallback container now) (s.teardown container.sandboxId survives) .returned
  | teardown {p s container now} (survives : Bool) (hothers : hasOtherRunningContainers s.containers container = false) :
      StopStep p s (.stopFallback container now) (s.teardown container.sandboxId survives) (.stopTorn container now)
  /-- Record that the sandbox is not ready. -/
  | update {p s container now} :
      StopStep p s (.stopTorn container now) (s.notReady container.sandboxId) (.stopMarking container now)
  /-- Record that the container has exited, if it runs. -/
  | mark {p s container now containers}
      (h : (Mutation.markContainerExitedIfRunning container.id now 137 false).containers s.containers =
        some containers) :
      StopStep p s (.stopMarking container now) (s.withContainers containers)
        (.recorded container now "StopContainer" "Container stopped by sandbox VM teardown fallback")
  | late {p s container now}
      (h : (Mutation.markContainerExitedIfRunning container.id now 137 false).containers s.containers = none) :
      StopStep p s (.stopMarking container now) s (.cleaning container)

/-- What `stop_pod_sandbox` does. -/
inductive PodStep : ι → Shared ι → Place → Shared ι → Place → Prop where
  | read {p s id sandbox} (h : s.stores.sandboxes.lookup id = some sandbox) (hready : sandbox.state = .ready) :
      PodStep p s .idle s (.podListing id)
  | list {p s sandboxId} :
      PodStep p s (.podListing sandboxId) s
        (.podStopping sandboxId
          ((containersOf s.containers sandboxId).filter fun container => container.state == .running))
  /-- Tell the supervisor of one of them to stop. -/
  | send {p s sandboxId container before after} :
      PodStep p s (.podStopping sandboxId (before ++ container :: after)) (s.send container.id)
        (.podStopping sandboxId (before ++ after))
  /-- All have exited, or it takes too long: read the containers again. -/
  | relist {p s sandboxId} (now : ℤ) :
      PodStep p s (.podStopping sandboxId []) s
        (.podMarking sandboxId ((containersOf s.containers sandboxId).map (·.id))
          ((containersOf s.containers sandboxId).filter fun container => container.state != .exited) now)
  /-- Record that a container has exited, whatever it does now. -/
  | mark {p s sandboxId ids container rest now containers}
      (h : (Mutation.markContainerExited container.id now 137).containers s.containers = some containers) :
      PodStep p s (.podMarking sandboxId ids (container :: rest) now) (s.withContainers containers)
        (.podRecorded sandboxId ids container rest now)
  | emit {p s sandboxId ids container rest now} :
      PodStep p s (.podRecorded sandboxId ids container rest now)
        { s with events := stoppedEvent container now "StopPodSandbox" "Container stopped by pod sandbox shutdown" ::
            s.events }
        (.podMarking sandboxId ids rest now)
  | marked {p s sandboxId ids now} : PodStep p s (.podMarking sandboxId ids [] now) s (.podForgetting sandboxId ids)
  /-- Drop the sender for a container. -/
  | forget {p s sandboxId id ids} :
      PodStep p s (.podForgetting sandboxId (id :: ids)) (s.forget id) (.podForgetting sandboxId ids)
  | fails {p s sandboxId} (survives : Bool) (h : s.vmManagers sandboxId = true) :
      PodStep p s (.podForgetting sandboxId []) (s.teardown sandboxId survives) .returned
  | teardown {p s sandboxId} (survives : Bool) :
      PodStep p s (.podForgetting sandboxId []) (s.teardown sandboxId survives) (.podUpdating sandboxId)
  | update {p s sandboxId} : PodStep p s (.podUpdating sandboxId) (s.notReady sandboxId) .returned

/-- What all calls do, and what happens in the guest. -/
inductive Step : ι → Shared ι → Place → Shared ι → Place → Prop where
  | start {p s s' place place'} (h : StartStep p s place s' place') : Step p s place s' place'
  | supervisor {p s s' place place'} (h : SupervisorStep p s place s' place') : Step p s place s' place'
  | stop {p s s' place place'} (h : StopStep p s place s' place') : Step p s place s' place'
  | pod {p s s' place place'} (h : PodStep p s place s' place') : Step p s place s' place'
  | emit {p s container now reason message} :
      Step p s (.recorded container now reason message)
        { s with events := stoppedEvent container now reason message :: s.events } (.cleaning container)
  /-- Drop the sender for a container, and return. -/
  | clean {p s container} : Step p s (.cleaning container) (s.forget container.id) .returned
  /-- A call finds nothing to do. -/
  | refused {p s} : Step p s .idle s .returned
  | workloadEnds {p s place w} (h : s.workload p = some w) :
      Step p s place { s with workload := update s.workload p (some { w with running := false }) } place
  | vmDies {p s place} (sandboxId : String) :
      Step p s place { s with alive := update s.alive sandboxId false } place

/-! ### What is meant to hold -/

variable (s : Shared ι)

/-- The state of a container. -/
def Shared.stateOf (id : String) : Option ContainerState := (s.containers.lookup id).map (·.state)

/-- The workload of a process runs in a virtual machine that is alive. -/
def Shared.Live (p : ι) : Prop :=
  ∃ w, s.workload p = some w ∧ w.running = true ∧ s.alive w.sandboxId = true

/-- The process has launched a workload of a container. -/
def Shared.Of (p : ι) (id : String) : Prop := ∃ w, s.workload p = some w ∧ w.containerId = id

/-- How often an event has said that a container has stopped. -/
def Shared.stoppedEvents (id : String) : ℕ :=
  s.events.countP fun event => event.containerId == id && event.type == .stopped

/-- The process has recorded the exit of a container, and has to send the event. -/
def Place.Emits (id : String) : Place → Prop
  | .recorded container _ _ _ => container.id = id
  | .podRecorded _ _ container _ _ => container.id = id
  | _ => False

/-- A container goes from created to running to exited, or from created to exited, and what is recorded of its exit
stays. -/
def Advances (before after : Container) : Prop :=
  (before.state = after.state ∨ before.state = .created ∧ after.state = .running ∨
    before.state ≠ .exited ∧ after.state = .exited) ∧
  (before.state = .exited →
    after.exitCode = before.exitCode ∧ after.finishedAt = before.finishedAt ∧ after.oomKilled = before.oomKilled)

/-- The container is still created, and no process has just launched a workload for it. -/
def Untouched (s : State ι (Shared ι) Place) (id : String) : Prop :=
  s.shared.stateOf id = some .created ∧ ∀ q container, s.place q = .launched container → container.id ≠ id

/-- A step does not act on what has become stale. -/
structure Orderly (s : State ι (Shared ι) Place) (p : ι) (_shared : Shared ι) (place : Place) : Prop where
  /-- A workload is launched only for a container that nothing has happened to. -/
  launch : ∀ {container}, s.place p = .connecting container → place = .launched container → Untouched s container.id
  /-- The stream of a workload ends only once the workload or its virtual machine has ended. -/
  ends : ∀ {container stopRequested exit}, s.place p = .supervising container stopRequested →
    place = .ended container exit → ¬ s.shared.Live p
  /-- `StopContainer` records the exit of a created container only if nothing has happened to it. -/
  stopCreated : ∀ {container now reason message}, s.place p = .stopCreated container now →
    place = .recorded container now reason message → Untouched s container.id
  /-- `StopContainer` records the exit of another only if the virtual machine was stopped. -/
  stopMarking : ∀ {container now reason message}, s.place p = .stopMarking container now →
    place = .recorded container now reason message → s.shared.alive container.sandboxId = false
  /-- `StopPodSandbox` records the exit of a container only if it has none, and its workload has ended. -/
  podMarking : ∀ {sandboxId ids container rest now}, s.place p = .podMarking sandboxId ids (container :: rest) now →
    place = .podRecorded sandboxId ids container rest now →
      s.shared.stateOf container.id ≠ some .exited ∧ ∀ q, s.shared.Of q container.id → ¬ s.shared.Live q

/-! ### What a step does -/

/-- The container whose workload a process has launched and not yet seen to its end. -/
def Place.working : Place → Option Container
  | .launched container | .started container _ | .registered container _ | .supervising container _
  | .ended container _ => some container
  | _ => none

/-- The containers that a process has read. -/
def Place.held : Place → List Container
  | .starting container | .connecting container | .launched container | .started container _
  | .registered container _ | .supervising container _ | .ended container _ | .recorded container _ _ _
  | .cleaning container | .stopCreated container _ | .stopRunning container _ | .stopWaiting container _
  | .stopFallback container _ | .stopTorn container _ | .stopMarking container _ => [container]
  | .podStopping _ containers | .podMarking _ _ containers _ => containers
  | .podRecorded _ _ container rest _ => container :: rest
  | _ => []

/-- Workloads and virtual machines may end, and nothing else happens to them. -/
structure Fades (s s' : Shared ι) : Prop where
  workload : ∀ {q w'}, s'.workload q = some w' → ∃ w, s.workload q = some w ∧ w'.containerId = w.containerId ∧
    w'.sandboxId = w.sandboxId ∧ (w'.running = true → w.running = true)
  kept : ∀ {q id}, s.Of q id → s'.Of q id
  alive : ∀ {sandboxId}, s'.alive sandboxId = true → s.alive sandboxId = true

/-- The places before and after an exit is recorded for a container, with the one that is in the store. -/
def Recorder (place place' : Place) (container stored : Container) : Prop :=
  (∃ exit, place = .ended container exit ∧ stored.state = .running) ∨
  (∃ now reason message, place = .stopCreated container now ∧ place' = .recorded container now reason message) ∨
  (∃ now reason message, place = .stopMarking container now ∧ place' = .recorded container now reason message ∧
    stored.state = .running) ∨
  ∃ sandboxId ids rest now, place = .podMarking sandboxId ids (container :: rest) now ∧
    place' = .podRecorded sandboxId ids container rest now

/-- What a step may do. -/
inductive Change (p : ι) (s : Shared ι) (place : Place) (s' : Shared ι) (place' : Place) : Prop where
  | quiet (containers : s'.containers = s.containers) (events : ∀ id, s'.stoppedEvents id = s.stoppedEvents id)
      (emits : ∀ id, place'.Emits id ↔ place.Emits id) (fades : Fades s s')
      (working : place'.working = place.working ∨ place'.working = none)
      (launched : ∀ {container}, place = .launched container → place' = place ∨ s.stateOf container.id ≠ some .created)
      (ended : ∀ {container exit}, place' = .ended container exit →
        place = place' ∨ ∃ stopRequested, place = .supervising container stopRequested)
  | launch {container} (before : place = .connecting container) (after : place' = .launched container)
      (containers : s'.containers = s.containers) (events : s'.events = s.events) (alive : s'.alive = s.alive)
      (workload : s'.workload = update s.workload p (some ⟨container.id, container.sandboxId, true, false⟩))
  | start {container stored now} (before : place = .launched container) (after : place' = .started container now)
      (lookup : s.containers.lookup container.id = some stored) (created : stored.state = .created)
      (containers : s'.containers = s.containers.insert container.id { stored with state := .running, startedAt := now })
      (events : s'.events = s.events) (alive : s'.alive = s.alive) (workload : s'.workload = s.workload)
  | record {container stored exited} (before : Recorder place place' container stored)
      (after : ∀ id, place'.Emits id ↔ container.id = id) (working : place'.working = none)
      (lookup : s.containers.lookup container.id = some stored) (state : exited.state = .exited)
      (sandbox : exited.sandboxId = stored.sandboxId) (id : exited.id = stored.id)
      (containers : s'.containers = s.containers.insert container.id exited) (events : s'.events = s.events)
      (alive : s'.alive = s.alive) (workload : s'.workload = s.workload)
  | emit {container now reason message} (before : ∀ id, place.Emits id ↔ container.id = id)
      (after : ∀ id, ¬ place'.Emits id) (working : place'.working = none) (unworking : place.working = none)
      (events : s'.events = stoppedEvent container now reason message :: s.events)
      (containers : s'.containers = s.containers) (alive : s'.alive = s.alive) (workload : s'.workload = s.workload)

variable {β : Type} {id : String} {container new stored : Container} {now : ℤ}

theorem updateIf_eq_some {m m' : AList fun _ : String => β} {p : β → Bool} {f : β → β}
    (h : updateIf m id p f = some m') : ∃ b, m.lookup id = some b ∧ p b = true ∧ m' = m.insert id (f b) := by
  rw [updateIf] at h
  split at h
  · cases h
  next b hb =>
    split_ifs at h with hp
    exact ⟨b, hb, hp, (some.inj h).symm⟩

theorem updateIf_eq_none {m : AList fun _ : String => β} {p : β → Bool} {f : β → β}
    (h : updateIf m id p f = none) {b : β} (hb : m.lookup id = some b) : p b = false := by
  simp only [updateIf, hb] at h
  split_ifs at h with hp
  simpa using hp

variable {p : ι} {s s' : Shared ι} {place place' : Place}

omit [DecidableEq ι] in
theorem Fades.of_eq (hworkload : s'.workload = s.workload)
    (halive : ∀ {other}, s'.alive other = true → s.alive other = true) : Fades s s' where
  workload h := ⟨_, hworkload ▸ h, rfl, rfl, id⟩
  kept := by
    rintro q id ⟨w, hw, hid⟩
    exact ⟨w, hworkload ▸ hw, hid⟩
  alive := halive

omit [DecidableEq ι] in
theorem stoppedEvents_eq (h : s'.events = s.events) (id) : s'.stoppedEvents id = s.stoppedEvents id := by
  rw [Shared.stoppedEvents, Shared.stoppedEvents, h]

omit [DecidableEq ι] in
theorem stateOf_of_lookup (h : s.containers.lookup id = some stored) : s.stateOf id = some stored.state := by
  rw [Shared.stateOf, h]
  rfl

theorem fades_update {w w'} (hw : s.workload p = some w) (hid : w'.containerId = w.containerId)
    (hsandbox : w'.sandboxId = w.sandboxId) (hrunning : w'.running = true → w.running = true) :
    Fades s { s with workload := update s.workload p (some w') } where
  workload := by
    intro q w'' hq
    dsimp only at hq
    rw [update_apply] at hq
    split_ifs at hq with hqp
    · subst hqp
      obtain rfl := some.inj hq
      exact ⟨w, hw, hid, hsandbox, hrunning⟩
    · exact ⟨w'', hq, rfl, rfl, id⟩
  kept := by
    rintro q id ⟨w₀, hw₀, rfl⟩
    by_cases hqp : q = p
    · subst hqp
      obtain rfl := some.inj (hw.symm.trans hw₀)
      exact ⟨w', update_self .., hid⟩
    · exact ⟨w₀, (update_of_ne hqp ..).trans hw₀, rfl⟩
  alive h := h

/-- Only senders and channels change. -/
theorem send_eq (s : Shared ι) (id : String) :
    ∃ workloadStops signal, s.send id = { s with workloadStops, signal } := by
  rw [Shared.send]
  split
  · exact ⟨_, _, rfl⟩
  · exact ⟨_, _, rfl⟩

theorem forget_eq (s : Shared ι) (id : String) :
    ∃ workloadStops signal, s.forget id = { s with workloadStops, signal } := by
  rw [Shared.forget]
  split
  · exact ⟨_, _, rfl⟩
  · exact ⟨_, _, rfl⟩

/-- A step that reads something, or does something to senders and virtual machines only. -/
theorem Change.of_fades (hstores : s'.stores.containers = s.stores.containers)
    (hevents : s'.events = s.events) (hworkload : s'.workload = s.workload)
    (halive : ∀ {other}, s'.alive other = true → s.alive other = true) (hemits : ∀ id, ¬ place.Emits id)
    (hemits' : ∀ id, ¬ place'.Emits id) (hworking : place'.working = place.working ∨ place'.working = none)
    (hlaunched : ∀ {container}, place = .launched container → s.stateOf container.id ≠ some .created)
    (hended : ∀ {container exit}, place' = .ended container exit →
      ∃ stopRequested, place = .supervising container stopRequested) :
    Change p s place s' place' :=
  .quiet hstores (stoppedEvents_eq hevents) (fun id => iff_of_false (hemits' id) (hemits id)) (.of_eq hworkload halive)
    hworking (fun h => .inr (hlaunched h)) fun h => .inr (hended h)

section Quiet

variable (hemits : ∀ id, ¬ place.Emits id) (hemits' : ∀ id, ¬ place'.Emits id) (hworking : place.working = none)
  (hworking' : place'.working = none)
include hemits hemits' hworking hworking'

/-- A step of a process that has nothing to do with the guest, from one place to another. -/
theorem Change.of_quiet (hstores : s'.stores.containers = s.stores.containers) (hevents : s'.events = s.events)
    (hworkload : s'.workload = s.workload) (halive : ∀ {other}, s'.alive other = true → s.alive other = true) :
    Change p s place s' place' :=
  .of_fades hstores hevents hworkload halive hemits hemits' (.inr hworking')
    (fun h => by rw [h] at hworking; cases hworking) fun h => by rw [h] at hworking'; cases hworking'

theorem Change.of_signal (h : ∃ workloadStops signal, s' = { s with workloadStops, signal }) :
    Change p s place s' place' := by
  obtain ⟨_, _, rfl⟩ := h
  exact .of_quiet hemits hemits' hworking hworking' rfl rfl rfl id

theorem Change.of_teardown (sandboxId) (survives : Bool) :
    Change p s place (s.teardown sandboxId survives) place' := by
  -- the manager changes, and the process of the virtual machine may end
  rw [Shared.teardown]
  split_ifs
  · refine .of_quiet hemits hemits' hworking hworking' rfl rfl rfl fun {other} h => ?_
    dsimp only at h
    by_cases hother : other = sandboxId
    · subst hother
      rw [update_self, Bool.and_eq_true] at h
      exact h.1
    · rwa [update_of_ne hother] at h
  · exact .of_quiet hemits hemits' hworking hworking' rfl rfl rfl id

end Quiet

theorem Change.of_mark {containers : Containers} {q : Container → Bool} {f : Container → Container}
    (hmark : updateIf s.containers container.id q f = some containers)
    (hf : ∀ c, (f c).state = .exited ∧ (f c).sandboxId = c.sandboxId ∧ (f c).id = c.id)
    (hbefore : ∀ stored, q stored = true → Recorder place place' container stored)
    (hafter : ∀ id, place'.Emits id ↔ container.id = id) (hworking : place'.working = none) :
    Change p s place (s.withContainers containers) place' := by
  obtain ⟨stored, hlookup, hq, rfl⟩ := updateIf_eq_some hmark
  obtain ⟨hstate, hsandbox, hid⟩ := hf stored
  exact .record (hbefore stored hq) hafter hworking hlookup hstate hsandbox hid rfl rfl rfl rfl

theorem change_start (h : StartStep p s place s' place') : Change p s place s' place' := by
  cases h with
  | read _ _ | find _ => exact .of_quiet (fun _ => id) (fun _ => id) rfl rfl rfl rfl rfl id
  | fails hplace =>
    rcases hplace with rfl | rfl
    · exact .of_quiet (fun _ => id) (fun _ => id) rfl rfl rfl rfl rfl id
    · exact .of_quiet (fun _ => id) (fun _ => id) rfl rfl rfl rfl rfl id
  | launch => exact .launch rfl rfl rfl rfl rfl rfl
  | mark _ hmark =>
    obtain ⟨_, hlookup, hcreated, rfl⟩ := updateIf_eq_some hmark
    exact .start rfl rfl hlookup (by simpa using hcreated) rfl rfl rfl rfl
  | late _ hlate =>
    refine .of_fades rfl rfl rfl id (fun _ => id) (fun _ => id) (.inl rfl) (fun hplace => ?_) nofun
    cases hplace
    intro hstate
    obtain ⟨_, hlookup, hcreated⟩ := map_eq_some_iff.mp hstate
    have hne := updateIf_eq_none hlate hlookup
    rw [hcreated] at hne
    cases hne
  | register =>
    exact .of_fades rfl rfl rfl id (fun _ => id) (fun _ => id) (.inl rfl) nofun nofun
  | emit =>
    refine .quiet rfl (fun id => ?_) (fun _ => .rfl) (.of_eq rfl id) (.inl rfl) nofun nofun
    simp [Shared.stoppedEvents, startedEvent]

theorem change_supervisor (h : SupervisorStep p s place s' place') : Change p s place s' place' := by
  cases h with
  | cancel _ hw =>
    exact .quiet rfl (fun _ => rfl) (fun _ => .rfl) (fades_update hw rfl rfl id) (.inl rfl) nofun
      nofun
  | closed =>
    exact .of_fades rfl rfl rfl id (fun _ => id) (fun _ => id) (.inl rfl) nofun nofun
  | ends =>
    refine .of_fades rfl rfl rfl id (fun _ => id) (fun _ => id) (.inl rfl) nofun (fun h => ?_)
    cases h
    exact ⟨_, rfl⟩
  | mark hmark =>
    exact .of_mark hmark (fun _ => ⟨rfl, rfl, rfl⟩) (fun _ hrunning => .inl ⟨_, rfl, by simpa using hrunning⟩)
      (fun _ => .rfl) rfl
  | late =>
    exact .of_fades rfl rfl rfl id (fun _ => id) (fun _ => id) (.inr rfl) nofun nofun

theorem change_stop (h : StopStep p s place s' place') : Change p s place s' place' := by
  cases h with
  | readCreated _ _ _ | readRunning _ _ _ | unsent _ | exited _ _ | timeout _ _ | refuse _ | update | late _ =>
    exact .of_quiet (fun _ => id) (fun _ => id) rfl rfl rfl rfl rfl id
  | markCreated hmark =>
    exact .of_mark hmark (fun _ => ⟨rfl, rfl, rfl⟩) (fun _ _ => .inr (.inl ⟨_, _, _, rfl, rfl⟩)) (fun _ => .rfl) rfl
  | send => exact .of_signal (fun _ => id) (fun _ => id) rfl rfl (send_eq _ _)
  | fails survives _ _ | teardown survives _ => exact .of_teardown (fun _ => id) (fun _ => id) rfl rfl _ survives
  | mark hmark =>
    exact .of_mark hmark (fun _ => ⟨rfl, rfl, rfl⟩)
      (fun _ hrunning => .inr (.inr (.inl ⟨_, _, _, rfl, rfl, by simpa using hrunning⟩))) (fun _ => .rfl) rfl

theorem change_pod (h : PodStep p s place s' place') : Change p s place s' place' := by
  cases h with
  | read _ _ | list | relist now | marked | update => exact .of_quiet (fun _ => id) (fun _ => id) rfl rfl rfl rfl rfl id
  | send => exact .of_signal (fun _ => id) (fun _ => id) rfl rfl (send_eq _ _)
  | mark hmark =>
    exact .of_mark hmark (fun _ => ⟨rfl, rfl, rfl⟩) (fun _ _ => .inr (.inr (.inr ⟨_, _, _, _, rfl, rfl⟩)))
      (fun _ => .rfl) rfl
  | emit => exact .emit (fun _ => .rfl) (fun _ => id) rfl rfl rfl rfl rfl rfl
  | forget => exact .of_signal (fun _ => id) (fun _ => id) rfl rfl (forget_eq _ _)
  | fails survives _ | teardown survives => exact .of_teardown (fun _ => id) (fun _ => id) rfl rfl _ survives

/-- **What a step may do.** -/
theorem step_change (h : Step p s place s' place') : Change p s place s' place' := by
  cases h with
  | start h => exact change_start h
  | supervisor h => exact change_supervisor h
  | stop h => exact change_stop h
  | pod h => exact change_pod h
  | emit => exact .emit (fun _ => .rfl) (fun _ => id) rfl rfl rfl rfl rfl rfl
  | clean => exact .of_signal (fun _ => id) (fun _ => id) rfl rfl (forget_eq _ _)
  | refused => exact .of_quiet (fun _ => id) (fun _ => id) rfl rfl rfl rfl rfl id
  | workloadEnds hw =>
    exact .quiet rfl (fun _ => rfl) (fun _ => .rfl) (fades_update hw rfl rfl nofun) (.inl rfl)
      (fun _ => .inl rfl) (fun _ => .inl rfl)
  | vmDies sandboxId =>
    refine .quiet rfl (fun _ => rfl) (fun _ => .rfl) (.of_eq rfl fun {other} h => ?_) (.inl rfl) (fun _ => .inl rfl)
      (fun _ => .inl rfl)
    by_cases hother : other = sandboxId
    · subst hother
      simp at h
    · simpa [update_of_ne hother] using h

/-! ### What is read -/

omit [DecidableEq ι] in
theorem lookup_of_mem_containersOf (hkeyed : Keyed Container.id s.containers) {sandboxId}
    (h : container ∈ containersOf s.containers sandboxId) : s.containers.lookup container.id = some container := by
  obtain ⟨⟨key, stored⟩, hentry, rfl⟩ := List.mem_map.mp (List.mem_filter.mp h).1
  have hlookup := mem_lookup_iff.mpr hentry
  rwa [hkeyed key stored hlookup]

/-- What a process holds after a step it has held before, or has read from the store. -/
theorem step_held (hkeyed : Keyed Container.id s.containers) (h : Step p s place s' place')
    (hheld : container ∈ place'.held) : container ∈ place.held ∨ s.containers.lookup container.id = some container := by
  have hread : ∀ {id : String} {c : Container}, s.containers.lookup id = some c →
      s.containers.lookup c.id = some c := fun {id c} hc => by rwa [hkeyed id c hc]
  cases h with
  | start h =>
    cases h with
    | read hlookup =>
      obtain rfl := mem_singleton.mp hheld
      exact .inr (hread hlookup)
    | fails => cases hheld
    | _ => exact .inl hheld
  | supervisor h => cases h <;> exact .inl hheld
  | stop h =>
    cases h with
    | readCreated _ hlookup _ | readRunning _ hlookup _ =>
      obtain rfl := mem_singleton.mp hheld
      exact .inr (hread hlookup)
    | refuse => cases hheld
    | fails => cases hheld
    | _ => exact .inl hheld
  | pod h =>
    cases h with
    | list | relist _ => exact .inr (lookup_of_mem_containersOf hkeyed (mem_filter.mp hheld).1)
    | send =>
      left
      rcases mem_append.mp hheld with hmem | hmem
      · exact mem_append_left _ hmem
      · exact mem_append_right _ (mem_cons_of_mem _ hmem)
    | emit => exact .inl (mem_cons_of_mem _ hheld)
    | _ => exact .inl hheld
  | emit | workloadEnds _ | vmDies _ => exact .inl hheld
  | clean => cases hheld
  | refused => cases hheld

/-! ### What holds in every orderly run -/

/-- The container is in the sandbox. -/
def Shared.InSandbox (s : Shared ι) (id sandboxId : String) : Prop :=
  ∃ container, s.containers.lookup id = some container ∧ container.sandboxId = sandboxId

/-- The events of a container: none while it has not exited; then one, or a process that is about to send it. -/
def EventsOf (s : State ι (Shared ι) Place) (id : String) : Prop :=
  if s.shared.stateOf id = some .exited then
    s.shared.stoppedEvents id = 1 ∧ (∀ p, ¬ (s.place p).Emits id) ∨
      s.shared.stoppedEvents id = 0 ∧ ∃ p, (s.place p).Emits id ∧ ∀ q, (s.place q).Emits id → q = p
  else s.shared.stoppedEvents id = 0 ∧ ∀ p, ¬ (s.place p).Emits id

/-- What holds in every orderly run. -/
structure Inv (s : State ι (Shared ι) Place) : Prop where
  keyed : Keyed Container.id s.shared.containers
  held : ∀ {p container}, container ∈ (s.place p).held → s.shared.InSandbox container.id container.sandboxId
  origin : ∀ {p w}, s.shared.workload p = some w → s.shared.InSandbox w.containerId w.sandboxId
  working : ∀ {p container}, (s.place p).working = some container → s.shared.Of p container.id
  /-- The workload of a container that is still created was just launched. -/
  fresh : ∀ {p id}, s.shared.Of p id → s.shared.stateOf id = some .created →
    ∃ container, s.place p = .launched container ∧ container.id = id
  single : ∀ {p q id}, s.shared.Of p id → s.shared.Of q id → p = q
  /-- When the stream of a workload has ended, the workload or its virtual machine has. -/
  ended : ∀ {p container exit}, s.place p = .ended container exit → ¬ s.shared.Live p
  gone : ∀ {p id}, s.shared.Of p id → s.shared.stateOf id = some .exited → ¬ s.shared.Live p
  events : ∀ id, EventsOf s id

variable {q : ι}

omit [DecidableEq ι] in
theorem Fades.of_of (h : Fades s s') (hof : s'.Of q id) : s.Of q id := by
  obtain ⟨_, hw', rfl⟩ := hof
  obtain ⟨w, hw, hid, -, -⟩ := h.workload hw'
  exact ⟨w, hw, hid.symm⟩

omit [DecidableEq ι] in
theorem Fades.of_live (h : Fades s s') (hlive : s'.Live q) : s.Live q := by
  obtain ⟨_, hw', hrunning, halive⟩ := hlive
  obtain ⟨w, hw, -, hsandbox, hrun⟩ := h.workload hw'
  exact ⟨w, hw, hrun hrunning, h.alive (hsandbox ▸ halive)⟩

omit [DecidableEq ι] in
theorem stateOf_eq (h : s'.containers = s.containers) (id) : s'.stateOf id = s.stateOf id := by
  rw [Shared.stateOf, Shared.stateOf, h]

variable {t : State ι (Shared ι) Place}

theorem EventsOf.move (h : EventsOf t id) (hstate : s'.stateOf id = some .exited ↔ t.shared.stateOf id = some .exited)
    (hcount : s'.stoppedEvents id = t.shared.stoppedEvents id) (hemits : place'.Emits id ↔ (t.place p).Emits id) :
    EventsOf (t.move p s' place') id := by
  have hemitsAll : ∀ q, ((t.move p s' place').place q).Emits id ↔ (t.place q).Emits id :=
    t.forall_move (P := fun q place => place.Emits id ↔ (t.place q).Emits id) hemits fun _ _ => .rfl
  simp only [EventsOf, move_shared, hstate, hcount, hemitsAll] at h ⊢
  exact h

omit [DecidableEq ι] in
theorem inSandbox_of_eq (h : s'.containers = s.containers) {id sandboxId} (hin : s.InSandbox id sandboxId) :
    s'.InSandbox id sandboxId := by
  obtain ⟨container, hlookup, hsandbox⟩ := hin
  exact ⟨container, h ▸ hlookup, hsandbox⟩

omit [DecidableEq ι] in
theorem stateOf_insert_self (h : s'.containers = s.containers.insert id new) : s'.stateOf id = some new.state := by
  rw [Shared.stateOf, h, lookup_insert]
  rfl

omit [DecidableEq ι] in
theorem stateOf_insert_ne {other} (h : s'.containers = s.containers.insert id new) (hne : other ≠ id) :
    s'.stateOf other = s.stateOf other := by
  rw [Shared.stateOf, h, lookup_insert_ne hne]
  rfl

section Step

variable (hinv : Inv t) (h : Step p t.shared (t.place p) s' place')
include hinv h

theorem Inv.held_move (hkeeps : ∀ {id sandboxId}, t.shared.InSandbox id sandboxId → s'.InSandbox id sandboxId) (q : ι) :
    ∀ container ∈ ((t.move p s' place').place q).held, s'.InSandbox container.id container.sandboxId := by
  refine t.forall_move (P := fun _ place => ∀ container ∈ place.held, s'.InSandbox container.id container.sandboxId)
    (fun container hheld => ?_) (fun q _ container hheld => hkeeps (hinv.held hheld)) q
  rcases step_held hinv.keyed h hheld with hheld | hlookup
  · exact hkeeps (hinv.held hheld)
  · exact hkeeps ⟨container, hlookup, rfl⟩

/-- A step that launches nothing: what has to be shown is about the container it changes, and the place it goes to. -/
theorem Inv.of_fades (hkeyed : Keyed Container.id s'.containers)
    (hkeeps : ∀ {id sandboxId}, t.shared.InSandbox id sandboxId → s'.InSandbox id sandboxId)
    (hfades : Fades t.shared s') (hworking : place'.working = (t.place p).working ∨ place'.working = none)
    (hfresh : ∀ {q id}, t.shared.Of q id → s'.stateOf id = some .created →
      ∃ container, (t.move p s' place').place q = .launched container ∧ container.id = id)
    (hended : ∀ {container exit}, place' = .ended container exit → ¬ t.shared.Live p)
    (hgone : ∀ {q id}, t.shared.Of q id → s'.stateOf id = some .exited → ¬ t.shared.Live q)
    (hevents : ∀ id, EventsOf (t.move p s' place') id) : Inv (t.move p s' place') := by
  refine
    { keyed := hkeyed
      held := fun {q container} => hinv.held_move h hkeeps q container
      origin := fun {q w'} hw' => ?_
      working := fun {q} => ?_
      fresh := fun hof => hfresh (hfades.of_of hof)
      single := fun hp hq => hinv.single (hfades.of_of hp) (hfades.of_of hq)
      ended := fun {q} => ?_
      gone := fun hof hexited hlive => hgone (hfades.of_of hof) hexited (hfades.of_live hlive)
      events := hevents }
  · obtain ⟨_, hw, hid, hsandbox, -⟩ := hfades.workload hw'
    rw [hid, hsandbox]
    exact hkeeps (hinv.origin hw)
  · refine t.forall_move (P := fun q place => ∀ {container}, place.working = some container → s'.Of q container.id)
      (fun hw => ?_) (fun q _ => fun hw => hfades.kept (hinv.working hw)) q
    rcases hworking with hsame | hnone
    · exact hfades.kept (hinv.working (hsame ▸ hw))
    · rw [hnone] at hw
      cases hw
  · exact t.forall_move (P := fun q place => ∀ {container exit}, place = .ended container exit → ¬ s'.Live q)
      (fun hplace hlive => hended hplace (hfades.of_live hlive))
      (fun q _ => fun hplace hlive => hinv.ended hplace (hfades.of_live hlive)) q

theorem Inv.quiet (hok : Orderly t p s' place') (hcontainers : s'.containers = t.shared.containers)
    (hevents : ∀ id, EventsOf (t.move p s' place') id) (hfades : Fades t.shared s')
    (hworking : place'.working = (t.place p).working ∨ place'.working = none)
    (hlaunched : ∀ {container}, t.place p = .launched container →
      place' = t.place p ∨ t.shared.stateOf container.id ≠ some .created)
    (hended : ∀ {container exit}, place' = .ended container exit →
      t.place p = place' ∨ ∃ stopRequested, t.place p = .supervising container stopRequested) :
    Inv (t.move p s' place') := by
  refine hinv.of_fades h (hcontainers ▸ hinv.keyed) (inSandbox_of_eq hcontainers) hfades hworking
    (fun {q id} hof hcreated => ?_) (fun hplace => ?_)
    (fun hof hexited => hinv.gone hof (stateOf_eq hcontainers _ ▸ hexited)) hevents
  · have hstill : t.shared.stateOf id = some .created := stateOf_eq hcontainers id ▸ hcreated
    obtain ⟨container, hplace, hid⟩ := hinv.fresh hof hstill
    refine ⟨container, ?_, hid⟩
    by_cases hq : q = p
    · subst hq
      rw [move_place_self]
      rcases hlaunched hplace with hsame | hstate
      · exact hsame.trans hplace
      · exact absurd (hid ▸ hstill) hstate
    · rwa [move_place_ne _ hq]
  · rcases hended hplace with hsame | ⟨_, hsupervising⟩
    · exact hinv.ended (hsame.trans hplace)
    · exact hok.ends hsupervising hplace

theorem Inv.launch (hok : Orderly t p s' place')
    (hbefore : t.place p = .connecting container) (hafter : place' = .launched container)
    (hcontainers : s'.containers = t.shared.containers) (hevents : s'.events = t.shared.events)
    (halive : s'.alive = t.shared.alive)
    (hworkload : s'.workload = update t.shared.workload p (some ⟨container.id, container.sandboxId, true, false⟩)) :
    Inv (t.move p s' place') := by
  obtain ⟨hcreated, hnone⟩ := hok.launch hbefore hafter
  have hkeeps : ∀ {id sandboxId}, t.shared.InSandbox id sandboxId → s'.InSandbox id sandboxId :=
    inSandbox_of_eq hcontainers
  -- what the others have launched is what it was; the process itself has launched one workload
  have hself : ∀ {id}, s'.Of p id ↔ container.id = id := by
    simp [Shared.Of, hworkload]
  have hother : ∀ {q id}, q ≠ p → (s'.Of q id ↔ t.shared.Of q id) := by
    intro q id hq
    simp [Shared.Of, hworkload, update_of_ne hq]
  have hlive : ∀ {q}, q ≠ p → (s'.Live q ↔ t.shared.Live q) := by
    intro q hq
    simp [Shared.Live, hworkload, halive, update_of_ne hq]
  -- nobody has launched one for this container
  have hunlaunched : ∀ q, ¬ t.shared.Of q container.id := by
    intro q hof
    obtain ⟨c, hplace, hid⟩ := hinv.fresh hof hcreated
    exact hnone q c hplace hid
  refine
    { keyed := hcontainers ▸ hinv.keyed
      held := fun {q container} => hinv.held_move h hkeeps q container
      origin := fun {q w} hw => ?_
      working := fun {q} => ?_
      fresh := fun {q id} hof hstate => ?_
      single := fun {q r id} hq hr => ?_
      ended := fun {q} => ?_
      gone := fun {q id} hof hexited => ?_
      events := fun id => ?_ }
  · by_cases hq : q = p
    · subst hq
      rw [move_shared, hworkload, update_self] at hw
      obtain rfl := some.inj hw
      exact hkeeps (hinv.held (p := q) (by rw [hbefore]; exact mem_singleton_self _))
    · rw [move_shared, hworkload, update_of_ne hq] at hw
      exact hkeeps (hinv.origin hw)
  · refine t.forall_move (P := fun q place => ∀ {c}, place.working = some c → s'.Of q c.id)
      (fun {c} hw => ?_) (fun q hq => fun hw => (hother hq).mpr (hinv.working hw)) q
    rw [hafter] at hw
    obtain rfl := some.inj hw
    exact hself.mpr rfl
  · by_cases hq : q = p
    · subst hq
      exact ⟨container, by rw [move_place_self, hafter], hself.mp hof⟩
    · obtain ⟨c, hplace, hid⟩ := hinv.fresh ((hother hq).mp hof) (stateOf_eq hcontainers id ▸ hstate)
      exact ⟨c, by rwa [move_place_ne _ hq], hid⟩
  · by_cases hqp : q = p <;> by_cases hrp : r = p
    · rw [hqp, hrp]
    · rw [hqp] at hq
      rw [← hself.mp hq] at hr
      exact absurd ((hother hrp).mp hr) (hunlaunched r)
    · rw [hrp] at hr
      rw [← hself.mp hr] at hq
      exact absurd ((hother hqp).mp hq) (hunlaunched q)
    · exact hinv.single ((hother hqp).mp hq) ((hother hrp).mp hr)
  · refine t.forall_move (P := fun q place => ∀ {c exit}, place = .ended c exit → ¬ s'.Live q)
      (fun hplace => by rw [hafter] at hplace; cases hplace)
      (fun q hq => fun hplace hl => hinv.ended hplace ((hlive hq).mp hl)) q
  · have hstill : t.shared.stateOf id = some .exited := stateOf_eq hcontainers id ▸ hexited
    by_cases hq : q = p
    · subst hq
      rw [← hself.mp hof, hcreated] at hstill
      cases hstill
    · exact fun hl => hinv.gone ((hother hq).mp hof) hstill ((hlive hq).mp hl)
  · exact (hinv.events id).move (by rw [stateOf_eq hcontainers]) (stoppedEvents_eq hevents id)
      (by rw [hbefore, hafter]; rfl)

theorem Inv.insert (hlookup : t.shared.containers.lookup container.id = some stored)
    (hcontainers : s'.containers = t.shared.containers.insert container.id new)
    (hsandbox : new.sandboxId = stored.sandboxId) (hid : new.id = stored.id) (halive : s'.alive = t.shared.alive)
    (hworkload : s'.workload = t.shared.workload) (hstate : new.state ≠ .created)
    (hworking : place'.working = (t.place p).working ∨ place'.working = none)
    (hended : ∀ {c exit}, place' ≠ .ended c exit) (hlaunched : ∀ {c}, t.place p = .launched c → c.id = container.id)
    (hgone : new.state = .exited → ∀ {q}, t.shared.Of q container.id → ¬ t.shared.Live q)
    (hevents : ∀ id, EventsOf (t.move p s' place') id) : Inv (t.move p s' place') := by
  have hfades : Fades t.shared s' := .of_eq hworkload fun h => halive ▸ h
  have hstored : stored.id = container.id := hinv.keyed _ _ hlookup
  have hkeeps : ∀ {id sandboxId}, t.shared.InSandbox id sandboxId → s'.InSandbox id sandboxId := by
    rintro id sandboxId ⟨c, hc, hcs⟩
    by_cases hne : id = container.id
    · subst hne
      obtain rfl := some.inj (hlookup.symm.trans hc)
      exact ⟨new, by rw [hcontainers, lookup_insert], hsandbox.trans hcs⟩
    · exact ⟨c, by rwa [hcontainers, lookup_insert_ne hne], hcs⟩
  refine hinv.of_fades h ?_ hkeeps hfades hworking (fun {q id} hof hcreated => ?_)
    (fun hplace => absurd hplace hended) (fun {q id} hof hexited hlive => ?_) hevents
  · have hnew : new.id = container.id := hid.trans hstored
    rw [hcontainers, ← hnew]
    exact keyed_insert hinv.keyed new
  · have hne : id ≠ container.id := by
      rintro rfl
      rw [stateOf_insert_self hcontainers] at hcreated
      exact hstate (some.inj hcreated)
    rw [stateOf_insert_ne hcontainers hne] at hcreated
    obtain ⟨c, hplace, hcid⟩ := hinv.fresh hof hcreated
    by_cases hq : q = p
    · subst hq
      exact absurd (hcid.symm.trans (hlaunched hplace)) hne
    · exact ⟨c, by rwa [move_place_ne _ hq], hcid⟩
  · by_cases hne : id = container.id
    · subst hne
      rw [stateOf_insert_self hcontainers] at hexited
      exact hgone (some.inj hexited) hof hlive
    · rw [stateOf_insert_ne hcontainers hne] at hexited
      exact hinv.gone hof hexited hlive

theorem Inv.start (hbefore : t.place p = .launched container) (hafter : place' = .started container now)
    (hlookup : t.shared.containers.lookup container.id = some stored) (hcreated : stored.state = .created)
    (hcontainers : s'.containers =
      t.shared.containers.insert container.id { stored with state := .running, startedAt := now })
    (hevents : s'.events = t.shared.events) (halive : s'.alive = t.shared.alive)
    (hworkload : s'.workload = t.shared.workload) : Inv (t.move p s' place') := by
  refine hinv.insert h hlookup hcontainers rfl rfl halive hworkload (by simp) (.inl (by rw [hbefore, hafter]; rfl))
    (by simp [hafter]) (fun hplace => by rw [hbefore] at hplace; cases hplace; rfl) (by simp) fun id => ?_
  refine (hinv.events id).move ?_ (stoppedEvents_eq hevents id) (by rw [hbefore, hafter]; rfl)
  by_cases hid : id = container.id
  · -- the container was created and is running: it has no event before and after
    rw [hid, stateOf_insert_self hcontainers, stateOf_of_lookup hlookup, hcreated]
    simp
  · rw [stateOf_insert_ne hcontainers hid]

omit h [DecidableEq ι] in
/-- Where an orderly step records an exit, the container had not exited, and none of its workloads runs. -/
theorem Inv.recorded_ended (hok : Orderly t p s' place') (hbefore : Recorder (t.place p) place' container stored)
    (hlookup : t.shared.containers.lookup container.id = some stored) :
    t.shared.stateOf container.id ≠ some .exited ∧ ∀ {q}, t.shared.Of q container.id → ¬ t.shared.Live q := by
  have hstate := stateOf_of_lookup hlookup
  rcases hbefore with ⟨_, hplace, hrunning⟩ | ⟨now, reason, message, hplace, hafter⟩ |
    ⟨now, reason, message, hplace, hafter, hrunning⟩ | ⟨sandboxId, ids, rest, now, hplace, hafter⟩
  · -- the supervisor has seen the one workload of the container end
    refine ⟨by rw [hstate, hrunning]; simp, fun hof => ?_⟩
    obtain rfl := hinv.single hof (hinv.working (by rw [hplace]; rfl))
    exact hinv.ended hplace
  · -- the container is still created, and has no workload
    obtain ⟨hcreated, hnone⟩ := hok.stopCreated hplace hafter
    refine ⟨by rw [hcreated]; simp, fun hof _ => ?_⟩
    obtain ⟨c, hlaunched, hid⟩ := hinv.fresh hof hcreated
    exact hnone _ c hlaunched hid
  · -- the virtual machine was stopped, and what was read of the container is right about it
    refine ⟨by rw [hstate, hrunning]; simp, ?_⟩
    rintro q ⟨w, hw, hid⟩ ⟨w', hw', -, halive⟩
    obtain rfl := Option.some.inj (hw.symm.trans hw')
    obtain ⟨_, hc, hsandbox⟩ := hinv.held (p := p) (by rw [hplace]; exact List.mem_singleton_self container)
    obtain ⟨_, hc', hsandbox'⟩ := hinv.origin hw
    rw [hid, hc] at hc'
    obtain rfl := Option.some.inj hc'
    rw [← hsandbox', hsandbox, hok.stopMarking hplace hafter] at halive
    cases halive
  · obtain ⟨hne, hended⟩ := hok.podMarking hplace hafter
    exact ⟨hne, fun {q} => hended q⟩

variable (hok : Orderly t p s' place')

include hok

theorem Inv.record {exited}
    (hbefore : Recorder (t.place p) place' container stored) (hafter : ∀ id, place'.Emits id ↔ container.id = id)
    (hworking : place'.working = none) (hlookup : t.shared.containers.lookup container.id = some stored)
    (hstate : exited.state = .exited) (hsandbox : exited.sandboxId = stored.sandboxId) (hid : exited.id = stored.id)
    (hcontainers : s'.containers = t.shared.containers.insert container.id exited)
    (hevents : s'.events = t.shared.events) (halive : s'.alive = t.shared.alive)
    (hworkload : s'.workload = t.shared.workload) : Inv (t.move p s' place') := by
  obtain ⟨hne, hended⟩ := hinv.recorded_ended hok hbefore hlookup
  have hplace : (∀ id, ¬ (t.place p).Emits id) ∧ ∀ {c}, t.place p ≠ .launched c := by
    rcases hbefore with ⟨_, hplace, _⟩ | ⟨_, _, _, hplace, _⟩ | ⟨_, _, _, hplace, _, _⟩ | ⟨_, _, _, _, hplace, _⟩ <;>
      exact ⟨fun _ => by rw [hplace]; exact id, by rw [hplace]; simp⟩
  have hcount := stoppedEvents_eq hevents
  refine hinv.insert h hlookup hcontainers hsandbox hid halive hworkload (by simp [hstate]) (.inr hworking)
    (fun hp => by rw [hp] at hworking; cases hworking) (fun hlaunched => absurd hlaunched hplace.2)
    (fun _ => hended) fun id => ?_
  by_cases hsame : id = container.id
  · -- there was no event, and nobody was about to send one: now this process is, and nobody else
    subst hsame
    have hold := hinv.events container.id
    rw [EventsOf, if_neg hne] at hold
    rw [EventsOf, move_shared, stateOf_insert_self hcontainers, hstate, hcount]
    refine .inr ⟨hold.1, p, by rw [move_place_self]; exact (hafter _).mpr rfl, ?_⟩
    refine t.forall_move (P := fun q place => place.Emits container.id → q = p) (fun _ => rfl) fun q _ hemits => ?_
    exact absurd hemits (hold.2 q)
  · refine (hinv.events id).move (by rw [stateOf_insert_ne hcontainers hsame]) (hcount id) ?_
    exact iff_of_false (fun hemits => hsame ((hafter id).mp hemits).symm) (hplace.1 id)

theorem Inv.emit {reason message} (hbefore : ∀ id, (t.place p).Emits id ↔ container.id = id)
    (hafter : ∀ id, ¬ place'.Emits id) (hworking : place'.working = none) (hunworking : (t.place p).working = none)
    (hevents : s'.events = stoppedEvent container now reason message :: t.shared.events)
    (hcontainers : s'.containers = t.shared.containers) (halive : s'.alive = t.shared.alive)
    (hworkload : s'.workload = t.shared.workload) : Inv (t.move p s' place') := by
  refine hinv.quiet h hok hcontainers (fun id => ?_) (.of_eq hworkload fun h => halive ▸ h) (.inr hworking)
    (fun hplace => by rw [hplace] at hunworking; cases hunworking)
    (fun hplace => by rw [hplace] at hworking; cases hworking)
  have hcount : s'.stoppedEvents id = t.shared.stoppedEvents id + if container.id = id then 1 else 0 := by
    simp [Shared.stoppedEvents, hevents, stoppedEvent, countP_cons]
  by_cases hid : container.id = id
  · -- the process was the one that was to send the event
    rw [if_pos hid] at hcount
    have hemits := (hbefore id).mpr hid
    have hold := hinv.events id
    rw [EventsOf] at hold
    split_ifs at hold with hexited
    · obtain ⟨-, hnone⟩ | ⟨hzero, _, -, hunique⟩ := hold
      · exact absurd hemits (hnone p)
      · rw [EventsOf, move_shared, stateOf_eq hcontainers, if_pos hexited, hcount, hzero]
        refine .inl ⟨rfl, t.forall_move (P := fun _ place => ¬ place.Emits id) (hafter id) fun r hr hother => hr ?_⟩
        exact (hunique r hother).trans (hunique p hemits).symm
    · exact absurd hemits (hold.2 p)
  · rw [if_neg hid] at hcount
    exact (hinv.events id).move (by rw [stateOf_eq hcontainers]) hcount
      (iff_of_false (hafter id) fun hemits => hid ((hbefore id).mp hemits))

/-- **An orderly step keeps the invariant.** -/
theorem Inv.move : Inv (t.move p s' place') := by
  cases step_change h with
  | quiet hcontainers hevents hemits hfades hworking hlaunched hended =>
    refine hinv.quiet h hok hcontainers (fun id => ?_) hfades hworking hlaunched hended
    exact (hinv.events id).move (by rw [stateOf_eq hcontainers]) (hevents id) (hemits id)
  | launch hbefore hafter hcontainers hevents halive hworkload =>
    exact hinv.launch h hok hbefore hafter hcontainers hevents halive hworkload
  | start hbefore hafter hlookup hcreated hcontainers hevents halive hworkload =>
    exact hinv.start h hbefore hafter hlookup hcreated hcontainers hevents halive hworkload
  | record hbefore hafter hworking hlookup hstate hsandbox hid hcontainers hevents halive hworkload =>
    exact hinv.record h hok hbefore hafter hworking hlookup hstate hsandbox hid hcontainers hevents halive hworkload
  | emit hbefore hafter hworking hunworking hevents hcontainers halive hworkload =>
    exact hinv.emit h hok hbefore hafter hworking hunworking hevents hcontainers halive hworkload

omit hok

end Step

/-! ### The life of a container -/

theorem Advances.refl (container) : Advances container container := ⟨.inl rfl, fun _ => ⟨rfl, rfl, rfl⟩⟩

theorem Advances.trans {first second third} (h : Advances first second) (h' : Advances second third) :
    Advances first third := by
  obtain ⟨_, hexit⟩ := h
  obtain ⟨_, hexit'⟩ := h'
  constructor
  · grind
  · intro hfirst
    have hsecond : second.state = .exited := by grind
    obtain ⟨hcode, hfinished, hoom⟩ := hexit hfirst
    obtain ⟨hcode', hfinished', hoom'⟩ := hexit' hsecond
    exact ⟨hcode'.trans hcode, hfinished'.trans hfinished, hoom'.trans hoom⟩

/-- Every container has advanced. -/
def Shared.Advances (s s' : Shared ι) : Prop :=
  ∀ id container, s.containers.lookup id = some container →
    ∃ container', s'.containers.lookup id = some container' ∧ Races.Advances container container'

omit [DecidableEq ι] in
theorem Shared.Advances.of_eq (h : s'.containers = s.containers) : s.Advances s' :=
  fun _ container hlookup => ⟨container, h ▸ hlookup, .refl container⟩

omit [DecidableEq ι] in
theorem Shared.Advances.of_insert (hlookup : s.containers.lookup id = some stored)
    (hcontainers : s'.containers = s.containers.insert id new) (h : Races.Advances stored new) : s.Advances s' := by
  intro other container hother
  by_cases hid : other = id
  · subst hid
    obtain rfl := some.inj (hlookup.symm.trans hother)
    exact ⟨new, by rw [hcontainers, lookup_insert], h⟩
  · exact ⟨container, by rwa [hcontainers, lookup_insert_ne hid], .refl container⟩

theorem Inv.advances (hinv : Inv t) (h : Step p t.shared (t.place p) s' place') (hok : Orderly t p s' place') :
    t.shared.Advances s' := by
  cases step_change h with
  | quiet hcontainers _ _ _ _ _ _ | launch _ _ hcontainers _ _ _ | emit _ _ _ _ _ hcontainers _ _ =>
    exact .of_eq hcontainers
  | start _ _ hlookup hcreated hcontainers =>
    exact .of_insert hlookup hcontainers
      ⟨.inr (.inl ⟨hcreated, rfl⟩), fun hexited => by rw [hcreated] at hexited; cases hexited⟩
  | record hbefore _ _ hlookup hstate _ _ hcontainers =>
    have hne : _ ≠ ContainerState.exited := fun hexited =>
      (hinv.recorded_ended hok hbefore hlookup).1 (hexited ▸ stateOf_of_lookup hlookup)
    exact .of_insert hlookup hcontainers ⟨.inr (.inr ⟨hne, hstate⟩), fun hexited => absurd hexited hne⟩

/-- Before the calls: every container was created, and nothing has happened to it. -/
structure Initial (s : State ι (Shared ι) Place) : Prop where
  idle : ∀ p, s.place p = .idle
  keyed : Keyed Container.id s.shared.containers
  created : ∀ id container, s.shared.containers.lookup id = some container → container.state = .created
  workload : ∀ p, s.shared.workload p = none
  events : s.shared.events = []

omit [DecidableEq ι] in
theorem Initial.not_of (h : Initial t) : ¬ t.shared.Of q id := by
  rintro ⟨_, hw, -⟩
  rw [h.workload q] at hw
  cases hw

omit [DecidableEq ι] in
theorem Initial.inv (h : Initial t) : Inv t where
  keyed := h.keyed
  held {q container} hheld := by
    rw [h.idle q] at hheld
    cases hheld
  origin {q w} hw := absurd ⟨w, hw, rfl⟩ h.not_of
  working {q container} hw := by
    rw [h.idle q] at hw
    cases hw
  fresh hof := absurd hof h.not_of
  single hof := absurd hof h.not_of
  ended {q container exit} hplace := by
    rw [h.idle q] at hplace
    cases hplace
  gone hof := absurd hof h.not_of
  events id := by
    have hstate : t.shared.stateOf id ≠ some .exited := by
      intro hexited
      obtain ⟨container, hlookup, hstate⟩ := map_eq_some_iff.mp hexited
      rw [h.created id container hlookup] at hstate
      cases hstate
    rw [EventsOf, if_neg hstate]
    refine ⟨by rw [Shared.stoppedEvents, h.events]; rfl, fun q hemits => ?_⟩
    rw [h.idle q] at hemits
    exact hemits

/-- **If no call acts on what has become stale, a container goes from created to running to exited, or from created to
exited, and what was recorded of its exit stays; an event says that it has stopped once it has exited and nobody is
about to send it, and none does before; and no workload of an exited container runs in a live virtual machine.** -/
theorem container_lifecycle {init s t : State ι (Shared ι) Place} (hinit : Initial init)
    (hrun : Run Step Orderly init s) (hlater : Run Step Orderly s t) :
    s.shared.Advances t.shared ∧
    ∀ id, (s.shared.stateOf id ≠ some .exited → s.shared.stoppedEvents id = 0) ∧
      (s.shared.stateOf id = some .exited → s.shared.stoppedEvents id ≤ 1 ∧
        ((∀ p, ¬ (s.place p).Emits id) → s.shared.stoppedEvents id = 1) ∧
        ∀ p, s.shared.Of p id → ¬ s.shared.Live p) := by
  have hinv : Inv s := hrun.induct hinit.inv fun _ _ _ _ hinv h hok => hinv.move h hok
  constructor
  · have hboth : Inv t ∧ s.shared.Advances t.shared := by
      refine hlater.induct (P := fun t => Inv t ∧ s.shared.Advances t.shared) ⟨hinv, .of_eq rfl⟩ ?_
      rintro u p shared place ⟨hinv, hadvances⟩ h hok
      refine ⟨hinv.move h hok, fun id container hlookup => ?_⟩
      obtain ⟨second, hsecond, hfirst⟩ := hadvances id container hlookup
      obtain ⟨third, hthird, hnext⟩ := hinv.advances h hok id second hsecond
      exact ⟨third, hthird, hfirst.trans hnext⟩
    exact hboth.2
  · intro id
    have hevents := hinv.events id
    rw [EventsOf] at hevents
    refine ⟨fun hstate => ?_, fun hstate => ⟨?_, fun hnone => ?_, fun p hof => hinv.gone hof hstate⟩⟩
    · rw [if_neg hstate] at hevents
      exact hevents.1
    · rw [if_pos hstate] at hevents
      omega
    · rw [if_pos hstate] at hevents
      obtain ⟨hone, -⟩ | ⟨-, p, hemits, -⟩ := hevents
      · exact hone
      · exact absurd hemits (hnone p)

/-- A step to such a place may act on what has become stale. -/
def Place.settles : Place → Bool
  | .launched _ | .ended _ _ | .recorded _ _ _ _ | .podRecorded _ _ _ _ _ => true
  | _ => false

omit [DecidableEq ι] in
theorem Orderly.of_settles {shared} (h : place'.settles = false) : Orderly t p shared place' := by
  constructor <;> intros <;> subst place' <;> cases h

/-- A sandbox whose virtual machine runs, and a container in it; no call has been made. -/
def oneContainer : State Bool (Shared Bool) Place where
  shared :=
    { stores := ⟨insert "pod" pod ∅, insert "web" web ∅⟩
      vmManagers := fun _ => true
      workloadStops := fun _ => none
      signal := fun _ => .pending
      workload := fun _ => none
      alive := fun _ => true
      events := [] }
  place _ := .idle

/-- The container once it is started. -/
def runningWeb : Container := { web with state := .running, startedAt := 1 }

theorem initial_oneContainer : Initial oneContainer where
  idle _ := rfl
  keyed := keyed_insert keyed_empty web
  created id container hlookup := by
    rcases Totals.lookup_of_insert hlookup with ⟨-, rfl⟩ | ⟨-, hlookup⟩
    · rfl
    · cases hlookup
  workload _ := rfl
  events := rfl

/-- One call starts a container, and another stops it while its supervisor records the exit: one event says so. -/
theorem stopped_once : ∃ s, Run Step Orderly oneContainer s ∧ s.place false = .cleaning runningWeb ∧
      s.shared.stateOf "web" = some .exited ∧ s.shared.stoppedEvents "web" = 1 := by
  have h₁ : Run Step Orderly oneContainer _ :=
    .step true .start (.start (.read (show oneContainer.shared.containers.lookup "web" = some web from rfl) rfl))
      (.of_settles rfl)
  have h₂ := h₁.step true (.start (.find rfl)) (.of_settles rfl)
  have h₃ := h₂.step true (.start (.launch rfl))
    ⟨fun hplace _ => by cases hplace; exact ⟨rfl, by rintro (_ | _) c hc <;> cases hc⟩, nofun, nofun, nofun, nofun⟩
  have h₄ := h₃.step true (.start (.mark 1 rfl)) (.of_settles rfl)
  have h₅ := h₄.step true (.start .register) (.of_settles rfl)
  have h₆ := h₅.step false (.stop (@StopStep.readRunning _ _ _ _ "web" runningWeb 2 rfl rfl)) (.of_settles rfl)
  have h₇ := h₆.step true (.start .emit) (.of_settles rfl)
  have h₈ := h₇.step false (.stop (.send rfl)) (.of_settles rfl)
  have h₉ := h₈.step true (.supervisor (.cancel rfl rfl)) (.of_settles rfl)
  have h₁₀ := h₉.step true (.workloadEnds rfl) (.of_settles rfl)
  have h₁₁ := h₁₀.step true (.supervisor (.ends ⟨3, 143, false⟩))
    ⟨nofun, fun _ _ => by rintro ⟨_, ⟨⟩, ⟨⟩, -⟩, nofun, nofun, nofun⟩
  have h₁₂ := h₁₁.step true (.supervisor (.mark rfl)) ⟨nofun, nofun, nofun, nofun, nofun⟩
  -- the exit is recorded and not yet reported when the other call reads it
  have h₁₃ := h₁₂.step false (.stop (.exited rfl rfl)) (.of_settles rfl)
  have h₁₄ := h₁₃.step true .emit (.of_settles rfl)
  have hexited := ((container_lifecycle initial_oneContainer h₁₄ .start).2 "web").2 rfl
  exact ⟨_, h₁₄, rfl, rfl, hexited.2.1 (by rintro (_ | _) hemits <;> exact hemits)⟩

/-- `StopPodSandbox` has read that the container runs. The workload exits with code 3, and the supervisor records it;
then the call records 137, and there are two events. -/
theorem exit_recorded_twice :
    ∃ s t container container', Run Step (fun _ _ _ _ => True) oneContainer s ∧ Run Step (fun _ _ _ _ => True) s t ∧
      s.shared.containers.lookup "web" = some container ∧ container.state = .exited ∧ container.exitCode = 3 ∧
      t.shared.containers.lookup "web" = some container' ∧ container'.state = .exited ∧ container'.exitCode = 137 ∧
      t.shared.stoppedEvents "web" = 2 := by
  have h₁ : Run Step (fun _ _ _ _ => True) oneContainer _ :=
    .step true .start (.start (.read (show oneContainer.shared.containers.lookup "web" = some web from rfl) rfl))
      trivial
  have h₂ := h₁.step true (.start (.find rfl)) trivial
  have h₃ := h₂.step true (.start (.launch rfl)) trivial
  have h₄ := h₃.step false (.pod (.read (show oneContainer.shared.stores.sandboxes.lookup "pod" = some pod from rfl)
    rfl)) trivial
  have h₅ := h₄.step false (.pod .list) trivial
  have h₆ := h₅.step true (.start (.mark 1 rfl)) trivial
  have h₇ := h₆.step true (.start .register) trivial
  have h₈ := h₇.step true (.start .emit) trivial
  have h₉ := h₈.step false (.pod (.relist 2)) trivial
  have h₁₀ := h₉.step true (.workloadEnds rfl) trivial
  have h₁₁ := h₁₀.step true (.supervisor (.ends ⟨3, 3, false⟩)) trivial
  have h₁₂ := h₁₁.step true (.supervisor (.mark rfl)) trivial
  have h₁₃ := h₁₂.step true .emit trivial
  exact ⟨_, _, _, _, h₁₃, .step false (.step false .start (.pod (.mark rfl)) trivial) (.pod .emit) trivial,
    rfl, rfl, rfl, rfl, rfl, rfl, rfl⟩

/-- `StopContainer` has read that the container was created, and records its exit once `StartContainer` has launched its
workload: the supervisor waits on a channel whose sender is gone, and the workload runs on. -/
theorem workload_left_running :
    ∃ s, Run Step (fun _ _ _ _ => True) oneContainer s ∧ s.shared.stateOf "web" = some .exited ∧
      s.shared.Of true "web" ∧ s.shared.Live true ∧ s.shared.signal true = .closed := by
  have h₁ : Run Step (fun _ _ _ _ => True) oneContainer _ :=
    .step true .start (.start (.read (show oneContainer.shared.containers.lookup "web" = some web from rfl) rfl))
      trivial
  have h₂ := h₁.step true (.start (.find rfl)) trivial
  have h₃ := h₂.step false (.stop (.readCreated 1
    (show oneContainer.shared.containers.lookup "web" = some web from rfl) rfl)) trivial
  have h₄ := h₃.step true (.start (.launch rfl)) trivial
  have h₅ := h₄.step false (.stop (.markCreated rfl)) trivial
  have h₆ := h₅.step true (.start (.late 2 rfl)) trivial
  exact ⟨_, h₆, rfl, ⟨_, rfl, rfl⟩, ⟨_, rfl, rfl, rfl⟩, rfl⟩

end A3sBox.Cri.Races
