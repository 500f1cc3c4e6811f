import A3sBox.Library.Processes
import A3sBox.Library.Saving
import A3sBox.Library.Totals

/-!
# The state of the container runtime interface

`cri/src/persistent_store.rs`, with `sandbox.rs`, `container.rs` and `state.rs`: pod sandboxes and containers are in
memory, each under a lock of its own. After a change both are read, one after the other, and saved to a file.

## The model

A change, reading the sandboxes, reading the containers, and saving are one step each. Beside the state it is counted
how often each was changed, in memory and in the file.

`reloaded_eq_memory`: when the file has what is in memory. `older_snapshot_saved`: otherwise a container may be
missing.
-/

namespace A3sBox.Cri

open Processes Saving List

/-! ### The stores -/

/-- The state of a sandbox. -/
inductive SandboxState where
  | ready
  | notReady
  | removed
  deriving DecidableEq, Repr

/-- The name servers of a pod. -/
structure SandboxDns where
  servers : List String
  searches : List String
  options : List String
  deriving DecidableEq, Repr

/-- Labels or annotations. -/
abbrev Labels := AList fun _ : String => String

/-- A pod sandbox. -/
structure PodSandbox where
  id : String
  name : String
  namespaceName : String
  uid : String
  attempt : UInt32
  state : SandboxState
  createdAt : ℤ
  labels : Labels
  annotations : Labels
  logDirectory : String
  runtimeHandler : String
  networkIp : String
  additionalIps : List String
  dns : SandboxDns
  containerPorts : List Int32

/-- The state of a container. -/
inductive ContainerState where
  | created
  | running
  | exited
  deriving DecidableEq, Repr

/-- A mount of a container. -/
structure ContainerMount where
  containerPath : String
  hostPath : String
  readonly : Bool
  selinuxRelabel : Bool
  propagation : Int32
  deriving DecidableEq, Repr

/-- A container in a sandbox. -/
structure Container where
  id : String
  sandboxId : String
  name : String
  attempt : UInt32
  imageRef : String
  resolvedImageDigest : String
  resolvedImagePath : String
  command : List String
  args : List String
  env : List (String × String)
  workingDir : String
  user : Option String
  stdin : Bool
  /-- Whether the input is closed after the first use. -/
  stdinOnce : Bool
  tty : Bool
  mounts : List ContainerMount
  state : ContainerState
  createdAt : ℤ
  startedAt : ℤ
  finishedAt : ℤ
  exitCode : Int32
  /-- Whether it was killed because it had used too much memory. -/
  oomKilled : Bool
  labels : Labels
  annotations : Labels
  logPath : String
  rootfsPath : String
  rootfsGuestPath : String

/-- The sandboxes by id. -/
abbrev Sandboxes := AList fun _ : String => PodSandbox

/-- The containers by id. -/
abbrev Containers := AList fun _ : String => Container

/-- The values of a map. -/
def values {β : Type} (m : AList fun _ : String => β) : List β := m.entries.map fun entry => entry.2

/-- A map of the given values, each under its own key. -/
def addAll {β : Type} (key : β → String) (m : AList fun _ : String => β) (l : List β) : AList fun _ : String => β :=
  l.foldl (fun m b => m.insert (key b) b) m

/-- What is in memory. -/
structure Stores where
  sandboxes : Sandboxes
  containers : Containers

/-- What is in the file. -/
structure PersistedState where
  sandboxes : List PodSandbox
  containers : List Container

/-- The stores of a new server. -/
def PersistedState.load (state : PersistedState) : Stores :=
  ⟨addAll PodSandbox.id ∅ state.sandboxes, addAll Container.id ∅ state.containers⟩

/-! ### The calls -/

/-- A call that changes a store. -/
inductive Mutation where
  | addSandbox (sandbox : PodSandbox)
  | updateSandboxState (id : String) (state : SandboxState)
  | removeSandbox (id : String)
  | addContainer (container : Container)
  | markContainerStarted (id : String) (startedAt : ℤ)
  | markContainerStartedIfCreated (id : String) (startedAt : ℤ)
  | markContainerExited (id : String) (finishedAt : ℤ) (exitCode : Int32)
  | markContainerExitedIfRunning (id : String) (finishedAt : ℤ) (exitCode : Int32) (oomKilled : Bool)
  | removeContainer (id : String)
  | removeContainersBySandbox (sandboxId : String)

/-- The value of a key is changed, if there is one and it meets a condition. -/
def updateIf {β : Type} (m : AList fun _ : String => β) (id : String) (p : β → Bool) (f : β → β) :
    Option (AList fun _ : String => β) :=
  match m.lookup id with
  | none => none
  | some b => if p b then some (m.insert id (f b)) else none

/-- A key is taken out, if it is there. -/
def removeKey {β : Type} (m : AList fun _ : String => β) (id : String) : Option (AList fun _ : String => β) :=
  if id ∈ m then some (m.erase id) else none

/-- The containers of a sandbox. -/
def containersOf (containers : Containers) (sandboxId : String) : List Container :=
  (values containers).filter fun container => container.sandboxId == sandboxId

/-- Whether another container of the sandbox runs. -/
def hasOtherRunningContainers (containers : Containers) (container : Container) : Bool :=
  (containersOf containers container.sandboxId).any fun other => other.id != container.id && other.state == .running

/-- The containers of a sandbox are taken out, if there are any. -/
def removeBySandbox (containers : Containers) (sandboxId : String) : Option Containers :=
  let ids := (containersOf containers sandboxId).map Container.id
  if ids.any fun id => id ∈ containers then some (ids.foldl (fun m id => m.erase id) containers) else none

/-- The sandboxes after a call, if it changes them. -/
def Mutation.sandboxes (sandboxes : Sandboxes) : Mutation → Option Sandboxes
  | .addSandbox sandbox => some (sandboxes.insert sandbox.id sandbox)
  | .updateSandboxState id state => updateIf sandboxes id (fun _ => true) fun sandbox => { sandbox with state }
  | .removeSandbox id => removeKey sandboxes id
  | _ => none

/-- The containers after a call, if it changes them. -/
def Mutation.containers (containers : Containers) : Mutation → Option Containers
  | .addContainer container => some (containers.insert container.id container)
  | .markContainerStarted id startedAt =>
    updateIf containers id (fun _ => true) fun container => { container with state := .running, startedAt }
  | .markContainerStartedIfCreated id startedAt =>
    updateIf containers id (fun container => container.state == .created)
      fun container => { container with state := .running, startedAt }
  | .markContainerExited id finishedAt exitCode =>
    updateIf containers id (fun _ => true) fun container => { container with state := .exited, finishedAt, exitCode }
  | .markContainerExitedIfRunning id finishedAt exitCode oomKilled =>
    updateIf containers id (fun container => container.state == .running)
      fun container => { container with state := .exited, finishedAt, exitCode, oomKilled }
  | .removeContainer id => removeKey containers id
  | .removeContainersBySandbox sandboxId => removeBySandbox containers sandboxId
  | _ => none

/-- What the calls share. -/
structure Shared where
  stores : Stores
  sandboxChanges : ℕ
  containerChanges : ℕ
  file : PersistedState
  /-- How often the sandboxes were changed before those in the file were read. -/
  savedSandboxes : ℕ
  /-- How often the containers were changed before those in the file were read. -/
  savedContainers : ℕ

/-- Where a call is. -/
inductive Place where
  | start
  /-- It has changed a store, and has to read the sandboxes. -/
  | changed
  /-- It has read the sandboxes, after so many changes, and has to read the containers. -/
  | listed (sandboxes : Snapshot (List PodSandbox))
  /-- It has read the containers too, and has to save both. -/
  | taken (sandboxes : Snapshot (List PodSandbox)) (containers : Snapshot (List Container))
  | returned (failed : Bool)

variable {ι : Type}

/-- The steps of a call. -/
inductive Step (mutations : ι → Mutation) : ι → Shared → Place → Shared → Place → Prop where
  | changeSandboxes {p shared sandboxes} (h : (mutations p).sandboxes shared.stores.sandboxes = some sandboxes) :
      Step mutations p shared .start
        { shared with stores := { shared.stores with sandboxes }, sandboxChanges := shared.sandboxChanges + 1 } .changed
  | changeContainers {p shared containers} (h : (mutations p).containers shared.stores.containers = some containers) :
      Step mutations p shared .start
        { shared with stores := { shared.stores with containers }, containerChanges := shared.containerChanges + 1 }
        .changed
  | unchanged {p shared} (hsandboxes : (mutations p).sandboxes shared.stores.sandboxes = none)
      (hcontainers : (mutations p).containers shared.stores.containers = none) :
      Step mutations p shared .start shared (.returned false)
  | listSandboxes {p shared} :
      Step mutations p shared .changed shared (.listed ⟨shared.sandboxChanges, values shared.stores.sandboxes⟩)
  | listContainers {p shared sandboxes} :
      Step mutations p shared (.listed sandboxes) shared
        (.taken sandboxes ⟨shared.containerChanges, values shared.stores.containers⟩)
  | save {p shared sandboxes containers} :
      Step mutations p shared (.taken sandboxes containers)
        { shared with
          file := ⟨sandboxes.value, containers.value⟩
          savedSandboxes := sandboxes.version
          savedContainers := containers.version }
        (.returned false)
  | saveFails {p shared sandboxes containers} :
      Step mutations p shared (.taken sandboxes containers) shared (.returned true)

/-- A new server, with what was in the file. -/
def restored (file : PersistedState) : State ι Shared Place := ⟨⟨file.load, 0, 0, file, 0, 0⟩, fun _ => .start⟩

/-- No save fails, and none replaces a list in the file by one that was read after fewer changes. -/
def Orderly (s : State ι Shared Place) (p : ι) (_ : Shared) (place : Place) : Prop :=
  place ≠ .returned true ∧
  ∀ sandboxes containers, s.place p = .taken sandboxes containers →
    s.shared.savedSandboxes ≤ sandboxes.version ∧ s.shared.savedContainers ≤ containers.version

/-! ### Maps and lists -/

variable {id : String} {mutation : Mutation}

section Maps

variable {β : Type} {key : β → String} {m m' : AList fun _ : String => β}

/-- Every value is under its own key. -/
def Keyed (key : β → String) (m : AList fun _ : String => β) : Prop := ∀ id b, m.lookup id = some b → key b = id

theorem keyed_empty : Keyed key (∅ : AList fun _ : String => β) := fun _ _ h => by simp at h

variable (h : Keyed key m)

include h

theorem keyed_insert (b : β) : Keyed key (m.insert (key b) b) := by
  intro id c hc
  rcases Totals.lookup_of_insert hc with ⟨rfl, rfl⟩ | ⟨-, hc⟩
  · rfl
  · exact h id c hc

theorem keyed_addAll (l : List β) : Keyed key (addAll key m l) := by
  induction l generalizing m with
  | nil => exact h
  | cons b _ ih => exact ih (keyed_insert h b)

theorem keyed_erase (id) : Keyed key (m.erase id) := by
  intro i b hb
  exact h i b (Totals.lookup_of_erase hb)

theorem keyed_eraseAll (ids : List String) : Keyed key (ids.foldl (fun m id => m.erase id) m) := by
  induction ids generalizing m with
  | nil => exact h
  | cons id _ ih => exact ih (keyed_erase h id)

theorem keyed_updateIf {p f} (hm : updateIf m id p f = some m') (hf : ∀ b, key (f b) = key b) : Keyed key m' := by
  unfold updateIf at hm
  split at hm
  · cases hm
  next b hb =>
    split_ifs at hm
    cases hm
    have hkey : key (f b) = id := (hf b).trans (h id b hb)
    rw [← hkey]
    exact keyed_insert h (f b)

theorem keyed_removeKey (hm : removeKey m id = some m') : Keyed key m' := by
  unfold removeKey at hm
  split_ifs at hm
  cases hm
  exact keyed_erase h id

omit h in
/-- What a list of values gives: the last value with a key. -/
theorem lookup_addAll (l : List β) (id) :
    (addAll key m l).lookup id = ((l.reverse.find? fun b => key b == id).map some).getD (m.lookup id) := by
  induction l generalizing m with
  | nil => rfl
  | cons b l ih =>
    rw [addAll, foldl_cons, ← addAll, ih, reverse_cons, List.find?_append]
    cases hfind : l.reverse.find? fun b => key b == id with
    | some => rfl
    | none =>
      by_cases hb : key b = id
      · subst hb
        simp
      · simp [hb, AList.lookup_insert_ne (Ne.symm hb)]

theorem lookup_addAll_values (id) : (addAll key ∅ (values m)).lookup id = m.lookup id := by
  rw [lookup_addAll]
  cases hfind : (values m).reverse.find? fun b => key b == id with
  | none =>
    cases hlookup : m.lookup id with
    | none => rfl
    | some b =>
      have hmem : b ∈ (values m).reverse :=
        mem_reverse.mpr (mem_map.mpr ⟨⟨id, b⟩, AList.mem_lookup_iff.mp hlookup, rfl⟩)
      have hkey := List.find?_eq_none.mp hfind b hmem
      simp [h id b hlookup] at hkey
  | some =>
    have hmem := mem_reverse.mp (mem_of_find?_eq_some hfind)
    obtain ⟨⟨i, c⟩, hentry, rfl⟩ := mem_map.mp hmem
    have hlookup := AList.mem_lookup_iff.mpr hentry
    have hkey : key c = id := by simpa using List.find?_some hfind
    rw [← hkey, h i c hlookup]
    exact hlookup.symm

omit h

end Maps

theorem keyed_sandboxes {sandboxes sandboxes'} (h : Keyed PodSandbox.id sandboxes)
    (hm : mutation.sandboxes sandboxes = some sandboxes') : Keyed PodSandbox.id sandboxes' := by
  cases mutation with
  | addSandbox sandbox =>
    cases hm
    exact keyed_insert h sandbox
  | updateSandboxState => exact keyed_updateIf h hm fun _ => rfl
  | removeSandbox => exact keyed_removeKey h hm
  | _ => cases hm

theorem keyed_containers {containers containers'} (h : Keyed Container.id containers)
    (hm : mutation.containers containers = some containers') : Keyed Container.id containers' := by
  cases mutation with
  | addContainer container =>
    cases hm
    exact keyed_insert h container
  | removeContainer => exact keyed_removeKey h hm
  | removeContainersBySandbox =>
    simp only [Mutation.containers, removeBySandbox] at hm
    split_ifs at hm
    cases hm
    exact keyed_eraseAll h _
  | addSandbox _ | updateSandboxState _ _ | removeSandbox _ => cases hm
  | _ => exact keyed_updateIf h hm fun _ => rfl

/-! ### The two parts -/

/-- What a list of values gives when it is loaded. -/
def restore {β : Type} (key : β → String) (l : List β) (id : String) : Option β := (addAll key ∅ l).lookup id

theorem restore_values {β : Type} {key : β → String} {m : AList fun _ : String => β} (h : Keyed key m) :
    restore key (values m) = fun id => m.lookup id := funext fun id => lookup_addAll_values h id

/-- The sandboxes, in memory and saved. -/
def Shared.sandboxPart (shared : Shared) : Memory (String → Option PodSandbox) :=
  ⟨⟨shared.sandboxChanges, fun id => shared.stores.sandboxes.lookup id⟩, none,
    ⟨shared.savedSandboxes, restore PodSandbox.id shared.file.sandboxes⟩⟩

/-- The containers, in memory and saved. -/
def Shared.containerPart (shared : Shared) : Memory (String → Option Container) :=
  ⟨⟨shared.containerChanges, fun id => shared.stores.containers.lookup id⟩, none,
    ⟨shared.savedContainers, restore Container.id shared.file.containers⟩⟩

/-- What a call has to do to save the sandboxes. -/
def Place.sandboxPhase : Place → Option (Phase (String → Option PodSandbox))
  | .changed => some .read
  | .listed sandboxes | .taken sandboxes _ => some (.write ⟨sandboxes.version, restore PodSandbox.id sandboxes.value⟩)
  | .start | .returned _ => none

/-- What a call has to do to save the containers. -/
def Place.containerPhase : Place → Option (Phase (String → Option Container))
  | .changed | .listed _ => some .read
  | .taken _ containers => some (.write ⟨containers.version, restore Container.id containers.value⟩)
  | .start | .returned _ => none

/-- Some call is in the phase. -/
def Busy {α : Type} (phase : Place → Option (Phase α)) (s : State ι Shared Place) (active : Phase α) : Prop :=
  ∃ p, phase (s.place p) = some active

section Busy

variable [DecidableEq ι] {α : Type} {phase : Place → Option (Phase α)} {s : State ι Shared Place} {p : ι}
  {shared : Shared} {place : Place} {active : Phase α}

theorem busy_self (h : phase place = some active) : Busy phase (s.move p shared place) active :=
  ⟨p, by rw [State.move_place_self, h]⟩

theorem busy_kept (h : Busy phase s active) (hne : phase (s.place p) ≠ some active) :
    Busy phase (s.move p shared place) active := by
  obtain ⟨q, hq⟩ := h
  have hqp : q ≠ p := fun heq => hne (heq ▸ hq)
  exact ⟨q, by rw [State.move_place_ne _ hqp, hq]⟩

theorem busy_new (h : Busy phase (s.move p shared place) active) : Busy phase s active ∨ phase place = some active := by
  rcases (Function.exists_update_iff s.place fun _ place => phase place = some active).mp h with hself | ⟨q, -, hq⟩
  · exact .inr hself
  · exact .inl ⟨q, hq⟩

theorem busy_same (h : phase place = phase (s.place p)) (active) :
    Busy phase (s.move p shared place) active ↔ Busy phase s active := by
  constructor
  · intro hbusy
    rcases busy_new hbusy with hbusy | hbusy
    · exact hbusy
    · exact ⟨p, h.symm.trans hbusy⟩
  · intro hbusy
    by_cases hp : phase (s.place p) = some active
    · exact busy_self (h.trans hp)
    · exact busy_kept hbusy hp

end Busy

/-- What the steps preserve. -/
structure Inv (s : State ι Shared Place) : Prop where
  sandboxKeys : Keyed PodSandbox.id s.shared.stores.sandboxes
  containerKeys : Keyed Container.id s.shared.stores.containers
  sandboxes : Saving.Inv s.shared.sandboxPart (Busy Place.sandboxPhase s)
  containers : Saving.Inv s.shared.containerPart (Busy Place.containerPhase s)

theorem inv_restored (file : PersistedState) : Inv (restored (ι := ι) file) where
  sandboxKeys := keyed_addAll keyed_empty _
  containerKeys := keyed_addAll keyed_empty _
  sandboxes := Saving.Inv.init _ nofun
  containers := Saving.Inv.init _ nofun

section Steps

variable [DecidableEq ι] {α : Type} {phase : Place → Option (Phase α)} {m : Memory α} {s : State ι Shared Place} {p : ι}
  {shared : Shared} {place : Place}

variable (h : Saving.Inv m (Busy phase s))

include h

theorem saving_change (value : α) (hstart : phase (s.place p) = none)
    (hread : phase place = some .read) : Saving.Inv (m.change value) (Busy phase (s.move p shared place)) :=
  h.change value (fun _ hbusy => busy_kept hbusy (by rw [hstart]; exact nofun))
    (fun _ hbusy => (busy_new hbusy).imp_right fun heq => Option.some.inj (heq.symm.trans hread)) (busy_self hread)

/-- A call has to read the value, although it has not changed it. -/
theorem saving_reader (hstart : phase (s.place p) = none)
    (hread : phase place = some .read) : Saving.Inv m (Busy phase (s.move p shared place)) :=
  h.reader (fun _ hbusy => busy_kept hbusy (by rw [hstart]; exact nofun))
    fun _ hbusy => (busy_new hbusy).imp_right fun heq => Option.some.inj (heq.symm.trans hread)

theorem saving_read (hread : phase (s.place p) = some .read)
    (hwrite : phase place = some (.write m.current)) : Saving.Inv m (Busy phase (s.move p shared place)) :=
  h.save ⟨p, hread⟩ trivial
    (fun _ hbusy hne => busy_kept hbusy fun heq => hne (Option.some.inj (heq.symm.trans hread)))
    (fun _ hbusy => (busy_new hbusy).imp_right fun heq => hwrite.symm.trans heq)
    fun _ heq => busy_self (hwrite.trans heq)

theorem saving_replace (htmp : m.tmp = none) {taken}
    (hwrite : phase (s.place p) = some (.write taken)) (hreturned : phase place = none)
    (horder : m.file.version ≤ taken.version) :
    Saving.Inv { m with file := taken } (Busy phase (s.move p shared place)) :=
  h.replace htmp ⟨p, hwrite⟩ horder
    (fun _ hbusy hne => busy_kept hbusy fun heq => hne (Option.some.inj (heq.symm.trans hwrite)))
    fun _ hbusy => (busy_new hbusy).resolve_right (by rw [hreturned]; exact nofun)

omit h

theorem Inv.step {mutations : ι → Mutation} (hinv : Inv s) (hstep : Step mutations p s.shared (s.place p) shared place)
    (hok : Orderly s p shared place) : Inv (s.move p shared place) := by
  obtain ⟨hsandboxKeys, hcontainerKeys, hsandboxes, hcontainers⟩ := hinv
  generalize hplace : s.place p = here at hstep
  have hsandboxPhase := congrArg Place.sandboxPhase hplace
  have hcontainerPhase := congrArg Place.containerPhase hplace
  cases hstep with
  | changeSandboxes h =>
    exact ⟨keyed_sandboxes hsandboxKeys h, hcontainerKeys, saving_change hsandboxes _ hsandboxPhase rfl,
      saving_reader hcontainers hcontainerPhase rfl⟩
  | changeContainers h =>
    exact ⟨hsandboxKeys, keyed_containers hcontainerKeys h, saving_reader hsandboxes hsandboxPhase rfl,
      saving_change hcontainers _ hcontainerPhase rfl⟩
  | unchanged =>
    exact ⟨hsandboxKeys, hcontainerKeys, hsandboxes.congr (busy_same hsandboxPhase.symm),
      hcontainers.congr (busy_same hcontainerPhase.symm)⟩
  | listSandboxes =>
    refine ⟨hsandboxKeys, hcontainerKeys, saving_read hsandboxes hsandboxPhase ?_,
      hcontainers.congr (busy_same hcontainerPhase.symm)⟩
    rw [Place.sandboxPhase, restore_values hsandboxKeys]
    rfl
  | listContainers =>
    refine ⟨hsandboxKeys, hcontainerKeys, hsandboxes.congr (busy_same hsandboxPhase.symm),
      saving_read hcontainers hcontainerPhase ?_⟩
    rw [Place.containerPhase, restore_values hcontainerKeys]
    rfl
  | save =>
    obtain ⟨hsandboxOrder, hcontainerOrder⟩ := hok.2 _ _ hplace
    exact ⟨hsandboxKeys, hcontainerKeys, saving_replace hsandboxes rfl hsandboxPhase rfl hsandboxOrder,
      saving_replace hcontainers rfl hcontainerPhase rfl hcontainerOrder⟩
  | saveFails => exact absurd rfl hok.1

end Steps

/-- **The file gives what is in memory**, once all calls have returned. -/
theorem reloaded_eq_memory [DecidableEq ι] {mutations : ι → Mutation} {file : PersistedState} {s : State ι Shared Place}
    (h : Run (Step mutations) Orderly (restored file) s)
    (hquiet : ∀ p, s.place p = .start ∨ ∃ failed, s.place p = .returned failed) (id : String) :
    s.shared.file.load.sandboxes.lookup id = s.shared.stores.sandboxes.lookup id ∧
      s.shared.file.load.containers.lookup id = s.shared.stores.containers.lookup id := by
  have hinv : Inv s := h.induct (inv_restored file) fun _ _ _ _ hinv hstep hok => hinv.step hstep hok
  have hidle : ∀ p, (s.place p).sandboxPhase = none ∧ (s.place p).containerPhase = none := by
    intro p
    rcases hquiet p with hp | ⟨_, hp⟩
    · rw [hp]
      exact ⟨rfl, rfl⟩
    · rw [hp]
      exact ⟨rfl, rfl⟩
  have hsandboxes := hinv.sandboxes.file_eq fun _ ⟨p, hp⟩ => by
    rw [(hidle p).1] at hp
    cases hp
  have hcontainers := hinv.containers.file_eq fun _ ⟨p, hp⟩ => by
    rw [(hidle p).2] at hp
    cases hp
  exact ⟨congrFun hsandboxes id, congrFun hcontainers id⟩

/-- A sandbox. -/
def pod : PodSandbox :=
  { id := "pod", name := "web", namespaceName := "default", uid := "1", attempt := 0, state := .ready, createdAt := 0,
    labels := ∅, annotations := ∅, logDirectory := "", runtimeHandler := "a3s", networkIp := "", additionalIps := [],
    dns := ⟨[], [], []⟩, containerPorts := [] }

/-- A container in it. -/
def web : Container :=
  { id := "web", sandboxId := "pod", name := "web", attempt := 0, imageRef := "nginx", resolvedImageDigest := "",
    resolvedImagePath := "", command := [], args := [], env := [], workingDir := "", user := none, stdin := false,
    stdinOnce := false, tty := false, mounts := [], state := .created, createdAt := 0, startedAt := 0, finishedAt := 0,
    exitCode := 0, oomKilled := false, labels := ∅, annotations := ∅, logPath := "", rootfsPath := "",
    rootfsGuestPath := "" }

/-- One call adds the sandbox, the other the container. -/
def addBoth : Bool → Mutation
  | true => .addSandbox pod
  | false => .addContainer web

/-- The two calls at once, each of which reads what the other has changed: both are in the file. -/
theorem both_reloaded : ∃ s : State Bool Shared Place, Run (Step addBoth) Orderly (restored ⟨[], []⟩) s ∧
      (∀ p, s.place p = .start ∨ ∃ failed, s.place p = .returned failed) ∧
      s.shared.file.load.sandboxes.lookup "pod" = some pod ∧
      s.shared.file.load.containers.lookup "web" = some web := by
  have h₁ : Run (Step addBoth) Orderly (restored ⟨[], []⟩) _ :=
    .step true .start (.changeSandboxes (show (addBoth true).sandboxes ∅ = some _ from rfl)) ⟨nofun, nofun⟩
  have h₂ := h₁.step true .listSandboxes ⟨nofun, nofun⟩
  have h₃ := h₂.step false (.changeContainers (show (addBoth false).containers ∅ = some _ from rfl)) ⟨nofun, nofun⟩
  have h₄ := h₃.step false .listSandboxes ⟨nofun, nofun⟩
  have h₅ := h₄.step true .listContainers ⟨nofun, nofun⟩
  have h₆ := h₅.step false .listContainers ⟨nofun, nofun⟩
  have h₇ := h₆.step true .save ⟨nofun, fun _ _ h => by cases h; exact ⟨Nat.zero_le _, Nat.zero_le _⟩⟩
  have h₈ := h₇.step false .save ⟨nofun, fun _ _ h => by cases h; exact ⟨Nat.le_refl _, Nat.le_refl _⟩⟩
  obtain ⟨s, hrun, hreturned, hpod, hweb⟩ : ∃ s : State Bool Shared Place,
      Run (Step addBoth) Orderly (restored ⟨[], []⟩) s ∧ (∀ p, s.place p = .returned false) ∧
      s.shared.stores.sandboxes.lookup "pod" = some pod ∧ s.shared.stores.containers.lookup "web" = some web :=
    ⟨_, h₈, by rintro (_ | _) <;> rfl, rfl, rfl⟩
  have hquiet : ∀ p, s.place p = .start ∨ ∃ failed, s.place p = .returned failed := fun p => .inr ⟨false, hreturned p⟩
  exact ⟨s, hrun, hquiet, (reloaded_eq_memory hrun hquiet "pod").1.trans hpod,
    (reloaded_eq_memory hrun hquiet "web").2.trans hweb⟩

/-- **An older snapshot is saved last.** The container is added, and its call returns, between the reads and the save of
the other: it is in memory, and not in the file. -/
theorem older_snapshot_saved :
    ∃ s : State Bool Shared Place, Run (Step addBoth) (fun _ _ _ _ => True) (restored ⟨[], []⟩) s ∧
      (∀ p, s.place p = .returned false) ∧
      s.shared.stores.containers.lookup "web" = some web ∧ s.shared.file.load.containers.lookup "web" = none := by
  have h₁ : Run (Step addBoth) (fun _ _ _ _ => True) (restored ⟨[], []⟩) _ :=
    .step true .start (.changeSandboxes (show (addBoth true).sandboxes ∅ = some _ from rfl)) trivial
  have h₂ := h₁.step true .listSandboxes trivial
  have h₃ := h₂.step true .listContainers trivial
  have h₄ := h₃.step false (.changeContainers (show (addBoth false).containers ∅ = some _ from rfl)) trivial
  have h₅ := h₄.step false .listSandboxes trivial
  have h₆ := h₅.step false .listContainers trivial
  have h₇ := h₆.step false .save trivial
  have h₈ := h₇.step true .save trivial
  exact ⟨_, h₈, by rintro (_ | _) <;> rfl, rfl, rfl⟩

end A3sBox.Cri
