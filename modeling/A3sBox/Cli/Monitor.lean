import A3sBox.Cli.Options
import A3sBox.Cli.StateFile

/-!
# The monitor

`cli/src/commands/monitor.rs`, `apply_boot_result`, `apply_probe_result`, and the commands `stop` and `rm`: the
monitor loads the records, probes the boxes, and restarts those that are dead or unhealthy, as decided from the
records it has loaded first. Meanwhile users stop and remove boxes.

## The model

To load the file is to read it and, if reconciling has changed anything, to write it; to modify it is to load it and
to write it again. Reading and writing are one step each, and the steps of any number of monitors and users
interleave, without regard to the lock. What the operating system and the probes say, and which steps fail, is left
open.

`restarted_boxes_allowed`: when a box may be booted that the monitor boots; `decided_from_snapshot` are runs in which
it may not. `policy_kept_iff`, `unhealthy_iff_failures`: restart policies, and probes.
-/

namespace A3sBox.Monitor

open Boxes Processes List

/-! ### Records -/

section

variable (records : List BoxRecord)

/-- The record of a box. -/
def findById (id : String) : Option BoxRecord := records.find? fun record => record.id == id

/-- Change the record of a box. -/
def updateById (id : String) (f : BoxRecord → BoxRecord) : List BoxRecord → List BoxRecord
  | [] => []
  | record :: records => if record.id == id then f record :: records else record :: updateById id f records

/-- The box that a user names: by its name, by its id, or by the beginning of its id. -/
def resolve (query : String) : Option BoxRecord :=
  match records.find? fun record => record.name == query with
  | some record => some record
  | none =>
    match findById records query with
    | some record => some record
    | none =>
      match records.filter fun record =>
        query.toList.isPrefixOf record.id.toList || query.toList.isPrefixOf record.shortId.toList with
      | [record] => some record
      | _ => none

/-- The dead boxes to restart. -/
def pendingRestarts : List String :=
  (records.filter fun record => record.status == "dead" && shouldRestart record).map fun record => record.id

/-- An unhealthy box to restart. -/
def isUnhealthyRestartCandidate (record : BoxRecord) : Bool :=
  record.status == "running" && record.healthStatus == "unhealthy" && record.healthCheck.isSome && shouldRestart record

/-- The boxes that a poll restarts. -/
def candidates : List String :=
  pendingRestarts records ++ (records.filter isUnhealthyRestartCandidate).map fun record => record.id

end

/-- The boxes to probe. -/
def probes (due : BoxRecord → Bool) (records : List BoxRecord) : List String :=
  (records.filter fun record => record.healthCheck.isSome && record.status == "running" && due record).map
    fun record => record.id

/-- What a probe says about a box. -/
def applyProbeResult (healthy : Bool) (checkedAt : ℤ) (record : BoxRecord) : BoxRecord :=
  if record.status ≠ "running" then record
  else if healthy then
    { record with healthStatus := "healthy", healthRetries := 0, healthLastCheck := some checkedAt }
  else
    let retries := if record.healthRetries = 0xFFFFFFFF then record.healthRetries else record.healthRetries + 1
    { record with
      healthRetries := retries
      healthStatus := if record.healthCheck.any fun check => check.retries ≤ retries then "unhealthy"
        else record.healthStatus
      healthLastCheck := some checkedAt }

/-- An unhealthy box whose process was killed. -/
def markKilled (record : BoxRecord) : BoxRecord :=
  { record with status := "dead", pid := none, healthStatus := "none", healthRetries := 0 }

/-- What a boot gives. -/
structure BootResult where
  pid : Option UInt32
  execSocketPath : Option String
  healthCheck : Option HealthCheck
  stopSignal : Option String
  anonymousVolumes : List String

/-- How a boot changes the number of restarts. -/
inductive RestartCountUpdate where
  | reset
  | preserve
  | increment
  deriving DecidableEq, Repr

/-- Note that a box was booted. -/
def applyBootResult (result : BootResult) (update : RestartCountUpdate) (now : ℤ) (record : BoxRecord) : BoxRecord :=
  { record with
    status := "running"
    pid := result.pid
    execSocketPath := result.execSocketPath.getD record.execSocketPath
    healthCheck := result.healthCheck
    healthStatus := if result.healthCheck.isSome then "starting" else "none"
    healthRetries := 0
    healthLastCheck := none
    stopSignal := result.stopSignal
    startedAt := some now
    stoppedByUser := false
    exitCode := none
    anonymousVolumes := result.anonymousVolumes.foldl
      (fun volumes volume => if volume ∈ volumes then volumes else volumes ++ [volume]) record.anonymousVolumes
    restartCount :=
      match update with
      | .reset => 0
      | .preserve => record.restartCount
      | .increment => record.restartCount + 1 }

/-- Note that the user has stopped a box. -/
def markStopped (exitCode : Option Int32) (record : BoxRecord) : BoxRecord :=
  { record with
    status := "stopped", pid := none, stoppedByUser := true, exitCode, healthStatus := "none", healthRetries := 0 }

/-- Take a box out. -/
def without (id : String) (records : List BoxRecord) : List BoxRecord := records.filter fun record => record.id ≠ id

/-- The records after `stop` has stopped a box. -/
def stopped (record : BoxRecord) (exitCode : Option Int32) (records : List BoxRecord) : List BoxRecord :=
  if record.autoRemove then without record.id records
  else
    match resolve records record.id with
    | some found => updateById found.id (markStopped exitCode) records
    | none => records

/-! ### The processes -/

/-- What a process does. -/
inductive Command where
  | monitor
  | stop (queries : List String)
  /-- Remove boxes, active ones too if it is forced. -/
  | rm (queries : List String) (force : Bool)

/-- Where a process is. -/
inductive Place where
  | idle
  /-- It has to write the file, and goes on one way or, if that fails, the other. -/
  | save (records : List BoxRecord) (next failed : Place)
  | probing (snapshot : List BoxRecord) (probes : List String)
  | restarting (snapshot : List BoxRecord) (todo : List String)
  /-- It has killed the process of an unhealthy box, and has to mark the box as dead. -/
  | killed (record : BoxRecord) (snapshot : List BoxRecord) (todo : List String)
  | starting (record : BoxRecord) (snapshot : List BoxRecord) (todo : List String)
  | booted (id : String) (result : BootResult) (snapshot : List BoxRecord) (todo : List String)
  | stopping (records : List BoxRecord) (queries : List String)
  | removing (records : List BoxRecord) (queries : List String)

/-- The boxes that a poll has still to restart. -/
def Place.todo : Place → List String
  | .save _ next failed => next.todo ++ failed.todo
  | .probing snapshot _ => candidates snapshot
  | .restarting _ todo | .booted _ _ _ todo => todo
  | .killed record _ todo | .starting record _ todo => record.id :: todo
  | .idle | .stopping _ _ | .removing _ _ => []

/-- After the file was read: it is written if reconciling has changed anything; if that fails, it does not matter. -/
def afterRead (reconciled : Reconciled) (next : List BoxRecord → Place) : Place :=
  if reconciled.changed then .save reconciled.records (next reconciled.records) (next reconciled.records)
  else next reconciled.records

/-- The file was read to be modified. -/
def modify (reconciled : Reconciled) (f : List BoxRecord → List BoxRecord) (next failed : Place) : Place :=
  afterRead reconciled fun records => .save (f records) next failed

/-- The next box is restarted; an unhealthy one is killed first. -/
def restart (record : BoxRecord) (snapshot : List BoxRecord) (todo : List String) : Place :=
  if isUnhealthyRestartCandidate record then .killed record snapshot todo else .starting record snapshot todo

variable {ι : Type}

/-- The steps of a process. -/
inductive Step (commands : ι → Command) : ι → List BoxRecord → Place → List BoxRecord → Place → Prop where
  | poll {p file} (h : commands p = .monitor) (world : World) (due : BoxRecord → Bool) :
      Step commands p file .idle file
        (afterRead (reconcile world file) fun records => .probing records (probes due records))
  | stop {p file queries} (h : commands p = .stop queries) (world : World) :
      Step commands p file .idle file (afterRead (reconcile world file) fun records => .stopping records queries)
  | rm {p file queries force} (h : commands p = .rm queries force) (world : World) :
      Step commands p file .idle file (afterRead (reconcile world file) fun records => .removing records queries)
  | write {p file records next failed} : Step commands p file (.save records next failed) records next
  | writeFails {p file records next failed} : Step commands p file (.save records next failed) file failed
  /-- A box was probed; the file is read to note the result. -/
  | probe {p file snapshot id probes} (healthy : Bool) (now : ℤ) (world : World) :
      Step commands p file (.probing snapshot (id :: probes)) file
        (modify (reconcile world file) (updateById id (applyProbeResult healthy now)) (.probing snapshot probes) .idle)
  | probed {p file snapshot} :
      Step commands p file (.probing snapshot []) file (.restarting snapshot (candidates snapshot))
  | wait {p file snapshot id todo} :
      Step commands p file (.restarting snapshot (id :: todo)) file (.restarting snapshot todo)
  | restart {p file snapshot id todo record} (h : findById snapshot id = some record) :
      Step commands p file (.restarting snapshot (id :: todo)) file (restart record snapshot todo)
  | mark {p file snapshot record todo} (world : World) :
      Step commands p file (.killed record snapshot todo) file
        (modify (reconcile world file) (updateById record.id markKilled) (.starting record snapshot todo) .idle)
  | boot {p file snapshot record todo} (result : BootResult) :
      Step commands p file (.starting record snapshot todo) file (.booted record.id result snapshot todo)
  | bootFails {p file snapshot record todo} :
      Step commands p file (.starting record snapshot todo) file (.restarting snapshot todo)
  | note {p file snapshot id result todo} (now : ℤ) (world : World) :
      Step commands p file (.booted id result snapshot todo) file
        (modify (reconcile world file) (updateById id (applyBootResult result .increment now))
          (.restarting snapshot todo) .idle)
  /-- The command ends: all is done, the file cannot be read, or the process is killed. -/
  | finish {p file place} : Step commands p file place file .idle
  | stopBox {p file records query queries record} (h : resolve records query = some record)
      (hactive : isActive record = true) (hpid : record.pid.isSome) (exitCode : Option Int32) :
      Step commands p file (.stopping records (query :: queries)) file
        (.save (stopped record exitCode records) (.stopping (stopped record exitCode records) queries)
          (.stopping (stopped record exitCode records) queries))
  | stopFails {p file records query queries} :
      Step commands p file (.stopping records (query :: queries)) file (.stopping records queries)
  /-- `rm` reads the file to take the record of a box out. -/
  | rmBox {p file records query queries record force} (hcommand : ∃ all, commands p = .rm all force)
      (h : resolve records query = some record) (hforce : isActive record = true → force = true) (world : World) :
      Step commands p file (.removing records (query :: queries)) file
        (modify (reconcile world file) (without record.id) (.removing (without record.id records) queries)
          (.removing records queries))
  | rmFails {p file records query queries} :
      Step commands p file (.removing records (query :: queries)) file (.removing records queries)

/-! ### Which boots are allowed -/

/-- The policy heeds that the user has stopped the box. -/
def Heeds (policy : String) : Prop :=
  policy = "on-failure" ∨ "on-failure:".toList <+: policy.toList ∨ policy = "unless-stopped"

/-- The box may be booted: its record is in the file, and the user has not stopped it, unless its policy ignores that.
-/
def MayBoot (file : List BoxRecord) (id : String) : Prop :=
  (∃ record ∈ file, record.id = id) ∧
  ∀ record ∈ file, record.id = id → record.stoppedByUser = true → ¬ Heeds record.restartPolicy

/-- Whether the user has stopped the box, by its records. -/
def marks (id : String) (records : List BoxRecord) : List Bool :=
  (recordsOf id records).map fun record => record.stoppedByUser

/-- A process leaves the boxes alone that a poll of another has still to restart. -/
def Apart (s : State ι (List BoxRecord) Place) (p : ι) (file : List BoxRecord) (_ : Place) : Prop :=
  ∀ q, q ≠ p → ∀ id ∈ (s.place q).todo, marks id file = marks id s.shared

/-- What is the same in all records of a box: its policy, and whether it is removed when it stops. -/
abbrev Fixed := String → String × Bool

variable {fixed : Fixed} {records file : List BoxRecord} {id : String}

/-- There is one record for each box, with the policy of the box. -/
structure Valid (fixed : Fixed) (records : List BoxRecord) : Prop where
  nodup : (records.map fun record => record.id).Nodup
  same : ∀ record ∈ records, fixed record.id = (record.restartPolicy, record.autoRemove)

/-- The box is there, and the user has not stopped it, unless its policy does not heed that. -/
def Good (fixed : Fixed) (id : String) (records : List BoxRecord) : Prop :=
  marks id records ≠ [] ∧ (true ∈ marks id records → ¬ Heeds (fixed id).1)

variable {record : BoxRecord} {f : BoxRecord → BoxRecord}

theorem mem_recordsOf : record ∈ recordsOf id records ↔ record ∈ records ∧ record.id = id := by
  simp [recordsOf]

theorem mayBoot_of_good (hvalid : Valid fixed records) (h : Good fixed id records) : MayBoot records id := by
  constructor
  · obtain ⟨_, hmark⟩ := exists_mem_of_ne_nil _ h.1
    obtain ⟨record, hrecord, -⟩ := mem_map.mp hmark
    exact ⟨record, mem_recordsOf.mp hrecord⟩
  · intro record hrecord hid hstopped
    have hmark : true ∈ marks id records := mem_map.mpr ⟨record, mem_recordsOf.mpr ⟨hrecord, hid⟩, hstopped⟩
    have hpolicy : (fixed id).1 = record.restartPolicy := by rw [← hid, hvalid.same record hrecord]
    rw [← hpolicy]
    exact h.2 hmark

/-! ### What changes the records -/

variable (h : Valid fixed records)

include h

theorem valid_filter (p : BoxRecord → Bool) : Valid fixed (records.filter p) :=
  ⟨(filter_sublist.map _).nodup h.nodup, fun record hrecord => h.same record (mem_filter.mp hrecord).1⟩

/-- A change of a record that leaves what is fixed. -/
def Keeps (f : BoxRecord → BoxRecord) : Prop :=
  ∀ record, (f record).id = record.id ∧ (f record).restartPolicy = record.restartPolicy ∧
    (f record).autoRemove = record.autoRemove

theorem valid_map (hf : Keeps f) : Valid fixed (records.map f) := by
  constructor
  · rw [map_map, show (fun record => record.id) ∘ f = fun record : BoxRecord => record.id from
      funext fun record => (hf record).1]
    exact h.nodup
  · intro record hrecord
    obtain ⟨before, hbefore, rfl⟩ := mem_map.mp hrecord
    obtain ⟨hid, hpolicy, hremove⟩ := hf before
    rw [hid, hpolicy, hremove]
    exact h.same before hbefore

theorem valid_reconcile (world : World) : Valid fixed (reconcile world records).records := by
  refine valid_filter (valid_map h fun record => ?_) _
  split_ifs
  · exact ⟨rfl, rfl, rfl⟩
  · exact ⟨rfl, rfl, rfl⟩

/-- Reconciling takes no box out that is not to be removed when it stops, and leaves its mark. -/
theorem marks_reconcile (hlasts : (fixed id).2 = false) (world : World) :
    marks id (reconcile world records).records = marks id records := by
  have hkept : ∀ record ∈ recordsOf id records, record.autoRemove = false := by
    intro record hrecord
    obtain ⟨hrecord, hid⟩ := mem_recordsOf.mp hrecord
    have hremove : (fixed id).2 = record.autoRemove := by rw [← hid, h.same record hrecord]
    rw [← hremove, hlasts]
  have hremoved : (reconcile world (recordsOf id records)).removed = [] := by
    simp only [reconcile, filter_eq_nil_iff, mem_map, mem_filter]
    rintro _ ⟨record, ⟨hrecord, -⟩, rfl⟩
    simp [World.markDead, hkept record hrecord]
  have hrecords : (reconcile world (recordsOf id records)).records =
      (recordsOf id records).map fun record => if world.lost record then world.markDead record else record := by
    change List.filter (fun record : BoxRecord =>
      !(reconcile world (recordsOf id records)).removed.any fun r => r.id == record.id) _ = _
    rw [hremoved]
    exact filter_eq_self.mpr fun _ _ => rfl
  rw [marks, recordsOf_reconcile, hrecords, map_map]
  refine map_congr_left fun record _ => ?_
  simp only [Function.comp_apply]
  split_ifs
  · rfl
  · rfl

omit h in
theorem ids_updateById (hf : Keeps f) (id) (records) :
    (updateById id f records).map (fun record => record.id) = records.map fun record => record.id := by
  induction records with
  | nil => rfl
  | cons record _ ih =>
    rw [updateById]
    split_ifs
    · rw [map_cons, (hf record).1, map_cons]
    · rw [map_cons, ih, map_cons]

omit h in
theorem mem_updateById {id} (h : record ∈ updateById id f records) :
    record ∈ records ∨ ∃ before ∈ records, record = f before := by
  induction records with
  | nil => exact .inl h
  | cons first _ ih =>
    rw [updateById] at h
    split_ifs at h
    · rcases mem_cons.mp h with rfl | h
      · exact .inr ⟨first, mem_cons_self, rfl⟩
      · exact .inl (mem_cons_of_mem _ h)
    · rcases mem_cons.mp h with rfl | h
      · exact .inl mem_cons_self
      · exact (ih h).imp (mem_cons_of_mem _) fun ⟨before, hbefore, heq⟩ =>
          ⟨before, mem_cons_of_mem _ hbefore, heq⟩

theorem valid_updateById (hf : Keeps f) (id) : Valid fixed (updateById id f records) := by
  refine ⟨by rw [ids_updateById hf]; exact h.nodup, fun record hrecord => ?_⟩
  rcases mem_updateById hrecord with hrecord | ⟨before, hbefore, rfl⟩
  · exact h.same record hrecord
  · obtain ⟨hid, hpolicy, hremove⟩ := hf before
    rw [hid, hpolicy, hremove]
    exact h.same before hbefore

omit h

/-- A change that marks no box as stopped leaves good what is good. -/
theorem good_updateById (h : Good fixed id records) (hf : Keeps f)
    (hquiet : ∀ record, (f record).stoppedByUser = true → record.stoppedByUser = true) (i : String) :
    Good fixed id (updateById i f records) := by
  have hthere : ∀ rest : List BoxRecord, marks id rest ≠ [] ↔ id ∈ rest.map fun record => record.id := by
    simp [marks, recordsOf]
  constructor
  · rw [hthere, ids_updateById hf, ← hthere]
    exact h.1
  · intro hstopped
    obtain ⟨record, hrecord, hmark⟩ := mem_map.mp hstopped
    obtain ⟨hrecord, hid⟩ := mem_recordsOf.mp hrecord
    apply h.2
    rcases mem_updateById hrecord with hrecord | ⟨before, hbefore, rfl⟩
    · exact mem_map.mpr ⟨record, mem_recordsOf.mpr ⟨hrecord, hid⟩, hmark⟩
    · exact mem_map.mpr
        ⟨before, mem_recordsOf.mpr ⟨hbefore, (hf before).1.symm.trans hid⟩, hquiet before hmark⟩

/-! ### What is known of a process -/

/-- What is known of the records that a process holds. -/
def Shape (fixed : Fixed) : Place → Prop
  | .save records next failed =>
    Valid fixed records ∧ (∀ id ∈ next.todo, Good fixed id records) ∧ Shape fixed next ∧ Shape fixed failed
  | .probing snapshot _ => Valid fixed snapshot
  | .stopping records _ | .removing records _ => Valid fixed records
  | .idle | .restarting _ _ | .killed _ _ _ | .starting _ _ _ | .booted _ _ _ _ => True

/-- The box may be booted, and is not removed when it stops. -/
def Sure (fixed : Fixed) (file : List BoxRecord) (id : String) : Prop := Good fixed id file ∧ (fixed id).2 = false

/-- What is known of a process: the boxes it has still to restart may be booted. -/
structure Knows (fixed : Fixed) (file : List BoxRecord) (place : Place) : Prop where
  shape : Shape fixed place
  todo : ∀ id ∈ place.todo, Sure fixed file id

/-- The policy restarts boxes. -/
def Restarts (policy : String) : Prop := policy = "always" ∨ Heeds policy

/-- No box that is removed when it stops has a restart policy. -/
def Apt (fixed : Fixed) : Prop := ∀ id, (fixed id).2 = true → ¬ Restarts (fixed id).1

theorem restarts_of_shouldRestart (h : shouldRestart record = true) :
    Restarts record.restartPolicy ∧ (record.stoppedByUser = true → ¬ Heeds record.restartPolicy) := by
  unfold shouldRestart at h
  dsimp only at h
  split_ifs at h with hfailures halways hheeds
  · have hpolicy := isPrefixOf_iff_prefix.mp hfailures
    refine ⟨.inr (.inr (.inl hpolicy)), fun hstopped => ?_⟩
    split at h
    · simp [hstopped] at h
    · cases h
  · refine ⟨.inl halways, fun _ hheeds => ?_⟩
    rw [Heeds, halways] at hheeds
    revert hheeds
    decide
  · refine ⟨.inr (hheeds.imp_right .inr), fun hstopped => ?_⟩
    simp [hstopped] at h

theorem shouldRestart_of_candidate (h : id ∈ candidates records) :
    ∃ record ∈ records, record.id = id ∧ shouldRestart record = true := by
  rcases mem_append.mp h with h | h
  all_goals
    obtain ⟨record, hrecord, rfl⟩ := mem_map.mp h
    obtain ⟨hrecord, hchosen⟩ := mem_filter.mp hrecord
    exact ⟨record, hrecord, rfl, (Bool.and_eq_true_iff.mp hchosen).2⟩

/-- A box that a poll chooses may be booted. -/
theorem sure_of_candidate (hapt : Apt fixed) (h : Valid fixed records) (hid : id ∈ candidates records) :
    Sure fixed records id := by
  obtain ⟨record, hrecord, rfl, hrestart⟩ := shouldRestart_of_candidate hid
  obtain ⟨hpolicy, hstopped⟩ := restarts_of_shouldRestart hrestart
  have hsame := h.same record hrecord
  have hmem : record ∈ recordsOf record.id records := mem_recordsOf.mpr ⟨hrecord, rfl⟩
  refine ⟨⟨ne_nil_of_mem (mem_map_of_mem hmem), fun hmark => ?_⟩, ?_⟩
  · obtain ⟨_, hother, hother'⟩ := mem_map.mp hmark
    obtain ⟨hother, hid⟩ := mem_recordsOf.mp hother
    obtain rfl := inj_on_of_nodup_map h.nodup hother hrecord hid
    rw [hsame]
    exact hstopped hother'
  · by_contra hremove
    refine hapt record.id (by simpa using hremove) ?_
    rw [hsame]
    exact hpolicy

theorem sure_reconcile (h : Valid fixed file) (world : World) :
    Sure fixed (reconcile world file).records id ↔ Sure fixed file id := by
  unfold Sure Good
  refine and_congr_left fun hlasts => ?_
  rw [marks_reconcile h hlasts]

theorem knows_idle : Knows fixed file .idle := ⟨trivial, forall_mem_nil _⟩

section Steps

variable {next failed : Place}

theorem knows_afterRead (hfile : Valid fixed file) (world : World) {next}
    (h : Knows fixed (reconcile world file).records (next (reconcile world file).records)) :
    Knows fixed file (afterRead (reconcile world file) next) := by
  have htodo : ∀ id ∈ (next (reconcile world file).records).todo, Sure fixed file id :=
    fun id hid => (sure_reconcile hfile world).mp (h.todo id hid)
  unfold afterRead
  split_ifs
  · refine ⟨⟨valid_reconcile hfile world, fun id hid => (h.todo id hid).1, h.shape, h.shape⟩, ?_⟩
    intro id hid
    exact htodo id ((mem_append.mp hid).elim (fun h => h) fun h => h)
  · exact ⟨h.shape, htodo⟩

theorem knows_modify (hfile : Valid fixed file) (world : World) {f}
    (hvalid : ∀ {records}, Valid fixed records → Valid fixed (f records))
    (hgood : ∀ {records}, ∀ id ∈ next.todo, Good fixed id records → Good fixed id (f records))
    (hnext : Knows fixed file next) (hfailed : Knows fixed file failed) :
    Knows fixed file (modify (reconcile world file) f next failed) := by
  refine knows_afterRead hfile world ⟨⟨hvalid (valid_reconcile hfile world), fun id hid => ?_,
    hnext.shape, hfailed.shape⟩,
    fun id hid => ?_⟩
  · exact hgood id hid ((sure_reconcile hfile world).mpr (hnext.todo id hid)).1
  · rw [sure_reconcile hfile world]
    exact (mem_append.mp hid).elim (hnext.todo id) (hfailed.todo id)

theorem knows_update (hfile : Valid fixed file) (world : World) (hf : Keeps f)
    (hquiet : ∀ record, (f record).stoppedByUser = true → record.stoppedByUser = true) (id)
    (hnext : Knows fixed file next) : Knows fixed file (modify (reconcile world file) (updateById id f) next .idle) :=
  knows_modify hfile world (fun h => valid_updateById h hf id) (fun _ _ h => good_updateById h hf hquiet id) hnext
    knows_idle

theorem keeps_applyProbeResult (healthy : Bool) (now : ℤ) : Keeps (applyProbeResult healthy now) := by
  intro record
  unfold applyProbeResult
  split_ifs <;> exact ⟨rfl, rfl, rfl⟩

theorem keeps_markKilled : Keeps markKilled := fun _ => ⟨rfl, rfl, rfl⟩

theorem keeps_markStopped (exitCode : Option Int32) : Keeps (markStopped exitCode) := fun _ => ⟨rfl, rfl, rfl⟩

theorem valid_stopped (h : Valid fixed records) (record : BoxRecord) (exitCode : Option Int32) :
    Valid fixed (stopped record exitCode records) := by
  unfold stopped
  split_ifs
  · exact valid_filter h _
  · split
    · exact valid_updateById h (keeps_markStopped exitCode) _
    · exact h

theorem todo_restart {snapshot todo} (h : findById snapshot id = some record) :
    (restart record snapshot todo).todo = id :: todo := by
  have hid : record.id = id := by simpa using List.find?_some h
  unfold restart
  split_ifs
  · rw [Place.todo, hid]
  · rw [Place.todo, hid]

theorem knows_step (hapt : Apt fixed) {commands : ι → Command} {p : ι} {file' : List BoxRecord} {place place' : Place}
    (hfile : Valid fixed file) (h : Knows fixed file place) (hstep : Step commands p file place file' place') :
    Valid fixed file' ∧ Knows fixed file' place' := by
  cases hstep with
  | poll _ world =>
    have hvalid := valid_reconcile hfile world
    exact ⟨hfile, knows_afterRead hfile world ⟨hvalid, fun id hid => sure_of_candidate hapt hvalid hid⟩⟩
  | stop _ world | rm _ world =>
    exact ⟨hfile, knows_afterRead hfile world ⟨valid_reconcile hfile world, forall_mem_nil _⟩⟩
  | write =>
    obtain ⟨⟨hvalid, hgood, hnext, -⟩, htodo⟩ := h
    exact ⟨hvalid, hnext, fun id hid => ⟨hgood id hid, (htodo id (mem_append_left _ hid)).2⟩⟩
  | writeFails =>
    obtain ⟨⟨-, -, -, hfailed⟩, htodo⟩ := h
    exact ⟨hfile, hfailed, fun id hid => htodo id (mem_append_right _ hid)⟩
  | probe healthy now world =>
    refine ⟨hfile, knows_update hfile world (keeps_applyProbeResult healthy now) (fun record hquiet => ?_) _
      ⟨h.shape, h.todo⟩⟩
    unfold applyProbeResult at hquiet
    split_ifs at hquiet <;> exact hquiet
  | probed => exact ⟨hfile, trivial, h.todo⟩
  | wait | boot | bootFails => exact ⟨hfile, trivial, fun id hid => h.todo id (mem_cons_of_mem _ hid)⟩
  | restart hfind =>
    refine ⟨hfile, ?_, ?_⟩
    · unfold restart
      split_ifs <;> trivial
    · rw [todo_restart hfind]
      exact h.todo
  | @mark snapshot record todo world =>
    have hnext : Knows fixed file (.starting record snapshot todo) := ⟨trivial, h.todo⟩
    exact ⟨hfile, knows_update hfile world keeps_markKilled (fun _ hstopped => hstopped) _ hnext⟩
  | @note snapshot _ result todo now world =>
    have hnext : Knows fixed file (.restarting snapshot todo) := ⟨trivial, h.todo⟩
    have hkeeps : Keeps (applyBootResult result .increment now) := fun _ => ⟨rfl, rfl, rfl⟩
    have hquiet : ∀ record, (applyBootResult result .increment now record).stoppedByUser = true →
        record.stoppedByUser = true := fun _ hstopped => by cases hstopped
    exact ⟨hfile, knows_update hfile world hkeeps hquiet _ hnext⟩
  | finish => exact ⟨hfile, knows_idle⟩
  | stopBox =>
    have hvalid := valid_stopped (h := h.shape)
    exact ⟨hfile, ⟨hvalid _ _, forall_mem_nil _, hvalid _ _, hvalid _ _⟩, forall_mem_nil _⟩
  | stopFails | rmFails => exact ⟨hfile, h.shape, forall_mem_nil _⟩
  | rmBox _ _ _ world =>
    have hshape : Valid fixed _ := h.shape
    exact ⟨hfile, knows_modify hfile world (fun h => valid_filter h _) (fun _ hid => absurd hid not_mem_nil)
      ⟨valid_filter hshape _, forall_mem_nil _⟩ ⟨hshape, forall_mem_nil _⟩⟩

end Steps

theorem findById_of_mem (hnodup : (file.map fun record => record.id).Nodup) (h : record ∈ file) :
    findById file record.id = some record := by
  cases hfind : findById file record.id with
  | none => simpa using List.find?_eq_none.mp hfind record h
  | some found =>
    have hid : found.id = record.id := by simpa using List.find?_some hfind
    rw [inj_on_of_nodup_map hnodup (mem_of_find?_eq_some hfind) h hid]

/-- The policies of the boxes. -/
def policies (file : List BoxRecord) : Fixed := fun id =>
  match findById file id with
  | some record => (record.restartPolicy, record.autoRemove)
  | none => ("no", false)

theorem apt_policies (h : ∀ record ∈ file, record.autoRemove = true → ¬ Restarts record.restartPolicy) :
    Apt (policies file) := by
  intro id hremove
  unfold policies at hremove ⊢
  cases hfind : findById file id with
  | none =>
    rw [hfind] at hremove
    cases hremove
  | some record =>
    rw [hfind] at hremove
    exact h record (mem_of_find?_eq_some hfind) hremove

/-- **The boxes that the monitor restarts are allowed to be booted**, at the moment it starts to boot them. -/
theorem restarted_boxes_allowed [DecidableEq ι] {commands : ι → Command} {file : List BoxRecord}
    (hnodup : (file.map fun record => record.id).Nodup)
    (hapt : ∀ record ∈ file, record.autoRemove = true → ¬ Restarts record.restartPolicy)
    {s : State ι (List BoxRecord) Place} (h : Run (Step commands) Apart ⟨file, fun _ => .idle⟩ s) {p : ι}
    {record : BoxRecord} {snapshot : List BoxRecord} {todo : List String}
    (hplace : s.place p = .starting record snapshot todo) : MayBoot s.shared record.id := by
  have hfixed := apt_policies hapt
  have hvalid : Valid (policies file) file :=
    ⟨hnodup, fun record hrecord => by rw [policies, findById_of_mem hnodup hrecord]⟩
  have hknown : Valid (policies file) s.shared ∧ ∀ q, Knows (policies file) s.shared (s.place q) := by
    refine h.induct (P := fun s => Valid (policies file) s.shared ∧ ∀ q, Knows (policies file) s.shared (s.place q))
      ⟨hvalid, fun _ => knows_idle⟩ ?_
    rintro s p file' place' ⟨hshared, hknows⟩ hstep hapart
    obtain ⟨hvalid', hown⟩ := knows_step hfixed hshared (hknows p) hstep
    refine ⟨hvalid', s.forall_move (P := fun _ => Knows (policies file) file') hown fun q hq => ?_⟩
    refine ⟨(hknows q).shape, fun id hid => ?_⟩
    have hsure := (hknows q).todo id hid
    unfold Sure Good at hsure ⊢
    rw [hapart q hq id hid]
    exact hsure
  refine mayBoot_of_good hknown.1 ((hknown.2 p).todo record.id ?_).1
  rw [hplace]
  exact mem_cons_self

/-- A world in which all processes are alive. -/
def liveWorld : World := ⟨fun _ => true, fun _ => none⟩

/-- A box that is always restarted. -/
def deadBox : BoxRecord := { plainRecord "a" "dead" with restartPolicy := "always" }

/-- A box that runs and is unhealthy. -/
def unhealthyBox (restartPolicy : String) (autoRemove : Bool) : BoxRecord :=
  { plainRecord "a" "running" with
    pid := some 7, restartPolicy, autoRemove, healthCheck := some ⟨["true"], 1, 1, 1, 0⟩, healthStatus := "unhealthy" }

/-- The monitor and a user. -/
def monitorAnd (user : Command) : Bool → Command
  | true => .monitor
  | false => user

theorem apart_of_idle {s file place} (h : s.place false = .idle) : Apart s true file place := by
  intro q hq id hid
  rw [Bool.eq_false_of_not_eq_true hq, h] at hid
  cases hid

/-- Another box, which runs. -/
def otherBox : BoxRecord := { plainRecord "b" "running" with pid := some 8, restartPolicy := "unless-stopped" }

/-- An unhealthy box is killed and marked as dead, while the user stops another one: it may be booted. -/
theorem unhealthy_box_allowed : ∃ s : State Bool (List BoxRecord) Place,
      Run (Step (monitorAnd (.stop ["b"]))) Apart ⟨[unhealthyBox "unless-stopped" false, otherBox], fun _ => .idle⟩ s ∧
      s.place true =
        .starting (unhealthyBox "unless-stopped" false) [unhealthyBox "unless-stopped" false, otherBox] [] ∧
      marks "b" s.shared = [true] ∧ MayBoot s.shared "a" := by
  have hstart : Run (Step (monitorAnd (.stop ["b"]))) Apart
      ⟨[unhealthyBox "unless-stopped" false, otherBox], fun _ => .idle⟩ _ :=
    .step true .start (.poll rfl liveWorld fun _ => false) (apart_of_idle rfl)
  have h₁ := hstart.step true .probed (apart_of_idle rfl)
  -- what the user's command does leaves the box that is still to be restarted
  have happly : ∀ {s : State Bool (List BoxRecord) Place} {file place}, (s.place true).todo = ["a"] →
      marks "a" file = marks "a" s.shared → Apart s false file place := by
    intro s file place htodo hsame q hq id hid
    rw [Bool.eq_true_of_not_eq_false hq, htodo] at hid
    rw [mem_singleton.mp hid, hsame]
  have h₂ := h₁.step false (.stop (show monitorAnd (.stop ["b"]) false = .stop ["b"] from rfl) liveWorld)
    (happly rfl rfl)
  have h₃ := h₂.step false (.stopBox (show resolve _ "b" = some otherBox from rfl) rfl rfl (some 143)) (happly rfl rfl)
  have h₄ := h₃.step true (.restart rfl) (by
    rintro (_ | _) hq id hid
    · cases hid
    · exact absurd rfl hq)
  have h₅ := h₄.step false .write (happly rfl rfl)
  have h₆ := h₅.step false .finish (happly rfl rfl)
  have h₇ := h₆.step true (.mark emptyWorld) (apart_of_idle rfl)
  have h₈ := h₇.step true .write (apart_of_idle rfl)
  have h₉ := h₈.step true .write (apart_of_idle rfl)
  have hapt : ∀ record ∈ [unhealthyBox "unless-stopped" false, otherBox], record.autoRemove = true →
      ¬ Restarts record.restartPolicy := by
    intro record hrecord hremove
    rcases mem_pair.mp hrecord with rfl | rfl <;> cases hremove
  exact ⟨_, h₉, rfl, rfl, restarted_boxes_allowed (p := true) (by decide) hapt h₉
    (show _ = Place.starting (unhealthyBox "unless-stopped" false) _ _ from rfl)⟩

/-- **The decision is made from a snapshot.** The user removes a box that the monitor has found dead, or stops one that
it has found unhealthy; and of an unhealthy box that is removed when it stops, the monitor itself takes the record out
once it is killed, and boots it. -/
theorem decided_from_snapshot : (∃ s : State Bool (List BoxRecord) Place,
      Run (Step (monitorAnd (.rm ["a"] false))) (fun _ _ _ _ => True) ⟨[deadBox], fun _ => .idle⟩ s ∧
      s.place true = .starting deadBox [deadBox] [] ∧ ¬ MayBoot s.shared "a") ∧
    (∃ s : State Bool (List BoxRecord) Place,
      Run (Step (monitorAnd (.stop ["a"]))) (fun _ _ _ _ => True)
        ⟨[unhealthyBox "unless-stopped" false], fun _ => .idle⟩ s ∧
      s.place true = .starting (unhealthyBox "unless-stopped" false) [unhealthyBox "unless-stopped" false] [] ∧
      ¬ MayBoot s.shared "a") ∧
    ∃ s : State Bool (List BoxRecord) Place,
      Run (Step (monitorAnd (.stop []))) Apart ⟨[unhealthyBox "always" true], fun _ => .idle⟩ s ∧
      s.place true = .starting (unhealthyBox "always" true) [unhealthyBox "always" true] [] ∧
      ¬ MayBoot s.shared "a" := by
  have hgone : ¬ MayBoot [] "a" := fun ⟨⟨_, hrecord, _⟩, _⟩ => not_mem_nil hrecord
  refine ⟨?_, ?_, ?_⟩
  · have h₁ : Run (Step (monitorAnd (.rm ["a"] false))) (fun _ _ _ _ => True) ⟨[deadBox], fun _ => .idle⟩ _ :=
      .step true .start (.poll rfl liveWorld fun _ => false) trivial
    have h₂ := h₁.step true .probed trivial
    have h₃ := h₂.step false (.rm (show monitorAnd (.rm ["a"] false) false = .rm ["a"] false from rfl) liveWorld)
      trivial
    have hcommand : ∃ all, monitorAnd (.rm ["a"] false) false = .rm all false := ⟨["a"], rfl⟩
    have h₄ := h₃.step false (.rmBox hcommand (show resolve [deadBox] "a" = some deadBox from rfl) nofun liveWorld)
      trivial
    have h₅ := h₄.step false .write trivial
    have h₆ := h₅.step true (.restart (show findById [deadBox] "a" = some deadBox from rfl)) trivial
    exact ⟨_, h₆, rfl, hgone⟩
  · have h₁ : Run (Step (monitorAnd (.stop ["a"]))) (fun _ _ _ _ => True)
        ⟨[unhealthyBox "unless-stopped" false], fun _ => .idle⟩ _ :=
      .step true .start (.poll rfl liveWorld fun _ => false) trivial
    have h₂ := h₁.step true .probed trivial
    have h₃ := h₂.step false (.stop (show monitorAnd (.stop ["a"]) false = .stop ["a"] from rfl) liveWorld) trivial
    have h₄ := h₃.step false (.stopBox (show resolve _ "a" = some (unhealthyBox "unless-stopped" false) from rfl) rfl
      rfl (some 143)) trivial
    have h₅ := h₄.step false .write trivial
    have h₆ := h₅.step true (.restart rfl) trivial
    have h₇ := h₆.step true (.mark emptyWorld) trivial
    have h₈ := h₇.step true .write trivial
    refine ⟨_, h₈, rfl, fun hmay => ?_⟩
    exact hmay.2 (markKilled (markStopped (some 143) (unhealthyBox "unless-stopped" false))) (mem_singleton_self _) rfl
      rfl (.inr (.inr rfl))
  · have h₁ : Run (Step (monitorAnd (.stop []))) Apart ⟨[unhealthyBox "always" true], fun _ => .idle⟩ _ :=
      .step true .start (.poll rfl liveWorld fun _ => false) (apart_of_idle rfl)
    have h₂ := h₁.step true .probed (apart_of_idle rfl)
    have h₃ := h₂.step true (.restart rfl) (apart_of_idle rfl)
    have h₄ := h₃.step true (.mark emptyWorld) (apart_of_idle rfl)
    have h₅ := h₄.step true .write (apart_of_idle rfl)
    have h₆ := h₅.step true .write (apart_of_idle rfl)
    exact ⟨_, h₆, rfl, hgone⟩

/-! ### How often a box is restarted -/

section Limit

open Text Slices

/-- The number of restarts that a policy allows, if it has one. -/
def limitOf (policy : String) : Option ℕ :=
  (stripStart "on-failure:".toList policy.toList).bind fun text => (parseInt (2 ^ 32 - 1) text).toOption

/-- A record with a policy, as it is stored. -/
def withPolicy (record : BoxRecord) (pair : String × UInt32) : BoxRecord :=
  { record with restartPolicy := pair.1, maxRestartCount := pair.2 }

/-- The records of a box after a start by the user and so many restarts by the monitor. Nothing else changes its policy
or its number of restarts. -/
inductive Restarted : BoxRecord → ℕ → Prop where
  | start (record : BoxRecord) (result : BootResult) (now : ℤ) : Restarted (applyBootResult result .reset now record) 0
  | other {record record' n} (before : Restarted record n) (policy : record'.restartPolicy = record.restartPolicy)
      (max : record'.maxRestartCount = record.maxRestartCount) (count : record'.restartCount = record.restartCount) :
      Restarted record' n
  | restart {record n} (before : Restarted record n) (due : shouldRestart record = true) (result : BootResult)
      (now : ℤ) : Restarted (applyBootResult result .increment now record) (n + 1)

variable {policy : String} {record : BoxRecord} {max n : ℕ}

theorem shouldRestart_text {text} (hstrip : stripStart "on-failure:".toList record.restartPolicy.toList = some text)
    (hparse : parseInt (2 ^ 32 - 1) text = .ok max) :
    shouldRestart record = (!record.stoppedByUser && decide (record.restartCount.toNat < max)) := by
  have hlength : "on-failure:".length = "on-failure:".toList.length := rfl
  rw [stripStart] at hstrip
  split_ifs at hstrip with hstart
  cases hstrip
  simp only [shouldRestart, hstart, if_true, hlength, hparse]

theorem shouldRestart_pair (hpolicy : record.restartPolicy = "on-failure") (hmax : record.maxRestartCount ≠ 0) :
    shouldRestart record =
      (!record.stoppedByUser && decide (record.restartCount.toNat < record.maxRestartCount.toNat)) := by
  have hpos : 0 < record.maxRestartCount := UInt32.pos_iff_ne_zero.mpr hmax
  simp [shouldRestart, hpolicy, BoxRecord.restartsLeft, hpos, UInt32.lt_iff_toNat_lt]

/-- Each restart is counted, and there are no more than the record allows. -/
theorem Restarted.count (h : Restarted record n) (hpolicy : record.restartPolicy = "on-failure")
    (hmax : record.maxRestartCount ≠ 0) :
    record.restartCount.toNat = n ∧ n ≤ record.maxRestartCount.toNat := by
  induction h with
  | start => exact ⟨rfl, Nat.zero_le _⟩
  | other _ policy max count ih =>
    rw [count, max]
    exact ih (policy ▸ hpolicy) (max ▸ hmax)
  | @restart record n _ due result now ih =>
    change record.restartPolicy = _ at hpolicy
    obtain ⟨hcount, -⟩ := ih hpolicy hmax
    rw [shouldRestart_pair hpolicy hmax, hcount, Bool.and_eq_true, decide_eq_true_eq] at due
    have hfits := record.maxRestartCount.toNat_lt
    have hnext : (record.restartCount + 1).toNat = n + 1 := by
      rw [UInt32.toNat_add, hcount]
      exact Nat.mod_eq_of_lt (show n + 1 < 2 ^ 32 by omega)
    exact ⟨hnext, due.2⟩

/-- What is stored of a policy, and that it restarts a box as the policy does and no more often. -/
def KeepsPolicy (policy : String) (pair : String × UInt32) : Prop :=
  (∀ record, shouldRestart (withPolicy record pair) = shouldRestart (withPolicy record (policy, 0))) ∧
    ∀ max, limitOf policy = some max → ∀ record n, Restarted (withPolicy record pair) n → n ≤ max

/-- **An accepted policy restarts a box as it is stored**, exactly if it does not allow 0 restarts. -/
theorem policy_kept_iff (policy : String) (hvalid : validateRestartPolicy policy = .ok ()) :
    ∃ pair, parseRestartPolicy policy = .ok pair ∧ (KeepsPolicy policy pair ↔ limitOf policy ≠ some 0) := by
  rw [parseRestartPolicy, hvalid]
  cases hstrip : stripStart "on-failure:".toList policy.toList with
  | none =>
    have hlimit : limitOf policy = none := by rw [limitOf, hstrip, Option.bind_none]
    exact ⟨(policy, 0), rfl, iff_of_true ⟨fun _ => rfl, by simp [hlimit]⟩ (by simp [hlimit])⟩
  | some text =>
    cases hparse : parseInt (2 ^ 32 - 1) text with
    | error =>
      simp only [validateRestartPolicy, hstrip, hparse] at hvalid
      split_ifs at hvalid with hname
      rcases hname with rfl | rfl | rfl | rfl <;> cases hstrip
    | ok m =>
      have hlimit : limitOf policy = some m := by rw [limitOf, hstrip, Option.bind_some, hparse]; rfl
      have hm : (UInt32.ofNat m).toNat = m :=
        UInt32.toNat_ofNat_of_lt' (Nat.lt_of_le_pred (by decide) (parseInt_le hparse))
      refine ⟨("on-failure", UInt32.ofNat m), by simp only [bind, Except.bind, hparse], ?_⟩
      rw [KeepsPolicy, hlimit]
      constructor
      · rintro ⟨hsame, -⟩ hzero
        obtain rfl := Option.some.inj hzero
        have hplain := hsame (plainRecord "a" "dead")
        rw [@shouldRestart_text (withPolicy _ (policy, 0)) 0 text hstrip hparse] at hplain
        have hunlimited : shouldRestart (withPolicy (plainRecord "a" "dead") ("on-failure", UInt32.ofNat 0)) = true := by
          decide +kernel
        rw [hunlimited] at hplain
        simp at hplain
      · intro hne
        have hmax : UInt32.ofNat m ≠ 0 := by
          intro hzero
          rw [hzero] at hm
          exact hne (congrArg some hm.symm)
        refine ⟨fun record => ?_, fun max hmaxEq record n hrestarted => ?_⟩
        · rw [shouldRestart_pair rfl hmax, @shouldRestart_text (withPolicy record (policy, 0)) m text hstrip hparse]
          simp only [withPolicy, hm]
          rfl
        · obtain rfl := Option.some.inj hmaxEq
          exact (hrestarted.count rfl hmax).2.trans_eq hm

/-- `policy_kept_iff` at a policy with two restarts. -/
theorem two_restarts_kept : ∃ pair, parseRestartPolicy "on-failure:2" = .ok pair ∧ KeepsPolicy "on-failure:2" pair := by
  obtain ⟨pair, hpair, hiff⟩ := policy_kept_iff "on-failure:2" (by decide +kernel)
  exact ⟨pair, hpair, hiff.mpr (by decide +kernel)⟩

/-- A policy that allows no restart is stored as one without a limit. -/
theorem zero_restarts_unlimited : parseRestartPolicy "on-failure:0" = .ok ("on-failure", 0) ∧
    shouldRestart (withPolicy (plainRecord "a" "dead") ("on-failure", 0)) = true ∧
    shouldRestart (withPolicy (plainRecord "a" "dead") ("on-failure:0", 0)) = false := by
  decide +kernel

end Limit

/-! ### What the probes say of a box -/

/-- The probes that failed since the last one that did not, or since the boot. -/
def failures (probes : List (Bool × ℤ)) : ℕ := (probes.reverse.takeWhile fun probe => !probe.1).length

/-- A record after some probes. -/
def probed (probes : List (Bool × ℤ)) (record : BoxRecord) : BoxRecord :=
  probes.foldl (fun record probe => applyProbeResult probe.1 probe.2 record) record

/-- The record of a box that runs, after its probes. -/
structure Probed (check : Option HealthCheck) (probes : List (Bool × ℤ)) (record : BoxRecord) : Prop where
  running : record.status = "running"
  kept : record.healthCheck = check
  retries : record.healthRetries.toNat = min (failures probes) (2 ^ 32 - 1)
  unhealthy : record.healthStatus = "unhealthy" ↔ ∃ c ∈ check, max 1 c.retries.toNat ≤ failures probes

theorem Probed.step {check probes record} (h : Probed check probes record) (healthy : Bool) (now : ℤ) :
    Probed check (probes ++ [(healthy, now)]) (applyProbeResult healthy now record) := by
  rw [applyProbeResult, if_neg (not_not.mpr h.running)]
  cases healthy with
  | true =>
    have hnone : failures (probes ++ [(true, now)]) = 0 := by simp [failures]
    exact ⟨h.running, h.kept, by rw [hnone]; rfl, by simp [hnone]⟩
  | false =>
    have hone : failures (probes ++ [(false, now)]) = failures probes + 1 := by simp [failures]
    -- the counter stays at its end
    have hcount : (if record.healthRetries = 0xFFFFFFFF then record.healthRetries
        else record.healthRetries + 1).toNat = min (failures probes + 1) (2 ^ 32 - 1) := by
      have hretries := h.retries
      split_ifs with hend
      · rw [hend, show (0xFFFFFFFF : UInt32).toNat = 2 ^ 32 - 1 from rfl] at hretries ⊢
        omega
      · have hne : record.healthRetries.toNat ≠ 2 ^ 32 - 1 := fun heq => hend (UInt32.toNat_inj.mp heq)
        rw [UInt32.toNat_add, show (1 : UInt32).toNat = 1 from rfl]
        omega
    have hunhealthy := h.unhealthy
    refine ⟨h.running, h.kept, by rw [hone]; exact hcount, ?_⟩
    show (if record.healthCheck.any _ then "unhealthy" else record.healthStatus) = "unhealthy" ↔ _
    rw [h.kept]
    cases check with
    | none => simpa using hunhealthy
    | some c =>
      have hfits := c.retries.toNat_lt
      simp only [Option.mem_def, Option.some.injEq, exists_eq_left', Option.any_some, decide_eq_true_eq,
        UInt32.le_iff_toNat_le, hcount] at hunhealthy ⊢
      split_ifs with hreached
      · exact iff_of_true rfl (by omega)
      · rw [hunhealthy]
        omega

/-- **What the probes say**: a box that was booted is unhealthy exactly if as many probes in a row have failed as its
health check allows, and it is healthy after a probe that has not failed. A box that does not run is left alone. -/
theorem unhealthy_iff_failures (record : BoxRecord) (result : BootResult) (update : RestartCountUpdate) (now : ℤ)
    (probes : List (Bool × ℤ)) :
    ((probed probes (applyBootResult result update now record)).healthStatus = "unhealthy" ↔
      ∃ check ∈ result.healthCheck, max 1 check.retries.toNat ≤ failures probes) ∧
    (∀ time, probes.getLast? = some (true, time) →
      (probed probes (applyBootResult result update now record)).healthStatus = "healthy") ∧
    (record.status ≠ "running" → probed probes record = record) := by
  have hstart : Probed result.healthCheck [] (applyBootResult result update now record) := by
    refine ⟨rfl, rfl, rfl, iff_of_false ?_ (by simp [failures])⟩
    cases hcheck : result.healthCheck <;> simp [applyBootResult, hcheck]
  have hprobed : ∀ probes,
      Probed result.healthCheck probes (probed probes (applyBootResult result update now record)) := by
    intro probes
    induction probes using List.reverseRecOn with
    | nil => exact hstart
    | append_singleton probes probe ih =>
      rw [probed, foldl_concat]
      exact ih.step probe.1 probe.2
  refine ⟨(hprobed probes).unhealthy, fun time hlast => ?_, fun hstopped => ?_⟩
  · obtain ⟨before, rfl⟩ := getLast?_eq_some_iff.mp hlast
    have hrunning := (hprobed before).running
    rw [probed, foldl_concat]
    exact congrArg BoxRecord.healthStatus (if_neg (not_not.mpr hrunning))
  · induction probes with
    | nil => rfl
    | cons probe probes ih =>
      rw [probed, foldl_cons, applyProbeResult, if_pos hstopped]
      exact ih

end A3sBox.Monitor
