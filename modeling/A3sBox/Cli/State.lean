import A3sBox.Core.Config
import A3sBox.Library.Text

/-!
# The records of boxes

`cli/src/state/mod.rs`, `policy.rs` and `StateFile::reconcile`: what is stored about each box, and how the records are
brought up to date when they are loaded. `World` is what the operating system is asked: which processes are alive, and
the exit codes that guests have left. Times are numbers.

`reconciles_reconcile`: a box that was said to run is marked as dead or removed, and nothing else changes.
-/

namespace A3sBox.Boxes

open Text List

/-! ### Records -/

/-- How the health of a box is checked. -/
structure HealthCheck where
  cmd : List String
  intervalSecs : UInt64
  timeoutSecs : UInt64
  /-- The failures after which the box is unhealthy. -/
  retries : UInt32
  /-- The seconds before the first check. -/
  startPeriodSecs : UInt64
  deriving DecidableEq, Repr

/-- What is stored about a box. -/
structure BoxRecord where
  id : String
  shortId : String
  name : String
  image : String
  status : String
  pid : Option UInt32
  cpus : UInt32
  memoryMb : UInt32
  volumes : List String
  env : AList fun _ : String => String
  cmd : List String
  entrypoint : Option (List String)
  boxDir : String
  execSocketPath : String
  consoleLog : String
  createdAt : ℤ
  startedAt : Option ℤ
  autoRemove : Bool
  hostname : Option String
  user : Option String
  workdir : Option String
  restartPolicy : String
  portMap : List String
  labels : AList fun _ : String => String
  stoppedByUser : Bool
  restartCount : UInt32
  maxRestartCount : UInt32
  exitCode : Option Int32
  healthCheck : Option HealthCheck
  healthcheckDisabled : Bool
  healthStatus : String
  healthRetries : UInt32
  healthLastCheck : Option ℤ
  networkMode : NetworkMode
  networkName : Option String
  volumeNames : List String
  tmpfs : List String
  anonymousVolumes : List String
  resourceLimits : ResourceLimits
  logConfig : LogConfig
  addHost : List String
  platform : Option String
  init : Bool
  readOnly : Bool
  capAdd : List String
  capDrop : List String
  securityOpt : List String
  privileged : Bool
  devices : List String
  gpus : Option String
  shmSize : Option UInt64
  stopSignal : Option String
  stopTimeout : Option UInt64
  /-- Whether it is spared when memory runs out. -/
  oomKillDisable : Bool
  oomScoreAdj : Option Int32

/-- The box is said to run. -/
def isActive (record : BoxRecord) : Bool := record.status == "running" || record.status == "paused"

/-- A box may be restarted once more. -/
def BoxRecord.restartsLeft (record : BoxRecord) : Bool :=
  if 0 < record.maxRestartCount then record.restartCount < record.maxRestartCount else true

/-- The policy restarts the box. -/
def shouldRestart (record : BoxRecord) : Bool :=
  let policy := record.restartPolicy.toList
  if "on-failure:".toList.isPrefixOf policy then
    match parseInt (2 ^ 32 - 1) (policy.drop "on-failure:".length) with
    | .ok max => !record.stoppedByUser && record.restartCount.toNat < max
    | .error _ => false
  else if record.restartPolicy = "always" then record.restartsLeft
  else if record.restartPolicy = "on-failure" ∨ record.restartPolicy = "unless-stopped" then
    !record.stoppedByUser && record.restartsLeft
  else false

/-! ### Reconciling -/

/-- What is asked of the operating system. -/
structure World where
  alive : UInt32 → Bool
  /-- The text of the file with the exit code, by the directory of the box. -/
  exitFile : String → Option String

/-- A number of the type `i32`. -/
def parseI32 : List Char → Option Int32
  | '-' :: c :: rest => (parseDigits (2 ^ 31) 0 (c :: rest)).toOption.map fun n => Int32.ofInt (-n)
  | ['-'] => none
  | text => (parseInt (2 ^ 31 - 1) text).toOption.map Int32.ofNat

/-- The box is said to run, but it has no live process. -/
def World.lost (world : World) (record : BoxRecord) : Bool :=
  (record.status == "running" || record.status == "paused") && !record.pid.any world.alive

/-- Note that a box is dead. -/
def World.markDead (world : World) (record : BoxRecord) : BoxRecord :=
  { record with
    exitCode := record.exitCode.orElse fun _ =>
      (world.exitFile record.boxDir).bind fun contents => parseI32 (trim contents.toList)
    status := "dead"
    pid := none
    healthStatus := "none"
    healthRetries := 0 }

/-- What `reconcile` does. -/
structure Reconciled where
  records : List BoxRecord
  changed : Bool
  restartCandidates : List String
  /-- The boxes whose resources are cleaned up. -/
  stopped : List BoxRecord
  removed : List BoxRecord

/-- Mark the boxes that are dead, and remove those that are to be removed when they stop. -/
def reconcile (world : World) (records : List BoxRecord) : Reconciled :=
  let dead := (records.filter world.lost).map world.markDead
  let removed := dead.filter fun record => record.autoRemove
  let stopped := dead.filter fun record => !record.autoRemove
  let marked := records.map fun record => if world.lost record then world.markDead record else record
  { records := marked.filter fun record => !removed.any fun r => r.id == record.id
    changed := !dead.isEmpty
    restartCandidates := (stopped.filter shouldRestart).map fun record => record.id
    stopped
    removed }

/-- The records of a box. -/
def recordsOf (id : String) (records : List BoxRecord) : List BoxRecord := records.filter fun record => record.id == id

/-- The box is said to run. -/
def BoxRecord.Active (record : BoxRecord) : Prop := record.status = "running" ∨ record.status = "paused"

/-- What a record that was said to run may become: marked as dead, with its exit code if it has one. -/
def BoxRecord.Died (before after : BoxRecord) : Prop :=
  before.Active ∧ (before.exitCode ≠ none → after.exitCode = before.exitCode) ∧
    after = { before with
      exitCode := after.exitCode, status := "dead", pid := none, healthStatus := "none", healthRetries := 0 }

/-- What reconciling may leave of the records of a box: each is as it was or marked as dead; or none is left, if the box
was said to run and is to be removed when it stops. -/
def LeftOf (before after : List BoxRecord) : Prop :=
  Forall₂ (fun r r' => r' = r ∨ r.Died r') before after ∨
    after = [] ∧ ∃ r ∈ before, r.Active ∧ r.autoRemove = true

/-- Reconciling, once or again and again, may lead from records to others. -/
def Reconciles (before after : List BoxRecord) : Prop := ∀ id, LeftOf (recordsOf id before) (recordsOf id after)

theorem recordsOf_map {f} (hf : ∀ record, (f record).id = record.id) (id : String)
    (records : List BoxRecord) : recordsOf id (records.map f) = (recordsOf id records).map f := by
  simp only [recordsOf, filter_map, Function.comp_def, hf]

theorem recordsOf_filter (p : BoxRecord → Bool) (id : String) (records : List BoxRecord) :
    recordsOf id (records.filter p) = (recordsOf id records).filter p := filter_comm ..

theorem any_recordsOf (id : String) (records : List BoxRecord) :
    ((recordsOf id records).any fun r => r.id == id) = records.any fun r => r.id == id := by
  simp [recordsOf]

/-- **The boxes are reconciled one by one.** -/
theorem recordsOf_reconcile (world : World) (id : String) (records : List BoxRecord) :
    recordsOf id (reconcile world records).records = (reconcile world (recordsOf id records)).records := by
  have hmarkDead : ∀ record, (world.markDead record).id = record.id := fun _ => rfl
  have hmark : ∀ record, (if world.lost record then world.markDead record else record).id = record.id := by
    intro record
    split_ifs
    · rfl
    · rfl
  simp only [reconcile, recordsOf_filter, recordsOf_map hmark]
  refine filter_congr fun record hrecord => ?_
  -- the record belongs to the box, so only records of the box can remove it
  have hid : record.id = id := by
    rw [← recordsOf_map hmark] at hrecord
    simpa using (mem_filter.1 hrecord).2
  rw [hid, ← any_recordsOf, recordsOf_filter, recordsOf_map hmarkDead, recordsOf_filter]

/-! ### What reconciling may do -/

theorem LeftOf.refl (records : List BoxRecord) : LeftOf records records := .inl (forall₂_same.mpr fun _ _ => .inl rfl)

theorem not_active_of_died {r r' : BoxRecord} (h : r.Died r') : ¬ r'.Active := by
  rw [h.2.2]
  simp [BoxRecord.Active]

theorem LeftOf.trans {before between after} (h : LeftOf before between) (h' : LeftOf between after) :
    LeftOf before after := by
  rcases h with hmarked | ⟨rfl, hremoved⟩
  · rcases h' with hmarked' | ⟨rfl, r', hr', hactive, hauto⟩
    · left
      induction hmarked generalizing after with
      | nil => exact hmarked'
      | cons hr _ ih =>
        obtain ⟨r'', rest, hr', hrest, rfl⟩ := forall₂_cons_left_iff.mp hmarked'
        refine .cons ?_ (ih hrest)
        rcases hr with rfl | hdied
        · exact hr'
        · rcases hr' with rfl | hagain
          · exact .inr hdied
          · exact absurd hagain.1 (not_active_of_died hdied)
    · -- a record that is still said to run has not been changed before
      refine .inr ⟨rfl, ?_⟩
      induction hmarked with
      | nil => cases hr'
      | cons hr _ ih =>
        rcases mem_cons.mp hr' with rfl | hr'
        · obtain rfl := hr.resolve_right fun hdied => not_active_of_died hdied hactive
          exact ⟨_, mem_cons_self, hactive, hauto⟩
        · obtain ⟨r, hmem, hr⟩ := ih hr'
          exact ⟨r, mem_cons_of_mem _ hmem, hr⟩
  · rcases h' with hmarked' | ⟨-, _, hr, -⟩
    · exact .inr ⟨forall₂_nil_left_iff.mp hmarked', hremoved⟩
    · cases hr

theorem active_of_lost {world : World} {record} (h : world.lost record = true) : record.Active := by
  simp only [World.lost, Bool.and_eq_true, Bool.or_eq_true, beq_iff_eq] at h
  exact h.1

theorem died_markDead {world : World} {record} (h : world.lost record = true) : record.Died (world.markDead record) := by
  refine ⟨active_of_lost h, fun hcode => ?_, rfl⟩
  obtain ⟨code, hcode⟩ := Option.ne_none_iff_exists'.mp hcode
  simp [World.markDead, hcode]

/-- **What reconciling does** to the records of each box is what it may do. -/
theorem reconciles_reconcile (world : World) (records : List BoxRecord) :
    Reconciles records (reconcile world records).records := by
  intro id
  rw [recordsOf_reconcile]
  have hid : ∀ record ∈ recordsOf id records, record.id = id := fun record h => by simpa using (mem_filter.mp h).2
  generalize recordsOf id records = own at hid
  by_cases hauto : ∃ record ∈ own, world.lost record = true ∧ record.autoRemove = true
  · obtain ⟨record, hmem, hlost, hauto⟩ := hauto
    refine .inr ⟨?_, record, hmem, active_of_lost hlost, hauto⟩
    simp only [reconcile, filter_eq_nil_iff, mem_map, Bool.not_eq_true', Bool.not_eq_false]
    rintro _ ⟨other, hother, rfl⟩
    refine any_eq_true.mpr ⟨world.markDead record,
      mem_filter.mpr ⟨mem_map_of_mem (mem_filter.mpr ⟨hmem, hlost⟩), hauto⟩, ?_⟩
    have hsame : (if world.lost other then world.markDead other else other).id = other.id := by
      split_ifs <;> rfl
    rw [hsame, hid other hother]
    exact beq_iff_eq.mpr (hid record hmem)
  · have hnone : ((own.filter world.lost).map world.markDead).filter (fun record => record.autoRemove) = [] := by
      simp only [filter_eq_nil_iff, mem_map, mem_filter]
      rintro _ ⟨record, ⟨hmem, hlost⟩, rfl⟩ hremove
      exact hauto ⟨record, hmem, hlost, hremove⟩
    left
    simp only [reconcile, hnone, any_nil, Bool.not_false, filter_true, forall₂_map_right_iff, forall₂_same]
    intro record _
    split_ifs with hlost
    · exact .inr (died_markDead hlost)
    · exact .inl rfl

theorem Reconciles.refl (records : List BoxRecord) : Reconciles records records := fun _ => .refl _

end A3sBox.Boxes
