import A3sBox.Library.Totals
import A3sBox.Runtime.VolumeStore

/-!
# Attaching volumes while others are removed

`runtime/src/volume/store.rs` and `cli/src/commands/volume.rs`: to attach a box, a process gets the volume, adds the
box and writes the volume back with `update`, which loads the file once more. To remove a volume, it loads the file,
checks that no box uses the volume, writes the file without it, and removes its data. Pruning loads the file, and then
removes every volume that was not in use; whether that succeeds is not looked at.

## The model

To load the file, to replace it and to remove the data of a volume are one step each; the first two may fail. There is
no lock. The data of different volumes is in different directories (see `A3sBox.Runtime.VolumeStore`).

`attached_volumes_kept`: when a volume that a box was attached to is kept, and pruning reports what it has removed.
`overlapping_removed` are two runs in which processes overlap.
-/

namespace A3sBox.Volume

open Processes List AList

/-! ### The processes -/

/-- What a process is to do. -/
inductive Request where
  | attach (name boxId : String)
  | remove (name : String)
  | prune
  deriving DecidableEq, Repr

/-- What the processes share. -/
structure Shelf where
  file : Option (Content Volumes)
  data : String → Bool

/-- How far pruning has got. -/
structure Progress where
  pruned : List String
  todo : List String
  removed : List String
  deriving DecidableEq, Repr

/-- Where a process is. -/
inductive Phase where
  | start
  /-- It has added the box to the volume, and has to load the file again. -/
  | got (config : VolumeConfig)
  | saving (volumes : Volumes)
  | attached
  /-- It has to remove the next volume, as part of pruning. -/
  | next (progress : Progress)
  /-- It has to save the volumes without one, alone or as part of pruning. -/
  | taken (name : String) (volumes : Volumes) (task : Option Progress)
  /-- It has to remove the data of that volume. -/
  | saved (name : String) (task : Option Progress)
  /-- It could not remove a volume as part of pruning, because a load or a save failed or for another reason. -/
  | skipped (failure : Bool) (progress : Progress)
  | removed
  /-- It has reported the first volumes as pruned, and has removed the second. -/
  | pruned (reported removed : List String)
  | failed (e : BoxError)

/-- Between its first load and its last step. -/
def Phase.inside : Phase → Prop
  | .got _ | .saving _ | .next _ | .taken _ _ _ | .saved _ _ | .skipped _ _ => True
  | .start | .attached | .removed | .pruned _ _ | .failed _ => False

/-- An error while a volume is removed; while pruning it is not looked at. -/
def afterError (task : Option Progress) (failure : Bool) (e : BoxError) : Phase :=
  match task with
  | none => .failed e
  | some progress => .skipped failure progress

/-- A volume was looked up. -/
def afterGet (name boxId : String) : Except BoxError Volumes → Phase
  | .error e => .failed e
  | .ok volumes =>
    match volumes.lookup name with
    | none => .attached
    | some config => .got (config.attach boxId)

/-- The volume is put in its place. -/
def afterReload (config : VolumeConfig) : Except BoxError Volumes → Phase
  | .error e => .failed e
  | .ok volumes =>
    if config.name ∈ volumes then .saving (volumes.insert config.name config)
    else .failed (.configError s!"volume '{config.name}' not found")

/-- A volume was taken from the file. -/
def afterTake (name : String) (task : Option Progress) : Except BoxError Volumes → Phase
  | .error e => afterError task true e
  | .ok volumes =>
    match takeOut volumes name false with
    | .error e => afterError task false e
    | .ok (_, volumes) => .taken name volumes task

/-- The volumes that are not in use are to be removed. -/
def afterList : Except BoxError Volumes → Phase
  | .error e => .failed e
  | .ok volumes => .next ⟨unused volumes, unused volumes, []⟩

/-- A volume is gone. -/
def afterRemoved (name : String) : Option Progress → Phase
  | none => .removed
  | some progress => .next { progress with removed := progress.removed ++ [name] }

variable {ι : Type}

/-- The steps of a process. -/
inductive Step (store : VolumeStore) (requests : ι → Request) : ι → Shelf → Phase → Shelf → Phase → Prop where
  /-- Load the volume and add the box. -/
  | get {p shelf name boxId} (h : requests p = .attach name boxId) (readError : Option String) :
      Step store requests p shelf .start shelf (afterGet name boxId (load store readError shelf.file))
  | reload {p shelf config} (readError : Option String) :
      Step store requests p shelf (.got config) shelf (afterReload config (load store readError shelf.file))
  | save {p shelf volumes} :
      Step store requests p shelf (.saving volumes) { shelf with file := some (.whole volumes) } .attached
  | saveFails {p shelf volumes} (fault : SaveFault) :
      Step store requests p shelf (.saving volumes) shelf (.failed (fault.error store))
  /-- Load the volumes and take one out. -/
  | take {p shelf name} (h : requests p = .remove name) (readError : Option String) :
      Step store requests p shelf .start shelf (afterTake name none (load store readError shelf.file))
  /-- Load the volumes and list those that are not in use. -/
  | list {p shelf} (h : requests p = .prune) (readError : Option String) :
      Step store requests p shelf .start shelf (afterList (load store readError shelf.file))
  /-- Load the volumes and take the next one out. -/
  | next {p shelf name pruned todo removed} (readError : Option String) :
      Step store requests p shelf (.next ⟨pruned, name :: todo, removed⟩) shelf
        (afterTake name (some ⟨pruned, todo, removed⟩) (load store readError shelf.file))
  | finish {p shelf pruned removed} :
      Step store requests p shelf (.next ⟨pruned, [], removed⟩) shelf (.pruned pruned removed)
  | saveTaken {p shelf name volumes task} :
      Step store requests p shelf (.taken name volumes task) { shelf with file := some (.whole volumes) }
        (.saved name task)
  | saveTakenFails {p shelf name volumes task} (fault : SaveFault) :
      Step store requests p shelf (.taken name volumes task) shelf (afterError task true (fault.error store))
  /-- Remove the data of the volume; the host may keep it. -/
  | clear {p shelf name task} (keeps : Bool) :
      Step store requests p shelf (.saved name task)
        { shelf with data := Function.update shelf.data name (shelf.data name && keeps) } (afterRemoved name task)
  /-- Go on with the next volume. -/
  | skip {p shelf failure progress} : Step store requests p shelf (.skipped failure progress) shelf (.next progress)

variable (shelf : Shelf)

/-- The processes, before their first steps. -/
def shelved : State ι Shelf Phase := ⟨shelf, fun _ => .start⟩

/-- A process loads the file first only while no other is between its first load and its last step. -/
def Alone (s : State ι Shelf Phase) (p : ι) (_ : Shelf) (_ : Phase) : Prop :=
  s.place p = .start → ∀ q, q ≠ p → ¬ (s.place q).inside

/-- A volume is there when a process comes to attach a box to it, and nothing fails while pruning. -/
def Smooth (requests : ι → Request) (p : ι) (shelf : Shelf) (phase : Phase) (_ : Shelf) (phase' : Phase) : Prop :=
  (∀ name boxId, requests p = .attach name boxId → phase = .start →
    ∃ volumes, shelf.file = some (.whole volumes) ∧ name ∈ volumes) ∧
  ∀ progress, phase' ≠ .skipped true progress

/-! ### What is known while a process runs -/

/-- Every volume is stored under its name, and its data is there. -/
def Sound : Prop :=
  ∀ volumes, shelf.file = some (.whole volumes) → ∀ name config, volumes.lookup name = some config →
    config.name = name ∧ shelf.data name = true

/-- A volume is in the file, with the box. -/
def Holds (name boxId : String) : Prop :=
  ∃ volumes config, shelf.file = some (.whole volumes) ∧ volumes.lookup name = some config ∧ boxId ∈ config.inUseBy

/-- A volume is in the file, and no box uses it. -/
def Idle (name : String) : Prop :=
  ∃ volumes config, shelf.file = some (.whole volumes) ∧ volumes.lookup name = some config ∧ config.isInUse = false

/-- Different volumes are in the file, and no box uses them. -/
def AllIdle (names : List String) : Prop := names.Nodup ∧ ∀ name ∈ names, Idle shelf name

/-- What is known of a process: between its first load and its last step the file is the one it has loaded or saved;
once a box is attached, the volume is in the file with the box. -/
def Knows (request : Request) (shelf : Shelf) : Phase → Prop
  | .got config =>
    ∃ name boxId volumes before, request = .attach name boxId ∧ shelf.file = some (.whole volumes) ∧
      volumes.lookup name = some before ∧ config = before.attach boxId
  | .saving next =>
    ∃ name boxId volumes before, request = .attach name boxId ∧ shelf.file = some (.whole volumes) ∧
      volumes.lookup name = some before ∧ next = volumes.insert name (before.attach boxId)
  | .attached => ∀ name boxId, request = .attach name boxId → Holds shelf name boxId
  | .next progress => AllIdle shelf progress.todo ∧ progress.removed ++ progress.todo = progress.pruned
  | .taken name next task =>
    (∃ volumes config, shelf.file = some (.whole volumes) ∧ volumes.lookup name = some config ∧
      config.isInUse = false ∧ next = volumes.erase name) ∧
    ∀ progress, task = some progress →
      AllIdle shelf (name :: progress.todo) ∧ progress.removed ++ name :: progress.todo = progress.pruned
  | .saved name task =>
    (∀ volumes, shelf.file = some (.whole volumes) → name ∉ volumes) ∧
    ∀ progress, task = some progress →
      AllIdle shelf progress.todo ∧ progress.removed ++ name :: progress.todo = progress.pruned
  | .skipped _ _ => False
  | .pruned reported removed => removed = reported
  | .start | .removed | .failed _ => True

variable {volumes : Volumes} {config : VolumeConfig} {boxId : String} {store : VolumeStore}

theorem load_whole {readError volumes'}
    (h : load store readError (some (.whole volumes)) = .ok volumes') : volumes' = volumes := by
  rcases load_ok h with ⟨hfile, -⟩ | ⟨hfile, -⟩
  · cases hfile
  · cases hfile
    rfl

variable {name : String}

theorem takeOut_ok {rest} (h : takeOut volumes name false = .ok (config, rest)) :
    volumes.lookup name = some config ∧ config.isInUse = false ∧ rest = volumes.erase name := by
  unfold takeOut at h
  split at h
  · cases h
  next found hfound =>
    split_ifs at h with huse
    cases h
    exact ⟨hfound, by simpa using huse, rfl⟩

theorem mem_attach (config : VolumeConfig) (boxId : String) : boxId ∈ (config.attach boxId).inUseBy := by
  unfold VolumeConfig.attach
  split_ifs with h
  · exact h
  · simp

theorem mem_attach_of_mem {box} (h : box ∈ config.inUseBy) (boxId) : box ∈ (config.attach boxId).inUseBy := by
  unfold VolumeConfig.attach
  split_ifs
  · exact h
  · exact mem_append_left _ h

theorem name_attach (config : VolumeConfig) (boxId : String) : (config.attach boxId).name = config.name := by
  unfold VolumeConfig.attach
  split_ifs <;> rfl

theorem isInUse_of_mem (h : boxId ∈ config.inUseBy) : config.isInUse = true := by
  cases hboxes : config.inUseBy with
  | nil =>
    rw [hboxes] at h
    cases h
  | cons => simp [VolumeConfig.isInUse, hboxes]

section Steps

variable {store : VolumeStore} {request : Request} {shelf : Shelf}

theorem knows_afterGet (hrequest : request = .attach name boxId)
    (hthere : ∃ volumes, shelf.file = some (.whole volumes) ∧ name ∈ volumes) (readError : Option String) :
    Knows request shelf (afterGet name boxId (load store readError shelf.file)) := by
  obtain ⟨volumes, hfile, hmem⟩ := hthere
  rw [hfile]
  cases hload : load store readError (some (.whole volumes)) with
  | error => trivial
  | ok loaded =>
    obtain rfl := load_whole hload
    obtain ⟨config, hconfig⟩ := Option.isSome_iff_exists.mp (lookup_isSome.mpr hmem)
    simp only [afterGet, hconfig]
    exact ⟨name, boxId, loaded, config, hrequest, hfile, hconfig, rfl⟩

theorem knows_afterReload (hsound : Sound shelf) (h : Knows request shelf (.got config)) (readError : Option String) :
    Knows request shelf (afterReload config (load store readError shelf.file)) := by
  obtain ⟨name, boxId, volumes, before, hrequest, hfile, hbefore, rfl⟩ := h
  have hname : (before.attach boxId).name = name := (name_attach _ _).trans (hsound volumes hfile name before hbefore).1
  rw [hfile]
  cases hload : load store readError (some (.whole volumes)) with
  | error => trivial
  | ok loaded =>
    obtain rfl := load_whole hload
    simp only [afterReload, hname]
    split_ifs
    · exact ⟨name, boxId, loaded, before, hrequest, hfile, hbefore, rfl⟩
    · trivial

theorem knows_afterTake (name) (readError : Option String) :
    Knows request shelf (afterTake name none (load store readError shelf.file)) := by
  cases hload : load store readError shelf.file with
  | error => trivial
  | ok volumes =>
    cases htake : takeOut volumes name false with
    | error =>
      simp only [afterTake, htake]
      trivial
    | ok taken =>
      obtain ⟨config, _⟩ := taken
      obtain ⟨hlookup, hidle, rfl⟩ := takeOut_ok htake
      simp only [afterTake, htake]
      rcases load_ok hload with ⟨-, rfl⟩ | ⟨hfile, -⟩
      · cases hlookup
      · exact ⟨⟨volumes, config, hfile, hlookup, hidle, rfl⟩, nofun⟩

theorem allIdle_unused (hfile : shelf.file = some (.whole volumes)) : AllIdle shelf (unused volumes) := by
  refine ⟨(filter_sublist.map Sigma.fst).nodup volumes.nodupKeys, fun name hname => ?_⟩
  obtain ⟨⟨_, config⟩, hmem, rfl⟩ := mem_map.mp hname
  obtain ⟨hentry, hidle⟩ := mem_filter.mp hmem
  exact ⟨volumes, config, hfile, mem_lookup_iff.mpr hentry, by simpa using hidle⟩

theorem knows_afterList (readError : Option String) :
    Knows request shelf (afterList (load store readError shelf.file)) := by
  cases hload : load store readError shelf.file with
  | error => trivial
  | ok =>
    refine ⟨?_, nil_append _⟩
    rcases load_ok hload with ⟨-, rfl⟩ | ⟨hfile, -⟩
    · exact ⟨nodup_nil, forall_mem_nil _⟩
    · exact allIdle_unused hfile

theorem knows_afterNext {pruned todo removed}
    (h : Knows request shelf (.next ⟨pruned, name :: todo, removed⟩)) (readError : Option String)
    (hsmooth : ∀ progress, afterTake name (some ⟨pruned, todo, removed⟩) (load store readError shelf.file) ≠
      .skipped true progress) :
    Knows request shelf (afterTake name (some ⟨pruned, todo, removed⟩) (load store readError shelf.file)) := by
  obtain ⟨hidle, hlists⟩ := h
  obtain ⟨_, config, hfile, hlookup, huse⟩ := hidle.2 name mem_cons_self
  cases hload : load store readError shelf.file with
  | error =>
    rw [hload] at hsmooth
    exact absurd rfl (hsmooth _)
  | ok loaded =>
    rw [hfile] at hload
    obtain rfl := load_whole hload
    have htake : takeOut loaded name false = .ok (config, loaded.erase name) := by simp [takeOut, hlookup, huse]
    simp only [afterTake, htake]
    refine ⟨⟨loaded, config, hfile, hlookup, huse, rfl⟩, ?_⟩
    rintro progress ⟨⟩
    exact ⟨hidle, hlists⟩

end Steps

/-! ### What a save keeps -/

variable {shelf' : Shelf} {phase : Phase} {other : Request}

section Saves

variable {request : Request} {shelf : Shelf} {next : Volumes}

/-- Replace the file. -/
def Shelf.save (shelf : Shelf) (volumes : Volumes) : Shelf := { shelf with file := some (.whole volumes) }

section Saving

variable (h : Knows request shelf (.saving next))
include h

theorem sound_saving (hsound : Sound shelf) : Sound (shelf.save next) := by
  obtain ⟨_, _, volumes, before, -, hfile, hbefore, rfl⟩ := h
  rintro _ ⟨⟩ other config hconfig
  rcases Totals.lookup_of_insert hconfig with ⟨rfl, rfl⟩ | ⟨-, hconfig⟩
  · rw [name_attach]
    exact hsound volumes hfile other before hbefore
  · exact hsound volumes hfile other config hconfig

theorem holds_saving (hrequest : request = .attach name boxId) :
    Holds (shelf.save next) name boxId := by
  obtain ⟨_, _, _, _, rfl, -, -, rfl⟩ := h
  cases hrequest
  exact ⟨_, _, rfl, lookup_insert _, mem_attach _ _⟩

theorem holds_saving_other (hother : Holds shelf name boxId) :
    Holds (shelf.save next) name boxId := by
  obtain ⟨name', _, volumes, before, -, hfile, hbefore, rfl⟩ := h
  obtain ⟨found, config, hfound, hconfig, hbox⟩ := hother
  obtain rfl : volumes = found := by simpa [hfile] using hfound
  by_cases hne : name = name'
  · subst hne
    obtain rfl : before = config := Option.some.inj (hbefore.symm.trans hconfig)
    exact ⟨_, _, rfl, lookup_insert _, mem_attach_of_mem hbox _⟩
  · exact ⟨_, config, rfl, (lookup_insert_ne hne).trans hconfig, hbox⟩

end Saving

variable {name : String} {task : Option Progress}

theorem sound_taken (hsound : Sound shelf) (h : Knows request shelf (.taken name next task)) :
    Sound (shelf.save next) := by
  obtain ⟨⟨volumes, _, hfile, -, -, rfl⟩, -⟩ := h
  rintro _ ⟨⟩ other config hconfig
  exact hsound volumes hfile other config (Totals.lookup_of_erase hconfig)

variable (h : Knows request shelf (.taken name next task))

include h

theorem holds_taken {other} (hother : Holds shelf other boxId) : Holds (shelf.save next) other boxId := by
  obtain ⟨⟨volumes, before, hfile, hbefore, hidle, rfl⟩, -⟩ := h
  obtain ⟨found, config, hfound, hconfig, hbox⟩ := hother
  obtain rfl : volumes = found := by simpa [hfile] using hfound
  have hne : other ≠ name := by
    rintro rfl
    obtain rfl : before = config := Option.some.inj (hbefore.symm.trans hconfig)
    rw [isInUse_of_mem hbox] at hidle
    cases hidle
  exact ⟨_, config, rfl, (lookup_erase_ne hne).trans hconfig, hbox⟩

theorem knows_saved : Knows request (shelf.save next) (.saved name task) := by
  obtain ⟨⟨volumes, _, hfile, -, -, rfl⟩, htask⟩ := h
  refine ⟨?_, fun progress hprogress => ?_⟩
  · rintro _ ⟨⟩ hmem
    rw [mem_erase] at hmem
    exact hmem.1 rfl
  · obtain ⟨⟨hnodup, hidle⟩, hlists⟩ := htask progress hprogress
    rw [nodup_cons] at hnodup
    refine ⟨⟨hnodup.2, fun other hother => ?_⟩, hlists⟩
    obtain ⟨found, config, hfound, hconfig, huse⟩ := hidle other (mem_cons_of_mem _ hother)
    obtain rfl : volumes = found := by simpa [hfile] using hfound
    have hne : other ≠ name := fun heq => hnodup.1 (heq ▸ hother)
    exact ⟨_, config, rfl, (lookup_erase_ne hne).trans hconfig, huse⟩

omit h

theorem sound_clear (hsound : Sound shelf) (h : Knows request shelf (.saved name task)) (keeps : Bool) :
    Sound { shelf with data := Function.update shelf.data name (shelf.data name && keeps) } := by
  intro volumes hfile other config hconfig
  have hne : other ≠ name := by
    rintro rfl
    exact h.1 volumes hfile (lookup_isSome.mp (by rw [hconfig]; rfl))
  obtain ⟨hname, hdata⟩ := hsound volumes hfile other config hconfig
  exact ⟨hname, (Function.update_of_ne hne _ _).trans hdata⟩

theorem knows_clear (h : Knows request shelf (.saved name task)) (data : String → Bool) :
    Knows request { shelf with data } (afterRemoved name task) := by
  cases task with
  | none => trivial
  | some progress =>
    obtain ⟨hidle, hlists⟩ := h.2 progress rfl
    refine ⟨hidle, ?_⟩
    rw [append_assoc]
    exact hlists

/-- What is known of a process outside its window is only that its volume is in the file. -/
theorem knows_outside (houtside : ¬ phase.inside)
    (hholds : ∀ name boxId, Holds shelf name boxId → Holds shelf' name boxId) (h : Knows request shelf phase) :
    Knows request shelf' phase := by
  cases phase with
  | attached => exact fun name boxId hrequest => hholds name boxId (h name boxId hrequest)
  | start | removed | failed e => trivial
  | pruned => exact h
  | _ => exact absurd trivial houtside

end Saves

/-! ### Runs -/

/-- A process enters its window with its first load. -/
theorem start_of_enter {requests : ι → Request} {p : ι} {shelf : Shelf} {phase' : Phase}
    (h : Step store requests p shelf phase shelf' phase') (houtside : ¬ phase.inside) : phase = .start := by
  cases h with
  | get => rfl
  | take => rfl
  | list => rfl
  | _ => exact absurd trivial houtside

theorem step_rule (store) (requests : ι → Request) : Rule (fun p shelf phase shelf' phase' =>
        Step store requests p shelf phase shelf' phase' ∧ Smooth requests p shelf phase shelf' phase')
      Alone Phase.inside Sound fun p => Knows (requests p) where
  shared hsound hknows hstep := by
    obtain ⟨hstep, -⟩ := hstep
    cases hstep with
    | save => exact sound_saving hknows hsound
    | saveTaken => exact sound_taken hsound hknows
    | clear keeps => exact sound_clear hsound hknows keeps
    | _ => exact hsound
  own hsound hknows hstep := by
    obtain ⟨hstep, hsmooth⟩ := hstep
    cases hstep with
    | get h readError => exact knows_afterGet h (hsmooth.1 _ _ h rfl) readError
    | reload readError => exact knows_afterReload hsound hknows readError
    | save => exact fun name boxId => holds_saving hknows
    | saveFails => trivial
    | take _ readError => exact knows_afterTake _ readError
    | list _ readError => exact knows_afterList readError
    | next readError => exact knows_afterNext hknows readError hsmooth.2
    | finish => exact (append_nil _).symm.trans hknows.2
    | saveTaken => exact knows_saved hknows
    | @saveTakenFails name volumes task fault =>
      cases task with
      | none => trivial
      | some progress => exact absurd rfl (hsmooth.2 progress)
    | clear => exact knows_clear hknows _
    | skip => exact hknows.elim
  other hne hsound hknows hother hinside hstep := by
    obtain ⟨hstep, -⟩ := hstep
    cases hstep with
    | save =>
      exact knows_outside (fun hk => hinside ⟨trivial, hk⟩) (fun _ _ => holds_saving_other hknows) hother
    | saveTaken => exact knows_outside (fun hk => hinside ⟨trivial, hk⟩) (fun _ _ => holds_taken hknows) hother
    | clear => exact knows_outside (fun hk => hinside ⟨trivial, hk⟩) (fun _ _ hholds => hholds) hother
    | _ => exact hother
  enter known hstep meets houtside hinside := meets (start_of_enter hstep.1 houtside)

variable [DecidableEq ι]

/-- **Volumes that boxes were attached to are kept**, and pruning reports what it has removed: if a process loads the
file first only while no other is between its first load and its last step, a volume is there when a box is attached to
it, and nothing fails while pruning. -/
theorem attached_volumes_kept {store : VolumeStore} {requests : ι → Request} {shelf : Shelf} (hshelf : Sound shelf)
    {s : State ι Shelf Phase}
    (h : Run (Step store requests)
      (fun s p shelf phase => Alone s p shelf phase ∧ Smooth requests p s.shared (s.place p) shelf phase)
      (shelved shelf) s) :
    (∀ p name boxId, requests p = .attach name boxId → s.place p = .attached →
      Holds s.shared name boxId ∧ s.shared.data name = true) ∧
    ∀ p reported removed, s.place p = .pruned reported removed → removed = reported := by
  have hknown := (step_rule store requests).holds h.restrict ⟨hshelf, fun p => trivial, fun p q hp => hp.elim⟩
  refine ⟨fun p name boxId hrequest hplace => ?_, fun p reported removed hplace => ?_⟩
  · have hown := hknown.own p
    rw [hplace] at hown
    obtain ⟨volumes, config, hfile, hconfig, hbox⟩ := hown name boxId hrequest
    exact ⟨⟨volumes, config, hfile, hconfig, hbox⟩, (hknown.shared volumes hfile name config hconfig).2⟩
  · have hown := hknown.own p
    rw [hplace] at hown
    exact hown

/-- A box is attached to the volume `data`; beside that, another request. -/
def withAttach (other : Request) : Bool → Request
  | true => .attach "data" "b1"
  | false => other

/-- The volume `data`, used by given boxes. -/
def dataVolume (inUseBy : List String) : VolumeConfig := { name := "data", inUseBy }

/-- A file with these volumes, and their data. -/
def shelfWith (volumes : Volumes) : Shelf := ⟨some (.whole volumes), fun _ => true⟩

/-- The volumes `data` and `logs`. -/
def dataAndLogs (inUseBy : List String) : Volumes :=
  (singleton "logs" { name := "logs" }).insert "data" (dataVolume inUseBy)

theorem step_get (h : volumes.lookup "data" = some (dataVolume [])) :
    Step rootStore (withAttach other) true (shelfWith volumes) .start (shelfWith volumes)
      (.got (dataVolume ["b1"])) := by
  have hget : afterGet "data" "b1" (load rootStore none (shelfWith volumes).file) = .got (dataVolume ["b1"]) := by
    simp only [afterGet, load, shelfWith, h]
    rfl
  rw [← hget]
  exact .get (show withAttach other true = .attach "data" "b1" from rfl) none

theorem step_reload (h : "data" ∈ volumes) :
    Step rootStore (withAttach other) true (shelfWith volumes) (.got (dataVolume ["b1"])) (shelfWith volumes)
      (.saving (volumes.insert "data" (dataVolume ["b1"]))) := by
  have hreload : afterReload (dataVolume ["b1"]) (load rootStore none (shelfWith volumes).file) =
      .saving (volumes.insert "data" (dataVolume ["b1"])) := if_pos h
  rw [← hreload]
  exact .reload none

theorem sound_dataAndLogs : Sound (shelfWith (dataAndLogs [])) := by
  intro volumes hfile name config hlookup
  cases hfile
  refine ⟨?_, rfl⟩
  rcases Totals.lookup_of_insert hlookup with ⟨rfl, rfl⟩ | ⟨-, hlookup⟩
  · rfl
  · cases mem_singleton.mp (mem_lookup_iff.mp hlookup)
    rfl

/-- A box is attached to `data`, and then the volumes are pruned: `logs` goes, `data` stays. -/
theorem attach_then_prune_kept : ∃ s : State Bool Shelf Phase,
      Run (Step rootStore (withAttach .prune))
        (fun s p shelf phase =>
          Alone s p shelf phase ∧ Smooth (withAttach .prune) p s.shared (s.place p) shelf phase)
        (shelved (shelfWith (dataAndLogs []))) s ∧
      s.place true = .attached ∧ s.place false = .pruned ["logs"] ["logs"] ∧
      Holds s.shared "data" "b1" ∧ s.shared.data "data" = true := by
  have h₁ : Run (Step rootStore (withAttach .prune))
      (fun s p shelf phase => Alone s p shelf phase ∧ Smooth (withAttach .prune) p s.shared (s.place p) shelf phase)
      (shelved (shelfWith (dataAndLogs []))) _ :=
    .step true .start (step_get rfl) ⟨fun _ _ _ => nofun, fun _ _ hrequest _ => by
      cases hrequest
      exact ⟨_, rfl, by decide⟩, nofun⟩
  have h₂ := h₁.step true (step_reload (by decide)) ⟨nofun, nofun, nofun⟩
  have h₃ := h₂.step true .save ⟨nofun, nofun, nofun⟩
  have h₄ := h₃.step false (.list rfl none) ⟨fun _ q hq => by
    rw [Bool.eq_true_of_not_eq_false hq]
    exact nofun, nofun, nofun⟩
  have h₅ := h₄.step false (.next none) ⟨nofun, nofun, nofun⟩
  have h₆ := h₅.step false .saveTaken ⟨nofun, nofun, nofun⟩
  have h₇ := h₆.step false (.clear false) ⟨nofun, nofun, nofun⟩
  have h₈ := h₇.step false .finish ⟨nofun, nofun, nofun⟩
  exact ⟨_, h₈, rfl, rfl, (attached_volumes_kept sound_dataAndLogs h₈).1 true "data" "b1" rfl rfl⟩

/-- **Overlapping processes remove what is attached, and report what is not removed.** A box is attached after the
volume was found not in use, and before the file without it is saved: file and data go. And it is attached after the
volumes to prune were listed: `data` is reported as pruned, and is still there. -/
theorem overlapping_removed : (∃ s : State Bool Shelf Phase,
      Run (Step rootStore (withAttach (.remove "data"))) (fun _ _ _ _ => True) (shelved (shelfWith (dataAndLogs []))) s ∧
      s.place true = .attached ∧ ¬ Holds s.shared "data" "b1" ∧ s.shared.data "data" = false) ∧
    ∃ s : State Bool Shelf Phase,
      Run (Step rootStore (withAttach .prune)) (fun _ _ _ _ => True) (shelved (shelfWith (dataAndLogs []))) s ∧
      s.place false = .pruned ["data", "logs"] ["logs"] ∧ Holds s.shared "data" "b1" := by
  constructor
  · have h₁ : Run (Step rootStore (withAttach (.remove "data"))) (fun _ _ _ _ => True)
        (shelved (shelfWith (dataAndLogs []))) _ :=
      .step false .start (.take (show withAttach (.remove "data") false = .remove "data" from rfl) none) trivial
    have h₂ := h₁.step true (step_get rfl) trivial
    have h₃ := h₂.step true (step_reload (by decide)) trivial
    have h₄ := h₃.step true .save trivial
    have h₅ := h₄.step false .saveTaken trivial
    have h₆ := h₅.step false (.clear false) trivial
    refine ⟨_, h₆, rfl, ?_, rfl⟩
    rintro ⟨_, _, hfile, hlookup, -⟩
    cases hfile
    cases hlookup
  · have h₁ : Run (Step rootStore (withAttach .prune)) (fun _ _ _ _ => True)
        (shelved (shelfWith (dataAndLogs []))) _ :=
      .step false .start (.list rfl none) trivial
    have h₂ := h₁.step true (step_get rfl) trivial
    have h₃ := h₂.step true (step_reload (by decide)) trivial
    have h₄ := h₃.step true .save trivial
    have h₅ := h₄.step false (.next none) trivial
    have h₆ := h₅.step false .skip trivial
    have h₇ := h₆.step false (.next none) trivial
    have h₈ := h₇.step false .saveTaken trivial
    have h₉ := h₈.step false (.clear false) trivial
    have h₁₀ := h₉.step false .finish trivial
    refine ⟨_, h₁₀, rfl, ?_⟩
    exact ⟨_, dataVolume ["b1"], rfl, rfl, by decide⟩

end A3sBox.Volume
