import A3sBox.Runtime.Layout

/-!
# The files of a persistent box

`boot` and `destroy_with_options` of `runtime/src/vm/mod.rs`: after the layout, the names of the host, of servers and
of hosts are written to the root file system, and the box runs. When a persistent box stops, its provider keeps its
directory for the next boot.

## The model

A `Cycle` is a boot, what the box changes while it runs, and a clean stop. A boot finds a cached root file system
(`hit`) or builds one (`miss`), as the layout does (`prepareLayout_eq`). One that fails removes the directory. A
change is a new content of a location or its removal, and another way for links to lead.

`changed_files_seen`: when what a run left is what the next boot shows. `miss_then_hit_lost`, `hit_then_miss_lost`,
`rebuilt_lost` and `failed_boot_lost` are histories in which a file is lost.
-/

namespace A3sBox.Layout

open Overlay Text List Option

/-! ### Boots -/

/-- What a boot starts from. -/
inductive Source where
  | hit (cached : Root)
  | miss (image : Image)

variable (provider : Provider)

/-- The directory of a box, and what it boots from; none if the build fails. -/
def Source.prepare (guestInit : Option File) (box : BoxDir) : Source → Option (BoxDir × Mount)
  | .hit cached => some (prepareCached provider guestInit box cached)
  | .miss image =>
    (image.build guestInit (box.rootfs.getD .empty)).map fun root => ({ box with rootfs := some root }, .direct)

/-- What the lookup of a boot makes its source. -/
def source (sha : List UInt8 → String) (config : BoxConfig) (host : Host) (image : Image)
    (cache : RootfsCache.Cache Root) : Source :=
  match (tryRootfsCachePath config host cache (cacheKey sha config.image)).2 with
  | some cached => .hit cached
  | none => .miss image

theorem prepareLayout_eq (profile : Profile) (sha : List UInt8 → String) (homeDir : String) (provider)
    (config : BoxConfig) (host : Host) (image : Image) (cache : RootfsCache.Cache Root) (box : BoxDir) :
    (prepareLayout profile sha homeDir provider config host image cache box).2 =
      (source sha config host image cache).prepare provider host.guestInit box := by
  rcases htry : tryRootfsCachePath config host cache (cacheKey sha config.image) with ⟨_, _ | _⟩
  · simp only [prepareLayout, source, htry, Source.prepare]
    rcases image.build host.guestInit (box.rootfs.getD .empty) with _ | _ <;> rfl
  · simp [prepareLayout, source, htry, Source.prepare]

/-- The host name. -/
def hostnamePath : Path := ["etc", "hostname"]

/-- What a boot is given. -/
structure Boot where
  source : Source
  /-- The guest's first process, if it is found. -/
  guestInit : Option File
  resolv : File
  hostname : Option File
  hosts : Option File
  fails : Bool

/-- The files that are written after the layout. -/
def Boot.config (boot : Boot) : List (Path × File) :=
  (resolvPath, boot.resolv) ::
    (boot.hostname.toList.map fun file => (hostnamePath, file)) ++ boot.hosts.toList.map fun file => (hostsPath, file)

/-- The runtime writes to paths. -/
def Mount.writeAll (mount : Mount) (box : BoxDir) (writes : List (Path × File)) : BoxDir :=
  writes.foldl (fun box (path, file) => mount.write box path file) box

/-- Boot a box; none if that fails. -/
def Boot.start (boot : Boot) (provider : Provider) (box : BoxDir) : Option (BoxDir × Mount) :=
  match boot.source.prepare provider boot.guestInit box with
  | none => none
  | some (box, mount) => if boot.fails then none else some (mount.writeAll box boot.config, mount)

/-! ### Histories -/

/-- Change where the links of the box lead. -/
def Mount.relink : Mount → BoxDir → Option (Path → Option Path) → BoxDir
  | _, box, none => box
  | .direct, box, some leads => { box with rootfs := some { box.rootfs.getD .empty with leads := leads } }
  | .union _, box, some leads => { box with upper := { box.upper with leads := some leads } }

/-- A boot, a run and a stop. -/
structure Cycle where
  boot : Boot
  changes : List (Path × Option File)
  /-- Where the links lead afterwards, if the box changes that. -/
  leads : Option (Path → Option Path)

/-- What is seen of a cycle. -/
inductive Life where
  | failed
  /-- The box ran: the root file system after the boot and at the end. -/
  | ran (cycle : Cycle) (start finish : Root)

/-- A box boots, runs and stops. -/
def Cycle.live (cycle : Cycle) (provider : Provider) (box : BoxDir) : Life × BoxDir :=
  match cycle.boot.start provider box with
  | none => (.failed, .new)
  | some (box, mount) =>
    let left := mount.relink (mount.change box cycle.changes) cycle.leads
    (.ran cycle (mount.view box) (mount.view left), provider.cleanup left true)

/-- The cycles of a persistent box, one after another. -/
def history (provider : Provider) : BoxDir → List Cycle → List Life
  | _, [] => []
  | box, cycle :: cycles => (cycle.live provider box).1 :: history provider (cycle.live provider box).2 cycles

/-- What a boot writes. -/
def Boot.paths (boot : Boot) : List Path :=
  (boot.guestInit.toList.map fun _ => initPath) ++ boot.config.map (·.1) ++
    match boot.source with
    | .hit _ => []
    | .miss _ => essentialPaths

/-- The layers of an image have nothing at a location. -/
def Image.Spares (image : Image) (location : Path) : Prop :=
  ∀ root extracted, image.extract root = some extracted → extracted.files location = root.files location

/-- The condition on a change of one run at a location, for the next boot to show it. -/
def Lasts (before : Boot) (boot : Boot) (location : Path) : Prop :=
  match provider, before.source, boot.source with
  | .copy, _, .hit _ => True
  | .overlay, .hit lower, .hit lower' => lower'.files location ≠ none → lower.files location ≠ none
  | .overlay, .miss _, .hit _ => False
  | .overlay, .hit _, .miss _ => False
  | .copy, _, .miss image | .overlay, .miss _, .miss image => image.Spares location

/-- What a run left is what the next boot shows, wherever changes last and this boot does not write itself. -/
def Seen : Life → Life → Prop
  | .ran cycle _ finish, .ran next start _ =>
    ∀ location, Touches cycle.changes location → Lasts provider cycle.boot next.boot location →
      (∀ path ∈ next.boot.paths, start.leads path ≠ some location) → start.files location = finish.files location
  | _, _ => True

/-! ### What a boot shows -/

variable {root : Root} {location : Path} {boot : Boot} {provider : Provider} {box box' : BoxDir} {mount : Mount}

theorem files_write_of_ne {path} (h : root.leads path ≠ some location) (file : File) :
    (root.write path file).files location = root.files location := by
  unfold Root.write
  split
  next => rfl
  next l hl => exact Function.update_of_ne (fun heq => h (hl.trans (congrArg some heq.symm))) ..

theorem files_installGuestInit {guestInit}
    (h : ∀ path ∈ guestInit.toList.map fun _ => initPath, root.leads path ≠ some location) :
    (installGuestInit guestInit root).files location = root.files location := by
  cases guestInit with
  | none => rfl
  | some file => exact files_write_of_ne (h initPath mem_cons_self) file

@[simp] theorem leads_installGuestInit (guestInit : Option File) (root) :
    (installGuestInit guestInit root).leads = root.leads := by
  cases guestInit with
  | none => rfl
  | some => exact leads_write ..

theorem files_createEssentialFiles (h : ∀ path ∈ essentialPaths, root.leads path ≠ some location) :
    (createEssentialFiles root).files location = root.files location := by
  simp only [essentialPaths, forall_mem_cons, not_mem_nil, false_imp_iff, implies_true, and_true] at h
  obtain ⟨hpasswd, hgroup, hhosts, hresolv, hnsswitch⟩ := h
  simp only [createEssentialFiles]
  rw [files_write_of_ne (by simpa only [leads_write] using hnsswitch),
    files_write_of_ne (by simpa only [leads_write] using hresolv),
    files_write_of_ne (by simpa only [leads_write] using hhosts),
    files_write_of_ne (by simpa only [leads_write] using hgroup), files_write_of_ne hpasswd]

/-- Writes are seen only where they lead. -/
theorem view_writeAll (mount : Mount) (box : BoxDir) (writes : List (Path × File)) :
    (mount.view (mount.writeAll box writes)).leads = (mount.view box).leads ∧
      ∀ location, (∀ path ∈ writes.map (·.1), (mount.view box).leads path ≠ some location) →
        (mount.view (mount.writeAll box writes)).files location = (mount.view box).files location := by
  induction writes generalizing box with
  | nil => exact ⟨rfl, fun _ _ => rfl⟩
  | cons w _ ih =>
    obtain ⟨hleads, hfiles⟩ := ih (mount.write box w.1 w.2)
    rw [view_write, leads_write] at hleads
    refine ⟨hleads, fun location h => ?_⟩
    rw [map_cons, forall_mem_cons] at h
    have hrest := hfiles location (by rw [view_write, leads_write]; exact h.2)
    rw [view_write, files_write_of_ne h.1] at hrest
    exact hrest

section

variable (h : boot.start provider box = some (box', mount))
include h

theorem Boot.prepare_start : ∃ prepared, boot.source.prepare provider boot.guestInit box = some (prepared, mount) ∧
      box' = mount.writeAll prepared boot.config := by
  unfold Boot.start at h
  split at h
  · cases h
  next prepared mount' hprepare =>
    split_ifs at h
    obtain ⟨rfl, rfl⟩ := Prod.mk.inj (some.inj h)
    exact ⟨prepared, hprepare, rfl⟩

variable (hpaths : ∀ path ∈ boot.paths, (mount.view box').leads path ≠ some location)
include hpaths

theorem Boot.files_start : ∃ prepared, boot.source.prepare provider boot.guestInit box = some (prepared, mount) ∧
      (mount.view box').leads = (mount.view prepared).leads ∧
      (mount.view box').files location = (mount.view prepared).files location := by
  obtain ⟨prepared, hprepare, rfl⟩ := boot.prepare_start h
  obtain ⟨hleads, hfiles⟩ := view_writeAll mount prepared boot.config
  refine ⟨prepared, hprepare, hleads, hfiles location fun path hpath => ?_⟩
  rw [← hleads]
  exact hpaths path (mem_append_left _ (mem_append_right _ hpath))

/-- A boot from a cached root file system shows what its provider makes, where it does not write. -/
theorem Boot.files_hit {cached} (hhit : boot.source = .hit cached) : (mount.view box').files location =
      ((provider.prepare box cached).2.view (provider.prepare box cached).1).files location := by
  obtain ⟨_, hprepare, hleads, hfiles⟩ := boot.files_start h hpaths
  rw [hhit] at hprepare
  have hprepared := some.inj hprepare
  have hview := view_prepareCached provider boot.guestInit box cached
  rw [hprepared] at hview
  rw [hfiles, hview]
  refine files_installGuestInit fun path hpath => ?_
  rw [hleads, hview, leads_installGuestInit] at hpaths
  exact hpaths path (mem_append_left _ (mem_append_left _ hpath))

/-- A boot that builds shows what was there before, where neither the image nor the boot writes. -/
theorem Boot.files_miss {image} (hmiss : boot.source = .miss image) (hspares : image.Spares location) :
    (mount.view box').files location = (box.rootfs.getD .empty).files location := by
  obtain ⟨_, hprepare, hleads, hfiles⟩ := boot.files_start h hpaths
  rw [hmiss] at hprepare
  obtain ⟨_, hbuild, hprepared⟩ := map_eq_some_iff.mp hprepare
  obtain ⟨rfl, rfl⟩ := Prod.mk.inj hprepared
  obtain ⟨extracted, hextract, rfl⟩ := map_eq_some_iff.mp hbuild
  change (Mount.direct.view box').leads = (createEssentialFiles (installGuestInit boot.guestInit extracted)).leads
    at hleads
  rw [hleads, leads_createEssentialFiles, leads_installGuestInit] at hpaths
  calc (Mount.direct.view box').files location
      = (createEssentialFiles (installGuestInit boot.guestInit extracted)).files location := hfiles
    _ = (installGuestInit boot.guestInit extracted).files location := by
      refine files_createEssentialFiles fun path hpath => ?_
      rw [leads_installGuestInit]
      refine hpaths path (mem_append_right _ ?_)
      rw [hmiss]
      exact hpath
    _ = extracted.files location :=
      files_installGuestInit fun path hpath => hpaths path (mem_append_left _ (mem_append_left _ hpath))
    _ = (box.rootfs.getD .empty).files location := hspares _ _ hextract

end

/-! ### What a run leaves -/

theorem Boot.mount_start (h : boot.start provider box = some (box', mount)) : mount = match provider, boot.source with
      | .overlay, .hit cached => .union cached
      | _, _ => .direct := by
  obtain ⟨_, hprepare, -⟩ := boot.prepare_start h
  rcases hsource : boot.source with _ | _
  · rw [hsource] at hprepare
    have hmount := congrArg Prod.snd (some.inj hprepare)
    cases provider <;> cases hinit : boot.guestInit <;> rw [hinit] at hmount <;> exact hmount.symm
  · rw [hsource] at hprepare
    obtain ⟨_, -, hprepared⟩ := map_eq_some_iff.mp hprepare
    cases hprepared
    cases provider <;> rfl

variable (provider : Provider)

/-- **One cycle and the next boot.** -/
theorem seen_live (box) (cycle next : Cycle) :
    Seen provider (cycle.live provider box).1 (next.live provider (cycle.live provider box).2).1 := by
  unfold Cycle.live
  rcases hstart : cycle.boot.start provider box with _ | ⟨box₁, mount⟩
  · trivial
  · rcases hnext : next.boot.start provider
      (provider.cleanup (mount.relink (mount.change box₁ cycle.changes) cycle.leads) true) with _ | ⟨box₂, mount'⟩
    · trivial
    · intro location htouched hlasts hpaths
      have hmount := cycle.boot.mount_start hstart
      unfold Lasts at hlasts
      rcases hsource' : next.boot.source with _ | image
      · rw [next.boot.files_hit hnext hpaths hsource']
        cases provider with
        | copy =>
          obtain rfl : mount = .direct := hmount
          cases cycle.leads <;> rfl
        | overlay =>
          rcases hsource : cycle.boot.source with lower | image
          · rw [hsource] at hmount hlasts
            rw [hsource'] at hlasts
            obtain rfl : mount = .union lower := hmount
            -- the changes are in the upper layer, and the other root file system shows them
            have hshown := merge_of_touches htouched hlasts box₁.upper.files
            rw [← merge_record] at hshown
            cases hleads : cycle.leads <;> exact hshown
          · rw [hsource, hsource'] at hlasts
            exact hlasts.elim
      · have hdirect : mount = .direct ∧ image.Spares location := by
          cases provider with
          | copy =>
            rw [hsource'] at hlasts
            exact ⟨hmount, hlasts⟩
          | overlay =>
            rcases hsource : cycle.boot.source with _ | _
            · rw [hsource, hsource'] at hlasts
              exact hlasts.elim
            · rw [hsource, hsource'] at hlasts
              rw [hsource] at hmount
              exact ⟨hmount, hlasts⟩
        obtain ⟨rfl, hspares⟩ := hdirect
        rw [next.boot.files_miss hnext hpaths hsource' hspares]
        rfl

/-- **Changed files are seen at the next boot**: in every history of a persistent box, wherever changes last and the
next boot does not write itself. -/
theorem changed_files_seen (provider : Provider) (box : BoxDir) (cycles : List Cycle) :
    (history provider box cycles).IsChain (Seen provider) := by
  induction cycles generalizing box with
  | nil => exact .nil
  | cons cycle cycles ih =>
    cases cycles with
    | nil => exact .singleton _
    | cons next => exact .cons_cons (seen_live provider box cycle next) (ih _)

/-! ### Some histories -/

/-- A cycle in which nothing fails and the guest's first process is not found. -/
def plainCycle (source : Source) (changes : List (Path × Option File)) : Cycle :=
  ⟨⟨source, none, [], none, none, false⟩, changes, none⟩

/-- What is at a location after the boot and at the end of a cycle. -/
def Life.filesAt (location : Path) : Life → Option (Option File × Option File)
  | .failed => none
  | .ran _ start finish => some (start.files location, finish.files location)

/-- An image. -/
def program : Image := oneFile ["bin", "program"] [1]

/-- Its root file system. -/
def programRoot : Root := (program.build none .empty).getD .empty

/-- A box that is booted twice from the cache, and removes a file of the image in between: that stays removed. -/
theorem removed_file_seen : ∃ first finish start last,
    history .overlay .new [plainCycle (.hit programRoot) [(["bin", "program"], none)],
      plainCycle (.hit programRoot) []] =
        [.ran (plainCycle (.hit programRoot) [(["bin", "program"], none)]) first finish,
          .ran (plainCycle (.hit programRoot) []) start last] ∧
      first.files ["bin", "program"] = some [1] ∧ finish.files ["bin", "program"] = none ∧
      start.files ["bin", "program"] = finish.files ["bin", "program"] := by
  have hchain := changed_files_seen .overlay .new
    [plainCycle (.hit programRoot) [(["bin", "program"], none)], plainCycle (.hit programRoot) []]
  have hseen := (List.isChain_cons_cons.mp hchain).1
  refine ⟨_, _, _, _, rfl, by decide +kernel, by decide +kernel, hseen _ ?_ id ?_⟩
  · exact ⟨_, List.mem_singleton_self _⟩
  · decide +kernel

/-- The first boot over an upper layer fills the cache and the second finds it: what the box wrote in between is lost.
-/
theorem miss_then_hit_lost : program.build none .empty = some programRoot ∧
      (history .overlay .new [plainCycle (.miss program) [(["data"], some [5])], plainCycle (.hit programRoot) []]).map
        (·.filesAt ["data"]) = [some (none, some [5]), some (none, none)] :=
  ⟨rfl, by decide +kernel⟩

/-- With the overlay provider, the cache is pruned between two boots: a file that the box wrote in between is lost. -/
theorem hit_then_miss_lost :
    (history .overlay .new [plainCycle (.hit programRoot) [(["data"], some [5])], plainCycle (.miss program) []]).map
      (·.filesAt ["data"]) = [some (none, some [5]), some (none, none)] := by
  decide +kernel

/-- When two boots build, a file that the box replaced is as in the image, and one that it removed is there again. -/
theorem rebuilt_lost : (history provider .new [plainCycle (.miss program) [(["bin", "program"], some [6])],
      plainCycle (.miss program) [(["bin", "program"], none)], plainCycle (.miss program) []]).map
        (·.filesAt ["bin", "program"]) =
          [some (some [1], some [6]), some (some [1], none), some (some [1], some [1])] := by
  cases provider <;> decide +kernel

theorem failed_boot_lost (fault : Boot) (hfails : fault.fails = true) :
    (history provider .new [plainCycle (.hit programRoot) [(["data"], some [5])], ⟨fault, [], none⟩,
      plainCycle (.hit programRoot) []]).map (·.filesAt ["data"]) =
        [some (none, some [5]), none, some (none, none)] := by
  have hfailed : ∀ box, (Cycle.mk fault [] none).live provider box = (.failed, .new) := by
    intro box
    have hstart : fault.start provider box = none := by
      unfold Boot.start
      split
      next => rfl
      next => rw [if_pos hfails]
    simp [Cycle.live, hstart]
  simp only [history, hfailed]
  cases provider <;> decide +kernel

end A3sBox.Layout
