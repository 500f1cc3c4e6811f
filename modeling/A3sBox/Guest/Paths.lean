import A3sBox.Guest.Exec

/-!
# Masked and read-only paths

`apply_container_path_restrictions` of `guest/init/src/exec_server.rs` mounts something over each path to be hidden,
and each path not to be written over itself. A mount that fails is only logged. What is mounted only grows
(`Masks.Within`).

`restrict_hidden`, `restrict_unwritable`: it does so for paths that are `Maskable`, or `Lockable`.
-/

namespace A3sBox.Guest

open Text Slices List

/-- Nothing is seen at a path. -/
def Hidden (machine : Machine) (masks : Masks) (target : List Char) : Prop :=
  machine.kind target = .absent ∨ target ∈ masks.masked ∨ masks.hides target = true

/-- What is at a path cannot be written. -/
def Unwritable (machine : Machine) (masks : Masks) (target : List Char) : Prop :=
  Hidden machine masks target ∨ target ∈ masks.readonly ∨ machine.readonlyFs target = true

/-- A path can be masked. -/
structure Maskable (machine : Machine) (rootfs path : List Char) : Prop where
  colon : ':' ∉ path
  safe : isSafe path = true
  mounts : machine.kind (rootfs ++ path) ≠ .absent →
    machine.mountpoint (rootfs ++ path) = false ∧ machine.through (rootfs ++ path) = false ∧
      machine.mount (if machine.kind (rootfs ++ path) = .directory then .maskDirectory (rootfs ++ path)
        else .maskEntry (rootfs ++ path)) = true

/-- A path can be made read-only. -/
structure Lockable (machine : Machine) (rootfs path : List Char) : Prop where
  colon : ':' ∉ path
  safe : isSafe path = true
  mounts : machine.kind (rootfs ++ path) ≠ .absent → machine.metadata (rootfs ++ path) ≠ none ∧
    machine.kind (rootfs ++ path) ≠ .link ∧ machine.through (rootfs ++ path) = false ∧
    machine.mount (.bindSelf (rootfs ++ path)) = true ∧ machine.mount (.remountReadonly (rootfs ++ path)) = true

/-! ### What is mounted -/

/-- What is mounted is mounted still. -/
structure Masks.Within (masks later : Masks) : Prop where
  masked : masks.masked ⊆ later.masked
  readonly : masks.readonly ⊆ later.readonly

theorem Masks.Within.refl (masks : Masks) : masks.Within masks := ⟨fun _ h => h, fun _ h => h⟩

theorem Masks.Within.trans {a b c : Masks} (hab : a.Within b) (hbc : b.Within c) : a.Within c :=
  ⟨fun _ h => hbc.masked (hab.masked h), fun _ h => hbc.readonly (hab.readonly h)⟩

variable {masks later : Masks} {target : List Char}

theorem hides_mono (h : masks.Within later) (hhides : masks.hides target = true) : later.hides target = true := by
  obtain ⟨above, habove, hstart⟩ := any_eq_true.mp hhides
  exact any_eq_true.mpr ⟨above, h.masked habove, hstart⟩

variable {machine : Machine}

theorem Hidden.mono (h : masks.Within later) (hhidden : Hidden machine masks target) : Hidden machine later target := by
  rcases hhidden with habsent | hmasked | hhides
  · exact .inl habsent
  · exact .inr (.inl (h.masked hmasked))
  · exact .inr (.inr (hides_mono h hhides))

theorem Unwritable.mono (h : masks.Within later) (hlocked : Unwritable machine masks target) :
    Unwritable machine later target := by
  rcases hlocked with hhidden | hreadonly | hfs
  · exact .inl (hhidden.mono h)
  · exact .inr (.inl (h.readonly hreadonly))
  · exact .inr (.inr hfs)

theorem within_maskPath (machine : Machine) (rootfs : List Char) (masks : Masks) (path : List Char) :
    masks.Within (maskPath machine rootfs masks path) := by
  have hadd (target : List Char) : masks.Within { masks with masked := target :: masks.masked } :=
    ⟨fun _ h => mem_cons_of_mem _ h, fun _ h => h⟩
  rw [maskPath]
  split
  · exact .refl masks
  · split
    · exact .refl masks
    all_goals
      split
      · exact hadd _
      · exact .refl masks

theorem within_readonlyPath (machine : Machine) (rootfs : List Char) (masks : Masks) (path : List Char) :
    masks.Within (readonlyPath machine rootfs masks path) := by
  rw [readonlyPath]
  split
  · exact .refl masks
  · split
    · exact .refl masks
    · split
      · exact ⟨fun _ h => h, fun _ h => mem_cons_of_mem _ h⟩
      · exact .refl masks

variable {path : List Char} {f : Masks → List Char → Masks} {env : List (List Char)} {rootfs : List Char}

/-- **A path that can be masked is hidden once the guest has masked it.** -/
theorem hidden_maskPath (h : Maskable machine rootfs path) (masks) :
    Hidden machine (maskPath machine rootfs masks path) (rootfs ++ path) := by
  by_cases habsent : machine.kind (rootfs ++ path) = .absent
  · exact .inl habsent
  · obtain ⟨hmountpoint, hthrough, hmount⟩ := h.mounts habsent
    rw [maskPath]
    simp only [h.safe, hmountpoint, hthrough, Bool.true_eq_false, Bool.false_eq_true, false_or, or_false]
    split
    · next hdone => exact .inr hdone
    · cases hkind : machine.kind (rootfs ++ path) with
      | absent => exact absurd hkind habsent
      | directory | link | other =>
        rw [hkind] at hmount
        simp only [reduceCtorEq, if_true, if_false] at hmount
        simp only [hmount, if_true]
        exact .inr (.inl mem_cons_self)

/-- **A path that can be made read-only cannot be written once the guest has done so.** -/
theorem unwritable_readonlyPath (h : Lockable machine rootfs path) (masks) :
    Unwritable machine (readonlyPath machine rootfs masks path) (rootfs ++ path) := by
  by_cases habsent : machine.kind (rootfs ++ path) = .absent
  · exact .inl (.inl habsent)
  · obtain ⟨hmetadata, hlink, hthrough, hbind, hremount⟩ := h.mounts habsent
    rw [readonlyPath]
    simp only [h.safe, hmetadata, hlink, hthrough, hbind, hremount, Bool.true_eq_false, false_or]
    split
    · next hdone =>
      rcases hdone with hhides | hmasked | hreadonly | hfs
      · exact .inl (.inr (.inr hhides))
      · exact .inl (.inr (.inl hmasked))
      · exact .inr (.inl hreadonly)
      · exact .inr (.inr hfs)
    · exact .inr (.inl mem_cons_self)

section Fold

variable {machine : Machine} {rootfs : List Char}

variable (hf : ∀ (masks : Masks) path, masks.Within (f masks path))

include hf

theorem within_foldl (paths : List (List Char)) (masks : Masks) : masks.Within (paths.foldl f masks) := by
  induction paths generalizing masks with
  | nil => exact .refl masks
  | cons path _ ih => exact (hf masks path).trans (ih (f masks path))

/-- What holds after the step of a path and stays holds after all steps. -/
theorem holds_foldl {p : Masks → List Char → Prop}
    (hmono : ∀ (masks later : Masks) path, masks.Within later → p masks path → p later path) {paths : List (List Char)}
    (hstep : ∀ path ∈ paths, ∀ masks, p (f masks path) path) (masks : Masks) :
    ∀ path ∈ paths, p (paths.foldl f masks) path := by
  induction paths generalizing masks with
  | nil => exact fun _ h => absurd h not_mem_nil
  | cons first paths ih =>
    obtain ⟨hfirst, hrest⟩ := forall_mem_cons.mp hstep
    exact forall_mem_cons.mpr
      ⟨hmono _ _ _ (within_foldl hf paths _) (hfirst masks), ih hrest (f masks first)⟩

omit hf

theorem within_restrict (env) (masks) :
    (applyContainerPathRestrictions machine rootfs (parseSecPathList env .maskedPaths)
      (parseSecPathList env .readonlyPaths) masks).Within (restrict machine rootfs env masks) := by
  rw [restrict]
  split
  · rw [remountRootfsReadonly]
    split
    · exact .refl _
    · split
      · exact ⟨fun _ h => h, fun _ h => h⟩
      · exact .refl _
  · exact .refl _

/-- **Every path of the environment that can be masked is hidden after the request.** -/
theorem restrict_hidden (h : ∀ path ∈ parseSecPathList env .maskedPaths, Maskable machine rootfs path) (masks : Masks) :
    ∀ path ∈ parseSecPathList env .maskedPaths, Hidden machine (restrict machine rootfs env masks) (rootfs ++ path) := by
  intro path hpath
  have hmasked := holds_foldl (within_maskPath machine rootfs)
    (p := fun masks path => Hidden machine masks (rootfs ++ path))
    (fun _ _ _ hwithin hhidden => hhidden.mono hwithin) (fun path hpath masks => hidden_maskPath (h path hpath) masks)
    masks path hpath
  exact (hmasked.mono (within_foldl (within_readonlyPath machine rootfs) _ _)).mono (within_restrict env masks)

/-- **Every path of the environment that can be made read-only cannot be written after the request.** -/
theorem restrict_unwritable (h : ∀ path ∈ parseSecPathList env .readonlyPaths, Lockable machine rootfs path)
    (masks : Masks) :
    ∀ path ∈ parseSecPathList env .readonlyPaths,
      Unwritable machine (restrict machine rootfs env masks) (rootfs ++ path) := by
  intro path hpath
  have hlocked := holds_foldl (within_readonlyPath machine rootfs)
    (p := fun masks path => Unwritable machine masks (rootfs ++ path))
    (fun _ _ _ hwithin hlocked => hlocked.mono hwithin)
    (fun path hpath masks => unwritable_readonlyPath (h path hpath) masks)
    ((parseSecPathList env .maskedPaths).foldl (maskPath machine rootfs) masks) path hpath
  exact hlocked.mono (within_restrict env masks)

end Fold

end A3sBox.Guest
