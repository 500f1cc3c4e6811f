import A3sBox.Core.Error
import A3sBox.Library.Slices

/-!
# Volumes on the host and in the guest

`build_instance_spec` of `vm/spec.rs` shares with the guest each volume of the user, which `parse_volume_mount` takes
apart, and each `VOLUME` of the image that none of these covers. It also writes variables `BOX_VOL_0`, `BOX_VOL_1`,
..., from which `mount_user_volumes` of `guest/init/src/main.rs` learns what to mount where; for these the volumes are
taken apart, and the `VOLUME`s counted, a second time.

## The model

A `World` says what the file system of the host and the store of the volumes answer. The guest mounts until a variable
is missing; what a boot that fails has mounted is the beginning of what is modelled here. Other variables have other
names.

`mounts_paired_iff`: when all that the guest mounts is a share built for its path, with its flags.
`volume_mounted_at_another_path` is a box for which an anonymous volume fails.
-/

namespace A3sBox.Runtime.VolumeMounts

open Slices Text
open List hiding splitAt

/-! ### The host -/

/-- A share of the host. -/
structure FsMount where
  tag : List Char
  hostPath : List Char
  readOnly : Bool
  deriving DecidableEq, Repr

/-- What the host answers. -/
structure World where
  /-- The absolute path of a directory, which is made if nothing is there. -/
  resolve : List Char → Except BoxError (List Char)
  isFile : List Char → Bool
  /-- What the creation of an anonymous volume comes to, for the `VOLUME` at some position and a name: the directory,
  and whether it is new. -/
  create : ℕ → List Char → Except BoxError (List Char × Bool)
  isFile_resolve : ∀ {path hostPath}, resolve path = .ok hostPath → isFile hostPath = isFile path
  isFile_create : ∀ {i name hostPath created}, create i name = .ok (hostPath, created) → isFile hostPath = false

/-- The parts between colons. -/
def colonParts (text : List Char) : List (List Char) := pieces (· == ':') text

/-- `ro` -/
def modeRo : List Char := ['r', 'o']

/-- `rw` -/
def modeRw : List Char := ['r', 'w']

/-- It is a mode. -/
def isMode (part : List Char) : Bool := part == modeRo || part == modeRw

/-- It looks like a path. -/
def looksLikePath (part : List Char) : Bool :=
  part.head? == some '/' || part.head? == some '\\' || ['.', '/'].isPrefixOf part || ['.', '.', '/'].isPrefixOf part ||
    (byteLen part == 2 && part.head?.any Char.isAlpha && part.getLast? == some ':')

/-- A volume of the user, taken apart. -/
structure Volume where
  hostPath : List Char
  guestPath : List Char
  readOnly : Bool
  deriving DecidableEq, Repr

/-- The index of the path in the guest: before the mode, or the last. -/
def guestIndex (parts : List (List Char)) : ℕ :=
  if isMode (parts.getLastD []) then parts.length - 2 else parts.length - 1

/-- The path on the host: the parts before that of the guest. -/
def hostPathOf (parts : List (List Char)) : List Char :=
  let joined := joinWith ':' (parts.take (guestIndex parts))
  if byteLen (parts.headD []) = 1 then
    if joined.getLast? = some ':' then joined.dropLast else joined
  else joined

/-- What a mode means. -/
def readOnlyOf (volume mode : List Char) : Except BoxError Bool :=
  if mode = modeRo then .ok true
  else if mode = modeRw then .ok false
  else if mode ≠ [] then
    let mode := String.ofList mode
    let volume := String.ofList volume
    .error (.configError s!"Invalid volume mode '{mode}' (expected 'ro' or 'rw'): {volume}")
  else .ok false

/-- The first half of `parse_volume_mount`: take a volume apart. -/
def splitVolume (volume : List Char) : Except BoxError Volume :=
  let parts := colonParts volume
  let last := parts.getLastD []
  let text := String.ofList volume
  if parts.length < 2 then
    .error (.configError s!"Invalid volume format (expected host:guest[:ro|rw]): {text}")
  else if !isMode last && !looksLikePath last then
    let mode := String.ofList last
    .error (.configError s!"Invalid volume mode '{mode}' (expected 'ro' or 'rw'): {text}")
  else
    let guestPath := parts.getD (guestIndex parts) []
    if guestPath = [] ∨ isMode guestPath = true then
      .error (.configError s!"Invalid volume format (expected host:guest[:ro|rw]): {text}")
    else (readOnlyOf volume (if isMode last then last else [])).map fun readOnly =>
      ⟨hostPathOf parts, guestPath, readOnly⟩

/-- The tag of a share. -/
def volumeTag (index : ℕ) : List Char := ['v', 'o', 'l'] ++ showNat index

variable (w : World)

/-- `parse_volume_mount` -/
def parseVolumeMount (volume : List Char) (index : ℕ) : Except BoxError FsMount :=
  (splitVolume volume).bind fun v => (w.resolve v.hostPath).map fun hostPath => ⟨volumeTag index, hostPath, v.readOnly⟩

/-- The shares for the volumes of the user, the first of which has an index. -/
def userMounts (w : World) : ℕ → List (List Char) → Except BoxError (List FsMount)
  | _, [] => .ok []
  | index, volume :: volumes =>
    (parseVolumeMount w volume index).bind fun mount =>
      (userMounts w (index + 1) volumes).map fun mounts => mount :: mounts

/-- The paths that the user covers. -/
def userGuestPaths (volumes : List (List Char)) : List (List Char) :=
  volumes.filterMap fun volume => (colonParts volume)[1]?

/-- `fnv1a_hash` -/
def fnv1aHash (text : List Char) : UInt64 :=
  (utf8 (String.ofList text)).foldl (fun hash byte => (hash ^^^ byte.toUInt64) * 0x100000001b3) 0xcbf29ce484222325

/-- The name of an anonymous volume; it panics if a text is cut where it cannot be. -/
def anonName (boxId path : List Char) : Option (List Char) :=
  (splitAt 8 (Nat.toDigits 16 (fnv1aHash path).toNat)).bind fun (pathHash, _) =>
    (splitAt (min 8 (byteLen boxId)) boxId).map fun (shortBoxId, _) =>
      "anon_".toList ++ shortBoxId ++ '_' :: pathHash

/-- An anonymous volume. -/
structure Anonymous where
  path : List Char
  mount : FsMount
  name : List Char
  created : Bool
  deriving DecidableEq, Repr

/-- The anonymous volumes for `VOLUME`s, the first of which has a position, from an index on. -/
def anonymousMounts (w : World) (boxId : List Char) (covered : List (List Char)) :
    ℕ → ℕ → List (List Char) → Except (Fault BoxError) (List Anonymous)
  | _, _, [] => .ok []
  | i, offset, path :: paths =>
    if covered.contains path then anonymousMounts w boxId covered (i + 1) offset paths
    else
      match anonName boxId path with
      | none => .error .panic
      | some name =>
        match w.create i name with
        | .ok (hostPath, created) =>
          (anonymousMounts w boxId covered (i + 1) (offset + 1) paths).map fun rest =>
            ⟨path, ⟨volumeTag offset, hostPath, false⟩, name, created⟩ :: rest
        | .error _ => anonymousMounts w boxId covered (i + 1) offset paths

/-- What `build_instance_spec` builds for volumes. -/
structure Shares where
  user : List FsMount
  anonymous : List Anonymous
  deriving DecidableEq, Repr

/-- The part of `build_instance_spec` that builds shares. -/
def buildShares (boxId : List Char) (volumes paths : List (List Char)) : Except (Fault BoxError) Shares :=
  match userMounts w 0 volumes with
  | .error e => .error (.error e)
  | .ok user => (anonymousMounts w boxId (userGuestPaths volumes) 0 volumes.length paths).map fun anonymous =>
      ⟨user, anonymous⟩

/-! ### The variables -/

/-- The name of the variable for a volume. -/
def volumeKey (index : ℕ) : List Char := "BOX_VOL_".toList ++ showNat index

/-- What the guest is told of a volume of the user. -/
def userValue (index : ℕ) (parts : List (List Char)) : List Char :=
  let mode := if parts[2]? = some modeRo then ":ro".toList else []
  let fileFlag := if w.isFile (parts.headD []) then ":file".toList else []
  volumeTag index ++ ':' :: parts.getD 1 [] ++ mode ++ fileFlag

/-- The variables for the volumes of the user. -/
def userEnv (w : World) : ℕ → List (List Char) → List (List Char × List Char)
  | _, [] => []
  | index, volume :: volumes =>
    let parts := colonParts volume
    let rest := userEnv w (index + 1) volumes
    if 2 ≤ parts.length then (volumeKey index, userValue w index parts) :: rest else rest

/-- What the guest is told of an anonymous volume. -/
def anonValue (index : ℕ) (path : List Char) : List Char := volumeTag index ++ ':' :: path

/-- The variables for the anonymous volumes. -/
def anonEnv (covered : List (List Char)) : ℕ → List (List Char) → List (List Char × List Char)
  | _, [] => []
  | index, path :: paths =>
    if covered.contains path then anonEnv covered index paths
    else (volumeKey index, anonValue index path) :: anonEnv covered (index + 1) paths

/-- The variables of all volumes. -/
def volumeEnv (volumes paths : List (List Char)) : List (List Char × List Char) :=
  userEnv w 0 volumes ++ anonEnv (userGuestPaths volumes) volumes.length paths

/-! ### The guest -/

/-- A volume that the guest mounts. -/
structure GuestMount where
  tag : List Char
  guestPath : List Char
  readOnly : Bool
  isFile : Bool
  deriving DecidableEq, Repr

/-- What a variable says. -/
def guestMount (value : List Char) : Option GuestMount :=
  match colonParts value with
  | tag :: guestPath :: flags => some ⟨tag, guestPath, flags.contains modeRo, flags.contains "file".toList⟩
  | _ => none

/-- The loop of `mount_user_volumes`, from an index on. -/
def mountLoop (env : List (List Char × List Char)) : ℕ → ℕ → List GuestMount
  | 0, _ => []
  | fuel + 1, index =>
    match env.lookup (volumeKey index) with
    | none => []
    | some value => (guestMount value).toList ++ mountLoop env fuel (index + 1)

/-- `mount_user_volumes` -/
def mountUserVolumes (env : List (List Char × List Char)) : List GuestMount := mountLoop env (env.length + 1) 0

/-! ### What is meant to hold -/

/-- A share, and the path in the guest that it is built for. -/
structure Built where
  guestPath : List Char
  mount : FsMount
  deriving DecidableEq, Repr

/-- The path of a volume in the guest. -/
def guestPathOf (volume : List Char) : List Char :=
  match splitVolume volume with
  | .ok v => v.guestPath
  | .error _ => []

/-- The shares for volumes, with their paths in the guest. -/
def Shares.built (shares : Shares) (volumes : List (List Char)) : List Built :=
  (volumes.zip shares.user).map (fun (volume, mount) => ⟨guestPathOf volume, mount⟩) ++
    shares.anonymous.map fun volume => ⟨volume.path, volume.mount⟩

/-- The guest mounts a share where it is to be mounted, with its flags. -/
def Built.Matches (built : Built) (m : GuestMount) : Prop :=
  m.tag = built.mount.tag ∧ m.guestPath = built.guestPath ∧ m.readOnly = built.mount.readOnly ∧
    m.isFile = w.isFile built.mount.hostPath

/-- A volume of the user reads the same both ways: its second part is the path in the guest, its third is `ro` if its
last is, and its first is a file if the path on the host is. -/
def Aligned (parts : List (List Char)) : Prop :=
  parts[1]? = parts[guestIndex parts]? ∧ (parts[2]? = some modeRo ↔ parts.getLast? = some modeRo) ∧
    w.isFile (parts.headD []) = w.isFile (hostPathOf parts)

/-- The anonymous volume for the `VOLUME` at a position is created. -/
def Created (boxId : List Char) (i : ℕ) (path : List Char) : Prop :=
  ∃ name volume, anonName boxId path = some name ∧ w.create i name = .ok volume

/-- The `VOLUME` at a position has no colon, and its volume is created. -/
def Provided (boxId : List Char) (i : ℕ) (path : List Char) : Prop :=
  ':' ∉ path ∧ Created w boxId i path

/-! ### Parts -/

theorem not_mem_of_mem_colonParts {text part} (h : part ∈ colonParts text) : ':' ∉ part := by
  rcases mark_cases ':' text with hnone | ⟨_, _, hfront, rfl⟩
  · rw [colonParts, pieces_of_not_mem hnone, mem_singleton] at h
    exact h ▸ hnone
  · rw [colonParts, pieces_append hfront] at h
    rcases mem_cons.mp h with rfl | hmem
    · exact hfront
    · exact not_mem_of_mem_colonParts hmem
termination_by text.length
decreasing_by
  subst_vars
  simp
  omega

theorem colon_not_mem_volumeTag (index : ℕ) : ':' ∉ volumeTag index := by
  have hdigits : ':' ∉ showNat index := not_mem_showNat rfl
  simp [volumeTag, hdigits]

variable {i j index k : ℕ} {volume path : List Char} {covered : List (List Char)}

theorem showNat_injective (h : showNat i = showNat j) : i = j := by
  have hi := @parseDigits_showNat (max i j) i (Nat.le_max_left i j)
  have hj := @parseDigits_showNat (max i j) j (Nat.le_max_right i j)
  rw [h, hj] at hi
  exact (Except.ok.inj hi).symm

theorem volumeTag_injective (h : volumeTag i = volumeTag j) : i = j := showNat_injective (append_cancel_left h)

theorem volumeKey_injective (h : volumeKey i = volumeKey j) : i = j := showNat_injective (append_cancel_left h)

theorem readOnlyOf_ok {mode readOnly} (h : readOnlyOf volume mode = .ok readOnly) :
    readOnly = true ↔ mode = modeRo := by
  rw [readOnlyOf] at h
  split_ifs at h with hro hrw hne
  · cases h
    simp [hro]
  · cases h
    simp [hrw, modeRo, modeRw]
  · cases h
    simp [hro]

/-- What a volume of the user that is accepted is taken apart into. -/
theorem splitVolume_ok {v} (h : splitVolume volume = .ok v) :
    2 ≤ (colonParts volume).length ∧ some v.guestPath = (colonParts volume)[guestIndex (colonParts volume)]? ∧
      v.hostPath = hostPathOf (colonParts volume) ∧
      (v.readOnly = true ↔ (colonParts volume).getLast? = some modeRo) := by
  simp only [splitVolume] at h
  split at h
  · cases h
  next hlength =>
    split at h
    · cases h
    · split at h
      · cases h
      · obtain ⟨_, hreadOnly, rfl⟩ := except_map_ok h
        have hne : colonParts volume ≠ [] := pieces_ne_nil _ _
        obtain ⟨front, last, hparts⟩ : ∃ front last, colonParts volume = front ++ [last] := by
          simpa using (eq_nil_or_concat _).resolve_left hne
        have hlt : guestIndex (colonParts volume) < (colonParts volume).length := by
          rw [guestIndex]
          split_ifs
          · omega
          · omega
        refine ⟨by omega, ?_, rfl, ?_⟩
        · simp [List.getElem?_eq_getElem hlt]
        · rw [readOnlyOf_ok hreadOnly, hparts]
          by_cases hro : last = modeRo
          · simp [hro, isMode]
          · have hmode : (if isMode last then last else []) ≠ modeRo := by
              split_ifs
              · exact hro
              · simp [modeRo]
            simp [hro, hmode]

/-! ### What the variables say -/

/-- What the guest reads about a volume of the user. -/
def userGuest (index : ℕ) (volume : List Char) : GuestMount :=
  ⟨volumeTag index, (colonParts volume).getD 1 [], decide ((colonParts volume)[2]? = some modeRo),
    w.isFile ((colonParts volume).headD [])⟩

variable {flags : List (List Char)} {offset : ℕ} {mount : FsMount} {α : Type} {b : Built} {m : GuestMount}

theorem colonParts_flags (hpath : ':' ∉ path) (hflags : ∀ flag ∈ flags, ':' ∉ flag) :
    colonParts (path ++ flags.flatMap (':' :: ·)) = path :: flags := by
  induction flags generalizing path with
  | nil => simpa [colonParts] using pieces_of_not_mem hpath
  | cons flag _ ih =>
    have hrest := ih (hflags flag mem_cons_self) fun other hother => hflags other (mem_cons_of_mem _ hother)
    rw [flatMap_cons, cons_append, colonParts, pieces_append hpath]
    exact congrArg _ hrest

theorem guestMount_flags (hpath : ':' ∉ path) (hflags : ∀ flag ∈ flags, ':' ∉ flag) :
    guestMount (volumeTag index ++ ':' :: (path ++ flags.flatMap (':' :: ·))) =
      some ⟨volumeTag index, path, flags.contains modeRo, flags.contains "file".toList⟩ := by
  have hparts : colonParts (volumeTag index ++ ':' :: (path ++ flags.flatMap (':' :: ·))) =
      volumeTag index :: path :: flags := by
    rw [colonParts, pieces_append (colon_not_mem_volumeTag index)]
    exact congrArg _ (colonParts_flags hpath hflags)
  rw [guestMount, hparts]

theorem guestMount_userValue (index) (volume) :
    guestMount (userValue w index (colonParts volume)) = some (userGuest w index volume) := by
  have hpath : ':' ∉ (colonParts volume).getD 1 [] := by
    rw [getD_eq_getElem?_getD]
    cases hget : (colonParts volume)[1]? with
    | none => simp
    | some => exact not_mem_of_mem_colonParts (mem_of_getElem? hget)
  have hro : ':' ∉ modeRo := by decide
  rw [userValue, userGuest]
  generalize w.isFile ((colonParts volume).headD []) = isFile
  by_cases hmode : (colonParts volume)[2]? = some modeRo <;> cases isFile
  · simpa [hmode, modeRo] using @guestMount_flags index _ [modeRo] hpath (by simp [hro])
  · simpa [hmode, modeRo] using @guestMount_flags index _ [modeRo, "file".toList] hpath (by simp [hro])
  · simpa [hmode] using @guestMount_flags index _ [] hpath (by simp)
  · have hne : modeRo ≠ ['f', 'i', 'l', 'e'] := by decide
    simpa [hmode, hne] using @guestMount_flags index _ ["file".toList] hpath (by simp)

/-- What the guest reads about an anonymous volume. -/
def anonGuest (index : ℕ) (path : List Char) : GuestMount :=
  ⟨volumeTag index, (colonParts path).headD [], (colonParts path).tail.contains modeRo,
    (colonParts path).tail.contains "file".toList⟩

theorem guestMount_anonValue (index) (path) :
    guestMount (anonValue index path) = some (anonGuest index path) := by
  have hparts : colonParts (anonValue index path) = volumeTag index :: colonParts path :=
    pieces_append (colon_not_mem_volumeTag index) path
  rw [guestMount, hparts, anonGuest]
  cases hpath : colonParts path with
  | nil => exact absurd hpath (pieces_ne_nil _ _)
  | cons => rfl

theorem anonGuest_of_not_mem (index) (h : ':' ∉ path) :
    anonGuest index path = ⟨volumeTag index, path, false, false⟩ := by
  have hparts : colonParts path = [path] := pieces_of_not_mem h
  simp [anonGuest, hparts]

theorem colon_not_mem_guestPath (index) (path) : ':' ∉ (anonGuest index path).guestPath := by
  rw [anonGuest]
  cases hpath : colonParts path with
  | nil => simp
  | cons => exact not_mem_of_mem_colonParts (hpath ▸ mem_cons_self)

/-! ### What the guest mounts -/

/-- Variables that are numbered from an index on. -/
def numbered : ℕ → List (List Char) → List (List Char × List Char)
  | _, [] => []
  | index, value :: values => (volumeKey index, value) :: numbered (index + 1) values

theorem numbered_append (index) (values more : List (List Char)) :
    numbered index (values ++ more) = numbered index values ++ numbered (index + values.length) more := by
  induction values generalizing index with
  | nil => rfl
  | cons _ _ ih =>
    rw [cons_append, numbered, numbered, ih, cons_append, length_cons, Nat.add_right_comm, Nat.add_assoc]

theorem length_numbered (index) (values : List (List Char)) : (numbered index values).length = values.length := by
  induction values generalizing index with
  | nil => rfl
  | cons _ _ ih => rw [numbered, length_cons, ih, length_cons]

theorem lookup_numbered (index k) (values : List (List Char)) :
    (numbered index values).lookup (volumeKey (index + k)) = values[k]? := by
  induction values generalizing index k with
  | nil => rfl
  | cons _ _ ih =>
    rw [numbered, lookup_cons]
    cases k with
    | zero => simp
    | succ k =>
      have hne : volumeKey (index + (k + 1)) ≠ volumeKey index := by
        intro heq
        have := volumeKey_injective heq
        omega
      rw [beq_false_of_ne hne, List.getElem?_cons_succ, ← ih (index + 1) k]
      simp only [Nat.add_assoc, Nat.add_comm 1 k]

/-- The loop of the guest goes through all variables that are numbered. -/
theorem mountLoop_eq {env : List (List Char × List Char)} {values : List (List Char)} {fuel : ℕ}
    (hvalues : ∀ k, env.lookup (volumeKey (index + k)) = values[k]?) (hfuel : values.length < fuel) :
    mountLoop env fuel index = values.filterMap guestMount := by
  induction values generalizing index fuel with
  | nil =>
    obtain ⟨fuel, rfl⟩ : ∃ rest, fuel = rest + 1 := ⟨fuel - 1, by simp at hfuel; omega⟩
    have hnone : env.lookup (volumeKey index) = none := hvalues 0
    simp [mountLoop, hnone]
  | cons value values ih =>
    obtain ⟨fuel, rfl⟩ : ∃ rest, fuel = rest + 1 := ⟨fuel - 1, by simp at hfuel; omega⟩
    have hsome : env.lookup (volumeKey index) = some value := hvalues 0
    have hrest : mountLoop env fuel (index + 1) = values.filterMap guestMount := by
      refine ih (fun k => ?_) (by simpa using hfuel)
      have hk := hvalues (k + 1)
      rwa [List.getElem?_cons_succ, Nat.add_comm k 1, ← Nat.add_assoc] at hk
    rw [mountLoop, hsome]
    simp only [hrest]
    cases hvalue : guestMount value <;> simp [hvalue]

theorem mountUserVolumes_numbered (values : List (List Char)) :
    mountUserVolumes (numbered 0 values) = values.filterMap guestMount := by
  refine mountLoop_eq (fun k => lookup_numbered 0 k values) ?_
  rw [length_numbered]
  exact Nat.lt_succ_self _

/-- The `VOLUME`s that no volume of the user covers. -/
def uncovered (covered paths : List (List Char)) : List (List Char) := paths.filter fun path => !covered.contains path

variable {volumes paths : List (List Char)} {w : World}

theorem uncovered_of_mem (h : path ∈ covered) : uncovered covered (path :: paths) = uncovered covered paths :=
  filter_cons_of_neg (by simpa using h)

theorem uncovered_of_not_mem (h : path ∉ covered) :
    uncovered covered (path :: paths) = path :: uncovered covered paths :=
  filter_cons_of_pos (by simpa using h)

theorem userEnv_eq_numbered (index) (h : ∀ volume ∈ volumes, 2 ≤ (colonParts volume).length) :
    userEnv w index volumes =
      numbered index ((volumes.zipIdx index).map fun (volume, i) => userValue w i (colonParts volume)) := by
  induction volumes generalizing index with
  | nil => rfl
  | cons volume _ ih =>
    have hrest := ih (index + 1) fun other hother => h other (mem_cons_of_mem _ hother)
    simp [userEnv, h volume mem_cons_self, hrest, numbered]

theorem anonEnv_eq_numbered (covered) (paths) (index) : anonEnv covered index paths =
      numbered index (((uncovered covered paths).zipIdx index).map fun (path, i) => anonValue i path) := by
  induction paths generalizing index with
  | nil => rfl
  | cons path paths ih =>
    rw [anonEnv]
    by_cases hpath : path ∈ covered
    · rw [if_pos (by simpa using hpath), ih, uncovered_of_mem hpath]
    · rw [if_neg (by simpa using hpath), ih, uncovered_of_not_mem hpath, zipIdx_cons, map_cons, numbered]

theorem mountUserVolumes_eq (paths) (h : ∀ volume ∈ volumes, 2 ≤ (colonParts volume).length) :
    mountUserVolumes (volumeEnv w volumes paths) =
      volumes.zipIdx.map (fun (volume, i) => userGuest w i volume) ++
        ((uncovered (userGuestPaths volumes) paths).zipIdx volumes.length).map fun (path, i) => anonGuest i path := by
  have henv : volumeEnv w volumes paths =
      numbered 0 (volumes.zipIdx.map (fun (volume, i) => userValue w i (colonParts volume)) ++
        ((uncovered (userGuestPaths volumes) paths).zipIdx volumes.length).map fun (path, i) => anonValue i path) := by
    rw [volumeEnv, userEnv_eq_numbered 0 h, anonEnv_eq_numbered, numbered_append]
    simp
  rw [henv, mountUserVolumes_numbered]
  simp [guestMount_userValue, guestMount_anonValue]

/-! ### What the host builds -/

theorem userMounts_ok {mounts} (h : userMounts w index volumes = .ok mounts) :
    mounts.length = volumes.length ∧ ∀ k volume mount, volumes[k]? = some volume → mounts[k]? = some mount →
      parseVolumeMount w volume (index + k) = .ok mount := by
  induction volumes generalizing index mounts with
  | nil =>
    cases h
    exact ⟨rfl, fun k volume mount hk => by simp at hk⟩
  | cons _ _ ih =>
    obtain ⟨_, hmount, hmounts⟩ := except_bind_ok h
    obtain ⟨_, hrest, rfl⟩ := except_map_ok hmounts
    obtain ⟨hlength, hparsed⟩ := ih hrest
    refine ⟨by simp [hlength], fun k other parsed hk hparsedk => ?_⟩
    cases k with
    | zero =>
      cases hk
      cases hparsedk
      exact hmount
    | succ k =>
      have := hparsed k other parsed hk hparsedk
      rwa [Nat.add_assoc, Nat.add_comm 1 k] at this

variable {boxId : List Char}

/-- The anonymous volumes are tagged one after the other, and can be written. -/
theorem anonymousMounts_mount {volumes} (h : anonymousMounts w boxId covered i offset paths = .ok volumes) {volume}
    (hk : volumes[k]? = some volume) :
    volume.mount.tag = volumeTag (offset + k) ∧ volume.mount.readOnly = false ∧
      w.isFile volume.mount.hostPath = false := by
  induction paths generalizing i offset volumes k with
  | nil =>
    cases h
    simp at hk
  | cons path _ ih =>
    rw [anonymousMounts] at h
    split at h
    · exact ih h hk
    · cases hname : anonName boxId path with
      | none => simp [hname] at h
      | some name =>
        simp only [hname] at h
        cases hcreate : w.create i name with
        | error =>
          simp only [hcreate] at h
          exact ih h hk
        | ok made =>
          simp only [hcreate] at h
          obtain ⟨_, hrest, rfl⟩ := except_map_ok h
          cases k with
          | zero =>
            cases hk
            exact ⟨rfl, rfl, w.isFile_create hcreate⟩
          | succ k =>
            have := ih hrest hk
            rwa [Nat.add_assoc, Nat.add_comm 1 k] at this

theorem forall_uncovered_cons {P : ℕ → List Char → Prop} :
    (∀ k other, (path :: paths)[k]? = some other → other ∉ covered → P (i + k) other) ↔
      (path ∉ covered → P i path) ∧
        ∀ k other, paths[k]? = some other → other ∉ covered → P (i + 1 + k) other := by
  constructor
  · refine fun hall => ⟨hall 0 path rfl, fun k other hk hother => ?_⟩
    have := hall (k + 1) other hk hother
    rwa [Nat.add_comm k 1, ← Nat.add_assoc] at this
  · rintro ⟨hzero, hsucc⟩ k other hk hother
    cases k with
    | zero =>
      cases hk
      exact hzero hother
    | succ k =>
      have := hsucc k other hk hother
      rwa [Nat.add_assoc, Nat.add_comm 1 k] at this

/-- The anonymous volumes are for some `VOLUME`s that are not covered, in order; for all exactly if all are created. -/
theorem anonymousMounts_paths {volumes : List Anonymous}
    (h : anonymousMounts w boxId covered i offset paths = .ok volumes) :
    (volumes.map (·.path)).Sublist (uncovered covered paths) ∧
      (volumes.map (·.path) = uncovered covered paths ↔
        ∀ k path, paths[k]? = some path → path ∉ covered → Created w boxId (i + k) path) := by
  induction paths generalizing i offset volumes with
  | nil =>
    cases h
    exact ⟨List.Sublist.refl _, by simp [uncovered]⟩
  | cons path paths ih =>
    rw [forall_uncovered_cons]
    rw [anonymousMounts] at h
    split at h
    next hcovered =>
      have hmem : path ∈ covered := by simpa using hcovered
      obtain ⟨hsub, hiff⟩ := ih h
      rw [uncovered_of_mem hmem, hiff]
      exact ⟨hsub, fun hall => ⟨fun hnot => absurd hmem hnot, hall⟩, And.right⟩
    next hcovered =>
      have hmem : path ∉ covered := by simpa using hcovered
      rw [uncovered_of_not_mem hmem]
      cases hname : anonName boxId path with
      | none => simp [hname] at h
      | some name =>
        simp only [hname] at h
        cases hcreate : w.create i name with
        | error =>
          simp only [hcreate] at h
          obtain ⟨hsub, -⟩ := ih h
          refine ⟨hsub.cons path, fun heq => ?_, ?_⟩
          · have hlength := hsub.length_le
            rw [heq] at hlength
            simp at hlength
          · rintro ⟨hzero, -⟩
            obtain ⟨_, _, hother, hvolume⟩ := hzero hmem
            rw [hname] at hother
            cases hother
            rw [hcreate] at hvolume
            cases hvolume
        | ok made =>
          simp only [hcreate] at h
          obtain ⟨_, hrest, rfl⟩ := except_map_ok h
          obtain ⟨hsub, hiff⟩ := ih hrest
          refine ⟨hsub.cons_cons path, ?_⟩
          rw [map_cons, cons_inj_right, hiff]
          exact ⟨fun hall => ⟨fun _ => ⟨name, made, hname, hcreate⟩, hall⟩, And.right⟩

/-! ### Shares and mounts -/

theorem parseVolumeMount_ok (h : parseVolumeMount w volume index = .ok mount) :
    ∃ v hostPath, splitVolume volume = .ok v ∧ w.resolve v.hostPath = .ok hostPath ∧
      mount = ⟨volumeTag index, hostPath, v.readOnly⟩ := by
  obtain ⟨v, hsplit, hmount⟩ := except_bind_ok h
  obtain ⟨hostPath, hresolve, rfl⟩ := except_map_ok hmount
  exact ⟨v, hostPath, hsplit, hresolve, rfl⟩

/-- The guest mounts a volume of the user as it is built, exactly if it reads the same both ways. -/
theorem user_matches_iff (h : parseVolumeMount w volume index = .ok mount) :
    Built.Matches w ⟨guestPathOf volume, mount⟩ (userGuest w index volume) ↔ Aligned w (colonParts volume) := by
  obtain ⟨v, _, hsplit, hresolve, rfl⟩ := parseVolumeMount_ok h
  obtain ⟨_, hguest, hhost, hro⟩ := splitVolume_ok hsplit
  have hpath : guestPathOf volume = v.guestPath := by rw [guestPathOf, hsplit]
  have hone : (colonParts volume)[1]? = some ((colonParts volume).getD 1 []) := by
    rw [getD_eq_getElem?_getD, List.getElem?_eq_getElem (by omega)]
    rfl
  simp only [Built.Matches, userGuest, hpath, w.isFile_resolve hresolve, hhost, true_and]
  refine and_congr ?_ (and_congr ?_ Iff.rfl)
  · rw [hone, ← hguest, Option.some_inj]
  · rw [← hro, Bool.eq_iff_iff, decide_eq_true_iff]

/-- Shares and mounts are numbered alike: a mount matches a share exactly if it matches that of its index. -/
theorem matched_iff {built : List Built} {mounts : List GuestMount}
    (hbuilt : ∀ k b, built[k]? = some b → b.mount.tag = volumeTag k)
    (hmounts : ∀ k m, mounts[k]? = some m → m.tag = volumeTag k) :
    (∀ m ∈ mounts, ∃ b ∈ built, b.Matches w m) ↔
      ∀ (k : ℕ) (m : GuestMount), mounts[k]? = some m → ∃ b : Built, built[k]? = some b ∧ b.Matches w m := by
  constructor
  · intro hall k m hk
    obtain ⟨b, hb, hmatches⟩ := hall m (mem_of_getElem? hk)
    obtain ⟨j, hj⟩ := mem_iff_getElem?.mp hb
    have htag : volumeTag k = volumeTag j := by rw [← hmounts k m hk, ← hbuilt j b hj, hmatches.1]
    obtain rfl := volumeTag_injective htag
    exact ⟨b, hj, hmatches⟩
  · intro hall m hm
    obtain ⟨k, hk⟩ := mem_iff_getElem?.mp hm
    obtain ⟨b, hb, hmatches⟩ := hall k m hk
    exact ⟨b, mem_of_getElem? hb, hmatches⟩

theorem getElem?_append_add {front back : List α} {n : ℕ} (h : front.length = n) (j) :
    (front ++ back)[n + j]? = back[j]? := by
  subst h
  rw [List.getElem?_append_right (Nat.le_add_right _ _), Nat.add_sub_cancel_left]

theorem buildShares_ok {shares} (h : buildShares w boxId volumes paths = .ok shares) :
    userMounts w 0 volumes = .ok shares.user ∧
      anonymousMounts w boxId (userGuestPaths volumes) 0 volumes.length paths = .ok shares.anonymous := by
  rw [buildShares] at h
  cases huser : userMounts w 0 volumes with
  | error => simp [huser] at h
  | ok =>
    simp only [huser] at h
    obtain ⟨_, hanonymous, rfl⟩ := except_map_ok h
    exact ⟨rfl, hanonymous⟩

section Box

variable {w : World} {boxId : List Char} {volumes paths : List (List Char)} {shares : Shares}

theorem index_cases (volumes : List (List Char)) (k : ℕ) :
    (∃ volume, volumes[k]? = some volume) ∨ ∃ j, k = volumes.length + j := by
  rcases Nat.lt_or_ge k volumes.length with hlt | _
  · exact .inl ⟨_, List.getElem?_eq_getElem hlt⟩
  · exact .inr ⟨k - volumes.length, by omega⟩

section Ok

variable (h : buildShares w boxId volumes paths = .ok shares)
include h

theorem colonParts_of_ok : ∀ volume ∈ volumes, 2 ≤ (colonParts volume).length := by
  intro volume hvolume
  obtain ⟨hlength, hparsed⟩ := userMounts_ok (buildShares_ok h).1
  obtain ⟨k, hk⟩ := mem_iff_getElem?.mp hvolume
  have hlt : k < shares.user.length := hlength.symm ▸ (List.getElem?_eq_some_iff.mp hk).1
  obtain ⟨_, _, hsplit, -, -⟩ := parseVolumeMount_ok (hparsed k volume _ hk (List.getElem?_eq_getElem hlt))
  exact (splitVolume_ok hsplit).1

variable {k : ℕ}

/-- The share and the mount for a volume of the user. -/
theorem row_user (hk : volumes[k]? = some volume) : ∃ mount, parseVolumeMount w volume k = .ok mount ∧
      (shares.built volumes)[k]? = some ⟨guestPathOf volume, mount⟩ ∧
      (mountUserVolumes (volumeEnv w volumes paths))[k]? = some (userGuest w k volume) := by
  obtain ⟨hlength, hparsed⟩ := userMounts_ok (buildShares_ok h).1
  have hlt : k < volumes.length := (List.getElem?_eq_some_iff.mp hk).1
  obtain ⟨mount, hmount⟩ : ∃ mount, shares.user[k]? = some mount := ⟨_, List.getElem?_eq_getElem (hlength.symm ▸ hlt)⟩
  have hpair : (volumes.zip shares.user)[k]? = some (volume, mount) := List.getElem?_zip_eq_some.mpr ⟨hk, hmount⟩
  refine ⟨mount, by simpa using hparsed k volume mount hk hmount, ?_, ?_⟩
  · rw [Shares.built, List.getElem?_append_left (by simpa [hlength] using hlt), List.getElem?_map, hpair]
    rfl
  · rw [mountUserVolumes_eq paths (colonParts_of_ok h), List.getElem?_append_left (by simpa using hlt)]
    simp [hk]

/-- The share and the mount for an anonymous volume; there may be a mount without a share. -/
theorem row_anonymous (j) : (shares.built volumes)[volumes.length + j]? =
        shares.anonymous[j]?.map (fun volume => ⟨volume.path, volume.mount⟩) ∧
      (mountUserVolumes (volumeEnv w volumes paths))[volumes.length + j]? =
        (uncovered (userGuestPaths volumes) paths)[j]?.map (anonGuest (volumes.length + j)) := by
  obtain ⟨hlength, -⟩ := userMounts_ok (buildShares_ok h).1
  constructor
  · rw [Shares.built, getElem?_append_add (by simp [hlength]), List.getElem?_map]
  · rw [mountUserVolumes_eq paths (colonParts_of_ok h), getElem?_append_add (by simp)]
    simp [Function.comp_def]

theorem Shares.built_tag {b} (hk : (shares.built volumes)[k]? = some b) : b.mount.tag = volumeTag k := by
  rcases index_cases volumes k with ⟨_, hvolume⟩ | ⟨j, rfl⟩
  · obtain ⟨_, hmount, hbuilt, -⟩ := row_user h hvolume
    obtain ⟨_, _, -, -, rfl⟩ := parseVolumeMount_ok hmount
    rw [hbuilt] at hk
    cases hk
    rfl
  · rw [(row_anonymous h j).1, Option.map_eq_some_iff] at hk
    obtain ⟨_, hvolume, rfl⟩ := hk
    exact (anonymousMounts_mount (buildShares_ok h).2 hvolume).1

theorem mounts_tag {m} (hk : (mountUserVolumes (volumeEnv w volumes paths))[k]? = some m) : m.tag = volumeTag k := by
  rcases index_cases volumes k with ⟨_, hvolume⟩ | ⟨j, rfl⟩
  · obtain ⟨-, -, -, hmount⟩ := row_user h hvolume
    rw [hmount] at hk
    cases hk
    rfl
  · rw [(row_anonymous h j).2, Option.map_eq_some_iff] at hk
    obtain ⟨_, -, rfl⟩ := hk
    rfl

/-- Every mount has its share only if every anonymous volume that is announced is created. -/
theorem paths_eq_of_matched
    (hall : ∀ (k : ℕ) (m : GuestMount), (mountUserVolumes (volumeEnv w volumes paths))[k]? = some m →
      ∃ b : Built, (shares.built volumes)[k]? = some b ∧ b.Matches w m) :
    shares.anonymous.map (·.path) = uncovered (userGuestPaths volumes) paths := by
  obtain ⟨hsub, -⟩ := anonymousMounts_paths (buildShares_ok h).2
  refine hsub.eq_of_length_le (Nat.le_of_not_lt fun hlt => ?_)
  rw [length_map] at hlt
  -- the first mount past the last share
  obtain ⟨path, hpath⟩ : ∃ path, (uncovered (userGuestPaths volumes) paths)[shares.anonymous.length]? = some path :=
    ⟨_, List.getElem?_eq_getElem hlt⟩
  obtain ⟨_, hb, -⟩ := hall _ _ ((row_anonymous h _).2.trans (congrArg _ hpath))
  rw [(row_anonymous h _).1] at hb
  simp at hb

theorem anonymous_matches_iff {volume} (hj : shares.anonymous[j]? = some volume) :
    Built.Matches w ⟨volume.path, volume.mount⟩ (anonGuest (volumes.length + j) volume.path) ↔ ':' ∉ volume.path := by
  obtain ⟨htag, hro, hfile⟩ := anonymousMounts_mount (buildShares_ok h).2 hj
  constructor
  · rintro ⟨-, hpath, -⟩
    have := colon_not_mem_guestPath (volumes.length + j) volume.path
    rwa [hpath] at this
  · intro hcolon
    rw [anonGuest_of_not_mem _ hcolon]
    exact ⟨htag.symm, rfl, hro.symm, hfile.symm⟩

end Ok

/-- **The guest mounts every volume as the share that was built for its path, with its flags, exactly if every volume
of the user reads the same both ways and every `VOLUME` that is not covered is provided.** -/
theorem mounts_paired_iff (h : buildShares w boxId volumes paths = .ok shares) :
    (∀ m ∈ mountUserVolumes (volumeEnv w volumes paths), ∃ b ∈ shares.built volumes, b.Matches w m) ↔
      (∀ volume ∈ volumes, Aligned w (colonParts volume)) ∧
        ∀ i path, paths[i]? = some path → path ∉ userGuestPaths volumes → Provided w boxId i path := by
  obtain ⟨-, hcreated⟩ := anonymousMounts_paths (buildShares_ok h).2
  simp only [Nat.zero_add] at hcreated
  rw [matched_iff (fun _ _ => Shares.built_tag h) fun _ _ => mounts_tag h]
  constructor
  · intro hall
    have hpaths := paths_eq_of_matched h hall
    refine ⟨fun volume hvolume => ?_, fun i path hi hpath => ⟨?_, hcreated.mp hpaths i path hi hpath⟩⟩
    · obtain ⟨k, hk⟩ := mem_iff_getElem?.mp hvolume
      obtain ⟨_, hmount, hbuilt, hmounted⟩ := row_user h hk
      obtain ⟨_, hb, hmatches⟩ := hall k _ hmounted
      rw [hbuilt] at hb
      cases hb
      exact (user_matches_iff hmount).mp hmatches
    · have hmem : path ∈ shares.anonymous.map (·.path) := by
        rw [hpaths]
        exact mem_filter.mpr ⟨mem_of_getElem? hi, by simpa using hpath⟩
      obtain ⟨volume, hvolume, rfl⟩ := mem_map.mp hmem
      obtain ⟨j, hj⟩ := mem_iff_getElem?.mp hvolume
      have hannounced : (uncovered (userGuestPaths volumes) paths)[j]? = some volume.path := by
        rw [← hpaths, List.getElem?_map, hj]
        rfl
      obtain ⟨_, hb, hmatches⟩ := hall _ _ ((row_anonymous h j).2.trans (congrArg _ hannounced))
      rw [(row_anonymous h j).1, hj] at hb
      cases hb
      exact (anonymous_matches_iff h hj).mp hmatches
  · rintro ⟨haligned, hprovided⟩ k m hk
    have hpaths := hcreated.mpr fun i path hi hpath => (hprovided i path hi hpath).2
    rcases index_cases volumes k with ⟨volume, hvolume⟩ | ⟨j, rfl⟩
    · obtain ⟨_, hmount, hbuilt, hmounted⟩ := row_user h hvolume
      rw [hmounted] at hk
      cases hk
      exact ⟨_, hbuilt, (user_matches_iff hmount).mpr (haligned volume (mem_of_getElem? hvolume))⟩
    · rw [(row_anonymous h j).2, Option.map_eq_some_iff] at hk
      obtain ⟨path, hpath, rfl⟩ := hk
      obtain ⟨hmem, hcovered⟩ := mem_filter.mp (mem_of_getElem? hpath)
      obtain ⟨i, hi⟩ := mem_iff_getElem?.mp hmem
      have hcolon := (hprovided i path hi (by simpa using hcovered)).1
      rw [← hpaths, List.getElem?_map, Option.map_eq_some_iff] at hpath
      obtain ⟨volume, hj, rfl⟩ := hpath
      refine ⟨⟨volume.path, volume.mount⟩, ?_, (anonymous_matches_iff h hj).mpr hcolon⟩
      rw [(row_anonymous h j).1, hj]
      rfl

end Box

/-- A host without files, on which the anonymous volumes at some positions are created. -/
def plainHost (created : ℕ → Bool) : World where
  resolve path := .ok path
  isFile _ := false
  create i name := if created i then .ok ("/volumes/".toList ++ name, true) else .error (.configError "lock")
  isFile_resolve _ := rfl
  isFile_create _ := rfl

/-- The name of the anonymous volume of `/var/lib` in the box `b1`. -/
def libName : List Char := (anonName "b1".toList "/var/lib".toList).getD []

/-- A volume of the user and one of the image are both mounted as they are built. -/
theorem volumes_mounted_as_built :
    buildShares (plainHost fun _ => true) "b1".toList ["/srv:/data:ro".toList] ["/var/lib".toList] =
        .ok ⟨[⟨"vol0".toList, "/srv".toList, true⟩],
          [⟨"/var/lib".toList, ⟨"vol1".toList, "/volumes/".toList ++ libName, false⟩, libName, true⟩]⟩ ∧
      ∃ b ∈ Shares.built ⟨[⟨"vol0".toList, "/srv".toList, true⟩],
          [⟨"/var/lib".toList, ⟨"vol1".toList, "/volumes/".toList ++ libName, false⟩, libName, true⟩]⟩
          ["/srv:/data:ro".toList],
        b.Matches (plainHost fun _ => true) ⟨"vol0".toList, "/data".toList, true, false⟩ := by
  have hbuilt : buildShares (plainHost fun _ => true) "b1".toList ["/srv:/data:ro".toList] ["/var/lib".toList] =
      .ok ⟨[⟨"vol0".toList, "/srv".toList, true⟩],
        [⟨"/var/lib".toList, ⟨"vol1".toList, "/volumes/".toList ++ libName, false⟩, libName, true⟩]⟩ := by
    decide +kernel
  refine ⟨hbuilt, (mounts_paired_iff hbuilt).mpr ⟨?_, ?_⟩ _ (by decide +kernel)⟩
  · simp only [Aligned]
    decide +kernel
  · intro i path hi _
    obtain ⟨rfl⟩ : path = "/var/lib".toList := by
      have := mem_of_getElem? hi
      simpa using this
    exact ⟨by decide, libName, _, by decide +kernel, rfl⟩

/-- The first of two anonymous volumes is not created: the guest mounts the share for `/b` at `/a`, and none at `/b`. -/
theorem volume_mounted_at_another_path :
    (buildShares (plainHost (· == 1)) "b1".toList [] ["/a".toList, "/b".toList]).map
        (fun shares => (shares.built []).map fun b => (b.guestPath, b.mount.tag)) = .ok [("/b".toList, "vol0".toList)] ∧
      mountUserVolumes (volumeEnv (plainHost (· == 1)) [] ["/a".toList, "/b".toList]) =
        [⟨"vol0".toList, "/a".toList, false, false⟩, ⟨"vol1".toList, "/b".toList, false, false⟩] := by
  constructor <;> decide +kernel

end A3sBox.Runtime.VolumeMounts
