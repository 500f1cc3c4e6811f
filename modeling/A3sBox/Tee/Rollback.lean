import A3sBox.Tee.Sealed
import Mathlib.Data.List.AList

/-!
# Rollback protection

`runtime/src/tee/rollback.rs`: each sealed blob carries a version, and a store keeps the latest version of each
context. A blob with an older one is rejected.

## The model

Versions have 64 bits; whether counting past the last panics or wraps around depends on the `Profile`. The store is
its map and its file, which may be missing or malformed when it is loaded. An attacker presents any values, but
nothing decrypts that was not encrypted (`Ideal`).

`unsealed_is_latest`: when what is unsealed was sealed at the latest version. The version is not authenticated:
`raised_version_unsealed`. `versions_kept_iff`: the uses that make no version older and change none by a seal that
fails. `versions_lost` are three that do.
-/

namespace A3sBox.Tee.Rollback

open Text List

/-! ### The version store -/

/-- Sealed data with its version. -/
structure VersionedSealedData where
  version : UInt64
  context : String
  policy : SealingPolicy
  blob : Bytes
  deriving DecidableEq, Repr

/-- The latest version of each context. -/
abbrev Versions := AList (fun _ : String => UInt64)

/-- The file of a version store. -/
inductive VersionFile where
  | missing
  | malformed
  | holds (versions : Versions)

/-- A version store. -/
structure VersionStore where
  versions : Versions
  file : VersionFile

/-- Load a version store. A file that cannot be decoded counts as empty. -/
def VersionStore.load (file : VersionFile) : VersionStore :=
  match file with
  | .missing => ⟨∅, file⟩
  | .malformed => ⟨∅, file⟩
  | .holds versions => ⟨versions, file⟩

variable (store : VersionStore) (context : String)

/-- The version of a context, `0` if nothing was sealed in it. -/
def VersionStore.currentVersion : UInt64 :=
  (store.versions.lookup context).getD 0

/-- Set a version, and save. -/
def VersionStore.set (version : UInt64) : VersionStore :=
  let versions := store.versions.insert context version
  ⟨versions, .holds versions⟩

variable (profile : Profile)

/-- Count a version up. -/
def VersionStore.advance (store : VersionStore) (context : String) : VersionStore × Except (Fault BoxError) UInt64 :=
  -- `current_version + 1` is not a checked addition
  if profile = .debug ∧ store.currentVersion context + 1 = 0 then (store, .error .panic)
  else
    let next := store.currentVersion context + 1
    (store.set context next, .ok next)

/-- Check that a blob is not older than the stored version. -/
def VersionStore.checkVersion (blobVersion : UInt64) : Except BoxError Unit :=
  if blobVersion < store.currentVersion context then
    .error (.attestationError s!"Rollback detected for context '{context}': blob version {blobVersion} < stored version {store.currentVersion context}")
  else .ok ()

/-- A newer version was seen. -/
def VersionStore.updateVersion (context : String) (blobVersion : UInt64) : VersionStore :=
  if store.currentVersion context < blobVersion then store.set context blobVersion else store

variable (ring : Ring)

/-- Seal data at the next version. -/
def sealVersioned (store : VersionStore) (report plaintext : Bytes)
    (context : String) (policy : SealingPolicy) (random : Option Nonce) :
    VersionStore × Except (Fault BoxError) VersionedSealedData :=
  match store.advance profile context with
  | (store', .error e) => (store', .error e)
  | (store', .ok version) =>
    match sealData ring report plaintext context policy random with
    | .error e => (store', .error (.error e))
    | .ok sealed => (store', .ok ⟨version, sealed.context, sealed.policy, sealed.blob⟩)

/-- Unseal data, if it is not older than the stored version. -/
def unsealVersioned (store : VersionStore) (report : Bytes) (versioned : VersionedSealedData) :
    VersionStore × Except BoxError Bytes :=
  match store.checkVersion versioned.context versioned.version with
  | .error e => (store, .error e)
  | .ok () =>
    match unsealData ring report ⟨versioned.policy, versioned.context, versioned.blob⟩ with
    | .error e => (store, .error e)
    | .ok plaintext => (store.updateVersion versioned.context versioned.version, .ok plaintext)

/-! ### Runs -/

/-- Data that was sealed. -/
structure Sealing where
  report : Bytes
  plaintext : Bytes
  nonce : Nonce
  sealed : VersionedSealedData

/-- What a seal encrypts. -/
def Sealing.encryption (r : Sealing) : Aead.Encryption :=
  ⟨ring.hkdf hkdfSalt (keyMaterial r.report r.sealed.policy) (utf8 r.sealed.context), r.nonce.val,
    utf8 r.sealed.context, r.plaintext⟩

/-- A version store, and what was sealed so far. -/
structure State where
  store : VersionStore
  history : List Sealing

/-- A call. -/
inductive Call where
  | sealing (report plaintext : Bytes) (context : String) (policy : SealingPolicy) (random : Option Nonce)
  | unsealing (report : Bytes) (versioned : VersionedSealedData)
  | reload

/-- The effect of a call. -/
def State.call (s : State) : Call → State
  | .sealing report plaintext context policy random =>
    match sealVersioned profile ring s.store report plaintext context policy random, random with
    | (store, .ok sealed), some nonce => ⟨store, ⟨report, plaintext, nonce, sealed⟩ :: s.history⟩
    | (store, _), _ => ⟨store, s.history⟩
  | .unsealing report versioned => ⟨(unsealVersioned ring s.store report versioned).1, s.history⟩
  | .reload => ⟨.load s.store.file, s.history⟩

/-- `Run profile ring ok s`: calls that meet `ok` in the state they are made in lead from a store that was just
loaded to `s`. -/
inductive Run (profile : Profile) (ring : Ring) (ok : State → Call → Prop) : State → Prop where
  | load (file : VersionFile) : Run profile ring ok ⟨.load file, []⟩
  | step {s} (call : Call) : Run profile ring ok s → ok s call → Run profile ring ok (s.call profile ring call)

/-- The cipher is ideal: a value that is presented decrypts only if it was encrypted in the history. -/
def Ideal (s : State) : Call → Prop
  | .unsealing report v =>
    ring.aead.Unforged (s.history.map (·.encryption ring))
      (ring.hkdf hkdfSalt (keyMaterial report v.policy) (utf8 v.context)) (v.blob.take nonceLen) (utf8 v.context)
      (v.blob.drop nonceLen)
  | _ => True

/-- No version is raised above the one its blob was sealed at, and no counter is at its end. -/
def VersionsKept (s : State) : Call → Prop
  | .sealing _ _ context _ _ => s.store.currentVersion context + 1 ≠ 0
  | .unsealing _ v => ∀ r ∈ s.history, r.sealed.blob = v.blob → v.version ≤ r.sealed.version
  | .reload => True

/-- The data was sealed in the context, at its latest version. -/
def Latest (history : List Sealing) (context : String) (plaintext : Bytes) : Prop :=
  ∃ r ∈ history, r.sealed.context = context ∧ r.plaintext = plaintext ∧
    ∀ r' ∈ history, r'.sealed.context = context → r'.sealed.version ≤ r.sealed.version

instance (ring : Ring) (s : State) : (call : Call) → Decidable (Ideal ring s call)
  | .sealing .. => .isTrue trivial
  | .unsealing .. => inferInstanceAs (Decidable (Aead.Unforged ..))
  | .reload => .isTrue trivial

instance (s : State) : (call : Call) → Decidable (VersionsKept s call)
  | .sealing .. => inferInstanceAs (Decidable (_ ≠ _))
  | .unsealing .. => inferInstanceAs (Decidable (∀ r ∈ s.history, _ → _))
  | .reload => .isTrue trivial

instance (history : List Sealing) (context : String) (plaintext : Bytes) :
    Decidable (Latest history context plaintext) :=
  inferInstanceAs (Decidable (∃ r ∈ history, _ ∧ _ ∧ ∀ r' ∈ history, _ → _))

/-! ### Versions only grow -/

variable {profile : Profile} {ring : Ring} {store : VersionStore} {context other : String}

theorem currentVersion_set (version : UInt64) : (store.set context version).currentVersion context = version := by
  simp [VersionStore.currentVersion, VersionStore.set]

variable {version : UInt64} {report plaintext : Bytes}

theorem le_currentVersion_set (h : store.currentVersion context ≤ version) (other) :
    store.currentVersion other ≤ (store.set context version).currentVersion other := by
  by_cases hother : other = context
  · subst hother
    rwa [currentVersion_set]
  · simp only [VersionStore.currentVersion, VersionStore.set, AList.lookup_insert_ne hother]
    exact UInt64.le_refl _

theorem le_currentVersion_update (version) (other) :
    store.currentVersion other ≤ (store.updateVersion context version).currentVersion other := by
  rw [VersionStore.updateVersion]
  split_ifs with h
  · exact le_currentVersion_set (UInt64.le_of_lt h) other
  · exact UInt64.le_refl _

theorem le_add_one (h : version + 1 ≠ 0) : version ≤ version + 1 := by
  have hlt := version.toNat_lt
  have h0 : (version + 1).toNat ≠ 0 := fun heq => h (UInt64.toNat_inj.1 heq)
  rw [UInt64.toNat_add] at h0
  rw [UInt64.le_iff_toNat_le, UInt64.toNat_add]
  have h1 : (1 : UInt64).toNat = 1 := rfl
  omega

theorem unsealVersioned_ok {v} (h : (unsealVersioned ring store report v).2 = .ok plaintext) :
    store.currentVersion v.context ≤ v.version ∧
      unsealData ring report ⟨v.policy, v.context, v.blob⟩ = .ok plaintext := by
  by_cases hlt : v.version < store.currentVersion v.context
  · simp [unsealVersioned, VersionStore.checkVersion, hlt] at h
  · refine ⟨UInt64.not_lt.1 hlt, ?_⟩
    simp only [unsealVersioned, VersionStore.checkVersion, hlt, if_false] at h
    split at h
    · simp at h
    next hunseal => exact hunseal.trans h

/-! ### What the calls preserve -/

/-- What the calls preserve. -/
structure Inv (ring : Ring) (s : State) : Prop where
  stored : ∀ r ∈ s.history, r.sealed.version ≤ s.store.currentVersion r.sealed.context
  blob : ∀ r ∈ s.history, r.sealed.blob = r.nonce.val ++ (r.encryption ring).result ring.aead
  file : (VersionStore.load s.store.file).versions = s.store.versions

variable {s : State}

theorem Inv.load (file : VersionFile) : Inv ring ⟨.load file, []⟩ where
  stored r h := absurd h not_mem_nil
  blob r h := absurd h not_mem_nil
  file := by cases file <;> rfl

theorem Inv.sealing (hinv : Inv ring s) {policy random}
    (hkept : VersionsKept s (.sealing report plaintext context policy random)) :
    Inv ring (s.call profile ring (.sealing report plaintext context policy random)) := by
  -- the counter is not at its end, and goes up by one
  have hadvance : s.store.advance profile context = _ := if_neg fun hpanic => hkept hpanic.2
  have hgrow : ∀ r ∈ s.history, r.sealed.version ≤
      (s.store.set context (s.store.currentVersion context + 1)).currentVersion r.sealed.context := fun r hr =>
    UInt64.le_trans (hinv.stored r hr) (le_currentVersion_set (le_add_one hkept) _)
  simp only [State.call, sealVersioned, hadvance]
  rcases hseal : sealData ring report plaintext context policy random with _ | _
  · exact ⟨hgrow, hinv.blob, rfl⟩
  · obtain ⟨_, _, hkey, rfl, rfl⟩ := sealData_ok hseal
    refine ⟨?_, ?_, rfl⟩
    · refine forall_mem_cons.mpr ⟨?_, hgrow⟩
      show s.store.currentVersion context + 1 ≤ (s.store.set context _).currentVersion context
      rw [currentVersion_set]
      exact UInt64.le_refl _
    · refine forall_mem_cons.mpr ⟨?_, hinv.blob⟩
      rw [← (deriveSealingKey_ok.mp hkey).2]
      rfl

theorem Inv.unsealing (hinv : Inv ring s) (report) (v : VersionedSealedData) :
    Inv ring (s.call profile ring (.unsealing report v)) := by
  simp only [State.call, unsealVersioned]
  split
  · exact hinv
  · split
    · exact hinv
    · refine ⟨fun r hr => UInt64.le_trans (hinv.stored r hr) (le_currentVersion_update _ _), hinv.blob, ?_⟩
      simp only [VersionStore.updateVersion]
      split_ifs
      · rfl
      · exact hinv.file

theorem Inv.reload (hinv : Inv ring s) : Inv ring (s.call profile ring .reload) := by
  have hversions : (VersionStore.load s.store.file).versions = s.store.versions := hinv.file
  refine ⟨fun r hr => ?_, hinv.blob, ?_⟩
  · show r.sealed.version ≤ ((VersionStore.load s.store.file).versions.lookup _).getD 0
    rw [hversions]
    exact hinv.stored r hr
  · simp only [State.call]
    cases s.store.file <;> rfl

theorem Run.inv (hrun : Run profile ring (fun s call => Ideal ring s call ∧ VersionsKept s call) s) : Inv ring s := by
  induction hrun with
  | load file => exact Inv.load file
  | step call _ hok ih =>
    cases call with
    | sealing => exact ih.sealing hok.2
    | unsealing report v => exact ih.unsealing report v
    | reload => exact ih.reload

/-- **What is unsealed is the latest**: if no version is raised above the one its blob was sealed at and no counter is
at its end, data that is unsealed was sealed at the latest version of its context. -/
theorem unsealed_is_latest (haead : ring.aead.Lawful)
    (hrun : Run profile ring (fun s call => Ideal ring s call ∧ VersionsKept s call) s) {report plaintext : Bytes}
    {v : VersionedSealedData} (hideal : Ideal ring s (.unsealing report v))
    (hkept : VersionsKept s (.unsealing report v))
    (h : (unsealVersioned ring s.store report v).2 = .ok plaintext) : Latest s.history v.context plaintext := by
  have hinv := hrun.inv
  obtain ⟨hcheck, hunseal⟩ := unsealVersioned_ok h
  -- the blob is one that was sealed, with the same nonce and context
  have hgenuine : Genuine ring (s.history.map (·.encryption ring)) report ⟨v.policy, v.context, v.blob⟩ := hideal
  obtain ⟨_, hmem, -, -, hcontext, hplaintext, hresult⟩ := hgenuine.exists_encryption haead hunseal
  obtain ⟨r, hr, rfl⟩ := mem_map.1 hmem
  have hblob : r.sealed.blob = v.blob := (hinv.blob r hr).trans hresult
  refine ⟨r, hr, utf8_injective hcontext, hplaintext, ?_⟩
  intro r' hr' hcontext'
  have hstored := hinv.stored r' hr'
  rw [hcontext'] at hstored
  exact UInt64.le_trans hstored (UInt64.le_trans hcheck (hkept r hr hblob))

/-! ### A raised version -/

/-- A report of zeros. -/
def blankReport : Bytes := List.replicate 0x1E0 0

/-- Seal data in one context, under a nonce of equal bytes. -/
def sealKeys (data byte : UInt8) : Call :=
  .sealing blankReport [data] "keys" .chipOnly (some ⟨List.replicate nonceLen byte, List.length_replicate⟩)

/-- Two sealings, one after the other. -/
def sealedTwice : State :=
  ((State.mk (.load .missing) []).call .release plainRing (sealKeys 1 7)).call .release plainRing (sealKeys 2 8)

/-- The first of them, with a version of one's choice. -/
def firstBlob (version : UInt64) : VersionedSealedData :=
  ⟨version, "keys", .chipOnly, List.replicate 12 7 ++ 1 :: List.replicate 16 145⟩

/-- A blob of version 2. -/
def secondBlob : VersionedSealedData := ⟨2, "keys", .chipOnly, List.replicate 12 8 ++ 2 :: List.replicate 16 158⟩

theorem unsealed_is_latest_second : Latest sealedTwice.history "keys" [2] := by
  have hfirst : Run .release plainRing (fun s call => Ideal plainRing s call ∧ VersionsKept s call) _ :=
    .step (sealKeys 1 7) (.load .missing) ⟨trivial, by decide⟩
  have hsecond := hfirst.step (sealKeys 2 8) ⟨trivial, by decide +kernel⟩
  exact @unsealed_is_latest .release plainRing sealedTwice Aead.checksum_lawful hsecond blankReport [2] secondBlob
    (by decide +kernel) (by decide +kernel) (by decide +kernel)

/-- An attacker who raises the version of an old blob to the latest one has it accepted. -/
theorem raised_version_unsealed :
    ∃ profile ring s report v plaintext, ring.aead.Lawful ∧ Run profile ring (Ideal ring) s ∧
      Ideal ring s (.unsealing report v) ∧ (∃ r ∈ s.history, { r.sealed with version := v.version } = v) ∧
      (unsealVersioned ring s.store report v).2 = .ok plaintext ∧ ¬ Latest s.history v.context plaintext := by
  have hfirst : Run .release plainRing (Ideal plainRing) _ := .step (sealKeys 1 7) (.load .missing) trivial
  refine ⟨.release, plainRing, sealedTwice, blankReport, firstBlob 2, [1], Aead.checksum_lawful,
    hfirst.step (sealKeys 2 8) trivial, ?_, ?_, ?_, ?_⟩
  · decide +kernel
  · decide +kernel
  · decide +kernel
  · decide +kernel

/-! ### Whether versions are kept -/

/-- A use of a store: seal, and save the file or not; unseal; or load whatever is in the file. -/
inductive Use where
  | sealing (report plaintext : Bytes) (context : String) (policy : SealingPolicy) (random : Option Nonce) (saves : Bool)
  | unsealing (report : Bytes) (versioned : VersionedSealedData)
  | reload (file : VersionFile)

/-- The store after a use, and whether the use was to seal and has failed. -/
def VersionStore.use (profile : Profile) (ring : Ring) (store : VersionStore) : Use → VersionStore × Bool
  | .sealing report plaintext context policy random saves =>
    -- a file that cannot be saved is an error, but the version has been raised
    let (store', result) := sealVersioned profile ring store report plaintext context policy random
    (⟨store'.versions, if saves then store'.file else store.file⟩, !(saves && result.isOk))
  | .unsealing report versioned => ((unsealVersioned ring store report versioned).1, false)
  | .reload file => (.load file, false)

/-- No version gets older, and the versions are the same if sealing fails. -/
def Keeps (store : VersionStore) (after : VersionStore × Bool) : Prop :=
  (∀ context, store.currentVersion context ≤ after.1.currentVersion context) ∧
    (after.2 = true → after.1.versions = store.versions)

/-- A counter at its end stops the program; the report, the random bytes and the file are there to seal with; and a file
that is loaded holds no older version, or is missing or malformed when there is none to hold. -/
def Sound (profile : Profile) (store : VersionStore) : Use → Prop
  | .sealing report _ context _ random saves =>
    if store.currentVersion context + 1 = 0 then profile = .debug
    else 0x1E0 ≤ report.length ∧ random.isSome = true ∧ saves = true
  | .unsealing _ _ => True
  | .reload (.holds versions) => ∀ context, store.currentVersion context ≤ (versions.lookup context).getD 0
  | .reload .missing | .reload .malformed => ∀ context, store.currentVersion context = 0

/-- `P` holds of each use in the store that it finds. -/
def Along (P : VersionStore → Use → Prop) (profile : Profile) (ring : Ring) : VersionStore → List Use → Prop
  | _, [] => True
  | store, use :: uses => P store use ∧ Along P profile ring (store.use profile ring use).1 uses

/-- A seal counts on, and fails without what it needs. -/
theorem sealVersioned_spec {policy random} (h : ¬ (profile = .debug ∧ store.currentVersion context + 1 = 0)) :
    (sealVersioned profile ring store report plaintext context policy random).1 =
        store.set context (store.currentVersion context + 1) ∧
      ((sealVersioned profile ring store report plaintext context policy random).2.isOk = true ↔
        0x1E0 ≤ report.length ∧ random.isSome = true) := by
  have hadvance : store.advance profile context = _ := if_neg h
  rw [sealVersioned, hadvance]
  rcases hseal : sealData ring report plaintext context policy random with _ | _
  · refine ⟨rfl, iff_of_false nofun ?_⟩
    rintro ⟨hlen, hrandom⟩
    obtain ⟨nonce, rfl⟩ := Option.isSome_iff_exists.mp hrandom
    obtain ⟨_, hok⟩ := @exists_sealData ring report plaintext context policy hlen nonce
    rw [hseal] at hok
    cases hok
  · obtain ⟨_, _, hkey, rfl, -⟩ := sealData_ok hseal
    exact ⟨rfl, iff_of_true rfl ⟨(deriveSealingKey_ok.mp hkey).1, rfl⟩⟩

theorem keeps_iff (use : Use) : Keeps store (store.use profile ring use) ↔ Sound profile store use := by
  cases use with
  | unsealing =>
    refine iff_of_true ⟨fun context => ?_, nofun⟩ trivial
    simp only [VersionStore.use, unsealVersioned]
    split
    · exact UInt64.le_refl _
    · split
      · exact UInt64.le_refl _
      · exact le_currentVersion_update _ _
  | reload file =>
    have hkeeps : Keeps store (store.use profile ring (.reload file)) ↔
        ∀ context, store.currentVersion context ≤ (VersionStore.load file).currentVersion context :=
      and_iff_left nofun
    rw [hkeeps]
    cases file with
    | holds => rfl
    | missing | malformed => exact forall_congr' fun _ => UInt64.le_zero_iff
  | sealing report plaintext context policy random =>
    by_cases hpanic : profile = .debug ∧ store.currentVersion context + 1 = 0
    · have hadvance : store.advance profile context = _ := if_pos hpanic
      rw [VersionStore.use, sealVersioned, hadvance]
      exact iff_of_true ⟨fun _ => UInt64.le_refl _, fun _ => rfl⟩ (by simp [Sound, hpanic])
    · obtain ⟨hstore, hok⟩ := @sealVersioned_spec profile ring store context report plaintext policy random hpanic
      have hgrown := @currentVersion_set store context (store.currentVersion context + 1)
      simp only [VersionStore.use, hstore, Sound]
      by_cases hend : store.currentVersion context + 1 = 0
      · -- the counter starts again at 0
        rw [if_pos hend]
        refine iff_of_false (fun h => ?_) fun hdebug => hpanic ⟨hdebug, hend⟩
        have hle : _ ≤ (store.set context _).currentVersion context := h.1 context
        rw [hgrown, hend] at hle
        rw [UInt64.le_zero_iff.mp hle] at hend
        cases hend
      · rw [if_neg hend, ← and_assoc, ← hok]
        refine ⟨fun h => by_contra fun hfails => ?_, fun hseals => ⟨le_currentVersion_set (le_add_one hend), ?_⟩⟩
        · rw [VersionStore.currentVersion, h.2 (by simpa [and_comm, imp_iff_not_or] using hfails)] at hgrown
          simp [VersionStore.currentVersion] at hgrown
        · simp [hseals]

/-- **When versions are kept.** In a run of seals, unseals and reloads no version gets older, and none is changed by a
seal that fails, exactly if each use in it is sound. -/
theorem versions_kept_iff (profile : Profile) (ring : Ring) (store : VersionStore) (uses : List Use) :
    Along (fun store use => Keeps store (store.use profile ring use)) profile ring store uses ↔
      Along (Sound profile) profile ring store uses := by
  induction uses generalizing store with
  | nil => exact .rfl
  | cons use _ ih => exact and_congr (keeps_iff use) (ih _)

/-- A store with one version. -/
def storeAt (version : UInt64) : VersionStore := (VersionStore.load .missing).set "keys" version

/-- A seal with a short report. -/
def shortSeal : Use := .sealing [] [2] "keys" .chipOnly none true

/-- A missing file is loaded; a counter is at its end; and a seal fails, after which the latest blob is rejected. -/
theorem versions_lost : ((storeAt 1).use .release plainRing (.reload .missing)).1.currentVersion "keys" = 0 ∧
    ((storeAt (-1)).use .release plainRing shortSeal).1.currentVersion "keys" = 0 ∧
    ((storeAt 1).use .release plainRing shortSeal).2 = true ∧
    (unsealVersioned plainRing (storeAt 1) blankReport (firstBlob 1)).2.isOk = true ∧
    (unsealVersioned plainRing ((storeAt 1).use .release plainRing shortSeal).1 blankReport
      (firstBlob 1)).2.isOk = false := by
  decide +kernel

end A3sBox.Tee.Rollback
