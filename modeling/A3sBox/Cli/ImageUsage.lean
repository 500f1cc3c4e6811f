import A3sBox.Cli.StateFile
import A3sBox.Image.Reference
import A3sBox.Image.Store
import Mathlib.Data.Char
import Mathlib.Data.List.Lex

/-!
# Which images are in use

`cli/src/image_usage.rs`, `cli/src/commands/image_prune.rs` and `rmi.rs`: images that share an alias with the
reference in the record of a box are not removed. But images are found by more: by a digest, an identifier, or the
beginning of one.

## The model

The records are those of the loaded state file; if it cannot be read, nothing is protected. What is printed is left
out, but for the report of `image-prune`. Removing the directory of an image does not fail.

`resolved_images_kept_iff`: when the images that are found for the records are kept. `image_by_id_removed`: that of a
box made from an identifier is not.
-/

namespace A3sBox.ImageUsage

open Boxes Image Slices Text List

/-! ### References -/

/-- Which records protect images. -/
inductive ImageReferenceScope where
  | allBoxes
  | activeBoxes
  deriving DecidableEq, Repr

/-- Which images are pruned. -/
inductive ImagePruneMode where
  /-- Only those without a name. -/
  | dangling
  | unused
  deriving DecidableEq, Repr

/-- The reference is a digest, or the identifier of an image: lower case hexadecimal digits are one byte each. -/
def isDigestReference (reference : List Char) : Bool :=
  "sha256:".toList.isPrefixOf reference ||
    (12 ≤ byteLen reference && byteLen reference ≤ 64 &&
      reference.all fun c => c.isDigit || ('a' ≤ c && c ≤ 'f'))

/-- The full form of a reference. -/
def fullForm (reference : List Char) : List String :=
  if isDigestReference reference then []
  else
    match ImageReference.parse (String.ofList reference) with
    | .ok parsed => [parsed.fullReference]
    | .error _ => []

/-- The aliases of a reference. -/
def referenceAliases (reference : String) : List String :=
  let reference := trim reference.toList
  if reference = [] then [] else String.ofList reference :: fullForm reference

/-- Whether a record protects its image. -/
def shouldIncludeRecord (scope : ImageReferenceScope) (record : BoxRecord) : Bool :=
  match scope with
  | .allBoxes => true
  | .activeBoxes => isActive record

/-- All that the records protect. -/
def referencedImages (records : List BoxRecord) (scope : ImageReferenceScope) : List String :=
  (records.filter (shouldIncludeRecord scope)).flatMap fun record => referenceAliases record.image

/-- An alias is protected. -/
def isProtectedReference (reference : String) (protectedReferences : List String) : Bool :=
  (referenceAliases reference).any fun name => name ∈ protectedReferences

/-- The image has no name. -/
def isDanglingReference (reference : String) : Bool :=
  let reference := trim reference.toList
  reference == [] || reference == "<none>".toList || reference == "<none>:<none>".toList ||
    "sha256:".toList.isPrefixOf reference

/-- Whether `image-prune` removes it. -/
def isPrunableReference (reference : String) (protectedReferences : List String) (mode : ImagePruneMode) : Bool :=
  if isProtectedReference reference protectedReferences then false
  else
    match mode with
    | .dangling => isDanglingReference reference
    | .unused => true

/-! ### Finding images -/

/-- How an image is found. -/
inductive MatchMode where
  | reference
  | sameAlias
  | digest
  deriving DecidableEq, Repr

/-- The digest is the one that is looked for, or begins with it. -/
def digestMatches (storedDigest query : String) : Bool :=
  storedDigest == query ||
    let queryHex := (stripStart "sha256:".toList query.toList).getD query.toList
    let storedHex := (stripStart "sha256:".toList storedDigest.toList).getD storedDigest.toList
    queryHex != [] && queryHex.isPrefixOf storedHex

/-- Two references have an alias in common. -/
def sharesAlias (a b : String) : Bool := (referenceAliases a).any fun name => name ∈ referenceAliases b

/-- Whether an image is asked for. -/
def imageMatches (query : String) (mode : MatchMode) (image : StoredImage) : Bool :=
  match mode with
  | .reference => image.reference == query
  | .sameAlias => sharesAlias image.reference query
  | .digest => isDigestReference query.toList && digestMatches image.digest query

variable (images : List StoredImage)

/-- The images that are looked for, each reference once. -/
def matchingImages (query : String) (mode : MatchMode) : List StoredImage :=
  images.foldl (fun found image =>
    if imageMatches query mode image && !found.any (fun m => m.reference == image.reference) then found ++ [image]
    else found) []

/-- More than one image is asked for. -/
def ambiguousReferenceError (query : String) (found : List StoredImage) : String :=
  let references := (found.map (·.reference)).mergeSort fun a b => decide (a.toList ≤ b.toList)
  let listed := ", ".intercalate references
  s!"Image reference '{query}' is ambiguous; it matches: {listed}"

/-- The only image that is found in one of the ways: the first way in which any is found. -/
def resolveBy (images : List StoredImage) (query : String) : List MatchMode → Except String (Option StoredImage)
  | [] => .ok none
  | mode :: modes =>
    match matchingImages images query mode with
    | [] => resolveBy images query modes
    | [image] => .ok (some image)
    | found => .error (ambiguousReferenceError query found)

/-- The image that a reference stands for. -/
def resolveStoredImage (query : String) : Except String (Option StoredImage) :=
  let query := trim query.toList
  if query = [] then .ok none else resolveBy images (String.ofList query) [.reference, .sameAlias, .digest]

/-- All images found in the first way in which any is found. -/
def matchesBy (images : List StoredImage) (query : String) : List MatchMode → List StoredImage
  | [] => []
  | mode :: modes =>
    match matchingImages images query mode with
    | [] => matchesBy images query modes
    | found => found

/-- All images that a reference may stand for. -/
def allMatchingImages (query : String) : List StoredImage :=
  let query := trim query.toList
  if query = [] then [] else matchesBy images (String.ofList query) [.reference, .sameAlias, .digest]

/-! ### The commands -/

/-- What the state file gives. -/
structure StateDisk where
  records : List BoxRecord
  readError : Option String
  /-- What is asked of the operating system when it is loaded. -/
  world : World

variable (state : StateDisk)

/-- `StateFile::load_default`. -/
def StateDisk.loadDefault : Except String (List BoxRecord) :=
  match state.readError with
  | some e => .error e
  | none => .ok (reconcile state.world state.records).records

/-- The references that the commands do not touch. -/
def StateDisk.protectedImages : List String :=
  match state.loadDefault with
  | .ok records => referencedImages records .allBoxes
  | .error _ => []

variable (store : ImageStore)

/-- The images of the store. -/
def list : List StoredImage := store.index.images

/-- What came of removing images. -/
structure Removal where
  count : ℕ
  freed : ℕ
  errors : List String
  deriving DecidableEq, Repr

/-- Remove images, and count them. -/
def removeImages : ImageStore → List StoredImage → ImageStore × Removal
  | store, [] => (store, ⟨0, 0, []⟩)
  | store, image :: images =>
    match store.remove image.reference with
    | (store, .ok ()) =>
      let (store, removal) := removeImages store images
      (store, { removal with count := removal.count + 1, freed := removal.freed + image.sizeBytes })
    | (store, .error e) =>
      let message := e.toText
      let (store, removal) := removeImages store images
      (store, { removal with errors := s!"{image.reference}: {message}" :: removal.errors })

/-- What `image-prune` reports. -/
inductive PruneReport where
  | nothing (message : String)
  /-- These images would be removed. -/
  | warning (images : List StoredImage)
  | removed (removal : Removal)
  deriving DecidableEq, Repr

/-- The mode of `image-prune`. -/
def pruneMode (all : Bool) : ImagePruneMode := if all then .unused else .dangling

/-- What `image-prune` says if there is nothing to remove. -/
def emptyMessage : ImagePruneMode → String
  | .dangling => "No dangling images to remove."
  | .unused => "No unused images to remove."

/-- `image-prune`, with `--all` and `--force`. -/
def imagePrune (all force : Bool) (state : StateDisk) (store : ImageStore) : ImageStore × PruneReport :=
  let toRemove := (list store).filter fun image =>
    isPrunableReference image.reference state.protectedImages (pruneMode all)
  if toRemove = [] then (store, .nothing (emptyMessage (pruneMode all)))
  else if !force then (store, .warning toRemove)
  else
    let (store, removal) := removeImages store toRemove
    (store, .removed removal)

/-- The images that `rmi` is to remove for a query, and the errors. -/
def rmiTargets (force : Bool) (images : List StoredImage) (query : String) : List StoredImage × List String :=
  if force then (allMatchingImages images query, [])
  else
    match resolveStoredImage images query with
    | .ok (some target) => ([target], [])
    | .ok none => ([], [s!"{query}: Image not found"])
    | .error error => ([], [s!"{query}: {error}"])

/-- Remove what `rmi` is given. -/
def removeTargets (force : Bool) (protectedReferences : List String) :
    ImageStore → List StoredImage → ImageStore × List String
  | store, [] => (store, [])
  | store, target :: targets =>
    if isProtectedReference target.reference protectedReferences then
      let (store, errors) := removeTargets force protectedReferences store targets
      (store, s!"{target.reference}: image is referenced by an existing box; remove the box before removing this image"
        :: errors)
    else
      match store.remove target.reference with
      | (store, .ok ()) => removeTargets force protectedReferences store targets
      | (store, .error e) =>
        let message := e.toText
        let (store, errors) := removeTargets force protectedReferences store targets
        (store, if force then errors else s!"{target.reference}: {message}" :: errors)

/-- The loop of `rmi`. -/
def rmiLoop (force : Bool) (protectedReferences : List String) : ImageStore → List String → ImageStore × List String
  | store, [] => (store, [])
  | store, query :: queries =>
    let (targets, errors) := rmiTargets force (list store) query
    let (store, more) := removeTargets force protectedReferences store targets
    let (store, others) := rmiLoop force protectedReferences store queries
    (store, errors ++ more ++ others)

/-- `rmi`, with `--force`. -/
def rmi (images : List String) (force : Bool) (state : StateDisk) (store : ImageStore) :
    ImageStore × Except String Unit :=
  let (store, errors) := rmiLoop force state.protectedImages store images
  let message := "\n".intercalate errors
  (store, if errors = [] then .ok () else .error s!"Failed to remove image(s):\n{message}")

/-! ### What is found -/

theorem referenceAliases_trim (reference : String) :
    referenceAliases (String.ofList (trim reference.toList)) = referenceAliases reference := by
  simp [referenceAliases, trim_trim]

theorem sharesAlias_trim (a b : String) : sharesAlias a (String.ofList (trim b.toList)) = sharesAlias a b := by
  simp [sharesAlias, referenceAliases_trim]

variable {reference : String}

theorem sharesAlias_self (h : trim reference.toList ≠ []) :
    sharesAlias (String.ofList (trim reference.toList)) reference = true := by
  have hmem : String.ofList (trim reference.toList) ∈ referenceAliases reference := by
    simp [referenceAliases, h]
  simp only [sharesAlias, referenceAliases_trim]
  exact any_eq_true.mpr ⟨_, hmem, by simpa using hmem⟩

theorem isProtectedReference_iff {records} :
    isProtectedReference reference (referencedImages records .allBoxes) = true ↔
      ∃ record ∈ records, sharesAlias reference record.image = true := by
  simp only [isProtectedReference, sharesAlias, any_eq_true, decide_eq_true_eq]
  simp only [referencedImages, mem_flatMap, mem_filter]
  constructor
  · rintro ⟨name, hname, record, ⟨hrecord, -⟩, hshared⟩
    exact ⟨record, hrecord, name, hname, hshared⟩
  · rintro ⟨record, hrecord, name, hname, hshared⟩
    exact ⟨name, hname, record, ⟨hrecord, rfl⟩, hshared⟩

variable {images : List StoredImage}

theorem foldl_matching (query : String) (mode : MatchMode) {found}
    (hnodup : (images.map (·.reference)).Nodup) (hnew : ∀ image ∈ images, ∀ m ∈ found, m.reference ≠ image.reference) :
    images.foldl (fun found image =>
      if imageMatches query mode image && !found.any (fun m => m.reference == image.reference) then found ++ [image]
      else found) found = found ++ images.filter (imageMatches query mode) := by
  induction images generalizing found with
  | nil => simp
  | cons image images ih =>
    obtain ⟨himage, hnodup⟩ := nodup_cons.mp hnodup
    have hany : found.any (fun m => m.reference == image.reference) = false := by
      simpa using fun m hm => hnew image mem_cons_self m hm
    have hrest : ∀ other ∈ images, ∀ m ∈ found, m.reference ≠ other.reference :=
      fun other hother => hnew other (mem_cons_of_mem _ hother)
    by_cases hmatch : imageMatches query mode image = true
    · simp only [foldl_cons, hmatch, hany, Bool.not_false, Bool.and_true, if_true, filter_cons]
      rw [ih hnodup, append_assoc]
      · rfl
      · intro other hother m hm
        rcases mem_append.mp hm with hm | hm
        · exact hrest other hother m hm
        · rw [mem_singleton.mp hm]
          intro heq
          exact himage (mem_map.mpr ⟨other, hother, heq.symm⟩)
    · simp only [foldl_cons, hmatch, filter_cons]
      exact ih hnodup hrest

theorem matchingImages_eq_filter (hnodup : (images.map (·.reference)).Nodup) (query : String) (mode : MatchMode) :
    matchingImages images query mode = images.filter (imageMatches query mode) :=
  foldl_matching query mode hnodup fun _ _ _ hm => absurd hm not_mem_nil

/-- An image is found by its digest alone: it is the only one whose digest is, or begins with, the reference, and no
image shares an alias with the reference. -/
def FoundByDigest (images : List StoredImage) (reference : String) (image : StoredImage) : Prop :=
  isDigestReference (trim reference.toList) = true ∧
  (∀ other ∈ images, sharesAlias other.reference reference = false) ∧
  ∀ other, (other ∈ images ∧ digestMatches other.digest (String.ofList (trim reference.toList)) = true) ↔ other = image

variable {query : String}

section Resolve

variable {images : List StoredImage} {reference : String} {image : StoredImage}

theorem resolveBy_some {modes} (h : resolveBy images query modes = .ok (some image)) :
    ∃ before mode after, modes = before ++ mode :: after ∧ (∀ m ∈ before, matchingImages images query m = []) ∧
      matchingImages images query mode = [image] := by
  induction modes with
  | nil => cases h
  | cons mode modes ih =>
    rw [resolveBy] at h
    split at h
    next hnone =>
      obtain ⟨before, found, after, rfl, hbefore, hfound⟩ := ih h
      exact ⟨mode :: before, found, after, rfl, forall_mem_cons.mpr ⟨hnone, hbefore⟩, hfound⟩
    next hone =>
      cases h
      exact ⟨[], mode, modes, rfl, forall_mem_nil _, hone⟩
    · cases h

theorem resolved_cases (hnodup : (images.map (·.reference)).Nodup)
    (h : resolveStoredImage images reference = .ok (some image)) :
    sharesAlias image.reference reference = true ∨ FoundByDigest images reference image := by
  unfold resolveStoredImage at h
  by_cases hblank : trim reference.toList = []
  · rw [if_pos hblank] at h
    cases h
  rw [if_neg hblank] at h
  obtain ⟨before, mode, _, hmodes, hbefore, hfound⟩ := resolveBy_some h
  rw [matchingImages_eq_filter hnodup] at hfound
  have hmem (other : StoredImage) := mem_filter.symm.trans (hfound ▸ @List.mem_singleton _ other image)
  obtain ⟨-, hmatch⟩ := (hmem image).mpr rfl
  cases mode with
  | reference =>
    have heq : image.reference = String.ofList (trim reference.toList) := by simpa [imageMatches] using hmatch
    exact .inl (heq ▸ sharesAlias_self hblank)
  | sameAlias => exact .inl ((sharesAlias_trim _ _).symm.trans hmatch)
  | digest =>
    right
    have hdigest : isDigestReference (trim reference.toList) = true := by
      simp only [imageMatches, String.toList_ofList, Bool.and_eq_true] at hmatch
      exact hmatch.1
    have halias : MatchMode.sameAlias ∈ before := by
      rcases before with _ | ⟨_, _ | ⟨_, _⟩⟩
      · cases hmodes
      · cases hmodes
      · simp only [cons_append, List.cons.injEq] at hmodes
        exact mem_cons_of_mem _ (hmodes.2.1 ▸ mem_cons_self)
    have hnone := hbefore _ halias
    rw [matchingImages_eq_filter hnodup, filter_eq_nil_iff] at hnone
    refine ⟨hdigest, fun other hother => ?_, fun other => ?_⟩
    · rw [← sharesAlias_trim]
      simpa [imageMatches] using hnone other hother
    · simpa only [imageMatches, String.toList_ofList, hdigest, Bool.true_and] using hmem other

theorem resolve_of_foundByDigest (hnodup : (images.map (·.reference)).Nodup)
    (h : FoundByDigest images reference image) : resolveStoredImage images reference = .ok (some image) := by
  obtain ⟨hdigest, halias, honly⟩ := h
  have hblank : trim reference.toList ≠ [] := by
    intro hblank
    rw [hblank] at hdigest
    cases hdigest
  have hreferences : matchingImages images (String.ofList (trim reference.toList)) .reference = [] := by
    rw [matchingImages_eq_filter hnodup, filter_eq_nil_iff]
    intro other hother hmatch
    have heq : other.reference = String.ofList (trim reference.toList) := by simpa [imageMatches] using hmatch
    have hshares := halias other hother
    rw [heq, sharesAlias_self hblank] at hshares
    cases hshares
  have haliases : matchingImages images (String.ofList (trim reference.toList)) .sameAlias = [] := by
    rw [matchingImages_eq_filter hnodup, filter_eq_nil_iff]
    intro other hother hmatch
    have hshares := halias other hother
    rw [← sharesAlias_trim] at hshares
    exact Bool.eq_false_iff.mp hshares hmatch
  have hdigests : matchingImages images (String.ofList (trim reference.toList)) .digest = [image] := by
    rw [matchingImages_eq_filter hnodup, ← perm_singleton,
      perm_ext_iff_of_nodup ((List.Nodup.of_map _ hnodup).filter _) (nodup_singleton _)]
    intro other
    rw [mem_singleton, ← honly other]
    simp [imageMatches, hdigest]
  simp [resolveStoredImage, hblank, resolveBy, hreferences, haliases, hdigests]

end Resolve

/-! ### What is removed -/

/-- Every image is stored under its own reference. -/
def Keyed : Prop := ∀ key image, store.index.lookup key = some image → image.reference = key

/-- Take images out of the store. -/
def withdrawAll (images : List StoredImage) : ImageStore :=
  images.foldl (fun store image => (store.remove image.reference).1) store

theorem removeImages_store (images) : (removeImages store images).1 = withdrawAll store images := by
  induction images generalizing store with
  | nil => rfl
  | cons image _ ih =>
    rw [removeImages, withdrawAll, foldl_cons]
    rcases hremove : store.remove image.reference with ⟨store', _ | ⟨⟩⟩
    · exact ih store'
    · exact ih store'

theorem removeTargets_store (force : Bool) (protectedReferences : List String) (store)
    (targets : List StoredImage) :
    (removeTargets force protectedReferences store targets).1 =
      withdrawAll store (targets.filter fun target => !isProtectedReference target.reference protectedReferences) := by
  induction targets generalizing store with
  | nil => rfl
  | cons target _ ih =>
    rw [removeTargets]
    by_cases hprotected : isProtectedReference target.reference protectedReferences = true
    · simp only [hprotected, filter_cons]
      exact ih store
    · simp only [hprotected, filter_cons, Bool.not_false, if_true]
      rw [withdrawAll, foldl_cons]
      rcases hremove : store.remove target.reference with ⟨store', _ | ⟨⟩⟩
      · exact ih store'
      · exact ih store'

section Removal

variable {store : ImageStore} {image : StoredImage}

variable (hkeyed : Keyed store)

include hkeyed

theorem mem_list_iff : image ∈ list store ↔ store.index.lookup image.reference = some image := by
  rw [list, mem_images]
  constructor
  · rintro ⟨key, hkey⟩
    rw [hkeyed key image hkey]
    exact hkey
  · exact fun h => ⟨_, h⟩

theorem nodup_references : ((list store).map (·.reference)).Nodup := by
  have hkeys : (list store).map (·.reference) = store.index.keys := by
    rw [list, Index.images, map_map]
    exact map_congr_left fun entry hentry => hkeyed entry.1 entry.2 (AList.mem_lookup_iff.mpr hentry)
  rw [hkeys]
  exact store.index.nodupKeys

theorem mem_list_remove (himage : image ∈ list store) : Keyed (store.remove image.reference).1 ∧
      ∀ other, other ∈ list (store.remove image.reference).1 ↔
        other ∈ list store ∧ other.reference ≠ image.reference := by
  have hmem : image.reference ∈ store.index := AList.lookup_isSome.mp (by rw [(mem_list_iff hkeyed).mp himage]; rfl)
  have hindex := (remove_reference hmem).2
  have hkeyed' : Keyed (store.remove image.reference).1 := by
    intro key other hother
    rw [hindex] at hother
    exact hkeyed key other (Totals.lookup_of_erase hother)
  refine ⟨hkeyed', fun other => ?_⟩
  rw [mem_list_iff hkeyed', mem_list_iff hkeyed, hindex]
  by_cases hother : other.reference = image.reference
  · rw [hother, AList.lookup_erase]
    exact ⟨nofun, fun h => absurd rfl h.2⟩
  · rw [AList.lookup_erase_ne hother]
    exact ⟨fun h => ⟨h, hother⟩, fun h => h.1⟩

/-- The images that are left keep their directories. -/
theorem dirs_remove (himage : image ∈ list store) {other} (hother : other ∈ list (store.remove image.reference).1)
    (hshared : image.path = other.path → image.digest = other.digest) :
    (store.remove image.reference).1.dirs.lookup other.path = store.dirs.lookup other.path := by
  have hlookup := (mem_list_iff hkeyed).mp himage
  have hmem : image.reference ∈ store.index := AList.lookup_isSome.mp (by rw [hlookup]; rfl)
  have hwithdraw : store.index.withdraw image.reference = some ([image], store.index.erase image.reference) := by
    simp [Index.withdraw, Index.keysOf, hmem, Index.takeKeys, hlookup]
  obtain ⟨hkeyed', -⟩ := mem_list_remove hkeyed himage
  have hleft := (mem_list_iff hkeyed').mp hother
  rw [(remove_reference hmem).2] at hleft
  simp only [ImageStore.remove, hwithdraw]
  refine deleteUnused_lookup fun removed hremoved hpath => ?_
  obtain rfl := mem_singleton.mp hremoved
  exact ⟨_, other, hleft, (hshared hpath).symm⟩

omit hkeyed

end Removal

/-- What removing images leaves: nothing is new, the images with protected references, and the directory of each image
that is there, unless one with another digest had the same. -/
structure Leaves (protectedReferences : List String) (store store' : ImageStore) : Prop where
  /-- Every image is stored under its own reference. -/
  keyed : Keyed store'
  old : ∀ image ∈ list store', image ∈ list store
  kept : ∀ image ∈ list store, isProtectedReference image.reference protectedReferences = true → image ∈ list store'
  dirs : ∀ image ∈ list store', (∀ other ∈ list store, other.path = image.path → other.digest = image.digest) →
    store'.dirs.lookup image.path = store.dirs.lookup image.path

section Leaves

variable {protectedReferences : List String} {store store' store'' : ImageStore} {image : StoredImage}

theorem Leaves.refl (hkeyed : Keyed store) : Leaves protectedReferences store store :=
  ⟨hkeyed, fun _ h => h, fun _ h _ => h, fun _ _ _ => rfl⟩

theorem Leaves.trans (h : Leaves protectedReferences store store') (h' : Leaves protectedReferences store' store'') :
    Leaves protectedReferences store store'' where
  keyed := h'.keyed
  old image himage := h.old image (h'.old image himage)
  kept image himage hprotected := h'.kept image (h.kept image himage hprotected) hprotected
  dirs image himage hshared :=
    (h'.dirs image himage fun other hother => hshared other (h.old other hother)).trans
      (h.dirs image (h'.old image himage) hshared)

theorem leaves_remove (hkeyed : Keyed store) (himage : image ∈ list store)
    (hfree : isProtectedReference image.reference protectedReferences = false) :
    Leaves protectedReferences store (store.remove image.reference).1 := by
  obtain ⟨hkeyed', hmem⟩ := mem_list_remove hkeyed himage
  refine ⟨hkeyed', fun other hother => ((hmem other).mp hother).1, fun other hother hprotected => ?_,
    fun other hother hshared => dirs_remove hkeyed himage hother (hshared image himage)⟩
  refine (hmem other).mpr ⟨hother, fun heq => ?_⟩
  rw [heq, hfree] at hprotected
  cases hprotected

theorem leaves_withdrawAll (hkeyed : Keyed store) (hnodup : (images.map (·.reference)).Nodup)
    (hmem : ∀ image ∈ images, image ∈ list store)
    (hfree : ∀ image ∈ images, isProtectedReference image.reference protectedReferences = false) :
    Leaves protectedReferences store (withdrawAll store images) ∧
      ∀ image ∈ images, image ∉ list (withdrawAll store images) := by
  induction images generalizing store with
  | nil => exact ⟨.refl hkeyed, forall_mem_nil _⟩
  | cons image images ih =>
    obtain ⟨hnew, hnodup⟩ := nodup_cons.mp hnodup
    obtain ⟨himage, hmem⟩ := forall_mem_cons.mp hmem
    obtain ⟨hfree', hfree⟩ := forall_mem_cons.mp hfree
    have hfirst := leaves_remove hkeyed himage hfree'
    obtain ⟨hkeyed', hleft⟩ := mem_list_remove hkeyed himage
    have hstill : ∀ other ∈ images, other ∈ list (store.remove image.reference).1 := fun other hother =>
      (hleft other).mpr ⟨hmem other hother, fun heq => hnew (mem_map.mpr ⟨other, hother, heq⟩)⟩
    obtain ⟨hrest, hgone⟩ := ih hkeyed' hnodup hstill hfree
    refine ⟨hfirst.trans hrest, forall_mem_cons.mpr ⟨fun hmem' => ?_, hgone⟩⟩
    exact ((hleft image).mp (hrest.old image hmem')).2 rfl

end Leaves

/-! ### The images of the records -/

/-- A command that removes images. -/
inductive Command where
  | imagePrune (all force : Bool)
  | rmi (images : List String) (force : Bool)

/-- Run a command. -/
def Command.run (command : Command) (state : StateDisk) (store : ImageStore) : ImageStore :=
  match command with
  | .imagePrune all force => (ImageUsage.imagePrune all force state store).1
  | .rmi images force => (ImageUsage.rmi images force state store).1

/-- The records that exist when a command does its work. -/
def StateDisk.existing : List BoxRecord :=
  match state.readError with
  | some _ => state.records
  | none => (reconcile state.world state.records).records

/-- The image is found for a record. -/
def Resolved (records : List BoxRecord) (images : List StoredImage) (image : StoredImage) : Prop :=
  ∃ record ∈ records, resolveStoredImage images record.image = .ok (some image)

/-- If the state file can be read, what is found for a record by its digest alone shares an alias with the reference of
some record; if it cannot, nothing is found for the records. -/
def Guarded (images : List StoredImage) : Prop :=
  match state.readError with
  | some _ => ∀ image, ¬ Resolved state.existing images image
  | none => ∀ record ∈ state.existing, ∀ image, FoundByDigest images record.image image →
    ∃ other ∈ state.existing, sharesAlias image.reference other.image = true

section Commands

variable {state : StateDisk} {store : ImageStore}

theorem leaves_toRemove (hkeyed : Keyed store) (protectedReferences : List String) (mode : ImagePruneMode) :
    let toRemove := (list store).filter fun image => isPrunableReference image.reference protectedReferences mode
    Leaves protectedReferences store (withdrawAll store toRemove) ∧
      ∀ image ∈ toRemove, image ∉ list (withdrawAll store toRemove) := by
  refine leaves_withdrawAll hkeyed ((filter_sublist.map _).nodup (nodup_references hkeyed))
    (fun _ himage => (mem_filter.mp himage).1) fun _ himage => ?_
  by_contra hprotected
  simp [isPrunableReference, hprotected] at himage

theorem leaves_imagePrune (hkeyed : Keyed store) (all force : Bool) :
    Leaves state.protectedImages store (imagePrune all force state store).1 := by
  unfold imagePrune
  dsimp only
  split_ifs
  · exact .refl hkeyed
  · exact .refl hkeyed
  · rw [removeImages_store]
    exact (leaves_toRemove hkeyed _ _).1

theorem matchesBy_eq (hnodup : (images.map (·.reference)).Nodup) (query) (modes : List MatchMode) :
    matchesBy images query modes = [] ∨
      ∃ mode, matchesBy images query modes = images.filter (imageMatches query mode) := by
  induction modes with
  | nil => exact .inl rfl
  | cons mode _ ih =>
    rw [matchesBy]
    split
    · exact ih
    · exact .inr ⟨mode, matchingImages_eq_filter hnodup query mode⟩

theorem rmiTargets_sublist (hnodup : (images.map (·.reference)).Nodup) (force : Bool) (query) :
    (rmiTargets force images query).1.Sublist images := by
  cases force with
  | true =>
    simp only [rmiTargets, if_true, allMatchingImages]
    split_ifs
    · exact nil_sublist _
    · rcases matchesBy_eq hnodup (String.ofList (trim query.toList)) [.reference, .sameAlias, .digest] with h | ⟨_, h⟩
      · rw [h]
        exact nil_sublist _
      · rw [h]
        exact filter_sublist
  | false =>
    simp only [rmiTargets, Bool.false_eq_true, if_false]
    split
    next target htarget =>
      unfold resolveStoredImage at htarget
      dsimp only at htarget
      split at htarget
      · cases htarget
      · obtain ⟨_, _, _, _, _, hfound⟩ := resolveBy_some htarget
        rw [matchingImages_eq_filter hnodup] at hfound
        exact hfound ▸ filter_sublist
    · exact nil_sublist _
    · exact nil_sublist _

theorem leaves_rmiLoop (hkeyed : Keyed store) (force : Bool) (protectedReferences queries : List String) :
    Leaves protectedReferences store (rmiLoop force protectedReferences store queries).1 := by
  induction queries generalizing store with
  | nil => exact .refl hkeyed
  | cons query _ ih =>
    have hnodup := nodup_references hkeyed
    have hsub := rmiTargets_sublist hnodup force query
    have hfilter := (filter_sublist (p := fun target : StoredImage =>
      !isProtectedReference target.reference protectedReferences)).trans hsub
    have hstep : Leaves protectedReferences store
        (removeTargets force protectedReferences store (rmiTargets force (list store) query).1).1 := by
      rw [removeTargets_store]
      exact (leaves_withdrawAll hkeyed ((hfilter.map _).nodup hnodup) (fun image himage => hfilter.subset himage)
        fun image himage => by simpa using (mem_filter.mp himage).2).1
    exact hstep.trans (ih hstep.keyed)

theorem leaves_run (hkeyed : Keyed store) (command : Command) :
    Leaves state.protectedImages store (command.run state store) := by
  cases command with
  | imagePrune all force => exact leaves_imagePrune hkeyed all force
  | rmi images force => exact leaves_rmiLoop hkeyed force _ images

theorem prune_removes (hkeyed : Keyed store) (himage : image ∈ list store)
    (hfree : isProtectedReference image.reference state.protectedImages = false) :
    image ∉ list ((Command.imagePrune true true).run state store) := by
  have hmem : image ∈ (list store).filter fun image =>
      isPrunableReference image.reference state.protectedImages (pruneMode true) :=
    mem_filter.mpr ⟨himage, by simp [isPrunableReference, hfree, pruneMode]⟩
  unfold Command.run imagePrune
  dsimp only
  rw [if_neg (ne_nil_of_mem hmem), removeImages_store]
  exact (leaves_toRemove hkeyed _ _).2 image hmem

end Commands

/-- **The images of the records are kept**, if and only if what is found by its digest alone shares an alias with the
reference of some record, and the state file can be read or nothing is found for its records. -/
theorem resolved_images_kept_iff (dirs : Dirs) (indexJson : Option (List StoredImage)) (maxSizeBytes : ℕ)
    (state : StateDisk) :
    let store := ImageStore.new dirs indexJson maxSizeBytes
    ((∀ (command : Command) (image : StoredImage), Resolved state.existing (list store) image →
        image ∈ list (command.run state store)) ↔
      Guarded state (list store)) ∧
    ∀ (command : Command), ∀ image ∈ list (command.run state store),
      (∀ other ∈ list store, other.path = image.path → other.digest = image.digest) →
      (command.run state store).dirs.lookup image.path = dirs.lookup image.path := by
  intro store
  have hkeyed : Keyed store := fun _ _ h => (loadIndex_lookup h).1
  have hnodup := nodup_references hkeyed
  refine ⟨?_, fun command image himage hshared => (leaves_run hkeyed command).dirs image himage hshared⟩
  have hlisted : ∀ {record : BoxRecord} {image : StoredImage},
      resolveStoredImage (list store) record.image = .ok (some image) → image ∈ list store := by
    intro record image hresolve
    have htarget : (rmiTargets false (list store) record.image).1 = [image] := by
      simp [rmiTargets, hresolve]
    exact (rmiTargets_sublist hnodup false record.image).subset (htarget ▸ mem_singleton_self image)
  unfold Guarded
  cases hread : state.readError with
  | some =>
    have hnone : state.protectedImages = [] := by
      simp [StateDisk.protectedImages, StateDisk.loadDefault, hread]
    constructor
    · rintro hkept image ⟨record, hrecord, hresolve⟩
      exact prune_removes hkeyed (hlisted hresolve) (by rw [hnone]; simp [isProtectedReference])
        (hkept _ image ⟨record, hrecord, hresolve⟩)
    · exact fun hnothing command image hresolved => absurd hresolved (hnothing image)
  | none =>
    have hexisting : state.protectedImages = referencedImages state.existing .allBoxes := by
      simp [StateDisk.protectedImages, StateDisk.loadDefault, StateDisk.existing, hread]
    constructor
    · intro hkept record hrecord image hfound
      have hresolve := resolve_of_foundByDigest hnodup hfound
      rw [← isProtectedReference_iff, ← hexisting]
      by_contra hfree
      exact prune_removes hkeyed (hlisted hresolve) (Bool.eq_false_iff.mpr hfree)
        (hkept _ image ⟨record, hrecord, hresolve⟩)
    · rintro hguarded command image ⟨record, hrecord, hresolve⟩
      refine (leaves_run hkeyed command).kept image (hlisted hresolve) ?_
      rw [hexisting, isProtectedReference_iff]
      rcases resolved_cases hnodup hresolve with hshares | hfound
      · exact ⟨record, hrecord, hshares⟩
      · exact hguarded record hrecord image hfound

/-- An image. -/
def appImage : StoredImage :=
  { reference := "docker.io/library/app:1", digest := "sha256:5b10f432ef3da1b2", sizeBytes := 7, pulledAt := 0,
    lastUsed := 0, path := "5b10f432ef3da1b2" }

/-- A store with it. -/
def appStore : ImageStore := .new (AList.singleton "5b10f432ef3da1b2" .nil) (some [appImage]) 100

/-- A stopped box that was made from the identifier of the image. -/
def boxById : StateDisk :=
  { records := [{ plainRecord "a" "stopped" with image := "5b10f432ef3d" }], readError := none, world := emptyWorld }

/-- **The image of a box that was made from its identifier is removed**, by both commands. -/
theorem image_by_id_removed : Resolved boxById.existing (list appStore) appImage ∧
      list ((Command.imagePrune true true).run boxById appStore) = [] ∧
      list ((Command.rmi ["app:1"] false).run boxById appStore) = [] ∧
      list ((Command.rmi ["5b10f432ef3d"] true).run boxById appStore) = [] := by
  refine ⟨⟨{ plainRecord "a" "stopped" with image := "5b10f432ef3d" }, mem_singleton_self _, ?_⟩, ?_, ?_, ?_⟩
  all_goals decide +kernel

end A3sBox.ImageUsage
