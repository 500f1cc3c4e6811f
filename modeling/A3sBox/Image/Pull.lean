import A3sBox.Image.Reference
import A3sBox.Image.Signing
import A3sBox.Image.Store

/-!
# Pulling images

`runtime/src/oci/pull.rs` and `pull` of `registry.rs`: an image is taken from the store if it is there under its
reference or digest, or under the digest that the registry says its manifest has. Otherwise the manifest is asked for
once more, for the platform, its signature is verified, and its layout is put in the store under the digest of the
first answer.

## The model

`Answers` is what a registry, or its mirror, answers to the requests of one pull; they may differ. The client follows
an index to the manifest of the platform. Writing and loading layouts are a parameter. `PullState` notes which
manifests were verified and what references were resolved to.

`pullResolved_ok`: what a pull that succeeds has done.
-/

namespace A3sBox.Image

open DirTree Slices Text
open Signing (Crates SignaturePolicy VerifyResult verifyImageSignature)

/-! ### References -/

/-- The reference is a digest. -/
def isDigestReference (reference : String) : Bool := "sha256:".toList.isPrefixOf reference.toList

/-- Whether a digest is the one that is asked for, or begins with it. -/
def digestMatches (storedDigest query : String) : Bool :=
  storedDigest == query ||
    match stripStart "sha256:".toList query.toList with
    | none => false
    | some hex => !hex.isEmpty && query.toList.isPrefixOf storedDigest.toList

/-- Add a text that is not empty and not there yet. -/
def pushUnique (values : List String) (value : String) : List String :=
  if value.isEmpty || values.contains value then values else values ++ [value]

/-- A reference without its registry. -/
def referenceFromRepository (repository : String) (tag digest : Option String) : String :=
  repository ++ (tag.map fun tag => ":" ++ tag).getD "" ++ (digest.map fun digest => "@" ++ digest).getD ""

/-- The references under which an image may be in the store. -/
def cacheReferenceCandidates (reference : String) (parsed : ImageReference) : List String :=
  let candidates := pushUnique (pushUnique [] (String.ofList (trim reference.toList))) parsed.fullReference
  let candidates :=
    if parsed.registry = "docker.io" then
      let repository := String.ofList
        ((stripStart "library/".toList parsed.repository.toList).getD parsed.repository.toList)
      let candidates := pushUnique candidates (referenceFromRepository repository parsed.tag parsed.digest)
      if parsed.digest.isNone && parsed.tag == some "latest" then pushUnique candidates repository else candidates
    else candidates
  match parsed.digest with
  | some digest => pushUnique candidates digest
  | none => candidates

/-! ### Registries and their clients -/

/-- A platform. -/
structure Platform where
  os : String
  architecture : String
  variant : Option String
  deriving DecidableEq, Repr

/-- An entry of an index of manifests. -/
structure IndexEntry where
  digest : String
  platform : Option Platform
  deriving DecidableEq, Repr

/-- What a registry has under a reference. -/
inductive Served (M : Type) where
  | image (manifest : M)
  | index (entries : List IndexEntry)

/-- What happens during one pull. -/
structure Answers (M : Type) where
  now : ℕ
  /-- The answer to the first request for the reference, with its digest. -/
  first : Except String (Served M × String)
  /-- The answer to the second request for the reference, with its digest. -/
  second : Except String (Served M × String)
  entry : String → Except String (Served M × String)
  /-- What the client says if no entry of an index is for the platform. -/
  noEntry : String
  /-- What it says if an entry of an index is an index. -/
  nested : String
  registries : Signing.Registry
  readFile : String → Except String Bytes
  /-- Why the temporary directory cannot be cleared, if it cannot. -/
  tmpError : Option BoxError
  /-- Why the directory of the blobs cannot be made, if it cannot. -/
  blobsDirError : Option String
  /-- Why the layout cannot be downloaded and written, if it cannot. -/
  contentError : Option BoxError
  interrupt : Interrupt
  /-- What the operating system says if there is nothing to copy. -/
  noSource : String

/-- The architecture that is asked for. -/
def resolveTargetArch (hostArch : String) (platform : Option String) : String :=
  let raw :=
    match platform with
    | some platform =>
      match pieces (· == '/') platform.toList with
      | _ :: arch :: _ => String.ofList arch
      | arch :: _ => String.ofList arch
      | [] => platform
    | none => hostArch
  if raw = "x86_64" then "amd64" else if raw = "aarch64" then "arm64" else raw

/-- The entry for an architecture. -/
def platformResolverFor (arch : String) (entries : List IndexEntry) : Option String :=
  (entries.find? fun entry => entry.platform.any fun p => p.os == "linux" && p.architecture == arch).map (·.digest)

/-- `pull_image_manifest`: the second request for the reference, followed to the manifest of an index. -/
def Answers.pullImageManifest {M : Type} (answers : Answers M) (resolver : List IndexEntry → Option String) :
    Except String (M × String) :=
  match answers.second with
  | .error e => .error e
  | .ok (.image manifest, digest) => .ok (manifest, digest)
  | .ok (.index entries, _) =>
    match resolver entries with
    | none => .error answers.noEntry
    | some digest =>
      match answers.entry digest with
      | .error e => .error e
      | .ok (.image manifest, _) => .ok (manifest, digest)
      | .ok (.index _, _) => .error answers.nested

/-! ### Pullers -/

/-- An image that was loaded. -/
structure OciImage (M : Type) where
  manifestDigest : String
  manifest : M
  deriving DecidableEq, Repr

/-- How layouts are written and loaded. -/
structure Layouts (M : Type) where
  /-- The layout of a manifest under a digest, with its configuration and layers. -/
  write : M → String → Dir
  fromPath : Option Dir → Except BoxError (OciImage M)

/-- What is known of layouts: where no directory is, none is loaded, and what is loaded is what was written. -/
structure Layouts.Sound {M : Type} (layouts : Layouts M) : Prop where
  missing : ∀ image, layouts.fromPath none ≠ .ok image
  loads : ∀ {manifest digest image}, layouts.fromPath (some (layouts.write manifest digest)) = .ok image →
    image = ⟨digest, manifest⟩

/-- A puller. -/
structure Puller (Key Sig M : Type) where
  crates : Crates Key Sig
  layouts : Layouts M
  signaturePolicy : SignaturePolicy
  platform : Option String
  hostArch : String
  mirrors : List (String × String)

variable {Key Sig M : Type} (puller : Puller Key Sig M)

/-- The reference at the mirror. -/
def Puller.mirrorReference (reference : ImageReference) : ImageReference :=
  match puller.mirrors.reverse.lookup reference.registry with
  | some mirror => if mirror.isEmpty then reference else { reference with registry := mirror }
  | none => reference

/-- The reference as the client takes it. -/
def Puller.toOciReference (reference : ImageReference) : Except BoxError String :=
  let text :=
    match reference.digest, reference.tag with
    | some digest, _ => reference.registry ++ "/" ++ reference.repository ++ "@" ++ digest
    | none, some tag => reference.registry ++ "/" ++ reference.repository ++ ":" ++ tag
    | none, none => reference.registry ++ "/" ++ reference.repository ++ ":latest"
  match puller.crates.parseReference text with
  | .ok () => .ok text
  | .error e => .error (.ociImageError s!"Invalid OCI reference '{text}': {e}")

/-- How a result that does not let an image through is reported. -/
def refusal (reference : ImageReference) (result : VerifyResult) : BoxError :=
  let repository := reference.repository
  let tag := reference.tag.getD "latest"
  .registryError reference.registry
    (match result with
      | .noSignature => s!"Image {repository}:{tag} has no signature and policy requires verification"
      | .failed message => s!"Image signature verification failed for {repository}:{tag}: {message}"
      | _ => "Signature verification failed")

variable (answers : Answers M)

/-- `pull_image_manifest` of the registry that a puller asks. -/
def Puller.pullImageManifest : Except String (M × String) :=
  answers.pullImageManifest (platformResolverFor (resolveTargetArch puller.hostArch puller.platform))

/-- A manifest for which `verify_image_signature` has given `Verified`. -/
structure Check (M : Type) where
  policy : SignaturePolicy
  registry : String
  repository : String
  image : OciImage M

/-- Download an image: the manifests that were verified, and the image. -/
def Puller.download (reference : ImageReference) : List (Check M) × Except (Fault BoxError) (OciImage M) :=
  match puller.toOciReference reference with
  | .error e => ([], .error (.error e))
  | .ok _ =>
    match answers.blobsDirError with
    | some e => ([], .error (.error (.registryError reference.registry s!"Failed to create blobs directory: {e}")))
    | none =>
      match puller.pullImageManifest answers with
      | .error e => ([], .error (.error (.registryError reference.registry s!"Failed to pull manifest: {e}")))
      | .ok (manifest, digest) =>
        match verifyImageSignature puller.crates answers.readFile answers.registries puller.signaturePolicy
            reference.registry reference.repository digest with
        | none => ([], .error .panic)
        | some result =>
          let checks : List (Check M) :=
            if result = .verified then
              [⟨puller.signaturePolicy, reference.registry, reference.repository, ⟨digest, manifest⟩⟩]
            else []
          if result.isOk then
            match answers.contentError with
            | some e => (checks, .error (.error e))
            | none => (checks, .ok ⟨digest, manifest⟩)
          else (checks, .error (.error (refusal reference result)))

/-- `pull_manifest_digest`: the first request for a reference. -/
def Puller.pullManifestDigest (reference : ImageReference) : Except BoxError String :=
  match puller.toOciReference reference with
  | .error e => .error e
  | .ok _ =>
    match answers.first with
    | .error e => .error (.registryError reference.registry s!"Failed to pull manifest: {e}")
    | .ok (_, digest) => .ok digest

/-! ### The store -/

variable (store : ImageStore)

/-- Get an image by its digest, and note when it was used. -/
def ImageStore.getByDigest (digest : String) (now : ℕ) : ImageStore × Option StoredImage :=
  match store.index.entries.find? fun entry => entry.2.digest == digest with
  | none => (store, none)
  | some entry =>
    let updated := { entry.2 with lastUsed := now }
    ({ store with index := store.index.insert entry.1 updated }.saveIndexInner, some updated)

/-- Store an image from another directory of the store. If there is none, the copy makes a directory and fails. -/
def ImageStore.putFrom (reference digest path : String) (interrupt : Interrupt) (now : ℕ)
    (noSource : String) : ImageStore × Except BoxError StoredImage :=
  match store.dirs.lookup path with
  | some source => store.put reference digest source interrupt now
  | none =>
    if digestHex digest ∈ store.dirs then store.put reference digest .nil none now
    else
      match interrupt with
      | some (0, message) => (store, .error (.ociImageError s!"Failed to copy image to store: {message}"))
      | _ =>
        ({ store with dirs := store.dirs.insert (digestHex digest) .nil },
          .error (.ociImageError s!"Failed to copy image to store: {noSource}"))

/-- The images whose digest is asked for, each reference once. -/
def digestMatchesOf (images : List StoredImage) (digest : String) : List StoredImage :=
  images.foldl (fun matched image =>
    if (digestMatches image.digest digest || image.reference == digest) &&
        !matched.any fun other => other.reference == image.reference then matched ++ [image] else matched) []

/-- How it is reported that a digest matches several images. -/
def ambiguousDigestError (query : String) (matched : List StoredImage) : String :=
  let references := String.intercalate ", "
    ((matched.map (·.reference)).mergeSort fun a b => decide (utf8 a ≤ utf8 b))
  s!"Image digest '{query}' is ambiguous; it matches: {references}"

/-- Find an image by its digest, or by the beginning of it. -/
def cachedDigestImage (now : ℕ) (digest : String) : ImageStore × Except BoxError (Option (String × StoredImage)) :=
  match digestMatchesOf store.index.images digest with
  | [] => (store, .ok none)
  | [image] =>
    let (store, found) := store.get image.reference now
    let image := found.getD image
    (store, .ok (some (image.reference, image)))
  | images => (store, .error (.ociImageError (ambiguousDigestError digest images)))

/-- The first of some references under which an image is in the store. -/
def firstCached (now : ℕ) : ImageStore → List String → ImageStore × Option (String × StoredImage)
  | store, [] => (store, none)
  | store, candidate :: candidates =>
    match store.get candidate now with
    | (store, some image) => (store, some (candidate, image))
    | (store, none) => firstCached now store candidates

/-- The image in the store. -/
def cachedImage (now : ℕ) (reference : String) (parsed : ImageReference) :
    ImageStore × Except BoxError (Option (String × StoredImage)) :=
  match firstCached now store (cacheReferenceCandidates reference parsed) with
  | (store, some found) => (store, .ok (some found))
  | (store, none) =>
    match parsed.digest with
    | some digest => cachedDigestImage store now digest
    | none => (store, .ok none)

/-! ### A pull -/

/-- Where a directory of the store comes from. -/
structure Origin (M : Type) where
  /-- What the reference was resolved to when the directory was downloaded. -/
  served : Served M
  digest : String
  image : OciImage M

/-- Where an image that is downloaded now comes from. -/
def Answers.origin (image : OciImage M) : Option (Origin M) :=
  match answers.second with
  | .ok (served, digest) => some ⟨served, digest, image⟩
  | .error _ => none

/-- The store, and a record of earlier pulls. -/
structure PullState (M : Type) where
  store : ImageStore
  checks : List (Check M)
  origins : String → Option (Origin M)

variable (w : PullState M)

/-- The origins after a `put` of a digest: that of its directory is new unless there was one. -/
def PullState.originsWith (digest : String) (origin : Option (Origin M)) : String → Option (Origin M) :=
  if digestHex digest ∈ w.store.dirs then w.origins else Function.update w.origins (digestHex digest) origin

/-- What a pull gives: what is stored, the image, and the reference under which it is stored. -/
structure Pulled (M : Type) where
  stored : StoredImage
  image : OciImage M
  reference : String

/-- Load an image of the store. -/
def Puller.load (stored : StoredImage) (reference : String) : Except (Fault BoxError) (Pulled M) :=
  match puller.layouts.fromPath (store.dirs.lookup stored.path) with
  | .ok image => .ok ⟨stored, image, reference⟩
  | .error e => .error (.error e)

/-- Take an image of the digest from the store, under a new reference. -/
def Puller.reuse (fullRef digest : String) (stored : StoredImage) : PullState M × Except (Fault BoxError) (Pulled M) :=
  let origins := w.originsWith digest (w.origins stored.path)
  match w.store.putFrom fullRef digest stored.path answers.interrupt answers.now answers.noSource with
  | (store, .error e) => ({ w with store, origins }, .error (.error e))
  | (store, .ok _) => ({ w with store, origins }, puller.load store stored fullRef)

/-- Put an image that was downloaded in the store, and evict others. -/
def Puller.storeImage (fullRef digest : String)
    (image : OciImage M) : PullState M × Except (Fault BoxError) (Pulled M) :=
  let origins := w.originsWith digest (answers.origin image)
  let layout := puller.layouts.write image.manifest image.manifestDigest
  match w.store.put fullRef digest layout answers.interrupt answers.now with
  | (store, .error e) => ({ w with store, origins }, .error (.error e))
  | (store, .ok stored) =>
    match store.evict with
    | (store, .error e) => ({ w with store, origins }, .error (.error e))
    | (store, .ok _) => ({ w with store, origins }, puller.load store stored fullRef)

/-- Pull an image from its registry and store it. -/
def Puller.pullAndStore (reference : ImageReference) : PullState M × Except (Fault BoxError) (Pulled M) :=
  let fullRef := reference.fullReference
  let fetch := puller.mirrorReference reference
  match puller.pullManifestDigest answers fetch with
  | .error e => (w, .error (.error e))
  | .ok digest =>
    match w.store.getByDigest digest answers.now with
    | (store, some stored) => puller.reuse answers { w with store } fullRef digest stored
    | (store, none) =>
      match answers.tmpError with
      | some e => ({ w with store }, .error (.error e))
      | none =>
        match puller.download answers fetch with
        | (checks, .error e) => ({ w with store, checks := checks ++ w.checks }, .error e)
        | (checks, .ok image) =>
          puller.storeImage answers { w with store, checks := checks ++ w.checks } fullRef digest image

/-- Pull an image, from the store if it is there. -/
def Puller.pullResolved (w : PullState M) (reference : String) : PullState M × Except (Fault BoxError) (Pulled M) :=
  let reference := String.ofList (trim reference.toList)
  if isDigestReference reference then
    match cachedDigestImage w.store answers.now reference with
    | (store, .error e) => ({ w with store }, .error (.error e))
    | (store, .ok none) =>
      ({ w with store }, .error (.error (.ociImageError s!"Image digest not found in local cache: {reference}")))
    | (store, .ok (some (matched, stored))) => ({ w with store }, puller.load store stored matched)
  else
    match ImageReference.parse reference with
    | .error e => (w, .error (.error e))
    | .ok parsed =>
      match cachedImage w.store answers.now reference parsed with
      | (store, .error e) => ({ w with store }, .error (.error e))
      | (store, .ok (some (matched, stored))) => ({ w with store }, puller.load store stored matched)
      | (store, .ok none) => puller.pullAndStore answers { w with store } parsed

/-! ### Looking things up in the store -/

theorem get_dirs (store : ImageStore) (reference : String) (now : ℕ) :
    (store.get reference now).1.dirs = store.dirs := by
  rw [ImageStore.get]
  split <;> rfl

variable {store store' : ImageStore} {now : ℕ} {digest path matched fullRef : String} {dirs : Dirs} {layout : Dir}
  {interrupt : Interrupt} {stored : StoredImage} {reference : String}

theorem get_none (h : (store.get reference now).2 = none) : (store.get reference now).1 = store := by
  rw [ImageStore.get] at h ⊢
  split at h
  · rfl
  · cases h

theorem cachedDigestImage_dirs (store : ImageStore) (now : ℕ) (digest : String) :
    (cachedDigestImage store now digest).1.dirs = store.dirs := by
  rw [cachedDigestImage]
  split
  · rfl
  · exact get_dirs _ _ _
  · rfl

theorem firstCached_dirs (now : ℕ) (store : ImageStore) (candidates : List String) :
    (firstCached now store candidates).1.dirs = store.dirs := by
  induction candidates generalizing store with
  | nil => rfl
  | cons candidate _ ih =>
    have hdirs := get_dirs store candidate now
    rw [firstCached]
    split
    next hget => rwa [hget] at hdirs
    next hget =>
      rw [hget] at hdirs
      exact (ih _).trans hdirs

theorem firstCached_none {candidates} (h : (firstCached now store candidates).2 = none) :
    (firstCached now store candidates).1 = store := by
  induction candidates generalizing store with
  | nil => rfl
  | cons _ _ ih =>
    rw [firstCached] at h ⊢
    split at h
    · cases h
    next store' hget =>
      have hsame : store' = store := by simpa only [hget] using get_none (congrArg Prod.snd hget)
      subst hsame
      exact ih h

theorem cachedImage_dirs (store) (now) (reference) (parsed : ImageReference) :
    (cachedImage store now reference parsed).1.dirs = store.dirs := by
  have hdirs := firstCached_dirs now store (cacheReferenceCandidates reference parsed)
  rw [cachedImage]
  split
  next hfirst => rwa [hfirst] at hdirs
  next hfirst =>
    rw [hfirst] at hdirs
    split
    · exact (cachedDigestImage_dirs _ _ _).trans hdirs
    · exact hdirs

theorem cachedImage_none {parsed} (h : (cachedImage store now reference parsed).2 = .ok none) :
    (cachedImage store now reference parsed).1 = store := by
  rw [cachedImage] at h ⊢
  split at h
  · cases h
  next store' hfirst =>
    have hsame : store' = store := by simpa only [hfirst] using firstCached_none (congrArg Prod.snd hfirst)
    subst hsame
    split at h
    · rw [cachedDigestImage] at h ⊢
      split at h
      · rfl
      · cases h
      · cases h
    · rfl

/-! ### Directories -/

theorem lookup_of_deleteUnused {index removed}
    (h : (dirs.deleteUnused index removed).lookup path = some layout) : dirs.lookup path = some layout := by
  induction removed generalizing dirs with
  | nil => exact h
  | cons _ _ ih =>
    rw [Dirs.deleteUnused] at h
    split_ifs at h
    · exact ih h
    · exact Totals.lookup_of_erase (ih h)

theorem lookup_of_remove {image} (h : (store.remove image).1.dirs.lookup path = some layout) :
    store.dirs.lookup path = some layout := by
  rw [ImageStore.remove] at h
  split at h
  · exact h
  · exact lookup_of_deleteUnused h

theorem lookup_of_evictLoop {fuel} (h : (store.evictLoop fuel).1.dirs.lookup path = some layout) :
    store.dirs.lookup path = some layout := by
  induction fuel generalizing store with
  | zero => exact h
  | succ _ ih =>
    rw [ImageStore.evictLoop] at h
    split_ifs at h
    · split at h
      · exact h
      next lru _ =>
        have hremove := @lookup_of_remove store path layout lru.reference
        rcases hr : store.remove lru.reference with ⟨_, _ | ⟨⟨⟩⟩⟩
        · rw [hr] at h hremove
          exact hremove h
        · rw [hr] at h hremove
          exact hremove (ih h)
    · exact h

theorem put_ok {source} (h : store.put reference digest source interrupt now = (store', .ok stored)) :
    stored.digest = digest ∧ stored.path = digestHex digest ∧
      store'.dirs = (store.dirs.ensure digest source interrupt).1 ∧
      (digestHex digest ∈ store.dirs ∨ store'.dirs.lookup (digestHex digest) = some source) := by
  have hensure := @ensure_ok store.dirs digest source interrupt
  rw [ImageStore.put] at h
  rcases he : store.dirs.ensure digest source interrupt with ⟨_, _ | ⟨⟨⟩⟩⟩
  · rw [he] at h
    cases h
  · rw [he] at h hensure
    obtain ⟨rfl, hstored⟩ := Prod.mk.inj h
    obtain rfl := Except.ok.inj hstored
    exact ⟨rfl, rfl, rfl, hensure rfl⟩

/-- A `put` from another directory leaves that directory as it is. -/
theorem putFrom_ok {noSource} (h : store.putFrom reference digest path interrupt now noSource = (store', .ok stored)) :
    store'.dirs.lookup path = store.dirs.lookup path := by
  unfold ImageStore.putFrom at h
  split at h
  next source hsource =>
    rw [(put_ok h).2.2.1, hsource]
    exact ensure_lookup hsource
  next hsource =>
    by_cases hmem : digestHex digest ∈ store.dirs
    · rw [if_pos hmem] at h
      rw [(put_ok h).2.2.1, Dirs.ensure, if_pos hmem]
    · rw [if_neg hmem] at h
      rcases interrupt with _ | ⟨_ | _, _⟩ <;> cases h

/-! ### What a pull does -/

/-- What a pull is going to do. -/
inductive Plan where
  | stored (image : StoredImage)
  | download (reference : ImageReference) (digest : String)

/-- What a pull is going to do, as the store and the first answer of the registry say. -/
def Puller.plan (store : ImageStore) (reference : String) : Option Plan :=
  let reference := String.ofList (trim reference.toList)
  if isDigestReference reference then
    match (cachedDigestImage store answers.now reference).2 with
    | .ok (some (_, stored)) => some (.stored stored)
    | _ => none
  else
    match ImageReference.parse reference with
    | .error _ => none
    | .ok parsed =>
      match (cachedImage store answers.now reference parsed).2 with
      | .error _ => none
      | .ok (some (_, stored)) => some (.stored stored)
      | .ok none =>
        match puller.pullManifestDigest answers (puller.mirrorReference parsed) with
        | .error _ => none
        | .ok digest =>
          match (store.getByDigest digest answers.now).2 with
          | some stored => some (.stored stored)
          | none => some (.download parsed digest)

variable {puller : Puller Key Sig M} {answers : Answers M} {w w' : PullState M} {reference : String}
  {parsed : ImageReference} {pulled : Pulled M}

/-- What a pull that takes something stored leaves. -/
structure Puller.Took (puller : Puller Key Sig M) (w : PullState M) (stored : StoredImage) (w' : PullState M)
    (pulled : Pulled M) : Prop where
  stored_eq : pulled.stored = stored
  image : puller.layouts.fromPath (w.store.dirs.lookup stored.path) = .ok pulled.image
  checks : w'.checks = w.checks
  origin : w'.origins stored.path = w.origins stored.path

/-- What a pull that downloads an image leaves. -/
structure Puller.Downloaded (puller : Puller Key Sig M) (answers : Answers M) (w : PullState M)
    (parsed : ImageReference) (digest : String) (w' : PullState M) (pulled : Pulled M) : Prop where
  digest_eq : pulled.stored.digest = digest
  path_eq : pulled.stored.path = digestHex digest
  image : ∃ checks image, puller.download answers (puller.mirrorReference parsed) = (checks, .ok image) ∧
    w'.checks = checks ++ w.checks ∧ w'.origins = w.originsWith digest (answers.origin image) ∧
    ∃ layout, puller.layouts.fromPath (some layout) = .ok pulled.image ∧
      (w.store.dirs.lookup (digestHex digest) = some layout ∨
        w.store.dirs.lookup (digestHex digest) = none ∧
          layout = puller.layouts.write image.manifest image.manifestDigest)

variable {image : OciImage M}

theorem download_ok {fetch checks} (h : puller.download answers fetch = (checks, .ok image)) :
    puller.pullImageManifest answers = .ok (image.manifest, image.manifestDigest) ∧
      ∃ result, verifyImageSignature puller.crates answers.readFile answers.registries puller.signaturePolicy
          fetch.registry fetch.repository image.manifestDigest = some result ∧ result.isOk = true ∧
        checks = if result = .verified then
          [⟨puller.signaturePolicy, fetch.registry, fetch.repository, image⟩] else [] := by
  rw [Puller.download] at h
  split at h
  · cases h
  split at h
  · cases h
  split at h
  · cases h
  next manifest digest hmanifest =>
    split at h
    · cases h
    next result hresult =>
      by_cases hok : result.isOk = true
      · simp only [if_pos hok] at h
        split at h
        · cases h
        · obtain ⟨hchecks, himage⟩ := Prod.mk.inj h
          obtain rfl := Except.ok.inj himage
          exact ⟨hmanifest, result, hresult, hok, hchecks.symm⟩
      · simp only [if_neg hok] at h
        cases h

theorem load_ok (h : puller.load store stored matched = .ok pulled) :
    pulled.stored = stored ∧ puller.layouts.fromPath (store.dirs.lookup stored.path) = .ok pulled.image := by
  rw [Puller.load] at h
  split at h
  next himage =>
    obtain rfl := Except.ok.inj h
    exact ⟨rfl, himage⟩
  · cases h

theorem reuse_ok (h : puller.reuse answers w fullRef digest stored = (w', .ok pulled)) :
    puller.Took w stored w' pulled := by
  rw [Puller.reuse] at h
  split at h
  · cases h
  next store _ hput =>
    obtain ⟨rfl, hload⟩ := Prod.mk.inj h
    obtain ⟨hstored, himage⟩ := load_ok hload
    refine ⟨hstored, (putFrom_ok hput) ▸ himage, rfl, ?_⟩
    simp only [PullState.originsWith]
    split_ifs
    · rfl
    · by_cases hpath : stored.path = digestHex digest
      · rw [hpath, Function.update_self]
      · rw [Function.update_of_ne hpath]

theorem Layouts.Sound.exists_layout {layouts : Layouts M} (hsound : layouts.Sound)
    (h : layouts.fromPath (dirs.lookup path) = .ok image) :
    ∃ layout, dirs.lookup path = some layout ∧ layouts.fromPath (some layout) = .ok image := by
  rcases hdir : dirs.lookup path with _ | layout
  · rw [hdir] at h
    exact absurd h (hsound.missing image)
  · exact ⟨layout, rfl, hdir ▸ h⟩

theorem storeImage_ok (hsound : puller.layouts.Sound)
    (h : puller.storeImage answers w fullRef digest image = (w', .ok pulled)) :
    pulled.stored.digest = digest ∧ pulled.stored.path = digestHex digest ∧ w'.checks = w.checks ∧
      w'.origins = w.originsWith digest (answers.origin image) ∧
      ∃ layout, puller.layouts.fromPath (some layout) = .ok pulled.image ∧
        (w.store.dirs.lookup (digestHex digest) = some layout ∨
          w.store.dirs.lookup (digestHex digest) = none ∧
            layout = puller.layouts.write image.manifest image.manifestDigest) := by
  rw [Puller.storeImage] at h
  split at h
  · cases h
  next store stored hput =>
    split at h
    · cases h
    next store' _ hevict =>
      obtain ⟨rfl, hload⟩ := Prod.mk.inj h
      obtain ⟨hstored, himage⟩ := load_ok hload
      obtain ⟨hdigest, hpath, hdirs, hcopied⟩ := put_ok hput
      obtain ⟨layout, hlayout, himage⟩ := hsound.exists_layout himage
      have hlayout : store.dirs.lookup (digestHex digest) = some layout := by
        have hbefore := @lookup_of_evictLoop store stored.path layout store.index.entries.length
        change store.evictLoop store.index.entries.length = _ at hevict
        rw [hevict, hpath] at hbefore
        exact hbefore (hpath ▸ hlayout)
      refine ⟨hstored ▸ hdigest, hstored ▸ hpath, rfl, rfl, layout, himage, ?_⟩
      rcases hold : w.store.dirs.lookup (digestHex digest) with _ | _
      · have hmem : digestHex digest ∉ w.store.dirs := AList.lookup_eq_none.mp hold
        exact .inr ⟨rfl, Option.some.inj (hlayout.symm.trans (hcopied.resolve_left hmem))⟩
      · rw [hdirs, ensure_lookup hold] at hlayout
        exact .inl hlayout

theorem getByDigest_none (h : (store.getByDigest digest now).2 = none) : (store.getByDigest digest now).1 = store := by
  rw [ImageStore.getByDigest] at h ⊢
  split at h
  · rfl
  · cases h

theorem pullAndStore_ok (hsound : puller.layouts.Sound) (h : puller.pullAndStore answers w parsed = (w', .ok pulled)) :
    ∃ digest, puller.pullManifestDigest answers (puller.mirrorReference parsed) = .ok digest ∧
      ((∃ stored, (w.store.getByDigest digest answers.now).2 = some stored ∧ puller.Took w stored w' pulled) ∨
        ((w.store.getByDigest digest answers.now).2 = none ∧
          puller.Downloaded answers w parsed digest w' pulled)) := by
  rw [Puller.pullAndStore] at h
  split at h
  · cases h
  next digest hfirst =>
    refine ⟨digest, hfirst, ?_⟩
    have hdirs : (w.store.getByDigest digest answers.now).1.dirs = w.store.dirs := by
      rw [ImageStore.getByDigest]
      split <;> rfl
    split at h
    next store stored hget =>
      rw [hget] at hdirs ⊢
      have htook := reuse_ok h
      exact .inl ⟨stored, rfl, htook.stored_eq, hdirs ▸ htook.image, htook.checks, htook.origin⟩
    next store hget =>
      have hsame : store = w.store := by simpa only [hget] using getByDigest_none (congrArg Prod.snd hget)
      subst hsame
      split at h
      · cases h
      split at h
      · cases h
      next checks image hdownload =>
        obtain ⟨hdigest, hpath, hchecks, horigins, himage⟩ := storeImage_ok hsound h
        exact .inr ⟨congrArg Prod.snd hget, hdigest, hpath, checks, image, hdownload, hchecks, horigins, himage⟩

theorem took_of_load (hdirs : store.dirs = w.store.dirs)
    (h : (({ w with store } : PullState M), puller.load store stored matched) = (w', .ok pulled)) :
    puller.Took w stored w' pulled := by
  obtain ⟨rfl, hload⟩ := Prod.mk.inj h
  obtain ⟨hstored, himage⟩ := load_ok hload
  exact ⟨hstored, hdirs ▸ himage, rfl, rfl⟩

/-- **A pull that succeeds** has taken an image from the store, or has downloaded one. -/
theorem pullResolved_ok (hsound : puller.layouts.Sound)
    (h : puller.pullResolved answers w reference = (w', .ok pulled)) :
    (∃ stored, puller.plan answers w.store reference = some (.stored stored) ∧ puller.Took w stored w' pulled) ∨
      ∃ parsed digest, ImageReference.parse (String.ofList (trim reference.toList)) = .ok parsed ∧
        puller.plan answers w.store reference = some (.download parsed digest) ∧
        puller.Downloaded answers w parsed digest w' pulled := by
  simp only [Puller.pullResolved] at h
  simp only [Puller.plan]
  by_cases hdigest : isDigestReference (String.ofList (trim reference.toList)) = true
  · rw [if_pos hdigest] at h
    have hdirs := cachedDigestImage_dirs w.store answers.now (String.ofList (trim reference.toList))
    split at h
    · cases h
    · cases h
    next hcached =>
      rw [hcached] at hdirs
      simp only [if_pos hdigest, hcached]
      exact .inl ⟨_, rfl, took_of_load hdirs h⟩
  · rw [if_neg hdigest] at h
    simp only [if_neg hdigest]
    split at h
    · cases h
    next parsed hparsed =>
      have hdirs := cachedImage_dirs w.store answers.now (String.ofList (trim reference.toList)) parsed
      simp only [hparsed]
      split at h
      · cases h
      next hcached =>
        rw [hcached] at hdirs
        simp only [hcached]
        exact .inl ⟨_, rfl, took_of_load hdirs h⟩
      next store hcached =>
        have hsame : store = w.store := by simpa only [hcached] using cachedImage_none (congrArg Prod.snd hcached)
        subst hsame
        obtain ⟨digest, hfirst, ⟨stored, hget, htook⟩ | ⟨hget, hdownloaded⟩⟩ := pullAndStore_ok hsound h
        · simp only [hcached, hfirst, hget]
          exact .inl ⟨stored, rfl, htook⟩
        · simp only [hcached, hfirst, hget]
          exact .inr ⟨parsed, digest, rfl, rfl, hdownloaded⟩

/-! ### A toy puller -/

/-- Layouts with the manifest in one file, that is named by its digest. -/
def toyLayouts : Layouts Bytes where
  write manifest digest := .sub "blobs" (.file digest manifest .nil) .nil
  fromPath
    | some (.sub "blobs" (.file digest manifest .nil) .nil) => .ok ⟨digest, manifest⟩
    | _ => .error (.ociImageError "OCI layout not found")

theorem toyLayouts_sound : toyLayouts.Sound where
  missing image := by simp [toyLayouts]
  loads h := by
    exact (Except.ok.inj h).symm

/-- A puller on a host with `x86_64`. -/
def toyPuller (policy : SignaturePolicy) (platform : Option String) : Puller UInt8 (UInt8 × UInt8) Bytes where
  crates := Signing.toyCrates
  layouts := toyLayouts
  signaturePolicy := policy
  platform
  hostArch := "x86_64"
  mirrors := []

/-- A registry that answers two requests. The manifest of each digest is the text of that. -/
def toyAnswers (now : ℕ) (first second : Served Bytes × String) (registries : Signing.Registry) : Answers Bytes where
  now
  first := .ok first
  second := .ok second
  entry digest := .ok (.image (utf8 digest), digest)
  noEntry := "no entry found in image index manifest matching client's default platform"
  nested := "received Image Index from lookup by digest"
  registries
  readFile _ := .ok (utf8 "-----BEGIN PUBLIC KEY-----\n01\n-----END PUBLIC KEY-----\n")
  tmpError := none
  blobsDirError := none
  contentError := none
  interrupt := none
  noSource := "No such file or directory"

/-- A registry without signatures. -/
def noSignatures : Signing.Registry := ⟨fun _ => .notFound, fun _ => .error "not found"⟩

/-- An empty store, that has room for a thousand bytes. -/
def PullState.empty : PullState Bytes := ⟨.new ∅ none 1000, [], fun _ => none⟩

end A3sBox.Image
