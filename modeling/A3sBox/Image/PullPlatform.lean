import A3sBox.Image.Pull

/-!
# Pulls for a platform

The digest an image is stored under is that of the first answer of the registry, the image is chosen from the second;
and what is stored is taken for every platform. What an index says of a platform is taken at its word; `platformOf` is
what a configuration says. A platform without a variant is served by each, and `arm64` is `arm64/v8`.

`pull_platform_iff`: when a pull gives an image for the platform, stored under its digest. `other_platform_pulled` are
two that do not.
-/

namespace A3sBox.Image

open DirTree Slices Text

variable {Key Sig M : Type}

/-! ### Platforms -/

/-- The platform that is asked for: Linux and the architecture of the host, if nothing else is said. -/
def requestedPlatform (hostArch : String) (platform : Option String) : Platform :=
  let architecture := resolveTargetArch hostArch platform
  match platform.map fun platform => pieces (· == '/') platform.toList with
  | some (os :: _ :: rest) => ⟨String.ofList os, architecture, rest.head?.map String.ofList⟩
  | _ => ⟨"linux", architecture, none⟩

/-- It serves another platform. -/
def Platform.Serves (offered wanted : Platform) : Prop :=
  offered.os = wanted.os ∧ offered.architecture = wanted.architecture ∧
    (wanted.variant = none ∨ offered.variant = wanted.variant ∨
      wanted.architecture = "arm64" ∧ wanted.variant = some "v8" ∧ offered.variant = none)

instance (offered wanted : Platform) : Decidable (offered.Serves wanted) := inferInstanceAs (Decidable (_ ∧ _))

/-- Some entry of an index offers a digest for a platform. -/
def Lists (entries : List IndexEntry) (wanted : Platform) (digest : String) : Prop :=
  ∃ entry ∈ entries, entry.digest = digest ∧ ∃ platform, entry.platform = some platform ∧ platform.Serves wanted

/-- The image is offered for the platform. -/
def Served.Offers (platformOf : M → Platform) (served : Served M) (wanted : Platform) (image : OciImage M) : Prop :=
  match served with
  | .image manifest => manifest = image.manifest ∧ (platformOf manifest).Serves wanted
  | .index entries => Lists entries wanted image.manifestDigest

/-- The image in a directory is for the platform, in what its reference was resolved to, which has the digest. -/
def PullState.Right (w : PullState M) (platformOf : M → Platform) (wanted : Platform) (path digest : String)
    (image : OciImage M) : Prop :=
  ∃ origin, w.origins path = some origin ∧ origin.digest = digest ∧ origin.image = image ∧
    origin.served.Offers platformOf wanted image

/-- What would be chosen is for the platform. -/
def Served.Suits (platformOf : M → Platform) (arch : String) (wanted : Platform) : Served M → Prop
  | .image manifest => (platformOf manifest).Serves wanted
  | .index entries => ∀ digest, platformResolverFor arch entries = some digest → Lists entries wanted digest

/-- The platform that is asked for. -/
def Puller.wanted (puller : Puller Key Sig M) : Platform := requestedPlatform puller.hostArch puller.platform

/-- What a pull takes from the store is right, or it downloads an image, the second answer of the registry has the
digest of the first, and what is chosen from it is for the platform. -/
def Puller.Suited (puller : Puller Key Sig M) (platformOf : M → Platform) (answers : Answers M) (w : PullState M)
    (reference : String) : Prop :=
  match puller.plan answers w.store reference with
  | none => False
  | some (.stored stored) =>
    ∃ image, puller.layouts.fromPath (w.store.dirs.lookup stored.path) = .ok image ∧
      w.Right platformOf puller.wanted stored.path stored.digest image
  | some (.download _ digest) =>
    match w.store.dirs.lookup (digestHex digest) with
    | some leftover =>
      ∃ image, puller.layouts.fromPath (some leftover) = .ok image ∧
        w.Right platformOf puller.wanted (digestHex digest) digest image
    | none =>
      ∃ served, answers.second = .ok (served, digest) ∧
        served.Suits platformOf (resolveTargetArch puller.hostArch puller.platform) puller.wanted

/-! ### What is chosen -/

variable {puller : Puller Key Sig M} {answers : Answers M} {w w' : PullState M} {reference : String}
  {pulled : Pulled M} {image : OciImage M}

theorem pullImageManifest_ok (platformOf : M → Platform)
    (h : puller.pullImageManifest answers = .ok (image.manifest, image.manifestDigest)) :
    ∃ served digest, answers.second = .ok (served, digest) ∧
      (served.Offers platformOf puller.wanted image ↔
        served.Suits platformOf (resolveTargetArch puller.hostArch puller.platform) puller.wanted) := by
  rw [Puller.pullImageManifest, Answers.pullImageManifest] at h
  split at h
  · cases h
  next manifest digest hsecond =>
    obtain ⟨hmanifest, -⟩ := Prod.mk.inj (Except.ok.inj h)
    exact ⟨_, _, hsecond, by simp only [Served.Offers, Served.Suits, hmanifest, true_and]⟩
  next entries digest hsecond =>
    refine ⟨_, _, hsecond, ?_⟩
    split at h
    · cases h
    next chosen hchosen =>
      have hdigest : chosen = image.manifestDigest := by
        split at h
        · cases h
        · exact (Prod.mk.inj (Except.ok.inj h)).2
        · cases h
      simp only [Served.Offers, Served.Suits, hchosen, Option.some.injEq, forall_eq', hdigest]

/-- **When a pull gives the image for the platform**, stored under the digest that its reference had when it was
downloaded: exactly if what it takes from the store is such an image, or both answers of the registry have one digest
and what is chosen from the second is for the platform. -/
theorem pull_platform_iff (hsound : puller.layouts.Sound) (platformOf : M → Platform)
    (h : puller.pullResolved answers w reference = (w', .ok pulled)) :
    w'.Right platformOf puller.wanted pulled.stored.path pulled.stored.digest pulled.image ↔
      puller.Suited platformOf answers w reference := by
  rcases pullResolved_ok hsound h with ⟨_, hplan, htook⟩ | ⟨_, digest, -, hplan, hdownloaded⟩
  · simp only [Puller.Suited, hplan, htook.image, htook.stored_eq, PullState.Right, htook.origin, Except.ok.injEq,
      exists_eq_left']
  · obtain ⟨_, image, hdownload, -, horigins, _, hlayout, hplace⟩ := hdownloaded.image
    simp only [Puller.Suited, hplan, hdownloaded.path_eq, hdownloaded.digest_eq, PullState.Right, horigins]
    rcases hplace with hleft | ⟨hnone, rfl⟩
    · -- a directory was left, and its origin with it
      have hmem : digestHex digest ∈ w.store.dirs := AList.lookup_isSome.mp (hleft ▸ rfl)
      simp only [hleft, PullState.originsWith, if_pos hmem, hlayout, Except.ok.injEq, exists_eq_left']
    · have hmem : digestHex digest ∉ w.store.dirs := AList.lookup_eq_none.mp hnone
      have himage : pulled.image = image := hsound.loads hlayout
      obtain ⟨served, _, hsecond, hoffers⟩ := pullImageManifest_ok platformOf (download_ok hdownload).1
      simp only [hnone, PullState.originsWith, if_neg hmem, Function.update_self, Answers.origin, hsecond,
        Option.some.injEq, exists_eq_left', Except.ok.injEq, Prod.mk.injEq, himage, true_and, hoffers]
      constructor
      · rintro ⟨rfl, hsuits⟩
        exact ⟨served, ⟨rfl, rfl⟩, hsuits⟩
      · rintro ⟨_, ⟨rfl, rfl⟩, hsuits⟩
        exact ⟨rfl, hsuits⟩

/-- An index with a manifest for each of two architectures. -/
def twoPlatforms : Served Bytes :=
  .index [⟨"sha256:01", some ⟨"linux", "amd64", none⟩⟩, ⟨"sha256:02", some ⟨"linux", "arm64", some "v8"⟩⟩]

/-- The index for another release. -/
def nextRelease : Served Bytes :=
  .index [⟨"sha256:03", some ⟨"linux", "amd64", none⟩⟩, ⟨"sha256:04", some ⟨"linux", "arm64", some "v8"⟩⟩]

/-- A pull for a platform. -/
def pullerFor (platform : String) : Puller UInt8 (UInt8 × UInt8) Bytes := toyPuller .skip (some platform)

/-- The registry with the index, which stays as it is. -/
def steadyAnswers (now : ℕ) : Answers Bytes :=
  toyAnswers now (twoPlatforms, "sha256:0a") (twoPlatforms, "sha256:0a") noSignatures

/-- The image for `linux/arm64` is pulled into an empty store. -/
theorem arm64_pulled : ((pullerFor "linux/arm64").pullResolved (steadyAnswers 1) .empty "alpine").1.Right
      (fun _ => ⟨"linux", "amd64", none⟩) ⟨"linux", "arm64", none⟩ "0a" "sha256:0a"
      ⟨"sha256:02", utf8 "sha256:02"⟩ := by
  have hok : ((pullerFor "linux/arm64").pullResolved (steadyAnswers 1) .empty "alpine").2 =
      .ok ⟨⟨"docker.io/library/alpine:latest", "sha256:0a", 9, 1, 1, "0a"⟩,
        ⟨"sha256:02", utf8 "sha256:02"⟩, "docker.io/library/alpine:latest"⟩ := rfl
  have hpull := Prod.mk.eta.symm.trans (congrArg (Prod.mk _) hok)
  refine (pull_platform_iff toyLayouts_sound (fun _ => ⟨"linux", "amd64", none⟩) hpull).mpr ?_
  refine ⟨twoPlatforms, rfl, fun digest hdigest => ?_⟩
  obtain rfl : "sha256:02" = digest := Option.some.inj hdigest
  exact ⟨_, List.mem_cons_of_mem _ List.mem_cons_self, rfl, _, rfl, by decide⟩

/-- The image for `linux/amd64` is pulled, and a pull for `linux/arm64` gives it, though the index has another. And if
the tag is moved between two requests, the image that is stored under the digest of the first is the one of the second.
-/
theorem other_platform_pulled : (∃ w₁ pulled₁ w₂ pulled₂,
      (pullerFor "linux/amd64").pullResolved (steadyAnswers 1) .empty "alpine" = (w₁, .ok pulled₁) ∧
      (pullerFor "linux/arm64").pullResolved (steadyAnswers 2) w₁ "alpine" = (w₂, .ok pulled₂) ∧
      pulled₂.image.manifestDigest = "sha256:01" ∧
      ¬ w₂.Right (fun _ => ⟨"linux", "amd64", none⟩) ⟨"linux", "arm64", none⟩ pulled₂.stored.path
        pulled₂.stored.digest pulled₂.image) ∧
    ∃ w pulled,
      (pullerFor "linux/arm64").pullResolved
        (toyAnswers 1 (twoPlatforms, "sha256:0a") (nextRelease, "sha256:0b") noSignatures) .empty "alpine" =
        (w, .ok pulled) ∧
      pulled.stored.digest = "sha256:0a" ∧ pulled.image.manifestDigest = "sha256:04" ∧
      ¬ w.Right (fun _ => ⟨"linux", "amd64", none⟩) ⟨"linux", "arm64", none⟩ pulled.stored.path
        pulled.stored.digest pulled.image := by
  refine ⟨⟨_, _, _, ⟨⟨"docker.io/library/alpine:latest", "sha256:0a", 9, 1, 2, "0a"⟩,
    ⟨"sha256:01", utf8 "sha256:01"⟩, "docker.io/library/alpine:latest"⟩, rfl, rfl, rfl, ?_⟩,
    _, ⟨⟨"docker.io/library/alpine:latest", "sha256:0a", 9, 1, 1, "0a"⟩,
    ⟨"sha256:04", utf8 "sha256:04"⟩, "docker.io/library/alpine:latest"⟩, rfl, rfl, rfl, ?_⟩
  · rintro ⟨origin, horigin, -, -, hoffers⟩
    obtain rfl : (⟨twoPlatforms, "sha256:0a", ⟨"sha256:01", utf8 "sha256:01"⟩⟩ : Origin Bytes) = origin :=
      Option.some.inj horigin
    simp [Served.Offers, twoPlatforms, Lists, Platform.Serves] at hoffers
  · rintro ⟨origin, horigin, hdigest, -⟩
    obtain rfl : (⟨nextRelease, "sha256:0b", ⟨"sha256:04", utf8 "sha256:04"⟩⟩ : Origin Bytes) = origin :=
      Option.some.inj horigin
    exact absurd hdigest (by decide)

end A3sBox.Image
