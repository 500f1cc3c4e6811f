import A3sBox.Image.Pull

/-!
# Pulls that require a signature

Only a download is verified: an image in the store is taken as it is, whoever has put it there, and so is a directory
that an interrupted pull has left. `pull_verified_iff`: when a pull with a policy gives a verified image.
`unverified_pull`: after a pull without a policy it gives one that nobody has signed.
-/

namespace A3sBox.Image

open DirTree Slices Text List
open Signing (SignaturePolicy VerifyResult verifyImageSignature)

variable {Key Sig M : Type}

/-- The image was verified under the policy, for the repository that a reference names, at its registry or at the
mirror of that. A reference that is only a digest names no repository. -/
def Puller.VerifiedFor (puller : Puller Key Sig M) (checks : List (Check M)) (reference : String)
    (image : OciImage M) : Prop :=
  ∃ check ∈ checks, check.policy = puller.signaturePolicy ∧ check.image = image ∧
    (isDigestReference (String.ofList (trim reference.toList)) = true ∨
      ∃ parsed, ImageReference.parse (String.ofList (trim reference.toList)) = .ok parsed ∧
        check.repository = parsed.repository ∧
        (check.registry = parsed.registry ∨ check.registry = (puller.mirrorReference parsed).registry))

/-- What a pull takes from the store was verified before, or it downloads an image, and in its place there is
nothing or the same image or one that was verified before. -/
def Puller.Vouched (puller : Puller Key Sig M) (answers : Answers M) (w : PullState M) (reference : String) : Prop :=
  match puller.plan answers w.store reference with
  | none => False
  | some (.stored stored) =>
    ∃ image, puller.layouts.fromPath (w.store.dirs.lookup stored.path) = .ok image ∧
      puller.VerifiedFor w.checks reference image
  | some (.download _ digest) =>
    ∀ leftover, w.store.dirs.lookup (digestHex digest) = some leftover →
      ∃ image, puller.layouts.fromPath (some leftover) = .ok image ∧
        (puller.VerifiedFor w.checks reference image ∨
          puller.pullImageManifest answers = .ok (image.manifest, image.manifestDigest))

/-! ### What is verified -/

section
variable {crates : Signing.Crates Key Sig} {readFile : String → Except String Bytes} {registries : Signing.Registry}
  {policy : SignaturePolicy} {registry repository digest : String} {result : VerifyResult}

theorem verifyLayer_ne_skipped (failure : String) (key layerData : Bytes) :
    Signing.verifyLayer crates failure key layerData digest ≠ .skipped := by
  intro h
  simp only [Signing.verifyLayer] at h
  repeat' split at h
  all_goals cases h

/-- A policy that requires a signature lets an image through only if it is verified. -/
theorem verified_of_isOk (hpolicy : policy ≠ .skip)
    (h : verifyImageSignature crates readFile registries policy registry repository digest = some result)
    (hok : result.isOk = true) : result = .verified := by
  have hskipped : result ≠ .skipped := by
    rintro rfl
    cases policy with
    | skip => exact hpolicy rfl
    | cosignKey =>
      simp only [verifyImageSignature, Signing.verifyCosignKey] at h
      repeat' split at h
      all_goals first
        | exact verifyLayer_ne_skipped _ _ _ (Option.some.inj h)
        | cases h
    | cosignKeyless =>
      simp only [verifyImageSignature, Signing.verifyCosignKeyless] at h
      repeat' split at h
      all_goals first
        | exact verifyLayer_ne_skipped _ _ _ (Option.some.inj h)
        | cases h
  cases result with
  | verified => rfl
  | skipped => exact absurd rfl hskipped
  | noSignature => cases hok
  | failed => cases hok

end

variable {puller : Puller Key Sig M} {answers : Answers M} {w w' : PullState M} {reference : String}
  {parsed : ImageReference} {pulled : Pulled M} {checks : List (Check M)} {image : OciImage M}

theorem verifiedFor_fetch {other}
    (hparsed : ImageReference.parse (String.ofList (trim reference.toList)) = .ok parsed) :
    puller.VerifiedFor (⟨puller.signaturePolicy, (puller.mirrorReference parsed).registry,
      (puller.mirrorReference parsed).repository, image⟩ :: checks) reference other ↔
        image = other ∨ puller.VerifiedFor checks reference other := by
  have hrepository : (puller.mirrorReference parsed).repository = parsed.repository := by
    rw [Puller.mirrorReference]
    split
    · split_ifs <;> rfl
    · rfl
  constructor
  · rintro ⟨check, hcheck, hrest⟩
    rcases mem_cons.mp hcheck with rfl | hmem
    · exact .inl hrest.2.1
    · exact .inr ⟨check, hmem, hrest⟩
  · rintro (rfl | ⟨check, hmem, hrest⟩)
    · exact ⟨_, mem_cons_self, rfl, rfl, .inr ⟨parsed, hparsed, hrepository, .inr rfl⟩⟩
    · exact ⟨check, mem_cons_of_mem _ hmem, hrest⟩

/-- **When a pull gives a verified image**: one whose policy requires a signature, and that succeeds, gives an image
that was verified under that policy for the repository exactly if what it takes from the store was verified before, or
it downloads the image and nothing else is in its place. -/
theorem pull_verified_iff (hsound : puller.layouts.Sound) (hpolicy : puller.signaturePolicy ≠ .skip)
    (h : puller.pullResolved answers w reference = (w', .ok pulled)) :
    puller.VerifiedFor w'.checks reference pulled.image ↔ puller.Vouched answers w reference := by
  rcases pullResolved_ok hsound h with ⟨_, hplan, htook⟩ | ⟨_, _, hparsed, hplan, hdownloaded⟩
  · simp [Puller.Vouched, hplan, htook.checks, htook.image]
  · obtain ⟨_, image, hdownload, hchecks, -, _, hlayout, hplace⟩ := hdownloaded.image
    obtain ⟨hmanifest, _, hresult, hok, hverified⟩ := download_ok hdownload
    rw [verified_of_isOk hpolicy hresult hok, if_pos rfl] at hverified
    subst hverified
    simp only [Puller.Vouched, hplan]
    rw [hchecks, singleton_append, verifiedFor_fetch hparsed]
    rcases hplace with hleft | ⟨hnone, rfl⟩
    · -- a directory was left: the image is the one in it
      have hsame : puller.pullImageManifest answers = .ok (pulled.image.manifest, pulled.image.manifestDigest) ↔
          image = pulled.image := by
        rw [hmanifest, Except.ok.injEq, Prod.mk.injEq]
        exact ⟨fun heq => by cases image; cases pulled; simp_all, fun heq => heq ▸ ⟨rfl, rfl⟩⟩
      simp only [hleft, Option.some.injEq, forall_eq', hlayout, Except.ok.injEq, exists_eq_left', hsame]
      exact or_comm
    · -- the image is the one that was downloaded
      simp only [hnone, reduceCtorEq, false_implies, implies_true, iff_true]
      exact .inl (hsound.loads hlayout).symm

/-- Bytes as a text of hexadecimal digits. -/
def hexText (bytes : Bytes) : Bytes := utf8 (String.ofList (bytes.flatMap fun b => hex2 b.toNat))

/-- A registry with a signature of a digest, made with the key `1`. -/
def signatureOf (digest : String) : Signing.Registry :=
  ⟨fun _ => .manifest none [none],
    fun _ => .ok (Signing.writeFields [hexText (utf8 digest), hexText [1, (utf8 digest).sum]])⟩

/-- A registry with one image, whatever it has of signatures. -/
def alpineAnswers (now : ℕ) (registries : Signing.Registry) : Answers Bytes :=
  toyAnswers now (.image [7], "sha256:0a") (.image [7], "sha256:0a") registries

/-- A signed image that is not in the store is verified. -/
theorem signed_pull_verified : (toyPuller (.cosignKey "cosign.pub") none).VerifiedFor
      ((toyPuller (.cosignKey "cosign.pub") none).pullResolved (alpineAnswers 1 (signatureOf "sha256:0a")) .empty
        "alpine").1.checks "alpine" ⟨"sha256:0a", [7]⟩ := by
  have hok : ((toyPuller (.cosignKey "cosign.pub") none).pullResolved (alpineAnswers 1 (signatureOf "sha256:0a"))
      .empty "alpine").2 = .ok ⟨⟨"docker.io/library/alpine:latest", "sha256:0a", 1, 1, 1, "0a"⟩,
        ⟨"sha256:0a", [7]⟩, "docker.io/library/alpine:latest"⟩ := rfl
  have hpull := Prod.mk.eta.symm.trans (congrArg (Prod.mk _) hok)
  refine (pull_verified_iff toyLayouts_sound (by decide) hpull).mpr ?_
  intro leftover hleftover
  cases hleftover

/-- An image is pulled without a policy. A pull that requires a signature then gives it, though it has none. -/
theorem unverified_pull : ∃ w₁ pulled₁ w₂ pulled₂,
      (toyPuller .skip none).pullResolved (alpineAnswers 1 noSignatures) .empty "alpine" = (w₁, .ok pulled₁) ∧
      (toyPuller (.cosignKey "cosign.pub") none).pullResolved (alpineAnswers 2 noSignatures) w₁ "alpine" =
        (w₂, .ok pulled₂) ∧
      ¬ (toyPuller (.cosignKey "cosign.pub") none).VerifiedFor w₂.checks "alpine" pulled₂.image ∧
      verifyImageSignature Signing.toyCrates (alpineAnswers 2 noSignatures).readFile noSignatures
        (.cosignKey "cosign.pub") "docker.io" "library/alpine" pulled₂.image.manifestDigest = some .noSignature := by
  refine ⟨_, _, _, _, rfl, rfl, ?_, by decide +kernel⟩
  rintro ⟨_, hcheck, -⟩
  exact absurd hcheck not_mem_nil

end A3sBox.Image
