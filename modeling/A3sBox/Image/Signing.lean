import A3sBox.Core.Error
import A3sBox.Library.Signature
import A3sBox.Library.Slices

/-!
# Signatures of images

`runtime/src/oci/signing/mod.rs` and `crypto.rs`: a signature is found in the repository of the image, under a tag
made from the digest of its manifest, as a layer with a payload that names the digest. It is verified with a given
key, or with that of a certificate that comes with it and has to name an issuer and an identity.

## The model

What reads references, JSON, base64, certificates, keys and signatures is a parameter (`Crates`, `Crates.Standard`). A
registry chooses its answers. Signatures are ideal, and `made` is what was signed in the world.

`keyless_resists_iff`: when a registry without a certified key cannot have an image verified. The chain of the
certificate is not read: `self_made_verified`.
-/

namespace A3sBox.Signing

open Slices Text List

/-! ### What is read -/

/-- An extension of a certificate. -/
structure Extension where
  extnId : String
  extnValue : Bytes
  deriving DecidableEq, Repr

/-- What is read of a certificate. -/
structure Certificate where
  extensions : Option (List Extension)
  subjectPublicKey : Option Bytes
  deriving DecidableEq, Repr

/-- The names of a subject. -/
inductive GeneralName where
  | rfc822Name (email : String)
  | uniformResourceIdentifier (uri : String)
  | other
  deriving DecidableEq, Repr

/-- The payload and its signature, both in base64. -/
structure CosignSignatureEnvelope where
  payload : String
  signature : String
  deriving DecidableEq, Repr

/-- What is read of a payload. -/
structure CosignPayload where
  dockerManifestDigest : String
  deriving DecidableEq, Repr

/-- What the crates read and verify. -/
structure Crates (Key Sig : Type) extends SignatureScheme Key Sig where
  parseReference : String → Except String Unit
  certificateFromDer : Bytes → Except String Certificate
  sanFromDer : Bytes → Except String (List GeneralName)
  utf8StringFromDer : Bytes → Option String
  /-- `SubjectPublicKeyInfo::from_der`, and the bytes of the key. -/
  spkiFromDer : Bytes → Except String (Option Bytes)
  decodeBase64 : List Char → Except String Bytes
  envelopeFromJson : Bytes → Except String CosignSignatureEnvelope
  payloadFromJson : Bytes → Except String CosignPayload
  keyFromSec1 : Bytes → Except String Key
  signatureFromDer : Bytes → Option Sig
  signatureFromSlice : Bytes → Except String Sig
  utf8Error : Bytes → String

variable {Key Sig : Type} (crates : Crates Key Sig)

/-- `from_utf8`. -/
def Crates.fromUtf8 (bytes : Bytes) : Except String String :=
  match String.fromUTF8? ⟨bytes.toArray⟩ with
  | some text => .ok text
  | none => .error (crates.utf8Error bytes)

/-! ### Registries -/

/-- The annotations of a manifest or a layer. -/
abbrev Annotations := List (String × String)

/-- What a registry answers to a request for an image manifest. -/
inductive ManifestAnswer where
  | manifest (annotations : Option Annotations) (layers : List (Option Annotations))
  | notFound
  | failed (error : String)
  deriving DecidableEq, Repr

/-- A registry. -/
structure Registry where
  pullImageManifest : String → ManifestAnswer
  /-- The first layer of a manifest, by references. -/
  pullBlob : String → Except String Bytes

/-- A signature that was fetched. -/
structure CosignSignatureData where
  layerData : Bytes
  annotations : Annotations
  deriving DecidableEq, Repr

/-- An annotation: the one that was added last. -/
def CosignSignatureData.annotationOf (data : CosignSignatureData) (key : String) : Option String :=
  data.annotations.reverse.lookup key

/-- The annotation with the certificate. -/
def certificateAnnotationName : String := "dev.sigstore.cosign/certificate"

/-- The tag of a signature. -/
def cosignSignatureTag (manifestDigest : String) : String :=
  let hex := String.ofList ((stripStart "sha256:".toList manifestDigest.toList).getD manifestDigest.toList)
  s!"sha256-{hex}.sig"

/-- Where a signature is. -/
def signatureReference (registry repository manifestDigest : String) : String :=
  let tag := cosignSignatureTag manifestDigest
  s!"{registry}/{repository}:{tag}"

/-- Find the signature of an image. -/
def fetchCosignSignature (registries : Registry) (registry repository manifestDigest : String) :
    Except BoxError (Option CosignSignatureData) :=
  let reference := signatureReference registry repository manifestDigest
  match crates.parseReference reference with
  | .error e => .error (.registryError registry s!"Invalid signature reference: {e}")
  | .ok () =>
    match registries.pullImageManifest reference with
    | .manifest annotations layers =>
      match layers with
      | [] => .ok none
      | _ :: _ =>
        match registries.pullBlob reference with
        | .ok data =>
          .ok (some ⟨data, annotations.getD [] ++ layers.flatMap fun layer => layer.getD []⟩)
        | .error _ => .ok none
    | .notFound => .ok none
    | .failed e => .error (.registryError registry s!"Failed to fetch cosign signature: {e}")

/-! ### Certificates and keys -/

/-- Read base64. -/
def base64Decode (input : List Char) : Except String Bytes :=
  (crates.decodeBase64 (trim input)).mapError fun e => s!"base64 decode error: {e}"

/-- Decode the first block of a PEM text. -/
def pemToDer (pem : List Char) : Except String Bytes :=
  match findText "-----BEGIN ".toList pem with
  | none => .error "No PEM begin marker found"
  | some (_, block) =>
    match (findText "-----\n".toList block).or (findText "-----\r\n".toList block) with
    | none => .error "Malformed PEM begin marker"
    | some (_, marker) =>
      match findText "-----END ".toList (marker.drop 6) with
      | none => .error "No PEM end marker found"
      | some (body, _) =>
        (base64Decode crates (body.filter fun c => !isWhitespace c)).mapError fun e =>
          s!"Failed to decode PEM base64: {e}"

/-- The identifier of the extension with the issuer. -/
def fulcioIssuerOid : String := "1.3.6.1.4.1.57264.1.1"

/-- The identifier of the extension with the names. -/
def sanOid : String := "2.5.29.17"

/-- Check the issuer of a certificate. -/
def verifyFulcioIssuer (cert : Certificate) (expected : String) : Except String Unit :=
  match cert.extensions with
  | none => .error "Certificate has no extensions"
  | some extensions =>
    match extensions.find? (·.extnId == fulcioIssuerOid) with
    | none => .error "Fulcio issuer extension (OID 1.3.6.1.4.1.57264.1.1) not found in certificate"
    | some ext =>
      let value : Except String String :=
        match crates.utf8StringFromDer ext.extnValue with
        | some text => .ok text
        | none =>
          (crates.fromUtf8 ext.extnValue).mapError fun e => s!"Fulcio issuer extension is not valid UTF-8: {e}"
      match value with
      | .error e => .error e
      | .ok issuer => if issuer = expected then .ok () else .error s!"expected '{expected}', got '{issuer}'"

/-- The mail address or URI of a name. -/
def GeneralName.identity : GeneralName → Option String
  | .rfc822Name email => some email
  | .uniformResourceIdentifier uri => some uri
  | .other => none

/-- Check the identity in a certificate. -/
def verifyFulcioIdentity (cert : Certificate) (expected : String) : Except String Unit :=
  match cert.extensions with
  | none => .error "Certificate has no extensions"
  | some extensions =>
    match extensions.find? (·.extnId == sanOid) with
    | none => .error "Subject Alternative Name extension not found in certificate"
    | some ext =>
      match crates.sanFromDer ext.extnValue with
      | .error e => .error s!"Failed to parse SAN extension: {e}"
      | .ok names =>
        if names.any fun name => name.identity == some expected then .ok ()
        else
          let found := String.intercalate ", " (names.filterMap GeneralName.identity)
          .error s!"expected '{expected}', found [{found}]"

/-- The key of a certificate. -/
def extractCertPublicKey (cert : Certificate) : Except String Bytes :=
  match cert.subjectPublicKey with
  | some bytes => .ok bytes
  | none => .error "Failed to extract public key bytes from certificate"

/-- Verify a signature. -/
def verifyEcdsaP256 (publicKey message signature : Bytes) : Except String Unit :=
  match crates.keyFromSec1 publicKey with
  | .error e => .error s!"Invalid P-256 public key: {e}"
  | .ok key =>
    let verified sig : Except String Unit :=
      if crates.verify key message sig then .ok () else .error "ECDSA P-256 signature verification failed"
    match crates.signatureFromDer signature with
    | some sig => verified sig
    | none =>
      if signature.length = 64 then
        match crates.signatureFromSlice signature with
        | .error e => .error s!"Invalid P-256 signature: {e}"
        | .ok sig => verified sig
      else
        let length := signature.length
        .error s!"Unrecognized signature format ({length} bytes)"

/-- Read a key from a PEM text; none if the end marker is before the end of the begin marker, which panics. -/
def parsePemPublicKey (pem : Bytes) : Option (Except String Bytes) :=
  match crates.fromUtf8 pem with
  | .error e => some (.error s!"PEM file is not valid UTF-8: {e}")
  | .ok text =>
    let text := text.toList
    let has pattern := (findText pattern text).isSome
    let block (beginMarker endMarker : List Char) (read : Bytes → Except String Bytes) : Option (Except String Bytes) :=
      match findText beginMarker text, findText endMarker text with
      | none, _ => some (.error "Missing PEM begin marker")
      | some _, none => some (.error "Missing PEM end marker")
      | some (front, _), some (upToEnd, _) =>
        let start := front.length + beginMarker.length
        if upToEnd.length < start then none
        else some
          (((base64Decode crates ((upToEnd.drop start).filter fun c => !isWhitespace c)).mapError fun e =>
            s!"Failed to decode PEM base64: {e}") >>= read)
    if has "BEGIN PUBLIC KEY".toList then
      block "-----BEGIN PUBLIC KEY-----".toList "-----END PUBLIC KEY-----".toList fun der =>
        match crates.spkiFromDer der with
        | .error e => .error s!"Failed to parse SPKI: {e}"
        | .ok none => .error "Failed to extract public key bytes from SPKI"
        | .ok (some key) => .ok key
    else if has "BEGIN EC PUBLIC KEY".toList then
      block "-----BEGIN EC PUBLIC KEY-----".toList "-----END EC PUBLIC KEY-----".toList .ok
    else some (.error "Unsupported PEM format: expected PUBLIC KEY or EC PUBLIC KEY")

/-! ### Verification -/

/-- What is required of the signatures of images. -/
inductive SignaturePolicy where
  | skip
  /-- A signature made with a key; the path of the key. -/
  | cosignKey (publicKey : String)
  /-- A signature made with a key whose certificate names an issuer and an identity. -/
  | cosignKeyless (issuer identity : String)
  deriving DecidableEq, Repr

/-- The result of a verification. -/
inductive VerifyResult where
  | verified
  | skipped
  | noSignature
  | failed (message : String)
  deriving DecidableEq, Repr

/-- Whether a result lets an image through. -/
def VerifyResult.isOk : VerifyResult → Bool
  | .verified | .skipped => true
  | .noSignature | .failed _ => false

/-- Check the payload. -/
def verifyCosignPayload (payload : Bytes) (manifestDigest : String) : Except BoxError CosignPayload :=
  match crates.payloadFromJson payload with
  | .error e => .error (.registryError "" s!"Invalid cosign payload: {e}")
  | .ok cosign =>
    if cosign.dockerManifestDigest ≠ manifestDigest then
      let found := cosign.dockerManifestDigest
      .error (.registryError "" s!"Signature digest mismatch: expected {manifestDigest}, got {found}")
    else .ok cosign

/-- Verify the layer of a signature with a key; `failure` is how an invalid signature is reported. -/
def verifyLayer (failure : String) (key layerData : Bytes) (manifestDigest : String) : VerifyResult :=
  match crates.envelopeFromJson layerData with
  | .error e => .failed s!"Failed to parse cosign signature envelope: {e}"
  | .ok envelope =>
    match base64Decode crates envelope.payload.toList with
    | .error e => .failed s!"Failed to decode signature payload: {e}"
    | .ok payload =>
      match base64Decode crates envelope.signature.toList with
      | .error e => .failed s!"Failed to decode signature bytes: {e}"
      | .ok signature =>
        match verifyEcdsaP256 crates key payload signature with
        | .error e => .failed s!"{failure}: {e}"
        | .ok () =>
          match verifyCosignPayload crates payload manifestDigest with
          | .ok _ => .verified
          | .error e =>
            let why := e.toText
            .failed s!"Payload validation failed: {why}"

/-- Verify an image with a key that is read from a file; none if that panics. -/
def verifyCosignKey (readFile : String → Except String Bytes) (registries : Registry)
    (publicKeyPath registry repository manifestDigest : String) : Option VerifyResult :=
  match readFile publicKeyPath with
  | .error e => some (.failed s!"Failed to read public key file '{publicKeyPath}': {e}")
  | .ok pem =>
    match parsePemPublicKey crates pem with
    | none => none
    | some (.error e) => some (.failed s!"Failed to parse public key: {e}")
    | some (.ok key) =>
      match fetchCosignSignature crates registries registry repository manifestDigest with
      | .ok (some data) =>
        some (verifyLayer crates "Signature verification failed" key data.layerData manifestDigest)
      | .ok none => some .noSignature
      | .error e =>
        let why := e.toText
        some (.failed s!"Failed to fetch signature: {why}")

/-- The key of a checked certificate. -/
def certifiedKey (issuer identity : String) (data : CosignSignatureData) : Except String Bytes :=
  match data.annotationOf certificateAnnotationName with
  | none =>
    .error "Keyless signature missing Fulcio certificate annotation (dev.sigstore.cosign/certificate)"
  | some pem =>
    match pemToDer crates pem.toList with
    | .error e => .error s!"Failed to parse Fulcio certificate PEM: {e}"
    | .ok der =>
      match crates.certificateFromDer der with
      | .error e => .error s!"Failed to parse Fulcio certificate DER: {e}"
      | .ok cert =>
        match verifyFulcioIssuer crates cert issuer with
        | .error e => .error s!"Fulcio issuer mismatch: {e}"
        | .ok () =>
          match verifyFulcioIdentity crates cert identity with
          | .error e => .error s!"Fulcio identity mismatch: {e}"
          | .ok () =>
            (extractCertPublicKey cert).mapError fun e => s!"Failed to extract public key from Fulcio cert: {e}"

/-- Verify an image with the key of the certificate that comes with its signature. -/
def verifyCosignKeyless (registries : Registry)
    (issuer identity registry repository manifestDigest : String) : VerifyResult :=
  match fetchCosignSignature crates registries registry repository manifestDigest with
  | .ok none => .noSignature
  | .error e =>
    let why := e.toText
    .failed s!"Failed to fetch signature: {why}"
  | .ok (some data) =>
    match certifiedKey crates issuer identity data with
    | .error e => .failed e
    | .ok key => verifyLayer crates "Keyless signature verification failed" key data.layerData manifestDigest

/-- Verify an image as a policy requires; none if that panics. -/
def verifyImageSignature (readFile : String → Except String Bytes) (registries : Registry)
    (policy : SignaturePolicy) (registry repository manifestDigest : String) : Option VerifyResult :=
  match policy with
  | .skip => some .skipped
  | .cosignKey publicKey => verifyCosignKey crates readFile registries publicKey registry repository manifestDigest
  | .cosignKeyless issuer identity =>
    some (verifyCosignKeyless crates registries issuer identity registry repository manifestDigest)

/-! ### Whoever controls the registry -/

/-- All characters are ASCII. -/
def isAscii (text : String) : Bool := text.toList.all fun c => c.toNat < 128

/-- What is written in the formats is read back, and the mail addresses and URIs of a certificate are ASCII. -/
structure Crates.Standard (crates : Crates Key Sig) : Prop where
  certificate : ∀ issuerValue sanValue key, ∃ der, crates.certificateFromDer der =
    .ok ⟨some [⟨fulcioIssuerOid, issuerValue⟩, ⟨sanOid, sanValue⟩], some key⟩
  utf8String : ∀ text, ∃ der, crates.utf8StringFromDer der = some text
  san : ∀ text, isAscii text = true → ∃ der, crates.sanFromDer der = .ok [.rfc822Name text]
  san_ascii : ∀ {der names name text}, crates.sanFromDer der = .ok names → name ∈ names →
    name.identity = some text → isAscii text = true
  base64 : ∀ bytes, ∃ text, (∀ c ∈ text, isWhitespace c = false ∧ c ≠ '-') ∧ crates.decodeBase64 text = .ok bytes
  envelope : ∀ envelope, ∃ json, crates.envelopeFromJson json = .ok envelope
  payload : ∀ payload, ∃ json, crates.payloadFromJson json = .ok payload
  signature : ∀ sig, ∃ der, crates.signatureFromDer der = some sig

/-- The signatures in a layer. -/
def layerSignatures (layerData : Bytes) : List Sig :=
  match crates.envelopeFromJson layerData with
  | .error _ => []
  | .ok envelope =>
    match base64Decode crates envelope.signature.toList with
    | .error _ => []
    | .ok bytes =>
      match crates.signatureFromDer bytes with
      | some sig => [sig]
      | none => (crates.signatureFromSlice bytes).toOption.toList

/-- The signatures in the answers. -/
def presented (registries : Registry) (registry repository manifestDigest : String) : List Sig :=
  match fetchCosignSignature crates registries registry repository manifestDigest with
  | .ok (some data) => layerSignatures crates data.layerData
  | _ => []

/-- No registry in whose answers only keys that are not certified were used can have a manifest verified. -/
def Resists (certified : Key → Prop) (issuer identity registry repository manifestDigest : String) : Prop :=
  ∀ (registries : Registry) (made : Key → Bytes → Prop), (∀ key message, made key message → ¬ certified key) →
    crates.Unforged made (presented crates registries registry repository manifestDigest) →
    verifyCosignKeyless crates registries issuer identity registry repository manifestDigest ≠ .verified

/-- There is a key that nobody has certified. -/
def Crates.HasStranger (certified : Key → Prop) : Prop :=
  ∃ own sec1 message sig, ¬ certified own ∧ crates.keyFromSec1 sec1 = .ok own ∧ crates.verify own message sig = true

variable {text : List Char} {bytes : Bytes} {crates : Crates Key Sig}

variable (hplain : ∀ c ∈ text, isWhitespace c = false ∧ c ≠ '-')

include hplain

theorem base64Decode_plain (h : crates.decodeBase64 text = .ok bytes) : base64Decode crates text = .ok bytes := by
  unfold base64Decode
  rw [trim_eq_self fun c hc => (hplain c hc).1, h]
  rfl

/-- A certificate as text. -/
def certificatePem (text : List Char) : List Char :=
  "-----BEGIN CERTIFICATE-----\n".toList ++ (text ++ '\n' :: "-----END CERTIFICATE-----\n".toList)

theorem pemToDer_certificatePem
    (h : crates.decodeBase64 text = .ok bytes) : pemToDer crates (certificatePem text) = .ok bytes := by
  have hend : findText "-----END ".toList (text ++ '\n' :: "-----END CERTIFICATE-----\n".toList) =
      some (text ++ ['\n'], "-----END CERTIFICATE-----\n".toList) := by
    have hdash : '-' ∉ text ++ ['\n'] := by
      rw [mem_append, not_or]
      exact ⟨fun hmem => (hplain _ hmem).2 rfl, by decide⟩
    have hfound := @findText_append _ '-' "----END ".toList hdash "CERTIFICATE-----\n".toList
    rwa [append_assoc] at hfound
  have hbody : ((text ++ ['\n']).filter fun c => !isWhitespace c) = text := by
    rw [filter_append, filter_eq_self.mpr fun c hc => by rw [(hplain c hc).1]; rfl]
    exact append_nil _
  change (match findText "-----END ".toList (text ++ '\n' :: "-----END CERTIFICATE-----\n".toList) with
    | none => Except.error "No PEM end marker found"
    | some (body, _) => (base64Decode crates (body.filter fun c => !isWhitespace c)).mapError fun e =>
        s!"Failed to decode PEM base64: {e}") = .ok bytes
  rw [hend]
  dsimp only
  rw [hbody, base64Decode_plain hplain h]
  rfl

omit hplain

section Attack

variable {crates : Crates Key Sig}

theorem exists_layer (hstandard : crates.Standard) (hideal : crates.Ideal) {own sec1 message sig}
    (hkey : crates.keyFromSec1 sec1 = .ok own) (hsig : crates.verify own message sig = true)
    (failure manifestDigest : String) :
    ∃ layerData sig, layerSignatures crates layerData = [sig] ∧ (∃ message, crates.verify own message sig = true) ∧
      verifyLayer crates failure sec1 layerData manifestDigest = .verified := by
  obtain ⟨payload, hpayload⟩ := hstandard.payload ⟨manifestDigest⟩
  obtain ⟨sig', hsig'⟩ := hideal.can_sign hsig payload
  obtain ⟨der, hder⟩ := hstandard.signature sig'
  obtain ⟨payloadText, hpayloadPlain, hpayloadText⟩ := hstandard.base64 payload
  obtain ⟨sigText, hsigPlain, hsigText⟩ := hstandard.base64 der
  obtain ⟨json, hjson⟩ := hstandard.envelope ⟨String.ofList payloadText, String.ofList sigText⟩
  have hpayload64 : base64Decode crates (String.ofList payloadText).toList = .ok payload := by
    rw [String.toList_ofList]
    exact base64Decode_plain hpayloadPlain hpayloadText
  have hsig64 : base64Decode crates (String.ofList sigText).toList = .ok der := by
    rw [String.toList_ofList]
    exact base64Decode_plain hsigPlain hsigText
  have hverified : verifyEcdsaP256 crates sec1 payload der = .ok () := by
    simp [verifyEcdsaP256, hkey, hder, hsig']
  have hpayloadOk : verifyCosignPayload crates payload manifestDigest = .ok ⟨manifestDigest⟩ := by
    simp [verifyCosignPayload, hpayload]
  refine ⟨json, sig', ?_, ⟨payload, hsig'⟩, ?_⟩
  · simp only [layerSignatures, hjson, hsig64, hder]
  · simp only [verifyLayer, hjson, hpayload64, hsig64, hverified, hpayloadOk]

variable {identity : String}

theorem exists_certificate (hstandard : crates.Standard) (issuer : String) (hidentity : isAscii identity = true)
    (sec1 : Bytes) :
    ∃ pem, ∀ layerData, certifiedKey crates issuer identity ⟨layerData, [(certificateAnnotationName, pem)]⟩ =
      .ok sec1 := by
  obtain ⟨issuerValue, hissuer⟩ := hstandard.utf8String issuer
  obtain ⟨sanValue, hsan⟩ := hstandard.san identity hidentity
  obtain ⟨der, hder⟩ := hstandard.certificate issuerValue sanValue sec1
  obtain ⟨text, hplain, htext⟩ := hstandard.base64 der
  refine ⟨String.ofList (certificatePem text), fun layerData => ?_⟩
  have hpem : pemToDer crates (String.ofList (certificatePem text)).toList = .ok der := by
    rw [String.toList_ofList]
    exact pemToDer_certificatePem hplain htext
  have hannotation : CosignSignatureData.annotationOf
      ⟨layerData, [(certificateAnnotationName, String.ofList (certificatePem text))]⟩ certificateAnnotationName =
        some (String.ofList (certificatePem text)) := by
    simp [CosignSignatureData.annotationOf]
  have hissuerOk : verifyFulcioIssuer crates
      ⟨some [⟨fulcioIssuerOid, issuerValue⟩, ⟨sanOid, sanValue⟩], some sec1⟩ issuer = .ok () := by
    simp [verifyFulcioIssuer, hissuer]
  have hidentityOk : verifyFulcioIdentity crates
      ⟨some [⟨fulcioIssuerOid, issuerValue⟩, ⟨sanOid, sanValue⟩], some sec1⟩ identity = .ok () := by
    have hne : (fulcioIssuerOid == sanOid) = false := by decide
    simp [verifyFulcioIdentity, hne, hsan, GeneralName.identity]
  simp only [certifiedKey, hannotation, hpem, hder, hissuerOk, hidentityOk, extractCertPublicKey, Except.mapError]

/-- **Anyone can have any manifest verified**, if its signature has a reference and the identity is ASCII. -/
theorem not_resists (hstandard : crates.Standard) (hideal : crates.Ideal) {certified}
    (hstranger : crates.HasStranger certified) (issuer : String) {registry repository manifestDigest}
    (hreference : crates.parseReference (signatureReference registry repository manifestDigest) = .ok ())
    (hidentity : isAscii identity = true) :
    ¬ Resists crates certified issuer identity registry repository manifestDigest := by
  obtain ⟨own, sec1, _, _, hown, hkey, hsig⟩ := hstranger
  obtain ⟨pem, hcertified⟩ := exists_certificate hstandard issuer hidentity sec1
  obtain ⟨layerData, _, hpresented, ⟨_, hsig'⟩, hverified⟩ :=
    exists_layer hstandard hideal hkey hsig "Keyless signature verification failed" manifestDigest
  let registries : Registry :=
    ⟨fun _ => .manifest none [some [(certificateAnnotationName, pem)]], fun _ => .ok layerData⟩
  have hfetch : fetchCosignSignature crates registries registry repository manifestDigest =
      .ok (some ⟨layerData, [(certificateAnnotationName, pem)]⟩) := by
    simp [fetchCosignSignature, hreference, registries]
  intro hresists
  refine hresists registries (fun key _ => key = own) (fun key _ hmade => hmade ▸ hown) ?_ ?_
  · intro sig'' hmem key message'' hverify
    simp only [presented, hfetch, hpresented, mem_singleton] at hmem
    subst hmem
    exact hideal.key_unique hverify hsig'
  · simp [verifyCosignKeyless, hfetch, hcertified, hverified]

theorem isAscii_of_certifiedKey (hstandard : crates.Standard) {issuer data key}
    (h : certifiedKey crates issuer identity data = .ok key) : isAscii identity = true := by
  unfold certifiedKey at h
  split at h
  · cases h
  split at h
  · cases h
  split at h
  · cases h
  split at h
  · cases h
  split at h
  · cases h
  next cert _ _ _ hidentity =>
    unfold verifyFulcioIdentity at hidentity
    split at hidentity
    · cases hidentity
    split at hidentity
    · cases hidentity
    split at hidentity
    · cases hidentity
    next names hnames =>
      split_ifs at hidentity with hany
      obtain ⟨_, hname, heq⟩ := any_eq_true.mp hany
      exact hstandard.san_ascii hnames hname (beq_iff_eq.mp heq)

/-- **Who can have a manifest verified without a key**: nobody without a certified key exactly if its signature has no
reference, or the identity that is expected is not ASCII. -/
theorem keyless_resists_iff (hstandard : crates.Standard) (hideal : crates.Ideal) {certified : Key → Prop}
    (hstranger : crates.HasStranger certified) (issuer identity registry repository manifestDigest : String) :
    Resists crates certified issuer identity registry repository manifestDigest ↔
      (∃ e, crates.parseReference (signatureReference registry repository manifestDigest) = .error e) ∨
        isAscii identity = false := by
  constructor
  · intro hresists
    by_contra hnot
    rw [not_or, Bool.not_eq_false] at hnot
    rcases hreference : crates.parseReference (signatureReference registry repository manifestDigest) with e | _
    · exact hnot.1 ⟨e, hreference⟩
    · exact not_resists hstandard hideal hstranger issuer hreference hnot.2 hresists
  · rintro hcond registries made - - hverified
    unfold verifyCosignKeyless at hverified
    split at hverified
    · cases hverified
    · cases hverified
    next data hfetch =>
      split at hverified
      · cases hverified
      next key hkey =>
        rcases hcond with ⟨_, hreference⟩ | hidentity
        · simp [fetchCosignSignature, hreference] at hfetch
        · rw [isAscii_of_certifiedKey hstandard hkey] at hidentity
          cases hidentity

end Attack

/-! ### Toy crates -/

/-- Byte strings one after another: a byte after a `1`, and a `0` at the end of each. -/
def fieldsFrom : Bytes → List Bytes
  | 0 :: rest => [] :: fieldsFrom rest
  | 1 :: b :: rest =>
    match fieldsFrom rest with
    | [] => []
    | field :: fields => (b :: field) :: fields
  | _ => []

/-- Write byte strings one after another. -/
def writeFields (fields : List Bytes) : Bytes :=
  fields.flatMap fun field => (field.flatMap fun b => [1, b]) ++ [0]

theorem fieldsFrom_cons (field rest : Bytes) :
    fieldsFrom ((field.flatMap fun b => [1, b]) ++ 0 :: rest) = field :: fieldsFrom rest := by
  induction field with
  | nil => simp [fieldsFrom]
  | cons _ _ ih => simp [fieldsFrom, ih]

theorem fieldsFrom_writeFields (fields : List Bytes) : fieldsFrom (writeFields fields) = fields := by
  induction fields with
  | nil => rfl
  | cons field fields ih =>
    have hcons := fieldsFrom_cons field (writeFields fields)
    rw [ih] at hcons
    simpa [writeFields] using hcons

/-- Bytes as text. -/
def textFrom (bytes : Bytes) : Option String := String.fromUTF8? ⟨bytes.toArray⟩

theorem textFrom_utf8 (text : String) : textFrom (utf8 text) = some text := by
  have hbytes : (⟨(utf8 text).toArray⟩ : ByteArray) = text.toByteArray := by simp [utf8]
  rw [textFrom, hbytes, String.fromUTF8?, dif_pos text.isValidUTF8]
  rfl

/-- Read hexadecimal digits. -/
def hexFrom : List Char → Except String Bytes
  | [] => .ok []
  | a :: b :: rest =>
    match (List.range 256).find? fun n => hex2 n == [a, b] with
    | some n => (hexFrom rest).map (UInt8.ofNat n :: ·)
    | none => .error "not a digit"
  | [_] => .error "odd"

theorem hexFrom_hex (bytes : Bytes) : hexFrom (bytes.flatMap fun b => hex2 b.toNat) = .ok bytes := by
  induction bytes with
  | nil => rfl
  | cons b _ ih =>
    have hlt : b.toNat < 256 := b.toNat_lt
    have hsome : ((List.range 256).find? fun n => hex2 n == hex2 b.toNat).isSome = true :=
      List.find?_isSome.mpr ⟨b.toNat, mem_range.mpr hlt, beq_self_eq_true _⟩
    obtain ⟨n, hn⟩ := Option.isSome_iff_exists.mp hsome
    have heq : n = b.toNat := by
      have hmem := mem_range.mp (mem_of_find?_eq_some hn)
      have hhex := List.find?_some hn
      exact hex2_injective (by omega) (by omega) (beq_iff_eq.mp hhex)
    subst heq
    have hfind : ((List.range 256).find? fun n => hex2 n == [(b.toNat / 16).digitChar, (b.toNat % 16).digitChar]) =
        some b.toNat := hn
    simp only [flatMap_cons, hex2, cons_append, nil_append, hexFrom]
    simp only [hex2] at hfind ih
    rw [hfind, ih]
    simp [Except.map]

/-- Keys of one byte, signatures that are the key and a checksum, and texts in hexadecimal digits. -/
def toyCrates : Crates UInt8 (UInt8 × UInt8) where
  verify key message sig := sig == (key, message.sum)
  parseReference text := if text.isEmpty then .error "empty" else .ok ()
  certificateFromDer der :=
    match fieldsFrom der with
    | [issuer, san, key] => .ok ⟨some [⟨fulcioIssuerOid, issuer⟩, ⟨sanOid, san⟩], some key⟩
    | _ => .error "not a certificate"
  sanFromDer der :=
    match textFrom der with
    | some text => if isAscii text then .ok [.rfc822Name text] else .error "not ASCII"
    | none => .error "not a text"
  utf8StringFromDer := textFrom
  spkiFromDer der := .ok (some der)
  decodeBase64 := hexFrom
  envelopeFromJson json :=
    match (fieldsFrom json).map textFrom with
    | [some payload, some signature] => .ok ⟨payload, signature⟩
    | _ => .error "not an envelope"
  payloadFromJson json :=
    match textFrom json with
    | some digest => .ok ⟨digest⟩
    | none => .error "not a payload"
  keyFromSec1
    | [key] => .ok key
    | _ => .error "not a key"
  signatureFromDer
    | [key, sum] => some (key, sum)
    | _ => none
  signatureFromSlice _ := .error "not a signature"
  utf8Error _ := "invalid utf-8"

theorem toyCrates_ideal : toyCrates.Ideal where
  key_unique h h' := by
    simp only [toyCrates, beq_iff_eq] at h h'
    exact (Prod.mk.inj (h.symm.trans h')).1
  can_sign {key _ _} _ message' := ⟨(key, message'.sum), by simp [toyCrates]⟩

theorem toyCrates_standard : toyCrates.Standard where
  certificate issuerValue sanValue key := ⟨writeFields [issuerValue, sanValue, key], by
    simp only [toyCrates, fieldsFrom_writeFields]⟩
  utf8String text := ⟨utf8 text, textFrom_utf8 text⟩
  san text hascii := ⟨utf8 text, by simp only [toyCrates, textFrom_utf8, hascii, if_true]⟩
  san_ascii {der names name text} hnames hname hidentity := by
    simp only [toyCrates] at hnames
    split at hnames
    · split_ifs at hnames with hascii
      cases hnames
      rw [mem_singleton] at hname
      subst hname
      exact Option.some.inj hidentity ▸ hascii
    · cases hnames
  base64 bytes := by
    refine ⟨bytes.flatMap fun b : UInt8 => hex2 b.toNat, fun c hc => ?_, hexFrom_hex bytes⟩
    obtain ⟨b, -, hcb⟩ := mem_flatMap.mp hc
    have hplain : ("0123456789abcdef".toList.all fun c => !isWhitespace c && c != '-') = true := by decide
    have hc := all_eq_true.mp hplain c (mem_hex2 b c hcb)
    simpa only [Bool.and_eq_true, Bool.not_eq_true', bne_iff_ne] using hc
  envelope envelope := ⟨writeFields [utf8 envelope.payload, utf8 envelope.signature], by
    simp only [toyCrates, fieldsFrom_writeFields, map_cons, map_nil, textFrom_utf8]⟩
  payload payload := ⟨utf8 payload.dockerManifestDigest, by simp only [toyCrates, textFrom_utf8]⟩
  signature sig := ⟨[sig.1, sig.2], rfl⟩

theorem toyCrates_hasStranger : toyCrates.HasStranger (· = 1) := ⟨2, [2], [], (2, 0), by decide, rfl, by decide⟩

/-- No certificate names an identity with an umlaut. -/
theorem umlaut_resists :
    Resists toyCrates (· = 1) "https://accounts.google.com" "jörg@example.com" "ghcr.io" "org/app" "sha256:0a" :=
  (keyless_resists_iff toyCrates_standard toyCrates_ideal toyCrates_hasStranger "https://accounts.google.com"
    "jörg@example.com" "ghcr.io" "org/app" "sha256:0a").mpr (.inr (by decide))

/-- An image is verified with a certificate that whoever controls the registry has made. -/
theorem self_made_verified :
    ¬ Resists toyCrates (· = 1) "https://accounts.google.com" "dev@example.com" "ghcr.io" "org/app" "sha256:0a" :=
  not_resists toyCrates_standard toyCrates_ideal toyCrates_hasStranger _ (by decide +kernel) (by decide)

end A3sBox.Signing
