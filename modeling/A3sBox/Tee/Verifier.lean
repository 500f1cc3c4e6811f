import A3sBox.Core.Error
import A3sBox.Library.Signature
import A3sBox.Tee.Attestation

/-!
# Verifying attestation reports

`runtime/src/tee/verifier.rs`: a report is verified by its nonce, its signature, the certificates that certify the
signing key, a policy and its age.

## The model

The crates `x509_cert` and `p384` are a parameter (`X509`), and the time is an argument. The violation of an expected
measurement quotes the first bytes of the expected text, which panics if they end inside a character. Signatures are
ideal, and `made` is what was signed in the world.

`verified_iff_amd_root`: which root certificates let through only what AMD's root key certifies. The verifier does not
know that key: `foreign_root_verified`. `verified_fresh_iff`: when what is verified has the whole nonce and an age
within the limit; otherwise `stale_verified`.
-/

namespace A3sBox.Tee

open Text List

/-! ### Certificates and signatures -/

/-- An extension of a certificate. -/
structure Extension where
  oid : Bytes
  oidText : String
  value : Bytes
  deriving DecidableEq, Repr

/-- What the verifier reads of a certificate. -/
structure Certificate where
  issuer : Bytes
  subject : Bytes
  publicKey : Option Bytes
  spkiDer : Except String Bytes
  tbsDer : Except String Bytes
  signature : Option Bytes
  extensions : Option (List Extension)

/-- The certificates, keys and signatures of the crates `x509_cert` and `p384`. -/
structure X509 (Key Sig : Type) extends SignatureScheme Key Sig where
  fromDer : Bytes → Except String Certificate
  keyFromSec1 : Bytes → Except String Key
  signatureFromSlice : Bytes → Except String Sig
  signatureFromDer : Bytes → Except String Sig

variable {Key Sig : Type}

/-- Drop leading zeros, but keep at least `minLen` bytes. -/
def trimLeadingZeros (bytes : Bytes) (minLen : ℕ) : Bytes :=
  let start := (bytes.findIdx? (· != 0)).getD (bytes.length - minLen)
  bytes.drop (min start (bytes.length - minLen))

/-- The last 48 bytes, after zeros if there are fewer. -/
def align48 (bytes : Bytes) : Bytes := List.replicate (48 - bytes.length) 0 ++ bytes.drop (bytes.length - 48)

variable (x509 : X509 Key Sig)

/-- The key of a certificate. -/
def Certificate.key (cert : Certificate) : Except String Key :=
  match cert.publicKey with
  | none => .error "Failed to extract public key bytes from VCEK"
  | some bytes => (x509.keyFromSec1 bytes).mapError fun e => s!"Failed to create P-384 verifying key: {e}"

/-- Verify a signature, given by its two numbers, with the key of a certificate. -/
def verifyP384Signature (message r s certDer : Bytes) : Except String Bool :=
  match x509.fromDer certDer with
  | .error e => .error s!"Failed to parse VCEK certificate: {e}"
  | .ok cert =>
    match cert.key x509 with
    | .error e => .error e
    | .ok key =>
      match x509.signatureFromSlice (align48 r ++ align48 s) with
      | .error e => .error s!"Failed to parse ECDSA signature: {e}"
      | .ok sig => .ok (x509.verify key message sig)

/-- The part of a report that is signed. -/
def signedData (report : Bytes) : Bytes := report.take 0x2A0

/-- Verify the signature of a report with the key of the chip's certificate. -/
def verifyReportSignature (report vcekDer : Bytes) : Bool :=
  if report.length < snpReportSize || vcekDer.isEmpty then false
  else
    let r := trimLeadingZeros (slice report 0x2A0 0x2E8) 48
    let s := trimLeadingZeros (slice report 0x2E8 0x330) 48
    match verifyP384Signature x509 (signedData report) r s vcekDer with
    | .ok valid => valid
    | .error _ => false

/-- A certificate is signed by another. -/
def verifyCertSignature (cert issuer : Certificate) : Bool :=
  match cert.tbsDer with
  | .error _ => false
  | .ok tbs =>
    match cert.signature with
    | none => false
    | some bytes =>
      match x509.signatureFromDer bytes with
      | .error _ => false
      | .ok sig =>
        match issuer.key x509 with
        | .error _ => false
        | .ok key => x509.verify key tbs sig

/-- Verify the chain of certificates. A chain without any certificate passes. -/
def verifyCertChain (vcekDer askDer arkDer : Bytes) : Bool :=
  if vcekDer.isEmpty || askDer.isEmpty || arkDer.isEmpty then
    vcekDer.isEmpty && askDer.isEmpty && arkDer.isEmpty
  else
    match x509.fromDer vcekDer with
    | .error _ => false
    | .ok vcek =>
      match x509.fromDer askDer with
      | .error _ => false
      | .ok ask =>
        match x509.fromDer arkDer with
        | .error _ => false
        | .ok ark =>
          if vcek.issuer ≠ ask.subject then false
          else if ask.issuer ≠ ark.subject then false
          else if ark.issuer ≠ ark.subject then false
          else if !verifyCertSignature x509 ark ark then false
          else if !verifyCertSignature x509 ask ark then false
          else if !verifyCertSignature x509 vcek ask then false
          else true

/-! ### Nonce, policy and age -/

/-- Verify that a report has the nonce; only the first 64 bytes of the nonce are compared. -/
def verifyNonce (report expectedNonce : Bytes) : Bool :=
  if report.length < 0x50 + 64 then false
  else
    let compareLen := min expectedNonce.length 64
    (slice report 0x50 0x90).take compareLen == expectedNonce.take compareLen

/-- A text cut to 16 bytes for a message; none if the cut is inside a character. -/
def shorten (s : String) : Option String := (bytePrefix (min s.utf8ByteSize 16) s.toList).map String.ofList

/-- Check a version against the least one, if there is one. -/
def checkMin (check name : String) (value : UInt8) : Option UInt8 → List PolicyViolation
  | none => []
  | some least => if value < least then [⟨check, s!"{name} SVN {value} < minimum {least}"⟩] else []

/-- Check the expected measurement; none if the message cannot be made. -/
def checkMeasurement (platform : PlatformInfo) : Option String → Option (List PolicyViolation)
  | none => some []
  | some expected =>
    if platform.measurement = expected then some []
    else
      match shorten expected, shorten platform.measurement with
      | some e, some m => some [⟨"measurement", s!"Expected {e}, got {m}"⟩]
      | _, _ => none

/-- Check the versions of the trusted computing base. -/
def checkTcb (tcb : TcbVersion) : Option MinTcbPolicy → List PolicyViolation
  | none => []
  | some least =>
    checkMin "tcb.boot_loader" "Boot loader" tcb.bootLoader least.bootLoader ++
      checkMin "tcb.tee" "TEE" tcb.tee least.tee ++
      checkMin "tcb.snp" "SNP" tcb.snp least.snp ++
      checkMin "tcb.microcode" "Microcode" tcb.microcode least.microcode

/-- Check the bits that the guest policy must have. -/
def checkPolicyMask (guestPolicy : ℕ) : Option ℕ → List PolicyViolation
  | none => []
  | some mask =>
    if guestPolicy &&& mask ≠ mask then
      [⟨"policy_mask", s!"Guest policy {showHex guestPolicy} does not satisfy mask {showHex mask}"⟩]
    else []

/-- Check a report against a policy; none is a panic. -/
def checkPolicy (platform : PlatformInfo) (policy : AttestationPolicy) : Option PolicyResult :=
  match checkMeasurement platform policy.expectedMeasurement with
  | none => none
  | some measurement =>
    let debug := if policy.requireNoDebug && platform.policy.testBit 19 then
      [⟨"debug", "Debug mode is enabled (policy bit 19 set)"⟩] else []
    let smt := if policy.requireNoSmt && platform.policy.testBit 16 then
      [⟨"smt", "SMT is enabled (policy bit 16 set)"⟩] else []
    some (.fromViolations (measurement ++ debug ++ smt ++ checkTcb platform.tcbVersion policy.minTcb ++
      checkPolicyMask platform.policy policy.allowedPolicyMask))

/-- Check the age of a report: whether it is valid, and what to say if it is not. -/
def checkReportAge (policy : AttestationPolicy) (nonceIssuedAt : Option ℕ) (now : ℕ) : Bool × List String :=
  match policy.maxReportAgeSecs with
  | none => (true, [])
  | some maxAge =>
    match nonceIssuedAt with
    | none => (true, [])
    | some issuedAt =>
      if now < issuedAt then
        (false, [s!"Report age check failed: nonce_issued_at ({issuedAt}) is in the future (now={now})"])
      else if maxAge < now - issuedAt then
        (false, [s!"Report too old: age {now - issuedAt}s exceeds maximum {maxAge}s (replay protection)"])
      else (true, [])

/-! ### The whole verification -/

/-- The result of verifying a report. -/
structure VerificationResult where
  verified : Bool
  platform : PlatformInfo
  policyResult : PolicyResult
  signatureValid : Bool
  certChainValid : Bool
  nonceValid : Bool
  reportAgeValid : Bool
  failures : List String
  deriving DecidableEq, Repr

/-- Verify a report, at the time `now`. -/
def verifyAttestationWithTime (report : AttestationReport) (expectedNonce : Bytes)
    (policy : AttestationPolicy) (allowSimulated : Bool) (nonceIssuedAt : Option ℕ) (now : ℕ) :
    Except (Fault BoxError) VerificationResult :=
  match parsePlatformInfo report.report with
  | none => .error (.error (.attestationError
      s!"Invalid SNP report: expected {snpReportSize} bytes, got {report.report.length}"))
  | some platform =>
    let simulated := isSimulatedReport report.report
    if simulated && !allowSimulated then
      .error (.error (.attestationError "Simulated report rejected: allow_simulated is false"))
    else
      let nonceValid := verifyNonce report.report expectedNonce
      let signatureValid := simulated || verifyReportSignature x509 report.report report.certChain.vcek
      let certChainValid :=
        simulated || verifyCertChain x509 report.certChain.vcek report.certChain.ask report.certChain.ark
      match checkPolicy platform policy with
      | none => .error .panic
      | some policyResult =>
        let (reportAgeValid, ageFailures) := checkReportAge policy nonceIssuedAt now
        let failures :=
          (if nonceValid then [] else ["Nonce mismatch: report_data does not contain expected nonce"]) ++
          (if signatureValid then [] else ["Signature verification failed"]) ++
          (if certChainValid then [] else ["Certificate chain verification failed"]) ++
          (if policyResult.passed then [] else policyResult.violations.map PolicyViolation.toText) ++ ageFailures
        .ok { verified := nonceValid && signatureValid && certChainValid && policyResult.passed && reportAgeValid
              platform, policyResult, signatureValid, certChainValid, nonceValid, reportAgeValid, failures }

/-- Verify a report without regard to its age. -/
def verifyAttestation (report : AttestationReport) (expectedNonce : Bytes)
    (policy : AttestationPolicy) (allowSimulated : Bool) (now : ℕ) : Except (Fault BoxError) VerificationResult :=
  verifyAttestationWithTime x509 report expectedNonce policy allowSimulated none now

/-! ### What the checks say -/

variable {x509 : X509 Key Sig}

/-- The signature in a report. -/
def signatureBytes (report : Bytes) : Bytes :=
  align48 (trimLeadingZeros (slice report 0x2A0 0x2E8) 48) ++ align48 (trimLeadingZeros (slice report 0x2E8 0x330) 48)

variable {vcekDer nonce a b : Bytes} {cert : Certificate} {report : AttestationReport} {policy : AttestationPolicy}
  {allowSimulated : Bool} {issuedAt : Option ℕ} {now : ℕ} {platform : PlatformInfo}

theorem verifyReportSignature_eq_true {report} :
    verifyReportSignature x509 report vcekDer = true ↔ snpReportSize ≤ report.length ∧ vcekDer ≠ [] ∧
      ∃ cert key sig, x509.fromDer vcekDer = .ok cert ∧ cert.key x509 = .ok key ∧
        x509.signatureFromSlice (signatureBytes report) = .ok sig ∧ x509.verify key (signedData report) sig = true := by
  by_cases hlen : report.length < snpReportSize || vcekDer.isEmpty
  · rw [verifyReportSignature, if_pos hlen]
    simp only [Bool.false_eq_true, false_iff, not_and]
    intro hsize hne
    rcases Bool.or_eq_true _ _ ▸ hlen with h | h
    · exact absurd (of_decide_eq_true h) (by omega)
    · exact absurd (List.isEmpty_iff.1 h) hne
  · rw [verifyReportSignature, if_neg hlen]
    simp only [Bool.or_eq_true, decide_eq_true_eq, List.isEmpty_iff, not_or, not_lt] at hlen
    simp only [hlen.1, hlen.2, ne_eq, verifyP384Signature, signatureBytes]
    rcases x509.fromDer vcekDer with _ | cert
    · simp
    rcases hkey : cert.key x509 with _ | _
    · simp [hkey]
    rcases x509.signatureFromSlice _ with _ | _ <;> simp [hkey]

theorem verifyCertSignature_eq_true {issuer} :
    verifyCertSignature x509 cert issuer = true ↔ ∃ tbs bytes sig key, cert.tbsDer = .ok tbs ∧
      cert.signature = some bytes ∧ x509.signatureFromDer bytes = .ok sig ∧ issuer.key x509 = .ok key ∧
        x509.verify key tbs sig = true := by
  rw [verifyCertSignature]
  rcases cert.tbsDer with _ | _
  · simp
  rcases cert.signature with _ | bytes
  · simp
  rcases hsig : x509.signatureFromDer bytes with _ | _
  · simp [hsig]
  rcases issuer.key x509 with _ | _ <;> simp [hsig]

/-- A root certificate that the verifier accepts: it is self-signed, and has the key. -/
def RootKey (x509 : X509 Key Sig) (arkDer : Bytes) (key : Key) : Prop :=
  arkDer ≠ [] ∧ ∃ ark, x509.fromDer arkDer = .ok ark ∧ ark.issuer = ark.subject ∧
    verifyCertSignature x509 ark ark = true ∧ ark.key x509 = .ok key

variable {arkDer bytes : Bytes} {start stop : ℕ}

theorem verifyCertChain_eq_true {askDer} (hvcek : vcekDer ≠ []) :
    verifyCertChain x509 vcekDer askDer arkDer = true ↔ askDer ≠ [] ∧ arkDer ≠ [] ∧
      ∃ vcek ask ark, x509.fromDer vcekDer = .ok vcek ∧ x509.fromDer askDer = .ok ask ∧
        x509.fromDer arkDer = .ok ark ∧ vcek.issuer = ask.subject ∧ ask.issuer = ark.subject ∧
        ark.issuer = ark.subject ∧ verifyCertSignature x509 ark ark = true ∧
        verifyCertSignature x509 ask ark = true ∧ verifyCertSignature x509 vcek ask = true := by
  rw [verifyCertChain]
  by_cases hask : askDer = []
  · simp [hask, hvcek]
  by_cases hark : arkDer = []
  · simp [hark, hvcek]
  rw [if_neg (by simp [hvcek, hask, hark])]
  rcases x509.fromDer vcekDer with _ | _
  · simp
  rcases x509.fromDer askDer with _ | _
  · simp
  rcases x509.fromDer arkDer with _ | _
  · simp
  · simp only [Except.ok.injEq]
    split_ifs <;> simp_all

/-- A report is verified. -/
def Verified (x509 : X509 Key Sig) (report : AttestationReport) (nonce : Bytes) (policy : AttestationPolicy)
    (allowSimulated : Bool) (issuedAt : Option ℕ) (now : ℕ) : Prop :=
  ∃ result, verifyAttestationWithTime x509 report nonce policy allowSimulated issuedAt now = .ok result ∧
    result.verified = true

theorem verified_iff_checks : Verified x509 report nonce policy allowSimulated issuedAt now ↔ ∃ platform policyResult,
      parsePlatformInfo report.report = some platform ∧ checkPolicy platform policy = some policyResult ∧
      policyResult.passed = true ∧ verifyNonce report.report nonce = true ∧
      (checkReportAge policy issuedAt now).1 = true ∧
      if isSimulatedReport report.report then allowSimulated = true
      else verifyReportSignature x509 report.report report.certChain.vcek = true ∧
        verifyCertChain x509 report.certChain.vcek report.certChain.ask report.certChain.ark = true := by
  rw [Verified, verifyAttestationWithTime]
  rcases parsePlatformInfo report.report with _ | platform
  · simp
  rcases hpolicy : checkPolicy platform policy with _ | _
  · cases isSimulatedReport report.report <;> cases allowSimulated <;> simp [hpolicy]
  · cases isSimulatedReport report.report <;> cases allowSimulated <;> simp [hpolicy] <;> tauto

/-! ### The root of trust -/

/-- The signature of a certificate. -/
def certSignatures (x509 : X509 Key Sig) (der : Bytes) : List Sig :=
  match x509.fromDer der with
  | .error _ => []
  | .ok cert =>
    match cert.signature with
    | none => []
    | some bytes => (x509.signatureFromDer bytes).toOption.toList

/-- The signatures that a report and its certificates present. -/
def presented (x509 : X509 Key Sig) (report : AttestationReport) : List Sig :=
  (x509.signatureFromSlice (signatureBytes report.report)).toOption.toList ++
    certSignatures x509 report.certChain.vcek ++ certSignatures x509 report.certChain.ask ++
    certSignatures x509 report.certChain.ark

/-- The report was signed with the key of its VCEK, that with the key of its ASK, and that with AMD's root key. -/
def AmdCertified (x509 : X509 Key Sig) (made : Key → Bytes → Prop) (amdRoot : Key) (report : AttestationReport) :
    Prop :=
  ∃ ask vcek askKey vcekKey askTbs vcekTbs,
    x509.fromDer report.certChain.ask = .ok ask ∧ x509.fromDer report.certChain.vcek = .ok vcek ∧
    Certificate.key x509 ask = .ok askKey ∧ ask.tbsDer = .ok askTbs ∧
    Certificate.key x509 vcek = .ok vcekKey ∧ vcek.tbsDer = .ok vcekTbs ∧
    made amdRoot askTbs ∧ made askKey vcekTbs ∧ made vcekKey (signedData report.report)

/-- Whatever verifies under the root certificate `arkDer` is AMD's: for every report, chain with that root, nonce,
policy and time, if the report is not simulated and verifies then AMD certifies the key it was signed with. -/
def TrustsAmdOnly (x509 : X509 Key Sig) (amdRoot : Key) (arkDer : Bytes) : Prop :=
  ∀ (made : Key → Bytes → Prop) (report : AttestationReport) nonce policy allowSimulated issuedAt now result,
    x509.Unforged made (presented x509 report) → report.certChain.ark = arkDer →
    isSimulatedReport report.report = false →
    verifyAttestationWithTime x509 report nonce policy allowSimulated issuedAt now = .ok result →
    result.verified = true → AmdCertified x509 made amdRoot report

variable {sig : Sig}

theorem mem_certSignatures {der} (hcert : x509.fromDer der = .ok cert) (hbytes : cert.signature = some bytes)
    (hsig : x509.signatureFromDer bytes = .ok sig) : sig ∈ certSignatures x509 der := by
  simp [certSignatures, hcert, hbytes, hsig, Except.toOption]

/-- Whatever verifies under AMD's root key is AMD's. -/
theorem trustsAmdOnly_of_rootKey {amdRoot} (h : ∀ key, RootKey x509 arkDer key → key = amdRoot) :
    TrustsAmdOnly x509 amdRoot arkDer := by
  intro made report nonce policy allowSimulated issuedAt now result hunforged hark hreal hok hverified
  obtain ⟨_, _, -, -, -, -, -, hchecks⟩ := verified_iff_checks.mp ⟨result, hok, hverified⟩
  rw [hreal] at hchecks
  obtain ⟨hsignature, hchain⟩ := hchecks
  obtain ⟨-, hvcek, vcek, vcekKey, sig, hvcekCert, hvcekKey, hsig, hverify⟩ := verifyReportSignature_eq_true.1 hsignature
  obtain ⟨-, harkne, vcek', ask, ark, hvcek', hask, harkCert, -, -, hself, harkSig, haskSig, hvcekSig⟩ :=
    (verifyCertChain_eq_true hvcek).1 hchain
  obtain rfl : vcek = vcek' := Except.ok.inj (hvcekCert.symm.trans hvcek')
  obtain ⟨askTbs, _, askSig, arkKey, haskTbs, haskBytes, haskSigOk, harkKey, haskVerify⟩ :=
    verifyCertSignature_eq_true.1 haskSig
  obtain ⟨vcekTbs, _, vcekSig, askKey, hvcekTbs, hvcekBytes, hvcekSigOk, haskKey, hvcekVerify⟩ :=
    verifyCertSignature_eq_true.1 hvcekSig
  rw [hark] at harkCert harkne
  obtain rfl := h arkKey ⟨harkne, ark, harkCert, hself, harkSig, harkKey⟩
  refine ⟨ask, vcek, askKey, vcekKey, askTbs, vcekTbs, hask, hvcekCert, haskKey, haskTbs, hvcekKey, hvcekTbs, ?_, ?_, ?_⟩
  · refine hunforged askSig ?_ _ _ haskVerify
    simp [presented, mem_certSignatures hask haskBytes haskSigOk]
  · refine hunforged vcekSig ?_ _ _ hvcekVerify
    simp [presented, mem_certSignatures hvcekCert hvcekBytes hvcekSigOk]
  · refine hunforged sig ?_ _ _ hverify
    simp [presented, hsig, Except.toOption]

/-! ### A foreign root -/

/-- The signed part of a report with nothing in it but its version. -/
def blankData : Bytes := 2 :: List.replicate 671 0

/-- A report with a signature. -/
def signedReport (data sigBytes : Bytes) : Bytes :=
  data ++ (List.replicate 24 0 ++ sigBytes.take 48) ++ (List.replicate 24 0 ++ sigBytes.drop 48) ++ List.replicate 368 0

/-- A report with one certificate, which is at once the chip's, the intermediate one and the root. -/
def foreignReport (arkDer sigBytes : Bytes) : AttestationReport :=
  ⟨signedReport blankData sigBytes, ⟨arkDer, arkDer, arkDer⟩, .default⟩

theorem trimLeadingZeros_padded (h : bytes.length = 48) :
    trimLeadingZeros (List.replicate 24 0 ++ bytes) 48 = bytes := by
  have hstart : 24 ≤ ((List.replicate 24 (0 : UInt8) ++ bytes).findIdx? (· != 0)).getD 24 := by
    rw [List.findIdx?_append]
    have hnone : (List.replicate 24 (0 : UInt8)).findIdx? (· != 0) = none := by decide
    rw [hnone]
    rcases bytes.findIdx? (· != 0) with _ | _
    · simp
    · simp
  simp only [trimLeadingZeros, length_append, length_replicate, h]
  rw [Nat.min_eq_right hstart]
  simp

theorem align48_eq_self (h : bytes.length = 48) : align48 bytes = bytes := by
  simp [align48, h]

theorem slice_append (hstart : start ≤ stop) (hstop : stop ≤ a.length) :
    slice (a ++ b) start stop = slice a start stop := by
  rw [slice, slice, drop_append_of_le_length (by omega), take_append_of_le_length]
  rw [length_drop]
  omega

theorem slice_middle {c} (hstart : a.length = start) (hstop : b.length = stop - start) :
    slice (a ++ b ++ c) start stop = b := by
  rw [slice, append_assoc, drop_left' hstart, take_left' hstop]

theorem length_blankData : blankData.length = 672 := by
  rw [blankData, length_cons, length_replicate]

variable {sigBytes : Bytes}

theorem length_signedReport (h : sigBytes.length = 96) : (signedReport blankData sigBytes).length = snpReportSize := by
  simp only [signedReport, length_append, length_blankData, length_replicate, length_take, length_drop, h]
  rfl

theorem signatureBytes_signedReport (h : sigBytes.length = 96) :
    signatureBytes (signedReport blankData sigBytes) = sigBytes := by
  have hr : (sigBytes.take 48).length = 48 := by simp [h]
  have hs : (sigBytes.drop 48).length = 48 := by simp [h]
  have hfirst : slice (signedReport blankData sigBytes) 0x2A0 0x2E8 = List.replicate 24 0 ++ sigBytes.take 48 := by
    rw [signedReport, append_assoc (blankData ++ _)]
    exact slice_middle length_blankData (by simp [h])
  have hsecond : slice (signedReport blankData sigBytes) 0x2E8 0x330 = List.replicate 24 0 ++ sigBytes.drop 48 := by
    exact slice_middle (by simp [length_blankData, h]) (by simp [h])
  rw [signatureBytes, hfirst, hsecond, trimLeadingZeros_padded hr, trimLeadingZeros_padded hs, align48_eq_self hr,
    align48_eq_self hs, take_append_drop]

theorem signedData_signedReport : signedData (signedReport blankData sigBytes) = blankData := by
  rw [signedReport, append_assoc, append_assoc]
  exact take_left' length_blankData

theorem slice_signedReport (hstart : start ≤ stop) (hstop : stop ≤ 672) :
    slice (signedReport blankData sigBytes) start stop = slice blankData start stop := by
  rw [signedReport, append_assoc, append_assoc]
  exact slice_append hstart (by rwa [length_blankData])

theorem not_simulated_signedReport (h : sigBytes.length = 96) :
    isSimulatedReport (signedReport blankData sigBytes) = false := by
  rw [isSimulatedReport, length_signedReport h, slice_signedReport (by omega) (by omega)]
  decide +kernel

theorem checkPolicy_default (h : platform.policy.testBit 19 = false) :
    checkPolicy platform .default = some ⟨true, []⟩ := by
  simp [checkPolicy, AttestationPolicy.default, checkMeasurement, checkTcb, checkPolicyMask,
    PolicyResult.fromViolations, h]

variable {key : Key}

theorem foreignReport_verified (hroot : RootKey x509 arkDer key) (hlen : sigBytes.length = 96)
    (hsig : x509.signatureFromSlice sigBytes = .ok sig) (hverify : x509.verify key blankData sig = true) :
    Verified x509 (foreignReport arkDer sigBytes) [] .default false none 0 := by
  obtain ⟨hne, ark, hark, hself, hselfSig, hkey⟩ := hroot
  have hsignature : verifyReportSignature x509 (signedReport blankData sigBytes) arkDer = true := by
    rw [verifyReportSignature_eq_true, length_signedReport hlen, signatureBytes_signedReport hlen,
      signedData_signedReport]
    exact ⟨le_rfl, hne, ark, key, sig, hark, hkey, hsig, hverify⟩
  have hchain : verifyCertChain x509 arkDer arkDer arkDer = true :=
    (verifyCertChain_eq_true hne).2 ⟨hne, hne, ark, ark, ark, hark, hark, hark, hself, hself, hself, hselfSig, hselfSig,
      hselfSig⟩
  have hnonce : verifyNonce (signedReport blankData sigBytes) [] = true := by
    rw [verifyNonce, length_signedReport hlen, if_neg (by decide)]
    simp
  obtain ⟨platform, hplatform, hbits⟩ : ∃ platform, parsePlatformInfo (signedReport blankData sigBytes) = some platform ∧
      platform.policy.testBit 19 = false := by
    refine ⟨_, if_neg (by rw [length_signedReport hlen]; exact lt_irrefl _), ?_⟩
    show (fromLeBytes (slice (signedReport blankData sigBytes) 0x08 0x10)).testBit 19 = false
    rw [slice_signedReport (by omega) (by omega)]
    decide +kernel
  refine verified_iff_checks.mpr ⟨platform, _, hplatform, checkPolicy_default hbits, rfl, hnonce, rfl, ?_⟩
  rw [foreignReport, not_simulated_signedReport hlen]
  exact ⟨hsignature, hchain⟩

/-- A signature has an encoding of fixed size. -/
def FixedSize (x509 : X509 Key Sig) : Prop :=
  ∀ sig, ∃ bytes, bytes.length = 96 ∧ x509.signatureFromSlice bytes = .ok sig

theorem mem_certSignatures_root (hroot : RootKey x509 arkDer key) (hsig : sig ∈ certSignatures x509 arkDer) :
    ∃ message, x509.verify key message sig = true := by
  obtain ⟨-, _, hark, -, hself, hkey⟩ := hroot
  obtain ⟨tbs, _, sig', key', -, hbytes, hsig', hkey', hverify⟩ := verifyCertSignature_eq_true.1 hself
  obtain rfl : key' = key := Except.ok.inj (hkey'.symm.trans hkey)
  obtain rfl : sig = sig' := by simpa [certSignatures, hark, hbytes, hsig', Except.toOption] using hsig
  exact ⟨tbs, hverify⟩

/-- The holder of a self-signed certificate has a report verified that AMD has nothing to do with. -/
theorem exists_foreign_report (hideal : x509.Ideal) (hfixed : FixedSize x509) {amdRoot}
    (hroot : RootKey x509 arkDer key) (hkey : key ≠ amdRoot) : ¬ TrustsAmdOnly x509 amdRoot arkDer := by
  intro htrust
  obtain ⟨-, _, -, -, hself, hkeyOk⟩ := id hroot
  obtain ⟨_, _, _, key', -, -, -, hkey', hverify₀⟩ := verifyCertSignature_eq_true.1 hself
  obtain rfl : key' = key := Except.ok.inj (hkey'.symm.trans hkeyOk)
  obtain ⟨sig, hverify⟩ := hideal.can_sign hverify₀ blankData
  obtain ⟨sigBytes, hlen, hsig⟩ := hfixed sig
  obtain ⟨_, hok, hverified⟩ := foreignReport_verified hroot hlen hsig hverify
  -- in a world in which AMD has signed nothing, no presented signature is forged
  have hpresented : ∀ s ∈ presented x509 (foreignReport arkDer sigBytes), ∃ message,
      x509.verify key' message s = true := by
    intro s hs
    simp only [presented, foreignReport, signatureBytes_signedReport hlen, hsig, mem_append] at hs
    rcases hs with ((hs | hs) | hs) | hs
    · obtain rfl : s = sig := by simpa [Except.toOption] using hs
      exact ⟨blankData, hverify⟩
    all_goals exact mem_certSignatures_root hroot hs
  obtain ⟨_, _, _, _, _, _, -, -, -, -, -, -, hmade, -⟩ := htrust _ _ _ _ _ _ _ _
    (hideal.unforged_madeWithout hkey hpresented) rfl (not_simulated_signedReport hlen) hok hverified
  exact hmade.1 rfl

/-- **Whom a root certificate trusts.** What verifies under a root certificate is AMD's exactly if the
certificate, when it is self-signed, carries AMD's root key. -/
theorem verified_iff_amd_root (hideal : x509.Ideal) (hfixed : FixedSize x509) (amdRoot : Key) (arkDer : Bytes) :
    TrustsAmdOnly x509 amdRoot arkDer ↔ ∀ key, RootKey x509 arkDer key → key = amdRoot := by
  constructor
  · intro htrust key hroot
    by_contra hkey
    exact exists_foreign_report hideal hfixed hroot hkey htrust
  · exact trustsAmdOnly_of_rootKey

/-! ### Toy certificates -/

/-- Keys of one byte, and signatures that are the key and a checksum. A certificate is its issuer, its subject,
its key and its signature, of one byte each but the last. -/
def checksumX509 : X509 UInt8 (UInt8 × UInt8) where
  verify key message sig := sig == (key, message.sum)
  fromDer
    | [issuer, subject, key, signer, sum] =>
      .ok { issuer := [issuer], subject := [subject], publicKey := some [key], spkiDer := .ok [key]
            tbsDer := .ok [issuer, subject, key], signature := some [signer, sum], extensions := none }
    | _ => .error "not a certificate"
  keyFromSec1
    | [key] => .ok key
    | _ => .error "not a key"
  signatureFromSlice bytes := .ok (bytes.getD 0 0, bytes.getD 48 0)
  signatureFromDer
    | [signer, sum] => .ok (signer, sum)
    | _ => .error "not a signature"

theorem checksumX509_ideal : checksumX509.Ideal where
  key_unique h h' := by
    simp only [checksumX509, beq_iff_eq] at h h'
    exact (Prod.mk.inj (h.symm.trans h')).1
  can_sign {key _ _} _ message' := ⟨(key, message'.sum), by simp [checksumX509]⟩

theorem checksumX509_fixedSize : FixedSize checksumX509 := fun sig =>
  ⟨sig.1 :: List.replicate 47 0 ++ sig.2 :: List.replicate 47 0, by simp, by simp [checksumX509]⟩

theorem verified_iff_amd_root_checksum : TrustsAmdOnly checksumX509 1 [0, 0, 1, 1, 1] := by
  refine (verified_iff_amd_root checksumX509_ideal checksumX509_fixedSize 1 [0, 0, 1, 1, 1]).2 ?_
  rintro key ⟨-, ark, hark, -, -, hkey⟩
  obtain rfl := Except.ok.inj hark
  exact (Except.ok.inj hkey).symm

/-- A self-signed certificate with the key `2` has a report verified, while AMD's root key is `1`. -/
theorem foreign_root_verified :
    ∃ (Key Sig : Type) (x509 : X509 Key Sig) (amdRoot : Key) (arkDer : Bytes), x509.Ideal ∧ FixedSize x509 ∧
      ¬ TrustsAmdOnly x509 amdRoot arkDer :=
  ⟨UInt8, UInt8 × UInt8, checksumX509, 1, [0, 0, 2, 2, 2], checksumX509_ideal, checksumX509_fixedSize,
    exists_foreign_report checksumX509_ideal checksumX509_fixedSize
      ⟨by decide, _, rfl, rfl, by decide, rfl⟩ (by decide : (2 : UInt8) ≠ 1)⟩

/-! ### Freshness -/

/-- A report is fresh: its data are the whole nonce, with zeros after it; and if the policy limits the age, then it is
known when the nonce was issued, and that was not too long ago. -/
def Fresh (report nonce : Bytes) (policy : AttestationPolicy) (issuedAt : Option ℕ) (now : ℕ) : Prop :=
  slice report 0x50 0x90 = nonce ++ List.replicate (64 - nonce.length) 0 ∧
    ∀ maxAge ∈ policy.maxReportAgeSecs, ∃ issued ∈ issuedAt, issued ≤ now ∧ now - issued ≤ maxAge

theorem checkReportAge_fst : (checkReportAge policy issuedAt now).1 = true ↔
    ∀ maxAge ∈ policy.maxReportAgeSecs, ∀ issued ∈ issuedAt, issued ≤ now ∧ now - issued ≤ maxAge := by
  rw [checkReportAge]
  rcases policy.maxReportAgeSecs with _ | _
  · simp
  rcases issuedAt with _ | _
  · simp
  · simp only [Option.mem_def]
    split_ifs <;> simp <;> omega

theorem whole_nonce_iff {report} (h : verifyNonce report nonce = true) :
    slice report 0x50 0x90 = nonce ++ List.replicate (64 - nonce.length) 0 ↔
      nonce.length ≤ 64 ∧ ∀ b ∈ (slice report 0x50 0x90).drop nonce.length, b = 0 := by
  simp only [verifyNonce, Bool.if_false_left, Bool.and_eq_true, beq_iff_eq, Bool.not_eq_true',
    decide_eq_false_iff_not] at h
  have hlen : (slice report 0x50 0x90).length = 64 := by
    rw [slice, length_take, length_drop]
    omega
  constructor
  · intro hdata
    have hle := congrArg List.length hdata
    rw [length_append] at hle
    refine ⟨by omega, fun b hb => ?_⟩
    rw [hdata, drop_left] at hb
    exact eq_of_mem_replicate hb
  · rintro ⟨hle, hzero⟩
    have hfirst := h.2
    rw [Nat.min_eq_left hle, take_length] at hfirst
    have hrest := eq_replicate_of_mem hzero
    rw [length_drop, hlen] at hrest
    rw [← hrest, ← take_append_drop nonce.length (slice report 0x50 0x90), hfirst, drop_left]

/-- **Which verified reports are fresh.** Whatever is verified is fresh exactly if the nonce has at most 64 bytes, the
data after it are zeros, and the time of issue is passed in whenever the policy limits the age. -/
theorem verified_fresh_iff (x509 : X509 Key Sig) (report : AttestationReport) (nonce : Bytes)
    (policy : AttestationPolicy) (allowSimulated : Bool) (issuedAt : Option ℕ) (now : ℕ) :
    (Verified x509 report nonce policy allowSimulated issuedAt now → Fresh report.report nonce policy issuedAt now) ↔
      (Verified x509 report nonce policy allowSimulated issuedAt now → nonce.length ≤ 64 ∧
        (∀ b ∈ (slice report.report 0x50 0x90).drop nonce.length, b = 0) ∧
        (policy.maxReportAgeSecs.isSome → issuedAt.isSome)) := by
  refine forall_congr' fun h => ?_
  obtain ⟨_, _, -, -, -, hnonce, hage, -⟩ := verified_iff_checks.mp h
  rw [checkReportAge_fst] at hage
  rw [Fresh, whole_nonce_iff hnonce, and_assoc]
  refine and_congr_right' (and_congr_right' ?_)
  rcases hmax : policy.maxReportAgeSecs with _ | maxAge
  · simp
  rcases issuedAt with _ | _
  · simp
  · simpa using hage maxAge hmax

/-- Only the first 64 bytes of a nonce are compared, and without a time of issue no age is checked. -/
theorem stale_verified : ∃ report nonce policy, Verified checksumX509 report nonce policy true none 100 ∧
      ¬ Fresh report.report nonce policy none 100 := by
  refine ⟨⟨0xA3 :: List.replicate 1183 0, .default, .default⟩, List.replicate 65 0,
    { AttestationPolicy.default with maxReportAgeSecs := some 60 },
    verified_iff_checks.mpr ⟨_, ⟨true, []⟩, if_neg (by decide +kernel), ?_⟩, fun h => ?_⟩
  · decide +kernel
  · obtain ⟨_, h, -⟩ := h.2 60 rfl
    cases h

end A3sBox.Tee
