import A3sBox.Library.Aead
import A3sBox.Library.Text

/-!
# Attestation reports and policies

`runtime/src/tee/attestation.rs`, `policy.rs` and `simulate.rs`: the report that
the processor signs, the certificates that come with it, what is read from the
report, and what a verifier may require of it.

Numbers in a report are little-endian.
-/

namespace A3sBox.Tee

open Text

/-- The size of a report. -/
def snpReportSize : ℕ := 1184

/-- The number written in little-endian bytes. -/
def fromLeBytes : Bytes → ℕ
  | [] => 0
  | b :: bytes => b.toNat + 256 * fromLeBytes bytes

/-- The bytes `start` to `stop` of a report, `stop` not included. -/
def slice (report : Bytes) (start stop : ℕ) : Bytes := (report.drop start).take (stop - start)

/-- The certificates that certify the signature of a report, each as DER. -/
structure CertificateChain where
  vcek : Bytes
  /-- The intermediate certificate, which signs the chip's. -/
  ask : Bytes
  /-- The root certificate, which signs the intermediate one. -/
  ark : Bytes
  deriving DecidableEq, Repr

/-- No certificates. -/
def CertificateChain.default : CertificateChain := ⟨[], [], []⟩

/-- The versions of the trusted computing base. -/
structure TcbVersion where
  bootLoader : UInt8
  tee : UInt8
  snp : UInt8
  microcode : UInt8
  deriving DecidableEq, Repr

/-- What is read from a report. -/
structure PlatformInfo where
  version : ℕ
  guestSvn : ℕ
  policy : ℕ
  measurement : String
  tcbVersion : TcbVersion
  chipId : String
  deriving DecidableEq, Repr

/-- Nothing is known. -/
def PlatformInfo.default : PlatformInfo := ⟨0, 0, 0, "", ⟨0, 0, 0, 0⟩, ""⟩

/-- An attestation report with its certificates. -/
structure AttestationReport where
  report : Bytes
  certChain : CertificateChain
  platform : PlatformInfo
  deriving DecidableEq, Repr

/-- Read a report. -/
def parsePlatformInfo (report : Bytes) : Option PlatformInfo :=
  if report.length < snpReportSize then none
  else some
    { version := fromLeBytes (slice report 0x00 0x04)
      guestSvn := fromLeBytes (slice report 0x04 0x08)
      policy := fromLeBytes (slice report 0x08 0x10)
      measurement := hexEncode (slice report 0x90 0xC0)
      tcbVersion :=
        { bootLoader := report.getD 0x38 0
          tee := report.getD 0x39 0
          snp := report.getD 0x3E 0
          microcode := report.getD 0x3F 0 }
      chipId := hexEncode (slice report 0x1A0 0x1E0) }

/-- The version of a simulated report. -/
def simulatedReportVersion : ℕ := 0xA3

/-- A report is simulated. -/
def isSimulatedReport (report : Bytes) : Bool :=
  if report.length < 4 then false else fromLeBytes (slice report 0x00 0x04) == simulatedReportVersion

/-! ### Policies -/

/-- The least versions of the trusted computing base; only those that are set are checked. -/
structure MinTcbPolicy where
  bootLoader : Option UInt8
  tee : Option UInt8
  snp : Option UInt8
  microcode : Option UInt8
  deriving DecidableEq, Repr

/-- What a verifier requires of a report; only what is set is checked. -/
structure AttestationPolicy where
  expectedMeasurement : Option String
  minTcb : Option MinTcbPolicy
  requireNoDebug : Bool
  requireNoSmt : Bool
  allowedPolicyMask : Option ℕ
  maxReportAgeSecs : Option ℕ
  deriving DecidableEq, Repr

/-- The policy that only requires debugging to be off. -/
def AttestationPolicy.default : AttestationPolicy := ⟨none, none, true, false, none, none⟩

/-- A requirement that a report does not meet. -/
structure PolicyViolation where
  check : String
  reason : String
  deriving DecidableEq, Repr

/-- The text of a violation. -/
def PolicyViolation.toText (v : PolicyViolation) : String := s!"{v.check}: {v.reason}"

/-- The result of checking a policy. -/
structure PolicyResult where
  passed : Bool
  violations : List PolicyViolation
  deriving DecidableEq, Repr

/-- The result of a check. -/
def PolicyResult.fromViolations (violations : List PolicyViolation) : PolicyResult :=
  ⟨violations.isEmpty, violations⟩

end A3sBox.Tee
