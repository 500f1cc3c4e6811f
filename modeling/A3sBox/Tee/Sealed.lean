import A3sBox.Core.Error
import A3sBox.Library.Aead
import A3sBox.Library.Text

/-!
# Sealed storage

`runtime/src/tee/sealed.rs`: data is encrypted under a key derived from the identity in an attestation report, so that
only the same guest, on the same chip, or both, can decrypt it. `guest/init/src/attest_server/handlers.rs` does so in
the guest, with data in base64.

## The model

The cryptography of `ring` and base64 are parameters: HKDF-SHA256, and AES-256-GCM as an authenticated cipher. The
random nonce is an argument; `none` is a generator that fails.

`unsealed_iff_same_identity`: with which reports data is unsealed. `guest_and_host_agree`: what one seals the other
unseals, and they fail on the same inputs.
-/

namespace A3sBox.Tee

open Text List

/-- The cryptographic functions of the `ring` crate. -/
structure Ring where
  /-- HKDF-SHA256 of a salt, key material and info, with 32 bytes of output. -/
  hkdf : Bytes → Bytes → Bytes → Bytes
  aead : Aead

/-- The salt of the key derivation. -/
def hkdfSalt : Bytes := utf8 "a3s-sealed-storage-v1"

/-- The length of a nonce. -/
def nonceLen : ℕ := 12

/-- A nonce. -/
def Nonce := {bytes : Bytes // bytes.length = nonceLen}

/-- What of the identity the key is bound to. -/
inductive SealingPolicy where
  | measurementAndChip
  | measurementOnly
  | chipOnly
  deriving DecidableEq, Repr

/-- Sealed data. -/
structure SealedData where
  policy : SealingPolicy
  context : String
  blob : Bytes
  deriving DecidableEq, Repr

/-- What runs in the guest. -/
def measurement (report : Bytes) : Bytes := (report.drop 0x90).take 48

/-- The chip it runs on. -/
def chipId (report : Bytes) : Bytes := (report.drop 0x1A0).take 64

/-- What a policy selects. -/
def keyMaterial (report : Bytes) : SealingPolicy → Bytes
  | .measurementAndChip => measurement report ++ chipId report
  | .measurementOnly => measurement report
  | .chipOnly => chipId report

/-- The key for a context. -/
def deriveSealingKey (ring : Ring) (report : Bytes) (context : String) (policy : SealingPolicy) :
    Except BoxError Bytes :=
  if report.length < 0x1E0 then .error (.attestationError "Report too short to extract sealing identity")
  else .ok (ring.hkdf hkdfSalt (keyMaterial report policy) (utf8 context))

/-- Seal data (`seal`). -/
def sealData (ring : Ring) (report plaintext : Bytes) (context : String) (policy : SealingPolicy)
    (random : Option Nonce) : Except BoxError SealedData :=
  match deriveSealingKey ring report context policy with
  | .error e => .error e
  | .ok key =>
    match random with
    | none => .error (.attestationError "Failed to generate random nonce")
    | some nonce =>
      .ok ⟨policy, context, nonce.val ++ ring.aead.encrypt key nonce.val (utf8 context) plaintext⟩

/-- Unseal data (`unseal`). -/
def unsealData (ring : Ring) (report : Bytes) (sealed : SealedData) : Except BoxError Bytes :=
  if sealed.blob.length < nonceLen + Aead.tagLen then .error (.attestationError "Sealed blob too short")
  else
    match deriveSealingKey ring report sealed.context sealed.policy with
    | .error e => .error e
    | .ok key =>
      match ring.aead.decrypt key (sealed.blob.take nonceLen) (utf8 sealed.context) (sealed.blob.drop nonceLen) with
      | none => .error (.attestationError "Unseal failed: TEE identity mismatch or data corrupted")
      | some plaintext => .ok plaintext

variable {ring : Ring} {report plaintext : Bytes} {context : String} {policy : SealingPolicy}

theorem deriveSealingKey_ok {key} : deriveSealingKey ring report context policy = .ok key ↔
    0x1E0 ≤ report.length ∧ ring.hkdf hkdfSalt (keyMaterial report policy) (utf8 context) = key := by
  rw [deriveSealingKey]
  split_ifs with h
  · simp [Nat.not_le.mpr h]
  · simp [Nat.not_lt.mp h]

variable {sealed : SealedData} {random : Option Nonce}

theorem sealData_ok (h : sealData ring report plaintext context policy random = .ok sealed) :
    ∃ key nonce, deriveSealingKey ring report context policy = .ok key ∧ random = some nonce ∧
      sealed = ⟨policy, context, nonce.val ++ ring.aead.encrypt key nonce.val (utf8 context) plaintext⟩ := by
  rw [sealData] at h
  rcases hkey : deriveSealingKey ring report context policy with _ | key
  · simp [hkey] at h
  rcases random with _ | nonce
  · simp [hkey] at h
  · simp only [hkey, Except.ok.injEq] at h
    exact ⟨key, nonce, rfl, rfl, h.symm⟩

theorem unsealData_ok (h : unsealData ring report sealed = .ok plaintext) :
    nonceLen + Aead.tagLen ≤ sealed.blob.length ∧
      ∃ key, deriveSealingKey ring report sealed.context sealed.policy = .ok key ∧
        ring.aead.decrypt key (sealed.blob.take nonceLen) (utf8 sealed.context) (sealed.blob.drop nonceLen) =
          some plaintext := by
  rw [unsealData] at h
  split_ifs at h with hlen
  rcases hkey : deriveSealingKey ring report sealed.context sealed.policy with _ | key
  · simp [hkey] at h
  simp only [hkey] at h
  split at h
  · simp at h
  next text hdecrypt =>
    obtain rfl := Except.ok.inj h
    exact ⟨by omega, key, rfl, hdecrypt⟩

theorem unsealData_sealData (haead : ring.aead.Lawful)
    (h : sealData ring report plaintext context policy random = .ok sealed) :
    unsealData ring report sealed = .ok plaintext := by
  obtain ⟨key, nonce, hkey, -, rfl⟩ := sealData_ok h
  have hlen := haead.length_encrypt key nonce.val (utf8 context) plaintext
  have hnonce := nonce.property
  rw [unsealData, if_neg (by simp only [length_append]; omega)]
  simp only [hkey, take_left' hnonce, drop_left' hnonce, haead.decrypt_encrypt]

theorem exists_sealData (h : 0x1E0 ≤ report.length) (nonce : Nonce) :
    ∃ sealed, sealData ring report plaintext context policy (some nonce) = .ok sealed := by
  rw [sealData, deriveSealingKey_ok.mpr ⟨h, rfl⟩]
  exact ⟨_, rfl⟩

/-! ### What the data is bound to -/

/-- The reports agree on what the policy selects. -/
def SameIdentity (report report' : Bytes) : SealingPolicy → Prop
  | .measurementAndChip => measurement report = measurement report' ∧ chipId report = chipId report'
  | .measurementOnly => measurement report = measurement report'
  | .chipOnly => chipId report = chipId report'

/-- The encryption with which data is sealed. -/
def sealing (ring : Ring) (report plaintext : Bytes) (context : String) (policy : SealingPolicy) (nonce : Nonce) :
    Aead.Encryption :=
  ⟨ring.hkdf hkdfSalt (keyMaterial report policy) (utf8 context), nonce.val, utf8 context, plaintext⟩

/-- Sealed data that is presented decrypts only if it was encrypted in the history. -/
def Genuine (ring : Ring) (history : List Aead.Encryption) (report : Bytes) (sealed : SealedData) : Prop :=
  ring.aead.Unforged history (ring.hkdf hkdfSalt (keyMaterial report sealed.policy) (utf8 sealed.context))
    (sealed.blob.take nonceLen) (utf8 sealed.context) (sealed.blob.drop nonceLen)

/-- What is unsealed was encrypted, under the key of the report. -/
theorem Genuine.exists_encryption (haead : ring.aead.Lawful) {history}
    (h : Genuine ring history report sealed) (hunseal : unsealData ring report sealed = .ok plaintext) :
    ∃ e ∈ history, deriveSealingKey ring report sealed.context sealed.policy = .ok e.key ∧
      e.nonce = sealed.blob.take nonceLen ∧ e.aad = utf8 sealed.context ∧ e.text = plaintext ∧
      e.nonce ++ e.result ring.aead = sealed.blob := by
  obtain ⟨-, _, hkey, hdecrypt⟩ := unsealData_ok hunseal
  obtain ⟨-, rfl⟩ := deriveSealingKey_ok.mp hkey
  obtain ⟨hmem, hresult⟩ := Aead.Unforged.exists_encryption haead h hdecrypt
  refine ⟨_, hmem, hkey, rfl, rfl, rfl, ?_⟩
  rw [Aead.Encryption.result, hresult, take_append_drop]

theorem keyMaterial_eq_iff {report'} (h : 0x1E0 ≤ report.length) (h' : 0x1E0 ≤ report'.length) :
    keyMaterial report policy = keyMaterial report' policy ↔ SameIdentity report report' policy := by
  have hlen : ∀ report : Bytes, 0x1E0 ≤ report.length → (measurement report).length = 48 := by
    intro report h
    rw [measurement, length_take, length_drop]
    omega
  cases policy with
  | measurementAndChip =>
    refine ⟨fun heq => append_inj heq (by rw [hlen _ h, hlen _ h']), ?_⟩
    rintro ⟨hmeasurement, hchip⟩
    rw [keyMaterial, keyMaterial, hmeasurement, hchip]
  | measurementOnly => exact .rfl
  | chipOnly => exact .rfl

/-- **Sealed data is bound to the identity.** If the nonce is used once, it is unsealed exactly by a report that agrees
with the one it was sealed with. Data that is unsealed, whatever was changed of it, was sealed under the key it is
opened with; and if it has this nonce then its blob is the same and its key too. -/
theorem unsealed_iff_same_identity (haead : ring.aead.Lawful) (report report' plaintext : Bytes) (context : String)
    (policy : SealingPolicy) (nonce : Nonce) (history : List Aead.Encryption)
    (hhkdf : ring.hkdf hkdfSalt (keyMaterial report' policy) (utf8 context) =
      ring.hkdf hkdfSalt (keyMaterial report policy) (utf8 context) →
        keyMaterial report policy = keyMaterial report' policy)
    (hfresh : ∀ e ∈ history, e.nonce = nonce.val → e = sealing ring report plaintext context policy nonce)
    (hgenuine : ∀ sealed, sealData ring report plaintext context policy (some nonce) = .ok sealed →
      Genuine ring history report' sealed) :
    ((∃ sealed, sealData ring report plaintext context policy (some nonce) = .ok sealed ∧
        unsealData ring report' sealed = .ok plaintext) ↔
      0x1E0 ≤ report.length ∧ 0x1E0 ≤ report'.length ∧ SameIdentity report report' policy) ∧
    ∀ sealed changed text, sealData ring report plaintext context policy (some nonce) = .ok sealed →
      Genuine ring history report' changed → unsealData ring report' changed = .ok text →
      (∃ e ∈ history, deriveSealingKey ring report' changed.context changed.policy = .ok e.key ∧
        e.aad = utf8 changed.context ∧ e.text = text ∧ e.nonce ++ e.result ring.aead = changed.blob) ∧
      (changed.blob.take nonceLen = nonce.val → changed.blob = sealed.blob ∧
        deriveSealingKey ring report' changed.context changed.policy =
          deriveSealingKey ring report context policy) := by
  refine ⟨⟨?_, ?_⟩, ?_⟩
  · rintro ⟨sealed, hseal, hunseal⟩
    obtain ⟨e, hmem, hkey', hnonce, -⟩ := (hgenuine sealed hseal).exists_encryption haead hunseal
    obtain ⟨_, _, hkey, hrandom, rfl⟩ := sealData_ok hseal
    cases hrandom
    obtain rfl := hfresh e hmem (hnonce.trans (take_left' nonce.property))
    obtain ⟨hlen, -⟩ := deriveSealingKey_ok.mp hkey
    obtain ⟨hlen', hsame⟩ := deriveSealingKey_ok.mp hkey'
    exact ⟨hlen, hlen', (keyMaterial_eq_iff hlen hlen').mp (hhkdf hsame)⟩
  · rintro ⟨hlen, hlen', hsame⟩
    have hkeys : deriveSealingKey ring report' context policy = deriveSealingKey ring report context policy := by
      rw [deriveSealingKey_ok.mpr ⟨hlen, rfl⟩, deriveSealingKey_ok.mpr ⟨hlen', rfl⟩,
        (keyMaterial_eq_iff hlen hlen').mpr hsame]
    obtain ⟨sealed, hseal⟩ := @exists_sealData ring report plaintext context policy hlen nonce
    refine ⟨sealed, hseal, ?_⟩
    rw [← unsealData_sealData haead hseal]
    obtain ⟨-, -, -, -, rfl⟩ := sealData_ok hseal
    rw [unsealData, unsealData, hkeys]
  · intro sealed changed text hseal hchanged hunseal
    obtain ⟨e, hmem, hkey', hnonce, haad, htext, hblob⟩ := hchanged.exists_encryption haead hunseal
    refine ⟨⟨e, hmem, hkey', haad, htext, hblob⟩, fun hsame => ?_⟩
    obtain rfl := hfresh e hmem (hnonce.trans hsame)
    obtain ⟨_, _, hkey, hrandom, rfl⟩ := sealData_ok hseal
    cases hrandom
    obtain ⟨-, rfl⟩ := deriveSealingKey_ok.mp hkey
    exact ⟨hblob.symm, hkey'.trans hkey.symm⟩

/-- A key of 32 bytes that are the sum of its material, and checksums in place of a cipher. -/
def plainRing : Ring := ⟨fun _ ikm info => List.replicate 32 (ikm ++ info).sum, Aead.checksum⟩

/-- `unsealed_iff_same_identity` at a report of zeros, and one from the same chip with another measurement. -/
theorem unsealed_on_same_chip : ∃ sealed, sealData plainRing (List.replicate 0x1E0 0) [1] "keys" .chipOnly
    (some ⟨List.replicate nonceLen 7, length_replicate⟩) = .ok sealed ∧
      unsealData plainRing (List.replicate 0x90 0 ++ List.replicate 48 1 ++ List.replicate 0x120 0) sealed =
        .ok [1] := by
  have hsame : keyMaterial (List.replicate 0x1E0 0) .chipOnly =
      keyMaterial (List.replicate 0x90 0 ++ List.replicate 48 1 ++ List.replicate 0x120 0) .chipOnly := by
    decide +kernel
  refine (unsealed_iff_same_identity Aead.checksum_lawful _ _ _ _ _ _
    [sealing plainRing (List.replicate 0x1E0 0) [1] "keys" .chipOnly ⟨List.replicate nonceLen 7, length_replicate⟩]
    (fun _ => hsame) (fun e he _ => mem_singleton.mp he) fun sealed hseal => ?_).1.mpr
    ⟨length_replicate.ge, by decide +kernel, hsame⟩
  obtain ⟨_, _, hkey, hnonce, rfl⟩ := sealData_ok hseal
  obtain ⟨-, rfl⟩ := deriveSealingKey_ok.mp hkey
  cases hnonce
  have hkeys := congrArg (fun ikm => plainRing.hkdf hkdfSalt ikm (utf8 "keys")) hsame
  exact fun _ => ⟨_, mem_singleton_self _, hkeys, rfl, rfl, rfl⟩

/-! ### Sealing by the guest -/

/-- The standard engine of the `base64` crate. -/
structure Base64 where
  encode : Bytes → String
  decode : String → Except String Bytes

/-- What a guest is asked to seal. -/
structure SealRequest where
  data : String
  context : String
  policy : String

/-- What was sealed. -/
structure SealResponse where
  blob : String
  policy : String
  context : String

/-- What a guest is asked to unseal. -/
structure UnsealRequest where
  blob : String
  context : String
  policy : String

/-- A policy as it is written in a request. -/
def SealingPolicy.name : SealingPolicy → String
  | .measurementAndChip => "MeasurementAndChip"
  | .measurementOnly => "MeasurementOnly"
  | .chipOnly => "ChipOnly"

/-- The salt of the guest's own key derivation. -/
def Guest.hkdfSalt : Bytes := utf8 "a3s-sealed-storage-v1"

/-- The guest's own derivation of the key; an unknown policy binds to both. -/
def deriveGuestSealingKey (ring : Ring) (report : Bytes) (context policy : String) : Except String Bytes :=
  if report.length < 0x1E0 then .error "Report too short to extract sealing identity"
  else
    let measurement := (report.drop 0x90).take 48
    let chipId := (report.drop 0x1A0).take 64
    let ikm := match policy with
      | "MeasurementAndChip" => measurement ++ chipId
      | "MeasurementOnly" => measurement
      | "ChipOnly" => chipId
      | _ => measurement ++ chipId
    .ok (ring.hkdf Guest.hkdfSalt ikm (utf8 context))

/-- Seal the data of a request; an error is the text that is sent back. -/
def handleSealRequest (ring : Ring) (base64 : Base64) (report : Bytes) (req : SealRequest) (random : Option Nonce) :
    Except String SealResponse :=
  match base64.decode req.data with
  | .error e => .error s!"Invalid base64 data: {e}"
  | .ok plaintext =>
    match deriveGuestSealingKey ring report req.context req.policy with
    | .error e => .error e
    | .ok key =>
      match random with
      | none => .error "Failed to generate nonce"
      | some nonce =>
        let blob := nonce.val ++ ring.aead.encrypt key nonce.val (utf8 req.context) plaintext
        .ok ⟨base64.encode blob, req.policy, req.context⟩

/-- Unseal the blob of a request, to data in base64. -/
def handleUnsealRequest (ring : Ring) (base64 : Base64) (report : Bytes) (req : UnsealRequest) : Except String String :=
  match base64.decode req.blob with
  | .error e => .error s!"Invalid base64 blob: {e}"
  | .ok blob =>
    if blob.length < nonceLen + Aead.tagLen then .error "Sealed blob too short"
    else
      match deriveGuestSealingKey ring report req.context req.policy with
      | .error e => .error e
      | .ok key =>
        match ring.aead.decrypt key (blob.take nonceLen) (utf8 req.context) (blob.drop nonceLen) with
        | none => .error "Unseal failed: TEE identity mismatch or data corrupted"
        | some plaintext => .ok (base64.encode plaintext)

/-- The host and the guest derive the same key, or both fail. -/
theorem deriveGuestSealingKey_cases (ring) (report) (context) (policy) :
    (∃ e e', deriveGuestSealingKey ring report context policy.name = .error e ∧
      deriveSealingKey ring report context policy = .error e') ∨
    ∃ key, deriveGuestSealingKey ring report context policy.name = .ok key ∧
      deriveSealingKey ring report context policy = .ok key := by
  unfold deriveGuestSealingKey deriveSealingKey
  split_ifs
  · exact .inl ⟨_, _, rfl, rfl⟩
  · refine .inr ⟨_, ?_, rfl⟩
    cases policy <;> rfl

/-- The answer to a request to seal that the host's functions give. -/
def hostSeal (ring : Ring) (base64 : Base64) (report : Bytes) (text context : String) (policy : SealingPolicy)
    (random : Option Nonce) : Option SealResponse := do
  let plaintext ← (base64.decode text).toOption
  let sealed ← (sealData ring report plaintext context policy random).toOption
  return ⟨base64.encode sealed.blob, policy.name, context⟩

/-- The answer to a request to unseal that the host's functions give. -/
def hostUnseal (ring : Ring) (base64 : Base64) (report : Bytes) (text context : String) (policy : SealingPolicy) :
    Option String := do
  let blob ← (base64.decode text).toOption
  let plaintext ← (unsealData ring report ⟨policy, context, blob⟩).toOption
  return base64.encode plaintext

variable {base64 : Base64} {text : String}

/-- The guest seals as the host does, and fails where the host fails. -/
theorem handleSealRequest_toOption :
    (handleSealRequest ring base64 report ⟨text, context, policy.name⟩ random).toOption =
      hostSeal ring base64 report text context policy random := by
  rw [handleSealRequest, hostSeal]
  cases base64.decode text with
  | error => rfl
  | ok =>
    obtain ⟨_, _, hguest, hhost⟩ | ⟨_, hguest, hhost⟩ := deriveGuestSealingKey_cases ring report context policy
    · simp only [sealData, hguest, hhost]
      rfl
    · simp only [sealData, hguest, hhost]
      cases random <;> rfl

theorem handleUnsealRequest_toOption : (handleUnsealRequest ring base64 report ⟨text, context, policy.name⟩).toOption =
      hostUnseal ring base64 report text context policy := by
  rw [handleUnsealRequest, hostUnseal]
  cases base64.decode text with
  | error => rfl
  | ok blob =>
    change (if _ then _ else _ : Except String String).toOption = (unsealData _ _ _).toOption.bind _
    rw [unsealData]
    split_ifs
    · rfl
    obtain ⟨_, _, hguest, hhost⟩ | ⟨key, hguest, hhost⟩ := deriveGuestSealingKey_cases ring report context policy
    · simp only [hguest, hhost]
      rfl
    · simp only [hguest, hhost]
      cases ring.aead.decrypt key (blob.take nonceLen) (utf8 context) (blob.drop nonceLen) <;> rfl

/-- **The host and the guest agree on sealing.** Each fails exactly where the other does, and what one seals the other
unseals with the same report, context and policy. -/
theorem guest_and_host_agree (haead : ring.aead.Lawful)
    (hbase64 : ∀ bytes, base64.decode (base64.encode bytes) = .ok bytes) (report plaintext : Bytes)
    (context : String) (policy : SealingPolicy) (random : Option Nonce) :
    (∀ text, (handleSealRequest ring base64 report ⟨text, context, policy.name⟩ random).toOption =
      hostSeal ring base64 report text context policy random) ∧
    (∀ text, (handleUnsealRequest ring base64 report ⟨text, context, policy.name⟩).toOption =
      hostUnseal ring base64 report text context policy) ∧
    (∀ response, handleSealRequest ring base64 report ⟨base64.encode plaintext, context, policy.name⟩ random =
        .ok response → ∃ blob, base64.decode response.blob = .ok blob ∧
      unsealData ring report ⟨policy, context, blob⟩ = .ok plaintext) ∧
    ∀ sealed, sealData ring report plaintext context policy random = .ok sealed →
      handleUnsealRequest ring base64 report ⟨base64.encode sealed.blob, context, policy.name⟩ =
        .ok (base64.encode plaintext) := by
  refine ⟨fun _ => handleSealRequest_toOption, fun _ => handleUnsealRequest_toOption, fun response h => ?_,
    fun sealed h => ?_⟩
  · rw [← except_toOption, handleSealRequest_toOption, hostSeal, hbase64] at h
    change (sealData ring report plaintext context policy random).toOption.bind _ = _ at h
    obtain ⟨_, hsealed, hresponse⟩ := Option.bind_eq_some_iff.mp h
    rw [except_toOption] at hsealed
    cases hresponse
    obtain ⟨_, _, -, -, rfl⟩ := sealData_ok hsealed
    exact ⟨_, hbase64 _, unsealData_sealData haead hsealed⟩
  · obtain ⟨_, _, -, -, rfl⟩ := sealData_ok h
    rw [← except_toOption, handleUnsealRequest_toOption, hostUnseal, hbase64]
    change (unsealData ring report _).toOption.bind _ = _
    rw [unsealData_sealData haead h]
    rfl

/-- Bytes as characters, in place of base64. -/
def charBytes : Base64 := ⟨fun bytes => .ofList (bytes.map Char.ofUInt8), fun text => .ok (text.toList.map Char.toUInt8)⟩

/-- `guest_and_host_agree` at a report of zeros: the host seals, and the guest unseals. -/
theorem guest_unseals_from_host : ∃ sealed, sealData plainRing (List.replicate 0x1E0 0) [1] "keys" .chipOnly
    (some ⟨List.replicate nonceLen 7, length_replicate⟩) = .ok sealed ∧
    handleUnsealRequest plainRing charBytes (List.replicate 0x1E0 0) ⟨charBytes.encode sealed.blob, "keys", "ChipOnly"⟩ =
      .ok (charBytes.encode [1]) := by
  have hchars : ∀ bytes, charBytes.decode (charBytes.encode bytes) = .ok bytes := by
    have hbyte : ∀ b : UInt8, (Char.ofUInt8 b).toUInt8 = b := UInt8.toUInt8_toUInt32
    simp [charBytes, Function.comp_def, hbyte]
  obtain ⟨sealed, hseal⟩ := exists_sealData length_replicate.ge ⟨List.replicate nonceLen 7, length_replicate⟩
  have hagree := @guest_and_host_agree plainRing charBytes Aead.checksum_lawful hchars (List.replicate 0x1E0 0) [1]
    "keys" .chipOnly (some ⟨List.replicate nonceLen 7, length_replicate⟩)
  exact ⟨sealed, hseal, hagree.2.2.2 sealed hseal⟩

end A3sBox.Tee
