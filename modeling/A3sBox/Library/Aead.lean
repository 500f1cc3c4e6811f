import Mathlib.Data.Nat.Notation
import Mathlib.Data.List.Basic
import Mathlib.Data.UInt

/-!
# Authenticated encryption

An authenticated cipher encrypts a text under a key, a nonce and associated data
that is not encrypted; decrypting with the same three gives the text back. It is
ideal in a history of encryptions if nothing decrypts that was not encrypted
there with the same key, nonce and associated data (`Unforged`).
-/

/-- A sequence of bytes. -/
abbrev Bytes := List UInt8

/-- An authenticated cipher. -/
structure Aead where
  /-- Encrypt, under a key, a nonce and associated data; the tag comes last. -/
  encrypt : Bytes → Bytes → Bytes → Bytes → Bytes
  decrypt : Bytes → Bytes → Bytes → Bytes → Option Bytes

namespace Aead

/-- The length of a tag. -/
def tagLen : ℕ := 16

/-- What is known of a cipher: what was encrypted is decrypted, and is longer by the tag. -/
structure Lawful (aead : Aead) : Prop where
  decrypt_encrypt : ∀ key nonce aad text, aead.decrypt key nonce aad (aead.encrypt key nonce aad text) = some text
  length_encrypt : ∀ key nonce aad text, (aead.encrypt key nonce aad text).length = text.length + tagLen

/-- An encryption that was made. -/
structure Encryption where
  key : Bytes
  nonce : Bytes
  aad : Bytes
  text : Bytes
  deriving DecidableEq, Repr

/-- What it encrypts to. -/
def Encryption.result (aead : Aead) (e : Encryption) : Bytes := aead.encrypt e.key e.nonce e.aad e.text

/-- A ciphertext that decrypts is the result of an encryption of the history, with the same key, nonce and data. -/
def Unforged (aead : Aead) (history : List Encryption) (key nonce aad ciphertext : Bytes) : Prop :=
  (aead.decrypt key nonce aad ciphertext).isSome → ∃ e ∈ history,
    e.key = key ∧ e.nonce = nonce ∧ e.aad = aad ∧ e.result aead = ciphertext

instance (aead : Aead) (history : List Encryption) (key nonce aad ciphertext : Bytes) :
    Decidable (aead.Unforged history key nonce aad ciphertext) :=
  inferInstanceAs (Decidable (_ → ∃ e ∈ history,
    e.key = key ∧ e.nonce = nonce ∧ e.aad = aad ∧ e.result aead = ciphertext))

theorem Unforged.exists_encryption {aead : Aead} (haead : aead.Lawful) {history : List Encryption}
    {key nonce aad ciphertext text : Bytes} (h : aead.Unforged history key nonce aad ciphertext)
    (hdecrypt : aead.decrypt key nonce aad ciphertext = some text) :
    ⟨key, nonce, aad, text⟩ ∈ history ∧ aead.encrypt key nonce aad text = ciphertext := by
  obtain ⟨⟨_, _, _, _⟩, hmem, rfl, rfl, rfl, rfl⟩ := h (by rw [hdecrypt]; rfl)
  rw [Encryption.result, haead.decrypt_encrypt] at hdecrypt
  obtain rfl := Option.some.inj hdecrypt
  exact ⟨hmem, rfl⟩

/-- A cipher that does not encrypt, with a checksum for a tag. -/
def checksum : Aead where
  encrypt key nonce aad text := text ++ List.replicate tagLen (key ++ nonce ++ aad ++ text).sum
  decrypt key nonce aad ciphertext :=
    let text := ciphertext.take (ciphertext.length - tagLen)
    if ciphertext.drop (ciphertext.length - tagLen) = List.replicate tagLen (key ++ nonce ++ aad ++ text).sum
    then some text else none

theorem checksum_lawful : checksum.Lawful where
  decrypt_encrypt key nonce aad text := by simp [checksum]
  length_encrypt key nonce aad text := by simp [checksum]

end Aead
