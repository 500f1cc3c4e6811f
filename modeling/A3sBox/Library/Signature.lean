import A3sBox.Library.Aead

/-!
# Digital signatures

A scheme says which signatures verify under a key for a message. What was signed in the world is a relation; a
presented signature is not forged if what it verifies for was signed (`Unforged`). An ideal signature verifies under
one key only, and whoever can sign one message can sign any (`Ideal`).
-/

/-- A signature scheme. -/
structure SignatureScheme (Key Sig : Type) where
  /-- Whether a signature is valid for a message under a key. -/
  verify : Key → Bytes → Sig → Bool

namespace SignatureScheme

variable {Key Sig : Type}

/-- Nothing presented was forged: `made key message` says that the holder of `key` has signed `message`. -/
def Unforged (scheme : SignatureScheme Key Sig) (made : Key → Bytes → Prop) (presented : List Sig) : Prop :=
  ∀ sig ∈ presented, ∀ key message, scheme.verify key message sig = true → made key message

/-- Signatures are ideal. -/
structure Ideal (scheme : SignatureScheme Key Sig) : Prop where
  key_unique : ∀ {key key' message message' sig}, scheme.verify key message sig = true →
    scheme.verify key' message' sig = true → key = key'
  can_sign : ∀ {key message sig}, scheme.verify key message sig = true → ∀ message', ∃ sig',
    scheme.verify key message' sig' = true

/-- Only what the presented signatures verify for was signed, and `stranger` has signed nothing. -/
def madeWithout (scheme : SignatureScheme Key Sig) (stranger : Key) (presented : List Sig) (key : Key)
    (message : Bytes) : Prop :=
  key ≠ stranger ∧ ∃ sig ∈ presented, scheme.verify key message sig = true

/-- Signatures that verify under other keys are no forgery, even if `stranger` has signed nothing. -/
theorem Ideal.unforged_madeWithout {scheme : SignatureScheme Key Sig} (hideal : scheme.Ideal) {stranger key : Key}
    {presented : List Sig} (hkey : key ≠ stranger)
    (h : ∀ sig ∈ presented, ∃ message, scheme.verify key message sig = true) :
    scheme.Unforged (scheme.madeWithout stranger presented) presented := by
  intro sig hsig key' message' hverify
  obtain ⟨_, hmessage⟩ := h sig hsig
  refine ⟨?_, sig, hsig, hverify⟩
  rw [hideal.key_unique hverify hmessage]
  exact hkey

end SignatureScheme
