/-!
# Errors

The error type of the program, with its texts. A call may also not return: `Fault` is an error or a panic. `Profile`
says whether an arithmetic overflow is a panic.
-/

namespace A3sBox

open List

/-- The error types of the program. -/
inductive BoxError where
  /-- The virtual machine failed to start. -/
  | boxBootError (message : String) (hint : Option String)
  | timeoutError (message : String)
  | ioError (message : String)
  | serializationError (message : String)
  | configError (message : String)
  /-- A configuration error of the trusted execution environment. -/
  | teeConfig (message : String)
  /-- The hardware of the trusted execution environment is not available. -/
  | teeNotSupported (message : String)
  | attestationError (message : String)
  | ociImageError (message : String)
  | registryError (registry message : String)
  | cacheError (message : String)
  | poolError (message : String)
  | execError (message : String)
  | buildError (message : String)
  | networkError (message : String)
  /-- An invalid state transition or precondition. -/
  | stateError (message : String)
  | auditError (message : String)
  | resizeError (message : String)
  | other (message : String)
  deriving DecidableEq, Repr

/-- What is printed of an error. -/
def BoxError.toText : BoxError → String
  | .boxBootError message _ => s!"VM boot failed: {message}"
  | .timeoutError message => s!"Timeout: {message}"
  | .ioError message => s!"I/O error: {message}"
  | .serializationError message => s!"Serialization error: {message}"
  | .configError message => s!"Configuration error: {message}"
  | .teeConfig message => s!"TEE configuration error: {message}"
  | .teeNotSupported message => s!"TEE hardware not available: {message}"
  | .attestationError message => s!"Attestation error: {message}"
  | .ociImageError message => s!"OCI image error: {message}"
  | .registryError registry message => s!"Registry error: {registry} - {message}"
  | .cacheError message => s!"Cache error: {message}"
  | .poolError message => s!"Pool error: {message}"
  | .execError message => s!"Exec error: {message}"
  | .buildError message => s!"Build error: {message}"
  | .networkError message => s!"Network error: {message}"
  | .stateError message => s!"VM state error: {message}"
  | .auditError message => s!"Audit error: {message}"
  | .resizeError message => s!"Resize error: {message}"
  | .other message => message

/-- Why a call gives no value: it returns an error, or it panics. -/
inductive Fault (ε : Type) where
  | error (e : ε)
  | panic
  deriving DecidableEq, Repr

/-- The code of a status of the CRI server. -/
inductive Code where
  | notFound
  | invalidArgument
  | failedPrecondition
  | deadlineExceeded
  | unavailable
  | internal
  deriving DecidableEq, Repr

/-- The status with which a call of the CRI server fails. -/
structure Status where
  code : Code
  message : String
  deriving DecidableEq, Repr

/-- How the program was compiled. -/
inductive Profile where
  | debug
  /-- Without: arithmetic wraps around. -/
  | release
  deriving DecidableEq, Repr

/-! ### Steps that may fail, one after the other -/

variable {ε α β : Type} {f : α → Except ε β} {x : Except ε α}

theorem except_bind_ok {b} (h : x.bind f = .ok b) : ∃ a, x = .ok a ∧ f a = .ok b := by
  rcases x with _ | a
  · simp [Except.bind] at h
  · exact ⟨a, rfl, h⟩

theorem except_map_ok {f : α → β} {b : β} (h : x.map f = .ok b) : ∃ a, x = .ok a ∧ f a = b := by
  rcases x with _ | a
  · simp [Except.map] at h
  · exact ⟨a, rfl, by simpa [Except.map] using h⟩

theorem except_of_isOk (h : x.isOk = true) : ∃ a, x = .ok a := by
  cases x with
  | error => cases h
  | ok a => exact ⟨a, rfl⟩

theorem except_toOption {a} : x.toOption = some a ↔ x = .ok a := by
  cases x <;> simp [Except.toOption]

theorem except_mapError_ok {ε' : Type} {f : ε → ε'} {a : α} : x.mapError f = .ok a ↔ x = .ok a := by
  cases x with
  | error => exact ⟨nofun, nofun⟩
  | ok => exact ⟨fun h => congrArg _ (Except.ok.inj h), fun h => congrArg _ (Except.ok.inj h)⟩

variable {l : List α}

theorem except_map_of_mapM {k} (h : l.mapM f = .ok k) : l.map f = k.map .ok := by
  induction l generalizing k with
  | nil =>
    cases h
    rfl
  | cons _ _ ih =>
    rw [mapM_cons] at h
    obtain ⟨_, hb, h⟩ := except_bind_ok h
    obtain ⟨_, hk, h⟩ := except_bind_ok h
    cases h
    rw [map_cons, map_cons, hb, ih hk]

/-- The results of a loop are those of its steps, and each step has one. -/
theorem except_mem_iff_of_mapM {k} (h : l.mapM f = .ok k) :
    (∀ a ∈ l, ∃ b ∈ k, f a = .ok b) ∧ ∀ b ∈ k, ∃ a ∈ l, f a = .ok b := by
  have hmap := except_map_of_mapM h
  constructor
  · intro a ha
    obtain ⟨b, hb, heq⟩ := mem_map.mp (hmap ▸ mem_map_of_mem ha)
    exact ⟨b, hb, heq.symm⟩
  · intro b hb
    exact mem_map.mp (hmap ▸ mem_map_of_mem hb)

theorem except_mapM_ok {g} (h : ∀ a ∈ l, f a = .ok (g a)) : l.mapM f = .ok (l.map g) := by
  induction l with
  | nil => rfl
  | cons a _ ih =>
    rw [mapM_cons, h a mem_cons_self, ih fun a' ha' => h a' (mem_cons_of_mem _ ha')]
    rfl

theorem except_mapM_ok_iff {g} : l.mapM f = .ok (l.map g) ↔ ∀ a ∈ l, f a = .ok (g a) := by
  refine ⟨fun h => ?_, except_mapM_ok⟩
  have hmap := except_map_of_mapM h
  rw [map_map] at hmap
  exact map_inj_left.mp hmap

end A3sBox
