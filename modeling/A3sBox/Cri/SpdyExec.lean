import Mathlib.Data.Int.Notation
import Mathlib.Data.Nat.Notation

/-!
# The end of a command over SPDY

`serve_exec` of `cri/src/spdy.rs` without a terminal: a task writes what the guest sends to the client, and after its
last event how the command ended. The session ends with it, or when the client has nothing more to say. An event is
`lost` if `next_event` returns none.

`failure_told_iff`: when the client is told how the command ended. `lost_guest_succeeds`: without a report it seems to
have succeeded.
-/

namespace A3sBox.Cri.Spdy

/-- The channels, in the order in which the client opens them. -/
inductive Channel where
  | error
  | stdin
  | stdout
  | stderr
  | resize
  deriving DecidableEq, Repr

/-- Where output goes. -/
inductive ExecStream where
  | stdout
  | stderr

/-- Its channel. -/
def ExecStream.channel : ExecStream → Channel
  | .stdout => .stdout
  | .stderr => .stderr

/-- What `next_event` returns. -/
inductive ExecEvent where
  | chunk (stream : ExecStream) (data : List UInt8)
  | exit (exitCode : ℤ)
  | flushAck
  | lost

/-- The status that tells the client of a failure. -/
structure Failure where
  message : String
  reason : String
  cause : String × String

/-- What is told of an exit code. -/
def exitStatusPayload (exitCode : ℤ) : Option Failure :=
  if exitCode = 0 then none
  else some
    { message := s!"command terminated with non-zero exit code: error executing command, exit code {exitCode}"
      reason := "NonZeroExitCode"
      cause := ("ExitCode", toString exitCode) }

/-- What is written to the client. -/
inductive Output where
  | data (channel : Channel) (data : List UInt8)
  | failure (status : Failure)
  | fin (channel : Channel)

/-- What is written when the command has ended. -/
def finish (opened : List Channel) (exitCode : ℤ) : List Output :=
  (if .error ∈ opened then (exitStatusPayload exitCode).toList.map .failure ++ [.fin .error] else []) ++
    ([.stdout, .stderr].filter (· ∈ opened)).map .fin

/-- What the task for the guest's events writes. After the last event it writes `writes` times before the session ends.
-/
def writerTask (opened : List Channel) (writes : ℕ) : List ExecEvent → List Output
  | [] => []
  | .chunk stream data :: events =>
    (if stream.channel ∈ opened then [.data stream.channel data] else []) ++ writerTask opened writes events
  | .exit exitCode :: _ => (finish opened exitCode).take writes
  | .flushAck :: events => writerTask opened writes events
  | .lost :: _ => (finish opened 0).take writes

/-- The event that ends the task. -/
def ending : List ExecEvent → Option ExecEvent :=
  List.find? fun
    | .exit _ | .lost => true
    | _ => false

/-- The client takes a command for successful only if it is, and is told of a failure. -/
structure Told (events : List ExecEvent) (written : List Output) : Prop where
  closed : .fin .error ∈ written → (∃ status, .failure status ∈ written) ∨ ending events = some (.exit 0)
  failed : ∀ event ∈ ending events, event ≠ .exit 0 → ∃ status, .failure status ∈ written

variable {opened : List Channel} {writes : ℕ} {events : List ExecEvent}

theorem failure_mem_finish {exitCode} : (∃ status, .failure status ∈ (finish opened exitCode).take writes) ↔
    exitCode ≠ 0 ∧ .error ∈ opened ∧ 0 < writes := by
  cases writes with
  | zero => simp
  | succ =>
    -- The failure is the first write.
    by_cases h : exitCode ≠ 0 ∧ .error ∈ opened
    · simp [finish, exitStatusPayload, h]
    · refine iff_of_false (fun ⟨status, hmem⟩ => h ?_) fun hall => h ⟨hall.1, hall.2.1⟩
      have hwritten : .failure status ∈ finish opened exitCode := List.mem_of_mem_take hmem
      by_cases hzero : exitCode = 0 <;> by_cases hopened : .error ∈ opened <;>
        simp_all [finish, exitStatusPayload]

theorem failure_mem_writerTask : (∃ status, .failure status ∈ writerTask opened writes events) ↔
    ∃ exitCode, ending events = some (.exit exitCode) ∧ exitCode ≠ 0 ∧ .error ∈ opened ∧ 0 < writes := by
  fun_induction writerTask opened writes events with
  | case1 => simp [ending]
  | case2 stream data events ih => split <;> simpa [ending] using ih
  | case3 exitCode events => simp [ending, failure_mem_finish]
  | case4 events ih => exact ih
  | case5 events => simp [ending, failure_mem_finish]

theorem ending_of_fin (h : .fin .error ∈ writerTask opened writes events) : ∃ event, ending events = some event := by
  fun_induction writerTask opened writes events with
  | case1 => cases h
  | case2 stream data events ih =>
    refine ih ((List.mem_append.mp h).resolve_left fun hchunk => ?_)
    split at hchunk <;> simp at hchunk
  | case3 exitCode events => exact ⟨_, rfl⟩
  | case4 events ih => exact ih h
  | case5 events => exact ⟨_, rfl⟩

/-- **The client is told how the command ended** if and only if the guest reports it, and a failure is written in time.
-/
theorem failure_told_iff : Told events (writerTask opened writes events) ↔
    ∀ event ∈ ending events, event = .exit 0 ∨ event ≠ .lost ∧ .error ∈ opened ∧ 0 < writes := by
  constructor
  · intro h event hevent
    by_cases hzero : event = .exit 0
    · exact .inl hzero
    · obtain ⟨exitCode, hending, -, hopened⟩ := failure_mem_writerTask.mp (h.failed event hevent hzero)
      obtain rfl := Option.some.inj (hevent.symm.trans hending)
      exact .inr ⟨nofun, hopened⟩
  · intro h
    have hfailed : ∀ event ∈ ending events, event ≠ .exit 0 →
        ∃ status, .failure status ∈ writerTask opened writes events := by
      intro event hevent hne
      obtain ⟨hlost, hopened⟩ := (h event hevent).resolve_left hne
      have hends := List.find?_some hevent
      cases event with
      | exit exitCode => exact failure_mem_writerTask.mpr ⟨exitCode, hevent, fun h => hne (h ▸ rfl), hopened⟩
      | lost => exact absurd rfl hlost
      | chunk | flushAck => cases hends
    refine ⟨fun hfin => ?_, hfailed⟩
    obtain ⟨event, hevent⟩ := ending_of_fin hfin
    by_cases hzero : event = .exit 0
    · exact .inr (hzero ▸ hevent)
    · exact .inl (hfailed event hevent hzero)

/-- The guest is lost, and the client takes the command for successful. -/
theorem lost_guest_succeeds :
    writerTask [.error] 1 [.lost] = [.fin .error] ∧ ¬ Told [.lost] (writerTask [.error] 1 [.lost]) :=
  ⟨rfl, fun h => by simpa [writerTask, finish, exitStatusPayload] using h.failed .lost rfl nofun⟩

end A3sBox.Cri.Spdy
