import A3sBox.Library.Lines
import A3sBox.Library.Text
import Mathlib.Logic.Function.Basic

/-!
# The log processor

`core/src/log.rs`: the two console files of a box are read as they grow, each by a thread, and every line is written
to a log file as one record, until the threads are told to stop and find the end of their file.

## The model

A text is its bytes. A step is one turn of the loop in `open_console`, and then in `tail_next_line`. `Event` is what
it finds: how much of the file is there, and the stop flag, which may be raised later. If what `read_line` has read is
not UTF-8, it is gone. The writer of the log file does not fail.

`one_record_per_line`: when each line has one record; `lines_lost` are runs in which one has none. `rotated_kept_iff`:
which rotated files are kept.
-/

namespace A3sBox.Log

open Lines Text List Function

/-- The byte that ends a line. -/
def newline : UInt8 := 10

/-! ### One thread -/

/-- What a step finds. -/
structure Event where
  /-- How many bytes of the file are there; none if there is no file. -/
  seen : Option ℕ
  stop : Bool
  there : Bool
  time : ℤ
  deriving DecidableEq, Repr

/-- Where a thread is. -/
inductive Phase where
  /-- It waits for the file, for so many turns. -/
  | opening (polls : ℕ)
  | reading
  | finished
  deriving DecidableEq, Repr

/-- A thread: where it is, how far it has read, and what it has of a line. -/
structure Tail where
  phase : Phase
  pos : ℕ
  buf : List UInt8
  deriving DecidableEq, Repr

/-- The line without newlines and carriage returns at its end. -/
def trimEndMatches (line : List UInt8) : List UInt8 := (line.reverse.dropWhile fun b => b == 10 || b == 13).reverse

/-- What `read_line` reads. -/
def Tail.chunk (file : List UInt8) (tail : Tail) (e : Event) : List UInt8 :=
  upTo newline ((file.take (e.seen.getD 0)).drop tail.pos)

/-- One turn of `tail_next_line`, and the line it returns. -/
def tailNextLine (file : List UInt8) (tail : Tail) (e : Event) : Tail × Option (List UInt8) :=
  let chunk := tail.chunk file e
  let tail := { tail with pos := tail.pos + chunk.length }
  if chunk = [] ∨ isUtf8 chunk = false then
    -- the end of the file, or an error
    if e.stop then
      if tail.buf = [] then ({ tail with phase := .finished }, none)
      else ({ tail with buf := [] }, some (trimEndMatches tail.buf))
    else (tail, none)
  else
    let buf := tail.buf ++ chunk
    if buf.getLast? = some newline then ({ tail with buf := [] }, some (trimEndMatches buf))
    else ({ tail with buf }, none)

/-- One step of a thread, and the line it has found. -/
def Tail.step (file : List UInt8) (tail : Tail) (e : Event) : Tail × Option (List UInt8) :=
  match tail.phase with
  | .finished => (tail, none)
  | .opening polls =>
    if e.seen.isSome then ({ tail with phase := .reading }, none)
    else if polls < 300 then
      if e.stop ∧ e.there = false then ({ tail with phase := .finished }, none)
      else ({ tail with phase := .opening (polls + 1) }, none)
    else ({ tail with phase := .finished }, none)
  | .reading => tailNextLine file tail e

/-! ### The processor -/

/-- The console files. -/
inductive Stream where
  | stdout
  /-- `console.err.log`. -/
  | stderr
  deriving DecidableEq, Repr

/-- A record of the log. -/
structure LogEntry where
  log : List UInt8
  stream : Stream
  time : ℤ
  deriving DecidableEq, Repr

/-- The line comes from the virtual machine, not from the container. -/
def isRuntimeConsoleNoise (line : List UInt8) : Bool := (utf8 "init.krun:").isPrefixOf line

/-- The two threads, and the records they have written. -/
structure Processor where
  tails : Stream → Tail
  records : List LogEntry

/-- Nothing was read. -/
def Processor.start : Processor := ⟨fun _ => ⟨.opening 0, 0, []⟩, []⟩

/-- The record of a line, unless it is noise. -/
def emit (stream : Stream) (time : ℤ) : Option (List UInt8) → List LogEntry
  | none => []
  | some line => if isRuntimeConsoleNoise line then [] else [⟨line ++ [newline], stream, time⟩]

/-- A step of a thread. -/
def Processor.step (files : Stream → List UInt8) (p : Processor) (stream : Stream) (e : Event) : Processor :=
  let (tail, line) := (p.tails stream).step (files stream) e
  ⟨update p.tails stream tail, p.records ++ emit stream e.time line⟩

/-- The records of a stream. -/
def Processor.logs (p : Processor) (stream : Stream) : List (List UInt8) :=
  (p.records.filter fun record => record.stream = stream).map fun record => record.log

/-- The lines a file should have in the log. -/
def expectedLogs (lines : List (List UInt8)) : List (List UInt8) :=
  ((lines.map trimEndMatches).filter fun line => !isRuntimeConsoleNoise line).map fun line => line ++ [newline]

/-- The runs in which every step meets a condition. -/
inductive Run (files : Stream → List UInt8) (ok : Processor → Stream → Event → Prop) : Processor → Prop where
  | start : Run files ok .start
  | step {p} (stream : Stream) (e : Event) (before : Run files ok p) (meets : ok p stream e) :
      Run files ok (p.step files stream e)

/-- The condition on a step. The file is found in time; what is read is UTF-8; and if the stop flag is found raised at
the end of the file, it was the end of the whole file. -/
def Careful (files : Stream → List UInt8) (p : Processor) (stream : Stream) (e : Event) : Prop :=
  match (p.tails stream).phase with
  | .finished => True
  | .opening polls =>
    files stream = [] ∨ e.seen.isSome = true ∨ polls < 300 ∧ (e.stop = true → e.there = true)
  | .reading =>
    isUtf8 ((p.tails stream).chunk (files stream) e) = true ∧
      ((p.tails stream).chunk (files stream) e = [] → e.stop = true → e.seen = some (files stream).length)

/-- A file grows, and the stop flag is raised once all of it is there. -/
def Possible (file : List UInt8) (events : List Event) : Prop :=
  (∀ e ∈ events, e.seen.getD 0 ≤ file.length) ∧
    events.Pairwise fun e later =>
      e.seen.getD 0 ≤ later.seen.getD 0 ∧ (e.stop = true → later.stop = true ∧ later.seen = some file.length)

/-! ### One step -/

theorem expectedLogs_append (a b : List (List UInt8)) : expectedLogs (a ++ b) = expectedLogs a ++ expectedLogs b := by
  simp [expectedLogs]

theorem logs_emit (stream : Stream) (time : ℤ) (line : List UInt8) :
    (emit stream time (some (trimEndMatches line))).map (fun record => record.log) = expectedLogs [line] := by
  by_cases hnoise : isRuntimeConsoleNoise (trimEndMatches line) = true
  · simp [emit, expectedLogs, hnoise]
  · simp [emit, expectedLogs, hnoise]

theorem chunk_append_drop (file : List UInt8) (tail : Tail) (e : Event) :
    tail.chunk file e ++ file.drop (tail.pos + (tail.chunk file e).length) = file.drop tail.pos := by
  have hread : tail.chunk file e <+: (file.take (e.seen.getD 0)).drop tail.pos := ⟨_, upTo_append_drop _ _⟩
  have hfile : (file.take (e.seen.getD 0)).drop tail.pos <+: file.drop tail.pos := by
    rw [drop_take]
    exact take_prefix _ _
  obtain ⟨_, hrest⟩ := hread.trans hfile
  rw [← drop_drop, ← hrest, drop_left]

variable {file : List UInt8} {tail : Tail} {e : Event} {found : List (List UInt8)} {files : Stream → List UInt8}
  {p : Processor} {stream : Stream}

/-- What a thread has found are the first lines of the file, and the others are still to be found in what it has of a
line and what it has not read. -/
structure Known (file : List UInt8) (tail : Tail) (found : List (List UInt8)) : Prop where
  lines_eq : lines newline file = found ++ lines newline (tail.buf ++ file.drop tail.pos)
  not_mem : newline ∉ tail.buf
  /-- Before it reads the file it has nothing of a line. -/
  opening : ∀ polls, tail.phase = .opening polls → tail.buf = []
  finished : tail.phase = .finished → tail.buf = [] ∧ file.drop tail.pos = []

/-- The line that a step has found, if it has found one. -/
inductive Finds : Option (List UInt8) → List (List UInt8) → Prop where
  | none : Finds none []
  | some (line : List UInt8) : Finds (some (trimEndMatches line)) [line]

variable (hknown : Known file tail found)

include hknown

theorem known_end (hphase : tail.phase = .reading) (hchunk : tail.chunk file e = [])
    (hstop : e.stop = true → e.seen = some file.length) :
    ∃ lines, Finds (tailNextLine file tail e).2 lines ∧ Known file (tailNextLine file tail e).1 (found ++ lines) := by
  by_cases hflag : e.stop = true
  · -- nothing is read of a file that is all there
    have hend := upTo_eq_nil hchunk
    rw [hstop hflag, Option.getD_some, take_length] at hend
    by_cases hbuf : tail.buf = []
    · have heq : tailNextLine file tail e = ({ tail with phase := .finished }, none) := by
        simp [tailNextLine, hchunk, hflag, hbuf]
      rw [heq]
      refine ⟨[], .none, ?_⟩
      rw [append_nil]
      exact ⟨hknown.lines_eq, hknown.not_mem, fun _ _ => hbuf, fun _ => ⟨hbuf, hend⟩⟩
    · -- the rest of the file is its last line
      have heq : tailNextLine file tail e = ({ tail with buf := [] }, some (trimEndMatches tail.buf)) := by
        simp [tailNextLine, hchunk, hflag, hbuf]
      have hlines := hknown.lines_eq
      rw [hend, append_nil, lines_of_not_mem hknown.not_mem hbuf] at hlines
      rw [heq]
      refine ⟨[tail.buf], .some tail.buf, ⟨?_, by simp, by simp, by simp [hphase]⟩⟩
      simp [hlines, hend, lines]
  · have heq : tailNextLine file tail e = (tail, none) := by
      simp [tailNextLine, hchunk, hflag]
    rw [heq]
    exact ⟨[], .none, by rwa [append_nil]⟩

theorem known_read (hphase : tail.phase = .reading) (hchunk : tail.chunk file e ≠ [])
    (hutf8 : isUtf8 (tail.chunk file e) = true) :
    ∃ lines, Finds (tailNextLine file tail e).2 lines ∧ Known file (tailNextLine file tail e).1 (found ++ lines) := by
  have hlines := hknown.lines_eq
  rw [← chunk_append_drop file tail e, ← append_assoc] at hlines
  rcases upTo_cases newline ((file.take (e.seen.getD 0)).drop tail.pos) with ⟨line, hline, hupTo⟩ | hnone
  · have hcomplete : tail.buf ++ tail.chunk file e = (tail.buf ++ line) ++ [newline] := by
      rw [Tail.chunk, hupTo, append_assoc]
    have heq : tailNextLine file tail e = (⟨tail.phase, tail.pos + (tail.chunk file e).length, []⟩,
        some (trimEndMatches (tail.buf ++ line ++ [newline]))) := by
      simp [tailNextLine, hchunk, hutf8, hcomplete]
    have hmem : newline ∉ tail.buf ++ line := by simp [hknown.not_mem, hline]
    rw [hcomplete, append_assoc, singleton_append, lines_append hmem] at hlines
    rw [heq]
    refine ⟨[tail.buf ++ line ++ [newline]], .some _, ⟨?_, by simp, by simp, by simp [hphase]⟩⟩
    rw [hlines]
    simp
  · have hmem : newline ∉ tail.buf ++ tail.chunk file e := by
      rw [mem_append, not_or]
      exact ⟨hknown.not_mem, hnone⟩
    have hlast : (tail.buf ++ tail.chunk file e).getLast? ≠ some newline := fun hlast =>
      hmem (mem_of_getLast? hlast)
    have heq : tailNextLine file tail e =
        (⟨tail.phase, tail.pos + (tail.chunk file e).length, tail.buf ++ tail.chunk file e⟩, none) := by
      simp only [tailNextLine, hchunk, hutf8, hlast]
      simp
    rw [heq]
    exact ⟨[], .none, ⟨by rw [append_nil]; exact hlines, hmem, by simp [hphase], by simp [hphase]⟩⟩

theorem known_phase {polls} (hphase : tail.phase = .opening polls) {phase} (h : phase = .finished → file = []) :
    Known file { tail with phase } (found ++ []) where
  lines_eq := by rw [append_nil]; exact hknown.lines_eq
  not_mem := hknown.not_mem
  opening _ _ := hknown.opening polls hphase
  finished hfinished := ⟨hknown.opening polls hphase, by rw [h hfinished]; exact drop_nil⟩

omit hknown

/-- **A careful step finds the next line, or none.** -/
theorem known_step (hknown : Known (files stream) (p.tails stream) found) (hcareful : Careful files p stream e) :
    ∃ lines, Finds ((p.tails stream).step (files stream) e).2 lines ∧
      Known (files stream) ((p.tails stream).step (files stream) e).1 (found ++ lines) := by
  unfold Careful at hcareful
  unfold Tail.step
  cases hphase : (p.tails stream).phase with
  | finished => exact ⟨[], .none, by rwa [append_nil]⟩
  | reading =>
    rw [hphase] at hcareful
    by_cases hchunk : (p.tails stream).chunk (files stream) e = []
    · exact known_end hknown hphase hchunk (hcareful.2 hchunk)
    · exact known_read hknown hphase hchunk hcareful.1
  | opening =>
    rw [hphase] at hcareful
    dsimp only at hcareful ⊢
    split_ifs with hseen hpolls hstop
    · exact ⟨[], .none, known_phase hknown hphase (by simp)⟩
    · refine ⟨[], .none, known_phase hknown hphase fun _ => ?_⟩
      rcases hcareful with hempty | hsome | ⟨_, hthere⟩
      · exact hempty
      · exact absurd hsome hseen
      · simp [hthere hstop.1] at hstop
    · exact ⟨[], .none, known_phase hknown hphase (by simp)⟩
    · refine ⟨[], .none, known_phase hknown hphase fun _ => ?_⟩
      rcases hcareful with hempty | hsome | ⟨hlt, _⟩
      · exact hempty
      · exact absurd hsome hseen
      · exact absurd hlt hpolls

/-! ### Runs -/

theorem logs_step_self (files : Stream → List UInt8) (p : Processor) (stream : Stream) (e : Event) :
    (p.step files stream e).logs stream =
      p.logs stream ++ (emit stream e.time ((p.tails stream).step (files stream) e).2).map fun record => record.log := by
  have hemit : ∀ line,
      (emit stream e.time line).filter (fun record => record.stream = stream) = emit stream e.time line := by
    intro line
    rcases line with _ | line
    · rfl
    · by_cases hnoise : isRuntimeConsoleNoise line = true
      · simp [emit]
      · simp [emit]
  simp [Processor.logs, Processor.step, hemit]

theorem logs_step_ne {other} (h : other ≠ stream) : (p.step files stream e).logs other = p.logs other := by
  have hemit : ∀ line, (emit stream e.time line).filter (fun record => record.stream = other) = [] := by
    intro line
    rcases line with _ | line
    · rfl
    · by_cases hnoise : isRuntimeConsoleNoise line = true
      · simp [emit, hnoise]
      · simp [emit, h.symm]
  simp [Processor.logs, Processor.step, hemit]

theorem run_known (h : Run files (Careful files) p) (stream : Stream) :
    ∃ found, Known (files stream) (p.tails stream) found ∧ p.logs stream = expectedLogs found := by
  induction h with
  | start => exact ⟨[], ⟨rfl, by simp [Processor.start], fun _ _ => rfl, by simp [Processor.start]⟩, rfl⟩
  | @step p stepped e _ meets ih =>
    obtain ⟨found, hknown, hlogs⟩ := ih
    by_cases hstream : stream = stepped
    · subst hstream
      obtain ⟨lines, hfinds, hknown'⟩ := known_step hknown meets
      refine ⟨found ++ lines, ?_, ?_⟩
      · simpa [Processor.step] using hknown'
      · rw [logs_step_self, hlogs, expectedLogs_append]
        generalize ((p.tails stream).step (files stream) e).2 = line at hfinds
        cases hfinds with
        | none => rfl
        | some => rw [logs_emit]
    · refine ⟨found, ?_, by rw [logs_step_ne hstream, hlogs]⟩
      simpa [Processor.step, update_of_ne hstream] using hknown

/-! ### The threads stop -/

/-- All of the file is there, and the stop flag is raised. -/
def Event.Final (e : Event) (file : List UInt8) : Prop := e.seen = some file.length ∧ e.stop = true

/-- A bound on the turns that are left. -/
def Tail.turns (file : List UInt8) (tail : Tail) : ℕ :=
  match tail.phase with
  | .finished => 0
  | .reading => 2 * (file.length - tail.pos) + (if tail.buf = [] then 0 else 1) + 1
  | .opening _ => 2 * (file.length - tail.pos) + (if tail.buf = [] then 0 else 1) + 2

/-- After a turn the thread has stopped, or it goes on after what it has read. -/
theorem tailNextLine_pos (hphase : tail.phase = .reading) : (tailNextLine file tail e).1.phase = .finished ∨
      (tailNextLine file tail e).1.phase = .reading ∧
        (tailNextLine file tail e).1.pos = tail.pos + (tail.chunk file e).length := by
  unfold tailNextLine
  dsimp only
  split_ifs
  · exact .inl rfl
  · exact .inr ⟨hphase, rfl⟩
  · exact .inr ⟨hphase, rfl⟩
  · exact .inr ⟨hphase, rfl⟩
  · exact .inr ⟨hphase, rfl⟩

theorem turns_tailNextLine (hfinal : e.Final file) (hphase : tail.phase = .reading) :
    (tailNextLine file tail e).1.turns file < tail.turns file := by
  by_cases hchunk : tail.chunk file e = []
  · by_cases hbuf : tail.buf = []
    · simp [tailNextLine, hchunk, hfinal.2, hbuf, Tail.turns, hphase]
    · simp [tailNextLine, hchunk, hfinal.2, hbuf, Tail.turns, hphase]
  · have hpos : 0 < (tail.chunk file e).length := length_pos_iff.2 hchunk
    have hlength : (tail.chunk file e).length ≤ file.length - tail.pos := by
      have hdrop := congrArg List.length (chunk_append_drop file tail e)
      simp only [length_append, length_drop] at hdrop
      omega
    rcases @tailNextLine_pos file tail e hphase with hfinished | ⟨hreading, hread⟩
    · simp [Tail.turns, hfinished, hphase]
    · simp only [Tail.turns, hreading, hphase]
      split_ifs
      all_goals omega

theorem turns_step (hfinal : e.Final file) (hphase : tail.phase ≠ .finished) :
    (tail.step file e).1.turns file < tail.turns file := by
  cases h : tail.phase with
  | finished => exact absurd h hphase
  | reading =>
    simp only [Tail.step, h]
    exact turns_tailNextLine hfinal h
  | opening =>
    have hsome : e.seen.isSome = true := by simp [hfinal.1]
    simp [Tail.step, h, hsome, Tail.turns]

theorem step_of_finished (h : tail.phase = .finished) (e) : (tail.step file e).1 = tail := by
  simp [Tail.step, h]

/-- Steps of one thread, one after the other. -/
def Processor.steps (files : Stream → List UInt8) (p : Processor) (stream : Stream) (events : List Event) : Processor :=
  events.foldl (fun p e => p.step files stream e) p

theorem finished_of_turns {events} (hfinal : ∀ e ∈ events, e.Final (files stream))
    (h : (p.tails stream).turns (files stream) ≤ events.length) :
    ((p.steps files stream events).tails stream).phase = .finished := by
  induction events generalizing p with
  | nil =>
    cases hphase : (p.tails stream).phase with
    | finished => exact hphase
    | reading | opening polls => simp [Tail.turns, hphase] at h
  | cons e _ ih =>
    refine ih (fun e' he' => hfinal e' (mem_cons_of_mem _ he')) ?_
    have htail : (p.step files stream e).tails stream = ((p.tails stream).step (files stream) e).1 := by
      simp [Processor.step]
    rw [htail]
    by_cases hphase : (p.tails stream).phase = .finished
    · rw [step_of_finished hphase]
      simp [Tail.turns, hphase]
    · have hturns := turns_step (hfinal e mem_cons_self) hphase
      rw [length_cons] at h
      omega

theorem turns_le (file : List UInt8) (tail : Tail) : tail.turns file ≤ 2 * file.length + 3 := by
  unfold Tail.turns
  split
  · exact Nat.zero_le _
  all_goals
    split_ifs
    all_goals omega

/-- **One record for each line.** If the console file is found in time, each read finds UTF-8, and the stop flag is
found raised only once the whole file was read, the log of a stream is always the beginning of what it should be, and
all of it when the thread has stopped, a bounded number of turns after the file is all there and the flag is raised. -/
theorem one_record_per_line {files : Stream → List UInt8} {p : Processor} (h : Run files (Careful files) p)
    (stream : Stream) :
    p.logs stream <+: expectedLogs (lines newline (files stream)) ∧
      ((p.tails stream).phase = .finished → p.logs stream = expectedLogs (lines newline (files stream))) ∧
      ∀ events : List Event, (∀ e ∈ events, e.Final (files stream)) → 2 * (files stream).length + 3 ≤ events.length →
        ((p.steps files stream events).tails stream).phase = .finished := by
  obtain ⟨_, hknown, hlogs⟩ := run_known h stream
  refine ⟨?_, fun hfinished => ?_, fun events hfinal hlength => ?_⟩
  · rw [hlogs, hknown.lines_eq, expectedLogs_append]
    exact prefix_append _ _
  · obtain ⟨hbuf, hrest⟩ := hknown.finished hfinished
    rw [hlogs, hknown.lines_eq, hbuf, hrest]
    simp [lines]
  · exact finished_of_turns hfinal (le_trans (turns_le _ _) hlength)

/-- The console files of a box that writes nothing to its standard error. -/
def onlyStdout (file : List UInt8) : Stream → List UInt8
  | .stdout => file
  | .stderr => []

/-- A step that finds so much of the file, and the stop flag. -/
def finds (seen : ℕ) (stop : Bool) : Event := ⟨some seen, stop, true, 0⟩

/-- After some steps on one file. -/
def processed (file : List UInt8) (events : List Event) : Processor :=
  Processor.start.steps (onlyStdout file) .stdout events

theorem run_steps (h : Run files (fun _ _ _ => True) p) (stream) (events : List Event) :
    Run files (fun _ _ _ => True) (p.steps files stream events) := by
  induction events generalizing p with
  | nil => exact h
  | cons e _ ih => exact ih (.step stream e h trivial)

/-- The text `hi`, a newline and `yo`, read in pieces. -/
theorem two_records :
    (processed [104, 105, 10, 121, 111] [finds 0 false, finds 1 false, finds 5 false, finds 5 false, finds 5 true,
      finds 5 true]).logs .stdout = expectedLogs (lines newline [104, 105, 10, 121, 111]) := by
  have h : Run (onlyStdout [104, 105, 10, 121, 111]) (Careful (onlyStdout [104, 105, 10, 121, 111])) _ :=
    .step .stdout (finds 5 true) (.step .stdout (finds 5 true) (.step .stdout (finds 5 false)
      (.step .stdout (finds 5 false) (.step .stdout (finds 1 false) (.step .stdout (finds 0 false) .start
        (.inr (.inl rfl))) ⟨by decide, by decide⟩) ⟨by decide, by decide⟩) ⟨by decide, by decide⟩)
      ⟨by decide, by decide⟩) ⟨by decide, by decide⟩
  exact (one_record_per_line h .stdout).2.1 (by decide)

instance (file : List UInt8) (events : List Event) : Decidable (Possible file events) :=
  inferInstanceAs (Decidable (_ ∧ _))

/-- A run that can happen, in which the log is not what it should be when the thread has stopped. -/
def Lost (file : List UInt8) (events : List Event) : Prop :=
  Possible file events ∧ Run (onlyStdout file) (fun _ _ _ => True) (processed file events) ∧
    ((processed file events).tails .stdout).phase = .finished ∧
    (processed file events).logs .stdout ≠ expectedLogs (lines newline file)

/-- A line that is no UTF-8, a character that is read in two pieces, and a line between the last read and the stop flag.
-/
theorem lines_lost : Lost [0xFF, 10] [finds 2 false, finds 2 false, finds 2 true] ∧
      Lost [0xC3, 0xA9, 10] [finds 1 false, finds 1 false, finds 3 false, finds 3 true] ∧
      Lost [97, 10] [finds 0 false, finds 0 true] :=
  ⟨⟨by decide, run_steps .start _ _, by decide, by decide⟩,
    ⟨by decide, run_steps .start _ _, by decide, by decide⟩,
    ⟨by decide, run_steps .start _ _, by decide, by decide⟩⟩

/-! ### The writer -/

/-- The log file and the rotated files by their numbers, unpacked; `maxFile` is how many of these are to be kept. -/
structure RotatingWriter where
  file : List UInt8
  rotated : ℕ → Option (List UInt8)
  written : UInt64
  maxSize : UInt64
  maxFile : ℕ

/-- Rename a rotated file, if it is there. -/
def rename (rotated : ℕ → Option (List UInt8)) (i : ℕ) : ℕ → Option (List UInt8) :=
  if rotated i = none then rotated else update (update rotated (i + 1) (rotated i)) i none

/-- Rename the files, and begin a new one. -/
def RotatingWriter.rotate (w : RotatingWriter) : RotatingWriter :=
  let renamed := (range' 1 (w.maxFile - 1)).reverse.foldl rename w.rotated
  let removed := update renamed w.maxFile none
  { w with file := [], rotated := update removed 1 (some w.file), written := 0 }

/-- Write a line, and whether the files are rotated then. -/
def RotatingWriter.writeLine (w : RotatingWriter) (line : List UInt8) : RotatingWriter × Bool :=
  let bytes := line ++ [newline]
  let w := { w with file := w.file ++ bytes, written := w.written + UInt64.ofNat bytes.length }
  if w.maxSize ≤ w.written then (w.rotate, true) else (w, false)

/-- Write lines to a new log, and how often the files are rotated. -/
def writeLines (maxSize : UInt64) (maxFile : ℕ) (lines : List (List UInt8)) : RotatingWriter × ℕ :=
  lines.foldl (fun (w, k) line => ((w.writeLine line).1, k + (w.writeLine line).2.toNat))
    (⟨[], fun _ => none, 0, maxSize, maxFile⟩, 0)

/-- The files up to a number, from the oldest to the newest. -/
def RotatingWriter.retained (w : RotatingWriter) : ℕ → List UInt8
  | 0 => w.file
  | n + 1 => (w.rotated (n + 1)).getD [] ++ w.retained n

/-- The files were rotated with these contents, from the newest to the oldest, and the first of them are there. -/
structure Rotated (maxFile : ℕ) (w : RotatingWriter) (all : List UInt8) (history : List (List UInt8)) : Prop where
  maxFile_eq : w.maxFile = maxFile
  all_eq : all = history.reverse.flatten ++ w.file
  kept : ∀ i, w.rotated (i + 1) = (history.take (max 1 (maxFile - 1)))[i]?

/-- Each file gets the next number; only the last name may be taken by another. -/
theorem renamed_eq (rotated : ℕ → Option (List UInt8)) (k i : ℕ) :
    (range' 1 k).reverse.foldl rename rotated (i + 1) =
      if k = 0 ∨ k < i then rotated (i + 1) else if i = 0 then none
      else (rotated i).or (if i = k then rotated (k + 1) else none) := by
  induction k generalizing rotated with
  | zero => rfl
  | succ k ih =>
    have hrename : ∀ j, rename rotated (k + 1) j = if j = k + 1 then none else
        if j = k + 2 then (rotated (k + 1)).or (rotated (k + 2)) else rotated j := by
      intro j
      rcases hfile : rotated (k + 1) with _ | content
      · rw [rename]
        grind
      · simp [rename, hfile, update_apply]
    rw [range'_1_concat, reverse_append, reverse_singleton, singleton_append, foldl_cons, Nat.add_comm 1 k, ih]
    simp only [hrename]
    grind

variable {maxFile : ℕ} {w : RotatingWriter} {all : List UInt8} {history : List (List UInt8)}

theorem Rotated.rotate (h : Rotated maxFile w all history) : Rotated maxFile w.rotate all (w.file :: history) where
  maxFile_eq := h.maxFile_eq
  all_eq := by simp [h.all_eq, RotatingWriter.rotate]
  kept i := by
    rw [RotatingWriter.rotate, h.maxFile_eq]
    cases i with
    | zero => simp
    | succ i =>
      simp only [update_apply, renamed_eq, h.kept, getElem?_take]
      grind

theorem Rotated.writeLine (h : Rotated maxFile w all history) (line : List UInt8) :
    ∃ history', history'.length = history.length + (w.writeLine line).2.toNat ∧
      Rotated maxFile (w.writeLine line).1 (all ++ (line ++ [newline])) history' := by
  have hwritten : ∀ written, Rotated maxFile { w with file := w.file ++ (line ++ [newline]), written }
      (all ++ (line ++ [newline])) history := fun written => ⟨h.maxFile_eq, by simp [h.all_eq], h.kept⟩
  rw [RotatingWriter.writeLine]
  split_ifs
  · exact ⟨_, rfl, (hwritten _).rotate⟩
  · exact ⟨history, rfl, hwritten _⟩

theorem rotated_writeLines (maxSize : UInt64) (maxFile) (lines : List (List UInt8)) :
    ∃ history, history.length = (writeLines maxSize maxFile lines).2 ∧
      Rotated maxFile (writeLines maxSize maxFile lines).1 (lines.map (· ++ [newline])).flatten history := by
  induction lines using reverseRecOn with
  | nil => exact ⟨[], rfl, rfl, rfl, fun _ => by simp [writeLines]⟩
  | append_singleton lines line ih =>
    obtain ⟨history, hlength, h⟩ := ih
    obtain ⟨history', hlength', h'⟩ := h.writeLine line
    rw [writeLines, foldl_concat, ← writeLines]
    exact ⟨history', by rw [hlength', hlength], by simpa using h'⟩

theorem Rotated.retained_suffix (h : Rotated maxFile w all history) (n : ℕ) : w.retained n <:+ all := by
  generalize hkept : history.take (max 1 (maxFile - 1)) = kept
  -- what is not among the files up to a number is before them
  have hn : (kept.drop n).reverse.flatten ++ w.retained n = kept.reverse.flatten ++ w.file := by
    induction n with
    | zero => rfl
    | succ n ih =>
      rw [← ih, RotatingWriter.retained, h.kept, hkept]
      by_cases hlength : n < kept.length
      · rw [drop_eq_getElem_cons hlength, getElem?_eq_getElem hlength, reverse_cons, flatten_concat, append_assoc]
        rfl
      · rw [drop_eq_nil_of_le (by omega), drop_eq_nil_of_le (by omega), getElem?_eq_none (by omega)]
        rfl
  refine ⟨(history.drop (max 1 (maxFile - 1))).reverse.flatten ++ (kept.drop n).reverse.flatten, ?_⟩
  rw [append_assoc, hn, ← append_assoc, ← flatten_append, ← reverse_append, ← hkept, take_append_drop, h.all_eq]

/-- **What is kept of a log.** The files up to any number, from the oldest to the newest, are the end of what was
written. But of several rotated files one less is kept than there should be: as many as there should be are there
exactly as long as the files were not rotated so often. -/
theorem rotated_kept_iff (maxSize : UInt64) (maxFile : ℕ) (lines : List (List UInt8)) :
    let (w, k) := writeLines maxSize maxFile lines
    (∀ n, w.retained n <:+ (lines.map (· ++ [newline])).flatten) ∧
    ((∀ i, (w.rotated (i + 1)).isSome ↔ i < min k maxFile) ↔ k = 0 ∨ maxFile = 1 ∨ k < maxFile) := by
  obtain ⟨history, hlength, h⟩ := rotated_writeLines maxSize maxFile lines
  generalize writeLines maxSize maxFile lines = result at hlength h ⊢
  refine ⟨h.retained_suffix, ?_⟩
  simp only [h.kept, isSome_getElem?, length_take]
  constructor
  · intro hall
    have hlast := hall (maxFile - 1)
    omega
  · intro hor i
    omega

/-- Three files should be kept; the third is removed when the files are rotated for the third time. -/
theorem last_file_removed :
    let (w, k) := writeLines 1 3 [[97], [98], [99]]
    k = 3 ∧ (w.rotated 1).isSome ∧ (w.rotated 2).isSome ∧ w.rotated 3 = none := by
  decide

end A3sBox.Log
