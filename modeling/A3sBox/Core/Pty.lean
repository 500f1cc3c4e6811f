import A3sBox.Core.Error
import A3sBox.Library.Framing
import A3sBox.Library.Text

/-!
# The PTY protocol

`core/src/pty.rs`: a frame is a type, the length of the payload in four bytes, and the payload. `read_frames_iff`:
frames are read back, up to a clean end or an error inside a frame, exactly if no payload is longer than
`maxFramePayload` and the stream is not cut inside a header, which passes for a clean end.
-/

namespace A3sBox.Pty

open Framing Text List Except

/-! ### Frames -/

/-- The longest payload that is read: 64 KiB. -/
def maxFramePayload : ℕ := 64 * 1024

/-- A raw frame: its type and its payload. -/
abbrev Frame := UInt8 × List UInt8

/-- The kinds of I/O errors that are met here. -/
inductive ErrorKind where
  | unexpectedEof
  | invalidData
  deriving DecidableEq, Repr

/-- An I/O error. -/
structure IoError where
  kind : ErrorKind
  message : String
  deriving DecidableEq, Repr

/-- Write a frame: the length is written as a `u32`. -/
def writeFrame (frame : Frame) : List UInt8 :=
  frame.1 :: toBeBytes 4 (frame.2.length % 2 ^ 32) ++ frame.2

/-- `read_exact`, with its error. -/
def readExactly (n : ℕ) (bytes : List UInt8) : Except IoError (List UInt8 × List UInt8) :=
  match readExact n bytes with
  | some result => .ok result
  | none => .error ⟨.unexpectedEof, "failed to fill whole buffer"⟩

/-- Read a frame; none on the end of the stream. -/
def readFrame (bytes : List UInt8) : Except IoError (Option (Frame × List UInt8)) :=
  match readExactly 5 bytes with
  | .error e => if e.kind = .unexpectedEof then .ok none else .error e
  | .ok (header, rest) =>
    let frameType := header.headD 0
    let len := fromBeBytes header.tail
    if len > maxFramePayload then
      .error ⟨.invalidData, s!"PTY frame too large: {len} bytes (max {maxFramePayload})"⟩
    else if len > 0 then
      match readExactly len rest with
      | .error e => .error e
      | .ok (payload, rest) => .ok (some ((frameType, payload), rest))
    else .ok (some ((frameType, []), rest))

variable {bytes rest : List UInt8} {frame : Frame} {before after frames : List Frame} {cut : ℕ}

theorem readExactly_ok {n front} (h : readExactly n bytes = .ok (front, rest)) :
    bytes = front ++ rest ∧ front.length = n := by
  rw [readExactly] at h
  rcases hexact : readExact n bytes with _ | _
  · simp [hexact] at h
  · simp only [hexact, ok.injEq] at h
    exact readExact_eq_some (h ▸ hexact)

section

variable (frame : Frame)

theorem length_writeFrame : (writeFrame frame).length = 5 + frame.2.length := by
  simp [writeFrame]
  omega

/-- The header of a frame. -/
def header : List UInt8 := frame.1 :: toBeBytes 4 (frame.2.length % 2 ^ 32)

theorem length_header : (header frame).length = 5 := by simp [header]

theorem writeFrame_eq : writeFrame frame = header frame ++ frame.2 := rfl

/-- With fewer bytes than a header has, the end of the stream is reported. -/
theorem readFrame_short (h : bytes.length < 5) : readFrame bytes = .ok none := by
  simp [readFrame, readExactly, readExact_eq_none.2 h]

theorem readFrame_header (rest) : readFrame (header frame ++ rest) =
      let len := frame.2.length % 2 ^ 32
      if len > maxFramePayload then
        .error ⟨.invalidData, s!"PTY frame too large: {len} bytes (max {maxFramePayload})"⟩
      else if len > 0 then
        match readExactly len rest with
        | .error e => .error e
        | .ok (payload, rest) => .ok (some ((frame.1, payload), rest))
      else .ok (some ((frame.1, []), rest)) := by
  have hlen : fromBeBytes (header frame).tail = frame.2.length % 2 ^ 32 := by
    rw [header, tail_cons, fromBeBytes_toBeBytes, show 256 ^ 4 = 2 ^ 32 from rfl, Nat.mod_mod]
  rw [readFrame, readExactly, readExact_append (length_header frame)]
  simp only [hlen]
  rfl

end

theorem readFrame_writeFrame (h : frame.2.length ≤ maxFramePayload) (rest) :
    readFrame (writeFrame frame ++ rest) = .ok (some (frame, rest)) := by
  have hmod : frame.2.length % 2 ^ 32 = frame.2.length := Nat.mod_eq_of_lt (Nat.lt_of_le_of_lt h (by decide))
  rw [writeFrame_eq, append_assoc, readFrame_header]
  simp only [hmod, if_neg (Nat.not_lt.2 h)]
  split_ifs with hpos
  · rw [readExactly, readExact_append rfl]
  · obtain ⟨_, payload⟩ := frame
    have hnil : payload = [] := eq_nil_of_length_eq_zero (by simpa using hpos)
    subst hnil
    rfl

theorem readFrame_cut (h : frame.2.length ≤ maxFramePayload) {part} (hpart : part.length < frame.2.length)
    : ∃ e, readFrame (header frame ++ part) = .error e := by
  have hmod : frame.2.length % 2 ^ 32 = frame.2.length := Nat.mod_eq_of_lt (Nat.lt_of_le_of_lt h (by decide))
  refine ⟨⟨.unexpectedEof, "failed to fill whole buffer"⟩, ?_⟩
  rw [readFrame_header]
  simp only [hmod, if_neg (Nat.not_lt.2 h), if_pos (Nat.zero_lt_of_lt hpart), readExactly, readExact_eq_none.2 hpart]

/-! ### Streams -/

/-- A frame that is read is not too long, and takes bytes. -/
theorem readFrame_ok (h : readFrame bytes = .ok (some (frame, rest))) :
    frame.2.length ≤ maxFramePayload ∧ rest.length < bytes.length := by
  rw [readFrame] at h
  rcases hheader : readExactly 5 bytes with _ | ⟨front, after⟩
  · simp only [hheader] at h
    split_ifs at h
    simp at h
  · obtain ⟨rfl, _⟩ := readExactly_ok hheader
    simp only [hheader] at h
    split_ifs at h with hlong hpos
    · rcases hpayload : readExactly (fromBeBytes front.tail) after with _ | ⟨_, _⟩
      · simp [hpayload] at h
      · obtain ⟨rfl, _⟩ := readExactly_ok hpayload
        simp only [hpayload, ok.injEq, Option.some.injEq, Prod.mk.injEq] at h
        obtain ⟨rfl, rfl⟩ := h
        simp
        omega
    · simp only [ok.injEq, Option.some.injEq, Prod.mk.injEq] at h
      obtain ⟨rfl, rfl⟩ := h
      simp
      omega

/-- The reader of a PTY stream. -/
def reader : Reader Frame IoError := ⟨readFrame, fun h => (readFrame_ok h).2⟩

theorem reader_read (bytes) : reader.read bytes = readFrame bytes := rfl

/-- What is written for frames, one after the other. -/
def written (frames : List Frame) : List UInt8 := frames.flatMap writeFrame

/-- A stream is cut after `cut` bytes, inside a frame. -/
def InsideFrame (frames : List Frame) (cut : ℕ) : Prop :=
  ∃ before frame after, frames = before ++ frame :: after ∧
    (written before).length < cut ∧ cut < (written before).length + (writeFrame frame).length

/-- A stream is cut after `cut` bytes, inside the header of a frame. -/
def InsideHeader (frames : List Frame) (cut : ℕ) : Prop :=
  ∃ before frame after, frames = before ++ frame :: after ∧
    (written before).length < cut ∧ cut < (written before).length + (header frame).length

theorem take_written (hbefore : (written before).length ≤ cut)
    (hcut : cut ≤ (written before).length + (writeFrame frame).length) :
    (written (before ++ frame :: after)).take cut =
      written before ++ (writeFrame frame).take (cut - (written before).length) := by
  have hsplit : written (before ++ frame :: after) = written before ++ (writeFrame frame ++ written after) := by
    simp [written]
  rw [hsplit, take_append, take_of_length_le hbefore, take_append_of_le_length (by omega)]

/-- Frames that are not too long are read back, and what follows them is read as on its own. -/
theorem readAll_written (h : ∀ frame ∈ frames, frame.2.length ≤ maxFramePayload) (rest) :
    reader.readAll (written frames ++ rest) =
      (frames ++ (reader.readAll rest).1, (reader.readAll rest).2) :=
  readAll_flatMap (fun frame hframe rest => readFrame_writeFrame (h frame hframe) rest) rest

theorem not_long_of_readAll (h : reader.readAll (written frames) = (frames, .clean)) :
    ∀ frame ∈ frames, frame.2.length ≤ maxFramePayload := by
  induction frames with
  | nil => simp
  | cons frame frames ih =>
    have hwritten : written (frame :: frames) = writeFrame frame ++ written frames := by simp [written]
    rw [hwritten] at h
    have hframe : frame.2.length ≤ maxFramePayload := by
      by_contra hlong
      rcases hread : readFrame (writeFrame frame ++ written frames) with _ | _ | ⟨_, _⟩
      · rw [readAll_error ((reader_read _).trans hread)] at h
        simp at h
      · rw [readAll_none ((reader_read _).trans hread)] at h
        simp at h
      · rw [readAll_some ((reader_read _).trans hread)] at h
        simp only [Prod.mk.injEq, List.cons.injEq] at h
        exact hlong (h.1.1 ▸ (readFrame_ok hread).1)
    rw [readAll_some ((reader_read _).trans (readFrame_writeFrame hframe (written frames)))] at h
    simp only [Prod.mk.injEq, List.cons.injEq, true_and] at h
    exact forall_mem_cons.mpr ⟨hframe, ih (Prod.ext h.1 h.2)⟩

variable (h : ∀ frame ∈ before, frame.2.length ≤ maxFramePayload)

include h

theorem readAll_cut_header
    (hbefore : (written before).length ≤ cut) (hcut : cut < (written before).length + (header frame).length) :
    reader.readAll ((written (before ++ frame :: after)).take cut) = (before, .clean) := by
  rw [length_header] at hcut
  rw [take_written hbefore (by rw [length_writeFrame]; omega), readAll_written h]
  have hshort : reader.readAll ((writeFrame frame).take (cut - (written before).length)) = ([], .clean) :=
    readAll_none (readFrame_short (by rw [length_take]; omega))
  simp [hshort]

theorem readAll_cut_payload
    (hframe : frame.2.length ≤ maxFramePayload) (hbefore : (written before).length + (header frame).length ≤ cut)
    (hcut : cut < (written before).length + (writeFrame frame).length) :
    ∃ e, reader.readAll ((written (before ++ frame :: after)).take cut) = (before, .error e) := by
  rw [length_header] at hbefore
  rw [length_writeFrame] at hcut
  have hpart : (writeFrame frame).take (cut - (written before).length) =
      header frame ++ frame.2.take (cut - (written before).length - 5) := by
    rw [writeFrame_eq, take_append, length_header, take_of_length_le (by rw [length_header]; omega)]
  obtain ⟨e, herror⟩ := @readFrame_cut frame hframe (frame.2.take (cut - (written before).length - 5))
    (by rw [length_take]; omega)
  refine ⟨e, ?_⟩
  rw [take_written (by omega) (by rw [length_writeFrame]; omega), readAll_written h, hpart,
    readAll_error ((reader_read _).trans herror)]
  simp

omit h

/-- **Frames are read back.** Whatever frames are written, and wherever the stream is cut, they are read back in order
up to a clean end, or to an error if the cut is inside a frame, if and only if no payload is too long and the cut is not
inside a header. -/
theorem read_frames_iff (frames : List Frame) (cut : ℕ) : (reader.readAll (written frames) = (frames, .clean) ∧
      (InsideFrame frames cut → ∃ got e, reader.readAll ((written frames).take cut) = (got, .error e))) ↔
    (∀ frame ∈ frames, frame.2.length ≤ maxFramePayload) ∧ ¬ InsideHeader frames cut := by
  constructor
  · rintro ⟨hread, hcut⟩
    have hshort := not_long_of_readAll hread
    refine ⟨hshort, ?_⟩
    rintro ⟨before, frame, after, rfl, hbefore, hheader⟩
    have hinside : InsideFrame (before ++ frame :: after) cut :=
      ⟨before, frame, after, rfl, hbefore, by rw [length_header] at hheader; rw [length_writeFrame]; omega⟩
    obtain ⟨_, e, herror⟩ := hcut hinside
    rw [readAll_cut_header (fun f hf => hshort f (by simp [hf])) (Nat.le_of_lt hbefore) hheader] at herror
    simp at herror
  · rintro ⟨hshort, hheader⟩
    constructor
    · have hread := readAll_written hshort []
      rw [readAll_none ((reader_read []).trans (readFrame_short (by simp)))] at hread
      simpa using hread
    · rintro ⟨before, frame, after, rfl, hbefore, hinside⟩
      have hpayload : (written before).length + (header frame).length ≤ cut := by
        by_contra hlt
        exact hheader ⟨before, frame, after, rfl, hbefore, Nat.not_le.1 hlt⟩
      obtain ⟨e, herror⟩ := @readAll_cut_payload frame before after cut (fun f hf => hshort f (by simp [hf]))
        (hshort frame (by simp)) hpayload hinside
      exact ⟨before, e, herror⟩

/-- A stream that ends after the type of a frame ends cleanly. -/
theorem cut_header_clean :
    InsideFrame [(2, [104, 105])] 1 ∧ reader.readAll ((written [(2, [104, 105])]).take 1) = ([], .clean) :=
  ⟨⟨[], (2, [104, 105]), [], rfl, by decide, by decide⟩, readAll_none rfl⟩

end A3sBox.Pty
