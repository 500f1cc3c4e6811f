import A3sBox.Library.Text

/-!
# Slices and pieces of text

Text is a list of characters, but positions are counted in bytes of its UTF-8 form. A slice is there only if its ends
are in order and between characters; otherwise the program panics. A position that was found by looking for a
character is good (`splitAt_of_find`).
-/

namespace Slices

open Text List

/-! ### Positions -/

/-- How many bytes a text has. -/
def byteLen : List Char → ℕ
  | [] => 0
  | c :: s => c.utf8Size + byteLen s

/-- The position of the first character that is looked for. -/
def find (p : Char → Bool) : List Char → Option ℕ
  | [] => none
  | c :: s => if p c then some 0 else (find p s).map (c.utf8Size + ·)

/-- The text before and after a position, which must lie between two characters. -/
def splitAt : ℕ → List Char → Option (List Char × List Char)
  | 0, s => some ([], s)
  | _ + 1, [] => none
  | n + 1, c :: s =>
    if c.utf8Size ≤ n + 1 then (splitAt (n + 1 - c.utf8Size) s).map fun (front, back) => (c :: front, back) else none

/-- The text between two positions. -/
def slice (a b : ℕ) (s : List Char) : Option (List Char) :=
  if b < a then none else (splitAt b s).bind fun (front, _) => (splitAt a front).map fun (_, middle) => middle

theorem byteLen_append (a b : List Char) : byteLen (a ++ b) = byteLen a + byteLen b := by
  induction a with
  | nil => simp [byteLen]
  | cons _ _ ih => simp only [cons_append, byteLen, ih, Nat.add_assoc]

theorem splitAt_append (a b : List Char) : splitAt (byteLen a) (a ++ b) = some (a, b) := by
  induction a with
  | nil => simp [byteLen, splitAt]
  | cons c a ih =>
    have hpos := c.utf8Size_pos
    obtain ⟨n, hn⟩ : ∃ n, c.utf8Size + byteLen a = n + 1 := ⟨c.utf8Size + byteLen a - 1, by omega⟩
    rw [byteLen, hn, cons_append, splitAt, if_pos (by omega), show n + 1 - c.utf8Size = byteLen a by omega, ih]
    rfl

/-- The text between two quotes. -/
theorem slice_quoted {q} (hq : q.utf8Size = 1) (s : List Char) :
    slice 1 (byteLen (q :: s ++ [q]) - 1) (q :: s ++ [q]) = some s := by
  have hlen : byteLen (q :: s ++ [q]) - 1 = byteLen (q :: s) := by
    rw [byteLen_append]
    simp [byteLen, hq]
  have hone : splitAt 1 (q :: s) = some ([q], s) := by
    have := splitAt_append [q] s
    rwa [byteLen, hq] at this
  have hpos : ¬ byteLen (q :: s) < 1 := by
    rw [byteLen]
    omega
  simp only [slice, hlen, hpos, if_false, splitAt_append (q :: s) [q], Option.bind_some, hone, Option.map_some]

variable {p : Char → Bool} {s front : List Char} {mark : Char}

theorem find_append (h : ∀ c ∈ front, p c = false) (s) :
    find p (front ++ s) = (find p s).map (byteLen front + ·) := by
  induction front with
  | nil => simp [byteLen]
  | cons _ _ ih =>
    obtain ⟨hc, hfront⟩ := forall_mem_cons.mp h
    simp [find, hc, ih hfront, byteLen]

theorem find_eq_some {n} (h : find p s = some n) :
    ∃ front c back, s = front ++ c :: back ∧ (∀ d ∈ front, p d = false) ∧ p c = true ∧ n = byteLen front := by
  induction s generalizing n with
  | nil => cases h
  | cons c s ih =>
    rw [find] at h
    split_ifs at h with hc
    · cases h
      exact ⟨[], c, s, rfl, forall_mem_nil _, hc, rfl⟩
    · obtain ⟨_, hm, rfl⟩ := Option.map_eq_some_iff.mp h
      obtain ⟨front, d, back, rfl, hfront, hd, rfl⟩ := ih hm
      exact ⟨c :: front, d, back, rfl, forall_mem_cons.mpr ⟨Bool.eq_false_iff.mpr hc, hfront⟩, hd, rfl⟩

theorem find_eq_none : find p s = none ↔ ∀ c ∈ s, p c = false := by
  induction s with
  | nil => simp [find]
  | cons c _ ih =>
    rw [find]
    by_cases hc : p c = true
    · simp [hc]
    · simp [hc, ih]

/-- A text divided at the first character that is looked for. -/
theorem takeWhile_dropWhile {c} (hfront : ∀ d ∈ front, p d = false) (hc : p c = true) (back : List Char) :
    (front ++ c :: back).takeWhile (fun d => !p d) = front ∧
      (front ++ c :: back).dropWhile (fun d => !p d) = c :: back := by
  have hpass : ∀ d ∈ front, (!p d) = true := fun d hd => by rw [hfront d hd]; rfl
  simp [takeWhile_append_of_pos hpass, dropWhile_append_of_pos hpass, hc]

/-- **A position that was found** lies between two characters. -/
theorem splitAt_of_find {n} (h : find p s = some n) :
    splitAt n s = some (s.takeWhile (fun c => !p c), s.dropWhile fun c => !p c) := by
  obtain ⟨front, c, back, rfl, hfront, hc, rfl⟩ := find_eq_some h
  obtain ⟨htake, hdrop⟩ := takeWhile_dropWhile hfront hc back
  rw [htake, hdrop]
  exact splitAt_append front (c :: back)

/-! ### Pieces -/

section

variable (s : List Char)

/-- The text without white space at its beginning. -/
def trimStart : List Char := s.dropWhile isWhitespace

/-- The text without white space at its end. -/
def trimEnd : List Char := (s.reverse.dropWhile isWhitespace).reverse

/-- The text cut at every character that is looked for. -/
def pieces (p : Char → Bool) : List Char → List (List Char)
  | [] => [[]]
  | c :: s =>
    if p c then [] :: pieces p s
    else
      match pieces p s with
      | [] => [[c]]
      | piece :: others => (c :: piece) :: others

/-- The words of a text. -/
def splitWhitespace : List (List Char) := (pieces isWhitespace s).filter fun piece => !piece.isEmpty

/-- The text cut at the first characters that are looked for, into at most so many pieces. -/
def splitn (p : Char → Bool) : ℕ → List Char → List (List Char)
  | 0, _ => []
  | 1, s => [s]
  | n + 2, s =>
    match s.dropWhile fun c => !p c with
    | [] => [s]
    | _ :: rest => (s.takeWhile fun c => !p c) :: splitn p (n + 1) rest

/-- The text before and after the first occurrence of a character. -/
def splitOnce (mark : Char) (s : List Char) : Option (List Char × List Char) :=
  match s.dropWhile fun c => !(c == mark) with
  | [] => none
  | _ :: rest => some (s.takeWhile fun c => !(c == mark), rest)

/-- The text before and after the last occurrence of a character. -/
def rsplitOnce (mark : Char) (s : List Char) : Option (List Char × List Char) :=
  (splitOnce mark s.reverse).map fun (back, front) => (front.reverse, back.reverse)

/-- The text after a given beginning, if it has it. -/
def stripStart (start s : List Char) : Option (List Char) :=
  if start.isPrefixOf s then some (s.drop start.length) else none

/-- The text before the first occurrence of a text, and the text from there on. -/
def findText (pattern : List Char) : List Char → Option (List Char × List Char)
  | [] => if pattern.isEmpty then some ([], []) else none
  | c :: s =>
    if pattern.isPrefixOf (c :: s) then some ([], c :: s)
    else (findText pattern s).map fun (front, rest) => (c :: front, rest)

/-- A text is found after a beginning that does not have its first character. -/
theorem findText_append {pattern} (h : mark ∉ front) (back : List Char) :
    findText (mark :: pattern) (front ++ mark :: (pattern ++ back)) = some (front, mark :: (pattern ++ back)) := by
  induction front with
  | nil =>
    simp [findText]
  | cons c front ih =>
    rw [mem_cons, not_or] at h
    have hstart : (mark :: pattern).isPrefixOf (c :: (front ++ mark :: (pattern ++ back))) = false := by
      rw [isPrefixOf_cons_cons, beq_eq_false_iff_ne.mpr h.1, Bool.false_and]
    simp [findText, hstart, ih h.2]

theorem trimStart_length_le : (trimStart s).length ≤ s.length := (dropWhile_suffix isWhitespace).length_le

theorem trimEnd_length_le : (trimEnd s).length ≤ s.length := by
  have h := (dropWhile_suffix (l := s.reverse) isWhitespace).length_le
  simpa [trimEnd] using h

theorem trim_length_le : (trim s).length ≤ s.length := (trimEnd_length_le _).trans (trimStart_length_le s)

end

theorem splitn_ne_nil (p) (n : ℕ) (s) : splitn p (n + 1) s ≠ [] := by
  cases n with
  | zero => simp [splitn]
  | succ =>
    rw [splitn]
    split <;> simp

/-! ### Texts with a mark -/

theorem splitOnce_append (h : mark ∉ front) (back : List Char) :
    splitOnce mark (front ++ mark :: back) = some (front, back) := by
  have hfront : ∀ c ∈ front, (c == mark) = false := by
    intro c hc
    exact beq_false_of_ne fun heq => h (heq ▸ hc)
  obtain ⟨htake, hdrop⟩ := takeWhile_dropWhile hfront (beq_self_eq_true mark) back
  simp [splitOnce, htake, hdrop]

theorem splitOnce_of_not_mem (h : mark ∉ s) : splitOnce mark s = none := by
  have hdrop : (s.dropWhile fun c => !(c == mark)) = [] := by
    refine dropWhile_eq_nil_iff.mpr fun c hc => ?_
    have hne : c ≠ mark := fun heq => h (heq ▸ hc)
    simp [hne]
  simp [splitOnce, hdrop]

theorem pieces_of_not_mem (h : mark ∉ s) : pieces (· == mark) s = [s] := by
  induction s with
  | nil => rfl
  | cons _ _ ih =>
    rw [mem_cons, not_or] at h
    rw [pieces, if_neg (by simpa using Ne.symm h.1), ih h.2]

theorem pieces_append (h : mark ∉ front) (back : List Char) :
    pieces (· == mark) (front ++ mark :: back) = front :: pieces (· == mark) back := by
  induction front with
  | nil => rw [nil_append, pieces, if_pos (beq_self_eq_true mark)]
  | cons _ _ ih =>
    rw [mem_cons, not_or] at h
    rw [cons_append, pieces, if_neg (by simpa using Ne.symm h.1), ih h.2]

theorem pieces_ne_nil (p) (s) : pieces p s ≠ [] := by
  cases s with
  | nil => exact cons_ne_nil _ _
  | cons =>
    rw [pieces]
    split_ifs
    · exact cons_ne_nil _ _
    · split <;> exact cons_ne_nil _ _

/-- The pieces of a text with a mark are those before it and those after it. -/
theorem pieces_mark (mark) (front back : List Char) :
    pieces (· == mark) (front ++ mark :: back) = pieces (· == mark) front ++ pieces (· == mark) back := by
  induction front with
  | nil =>
    have hmark : pieces (· == mark) (mark :: back) = [] :: pieces (· == mark) back := by
      rw [pieces, if_pos (beq_self_eq_true mark)]
    exact hmark
  | cons c front ih =>
    rw [cons_append, pieces, pieces, ih]
    by_cases hc : c = mark
    · rw [if_pos (beq_iff_eq.mpr hc), if_pos (beq_iff_eq.mpr hc), cons_append]
    · rw [if_neg (mt beq_iff_eq.mp hc), if_neg (mt beq_iff_eq.mp hc)]
      rcases hpieces : pieces (· == mark) front with _ | ⟨_, _⟩
      · exact absurd hpieces (pieces_ne_nil _ _)
      · rfl

/-- Pieces with a mark between them. -/
def joinWith (mark : Char) : List (List Char) → List Char
  | [] => []
  | [text] => text
  | text :: next :: rest => text ++ mark :: joinWith mark (next :: rest)

/-- What is joined is taken apart again, and so are the texts themselves. -/
theorem pieces_joinWith (mark) {texts} (h : texts ≠ []) :
    pieces (· == mark) (joinWith mark texts) = texts.flatMap (pieces (· == mark)) := by
  induction texts with
  | nil => exact absurd rfl h
  | cons _ rest ih =>
    cases rest with
    | nil => rw [joinWith, flatMap_singleton]
    | cons =>
      rw [joinWith, pieces_mark, ih (cons_ne_nil _ _)]
      exact flatMap_cons.symm

theorem mark_cases (mark : Char) (s : List Char) :
    mark ∉ s ∨ ∃ front back, mark ∉ front ∧ s = front ++ mark :: back := by
  by_cases h : mark ∈ s
  · obtain ⟨front, back, hs, hfront⟩ := eq_append_cons_of_mem h
    exact .inr ⟨front, back, hfront, hs⟩
  · exact .inl h

theorem head_of_trimmed (h : trim s = s) : ∀ c ∈ s.head?, isWhitespace c = false := by
  rw [← h]
  exact head_trim s

theorem getLast_of_trimmed (h : trim s = s) : ∀ c ∈ s.getLast?, isWhitespace c = false := by
  rw [← h]
  exact getLast_trim s

end Slices
