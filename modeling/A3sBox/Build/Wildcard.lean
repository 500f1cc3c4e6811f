import A3sBox.Build.Source

/-!
# Patterns for names

`wildcard_match` of `dockerignore.rs` and `glob_segment_match` of `engine/handlers.rs` are one loop, which keeps the
last `*` it has met, to go back to. `matchers_right_iff`: it ends, and is right about a text for all patterns exactly
if there is no `*` in the text, which a `*` of the pattern is taken for. `star_refused` is such a text.
-/

namespace A3sBox.Build

open List

/-! ### The matchers -/

/-- The loop, at what is left of pattern and text. `star` is what was left after the last `*`, with the text as it was
tried last. -/
def matchLoop (star : Option (List Char × List Char)) : List Char → List Char → Bool
  | p, [] => (p.dropWhile (· == '*')).isEmpty
  | c :: p, d :: t =>
    if c = '?' ∨ c = d then matchLoop star p t
    else if c = '*' then matchLoop (some (p, d :: t)) p (d :: t)
    else
      match star with
      | some (q, _ :: u) => matchLoop (some (q, u)) q u
      | _ => false
  | [], _ :: _ =>
    match star with
    | some (q, _ :: u) => matchLoop (some (q, u)) q u
    | _ => false
termination_by p t => (max p.length (star.elim 0 (·.1.length)), star.elim 0 (·.2.length), p.length + t.length)
decreasing_by
  all_goals
    simp only [Prod.lex_def, Option.elim_some, List.length_cons, true_and]
    omega

/-- The matcher of `.dockerignore`. -/
def wildcardMatch (pattern text : String) : Bool := matchLoop none pattern.toList text.toList

/-- The matcher of COPY and ADD. -/
def globSegmentMatch : Glob := fun pattern name => matchLoop none pattern.toList name.toList

/-- What a character of a pattern stands for. -/
def Stands (c : Char) (piece : List Char) : Prop := c = '*' ∨ ∃ d, piece = [d] ∧ (c = '?' ∨ c = d)

/-- A text can be cut into pieces for which the characters of a pattern stand. -/
def Matches : List Char → List Char → Prop
  | [], t => t = []
  | c :: p, t => ∃ piece rest, t = piece ++ rest ∧ Stands c piece ∧ Matches p rest

/-! ### Going back to the last `*` -/

variable {c d : Char} {p t front : List Char} {star : Option (List Char × List Char)}

theorem matches_star : Matches ('*' :: p) t ↔ ∃ k, Matches p (t.drop k) := by
  constructor
  · rintro ⟨piece, _, rfl, -, h⟩
    exact ⟨piece.length, by rwa [drop_left]⟩
  · rintro ⟨k, h⟩
    exact ⟨t.take k, t.drop k, (take_append_drop k t).symm, .inl rfl, h⟩

theorem matches_one (hc : c ≠ '*') :
    Matches (c :: p) t ↔ ∃ d rest, t = d :: rest ∧ (c = '?' ∨ c = d) ∧ Matches p rest := by
  constructor
  · rintro ⟨_, rest, rfl, hstar | ⟨d, rfl, hd⟩, h⟩
    · exact absurd hstar hc
    · exact ⟨d, rest, rfl, hd, h⟩
  · rintro ⟨d, rest, rfl, hd, h⟩
    exact ⟨[d], rest, rfl, .inr ⟨d, rfl, hd⟩, h⟩

theorem matches_nil : Matches p [] ↔ p.dropWhile (· == '*') = [] := by
  induction p with
  | nil => simp [Matches]
  | cons c _ ih =>
    by_cases hc : c = '*'
    · subst hc
      simpa [matches_star] using ih
    · simp [matches_one hc, hc]

/-- Each character of a pattern without `*` takes one of the text. -/
theorem Matches.drop (h : Matches (front ++ p) t) (hfront : '*' ∉ front) : Matches p (t.drop front.length) := by
  induction front generalizing t with
  | nil => exact h
  | cons _ _ ih =>
    rw [mem_cons, not_or] at hfront
    obtain ⟨_, _, rfl, -, h⟩ := (matches_one (Ne.symm hfront.1)).mp h
    exact ih h hfront.2

theorem Matches.append (h : Matches p t) (hfront : '*' ∉ front) : Matches (front ++ p) (front ++ t) := by
  induction front with
  | nil => exact h
  | cons c front ih =>
    rw [mem_cons, not_or] at hfront
    exact (matches_one (Ne.symm hfront.1)).mpr ⟨c, front ++ t, rfl, .inr rfl, ih hfront.2⟩

/-- Since the last `*`, each character of the pattern has taken one of the text. -/
def Saved (star : Option (List Char × List Char)) (p t : List Char) : Prop :=
  ∀ q u, star = some (q, u) → '*' ∉ u ∧ ∃ front seen, q = front ++ p ∧ u = seen ++ t ∧ front.length = seen.length ∧
    '*' ∉ front

/-- A later part of the text matches what is left after the last `*`. -/
def Later (star : Option (List Char × List Char)) : Prop := ∃ q u k, star = some (q, u) ∧ Matches q (u.drop (k + 1))

/-- A later part after the last `*` has a later part of what is left now. -/
theorem Later.here (h : Later star) (hsaved : Saved star p t) : ∃ k, Matches p (t.drop (k + 1)) := by
  obtain ⟨q, u, k, rfl, h⟩ := h
  obtain ⟨-, _, _, rfl, rfl, hlength, hfront⟩ := hsaved q u rfl
  have hdrop := h.drop hfront
  rw [drop_drop, Nat.add_comm, hlength, ← drop_drop, drop_left] at hdrop
  exact ⟨k, hdrop⟩

theorem saved_start (ht : '*' ∉ t) : Saved (some (p, t)) p t := by
  rintro _ _ ⟨⟩
  exact ⟨ht, [], [], rfl, rfl, rfl, not_mem_nil⟩

theorem later_start : Matches p t ∨ Later (some (p, t)) ↔ ∃ k, Matches p (t.drop k) := by
  constructor
  · rintro (h | ⟨_, _, k, ⟨⟩, h⟩)
    · exact ⟨0, h⟩
    · exact ⟨k + 1, h⟩
  · rintro ⟨_ | k, h⟩
    · exact .inl h
    · exact .inr ⟨p, t, k, rfl, h⟩

/-- Where the pattern and the text differ, only a later part of the text is left. -/
theorem differ_iff (hp : ¬ Matches p t) {q u e} :
    (∃ k, Matches q (u.drop k)) ↔ Matches p t ∨ Later (some (q, e :: u)) := by
  rw [or_iff_right hp]
  constructor
  · rintro ⟨k, h⟩
    exact ⟨q, e :: u, k, rfl, h⟩
  · rintro ⟨_, _, k, ⟨⟩, h⟩
    exact ⟨k, h⟩

theorem not_later (hsaved : Saved star p (d :: t)) (hstar : ∀ q e u, star = some (q, e :: u) → False) :
    ¬ Later star := by
  rintro ⟨q, u, _, rfl, -⟩
  obtain ⟨-, _, seen, -, rfl, -⟩ := hsaved q u rfl
  cases seen with
  | nil | cons => exact hstar _ _ _ rfl

/-- **The loop is right** on a text without `*`: what is left is matched, or a later part after the last `*`. -/
theorem matchLoop_iff (hsaved : Saved star p t) (ht : '*' ∉ t) :
    matchLoop star p t = true ↔ Matches p t ∨ Later star := by
  fun_induction matchLoop star p t with
  | case1 star p =>
    rw [List.isEmpty_iff, ← matches_nil]
    refine ⟨.inl, fun h => h.elim id fun hlater => ?_⟩
    obtain ⟨k, h⟩ := hlater.here hsaved
    exact h
  | case2 star c p d t hd ih =>
    rw [mem_cons, not_or] at ht
    have hc : c ≠ '*' := by
      rintro rfl
      rcases hd with hd | hd
      · cases hd
      · exact ht.1 hd
    have hsaved' : Saved star p t := by
      intro q u hstar
      obtain ⟨hu, front, seen, rfl, rfl, hlength, hfront⟩ := hsaved q u hstar
      refine ⟨hu, front ++ [c], seen ++ [d], by simp, by simp, by simp [hlength], ?_⟩
      simp [hfront, Ne.symm hc]
    rw [ih hsaved' ht.2, matches_one hc]
    refine or_congr_left ⟨fun h => ⟨d, t, rfl, hd, h⟩, ?_⟩
    rintro ⟨_, _, ⟨⟩, -, h⟩
    exact h
  | case3 star p d t hd ih =>
    rw [ih (saved_start ht) ht, later_start, matches_star]
    refine ⟨.inl, fun h => h.elim id fun hlater => ?_⟩
    -- the last `*` but one is not gone back to: this one can take what that one would take
    obtain ⟨k, h⟩ := hlater.here hsaved
    obtain ⟨j, h⟩ := matches_star.mp h
    exact ⟨k + 1 + j, by rwa [drop_drop] at h⟩
  | case4 c p d t hd hc q e u ih =>
    have hu := (mem_cons.not.trans not_or).mp (hsaved _ _ rfl).1
    rw [ih (saved_start hu.2) hu.2, later_start]
    refine differ_iff fun h => ?_
    obtain ⟨_, _, ⟨⟩, hd', -⟩ := (matches_one hc).mp h
    exact hd hd'
  | case5 star c p d t hd hc hstar =>
    refine iff_of_false Bool.false_ne_true (not_or.mpr ⟨fun h => ?_, not_later hsaved hstar⟩)
    obtain ⟨_, _, ⟨⟩, hd', -⟩ := (matches_one hc).mp h
    exact hd hd'
  | case6 d t q e u ih =>
    have hu := (mem_cons.not.trans not_or).mp (hsaved _ _ rfl).1
    rw [ih (saved_start hu.2) hu.2, later_start]
    exact differ_iff (p := []) (cons_ne_nil d t)
  | case7 star d t hstar =>
    exact iff_of_false Bool.false_ne_true (not_or.mpr ⟨cons_ne_nil d t, not_later hsaved hstar⟩)

/-! ### Texts with a `*` -/

/-- What is equal is passed over, a `*` like any other character. -/
theorem matchLoop_append (front p t) : matchLoop none (front ++ p) (front ++ t) = matchLoop none p t := by
  induction front with
  | nil => rfl
  | cons _ _ ih => simp [matchLoop, ih]

/-- **The matchers are right for a text**, with every pattern, if and only if there is no `*` in it. -/
theorem matchers_right_iff (text : String) : (∀ pattern, wildcardMatch pattern text = globSegmentMatch pattern text ∧
      (wildcardMatch pattern text = true ↔ Matches pattern.toList text.toList)) ↔ '*' ∉ text.toList := by
  constructor
  · intro hall hstar
    obtain ⟨front, rest, htext, hfront⟩ := eq_append_cons_of_mem hstar
    -- a pattern that is equal to the text up to its first `*`
    have hmatch : ∀ p, Matches p ('*' :: rest) → matchLoop none p ('*' :: rest) = true := by
      intro p hp
      have hright := (hall (String.ofList (front ++ p))).2
      rw [wildcardMatch, String.toList_ofList, htext, matchLoop_append] at hright
      exact hright.mpr (hp.append hfront)
    cases rest with
    | nil =>
      have hone : Matches ['?'] ['*'] := (matches_one (by decide)).mpr ⟨'*', [], rfl, .inl rfl, rfl⟩
      simpa [matchLoop] using hmatch ['*', '?'] (matches_star.mpr ⟨0, hone⟩)
    | cons _ rest => simpa [matchLoop] using hmatch ['*'] (matches_star.mpr ⟨rest.length + 2, by simp [Matches]⟩)
  · intro htext pattern
    refine ⟨rfl, (matchLoop_iff (fun _ _ h => by cases h) htext).trans (or_iff_left ?_)⟩
    rintro ⟨_, _, _, ⟨⟩, -⟩

/-- The pattern `*` refuses the name `*a`, for which it stands. -/
theorem star_refused : wildcardMatch "*" "*a" = false ∧ Matches ['*'] ['*', 'a'] :=
  ⟨by simp [wildcardMatch, matchLoop], matches_star.mpr ⟨2, rfl⟩⟩

end A3sBox.Build
