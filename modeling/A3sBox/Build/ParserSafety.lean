import A3sBox.Build.Parser
import Mathlib.Data.List.Induction

/-!
# When the parser of Dockerfiles panics

Every slice and index of the parser is good but one: `unquote` takes the text between the first and the last character
when both are the same quote, also when they are one character. `parse_returns_iff`: the parser returns exactly if it
reaches no line with such a value (`LoneQuoted`).
-/

namespace A3sBox.Build.Parser

open Text Slices

/-! ### Panics -/

/-- The call panics. -/
def Panics {α : Type} (x : Parsed α) : Prop := x = .error .panic

variable {α : Type} {lib : Lib} {line : List Char}

@[simp] theorem panics_ok (a : α) : ¬ Panics (.ok a : Parsed α) := nofun

@[simp] theorem panics_error (e : BoxError) : ¬ Panics (.error (.error e) : Parsed α) := nofun

@[simp] theorem panics_fail (lineNum : ℕ) (text : String) : ¬ Panics (fail lineNum text : Parsed α) := nofun

@[simp] theorem panics_bind {β : Type} (x : Parsed α) (f : α → Parsed β) :
    Panics (x >>= f) ↔ Panics x ∨ ∃ a, x = .ok a ∧ Panics (f a) := by
  cases x with
  | ok a | error fault => simp [Panics, bind, Except.bind]

@[simp] theorem panics_ite (p : Prop) [Decidable p] (x y : Parsed α) :
    Panics (if p then x else y) ↔ if p then Panics x else Panics y := by
  split_ifs <;> rfl

@[simp] theorem panics_orPanic (x : Option α) : Panics (orPanic x) ↔ x = none := by
  cases x <;> simp [Panics, orPanic]

@[simp] theorem panics_splitFirstWord (s : List Char) : ¬ Panics (splitFirstWord s) := by
  rw [splitFirstWord_eq]
  exact panics_ok _

/-! ### Quotes -/

/-- The value is a quote alone. -/
def LoneQuote (value : List Char) : Prop := trim value = ['"'] ∨ trim value = ['\'']

variable {s word rest : List Char} {text : String} {lineNum : ℕ}

/-- The text between two quotes is there if there are two. -/
theorem slice_quotes {q} (hq : q.utf8Size = 1) (hhead : s.head? = some q) (hlast : s.getLast? = some q) :
    slice 1 (byteLen s - 1) s = none ↔ s = [q] := by
  obtain ⟨s, rfl⟩ : ∃ t, s = q :: t := ⟨s.tail, (List.head?_eq_some_iff.mp hhead).elim fun t ht => by simp [ht]⟩
  cases s using List.reverseRecOn with
  | nil => simp [slice, byteLen, hq]
  | append_singleton _ c =>
    have hc : c = q := by
      rw [← List.cons_append, List.getLast?_concat] at hlast
      exact Option.some.inj hlast
    subst hc
    rw [← List.cons_append, slice_quoted hq]
    simp

theorem panics_unquote (s) : Panics (unquote s) ↔ LoneQuote s := by
  have hquote : ∀ q : Char, q.utf8Size = 1 → (trim s).head? = some q → (trim s).getLast? = some q →
      (Panics (orPanic (slice 1 (byteLen (trim s) - 1) (trim s))) ↔ trim s = [q]) := by
    intro q hq hhead hlast
    rw [panics_orPanic]
    exact slice_quotes hq hhead hlast
  simp only [unquote, panics_ite, panics_bind, panics_ok, and_false, exists_false, or_false]
  split_ifs with h
  · rcases h with ⟨hhead, hlast⟩ | ⟨hhead, hlast⟩
    · rw [hquote '"' (by decide) hhead hlast]
      refine ⟨.inl, fun hlone => hlone.elim id fun hsingle => ?_⟩
      rw [hsingle] at hhead
      exact absurd hhead (by decide)
    · rw [hquote '\'' (by decide) hhead hlast]
      refine ⟨.inr, fun hlone => hlone.elim (fun hdouble => ?_) id⟩
      rw [hdouble] at hhead
      exact absurd hhead (by decide)
  · refine ⟨False.elim, fun hlone => h ?_⟩
    rcases hlone with hlone | hlone
    · exact .inl (by rw [hlone]; decide)
    · exact .inr (by rw [hlone]; decide)

theorem unquote_returns (h : ¬ LoneQuote s) : ∃ text, unquote s = .ok text := by
  have hpanic := mt (panics_unquote s).mp h
  simp only [unquote] at hpanic ⊢
  split_ifs at hpanic ⊢
  · cases hslice : slice 1 (byteLen (trim s) - 1) (trim s) with
    | none =>
      rw [hslice] at hpanic
      exact absurd rfl hpanic
    | some => exact ⟨_, rfl⟩
  · exact ⟨_, rfl⟩

/-- The token has a key and a value. -/
def IsPair (token : List Char) : Prop := ∃ key value, splitOnce '=' token = some (key, value) ∧ key ≠ []

/-- A key, and a quote alone as the value. -/
def IsLonePair (token : List Char) : Prop :=
  ∃ key value, splitOnce '=' token = some (key, value) ∧ key ≠ [] ∧ LoneQuote value

/-- Pairs, and then one whose value is a quote alone. -/
def LonePair (tokens : List (List Char)) : Prop :=
  ∃ before token after, tokens = before ++ token :: after ∧ (∀ t ∈ before, IsPair t) ∧ IsLonePair token

theorem lonePair_cons {token tokens} :
    LonePair (token :: tokens) ↔ IsLonePair token ∨ IsPair token ∧ LonePair tokens := by
  constructor
  · rintro ⟨before, t, after, heq, hbefore, ht⟩
    cases before with
    | nil =>
      cases heq
      exact .inl ht
    | cons _ before =>
      cases heq
      exact .inr ⟨hbefore _ List.mem_cons_self, before, t, after, rfl,
        fun u hu => hbefore u (List.mem_cons_of_mem _ hu), ht⟩
  · rintro (hlone | ⟨hpair, before, t, after, rfl, hbefore, ht⟩)
    · exact ⟨[], token, tokens, rfl, List.forall_mem_nil _, hlone⟩
    · exact ⟨token :: before, t, after, rfl, List.forall_mem_cons.mpr ⟨hpair, hbefore⟩, ht⟩

theorem panics_parsePairs (keyword shape : String) (lineNum) (tokens : List (List Char)) :
    Panics (parsePairs keyword shape lineNum tokens) ↔ LonePair tokens := by
  induction tokens with
  | nil =>
    refine iff_of_false (panics_ok _) ?_
    rintro ⟨before, _, _, heq, -⟩
    cases before <;> cases heq
  | cons token _ ih =>
    rw [lonePair_cons, parsePairs]
    cases hsplit : splitOnce '=' token with
    | none => simp [IsLonePair, IsPair, hsplit]
    | some pair =>
      obtain ⟨key, value⟩ := pair
      have hlone : IsLonePair token ↔ key ≠ [] ∧ LoneQuote value := by simp [IsLonePair, hsplit]
      have hpair : IsPair token ↔ key ≠ [] := by simp [IsPair, hsplit]
      rw [hlone, hpair]
      simp only [panics_ite, panics_bind, panics_ok, and_false, exists_false, or_false, panics_unquote, ih]
      by_cases hkey : key = []
      · simp [hkey]
      · -- the value is a quote alone, or the next pairs are parsed
        simp only [hkey, ne_eq, not_false_iff, true_and]
        constructor
        · rintro (hlone | ⟨_, _, htokens⟩)
          · exact .inl hlone
          · exact .inr htokens
        · rintro (hlone | htokens)
          · exact .inl hlone
          · by_cases hquote : LoneQuote value
            · exact .inl hquote
            · obtain ⟨text, htext⟩ := unquote_returns hquote
              exact .inr ⟨text, htext, htokens⟩

/-! ### The instructions -/

variable (s rest lineNum)

@[simp] theorem panics_parseJsonArray (lib) : ¬ Panics (parseJsonArray lib s lineNum) := by
  unfold parseJsonArray
  split
  · exact panics_ok _
  · exact panics_fail _ _

@[simp] theorem panics_parseExec (lib) : ¬ Panics (parseExec lib rest lineNum) := by
  simp [parseExec]

theorem panics_parseFrom : ¬ Panics (parseFrom rest lineNum) := by
  unfold parseFrom
  obtain ⟨_, parts, hparts⟩ := List.exists_cons_of_ne_nil (splitn_ne_nil isWhitespace 2 rest)
  rw [hparts]
  rcases parts with _ | ⟨_, _ | ⟨_, _⟩⟩ <;> simp

variable (remaining : List Char)

theorem panics_parseCopyFlags (fromRef chown : Option String) :
    ¬ Panics (parseCopyFlags lineNum remaining fromRef chown) := by
  fun_induction parseCopyFlags lineNum remaining fromRef chown with
  | case1 remaining fromRef chown hflag fault hsplit => simp [splitFirstWord_eq] at hsplit
  | _ => first | assumption | simp

theorem panics_parseAddFlags (chown : Option String) : ¬ Panics (parseAddFlags lineNum remaining chown) := by
  fun_induction parseAddFlags lineNum remaining chown with
  | case1 remaining chown hflag fault hsplit => simp [splitFirstWord_eq] at hsplit
  | _ => first | assumption | simp

theorem panics_parseSources (keyword : String) (remaining) :
    ¬ Panics (parseSources keyword lineNum remaining) := by
  unfold parseSources
  dsimp only
  split_ifs with hjson hlen
  · exact panics_fail _ _
  · exact panics_fail _ _
  · have hlast : (shellSplit remaining)[(shellSplit remaining).length - 1]? ≠ none := by
      rw [ne_eq, List.getElem?_eq_none_iff]
      omega
    simp [hlast]

theorem panics_parseDurationSecs : ¬ Panics (parseDurationSecs s lineNum) := by
  unfold parseDurationSecs
  dsimp only
  split_ifs
  · exact panics_ok _
  · split
    · exact panics_ok _
    · split
      · exact panics_ok _
      · exact panics_fail _ _

theorem panics_parseValue (flag : HealthFlag) (value : List Char) : ¬ Panics (flag.parseValue value lineNum) := by
  unfold HealthFlag.parseValue
  split
  · split
    · exact panics_ok _
    · exact panics_fail _ _
  · exact panics_parseDurationSecs value lineNum

theorem panics_parseHealthOptions (o : HealthOptions) : ¬ Panics (parseHealthOptions lineNum remaining o) := by
  fun_induction parseHealthOptions lineNum remaining o with
  | case1 => exact panics_ok _
  | case2 remaining o flag hflag fault hsplit => simp [splitFirstWord_eq] at hsplit
  | case3 remaining o flag hflag word after hsplit fault hvalue =>
    intro hpanic
    cases hpanic
    exact panics_parseValue lineNum flag _ hvalue
  | case4 remaining o flag hflag word after hsplit value hvalue ih => exact ih

theorem panics_parseArg :
    Panics (parseArg rest lineNum) ↔ ∃ name value, splitOnce '=' rest = some (name, value) ∧ LoneQuote value := by
  unfold parseArg
  cases hfind : find (fun c => c == '=') rest with
  | none =>
    have hdrop : rest.dropWhile (fun c => !(c == '=')) = [] :=
      List.dropWhile_eq_nil_iff.mpr fun c hc => by simp [find_eq_none.mp hfind c hc]
    simp [splitOnce, hdrop]
  | some =>
    obtain ⟨front, c, back, rfl, hfront, hc, rfl⟩ := find_eq_some hfind
    obtain ⟨htake, hdrop⟩ := takeWhile_dropWhile hfront hc back
    have heq : c = '=' := by simpa using hc
    subst heq
    have hsize : byteLen front + 1 = byteLen (front ++ ['=']) := by
      rw [byteLen_append]
      rfl
    have hname : splitAt (byteLen front) (front ++ '=' :: back) = some (front, '=' :: back) := splitAt_append _ _
    have hvalue : splitAt (byteLen front + 1) (front ++ '=' :: back) = some (front ++ ['='], back) := by
      have hsplit := splitAt_append (front ++ ['=']) back
      rwa [← hsize, List.append_assoc] at hsplit
    simp [splitOnce, hdrop, hname, hvalue, panics_unquote, orPanic]

/-- The first word of a line in upper case. -/
def keyword (lib : Lib) (line : List Char) : String :=
  String.ofList (((trim line).takeWhile fun c => !isWhitespace c).flatMap lib.toUppercase)

/-- What comes after the first word. -/
def arguments (line : List Char) : List Char := trimStart ((trim line).dropWhile fun c => !isWhitespace c)

/-- The lines with a value that is a quote alone. -/
inductive LoneQuoted (lib : Lib) : List Char → Prop where
  /-- `ENV`, in a pair that comes after pairs. -/
  | env {line : List Char} (is_env : keyword lib line = "ENV") (is_kv : isKvForm (arguments line) = true)
      (lone : LonePair (tokenizeQuoted (arguments line))) : LoneQuoted lib line
  /-- `LABEL`, in a pair that comes after pairs. -/
  | label {line : List Char} (is_label : keyword lib line = "LABEL") (is_kv : isKvForm (arguments line) = true)
      (lone : LonePair (tokenizeQuoted (arguments line))) : LoneQuoted lib line
  | labelValue {line : List Char} (is_label : keyword lib line = "LABEL") (not_kv : isKvForm (arguments line) = false)
      (lone : LoneQuote (arguments (arguments line))) : LoneQuoted lib line
  | arg {line name value} (is_arg : keyword lib line = "ARG")
      (split : splitOnce '=' (arguments line) = some (name, value)) (lone : LoneQuote value) : LoneQuoted lib line
  | onBuild {line : List Char} (is_onBuild : keyword lib line = "ONBUILD") (inner : LoneQuoted lib (arguments line)) :
      LoneQuoted lib line

theorem not_loneQuote_nil : ¬ LoneQuote [] := by
  rintro (h | h) <;> cases h

theorem panics_parseEnv : Panics (parseEnv rest lineNum) ↔ isKvForm rest = true ∧ LonePair (tokenizeQuoted rest) := by
  by_cases hrest : rest = []
  · subst hrest
    simp [parseEnv, isKvForm, find]
  · simp [parseEnv, hrest, panics_parsePairs]

theorem panics_parseLabel : Panics (parseLabel rest lineNum) ↔ isKvForm rest = true ∧ LonePair (tokenizeQuoted rest) ∨
      isKvForm rest = false ∧ LoneQuote (arguments rest) := by
  by_cases hrest : rest = []
  · subst hrest
    have harguments : arguments [] = [] := rfl
    simp [parseLabel, isKvForm, find, harguments, not_loneQuote_nil]
  · by_cases hkv : isKvForm rest = true
    · simp [parseLabel, hrest, hkv, panics_parsePairs]
    · simp [parseLabel, hrest, hkv, splitFirstWord_eq, panics_unquote, arguments]

theorem panics_parseOnbuild (inner : Instruction) : ¬ Panics (parseOnbuild inner lineNum) := by
  unfold parseOnbuild
  split <;> simp

variable {s rest lineNum}

theorem keyword_of_loneQuoted (h : LoneQuoted lib line) : keyword lib line ∈ ["ENV", "LABEL", "ARG", "ONBUILD"] := by
  cases h with
  | env is_env => simp [is_env]
  | label is_label | labelValue is_label => simp [is_label]
  | arg is_arg => simp [is_arg]
  | onBuild is_onBuild => simp [is_onBuild]

theorem arguments_of_split (hsplit : splitFirstWord line = .ok (word, rest))
    (hword : String.ofList (word.flatMap lib.toUppercase) = text) :
    keyword lib line = text ∧ rest = arguments line := by
  rw [splitFirstWord_eq] at hsplit
  cases hsplit
  exact ⟨hword, rfl⟩

theorem panics_other (hsplit : splitFirstWord line = .ok (word, rest))
    (hword : String.ofList (word.flatMap lib.toUppercase) = text) (hother : text ∉ ["ENV", "LABEL", "ARG", "ONBUILD"])
    {x : Parsed Instruction} (hx : ¬ Panics x) : Panics x ↔ LoneQuoted lib line := by
  refine iff_of_false hx fun hlone => hother ?_
  rw [← (arguments_of_split hsplit hword).1]
  exact keyword_of_loneQuoted hlone

theorem loneQuoted_env (h : keyword lib line = "ENV") :
    LoneQuoted lib line ↔ isKvForm (arguments line) = true ∧ LonePair (tokenizeQuoted (arguments line)) := by
  refine ⟨fun hlone => ?_, fun ⟨hkv, hpair⟩ => .env h hkv hpair⟩
  cases hlone with
  | env _ hkv hpair => exact ⟨hkv, hpair⟩
  | label h' | labelValue h' | arg h' | onBuild h' => simp [h] at h'

theorem loneQuoted_label (h : keyword lib line = "LABEL") :
    LoneQuoted lib line ↔ isKvForm (arguments line) = true ∧ LonePair (tokenizeQuoted (arguments line)) ∨
      isKvForm (arguments line) = false ∧ LoneQuote (arguments (arguments line)) := by
  constructor
  · intro hlone
    cases hlone with
    | env h' | arg h' | onBuild h' => simp [h] at h'
    | label _ hkv hpair => exact .inl ⟨hkv, hpair⟩
    | labelValue _ hkv hvalue => exact .inr ⟨hkv, hvalue⟩
  · rintro (⟨hkv, hpair⟩ | ⟨hkv, hvalue⟩)
    · exact .label h hkv hpair
    · exact .labelValue h hkv hvalue

theorem loneQuoted_arg (h : keyword lib line = "ARG") :
    LoneQuoted lib line ↔ ∃ name value, splitOnce '=' (arguments line) = some (name, value) ∧ LoneQuote value := by
  refine ⟨fun hlone => ?_, fun ⟨name, value, hsplit, hvalue⟩ => .arg h hsplit hvalue⟩
  cases hlone with
  | env h' | label h' | labelValue h' | onBuild h' => simp [h] at h'
  | arg _ hsplit hvalue => exact ⟨_, _, hsplit, hvalue⟩

theorem loneQuoted_onBuild (h : keyword lib line = "ONBUILD") :
    LoneQuoted lib line ↔ LoneQuoted lib (arguments line) := by
  refine ⟨fun hlone => ?_, .onBuild h⟩
  cases hlone with
  | env h' | label h' | labelValue h' | arg h' => simp [h] at h'
  | onBuild _ inner => exact inner

theorem not_loneQuoted_nil (lib) : ¬ LoneQuoted lib [] := by
  intro h
  have hmem := keyword_of_loneQuoted h
  simp [keyword, trim] at hmem

theorem panics_parseInstruction (lib) (line) (lineNum) :
    Panics (parseInstruction lib line lineNum) ↔ LoneQuoted lib line := by
  fun_induction parseInstruction lib line lineNum with
  | case1 line fault hsplit => simp [splitFirstWord_eq] at hsplit
  | case2 line word rest hsplit hword => exact panics_other hsplit hword (by decide) (panics_parseFrom rest lineNum)
  | case4 line word rest hsplit hword | case13 line word rest hsplit hword | case16 line word rest hsplit hword =>
    exact panics_other hsplit hword (by decide) (by
      simp [parseCopy, parseAdd, parseHealthcheck, panics_parseCopyFlags, panics_parseAddFlags, panics_parseSources,
        panics_parseHealthOptions])
  | case3 _ _ _ hsplit hword | case5 _ _ _ hsplit hword | case7 _ _ _ hsplit hword | case8 _ _ _ hsplit hword
  | case9 _ _ _ hsplit hword | case11 _ _ _ hsplit hword | case14 _ _ _ hsplit hword | case15 _ _ _ hsplit hword
  | case20 _ _ _ hsplit hword | case21 _ _ _ hsplit hword =>
    exact panics_other hsplit hword (by decide) (by
      simp [parseRun, parseWorkdir, parseEntrypoint, parseCmd, parseExpose, parseUser, parseShell, parseStopsignal,
        parseVolume, parseMaintainer])
  | case6 line word rest hsplit hword =>
    obtain ⟨hkeyword, rfl⟩ := arguments_of_split hsplit hword
    rw [panics_parseEnv, loneQuoted_env hkeyword]
  | case10 line word rest hsplit hword =>
    obtain ⟨hkeyword, rfl⟩ := arguments_of_split hsplit hword
    rw [panics_parseLabel, loneQuoted_label hkeyword]
  | case12 line word rest hsplit hword =>
    obtain ⟨hkeyword, rfl⟩ := arguments_of_split hsplit hword
    rw [panics_parseArg, loneQuoted_arg hkeyword]
  | case17 line word hword hsplit =>
    obtain ⟨hkeyword, hrest⟩ := arguments_of_split hsplit hword
    rw [loneQuoted_onBuild hkeyword, ← hrest]
    exact iff_of_false (panics_fail _ _) (not_loneQuoted_nil lib)
  | case18 line word rest hsplit hword hne fault hinner ih =>
    obtain ⟨hkeyword, rfl⟩ := arguments_of_split hsplit hword
    rw [loneQuoted_onBuild hkeyword, ← ih, hinner]
  | case19 line word rest hsplit hword hne inner hinner ih =>
    obtain ⟨hkeyword, rfl⟩ := arguments_of_split hsplit hword
    rw [loneQuoted_onBuild hkeyword, ← ih, hinner]
    exact iff_of_false (panics_parseOnbuild lineNum inner) (panics_ok inner)
  | case22 line word rest hsplit =>
    refine panics_other hsplit rfl ?_ (panics_fail _ _)
    simp only [List.mem_cons, List.not_mem_nil, or_false, not_or]
    refine ⟨?_, ?_, ?_, ?_⟩ <;> assumption

/-! ### The whole text -/

/-- The parser gets to a line: the lines before it are skipped or parsed. -/
def Passed (lib : Lib) (lineNum : ℕ) (before : List (List Char)) : Prop :=
  ∀ k line, before[k]? = some line →
    skipped line = true ∨ ∃ instruction, parseInstruction lib (trim line) (lineNum + k) = .ok instruction

/-- The parser gets to a line in which a value is a quote alone. -/
def ReachesLoneQuote (lib : Lib) (lineNum : ℕ) (lines : List (List Char)) : Prop :=
  ∃ before line after, lines = before ++ line :: after ∧ Passed lib lineNum before ∧ skipped line = false ∧
    LoneQuoted lib (trim line)

theorem passed_cons {before} : Passed lib lineNum (line :: before) ↔
      (skipped line = true ∨ ∃ instruction, parseInstruction lib (trim line) lineNum = .ok instruction) ∧
        Passed lib (lineNum + 1) before := by
  constructor
  · intro h
    refine ⟨h 0 line rfl, fun k l hl => ?_⟩
    have := h (k + 1) l hl
    rwa [show lineNum + (k + 1) = lineNum + 1 + k by omega] at this
  · rintro ⟨hline, hbefore⟩ k l hl
    cases k with
    | zero =>
      cases hl
      exact hline
    | succ k =>
      have := hbefore k l hl
      rwa [show lineNum + 1 + k = lineNum + (k + 1) by omega] at this

theorem reachesLoneQuote_cons {lines} :
    ReachesLoneQuote lib lineNum (line :: lines) ↔ (skipped line = false ∧ LoneQuoted lib (trim line)) ∨
      (skipped line = true ∨ ∃ instruction, parseInstruction lib (trim line) lineNum = .ok instruction) ∧
        ReachesLoneQuote lib (lineNum + 1) lines := by
  constructor
  · rintro ⟨before, l, after, heq, hbefore, hskipped, hlone⟩
    cases before with
    | nil =>
      cases heq
      exact .inl ⟨hskipped, hlone⟩
    | cons _ before =>
      cases heq
      obtain ⟨hline, hrest⟩ := passed_cons.mp hbefore
      exact .inr ⟨hline, before, l, after, rfl, hrest, hskipped, hlone⟩
  · rintro (⟨hskipped, hlone⟩ | ⟨hline, before, l, after, rfl, hbefore, hskipped, hlone⟩)
    · exact ⟨[], line, lines, rfl, fun _ _ h => by simp at h, hskipped, hlone⟩
    · exact ⟨line :: before, l, after, rfl, passed_cons.mpr ⟨hline, hbefore⟩, hskipped, hlone⟩

theorem panics_parseLines (lib) (lineNum) (lines : List (List Char)) :
    Panics (parseLines lib lineNum lines) ↔ ReachesLoneQuote lib lineNum lines := by
  induction lines generalizing lineNum with
  | nil =>
    refine iff_of_false (panics_ok _) ?_
    rintro ⟨before, _, _, heq, -⟩
    cases before <;> cases heq
  | cons line _ ih =>
    rw [reachesLoneQuote_cons, parseLines]
    by_cases hskipped : skipped line = true
    · simp [hskipped, ih]
    · simp [hskipped, ih, panics_parseInstruction]

theorem panics_parse (lib) (content : String) :
    Panics (parse lib content) ↔ ReachesLoneQuote lib 1 (joinContinuationLines content.toList) := by
  rw [← panics_parseLines, parse, panics_bind]
  refine ⟨fun h => h.elim id ?_, .inl⟩
  rintro ⟨_, -, h⟩
  split_ifs at h
  · cases h
  · split at h <;> cases h

/-- **The parser returns** an instruction list or an error exactly if it does not get to a line in which a value of
`ENV`, `LABEL` or `ARG` is a quote alone. -/
theorem parse_returns_iff (lib : Lib) (content : String) :
    ((∃ instructions, parse lib content = .ok instructions) ∨ ∃ e, parse lib content = .error (.error e)) ↔
      ¬ ReachesLoneQuote lib 1 (joinContinuationLines content.toList) := by
  rw [← panics_parse]
  constructor
  · rintro (⟨instructions, h⟩ | ⟨e, h⟩) <;> simp [h]
  · intro h
    cases hparse : parse lib content with
    | ok instructions => exact .inl ⟨instructions, rfl⟩
    | error fault =>
      cases fault with
      | error e => exact .inr ⟨e, rfl⟩
      | panic => exact absurd hparse h

/-! ### A quote alone -/

/-- A JSON array of strings without escapes. -/
def plainJson (s : List Char) : Except String (List String) :=
  let inner := trim ((trim s).drop 1).dropLast
  if inner = [] then .ok []
  else
    (pieces (fun c => c == ',') inner).mapM fun piece =>
      match trim piece with
      | '"' :: text => if text.getLast? = some '"' then .ok (String.ofList text.dropLast) else .error "EOF while parsing"
      | _ => .error "expected value"

/-- The letters of ASCII, and such JSON. -/
def asciiLib : Lib := ⟨fun c => [c.toUpper], plainJson⟩

/-- The value of `ENV GREETING="` is a quote alone. -/
theorem lone_quote_panics : parse asciiLib "FROM alpine\nENV GREETING=\"\n" = .error .panic := by
  refine (panics_parse _ _).mpr ⟨["FROM alpine".toList], "ENV GREETING=\"".toList, [], by decide, ?_, by decide, ?_⟩
  · refine passed_cons.mpr ⟨.inr ⟨.fromImage "alpine" none, ?_⟩, fun _ _ h => by simp at h⟩
    rw [parseInstruction]
    rfl
  · refine .env (by decide) (by decide) ⟨[], "GREETING=\"".toList, [], by decide, List.forall_mem_nil _, ?_⟩
    exact ⟨"GREETING".toList, ['"'], by decide, by decide, .inl (by decide)⟩

end A3sBox.Build.Parser
