import A3sBox.Build.Parser

/-!
# What the instruction parsers read back

Pairs are written with double quotes around each value and a space between two, as an argument of `ENV` or `LABEL`.
The tokenizer gives one token for each, and the pairs that are read are those that were written.
-/

namespace A3sBox.Build.Parser

open Text Slices List

/-- A pair, written with quotes around the value. -/
def pairText (pair : String × String) : List Char := pair.1.toList ++ '=' :: ('"' :: pair.2.toList ++ ['"'])

/-- A key without white space, `=` and quotes. -/
def PlainKey (key : String) : Prop :=
  key ≠ "" ∧ ∀ c ∈ key.toList, isWhitespace c = false ∧ c ≠ '=' ∧ c ≠ '"' ∧ c ≠ '\''

/-- The value may hold anything but a double quote, line breaks included. -/
def PlainPair (pair : String × String) : Prop := PlainKey pair.1 ∧ '"' ∉ pair.2.toList

variable {pair : String × String} {pairs : List (String × String)} {current word : List Char}

theorem unquote_quoted (value : String) : unquote ('"' :: value.toList ++ ['"']) = .ok value := by
  have htrim : trim ('"' :: value.toList ++ ['"']) = '"' :: value.toList ++ ['"'] := by
    apply trim_eq_self_of_ends
    · rintro _ ⟨⟩
      rfl
    · intro c hc
      rw [List.getLast?_concat] at hc
      cases hc
      rfl
  have hquotes : ('"' :: value.toList ++ ['"']).head? = some '"' ∧
      ('"' :: value.toList ++ ['"']).getLast? = some '"' :=
    ⟨rfl, List.getLast?_concat⟩
  simp only [unquote, htrim]
  rw [if_pos (.inl hquotes), slice_quoted (by decide)]
  exact congrArg Except.ok String.ofList_toList

theorem tokenizeLoop_word (h : ∀ c ∈ word, isWhitespace c = false ∧ c ≠ '"' ∧ c ≠ '\'') (current s : List Char) :
    tokenizeLoop current none true (word ++ s) = tokenizeLoop (current ++ word) none true s := by
  induction word generalizing current with
  | nil => rw [nil_append, append_nil]
  | cons _ _ ih =>
    obtain ⟨⟨hspace, hdouble, hsingle⟩, hword⟩ := forall_mem_cons.mp h
    simp [tokenizeLoop, hspace, hdouble, hsingle, ih hword]

theorem tokenizeLoop_value {value} (h : '"' ∉ value) (s : List Char) :
    tokenizeLoop current (some '"') true (value ++ '"' :: s) = tokenizeLoop (current ++ value ++ ['"']) none true s := by
  induction value generalizing current with
  | nil => simp [tokenizeLoop]
  | cons _ _ ih =>
    rw [mem_cons, not_or] at h
    simp [tokenizeLoop, Ne.symm h.1, ih h.2]

/-- A pair is one token. -/
theorem tokenizeLoop_pair (h : PlainPair pair) (s : List Char) :
    tokenizeLoop [] none false (pairText pair ++ s) = tokenizeLoop (pairText pair) none true s := by
  obtain ⟨⟨hne, hkey⟩, hquote⟩ := h
  obtain ⟨c, key, hcons⟩ := exists_cons_of_ne_nil (mt String.toList_eq_nil_iff.mp hne)
  have hword : ∀ d ∈ key ++ ['='], isWhitespace d = false ∧ d ≠ '"' ∧ d ≠ '\'' := by
    rw [hcons] at hkey
    refine forall_mem_append.mpr ⟨fun d hd => ?_, forall_mem_singleton.mpr (by decide)⟩
    exact ⟨(hkey d (mem_cons_of_mem _ hd)).1, (hkey d (mem_cons_of_mem _ hd)).2.2⟩
  obtain ⟨hspace, -, hdouble, hsingle⟩ := hkey c (hcons ▸ mem_cons_self)
  have hread := tokenizeLoop_word hword [c] ('"' :: pair.2.toList ++ '"' :: s)
  rw [pairText, hcons]
  simp only [cons_append, append_assoc, nil_append, tokenizeLoop, hdouble, hsingle, hspace] at hread ⊢
  simp [hread, tokenizeLoop_value hquote]

theorem tokenizeQuoted_pairs (h : ∀ pair ∈ pairs, PlainPair pair) :
    tokenizeQuoted (joinWith ' ' (pairs.map pairText)) = pairs.map pairText := by
  rw [tokenizeQuoted]
  induction pairs with
  | nil => rfl
  | cons pair rest ih =>
    obtain ⟨hpair, hrest⟩ := forall_mem_cons.mp h
    cases rest with
    | nil =>
      have hread := tokenizeLoop_pair hpair []
      rw [append_nil] at hread
      exact hread
    | cons =>
      rw [map_cons, map_cons, joinWith, tokenizeLoop_pair hpair]
      exact congrArg (pairText pair :: ·) (ih hrest)

theorem parsePairs_pairs (keyword shape : String) (lineNum : ℕ) (h : ∀ pair ∈ pairs, PlainPair pair) :
    parsePairs keyword shape lineNum (pairs.map pairText) = .ok pairs := by
  induction pairs with
  | nil => rfl
  | cons pair _ ih =>
    obtain ⟨⟨⟨hne, hkey⟩, -⟩, hrest⟩ := forall_mem_cons.mp h
    have heq : '=' ∉ pair.1.toList := fun hmem => (hkey _ hmem).2.1 rfl
    have hnil : pair.1.toList ≠ [] := mt String.toList_eq_nil_iff.mp hne
    rw [map_cons, parsePairs, pairText, splitOnce_append heq]
    simp only [hnil, if_false, unquote_quoted, ih hrest, bind, Except.bind, String.ofList_toList]

theorem isKvForm_pair (h : PlainKey pair.1) (s : List Char) : isKvForm (pairText pair ++ s) = true := by
  have heq : ∀ c ∈ pair.1.toList, (c == '=') = false := fun c hc => beq_false_of_ne (h.2 c hc).2.1
  have hspace : ∀ c ∈ pair.1.toList, isWhitespace c = false := fun c hc => (h.2 c hc).1
  rw [isKvForm, pairText, append_assoc, find_append heq, find_append hspace, cons_append]
  have hmark : isWhitespace '=' = false := rfl
  simp only [find, hmark]
  rcases find isWhitespace _ with _ | _ <;> simp [Char.utf8Size_pos]

/-- **Pairs that are written with quotes are read back** by `ENV` and by `LABEL`. -/
theorem pairs_read_back (hne : pairs ≠ []) (h : ∀ pair ∈ pairs, PlainPair pair) (lineNum : ℕ) :
    parseEnv (joinWith ' ' (pairs.map pairText)) lineNum = .ok (.env pairs) ∧
      parseLabel (joinWith ' ' (pairs.map pairText)) lineNum = .ok (.label pairs) := by
  obtain ⟨pair, rest, rfl⟩ := exists_cons_of_ne_nil hne
  obtain ⟨s, hs⟩ : ∃ s, joinWith ' ' ((pair :: rest).map pairText) = pairText pair ++ s := by
    cases rest with
    | nil => exact ⟨[], (append_nil _).symm⟩
    | cons => exact ⟨_, rfl⟩
  have htext : joinWith ' ' ((pair :: rest).map pairText) ≠ [] := by
    rw [hs, pairText]
    simp
  have hkv : isKvForm (joinWith ' ' ((pair :: rest).map pairText)) = true := by
    rw [hs]
    exact isKvForm_pair (h pair mem_cons_self).1 s
  simp only [parseEnv, parseLabel, htext, hkv, tokenizeQuoted_pairs h, parsePairs_pairs _ _ _ h, if_false, if_true,
    bind, Except.bind, and_self]

/-- Values with spaces, a single quote and `=`. -/
theorem two_pairs_read_back : parseEnv "A=\"x y\" B=\"it's=1\"".toList 1 = .ok (.env [("A", "x y"), ("B", "it's=1")]) :=
  (@pairs_read_back [("A", "x y"), ("B", "it's=1")] (by decide) (by simp [PlainPair, PlainKey, isWhitespace]) 1).1

end A3sBox.Build.Parser
