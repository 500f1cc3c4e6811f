import A3sBox.Library.PosixFs

/-!
# Making and removing directories by path

What `create_dir_all` and `remove_dir_all` do with a path that is meant to be in a directory `base`. `createDirAll`
makes what is missing, from the last component backwards; the host may refuse. `doomedBy` is what is removed: a link
at the end itself, unless the path ends in a slash, and of a path that ends in `.` or `..` what is in the directory.

`childName?` reads a path as `base` and one more name. If it does, nothing changes but what is strictly inside `base`
(`createDirAll_inside`, `doomedBy_inside`); if not, there are links with which something does (`exists_redirected`).
-/

namespace PosixFs

open List Option

variable {F D L : Type}

/-! ### Making -/

/-- What comes of making a directory. -/
inductive Mkdir (F D L : Type) where
  | made (fs : Fs F D L)
  /-- Something is there, or the host refuses. -/
  | present
  | missing

/-- Make a directory; the path is given from its last component. -/
def mkdir (refuses : Location → Bool) (fresh : D) (fs : Fs F D L) : List Comp → Mkdir F D L
  | [] => .present
  | .up :: above => if (resolveDir fs [] above.reverse).isSome then .present else .missing
  | .name n :: above =>
    match resolveDir fs [] above.reverse with
    | none => .missing
    | some d =>
      if (fs (d ++ [n])).isSome || refuses (d ++ [n]) then .present else .made (fs.put (d ++ [n]) (.dir fresh))

/-- `create_dir_all`, and whether it succeeds; the path is given from its last component. -/
def createDirAll (refuses : Location → Bool) (fresh : D) (fs : Fs F D L) : List Comp → Fs F D L × Bool
  | [] => (fs, fs.isDir [])
  | c :: above =>
    let isDir := fun fs : Fs F D L => (resolveDir fs [] (c :: above).reverse).isSome
    match mkdir refuses fresh fs (c :: above) with
    | .made fs' => (fs', true)
    | .present => (fs, isDir fs)
    | .missing =>
      match createDirAll refuses fresh fs above with
      | (fs', false) => (fs', false)
      | (fs', true) =>
        match mkdir refuses fresh fs' (c :: above) with
        | .made fs'' => (fs'', true)
        | _ => (fs', isDir fs')

/-! ### Removing -/

/-- How a path ends. -/
inductive Ending where
  | plain
  | slash
  | dot
  deriving DecidableEq, Repr

/-- How a path ends. -/
def ending (text : List UInt8) : Ending :=
  match (text.splitOn slash).getLast? with
  | some [] => .slash
  | some [c] => if c = PosixFs.dot then .dot else .plain
  | _ => .plain

/-- What `remove_dir_all` removes. -/
def doomedBy (fs : Fs F D L) (text : List UInt8) : Option Doomed :=
  let parts := components text
  match ending text with
  | .plain =>
    match resolve fs false [] parts with
    | none => none
    | some p =>
      match fs p with
      | some (.file _) => none
      | _ => if parts.getLast? = some .up ∨ p = [] then some (.below p) else some (.tree p)
  | .slash =>
    (resolveDir fs [] parts).map fun d =>
      if d ≠ [] ∧ resolve fs false [] parts = some d then .tree d else .below d
  | .dot => (resolveDir fs [] parts).map .below

/-- Remove what is to be removed, but for what the host keeps. -/
def Fs.removeSome (fs : Fs F D L) (keeps : Location → Bool) : Option Doomed → Fs F D L
  | none => fs
  | some doomed => fun q => if doomed.covers q && !keeps q then none else fs q

/-! ### A path into a directory -/

/-- Where a path leads if there are no links. -/
def lexical : Location → List Comp → Location
  | p, [] => p
  | p, .up :: rest => lexical p.dropLast rest
  | p, .name n :: rest => lexical (p ++ [n]) rest

/-- Where a path leaves the way to `base`: the location, the name, and what comes after it. -/
def leave (base : Location) : Location → List Comp → Option (Location × Name × List Comp)
  | _, [] => none
  | p, .up :: rest => leave base p.dropLast rest
  | p, .name n :: rest => if (p ++ [n]).isPrefixOf base then leave base (p ++ [n]) rest else some (p, n, rest)

/-- The name of an entry of `base`, if that is what a text is a path of. -/
def childName? (base : Location) (text : List UInt8) : Option Name :=
  match leave base [] (components text), ending text with
  | some (p, n, []), .plain => if p = base then some n else none
  | _, _ => none

/-- The directory and those above it are directories, and no links. -/
def Fs.RealDir (fs : Fs F D L) (base : Location) : Prop := ∀ q, q <+: base → fs.isDir q = true

/-- Only what is strictly inside a directory is changed. -/
def ChangedInside (base : Location) (fs fs' : Fs F D L) : Prop := ∀ q, fs' q ≠ fs q → base <+: q ∧ q ≠ base

variable {base : Location} {text : List UInt8}

theorem childName?_eq_some {a} :
    childName? base text = some a ↔ leave base [] (components text) = some (base, a, []) ∧ ending text = .plain := by
  unfold childName?
  split
  next p n hleave hending =>
    rw [hleave, hending]
    split_ifs with hp
    · simp [hp]
    · simp [hp]
  next hnot =>
    refine ⟨nofun, fun ⟨hleave, hending⟩ => ?_⟩
    exact absurd hending (hnot _ _ hleave)

variable {p q : Location} {parts : List Comp} {n : Name}

theorem isPrefixOf_dropLast (h : p <+: base) : p.dropLast <+: base := (List.dropLast_prefix p).trans h

variable {rest : List Comp}

/-- On the way to a directory that is no link, a path is followed as it stands. -/
theorem leave_eq_some (hp : p <+: base) (h : leave base p parts = some (q, n, rest)) :
    q <+: base ∧ ¬ q ++ [n] <+: base ∧ lexical p parts = lexical (q ++ [n]) rest ∧
      ∃ above, parts = above ++ .name n :: rest ∧ ∀ {fs : Fs F D L}, fs.RealDir base → ∀ follow next tail,
        walkSegment fs follow next p (above ++ tail) = walkSegment fs follow next q tail := by
  induction parts generalizing p with
  | nil => cases h
  | cons c _ ih =>
    cases c with
    | up =>
      obtain ⟨hq, hn, hlex, above, rfl, hwalk⟩ := ih (isPrefixOf_dropLast hp) h
      exact ⟨hq, hn, hlex, .up :: above, rfl, hwalk⟩
    | name m =>
      rw [leave] at h
      split_ifs at h with hon
      · have hon' : p ++ [m] <+: base := isPrefixOf_iff_prefix.mp hon
        obtain ⟨hq, hn, hlex, above, rfl, hwalk⟩ := ih hon' h
        refine ⟨hq, hn, hlex, .name m :: above, rfl, fun {fs} hreal follow next tail => ?_⟩
        rw [← hwalk hreal, cons_append, walkSegment_dir (hreal _ hon')]
      · cases h
        exact ⟨hp, fun hpre => hon (List.isPrefixOf_iff_prefix.mpr hpre), rfl, [], rfl, fun _ _ _ _ => rfl⟩

theorem leave_eq_none (hp : p <+: base) (h : leave base p parts = none) : lexical p parts <+: base := by
  induction parts generalizing p with
  | nil => exact hp
  | cons c _ ih =>
    cases c with
    | up => exact ih (isPrefixOf_dropLast hp) h
    | name =>
      rw [leave] at h
      split_ifs at h with hon
      exact ih (List.isPrefixOf_iff_prefix.mp hon) h

theorem components_append_slash (a b : List UInt8) : components (a ++ slash :: b) = components a ++ components b := by
  rw [components, splitOn_append_cons_self, filterMap_append]
  rfl

theorem components_of_validName (h : ValidName n) : components n = [.name n] := by
  obtain ⟨hne, hdot, hup, hslash⟩ := h
  simp [components, splitOn_eq_singleton hslash, hne, hdot, hup]

theorem leave_base (rest) (h : p ++ q = base) :
    leave base p (q.map .name ++ rest) = leave base base rest := by
  induction q generalizing p with
  | nil =>
    rw [append_nil] at h
    rw [h]
    rfl
  | cons n q ih =>
    have hnext : p ++ [n] ++ q = base := by rw [append_assoc, singleton_append, h]
    have hon : (p ++ [n]).isPrefixOf base = true := isPrefixOf_iff_prefix.mpr ⟨q, hnext⟩
    rw [map_cons, cons_append, leave, if_pos hon]
    exact ih hnext

theorem ending_of_validName (front : List UInt8) (h : ValidName n) : ending (front ++ slash :: n) = .plain := by
  obtain ⟨hne, hdot, -, hslash⟩ := h
  unfold ending
  rw [splitOn_append_cons_self, splitOn_eq_singleton hslash, List.getLast?_concat]
  split
  next heq => exact absurd (some.inj heq) hne
  next c heq =>
    rw [if_neg]
    rintro rfl
    exact hdot (some.inj heq)
  · rfl

/-- A directory and a name of an entry are the path of the entry. -/
theorem childName?_of_validName {front} (hfront : components front = base.map .name) (h : ValidName n) :
    childName? base (front ++ slash :: n) = some n := by
  refine childName?_eq_some.mpr ⟨?_, ending_of_validName front h⟩
  have hnot : ¬ (base ++ [n]).isPrefixOf base = true := by
    intro hpre
    have hlength := (List.isPrefixOf_iff_prefix.mp hpre).length_le
    rw [length_append, length_singleton] at hlength
    omega
  rw [components_append_slash, hfront, components_of_validName h, leave_base _ (nil_append base), leave, if_neg hnot]

/-! ### Changes inside a directory -/

theorem changedInside_refl (base) (fs : Fs F D L) : ChangedInside base fs fs := fun _ hq => absurd rfl hq

theorem changedInside_trans {fs₁ fs₂ fs₃ : Fs F D L} (h₁ : ChangedInside base fs₁ fs₂)
    (h₂ : ChangedInside base fs₂ fs₃) :
    ChangedInside base fs₁ fs₃ := by
  intro q hq
  by_cases hsame : fs₂ q = fs₁ q
  · exact h₂ q (hsame ▸ hq)
  · exact h₁ q hsame

/-- A directory stays what it is while only what is inside changes. -/
theorem realDir_of_changedInside {fs fs' : Fs F D L} (hreal : fs.RealDir base) (h : ChangedInside base fs fs') :
    fs'.RealDir base := by
  intro q hq
  have hsame : fs' q = fs q := by
    by_contra hne
    obtain ⟨hpre, hneq⟩ := h q hne
    exact hneq (hq.eq_of_length_le hpre.length_le)
  rw [Fs.isDir, hsame]
  exact hreal q hq

/-! ### A path of an entry -/

theorem ne_base_of_append (base : Location) (n : Name) (q : Location) (h : base ++ [n] <+: q) :
    base <+: q ∧ q ≠ base := by
  refine ⟨(prefix_append base [n]).trans h, ?_⟩
  rintro rfl
  have hlength := h.length_le
  rw [length_append, length_singleton] at hlength
  omega

section Child

variable {base : Location} {text : List UInt8} {a : Name} {fs : Fs F D L}

section

variable (h : childName? base text = some a)
include h

section

variable (hreal : fs.RealDir base)
include hreal

theorem resolve_child (follow : Bool) : resolve fs follow [] (components text) =
      walkSegment fs follow (walk fs follow (maxLinks - 1)) base [.name a] := by
  obtain ⟨-, -, -, _, hparts, hwalk⟩ := leave_eq_some (F := F) (D := D) (L := L) nil_prefix (childName?_eq_some.mp h).1
  rw [hparts]
  exact hwalk hreal follow _ _

theorem resolve_child_mem (hp : resolve fs false [] (components text) = some p) : p = base ++ [a] := by
  rw [resolve_child h hreal] at hp
  rcases hnode : fs (base ++ [a]) with _ | ⟨_ | _ | _⟩
  all_goals simp [walkSegment, hnode] at hp
  all_goals exact hp.symm

/-- **Making the directories of an entry** changes nothing but what is strictly inside. -/
theorem createDirAll_inside (refuses : Location → Bool)
    (fresh : D) : ChangedInside base fs (createDirAll refuses fresh fs (components text).reverse).1 := by
  obtain ⟨-, -, -, above, hparts, hwalk⟩ :=
    leave_eq_some (F := F) (D := D) (L := L) nil_prefix (childName?_eq_some.mp h).1
  have hbase : resolveDir fs [] above = some base := by
    have hresolve : resolve fs true [] above = some base := by
      rw [← append_nil above]
      exact hwalk hreal true _ []
    rw [resolveDir, hresolve, filter_some, if_pos (hreal base prefix_rfl)]
  rw [hparts, reverse_append, reverse_singleton, singleton_append]
  simp only [createDirAll, mkdir, reverse_reverse, hbase]
  split_ifs
  · exact fun q hq => absurd rfl hq
  · intro q hq
    have hq' : q = base ++ [a] := by
      by_contra hne
      exact hq (if_neg hne)
    exact ne_base_of_append base a q (hq' ▸ prefix_rfl)

/-- **Removing an entry** changes nothing but what is strictly inside. -/
theorem doomedBy_inside (keeps : Location → Bool) : ChangedInside base fs (fs.removeSome keeps (doomedBy fs text)) := by
  obtain ⟨hleave, hending⟩ := childName?_eq_some.mp h
  obtain ⟨-, -, -, _, hparts, -⟩ := leave_eq_some (F := F) (D := D) (L := L) nil_prefix hleave
  have hlast : (components text).getLast? = some (.name a) := by rw [hparts, List.getLast?_concat]
  intro q hq
  cases hdoomed : doomedBy fs text with
  | none =>
    rw [hdoomed] at hq
    exact absurd rfl hq
  | some doomed =>
    have htree : doomed = .tree (base ++ [a]) := by
      simp only [doomedBy, hending, hlast] at hdoomed
      split at hdoomed
      · cases hdoomed
      next p hp =>
        obtain rfl := resolve_child_mem h hreal hp
        split at hdoomed
        · cases hdoomed
        · simpa using hdoomed.symm
    rw [hdoomed, htree] at hq
    refine ne_base_of_append base a q (List.isPrefixOf_iff_prefix.mp ?_)
    by_contra hnot
    exact hq (if_neg (by simp [Doomed.covers, hnot]))

end

end

end Child

/-! ### A path that is led elsewhere -/

/-- All directories, but for one link. -/
def redirect (place : Location) (text : List UInt8) (d : D) (l : L) : Fs F D L := fun q =>
  if q = place then some (.link text l) else some (.dir d)

/-- The text of a path deep below the root. -/
def deepText (k : ℕ) (z : Name) : List UInt8 := slash :: (List.replicate k z).flatMap (· ++ [slash])

theorem components_deepText (k : ℕ) {z} (hz : ValidName z) :
    components (deepText k z) = List.replicate k (.name z) := by
  have hgen : components ((List.replicate k z).flatMap (· ++ [slash])) = List.replicate k (.name z) := by
    induction k with
    | zero => rfl
    | succ _ ih =>
      rw [replicate_succ, flatMap_cons, append_assoc, singleton_append, components_append_slash,
        components_of_validName hz, ih]
      rfl
  rw [← hgen]
  exact components_append_slash [] _

theorem exists_fresh (names : List Name) : ∃ z, ValidName z ∧ z ∉ names := by
  refine ⟨List.replicate (names.flatten.length + 1) 122, ⟨?_, ?_, ?_, ?_⟩, ?_⟩
  · simp
  · intro h
    exact absurd (List.cons.inj h).1 (by decide)
  · intro h
    exact absurd (List.cons.inj h).1 (by decide)
  · intro h
    exact absurd (eq_of_mem_replicate h) (by decide)
  · intro h
    have hlength := (sublist_flatten_of_mem h).length_le
    rw [length_replicate] at hlength
    omega

section Redirect

variable {place : Location} {text : List UInt8} {d : D} {l : L} {z : Name}

theorem redirect_isDir (h : q ≠ place) : (redirect place text d l : Fs F D L).isDir q = true := by
  simp [Fs.isDir, redirect, h, Node.isDir]

theorem ne_of_fresh (hz : z ∉ place) (h : [z] <+: q) : q ≠ place := by
  rintro rfl
  exact hz (h.subset mem_cons_self)

/-- Deep below a directory without links, no `..` leads out. -/
theorem walkSegment_deep (text) (d) (l) (hz : z ∉ place) (follow : Bool)
    (next : Location → List Comp → Option Location) (parts) (hp : [z] <+: p)
    (hlength : parts.length < p.length) :
    walkSegment (redirect place text d l : Fs F D L) follow next p parts = some (lexical p parts) ∧
      [z] <+: lexical p parts := by
  induction parts generalizing p with
  | nil => exact ⟨rfl, hp⟩
  | cons c _ ih =>
    rw [length_cons] at hlength
    cases c with
    | up =>
      have hdrop : p.dropLast.length = p.length - 1 := length_dropLast
      have hpre : [z] <+: p.dropLast := by
        refine prefix_of_prefix_length_le hp (List.dropLast_prefix p) ?_
        rw [length_singleton]
        omega
      exact ih hpre (by omega)
    | name n =>
      have hpre : [z] <+: p ++ [n] := hp.trans (prefix_append p [n])
      rw [walkSegment_dir (redirect_isDir (ne_of_fresh hz hpre))]
      refine ih hpre ?_
      rw [length_append]
      omega

theorem walkSegment_replicate (hz : z ∉ place) (follow : Bool) (next : Location → List Comp → Option Location)
    (rest : List Comp) (k : ℕ) (p : Location) (hp : p = [] ∨ [z] <+: p) :
    walkSegment (redirect place text d l : Fs F D L) follow next p (List.replicate k (.name z) ++ rest) =
      walkSegment (redirect place text d l : Fs F D L) follow next (p ++ List.replicate k z) rest := by
  induction k generalizing p with
  | zero => simp
  | succ _ ih =>
    have hpre : [z] <+: p ++ [z] := by
      rcases hp with rfl | hp
      · exact prefix_rfl
      · exact hp.trans (prefix_append p [z])
    rw [replicate_succ, cons_append, walkSegment_dir (redirect_isDir (ne_of_fresh hz hpre)),
      ih _ (.inr hpre), append_assoc, singleton_append, replicate_succ]

end Redirect

/-- A link where a path leaves the way to `base` can lead it anywhere. -/
theorem exists_link {z : Name} (hleave : leave base [] parts = some (p, n, rest)) (hvalid : ValidName z)
    (hz : z ∉ p ++ [n]) (d : D) (l : L) :
    ∃ (fs : Fs F D L) (place : Location), fs.RealDir base ∧ (∀ q, [z] <+: q → fs.isDir q = true) ∧ [z] <+: place ∧
      ∀ follow, rest ≠ [] ∨ follow = true → resolve fs follow [] parts = some place := by
  obtain ⟨-, hn, -, _, rfl, hwalk⟩ := leave_eq_some (F := F) (D := D) (L := L) nil_prefix hleave
  have hreal : (redirect (p ++ [n]) (deepText (rest.length + 1) z) d l : Fs F D L).RealDir base :=
    fun q hq => redirect_isDir fun heq => hn (heq ▸ hq)
  have hpre : [z] <+: List.replicate (rest.length + 1) z := by
    exact prefix_append [z] _
  have hdeep := fun follow next =>
    walkSegment_deep (F := F) (deepText (rest.length + 1) z) d l hz follow next rest hpre (by simp)
  refine ⟨_, _, hreal, fun q hq => redirect_isDir (ne_of_fresh hz hq), (hdeep true fun _ _ => none).2,
    fun follow hfollow => ?_⟩
  have hnot : ¬ (rest.isEmpty && !follow) = true := by
    rcases hfollow with hrest | hfollow
    · simp [hrest]
    · simp [hfollow]
  refine (hwalk hreal follow _ _).trans ?_
  simp only [walkSegment, redirect, if_true, if_neg hnot, components_deepText _ hvalid]
  exact (walkSegment_replicate hz follow _ rest _ [] (.inl rfl)).trans (hdeep follow _).1

/-- Whatever the end of the path, what is in the directory it leads to is removed. -/
theorem doomedBy_dir {fs : Fs F D L} {place : Location} (hfound : resolveDir fs [] (components text) = some place)
    (hdir : fs.isDir place = true) (hplain : ending text = .plain → resolve fs false [] (components text) = some place) :
    ∃ doomed, doomedBy fs text = some doomed ∧ (doomed = .tree place ∨ doomed = .below place) := by
  cases hending : ending text with
  | slash =>
    simp only [doomedBy, hending, hfound, map_some]
    split_ifs
    · exact ⟨_, rfl, .inl rfl⟩
    · exact ⟨_, rfl, .inr rfl⟩
  | dot => exact ⟨_, by simp only [doomedBy, hending, hfound, map_some], .inr rfl⟩
  | plain =>
    rcases hnode : fs place with _ | ⟨_ | _ | _⟩
    all_goals simp only [Fs.isDir, hnode, any_none, any_some, Node.isDir, Bool.false_eq_true] at hdir
    simp only [doomedBy, hending, hplain hending, hnode]
    split_ifs
    · exact ⟨_, rfl, .inr rfl⟩
    · exact ⟨_, rfl, .inl rfl⟩

/-- **A path of no entry may be led elsewhere**: there are links with which something outside `base` is removed. -/
theorem exists_redirected (hbase : base ≠ [])
    (hinside : base <+: lexical [] (components text) ∧ lexical [] (components text) ≠ base)
    (h : childName? base text = none) (d : D) (l : L) :
    ∃ fs : Fs F D L, fs.RealDir base ∧ (resolve fs true [] (components text)).isSome = true ∧
      ∃ doomed q, doomedBy fs text = some doomed ∧ doomed.covers q = true ∧ fs q ≠ none ∧ ¬ base <+: q := by
  rcases hleave : leave base [] (components text) with _ | ⟨p, n, _⟩
  · have hpre := leave_eq_none nil_prefix hleave
    exact absurd (hpre.eq_of_length_le hinside.1.length_le) hinside.2
  obtain ⟨hp, hn, hlex, -⟩ := leave_eq_some (F := F) (D := D) (L := L) nil_prefix hleave
  obtain ⟨z, hvalid, hfresh⟩ := exists_fresh (base ++ (p ++ [n]))
  rw [mem_append, not_or] at hfresh
  obtain ⟨fs, place, hreal, hdirs, hz, hresolve⟩ := exists_link (F := F) hleave hvalid hfresh.2 d l
  have hfound : resolveDir fs [] (components text) = some place := by
    rw [resolveDir, hresolve true (.inr rfl), filter_some, if_pos (hdirs place hz)]
  have hplain : ending text = .plain → resolve fs false [] (components text) = some place := by
    intro hending
    refine hresolve false (.inl ?_)
    rintro rfl
    -- a path that ends where it leaves the way to `base` is one of an entry
    have hpbase : p = base := by
      rw [hlex] at hinside
      rcases prefix_concat_iff.mp hinside.1 with heq | hpre
      · exact absurd (heq ▸ prefix_rfl) hn
      · exact hp.eq_of_length_le hpre.length_le
    rw [childName?_eq_some.mpr ⟨hpbase ▸ hleave, hending⟩] at h
    cases h
  obtain ⟨doomed, hdoomed, hkind⟩ := doomedBy_dir hfound (hdirs place hz) hplain
  have hnext : [z] <+: place ++ [z] := hz.trans (prefix_append place [z])
  have hexists : (resolve fs true [] (components text)).isSome = true := by
    rw [hresolve true (.inr rfl)]
    rfl
  refine ⟨fs, hreal, hexists, doomed, place ++ [z], hdoomed, ?_, ?_, ?_⟩
  · rcases hkind with rfl | rfl <;> simp [Doomed.covers]
  · exact ne_none_of_isDir (hdirs _ hnext)
  · intro hpre
    have hhead : [z] <+: base := prefix_of_prefix_length_le hnext hpre (length_pos_iff.mpr hbase)
    exact hfresh.1 (hhead.subset mem_cons_self)

end PosixFs
