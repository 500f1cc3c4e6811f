import A3sBox.Library.PosixOps

/-!
# Opening files by path

Which file is written when a path is opened: the links on the way are followed, and so is one at the end. If the file
that the last of them names is not there, it is made there. A link whose text ends in a slash or in `.` names a
directory.

A path goes on leading where it leads when files are added (`resolve_mono`); an entry of a directory is found, opened
and made in it or where a link in its place leads (`resolve_entry`, `opens_entry_inv`, `makeDirs_one`,
`makeDirs_two`).
-/

namespace PosixFs

open List Option

variable {F D L : Type}

/-! ### Opening -/

/-- Follow the components from the directory `p` to a file that is to be written, up to the first link; `next` goes
on from there. The file itself may be missing. -/
def openNames (fs : Fs F D L) (next : Location → List Comp → Option Location) : Location → List Comp → Option Location
  | _, [] => none
  | p, .up :: rest => openNames fs next p.dropLast rest
  | p, .name n :: rest =>
    match fs (p ++ [n]) with
    | none => if rest.isEmpty then some (p ++ [n]) else none
    | some (.dir _) => openNames fs next (p ++ [n]) rest
    | some (.file _) => if rest.isEmpty then some (p ++ [n]) else none
    | some (.link text _) =>
      if rest.isEmpty && ending text != .plain then none
      else next (if isAbsolute text then [] else p) (components text ++ rest)

/-- Follow the components to a file that is to be written, and at most `links` links. -/
def openWalk (fs : Fs F D L) : ℕ → Location → List Comp → Option Location
  | 0 => openNames fs fun _ _ => none
  | links + 1 => openNames fs (openWalk fs links)

/-- The location of the file that is written when a path is opened from the directory `p`. -/
def opens (fs : Fs F D L) (p : Location) (path : List Comp) : Option Location := openWalk fs maxLinks p path

/-- What is opened is missing, or it is a file. -/
def Fs.Writable (fs : Fs F D L) (l : Location) : Prop := ∀ node, fs l = some node → ∃ data, node = .file data

variable {next next' : Location → List Comp → Option Location} {p l q d : Location} {path above : List Comp}
  {follow : Bool} {n : Name} {fs : Fs F D L}

theorem openNames_writable (hnext : ∀ p path l, next p path = some l → fs.Writable l)
    (h : openNames fs next p path = some l) : fs.Writable l := by
  induction path generalizing p with
  | nil => cases h
  | cons c _ ih =>
    cases c with
    | up => exact ih h
    | name n =>
      rcases hnode : fs (p ++ [n]) with _ | ⟨data | _ | _⟩
      all_goals simp only [openNames, hnode] at h
      · split_ifs at h
        cases h
        intro node hsome
        rw [hnode] at hsome
        cases hsome
      · split_ifs at h
        cases h
        intro node hsome
        rw [hnode] at hsome
        exact ⟨data, (some.inj hsome).symm⟩
      · exact ih h
      · split at h
        · cases h
        · exact hnext _ _ _ h

theorem opens_writable (h : opens fs p path = some l) : fs.Writable l := by
  have hwalk : ∀ links p path l, openWalk fs links p path = some l → fs.Writable l := by
    intro links
    induction links with
    | zero => exact fun _ _ _ => openNames_writable fun _ _ _ hnone => (some_ne_none _ hnone.symm).elim
    | succ _ ih => exact fun _ _ _ => openNames_writable ih
  exact hwalk _ _ _ _ h

/-! ### More files -/

/-- Everything in `fs` is in `fs'` too. -/
def Fs.Extends (fs fs' : Fs F D L) : Prop := ∀ q, fs q ≠ none → fs' q = fs q

theorem extends_put (h : fs l = none) (node : Node F D L) : fs.Extends (fs.put l node) := by
  intro q hq
  exact if_neg fun heq : q = l => hq (heq ▸ h)

/-- Remove a file. -/
def Fs.unlink (fs : Fs F D L) (l : Location) : Fs F D L := fun q => if q = l then none else fs q

theorem unlink_self (fs : Fs F D L) (l : Location) : fs.unlink l l = none := if_pos rfl

theorem unlink_of_ne (fs : Fs F D L) (h : q ≠ l) : fs.unlink l q = fs q := if_neg h

theorem unlink_extends (fs : Fs F D L) (l : Location) : (fs.unlink l).Extends fs := by
  intro q hq
  refine (unlink_of_ne fs ?_).symm
  rintro rfl
  exact hq (unlink_self fs q)

variable {fs' : Fs F D L}

variable (hext : fs.Extends fs')

include hext

theorem walkSegment_mono (hnext : ∀ p path l, next p path = some l → next' p path = some l)
    (h : walkSegment fs follow next p path = some l) : walkSegment fs' follow next' p path = some l := by
  induction path generalizing p with
  | nil => exact h
  | cons c rest ih =>
    cases c with
    | up => exact ih h
    | name n =>
      rcases hnode : fs (p ++ [n]) with _ | ⟨_ | _ | ⟨_, _⟩⟩
      all_goals simp only [walkSegment, hnode] at h
      · cases h
      all_goals
        have hsame : fs' (p ++ [n]) = fs (p ++ [n]) := hext _ (by rw [hnode]; exact some_ne_none _)
        simp only [walkSegment, hsame, hnode]
      · exact h
      · exact ih h
      · by_cases hend : (rest.isEmpty && !follow) = true
        · rw [if_pos hend] at h ⊢
          exact h
        · rw [if_neg hend] at h ⊢
          exact hnext _ _ _ h

/-- A path goes on leading where it leads when files are added. -/
theorem resolve_mono (h : resolve fs follow p path = some l) : resolve fs' follow p path = some l := by
  have hwalk : ∀ links p path l, walk fs follow links p path = some l → walk fs' follow links p path = some l := by
    intro links
    induction links with
    | zero => exact fun _ _ _ => walkSegment_mono hext fun _ _ _ hnone => (some_ne_none _ hnone.symm).elim
    | succ _ ih => exact fun _ _ _ => walkSegment_mono hext ih
  exact hwalk _ _ _ _ h

theorem isDir_mono (h : fs.isDir p = true) : fs'.isDir p = true := by
  rw [Fs.isDir, hext p (ne_none_of_isDir h)]
  exact h

omit hext in
theorem resolveDir_eq_some : resolveDir fs p path = some d ↔ resolve fs true p path = some d ∧ fs.isDir d = true := by
  rw [resolveDir, filter_eq_some_iff]

theorem resolveDir_mono (h : resolveDir fs p path = some d) : resolveDir fs' p path = some d := by
  obtain ⟨hresolve, hdir⟩ := resolveDir_eq_some.mp h
  exact resolveDir_eq_some.mpr ⟨resolve_mono hext hresolve, isDir_mono hext hdir⟩

omit hext

/-! ### An entry of a directory -/

/-- What is found for a name in a directory, if a link is not followed. -/
def Fs.entry (fs : Fs F D L) (d : Location) (n : Name) : Option Location :=
  if (fs (d ++ [n])).isSome then some (d ++ [n]) else none

/-- How a path is followed beyond a link, if at most `links` links are followed. -/
def beyond (w : ℕ → Location → List Comp → Option Location) : ℕ → Location → List Comp → Option Location
  | 0 => fun _ _ => none
  | links + 1 => w links

theorem walk_eq (fs : Fs F D L) (follow : Bool) (links : ℕ) :
    walk fs follow links = walkSegment fs follow (beyond (walk fs follow) links) := by
  cases links <;> rfl

theorem openWalk_eq (fs : Fs F D L) (links : ℕ) : openWalk fs links = openNames fs (beyond (openWalk fs) links) := by
  cases links <;> rfl

/-- A way to follow a path that is that of `walk`, up to the last component. -/
structure Leads (fs : Fs F D L) (w : ℕ → Location → List Comp → Option Location) : Prop where
  up : ∀ links p rest, w links p (.up :: rest) = w links p.dropLast rest
  name : ∀ links p m rest, rest ≠ [] → w links p (.name m :: rest) =
    match fs (p ++ [m]) with
    | some (.dir _) => w links (p ++ [m]) rest
    | some (.link text _) => beyond w links (if isAbsolute text then [] else p) (components text ++ rest)
    | _ => none

theorem leads_walk : Leads fs (walk fs follow) where
  up links p rest := by rw [walk_eq, walkSegment]
  name links p m rest hrest := by
    rw [walk_eq, walkSegment]
    rcases fs (p ++ [m]) with _ | ⟨_ | _ | _⟩ <;> simp [hrest]

theorem leads_openWalk : Leads fs (openWalk fs) where
  up links p rest := by rw [openWalk_eq, openNames]
  name links p m rest hrest := by
    rw [openWalk_eq, openNames]
    rcases fs (p ++ [m]) with _ | ⟨_ | _ | _⟩ <;> simp [hrest]

/-- What relates the results of both ways at the last component relates them for the whole path. -/
theorem Leads.related {w : ℕ → Location → List Comp → Option Location} (hw : Leads fs w)
    {R : Option Location → Option Location → Prop} (hend : ∀ links d, R (some d) (w links d [.name n]))
    (hnone : R none none) (hfile : ∀ d, fs.isDir d = false → R (some d) none) (links : ℕ) (p : Location)
    (path : List Comp) : R (walk fs true links p path) (w links p (path ++ [.name n])) := by
  have hsegment : ∀ links,
      (∀ p path, R (beyond (walk fs true) links p path) (beyond w links p (path ++ [.name n]))) →
      ∀ p path, R (walk fs true links p path) (w links p (path ++ [.name n])) := by
    intro links hnext p path
    rw [walk_eq]
    induction path generalizing p with
    | nil => exact hend links p
    | cons c rest ih =>
      cases c with
      | up =>
        rw [cons_append, hw.up]
        exact ih _
      | name m =>
        rw [cons_append, hw.name _ _ _ _ (by simp), walkSegment]
        rcases hnode : fs (p ++ [m]) with _ | ⟨_ | _ | ⟨text, _⟩⟩
        · exact hnone
        · dsimp only
          split_ifs
          · exact hfile _ (by rw [Fs.isDir, hnode]; rfl)
          · exact hnone
        · exact ih _
        · simpa using hnext _ (components text ++ rest)
  induction links generalizing p path with
  | zero => exact hsegment 0 (fun _ _ => hnone) p path
  | succ links ih => exact hsegment (links + 1) ih p path

variable (h : resolveDir fs p path = some d)

include h

/-- An entry of the directory that a path leads to is found in it, unless it is a link that is followed. -/
theorem resolve_entry (hlink : follow = true → ∀ text data, fs (d ++ [n]) ≠ some (.link text data)) :
    resolve fs follow p (path ++ [.name n]) = fs.entry d n := by
  obtain ⟨hresolve, hdir⟩ := resolveDir_eq_some.mp h
  refine leads_walk.related (R := fun found result => found = some d → result = fs.entry d n) ?_ nofun ?_ _ _ _ hresolve
  · rintro links _ ⟨⟩
    rw [walk_eq, walkSegment, Fs.entry]
    rcases hnode : fs (d ++ [n]) with _ | ⟨_ | _ | _⟩
    · rfl
    · rfl
    · rfl
    · have hfollow : follow = false := Bool.eq_false_iff.mpr fun hf => hlink hf _ _ hnode
      rw [hfollow]
      rfl
  · rintro _ hfile ⟨⟩
    rw [hdir] at hfile
    cases hfile

theorem resolveDir_entry (hdir : fs.isDir (d ++ [n]) = true) :
    resolveDir fs p (path ++ [.name n]) = some (d ++ [n]) := by
  have hnode : ∃ data, fs (d ++ [n]) = some (.dir data) := by
    rcases hnode : fs (d ++ [n]) with _ | ⟨_ | data | _⟩
    all_goals simp only [Fs.isDir, hnode, any_none, any_some, Node.isDir, Bool.false_eq_true] at hdir
    exact ⟨data, rfl⟩
  obtain ⟨data, hnode⟩ := hnode
  refine resolveDir_eq_some.mpr ⟨?_, hdir⟩
  rw [resolve_entry h fun _ => by simp [hnode], Fs.entry, hnode]
  rfl

omit h in
theorem openWalk_entry (hplain : fs.Writable (d ++ [n])) (links : ℕ) :
    openWalk fs links d [.name n] = some (d ++ [n]) := by
  rw [openWalk_eq, openNames]
  rcases hnode : fs (d ++ [n]) with _ | node
  · rfl
  · obtain ⟨_, rfl⟩ := hplain node hnode
    rfl

/-- If a path leads to a directory, an entry of it that is missing or a file is what is opened. -/
theorem opens_entry (hplain : fs.Writable (d ++ [n])) : opens fs p (path ++ [.name n]) = some (d ++ [n]) := by
  obtain ⟨hresolve, hdir⟩ := resolveDir_eq_some.mp h
  refine leads_openWalk.related (R := fun found result => found = some d → result = some (d ++ [n])) ?_ nofun ?_ _ _ _
    hresolve
  · rintro links _ ⟨⟩
    exact openWalk_entry hplain links
  · rintro _ hfile ⟨⟩
    rw [hdir] at hfile
    cases hfile

omit h

/-- A file that is opened in a directory is the entry itself, unless there is a link or a directory in its place. -/
theorem opens_entry_inv (h : opens fs p (path ++ [.name n]) = some l) :
    ∃ d, resolve fs true p path = some d ∧ (fs.Writable (d ++ [n]) → l = d ++ [n]) := by
  refine leads_openWalk.related
    (R := fun found result => result = some l → ∃ d, found = some d ∧ (fs.Writable (d ++ [n]) → l = d ++ [n]))
    (fun links d hopens => ⟨d, rfl, fun hplain => ?_⟩) nofun nofun _ _ _ h
  rw [openWalk_entry hplain] at hopens
  exact (some.inj hopens).symm

/-! ### Making directories below a directory -/

/-- The directory is there, and so are those above it, or nothing is there but those above it. -/
def Fs.Rooted (fs : Fs F D L) (target : Location) : Prop :=
  fs.RealDir target ∨ target ≠ [] ∧ fs.RealDir target.dropLast ∧ ∀ q, target <+: q → fs q = none

/-- `create_dir_all` of a path below the directory. -/
def makeDirs (refuses : Location → Bool) (fresh : D) (fs : Fs F D L) (target : Location) (names : List Name) :
    Fs F D L × Bool :=
  createDirAll refuses fresh fs ((target ++ names).map Comp.name).reverse

variable {target : Location}

/-- A path through a directory that is no link leads where its rest leads from there. -/
theorem resolveDir_real (hreal : fs.RealDir target) (rest : List Comp) :
    resolveDir fs [] (target.map Comp.name ++ rest) = resolveDir fs target rest := by
  have hwalk : resolve fs true [] (target.map Comp.name ++ rest) = resolve fs true target rest :=
    walkSegment_through (fun r hr _ => hreal r hr) rest
  rw [resolveDir, hwalk, resolveDir]

theorem resolveDir_self (hreal : fs.RealDir target) : resolveDir fs [] (target.map Comp.name) = some target := by
  rw [← append_nil (target.map _), resolveDir_real hreal, resolveDir_eq_some]
  exact ⟨rfl, hreal target prefix_rfl⟩

theorem createDirAll_entry (h : resolveDir fs [] above = some d) (refuses : Location → Bool) (fresh : D) (n : Name) :
    createDirAll refuses fresh fs (above ++ [Comp.name n]).reverse =
      if (fs (d ++ [n])).isSome || refuses (d ++ [n]) then (fs, (resolveDir fs [] (above ++ [Comp.name n])).isSome)
      else (fs.put (d ++ [n]) (.dir fresh), true) := by
  rw [reverse_append, reverse_singleton, singleton_append]
  simp only [createDirAll, mkdir, reverse_reverse, reverse_cons, h]
  split_ifs <;> rfl

/-- Making directories below one: nothing is lost, what is new is inside, and the one is as before or was made. -/
structure Grown (target : Location) (fs fs' : Fs F D L) : Prop where
  ext : fs.Extends fs'
  inside : ∀ q, fs' q ≠ fs q → target <+: q
  rooted : fs'.Rooted target

theorem realDir_mono (hext : fs.Extends fs') (h : fs.RealDir target) :
    fs'.RealDir target := fun q hq => isDir_mono hext (h q hq)

theorem extends_refl (fs : Fs F D L) : fs.Extends fs := fun _ _ => rfl

theorem Grown.refl (h : fs.Rooted target) : Grown target fs fs := ⟨extends_refl fs, fun _ hq => absurd rfl hq, h⟩

theorem Grown.trans {fs₁ fs₂ fs₃ : Fs F D L} (h₁ : Grown target fs₁ fs₂) (h₂ : Grown target fs₂ fs₃) :
    Grown target fs₁ fs₃ := by
  refine ⟨fun q hq => ?_, fun q hq => ?_, h₂.rooted⟩
  · have hsame := h₁.ext q hq
    exact (h₂.ext q (hsame ▸ hq)).trans hsame
  · by_cases hsame : fs₂ q = fs₁ q
    · exact h₂.inside q (hsame ▸ hq)
    · exact h₁.inside q hsame

theorem put_self (fs : Fs F D L) (l : Location) (node : Node F D L) : fs.put l node l = some node := if_pos rfl

theorem put_ne {node} (h : fs.put l node q ≠ fs q) : q = l := by
  by_contra hne
  exact h (if_neg hne)

theorem Grown.put (hreal : fs.RealDir target) (hnew : fs l = none) (hinside : target <+: l) (node : Node F D L) :
    Grown target fs (fs.put l node) :=
  ⟨extends_put hnew node, fun _ hq => put_ne hq ▸ hinside, .inl (realDir_mono (extends_put hnew node) hreal)⟩

theorem resolveDir_made (h : resolveDir fs p above = some d) (hnew : fs (d ++ [n]) = none) (fresh : D) :
    resolveDir (fs.put (d ++ [n]) (.dir fresh)) p (above ++ [Comp.name n]) = some (d ++ [n]) := by
  refine resolveDir_entry (resolveDir_mono (extends_put hnew _) h) ?_
  rw [Fs.isDir, put_self]
  rfl

theorem resolveDir_missing (h : resolveDir fs p above = some d) (hnew : fs (d ++ [n]) = none) :
    resolveDir fs p (above ++ [Comp.name n]) = none := by
  rw [resolveDir, resolve_entry h fun _ => by simp [hnew], Fs.entry, hnew]
  rfl

/-- Making a directory when the one above it has to be made first: that fails, or it is as if that had been there. -/
theorem createDirAll_missing (h : resolveDir fs [] above = none) {refuses fresh ok}
    (habove : createDirAll refuses fresh fs above.reverse = (fs', ok))
    (hmade : ok = true → (resolveDir fs' [] above).isSome = true) (n : Name) :
    createDirAll refuses fresh fs (above ++ [Comp.name n]).reverse =
      if ok = true then createDirAll refuses fresh fs' (above ++ [Comp.name n]).reverse else (fs', false) := by
  cases ok with
  | false =>
    rw [reverse_append, reverse_singleton, singleton_append, createDirAll]
    simp only [mkdir, reverse_reverse, h, habove]
    rfl
  | true =>
    obtain ⟨_, hd⟩ := isSome_iff_exists.mp (hmade rfl)
    rw [createDirAll_entry hd, reverse_append, reverse_singleton, singleton_append, createDirAll]
    simp only [mkdir, reverse_reverse, h, habove, hd, reverse_cons]
    split_ifs <;> rfl

section MakeDirs

variable {fs : Fs F D L} {target : Location} (refuses : Location → Bool) (fresh : D)

theorem makeDirs_nil (h : fs.Rooted target) : Grown target fs (makeDirs refuses fresh fs target []).1 ∧
      (∀ q, (makeDirs refuses fresh fs target []).1 q ≠ fs q → q = target) ∧
      ((makeDirs refuses fresh fs target []).2 = true → (makeDirs refuses fresh fs target []).1.RealDir target) := by
  rw [makeDirs, append_nil]
  rcases eq_nil_or_concat' target with rfl | ⟨above, n, rfl⟩
  · have hreal : fs.RealDir [] := h.resolve_right fun hnone => hnone.1 rfl
    exact ⟨.refl h, fun _ hq => absurd rfl hq, fun _ => hreal⟩
  · have habove : fs.RealDir above := by
      rcases h with hreal | ⟨-, hreal, -⟩
      · exact fun q hq => hreal q (hq.trans (prefix_append _ _))
      · rwa [dropLast_concat] at hreal
    rw [map_append, map_singleton, createDirAll_entry (resolveDir_self habove)]
    rcases h with hreal | ⟨hne, hreal, hnone⟩
    · have hsome : (fs (above ++ [n])).isSome = true := by
        have hdir := hreal (above ++ [n]) prefix_rfl
        exact isSome_of_any hdir
      rw [hsome]
      exact ⟨.refl (.inl hreal), fun _ hq => absurd rfl hq, fun _ => hreal⟩
    · have hnew : fs (above ++ [n]) = none := hnone _ prefix_rfl
      split_ifs with hrefuses
      · refine ⟨.refl (.inr ⟨hne, hreal, hnone⟩), fun _ hq => absurd rfl hq, fun hok => ?_⟩
        rw [resolveDir_missing (resolveDir_self habove) hnew] at hok
        cases hok
      · have hreal' : (fs.put (above ++ [n]) (.dir fresh)).RealDir (above ++ [n]) := by
          intro q hq
          rcases prefix_concat_iff.mp hq with rfl | hq
          · rw [Fs.isDir, put_self]
            rfl
          · exact isDir_mono (extends_put hnew _) (habove q hq)
        have hgrown : Grown (above ++ [n]) fs (fs.put (above ++ [n]) (.dir fresh)) :=
          ⟨extends_put hnew _, fun q hq => put_ne hq ▸ prefix_rfl, .inl hreal'⟩
        exact ⟨hgrown, fun _ => put_ne, fun _ => hreal'⟩

/-- What comes of making an entry of the directory. -/
structure Made (target : Location) (a : Name) (fs : Fs F D L) (made : Fs F D L × Bool) : Prop where
  grown : Grown target fs made.1
  found : made.2 = true → made.1.RealDir target ∧ ∃ d, resolveDir made.1 target [Comp.name a] = some d ∧
    (resolveDir fs target [Comp.name a] = some d ∨ d = target ++ [a])

theorem makeDirs_real (hreal : fs.RealDir target) (a : Name) :
    Made target a fs (makeDirs refuses fresh fs target [a]) := by
  have hself := resolveDir_self hreal
  rw [makeDirs, map_append, map_singleton, createDirAll_entry hself]
  split_ifs with hthere
  · refine ⟨.refl (.inl hreal), fun hok => ?_⟩
    obtain ⟨d, hd⟩ := isSome_iff_exists.mp hok
    rw [resolveDir_real hreal] at hd
    exact ⟨hreal, d, hd, .inl hd⟩
  · rw [Bool.not_eq_true, Bool.or_eq_false_iff] at hthere
    have hnew : fs (target ++ [a]) = none := isSome_eq_false_iff.mp hthere.1 |> isNone_iff_eq_none.mp
    have hgrown := Grown.put hreal hnew (prefix_append target [a]) (.dir fresh)
    have hreal' := realDir_mono hgrown.ext hreal
    refine ⟨hgrown, fun _ => ⟨hreal', target ++ [a], ?_, .inr rfl⟩⟩
    rw [← resolveDir_real hreal']
    exact resolveDir_made hself hnew fresh

theorem resolveDir_new {a} (h : fs (target ++ [a]) = none) : resolveDir fs target [Comp.name a] = none := by
  rw [resolveDir, resolve, maxLinks, walk, walkSegment, h]
  rfl

theorem makeDirs_again (hreal : fs.RealDir target) {a} (h : resolveDir fs target [Comp.name a] = some d) :
    makeDirs refuses fresh fs target [a] = (fs, true) := by
  have hthere : (fs (target ++ [a])).isSome = true := by
    by_contra hnone
    rw [not_isSome_iff_eq_none] at hnone
    cases (resolveDir_new hnone).symm.trans h
  rw [makeDirs, map_append, map_singleton, createDirAll_entry (resolveDir_self hreal), hthere, resolveDir_real hreal, h]
  rfl

theorem resolveDir_absent {above} (habove : fs.RealDir above) (hnew : fs (above ++ [n]) = none)
    (rest : List Comp) : resolveDir fs [] ((above ++ [n]).map Comp.name ++ rest) = none := by
  have hwalk : resolve fs true [] ((above ++ [n]).map Comp.name ++ rest) = none := by
    rw [map_append, append_assoc]
    refine (walkSegment_through (fun r hr _ => habove r hr) _).trans ?_
    simp [walkSegment, hnew]
  rw [resolveDir, hwalk]
  rfl

/-- **Making an entry of the directory**, which may itself have to be made. -/
theorem makeDirs_one (h : fs.Rooted target) (a : Name) :
    Made target a fs (makeDirs refuses fresh fs target [a]) := by
  rcases h with hreal | ⟨hne, hreal, hnone⟩
  · exact makeDirs_real refuses fresh hreal a
  · obtain ⟨hgrown, honly, hself⟩ := makeDirs_nil refuses fresh (.inr ⟨hne, hreal, hnone⟩)
    rcases hnil : makeDirs refuses fresh fs target [] with ⟨fs', ok⟩
    rw [hnil] at hgrown honly hself
    obtain ⟨above, n, rfl⟩ := (eq_nil_or_concat' target).resolve_left hne
    rw [dropLast_concat] at hreal
    have habsent := resolveDir_absent hreal (hnone _ prefix_rfl) []
    rw [append_nil] at habsent
    rw [makeDirs, append_nil] at hnil
    have hmade : ok = true → (resolveDir fs' [] ((above ++ [n]).map Comp.name)).isSome = true := by
      intro hok
      rw [resolveDir_self (hself hok)]
      rfl
    have hone : makeDirs refuses fresh fs (above ++ [n]) [a] =
        if ok = true then makeDirs refuses fresh fs' (above ++ [n]) [a] else (fs', false) := by
      have hentry := createDirAll_missing habsent hnil hmade a
      rwa [← map_singleton, ← map_append] at hentry
    rw [hone]
    split_ifs with hok
    · obtain ⟨hgrown', hfound⟩ := makeDirs_real refuses fresh (hself hok) a
      refine ⟨hgrown.trans hgrown', fun hok' => ?_⟩
      obtain ⟨hreal', d, hd, hwhere⟩ := hfound hok'
      refine ⟨hreal', d, hd, .inr (hwhere.elim (fun hold => ?_) id)⟩
      -- nothing is below a directory that was just made
      have hentry : fs' (above ++ [n] ++ [a]) = none := by
        by_contra hsome
        have hself := honly _ fun hsame => hsome (hsame.trans (hnone _ (prefix_append _ _)))
        exact cons_ne_nil a [] (append_right_eq_self.mp hself)
      cases (resolveDir_new hentry).symm.trans hold
    · exact ⟨hgrown, nofun⟩

theorem resolveDir_rooted (h : fs.Rooted target) (a : Name) :
    resolveDir fs [] ((target ++ [a]).map Comp.name) = resolveDir fs target [Comp.name a] := by
  rw [map_append]
  rcases h with hreal | ⟨hne, hreal, hnone⟩
  · exact resolveDir_real hreal _
  · obtain ⟨_, _, rfl⟩ := (eq_nil_or_concat' target).resolve_left hne
    rw [dropLast_concat] at hreal
    rw [resolveDir_absent hreal (hnone _ prefix_rfl), resolveDir_new (hnone _ (prefix_append _ _))]

/-- **Making an entry of an entry** stays inside exactly if the one above does not lead elsewhere, or nothing is made.
-/
theorem makeDirs_two (h : fs.Rooted target) (a b : Name) : (makeDirs refuses fresh fs target [a, b]).1.Rooted target ∧
      ((∀ q, (makeDirs refuses fresh fs target [a, b]).1 q ≠ fs q → target <+: q) ↔
        ∀ d, resolveDir fs target [Comp.name a] = some d → fs (d ++ [b]) = none → refuses (d ++ [b]) = false →
          target <+: d ++ [b]) := by
  have hpath : ((target ++ [a, b]).map Comp.name).reverse =
      ((target ++ [a]).map Comp.name ++ [Comp.name b]).reverse := by
    simp
  have hkey := resolveDir_rooted h a
  rcases hfound : resolveDir fs target [Comp.name a] with _ | d
  · rw [hfound] at hkey
    obtain ⟨hgrown, hok⟩ := makeDirs_one refuses fresh h a
    rcases hone : makeDirs refuses fresh fs target [a] with ⟨fs', ok⟩
    rw [hone] at hgrown hok
    -- the one above is new, so that it leads nowhere else
    have hnew : ok = true → resolveDir fs' [] ((target ++ [a]).map Comp.name) = some (target ++ [a]) := by
      intro hok'
      obtain ⟨hreal, d, _, hold | rfl⟩ := hok hok'
      · rw [hfound] at hold
        cases hold
      · rwa [resolveDir_rooted (.inl hreal)]
    have htwo := createDirAll_missing hkey hone (fun hok' => by rw [hnew hok']; rfl) b
    rw [makeDirs, hpath, htwo]
    refine (fun hg : Grown target fs _ => ⟨hg.rooted, iff_of_true hg.inside nofun⟩) ?_
    split_ifs with hok'
    · rw [createDirAll_entry (hnew hok')]
      split_ifs with hthere
      · exact hgrown
      · rw [Bool.not_eq_true, Bool.or_eq_false_iff, isSome_eq_false_iff, isNone_iff_eq_none] at hthere
        refine hgrown.trans (.put (hok hok').1 hthere.1 ?_ _)
        exact (prefix_append _ _).trans (prefix_append _ _)
    · exact hgrown
  · rw [hfound] at hkey
    rw [makeDirs, hpath, createDirAll_entry hkey]
    split_ifs with hthere
    · refine ⟨h, iff_of_true (fun _ hq => absurd rfl hq) ?_⟩
      intro d' hd' hnone hrefuses
      obtain rfl := some.inj hd'
      rw [hnone, hrefuses] at hthere
      cases hthere
    · rw [Bool.not_eq_true, Bool.or_eq_false_iff, isSome_eq_false_iff, isNone_iff_eq_none] at hthere
      have hreal : fs.RealDir target := by
        refine h.resolve_right ?_
        rintro ⟨-, -, hnone⟩
        cases (resolveDir_new (hnone _ (prefix_append _ _))).symm.trans hfound
      refine ⟨.inl (realDir_mono (extends_put hthere.1 _) hreal), fun hall d' hd' _ _ => ?_, fun hcond q hq => ?_⟩
      · obtain rfl := some.inj hd'
        refine hall (d ++ [b]) fun hsame => ?_
        have hnode := (put_self ..).symm.trans (hsame.trans hthere.1)
        cases hnode
      · rw [put_ne hq]
        exact hcond d rfl hthere.1 hthere.2

end MakeDirs

end PosixFs
