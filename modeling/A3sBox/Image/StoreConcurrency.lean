import A3sBox.Image.Store
import A3sBox.Library.Saving

/-!
# Concurrent calls on the image store

Only the index is under a lock: `put` looks for the directory of the digest and copies the layout before it takes the
lock, and `put` and `remove` save the index after they have released it.

## The model

A step runs one `Call` up to the next `await`, end of a lock section or file operation outside. The index is saved by
the protocol of `A3sBox.Library.Saving`. A finished call stays as `done`.

`quiescent_store_consistent`: when index, directories and file agree once no call is in progress.
`interleaved_calls_inconsistent` are runs in which they do not.
-/

namespace A3sBox.Image.Concurrent

open DirTree Saving List

/-! ### Calls and their steps -/

/-- The arguments of a `put`, with the interruption of its copy and the time it notes. -/
structure Put where
  reference : String
  digest : String
  source : Dir
  interrupt : Interrupt
  now : ℕ

/-- What a call does next. -/
inductive Call where
  /-- A `put` looks for the directory of the digest. -/
  | check (put : Put)
  | copy (put : Put)
  | measure (put : Put)
  /-- A `put` records the image in the index, under the lock. -/
  | record (stored : StoredImage)
  /-- A `remove` takes images out of the index and deletes their directories, under the lock. -/
  | remove (image : String)
  | save (phase : Phase Index)
  | done

/-- The store, and the calls on it. -/
structure State where
  memory : Memory Index
  dirs : Dirs
  calls : List Call

/-- The index in memory. -/
def State.index (s : State) : Index := s.memory.current.value

/-- What the copy of `put` leaves, and whether it is complete. Another `put` may have made the directory. -/
def copyInto (dirs : Dirs) (put : Put) : Dirs × Except String Unit :=
  match DirTree.copy put.source put.interrupt with
  | (none, result) => (dirs, result)
  | (some copied, result) =>
    (dirs.insert (digestHex put.digest) (copied.overlay ((dirs.lookup (digestHex put.digest)).getD .nil)), result)

/-- The next step of a call: what it leaves, and what it does after that. -/
def Call.step (memory : Memory Index) (dirs : Dirs) : Call → Memory Index × Dirs × Call
  | .check put => (memory, dirs, if digestHex put.digest ∈ dirs then .measure put else .copy put)
  | .copy put =>
    match copyInto dirs put with
    | (dirs', .ok ()) => (memory, dirs', .measure put)
    | (dirs', .error _) => (memory, dirs', .done)
  | .measure put => (memory, dirs, .record (dirs.describe put.reference put.digest put.now))
  | .record stored => (memory.change (memory.current.value.record stored), dirs, .save .read)
  | .remove image =>
    match memory.current.value.withdraw image with
    | none => (memory, dirs, .done)
    | some (removed, index) => (memory.change index, dirs.deleteUnused index removed, .save .read)
  | .save phase =>
    match memory.save phase with
    | (memory', some phase') => (memory', dirs, .save phase')
    | (memory', none) => (memory', dirs, .done)
  | .done => (memory, dirs, .done)

/-- A move of the scheduler. -/
inductive Move where
  | put (args : Put)
  | remove (image : String)
  /-- Call number `i` makes a step. -/
  | step (i : ℕ)

/-- A call begins, or takes a step. -/
def State.move (s : State) : Move → State
  | .put args => { s with calls := s.calls ++ [.check args] }
  | .remove image => { s with calls := s.calls ++ [.remove image] }
  | .step i =>
    match s.calls[i]? with
    | none => s
    | some call =>
      let (memory, dirs, call') := call.step s.memory s.dirs
      ⟨memory, dirs, s.calls.set i call'⟩

/-- An empty store, with no calls. -/
def State.init : State := ⟨Memory.init ∅, ∅, []⟩

/-- `Run ok s`: moves that meet `ok` in the state they are made in lead from the empty store to `s`. -/
inductive Run (ok : State → Move → Prop) : State → Prop where
  | init : Run ok State.init
  | step {s} (move : Move) : Run ok s → ok s move → Run ok (s.move move)

/-- No call is in progress. -/
def Quiescent (s : State) : Prop := ∀ call ∈ s.calls, call = .done

/-- Every indexed image's directory exists, and `index.json` holds the index. -/
def Consistent (s : State) : Prop :=
  (∀ key image, s.index.lookup key = some image → image.path ∈ s.dirs) ∧ s.memory.file.value = s.index

/-! ### The condition -/

/-- The digest whose directory the call has found or copied, and has not recorded in the index yet. -/
def Call.reliesOn : Call → Option String
  | .measure put => some put.digest
  | .record stored => some stored.digest
  | _ => none

/-- The condition on a move: digests are plain; a `remove` does not take the last image of a digest out of the index
while a `put` relies on its directory; a save does not write an older index over a newer. -/
def Careful (s : State) : Move → Prop
  | .put args => PlainDigest args.digest
  | .remove _ => True
  | .step i =>
    match s.calls[i]? with
    | some (.remove image) =>
      ∀ call ∈ s.calls, ∀ digest, call.reliesOn = some digest →
        ∀ key ∈ s.index.keysOf image, ∀ removed, s.index.lookup key = some removed → removed.digest = digest →
          ∃ key' other, key' ∉ s.index.keysOf image ∧ s.index.lookup key' = some other ∧ other.digest = digest
    | some (.save phase) => InOrder s.memory phase
    | _ => True

/-! ### What the steps preserve -/

/-- What holds of a call in progress: its digest is plain, and the directory it relies on exists. -/
def CallOk (dirs : Dirs) : Call → Prop
  | .check put => "sha256:".toList <+: put.digest.toList
  | .copy put => "sha256:".toList <+: put.digest.toList
  | .measure put => "sha256:".toList <+: put.digest.toList ∧ digestHex put.digest ∈ dirs
  | .record stored => Placed stored ∧ stored.path ∈ dirs
  | _ => True

/-- What the moves preserve. -/
structure Inv (s : State) : Prop where
  saving : Saving.Inv s.memory fun phase => .save phase ∈ s.calls
  /-- Every indexed image's directory exists, and is the one of its digest. -/
  entry : ∀ key image, s.index.lookup key = some image → image.path ∈ s.dirs ∧ Placed image
  call : ∀ call ∈ s.calls, CallOk s.dirs call

variable {call call' : Call} {dirs dirs' : Dirs} {put : Put}

variable {calls : List Call} {path : String}

theorem mem_set_of_ne {i other} (hcall : calls[i]? = some call) (hother : other ∈ calls)
    (hne : other ≠ call) : other ∈ calls.set i call' := by
  obtain ⟨j, hj⟩ := mem_iff_getElem?.1 hother
  have hij : i ≠ j := by
    rintro rfl
    exact hne (Option.some.inj (hj.symm.trans hcall))
  exact mem_iff_getElem?.2 ⟨j, by rw [List.getElem?_set_ne hij, hj]⟩

theorem mem_set_self {i} (hcall : calls[i]? = some call) : call' ∈ calls.set i call' :=
  mem_set (List.getElem?_eq_some_iff.1 hcall).1 _

theorem CallOk.mono (h : CallOk dirs call) (hdirs : ∀ path ∈ dirs, path ∈ dirs') : CallOk dirs' call := by
  cases call with
  | measure put | record stored => exact ⟨h.1, hdirs _ h.2⟩
  | check | copy => exact h
  | remove | save | done => trivial

theorem Inv.init : Inv State.init where
  saving := Saving.Inv.init ∅ fun _ => not_mem_nil
  entry key image h := by simp [State.init, State.index, Memory.init] at h
  call _ h := absurd h not_mem_nil

variable {s : State} {i : ℕ}

variable (hinv : Inv s)

include hinv

theorem Inv.begin (hok : CallOk s.dirs call) (hsave : ∀ phase, call ≠ .save phase) :
    Inv { s with calls := s.calls ++ [call] } where
  saving := hinv.saving.congr fun phase => by simpa using fun h => absurd h.symm (hsave phase)
  entry := hinv.entry
  call other hother := by
    rcases mem_append.1 hother with h | h
    · exact hinv.call other h
    · obtain rfl := mem_singleton.1 h
      exact hok

/-- A step outside the lock that only adds directories. -/
theorem Inv.step_outside (hcall : s.calls[i]? = some call) (hdirs : ∀ path ∈ s.dirs, path ∈ dirs')
    (hok : CallOk dirs' call') (hsave : ∀ phase, call ≠ .save phase) (hsave' : ∀ phase, call' ≠ .save phase) :
    Inv ⟨s.memory, dirs', s.calls.set i call'⟩ where
  saving := hinv.saving.congr fun phase => by
    constructor
    · intro h
      rcases mem_or_eq_of_mem_set h with h | h
      · exact h
      · exact absurd h.symm (hsave' phase)
    · exact fun h => mem_set_of_ne hcall h (hsave phase).symm
  entry key image h := ⟨hdirs _ (hinv.entry key image h).1, (hinv.entry key image h).2⟩
  call other hother := by
    rcases mem_or_eq_of_mem_set hother with h | rfl
    · exact (hinv.call other h).mono hdirs
    · exact hok

theorem Inv.step_locked {index} (hcall : s.calls[i]? = some call) (hsave : ∀ phase, call ≠ .save phase)
    (hentry : ∀ key image, index.lookup key = some image → image.path ∈ dirs' ∧ Placed image)
    (hcalls : ∀ other ∈ s.calls, CallOk dirs' other) :
    Inv ⟨s.memory.change index, dirs', s.calls.set i (.save .read)⟩ where
  saving := by
    apply hinv.saving.change index
    · exact fun phase h => mem_set_of_ne hcall h (hsave phase).symm
    · intro phase h
      rcases mem_or_eq_of_mem_set h with h | h
      · exact .inl h
      · exact .inr (Call.save.inj h)
    · exact mem_set_self hcall
  entry := hentry
  call other hother := by
    rcases mem_or_eq_of_mem_set hother with h | rfl
    · exact hcalls other h
    · trivial

/-! ### One lemma for each step -/

omit hinv in
theorem mem_of_lookup_eq (h : dirs'.lookup path = dirs.lookup path) (hmem : path ∈ dirs) : path ∈ dirs' :=
  AList.lookup_isSome.1 (by rw [h]; exact AList.lookup_isSome.2 hmem)

omit hinv in
theorem mem_copyInto (h : path ∈ dirs) : path ∈ (copyInto dirs put).1 := by
  rw [copyInto]
  split
  · exact h
  · exact (AList.mem_insert _).2 (.inr h)

omit hinv in
theorem mem_copyInto_self (h : (copyInto dirs put).2 = .ok ()) : digestHex put.digest ∈ (copyInto dirs put).1 := by
  rcases hc : DirTree.copy put.source put.interrupt with ⟨_ | _, _⟩
  · simp only [copyInto, hc] at h
    have := copy_ok ((congrArg Prod.snd hc).trans h)
    simp [hc] at this
  · simp only [copyInto, hc]
    exact (AList.mem_insert _).2 (.inl rfl)

theorem Inv.check (hcall : s.calls[i]? = some (.check put)) : Inv (s.move (.step i)) := by
  have hplain := hinv.call _ (mem_of_getElem? hcall)
  simp only [State.move, hcall, Call.step]
  split_ifs with hmem
  · exact hinv.step_outside hcall (fun _ => id) ⟨hplain, hmem⟩ (by simp) (by simp)
  · exact hinv.step_outside hcall (fun _ => id) hplain (by simp) (by simp)

theorem Inv.copy (hcall : s.calls[i]? = some (.copy put)) : Inv (s.move (.step i)) := by
  have hplain := hinv.call _ (mem_of_getElem? hcall)
  have hdirs := fun path => @mem_copyInto s.dirs put path
  have hself := @mem_copyInto_self s.dirs put
  rcases hc : copyInto s.dirs put with ⟨_, _ | ⟨⟨⟩⟩⟩
  · rw [hc] at hdirs
    simp only [State.move, hcall, Call.step, hc]
    exact hinv.step_outside hcall hdirs trivial (by simp) (by simp)
  · rw [hc] at hdirs hself
    simp only [State.move, hcall, Call.step, hc]
    exact hinv.step_outside hcall hdirs ⟨hplain, hself rfl⟩ (by simp) (by simp)

theorem Inv.measure (hcall : s.calls[i]? = some (.measure put)) : Inv (s.move (.step i)) := by
  have hput := hinv.call _ (mem_of_getElem? hcall)
  simp only [State.move, hcall, Call.step]
  exact hinv.step_outside hcall (fun _ => id) ⟨⟨rfl, hput.1⟩, hput.2⟩ (by simp) (by simp)

theorem Inv.record {stored} (hcall : s.calls[i]? = some (.record stored)) : Inv (s.move (.step i)) := by
  have hstored := hinv.call _ (mem_of_getElem? hcall)
  simp only [State.move, hcall]
  refine hinv.step_locked hcall (by simp) ?_ hinv.call
  intro key image h
  rcases record_lookup h with ⟨-, rfl⟩ | hold | ⟨old, hold, -, rfl⟩
  · exact ⟨hstored.2, hstored.1⟩
  · exact hinv.entry key image hold
  · exact hinv.entry _ old hold

theorem Inv.remove {image} (hcall : s.calls[i]? = some (.remove image))
    (hok : Careful s (.step i)) : Inv (s.move (.step i)) := by
  simp only [Careful, hcall] at hok
  rcases hwithdraw : s.index.withdraw image with _ | ⟨removed, left⟩
  · have hmove : s.move (.step i) = ⟨s.memory, s.dirs, s.calls.set i .done⟩ := by
      simp only [State.index] at hwithdraw
      simp [State.move, hcall, Call.step, hwithdraw]
    rw [hmove]
    exact hinv.step_outside hcall (fun _ => id) trivial (by simp) (by simp)
  · have hmove : s.move (.step i) =
        ⟨s.memory.change left, s.dirs.deleteUnused left removed, s.calls.set i (.save .read)⟩ := by
      simp only [State.index] at hwithdraw
      simp [State.move, hcall, Call.step, hwithdraw]
    have hw := withdraw_spec hwithdraw
    have hplaced := fun key image h => (hinv.entry key image h).2
    rw [hmove]
    apply hinv.step_locked hcall (by simp)
    · intro key image' h
      have hentry := hinv.entry key image' (hw.of_left h)
      exact ⟨mem_of_lookup_eq (deleteUnused_keeps hw hplaced h) hentry.1, hentry.2⟩
    · -- a directory that a call relies on stays, since another image keeps its digest in the index
      have hrelied : ∀ call ∈ s.calls, ∀ digest, call.reliesOn = some digest →
          "sha256:".toList <+: digest.toList → digestHex digest ∈ s.dirs →
          digestHex digest ∈ s.dirs.deleteUnused left removed := by
        intro call hmem digest hrelies hprefix hdir
        refine mem_of_lookup_eq (deleteUnused_lookup ?_) hdir
        intro gone hgone hpath
        obtain ⟨key, hkey, hlookup⟩ := hw.of_removed hgone
        have hgonePlaced := hplaced key gone hlookup
        have hdigest : gone.digest = digest := digestHex_inj hgonePlaced.2 hprefix (hgonePlaced.1.symm.trans hpath)
        obtain ⟨key', other, hkey', hother, hotherDigest⟩ := hok call hmem digest hrelies key hkey gone hlookup hdigest
        exact ⟨key', other, (hw.other hkey').trans hother, hotherDigest.trans hdigest.symm⟩
      intro call hmem
      have hcallOk := hinv.call call hmem
      cases call with
      | measure put => exact ⟨hcallOk.1, hrelied _ hmem put.digest rfl hcallOk.1 hcallOk.2⟩
      | record stored =>
        obtain ⟨⟨hpath, hprefix⟩, hdir⟩ := hcallOk
        rw [hpath] at hdir
        exact ⟨⟨hpath, hprefix⟩, hpath ▸ hrelied _ hmem stored.digest rfl hprefix hdir⟩
      | check | copy => exact hcallOk
      | remove | save | done => trivial

omit hinv in
theorem save_current (memory : Memory Index) (phase : Phase Index) :
    (memory.save phase).1.current = memory.current := by
  cases phase with
  | read | write => rfl
  | rename =>
    rw [Memory.save]
    split <;> rfl

theorem Inv.save {phase} (hcall : s.calls[i]? = some (.save phase))
    (hok : Careful s (.step i)) : Inv (s.move (.step i)) := by
  simp only [Careful, hcall] at hok
  -- what the call does next, in either case
  have hstep : ∀ call', (∀ p, call' = .save p ↔ (s.memory.save phase).2 = some p) → CallOk s.dirs call' →
      Inv ⟨(s.memory.save phase).1, s.dirs, s.calls.set i call'⟩ := by
    intro call' hcall' hcallOk
    refine ⟨?_, ?_, ?_⟩
    · apply hinv.saving.save (mem_of_getElem? hcall) hok
      · intro p hp hne
        exact mem_set_of_ne hcall hp (by simpa using hne)
      · intro p hp
        rcases mem_or_eq_of_mem_set hp with hp | hp
        · exact .inl hp
        · exact .inr ((hcall' p).1 hp.symm)
      · intro p hp
        rw [← (hcall' p).2 hp]
        exact mem_set_self hcall
    · intro key image h
      rw [State.index, save_current] at h
      exact hinv.entry key image h
    · intro other hother
      rcases mem_or_eq_of_mem_set hother with h | rfl
      · exact hinv.call other h
      · exact hcallOk
  rcases hsave : s.memory.save phase with ⟨_, _ | phase'⟩
  · rw [hsave] at hstep
    simp only [State.move, hcall, Call.step, hsave]
    exact hstep .done (by simp) trivial
  · rw [hsave] at hstep
    simp only [State.move, hcall, Call.step, hsave]
    exact hstep (.save phase') (by simp) trivial

/-! ### Runs -/

theorem Inv.move {move} (hok : Careful s move) : Inv (s.move move) := by
  cases move with
  | put => exact hinv.begin hok.1 (by simp)
  | remove => exact hinv.begin trivial (by simp)
  | step i =>
    rcases hcall : s.calls[i]? with _ | call
    · simpa [State.move, hcall] using hinv
    cases call with
    | check => exact hinv.check hcall
    | copy => exact hinv.copy hcall
    | measure => exact hinv.measure hcall
    | record => exact hinv.record hcall
    | remove => exact hinv.remove hcall hok
    | save => exact hinv.save hcall hok
    | done =>
      simp only [State.move, hcall, Call.step]
      exact hinv.step_outside hcall (fun _ => id) trivial (by simp) (by simp)

omit hinv

theorem Run.inv (hrun : Run Careful s) : Inv s := by
  induction hrun with
  | init => exact Inv.init
  | step _ _ hok ih => exact ih.move hok

/-- **A store with no call in progress is consistent**: in a careful run, whenever every call has returned, the
directory of every indexed image exists and `index.json` holds the index. -/
theorem quiescent_store_consistent (hrun : Run Careful s) (hquiet : Quiescent s) : Consistent s := by
  have hinv := hrun.inv
  constructor
  · exact fun key image h => (hinv.entry key image h).1
  · apply hinv.saving.file_eq
    intro phase hphase
    exact absurd (hquiet _ hphase) (by simp)

/-- The state after some moves. -/
def State.moves (s : State) (moves : List Move) : State := moves.foldl State.move s

/-- Every one of the moves meets `ok`. -/
def All (ok : State → Move → Prop) : State → List Move → Prop
  | _, [] => True
  | s, move :: moves => ok s move ∧ All ok (s.move move) moves

theorem Run.moves {ok} (hrun : Run ok s) {moves} (h : All ok s moves) : Run ok (s.moves moves) := by
  induction moves generalizing s with
  | nil => exact hrun
  | cons move _ ih => exact ih (hrun.step move h.1) h.2

theorem all_true (s : State) (moves : List Move) : All (fun _ _ => True) s moves := by
  induction moves generalizing s with
  | nil => trivial
  | cons _ _ ih => exact ⟨trivial, ih _⟩

/-- The image `a`, and the same layout as `b`. -/
def putSample (reference : String) : Put := ⟨reference, "sha256:0a", sampleLayout, none, 1⟩

/-- `a` is stored; `b` is stored and `a` removed at the same time, the removal first. -/
def removeBeforeCheck : List Move :=
  [.put (putSample "a"), .step 0, .step 0, .step 0, .step 0, .step 0, .step 0, .step 0,
    .put (putSample "b"), .remove "a", .step 2, .step 1, .step 1, .step 2, .step 1, .step 1,
    .step 2, .step 2, .step 1, .step 1, .step 1]

theorem careful_removeBeforeCheck : All Careful State.init removeBeforeCheck := by
  refine ⟨plainDigest_sample, trivial, trivial, trivial, trivial, trivial, ?_, ?_, plainDigest_sample, trivial, ?_,
    trivial, trivial, trivial, trivial, trivial, ?_, ?_, trivial, ?_, ?_, trivial⟩
  -- the saves of `a`, of the removal and of `b`, one after the other, each find no temporary file
  case refine_1 | refine_4 | refine_6 => rintro _ ⟨⟩
  case refine_2 | refine_5 | refine_7 =>
    rintro _ ⟨⟩
    decide
  -- `b` has not looked for the directory when `a` is removed
  case refine_3 => rintro _ (_ | ⟨_, _ | ⟨_, _ | ⟨_, ⟨⟩⟩⟩⟩) _ ⟨⟩

theorem quiescent_store_consistent_removed : Consistent (State.init.moves removeBeforeCheck) ∧
      (State.init.moves removeBeforeCheck).index.keys = ["b"] :=
  ⟨quiescent_store_consistent (Run.init.moves careful_removeBeforeCheck)
    (by rintro _ (_ | ⟨_, _ | ⟨_, _ | ⟨_, ⟨⟩⟩⟩⟩) <;> rfl), by decide⟩

/-- `a` is stored; `b` has found the directory when `a` is removed. -/
def removeAfterCheck : List Move :=
  [.put (putSample "a"), .step 0, .step 0, .step 0, .step 0, .step 0, .step 0, .step 0,
    .put (putSample "b"), .remove "a", .step 1, .step 2, .step 2, .step 2, .step 2,
    .step 1, .step 1, .step 1, .step 1, .step 1]

/-- `a` and `c` are stored at the same time: `a` reads the index before `c` is in it, and saves it last. -/
def staleSave : List Move :=
  [.put (putSample "a"), .put (putSample "c"), .step 0, .step 0, .step 0, .step 0, .step 0,
    .step 1, .step 1, .step 1, .step 1, .step 1, .step 1, .step 0, .step 0]

/-- Calls that have all returned leave the store inconsistent. A `remove` between the check and the record of a `put`
deletes the directory that the `put` has found. A save of an index that another call has changed and saved since leaves
the older index in `index.json`. -/
theorem interleaved_calls_inconsistent : (∃ s, Run (fun _ _ => True) s ∧ Quiescent s ∧
        ∃ key image, s.index.lookup key = some image ∧ image.path ∉ s.dirs) ∧
      ∃ s, Run (fun _ _ => True) s ∧ Quiescent s ∧ s.memory.file.value ≠ s.index := by
  constructor
  · refine ⟨State.init.moves removeAfterCheck, Run.init.moves (all_true _ _), ?_,
      "b", ⟨"b", "sha256:0a", 0, 1, 1, "0a"⟩, by decide, by decide⟩
    rintro _ (_ | ⟨_, _ | ⟨_, _ | ⟨_, ⟨⟩⟩⟩⟩) <;> rfl
  · refine ⟨State.init.moves staleSave, Run.init.moves (all_true _ _), ?_, ?_⟩
    · rintro _ (_ | ⟨_, _ | ⟨_, ⟨⟩⟩⟩) <;> rfl
    · intro h
      have hkeys := congrArg AList.keys h
      exact absurd hkeys (by decide)

end A3sBox.Image.Concurrent
