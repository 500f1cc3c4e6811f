import A3sBox.Build.Engine

/-!
# What the key of a layer tells

The key of a layer knows nothing of `.dockerignore`, of patterns and downloads, of the stage that `COPY --from` reads,
of modes, links and empty directories, or of the configuration of the base image.

## The model

`Plain` builds have none of what a key leaves out, nor that in which a layer that is found differs from one that is
made. Where `Compatible` builds differ, keys do. `Reached` are the runs of a stage without the cache.

## What is proved

`files_eq_of_key`: in such runs a key tells the rootfs and what commands see, by induction on the run.
-/

namespace A3sBox.Build

open Text List Except

variable {R : Type} {host : Host R} {input other : Input} {completed : List (Option String × R)}

/-! ### Conditions -/

/-- The image of a FROM. -/
def Input.base (input : Input) (imageRef : String) : Except BoxError OciImage :=
  if imageRef = "scratch" then .ok ⟨[], scratchConfig⟩ else input.pull imageRef

/-- Whether an instruction may change the rootfs, or what a command sees. -/
def Instruction.affectsFiles : Instruction → Bool
  | .run _ | .copy _ _ _ _ | .add _ _ _ | .workdir _ | .env _ | .shell _ | .volume _ => true
  | _ => false

/-- The runs of a stage without the cache, from its FROM on. -/
inductive Reached (host : Host R) (input : Input) : StageRun R → Prop where
  /-- FROM, in a stage that has only declared arguments. -/
  | base {run run'} (completed : List (Option String × R)) (image : String) (stage : Option String)
      (rootfs : run.rootfs = host.newRootfs) (workdir : run.state.workdir = "/")
      (shell : run.state.shell = ["/bin/sh", "-c"]) (cache : run.cache = none)
      (step : step host input completed run (.fromImage image stage) = .ok run') : Reached host input run'
  | step {run run'} (completed : List (Option String × R)) (i : Instruction) (reached : Reached host input run)
      (mem : i ∈ input.instructions) (notFrom : ∀ image stage, i ≠ .fromImage image stage)
      (step : step host input completed run i = .ok run') : Reached host input run'

/-- A build in which the key of a layer tells what is copied and what is set, and layers restore their step. -/
structure Plain (host : Host R) (input : Input) : Prop where
  /-- Nothing is copied from a stage or an image. -/
  noFrom : ∀ src dst fromRef chown, .copy src dst (some fromRef) chown ∉ input.instructions
  noChown : ∀ src dst owner, .copy src dst none (some owner) ∉ input.instructions
  copied : ∀ src dst chown, .copy src dst none chown ∈ input.instructions → hashedFiles input.context src ≠ none
  added : ∀ src dst chown, .add src dst chown ∈ input.instructions → hashedFiles input.context src ≠ none
  env : ∀ vars, .env vars ∈ input.instructions → ∀ pair ∈ vars, '$' ∉ pair.2.toList
  workdir : ∀ path, .workdir path ∈ input.instructions → '$' ∉ path.toList
  lines : ∀ i ∈ input.instructions, '\n' ∉ (instructionToString i).toList
  triggers : ∀ imageRef image, input.base imageRef = .ok image → ∀ trigger ∈ image.config.onbuild,
    ∀ vars, host.parseInstruction trigger = .ok (.env vars) → ∀ pair ∈ vars, '$' ∉ pair.2.toList
  /-- A layer, extracted where its step began, gives what the step gave. -/
  restored : ∀ run i rootfs blob, Reached host input run → i ∈ input.instructions →
    execute host input [] run.state run.rootfs i = some (.ok (rootfs, some blob)) →
    host.extract blob run.rootfs = .ok rootfs

/-- Builds that keys can tell apart where they differ. -/
structure Compatible (host : Host R) (input other : Input) : Prop where
  /-- A step does the same at the times of both. -/
  now : host.run input.now = host.run other.now ∧ host.place input.now = host.place other.now
  /-- Instructions with the same text are the same, if they matter for layers. -/
  text : ∀ i ∈ input.instructions, ∀ j ∈ other.instructions, instructionToString i = instructionToString j →
    i = j ∨ i.affectsFiles = false ∧ j.affectsFiles = false
  /-- The paths and contents of the files tell what COPY copies. -/
  copied : ∀ src dst chown, .copy src dst none chown ∈ input.instructions →
    hashedFiles input.context src = hashedFiles other.context src →
    copySources host.glob (input.root host) src = copySources host.glob (other.root host) src
  added : ∀ src dst chown, .add src dst chown ∈ input.instructions →
    hashedFiles input.context src = hashedFiles other.context src →
    addSources host.glob (input.root host) input.download src =
      addSources host.glob (other.root host) other.download src
  /-- Base images with the same layers have the same configuration. -/
  base : ∀ imageRef imageRef' image image', input.base imageRef = .ok image → other.base imageRef' = .ok image' →
    image.layers.map host.gunzip = image'.layers.map host.gunzip → image.config = image'.config

/-! ### What keys tell -/

theorem replaceFrom_of_not_mem {pattern value text} (h : '$' ∉ text) :
    replaceFrom ('$' :: pattern) value 0 text = text := by
  induction text with
  | nil => rfl
  | cons c text ih =>
    simp only [mem_cons, not_or] at h
    have hc : ('$' :: pattern).isPrefixOf (c :: text) = false := by simp [List.isPrefixOf, h.1]
    rw [replaceFrom, hc, if_neg (by simp), ih h.2]

theorem expandArgs_of_not_mem {s} (h : '$' ∉ s.toList) (args : List (String × String)) : expandArgs s args = s := by
  have hfold : ∀ text : List Char, '$' ∉ text → args.foldl (fun text arg =>
      replaceFrom ('$' :: arg.1.toList) arg.2.toList 0
        (replaceFrom ('$' :: '\x7b' :: arg.1.toList ++ ['\x7d']) arg.2.toList 0 text)) text = text := by
    intro text htext
    induction args with
    | nil => rfl
    | cons arg args ih =>
      have hstep : replaceFrom ('$' :: arg.1.toList) arg.2.toList 0
          (replaceFrom ('$' :: ('\x7b' :: arg.1.toList ++ ['\x7d'])) arg.2.toList 0 text) = text := by
        rw [replaceFrom_of_not_mem htext, replaceFrom_of_not_mem htext]
      exact (congrArg (fun text => List.foldl _ text args) hstep).trans ih
  exact (congrArg String.ofList (hfold s.toList h)).trans String.ofList_toList

/-- The word that an instruction begins with. -/
def Instruction.keyword : Instruction → String
  | .fromImage _ _ => "FROM"
  | .run _ => "RUN"
  | .copy _ _ _ _ => "COPY"
  | .workdir _ => "WORKDIR"
  | .env _ => "ENV"
  | .entrypoint _ => "ENTRYPOINT"
  | .cmd _ => "CMD"
  | .expose _ => "EXPOSE"
  | .label _ => "LABEL"
  | .user _ => "USER"
  | .arg _ _ => "ARG"
  | .add _ _ _ => "ADD"
  | .shell _ => "SHELL"
  | .stopSignal _ => "STOPSIGNAL"
  | .healthCheck _ _ _ _ _ => "HEALTHCHECK"
  | .onBuild _ => "ONBUILD"
  | .volume _ => "VOLUME"

/-- A text begins with a word and a space. -/
def FirstWord (word text : String) : Prop := ∃ rest, text.toList = word.toList ++ ' ' :: rest

variable {text image : String} {i : Instruction} {state state' : BuildState}

variable {word : String} {j : Instruction} {blobs : List (List UInt8)} {diffIds l : List String}
  {next next' : BuildState}

theorem firstWord_of_eq (h : text = word ++ " ") : FirstWord word text := ⟨[], by rw [h, String.toList_append]; rfl⟩

theorem FirstWord.append (h : FirstWord word text) (more : String) : FirstWord word (text ++ more) := by
  obtain ⟨rest, hrest⟩ := h
  exact ⟨rest ++ more.toList, by rw [String.toList_append, hrest, append_assoc, cons_append]⟩

theorem firstWord_flag (word name value : String) : FirstWord word (word ++ flag name (some value)) := by
  have hflag : (flag name (some value)).toList = ' ' :: ("--" ++ name ++ "=" ++ value).toList := by
    simp only [flag, String.toList_append]
    rfl
  exact ⟨_, by rw [String.toList_append, hflag]⟩

theorem instructionRepr_keyword (input) (state) (i) :
    FirstWord i.keyword (instructionRepr input state i) := by
  cases i with
  | copy _ _ fromRef chown =>
    cases fromRef with
    | some stage => exact (((((firstWord_flag "COPY" "from" stage).append _).append _).append _).append _).append _
    | none =>
      cases chown with
      | some owner =>
        have hflag : FirstWord "COPY" ("COPY" ++ "" ++ flag "chown" (some owner)) := by
          exact firstWord_flag "COPY" "chown" owner
        exact (((hflag.append _).append _).append _).append _
      | none =>
        have hword : FirstWord "COPY" ("COPY" ++ "" ++ "" ++ " ") := firstWord_of_eq (by decide +kernel)
        exact ((hword.append _).append _).append _
  | add _ _ chown =>
    cases chown with
    | some owner => exact ((((firstWord_flag "ADD" "chown" owner).append _).append _).append _).append _
    | none =>
      have hword : FirstWord "ADD" ("ADD" ++ "" ++ " ") := firstWord_of_eq (by decide +kernel)
      exact ((hword.append _).append _).append _
  | healthCheck cmd =>
    have hword : FirstWord "HEALTHCHECK" "HEALTHCHECK " := firstWord_of_eq (by decide +kernel)
    cases cmd with
    | none => exact hword.append "NONE"
    | some => exact (hword.append "CMD ").append _
  | fromImage image stage =>
    have hword : FirstWord "FROM" "FROM " := firstWord_of_eq (by decide +kernel)
    cases stage with
    | none => exact hword.append image
    | some stage => exact ((hword.append image).append _).append stage
  | arg name =>
    have hword : FirstWord "ARG" "ARG " := firstWord_of_eq (by decide +kernel)
    exact ((hword.append name).append _).append _
  | run text | workdir text | user text | stopSignal text => exact (firstWord_of_eq rfl).append text
  | env pairs | label pairs | entrypoint words | cmd words | shell words | expose words | volume words
  | onBuild => exact (firstWord_of_eq rfl).append _

theorem space_not_mem_keyword (i : Instruction) : ' ' ∉ i.keyword.toList := by
  cases i <;> (simp only [Instruction.keyword]; decide +kernel)

variable {run run' : StageRun R}

theorem keyword_eq_of_nextKey (hkey : '\n' ∉ run.chainKey.toList) (hkey' : '\n' ∉ run'.chainKey.toList)
    (h : nextKey host input run i = nextKey host other run' j) :
    run.chainKey = run'.chainKey ∧ i.keyword = j.keyword := by
  obtain ⟨hprev, hrest⟩ := chain_rest hkey hkey' h
  obtain ⟨_, hi⟩ := instructionRepr_keyword input run.state i
  obtain ⟨_, hj⟩ := instructionRepr_keyword other run'.state j
  rw [hi, hj, append_assoc, append_assoc] at hrest
  obtain ⟨hword, -⟩ := append_cons_inj (space_not_mem_keyword i) (space_not_mem_keyword j) hrest
  exact ⟨hprev, String.toList_injective hword⟩

theorem eq_arg_of_keyword (h : i.keyword = "ARG") : ∃ name default, i = .arg name default := by
  cases i <;> first | exact ⟨_, _, rfl⟩ | (simp [Instruction.keyword] at h)

/-- Without variables, the text in a key is the text of the instruction, an ARG apart. -/
theorem Plain.instructionRepr_eq (hplain : Plain host input) (hi : i ∈ input.instructions) (harg : i.keyword ≠ "ARG")
    (state) : instructionRepr input state i = instructionToString i := by
  cases i with
  | env vars =>
    have hvars : vars.map (fun pair => (pair.1, expandArgs pair.2 (input.order state.expansionVars))) = vars := by
      refine (map_congr_left fun pair hpair => ?_).trans (map_id vars)
      exact Prod.ext rfl (expandArgs_of_not_mem (hplain.env vars hi pair hpair) _)
    exact congrArg (fun vars => "ENV " ++ joinPairs vars) hvars
  | arg => exact absurd rfl harg
  | _ => rfl

/-- What a key tells of the last instruction: its text and the hash of what it copies, if it matters. -/
theorem nextKey_injective (hplain : Plain host input) (hplain' : Plain host other) (hi : i ∈ input.instructions)
    (hj : j ∈ other.instructions) (hkey : '\n' ∉ run.chainKey.toList) (hkey' : '\n' ∉ run'.chainKey.toList)
    (h : nextKey host input run i = nextKey host other run' j) :
    run.chainKey = run'.chainKey ∧
      (i.affectsFiles = false ∧ j.affectsFiles = false ∨
        instructionToString i = instructionToString j ∧ inputHash host input i = inputHash host other j) := by
  obtain ⟨hprev, hword⟩ := keyword_eq_of_nextKey hkey hkey' h
  refine ⟨hprev, ?_⟩
  by_cases harg : i.keyword = "ARG"
  · obtain ⟨_, _, rfl⟩ := eq_arg_of_keyword harg
    obtain ⟨_, _, rfl⟩ := eq_arg_of_keyword (hword ▸ harg)
    exact .inl ⟨rfl, rfl⟩
  · rw [nextKey, nextKey, hplain.instructionRepr_eq hi harg, hplain'.instructionRepr_eq hj (hword ▸ harg)] at h
    exact .inr (chain_injective hkey hkey' (hplain.lines i hi) (hplain'.lines j hj) h).2

/-! ### One instruction without the cache -/

/-- Two states agree in what a command sees. -/
def SameView (state state' : BuildState) : Prop :=
  state.env = state'.env ∧ state.workdir = state'.workdir ∧ state.shell = state'.shell

/-- Two runs agree in the rootfs and in what a command sees. -/
structure SameFiles (run run' : StageRun R) : Prop where
  rootfs : run.rootfs = run'.rootfs
  env : run.state.env = run'.state.env
  workdir : run.state.workdir = run'.state.workdir
  shell : run.state.shell = run'.state.shell

theorem SameFiles.symm (h : SameFiles run run') : SameFiles run' run :=
  ⟨h.rootfs.symm, h.env.symm, h.workdir.symm, h.shell.symm⟩

theorem SameFiles.trans {run''} (h : SameFiles run run') (h' : SameFiles run' run'') : SameFiles run run'' :=
  ⟨h.rootfs.trans h'.rootfs, h.env.trans h'.env, h.workdir.trans h'.workdir, h.shell.trans h'.shell⟩

/-- The run with the key after an instruction. -/
def StageRun.advance (run : StageRun R) (host : Host R) (input : Input) (i : Instruction) : StageRun R :=
  { run with chainKey := nextKey host input run i }

theorem step_of_configure (hi : ∀ image stage, i ≠ .fromImage image stage)
    (h : execute host input completed run.state run.rootfs i = none) :
    step host input completed run i = .ok { run.advance host input i with
      state := configure input run.state i
      rootfs := createDirs host (configure input run.state i) run.rootfs i } := by
  cases i with
  | fromImage image stage => exact absurd rfl (hi image stage)
  | _ => simp only [step, h]; rfl

variable {made : Except BoxError (R × Option (List UInt8))}

theorem step_of_execute (h : execute host input completed run.state run.rootfs i = some made) :
    step host input completed run i =
      (tryReuseCachedLayer host (run.advance host input i) (cachedText i)).bind fun reused =>
        match reused with
        | some run' => .ok run'
        | none => makeLayer host input (run.advance host input i) (madeText i) made := by
  cases i with
  | fromImage => simp [execute] at h
  | _ => simp only [step, h]; rfl

theorem tryReuse_none (h : run.cache = none) (createdBy : String) :
    tryReuseCachedLayer host run createdBy = .ok none := by
  rw [tryReuseCachedLayer, h]
  split_ifs <;> rfl

theorem makeLayer_some {blob diffId} (h : host.computeDiffId blob = .ok diffId)
    (run) (createdBy : String) (rootfs : R) :
    makeLayer host input run createdBy (.ok (rootfs, some blob)) = .ok { run with
      rootfs
      cacheValid := false
      cache := run.cache.map fun cache => cache.store input.maxBytes run.chainKey (host.layerInfo blob) diffId
      state := (run.state.push (host.layerInfo blob) diffId).record createdBy false } := by
  simp only [makeLayer, bind, Except.bind, h]

theorem makeLayer_ok {createdBy} (h : makeLayer host input run createdBy made = .ok run') :
    (∃ rootfs, made = .ok (rootfs, none) ∧
      run' = { run with rootfs, cacheValid := false, state := run.state.record createdBy true }) ∨
    ∃ rootfs blob diffId, made = .ok (rootfs, some blob) ∧ host.computeDiffId blob = .ok diffId ∧
      run' = { run with
        rootfs
        cacheValid := false
        cache := run.cache.map fun cache => cache.store input.maxBytes run.chainKey (host.layerInfo blob) diffId
        state := (run.state.push (host.layerInfo blob) diffId).record createdBy false } := by
  rcases made with _ | ⟨rootfs, _ | blob⟩
  · simp [makeLayer, bind, Except.bind] at h
  · simp only [makeLayer, bind, Except.bind, ok.injEq] at h
    exact .inl ⟨rootfs, rfl, h.symm⟩
  · rcases hd : host.computeDiffId blob with _ | diffId
    · simp [makeLayer, bind, Except.bind, hd] at h
    · rw [makeLayer_some hd, ok.injEq] at h
      exact .inr ⟨rootfs, blob, diffId, rfl, hd, h.symm⟩

theorem step_cases (hcache : run.cache = none) (hi : ∀ image stage, i ≠ .fromImage image stage)
    (h : step host input completed run i = .ok run') :
    (execute host input completed run.state run.rootfs i = none ∧
      run' = { run.advance host input i with
        state := configure input run.state i
        rootfs := createDirs host (configure input run.state i) run.rootfs i }) ∨
    ∃ made, execute host input completed run.state run.rootfs i = some made ∧
      makeLayer host input (run.advance host input i) (madeText i) made = .ok run' := by
  rcases hexec : execute host input completed run.state run.rootfs i with _ | made
  · rw [step_of_configure hi hexec, ok.injEq] at h
    exact .inl ⟨rfl, h.symm⟩
  · rw [step_of_execute hexec, tryReuse_none (by exact hcache)] at h
    exact .inr ⟨made, rfl, h⟩

theorem step_cache (hcache : run.cache = none) (hi : ∀ image stage, i ≠ .fromImage image stage)
    (h : step host input completed run i = .ok run') :
    run'.cache = none ∧ run'.chainKey = nextKey host input run i := by
  obtain ⟨-, rfl⟩ | ⟨_, -, hmake⟩ := step_cases hcache hi h
  · exact ⟨hcache, rfl⟩
  · obtain ⟨_, -, rfl⟩ | ⟨_, _, _, -, -, rfl⟩ := makeLayer_ok hmake
    · exact ⟨hcache, rfl⟩
    · exact ⟨by simp [StageRun.advance, hcache], rfl⟩

/-! ### The files after an instruction -/

theorem setVars_of_not_mem {expand expand' vars}
    (h : ∀ pair ∈ vars, ∀ env, expand env pair.2 = expand' env pair.2) (env : List (String × String)) :
    setVars expand env vars = setVars expand' env vars := by
  induction vars generalizing env with
  | nil => rfl
  | cons pair _ ih =>
    obtain ⟨key, value⟩ := pair
    rw [setVars, setVars, h (key, value) (by simp), ih fun p hp => h p (by simp [hp])]

/-- What an instruction does to the environment, the working directory and the shell is told by what they were. -/
theorem configure_congr (hplain : Plain host input) (hplain' : Plain host other) (hi : i ∈ input.instructions)
    (hi' : i ∈ other.instructions) (hview : SameView state state') :
    SameView (configure input state i) (configure other state' i) := by
  obtain ⟨henv, hworkdir, hshell⟩ := hview
  cases i with
  | env vars =>
    refine ⟨?_, hworkdir, hshell⟩
    simp only [configure]
    rw [henv]
    refine setVars_of_not_mem (fun pair hpair env => ?_) _
    rw [expandArgs_of_not_mem (hplain.env vars hi pair hpair), expandArgs_of_not_mem (hplain'.env vars hi' pair hpair)]
  | workdir path =>
    refine ⟨henv, ?_, hshell⟩
    simp only [configure, BuildState.record]
    rw [expandArgs_of_not_mem (hplain.workdir path hi), expandArgs_of_not_mem (hplain'.workdir path hi'), hworkdir]
  | shell => exact ⟨henv, hworkdir, rfl⟩
  | _ => exact ⟨henv, hworkdir, hshell⟩

variable (h : i.affectsFiles = false)

include h

/-- An instruction that does not matter for layers leaves what matters as it is. -/
theorem configure_of_not_affects (state) : SameView (configure input state i) state := by
  cases i with
  | env _ | workdir _ | shell _ => simp [Instruction.affectsFiles] at h
  | _ => exact ⟨rfl, rfl, rfl⟩

theorem execute_of_not_affects (state) (rootfs : R) :
    execute host input completed state rootfs i = none := by
  cases i with
  | run _ | copy _ _ _ _ | add _ _ _ => simp [Instruction.affectsFiles] at h
  | _ => rfl

theorem createDirs_of_not_affects (state) (rootfs : R) : createDirs host state rootfs i = rootfs := by
  cases i with
  | workdir _ | volume _ => simp [Instruction.affectsFiles] at h
  | _ => rfl

omit h

theorem execute_congr (hplain : Plain host input) (hcompatible : Compatible host input other)
    (hi : i ∈ input.instructions) (hhash : inputHash host input i = inputHash host other i)
    (hfiles : SameFiles run run') (completed completed' : List (Option String × R)) :
    execute host input completed run.state run.rootfs i = execute host other completed' run'.state run'.rootfs i := by
  obtain ⟨hrootfs, henv, hworkdir, hshell⟩ := hfiles
  cases i with
  | run => simp only [execute, hrootfs, henv, hworkdir, hshell, hcompatible.now.1]
  | copy src dst fromRef chown =>
    cases fromRef with
    | none =>
      have hsources := hcompatible.copied src dst chown hi
        (hashContextSources_injective (hplain.copied src dst chown hi) hhash)
      simp [execute, hrootfs, hworkdir, hsources, hcompatible.now.2]
    | some fromRef => exact absurd hi (hplain.noFrom src dst fromRef chown)
  | add src dst chown =>
    have hsources := hcompatible.added src dst chown hi
      (hashContextSources_injective (hplain.added src dst chown hi) hhash)
    simp [execute, hrootfs, hworkdir, hsources, hcompatible.now.2]
  | _ => rfl

variable {run₂ run₂' run₁' run₁ : StageRun R}

theorem makeLayer_sameFiles {text'} (hfiles : SameFiles run₁ run₂)
    (h₁ : makeLayer host input run₁ text made = .ok run₁') (h₂ : makeLayer host other run₂ text' made = .ok run₂') :
    SameFiles run₁' run₂' := by
  obtain ⟨-, henv, hworkdir, hshell⟩ := hfiles
  obtain ⟨_, hmade₁, rfl⟩ | ⟨_, _, _, hmade₁, -, rfl⟩ := makeLayer_ok h₁ <;>
    obtain ⟨_, hmade₂, rfl⟩ | ⟨_, _, _, hmade₂, -, rfl⟩ := makeLayer_ok h₂ <;>
    rw [hmade₁, ok.injEq, Prod.mk.injEq] at hmade₂ <;>
    exact ⟨hmade₂.1, henv, hworkdir, hshell⟩

theorem step_sameFiles (hplain : Plain host input) (hplain' : Plain host other)
    (hcompatible : Compatible host input other) (hi : i ∈ input.instructions) (hi' : i ∈ other.instructions)
    (hnot : ∀ image stage, i ≠ .fromImage image stage) (hhash : inputHash host input i = inputHash host other i)
    {completed₁ completed₂} (hfiles : SameFiles run₁ run₂) (hcache₁ : run₁.cache = none)
    (hcache₂ : run₂.cache = none) (h₁ : step host input completed₁ run₁ i = .ok run₁')
    (h₂ : step host other completed₂ run₂ i = .ok run₂') : SameFiles run₁' run₂' := by
  have hexec := execute_congr hplain hcompatible hi hhash hfiles completed₁ completed₂
  obtain ⟨hrootfs, henv, hworkdir, hshell⟩ := hfiles
  obtain ⟨hnone₁, rfl⟩ | ⟨_, hmade₁, hmake₁⟩ := step_cases hcache₁ hnot h₁ <;>
    obtain ⟨hnone₂, rfl⟩ | ⟨_, hmade₂, hmake₂⟩ := step_cases hcache₂ hnot h₂
  · obtain ⟨henv', hworkdir', hshell'⟩ := configure_congr hplain hplain' hi hi' ⟨henv, hworkdir, hshell⟩
    refine ⟨?_, henv', hworkdir', hshell'⟩
    simp only [hrootfs]
    cases i with
    | workdir => simp only [createDirs, hworkdir']
    | _ => rfl
  · rw [hexec, hmade₂] at hnone₁
    cases hnone₁
  · rw [hexec, hnone₂] at hmade₁
    cases hmade₁
  · rw [hexec, hmade₂, Option.some.injEq] at hmade₁
    subst hmade₁
    have hadvanced : SameFiles (run₁.advance host input i) (run₂.advance host other i) :=
      ⟨hrootfs, henv, hworkdir, hshell⟩
    exact makeLayer_sameFiles hadvanced hmake₁ hmake₂

/-- An instruction that does not matter for layers leaves the files as they are. -/
theorem step_of_not_affects (haffects : i.affectsFiles = false) (hcache : run.cache = none)
    (hnot : ∀ image stage, i ≠ .fromImage image stage) (h : step host input completed run i = .ok run') :
    SameFiles run' run := by
  obtain ⟨henv, hworkdir, hshell⟩ := @configure_of_not_affects input i haffects run.state
  obtain ⟨-, rfl⟩ | ⟨_, hmade, -⟩ := step_cases hcache hnot h
  · exact ⟨createDirs_of_not_affects haffects _ _, henv, hworkdir, hshell⟩
  · rw [execute_of_not_affects haffects] at hmade
    cases hmade

/-! ### Base images -/

/-- Layers that are the same without their compression are extracted to the same. -/
theorem extractAll_congr {blobs'} (h : blobs.map host.gunzip = blobs'.map host.gunzip)
    (hsome : ∀ blob ∈ blobs, host.gunzip blob ≠ none) (rootfs : R) :
    host.extractAll blobs rootfs = host.extractAll blobs' rootfs := by
  induction blobs generalizing blobs' rootfs with
  | nil =>
    cases blobs' with
    | nil => rfl
    | cons => simp at h
  | cons blob _ ih =>
    cases blobs' with
    | nil => simp at h
    | cons blob' =>
      simp only [map_cons, List.cons.injEq] at h
      obtain ⟨_, htar⟩ := Option.ne_none_iff_exists'.1 (hsome blob (by simp))
      have hextract : host.extract blob rootfs = host.extract blob' rootfs := by
        rw [Host.extract, Host.extract, ← h.1, htar]
      rw [Host.extractAll]
      congr 1
      funext rootfs'
      exact ih h.2 (fun b hb => hsome b (by simp [hb])) rootfs'

/-- The hashes of layers tell the layers without their compression. -/
theorem mapM_computeDiffId (h : blobs.mapM host.computeDiffId = .ok diffIds) :
    ∃ tars : List (List UInt8), blobs.map host.gunzip = tars.map some ∧ diffIds = tars.map host.sha.digest := by
  induction blobs generalizing diffIds with
  | nil =>
    simp only [mapM_nil, pure, Except.pure, ok.injEq] at h
    exact ⟨[], rfl, h.symm⟩
  | cons blob _ ih =>
    simp only [mapM_cons] at h
    obtain ⟨_, hdiffId, h⟩ := except_bind_ok h
    obtain ⟨_, hrest, h⟩ := except_bind_ok h
    simp only [pure, Except.pure, ok.injEq] at h
    obtain ⟨tars, htars, rfl⟩ := ih hrest
    rcases hgunzip : host.gunzip blob with _ | tar
    · simp [Host.computeDiffId, hgunzip] at hdiffId
    · simp only [Host.computeDiffId, hgunzip, ok.injEq] at hdiffId
      exact ⟨tar :: tars, by simp [hgunzip, htars], by simp [← h, hdiffId]⟩

theorem handleFrom_ok {rootfs layers config}
    (h : handleFrom host input image run = .ok (rootfs, layers, diffIds, config)) :
    ∃ imageRef base, input.base imageRef = .ok base ∧ config = base.config ∧
      host.extractAll base.layers run.rootfs = .ok rootfs ∧ base.layers.mapM host.computeDiffId = .ok diffIds := by
  rw [handleFrom] at h
  refine ⟨expandArgs image (input.order run.state.declaredBuildArgs), ?_⟩
  rw [Input.base]
  split_ifs at h ⊢ with hscratch
  · obtain ⟨rfl, -, rfl, rfl⟩ := h
    exact ⟨_, rfl, rfl, rfl, rfl⟩
  · obtain ⟨base, hbase, h⟩ := except_bind_ok h
    obtain ⟨_, hrootfs, h⟩ := except_bind_ok h
    obtain ⟨_, hdiffIds, h⟩ := except_bind_ok h
    obtain ⟨rfl, -, rfl, rfl⟩ := h
    exact ⟨base, hbase, rfl, hrootfs, hdiffIds⟩

theorem join_injective {l'} (hl : ∀ s ∈ l, ',' ∉ s.toList ∧ s.toList ≠ [])
    (hl' : ∀ s ∈ l', ',' ∉ s.toList ∧ s.toList ≠ []) (h : join "," l = join "," l') : l = l' := by
  induction l generalizing l' with
  | nil =>
    have htext := congrArg String.toList h
    rcases l' with _ | ⟨a', _ | ⟨_, l'⟩⟩
    · rfl
    · exact absurd htext.symm (by exact (hl' a' (by simp)).2)
    · simp [join] at htext
  | cons a l ih =>
    have htext := congrArg String.toList h
    rcases l with _ | ⟨_, _⟩ <;> rcases l' with _ | ⟨a', _ | ⟨_, _⟩⟩
    · exact absurd htext (by exact (hl a (by simp)).2)
    · simpa [join] using h
    · simp only [join_cons_cons] at htext
      exact absurd (show ',' ∈ a.toList by simp [show a.toList = _ from htext]) (hl a (by simp)).1
    · simp [join] at htext
    · simp only [join_cons_cons] at htext
      exact absurd (show ',' ∈ a'.toList by simp [show a'.toList = _ from htext.symm]) (hl' a' (by simp)).1
    · simp only [join_cons_cons, String.toList_append, append_assoc] at htext
      obtain ⟨ha, hrest⟩ := append_cons_inj (hl a (by simp)).1 (hl' a' (by simp)).1 htext
      rw [String.toList_injective ha, ih (fun s hs => hl s (by simp [hs])) (fun s hs => hl' s (by simp [hs]))
        (String.toList_injective hrest)]

theorem join_digests_injective {sha : Sha256} {tars tars' : List (List UInt8)}
    (h : join "," (tars.map sha.digest) = join "," (tars'.map sha.digest)) : tars = tars' := by
  have hdigest : ∀ l : List (List UInt8), ∀ s ∈ l.map sha.digest, ',' ∉ s.toList ∧ s.toList ≠ [] := by
    intro l s hs
    obtain ⟨tar, -, rfl⟩ := mem_map.1 hs
    exact ⟨sha.not_mem (by decide) tar, sha.nonempty tar⟩
  exact map_injective_iff.2 sha.injective (join_injective (hdigest tars) (hdigest tars') h)

theorem newline_not_mem_join (h : ∀ s ∈ l, '\n' ∉ s.toList) : '\n' ∉ (join "," l).toList := by
  induction l with
  | nil => simp [join]
  | cons a l ih =>
    cases l with
    | nil => exact h a (by simp)
    | cons =>
      have hcomma : '\n' ∉ ",".toList := by decide
      rw [join_cons_cons, String.toList_append, String.toList_append]
      simp only [mem_append, not_or]
      exact ⟨⟨h a (by simp), hcomma⟩, ih fun s hs => h s (by simp [hs])⟩

theorem stepFrom_ok (h : stepFrom host input image run = .ok run') :
    ∃ rootfs layers diffIds config state, handleFrom host input image run = .ok (rootfs, layers, diffIds, config) ∧
      config.onbuild.foldlM (executeOnbuildTrigger host input) (applyBaseConfig run.state config) = .ok state ∧
      run' = { run with
        rootfs
        baseLayers := layers
        baseDiffIds := diffIds
        chainKey := host.sha.digest (utf8 (join "," diffIds))
        cacheValid := true
        state := state.record ("FROM " ++ image) true } := by
  obtain ⟨⟨rootfs, layers, diffIds, config⟩, hfrom, h⟩ := except_bind_ok h
  obtain ⟨state, hstate, h⟩ := except_bind_ok h
  simp only [ok.injEq] at h
  exact ⟨rootfs, layers, diffIds, config, state, hfrom, hstate, h.symm⟩

theorem trigger_congr {trigger} (hview : SameView state state')
    (hvars : ∀ vars, host.parseInstruction trigger = .ok (.env vars) → ∀ pair ∈ vars, '$' ∉ pair.2.toList)
    (h : executeOnbuildTrigger host input state trigger = .ok next)
    (h' : executeOnbuildTrigger host other state' trigger = .ok next') : SameView next next' := by
  obtain ⟨henv, hworkdir, hshell⟩ := hview
  simp only [executeOnbuildTrigger, bind] at h h'
  obtain ⟨i, hparse, h⟩ := except_bind_ok h
  obtain ⟨_, hparse', h'⟩ := except_bind_ok h'
  rw [hparse, ok.injEq] at hparse'
  subst hparse'
  cases i <;> simp only [Except.bind, ok.injEq, reduceCtorEq] at h h'
  all_goals subst h h'
  case env vars =>
    refine ⟨?_, hworkdir, hshell⟩
    simp only [henv]
    refine setVars_of_not_mem (fun pair hpair env => ?_) _
    rw [expandArgs_of_not_mem (hvars vars hparse pair hpair), expandArgs_of_not_mem (hvars vars hparse pair hpair)]
  case workdir path => exact ⟨henv, by simp only [BuildState.record, hworkdir], hshell⟩
  all_goals exact ⟨henv, hworkdir, hshell⟩

theorem triggers_congr {triggers : List String} (hview : SameView state state')
    (hvars : ∀ trigger ∈ triggers, ∀ vars, host.parseInstruction trigger = .ok (.env vars) →
      ∀ pair ∈ vars, '$' ∉ pair.2.toList) (h : triggers.foldlM (executeOnbuildTrigger host input) state = .ok next)
    (h' : triggers.foldlM (executeOnbuildTrigger host other) state' = .ok next') : SameView next next' := by
  induction triggers generalizing state state' with
  | nil =>
    simp only [foldlM_nil, pure, Except.pure, ok.injEq] at h h'
    exact h ▸ h' ▸ hview
  | cons trigger _ ih =>
    obtain ⟨_, hs, h⟩ := except_bind_ok h
    obtain ⟨_, hs', h'⟩ := except_bind_ok h'
    have hview' := trigger_congr hview (hvars trigger (by simp)) hs hs'
    exact ih hview' (fun t ht => hvars t (by simp [ht])) h h'

theorem base_sameFiles (hplain : Plain host input) (hcompatible : Compatible host input other) {image' : String}
    (hrootfs : run₁.rootfs = run₂.rootfs) (hworkdir : run₁.state.workdir = run₂.state.workdir)
    (hshell : run₁.state.shell = run₂.state.shell) (h₁ : stepFrom host input image run₁ = .ok run₁')
    (h₂ : stepFrom host other image' run₂ = .ok run₂') (hkey : run₁'.chainKey = run₂'.chainKey) :
    SameFiles run₁' run₂' := by
  obtain ⟨_, _, _, _, _, hfrom₁, hstate₁, rfl⟩ := stepFrom_ok h₁
  obtain ⟨_, _, _, _, _, hfrom₂, hstate₂, rfl⟩ := stepFrom_ok h₂
  obtain ⟨ref₁, base₁, hbase₁, rfl, hextract₁, hids₁⟩ := handleFrom_ok hfrom₁
  obtain ⟨ref₂, base₂, hbase₂, rfl, hextract₂, hids₂⟩ := handleFrom_ok hfrom₂
  obtain ⟨tars₁, htars₁, rfl⟩ := mapM_computeDiffId hids₁
  obtain ⟨tars₂, htars₂, rfl⟩ := mapM_computeDiffId hids₂
  have htars : tars₁ = tars₂ := join_digests_injective (utf8_injective (host.sha.injective hkey))
  have hlayers : base₁.layers.map host.gunzip = base₂.layers.map host.gunzip := by rw [htars₁, htars₂, htars]
  have hsome : ∀ blob ∈ base₁.layers, host.gunzip blob ≠ none := by
    intro blob hblob hnone
    have hmem : host.gunzip blob ∈ tars₁.map some := htars₁ ▸ mem_map_of_mem hblob
    rw [hnone] at hmem
    simp at hmem
  have hconfig := hcompatible.base ref₁ ref₂ base₁ base₂ hbase₁ hbase₂ hlayers
  rw [extractAll_congr hlayers hsome, hrootfs, hextract₂, ok.injEq] at hextract₁
  rw [← hconfig] at hstate₂
  have hstart : SameView (applyBaseConfig run₁.state base₁.config) (applyBaseConfig run₂.state base₁.config) :=
    ⟨rfl, by simp only [applyBaseConfig, hworkdir], hshell⟩
  obtain ⟨henv, hworkdir', hshell'⟩ := triggers_congr hstart (hplain.triggers ref₁ base₁ hbase₁) hstate₁ hstate₂
  exact ⟨hextract₁.symm, henv, hworkdir', hshell'⟩

/-! ### A key tells the files -/

theorem Reached.cache_none (h : Reached host input run) : run.cache = none := by
  induction h with
  | base _ _ _ _ _ _ hcache hstep =>
    obtain ⟨_, _, _, _, _, -, -, rfl⟩ := stepFrom_ok hstep
    exact hcache
  | step _ _ _ _ hnot hstep ih => exact (step_cache ih hnot hstep).1

theorem Reached.newline_not_mem (h : Reached host input run) : '\n' ∉ run.chainKey.toList := by
  cases h with
  | base _ _ _ _ _ _ _ hstep =>
    obtain ⟨_, _, _, _, _, -, -, rfl⟩ := stepFrom_ok hstep
    exact host.sha.not_mem (by decide) _
  | step _ _ hreached _ hnot hstep =>
    rw [(step_cache hreached.cache_none hnot hstep).2]
    exact host.sha.not_mem (by decide) _

/-- The key of a base image is no key of an instruction: nothing that is hashed for it has a line break. -/
theorem base_key_ne (h : stepFrom host input image run = .ok run') : run'.chainKey ≠ nextKey host other run₂ i := by
  obtain ⟨_, _, _, _, _, hfrom, -, rfl⟩ := stepFrom_ok h
  obtain ⟨_, _, -, -, -, hids⟩ := handleFrom_ok hfrom
  obtain ⟨tars, -, rfl⟩ := mapM_computeDiffId hids
  intro hkey
  have htext := congrArg String.toList (utf8_injective (host.sha.injective hkey))
  refine newline_not_mem_join (l := tars.map host.sha.digest) (fun s hs => ?_) ?_
  · obtain ⟨tar, -, rfl⟩ := mem_map.1 hs
    exact host.sha.not_mem (by decide) tar
  · rw [htext]
    simp

/-- **A key tells the files.** Two runs without the cache with the same key, of builds that keys can tell apart, have
the same rootfs, environment, working directory and shell. -/
theorem files_eq_of_key (hplain : Plain host input) (hplain' : Plain host other)
    (hcompatible : Compatible host input other) (hreached : Reached host input run)
    (hreached' : Reached host other run') (hkey : run.chainKey = run'.chainKey) : SameFiles run run' := by
  -- the keys before are the same, so the files were: the induction is on the first run
  induction hreached generalizing run' with
  | base _ _ _ hrootfs hworkdir hshell _ hstep =>
    cases hreached' with
    | base _ _ _ hrootfs' hworkdir' hshell' _ hstep' =>
      exact base_sameFiles hplain hcompatible (hrootfs.trans hrootfs'.symm) (hworkdir.trans hworkdir'.symm)
        (hshell.trans hshell'.symm) hstep hstep' hkey
    | step _ _ hprev' _ hnot' hstep' =>
      rw [(step_cache hprev'.cache_none hnot' hstep').2] at hkey
      exact absurd hkey (base_key_ne hstep)
  | step _ i hprev hi hnot hstep ih =>
    rw [(step_cache hprev.cache_none hnot hstep).2] at hkey
    cases hreached' with
    | base _ _ _ _ _ _ _ hstep' =>
      exact absurd hkey.symm (base_key_ne hstep')
    | step _ j hprev' hj hnot' hstep' =>
      rw [(step_cache hprev'.cache_none hnot' hstep').2] at hkey
      obtain ⟨hbefore, hsame⟩ := nextKey_injective hplain hplain' hi hj hprev.newline_not_mem
        hprev'.newline_not_mem hkey
      have hfiles := ih hprev' hbefore
      have hunaffected (hi₀ : i.affectsFiles = false) (hj₀ : j.affectsFiles = false) :=
        ((step_of_not_affects hi₀ hprev.cache_none hnot hstep).trans hfiles).trans
          (step_of_not_affects hj₀ hprev'.cache_none hnot' hstep').symm
      rcases hsame with ⟨hi₀, hj₀⟩ | ⟨htext, hhash⟩
      · exact hunaffected hi₀ hj₀
      · rcases hcompatible.text i hi j hj htext with rfl | ⟨hi₀, hj₀⟩
        · exact step_sameFiles hplain hplain' hcompatible hi hj hnot hhash hfiles hprev.cache_none
            hprev'.cache_none hstep hstep'
        · exact hunaffected hi₀ hj₀

end A3sBox.Build
