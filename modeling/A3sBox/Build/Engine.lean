import A3sBox.Build.Source

/-!
# The build engine

`runtime/src/oci/build/engine/mod.rs`: a Dockerfile is run stage by stage. RUN, COPY and ADD make a layer each, the
other instructions change the configuration. With the cache, a layer that was made under the same key is extracted,
until the first of the stage that is not found.

## The model

A rootfs is of any type `R`, and what happens on disk is a parameter (`Host`), which is given the time that goes into
the layers. What a build reads is an `Input`. `HashMap`s are association lists, gone through in some `order`. The time
of creation, the platform and the tag are left out.

`stages_partition`: the stages are the file, each with one FROM, and `--from` names a completed one.
-/

namespace A3sBox.Build

open Text

/-! ### State -/

/-- A health check of an image. -/
structure OciHealthCheck where
  test : List String
  interval : Option ℕ
  timeout : Option ℕ
  retries : Option ℕ
  startPeriod : Option ℕ
  deriving DecidableEq, Repr

/-- An entry of the history. -/
structure HistoryEntry where
  createdBy : String
  emptyLayer : Bool
  deriving DecidableEq, Repr

/-- A map from strings to strings. -/
abbrev StringMap := AList fun _ : String => String

/-- What is collected in a stage. -/
structure BuildState where
  workdir : String
  env : List (String × String)
  entrypoint : Option (List String)
  cmd : Option (List String)
  user : Option String
  exposedPorts : List String
  labels : StringMap
  layers : List LayerInfo
  /-- Their hashes without compression. -/
  diffIds : List String
  history : List HistoryEntry
  buildArgs : StringMap
  declaredArgs : List String
  shell : List String
  stopSignal : Option String
  healthCheck : Option OciHealthCheck
  onbuild : List String
  volumes : List String

/-- The configuration of an image. -/
structure OciImageConfig where
  entrypoint : Option (List String)
  cmd : Option (List String)
  env : List (String × String)
  workingDir : Option String
  user : Option String
  exposedPorts : List String
  labels : StringMap
  volumes : List String
  stopSignal : Option String
  healthCheck : Option OciHealthCheck
  onbuild : List String

/-- The configuration of no image. -/
def scratchConfig : OciImageConfig where
  entrypoint := none
  cmd := none
  env := []
  workingDir := none
  user := none
  exposedPorts := []
  labels := ∅
  volumes := []
  stopSignal := none
  healthCheck := none
  onbuild := []

/-- An image: the files of its layers, and its configuration. -/
structure OciImage where
  layers : List (List UInt8)
  config : OciImageConfig

/-- The state at the beginning of a stage. -/
def BuildState.new (buildArgs : StringMap) : BuildState where
  workdir := "/"
  env := []
  entrypoint := none
  cmd := none
  user := none
  exposedPorts := []
  labels := ∅
  layers := []
  diffIds := []
  history := []
  buildArgs := buildArgs
  declaredArgs := []
  shell := ["/bin/sh", "-c"]
  stopSignal := none
  healthCheck := none
  onbuild := []
  volumes := []

variable (state : BuildState)

/-- Add an entry to the history. -/
def BuildState.record (createdBy : String) (emptyLayer : Bool) : BuildState :=
  { state with history := state.history ++ [⟨createdBy, emptyLayer⟩] }

/-- Add a layer. -/
def BuildState.push (layer : LayerInfo) (diffId : String) : BuildState :=
  { state with layers := state.layers ++ [layer], diffIds := state.diffIds ++ [diffId] }

/-- Set a variable of the environment: in its place, or at the end. -/
def setEnv (env : List (String × String)) (key value : String) : List (String × String) :=
  if env.any fun pair => pair.1 == key then env.map fun pair => if pair.1 = key then (key, value) else pair
  else env ++ [(key, value)]

/-- Append what is not there yet. -/
def addNew (all : List String) (more : List String) : List String :=
  more.foldl (fun all x => if x ∈ all then all else all ++ [x]) all

/-- Set labels one after the other. -/
def setLabels (labels : StringMap) (more : List (String × String)) : StringMap :=
  more.foldl (fun labels pair => labels.insert pair.1 pair.2) labels

/-! ### Variables -/

/-- Replace a text wherever it is found, from the left; `skip` characters belong to one that was found. -/
def replaceFrom (pattern value : List Char) : ℕ → List Char → List Char
  | _, [] => []
  | skip + 1, _ :: cs => replaceFrom pattern value skip cs
  | 0, c :: cs =>
    if pattern.isPrefixOf (c :: cs) then value ++ replaceFrom pattern value (pattern.length - 1) cs
    else c :: replaceFrom pattern value 0 cs

/-- Replace `${NAME}` and `$NAME`, one variable after the other. -/
def expandArgs (s : String) (args : List (String × String)) : String :=
  String.ofList (args.foldl (fun text (name, value) =>
    replaceFrom ('$' :: name.toList) value.toList 0
      (replaceFrom ('$' :: '\x7b' :: name.toList ++ ['\x7d']) value.toList 0 text)) s.toList)

/-- A path, from the working directory. -/
def resolvePath (workdir path : String) : String :=
  if path.toList.head? = some '/' then path
  else String.ofList (workdir.toList.reverse.dropWhile (· == '/')).reverse ++ "/" ++ path

/-- The entries of a map. -/
def pairs (m : StringMap) : List (String × String) := m.entries.map fun entry => (entry.1, entry.2)

/-- The build arguments that ARG declares. -/
def BuildState.declaredBuildArgs : List (String × String) :=
  (pairs state.buildArgs).filter fun pair => pair.1 ∈ state.declaredArgs

/-- The variables: declared arguments, and over them the environment. -/
def BuildState.expansionVars : List (String × String) :=
  state.env.foldl (fun vars pair => setEnv vars pair.1 pair.2) state.declaredBuildArgs

/-- Declare an argument, with its default unless it is given. -/
def BuildState.declareArg (name : String) (default : Option String) : BuildState :=
  { state with
    declaredArgs := name :: state.declaredArgs
    buildArgs :=
      match state.buildArgs.lookup name, default with
      | none, some value => state.buildArgs.insert name value
      | _, _ => state.buildArgs }

/-! ### What the engine runs on -/

/-- What happens on disk, where a rootfs is an `R`. -/
structure Host (R : Type) where
  sha : Sha256
  newRootfs : R
  /-- `create_dir_all` of a path in the rootfs; a failure is ignored. -/
  createDirAll : R → String → R
  /-- What a layer is without its compression, if that is gzip. -/
  gunzip : List UInt8 → Option (List UInt8)
  unpack : List UInt8 → R → Except BoxError R
  extractOther : List UInt8 → R → Except BoxError R
  /-- `handle_run`, at a time: the rootfs, and the file of the layer if anything changed. -/
  run : ℕ → String → String → List (String × String) → List String → R → Except BoxError (R × Option (List UInt8))
  /-- What `handle_copy`, or else `handle_add`, does with the sources at a time: put them into the rootfs, from a
  working directory at a destination, for an owner. The rootfs, and the file of the layer. -/
  place : ℕ → Bool → Except BoxError (List (Except BoxError Source)) → String → String → Option String → R →
    Except BoxError (R × List UInt8)
  view : R → Context
  glob : Glob
  /-- The paths that the text of a `.dockerignore` excludes. -/
  parseIgnore : List UInt8 → Ignore
  parseInstruction : String → Except BoxError Instruction

/-- What a build reads. -/
structure Input where
  instructions : List Instruction
  fromFirst : ∃ args rest image stage, instructions = args ++ .fromImage image stage :: rest ∧
    ∀ i ∈ args, ∃ name default, i = .arg name default
  buildArgs : StringMap
  target : Option String
  context : Context
  contextPath : String
  pull : String → Except BoxError OciImage
  download : String → Except String (List UInt8)
  now : ℕ
  /-- The order in which this process goes through a map. -/
  order : List (String × String) → List (String × String)
  /-- How much the cache may hold. -/
  maxBytes : ℕ

variable {R : Type} (host : Host R)

/-- Unpack a compressed layer. -/
def Host.extract (blob : List UInt8) (rootfs : R) : Except BoxError R :=
  match host.gunzip blob with
  | some tar => host.unpack tar rootfs
  | none => host.extractOther blob rootfs

/-- The hash of a layer without its compression. -/
def Host.computeDiffId (blob : List UInt8) : Except BoxError String :=
  match host.gunzip blob with
  | some tar => .ok (host.sha.digest tar)
  | none => .error (.buildError "Failed to decompress layer for diff_id: invalid gzip header")

/-- What is noted of a layer. -/
def Host.layerInfo (blob : List UInt8) : LayerInfo := ⟨blob, host.sha.digest blob, blob.length⟩

/-! ### One instruction -/

/-- A stage that is being run. -/
structure StageRun (R : Type) where
  rootfs : R
  state : BuildState
  baseLayers : List LayerInfo
  /-- Their hashes without compression. -/
  baseDiffIds : List String
  chainKey : String
  /-- Whether every layer of the stage so far was found. -/
  cacheValid : Bool
  cache : Option BuildCache

variable (input : Input) (state : BuildState)

/-- The text of an instruction in a key: with its variables replaced, where it is an ENV or an ARG. -/
def instructionRepr : Instruction → String
  | .env vars => "ENV " ++ joinPairs (vars.map fun (k, v) => (k, expandArgs v (input.order state.expansionVars)))
  | .arg name default => "ARG " ++ name ++ "=" ++ (((state.buildArgs.lookup name).or default).getD "")
  | other => instructionToString other

/-- The hash of what an instruction copies from the context. -/
def inputHash : Instruction → Option String
  | .copy src _ none _ => hashContextSources host.sha input.context src
  | .add src _ _ => hashContextSources host.sha input.context src
  | _ => none

variable (run : StageRun R)

/-- The key of the layer of an instruction. -/
def nextKey (instruction : Instruction) : String :=
  chain host.sha run.chainKey (instructionRepr input run.state instruction) (inputHash host input instruction)

/-- Take over the configuration of the base image. -/
def applyBaseConfig (config : OciImageConfig) : BuildState :=
  { state with
    env := config.env
    entrypoint := config.entrypoint
    cmd := config.cmd
    user := config.user
    exposedPorts := config.exposedPorts
    labels := config.labels
    workdir := config.workingDir.getD state.workdir
    stopSignal := config.stopSignal.or state.stopSignal
    healthCheck := config.healthCheck.or state.healthCheck
    volumes := addNew state.volumes config.volumes }

/-- Set variables one after the other, each with what is set before it. -/
def setVars (expand : List (String × String) → String → String) (env : List (String × String)) :
    List (String × String) → List (String × String)
  | [] => env
  | (key, value) :: rest => setVars expand (setEnv env key (expand env value)) rest

/-- Execute a trigger of the base image. -/
def executeOnbuildTrigger (trigger : String) : Except BoxError BuildState := do
  let state ← match ← host.parseInstruction trigger with
    | .env vars =>
      .ok { state with
        env := setVars (fun _ value => expandArgs value (input.order (pairs state.buildArgs))) state.env vars }
    | .label labels => .ok { state with labels := setLabels state.labels labels }
    | .workdir path => .ok { state with workdir := resolvePath state.workdir path }
    | .expose ports => .ok { state with exposedPorts := addNew state.exposedPorts ports }
    | .user user => .ok { state with user := some user }
    | _ => .error (.buildError
        s!"ONBUILD trigger '{trigger}' is not supported yet because it requires build execution context")
  .ok (state.record ("ONBUILD " ++ trigger) true)

/-- Extract layers one after the other. -/
def Host.extractAll (host : Host R) : List (List UInt8) → R → Except BoxError R
  | [], rootfs => .ok rootfs
  | blob :: rest, rootfs => do host.extractAll rest (← host.extract blob rootfs)

/-- FROM: the rootfs, the layers and the configuration of the base image. -/
def handleFrom (image : String) (run : StageRun R) :
    Except BoxError (R × List LayerInfo × List String × OciImageConfig) :=
  let imageRef := expandArgs image (input.order run.state.declaredBuildArgs)
  if imageRef = "scratch" then .ok (run.rootfs, [], [], scratchConfig)
  else do
    let base ← input.pull imageRef
    let rootfs ← host.extractAll base.layers run.rootfs
    let diffIds ← base.layers.mapM host.computeDiffId
    .ok (rootfs, base.layers.map host.layerInfo, diffIds, base.config)

/-- FROM, in a stage. The key starts again from the layers of the base image. -/
def stepFrom (image : String) (run : StageRun R) : Except BoxError (StageRun R) := do
  let (rootfs, baseLayers, baseDiffIds, config) ← handleFrom host input image run
  let state ← config.onbuild.foldlM (executeOnbuildTrigger host input) (applyBaseConfig run.state config)
  .ok
    { run with
      rootfs, baseLayers, baseDiffIds
      chainKey := host.sha.digest (utf8 (join "," baseDiffIds))
      cacheValid := true
      state := state.record ("FROM " ++ image) true }

/-- Look for the layer of an instruction in the cache, and extract it. -/
def tryReuseCachedLayer (createdBy : String) : Except BoxError (Option (StageRun R)) :=
  if run.cacheValid then
    match run.cache.bind fun cache => cache.lookup run.chainKey with
    | none => .ok none
    | some cached => do
      let rootfs ← host.extract cached.blob run.rootfs
      .ok (some { run with
        rootfs
        state := (run.state.push ⟨cached.blob, cached.digest, cached.size⟩ cached.diffId).record createdBy false })
  else .ok none

/-- Make the layer of an instruction, and store it. -/
def makeLayer (createdBy : String)
    (made : Except BoxError (R × Option (List UInt8))) : Except BoxError (StageRun R) := do
  match ← made with
  | (rootfs, none) => .ok { run with rootfs, cacheValid := false, state := run.state.record createdBy true }
  | (rootfs, some blob) =>
    let layer := host.layerInfo blob
    let diffId ← host.computeDiffId blob
    .ok { run with
      rootfs
      cacheValid := false
      cache := run.cache.map fun cache => cache.store input.maxBytes run.chainKey layer diffId
      state := (run.state.push layer diffId).record createdBy false }

/-- The rootfs of a stage: by its name, or by its number. -/
def resolveStageRootfs (fromRef : String) (completed : List (Option String × R)) : Option R :=
  match completed.find? fun stage => stage.1 == some fromRef with
  | some stage => some stage.2
  | none =>
    match parseInt (2 ^ 64 - 1) fromRef.toList with
    | .ok n => completed[n]?.map Prod.snd
    | .error _ => none

/-- The rootfs that `COPY --from` copies from: that of a stage, or that of an image. -/
def copyRootfs (fromRef : String) (completed : List (Option String × R)) : Except BoxError R :=
  match resolveStageRootfs fromRef completed with
  | some rootfs => .ok rootfs
  | none =>
    match input.pull fromRef with
    | .error e =>
      let message := e.toText
      .error (.buildError s!"COPY --from={fromRef}: not a build stage and could not be pulled as an image: {message}")
    | .ok image => host.extractAll image.layers host.newRootfs

/-- The `.dockerignore` of a context. One that cannot be read excludes nothing. -/
def Host.loadIgnore (context : Context) : Ignore :=
  match context.read [".dockerignore"] with
  | some text => host.parseIgnore text
  | none => fun _ => false

/-- The build context as the place to copy from. -/
def Input.root : SourceRoot := ⟨input.context, input.contextPath, some (host.loadIgnore input.context)⟩

/-- What an instruction that makes a layer does to the rootfs: nothing is made by the others. -/
def execute (completed : List (Option String × R)) (state : BuildState) (rootfs : R) :
    Instruction → Option (Except BoxError (R × Option (List UInt8)))
  | .run command => some (host.run input.now command state.workdir state.env state.shell rootfs)
  | .copy src dst none chown =>
    let sources := copySources host.glob (input.root host) src
    some ((host.place input.now false sources state.workdir dst chown rootfs).map fun (r, blob) => (r, some blob))
  | .copy src dst (some fromRef) chown => some do
    let source ← copyRootfs host input fromRef completed
    let sources := copySources host.glob ⟨host.view source, fromRef, none⟩ src
    let (r, blob) ← host.place input.now false sources state.workdir dst chown rootfs
    .ok (r, some blob)
  | .add src dst chown =>
    let sources := addSources host.glob (input.root host) input.download src
    some ((host.place input.now true sources state.workdir dst chown rootfs).map fun (r, blob) => (r, some blob))
  | _ => none

/-- The history of an instruction whose layer was found. -/
def cachedText : Instruction → String
  | .copy src dst (some fromRef) _ => "COPY --from=" ++ fromRef ++ " " ++ join " " src ++ " " ++ dst
  | .copy src dst none (some owner) => "COPY --chown=" ++ owner ++ " " ++ join " " src ++ " " ++ dst
  | .copy src dst none none => "COPY " ++ join " " src ++ " " ++ dst
  | .add src dst _ => "ADD " ++ join " " src ++ " " ++ dst
  | other => instructionToString other

/-- The history of an instruction whose layer was made. -/
def madeText : Instruction → String
  | .copy src dst (some fromRef) _ => "COPY --from=" ++ fromRef ++ " " ++ join " " src ++ " " ++ dst
  | .copy src dst none _ => "COPY " ++ join " " src ++ " " ++ dst
  | .add src dst _ => "ADD " ++ join " " src ++ " " ++ dst
  | other => instructionToString other

/-- The state after an instruction that makes no layer. -/
def configure : Instruction → BuildState
  | .workdir path =>
    let expanded := expandArgs path (input.order state.expansionVars)
    { state with workdir := resolvePath state.workdir expanded }.record ("WORKDIR " ++ path) true
  | .env vars =>
    { state with
      env := setVars (fun env value => expandArgs value (input.order { state with env }.expansionVars)) state.env vars
    }.record ("ENV " ++ joinPairs vars) true
  | .entrypoint exec => { state with entrypoint := some exec }.record ("ENTRYPOINT " ++ debugList exec) true
  | .cmd exec => { state with cmd := some exec }.record ("CMD " ++ debugList exec) true
  | .expose ports =>
    { state with exposedPorts := addNew state.exposedPorts ports }.record ("EXPOSE " ++ join " " ports) true
  | .label labels =>
    { state with labels := setLabels state.labels labels }.record
      ("LABEL " ++ joinPairs labels) true
  | .user user => { state with user := some user }.record ("USER " ++ user) true
  | .arg name default => (state.declareArg name default).record ("ARG " ++ name) true
  | .shell exec => { state with shell := exec }.record ("SHELL " ++ debugList exec) true
  | .stopSignal signal => { state with stopSignal := some signal }.record ("STOPSIGNAL " ++ signal) true
  | .healthCheck cmd interval timeout retries startPeriod =>
    { state with healthCheck := cmd.map fun test => ⟨test, interval, timeout, retries, startPeriod⟩ }.record
      (if cmd.isSome then "HEALTHCHECK CMD ..." else "HEALTHCHECK NONE") true
  | .onBuild instruction =>
    { state with onbuild := state.onbuild ++ [instructionToString instruction] }.record
      ("ONBUILD " ++ instructionToString instruction) true
  | .volume paths =>
    { state with volumes := addNew state.volumes paths }.record ("VOLUME " ++ join " " paths) true
  | _ => state

/-- The rootfs after an instruction that makes no layer: WORKDIR and VOLUME create directories. -/
def createDirs (state : BuildState) (rootfs : R) : Instruction → R
  | .workdir _ => host.createDirAll rootfs (trimSlashes state.workdir)
  | .volume paths => paths.foldl (fun rootfs path => host.createDirAll rootfs (trimSlashes path)) rootfs
  | _ => rootfs

/-- Run an instruction. -/
def step (completed : List (Option String × R)) (run : StageRun R)
    (instruction : Instruction) : Except BoxError (StageRun R) :=
  match instruction with
  | .fromImage image _ => stepFrom host input image run
  | _ =>
    let run := { run with chainKey := nextKey host input run instruction }
    match execute host input completed run.state run.rootfs instruction with
    | some made => do
      match ← tryReuseCachedLayer host run (cachedText instruction) with
      | some reused => .ok reused
      | none => makeLayer host input run (madeText instruction) made
    | none =>
      let state := configure input run.state instruction
      .ok { run with state, rootfs := createDirs host state run.rootfs instruction }

/-! ### Stages -/

/-- A stage: the name it has, and its instructions. -/
structure BuildStage where
  alias_ : Option String
  instructions : List Instruction
  deriving DecidableEq, Repr

/-- Split what comes after `current`, the stage that is being read; `preFrom` is what comes before the first FROM. -/
def splitAfter : List Instruction → Option BuildStage → List Instruction → List BuildStage
  | _, current, [] => current.toList
  | preFrom, current, .fromImage image stage :: rest =>
    current.toList ++ splitAfter [] (some ⟨stage, preFrom ++ [.fromImage image stage]⟩) rest
  | preFrom, some stage, i :: rest =>
    splitAfter preFrom (some { stage with instructions := stage.instructions ++ [i] }) rest
  | preFrom, none, i :: rest => splitAfter (preFrom ++ [i]) none rest

/-- The stages of a file. -/
def splitIntoStages (instructions : List Instruction) : List BuildStage := splitAfter [] none instructions

/-- The arguments that are declared before the first FROM. -/
def globalArgDecls : List Instruction → List (String × Option String)
  | [] => []
  | .fromImage _ _ :: _ => []
  | .arg name default :: rest => (name, default) :: globalArgDecls rest
  | _ :: rest => globalArgDecls rest

/-- The stage that is built: by its name or its number, or the last. -/
def outputStage (stages : List BuildStage) : Option String → Except BoxError ℕ
  | none => .ok (stages.length - 1)
  | some target =>
    match stages.findIdx? fun stage => stage.alias_ == some target with
    | some i => .ok i
    | none =>
      match parseInt (2 ^ 64 - 1) target.toList with
      | .ok i =>
        if i < stages.length then .ok i
        else .error (.buildError s!"target build stage '{target}' not found")
      | .error _ => .error (.buildError s!"target build stage '{target}' not found")

/-- Run the instructions of a stage. An error comes with the cache as it is then. -/
def runInstructions (host : Host R) (input : Input) (completed : List (Option String × R)) :
    List Instruction → StageRun R → Except (BoxError × Option BuildCache) (StageRun R)
  | [], run => .ok run
  | i :: rest, run =>
    match step host input completed run i with
    | .error e => .error (e, run.cache)
    | .ok run' => runInstructions host input completed rest run'

/-- A stage at its beginning; what comes before the first FROM is declared in every stage but the first, which has it.
-/
def startStage (index : ℕ) (cache : Option BuildCache) : StageRun R where
  rootfs := host.newRootfs
  state :=
    if index > 0 then
      (globalArgDecls input.instructions).foldl (fun state arg => state.declareArg arg.1 arg.2)
        (BuildState.new input.buildArgs)
    else BuildState.new input.buildArgs
  baseLayers := []
  baseDiffIds := []
  chainKey := ""
  cacheValid := true
  cache := cache

/-- What the image configuration is written from. -/
structure BuildOutput where
  /-- The hashes of the layers without compression. -/
  diffIds : List String
  env : List String
  entrypoint : Option (List String)
  cmd : Option (List String)
  workdir : String
  user : Option String
  exposedPorts : List String
  labels : StringMap
  stopSignal : Option String
  healthCheck : Option OciHealthCheck
  onbuild : List String
  volumes : List String
  history : List HistoryEntry

/-- The image of the last stage. -/
def assembleImage : BuildOutput where
  diffIds := run.baseDiffIds ++ run.state.diffIds
  env := run.state.env.map fun pair => pair.1 ++ "=" ++ pair.2
  entrypoint := run.state.entrypoint
  cmd := run.state.cmd
  workdir := run.state.workdir
  user := run.state.user
  exposedPorts := run.state.exposedPorts
  labels := run.state.labels
  stopSignal := run.state.stopSignal
  healthCheck := run.state.healthCheck
  onbuild := run.state.onbuild
  volumes := run.state.volumes
  history := run.state.history

/-- Run the stages from number `index` on, up to number `output`. -/
def runStages (host : Host R) (input : Input) (output : ℕ) :
    List BuildStage → ℕ → List (Option String × R) → Option BuildCache → Except BoxError BuildOutput × Option BuildCache
  | [], _, _, cache => (.error (.buildError "no stage"), cache)
  | stage :: rest, index, completed, cache =>
    match runInstructions host input completed stage.instructions (startStage host input index cache) with
    | .error (e, cache) => (.error e, cache)
    | .ok run =>
      if index = output then (.ok (assembleImage run), run.cache)
      else runStages host input output rest (index + 1) (completed ++ [(stage.alias_, run.rootfs)]) run.cache

/-- Build an image; without a cache, every layer is made. The result, and the cache afterwards. -/
def build (cache : Option BuildCache) : Except BoxError BuildOutput × Option BuildCache :=
  let stages := splitIntoStages input.instructions
  match outputStage stages input.target with
  | .error e => (.error e, cache)
  | .ok output => runStages host input output stages 0 [] cache

/-! ### What the stages are -/

open List

/-- It starts a stage. -/
def Instruction.isFrom : Instruction → Bool
  | .fromImage _ _ => true
  | _ => false

/-- A stage that starts with its FROM and has no other. -/
def BuildStage.Whole (stage : BuildStage) : Prop :=
  ∃ image body, stage.instructions = .fromImage image stage.alias_ :: body ∧ ∀ i ∈ body, i.isFrom = false

/-- The instructions as stages: only the first has something before its FROM. -/
def Splits (instructions : List Instruction) (stages : List BuildStage) : Prop :=
  ∃ first others image body, stages = first :: others ∧ stages.flatMap BuildStage.instructions = instructions ∧
    first.instructions = instructions.takeWhile (!·.isFrom) ++ .fromImage image first.alias_ :: body ∧
    (∀ i ∈ body, i.isFrom = false) ∧ ∀ stage ∈ others, stage.Whole

variable {i : Instruction}

theorem splitAfter_cons (hi : i.isFrom = false) (stage : BuildStage) (preFrom rest : List Instruction) :
    splitAfter preFrom (some stage) (i :: rest) =
      splitAfter preFrom (some { stage with instructions := stage.instructions ++ [i] }) rest := by
  cases i with
  | fromImage => cases hi
  | _ => rfl

theorem splitAfter_none (hi : i.isFrom = false) (preFrom rest : List Instruction) :
    splitAfter preFrom none (i :: rest) = splitAfter (preFrom ++ [i]) none rest := by
  cases i with
  | fromImage => cases hi
  | _ => rfl

theorem exists_from (hi : i.isFrom = true) : ∃ image name, i = .fromImage image name := by
  cases i with
  | fromImage image name => exact ⟨image, name, rfl⟩
  | _ => cases hi

/-- The stage that is read takes what comes before the next FROM, and the others are whole. -/
theorem splitAfter_some (stage : BuildStage) (l : List Instruction) :
    ∃ body others, splitAfter [] (some stage) l = { stage with instructions := stage.instructions ++ body } :: others ∧
      (∀ i ∈ body, i.isFrom = false) ∧ body ++ others.flatMap BuildStage.instructions = l ∧
      ∀ other ∈ others, other.Whole := by
  induction l generalizing stage with
  | nil => exact ⟨[], [], by simp [splitAfter]⟩
  | cons i l ih =>
    rcases hi : i.isFrom with _ | _
    · obtain ⟨body, others, hsplit, hbody, hl, hothers⟩ := ih { stage with instructions := stage.instructions ++ [i] }
      refine ⟨i :: body, others, ?_, forall_mem_cons.mpr ⟨hi, hbody⟩, by rw [cons_append, hl], hothers⟩
      rw [splitAfter_cons hi, hsplit, append_assoc, singleton_append]
    · obtain ⟨image, name, rfl⟩ := exists_from hi
      obtain ⟨body, others, hsplit, hbody, hl, hothers⟩ := ih ⟨name, [.fromImage image name]⟩
      refine ⟨[], ⟨name, .fromImage image name :: body⟩ :: others, ?_, by simp, ?_, ?_⟩
      · rw [splitAfter, nil_append, hsplit, append_nil]
        rfl
      · rw [nil_append, flatMap_cons, cons_append, hl]
      · exact forall_mem_cons.mpr ⟨⟨image, body, rfl, hbody⟩, hothers⟩

/-- The instructions before the first FROM go into the first stage. -/
theorem splitAfter_first (preFrom : List Instruction) {l} (h : ∃ i ∈ l, i.isFrom = true) :
    ∃ image name rest, l = l.takeWhile (!·.isFrom) ++ .fromImage image name :: rest ∧
      splitAfter preFrom none l =
        splitAfter [] (some ⟨name, preFrom ++ l.takeWhile (!·.isFrom) ++ [.fromImage image name]⟩) rest := by
  induction l generalizing preFrom with
  | nil => simp at h
  | cons i l ih =>
    rcases hi : i.isFrom with _ | _
    · obtain ⟨image, name, rest, hl, hsplit⟩ := ih (preFrom ++ [i]) (by simpa [hi] using h)
      refine ⟨image, name, rest, ?_, ?_⟩
      · rw [takeWhile_cons_of_pos (by rw [hi]; rfl), cons_append, ← hl]
      · rw [takeWhile_cons_of_pos (by rw [hi]; rfl), splitAfter_none hi, hsplit, append_assoc preFrom, singleton_append]
    · obtain ⟨image, name, rfl⟩ := exists_from hi
      exact ⟨image, name, l, rfl, by simp [splitAfter, Instruction.isFrom]⟩

theorem stages_split (instructions) (h : ∃ i ∈ instructions, i.isFrom = true) :
    Splits instructions (splitIntoStages instructions) := by
  obtain ⟨image, name, rest, hfirst, hsplit⟩ := splitAfter_first [] h
  obtain ⟨body, others, hsome, hbody, hrest, hothers⟩ :=
    splitAfter_some ⟨name, instructions.takeWhile (!·.isFrom) ++ [.fromImage image name]⟩ rest
  have hstages := hsplit.trans hsome
  refine ⟨_, others, image, body, hstages, ?_, append_assoc .., hbody, hothers⟩
  rw [splitIntoStages, hstages, flatMap_cons, append_assoc, append_assoc, hrest, singleton_append, ← hfirst]

/-- **The stages of a file.** Together they are the file; each has one FROM, and only the first has something before it,
which is what comes before the first FROM of the file. What `--from` names is a completed stage, by its name or number.
-/
theorem stages_partition {R : Type} :
    (∀ instructions, (∃ i ∈ instructions, i.isFrom = true) → Splits instructions (splitIntoStages instructions)) ∧
    ∀ fromRef (completed : List (Option String × R)) rootfs, resolveStageRootfs fromRef completed = some rootfs →
      ∃ i stage, completed[i]? = some stage ∧ stage.2 = rootfs ∧
        (stage.1 = some fromRef ∨ parseInt (2 ^ 64 - 1) fromRef.toList = .ok i) := by
  refine ⟨stages_split, fun fromRef completed rootfs h => ?_⟩
  rw [resolveStageRootfs] at h
  split at h
  · next stage hfound =>
    cases h
    obtain ⟨i, hi⟩ := mem_iff_getElem?.mp (mem_of_find?_eq_some hfound)
    exact ⟨i, stage, hi, rfl, .inl (by simpa using find?_some hfound)⟩
  · split at h
    · next i hparse =>
      obtain ⟨stage, hstage, rfl⟩ := Option.map_eq_some_iff.mp h
      exact ⟨i, stage, hstage, rfl, .inr hparse⟩
    · cases h

/-- Two stages, with an argument before the first; the second copies from the first, by its name or its number. -/
theorem two_stages_split :
    Splits [.arg "V" none, .fromImage "golang" (some "build"), .run "make", .fromImage "alpine" none]
        (splitIntoStages [.arg "V" none, .fromImage "golang" (some "build"), .run "make", .fromImage "alpine" none]) ∧
      (splitIntoStages [.arg "V" none, .fromImage "golang" (some "build"), .run "make", .fromImage "alpine" none]).length
        = 2 ∧
      (∃ i stage, [(some "build", 7), (none, 8)][i]? = some stage ∧ stage.2 = 7 ∧
        (stage.1 = some "build" ∨ parseInt (2 ^ 64 - 1) "build".toList = .ok i)) ∧
      ∃ i stage, [(some "build", 7), (none, 8)][i]? = some stage ∧ stage.2 = 8 ∧
        (stage.1 = some "1" ∨ parseInt (2 ^ 64 - 1) "1".toList = .ok i) :=
  ⟨(@stages_partition ℕ).1 _ ⟨.fromImage "alpine" none, by simp, rfl⟩, rfl,
    (@stages_partition ℕ).2 "build" [(some "build", 7), (none, 8)] 7 rfl,
    (@stages_partition ℕ).2 "1" [(some "build", 7), (none, 8)] 8 (by decide +kernel)⟩

/-- A file that starts with a command: it is before the FROM of its stage. -/
theorem command_before_from :
    splitIntoStages [.run "make", .fromImage "alpine" none] = [⟨none, [.run "make", .fromImage "alpine" none]⟩] := rfl

end A3sBox.Build
