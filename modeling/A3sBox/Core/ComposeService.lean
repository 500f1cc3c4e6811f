import A3sBox.Cli.Options
import A3sBox.Runtime.Compose

/-!
# The services of a compose file

`core/src/compose.rs`: all that a compose file says about a service, and its short forms. Versions and volumes are
read by nothing; of a network only the name is.
-/

namespace A3sBox.Compose

open Text Slices Boxes

/-- A text, or a list of texts. -/
inductive StringOrList where
  | empty
  /-- `command: "echo hello"`. -/
  | single (s : String)
  /-- `command: ["echo", "hello"]`. -/
  | list (v : List String)
  deriving DecidableEq, Repr

/-- The texts; a single text is split into words. -/
def StringOrList.toVec : StringOrList → List String
  | .empty => []
  | .single s => (splitWhitespace s.toList).map String.ofList
  | .list v => v

/-- Environment variables. -/
inductive EnvVars where
  | empty
  /-- `environment: { KEY: value }`. -/
  | map (m : TextMap)
  /-- `environment: ["KEY=value"]`. -/
  | list (v : List String)

/-- The variables and their values; an entry without `=` is skipped. -/
def EnvVars.toPairs : EnvVars → List (String × String)
  | .empty => []
  | .map m => m.entries.map fun var => (var.1, var.2)
  | .list v =>
    v.filterMap fun s => (splitOnce '=' s.toList).map fun var => (String.ofList var.1, String.ofList var.2)

/-- The networks of a service. -/
inductive ServiceNetworks where
  | empty
  /-- `networks: [frontend, backend]`. -/
  | list (v : List String)
  | map (m : AList fun _ : String => Unit)

/-- The names of the networks. -/
def ServiceNetworks.names : ServiceNetworks → List String
  | .empty => []
  | .list v => v
  | .map m => m.keys

/-- The labels of a service. -/
inductive Labels where
  | empty
  | map (m : TextMap)
  /-- As a list of entries `key=value`. -/
  | list (v : List String)

/-- The labels and their values. -/
def Labels.toMap : Labels → TextMap
  | .empty => ∅
  | .map m => m
  | .list v =>
    collect (v.map fun entry =>
      let label := (splitOnce '=' entry.toList).getD (entry.toList, [])
      (String.ofList label.1, String.ofList label.2))

/-- The DNS servers of a service. -/
inductive DnsConfig where
  | empty
  | single (s : String)
  | list (v : List String)
  deriving DecidableEq, Repr

/-- The servers. -/
def DnsConfig.toVec : DnsConfig → List String
  | .empty => []
  | .single s => [s]
  | .list v => v

/-- The health check of a service. -/
structure HealthcheckConfig where
  test : StringOrList := .empty
  disable : Bool := false
  interval : Option String := none
  timeout : Option String := none
  retries : Option UInt32 := none
  startPeriod : Option String := none
  deriving DecidableEq, Repr

/-- A service, with all that is said about it; the values given here are the defaults. -/
structure Service extends ServiceConfig where
  entrypoint : Option StringOrList := none
  command : Option StringOrList := none
  environment : EnvVars := .empty
  envFile : StringOrList := .empty
  volumes : List String := []
  networks : ServiceNetworks := .empty
  cpus : Option UInt32 := none
  memLimit : Option String := none
  restart : Option String := none
  dns : DnsConfig := .empty
  tmpfs : StringOrList := .empty
  capAdd : List String := []
  capDrop : List String := []
  privileged : Bool := false
  labels : Labels := .empty
  healthcheck : Option HealthcheckConfig := none
  workingDir : Option String := none
  hostname : Option String := none
  extraHosts : StringOrList := .empty

/-- A compose file. -/
structure ComposeFile where
  services : AList fun _ : String => Service
  networks : List String

/-- What the order of the services depends on. -/
def ComposeFile.config (file : ComposeFile) : ComposeConfig where
  services :=
    { entries := file.services.entries.map fun service => ⟨service.1, service.2.toServiceConfig⟩
      nodupKeys := by
        have hkeys : (file.services.entries.map fun service =>
            (⟨service.1, service.2.toServiceConfig⟩ : (_ : String) × ServiceConfig)).keys =
              file.services.entries.keys := by
          simp [List.keys]
        rw [List.NodupKeys, hkeys]
        exact file.services.nodupKeys }

/-- A project, as `compose up` uses it. -/
structure Project where
  name : String
  file : ComposeFile
  serviceOrder : List String
  /-- The directory that relative paths are resolved in. -/
  baseDir : String

/-- The project of a file. -/
def ComposeFile.project (name : String) (file : ComposeFile) (baseDir : String) (fuel : ℕ) :
    Option (Except BoxError Project) :=
  (withBaseDir name file.config baseDir fuel).map fun made =>
    made.map fun project => ⟨project.name, file, project.serviceOrder, project.baseDir⟩

end A3sBox.Compose
