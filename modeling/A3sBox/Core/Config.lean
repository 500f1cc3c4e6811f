import Mathlib.Data.List.AList

/-!
# The configuration of a box

`core/src/config.rs`, with the network mode of `core/src/network.rs` and the log driver of `core/src/log.rs`. A map is
an association list, a path its text, `usize` is `ℕ`, and an `f64` is given by its bits.
-/

namespace A3sBox

/-- The generations of AMD SEV-SNP processors. -/
inductive SevSnpGeneration where
  /-- The third generation; the default. -/
  | milan
  | genoa
  deriving DecidableEq, Repr

/-- The trusted execution environment. -/
inductive TeeConfig where
  | none
  | sevSnp (workloadId : String) (generation : SevSnpGeneration) (simulate : Bool)
  | tdx (workloadId : String) (simulate : Bool)
  deriving DecidableEq, Repr

/-- The caches of root file systems and layers. -/
structure CacheConfig where
  enabled : Bool := true
  cacheDir : Option String := none
  /-- How many root file systems are kept. -/
  maxRootfsEntries : ℕ := 10
  maxCacheBytes : UInt64 := 10 * 1024 * 1024 * 1024
  deriving DecidableEq, Repr

/-- How a warm pool is scaled. -/
structure ScalingPolicy where
  enabled : Bool := false
  /-- The miss rate above which it grows: 0.3. -/
  scaleUpThreshold : UInt64 := 0x3FD3333333333333
  /-- The miss rate below which it shrinks: 0.05. -/
  scaleDownThreshold : UInt64 := 0x3FA999999999999A
  /-- The most it keeps idle; 0 for the size of the pool. -/
  maxMinIdle : ℕ := 0
  /-- The seconds between two decisions. -/
  cooldownSecs : UInt64 := 60
  /-- The seconds over which the miss rate is taken. -/
  windowSecs : UInt64 := 120
  deriving DecidableEq, Repr

/-- A warm pool. -/
structure PoolConfig where
  enabled : Bool := false
  minIdle : ℕ := 1
  maxSize : ℕ := 5
  /-- The seconds after which an idle machine is removed; 0 for never. -/
  idleTtlSecs : UInt64 := 300
  scaling : ScalingPolicy := {}
  deriving DecidableEq, Repr

/-- The resource limits of a box. -/
structure ResourceLimits where
  pidsLimit : Option UInt64 := none
  cpusetCpus : Option String := none
  ulimits : List String := []
  cpuShares : Option UInt64 := none
  /-- The time it may use in a period. -/
  cpuQuota : Option Int64 := none
  cpuPeriod : Option UInt64 := none
  memoryReservation : Option UInt64 := none
  memorySwap : Option Int64 := none
  deriving DecidableEq, Repr

/-- How a box is connected. -/
inductive NetworkMode where
  /-- Sockets are passed on; the default. -/
  | tsi
  | bridge (network : String)
  | none
  deriving DecidableEq, Repr

/-- A process that runs beside the container. -/
structure SidecarConfig where
  image : String
  vsockPort : UInt32
  env : List (String × String)
  deriving DecidableEq, Repr

/-- The resources of a box. -/
structure ResourceConfig where
  vcpus : UInt32 := 2
  memoryMb : UInt32 := 1024
  diskMb : UInt32 := 4096
  timeout : UInt64 := 3600
  deriving DecidableEq, Repr

/-- The log levels. -/
inductive LogLevel where
  | debug
  | info
  | warn
  | error
  deriving DecidableEq, Repr

/-- The log drivers. -/
inductive LogDriver where
  /-- A JSON line for each line; the default. -/
  | jsonFile
  | syslog
  | none
  deriving DecidableEq, Repr

/-- How a box is logged. -/
structure LogConfig where
  driver : LogDriver
  options : AList fun _ : String => String

/-- What a box is booted with; the values given here are the defaults. -/
structure BoxConfig where
  image : String := ""
  workspace : String := ""
  resources : ResourceConfig := {}
  logLevel : LogLevel := .info
  debugGrpc : Bool := false
  tee : TeeConfig := .none
  cmd : List String := []
  entrypointOverride : Option (List String) := none
  user : Option String := none
  workdir : Option String := none
  hostname : Option String := none
  volumes : List String := []
  extraEnv : List (String × String) := []
  cache : CacheConfig := {}
  pool : PoolConfig := {}
  portMap : List String := []
  dns : List String := []
  addHosts : List String := []
  network : NetworkMode := .tsi
  tmpfs : List String := []
  resourceLimits : ResourceLimits := {}
  /-- The capabilities it has beside the usual ones. -/
  capAdd : List String := []
  capDrop : List String := []
  securityOpt : List String := []
  sysctls : List (String × String) := []
  privileged : Bool := false
  readOnly : Bool := false
  sidecar : Option SidecarConfig := none
  persistent : Bool := false
  deriving DecidableEq, Repr

end A3sBox
