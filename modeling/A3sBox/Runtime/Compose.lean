import A3sBox.Core.Compose
import A3sBox.Core.Port

/-!
# Compose projects

`runtime/src/compose.rs`: a project is made from a compose file once every
service has been validated and the services have been put in order
(`with_base_dir`). Services are started in that order and stopped in the reverse
order (`shutdown_order`).
-/

namespace A3sBox.Compose

open PostOrder Port

/-- A running compose project. -/
structure ComposeProject where
  name : String
  config : ComposeConfig
  serviceOrder : List String
  serviceBoxes : AList fun _ : String => String
  networks : List String
  /-- The directory that relative paths are resolved in. -/
  baseDir : String

/-- Whether every condition of a `depends_on` is one the program supports. -/
def validateDependsOnConditions (serviceName : String) : DependsOn → Except BoxError Unit
  | .empty => .ok ()
  | .list _ => .ok ()
  | .map m => m.entries.forM fun ⟨depName, cond⟩ =>
      if cond.condition ∈ ["service_started", "service_healthy", "service_completed_successfully"] then .ok ()
      else .error (.configError s!"Service '{serviceName}' depends on '{depName}' with unsupported condition '{cond.condition}' (supported: service_started, service_healthy, service_completed_successfully)")

/-- Whether a service has an image, valid ports and supported conditions. -/
def validateService (svcName : String) (svc : ServiceConfig) : Except BoxError Unit :=
  match svc.image with
  | none => .error (.configError s!"Service '{svcName}' has no image specified")
  | some _ =>
    match normalizePortMaps svc.ports with
    | .error e => .error (.configError s!"Service '{svcName}' has invalid port mapping: {e}")
    | .ok _ => validateDependsOnConditions svcName svc.dependsOn

/-- Make a project: validate the services, then put them in order. -/
def withBaseDir (name : String) (config : ComposeConfig) (baseDir : String) (fuel : ℕ) :
    Option (Except BoxError ComposeProject) :=
  match config.services.entries.forM fun e => validateService e.1 e.2 with
  | .error e => some (.error e)
  | .ok () =>
    (A3sBox.Compose.serviceOrder config fuel).map fun
      | .error e => .error (.configError s!"Invalid compose config: {e}")
      | .ok order => .ok ⟨name, config, order, ∅, [], baseDir⟩

/-- The order in which services are stopped. -/
def ComposeProject.shutdownOrder (p : ComposeProject) : List String := p.serviceOrder.reverse

theorem withBaseDir_ok {name baseDir cfg fuel p} (h : withBaseDir name cfg baseDir fuel = some (.ok p)) :
    p.config = cfg ∧ A3sBox.Compose.serviceOrder cfg fuel = some (.ok p.serviceOrder) := by
  unfold withBaseDir at h
  cases hv : cfg.services.entries.forM fun e => validateService e.1 e.2 with
  | error =>
    rw [hv] at h
    cases h
  | ok =>
    rw [hv] at h
    obtain ⟨r, hr, hp⟩ := Option.map_eq_some_iff.mp h
    cases r with
    | error => cases hp
    | ok =>
      cases hp
      exact ⟨rfl, hr⟩

/-- **The order of the services.** For every compose file, iterated in any order, the search has one result: an order
exactly if every dependency is defined and there is no cycle, with every service once and after its dependencies. A
project starts its services in that order and stops them in its reverse. -/
theorem service_order_correct (cfg : ComposeConfig) :
    ∃ r, (∀ fuel, cfg.services.keys.length < fuel → serviceOrder cfg fuel = some r) ∧
      ((∃ order, r = .ok order) ↔ DepsDefined cfg ∧ Acyclic (Depends cfg)) ∧
      (∀ order, r = .ok order → order.Perm cfg.services.keys ∧ ∀ a b, Depends cfg a b → Precedes order b a) ∧
      ∀ name baseDir fuel p, cfg.services.keys.length < fuel →
        withBaseDir name cfg baseDir fuel = some (.ok p) →
        r = .ok p.serviceOrder ∧ p.shutdownOrder = p.serviceOrder.reverse ∧
          ∀ a b, Depends cfg a b → Precedes p.shutdownOrder a b := by
  obtain ⟨r, hfuel, hiff, hord⟩ := serviceOrder_total cfg
  refine ⟨r, hfuel, hiff, fun order ho => ⟨(hord order ho).perm, (hord order ho).precedes⟩, ?_⟩
  intro name baseDir fuel p hf hp
  have hr : r = .ok p.serviceOrder := Option.some.inj ((hfuel fuel hf).symm.trans (withBaseDir_ok hp).2)
  exact ⟨hr, rfl, fun a b hab => precedes_reverse.mpr ((hord _ hr).precedes a b hab)⟩

end A3sBox.Compose
