import A3sBox.Core.Error
import A3sBox.Library.PostOrder
import Mathlib.Data.List.AList

/-!
# The order of the services of a compose file

`core/src/compose.rs`: `service_order` puts every service after the services it depends on. A hash map is an
association list in the order in which it is iterated, which is any. `topoVisit` is the depth-first search of the
source, bounded by `fuel`; with more fuel than services it ends (`serviceOrder_total`). Of a service only the image,
the ports and `depends_on` are read here.
-/

namespace A3sBox.Compose

open Relation PostOrder List

/-! ### Compose files -/

/-- The condition of a `depends_on` entry. -/
structure DependsOnCondition where
  /-- `service_started`, `service_healthy` or `service_completed_successfully`. -/
  condition : String
  deriving DecidableEq, Repr

/-- `depends_on`, in its short and its long form. -/
inductive DependsOn where
  | empty
  /-- `depends_on: [db, redis]`. -/
  | list (v : List String)
  /-- `depends_on: { db: { condition: service_healthy } }`. -/
  | map (m : AList fun _ : String => DependsOnCondition)

/-- The services it names. -/
def DependsOn.services : DependsOn → List String
  | .empty => []
  | .list v => v
  | .map m => m.keys

/-- A service. -/
structure ServiceConfig where
  image : Option String
  ports : List String
  dependsOn : DependsOn

/-- A compose file: its services, by name. -/
structure ComposeConfig where
  services : AList fun _ : String => ServiceConfig

/-! ### The search -/

/-- How far the search has got with a service; a service without a mark is unvisited. -/
inductive Mark where
  /-- Its dependencies are being visited. -/
  | inProgress
  | done
  deriving DecidableEq, Repr

/-- What the search carries along. -/
structure Visit where
  state : String → Option Mark
  order : List String

/-- Nothing visited, nothing listed. -/
def Visit.start : Visit := ⟨fun _ => none, []⟩

/-- `state.insert(name, 1)`. -/
def Visit.enter (v : Visit) (name : String) : Visit :=
  { v with state := Function.update v.state name (some .inProgress) }

/-- `state.insert(name, 2)` and `order.push(name)`. -/
def Visit.leave (v : Visit) (name : String) : Visit :=
  ⟨Function.update v.state name (some .done), v.order ++ [name]⟩

/-- The loop of `topo_visit` over the dependencies of `name`, given the visit of one service. -/
def visitDeps (cfg : ComposeConfig) (visit : String → Visit → Option (Except String Visit)) (name : String) :
    List String → Visit → Option (Except String Visit)
  | [], v => some (.ok v)
  | dep :: deps, v =>
    if dep ∈ cfg.services then
      match visit dep v with
      | some (.ok v') => visitDeps cfg visit name deps v'
      | r => r
    else some (.error s!"Service '{name}' depends on '{dep}' which is not defined")

/-- The dependencies of a service, none if the service is not defined. -/
def depsOf (cfg : ComposeConfig) (name : String) : List String :=
  match cfg.services.lookup name with
  | some svc => svc.dependsOn.services
  | none => []

/-- Visit a service and, before listing it, its dependencies. -/
def topoVisit (cfg : ComposeConfig) : ℕ → String → Visit → Option (Except String Visit)
  | 0, _, _ => none
  | fuel + 1, name, v =>
    match v.state name with
    | some .inProgress => some (.error s!"Dependency cycle detected involving service '{name}'")
    | some .done => some (.ok v)
    | none =>
      match visitDeps cfg (topoVisit cfg fuel) name (depsOf cfg name) (v.enter name) with
      | some (.ok v') => some (.ok (v'.leave name))
      | r => r

/-- The loop of `service_order` over the services. -/
def visitAll (cfg : ComposeConfig) (fuel : ℕ) : List String → Visit → Option (Except String Visit)
  | [], v => some (.ok v)
  | name :: names, v =>
    if v.state name = none then
      match topoVisit cfg fuel name v with
      | some (.ok v') => visitAll cfg fuel names v'
      | r => r
    else visitAll cfg fuel names v

/-- The services, each after the services it depends on; an error on a cycle or an undefined name. -/
def serviceOrder (cfg : ComposeConfig) (fuel : ℕ) : Option (Except String (List String)) :=
  (visitAll cfg fuel cfg.services.keys Visit.start).map fun r => r.map Visit.order

/-! ### The dependency graph -/

/-- Service `a` is defined and depends on `b`. -/
def Depends (cfg : ComposeConfig) (a b : String) : Prop :=
  ∃ svc, cfg.services.lookup a = some svc ∧ b ∈ svc.dependsOn.services

/-- Every dependency names a defined service. -/
def DepsDefined (cfg : ComposeConfig) : Prop := ∀ a b, Depends cfg a b → b ∈ cfg.services

variable {cfg : ComposeConfig} {a name : String} {v v' : Visit} {fuel : ℕ}

variable {b : String}

theorem depends_iff : Depends cfg a b ↔ b ∈ depsOf cfg a := by
  unfold Depends depsOf
  cases cfg.services.lookup a <;> simp

theorem Depends.mem_services (h : Depends cfg a b) : a ∈ cfg.services := by
  obtain ⟨_, hsvc, -⟩ := h
  exact AList.lookup_isSome.mp (by rw [hsvc]; rfl)

/-! ### What the search keeps -/

/-- The invariant of the search: the done services are the listed ones, each once, defined, and after all its
dependencies. -/
structure Listed (cfg : ComposeConfig) (v : Visit) : Prop where
  done_iff : ∀ a, v.state a = some .done ↔ a ∈ v.order
  nodup : v.order.Nodup
  closed : Closed (Depends cfg) v.order
  defined : ∀ a ∈ v.order, a ∈ cfg.services

/-- What a part of the search leaves: the services in progress, and every mark and listed service. -/
structure Extends (v v' : Visit) : Prop where
  inProgress : ∀ a, v'.state a = some .inProgress ↔ v.state a = some .inProgress
  marked : ∀ a, v'.state a = none → v.state a = none
  order : v.order ⊆ v'.order

theorem Extends.refl (v) : Extends v v := ⟨fun _ => Iff.rfl, fun _ h => h, fun _ h => h⟩

theorem Extends.trans {v₁ v₂ v₃} (h₁ : Extends v₁ v₂) (h₂ : Extends v₂ v₃) : Extends v₁ v₃ :=
  ⟨fun a => (h₂.inProgress a).trans (h₁.inProgress a), fun a h => h₁.marked a (h₂.marked a h),
    fun _ h => h₂.order (h₁.order h)⟩

theorem Extends.done (h : Extends v v') (hv : Listed cfg v) (hv' : Listed cfg v') (ha : v.state a = some .done) :
    v'.state a = some .done :=
  (hv'.done_iff a).mpr (h.order ((hv.done_iff a).mp ha))

theorem Listed.start (cfg) : Listed cfg Visit.start :=
  ⟨fun a => by simp [Visit.start], nodup_nil, closed_nil, fun a h => by simp [Visit.start] at h⟩

theorem Listed.enter (h : Listed cfg v) (hn : v.state name = none) : Listed cfg (v.enter name) := by
  refine ⟨fun a => ?_, h.nodup, h.closed, h.defined⟩
  by_cases ha : a = name
  · have := h.done_iff a
    simp_all [Visit.enter]
  · simpa [Visit.enter, ha] using h.done_iff a

/-- Listing a defined service whose dependencies are all done keeps the invariant. -/
theorem Listed.leave (h : Listed cfg v) (hdef : name ∈ cfg.services) (hn : v.state name = some .inProgress)
    (hdeps : ∀ b ∈ depsOf cfg name, v.state b = some .done) : Listed cfg (v.leave name) := by
  have hnew : name ∉ v.order := by
    rw [← h.done_iff, hn]
    simp
  refine ⟨fun a => ?_, ?_, ?_, ?_⟩
  · by_cases ha : a = name
    · subst ha
      simp [Visit.leave]
    · simpa [Visit.leave, ha] using h.done_iff a
  · exact nodup_append.mpr ⟨h.nodup, nodup_singleton _, by
      intro a ha b hb
      rw [mem_singleton] at hb
      rintro rfl
      exact hnew (hb ▸ ha)⟩
  · exact h.closed.snoc fun b hb => (h.done_iff b).mp (hdeps b (depends_iff.mp hb))
  · exact forall_mem_append.mpr ⟨h.defined, forall_mem_singleton.mpr hdef⟩

/-- Entering, searching and leaving an unmarked service changes the marks of no service in progress. -/
theorem Extends.enter_leave (hn : v.state name = none) (h : Extends (v.enter name) v') : Extends v (v'.leave name) := by
  refine ⟨fun a => ?_, fun a ha => ?_, fun a ha => mem_append_left _ (h.order ha)⟩
  · by_cases hne : a = name
    · subst hne
      simp [Visit.leave, hn]
    · simpa [Visit.leave, Visit.enter, hne] using h.inProgress a
  · by_cases hne : a = name
    · rw [hne]
      exact hn
    · have := h.marked a (by simpa [Visit.leave, hne] using ha)
      simpa [Visit.enter, hne] using this

/-- How many services have no mark yet. -/
def unmarked (cfg : ComposeConfig) (v : Visit) : ℕ := cfg.services.keys.countP fun a => v.state a = none

theorem Extends.unmarked_le (h : Extends v v') : unmarked cfg v' ≤ unmarked cfg v :=
  countP_mono_left fun a _ ha => by simpa using h.marked a (by simpa using ha)

theorem unmarked_enter_lt (hdef : name ∈ cfg.services) (hn : v.state name = none) :
    unmarked cfg (v.enter name) < unmarked cfg v := by
  have hmem : name ∈ cfg.services.keys := hdef
  obtain ⟨l₁, l₂, hl⟩ := append_of_mem hmem
  have hle : ∀ l : List String, l.countP (fun a => (v.enter name).state a = none) ≤
      l.countP fun a => v.state a = none := by
    intro l
    refine countP_mono_left fun a _ ha => ?_
    by_cases hne : a = name
    · subst hne
      simp [Visit.enter] at ha
    · simpa [Visit.enter, hne] using ha
  have h₁ := hle l₁
  have h₂ := hle l₂
  unfold unmarked
  rw [hl]
  simp only [countP_append, countP_cons, hn]
  simp only [Visit.enter, Function.update_self, reduceCtorEq, decide_false, decide_true, if_true] at h₁ h₂ ⊢
  simp only [if_false]
  omega

/-! ### What the search computes -/

/-- The graph is one the search can order. -/
def Orderable (cfg : ComposeConfig) : Prop := DepsDefined cfg ∧ Acyclic (Depends cfg)

/-- A part of the search begun in `v`: the invariant, with `Q` of the result, or an error, and then there is no order.
-/
def Outcome (cfg : ComposeConfig) (v : Visit) (Q : Visit → Prop) : Except String Visit → Prop
  | .ok v' => Listed cfg v' ∧ Extends v v' ∧ Q v'
  | .error _ => ¬ Orderable cfg

/-- What a visit does. -/
def VisitSpec (cfg : ComposeConfig) (fuel : ℕ) : Prop :=
  ∀ name v, Listed cfg v → name ∈ cfg.services →
    (∀ a, v.state a = some .inProgress → TransGen (Depends cfg) a name) → unmarked cfg v < fuel →
    ∃ r, topoVisit cfg fuel name v = some r ∧ Outcome cfg v (fun v' => v'.state name = some .done) r

/-- A service that is done, and then the others. -/
theorem Outcome.cons {v v₁ name names r}
    (hv₁ : Listed cfg v₁) (hext₁ : Extends v v₁) (hdone : v₁.state name = some .done)
    (h : Outcome cfg v₁ (fun v' => ∀ n ∈ names, v'.state n = some .done) r) :
    Outcome cfg v (fun v' => ∀ n ∈ name :: names, v'.state n = some .done) r := by
  cases r with
  | error => exact h
  | ok =>
    obtain ⟨hv₂, hext₂, hall⟩ := h
    exact ⟨hv₂, hext₁.trans hext₂, forall_mem_cons.mpr ⟨hext₂.done hv₁ hv₂ hdone, hall⟩⟩

/-- The loop over dependencies, by induction on the dependencies still to visit. -/
theorem visitDeps_spec (hvisit : VisitSpec cfg fuel) (name) :
    ∀ (deps : List String) (v : Visit), Listed cfg v → (∀ d ∈ deps, Depends cfg name d) →
      (∀ a, v.state a = some .inProgress → ReflTransGen (Depends cfg) a name) → unmarked cfg v < fuel →
      ∃ r, visitDeps cfg (topoVisit cfg fuel) name deps v = some r ∧
        Outcome cfg v (fun v' => ∀ d ∈ deps, v'.state d = some .done) r := by
  intro deps
  induction deps with
  | nil =>
    intro v hv _ _ _
    exact ⟨.ok v, rfl, hv, Extends.refl v, by simp⟩
  | cons dep _ ih =>
    intro v hv hdeps hanc hfuel
    have hdep := hdeps dep (mem_cons_self ..)
    simp only [visitDeps]
    by_cases hdef : dep ∈ cfg.services
    · obtain ⟨r, hr, hout⟩ := hvisit dep v hv hdef (fun a ha => TransGen.tail' (hanc a ha) hdep) hfuel
      simp only [hdef, hr]
      cases r with
      | error e => exact ⟨.error e, rfl, hout⟩
      | ok v₁ =>
        obtain ⟨hv₁, hext₁, hdone⟩ := hout
        obtain ⟨r₂, hr₂, hout₂⟩ := ih v₁ hv₁ (fun d hd => hdeps d (mem_cons_of_mem _ hd))
          (fun a ha => hanc a ((hext₁.inProgress a).mp ha)) (lt_of_le_of_lt hext₁.unmarked_le hfuel)
        exact ⟨r₂, hr₂, .cons hv₁ hext₁ hdone hout₂⟩
    · -- an undefined dependency
      simp only [hdef]
      exact ⟨_, rfl, fun ⟨hd, _⟩ => hdef (hd name dep hdep)⟩

theorem visit_spec (cfg) : ∀ fuel, VisitSpec cfg fuel := by
  intro fuel
  induction fuel with
  | zero =>
    intro _ _ _ _ _ h
    exact absurd h (Nat.not_lt_zero _)
  | succ _ ih =>
    intro name v hv hdef hanc hfuel
    simp only [topoVisit]
    cases hm : v.state name with
    | some m =>
      cases m with
      | inProgress => exact ⟨_, rfl, fun ⟨_, hac⟩ => hac name (hanc name hm)⟩
      | done => exact ⟨.ok v, rfl, hv, Extends.refl v, hm⟩
    | none =>
      have hanc' : ∀ a, (v.enter name).state a = some .inProgress → ReflTransGen (Depends cfg) a name := by
        intro a ha
        by_cases hne : a = name
        · rw [hne]
        · exact (hanc a (by simpa [Visit.enter, hne] using ha)).to_reflTransGen
      obtain ⟨r, hr, hout⟩ := visitDeps_spec ih name (depsOf cfg name) (v.enter name) (hv.enter hm)
        (fun d hd => depends_iff.mpr hd) hanc' (by have := unmarked_enter_lt hdef hm; omega)
      simp only [hr]
      cases r with
      | error e => exact ⟨.error e, rfl, hout⟩
      | ok v' =>
        obtain ⟨hv', hext, hall⟩ := hout
        have hin : v'.state name = some .inProgress := (hext.inProgress name).mpr (by simp [Visit.enter])
        exact ⟨.ok (v'.leave name), rfl, hv'.leave hdef hin hall, hext.enter_leave hm, by simp [Visit.leave]⟩

/-- The loop over all services, by induction on the services still to look at. -/
theorem visitAll_spec (hfuel : cfg.services.keys.length < fuel) :
    ∀ (names : List String) (v : Visit), Listed cfg v → (∀ n ∈ names, n ∈ cfg.services) →
      (∀ a, v.state a ≠ some .inProgress) →
      ∃ r, visitAll cfg fuel names v = some r ∧
        Outcome cfg v (fun v' => ∀ n ∈ names, v'.state n = some .done) r := by
  intro names
  induction names with
  | nil =>
    intro v hv _ _
    exact ⟨.ok v, rfl, hv, Extends.refl v, by simp⟩
  | cons name names ih =>
    intro v hv hnames hidle
    have hnames' : ∀ n ∈ names, n ∈ cfg.services := fun n hn => hnames n (mem_cons_of_mem _ hn)
    have hunm : unmarked cfg v < fuel := lt_of_le_of_lt countP_le_length hfuel
    simp only [visitAll]
    by_cases hm : v.state name = none
    · obtain ⟨r, hr, hout⟩ := visit_spec cfg fuel name v hv (hnames name (mem_cons_self ..))
        (fun a ha => absurd ha (hidle a)) hunm
      simp only [hm, hr]
      cases r with
      | error e => exact ⟨.error e, rfl, hout⟩
      | ok v₁ =>
        obtain ⟨hv₁, hext₁, hdone⟩ := hout
        obtain ⟨r₂, hr₂, hout₂⟩ := ih v₁ hv₁ hnames' fun a ha => hidle a ((hext₁.inProgress a).mp ha)
        exact ⟨r₂, hr₂, .cons hv₁ hext₁ hdone hout₂⟩
    · -- already marked, and nothing is in progress between two services, so it is done
      simp only [hm]
      have hdone : v.state name = some .done := by
        cases hs : v.state name with
        | none => exact absurd hs hm
        | some m =>
          cases m with
          | inProgress => exact absurd hs (hidle name)
          | done => rfl
      obtain ⟨r, hr, hout⟩ := ih v hv hnames' hidle
      exact ⟨r, hr, .cons hv (.refl v) hdone hout⟩

/-! ### More fuel changes nothing -/

theorem visitDeps_mono {f g} (hfg : ∀ d v r, f d v = some r → g d v = some r) (name) :
    ∀ (deps : List String) (v : Visit) (r : Except String Visit),
      visitDeps cfg f name deps v = some r → visitDeps cfg g name deps v = some r := by
  intro deps
  induction deps with
  | nil => exact fun _ _ h => h
  | cons dep _ ih =>
    intro v r h
    simp only [visitDeps] at h ⊢
    by_cases hdef : dep ∈ cfg.services
    · simp only [hdef] at h ⊢
      cases hf : f dep v with
      | none => simp [hf] at h
      | some r₁ =>
        rw [hfg dep v r₁ hf]
        rw [hf] at h
        cases r₁ with
        | error => exact h
        | ok v₁ => exact ih v₁ r h
    · simpa only [hdef, if_false] using h

theorem topoVisit_succ (cfg) : ∀ (fuel : ℕ) (name : String) (v : Visit) (r : Except String Visit),
    topoVisit cfg fuel name v = some r → topoVisit cfg (fuel + 1) name v = some r := by
  intro fuel
  induction fuel with
  | zero =>
    intro _ _ _ h
    simp [topoVisit] at h
  | succ fuel ih =>
    intro name v r h
    rw [topoVisit] at h ⊢
    cases hm : v.state name with
    | some m => cases m <;> simpa [hm] using h
    | none =>
      simp only [hm] at h ⊢
      cases hd : visitDeps cfg (topoVisit cfg fuel) name (depsOf cfg name) (v.enter name) with
      | none => simp [hd] at h
      | some =>
        rw [visitDeps_mono ih name _ _ _ hd]
        rw [hd] at h
        exact h

theorem visitAll_succ : ∀ (names : List String) (v : Visit) (r : Except String Visit),
      visitAll cfg fuel names v = some r → visitAll cfg (fuel + 1) names v = some r := by
  intro names
  induction names with
  | nil => exact fun _ _ h => h
  | cons name _ ih =>
    intro v r h
    simp only [visitAll] at h ⊢
    by_cases hm : v.state name = none
    · simp only [hm] at h ⊢
      cases ht : topoVisit cfg fuel name v with
      | none => simp [ht] at h
      | some r₁ =>
        rw [topoVisit_succ cfg fuel name v r₁ ht]
        rw [ht] at h
        cases r₁ with
        | error => exact h
        | ok v₁ => exact ih v₁ r h
    · simp only [hm] at h ⊢
      exact ih v r h

theorem serviceOrder_mono {f g} (hfg : f ≤ g) {r} (h : serviceOrder cfg f = some r) : serviceOrder cfg g = some r := by
  induction g, hfg using Nat.le_induction with
  | base => exact h
  | succ _ _ ih =>
    unfold serviceOrder at ih ⊢
    obtain ⟨_, hr₁, hr⟩ := Option.map_eq_some_iff.mp ih
    rw [visitAll_succ _ _ _ hr₁, Option.map_some, hr]

/-! ### The order -/

/-- What an order of the services has to be: every service once, each after all its dependencies. -/
structure IsOrder (cfg : ComposeConfig) (order : List String) : Prop where
  perm : order.Perm cfg.services.keys
  precedes : ∀ a b, Depends cfg a b → Precedes order b a

theorem Listed.isOrder (hv : Listed cfg v) (hall : ∀ n ∈ cfg.services.keys, v.state n = some .done) :
    IsOrder cfg v.order ∧ Orderable cfg := by
  have hmem : ∀ a, a ∈ cfg.services → a ∈ v.order := fun a ha => (hv.done_iff a).mp (hall a ha)
  have hperm : v.order.Perm cfg.services.keys :=
    (perm_ext_iff_of_nodup hv.nodup cfg.services.keys_nodup).mpr
      fun a => ⟨fun ha => hv.defined a ha, fun ha => hmem a ha⟩
  have hprec : ∀ a b, Depends cfg a b → Precedes v.order b a :=
    fun a b hab => hv.closed.precedes (hmem a hab.mem_services) hab
  refine ⟨⟨hperm, hprec⟩, fun a b hab => ?_, ?_⟩
  · exact hv.defined b ((hprec a b hab).subset (mem_cons_self ..))
  · exact hv.closed.acyclic hv.nodup fun a b hab => hmem a hab.mem_services

/-- **The search is total and correct**: with any fuel above the number of services it
returns one and the same result, which is an order of the services if every dependency is
defined and there is no cycle, and an error otherwise. -/
theorem serviceOrder_total (cfg) :
    ∃ r, (∀ fuel, cfg.services.keys.length < fuel → serviceOrder cfg fuel = some r) ∧
      ((∃ order, r = .ok order) ↔ Orderable cfg) ∧ ∀ order, r = .ok order → IsOrder cfg order := by
  obtain ⟨r, hr, hout⟩ := visitAll_spec (Nat.lt_succ_self _) cfg.services.keys Visit.start
    (Listed.start cfg) (fun n hn => hn) (by simp [Visit.start])
  have horder : serviceOrder cfg (cfg.services.keys.length + 1) = some (r.map Visit.order) := by
    rw [serviceOrder, hr, Option.map_some]
  refine ⟨r.map Visit.order, fun fuel hf => serviceOrder_mono hf horder, ?_⟩
  cases r with
  | error =>
    refine ⟨⟨?_, fun h => absurd h hout⟩, ?_⟩
    · rintro ⟨order, ho⟩
      cases ho
    · intro order ho
      cases ho
  | ok v =>
    obtain ⟨hv, -, hall⟩ := hout
    obtain ⟨hord, hok⟩ := hv.isOrder hall
    refine ⟨⟨fun _ => hok, fun _ => ⟨v.order, rfl⟩⟩, ?_⟩
    intro order ho
    cases ho
    exact hord

end A3sBox.Compose
