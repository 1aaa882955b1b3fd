import SingleFlight.Proofs.Building
import SingleFlight.Session

/-!
# What is configured for no cache

What a configuration says about names that are not listed is reported and otherwise ignored.

* building goes act by act (`assemble`). First one warning is given for each configured name that is not listed
  (`mem_unlisted`, `sorted_unlisted`). All that follows goes by what is configured for the names that are
  (`building_congr`).
-/

namespace SingleFlight

/-- The configurations say the same about the names, and about everything that is not said name by name. -/
structure Config.AgreeOn (names : List String) (a b : Config) : Prop where
  enabled : a.enabled = b.enabled
  backendName : a.backendName = b.backendName
  defaults : a.defaults = b.defaults
  caches : ∀ name ∈ names, a.caches.find? name = b.caches.find? name

namespace Registry

variable {names : List String} {a b config : Config}

/-! ### Names that are not listed -/

theorem mem_unlisted {name : String} :
    name ∈ unlisted names config ↔ name ∉ names ∧ ∃ tuning, config.caches.find? name = some tuning := by
  simp only [unlisted, List.mem_filter, decide_eq_true_eq, Dictionary.mem_keys]
  exact and_comm

theorem sorted_unlisted (names : List String) (config : Config) :
    (unlisted names config).Pairwise Text.Before := config.caches.sorted_keys.filter _

/-! ### Building, act by act -/

theorem eq_cacheNamed_of_cacheFor {name : String} {cache : Cache} (h : cacheFor config name = .ok cache) :
    cache = config.cacheNamed name := by
  rw [Config.cacheNamed, ← Config.tuningOf_eq_limits]
  unfold cacheFor at h
  split at h
  next enabled =>
    rw [if_pos enabled]
    obtain ⟨store, hstore, rfl⟩ := exists_of_map_eq_ok h
    obtain ⟨_, -, rfl⟩ := exists_of_map_eq_ok hstore
    rfl
  next disabled =>
    rw [if_neg disabled]
    cases h
    rfl

/-- The caches are created one by one as they are described, all of them unless there is a fault. -/
theorem createEach_acts (config : Config) (registry : Registry) (names : List String) :
    ∃ created, created <+: names ∧
      (createEach config registry names).1 = created.map (fun name => .created (config.cacheNamed name)) ∧
      ∀ next, (createEach config registry names).2 = .ok next → created = names := by
  induction names generalizing registry with
  | nil => exact ⟨[], List.prefix_rfl, rfl, fun _ _ => rfl⟩
  | cons name rest ih =>
    rw [createEach]
    cases hcache : cacheFor config name with
    | error fault => exact ⟨[], List.nil_prefix, rfl, fun _ h => by cases h⟩
    | ok cache =>
      have hnamed : cache = config.cacheNamed name := eq_cacheNamed_of_cacheFor hcache
      dsimp only
      cases registry.register cache with
      | error fault => exact ⟨[name], List.prefix_append [name] rest, by rw [hnamed]; rfl, fun _ h => by cases h⟩
      | ok next =>
        obtain ⟨created, hprefix, hacts, hall⟩ := ih next
        refine ⟨name :: created, List.cons_prefix_cons.mpr ⟨rfl, hprefix⟩, ?_, fun last hlast => ?_⟩
        · rw [hnamed, List.map_cons, ← hacts]
        · exact congrArg _ (hall last hlast)

/-- After the caches the registry is reported if there is one, and nothing else is. -/
theorem building_acts (names : List String) (config : Config) (backend : Backend) :
    ∃ (created : List String) (report : List Notice), created <+: distinctNames names ∧
      (building names config backend).1 =
        created.map (fun name => .created (config.cacheNamed name)) ++ report.map .notice ∧
      (∀ registry, (building names config backend).2 = .ok registry → created = distinctNames names) ∧
      report = match (building names config backend).2 with
        | .ok registry => [.registryBuilt config.enabled backend registry.size]
        | .error _ => [] := by
  obtain ⟨created, hprefix, hacts, hall⟩ := createEach_acts config empty (distinctNames names)
  rw [building]
  generalize createEach config empty (distinctNames names) = loop at hacts hall ⊢
  obtain ⟨acts, fault | registry⟩ := loop
  · exact ⟨created, [], hprefix, by rw [List.map_nil, List.append_nil]; exact hacts, (fun _ h => by cases h), rfl⟩
  · exact ⟨created, _, hprefix, congrArg (· ++ [_]) hacts, hall, rfl⟩

theorem exists_backend (h : ∃ backend : Backend, config.backendWord = backend.name) :
    ∃ known, config.backend = .ok known := by
  obtain ⟨backend, hname⟩ := h
  rcases config.backend_cases with ⟨known, -, hknown⟩ | ⟨hunknown, -⟩
  · exact ⟨known, hknown⟩
  · exact absurd hname (hunknown backend)

/-! ### Two configurations -/

theorem cacheFor_congr (agree : a.AgreeOn names b) {name : String} (h : name ∈ names) :
    cacheFor a name = cacheFor b name := by
  rw [cacheFor, cacheFor, Config.tuningOf, Config.tuningOf, agree.enabled, agree.defaults, agree.caches name h]

theorem createEach_congr {listed : List String} (h : ∀ name ∈ listed, cacheFor a name = cacheFor b name)
    (registry : Registry) : createEach a registry listed = createEach b registry listed := by
  induction listed generalizing registry with
  | nil => rfl
  | cons name rest ih =>
    obtain ⟨hname, hrest⟩ := List.forall_mem_cons.mp h
    simp only [createEach, hname, ih hrest]

theorem building_congr (agree : a.AgreeOn names b) (backend : Backend) :
    building names a backend = building names b backend := by
  have hcreate := createEach_congr (fun name hmem => cacheFor_congr agree (mem_distinctNames.mp hmem)) empty
  rw [building, building, hcreate, agree.enabled]

theorem backend_congr (agree : a.AgreeOn names b) : a.backend = b.backend :=
  congrArg Backend.ofName agree.backendName

theorem ofConfig_congr (agree : a.AgreeOn names b) : ofConfig names a = ofConfig names b := by
  rw [ofConfig, ofConfig, assemble, assemble, backend_congr agree]
  cases b.backend with
  | error fault => rfl
  | ok backend =>
    dsimp only
    rw [building_congr agree]

/-- **What is configured for no listed name is inert.** Two configurations that agree on the listed names, whatever they
say about others, come to the same registry or the same fault, and sessions over the two registries are the same. Only
the warnings differ. If the backend is known, a warning is given for each configured name that is not listed, in
ascending order and before any cache is created, whether or not the building fails; what happens then is the same for
both and holds no warning. If the backend is not known, nothing happens at all. -/
theorem unlisted_inert (agree : a.AgreeOn names b) :
    ofConfig names a = ofConfig names b ∧
    (∀ registry other, ofConfig names a = .ok registry → ofConfig names b = .ok other →
      ∀ steps, (Session.start registry).run steps = (Session.start other).run steps) ∧
    (∀ config ∈ [a, b], (assemble names config).2 = ofConfig names config ∧
      (assemble names config).1.filterMap Act.notice? = noticesOfConfig names config) ∧
    ((∀ backend : Backend, a.backendWord ≠ backend.name) → ∀ config ∈ [a, b], (assemble names config).1 = []) ∧
    ((∃ backend : Backend, a.backendWord = backend.name) → ∃ (created : List String) (report : List Notice),
      created <+: distinctNames names ∧ (∀ registry, ofConfig names a = .ok registry → created = distinctNames names) ∧
      (∀ notice ∈ report, notice.line.level ≠ .warn) ∧
      ∀ config ∈ [a, b], ∃ warned : List String,
        (assemble names config).1 = warned.map (fun name => .notice (.configurationIgnored name)) ++
          (created.map (fun name => .created (a.cacheNamed name)) ++ report.map .notice) ∧
        warned.Pairwise Text.Before ∧
        ∀ name, name ∈ warned ↔ name ∉ names ∧ ∃ tuning, config.caches.find? name = some tuning) := by
  have hsame := ofConfig_congr agree
  have hbackend : ∀ config ∈ [a, b], config.backend = a.backend := by simp [backend_congr agree]
  refine ⟨hsame, fun registry other hregistry hother steps => ?_,
    fun config _ => ⟨rfl, rfl⟩, fun hunknown config hmem => ?_, ?_⟩
  · cases hregistry.symm.trans (hsame.trans hother)
    rfl
  · rcases a.backend_cases with ⟨backend, hname, -⟩ | ⟨-, hfault⟩
    · exact absurd hname (hunknown backend)
    · rw [assemble, hbackend config hmem, hfault]
  · intro hword
    obtain ⟨known, hknown⟩ := exists_backend hword
    have hbuilding : ∀ config ∈ [a, b], building names config known = building names a known := by
      simp [building_congr agree]
    obtain ⟨created, report, hprefix, hacts, hall, hreport⟩ := building_acts names a known
    refine ⟨created, report, hprefix, fun registry hregistry => hall registry ?_, fun notice hmem hwarn => ?_,
      fun config hmem => ?_⟩
    · rw [ofConfig, assemble, hknown] at hregistry
      exact hregistry
    · rw [hreport] at hmem
      split at hmem
      · cases List.mem_singleton.mp hmem
        cases hwarn
      · cases hmem
    · refine ⟨unlisted names config, ?_, sorted_unlisted names config, fun name => mem_unlisted⟩
      rw [assemble, hbackend config hmem, hknown, ← hacts, ← hbuilding config hmem]

/-- The users have a size of their own. -/
private def usersOnly : Config :=
  { Config.standard with caches := (∅ : Dictionary Tuning).insert "users" ⟨none, some 2, none, none, none⟩ }

/-- The orders, if there were any, would have to be kept for too long. -/
private def ordersToo : Config :=
  { usersOnly with caches :=
    usersOnly.caches.insert "orders" ⟨none, none, some (.ofSeconds (2 * longestExpirySeconds)), none, none⟩ }

/-- The orders do no harm where they are not listed, and are warned about even if the building fails. -/
theorem unlisted_inert_for_orders :
    usersOnly.AgreeOn ["users", ""] ordersToo ∧
    ofConfig ["users", ""] usersOnly = ofConfig ["users", ""] ordersToo ∧
    ofConfig ["users", ""] usersOnly = .error .emptyName ∧
    noticesOfConfig ["users", ""] usersOnly = [] ∧
    noticesOfConfig ["users", ""] ordersToo = [.configurationIgnored "orders"] ∧
    ofConfig ["orders"] ordersToo = .error (.expiryTooLong "orders" .afterWrite) := by
  have agree : usersOnly.AgreeOn ["users", ""] ordersToo := ⟨rfl, rfl, rfl, by decide +kernel⟩
  exact ⟨agree, (unlisted_inert agree).1, rfl, rfl, rfl, rfl⟩

end Registry

end SingleFlight
