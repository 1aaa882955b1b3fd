import SingleFlight.Proofs.Balance
import SingleFlight.Proofs.Guise
import SingleFlight.Proofs.Startup

/-!
# Counting changes nothing

Whether counters are kept for a cache says which counters are shown, and nothing else. Two configurations that differ
in these flags at most report the same when their registries are built, and sessions over the two registries do the same
at every step (`metrics_inert`). The stores differ in their flags only, and a cache with the same flag in both shows the
same counters.
-/

namespace SingleFlight

/-- The tunings differ in the flag at most. -/
def Tuning.SameButMetrics (a b : Tuning) : Prop := { a with metricsEnabled := b.metricsEnabled } = b

/-- For the names listed the configurations differ in the flags at most, and the same names are configured in vain. -/
structure Config.SameButMetrics (names : List String) (a b : Config) : Prop where
  enabled : a.enabled = b.enabled
  backend : a.backend = b.backend
  unlisted : Registry.unlisted names a = Registry.unlisted names b
  tuning : ∀ name ∈ names, (a.tuningOf name).SameButMetrics (b.tuningOf name)

/-- No request is changed, and every flag is taken away. -/
def Guise.unmetered : Guise := ⟨id, fun _ _ => none⟩

/-- The caches differ in their flags at most. -/
def Cache.SameButMetrics (a b : Cache) : Prop := Guise.unmetered.cache a = Guise.unmetered.cache b

/-- The registries differ in the flags of their caches at most. -/
def Registry.SameButMetrics (a b : Registry) : Prop :=
  ∀ name, (a.find? name).map Guise.unmetered.cache = (b.find? name).map Guise.unmetered.cache

namespace Session

/-- The replies are the same, or they show caches that differ in their flags at most. -/
inductive Reply.SameButMetrics : Reply → Reply → Prop where
  | refl (reply : Reply) : SameButMetrics reply reply
  | cache {a b : Cache} (same : a.SameButMetrics b) : SameButMetrics (.cache a) (.cache b)

/-- The reports differ in the flag of a cache that is shown at most. -/
structure Report.SameButMetrics (a b : Report) : Prop where
  now : a.now = b.now
  reply : a.reply.SameButMetrics b.reply
  trace : a.trace = b.trace
  live : a.live = b.live

/-- The sessions differ in the flags of their caches at most. -/
structure SameButMetrics (x y : Session) : Prop where
  now : x.system.now = y.system.now
  caches : x.system.registry.SameButMetrics y.system.registry
  loads : x.system.loads = y.system.loads
  history : x.system.history = y.system.history
  tasks : x.tasks = y.tasks
  started : x.started = y.started

end Session

/-! ### Without flags -/

namespace Guise

theorem apt_unmetered (stores : String → Bool) : unmetered.Apt stores where
  label _ := rfl
  cache _ := rfl
  key _ := rfl
  patience _ := rfl
  needsStore _ := rfl

@[simp]
theorem loader_unmetered (loader : Loader τ) : unmetered.loader loader = loader := by
  induction loader with
  | done _ | fail _ | panic _ => rfl
  | sleep _ _ ih | invalidate _ _ _ ih | invalidateAll _ _ ih => simp only [Guise.loader, ih]
  | get request _ ih =>
    simp only [Guise.loader, ih]
    rfl

theorem patience_unmetered (p : Patience τ) : unmetered.patience p = p := by
  simp only [Guise.patience, loader_unmetered]

mutual
theorem get_unmetered : (get : Get τ) → unmetered.get get = get
  | .asking request loader => by
    simp only [Guise.get, loader_unmetered]
    rfl
  | .awaiting _ _ _ none => rfl
  | .awaiting _ _ _ (some p) => by simp only [Guise.get, Option.map_some, patience_unmetered]
  | .loading cache run => congrArg (Get.loading cache) (run_unmetered run)

theorem run_unmetered : (run : Run τ) → unmetered.run run = run
  | .calling _ _ | .running _ | .sleeping _ _ => by simp only [Guise.run, loader_unmetered]
  | .nested get => congrArg Run.nested (get_unmetered get)
end

theorem load_unmetered (load : Load) : unmetered.load load = load := by
  obtain ⟨cache, key, number, state⟩ := load
  cases state with
  | idle τ run => simp only [Guise.load, Guise.state, run_unmetered]
  | busy | ended outcome => rfl

theorem task_unmetered (task : Task) : unmetered.task task = task := by
  simp only [Guise.task, get_unmetered]

theorem step_unmetered (step : Session.Step) : unmetered.step step = step := by
  cases step with
  | start name type request loader | get name type request loader limit =>
    simp only [Guise.step, loader_unmetered]
    rfl
  | _ => rfl

theorem registry_unmetered {a b : Registry} : unmetered.registry a = unmetered.registry b ↔ a.SameButMetrics b := by
  constructor
  · intro h name
    rw [← find?_registry, h, find?_registry]
  · intro h
    refine congrArg Registry.mk (Dictionary.ext_find? fun name => ?_)
    rw [Dictionary.find?_map, Dictionary.find?_map]
    exact h name

theorem session_unmetered {x y : Session} (h : unmetered.session x = unmetered.session y) : x.SameButMetrics y where
  now := congrArg (·.system.now) h
  caches := registry_unmetered.1 (congrArg (·.system.registry) h)
  loads := by
    have hloads : x.system.loads.map unmetered.load = y.system.loads.map unmetered.load := congrArg (·.system.loads) h
    rwa [show unmetered.load = id from funext load_unmetered, List.map_id, List.map_id] at hloads
  history := congrArg (·.system.history) h
  tasks := by
    have htasks : x.tasks.map unmetered.task = y.tasks.map unmetered.task := congrArg (·.tasks) h
    rwa [show unmetered.task = id from funext task_unmetered, List.map_id, List.map_id] at htasks
  started := congrArg (·.started) h

theorem reply_unmetered {a b : Session.Reply} (h : unmetered.reply a = unmetered.reply b) : a.SameButMetrics b := by
  cases a with
  | cache a =>
    cases b with
    | cache b => exact .cache (Session.Reply.cache.inj h)
    | _ => cases h
  | _ =>
    cases b with
    | cache b => cases h
    | _ => cases h <;> exact .refl _

theorem reports_unmetered {as bs : List Session.Report} (h : as.map unmetered.report = bs.map unmetered.report) :
    List.Forall₂ Session.Report.SameButMetrics as bs := by
  induction as generalizing bs with
  | nil =>
    rw [List.map_eq_nil_iff.1 h.symm]
    exact .nil
  | cons a as ih =>
    obtain ⟨b, bs, rfl, hhead, htail⟩ := List.map_eq_cons_iff.1 h.symm
    have hreport : unmetered.report a = unmetered.report b := hhead.symm
    have hreply : a.reply.SameButMetrics b.reply := reply_unmetered (congrArg (·.reply) hreport)
    have hlive : a.live = b.live := congrArg (·.live) hreport
    exact .cons ⟨congrArg (·.now) hreport, hreply, congrArg (·.trace) hreport, hlive⟩ (ih htail.symm)

end Guise

/-! ### Two registries -/

namespace Session

variable {a b : Registry}

/-- Over registries that differ in the flags of their caches at most, sessions do the same at every step. -/
theorem run_sameButMetrics (hbuilt : a.Built) (hbuilt' : b.Built) (same : a.SameButMetrics b) (steps : List Step) :
    ((start a).run steps).1.SameButMetrics ((start b).run steps).1 ∧
      List.Forall₂ Report.SameButMetrics ((start a).run steps).2 ((start b).run steps).2 := by
  let v := Guise.unmetered
  have hsteps : steps.map v.step = steps := by
    rw [show v.step = id from funext Guise.step_unmetered, List.map_id]
  have hrun := Guise.run_session (Guise.apt_unmetered _) (orderly_start hbuilt fun _ => True).fits.sited steps
  have hrun' := Guise.run_session (Guise.apt_unmetered _) (orderly_start hbuilt' fun _ => True).fits.sited steps
  have hstart : v.session (start a) = v.session (start b) := congrArg start (Guise.registry_unmetered.2 same)
  rw [hstart] at hrun
  obtain ⟨hsessions, hreports⟩ := Prod.mk.inj (hrun.symm.trans hrun')
  exact ⟨Guise.session_unmetered hsessions, Guise.reports_unmetered hreports⟩

end Session

/-! ### Two configurations -/

/-- Both fail with the same error, or both succeed with related results. -/
inductive SameEnd {ε α : Type} (R : α → α → Prop) : Except ε α → Except ε α → Prop where
  | error (e : ε) : SameEnd R (.error e) (.error e)
  | ok {a b : α} (h : R a b) : SameEnd R (.ok a) (.ok b)

theorem SameEnd.bind {ε α β : Type} {R : α → α → Prop} {S : β → β → Prop} {x y : Except ε α}
    {f g : α → Except ε β} (h : SameEnd R x y) (hfg : ∀ a b, R a b → SameEnd S (f a) (g b)) :
    SameEnd S (x >>= f) (y >>= g) := by
  cases h with
  | error e => exact .error e
  | ok hab => exact hfg _ _ hab

theorem SameEnd.foldlM {ε α β : Type} {R : α → α → Prop} {f g : α → β → Except ε α} {as : List β}
    (hfg : ∀ b ∈ as, ∀ x y, R x y → SameEnd R (f x b) (g y b)) {x y : α} (h : R x y) :
    SameEnd R (as.foldlM f x) (as.foldlM g y) := by
  induction as generalizing x y with
  | nil => exact .ok h
  | cons b as ih =>
    rw [List.foldlM_cons, List.foldlM_cons]
    exact (hfg b (.head _) x y h).bind fun _ _ hnext => ih (fun b hb => hfg b (.tail _ hb)) hnext

namespace Registry

variable {a b : Config} {names : List String}

theorem cacheFor_sameButMetrics (same : a.SameButMetrics names b) {name : String} (hname : name ∈ names) :
    SameEnd (fun cache cache' : Cache => cache.name = cache'.name ∧ cache.SameButMetrics cache')
      (cacheFor a name) (cacheFor b name) := by
  have hcheck : (b.tuningOf name).check name = (a.tuningOf name).check name := by
    rw [← same.tuning name hname]
    rfl
  unfold cacheFor
  rw [← same.enabled]
  split
  · rw [Cache.createLocal, LocalStore.create, Cache.createLocal, LocalStore.create, hcheck]
    cases (a.tuningOf name).check name with
    | error fault => exact .error fault
    | ok =>
      refine .ok ⟨rfl, ?_⟩
      rw [← same.tuning name hname]
      rfl
  · exact .ok ⟨rfl, rfl⟩

theorem register_sameButMetrics {r r' : Registry} (h : r.SameButMetrics r') {cache cache' : Cache}
    (hname : cache.name = cache'.name) (hcache : cache.SameButMetrics cache') :
    SameEnd SameButMetrics (r.register cache) (r'.register cache') := by
  have hcontains : r.caches.contains cache.name = r'.caches.contains cache.name := by
    have hisSome := congrArg Option.isSome (h cache.name)
    rwa [Option.isSome_map, Option.isSome_map] at hisSome
  have hinsert : SameButMetrics ⟨r.caches.insert cache.name cache⟩ ⟨r'.caches.insert cache.name cache'⟩ := by
    intro name
    simp only [find?, Dictionary.find?_insert]
    split
    · exact congrArg some hcache
    · exact h name
  unfold register
  rw [← hname, ← hcontains]
  split
  · exact .error _
  · split
    · exact .error _
    · exact .ok hinsert

/-- What two configurations describe that differ in the flags at most differs in them at most. -/
theorem ofConfig_sameButMetrics (same : a.SameButMetrics names b) :
    SameEnd SameButMetrics (ofConfig names a) (ofConfig names b) := by
  rw [ofConfig_eq, ofConfig_eq, ← same.backend]
  cases a.backend with
  | error fault => exact .error fault
  | ok backend =>
    refine SameEnd.foldlM (fun name hname r r' h => ?_) fun _ => rfl
    exact (cacheFor_sameButMetrics same (mem_distinctNames.1 hname)).bind fun _ _ hcache =>
      register_sameButMetrics h hcache.1 hcache.2

theorem SameButMetrics.size {r r' : Registry} (h : r.SameButMetrics r') : r.size = r'.size := by
  have hsize (registry : Registry) : (Guise.unmetered.registry registry).size = registry.size := List.length_map ..
  rw [← hsize r, Guise.registry_unmetered.2 h, hsize r']

theorem noticesOfConfig_sameButMetrics (same : a.SameButMetrics names b) :
    noticesOfConfig names a = noticesOfConfig names b := by
  have hends := ofConfig_sameButMetrics same
  rw [noticesOfConfig_eq, noticesOfConfig_eq, ← same.backend, ← same.unlisted, ← same.enabled]
  cases a.backend with
  | error fault => rfl
  | ok backend =>
    dsimp only
    generalize ofConfig names a = x at hends
    generalize ofConfig names b = y at hends
    cases hends with
    | error fault => rfl
    | ok h => simp only [h.size]

/-- The local store of a registry has the tuning that the configuration gives it. -/
theorem tuning_of_find? {config : Config} {registry : Registry} (h : ofConfig names config = .ok registry)
    {name : String} {store : LocalStore} (hfind : registry.find? name = some (.local store)) :
    store.tuning = config.tuningOf name := by
  rw [Config.tuningOf_eq_limits]
  exact (Config.of_cacheNamed_eq_local (cacheNamed_of_find? h hfind).symm).2

theorem SameButMetrics.storesOf {r r' : Registry} (h : r.SameButMetrics r') (name : String) :
    Session.storesOf r name = Session.storesOf r' name := by
  have hstore (registry : Registry) : Session.storesOf registry name =
      (((registry.find? name).map Guise.unmetered.cache).bind Cache.store?).isSome := by
    rw [Session.storesOf]
    rcases registry.find? name with _ | store | own
    · rfl
    · rfl
    · rfl
  rw [hstore r, hstore r', h name]

end Registry

namespace Session

/-- A cache keeps counters all along if its tuning says so from the start. -/
theorem counting_run {names : List String} {config : Config} {registry : Registry}
    (h : Registry.ofConfig names config = .ok registry) (steps : List Step) (name : String) :
    ((start registry).run steps).1.counting name = true ↔
      storesOf registry name = true ∧ (config.tuningOf name).countsMetrics = true := by
  obtain ⟨turns, hplay⟩ := plays_run (start registry) steps
  rw [← hplay, counting_play]
  constructor
  · rintro ⟨store, hfind, hcounts⟩
    refine ⟨?_, Registry.tuning_of_find? h hfind ▸ hcounts⟩
    rw [storesOf, hfind]
    rfl
  · rintro ⟨hstores, hcounts⟩
    obtain ⟨store, hstore⟩ := Option.isSome_iff_exists.1 hstores
    obtain ⟨cache, hfind, hcache⟩ := Option.bind_eq_some_iff.1 hstore
    rcases cache with store | own
    · exact ⟨store, hfind, Registry.tuning_of_find? h hfind ▸ hcounts⟩
    · cases hcache

end Session

/-- **Metrics are inert.** Two configurations that differ in the flags at most report the same when their registries are
built, and fail with the same error or build registries that differ in the flags at most. Over these, sessions do the
same at every step: the clock, the events, the live tasks, the replies and the stores are the same but for the flags,
and a cache whose effective flag is the same in both shows the same counters. -/
theorem metrics_inert {names : List String} {a b : Config} (same : a.SameButMetrics names b) :
    Registry.noticesOfConfig names a = Registry.noticesOfConfig names b ∧
    SameEnd Registry.SameButMetrics (Registry.ofConfig names a) (Registry.ofConfig names b) ∧
    ∀ r r', Registry.ofConfig names a = .ok r → Registry.ofConfig names b = .ok r' → ∀ steps,
      let x := (Session.start r).run steps
      let y := (Session.start r').run steps
      x.1.SameButMetrics y.1 ∧ List.Forall₂ Session.Report.SameButMetrics x.2 y.2 ∧
        ∀ counter n, (a.tuningOf counter.cache).countsMetrics = (b.tuningOf counter.cache).countsMetrics →
          ((counter, n) ∈ x.1.system.trace.counts x.1.counting ↔
            (counter, n) ∈ y.1.system.trace.counts y.1.counting) := by
  have hends := Registry.ofConfig_sameButMetrics same
  refine ⟨Registry.noticesOfConfig_sameButMetrics same, hends, fun r r' hr hr' steps => ?_⟩
  have hsame : r.SameButMetrics r' := by
    rw [hr, hr'] at hends
    cases hends with
    | ok h => exact h
  obtain ⟨hsession, hreports⟩ :=
    Session.run_sameButMetrics (Registry.built_ofConfig hr) (Registry.built_ofConfig hr') hsame steps
  refine ⟨hsession, hreports, fun counter n hflag => ?_⟩
  have htrace : ((Session.start r).run steps).1.system.trace = ((Session.start r').run steps).1.system.trace :=
    congrArg List.reverse hsession.history
  rw [Trace.mem_counts, Trace.mem_counts, htrace, Session.counting_run hr, Session.counting_run hr', hflag,
    hsame.storesOf]

/-- Counters are asked for by the defaults; one of the caches goes its own way. -/
private def metered : Config :=
  { Config.standard with
    defaults := { Tuning.unset with metricsEnabled := some true }
    caches := (∅ : Dictionary Tuning).insert "b" { Tuning.unset with maximumSize := some 2 } }

private def quiet : Config :=
  { Config.standard with
    caches := (∅ : Dictionary Tuning).insert "b" ⟨none, some 2, none, none, some true⟩ }

theorem metrics_inert_defaults :
    Registry.noticesOfConfig ["a", "b"] metered = Registry.noticesOfConfig ["a", "b"] quiet ∧
    (metered.tuningOf "a").countsMetrics = true ∧ (quiet.tuningOf "a").countsMetrics = false ∧
    ∃ r r', Registry.ofConfig ["a", "b"] metered = .ok r ∧ Registry.ofConfig ["a", "b"] quiet = .ok r' ∧
      ∀ steps, ((Session.start r).run steps).1.SameButMetrics ((Session.start r').run steps).1 ∧ ∀ metric n,
        (⟨metric, "b"⟩, n) ∈ Trace.counts ((Session.start r).run steps).1.counting
            ((Session.start r).run steps).1.system.trace ↔
          (⟨metric, "b"⟩, n) ∈ Trace.counts ((Session.start r').run steps).1.counting
            ((Session.start r').run steps).1.system.trace := by
  have same : metered.SameButMetrics ["a", "b"] quiet := by
    refine ⟨rfl, rfl, rfl, fun name hname => ?_⟩
    rcases List.mem_cons.1 hname with rfl | hname
    · rfl
    · obtain rfl := List.mem_singleton.1 hname
      rfl
  obtain ⟨hnotices, -, hsessions⟩ := metrics_inert same
  refine ⟨hnotices, rfl, rfl, _, _, rfl, rfl, fun steps => ?_⟩
  obtain ⟨hsame, -, hcounters⟩ := hsessions _ _ rfl rfl steps
  exact ⟨hsame, fun metric n => hcounters ⟨metric, "b"⟩ n rfl⟩

end SingleFlight
