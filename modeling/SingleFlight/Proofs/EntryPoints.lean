import Mathlib.Data.List.Forall2
import SingleFlight.Proofs.Guise

/-!
# Entry points

How a get reaches its cache makes no difference beyond what the entry point is for: the ones with a lock timeout agree
with each other, all of them agree if nobody is to wait with a bound, and in front of a cache that passes calls through
lock timeouts do not count. So the entry points of a session, those of the gets that its loaders make included, can be
exchanged (`Session.run_interchangeable`).
-/

namespace SingleFlight

/-- Requests for the same whose entry points do the same. -/
inductive Request.Interchangeable (registry : Registry) : Request → Request → Prop where
  | refl (request : Request) : Interchangeable registry request request
  /-- Any two entry points to a local cache that take the lock timeout. -/
  | timed {request : Request} {store : LocalStore} (cache : registry.find? request.cache = some (.local store))
      (timed : request.entryPoint.timed = true) {entryPoint : EntryPoint} (timed' : entryPoint.timed = true) :
      Interchangeable registry request { request with entryPoint }
  /-- Any two entry points to a local cache, where a lock timeout that is taken is zero. -/
  | unbounded {request : Request} {store : LocalStore} (cache : registry.find? request.cache = some (.local store))
      (zero : request.entryPoint.timed = true → request.lockTimeout = .zero) {entryPoint : EntryPoint}
      {lockTimeout : Duration} (zero' : entryPoint.timed = true → lockTimeout = .zero) :
      Interchangeable registry request { request with entryPoint, lockTimeout }
  /-- Any two entry points to a cache that passes calls through, but for those that ask for a store, with any lock
  timeouts. -/
  | passThrough {request : Request} {name : String} (cache : registry.find? request.cache = some (.passThrough name))
      (anyKind : request.entryPoint.needsStore = false) {entryPoint : EntryPoint} {lockTimeout : Duration}
      (anyKind' : entryPoint.needsStore = false) :
      Interchangeable registry request { request with entryPoint, lockTimeout }

/-- Loaders that differ in the requests of their gets, which are interchangeable. -/
inductive Loader.Interchangeable (registry : Registry) : Loader τ → Loader τ → Prop where
  | done (value : Option (Typed τ)) : Interchangeable registry (.done value) (.done value)
  | fail (failure : Failure) : Interchangeable registry (.fail failure) (.fail failure)
  | panic (payload : Payload) : Interchangeable registry (.panic payload) (.panic payload)
  | sleep (ms : Nat) {next next' : Loader τ} (h : next.Interchangeable registry next') :
      Interchangeable registry (.sleep ms next) (.sleep ms next')
  | invalidate (cache : String) (key : Key) {next next' : Loader τ} (h : next.Interchangeable registry next') :
      Interchangeable registry (.invalidate cache key next) (.invalidate cache key next')
  | invalidateAll (cache : String) {next next' : Loader τ} (h : next.Interchangeable registry next') :
      Interchangeable registry (.invalidateAll cache next) (.invalidateAll cache next')
  | get {request request' : Request} (asked : request.Interchangeable registry request') {inner inner' : Loader τ}
      (h : inner.Interchangeable registry inner') :
      Interchangeable registry (.get request inner) (.get request' inner')

namespace Session

/-- Steps that differ in the requests of the gets that they start, which are interchangeable. -/
inductive Step.Interchangeable (registry : Registry) : Step → Step → Prop where
  | start (task : String) {request request' : Request} {loader loader' : Loader τ}
      (asked : request.Interchangeable registry request') (h : loader.Interchangeable registry loader') :
      Interchangeable registry (.start task τ request loader) (.start task τ request' loader')
  | get (task : String) {request request' : Request} {loader loader' : Loader τ} (limit : Nat)
      (asked : request.Interchangeable registry request') (h : loader.Interchangeable registry loader') :
      Interchangeable registry (.get task τ request loader limit) (.get task τ request' loader' limit)
  | refl (step : Step) : Interchangeable registry step step

/-- Nothing tells the sessions apart but what their live tasks and loads have yet to do. -/
structure LooksLike (x y : Session) : Prop where
  now : x.system.now = y.system.now
  caches : x.system.registry = y.system.registry
  history : x.system.history = y.system.history
  tasks : x.tasks.map (fun task => (task.id, task.name)) = y.tasks.map fun task => (task.id, task.name)

end Session

/-! ### One request for many -/

/-- Nobody is to wait with a bound. -/
theorem Request.patience_eq_zero {request : Request}
    (h : request.entryPoint.timed = true → request.lockTimeout = .zero) : request.patience = .zero := by
  unfold patience
  split
  next htimed => exact h htimed
  next => rfl

namespace Guise

/-- Every request goes through the registry, or asks for the store that is not there, and waits as long as it would. -/
def plain (stores : String → Bool) : Guise where
  request request :=
    let lockTimeout := if stores request.cache then request.patience else .zero
    let entryPoint := if !stores request.cache && request.entryPoint.needsStore then .store else .registry
    { request with entryPoint, lockTimeout }
  metrics _ flag := flag

theorem apt_plain (stores : String → Bool) : (plain stores).Apt stores where
  label _ := rfl
  cache _ := rfl
  key _ := rfl
  patience h := by
    simp only [plain, h]
    rfl
  needsStore {request} h := by
    simp only [plain, h]
    cases request.entryPoint <;> rfl

theorem cache_plain (stores : String → Bool) (cache : Cache) : (plain stores).cache cache = cache := by
  cases cache <;> rfl

theorem registry_plain (stores : String → Bool) (registry : Registry) :
    (plain stores).registry registry = registry := by
  have hentries : (registry.caches.map (plain stores).cache).entries = registry.caches.entries := by
    have hid : (fun e : String × Cache => (e.1, (plain stores).cache e.2)) = id := by
      funext e
      rw [cache_plain]
      rfl
    simp only [Dictionary.map, hid, List.map_id]
  exact congrArg Registry.mk (Dictionary.ext_entries hentries)

theorem report_plain (stores : String → Bool) (report : Session.Report) : (plain stores).report report = report := by
  obtain ⟨now, reply, trace, live⟩ := report
  cases reply with
  | cache cache => simp only [Guise.report, reply, cache_plain]
  | _ => rfl

section
variable {registry : Registry}

/-- A request that waits as long goes to a local cache the same way. -/
theorem plain_of_store {request : Request} {store : LocalStore}
    (cache : registry.find? request.cache = some (.local store)) (entryPoint : EntryPoint) (lockTimeout : Duration)
    (patience : Request.patience { request with entryPoint, lockTimeout } = request.patience) :
    (plain (Session.storesOf registry)).request request =
      (plain (Session.storesOf registry)).request { request with entryPoint, lockTimeout } := by
  have hstores : Session.storesOf registry request.cache = true := by
    rw [Session.storesOf, cache]
    rfl
  simp only [plain, hstores, if_true, patience]
  rfl

theorem plain_request {request request' : Request} (h : request.Interchangeable registry request') :
    (plain (Session.storesOf registry)).request request = (plain (Session.storesOf registry)).request request' := by
  cases h with
  | refl => rfl
  | @timed store cache timed entryPoint timed' =>
    refine plain_of_store cache entryPoint request.lockTimeout ?_
    simp only [Request.patience, timed, timed']
  | @unbounded store cache zero entryPoint lockTimeout zero' =>
    refine plain_of_store cache entryPoint lockTimeout ?_
    rw [Request.patience_eq_zero zero, Request.patience_eq_zero zero']
  | @passThrough name cache anyKind entryPoint lockTimeout anyKind' =>
    have hstores : Session.storesOf registry request.cache = false := by
      rw [Session.storesOf, cache]
      rfl
    simp only [plain, hstores, anyKind, anyKind', Bool.false_eq_true, if_false]

theorem plain_loader {loader loader' : Loader τ} (h : loader.Interchangeable registry loader') :
    (plain (Session.storesOf registry)).loader loader = (plain (Session.storesOf registry)).loader loader' := by
  induction h with
  | done _ | fail _ | panic _ => rfl
  | sleep _ _ ih | invalidate _ _ _ ih | invalidateAll _ _ ih => simp only [Guise.loader, ih]
  | get asked _ ih => simp only [Guise.loader, plain_request asked, ih]

theorem plain_step {step step' : Session.Step} (h : step.Interchangeable registry step') :
    (plain (Session.storesOf registry)).step step = (plain (Session.storesOf registry)).step step' := by
  cases h with
  | start task asked h | get task limit asked h => simp only [Guise.step, plain_request asked, plain_loader h]
  | refl => rfl

end

end Guise

namespace Session

open Guise (plain)

/-- Sessions that come to the same with plain requests look alike. -/
theorem looksLike_of_plain {stores : String → Bool} {x y : Session}
    (h : (plain stores).session x = (plain stores).session y) : x.LooksLike y where
  now := congrArg (·.system.now) h
  caches := by
    have hcaches := congrArg (·.system.registry) h
    simpa only [Guise.session, Guise.registry_system, Guise.registry_plain] using hcaches
  history := congrArg (·.system.history) h
  tasks := by
    have htasks := congrArg (fun x => x.tasks.map fun task => (task.id, task.name)) h
    simp only [Guise.session, List.map_map] at htasks
    exact htasks

variable {registry : Registry}

/-- **Entry points agree.** If the requests of the gets that a session starts, and of those that their loaders make, are
replaced by interchangeable ones, every step reports the same as before, and nothing tells the sessions apart
afterwards. -/
theorem run_interchangeable (built : registry.Built) {steps steps' : List Step}
    (h : List.Forall₂ (Step.Interchangeable registry) steps steps') :
    ((start registry).run steps).2 = ((start registry).run steps').2 ∧
      ((start registry).run steps).1.LooksLike ((start registry).run steps').1 := by
  let v := plain (storesOf registry)
  have hsteps : steps.map v.step = steps'.map v.step := by
    induction h with
    | nil => rfl
    | cons hstep _ ih => rw [List.map_cons, List.map_cons, Guise.plain_step hstep, ih]
  have hstart : v.session (start registry) = start registry :=
    congrArg start (Guise.registry_plain (storesOf registry) registry)
  have hsited : (start registry).system.registry.Sited (storesOf registry) :=
    (orderly_start built fun _ => True).fits.sited
  have hrun := Guise.run_session (Guise.apt_plain _) hsited steps
  have hrun' := Guise.run_session (Guise.apt_plain _) hsited steps'
  have hreports (reports : List Report) : reports.map v.report = reports := by
    rw [show v.report = id from funext (Guise.report_plain _), List.map_id]
  have hsame : (v.session ((start registry).run steps).1, ((start registry).run steps).2) =
      (v.session ((start registry).run steps').1, ((start registry).run steps').2) := by
    rw [← hreports ((start registry).run steps).2, ← hreports ((start registry).run steps').2]
    exact hrun.symm.trans ((congrArg (v.session (start registry)).run hsteps).trans hrun')
  obtain ⟨hsessions, hsaid⟩ := Prod.mk.inj hsame
  exact ⟨hsaid, looksLike_of_plain hsessions⟩

/-- A local cache and one that passes calls through. -/
private def both : Registry := ⟨(Registry.sole "c" .unset).caches.insert "n" (.passThrough "n")⟩

private def asking (cache : String) (entryPoint : EntryPoint) (ms : Nat) : Request :=
  ⟨"g", cache, .ok (.ofNat 1), entryPoint, .ofMillis ms⟩

/-- Two gets wait for the load of a third, one of them not to the end. -/
private def throughCache : List Step :=
  [.start "a" .flag (asking "c" .registry 5) (.sleep 9 (.get (asking "n" .registry 1) (.done none))),
    .start "b" .flag (asking "c" .cacheTimed 5) (.done none), .start "d" .flag (asking "c" .cache 0) (.done none),
    .advance 20]

private def throughStore : List Step :=
  [.start "a" .flag (asking "c" .storeTimed 5) (.sleep 9 (.get (asking "n" .cache 3) (.done none))),
    .start "b" .flag (asking "c" .registry 5) (.done none), .start "d" .flag (asking "c" .store 7) (.done none),
    .advance 20]

theorem run_interchangeable_waiters : ((start both).run throughCache).2 = ((start both).run throughStore).2 ∧
    ((start both).run throughCache).1.LooksLike ((start both).run throughStore).1 := by
  have sole : (Registry.sole "c" .unset).Built := Registry.built_sole (by decide) rfl
  have built : both.Built := sole.register (.passThrough "n") rfl
  have hlocal : both.find? "c" = some (.local ⟨"c", .unset, ∅, ∅, 0, .start⟩) := rfl
  have hthrough : both.find? "n" = some (.passThrough "n") := rfl
  refine run_interchangeable built (.cons ?_ (.cons ?_ (.cons ?_ (.cons (.refl _) .nil))))
  · exact .start "a" (.timed hlocal rfl rfl) (.sleep 9 (.get (.passThrough hthrough rfl rfl) (.done none)))
  · exact .start "b" (.timed hlocal rfl rfl) (.done none)
  · exact .start "d" (.unbounded hlocal (fun _ => rfl) fun untimed => Bool.noConfusion untimed) (.done none)

end Session

end SingleFlight
