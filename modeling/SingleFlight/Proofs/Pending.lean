import SingleFlight.Proofs.Depth
import SingleFlight.Proofs.Reached
import SingleFlight.Proofs.Schedule

/-!
# Gets in progress

What gets and loads look like between two polls, however gets nest.

* a get waits for a load that is there. It waits without bound only for a load that it has started itself, and so for a
  later one than the load whose loader it was made by, unless requests without a lock timeout are allowed
  (`Get.Fits`, kept by `System.fits_poll`);
* between polls no load is being advanced, and no loader is about to be called (`Get.Calm`, `System.Restless`, brought
  about by `System.calm_poll`);
* every schedule keeps both (`Session.orderly_play`).
-/

namespace SingleFlight

/-- What is left of a poll has the property. -/
def Progress.All {σ ε α : Type} (P : σ → Prop) : Progress σ ε α → Prop
  | .pending rest => P rest
  | .ended _ => True

theorem Progress.All.imp {σ ε α : Type} {P Q : σ → Prop} (h : ∀ rest, P rest → Q rest) {progress : Progress σ ε α}
    (hall : progress.All P) : progress.All Q := by
  cases progress with
  | pending rest => exact h rest hall
  | ended outcome => trivial

/-- Which requests are allowed, and which caches are local. -/
structure Setting where
  allowed : Request → Prop
  stores : String → Bool

/-- A get on a local cache may wait for any load without bound. -/
def Setting.Boundless (m : Setting) : Prop :=
  ∃ request, m.allowed request ∧ m.stores request.cache = true ∧ request.patience = .zero

/-- The loader makes only gets that are allowed. -/
def Loader.Asks (allowed : Request → Prop) : Loader τ → Prop
  | .done _ | .fail _ | .panic _ => True
  | .sleep _ next | .invalidate _ _ next | .invalidateAll _ next => next.Asks allowed
  | .get request loader => allowed request ∧ loader.Asks allowed

theorem Loader.asks_all : (loader : Loader τ) → loader.Asks fun _ => True
  | .done _ | .fail _ | .panic _ => trivial
  | .sleep _ next => asks_all next
  | .invalidate _ _ next => asks_all next
  | .invalidateAll _ next => asks_all next
  | .get _ loader => ⟨trivial, asks_all loader⟩

mutual
/-- The get may have come to where it is when there are `count` loads, of which those from `first` on have been started
since it was made. -/
def Get.Fits (m : Setting) (first count : Nat) : Get τ → Prop
  | .asking request loader => m.allowed request ∧ loader.Asks m.allowed
  | .awaiting _ _ id none => id < count ∧ (first ≤ id ∨ m.Boundless)
  | .awaiting cache key id (some p) =>
    id < count ∧ (p.call.cache = cache ∧ p.call.key = key) ∧ p.loader.Asks m.allowed
  | .loading _ run => run.Fits m first count

def Run.Fits (m : Setting) (first count : Nat) : Run τ → Prop
  | .calling _ loader | .running loader | .sleeping _ loader => loader.Asks m.allowed
  | .nested get => get.Fits m first count
end

mutual
/-- No loader is about to be called. -/
def Get.Calm : Get τ → Prop
  | .asking _ _ | .awaiting _ _ _ _ => True
  | .loading _ run => run.Calm

def Run.Calm : Run τ → Prop
  | .calling _ _ => False
  | .running _ | .sleeping _ _ => True
  | .nested get => get.Calm
end

/-- The load is being advanced, or a loader is about to be called in it. -/
def LoadState.Restless : LoadState → Prop
  | .idle _ run => ¬ run.Calm
  | .busy => True
  | .ended _ => False

mutual
theorem Get.Fits.mono {m : Setting} {first count more : Nat} (hle : count ≤ more) :
    {get : Get τ} → get.Fits m first count → get.Fits m first more
  | .asking _ _, h => h
  | .awaiting _ _ _ none, h => ⟨Nat.lt_of_lt_of_le h.1 hle, h.2⟩
  | .awaiting _ _ _ (some _), h => ⟨Nat.lt_of_lt_of_le h.1 hle, h.2⟩
  | .loading _ _, h => Run.Fits.mono hle h

theorem Run.Fits.mono {m : Setting} {first count more : Nat} (hle : count ≤ more) :
    {run : Run τ} → run.Fits m first count → run.Fits m first more
  | .calling _ _, h | .running _, h | .sleeping _ _, h => h
  | .nested _, h => Get.Fits.mono hle h
end

/-- The registry has local stores under these names only, and every cache goes by its own name. -/
def Registry.Sited (registry : Registry) (stores : String → Bool) : Prop :=
  (∀ name cache, registry.find? name = some cache → cache.name = name) ∧
    ∀ name, ((registry.find? name).bind Cache.store?).isSome = stores name

namespace System

variable {m : Setting} {s t : System}

theorem sited_move (move : Move s t) {stores : String → Bool} (h : s.registry.Sited stores) :
    t.registry.Sited stores := by
  have hnamed : s.Named := h.1
  exact ⟨hnamed.move move, fun name => (isSome_store?_move move name).trans (h.2 name)⟩

theorem move_of_lookUp {request : Request} {store : LocalStore} {key : Key} {loader : Loader τ} {found : Found}
    (hreach : s.reach request = .ok (.local store))
    (hlook : s.lookUp store ⟨request.label, store.name, key⟩ loader = (t, found)) : Move s t := by
  have hmove := Move.lookUp (find?_of_reach hreach) request.label key loader
  rwa [hlook] at hmove

/-- A request that reaches a local store asks for one that is there under its name. -/
theorem stores_of_reach {stores : String → Bool} (h : s.registry.Sited stores) {request : Request}
    {store : LocalStore} (hreach : s.reach request = .ok (.local store)) :
    stores request.cache = true ∧ store.name = request.cache := by
  have hfind := find?_of_reach hreach
  refine ⟨?_, h.1 _ _ hfind⟩
  rw [← h.2, hfind]
  rfl

/-- What a request is passed through is no local store. -/
theorem not_stores_of_reach {stores : String → Bool} (h : s.registry.Sited stores) {request : Request} {name : String}
    (hreach : s.reach request = .ok (.passThrough name)) : stores name = false := by
  have hfind := find?_of_reach hreach
  have hname : name = request.cache := h.1 _ _ hfind
  rw [← h.2, hname, hfind]
  rfl

/-! ### Fitting -/

/-- The loader of every load fits the loads that have been started since. -/
structure Fits (m : Setting) (s : System) : Prop where
  sited : s.registry.Sited m.stores
  numbered : s.Numbered
  loads : ∀ (id number : Nat) (cache : String) (key : Key) (τ : ValueType) (run : Run τ),
    s.load? id = some ⟨cache, key, number, .idle τ run⟩ → run.Fits m (id + 1) s.loads.length

namespace Fits

theorem emit (h : s.Fits m) (event : Event) : (s.emit event).Fits m := ⟨h.sited, h.numbered.emit event, h.loads⟩

/-- A move that keeps all loads. -/
theorem of_loads (h : s.Fits m) (move : Move s t) (hloads : t.loads = s.loads) : t.Fits m := by
  refine ⟨sited_move move h.sited, h.numbered.move h.sited.1 move, fun id number cache key τ run hload => ?_⟩
  rw [load?, hloads] at hload
  rw [hloads]
  exact h.loads id number cache key τ run hload

/-- A load is set to a state that fits. -/
theorem loads_setLoad (h : s.Fits m) {id : Nat} (state : LoadState)
    (hstate : ∀ τ run, state = .idle τ run → run.Fits m (id + 1) s.loads.length) {other number : Nat}
    {cache : String} {key : Key} {τ : ValueType} {run : Run τ}
    (hload : (s.setLoad id state).load? other = some ⟨cache, key, number, .idle τ run⟩) :
    run.Fits m (other + 1) s.loads.length := by
  by_cases hother : other = id
  · subst hother
    rw [load?_setLoad, if_pos rfl] at hload
    obtain ⟨load, -, hload⟩ := Option.map_eq_some_iff.1 hload
    cases hload
    exact hstate τ run rfl
  · rw [load?_setLoad_of_ne s hother] at hload
    exact h.loads other number cache key τ run hload

theorem busy (h : s.Fits m) (id : Nat) : (s.setLoad id .busy).Fits m := by
  refine ⟨h.sited, h.numbered.setLoad (.inl fun _ => nofun), fun other number cache key τ run hload => ?_⟩
  rw [length_loads_setLoad]
  exact h.loads_setLoad .busy (fun _ _ => nofun) hload

theorem idle (h : s.Fits m) {id : Nat} {run : Run τ} (hrun : run.Fits m (id + 1) s.loads.length) :
    (s.setLoad id (.idle τ run)).Fits m := by
  refine ⟨h.sited, h.numbered.setLoad (.inl fun _ => nofun), fun other number cache key τ' run' hload => ?_⟩
  rw [length_loads_setLoad]
  refine h.loads_setLoad _ (fun τ'' run'' heq => ?_) hload
  cases heq
  exact hrun

theorem lookUp (h : s.Fits m) {request : Request} {store : LocalStore} {key : Key} {loader : Loader τ} {found : Found}
    (hreach : s.reach request = .ok (.local store)) (hasks : loader.Asks m.allowed)
    (hlook : s.lookUp store ⟨request.label, store.name, key⟩ loader = (t, found)) : t.Fits m := by
  have hmove := move_of_lookUp hreach hlook
  unfold System.lookUp at hlook
  split at hlook
  · obtain ⟨rfl, -⟩ := Prod.mk.inj hlook
    exact h.of_loads hmove rfl
  · split at hlook
    · obtain ⟨rfl, -⟩ := Prod.mk.inj hlook
      exact h.of_loads hmove rfl
    · obtain ⟨rfl, -⟩ := Prod.mk.inj hlook
      have hlength : (s.launch store ⟨request.label, store.name, key⟩ loader).loads.length = s.loads.length + 1 :=
        List.length_append
      refine ⟨sited_move hmove h.sited, h.numbered.move h.sited.1 hmove, fun id number cache key τ run hload => ?_⟩
      rw [loads_emit, hlength]
      rw [load?_emit, Numbered.load?_launch] at hload
      split at hload
      · -- the load that was started calls the loader of the get
        cases hload
        exact hasks
      · exact (h.loads id number cache key τ run hload).mono (Nat.le_succ _)

theorem land (h : s.Fits m) {id number : Nat} {cache : String} {key : Key}
    (hload : s.load? id = some ⟨cache, key, number, .busy⟩) (outcome : LoadResult) :
    (s.land id cache key number outcome).Fits m := by
  have hloads := loads_land s id cache key number outcome
  refine ⟨sited_move (.land hload outcome) h.sited, h.numbered.land hload outcome,
    fun other number' cache' key' τ run hother => ?_⟩
  rw [hloads, length_loads_setLoad]
  rw [load?, hloads] at hother
  exact h.loads_setLoad (.ended outcome) (fun _ _ hidle => by cases hidle) hother

theorem invalidateIn (h : s.Fits m) {name : String} {cache : Cache} (hfind : s.registry.find? name = some cache)
    (key : Key) : (s.invalidateIn cache key).Fits m :=
  h.of_loads (.invalidate hfind key) (loads_invalidateIn s cache key)

theorem invalidateAllIn (h : s.Fits m) {name : String} {cache : Cache} (hfind : s.registry.find? name = some cache) :
    (s.invalidateAllIn cache).Fits m :=
  h.of_loads (.invalidateAll hfind) (loads_invalidateAllIn s cache)

end Fits

/-- The load that a lookup joins is there. -/
theorem lt_of_joined (h : s.Fits m) {request : Request} {store : LocalStore} {key : Key} {loader : Loader τ} {id : Nat}
    (hreach : s.reach request = .ok (.local store))
    (hlook : s.lookUp store ⟨request.label, store.name, key⟩ loader = (t, .joined id)) : id < t.loads.length := by
  unfold System.lookUp at hlook
  split at hlook
  · cases hlook
  · split at hlook
    next flight hflight =>
      obtain ⟨rfl, hfound⟩ := Prod.mk.inj hlook
      obtain rfl : flight.load = id := Found.joined.inj hfound
      obtain ⟨⟨load, hload, -⟩, -⟩ :=
        h.numbered.flying request.cache store key flight (store?_of_find? (find?_of_reach hreach)) hflight
      exact Numbered.lt_of_load? hload
    · cases hlook

theorem length_loads_advance (depth : Nat) (s : System) (id : Nat) :
    s.loads.length ≤ (advance depth s id).loads.length := length_loads_moves (polled_advance depth s id).moves

end System

/-- The get fits a system that fits: it was made when there were `first` loads at most. -/
structure Get.Sits (m : Setting) (first : Nat) (s : System) (get : Get τ) : Prop where
  system : s.Fits m
  first_le : first ≤ s.loads.length
  fits : get.Fits m first s.loads.length

structure Run.Sits (m : Setting) (first : Nat) (s : System) (run : Run τ) : Prop where
  system : s.Fits m
  first_le : first ≤ s.loads.length
  fits : run.Fits m first s.loads.length

namespace Get.Sits

variable {m : Setting} {first : Nat} {s t : System} {request : Request} {loader : Loader τ}

theorem passed (h : (Get.asking request loader).Sits m first s) (name : String) (call : Call) (event : Event) :
    (Get.loading name (.calling call loader)).Sits m first (s.emit event) :=
  ⟨h.system.emit event, h.first_le, h.fits.2⟩

theorem started (h : (Get.asking request loader).Sits m first s) {store : LocalStore} {key : Key} {id : Nat}
    (hreach : s.reach request = .ok (.local store))
    (hlook : s.lookUp store ⟨request.label, store.name, key⟩ loader = (t, .started id)) :
    (Get.awaiting (τ := τ) store.name key id none).Sits m first t := by
  have hlength := System.length_loads_moves (.single (System.move_of_lookUp hreach hlook))
  obtain ⟨hid, hload⟩ := System.load?_of_started hlook
  have hfirst := h.first_le
  refine ⟨h.system.lookUp hreach h.fits.2 hlook, ?_, System.Numbered.lt_of_load? hload, .inl ?_⟩
  · omega
  · omega

theorem joined (h : (Get.asking request loader).Sits m first s) {store : LocalStore} {key : Key} {id : Nat}
    (hreach : s.reach request = .ok (.local store))
    (hlook : s.lookUp store ⟨request.label, store.name, key⟩ loader = (t, .joined id)) :
    (Get.awaiting store.name key id (request.patienceAt t.now ⟨request.label, store.name, key⟩ loader)).Sits m first
      t := by
  have hlength := System.length_loads_moves (.single (System.move_of_lookUp hreach hlook))
  obtain ⟨hstore, hname⟩ := System.stores_of_reach h.system.sited hreach
  have hsystem := h.system.lookUp hreach h.fits.2 hlook
  have hlt : id < t.loads.length := System.lt_of_joined h.system hreach hlook
  refine ⟨hsystem, Nat.le_trans h.first_le hlength, ?_⟩
  unfold Request.patienceAt
  split
  next hzero => exact ⟨hlt, .inr ⟨request, h.fits.1, hstore, hzero⟩⟩
  next => exact ⟨hlt, ⟨rfl, rfl⟩, h.fits.2⟩

theorem lt {cache : String} {key : Key} {id : Nat} {patience : Option (Patience τ)}
    (h : (Get.awaiting cache key id patience).Sits m first s) : id < s.loads.length := by
  have hfits := h.fits
  cases patience with
  | none => exact hfits.1
  | some p => exact hfits.1

theorem timedOut {cache : String} {key : Key} {id : Nat} {p : Patience τ}
    (h : (Get.awaiting cache key id (some p)).Sits m first s) (ht : t.Fits m)
    (hlength : s.loads.length ≤ t.loads.length) (event : Event) :
    (Get.loading cache (.calling p.call p.loader)).Sits m first (t.emit event) :=
  ⟨ht.emit event, Nat.le_trans h.first_le hlength, h.fits.2.2⟩

theorem loading {cache : String} {run : Run τ} (h : (Get.loading cache run).Sits m first s) : run.Sits m first s :=
  ⟨h.system, h.first_le, h.fits⟩

end Get.Sits

namespace Run.Sits

variable {m : Setting} {first : Nat} {s t : System} {next : Loader τ} {cache : String}

theorem calling {call : Call} (h : (Run.calling call next).Sits m first s) (event : Event) :
    (Run.running next).Sits m first (s.emit event) := ⟨h.system.emit event, h.first_le, h.fits⟩

theorem awake {due : Nat} (h : (Run.sleeping due next).Sits m first s) : (Run.running next).Sits m first s :=
  ⟨h.system, h.first_le, h.fits⟩

theorem nested {get : Get τ} (h : (Run.nested get).Sits m first s) : get.Sits m first s :=
  ⟨h.system, h.first_le, h.fits⟩

theorem sleep {ms : Nat} (h : (Run.running (.sleep ms next)).Sits m first s) (due : Nat) :
    (Run.sleeping due next).Sits m first s := ⟨h.system, h.first_le, h.fits⟩

theorem nest {request : Request} (h : (Run.running (.get request next)).Sits m first s) :
    (Run.nested (.asking request next)).Sits m first s := ⟨h.system, h.first_le, h.fits⟩

theorem invalidate {key : Key} (h : (Run.running (.invalidate cache key next)).Sits m first s)
    (hdone : s.invalidate cache key = .ok t) : (Run.running next).Sits m first t := by
  obtain ⟨found, hfound, rfl⟩ := exists_of_map_eq_ok hdone
  refine ⟨h.system.invalidateIn (System.find?_of_require hfound) key, ?_, h.fits⟩
  rw [System.loads_invalidateIn]
  exact h.first_le

theorem invalidateAll (h : (Run.running (.invalidateAll cache next)).Sits m first s)
    (hdone : s.invalidateAll cache = .ok t) : (Run.running next).Sits m first t := by
  obtain ⟨found, hfound, rfl⟩ := exists_of_map_eq_ok hdone
  refine ⟨h.system.invalidateAllIn (System.find?_of_require hfound), ?_, h.fits⟩
  rw [System.loads_invalidateAllIn]
  exact h.first_le

/-- The loader of a load fits while it is polled. -/
theorem opened {id number : Nat} {key : Key} {run : Run τ} (h : s.Fits m)
    (hload : s.load? id = some ⟨cache, key, number, .idle τ run⟩) : run.Sits m (id + 1) (s.setLoad id .busy) := by
  have hfits := h.loads id number cache key τ run hload
  refine ⟨h.busy id, ?_, ?_⟩
  · rw [System.length_loads_setLoad]
    exact System.Numbered.lt_of_load? hload
  · rwa [System.length_loads_setLoad]

end Run.Sits

namespace System

variable {m : Setting} {s t : System}

/-- A poll of what fits leaves what fits. -/
private def fitting (m : Setting) : Judgement where
  get _ s get t progress := ∀ first, get.Sits m first s → t.Fits m ∧ progress.All (·.Fits m first t.loads.length)
  run _ s _ run t progress := ∀ first, run.Sits m first s → t.Fits m ∧ progress.All (·.Fits m first t.loads.length)
  load _ s _ t := s.Fits m → t.Fits m

private theorem fittingGets : (fitting m).KeptByGets where
  cut _ _ _ h := ⟨h.system, h.fits⟩
  unkeyed _ _ h := ⟨h.system, trivial⟩
  refused _ _ _ h := ⟨h.system, trivial⟩
  passed _ _ hrest first h := hrest first (h.passed ..)
  found _ hreach hlook _ h := ⟨h.system.lookUp hreach h.fits.2 hlook, trivial⟩
  started _ hreach hlook hrest first h := hrest first (h.started hreach hlook)
  joined _ hreach hlook hrest first h := hrest first (h.joined hreach hlook)
  told hadvance _ _ h := ⟨hadvance h.system, trivial⟩
  waiting hadvance _ _ _ h := ⟨hadvance h.system, h.fits.mono (length_loads_advance ..)⟩
  timedOut hadvance _ _ hrest first h := hrest first (h.timedOut (hadvance h.system) (length_loads_advance ..) _)
  loading _ hrun first h := hrun first h.loading
  loaded _ hrun first h := ⟨(hrun first h.loading).1, trivial⟩

private theorem fittingRuns : (fitting m).KeptByRuns where
  cut _ _ _ _ h := ⟨h.system, h.fits⟩
  calling hrest first h := hrest first (h.calling _)
  awake _ hrest first h := hrest first h.awake
  asleep _ _ h := ⟨h.system, h.fits⟩
  nesting _ hget first h := hget first h.nested
  nested _ hget first h := ⟨(hget first h.nested).1, trivial⟩
  done _ _ _ _ _ h := ⟨h.system, trivial⟩
  fail _ _ _ _ _ h := ⟨h.system, trivial⟩
  panic _ _ _ _ _ h := ⟨h.system, trivial⟩
  sleep hrest first h := hrest first (h.sleep _)
  invalidate hdone hrest first h := hrest first (h.invalidate hdone)
  invalidateNone _ _ h := ⟨h.system, trivial⟩
  invalidateAll hdone hrest first h := hrest first (h.invalidateAll hdone)
  invalidateAllNone _ _ h := ⟨h.system, trivial⟩
  get hrest first h := hrest first h.nest

private theorem fittingLoads : (fitting m).KeptByLoads where
  cut _ _ h := h
  still _ h := h
  paused {τ depth id number s t cache key run rest} hload _ hrun h := by
    obtain ⟨ht, hrest⟩ := hrun (id + 1) (.opened h hload)
    exact ht.idle hrest
  landed {τ depth id number s t cache key run outcome} hload hpoll hrun h := by
    obtain ⟨ht, -⟩ := hrun (id + 1) (.opened h hload)
    exact ht.land (busy_of_opened hload hpoll) _

private theorem fittingPolls : (fitting m).Kept := ⟨fittingGets, fittingRuns, fittingLoads⟩

theorem fits_poll {first : Nat} {get : Get τ} (h : get.Sits m first s) {depth : Nat}
    {progress : Progress (Get τ) CacheFault (Option (Typed τ))} (hpoll : Get.poll depth s get = (t, progress)) :
    t.Fits m ∧ progress.All (·.Fits m first t.loads.length) := by
  have hafter := (fittingPolls.polls depth).get s get first h
  rwa [hpoll] at hafter

theorem fits_advance (h : s.Fits m) (depth id : Nat) : (advance depth s id).Fits m :=
  (fittingPolls.polls depth).load s id h

/-! ### Calm -/

def Restless (s : System) (id : Nat) : Prop := ∃ load, s.load? id = some load ∧ load.state.Restless

def Busy (s : System) (id : Nat) : Prop := ∃ load, s.load? id = some load ∧ load.state = .busy

theorem Busy.restless {id : Nat} (h : s.Busy id) : s.Restless id := by
  obtain ⟨load, hload, hbusy⟩ := h
  refine ⟨load, hload, ?_⟩
  rw [hbusy]
  trivial

theorem restless_congr (hloads : t.loads = s.loads) {id : Nat} (h : t.Restless id) : s.Restless id := by
  rwa [Restless, load?, hloads] at h

theorem restless_of_lookUp {store : LocalStore} {call : Call} {loader : Loader τ} {found : Found}
    (hlook : s.lookUp store call loader = (t, found)) {id : Nat} (h : t.Restless id) :
    s.Restless id ∨ found = .started id := by
  obtain ⟨load, hload, hrestless⟩ := h
  refine (load?_of_lookUp hlook id).imp_left fun hsame => ?_
  exact ⟨load, hsame.symm.trans hload, hrestless⟩

theorem not_restless_setLoad {id : Nat} {state : LoadState} (hstate : ¬ state.Restless) :
    ¬ (s.setLoad id state).Restless id := by
  rintro ⟨load, hload, hrestless⟩
  rw [load?_setLoad, if_pos rfl] at hload
  obtain ⟨before, -, rfl⟩ := Option.map_eq_some_iff.1 hload
  exact hstate hrestless

theorem restless_of_setLoad {id other : Nat} {state : LoadState} (h : (s.setLoad id state).Restless other) :
    other = id ∨ s.Restless other := by
  by_cases hother : other = id
  · exact .inl hother
  · obtain ⟨load, hload, hrestless⟩ := h
    exact .inr ⟨load, (load?_setLoad_of_ne s hother state).symm.trans hload, hrestless⟩

/-- A load that has been set to rest was set so by the poll that had opened it. -/
theorem restless_of_closed {id other : Nat} {state : LoadState} (hstate : ¬ state.Restless)
    (hopened : ∀ i, t.Restless i → (s.setLoad id .busy).Restless i) (h : (t.setLoad id state).Restless other) :
    s.Restless other := by
  rcases restless_of_setLoad h with rfl | hafter
  · exact absurd h (not_restless_setLoad hstate)
  · rcases restless_of_setLoad (hopened other hafter) with rfl | hbefore
    · exact absurd h (not_restless_setLoad hstate)
    · exact hbefore

/-- A poll with the depth for the work at hand leaves no load restless that was not, and not the load that the get
waits for unless it is being advanced, and no loader is about to be called after it. -/
private def calming : Judgement where
  get depth s get t progress := s.work + get.size ≤ depth → (∀ i, t.Restless i → s.Restless i) ∧
    (∀ cache key id patience, get = .awaiting cache key id patience → t.Restless id → s.Busy id) ∧
    progress.All Get.Calm
  run depth s _ run t progress := s.work + run.size ≤ depth → (∀ i, t.Restless i → s.Restless i) ∧
    progress.All Run.Calm
  load depth s id t := s.work + 1 ≤ depth → (∀ i, t.Restless i → s.Restless i) ∧ (t.Restless id → s.Busy id)

private theorem calmingGets : calming.KeptByGets where
  cut s get hdepth := absurd hdepth (Nat.not_le_of_lt (Nat.lt_add_left s.work get.size_pos))
  unkeyed _ _ := ⟨fun _ h => h, fun _ _ _ _ => nofun, trivial⟩
  refused _ _ _ := ⟨fun _ h => h, fun _ _ _ _ => nofun, trivial⟩
  passed {τ depth s t request loader key name progress} _ _ hrest hdepth := by
    obtain ⟨hloads, -, hcalm⟩ := hrest (deep_of_passed name _ hdepth)
    exact ⟨hloads, fun _ _ _ _ => nofun, hcalm⟩
  found _ _ hlook _ :=
    ⟨fun i hi => (restless_of_lookUp hlook hi).resolve_right nofun, fun _ _ _ _ => nofun, trivial⟩
  started {τ depth id s t u request loader key store progress} _ hreach hlook hrest hdepth := by
    obtain ⟨hloads, hwaits, hcalm⟩ := hrest (deep_of_started hlook hdepth _ _)
    refine ⟨fun i hi => ?_, fun _ _ _ _ => nofun, hcalm⟩
    rcases restless_of_lookUp hlook (hloads i hi) with hbefore | hstarted
    · exact hbefore
    · -- the load that was started is advanced at once
      obtain rfl : id = i := Found.started.inj hstarted
      obtain ⟨load, hload, hbusy⟩ := hwaits _ _ _ _ rfl hi
      rw [(load?_of_started hlook).2] at hload
      cases hload
      cases hbusy
  joined {τ depth id s t u request loader key store progress} _ hreach hlook hrest hdepth := by
    obtain ⟨hloads, -, hcalm⟩ := hrest (deep_of_joined hlook hdepth _ _)
    exact ⟨fun i hi => (restless_of_lookUp hlook (hloads i hi)).resolve_right nofun, fun _ _ _ _ => nofun, hcalm⟩
  told {τ depth id s cache key patience outcome} hadvance _ hdepth := by
    obtain ⟨hloads, hbusy⟩ := hadvance (deep_of_awaiting hdepth)
    refine ⟨hloads, fun _ _ _ _ heq => ?_, trivial⟩
    cases heq
    exact hbusy
  waiting {τ depth id s cache key patience} hadvance _ _ hdepth := by
    obtain ⟨hloads, hbusy⟩ := hadvance (deep_of_awaiting hdepth)
    refine ⟨hloads, fun _ _ _ _ heq => ?_, trivial⟩
    cases heq
    exact hbusy
  timedOut {τ depth id s t cache key p progress} hadvance _ _ hrest hdepth := by
    obtain ⟨hloads, hbusy⟩ := hadvance (deep_of_awaiting hdepth)
    obtain ⟨hloads', -, hcalm⟩ := hrest (deep_of_timedOut hdepth)
    refine ⟨fun i hi => hloads i (hloads' i hi), fun _ _ _ _ heq hi => ?_, hcalm⟩
    cases heq
    exact hbusy (hloads' _ hi)
  loading {τ depth s t cache run rest} _ hrun hdepth := by
    obtain ⟨hloads, hcalm⟩ := hrun (Nat.le_of_succ_le_succ hdepth)
    exact ⟨hloads, fun _ _ _ _ => nofun, hcalm⟩
  loaded {τ depth s t cache run outcome} _ hrun hdepth :=
    ⟨(hrun (Nat.le_of_succ_le_succ hdepth)).1, fun _ _ _ _ => nofun, trivial⟩

private theorem calmingRuns : calming.KeptByRuns where
  cut s load run hdepth := absurd hdepth (Nat.not_le_of_lt (Nat.lt_add_left s.work run.size_pos))
  calling hrest hdepth := hrest (Nat.le_of_succ_le_succ hdepth)
  awake _ hrest hdepth := hrest (Nat.le_of_succ_le_succ hdepth)
  asleep _ _ := ⟨fun _ h => h, trivial⟩
  nesting _ hget hdepth := by
    obtain ⟨hloads, -, hcalm⟩ := hget (Nat.le_of_succ_le_succ hdepth)
    exact ⟨hloads, hcalm⟩
  nested _ hget hdepth := ⟨(hget (Nat.le_of_succ_le_succ hdepth)).1, trivial⟩
  done _ _ _ _ _ := ⟨fun _ h => h, trivial⟩
  fail _ _ _ _ _ := ⟨fun _ h => h, trivial⟩
  panic _ _ _ _ _ := ⟨fun _ h => h, trivial⟩
  sleep hrest hdepth := hrest (Nat.le_of_succ_le_succ hdepth)
  invalidate hdone hrest hdepth := by
    obtain ⟨hloads, hcalm⟩ := hrest (deep_of_invalidate hdone hdepth)
    obtain ⟨found, -, rfl⟩ := exists_of_map_eq_ok hdone
    exact ⟨fun i hi => restless_congr (loads_invalidateIn ..) (hloads i hi), hcalm⟩
  invalidateNone _ _ := ⟨fun _ h => h, trivial⟩
  invalidateAll hdone hrest hdepth := by
    obtain ⟨hloads, hcalm⟩ := hrest (deep_of_invalidateAll hdone hdepth)
    obtain ⟨found, -, rfl⟩ := exists_of_map_eq_ok hdone
    exact ⟨fun i hi => restless_congr (loads_invalidateAllIn ..) (hloads i hi), hcalm⟩
  invalidateAllNone _ _ := ⟨fun _ h => h, trivial⟩
  get hrest hdepth := hrest (Nat.le_of_succ_le_succ hdepth)

private theorem calmingLoads : calming.KeptByLoads where
  cut s id hdepth := absurd hdepth (Nat.not_succ_le_zero _)
  still {depth id s} hstill _ := by
    refine ⟨fun _ h => h, ?_⟩
    rintro ⟨⟨cache, key, number, state⟩, hload, hrestless⟩
    cases state with
    | idle τ run => exact absurd hload (hstill cache key number τ run)
    | busy => exact ⟨_, hload, rfl⟩
    | ended outcome => exact hrestless.elim
  paused {τ depth id number s t cache key run rest} hload _ hrun hdepth := by
    obtain ⟨hloads, hcalm⟩ := hrun (deep_of_opened hload hdepth)
    have hstate : ¬ (LoadState.idle τ rest).Restless := fun h => h hcalm
    exact ⟨fun i => restless_of_closed hstate hloads, fun hid => absurd hid (not_restless_setLoad hstate)⟩
  landed {τ depth id number s t cache key run outcome} hload _ hrun hdepth := by
    obtain ⟨hloads, -⟩ := hrun (deep_of_opened hload hdepth)
    have hstate : ¬ (LoadState.ended (loadResult outcome)).Restless := fun h => h
    have hclosed : ∀ {i}, (t.land id cache key number (loadResult outcome)).Restless i →
        (t.setLoad id (.ended (loadResult outcome))).Restless i := restless_congr (loads_land ..)
    exact ⟨fun i hi => restless_of_closed hstate hloads (hclosed hi),
      fun hid => absurd (hclosed hid) (not_restless_setLoad hstate)⟩

/-- After a poll with the depth for the work at hand no load is restless that was not before. -/
theorem calm_poll {get : Get τ} {depth : Nat} (deep : s.work + get.size ≤ depth)
    {progress : Progress (Get τ) CacheFault (Option (Typed τ))} (hpoll : Get.poll depth s get = (t, progress)) :
    (∀ id, t.Restless id → s.Restless id) ∧ progress.All Get.Calm := by
  have hkept : calming.Kept := ⟨calmingGets, calmingRuns, calmingLoads⟩
  have hafter := (hkept.polls depth).get s get deep
  rw [hpoll] at hafter
  exact ⟨hafter.1, hafter.2.2⟩

end System

/-! ### Schedules -/

namespace Session

/-- The turn starts no get that is not allowed, and none whose loader makes one. -/
def Turn.Asks (allowed : Request → Prop) : Turn → Prop
  | .start _ _ request loader => allowed request ∧ loader.Asks allowed
  | _ => True

theorem Turn.asks_all (t : Turn) : t.Asks fun _ => True := by
  cases t with
  | start task type request loader => exact ⟨trivial, loader.asks_all⟩
  | _ => trivial

/-- Between two polls: all loads and the gets of all live tasks fit, and nothing is about to happen. -/
structure Orderly (m : Setting) (x : Session) : Prop where
  fits : x.system.Fits m
  calm : ∀ id, ¬ x.system.Restless id
  tasks : ∀ task ∈ x.tasks, task.get.Fits m 0 x.system.loads.length ∧ task.get.Calm

namespace Orderly

variable {m : Setting} {x y : Session}

/-- A turn that polls no task. -/
theorem quiet (h : x.Orderly m) {t : Turn} (hquiet : ∀ place, t ≠ .poll place) (asks : t.Asks m.allowed) :
    (x.turn t).Orderly m := by
  obtain ⟨hmove, hloads⟩ := turn_of_not_poll x hquiet
  refine ⟨?_, fun id hid => h.calm id (System.restless_congr hloads hid), fun task htask => ?_⟩
  · rcases hmove with hsame | hmove
    · rw [hsame]
      exact h.fits
    · exact h.fits.of_loads hmove hloads
  · rw [hloads]
    rcases mem_tasks_of_not_poll x hquiet htask with hold | ⟨name, type, request, loader, rfl, rfl⟩
    · exact h.tasks task hold
    · exact ⟨asks, trivial⟩

theorem poll (h : x.Orderly m) (place : Nat) : (x.turn (.poll place)).Orderly m := by
  cases hplace : x.tasks[place]? with
  | none =>
    rw [turn_poll_of_none x hplace]
    exact h
  | some polled =>
    have hmem : polled ∈ x.tasks := List.mem_of_getElem? hplace
    cases hpoll : x.system.poll polled.get with
    | mk s progress =>
      obtain ⟨hfits, hrest⟩ := System.fits_poll ⟨h.fits, Nat.zero_le _, (h.tasks polled hmem).1⟩ hpoll
      obtain ⟨hcalm, hnext⟩ := System.calm_poll (Nat.le_refl _) hpoll
      have hlength := System.length_loads_moves (System.moves_of_poll hpoll)
      rw [turn_poll x hplace hpoll]
      cases progress with
      | pending get =>
        refine ⟨hfits, fun id hid => h.calm id (hcalm id hid), fun task htask => ?_⟩
        rcases List.mem_or_eq_of_mem_set htask with hother | rfl
        · exact ⟨(h.tasks task hother).1.mono hlength, (h.tasks task hother).2⟩
        · exact ⟨hrest, hnext⟩
      | ended outcome =>
        refine ⟨hfits.emit _, fun id hid => h.calm id (hcalm id hid), fun task htask => ?_⟩
        have hold := h.tasks task (List.mem_of_mem_eraseIdx htask)
        exact ⟨hold.1.mono hlength, hold.2⟩

theorem turn (h : x.Orderly m) {t : Turn} (asks : t.Asks m.allowed) : (x.turn t).Orderly m := by
  cases t with
  | poll place => exact h.poll place
  | _ => exact h.quiet (fun _ => nofun) asks

theorem play (h : x.Orderly m) {turns : List Turn} (asks : ∀ t ∈ turns, t.Asks m.allowed) :
    (x.play turns).Orderly m := by
  induction turns generalizing x with
  | nil => exact h
  | cons t turns ih =>
    exact ih (h.turn (asks t (List.mem_cons_self ..))) fun t' ht' => asks t' (List.mem_cons_of_mem t ht')

/-- Between two polls every loader has been called. -/
theorem called (h : x.Orderly m) {id : Nat} {load : Load} (hload : x.system.load? id = some load) :
    load.state.called = true := by
  have hcalm : ¬ load.state.Restless := fun hrestless => h.calm id ⟨load, hload, hrestless⟩
  cases hstate : load.state with
  | idle τ run =>
    rw [hstate] at hcalm
    cases run with
    | calling call loader => exact absurd (fun hno => hno) hcalm
    | _ => rfl
  | busy => rfl
  | ended outcome => rfl

end Orderly

/-- The caches of a new registry that have a local store. -/
def storesOf (registry : Registry) (name : String) : Bool := ((registry.find? name).bind Cache.store?).isSome

theorem orderly_start {registry : Registry} (built : registry.Built) (allowed : Request → Prop) :
    (Session.start registry).Orderly ⟨allowed, storesOf registry⟩ := by
  refine ⟨⟨⟨fun name cache h => (built.new h).2, fun _ => rfl⟩, (System.sound_start built).numbered, ?_⟩, ?_, nofun⟩
  · exact fun _ _ _ _ _ _ => nofun
  · rintro id ⟨load, hload, -⟩
    cases hload

/-- Every schedule is orderly between its polls. -/
theorem orderly_play {registry : Registry} (built : registry.Built) {allowed : Request → Prop} {turns : List Turn}
    (asks : ∀ t ∈ turns, t.Asks allowed) :
    ((Session.start registry).play turns).Orderly ⟨allowed, storesOf registry⟩ :=
  (orderly_start built allowed).play asks

end Session

end SingleFlight
