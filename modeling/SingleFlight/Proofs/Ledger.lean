import Mathlib.Algebra.GroupWithZero.Nat
import Mathlib.Algebra.Ring.Int.Defs
import SingleFlight.Proofs.Moves
import SingleFlight.Proofs.Rules

/-!
# Ledgers

What a run has done and what is left to do add up. A ledger says what each event, each get and each loader counts for,
and its total is the sum over all events so far and over the loaders of all loads.

* each elementary step changes the total by the event that it leaves and by the loader that it moves
  (`Ledger.total_emit`, `Ledger.total_setLoad`, `Ledger.total_lookUp`, `Ledger.total_land`);
* if no single step of a poll lowers the total together with what is left of the get, no poll lowers it
  (`Ledger.Rises.poll`).
-/

namespace SingleFlight

/-- What events, gets and loaders count for. -/
structure Ledger where
  event : Event → Int
  get {τ : ValueType} : Get τ → Int
  run {τ : ValueType} : Run τ → Int

namespace Ledger

variable {l : Ledger}

/-- A load counts for what its loader does. While it is advanced, the poll that advances it has its loader. -/
def state (l : Ledger) : LoadState → Int
  | .idle _ run => l.run run
  | _ => 0

/-- All loads and all events so far. -/
def total (l : Ledger) (s : System) : Int :=
  (s.loads.map fun load => l.state load.state).sum + (s.history.map fun e => l.event e.event).sum

/-- What is left of a get after a poll. -/
def getLeft (l : Ledger) : Progress (Get τ) CacheFault (Option (Typed τ)) → Int
  | .pending rest => l.get rest
  | .ended _ => 0

def runLeft (l : Ledger) : Progress (Run τ) Failure (Option (Typed τ)) → Int
  | .pending rest => l.run rest
  | .ended _ => 0

/-! ### What elementary steps count for -/

theorem total_congr {s t : System} (hloads : t.loads = s.loads) (hhistory : t.history = s.history) :
    l.total t = l.total s := by
  rw [total, hloads, hhistory, total]

theorem total_emit (s : System) (event : Event) : l.total (s.emit event) = l.event event + l.total s := by
  show (s.loads.map fun load => l.state load.state).sum +
      (l.event event + (s.history.map fun e => l.event e.event).sum) =
    l.event event + ((s.loads.map fun load => l.state load.state).sum + (s.history.map fun e => l.event e.event).sum)
  omega

theorem sum_modify {loads : List Load} {id : Nat} {load : Load} (h : loads[id]? = some load) (state : LoadState) :
    ((loads.modify id fun load => { load with state }).map fun load => l.state load.state).sum + l.state load.state =
      (loads.map fun load => l.state load.state).sum + l.state state := by
  induction loads generalizing id with
  | nil => cases h
  | cons first rest ih =>
    cases id with
    | zero =>
      cases h
      simp only [List.modify_zero_cons, List.map_cons, List.sum_cons]
      omega
    | succ id =>
      have hrest := ih (List.getElem?_cons_succ ▸ h)
      simp only [List.modify_succ_cons, List.map_cons, List.sum_cons]
      omega

/-- A load whose state is set counts for what the new state does. -/
theorem total_setLoad {s : System} {id : Nat} {load : Load} (h : s.load? id = some load) (state : LoadState) :
    l.total (s.setLoad id state) + l.state load.state = l.total s + l.state state := by
  have hsum := sum_modify (l := l) h state
  show ((s.loads.modify id fun load => { load with state }).map fun load => l.state load.state).sum +
      (s.history.map fun e => l.event e.event).sum + _ =
    (s.loads.map fun load => l.state load.state).sum + (s.history.map fun e => l.event e.event).sum + _
  omega

/-- The end of a load that is being advanced counts for its event. -/
theorem total_land {s : System} {id number : Nat} {cache : String} {key : Key}
    (hload : s.load? id = some ⟨cache, key, number, .busy⟩) (outcome : LoadResult) :
    ∃ kept, l.total (s.land id cache key number outcome) = l.event (.landed id cache key outcome kept) + l.total s := by
  have hended : l.total (s.setLoad id (.ended outcome)) + 0 = l.total s + 0 := total_setLoad hload (.ended outcome)
  cases hin : s.inFlight cache key number with
  | true =>
    refine ⟨true, ?_⟩
    have hmapped : l.total ((s.mapStore cache (System.conclude s.now key outcome)).setLoad id (.ended outcome)) =
        l.total (s.setLoad id (.ended outcome)) := total_congr rfl rfl
    rw [System.land_of_kept hin, total_emit]
    omega
  | false =>
    refine ⟨false, ?_⟩
    rw [System.land_of_detached hin, total_emit]
    omega

theorem total_launch (s : System) (store : LocalStore) (call : Call) (loader : Loader τ) :
    l.total (s.launch store call loader) = l.total s + l.run (.calling call loader) := by
  show ((s.loads ++ [_]).map fun load : Load => l.state load.state).sum + (s.history.map fun e => l.event e.event).sum =
    (s.loads.map fun load => l.state load.state).sum + (s.history.map fun e => l.event e.event).sum + _
  rw [List.map_append, List.sum_append, List.map_singleton, List.sum_singleton]
  exact Int.add_right_comm ..

/-- What the load counts for that a lookup starts. -/
def launched (l : Ledger) (call : Call) (loader : Loader τ) : Found → Int
  | .started _ => l.run (.calling call loader)
  | .stored _ | .joined _ => 0

/-- A lookup counts for its event and for the load that it starts. -/
theorem total_lookUp {s t : System} {store : LocalStore} {call : Call} {loader : Loader τ} {found : Found}
    (h : s.lookUp store call loader = (t, found)) : l.total t =
      l.event (.lookedUp store.name call.key found) + l.total s + l.launched call loader found := by
  unfold System.lookUp at h
  split at h
  · obtain ⟨rfl, rfl⟩ := Prod.mk.inj h
    rw [total_emit]
    exact (Int.add_zero _).symm
  · split at h
    · obtain ⟨rfl, rfl⟩ := Prod.mk.inj h
      rw [total_emit]
      exact (Int.add_zero _).symm
    · obtain ⟨rfl, rfl⟩ := Prod.mk.inj h
      rw [total_emit, total_launch, launched]
      omega

/-- An invalidation counts for its event, if it leaves one. -/
theorem total_invalidateIn (s : System) (cache : Cache) (key : Key) :
    l.total (s.invalidateIn cache key) = l.total s ∨
      ∃ name, l.total (s.invalidateIn cache key) = l.event (.invalidated name key) + l.total s := by
  match cache with
  | .local store => exact .inr ⟨store.name, total_emit ..⟩
  | .passThrough _ => exact .inl rfl

theorem total_invalidateAllIn (s : System) (cache : Cache) : l.total (s.invalidateAllIn cache) = l.total s ∨
    ∃ name, l.total (s.invalidateAllIn cache) = l.event (.allInvalidated name) + l.total s := by
  match cache with
  | .local store => exact .inr ⟨store.name, total_emit ..⟩
  | .passThrough _ => exact .inl rfl

/-! ### What polls count for -/

/-- No step of a poll lowers the total and what is left together, in a system whose registry has the property. -/
structure Rises (l : Ledger) (P : Registry → Prop) : Prop where
  kept {s t : System} (move : System.Move s t) (h : P s.registry) : P t.registry
  refused {τ : ValueType} (request : Request) (loader : Loader τ) : l.get (.asking request loader) ≤ 0
  passed {τ : ValueType} {s : System} (h : P s.registry) {request : Request} {name : String}
    (hreach : s.reach request = .ok (.passThrough name)) (key : Key) (loader : Loader τ) :
    l.get (.asking request loader) ≤
      l.event (.passedThrough name key) + l.get (.loading name (.calling ⟨request.label, name, key⟩ loader))
  stored {τ : ValueType} (request : Request) (name : String) (key : Key) (value : Stored Value) (loader : Loader τ) :
    l.get (.asking request loader) ≤ l.event (.lookedUp name key (.stored value))
  started {τ : ValueType} (request : Request) (name : String) (key : Key) (id : Nat) (loader : Loader τ) :
    l.get (.asking request loader) ≤ l.event (.lookedUp name key (.started id)) +
      l.run (.calling ⟨request.label, name, key⟩ loader) + l.get (.awaiting (τ := τ) name key id none)
  joined {τ : ValueType} (request : Request) (name : String) (key : Key) (id now : Nat) (loader : Loader τ) :
    l.get (.asking request loader) ≤ l.event (.lookedUp name key (.joined id)) +
      l.get (.awaiting name key id (request.patienceAt now ⟨request.label, name, key⟩ loader))
  told {τ : ValueType} (name : String) (key : Key) (id : Nat) (patience : Option (Patience τ)) :
    l.get (.awaiting name key id patience) ≤ 0
  timedOut {τ : ValueType} (name : String) (key : Key) (id : Nat) (p : Patience τ) :
    l.get (.awaiting name key id (some p)) ≤
      l.event (.lockTimedOut name key id p.lockTimeout) + l.get (.loading name (.calling p.call p.loader))
  loading {τ : ValueType} (name : String) (run rest : Run τ) :
    l.get (.loading name run) + l.run rest ≤ l.get (.loading name rest) + l.run run
  loaded {τ : ValueType} (name : String) (run : Run τ) : l.get (.loading name run) ≤ l.run run
  calling {τ : ValueType} (call : Call) (load : Option Nat) (loader : Loader τ) :
    l.run (.calling call loader) ≤ l.event (.called call load) + l.run (.running loader)
  awake {τ : ValueType} (due : Nat) (loader : Loader τ) : l.run (.sleeping due loader) ≤ l.run (.running loader)
  nesting {τ : ValueType} (get rest : Get τ) :
    l.run (.nested get) + l.get rest ≤ l.run (.nested rest) + l.get get
  nested {τ : ValueType} (get : Get τ) : l.run (.nested get) ≤ l.get get
  ended {τ : ValueType} (loader : Loader τ) : l.run (.running loader) ≤ 0
  sleep {τ : ValueType} (ms due : Nat) (next : Loader τ) :
    l.run (.running (.sleep ms next)) ≤ l.run (.sleeping due next)
  invalidate {τ : ValueType} (cache : String) (key : Key) (next : Loader τ) :
    l.run (.running (.invalidate cache key next)) ≤ l.run (.running next)
  invalidateAll {τ : ValueType} (cache : String) (next : Loader τ) :
    l.run (.running (.invalidateAll cache next)) ≤ l.run (.running next)
  nest {τ : ValueType} (request : Request) (inner : Loader τ) :
    l.run (.running (.get request inner)) ≤ l.run (.nested (.asking request inner))
  invalidated (name : String) (key : Key) : 0 ≤ l.event (.invalidated name key)
  allInvalidated (name : String) : 0 ≤ l.event (.allInvalidated name)
  landed (id : Nat) (name : String) (key : Key) (outcome : LoadResult) (kept : Bool) :
    0 ≤ l.event (.landed id name key outcome kept)

namespace Rises

variable {P : Registry → Prop}

theorem kept_moves (rises : l.Rises P) {s t : System} (moves : System.Moves s t) (h : P s.registry) :
    P t.registry := by
  induction moves with
  | refl => exact h
  | tail _ last ih => exact rises.kept last ih

/-- A poll lowers nothing. -/
private def judgement (l : Ledger) (P : Registry → Prop) : Judgement where
  get _ s get t progress := P s.registry → l.total s + l.get get ≤ l.total t + l.getLeft progress
  run _ s _ run t progress := P s.registry → l.total s + l.run run ≤ l.total t + l.runLeft progress
  load _ s _ t := P s.registry → l.total s ≤ l.total t

private theorem looked (rises : l.Rises P) {s t : System} {request : Request} {key : Key} {store : LocalStore}
    {loader : Loader τ} {found : Found} (hreach : s.reach request = .ok (.local store))
    (hlook : s.lookUp store ⟨request.label, store.name, key⟩ loader = (t, found)) (h : P s.registry) :
    P t.registry ∧ l.total t = l.event (.lookedUp store.name key found) + l.total s +
      l.launched ⟨request.label, store.name, key⟩ loader found := by
  have hkept := rises.kept (.lookUp (System.find?_of_reach hreach) request.label key loader) h
  rw [hlook] at hkept
  exact ⟨hkept, total_lookUp hlook⟩

private theorem keptByGets (rises : l.Rises P) : (judgement l P).KeptByGets where
  cut s get _ := Int.le_refl _
  unkeyed {τ depth s request loader fault} _ _ := by
    have hrefused := rises.refused request loader
    show l.total s + l.get (.asking request loader) ≤ l.total s + 0
    omega
  refused {τ depth s request loader key fault} _ _ _ := by
    have hrefused := rises.refused request loader
    show l.total s + l.get (.asking request loader) ≤ l.total s + 0
    omega
  passed {τ depth s t request loader key name progress} _ hreach hrest h := by
    have hpassed := rises.passed h hreach key loader
    have hemit : l.total (s.emit (.passedThrough name key)) = _ + l.total s := total_emit ..
    have hrest : _ ≤ l.total t + l.getLeft progress := hrest h
    omega
  found {τ depth s t request loader key store value} _ hreach hlook h := by
    obtain ⟨-, htotal⟩ := looked rises hreach hlook h
    have hstored := rises.stored request store.name key value loader
    rw [launched] at htotal
    show l.total s + l.get (.asking request loader) ≤ l.total t + 0
    omega
  started {τ depth id s t u request loader key store progress} _ hreach hlook hrest h := by
    obtain ⟨hkept, htotal⟩ := looked rises hreach hlook h
    have hstarted := rises.started request store.name key id loader
    rw [launched] at htotal
    have hrest : _ ≤ l.total u + l.getLeft progress := hrest hkept
    omega
  joined {τ depth id s t u request loader key store progress} _ hreach hlook hrest h := by
    obtain ⟨hkept, htotal⟩ := looked rises hreach hlook h
    have hjoined := rises.joined request store.name key id t.now loader
    rw [launched] at htotal
    have hrest : _ ≤ l.total u + l.getLeft progress := hrest hkept
    omega
  told {τ depth id s cache key patience outcome} hadvance _ h := by
    have htold := rises.told cache key id patience
    have hadvance : l.total s ≤ l.total (System.advance depth s id) := hadvance h
    show l.total s + _ ≤ l.total (System.advance depth s id) + 0
    omega
  waiting hadvance _ _ h := Int.add_le_add_right (hadvance h) _
  timedOut {τ depth id s t cache key p progress} hadvance _ _ hrest h := by
    have htimedOut := rises.timedOut cache key id p
    have hemit : l.total ((System.advance depth s id).emit (.lockTimedOut cache key id p.lockTimeout)) =
        _ + l.total (System.advance depth s id) := total_emit ..
    have hadvance : l.total s ≤ l.total (System.advance depth s id) := hadvance h
    have hkept := rises.kept_moves (System.polled_advance depth s id).moves h
    have hrest : _ ≤ l.total t + l.getLeft progress := hrest hkept
    omega
  loading {τ depth s t cache run rest} _ hrun h := by
    have hloading := rises.loading cache run rest
    have hrun : _ ≤ l.total t + l.run rest := hrun h
    show l.total s + l.get (.loading cache run) ≤ l.total t + l.get (.loading cache rest)
    omega
  loaded {τ depth s t cache run outcome} _ hrun h := by
    have hloaded := rises.loaded cache run
    have hrun : _ ≤ l.total t + 0 := hrun h
    show l.total s + l.get (.loading cache run) ≤ l.total t + 0
    omega

private theorem keptByRuns (rises : l.Rises P) : (judgement l P).KeptByRuns where
  cut s load run _ := Int.le_refl _
  calling {τ depth s t load call loader progress} hrest h := by
    have hcalling := rises.calling call load loader
    have hemit : l.total (s.emit (.called call load)) = _ + l.total s := total_emit ..
    have hrest : _ ≤ l.total t + l.runLeft progress := hrest h
    omega
  awake {τ depth due s t load loader progress} _ hrest h :=
    Int.le_trans (Int.add_le_add_left (rises.awake due loader) _) (hrest h)
  asleep _ _ := Int.le_refl _
  nesting {τ depth s t load get rest} _ hget h := by
    have hnesting := rises.nesting get rest
    have hget : _ ≤ l.total t + l.get rest := hget h
    show l.total s + l.run (.nested get) ≤ l.total t + l.run (.nested rest)
    omega
  nested {τ depth s t load get outcome} _ hget h :=
    Int.le_trans (Int.add_le_add_left (rises.nested get) _) (hget h)
  done depth s load value _ := Int.add_le_add_left (rises.ended _) _
  fail depth s load failure _ := Int.add_le_add_left (rises.ended _) _
  panic depth s load payload _ := Int.add_le_add_left (rises.ended _) _
  sleep {τ depth ms s t load next progress} hrest h :=
    Int.le_trans (Int.add_le_add_left (rises.sleep ms _ next) _) (hrest h)
  invalidate {τ depth s t u load cache key next progress} hdone hrest h := by
    have hstep := rises.invalidate cache key next
    have hrest : _ ≤ l.total u + l.runLeft progress :=
      hrest (rises.kept_moves (System.polled_invalidate hdone).moves h)
    obtain ⟨found, -, rfl⟩ := exists_of_map_eq_ok hdone
    show l.total s + l.run (.running (.invalidate cache key next)) ≤ _
    rcases total_invalidateIn (l := l) s found key with htotal | ⟨name, htotal⟩
    · omega
    · have hevent := rises.invalidated name key
      omega
  invalidateNone _ _ := Int.add_le_add_left (rises.ended _) _
  invalidateAll {τ depth s t u load cache next progress} hdone hrest h := by
    have hstep := rises.invalidateAll cache next
    have hrest : _ ≤ l.total u + l.runLeft progress :=
      hrest (rises.kept_moves (System.polled_invalidateAll hdone).moves h)
    obtain ⟨found, -, rfl⟩ := exists_of_map_eq_ok hdone
    show l.total s + l.run (.running (.invalidateAll cache next)) ≤ _
    rcases total_invalidateAllIn (l := l) s found with htotal | ⟨name, htotal⟩
    · omega
    · have hevent := rises.allInvalidated name
      omega
  invalidateAllNone _ _ := Int.add_le_add_left (rises.ended _) _
  get {τ depth s t load request inner progress} hrest h :=
    Int.le_trans (Int.add_le_add_left (rises.nest request inner) _) (hrest h)

private theorem keptByLoads (rises : l.Rises P) : (judgement l P).KeptByLoads where
  cut s id _ := Int.le_refl _
  still _ _ := Int.le_refl _
  paused {τ depth id number s t cache key run rest} hload hpoll hrun h := by
    -- while the load is busy its loader counts in the poll and not in the load
    have hopened : l.total (s.setLoad id .busy) + l.run run = l.total s + 0 := total_setLoad hload .busy
    have hrun : _ ≤ l.total t + l.run rest := hrun h
    have hclosed : l.total (t.setLoad id (.idle τ rest)) + 0 = l.total t + l.run rest :=
      total_setLoad (System.busy_of_opened hload hpoll) _
    show l.total s ≤ l.total (t.setLoad id (.idle τ rest))
    omega
  landed {τ depth id number s t cache key run outcome} hload hpoll hrun h := by
    have hopened : l.total (s.setLoad id .busy) + l.run run = l.total s + 0 := total_setLoad hload .busy
    have hrun : _ ≤ l.total t + 0 := hrun h
    obtain ⟨kept, hclosed⟩ :=
      total_land (l := l) (System.busy_of_opened hload hpoll) (System.loadResult outcome)
    have hevent := rises.landed id cache key (System.loadResult outcome) kept
    show l.total s ≤ l.total (t.land id cache key number (System.loadResult outcome))
    omega

private theorem keptByPolls (rises : l.Rises P) : (judgement l P).Kept :=
  ⟨keptByGets rises, keptByRuns rises, keptByLoads rises⟩

/-- A poll of a get lowers nothing. -/
theorem poll (rises : l.Rises P) (depth : Nat) {s : System} (h : P s.registry) (get : Get τ) :
    l.total s + l.get get ≤ l.total (Get.poll depth s get).1 + l.getLeft (Get.poll depth s get).2 :=
  ((keptByPolls rises).polls depth).get s get h

theorem advance (rises : l.Rises P) (depth : Nat) {s : System} (h : P s.registry) (id : Nat) :
    l.total s ≤ l.total (System.advance depth s id) := ((keptByPolls rises).polls depth).load s id h

end Rises

end Ledger

end SingleFlight
