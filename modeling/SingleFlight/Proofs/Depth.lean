import SingleFlight.Proofs.Ledger

/-!
# The depth of polls

* whatever is weighed so that no step of a poll adds to it, a whole poll adds nothing to it (`Weight.poll_get`);
* the steps left are such a weight, so a poll as deep as the work at hand is cut short nowhere: more depth leads to the
  same (`System.poll_eq`, `System.advance_eq`).
-/

namespace SingleFlight

/-- What loaders, gets and recorded calls weigh. -/
structure Weight where
  call : Call → Nat
  get {τ : ValueType} : Get τ → Nat
  run {τ : ValueType} : Run τ → Nat

namespace Weight

/-- What an event adds: it weighs something only if it is a call. -/
def event (w : Weight) : Event → Nat
  | .called call _ => w.call call
  | _ => 0

/-- What is left of a load. While it is advanced, the poll that advances it has its loader. -/
def state (w : Weight) : LoadState → Nat
  | .idle _ run => w.run run
  | _ => 0

/-- All loads and all calls so far. -/
def total (w : Weight) (s : System) : Nat :=
  (s.loads.map fun load => w.state load.state).sum + (s.history.map fun e => w.event e.event).sum

/-- What is left of a get after a poll. -/
def getLeft (w : Weight) : Progress (Get τ) CacheFault (Option (Typed τ)) → Nat
  | .pending rest => w.get rest
  | .ended _ => 0

def runLeft (w : Weight) : Progress (Run τ) Failure (Option (Typed τ)) → Nat
  | .pending rest => w.run rest
  | .ended _ => 0

/-- No step adds weight. -/
structure Falls (w : Weight) : Prop where
  passed {τ : ValueType} (request : Request) (key : Key) (name : String) (loader : Loader τ) :
    w.get (.loading name (.calling ⟨request.label, name, key⟩ loader)) ≤ w.get (.asking request loader)
  started {τ : ValueType} (request : Request) (name : String) (key : Key) (id : Nat) (loader : Loader τ) :
    w.get (.awaiting (τ := τ) name key id none) + w.run (.calling ⟨request.label, name, key⟩ loader) ≤
      w.get (.asking request loader)
  joined {τ : ValueType} (request : Request) (name : String) (key : Key) (id due : Nat) (timeout : Duration)
    (loader : Loader τ) :
    w.get (.awaiting name key id (some ⟨due, timeout, ⟨request.label, name, key⟩, loader⟩)) ≤
      w.get (.asking request loader)
  timedOut {τ : ValueType} (name : String) (key : Key) (id : Nat) (p : Patience τ) :
    w.get (.loading name (.calling p.call p.loader)) ≤ w.get (.awaiting name key id (some p))
  loading {τ : ValueType} (name : String) (run rest : Run τ) :
    w.get (.loading name rest) + w.run run ≤ w.get (.loading name run) + w.run rest
  loaded {τ : ValueType} (name : String) (run : Run τ) : w.run run ≤ w.get (.loading name run)
  calling {τ : ValueType} (call : Call) (loader : Loader τ) :
    w.call call + w.run (.running loader) ≤ w.run (.calling call loader)
  awake {τ : ValueType} (due : Nat) (loader : Loader τ) : w.run (.running loader) ≤ w.run (.sleeping due loader)
  nesting {τ : ValueType} (get rest : Get τ) :
    w.run (.nested rest) + w.get get ≤ w.run (.nested get) + w.get rest
  nested {τ : ValueType} (get : Get τ) : w.get get ≤ w.run (.nested get)
  sleep {τ : ValueType} (ms due : Nat) (next : Loader τ) :
    w.run (.sleeping due next) ≤ w.run (.running (.sleep ms next))
  invalidate {τ : ValueType} (cache : String) (key : Key) (next : Loader τ) :
    w.run (.running next) ≤ w.run (.running (.invalidate cache key next))
  invalidateAll {τ : ValueType} (cache : String) (next : Loader τ) :
    w.run (.running next) ≤ w.run (.running (.invalidateAll cache next))
  nest {τ : ValueType} (request : Request) (inner : Loader τ) :
    w.run (.nested (.asking request inner)) ≤ w.run (.running (.get request inner))

variable {w : Weight}

/-! ### Weights as ledgers -/

/-- What weighs counts against the total. -/
def ledger (w : Weight) : Ledger where
  event e := -(w.event e : Int)
  get g := -(w.get g : Int)
  run r := -(w.run r : Int)

theorem sum_neg {α : Type} {f : α → Nat} {g : α → Int} (h : ∀ a, g a = -(f a : Int)) (as : List α) :
    (as.map g).sum = -((as.map f).sum : Int) := by
  induction as with
  | nil => rfl
  | cons a as ih =>
    rw [List.map_cons, List.sum_cons, List.map_cons, List.sum_cons, ih, h]
    omega

theorem state_ledger (w : Weight) (state : LoadState) : w.ledger.state state = -(w.state state : Int) := by
  cases state with
  | idle τ run => rfl
  | busy => rfl
  | ended outcome => rfl

theorem total_ledger (w : Weight) (s : System) : w.ledger.total s = -(w.total s : Int) := by
  have hloads := sum_neg (fun load : Load => w.state_ledger load.state) s.loads
  have hevents := sum_neg (f := fun e : Stamped => w.event e.event) (g := fun e => w.ledger.event e.event)
    (fun _ => rfl) s.history
  rw [Ledger.total, hloads, hevents, total]
  omega

theorem rises_ledger (falls : w.Falls) : w.ledger.Rises fun _ => True where
  kept _ _ := trivial
  refused request loader := by
    show -(w.get (.asking request loader) : Int) ≤ 0
    omega
  passed {τ s} _ request name _ key loader := by
    have hpassed := falls.passed request key name loader
    show -(w.get (.asking request loader) : Int) ≤ 0 + -_
    omega
  stored request name key value loader := by
    show -(w.get (.asking request loader) : Int) ≤ 0
    omega
  started {τ} request name key id loader := by
    have hstarted := falls.started request name key id loader
    show -(w.get (.asking request loader) : Int) ≤ 0 + -_ + -_
    omega
  joined {τ} request name key id now loader := by
    have hjoined : w.get (.awaiting name key id (request.patienceAt now ⟨request.label, name, key⟩ loader)) ≤
        w.get (.asking request loader) := by
      unfold Request.patienceAt
      split
      · exact Nat.le_trans (Nat.le_add_right ..) (falls.started request name key id loader)
      · exact falls.joined request name key id _ _ loader
    show -(w.get (.asking request loader) : Int) ≤ 0 + -_
    omega
  told {τ} name key id patience := by
    show -(w.get (.awaiting name key id patience) : Int) ≤ 0
    omega
  timedOut {τ} name key id p := by
    have htimedOut := falls.timedOut name key id p
    show -(w.get (.awaiting name key id (some p)) : Int) ≤ 0 + -_
    omega
  loading {τ} name run rest := by
    have hloading := falls.loading name run rest
    show -_ + -(w.run rest : Int) ≤ -_ + -(w.run run : Int)
    omega
  loaded {τ} name run := by
    have hloaded := falls.loaded name run
    show -(w.get (.loading name run) : Int) ≤ -(w.run run : Int)
    omega
  calling {τ} call load loader := by
    have hcalling := falls.calling call loader
    show -(w.run (.calling call loader) : Int) ≤ -(w.call call : Int) + -_
    omega
  awake {τ} due loader := Int.neg_le_neg (Int.ofNat_le.2 (falls.awake due loader))
  nesting {τ} get rest := by
    have hnesting := falls.nesting get rest
    show -_ + -(w.get rest : Int) ≤ -_ + -(w.get get : Int)
    omega
  nested {τ} get := Int.neg_le_neg (Int.ofNat_le.2 (falls.nested get))
  ended {τ} loader := by
    show -(w.run (.running loader) : Int) ≤ 0
    omega
  sleep {τ} ms due next := Int.neg_le_neg (Int.ofNat_le.2 (falls.sleep ms due next))
  invalidate {τ} cache key next := Int.neg_le_neg (Int.ofNat_le.2 (falls.invalidate cache key next))
  invalidateAll {τ} cache next := Int.neg_le_neg (Int.ofNat_le.2 (falls.invalidateAll cache next))
  nest {τ} request inner := Int.neg_le_neg (Int.ofNat_le.2 (falls.nest request inner))
  invalidated name key := Int.le_refl 0
  allInvalidated name := Int.le_refl 0
  landed id name key outcome kept := Int.le_refl 0

/-! ### What changes and polls weigh -/

theorem total_emit (s : System) (event : Event) : w.total (s.emit event) = w.event event + w.total s := by
  have hemit : w.ledger.total (s.emit event) = -(w.event event : Int) + w.ledger.total s := Ledger.total_emit ..
  rw [total_ledger, total_ledger] at hemit
  omega

/-- A load whose state is set weighs what the new state does. -/
theorem total_setLoad {s : System} {id : Nat} {load : Load} (h : s.load? id = some load) (state : LoadState) :
    w.total (s.setLoad id state) + w.state load.state = w.total s + w.state state := by
  have hset := Ledger.total_setLoad (l := w.ledger) h state
  rw [total_ledger, total_ledger, state_ledger, state_ledger] at hset
  omega

/-- Only a lookup that starts a load adds to what loads weigh. -/
theorem total_lookUp {s t : System} {store : LocalStore} {call : Call} {loader : Loader τ} {found : Found}
    (h : s.lookUp store call loader = (t, found)) : w.total t =
      match found with
      | .started _ => w.total s + w.run (.calling call loader)
      | _ => w.total s := by
  have hlook := Ledger.total_lookUp (l := w.ledger) h
  rw [total_ledger, total_ledger] at hlook
  cases found with
  | started id =>
    have hlook : -(w.total t : Int) = 0 + -(w.total s : Int) + -(w.run (.calling call loader) : Int) := hlook
    show w.total t = w.total s + w.run (.calling call loader)
    omega
  | stored value =>
    have hlook : -(w.total t : Int) = 0 + -(w.total s : Int) + 0 := hlook
    show w.total t = w.total s
    omega
  | joined id =>
    have hlook : -(w.total t : Int) = 0 + -(w.total s : Int) + 0 := hlook
    show w.total t = w.total s
    omega

theorem total_invalidateIn (s : System) (cache : Cache) (key : Key) :
    w.total (s.invalidateIn cache key) = w.total s := by
  match cache with
  | .local store => exact (total_emit ..).trans (Nat.zero_add _)
  | .passThrough _ => rfl

theorem total_invalidateAllIn (s : System) (cache : Cache) : w.total (s.invalidateAllIn cache) = w.total s := by
  match cache with
  | .local store => exact (total_emit ..).trans (Nat.zero_add _)
  | .passThrough _ => rfl

theorem total_of_invalidate {s t : System} {cache : String} {key : Key} (h : s.invalidate cache key = .ok t) :
    w.total t = w.total s := by
  obtain ⟨found, -, rfl⟩ := exists_of_map_eq_ok h
  exact total_invalidateIn s found key

theorem total_of_invalidateAll {s t : System} {cache : String} (h : s.invalidateAll cache = .ok t) :
    w.total t = w.total s := by
  obtain ⟨found, -, rfl⟩ := exists_of_map_eq_ok h
  exact total_invalidateAllIn s found

/-- A poll of a get adds nothing to what all loads and calls weigh together with the get. -/
theorem poll_get (falls : w.Falls) (depth : Nat) (s : System) (get : Get τ) :
    w.total (Get.poll depth s get).1 + w.getLeft (Get.poll depth s get).2 ≤ w.total s + w.get get := by
  have hpoll := (rises_ledger falls).poll depth (s := s) trivial get
  have hleft : w.ledger.getLeft (Get.poll depth s get).2 = -(w.getLeft (Get.poll depth s get).2 : Int) := by
    cases (Get.poll depth s get).2 with
    | pending rest => rfl
    | ended outcome => rfl
  have hget : w.ledger.get get = -(w.get get : Int) := rfl
  rw [total_ledger, total_ledger, hleft, hget] at hpoll
  omega

theorem advance (falls : w.Falls) (depth : Nat) (s : System) (id : Nat) :
    w.total (System.advance depth s id) ≤ w.total s := by
  have hadvance := (rises_ledger falls).advance depth (s := s) trivial id
  rw [total_ledger, total_ledger] at hadvance
  omega

end Weight

/-! ### Depth enough -/

/-- The steps left. -/
def Weight.size : Weight := ⟨fun _ => 0, Get.size, Run.size⟩

theorem Weight.falls_size : Weight.size.Falls where
  passed request key name loader := by
    show loader.size + 2 + 1 ≤ loader.size + 5
    omega
  started request name key id loader := by
    show 2 + (loader.size + 2) ≤ loader.size + 5
    omega
  joined request name key id due timeout loader := by
    show loader.size + 4 ≤ loader.size + 5
    omega
  timedOut name key id p := by
    show p.loader.size + 2 + 1 ≤ p.loader.size + 4
    omega
  loading name run rest := by
    show rest.size + 1 + run.size ≤ run.size + 1 + rest.size
    omega
  loaded name run := Nat.le_succ _
  calling call loader := by
    show 0 + (loader.size + 1) ≤ loader.size + 2
    omega
  awake due loader := Nat.le_succ _
  nesting get rest := by
    show rest.size + 1 + get.size ≤ get.size + 1 + rest.size
    omega
  nested get := Nat.le_succ _
  sleep ms due next := Nat.le_succ (next.size + 2)
  invalidate cache key next := Nat.le_succ _
  invalidateAll cache next := Nat.le_succ _
  nest request inner := by
    show inner.size + 5 + 1 ≤ inner.size + 6 + 1
    omega

theorem total_size (s : System) : Weight.size.total s = s.work := by
  have hload : ∀ load : Load, Weight.size.state load.state = load.size := by
    rintro ⟨cache, key, number, state⟩
    cases state <;> rfl
  have hevent : ∀ e : Stamped, Weight.size.event e.event = 0 := by
    rintro ⟨time, event⟩
    cases event <;> rfl
  have hpast : (s.history.map fun e => Weight.size.event e.event).sum = 0 := by
    induction s.history with
    | nil => rfl
    | cons e past ih => rw [List.map_cons, List.sum_cons, hevent, ih]
  simp only [Weight.total, System.work, hload, hpast, Nat.add_zero, List.sum_eq_foldr, List.foldr_map]

/-- Advancing a load leaves no more work than there was. -/
theorem System.work_advance_le (depth : Nat) (s : System) (id : Nat) : (advance depth s id).work ≤ s.work := by
  rw [← total_size, ← total_size]
  exact Weight.advance Weight.falls_size depth s id

theorem Get.size_pos (get : Get τ) : 0 < get.size := by
  cases get with
  | asking request loader => exact Nat.succ_pos _
  | awaiting cache key id patience => cases patience <;> exact Nat.succ_pos _
  | loading cache run => exact Nat.succ_pos _

/-- A poll with the depth for the work at hand has some. -/
theorem Get.exists_depth {s : System} {get : Get τ} {depth : Nat} (deep : s.work + get.size ≤ depth) :
    ∃ below, depth = below + 1 := by
  have hpos := get.size_pos
  exact ⟨depth - 1, by omega⟩

theorem Run.size_pos (run : Run τ) : 0 < run.size := by
  cases run <;> exact Nat.succ_pos _

/-- While the loader of a load is polled, its steps are left in the poll and not in the load. -/
theorem System.work_opened {s : System} {id number : Nat} {cache : String} {key : Key} {run : Run τ}
    (h : s.load? id = some ⟨cache, key, number, .idle τ run⟩) : (s.setLoad id .busy).work + run.size = s.work := by
  rw [← total_size, ← total_size]
  exact Weight.total_setLoad h .busy

namespace System

/-- A lookup leaves the work of the loads before and of a load that it starts. -/
theorem work_of_lookUp {s t : System} {store : LocalStore} {call : Call} {loader : Loader τ} {found : Found}
    (h : s.lookUp store call loader = (t, found)) : t.work =
      match found with
      | .started _ => s.work + (loader.size + 2)
      | _ => s.work := by
  rw [← total_size, ← total_size]
  exact Weight.total_lookUp h

theorem work_of_invalidate {s t : System} {cache : String} {key : Key} (h : s.invalidate cache key = .ok t) :
    t.work = s.work := by
  rw [← total_size, ← total_size]
  exact Weight.total_of_invalidate h

theorem work_of_invalidateAll {s t : System} {cache : String} (h : s.invalidateAll cache = .ok t) :
    t.work = s.work := by
  rw [← total_size, ← total_size]
  exact Weight.total_of_invalidateAll h

/-- A poll that is deep enough for a get that waits is deep enough for the load. -/
theorem deep_of_awaiting {s : System} {cache : String} {key : Key} {id depth : Nat} {patience : Option (Patience τ)}
    (h : s.work + (Get.awaiting cache key id patience).size ≤ depth + 1) : s.work + 1 ≤ depth := by
  have htwo : 2 ≤ (Get.awaiting cache key id patience).size := by
    cases patience with
    | none => exact Nat.le_refl 2
    | some p => exact Nat.le_add_left 2 (p.loader.size + 2)
  omega

/-! What a poll with the depth for the work at hand comes to has it too. -/

section
variable {s t : System} {depth : Nat}

theorem deep_of_passed {request : Request} {loader : Loader τ} (name : String) (call : Call)
    (h : s.work + (Get.asking request loader).size ≤ depth + 1) :
    s.work + (Get.loading name (.calling call loader)).size ≤ depth := by
  have hasking : (Get.asking request loader).size = loader.size + 5 := rfl
  have hloading : (Get.loading name (.calling call loader)).size = loader.size + 2 + 1 := rfl
  omega

theorem deep_of_started {request : Request} {loader : Loader τ} {store : LocalStore} {call : Call} {id : Nat}
    (hlook : s.lookUp store call loader = (t, .started id))
    (h : s.work + (Get.asking request loader).size ≤ depth + 1) (cache : String) (key : Key) :
    t.work + (Get.awaiting (τ := τ) cache key id none).size ≤ depth := by
  have hwork : t.work = s.work + (loader.size + 2) := work_of_lookUp hlook
  have hasking : (Get.asking request loader).size = loader.size + 5 := rfl
  have hwaiting : (Get.awaiting (τ := τ) cache key id none).size = 2 := rfl
  omega

theorem deep_of_joined {request : Request} {loader : Loader τ} {store : LocalStore} {call : Call} {id : Nat}
    (hlook : s.lookUp store call loader = (t, .joined id))
    (h : s.work + (Get.asking request loader).size ≤ depth + 1) (cache : String) (key : Key) :
    t.work + (Get.awaiting cache key id (request.patienceAt t.now call loader)).size ≤ depth := by
  have hwork : t.work = s.work := work_of_lookUp hlook
  have hasking : (Get.asking request loader).size = loader.size + 5 := rfl
  have hwaiting : (Get.awaiting cache key id (request.patienceAt t.now call loader)).size ≤ loader.size + 4 := by
    unfold Request.patienceAt
    split
    · exact Nat.le_add_left 2 (loader.size + 2)
    · exact Nat.le_refl _
  omega

theorem deep_of_timedOut {cache : String} {key : Key} {id : Nat} {p : Patience τ}
    (h : s.work + (Get.awaiting cache key id (some p)).size ≤ depth + 1) :
    (advance depth s id).work + (Get.loading cache (.calling p.call p.loader)).size ≤ depth := by
  have hwork := work_advance_le depth s id
  have hwaiting : (Get.awaiting cache key id (some p)).size = p.loader.size + 4 := rfl
  have hloading : (Get.loading cache (.calling p.call p.loader)).size = p.loader.size + 2 + 1 := rfl
  omega

theorem deep_of_invalidate {cache : String} {key : Key} {next : Loader τ} (hdone : s.invalidate cache key = .ok t)
    (h : s.work + (Run.running (.invalidate cache key next)).size ≤ depth + 1) :
    t.work + (Run.running next).size ≤ depth := by
  rw [work_of_invalidate hdone]
  exact Nat.le_of_succ_le_succ h

theorem deep_of_invalidateAll {cache : String} {next : Loader τ} (hdone : s.invalidateAll cache = .ok t)
    (h : s.work + (Run.running (.invalidateAll cache next)).size ≤ depth + 1) :
    t.work + (Run.running next).size ≤ depth := by
  rw [work_of_invalidateAll hdone]
  exact Nat.le_of_succ_le_succ h

theorem deep_of_opened {id number : Nat} {cache : String} {key : Key} {run : Run τ}
    (hload : s.load? id = some ⟨cache, key, number, .idle τ run⟩) (h : s.work + 1 ≤ depth + 1) :
    (s.setLoad id .busy).work + run.size ≤ depth := by
  rw [work_opened hload]
  exact Nat.le_of_succ_le_succ h

end

/-- With the depth for the work at hand, more depth changes nothing. -/
private def deepEnough : Judgement where
  get depth s get t progress := s.work + get.size ≤ depth → ∀ more, Get.poll (depth + more) s get = (t, progress)
  run depth s load run t progress :=
    s.work + run.size ≤ depth → ∀ more, Run.poll (depth + more) s load run = (t, progress)
  load depth s id t := s.work + 1 ≤ depth → ∀ more, System.advance (depth + more) s id = t

private theorem keptByGets : deepEnough.KeptByGets where
  cut s get hdepth := absurd hdepth (Nat.not_le_of_lt (Nat.lt_add_left s.work get.size_pos))
  unkeyed {τ depth s request loader fault} hkey _ more := by
    rw [Nat.add_right_comm]
    simp only [Get.poll, hkey]
  refused {τ depth s request loader key fault} hkey hreach _ more := by
    rw [Nat.add_right_comm]
    simp only [Get.poll, hkey, hreach]
  passed {τ depth s t request loader key name progress} hkey hreach h hdepth more := by
    have hrest := h (deep_of_passed name _ hdepth) more
    rw [Nat.add_right_comm]
    simp only [Get.poll, hkey, hreach]
    exact hrest
  found {τ depth s t request loader key store value} hkey hreach hlook _ more := by
    rw [Nat.add_right_comm]
    simp only [Get.poll, hkey, hreach, hlook]
  started {τ depth id s t u request loader key store progress} hkey hreach hlook h hdepth more := by
    have hrest := h (deep_of_started hlook hdepth _ _) more
    rw [Nat.add_right_comm]
    simp only [Get.poll, hkey, hreach, hlook]
    exact hrest
  joined {τ depth id s t u request loader key store progress} hkey hreach hlook h hdepth more := by
    have hrest := h (deep_of_joined hlook hdepth _ _) more
    rw [Nat.add_right_comm]
    simp only [Get.poll, hkey, hreach, hlook]
    exact hrest
  told {τ depth id s cache key patience outcome} h houtcome hdepth more := by
    have hadvance := h (deep_of_awaiting hdepth) more
    rw [Nat.add_right_comm]
    simp only [Get.poll, hadvance, houtcome]
  waiting {τ depth id s cache key patience} h houtcome hdue hdepth more := by
    have hadvance := h (deep_of_awaiting hdepth) more
    rw [Nat.add_right_comm]
    cases patience with
    | none => simp only [Get.poll, hadvance, houtcome]
    | some p => simp only [Get.poll, hadvance, houtcome, if_neg (hdue p rfl)]
  timedOut {τ depth id s t cache key p progress} h houtcome hdue hrest hdepth more := by
    have hadvance := h (deep_of_awaiting hdepth) more
    have hloading := hrest (deep_of_timedOut hdepth) more
    rw [Nat.add_right_comm]
    simp only [Get.poll, hadvance, houtcome, if_pos hdue]
    exact hloading
  loading {τ depth s t cache run rest} _ h hdepth more := by
    have hrun := h (show s.work + run.size ≤ depth from Nat.le_of_succ_le_succ hdepth) more
    rw [Nat.add_right_comm]
    simp only [Get.poll, hrun]
  loaded {τ depth s t cache run outcome} _ h hdepth more := by
    have hrun := h (show s.work + run.size ≤ depth from Nat.le_of_succ_le_succ hdepth) more
    rw [Nat.add_right_comm]
    simp only [Get.poll, hrun]

private theorem keptByRuns : deepEnough.KeptByRuns where
  cut s load run hdepth := absurd hdepth (Nat.not_le_of_lt (Nat.lt_add_left s.work run.size_pos))
  calling {τ depth s t load call loader progress} h hdepth more := by
    have hrest := h (show s.work + (loader.size + 1) ≤ depth from Nat.le_of_succ_le_succ hdepth) more
    rw [Nat.add_right_comm]
    exact hrest
  awake {τ depth due s t load loader progress} hdue h hdepth more := by
    have hrest := h (show s.work + (loader.size + 1) ≤ depth from Nat.le_of_succ_le_succ hdepth) more
    rw [Nat.add_right_comm]
    simp only [Run.poll, if_pos hdue]
    exact hrest
  asleep {τ depth due s load loader} hdue _ more := by
    rw [Nat.add_right_comm]
    simp only [Run.poll, if_neg hdue]
  nesting {τ depth s t load get rest} _ h hdepth more := by
    have hget := h (show s.work + get.size ≤ depth from Nat.le_of_succ_le_succ hdepth) more
    rw [Nat.add_right_comm]
    simp only [Run.poll, hget]
  nested {τ depth s t load get outcome} _ h hdepth more := by
    have hget := h (show s.work + get.size ≤ depth from Nat.le_of_succ_le_succ hdepth) more
    rw [Nat.add_right_comm]
    simp only [Run.poll, hget]
  done depth s load value _ more := by
    rw [Nat.add_right_comm]
    rfl
  fail depth s load failure _ more := by
    rw [Nat.add_right_comm]
    rfl
  panic depth s load payload _ more := by
    rw [Nat.add_right_comm]
    rfl
  sleep {τ depth ms s t load next progress} h hdepth more := by
    have hrest := h (show s.work + (next.size + 2) ≤ depth from Nat.le_of_succ_le_succ hdepth) more
    rw [Nat.add_right_comm]
    exact hrest
  invalidate {τ depth s t u load cache key next progress} hdone h hdepth more := by
    have hrest := h (deep_of_invalidate hdone hdepth) more
    rw [Nat.add_right_comm]
    simp only [Run.poll, hdone]
    exact hrest
  invalidateNone {τ depth s load cache key next fault} hfault _ more := by
    rw [Nat.add_right_comm]
    simp only [Run.poll, hfault]
  invalidateAll {τ depth s t u load cache next progress} hdone h hdepth more := by
    have hrest := h (deep_of_invalidateAll hdone hdepth) more
    rw [Nat.add_right_comm]
    simp only [Run.poll, hdone]
    exact hrest
  invalidateAllNone {τ depth s load cache next fault} hfault _ more := by
    rw [Nat.add_right_comm]
    simp only [Run.poll, hfault]
  get {τ depth s t load request inner progress} h hdepth more := by
    have hrest := h (show s.work + (inner.size + 5 + 1) ≤ depth from Nat.le_of_succ_le_succ hdepth) more
    rw [Nat.add_right_comm]
    exact hrest

private theorem keptByLoads : deepEnough.KeptByLoads where
  cut s id hdepth := absurd hdepth (Nat.not_succ_le_zero _)
  still {depth id s} hstill _ more := by
    rw [Nat.add_right_comm]
    simp only [System.advance]
  paused {τ depth id number s t cache key run rest} hload _ h hdepth more := by
    have hrun := h (deep_of_opened hload hdepth) more
    rw [Nat.add_right_comm]
    simp only [System.advance, hload, hrun]
  landed {τ depth id number s t cache key run outcome} hload _ h hdepth more := by
    have hrun := h (deep_of_opened hload hdepth) more
    rw [Nat.add_right_comm]
    simp only [System.advance, hload, hrun]

private theorem kept : deepEnough.Kept := ⟨keptByGets, keptByRuns, keptByLoads⟩

/-- **Depth enough.** Every poll that has the depth for the work at hand comes to the same. -/
theorem poll_eq {depth : Nat} {s : System} {get : Get τ} (h : s.work + get.size ≤ depth) :
    Get.poll depth s get = s.poll get := by
  obtain ⟨more, rfl⟩ := Nat.exists_eq_add_of_le h
  exact (kept.polls (s.work + get.size)).get s get (Nat.le_refl _) more

/-- The load is advanced as far as it goes now. -/
def advanced (s : System) (id : Nat) : System := advance (s.work + 1) s id

/-- A load that is advanced with the depth for the work at hand comes as far as with any more depth. -/
theorem advance_eq {depth : Nat} {s : System} {id : Nat} (h : s.work + 1 ≤ depth) :
    advance depth s id = s.advanced id := by
  obtain ⟨more, rfl⟩ := Nat.exists_eq_add_of_le h
  exact (kept.polls (s.work + 1)).load s id (Nat.le_refl _) more

theorem work_advanced_le (s : System) (id : Nat) : (s.advanced id).work ≤ s.work := work_advance_le (s.work + 1) s id

end System

end SingleFlight
