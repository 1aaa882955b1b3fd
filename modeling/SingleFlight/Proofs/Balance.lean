import Mathlib.Algebra.BigOperators.Group.List.Basic
import Mathlib.Algebra.Order.BigOperators.Group.List
import SingleFlight.Proofs.Counters
import SingleFlight.Proofs.LockTimeout
import SingleFlight.Proofs.Pending

/-!
# The balance of the counters

Two ledgers are kept through every poll.

* a get gives a load up that its lookup has joined, and only once: there are at least as many hits as lock timeouts
  (`Ledger.rises_hits`);
* a load calls its loader in the poll that starts it, and a get that gives a load up calls its own in the same poll. So
  between two polls there are as many calls as misses and lock timeouts (`Ledger.rises_callers`).
-/

namespace SingleFlight

/-! ### Ledgers along schedules -/

namespace Ledger

open Session (Turn)

variable {l : Ledger} {P : Registry → Prop} {m : Setting} {x : Session}

/-- All loads, all events and the gets of all tasks. -/
def books (l : Ledger) (x : Session) : Int := l.total x.system + (x.tasks.map fun task => l.get task.get).sum

/-- A task lowers nothing when it is started, dropped between two polls, or answered. -/
structure Fair (l : Ledger) : Prop where
  asking {τ : ValueType} (request : Request) (loader : Loader τ) : 0 ≤ l.get (.asking request loader)
  dropped {τ : ValueType} {m : Setting} {first count : Nat} {get : Get τ} (fits : get.Fits m first count)
    (calm : get.Calm) : l.get get ≤ 0
  answered (task : String) (answer : Answer) : 0 ≤ l.event (.answered task answer)

theorem sum_set {f : Task → Int} {tasks : List Task} {place : Nat} {task : Task} (h : tasks[place]? = some task)
    (next : Task) : ((tasks.set place next).map f).sum + f task = (tasks.map f).sum + f next := by
  induction tasks generalizing place with
  | nil => cases h
  | cons first rest ih =>
    cases place with
    | zero =>
      cases h
      simp only [List.set_cons_zero, List.map_cons, List.sum_cons]
      omega
    | succ place =>
      have hrest := ih (List.getElem?_cons_succ ▸ h)
      simp only [List.set_cons_succ, List.map_cons, List.sum_cons]
      omega

theorem sum_eraseIdx {f : Task → Int} {tasks : List Task} {place : Nat} {task : Task} (h : tasks[place]? = some task) :
    ((tasks.eraseIdx place).map f).sum + f task = (tasks.map f).sum := by
  induction tasks generalizing place with
  | nil => cases h
  | cons first rest ih =>
    cases place with
    | zero =>
      cases h
      simp only [List.eraseIdx_cons_zero, List.map_cons, List.sum_cons]
      omega
    | succ place =>
      have hrest := ih (List.getElem?_cons_succ ▸ h)
      simp only [List.eraseIdx_cons_succ, List.map_cons, List.sum_cons]
      omega

theorem sum_map_le {α : Type} {f : α → Int} {items : List α} (h : ∀ a ∈ items, f a ≤ 0) : (items.map f).sum ≤ 0 := by
  have hsum := List.sum_le_card_nsmul (items.map f) 0 (by simpa using h)
  simpa using hsum

theorem books_poll (rises : l.Rises P) (fair : l.Fair) (h : P x.system.registry) (place : Nat) :
    l.books x ≤ l.books (x.turn (.poll place)) := by
  cases hplace : x.tasks[place]? with
  | none =>
    rw [Session.turn_poll_of_none x hplace]
  | some task =>
    cases hpoll : x.system.poll task.get with
    | mk s progress =>
      have hrises := rises.poll (x.system.work + task.get.size) h task.get
      have hresult : Get.poll (x.system.work + task.get.size) x.system task.get = (s, progress) := hpoll
      rw [hresult] at hrises
      rw [Session.turn_poll x hplace hpoll]
      cases progress with
      | pending rest =>
        have hset := sum_set (f := fun task => l.get task.get) hplace { task with get := rest }
        dsimp only at hset
        simp only [books, getLeft] at hrises ⊢
        omega
      | ended outcome =>
        have herase := sum_eraseIdx (f := fun task => l.get task.get) hplace
        have hanswered := fair.answered task.name (outcome.mapValue fun v => v.map (·.val))
        simp only [books, getLeft, total_emit] at hrises ⊢
        omega

theorem books_turn (rises : l.Rises P) (fair : l.Fair) (orderly : x.Orderly m) (h : P x.system.registry) (t : Turn) :
    l.books x ≤ l.books (x.turn t) := by
  have hsame : ∀ s, l.total x.system ≤ l.total s → l.books x ≤ l.books { x with system := s } :=
    fun s hle => Int.add_le_add_right hle _
  cases t with
  | start task type request loader =>
    have hasking := fair.asking request loader
    simp only [books, Session.turn, List.map_append, List.map_singleton, List.sum_append, List.sum_singleton]
    omega
  | poll place => exact books_poll rises fair h place
  | drop place =>
    cases hplace : x.tasks[place]? with
    | none =>
      have hlength : x.tasks.length ≤ place := List.getElem?_eq_none_iff.1 hplace
      simp only [books, Session.turn, List.eraseIdx_of_length_le hlength]
      exact Int.le_refl _
    | some task =>
      obtain ⟨hfits, hcalm⟩ := orderly.tasks task (List.mem_of_getElem? hplace)
      have hdropped := fair.dropped hfits hcalm
      have herase := sum_eraseIdx (f := fun task => l.get task.get) hplace
      simp only [books, Session.turn]
      omega
  | elapse ms => exact hsame _ (Int.le_refl _)
  | invalidate name key =>
    simp only [Session.turn]
    split
    next cache hfind =>
      apply hsame
      show l.total x.system ≤ l.total (x.system.invalidateIn cache key)
      rcases total_invalidateIn (l := l) x.system cache key with htotal | ⟨name, htotal⟩
      · omega
      · have hevent := rises.invalidated name key
        omega
    next => exact Int.le_refl _
  | invalidateAll name =>
    simp only [Session.turn]
    split
    next cache hfind =>
      apply hsame
      show l.total x.system ≤ l.total (x.system.invalidateAllIn cache)
      rcases total_invalidateAllIn (l := l) x.system cache with htotal | ⟨name, htotal⟩
      · omega
      · have hevent := rises.allInvalidated name
        omega
    next => exact Int.le_refl _
  | tend name => exact hsame _ (Int.le_of_eq (total_congr rfl rfl).symm)

/-- No schedule lowers the books. -/
theorem books_play (rises : l.Rises P) (fair : l.Fair) (orderly : x.Orderly m) (h : P x.system.registry)
    {turns : List Turn} (asks : ∀ t ∈ turns, t.Asks m.allowed) : l.books x ≤ l.books (x.play turns) := by
  induction turns generalizing x with
  | nil => exact Int.le_refl _
  | cons t turns ih =>
    have hfirst := books_turn rises fair orderly h t
    have hnext := orderly.turn (asks t (List.mem_cons_self ..))
    have hkept := rises.kept_moves (Session.moves_turn x t) h
    exact Int.le_trans hfirst (ih hnext hkept fun other hother => asks other (List.mem_cons_of_mem t hother))

end Ledger

/-! ### Hits and lock timeouts -/

mutual
/-- One less for every get on the cache that may still give up the load that it waits for. -/
def Get.doubt (cache : String) : Get τ → Int
  | .asking _ _ | .awaiting _ _ _ none => 0
  | .awaiting name _ _ (some _) => if name = cache then -1 else 0
  | .loading _ run => run.doubt cache

def Run.doubt (cache : String) : Run τ → Int
  | .calling _ _ | .running _ | .sleeping _ _ => 0
  | .nested get => get.doubt cache
end

mutual
theorem Get.doubt_le (cache : String) : (get : Get τ) → get.doubt cache ≤ 0
  | .asking _ _ | .awaiting _ _ _ none => Int.le_refl 0
  | .awaiting name _ _ (some _) => by
    unfold Get.doubt
    split
    · decide
    · decide
  | .loading _ run => Run.doubt_le cache run

theorem Run.doubt_le (cache : String) : (run : Run τ) → run.doubt cache ≤ 0
  | .calling _ _ | .running _ | .sleeping _ _ => Int.le_refl 0
  | .nested get => Get.doubt_le cache get
end

namespace Ledger

/-- The hits of the cache, less its lock timeouts and the gets that may still time out. -/
def hits (cache : String) : Ledger where
  event
    | .lookedUp _ _ (.started _) => 0
    | .lookedUp name _ _ => if name = cache then 1 else 0
    | .lockTimedOut name _ _ _ => if name = cache then -1 else 0
    | _ => 0
  get := Get.doubt cache
  run := Run.doubt cache

theorem rises_hits (cache : String) : (hits cache).Rises fun _ => True where
  kept _ _ := trivial
  refused _ _ := Int.le_refl 0
  passed _ _ _ _ _ _ := Int.le_refl 0
  stored request name key value loader := by
    show (0 : Int) ≤ if name = cache then 1 else 0
    split
    · decide
    · decide
  started _ _ _ _ _ := Int.le_refl 0
  joined request name key id now loader := by
    unfold Request.patienceAt
    split
    · show (0 : Int) ≤ (if name = cache then 1 else 0) + 0
      split
      · decide
      · decide
    · show (0 : Int) ≤ (if name = cache then 1 else 0) + if name = cache then -1 else 0
      split
      · decide
      · decide
  told name key id patience := Get.doubt_le cache _
  timedOut name key id p := by
    show (if name = cache then -1 else 0) ≤ (if name = cache then -1 else 0) + (0 : Int)
    omega
  loading name run rest := by
    show run.doubt cache + rest.doubt cache ≤ rest.doubt cache + run.doubt cache
    omega
  loaded name run := Int.le_refl _
  calling _ _ _ := Int.le_refl 0
  awake _ _ := Int.le_refl 0
  nesting get rest := by
    show get.doubt cache + rest.doubt cache ≤ rest.doubt cache + get.doubt cache
    omega
  nested get := Int.le_refl _
  ended _ := Int.le_refl 0
  sleep _ _ _ := Int.le_refl 0
  invalidate _ _ _ := Int.le_refl 0
  invalidateAll _ _ := Int.le_refl 0
  nest _ _ := Int.le_refl 0
  invalidated _ _ := Int.le_refl 0
  allInvalidated _ := Int.le_refl 0
  landed _ _ _ _ _ := Int.le_refl 0

theorem fair_hits (cache : String) : (hits cache).Fair where
  asking _ _ := Int.le_refl 0
  dropped _ _ := Get.doubt_le cache _
  answered _ _ := Int.le_refl 0

/-- What events count for adds up to the hits less the lock timeouts. -/
theorem sum_hits (cache : String) (history : History) : (history.map fun e => (hits cache).event e.event).sum +
    (Trace.count history ⟨.lockTimeout, cache⟩ : Int) = Trace.count history ⟨.hit, cache⟩ := by
  induction history with
  | nil => rfl
  | cons e past ih =>
    have hevent : (hits cache).event e.event + (e.event.raises ⟨.lockTimeout, cache⟩ : Int) =
        e.event.raises ⟨.hit, cache⟩ := by
      cases e.event with
      | lookedUp name key found =>
        cases found <;> by_cases h : name = cache <;> simp [hits, Event.raises, Event.counter?, h]
      | landed id name key outcome kept => cases outcome <;> cases kept <;> simp [hits, Event.raises, Event.counter?]
      | lockTimedOut name key id timeout => by_cases h : name = cache <;> simp [hits, Event.raises, Event.counter?, h]
      | _ => simp [hits, Event.raises, Event.counter?]
    rw [List.map_cons, List.sum_cons, Trace.count_cons, Trace.count_cons]
    omega

end Ledger

/-! ### Calls -/

/-- A loader is called for the cache, by a load or by a get itself. -/
def Event.calls (cache : String) : Event → Bool
  | called call _ => decide (call.cache = cache)
  | _ => false

mutual
/-- The call that the get is about to make for the cache counts `sign`. A get that waits with a call for a cache other
than its own counts, too, and none that fits is such a one. -/
def Get.due (cache : String) (sign : Int) : Get τ → Int
  | .asking _ _ | .awaiting _ _ _ none => 0
  | .awaiting name _ _ (some p) => if p.call.cache = name then 0 else -1
  | .loading _ run => run.due cache sign

def Run.due (cache : String) (sign : Int) : Run τ → Int
  | .calling call _ => if call.cache = cache then sign else 0
  | .running _ | .sleeping _ _ => 0
  | .nested get => get.due cache sign
end

mutual
/-- Between two polls no call is about to be made. -/
theorem Get.Fits.due_eq {m : Setting} {first count : Nat} (cache : String) (sign : Int) :
    {get : Get τ} → get.Fits m first count → get.Calm → get.due cache sign = 0
  | .asking _ _, _, _ | .awaiting _ _ _ none, _, _ => rfl
  | .awaiting _ _ _ (some _), hfits, _ => if_pos hfits.2.1.1
  | .loading _ _, hfits, hcalm => Run.Fits.due_eq cache sign hfits hcalm

theorem Run.Fits.due_eq {m : Setting} {first count : Nat} (cache : String) (sign : Int) :
    {run : Run τ} → run.Fits m first count → run.Calm → run.due cache sign = 0
  | .calling _ _, _, hcalm => hcalm.elim
  | .running _, _, _ | .sleeping _ _, _, _ => rfl
  | .nested _, hfits, hcalm => Get.Fits.due_eq cache sign hfits hcalm
end

namespace Ledger

/-- The calls made for the cache, less the loads started and the loads given up, or the other way round. -/
def callers (cache : String) (sign : Int) : Ledger where
  event
    | .called call _ => if call.cache = cache then sign else 0
    | .lookedUp name _ (.started _) => if name = cache then -sign else 0
    | .lockTimedOut name _ _ _ => if name = cache then -sign else 0
    | _ => 0
  get := Get.due cache sign
  run := Run.due cache sign

theorem rises_callers {stores : String → Bool} {cache : String} (hstore : stores cache = true) {sign : Int}
    (hsign : sign = 1 ∨ sign = -1) : (callers cache sign).Rises fun registry => registry.Sited stores where
  kept move h := System.sited_move move h
  refused _ _ := Int.le_refl 0
  passed {τ s} h {request name} hreach key loader := by
    have hother : name ≠ cache := by
      rintro rfl
      rw [System.not_stores_of_reach h hreach] at hstore
      cases hstore
    show (0 : Int) ≤ 0 + if name = cache then sign else 0
    rw [if_neg hother]
    decide
  stored _ _ _ _ _ := Int.le_refl 0
  started request name key id loader := by
    show (0 : Int) ≤ (if name = cache then -sign else 0) + (if name = cache then sign else 0) + 0
    split
    · omega
    · decide
  joined request name key id now loader := by
    unfold Request.patienceAt
    split
    · exact Int.le_refl 0
    · show (0 : Int) ≤ 0 + if name = name then 0 else -1
      rw [if_pos rfl]
      decide
  told name key id patience := by
    cases patience with
    | none => exact Int.le_refl 0
    | some p =>
      show (if p.call.cache = name then 0 else -1) ≤ (0 : Int)
      split
      · decide
      · decide
  timedOut name key id p := by
    show (if p.call.cache = name then 0 else -1) ≤
      (if name = cache then -sign else 0) + (if p.call.cache = cache then sign else 0)
    by_cases hown : p.call.cache = name
    · rw [if_pos hown, hown]
      split
      · omega
      · decide
    · rw [if_neg hown]
      by_cases hname : name = cache
      · have hcall : p.call.cache ≠ cache := fun hcall => hown (hcall.trans hname.symm)
        rw [if_pos hname, if_neg hcall]
        omega
      · rw [if_neg hname]
        split
        · omega
        · decide
  loading name run rest := by
    show run.due cache sign + rest.due cache sign ≤ rest.due cache sign + run.due cache sign
    omega
  loaded name run := Int.le_refl _
  calling call load loader := by
    show (if call.cache = cache then sign else 0) ≤ (if call.cache = cache then sign else 0) + 0
    omega
  awake _ _ := Int.le_refl 0
  nesting get rest := by
    show get.due cache sign + rest.due cache sign ≤ rest.due cache sign + get.due cache sign
    omega
  nested get := Int.le_refl _
  ended _ := Int.le_refl 0
  sleep _ _ _ := Int.le_refl 0
  invalidate _ _ _ := Int.le_refl 0
  invalidateAll _ _ := Int.le_refl 0
  nest _ _ := Int.le_refl 0
  invalidated _ _ := Int.le_refl 0
  allInvalidated _ := Int.le_refl 0
  landed _ _ _ _ _ := Int.le_refl 0

theorem fair_callers (cache : String) (sign : Int) : (callers cache sign).Fair where
  asking _ _ := Int.le_refl 0
  dropped hfits hcalm := Int.le_of_eq (hfits.due_eq cache sign hcalm)
  answered _ _ := Int.le_refl 0

theorem sum_callers (cache : String) {sign : Int} (hsign : sign = 1 ∨ sign = -1) (history : History) :
    (history.map fun e => (callers cache sign).event e.event).sum + sign * Trace.count history ⟨.miss, cache⟩ +
      sign * Trace.count history ⟨.lockTimeout, cache⟩ = sign * history.countP (·.event.calls cache) := by
  induction history with
  | nil => rcases hsign with rfl | rfl <;> rfl
  | cons e past ih =>
    have hevent : (callers cache sign).event e.event + sign * e.event.raises ⟨.miss, cache⟩ +
        sign * e.event.raises ⟨.lockTimeout, cache⟩ = sign * (if e.event.calls cache then 1 else 0 : Nat) := by
      cases e.event with
      | lookedUp name key found =>
        cases found <;> by_cases h : name = cache <;> simp [callers, Event.raises, Event.counter?, Event.calls, h]
      | landed id name key outcome kept =>
        cases outcome <;> cases kept <;> simp [callers, Event.raises, Event.counter?, Event.calls]
      | called call load =>
        by_cases h : call.cache = cache <;> simp [callers, Event.raises, Event.counter?, Event.calls, h]
      | lockTimedOut name key id timeout =>
        by_cases h : name = cache <;> simp [callers, Event.raises, Event.counter?, Event.calls, h]
      | _ => simp [callers, Event.raises, Event.counter?, Event.calls]
    rw [List.map_cons, List.sum_cons, Trace.count_cons, Trace.count_cons, List.countP_cons]
    rcases hsign with rfl | rfl
    · omega
    · omega

end Ledger

/-! ### Loaders that are run by gets -/

/-- The loader ends with that get. -/
def Loader.Makes (get : Get τ) : Loader τ → Prop
  | .done _ | .fail _ | .panic _ => False
  | .sleep _ next | .invalidate _ _ next | .invalidateAll _ next => next.Makes get
  | .get request loader => get = .asking request loader

/-- The loader waits for the get or is still to make it. -/
def Run.Makes (get : Get τ) : Run τ → Prop
  | .calling _ loader | .running loader | .sleeping _ loader => loader.Makes get
  | .nested own => get = own

namespace System

/-- Both have counted the same. -/
def CountsAs (s t : System) : Prop := ∀ counter, s.trace.count counter = t.trace.count counter

theorem countsAs_emit (s : System) {event : Event} (h : event.counter? = none) : (s.emit event).CountsAs s := by
  intro counter
  rw [count_emit, h]
  rfl

theorem countsAs_of_invalidate {s t : System} {cache : String} {key : Key} (h : s.invalidate cache key = .ok t) :
    t.CountsAs s := by
  obtain ⟨found, -, rfl⟩ := exists_of_map_eq_ok h
  match found with
  | .local store => exact countsAs_emit (s.mapStore ..) rfl
  | .passThrough _ => exact fun _ => rfl

theorem countsAs_of_invalidateAll {s t : System} {cache : String} (h : s.invalidateAll cache = .ok t) :
    t.CountsAs s := by
  obtain ⟨found, -, rfl⟩ := exists_of_map_eq_ok h
  match found with
  | .local store => exact countsAs_emit (s.mapStore ..) rfl
  | .passThrough _ => exact fun _ => rfl

theorem CountsAs.trans {s t u : System} (h : s.CountsAs t) (h' : t.CountsAs u) : s.CountsAs u :=
  fun counter => (h counter).trans (h' counter)

end System

/-- A poll of the loader leaves a state that has counted the same, or one that a poll of its get has left from there. -/
def Run.Silent (run : Run τ) (s u : System) : Prop :=
  ∃ t : System, t.CountsAs s ∧ (u = t ∨ ∃ get depth, run.Makes get ∧ u = (Get.poll depth t get).1)

theorem Run.Silent.after {run next : Run τ} {s t u : System} (h : next.Silent t u) (hcounts : t.CountsAs s)
    (hmakes : ∀ get, next.Makes get → run.Makes get) : run.Silent s u := by
  obtain ⟨v, hv, hu⟩ := h
  refine ⟨v, hv.trans hcounts, hu.imp_right ?_⟩
  rintro ⟨get, depth, hget, rfl⟩
  exact ⟨get, depth, hmakes get hget, rfl⟩

/-- Of all that a loader does only its get raises counters. -/
theorem Run.silent_of_poll (run : Run τ) (depth : Nat) (s : System) (load : Option Nat) :
    run.Silent s (Run.poll depth s load run).1 := by
  have hsame : ∀ s : System, s.CountsAs s := fun _ _ => rfl
  induction depth generalizing s run with
  | zero => exact ⟨s, hsame s, .inl rfl⟩
  | succ depth ih =>
    cases run with
    | calling call loader => exact (ih (.running loader) _).after (System.countsAs_emit s rfl) fun _ => id
    | sleeping due loader =>
      simp only [Run.poll]
      split
      · exact (ih (.running loader) s).after (hsame s) fun _ => id
      · exact ⟨s, hsame s, .inl rfl⟩
    | nested get =>
      simp only [Run.poll]
      split
      next t rest hpoll => exact ⟨s, hsame s, .inr ⟨get, depth, rfl, (congrArg Prod.fst hpoll).symm⟩⟩
      next t outcome hpoll => exact ⟨s, hsame s, .inr ⟨get, depth, rfl, (congrArg Prod.fst hpoll).symm⟩⟩
    | running loader =>
      cases loader with
      | done value => exact ⟨s, hsame s, .inl rfl⟩
      | fail failure => exact ⟨s, hsame s, .inl rfl⟩
      | panic payload => exact ⟨s, hsame s, .inl rfl⟩
      | sleep ms next => exact (ih (.sleeping (s.now + ms) next) s).after (hsame s) fun _ => id
      | invalidate cache key next =>
        simp only [Run.poll]
        split
        next t hdone => exact (ih (.running next) t).after (System.countsAs_of_invalidate hdone) fun _ => id
        next => exact ⟨s, hsame s, .inl rfl⟩
      | invalidateAll cache next =>
        simp only [Run.poll]
        split
        next t hdone => exact (ih (.running next) t).after (System.countsAs_of_invalidateAll hdone) fun _ => id
        next => exact ⟨s, hsame s, .inl rfl⟩
      | get request inner => exact (ih (.nested (.asking request inner)) s).after (hsame s) fun _ => id

/-! ### Schedules -/

namespace Session

variable {registry : Registry}

/-- Every schedule keeps the books, without any condition on its requests. -/
theorem books_le {l : Ledger} {P : Registry → Prop} (built : registry.Built) (rises : l.Rises P) (fair : l.Fair)
    (h : P registry) (turns : List Turn) : 0 ≤ l.books ((Session.start registry).play turns) := by
  exact Ledger.books_play rises fair (orderly_start built fun _ => True) h fun t _ => t.asks_all

theorem lockTimeout_le_hit (built : registry.Built) (turns : List Turn) (cache : String) :
    let x := (Session.start registry).play turns
    x.system.trace.count ⟨.lockTimeout, cache⟩ ≤ x.system.trace.count ⟨.hit, cache⟩ := by
  intro x
  have hbooks : 0 ≤ (Ledger.hits cache).books x :=
    books_le built (Ledger.rises_hits cache) (Ledger.fair_hits cache) trivial turns
  have hloads : (x.system.loads.map fun load => (Ledger.hits cache).state load.state).sum ≤ 0 := by
    apply Ledger.sum_map_le
    intro load _
    cases load.state with
    | idle τ run => exact run.doubt_le cache
    | busy => exact Int.le_refl 0
    | ended outcome => exact Int.le_refl 0
  have htasks : (x.tasks.map fun task => (Ledger.hits cache).get task.get).sum ≤ 0 :=
    Ledger.sum_map_le fun task _ => task.get.doubt_le cache
  have hevents := Ledger.sum_hits cache x.system.history
  rw [System.count_trace, System.count_trace]
  simp only [Ledger.books, Ledger.total] at hbooks
  omega

/-- Between two polls no load is about to call its loader. -/
theorem Orderly.due_eq {m : Setting} {x : Session} (orderly : x.Orderly m) {load : Load} (h : load ∈ x.system.loads)
    (cache : String) (sign : Int) : (Ledger.callers cache sign).state load.state = 0 := by
  obtain ⟨id, hload⟩ := List.mem_iff_getElem?.1 h
  obtain ⟨name, key, number, state⟩ := load
  cases state with
  | idle τ run =>
    have hcalm : run.Calm := Classical.not_not.1 fun hrun => orderly.calm id ⟨_, hload, hrun⟩
    exact (orderly.fits.loads id number name key τ run hload).due_eq cache sign hcalm
  | busy => rfl
  | ended outcome => rfl

/-- Between two polls the loads started and the loads given up have each led to one call. -/
theorem calls_eq (built : registry.Built) (turns : List Turn) {cache : String}
    (hstore : storesOf registry cache = true) :
    let x := (Session.start registry).play turns
    x.system.trace.countP (·.event.calls cache) =
      x.system.trace.count ⟨.miss, cache⟩ + x.system.trace.count ⟨.lockTimeout, cache⟩ := by
  intro x
  have orderly : x.Orderly ⟨fun _ => True, storesOf registry⟩ := orderly_play built fun t _ => t.asks_all
  have hsited : registry.Sited (storesOf registry) := (orderly_start built fun _ => True).fits.sited
  have hbooks : ∀ sign, sign = 1 ∨ sign = -1 → 0 ≤ sign * (x.system.history.countP (·.event.calls cache) : Int) -
      sign * Trace.count x.system.history ⟨.miss, cache⟩ -
        sign * Trace.count x.system.history ⟨.lockTimeout, cache⟩ := by
    intro sign hsign
    have hrises := Ledger.rises_callers hstore hsign
    have hbooks : 0 ≤ (Ledger.callers cache sign).books x :=
      books_le built hrises (Ledger.fair_callers cache sign) hsited turns
    have hloads : (x.system.loads.map fun load => (Ledger.callers cache sign).state load.state).sum = 0 := by
      apply List.sum_eq_zero
      intro due hdue
      obtain ⟨load, hload, rfl⟩ := List.mem_map.1 hdue
      exact orderly.due_eq hload cache sign
    have htasks : (x.tasks.map fun task => (Ledger.callers cache sign).get task.get).sum = 0 := by
      apply List.sum_eq_zero
      intro due hdue
      obtain ⟨task, htask, rfl⟩ := List.mem_map.1 hdue
      obtain ⟨hfits, hcalm⟩ := orderly.tasks task htask
      exact hfits.due_eq cache sign hcalm
    have hevents := Ledger.sum_callers cache hsign x.system.history
    simp only [Ledger.books, Ledger.total] at hbooks
    omega
  have hmore := hbooks 1 (.inl rfl)
  have hfewer := hbooks (-1) (.inr rfl)
  rw [System.count_trace, System.count_trace, System.trace, List.countP_reverse]
  omega

/-- How the counters of a local cache add up. -/
structure Accounts (x : Session) (cache : String) : Prop where
  /-- Every lookup hits or misses. -/
  lookups : x.system.trace.count ⟨.hit, cache⟩ + x.system.trace.count ⟨.miss, cache⟩ =
    x.system.trace.countP (·.event.looksUp cache)
  /-- A miss is a load started. -/
  started : x.system.trace.count ⟨.miss, cache⟩ = x.system.loads.countP fun load => decide (load.cache = cache)
  lockTimeouts : x.system.trace.count ⟨.lockTimeout, cache⟩ ≤ x.system.trace.count ⟨.hit, cache⟩
  /-- Loaders are called by loads and by gets that have given a load up. -/
  calls : x.system.trace.countP (·.event.calls cache) =
    x.system.trace.count ⟨.miss, cache⟩ + x.system.trace.count ⟨.lockTimeout, cache⟩
  /-- A load has had its value stored, has failed, has ended well after it was detached, or has not ended. -/
  ended : x.system.trace.count ⟨.miss, cache⟩ =
    x.system.trace.count ⟨.put, cache⟩ + x.system.trace.count ⟨.loadFailure, cache⟩ +
      x.system.trace.countP (·.event.strays cache) +
        x.system.loads.countP fun load => decide (load.cache = cache) && !load.ended

theorem accounts_play (built : registry.Built) (turns : List Turn) {cache : String}
    (hstore : storesOf registry cache = true) : ((Session.start registry).play turns).Accounts cache := by
  have hbalanced := (System.Reached.play built turns).balanced cache
  refine ⟨Trace.count_lookups _ cache, hbalanced.started, lockTimeout_le_hit built turns cache,
    calls_eq built turns hstore, ?_⟩
  have hended := Trace.count_concluded ((Session.start registry).play turns).system.trace cache
  have hloads := List.countP_eq_countP_filter_add ((Session.start registry).play turns).system.loads
    (fun load => decide (load.cache = cache)) Load.ended
  rw [List.countP_filter, List.countP_filter] at hloads
  rw [hbalanced.ended] at hended
  rw [hbalanced.started]
  omega

theorem counting_play (registry : Registry) (turns : List Turn) {name : String} :
    ((Session.start registry).play turns).counting name = true ↔
      ∃ store, registry.find? name = some (.local store) ∧ store.tuning.countsMetrics = true := by
  have hkept := System.countsMetrics_moves (moves_play (Session.start registry) turns) name
  have hcounting : ((Session.start registry).play turns).counting name = true ↔
      (((Session.start registry).play turns).system.registry.find? name).map Cache.countsMetrics = some true := by
    unfold counting
    split
    next cache hfind => simp [hfind]
    next hfind => simp [hfind]
  rw [hcounting, hkept]
  show (registry.find? name).map Cache.countsMetrics = some true ↔ _
  constructor
  · intro h
    obtain ⟨cache, hfind, hcounts⟩ := Option.map_eq_some_iff.1 h
    match cache with
    | .local store => exact ⟨store, hfind, hcounts⟩
    | .passThrough _ => cases hcounts
  · rintro ⟨store, hfind, hcounts⟩
    rw [hfind]
    exact congrArg some hcounts

/-- **The counters balance**, between any two polls of any schedule: those of every local cache add up, and a load ends
detached exactly if its key has been invalidated since it was started. A counter is shown once it is raised, for a local
cache that keeps counters and for no other. A loader that a get runs by itself raises none, however it ends, except by
the get that it makes. -/
theorem counters_balance (built : registry.Built) (turns : List Turn) :
    let x := (Session.start registry).play turns
    (∀ cache store, registry.find? cache = some (.local store) → x.Accounts cache) ∧
    (∀ later e past id cache key outcome kept, x.system.history = later ++ e :: past →
      e.event = .landed id cache key outcome kept → (kept = false ↔ History.Detached cache key id past)) ∧
    (∀ counter n, (counter, n) ∈ x.system.trace.counts x.counting ↔
      (∃ store, registry.find? counter.cache = some (.local store) ∧ store.tuning.countsMetrics = true) ∧
        n = x.system.trace.count counter ∧ 0 < n) ∧
    ∀ (τ : ValueType) (run : Run τ) (depth : Nat) (s : System) (cache : String),
      run.Silent s (Get.poll depth s (.loading cache run)).1 := by
  intro x
  have lawful : History.Lawful x.system.history := (System.Reached.play built turns).sound.told.lawful
  refine ⟨fun cache store hfind => accounts_play built turns ?_, ?_, fun counter n => ?_, ?_⟩
  · rw [storesOf, hfind]
    rfl
  · intro later e past id cache key outcome kept hhistory hevent
    rw [hhistory] at lawful
    exact History.detached_iff lawful.of_append hevent
  · rw [Trace.mem_counts, counting_play]
  · intro τ run depth s cache
    cases depth with
    | zero => exact ⟨s, fun _ => rfl, .inl rfl⟩
    | succ depth =>
      rw [Lookup.poll_loading]
      exact run.silent_of_poll depth s none

/-- Counters are kept for the cache. -/
private def counted : Tuning := { Tuning.unset with metricsEnabled := some true }

/-- A load sleeps that a second get has joined and given up, whose own loader has failed. -/
private def forsaken : List Turn :=
  let request : Request := ⟨"g", "c", .ok (.ofNat 1), .registry, .ofMillis 2⟩
  [.start "a" .flag request (.sleep 5 (.done none)), .poll 0, .start "b" .flag request (.fail (.text "no")), .poll 1,
    .elapse 2, .poll 1]

theorem counters_balance_forsaken : let x := (Session.start (.sole "c" counted)).play forsaken
    x.Accounts "c" ∧ (⟨.lockTimeout, "c"⟩, 1) ∈ x.system.trace.counts x.counting := by
  intro x
  have built : (Registry.sole "c" counted).Built := Registry.built_sole (by decide) rfl
  obtain ⟨haccounts, -, hcounts, -⟩ := counters_balance built forsaken
  have hfind : (Registry.sole "c" counted).find? "c" = some (.local ⟨"c", counted, ∅, ∅, 0, .start⟩) := rfl
  exact ⟨haccounts "c" _ hfind, (hcounts _ 1).2 ⟨⟨_, hfind, rfl⟩, rfl, Nat.one_pos⟩⟩

end Session

end SingleFlight
