import SingleFlight.Proofs.Rest

/-!
# Timers

A task may wait for a load whose loader waits for other loads, and loaders may wait for each other in a circle. A get
waits without bound only for a load that it has started itself, and this load is later than all that led to the get; so
every way along unbounded waits ends, in the sleep of a loader or in a get with a lock timeout
(`Session.timers_pending`).
-/

namespace SingleFlight

mutual
/-- The get has a timer for that time: the end of its own patience, or a timer of a loader that it waits for. -/
inductive Get.Holds (s : System) : {τ : ValueType} → Get τ → Nat → Prop where
  | patience {τ : ValueType} {cache : String} {key : Key} {id : Nat} (p : Patience τ) :
    Get.Holds s (.awaiting cache key id (some p)) p.due
  | load {τ σ : ValueType} {cache name : String} {key other : Key} {id number due : Nat}
    {patience : Option (Patience τ)} {run : Run σ} (hload : s.load? id = some ⟨name, other, number, .idle σ run⟩)
    (h : Run.Holds s run due) : Get.Holds s (.awaiting cache key id patience) due
  | loading {τ : ValueType} {cache : String} {run : Run τ} {due : Nat} (h : Run.Holds s run due) :
    Get.Holds s (.loading cache run) due

/-- The loader has a timer for that time: the end of its sleep, or a timer of its get. -/
inductive Run.Holds (s : System) : {τ : ValueType} → Run τ → Nat → Prop where
  | sleep {τ : ValueType} (due : Nat) (loader : Loader τ) : Run.Holds s (.sleeping due loader) due
  | nested {τ : ValueType} {get : Get τ} {due : Nat} (h : Get.Holds s get due) : Run.Holds s (.nested get) due
end

/-- If the request is for a local cache of the registry, it is made with a lock timeout that is not zero. -/
def Registry.Timed (registry : Registry) (request : Request) : Prop :=
  Session.storesOf registry request.cache = true → request.entryPoint.timed = true ∧ request.lockTimeout ≠ .zero

theorem Registry.not_boundless (registry : Registry) :
    ¬ (⟨registry.Timed, Session.storesOf registry⟩ : Setting).Boundless := by
  rintro ⟨request, htimed, hstore, hzero⟩
  obtain ⟨hentry, hpositive⟩ := htimed hstore
  apply hpositive
  rwa [Request.patience, if_pos hentry] at hzero

namespace System

variable {m : Setting} {s : System} {P : Set Nat}

/-- No get may wait for the load of another without bound, and all that is waited for is still. -/
structure Stalled (m : Setting) (P : Set Nat) (s : System) : Prop where
  bounded : ¬ m.Boundless
  fits : s.Fits m
  calm : ∀ id, ¬ s.Restless id
  still : s.Still P

theorem Stalled.idle (h : s.Stalled m P) {id : Nat} (hid : id ∈ P) :
    ∃ (cache : String) (key : Key) (number : Nat) (τ : ValueType) (run : Run τ),
      s.load? id = some ⟨cache, key, number, .idle τ run⟩ ∧ run.Still P s.now := by
  obtain ⟨⟨cache, key, number, state⟩, hload, hstill⟩ := h.still id hid
  cases state with
  | idle τ run => exact ⟨cache, key, number, τ, run, hload, hstill⟩
  | busy => exact absurd (Busy.restless ⟨_, hload, rfl⟩) (h.calm id)
  | ended outcome => exact hstill.elim

-- Unbounded waits lead to loads ever later, of which there are finitely many.
mutual
/-- Every get that is still holds a timer. -/
theorem Stalled.exists_timer (h : s.Stalled m P) (first : Nat) {τ : ValueType} (get : Get τ)
    (hfits : get.Fits m first s.loads.length) (hstill : get.Still P s.now) :
    ∃ due, get.Holds s due ∧ s.now < due := by
  match get with
  | .asking request loader => exact hstill.elim
  | .awaiting cache key id (some p) => exact ⟨p.due, .patience p, hstill.2 p rfl⟩
  | .awaiting cache key id none =>
    have hlt : id < s.loads.length := hfits.1
    have hfirst : first ≤ id := hfits.2.resolve_right h.bounded
    obtain ⟨name, other, number, σ, run, hload, hrun⟩ := h.idle hstill.1
    have hlater := h.fits.loads id number name other σ run hload
    obtain ⟨due, hholds, hdue⟩ := Stalled.exists_timer_run h (id + 1) run hlater hrun
    exact ⟨due, .load hload hholds, hdue⟩
  | .loading cache run =>
    obtain ⟨due, hholds, hdue⟩ := Stalled.exists_timer_run h first run hfits hstill
    exact ⟨due, .loading hholds, hdue⟩
termination_by (s.loads.length - first, sizeOf get)

theorem Stalled.exists_timer_run (h : s.Stalled m P) (first : Nat) {τ : ValueType} (run : Run τ)
    (hfits : run.Fits m first s.loads.length) (hstill : run.Still P s.now) :
    ∃ due, run.Holds s due ∧ s.now < due := by
  match run with
  | .calling call loader => exact hstill.elim
  | .running loader => exact hstill.elim
  | .sleeping due loader => exact ⟨due, .sleep due loader, hstill⟩
  | .nested get =>
    obtain ⟨due, hholds, hdue⟩ := Stalled.exists_timer h first get hfits hstill
    exact ⟨due, .nested hholds, hdue⟩
termination_by (s.loads.length - first, sizeOf run)
end

end System

namespace Session

variable {m : Setting} {x : Session}

theorem Settled.pollEach (h : x.Settled) : x.system.pollEach x.tasks = (x.system, x.tasks) := by
  unfold Settled at h
  revert h
  induction x.tasks with
  | nil => exact fun _ => rfl
  | cons task tasks ih =>
    intro h
    have hrest := ih fun other hother => h other (List.mem_cons_of_mem task hother)
    simp only [System.pollEach, System.pollTask, h task (List.mem_cons_self ..), hrest]

theorem Settled.pass (h : x.Settled) : x.pass = x := by
  simp only [Session.pass, h.pollEach]

theorem Settled.settleWithin (h : x.Settled) (passes : Nat) : x.settleWithin passes = x := by
  cases passes with
  | zero => rfl
  | succ passes =>
    simp only [Session.settleWithin, h.pass]
    exact if_neg (Nat.lt_irrefl _)

/-- One pass is enough if it leads to a settled session. -/
theorem Settled.settle (h : x.pass.Settled) : x.settle = x.pass := by
  simp only [Session.settle, Session.settleWithin]
  split
  · exact h.settleWithin _
  · rfl

theorem Settled.resting (h : x.Orderly m) (settled : x.Settled) : x.Resting := by
  have hsame := settled.pass
  rw [← hsame]
  apply resting_pass h
  rw [hsame]

/-- In a settled session every task holds a timer, unless some get may wait for the load of another without bound. -/
theorem Settled.exists_timer (h : x.Orderly m) (bounded : ¬ m.Boundless) (settled : x.Settled) {task : Task}
    (htask : task ∈ x.tasks) : ∃ due, task.get.Holds x.system due ∧ x.system.now < due := by
  obtain ⟨P, hstill, hall⟩ := settled.resting h
  have hstalled : x.system.Stalled m P := ⟨bounded, h.fits, h.calm, hstill⟩
  exact hstalled.exists_timer 0 task.get (h.tasks task htask).1 (hall task htask)

/-- **No deadlock under lock timeouts.** All gets on local caches are made with lock timeouts that are not zero, those
of loaders included. Whatever happens in whichever order, to settle leads to a settled session, where polls of tasks
change nothing, and so does any pass that ends no task. In every settled session every live task holds a timer that is
still to come, its own or that of a loader that it waits for. So it is after every step of a session. -/
theorem timers_pending {registry : Registry} (built : registry.Built) :
    (∀ turns : List Turn, (∀ t ∈ turns, t.Asks registry.Timed) →
      let x := (Session.start registry).play turns
      x.settle.Settled ∧ (x.pass.tasks.length = x.tasks.length → x.pass.Settled) ∧
        (x.Settled → (∀ places : List Nat, x.play (places.map .poll) = x) ∧
          ∀ task ∈ x.tasks, ∃ due, task.get.Holds x.system due ∧ x.system.now < due)) ∧
    ∀ steps : List Step, (∀ step ∈ steps, step.StartsOnly (·.Asks registry.Timed)) →
      let y := ((Session.start registry).run steps).1
      y.Settled ∧ ∀ task ∈ y.tasks, ∃ due, task.get.Holds y.system due ∧ y.system.now < due := by
  have bounded := registry.not_boundless
  constructor
  · intro turns timed x
    have horderly : x.Orderly ⟨registry.Timed, storesOf registry⟩ := orderly_play built timed
    refine ⟨(resting_settle horderly).settled, fun hlength => (resting_pass horderly hlength).settled,
      fun settled => ⟨settled.play, fun task => ?_⟩⟩
    exact settled.exists_timer horderly bounded
  · intro steps timed y
    have hstart := orderly_start built registry.Timed
    have horderly : y.Orderly _ := hstart.plays (playsBy_run Turn.asks_of_not_starts _ timed)
    have settled : y.Settled := (resting_run hstart ⟨∅, nofun, nofun⟩ timed).settled
    exact ⟨settled, fun task => settled.exists_timer horderly bounded⟩

/-- The loader of key 1 asks for key 2, whose loader asks for key 1. -/
private def circle : List Step :=
  let request (key : Nat) : Request := ⟨"g", "c", .ok (.ofNat key), .registry, .ofMillis 5⟩
  [.start "a" .flag (request 1) (.get (request 2) (.get (request 1) (.done none)))]

theorem timers_pending_circle : let y := ((Session.start (.sole "c" .unset)).run circle).1
    y.tasks.length = 1 ∧ ∀ task ∈ y.tasks, ∃ due, task.get.Holds y.system due ∧ y.system.now < due := by
  intro y
  have built : (Registry.sole "c" .unset).Built := Registry.built_sole (by decide) rfl
  have timed (key : Nat) : (Registry.sole "c" .unset).Timed ⟨"g", "c", .ok (.ofNat key), .registry, .ofMillis 5⟩ :=
    fun _ => ⟨rfl, show Duration.ofMillis 5 ≠ .zero by decide⟩
  refine ⟨rfl, ((timers_pending built).2 circle fun step hstep => ?_).2⟩
  obtain rfl := List.mem_singleton.1 hstep
  exact ⟨timed 1, timed 2, timed 1, trivial⟩

end Session

end SingleFlight
