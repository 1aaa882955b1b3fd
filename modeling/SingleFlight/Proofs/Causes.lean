import SingleFlight.Proofs.Panics
import SingleFlight.Proofs.Polls

/-!
# Causes

A get that fails because of its loader says so with an error that wraps the loader's failure. If that is the error of a
get that the loader made, it wraps a failure itself, and so on, down to the one that arose first.

* `Failure.wrapped` builds such a failure from its cause and the caches on the way. Its text, its sources and the
  failures that its errors hold are told from these (`CacheFault.Keeps`, `CacheFault.keeps`);
* `Fails` follows a failure through a poll down to its cause: through gets that call their loaders themselves, and
  through loads, which may have ended in an earlier poll. What it follows is what the poll ends with
  (`failsWith_of_fails`), and what everyone is told who waits for a load on the way (`told_of_fails`).
-/

namespace SingleFlight

open SingleFlight.System (Moves)

/-! ### Failures that wrap a cause -/

/-- What the text of an error begins with that wraps the failure of a loader of the cache. -/
def heading (cache : String) : String := "value loader for cache `" ++ cache ++ "` failed: "

namespace Failure

/-- The cause as it is known after it has been passed on by loaders of the caches, the outermost first. -/
def wrapped (cause : Failure) : List String → Failure
  | [] => cause
  | cache :: below => .error (.computation cache (cause.wrapped below))

/-- The failure that is wrapped right below, if there is one. -/
def inner? : Failure → Option Failure
  | .error fault => fault.failure?
  | _ => none

/-- The failure that many steps below. -/
def below? (failure : Failure) : Nat → Option Failure
  | 0 => some failure
  | n + 1 => failure.inner?.bind (·.below? n)

/-- Each step down takes off one cache, until the cause is left. -/
theorem below?_wrapped (cause : Failure) {n : Nat} {caches : List String} (h : n ≤ caches.length) :
    (cause.wrapped caches).below? n = some (cause.wrapped (caches.drop n)) := by
  induction n generalizing caches with
  | zero => rfl
  | succ n ih =>
    cases caches with
    | nil => cases h
    | cons cache below => exact ih (Nat.le_of_succ_le_succ h)

/-- The text names all caches on the way and ends with the text of the cause. -/
theorem message_wrapped (cause : Failure) (caches : List String) :
    (cause.wrapped caches).message = (caches.map heading).foldr (· ++ ·) cause.message := by
  induction caches with
  | nil => rfl
  | cons cache below ih => exact congrArg (heading cache ++ ·) ih

/-- The sources are what is left of the way after each cache, down to the cause, and then the sources of the cause. -/
theorem sources_wrapped (cause : Failure) (cache : String) (below : List String) :
    (cause.wrapped (cache :: below)).sources =
      (below.tails.map fun rest => (cause.wrapped rest).message) ++ cause.sources := by
  induction below generalizing cache with
  | nil => rfl
  | cons next below ih =>
    have hsources : (cause.wrapped (cache :: next :: below)).sources =
        (cause.wrapped (next :: below)).message :: (cause.wrapped (next :: below)).sources := rfl
    rw [hsources, ih]
    rfl

end Failure

/-- The error wraps the cause in the names of the caches, and nothing on the way is lost or doubled. -/
structure CacheFault.Keeps (fault : CacheFault) (cache : String) (below : List String) (cause : Failure) : Prop where
  wraps : fault = .computation cache (cause.wrapped below)
  /-- The text names every cache once, in order, and then the cause. -/
  message : fault.message = ((cache :: below).map heading).foldr (· ++ ·) cause.message
  /-- The sources are the texts of what each cache was told, down to the cause, and then those of the cause. -/
  sources : fault.sources =
    (below.tails.map fun rest => (rest.map heading).foldr (· ++ ·) cause.message) ++ cause.sources
  /-- The error tells the failure of its loader, which tells the next one if it is an error again, down to the cause. -/
  failure : fault.failure? = some (cause.wrapped below) ∧
    ∀ n ≤ below.length, (cause.wrapped below).below? n = some (cause.wrapped (below.drop n))
  /-- An error of the process keeps the text. -/
  setup : SetupFault.ofCacheFault fault = .configuration (((cache :: below).map heading).foldr (· ++ ·) cause.message)

theorem CacheFault.keeps (cache : String) (below : List String) (cause : Failure) :
    (CacheFault.computation cache (cause.wrapped below)).Keeps cache below cause := by
  have hmessage := cause.message_wrapped (cache :: below)
  refine ⟨rfl, hmessage, ?_, ⟨rfl, fun n hn => cause.below?_wrapped hn⟩, congrArg _ hmessage⟩
  simp only [← Failure.message_wrapped]
  exact cause.sources_wrapped cache below

/-! ### Following a failure to its cause -/

/-- A cache that a failure has passed on its way to the caller, by the load for which it called the loader. There is no
load if the get has called its loader itself. -/
structure Layer where
  cache : String
  load : Option Nat

/-- The names of the caches on the way. -/
def Layer.caches (layers : List Layer) : List String := layers.map (·.cache)

/-- The poll of that depth ends in the state `t`, for the cause and through the layers, the outermost first. Below a
load, what comes first is the way of the load's own failure, at whatever poll that was. -/
inductive Fails (cause : Failure) :
    {τ : ValueType} → List Layer → Nat → System → Frame τ → System → Prop where
  | failed {τ : ValueType} (depth : Nat) (s : System) (load : Option Nat) :
    Fails cause (τ := τ) [] (depth + 1) s (.run load (.running (.fail cause))) s
  | noneInvalidated {τ : ValueType} {s : System} {cache : String} {key : Key} {fault : CacheFault}
    (hcause : cause = .error fault) (hfault : s.invalidate cache key = .error fault) (depth : Nat) (load : Option Nat)
    (next : Loader τ) : Fails cause [] (depth + 1) s (.run load (.running (.invalidate cache key next))) s
  | noneOfAllInvalidated {τ : ValueType} {s : System} {cache : String} {fault : CacheFault}
    (hcause : cause = .error fault) (hfault : s.invalidateAll cache = .error fault) (depth : Nat) (load : Option Nat)
    (next : Loader τ) : Fails cause [] (depth + 1) s (.run load (.running (.invalidateAll cache next))) s
  /-- A panic is the cause of what its load fails with. -/
  | panicked {τ : ValueType} {payload : Payload} {depth id : Nat} {s t : System} {run : Run τ}
    (hcause : cause = .panic payload.message) (h : Raises payload t depth s (.run (some id) run)) :
    Fails cause [] depth s (.run (some id) run) t
  | unkeyed {τ : ValueType} {request : Request} {fault : KeyFault} (hcause : cause = .error (.invalidKey fault))
    (hkey : request.key = .error fault) (depth : Nat) (s : System) (loader : Loader τ) :
    Fails cause [] (depth + 1) s (.get (.asking request loader)) s
  | refused {τ : ValueType} {s : System} {request : Request} {key : Key} {fault : CacheFault}
    (hcause : cause = .error fault) (hkey : request.key = .ok key) (hreach : s.reach request = .error fault)
    (depth : Nat) (loader : Loader τ) : Fails cause [] (depth + 1) s (.get (.asking request loader)) s
  /-- What is stored has another type. -/
  | mistyped {τ : ValueType} {s t : System} {request : Request} {loader : Loader τ} {key : Key} {store : LocalStore}
    {value : Stored Value} {fault : CacheFault} (hcause : cause = .error fault) (hkey : request.key = .ok key)
    (hreach : s.reach request = .ok (.local store))
    (hlook : s.lookUp store ⟨request.label, store.name, key⟩ loader = (t, .stored value))
    (htyped : System.typed τ store.name value = .failed fault) (depth : Nat) :
    Fails cause [] (depth + 1) s (.get (.asking request loader)) t
  /-- What the load has brought has another type. -/
  | mistold {τ : ValueType} {s : System} {cache : String} {key : Key} {depth id : Nat}
    {patience : Option (Patience τ)} {value : Stored Value} {fault : CacheFault} (hcause : cause = .error fault)
    (houtcome : (System.advance depth s id).outcome? id = some (.ok value))
    (htyped : System.typed τ cache value = .failed fault) :
    Fails cause [] (depth + 1) s (.get (.awaiting cache key id patience)) (System.advance depth s id)
  | run {τ : ValueType} {layers : List Layer} {depth : Nat} {s u t : System} {load : Option Nat} {run next : Run τ}
    (step : Run.Step load s run u next) (h : Fails cause layers depth u (.run load next) t) :
    Fails cause layers (depth + 1) s (.run load run) t
  | get {τ : ValueType} {layers : List Layer} {depth : Nat} {s u t : System} {get next : Get τ}
    (step : Get.Step depth s get u next) (h : Fails cause layers depth u (.get next) t) :
    Fails cause layers (depth + 1) s (.get get) t
  /-- A loader fails with the error of a get that it made. -/
  | nested {τ : ValueType} {layers : List Layer} {depth : Nat} {s t : System} {load : Option Nat} {get : Get τ}
    (h : Fails cause layers depth s (.get get) t) : Fails cause layers (depth + 1) s (.run load (.nested get)) t
  /-- A get wraps the failure of its own loader. -/
  | loaded {τ : ValueType} {layers : List Layer} {depth : Nat} {s t : System} {cache : String} {run : Run τ}
    (h : Fails cause layers depth s (.run none run) t) :
    Fails cause (⟨cache, none⟩ :: layers) (depth + 1) s (.get (.loading cache run)) t
  /-- A get wraps the failure of the load that it waits for, which has ended by now: in a run, its loader was polled to
  its end. -/
  | told {τ σ : ValueType} {layers : List Layer} {depth before id number : Nat} {s b mid : System} {cache : String}
    {key asked : Key} {patience : Option (Patience τ)} {run : Run σ} {outcome : Outcome Failure (Option (Typed σ))}
    (arises : b.Arises) (hload : b.load? id = some ⟨cache, key, number, .idle σ run⟩)
    (hpoll : Run.poll before (b.setLoad id .busy) (some id) run = (mid, .ended outcome))
    (h : Fails cause layers before (b.setLoad id .busy) (.run (some id) run) mid)
    (later : Moves (mid.land id cache key number (System.loadResult outcome)) (System.advance depth s id)) :
    Fails cause (⟨cache, some id⟩ :: layers) (depth + 1) s (.get (.awaiting cache asked id patience))
      (System.advance depth s id)

/-- The poll of the frame ends with the failure, and so does a load whose loader it is. -/
def Frame.FailsWith {τ : ValueType} (failure : Failure) (depth : Nat) (s : System) : Frame τ → System → Prop
  | .get polled, t => ∃ fault, Get.poll depth s polled = (t, .ended (.failed fault)) ∧ failure = .error fault
  | .run load polled, t => ∃ outcome, Run.poll depth s load polled = (t, .ended outcome) ∧
    System.loadResult outcome = .error failure ∧ (load = none → outcome = .failed failure)

theorem Frame.failsWith_of_failed {τ : ValueType} {failure : Failure} {depth : Nat} {s t : System}
    {load : Option Nat} {run : Run τ} (h : Run.poll depth s load run = (t, .ended (.failed failure))) :
    (Frame.run load run).FailsWith failure depth s t := ⟨_, h, rfl, fun _ => rfl⟩

/-- A load whose loader fails keeps the failure. -/
theorem System.load?_of_failsWith {σ : ValueType} {b mid t : System} {id number depth : Nat} {cache : String}
    {key : Key} {run : Run σ} {outcome : Outcome Failure (Option (Typed σ))} {failure : Failure}
    (hload : b.load? id = some ⟨cache, key, number, .idle σ run⟩)
    (hpoll : Run.poll depth (b.setLoad id .busy) (some id) run = (mid, .ended outcome))
    (fails : (Frame.run (some id) run).FailsWith failure depth (b.setLoad id .busy) mid)
    (later : Moves (mid.land id cache key number (loadResult outcome)) t) :
    t.load? id = some ⟨cache, key, number, .ended (.error failure)⟩ ∧ Moves mid t := by
  obtain ⟨own, hown, hresult, -⟩ := fails
  cases hpoll.symm.trans hown
  rw [hresult] at later
  have hbusy := (busy_of_ended hload hpoll).2
  exact ⟨load?_of_ended later (load?_land_self hbusy _) rfl, later.head (.land hbusy _)⟩

section
variable {cause : Failure} {τ : ValueType} {layers : List Layer} {depth : Nat} {s t : System} {frame : Frame τ}

/-- **What is followed is what the poll ends with.** -/
theorem failsWith_of_fails (h : Fails cause layers depth s frame t) :
    frame.FailsWith (cause.wrapped (Layer.caches layers)) depth s t := by
  induction h with
  | failed depth s load => exact Frame.failsWith_of_failed rfl
  | noneInvalidated hcause hfault depth load next =>
    subst hcause
    exact Frame.failsWith_of_failed (by simp only [Run.poll, hfault]; rfl)
  | noneOfAllInvalidated hcause hfault depth load next =>
    subst hcause
    exact Frame.failsWith_of_failed (by simp only [Run.poll, hfault]; rfl)
  | panicked hcause h =>
    subst hcause
    exact ⟨_, ended_of_raises h, rfl, fun hnone => absurd hnone (Option.some_ne_none _)⟩
  | unkeyed hcause hkey depth s loader => exact ⟨_, by simp only [Get.poll, hkey], hcause⟩
  | refused hcause hkey hreach depth loader => exact ⟨_, by simp only [Get.poll, hkey, hreach], hcause⟩
  | mistyped hcause hkey hreach hlook htyped depth =>
    exact ⟨_, by simp only [Get.poll, hkey, hreach, hlook, htyped], hcause⟩
  | mistold hcause houtcome htyped =>
    exact ⟨_, by simp only [Get.poll, houtcome, System.typedResult, htyped], hcause⟩
  | run step _ ih =>
    obtain ⟨outcome, hpoll, hresult⟩ := ih
    exact ⟨outcome, (Run.poll_of_step step _).trans hpoll, hresult⟩
  | get step _ ih =>
    obtain ⟨fault, hpoll, hfault⟩ := ih
    exact ⟨fault, (Get.poll_of_step step).trans hpoll, hfault⟩
  | nested _ ih =>
    obtain ⟨fault, hpoll, hfault⟩ := ih
    rw [hfault]
    exact Frame.failsWith_of_failed (by simp only [Run.poll, hpoll]; rfl)
  | loaded _ ih =>
    obtain ⟨outcome, hpoll, -, hown⟩ := ih
    obtain rfl := hown rfl
    exact ⟨_, by simp only [Get.poll, hpoll]; rfl, rfl⟩
  | told _ hload hpoll _ later ih =>
    have hended := (System.load?_of_failsWith hload hpoll ih later).1
    have houtcome := System.outcome?_eq_some.2 ⟨_, hended, rfl⟩
    exact ⟨_, by simp only [Get.poll, houtcome]; rfl, rfl⟩

/-- The first cache on the way is the one that the get asks. -/
theorem asked_of_fails (h : Fails cause layers depth s frame t) {get : Get τ} {layer : Layer} {below : List Layer}
    (hframe : frame = .get get) (hlayers : layers = layer :: below) : layer.cache = get.asked := by
  induction h generalizing layer below with
  | get step _ ih =>
    cases hframe
    exact (ih rfl hlayers).trans step.asked_eq
  | loaded | told =>
    cases hframe
    cases hlayers
    rfl
  | failed | noneInvalidated | noneOfAllInvalidated | panicked | run | nested => cases hframe
  | unkeyed | refused | mistyped | mistold => cases hlayers

/-- Every load on the way has ended with what was left of the way below it. -/
theorem ended_of_fails (h : Fails cause layers depth s frame t) {above below : List Layer} {layer : Layer} {id : Nat}
    (hsplit : layers = above ++ layer :: below) (hid : layer.load = some id) : ∃ key number,
      t.load? id = some ⟨layer.cache, key, number, .ended (.error (cause.wrapped (Layer.caches below)))⟩ := by
  induction h generalizing above with
  | failed | noneInvalidated | noneOfAllInvalidated | panicked | unkeyed | refused | mistyped | mistold =>
    exact absurd hsplit.symm (List.append_ne_nil_of_right_ne_nil above (List.cons_ne_nil _ _))
  | run _ _ ih | get _ _ ih | nested _ ih => exact ih hsplit
  | loaded _ ih =>
    cases above with
    | nil =>
      cases hsplit
      cases hid
    | cons first above => exact ih (List.cons.inj hsplit).2
  | told _ hload hpoll h later ih =>
    obtain ⟨hended, moves⟩ := System.load?_of_failsWith hload hpoll (failsWith_of_fails h) later
    cases above with
    | nil =>
      cases hsplit
      cases hid
      exact ⟨_, _, hended⟩
    | cons first above =>
      obtain ⟨key, number, hbelow⟩ := ih (List.cons.inj hsplit).2
      exact ⟨key, number, System.load?_of_ended moves hbelow rfl⟩

/-- Whoever has waited for a load on the way is told what was left of the way below it. -/
theorem told_of_fails (h : Fails cause layers depth s frame t) {above below : List Layer} {layer : Layer} {id : Nat}
    (hsplit : layers = above ++ layer :: below) (hid : layer.load = some id) {σ : ValueType} {u : System}
    {answer : Outcome CacheFault (Option (Typed σ))} (waited : Get.Waited id u answer) (moves : Moves u t ∨ Moves t u) :
    answer = .failed (.computation layer.cache (cause.wrapped (Layer.caches below))) := by
  obtain ⟨key, number, hended⟩ := ended_of_fails h hsplit hid
  obtain ⟨-, load, outcome, hload, hstate, rfl⟩ := Get.told_of_waited waited
  have hsame : load = ⟨layer.cache, key, number, .ended (.error (cause.wrapped (Layer.caches below)))⟩ := by
    rcases moves with moves | moves
    · exact Option.some.inj ((System.load?_of_ended moves hload hstate).symm.trans hended)
    · exact Option.some.inj (hload.symm.trans (System.load?_of_ended moves hended rfl))
  subst hsame
  cases hstate
  rfl

end

end SingleFlight
