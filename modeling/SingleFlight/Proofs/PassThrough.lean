import SingleFlight.Proofs.Metering
import SingleFlight.Proofs.Timers

/-!
# Caches that pass calls through

Where no cache has a store, a get calls its own loader, and all that happens then, and when, is written in its loader.

* `Loader.script` and `Request.script` say what happens from the start of a loader or a get on, and how it ends;
* a get in progress owes the rest of its script, and a poll notes what is due of it and does nothing else, whatever
  the other callers do (`System.poll_owing`);
* to invalidate something changes nothing (`System.invalidate_eq`, `System.invalidateAll_eq`).

A disabled configuration builds nothing but such caches (`Registry.passesThrough_of_disabled`).
-/

namespace SingleFlight

/-- No cache has a local store. -/
def Registry.PassesThrough (registry : Registry) : Prop :=
  ∀ name store, registry.find? name ≠ some (.local store)

theorem Registry.PassesThrough.exists_name {registry : Registry} (passes : registry.PassesThrough) {name : String}
    {cache : Cache} (h : registry.find? name = some cache) : ∃ own, cache = .passThrough own := by
  rcases cache with store | own
  · exact absurd h (passes name store)
  · exact ⟨own, rfl⟩

theorem Registry.passesThrough_of_disabled {names : List String} {config : Config} {registry : Registry}
    (disabled : config.enabled = false) (h : ofConfig names config = .ok registry) : registry.PassesThrough := by
  intro name store hfind
  obtain ⟨enabled, -⟩ := Config.of_cacheNamed_eq_local (cacheNamed_of_find? h hfind).symm
  exact Bool.false_ne_true (disabled.symm.trans enabled)

/-! ### Scripts -/

/-- Something happens so many milliseconds later. -/
def Stamped.later (ms : Nat) (e : Stamped) : Stamped := ⟨ms + e.time, e.event⟩

/-- What happens, with times that count from the start, and how it ends and when. -/
@[ext]
structure Script (ε : Type) (τ : ValueType) where
  events : Trace
  finish : Nat
  outcome : Outcome ε (Option (Typed τ))
  ordered : events.Pairwise fun a b => a.time ≤ b.time
  bounded : ∀ e ∈ events, e.time ≤ finish

namespace Script

variable {ε ε' : Type} {τ : ValueType}

/-- It ends at once. -/
def ended (outcome : Outcome ε (Option (Typed τ))) : Script ε τ := ⟨[], 0, outcome, .nil, nofun⟩

def later (ms : Nat) (script : Script ε τ) : Script ε τ where
  events := script.events.map (·.later ms)
  finish := ms + script.finish
  outcome := script.outcome
  ordered := List.pairwise_map.2 (script.ordered.imp fun h => Nat.add_le_add_left h ms)
  bounded _ h := by
    obtain ⟨e, he, rfl⟩ := List.mem_map.1 h
    exact Nat.add_le_add_left (script.bounded e he) ms

/-- The event happens first, at the start. -/
def after (event : Event) (script : Script ε τ) : Script ε τ where
  events := ⟨0, event⟩ :: script.events
  finish := script.finish
  outcome := script.outcome
  ordered := .cons (fun e _ => Nat.zero_le e.time) script.ordered
  bounded e h := by
    rcases List.mem_cons.1 h with rfl | h
    · exact Nat.zero_le _
    · exact script.bounded e h

def mapError (f : ε → ε') (script : Script ε τ) : Script ε' τ :=
  { script with outcome := script.outcome.mapError f }

/-- What has happened by that time. -/
def due (now : Nat) (script : Script ε τ) : Trace := script.events.filter (·.time ≤ now)

/-- What happens from that time on. -/
def since (now : Nat) (script : Script ε τ) : Script ε τ where
  events := script.events.filter (now ≤ ·.time)
  finish := script.finish
  outcome := script.outcome
  ordered := script.ordered.filter _
  bounded e h := script.bounded e (List.mem_of_mem_filter h)

/-! What is due, and what is not yet. -/

theorem due_after (now : Nat) (event : Event) (script : Script ε τ) :
    ((script.after event).later now).due now = ⟨now, event⟩ :: (script.later now).due now :=
  List.filter_cons_of_pos (decide_eq_true (Nat.le_refl now))

theorem since_after (now : Nat) (event : Event) (script : Script ε τ) :
    ((script.after event).later now).since (now + 1) = (script.later now).since (now + 1) := by
  have hpast : (⟨now, event⟩ :: (script.later now).events).filter (now + 1 ≤ ·.time) =
      (script.later now).events.filter (now + 1 ≤ ·.time) :=
    List.filter_cons_of_neg (by simp)
  exact Script.ext hpast rfl rfl

theorem later_later (ms more : Nat) (script : Script ε τ) :
    (script.later ms).later more = script.later (more + ms) := by
  have hstamped : Stamped.later more ∘ Stamped.later ms = Stamped.later (more + ms) := by
    funext e
    simp only [Function.comp_apply, Stamped.later, Nat.add_assoc]
  ext1
  · simp only [later, List.map_map, hstamped]
  · exact (Nat.add_assoc ..).symm
  · rfl

theorem le_of_mem_later {ms : Nat} {script : Script ε τ} {e : Stamped} (h : e ∈ (script.later ms).events) :
    ms ≤ e.time := by
  obtain ⟨e, -, rfl⟩ := List.mem_map.1 h
  exact Nat.le_add_right ms e.time

/-- What happens later is not due yet. -/
theorem due_later {now ms : Nat} (h : now < ms) (script : Script ε τ) : (script.later ms).due now = [] := by
  refine List.filter_eq_nil_iff.2 fun e he => ?_
  have hlate := le_of_mem_later he
  simp only [decide_eq_true_eq]
  omega

theorem since_later {now ms : Nat} (h : now ≤ ms) (script : Script ε τ) :
    (script.later ms).since now = script.later ms := by
  refine Script.ext (List.filter_eq_self.2 fun e he => ?_) rfl rfl
  have hlate := le_of_mem_later he
  simp only [decide_eq_true_eq]
  omega

theorem since_since {now more : Nat} (h : now ≤ more) (script : Script ε τ) :
    (script.since now).since more = script.since more := by
  have hfilter : (script.events.filter (now ≤ ·.time)).filter (more ≤ ·.time) =
      script.events.filter (more ≤ ·.time) := by
    rw [List.filter_filter]
    refine List.filter_congr fun e _ => ?_
    rw [Bool.eq_iff_iff]
    simp only [decide_eq_true_eq, Bool.and_eq_true]
    omega
  exact Script.ext hfilter rfl rfl

/-- What is due of the rest is what happens at this time. -/
theorem due_since (now : Nat) (script : Script ε τ) :
    (script.since now).due now = script.events.filter (·.time = now) := by
  show List.filter _ (List.filter _ _) = _
  rw [List.filter_filter]
  refine List.filter_congr fun e _ => ?_
  rw [Bool.eq_iff_iff]
  simp only [decide_eq_true_eq, Bool.and_eq_true]
  omega

end Script

/-- A get calls its own loader, unless its key or its cache is none. -/
def Request.script (registry : Registry) (request : Request) (own : Script Failure τ) : Script CacheFault τ :=
  match request.key with
  | .error fault => .ended (.failed (.invalidKey fault))
  | .ok key =>
    match (System.start registry).reach request with
    | .error fault => .ended (.failed fault)
    | .ok cache =>
      ((own.after (.called ⟨request.label, cache.name, key⟩ none)).mapError (.computation cache.name)).after
        (.passedThrough cache.name key)

/-- An invalidation changes nothing, but fails the loader if there is no such cache. -/
def Loader.script (registry : Registry) : Loader τ → Script Failure τ
  | .done value => .ended (.value value)
  | .fail failure => .ended (.failed failure)
  | .panic payload => .ended (.panicked payload)
  | .sleep ms next => (next.script registry).later ms
  | .invalidate cache _ next | .invalidateAll cache next =>
    match registry.require cache with
    | .ok _ => next.script registry
    | .error fault => .ended (.failed (.error fault))
  | .get request loader => (request.script registry (loader.script registry)).mapError .error

mutual
/-- What is left of the get, from that time on, is the script, with the times of the clock. -/
def Get.Owes (registry : Registry) (now : Nat) (script : Script CacheFault τ) : Get τ → Prop
  | .asking request loader => script = (request.script registry (loader.script registry)).later now
  | .awaiting _ _ _ _ => False
  | .loading cache run => ∃ own, run.Owes registry now own ∧ script = own.mapError (.computation cache)

def Run.Owes (registry : Registry) (now : Nat) (script : Script Failure τ) : Run τ → Prop
  | .calling call loader => script = ((loader.script registry).after (.called call none)).later now
  | .running loader => script = (loader.script registry).later now
  | .sleeping due loader => script = (loader.script registry).later (max due now)
  | .nested get => ∃ own, get.Owes registry now own ∧ script = own.mapError .error
end

/-! No counter counts what happens. -/

/-- Nothing that happens raises a counter. -/
def Script.Uncounted (script : Script ε τ) : Prop := ∀ e ∈ script.events, e.event.counter? = none

theorem Script.Uncounted.later {script : Script ε τ} (h : script.Uncounted) (ms : Nat) :
    (script.later ms).Uncounted := by
  intro e he
  obtain ⟨before, hbefore, rfl⟩ := List.mem_map.1 he
  exact h before hbefore

theorem Request.uncounted_script {registry : Registry} (request : Request) {own : Script Failure τ}
    (h : own.Uncounted) : (request.script registry own).Uncounted := by
  unfold Request.script
  split
  · exact nofun
  · split
    · exact nofun
    · exact List.forall_mem_cons.2 ⟨rfl, List.forall_mem_cons.2 ⟨rfl, h⟩⟩

theorem Loader.uncounted_script (registry : Registry) : (loader : Loader τ) → (loader.script registry).Uncounted
  | .done _ | .fail _ | .panic _ => nofun
  | .sleep ms next => (next.uncounted_script registry).later ms
  | .invalidate cache _ next | .invalidateAll cache next => by
    unfold Loader.script
    split
    · exact next.uncounted_script registry
    · exact nofun
  | .get request loader => request.uncounted_script (loader.uncounted_script registry)

/-! ### Polls -/

namespace System

variable {registry : Registry} {s t : System}

/-- Events are noted, and nothing else changes. -/
def noting (s : System) (events : Trace) : System := { s with history := events.reverse ++ s.history }

theorem noting_emit (s : System) (event : Event) (events : Trace) :
    (s.emit event).noting events = s.noting (⟨s.now, event⟩ :: events) := by
  simp only [noting, emit, List.reverse_cons, List.append_assoc, List.singleton_append]

/-- Which cache a request reaches depends on the registry only. -/
theorem reach_start (hs : s.registry = registry) (request : Request) :
    (start registry).reach request = s.reach request := by
  rw [reach, reach, hs]
  rfl

/-- What a get does that reaches its cache. -/
theorem script_of_reach (hs : s.registry = registry) {request : Request} {key : Key} {cache : Cache}
    (hkey : request.key = .ok key) (hreach : s.reach request = .ok cache) (own : Script Failure τ) :
    request.script registry own =
      ((own.after (.called ⟨request.label, cache.name, key⟩ none)).mapError (.computation cache.name)).after
        (.passedThrough cache.name key) := by
  have hstart : (start registry).reach request = .ok cache := (reach_start hs request).trans hreach
  rw [Request.script, hkey]
  simp only [hstart]

theorem not_reach_local (passes : registry.PassesThrough) (hs : s.registry = registry) {request : Request}
    {store : LocalStore} : s.reach request ≠ .ok (.local store) := by
  intro hreach
  have hfind := find?_of_reach hreach
  rw [hs] at hfind
  exact passes _ _ hfind

/-- To invalidate a key changes nothing. -/
theorem invalidate_eq (passes : registry.PassesThrough) (hs : s.registry = registry) (cache : String) (key : Key) :
    s.invalidate cache key = (fun _ => s) <$> registry.require cache := by
  rw [invalidate, hs]
  cases hrequire : registry.require cache with
  | error fault => rfl
  | ok found =>
    obtain ⟨name, rfl⟩ := passes.exists_name (find?_of_require (s := start registry) hrequire)
    rfl

theorem invalidateAll_eq (passes : registry.PassesThrough) (hs : s.registry = registry) (cache : String) :
    s.invalidateAll cache = (fun _ => s) <$> registry.require cache := by
  rw [invalidateAll, hs]
  cases hrequire : registry.require cache with
  | error fault => rfl
  | ok found =>
    obtain ⟨name, rfl⟩ := passes.exists_name (find?_of_require (s := start registry) hrequire)
    rfl

end System

namespace Script

variable {ε ε' : Type} {τ : ValueType} {σ σ' : Type} {s t : System}

/-- A poll that notes what is due of the script. It has ended if this is all, and otherwise owes the rest. -/
inductive Done (owes : σ → Script ε τ → Prop) (s : System) (script : Script ε τ) :
    System → Progress σ ε (Option (Typed τ)) → Prop where
  | ended (h : script.finish ≤ s.now) : Done owes s script (s.noting (script.due s.now)) (.ended script.outcome)
  | pending {rest : σ} (h : s.now < script.finish) (left : owes rest (script.since (s.now + 1))) :
    Done owes s script (s.noting (script.due s.now)) (.pending rest)

namespace Done

variable {owes : σ → Script ε τ → Prop} {script : Script ε τ}

theorem now (outcome : Outcome ε (Option (Typed τ))) : Done owes s ((Script.ended outcome).later s.now) s
    (.ended outcome) :=
  .ended (Nat.le_refl _)

theorem after {event : Event} {progress : Progress σ ε (Option (Typed τ))}
    (h : Done owes (s.emit event) (script.later s.now) t progress) :
    Done owes s ((script.after event).later s.now) t progress := by
  cases h with
  | ended h =>
    rw [System.noting_emit, System.now_emit, ← due_after]
    exact .ended h
  | pending h left =>
    rw [System.now_emit, ← since_after s.now event] at left
    rw [System.noting_emit, System.now_emit, ← due_after]
    exact .pending h left

/-- Nothing of what happens later is due. -/
theorem later {ms : Nat} {rest : σ} (h : s.now < ms) (left : owes rest (script.later ms)) :
    Done owes s (script.later ms) s (.pending rest) := by
  have hdone : Done owes s (script.later ms) (s.noting ((script.later ms).due s.now)) (.pending rest) := by
    refine .pending (Nat.lt_of_lt_of_le h (Nat.le_add_right ms script.finish)) ?_
    rwa [since_later h]
  rw [due_later h] at hdone
  exact hdone

theorem mapError_ended {f : ε → ε'} {owes' : σ' → Script ε' τ → Prop} {outcome : Outcome ε (Option (Typed τ))}
    (h : Done owes s script t (.ended outcome)) : Done owes' s (script.mapError f) t (.ended (outcome.mapError f)) := by
  cases h with
  | ended h => exact .ended h

theorem mapError_pending {f : ε → ε'} {owes' : σ' → Script ε' τ → Prop} {rest : σ} {rest' : σ'}
    (h : Done owes s script t (.pending rest))
    (left : owes rest (script.since (s.now + 1)) → owes' rest' ((script.mapError f).since (s.now + 1))) :
    Done owes' s (script.mapError f) t (.pending rest') := by
  cases h with
  | pending h hrest => exact .pending h (left hrest)

end Done

end Script

/-- The get sleeps, and owes the script after it. -/
def Get.Asleep (registry : Registry) (now : Nat) (get : Get τ) (script : Script CacheFault τ) : Prop :=
  get.Still ∅ now ∧ get.Owes registry (now + 1) script

def Run.Asleep (registry : Registry) (now : Nat) (run : Run τ) (script : Script Failure τ) : Prop :=
  run.Still ∅ now ∧ run.Owes registry (now + 1) script

namespace System

variable {registry : Registry} {s : System}

/-- What owes a script does what is due of it when it is polled. -/
private def owing (registry : Registry) : Judgement where
  get depth s get t progress := s.registry = registry → s.work + get.size ≤ depth →
    ∀ script, get.Owes registry s.now script → script.Done (Get.Asleep registry s.now) s t progress
  run depth s load run t progress := s.registry = registry → s.work + run.size ≤ depth → load = none →
    ∀ script, run.Owes registry s.now script → script.Done (Run.Asleep registry s.now) s t progress
  load _ _ _ _ := True

private theorem owing_gets (passes : registry.PassesThrough) : (owing registry).KeptByGets where
  cut s get _ hdepth := absurd hdepth (Nat.not_le_of_lt (Nat.lt_add_left s.work get.size_pos))
  unkeyed {τ depth s request loader fault} hkey hs _ script howes := by
    have hscript : script = (Script.ended (.failed (.invalidKey fault))).later s.now := by
      rw [show script = _ from howes, Request.script, hkey]
    subst hscript
    exact .now _
  refused {τ depth s request loader key fault} hkey hreach hs _ script howes := by
    have hstart : (System.start registry).reach request = .error fault := (reach_start hs request).trans hreach
    have hscript : script = (Script.ended (.failed fault)).later s.now := by
      rw [show script = _ from howes, Request.script, hkey]
      simp only [hstart]
    subst hscript
    exact .now _
  passed {τ depth s t request loader key name progress} hkey hreach h hs hdepth script howes := by
    have hscript : script = ((((loader.script registry).after
        (.called ⟨request.label, name, key⟩ none)).mapError (.computation name)).after
          (.passedThrough name key)).later s.now := by
      rw [show script = _ from howes, script_of_reach hs hkey hreach]
      rfl
    subst hscript
    exact .after (h hs (deep_of_passed name _ hdepth) _ ⟨_, rfl, rfl⟩)
  -- no cache has a store, and no get waits for a load
  found _ hreach _ hs := absurd hreach (not_reach_local passes hs)
  started _ hreach _ _ hs := absurd hreach (not_reach_local passes hs)
  joined _ hreach _ _ hs := absurd hreach (not_reach_local passes hs)
  told _ _ _ _ _ howes := howes.elim
  waiting _ _ _ _ _ _ howes := howes.elim
  timedOut _ _ _ _ _ _ _ howes := howes.elim
  loading {τ depth s t cache run rest} _ h hs hdepth script howes := by
    obtain ⟨own, hown, rfl⟩ := howes
    exact (h hs (Nat.le_of_succ_le_succ hdepth) rfl own hown).mapError_pending
      fun ⟨still, left⟩ => ⟨still, _, left, rfl⟩
  loaded {τ depth s t cache run outcome} _ h hs hdepth script howes := by
    obtain ⟨own, hown, rfl⟩ := howes
    exact (h hs (Nat.le_of_succ_le_succ hdepth) rfl own hown).mapError_ended

private theorem owing_runs (passes : registry.PassesThrough) : (owing registry).KeptByRuns where
  cut s _ run _ hdepth := absurd hdepth (Nat.not_le_of_lt (Nat.lt_add_left s.work run.size_pos))
  calling {τ depth s t load call loader progress} h hs hdepth hload script howes := by
    subst hload
    obtain rfl : script = _ := howes
    exact .after (h hs (Nat.le_of_succ_le_succ hdepth) rfl _ rfl)
  awake {τ depth due s t load loader progress} hdue h hs hdepth hload script howes := by
    have hmax : max due s.now = s.now := Nat.max_eq_right hdue
    rw [show script = _ from howes, hmax]
    exact h hs (Nat.le_of_succ_le_succ hdepth) hload _ rfl
  asleep {τ depth due s load loader} hdue hs _ _ script howes := by
    have hlate : s.now < due := Nat.lt_of_not_le hdue
    have hmax : max due s.now = due := Nat.max_eq_left (Nat.le_of_lt hlate)
    have hlater : max due (s.now + 1) = due := Nat.max_eq_left hlate
    rw [show script = _ from howes, hmax]
    refine .later hlate ⟨hlate, ?_⟩
    show (loader.script registry).later due = (loader.script registry).later (max due (s.now + 1))
    rw [hlater]
  nesting {τ depth s t load get rest} _ h hs hdepth _ script howes := by
    obtain ⟨own, hown, rfl⟩ := howes
    exact (h hs (Nat.le_of_succ_le_succ hdepth) own hown).mapError_pending fun ⟨still, left⟩ => ⟨still, _, left, rfl⟩
  nested {τ depth s t load get outcome} _ h hs hdepth _ script howes := by
    obtain ⟨own, hown, rfl⟩ := howes
    exact (h hs (Nat.le_of_succ_le_succ hdepth) own hown).mapError_ended
  done depth s load value _ _ _ script howes := by
    obtain rfl : script = _ := howes
    exact .now _
  fail depth s load failure _ _ _ script howes := by
    obtain rfl : script = _ := howes
    exact .now _
  panic depth s load payload _ _ _ script howes := by
    obtain rfl : script = _ := howes
    exact .now _
  sleep {τ depth ms s t load next progress} h hs hdepth hload script howes := by
    have hmax : max (s.now + ms) s.now = s.now + ms := Nat.max_eq_left (Nat.le_add_right ..)
    refine h hs (Nat.le_of_succ_le_succ hdepth) hload script ?_
    show script = (next.script registry).later (max (s.now + ms) s.now)
    rw [hmax, ← Script.later_later]
    exact howes
  invalidate {τ depth s t u load cache key next progress} hdone h hs hdepth hload script howes := by
    have hdeep := deep_of_invalidate hdone hdepth
    rw [invalidate_eq passes hs] at hdone
    obtain ⟨found, hfound, rfl⟩ := exists_of_map_eq_ok hdone
    refine h hs hdeep hload script ?_
    rw [show script = _ from howes, Loader.script, hfound]
    rfl
  invalidateNone {τ depth s load cache key next fault} hfault hs _ _ script howes := by
    rw [invalidate_eq passes hs] at hfault
    have hscript : script = (Script.ended (.failed (.error fault))).later s.now := by
      rw [show script = _ from howes, Loader.script, eq_error_of_map_eq_error hfault]
    subst hscript
    exact .now _
  invalidateAll {τ depth s t u load cache next progress} hdone h hs hdepth hload script howes := by
    have hdeep := deep_of_invalidateAll hdone hdepth
    rw [invalidateAll_eq passes hs] at hdone
    obtain ⟨found, hfound, rfl⟩ := exists_of_map_eq_ok hdone
    refine h hs hdeep hload script ?_
    rw [show script = _ from howes, Loader.script, hfound]
    rfl
  invalidateAllNone {τ depth s load cache next fault} hfault hs _ _ script howes := by
    rw [invalidateAll_eq passes hs] at hfault
    have hscript : script = (Script.ended (.failed (.error fault))).later s.now := by
      rw [show script = _ from howes, Loader.script, eq_error_of_map_eq_error hfault]
    subst hscript
    exact .now _
  get {τ depth s t load request inner progress} h hs hdepth hload script howes := by
    refine h hs (Nat.le_of_succ_le_succ hdepth) hload script ⟨_, rfl, ?_⟩
    exact howes

/-- A poll of a get notes what is due of the script that the get owes, and does nothing else. -/
theorem poll_owing (passes : registry.PassesThrough) (hs : s.registry = registry) {get : Get τ}
    {script : Script CacheFault τ} (howes : get.Owes registry s.now script) :
    script.Done (Get.Asleep registry s.now) s (s.poll get).1 (s.poll get).2 := by
  have kept : (owing registry).Kept := ⟨owing_gets passes, owing_runs passes,
    ⟨fun _ _ => trivial, fun _ => trivial, fun _ _ _ => trivial, fun _ _ _ => trivial⟩⟩
  exact (kept.polls _).get s get hs (Nat.le_refl _) script howes

end System

end SingleFlight
