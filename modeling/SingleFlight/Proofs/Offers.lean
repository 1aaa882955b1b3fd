import SingleFlight.Proofs.Polls
import SingleFlight.Proofs.Waiters

/-!
# What loaders can bring

Say for each cache and each key what its gets may be told. A loader offers no more than that if it brings such a value,
or passes on what a get of its own may be told (`Loader.Offers`). If all loaders of a session offer no more, no get is
told anything else.

* a state is faithful if the loaders of its loads offer no more and all loads have landed so (`System.Faithful`). Polls
  of gets and loaders that offer no more lead from a faithful state to one, and come to no more
  (`Get.offers_of_poll`);
* so does every session whose callers bring such loaders, wherever it polls (`Session.Makes.faithful`);
* a get with such a loader offers no more on all of its way (`Loader.endures`).
-/

namespace SingleFlight

open SingleFlight.System (Moves Arises)

/-- For each cache and each key, what gets may be told: which values, or that there is none. -/
abbrev Allowance := String → Key → Option Value → Prop

section
variable {allowed : Allowance} {good better : Option Value → Prop} {s t u : System}

/-! ### Offers -/

/-- Whatever value the loader ends with is good if the gets that it makes are told what is allowed. -/
def Loader.Offers (allowed : Allowance) : (Option Value → Prop) → Loader τ → Prop
  | good, .done value => good (value.map (·.val))
  | _, .fail _ | _, .panic _ => True
  | good, .sleep _ next | good, .invalidate _ _ next | good, .invalidateAll _ next => next.Offers allowed good
  | good, .get request inner => ∀ key, request.key = .ok key →
    inner.Offers allowed (allowed request.cache key) ∧ ∀ value, allowed request.cache key value → good value

mutual
/-- Whatever value the get is told is good. -/
def Get.Offers {τ : ValueType} (allowed : Allowance) (good : Option Value → Prop) : Get τ → Prop
  | .asking request loader => (Loader.get request loader).Offers allowed good
  | .awaiting cache key _ patience => (∀ value, allowed cache key value → good value) ∧
    ∀ p, patience = some p → p.loader.Offers allowed good
  | .loading _ run => run.Offers allowed good

/-- Whatever value the loader ends with is good. -/
def Run.Offers {τ : ValueType} (allowed : Allowance) (good : Option Value → Prop) : Run τ → Prop
  | .calling _ loader | .running loader | .sleeping _ loader => loader.Offers allowed good
  | .nested get => get.Offers allowed good
end

theorem Loader.Offers.mono {loader : Loader τ} (h : loader.Offers allowed good)
    (wider : ∀ value, good value → better value) : loader.Offers allowed better := by
  induction loader with
  | done value => exact wider _ h
  | fail failure => trivial
  | panic payload => trivial
  | sleep ms next ih => exact ih h
  | invalidate cache key next ih => exact ih h
  | invalidateAll cache next ih => exact ih h
  | get request inner ih =>
    intro key hkey
    obtain ⟨hinner, hpasses⟩ := h key hkey
    exact ⟨hinner, fun value hvalue => wider value (hpasses value hvalue)⟩

theorem Run.Step.offers {load : Option Nat} {run next : Run τ} (step : Run.Step load s run t next)
    (h : run.Offers allowed good) : next.Offers allowed good := by
  cases step with
  | called => exact h
  | awake hdue => exact h
  | slept => exact h
  | invalidated hdone => exact h
  | allInvalidated hdone => exact h
  | made => exact h

theorem Get.Step.offers {depth : Nat} {get next : Get τ} (step : Get.Step depth s get t next)
    (h : get.Offers allowed good) : next.Offers allowed good := by
  cases step with
  | passed hkey hreach hname =>
    obtain ⟨hloader, hpasses⟩ := h _ hkey
    exact hloader.mono hpasses
  | started hkey hreach hlook hname =>
    obtain ⟨hloader, hpasses⟩ := h _ hkey
    exact ⟨hname ▸ hpasses, fun p hp => by cases hp⟩
  | joined hkey hreach hlook hname =>
    obtain ⟨hloader, hpasses⟩ := h _ hkey
    refine ⟨hname ▸ hpasses, fun p hp => ?_⟩
    unfold Request.patienceAt at hp
    split at hp
    · cases hp
    · cases hp
      exact hloader.mono hpasses
  | timedOut hopen hdue => exact h.2 _ rfl

/-! ### Offers on the way -/

theorem Loader.offers_close {loader : Loader τ} : loader.close.Offers allowed good ↔ loader.Offers allowed good := by
  induction loader with
  | done value => exact .rfl
  | fail failure => exact .rfl
  | panic payload => exact .rfl
  | sleep ms next ih => exact ih
  | invalidate cache key next ih => exact ih
  | invalidateAll cache next ih => exact ih
  | get request inner ih => exact .rfl

/-- Gets with that loader offer on their way no more than they did when they were made. -/
def Loader.Endures (allowed : Allowance) (loader : Loader τ) : Prop :=
  ∀ {request : Request} {good : Option Value → Prop} {s t : System} {get : Get τ}, s.Arises →
    Get.Way s (.asking request loader) t get → (Get.asking request loader).Offers allowed good → get.Offers allowed good

/-- What is left of a loader offers no more than the loader, if the get that it makes does not. -/
theorem Run.Heads.offers {loader : Loader τ} {run : Run τ} (heads : Run.Heads loader t run)
    (hinner : ∀ request inner, loader.close = .get request inner → inner.Endures allowed)
    (h : loader.Offers allowed good) : run.Offers allowed good := by
  have hclose := Loader.offers_close.2 h
  have hrest : ∀ {rest : Loader τ}, rest.close = loader.close → rest.Offers allowed good :=
    fun hsame => Loader.offers_close.1 (hsame ▸ hclose)
  cases run with
  | calling call rest => exact hrest heads
  | running rest => exact hrest heads
  | sleeping due rest => exact hrest heads
  | nested get =>
    obtain ⟨s, request, inner, hmade, arises, way⟩ := heads
    rw [hmade] at hclose
    exact hinner request inner hmade arises way hclose

theorem Loader.endures_of_made {loader : Loader τ}
    (hinner : ∀ request inner, loader.close = .get request inner → inner.Endures allowed) : loader.Endures allowed := by
  intro request good s t get arises way offers
  cases hkey : request.key with
  | error fault =>
    rw [Get.eq_asking_of_way hkey way]
    exact offers
  | ok key =>
    obtain ⟨hloader, hpasses⟩ := offers key hkey
    have hgood := hloader.mono hpasses
    have placed := Get.placed_of_way System.stable_arises hkey arises.reached.sound way
    cases get with
    | asking own ownLoader =>
      obtain ⟨rfl, rfl⟩ : own = request ∧ ownLoader = loader := placed
      exact offers
    | awaiting cache own id patience =>
      obtain ⟨⟨rfl, rfl⟩, hcall, -⟩ := placed
      refine ⟨hpasses, fun p hp => ?_⟩
      rw [(hcall p hp).2]
      exact hgood
    | loading cache run =>
      obtain ⟨-, ⟨-, rfl⟩ | ⟨c, -, way⟩⟩ := placed
      · exact hgood
      · exact (Run.heads_of_way way).2.offers hinner hgood

/-- On its way a get offers no more than it did when it was made. -/
theorem Loader.endures (allowed : Allowance) (loader : Loader τ) : loader.Endures allowed := by
  refine endures_of_made ?_
  -- the get that a loader makes has a smaller loader
  induction loader with
  | done value => exact fun _ _ h => by cases h
  | fail failure => exact fun _ _ h => by cases h
  | panic payload => exact fun _ _ h => by cases h
  | sleep ms next ih => exact ih
  | invalidate cache key next ih => exact ih
  | invalidateAll cache next ih => exact ih
  | get request inner ih =>
    intro _ _ h
    cases h
    exact endures_of_made ih

/-! ### Faithful states -/

namespace System

/-- Each load has a loader that offers what is allowed for its key, or has landed with what is. -/
structure Faithful (allowed : Allowance) (s : System) : Prop where
  idle {τ : ValueType} {id number : Nat} {cache : String} {key : Key} {run : Run τ}
    (hload : s.load? id = some ⟨cache, key, number, .idle τ run⟩) : run.Offers allowed (allowed cache key)
  landed {e : Stamped} (he : e ∈ s.history) {id : Nat} {cache : String} {key : Key} {value : Stored Value} {kept : Bool}
    (hevent : e.event = .landed id cache key (.ok value) kept) : allowed cache key value.toOption

namespace Faithful

/-- A step that changes no load, and records no more than an event that is no landing. -/
theorem keep (h : s.Faithful allowed) (hloads : t.loads = s.loads)
    (hhistory : t.history = s.history ∨ ∃ e, t.history = e :: s.history ∧ ∀ id, e.event.lands id = false) :
    t.Faithful allowed where
  idle {τ id number cache key run} hload := by
    rw [load?, hloads] at hload
    exact h.idle hload
  landed {e} he {id cache key value kept} hevent := by
    rcases hhistory with hsame | ⟨new, hnew, hlands⟩
    · rw [hsame] at he
      exact h.landed he hevent
    · rw [hnew] at he
      rcases List.mem_cons.1 he with rfl | he
      · have hland := hlands id
        rw [hevent] at hland
        exact absurd hland (by simp [Event.lands])
      · exact h.landed he hevent

theorem note (h : s.Faithful allowed) {event : Event} (haside : event.isAside) : (s.emit event).Faithful allowed := by
  refine h.keep rfl (.inr ⟨⟨s.now, event⟩, rfl, fun id => ?_⟩)
  cases event <;> first | rfl | cases haside

theorem invalidateIn (h : s.Faithful allowed) (cache : Cache) (key : Key) :
    (s.invalidateIn cache key).Faithful allowed := by
  cases cache with
  | «local» store => exact h.keep (loads_invalidateIn ..) (.inr ⟨_, rfl, fun id => rfl⟩)
  | passThrough name => exact h

theorem invalidateAllIn (h : s.Faithful allowed) (cache : Cache) : (s.invalidateAllIn cache).Faithful allowed := by
  cases cache with
  | «local» store => exact h.keep (loads_invalidateAllIn ..) (.inr ⟨_, rfl, fun id => rfl⟩)
  | passThrough name => exact h

/-- A lookup starts no load but for a loader that offers what is allowed. -/
theorem lookUp (h : s.Faithful allowed) {store : LocalStore} {call : Call} {loader : Loader τ} {found : Found}
    (hlook : s.lookUp store call loader = (t, found)) (offers : loader.Offers allowed (allowed store.name call.key)) :
    t.Faithful allowed := by
  have hhistory : t.history = ⟨s.now, .lookedUp store.name call.key found⟩ :: s.history := by
    have hafter := history_lookUp s store call loader
    rwa [hlook] at hafter
  refine ⟨fun {σ id number cache key run} hload => ?_, fun {e} he {id cache key value kept} hevent => ?_⟩
  · rcases load?_of_lookUp hlook id with hold | rfl
    · exact h.idle (hold.symm.trans hload)
    · obtain ⟨-, hnew⟩ := load?_of_started hlook
      cases hnew.symm.trans hload
      exact offers
  · rw [hhistory] at he
    rcases List.mem_cons.1 he with rfl | he
    · cases hevent
    · exact h.landed he hevent

/-- A load is closed again with what is left of a loader that offers what is allowed, if any is left. -/
theorem setLoad (h : s.Faithful allowed) {id : Nat} {state : LoadState}
    (hstate : ∀ load, s.load? id = some load → ∀ (τ : ValueType) (run : Run τ), state = .idle τ run →
      run.Offers allowed (allowed load.cache load.key)) : (s.setLoad id state).Faithful allowed where
  idle {τ other number cache key run} hload := by
    by_cases hother : other = id
    · subst hother
      cases hold : s.load? other with
      | none =>
        rw [load?_setLoad, if_pos rfl, hold] at hload
        cases hload
      | some load =>
        cases (load?_setLoad_self hold state).symm.trans hload
        exact hstate load hold τ run rfl
    · exact h.idle ((load?_setLoad_of_ne s hother state).symm.trans hload)
  landed he _ _ _ _ _ hevent := h.landed he hevent

/-- A load lands with what is allowed. -/
theorem land (h : s.Faithful allowed) {id number : Nat} {cache : String} {key : Key} {outcome : LoadResult}
    (hallowed : ∀ value, outcome = .ok value → allowed cache key value.toOption) :
    (s.land id cache key number outcome).Faithful allowed := by
  obtain ⟨kept, hhistory⟩ := history_land s id cache key number outcome
  refine ⟨fun {τ other number' cache' key' run} hload => ?_, fun {e} he {other cache' key' value kept'} hevent => ?_⟩
  · rw [load?, loads_land] at hload
    have hset : (s.setLoad id (.ended outcome)).Faithful allowed := h.setLoad fun _ _ _ _ hstate => by cases hstate
    exact hset.idle hload
  · rw [hhistory] at he
    rcases List.mem_cons.1 he with rfl | he
    · cases hevent
      exact hallowed value rfl
    · exact h.landed he hevent

end Faithful

/-- A caller that is told a value is told what is stored. -/
theorem value_of_typed {cache : String} {value : Stored Value} {result : Option (Typed τ)}
    (h : typed τ cache value = .value result) : result.map (·.val) = value.toOption := by
  cases value with
  | absent =>
    cases h
    rfl
  | value v =>
    simp only [typed, Stored.toOption, Value.as?] at h
    split at h
    next v' hv =>
      cases h
      split at hv
      · cases hv
        rfl
      · cases hv
    next => cases h

/-- A value that a lookup finds is allowed. -/
theorem Faithful.of_found (h : s.Faithful allowed) (reached : s.Reached) {name : String} {store : LocalStore}
    (hfind : s.registry.find? name = some (.local store)) {label : String} {key : Key} {loader : Loader τ}
    {value : Stored Value} (hlook : s.lookUp store ⟨label, store.name, key⟩ loader = (t, .stored value)) :
    allowed store.name key value.toOption := by
  have hlawful := (reached.sound.move (.lookUp hfind label key loader)).told.lawful
  rw [history_lookUp, hlook] at hlawful
  obtain ⟨-, -, load, hstored⟩ := History.lawful_cons.1 hlawful
  obtain ⟨e, he, hdeposits⟩ := History.deposit_of_stored hstored
  exact h.landed he hdeposits

/-- What a load has landed with is allowed. -/
theorem Faithful.of_ended (h : s.Faithful allowed) (reached : s.Reached) {id : Nat} {load : Load}
    (hload : s.load? id = some load) {value : Stored Value} (hended : load.state = .ended (.ok value)) :
    allowed load.cache load.key value.toOption := by
  obtain ⟨e, he, kept, hevent⟩ := landing_of_ended reached hload hended
  exact h.landed he hevent

end System

/-! ### Polls -/

/-- What a poll has come to: what is left offers no more, and a value is good. -/
def Progress.Offers (rest : σ → Prop) (good : Option Value → Prop) : Progress σ ε (Option (Typed τ)) → Prop
  | .pending now => rest now
  | .ended (.value value) => good (value.map (·.val))
  | .ended (.failed _) | .ended (.panicked _) => True

theorem Progress.offers_typed (rest : σ → Prop) {cache : String} {value : Stored Value}
    (h : good value.toOption) :
    (Progress.ended (System.typed τ cache value) : Progress σ CacheFault (Option (Typed τ))).Offers rest good := by
  cases htyped : System.typed τ cache value with
  | value result =>
    show good (result.map (·.val))
    rw [System.value_of_typed htyped]
    exact h
  | failed fault => trivial
  | panicked payload => trivial

theorem Progress.Offers.mapError {rest : σ → Prop} {other : σ' → Prop} {outcome : Outcome ε (Option (Typed τ))}
    (h : (Progress.ended outcome : Progress σ ε (Option (Typed τ))).Offers rest good) (f : ε → ε') :
    (Progress.ended (outcome.mapError f) : Progress σ' ε' (Option (Typed τ))).Offers other good := by
  cases outcome with
  | value result => exact h
  | failed fault => trivial
  | panicked payload => trivial

/-- Polls of what offers no more lead from faithful states to faithful states, and come to no more. -/
private def offering (allowed : Allowance) : Judgement where
  get _ s get t progress := ∀ good, s.Arises → Get.Afoot s get → s.Faithful allowed → get.Offers allowed good →
    t.Faithful allowed ∧ progress.Offers (Get.Offers allowed good) good
  run _ s load run t progress := ∀ good, Run.Due load s run → s.Faithful allowed → run.Offers allowed good →
    t.Faithful allowed ∧ progress.Offers (Run.Offers allowed good) good
  load _ s _ t := s.Arises → s.Faithful allowed → t.Faithful allowed

/-- A step leads to a faithful state, if the load that the get turns away from was advanced to one. -/
theorem Get.Step.faithful {depth : Nat} {get next : Get τ} (step : Get.Step depth s get t next)
    (h : s.Faithful allowed) (offers : get.Offers allowed good)
    (hload : ∀ cache key id patience, get = .awaiting cache key id patience →
      (System.advance depth s id).Faithful allowed) : t.Faithful allowed := by
  cases step with
  | passed hkey hreach hname => exact h.note rfl
  | started hkey hreach hlook hname => exact h.lookUp hlook (hname.symm ▸ (offers _ hkey).1)
  | joined hkey hreach hlook hname => exact h.lookUp hlook (hname.symm ▸ (offers _ hkey).1)
  | timedOut hopen hdue => exact (hload _ _ _ _ rfl).note rfl

theorem Run.Step.faithful {load : Option Nat} {run next : Run τ} (step : Run.Step load s run t next)
    (h : s.Faithful allowed) : t.Faithful allowed := by
  cases step with
  | called => exact h.keep rfl (.inr ⟨_, rfl, fun _ => rfl⟩)
  | awake hdue => exact h
  | slept => exact h
  | invalidated hdone =>
    obtain ⟨cache, -, rfl⟩ := exists_of_map_eq_ok hdone
    exact h.invalidateIn cache _
  | allInvalidated hdone =>
    obtain ⟨cache, -, rfl⟩ := exists_of_map_eq_ok hdone
    exact h.invalidateAllIn cache
  | made => exact h

private theorem offering_get_step {depth : Nat} {get next : Get τ}
    {progress : Progress (Get τ) CacheFault (Option (Typed τ))} (hstep : s.Arises → Get.Step depth s get u next)
    (hload : ∀ cache key id patience, get = .awaiting cache key id patience →
      s.Arises → s.Faithful allowed → (System.advance depth s id).Faithful allowed)
    (h : (offering allowed).get depth u next t progress) : (offering allowed).get (depth + 1) s get t progress := by
  intro good arises afoot faithful offers
  have step := hstep arises
  obtain ⟨arises', afoot'⟩ := afoot.step arises step
  have faithful' := step.faithful faithful offers fun cache key id patience hget =>
    hload cache key id patience hget arises faithful
  exact h good arises' afoot' faithful' (step.offers offers)

private theorem offering_run_step {depth : Nat} {load : Option Nat} {run next : Run τ}
    {progress : Progress (Run τ) Failure (Option (Typed τ))} (step : Run.Step load s run u next)
    (h : (offering allowed).run depth u load next t progress) :
    (offering allowed).run (depth + 1) s load run t progress :=
  fun good due faithful offers => h good (due.step step) (step.faithful faithful) (step.offers offers)

private theorem offering_gets (allowed : Allowance) : (offering allowed).KeptByGets where
  cut _ _ _ _ _ faithful offers := ⟨faithful, offers⟩
  unkeyed _ _ _ _ faithful _ := ⟨faithful, trivial⟩
  refused _ _ _ _ _ faithful _ := ⟨faithful, trivial⟩
  passed hkey hreach := offering_get_step (fun arises => .passed hkey hreach (arises.name_of_reach hreach)) nofun
  found := by
    intro τ depth s t request loader key store value hkey hreach hlook good arises afoot faithful offers
    obtain ⟨hloader, hpasses⟩ := offers key hkey
    have hname : store.name = request.cache := arises.name_of_reach hreach
    have hvalue := faithful.of_found arises.reached (System.find?_of_reach hreach) hlook
    exact ⟨faithful.lookUp hlook (hname.symm ▸ hloader), Progress.offers_typed _ (hpasses _ (hname ▸ hvalue))⟩
  started hkey hreach hlook :=
    offering_get_step (fun arises => .started hkey hreach hlook (arises.name_of_reach hreach)) nofun
  joined hkey hreach hlook :=
    offering_get_step (fun arises => .joined hkey hreach hlook (arises.name_of_reach hreach)) nofun
  told := by
    intro τ depth id s cache key patience outcome h houtcome good arises afoot faithful offers
    have faithful' := h arises faithful
    refine ⟨faithful', ?_⟩
    cases outcome with
    | error failure => trivial
    | ok value =>
      obtain ⟨load, hload, hended⟩ := System.outcome?_eq_some.1 houtcome
      obtain ⟨_, hsame, rfl, rfl⟩ := (afoot.moves (System.polled_advance depth s id).moves).load
      cases hload.symm.trans hsame
      exact Progress.offers_typed _ (offers.1 _ (faithful'.of_ended (arises.advance depth id).reached hload hended))
  waiting h _ _ _ arises _ faithful offers := ⟨h arises faithful, offers⟩
  timedOut h hopen hdue := offering_get_step (fun _ => .timedOut hopen hdue) fun _ _ _ _ hget => by
    cases hget
    exact h
  loading _ h good arises afoot faithful offers := h good (afoot.due arises) faithful offers
  loaded _ h good arises afoot faithful offers :=
    (h good (afoot.due arises) faithful offers).imp_right fun hvalue => hvalue.mapError _

private theorem offering_runs (allowed : Allowance) : (offering allowed).KeptByRuns where
  cut _ _ _ _ _ faithful offers := ⟨faithful, offers⟩
  calling := offering_run_step .called
  awake hdue := offering_run_step (.awake hdue)
  asleep _ _ _ faithful offers := ⟨faithful, offers⟩
  nesting _ h good due faithful offers := h good due.1 due.2 faithful offers
  nested _ h good due faithful offers :=
    (h good due.1 due.2 faithful offers).imp_right fun hvalue => hvalue.mapError _
  done _ _ _ _ _ _ faithful offers := ⟨faithful, offers⟩
  fail _ _ _ _ _ _ faithful _ := ⟨faithful, trivial⟩
  panic _ _ _ _ _ _ faithful _ := ⟨faithful, trivial⟩
  sleep := offering_run_step .slept
  invalidate hdone := offering_run_step (.invalidated hdone)
  invalidateNone _ _ _ faithful _ := ⟨faithful, trivial⟩
  invalidateAll hdone := offering_run_step (.allInvalidated hdone)
  invalidateAllNone _ _ _ faithful _ := ⟨faithful, trivial⟩
  get := offering_run_step .made

private theorem offering_loads (allowed : Allowance) : (offering allowed).KeptByLoads where
  cut _ _ _ faithful := faithful
  still _ _ faithful := faithful
  paused := by
    intro τ depth id number s t cache key run rest hload hpoll h arises faithful
    have opened : (s.setLoad id .busy).Faithful allowed := faithful.setLoad fun _ _ _ _ hstate => by cases hstate
    obtain ⟨faithful', offers⟩ := h _ (arises.due hload) opened (faithful.idle hload)
    have hbusy : t.load? id = some ⟨cache, key, number, .busy⟩ := by
      cases depth with
      | zero =>
        cases hpoll
        exact System.load?_setLoad_self hload .busy
      | succ depth => exact (System.busy_of_poll hload (.inr (Nat.succ_pos depth)) hpoll).2
    refine faithful'.setLoad fun load hnow σ now hstate => ?_
    cases hbusy.symm.trans hnow
    cases hstate
    exact offers
  landed := by
    intro τ depth id number s t cache key run outcome hload hpoll h arises faithful
    have opened : (s.setLoad id .busy).Faithful allowed := faithful.setLoad fun _ _ _ _ hstate => by cases hstate
    obtain ⟨faithful', offers⟩ := h _ (arises.due hload) opened (faithful.idle hload)
    refine faithful'.land fun value houtcome => ?_
    cases outcome with
    | value v =>
      obtain rfl : Stored.ofOption (v.map (·.val)) = value := Except.ok.inj houtcome
      rw [Stored.toOption_ofOption]
      exact offers
    | failed failure => cases houtcome
    | panicked payload => cases houtcome

private theorem offering_polls (allowed : Allowance) (depth : Nat) : (offering allowed).HoldsAt depth :=
  Judgement.Kept.polls ⟨offering_gets allowed, offering_runs allowed, offering_loads allowed⟩ depth

theorem System.Faithful.advance (h : s.Faithful allowed) (arises : s.Arises) (depth id : Nat) :
    (System.advance depth s id).Faithful allowed :=
  (offering_polls allowed depth).load s id arises h

/-- A poll of a get that offers what is good leads on to what offers no more, or the get is told what is good. -/
theorem Get.offers_of_poll {depth : Nat} {get : Get τ} {progress : Progress (Get τ) CacheFault (Option (Typed τ))}
    (arises : s.Arises) (afoot : Get.Afoot s get) (faithful : s.Faithful allowed) (offers : get.Offers allowed good)
    (hpoll : Get.poll depth s get = (t, progress)) :
    t.Faithful allowed ∧ progress.Offers (Get.Offers allowed good) good := by
  have polled := (offering_polls allowed depth).get s get good arises afoot faithful offers
  rwa [hpoll] at polled

/-! ### Sessions -/

namespace Poll

/-- The poll is one of something that offers no more than what is good for it, in a faithful state. -/
def Faithful (allowed : Allowance) (p : Poll) : Prop :=
  p.state.Faithful allowed ∧ match p.target with
    | .get get => ∃ good, get.Offers allowed good
    | .run _ run => ∃ good, run.Offers allowed good
    | .load _ => True

/-- So is what is polled below it. -/
theorem Enters.faithful {p q : Poll} (h : p.Enters q) (due : p.Due) (faithful : p.Faithful allowed) :
    q.Faithful allowed := by
  obtain ⟨hstate, hoffers⟩ := faithful
  cases h with
  | get step =>
    obtain ⟨good, offers⟩ := hoffers
    exact ⟨step.faithful hstate offers fun _ _ id _ _ => hstate.advance due.1 _ id, good, step.offers offers⟩
  | run step =>
    obtain ⟨good, offers⟩ := hoffers
    exact ⟨step.faithful hstate, good, step.offers offers⟩
  | loading => exact ⟨hstate, hoffers⟩
  | awaiting => exact ⟨hstate, trivial⟩
  | nested => exact ⟨hstate, hoffers⟩
  | load _ hload => exact ⟨hstate.setLoad (fun _ _ _ _ hbusy => by cases hbusy), _, hstate.idle hload⟩

theorem Reaches.faithful {p q : Poll} (h : p.Reaches q) (due : p.Due) (faithful : p.Faithful allowed) :
    q.Faithful allowed := by
  induction h with
  | refl => exact faithful
  | tail reaches last ih => exact last.faithful (Reaches.due reaches due) ih

end Poll

namespace Session

/-- A caller that comes brings a loader that offers what is allowed. -/
def Turn.Offers (allowed : Allowance) : Turn → Prop
  | .start _ _ request loader => ∀ key, request.key = .ok key → loader.Offers allowed (allowed request.cache key)
  | _ => True

/-- Nothing in the session offers more than what is allowed. -/
structure Faithful (allowed : Allowance) (x : Session) : Prop where
  system : x.system.Faithful allowed
  tasks : ∀ task ∈ x.tasks, ∃ good, task.get.Offers allowed good

variable {registry : Registry}

theorem Faithful.system_turn {x : Session} (h : x.Faithful allowed) (underway : x.Underway) (t : Turn) :
    (x.turn t).system.Faithful allowed := by
  cases t with
  | start name type request loader => exact h.system
  | poll place =>
    cases hplace : x.tasks[place]? with
    | none =>
      rw [turn_poll_of_none _ hplace]
      exact h.system
    | some polled =>
      have hpolled := List.mem_of_getElem? hplace
      obtain ⟨good, offers⟩ := h.tasks polled hpolled
      cases hpoll : x.system.poll polled.get with
      | mk s progress =>
        have hafter := (Get.offers_of_poll underway.arises (underway.afoot polled hpolled) h.system offers hpoll).1
        rw [turn_poll _ hplace hpoll]
        cases progress with
        | pending get => exact hafter
        | ended outcome => exact hafter.note rfl
  | drop place => exact h.system
  | elapse ms => exact h.system.keep rfl (.inl rfl)
  | invalidate name key =>
    simp only [Session.turn]
    split
    · exact h.system.invalidateIn _ key
    · exact h.system
  | invalidateAll name =>
    simp only [Session.turn]
    split
    · exact h.system.invalidateAllIn _
    · exact h.system
  | tend name => exact h.system.keep rfl (.inl rfl)

theorem Faithful.turn {x : Session} (h : x.Faithful allowed) (underway : x.Underway) {t : Turn}
    (ht : t.Offers allowed) : (x.turn t).Faithful allowed := by
  refine ⟨h.system_turn underway t, fun task htask => ?_⟩
  rcases mem_tasks_turn _ htask with hold | ⟨name, type, request, loader, rfl, rfl⟩ |
    ⟨place, polled, get, rfl, hplace, hpoll, rfl⟩
  · exact h.tasks task hold
  · -- the get that is made offers what is allowed for its key
    refine ⟨fun value => ∀ key, request.key = .ok key → allowed request.cache key value, fun key hkey => ?_⟩
    refine ⟨ht key hkey, fun value hvalue other hother => ?_⟩
    cases hkey.symm.trans hother
    exact hvalue
  · have hpolled := List.mem_of_getElem? hplace
    obtain ⟨good, offers⟩ := h.tasks polled hpolled
    exact ⟨good, (Get.offers_of_poll underway.arises (underway.afoot polled hpolled) h.system offers hpoll).2⟩

theorem faithful_play (built : registry.Built) {turns : List Turn} (hturns : ∀ t ∈ turns, t.Offers allowed) :
    ((start registry).play turns).Faithful allowed := by
  induction turns using List.reverseRecOn with
  | nil => exact ⟨⟨nofun, nofun⟩, nofun⟩
  | append_singleton turns t ih =>
    have hbefore : ((start registry).play turns).Faithful allowed :=
      ih fun t' ht' => hturns t' (List.mem_append_left [t] ht')
    rw [play_append]
    exact hbefore.turn (underway_play built turns) (hturns t (List.mem_append_right turns (List.mem_singleton_self t)))

/-- A session whose callers offer no more than what is allowed polls in faithful states. -/
theorem Makes.faithful (built : registry.Built) {turns : List Turn} (hturns : ∀ t ∈ turns, t.Offers allowed) {p : Poll}
    (h : (start registry).Makes turns p) : p.Faithful allowed := by
  obtain ⟨before, after, place, task, rfl, htask, hreaches⟩ := h
  have underway := underway_play built before
  have htasks := List.mem_of_getElem? htask
  have faithful : ((start registry).play before).Faithful allowed :=
    faithful_play built fun t ht => hturns t (List.mem_append_left _ ht)
  exact hreaches.faithful ⟨underway.arises, underway.afoot task htasks⟩ ⟨faithful.system, faithful.tasks task htasks⟩

end Session

end

end SingleFlight
