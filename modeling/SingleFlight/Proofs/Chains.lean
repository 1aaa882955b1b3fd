import SingleFlight.Proofs.Causes

/-!
# Every failure has a cause

Whatever failure a get ends with in a run, it can be followed to its cause.

* a load that has failed was advanced to its failure by its own loader, in this poll or in an earlier one
  (`System.Blamed`, `System.blamed_of_load`);
* so from a poll that fails one can go on, from a get to its loader or its load and from a loader to the get that it
  made, until one comes to where the failure arose (`blames_of_ended`). A load ends before whoever is told about it, so
  the way comes to an end: each time it passes a load, the history is shorter.
-/

namespace SingleFlight

open SingleFlight.System (Moves)

namespace System

/-- If the load has failed, it was advanced to its failure by its loader, in a state that arises. -/
def Blamed (id : Nat) (load : Load) (s : System) : Prop := ∀ failure, load.state = .ended (.error failure) →
  ∃ (b mid : System) (τ : ValueType) (run : Run τ) (depth : Nat) (outcome : Outcome Failure (Option (Typed τ))),
    b.Arises ∧ b.load? id = some { load with state := .idle τ run } ∧
    Run.poll depth (b.setLoad id .busy) (some id) run = (mid, .ended outcome) ∧
    loadResult outcome = .error failure ∧
    Moves (mid.land id load.cache load.key load.number (loadResult outcome)) s

private theorem upheld_blamed : Upheld 0 Blamed where
  moves h moves failure hstate := by
    obtain ⟨b, mid, τ, run, depth, outcome, arises, hidle, hpoll, hresult, later⟩ := h failure hstate
    exact ⟨b, mid, τ, run, depth, outcome, arises, hidle, hpoll, hresult, later.trans moves⟩
  started _ _ _ _ failure hstate := by cases hstate
  opened _ failure hstate := by cases hstate
  paused _ _ _ _ _ failure hstate := by cases hstate
  landed {τ s t depth id number cache key run outcome} arises _ hload hpoll failure hstate :=
    ⟨s, t, τ, run, depth, outcome, arises, hload, hpoll, LoadState.ended.inj hstate, .refl⟩

/-- In every state that arises, loads have failed as their loaders have. -/
theorem blamed_of_load {s : System} (arises : s.Arises) {id : Nat} {load : Load} (hload : s.load? id = some load) :
    Blamed id load s := (upheld_blamed.holds arises).each id load hload

end System

/-! ### Finding the cause -/

/-- The failure of the poll has a cause. -/
def Frame.Blames {τ : ValueType} (failure : Failure) (depth : Nat) (s : System) (frame : Frame τ) (t : System) : Prop :=
  ∃ cause layers, Fails cause layers depth s frame t ∧ failure = cause.wrapped (Layer.caches layers)

/-- A poll that fails in a state with a history of that length has a cause. -/
private def blaming (length : Nat) : Judgement where
  get depth s get t progress := s.Arises → Get.Afoot s get → t.history.length = length →
    ∀ fault, progress = .ended (.failed fault) → (Frame.get get).Blames (.error fault) depth s t
  run depth s load run t progress := Run.Due load s run → t.history.length = length →
    ∀ failure, progress = .ended (.failed failure) → (Frame.run load run).Blames failure depth s t
  load _ _ _ _ := True

section
variable {length depth : Nat} {τ : ValueType} {s u t : System}

private theorem blaming_get_step {get next : Get τ} {progress : Progress (Get τ) CacheFault (Option (Typed τ))}
    (hstep : s.Arises → Get.Step depth s get u next) (h : (blaming length).get depth u next t progress) :
    (blaming length).get (depth + 1) s get t progress := by
  intro arises afoot hlength fault hfault
  have step := hstep arises
  obtain ⟨arises', afoot'⟩ := afoot.step arises step
  obtain ⟨cause, layers, fails, hwrapped⟩ := h arises' afoot' hlength fault hfault
  exact ⟨cause, layers, .get step fails, hwrapped⟩

private theorem blaming_run_step {load : Option Nat} {run next : Run τ}
    {progress : Progress (Run τ) Failure (Option (Typed τ))} (step : Run.Step load s run u next)
    (h : (blaming length).run depth u load next t progress) :
    (blaming length).run (depth + 1) s load run t progress := by
  intro due hlength failure hfailure
  obtain ⟨cause, layers, fails, hwrapped⟩ := h (due.step step) hlength failure hfailure
  exact ⟨cause, layers, .run step fails, hwrapped⟩

end

/-- The loader of a load ends before anything that comes after the end of the load. -/
theorem System.length_history_lt {s t : System} {id number : Nat} {cache : String} {key : Key} {outcome : LoadResult}
    (moves : Moves (s.land id cache key number outcome) t) : s.history.length < t.history.length := by
  obtain ⟨new, hnew⟩ := history_moves moves
  obtain ⟨kept, hland⟩ := history_land s id cache key number outcome
  rw [hnew, hland, List.length_append, List.length_cons]
  omega

section
variable {length : Nat} (before : ∀ earlier < length, ∀ depth, (blaming earlier).HoldsAt depth)

include before

/-- The failure of a load that has ended has a cause. -/
private theorem blames_of_load {s : System} (arises : s.Arises) (hlength : s.history.length = length) {id number : Nat}
    {cache : String} {key : Key} {failure : Failure}
    (hload : s.load? id = some ⟨cache, key, number, .ended (.error failure)⟩) :
    ∃ (b mid : System) (σ : ValueType) (run : Run σ) (depth : Nat) (outcome : Outcome Failure (Option (Typed σ))),
      b.Arises ∧ b.load? id = some ⟨cache, key, number, .idle σ run⟩ ∧
      Run.poll depth (b.setLoad id .busy) (some id) run = (mid, .ended outcome) ∧
      (Frame.run (some id) run).Blames failure depth (b.setLoad id .busy) mid ∧
      Moves (mid.land id cache key number (System.loadResult outcome)) s := by
  obtain ⟨b, mid, σ, run, depth, outcome, arises', hidle, hpoll, hresult, moves⟩ :=
    System.blamed_of_load arises hload failure rfl
  refine ⟨b, mid, σ, run, depth, outcome, arises', hidle, hpoll, ?_, moves⟩
  cases outcome with
  | value v => cases hresult
  | failed own =>
    cases hresult
    have hrun := (before _ (hlength ▸ System.length_history_lt moves) depth).run (b.setLoad id .busy) (some id) run
    rw [hpoll] at hrun
    exact hrun (arises'.due hidle) rfl _ rfl
  | panicked payload =>
    cases hresult
    exact ⟨_, [], .panicked rfl (raises_of_ended hpoll), rfl⟩

private theorem blamingGets : (blaming length).KeptByGets where
  cut _ _ _ _ _ _ h := by cases h
  unkeyed hkey _ _ _ fault h := by
    cases h
    exact ⟨_, [], .unkeyed rfl hkey .., rfl⟩
  refused hkey hreach _ _ _ fault h := by
    cases h
    exact ⟨_, [], .refused rfl hkey hreach .., rfl⟩
  passed hkey hreach hrest :=
    blaming_get_step (fun arises => .passed hkey hreach (arises.name_of_reach hreach)) hrest
  found hkey hreach hlook _ _ _ fault h :=
    ⟨_, [], .mistyped rfl hkey hreach hlook (Progress.ended.inj h) _, rfl⟩
  started hkey hreach hlook hrest :=
    blaming_get_step (fun arises => .started hkey hreach hlook (arises.name_of_reach hreach)) hrest
  joined hkey hreach hlook hrest :=
    blaming_get_step (fun arises => .joined hkey hreach hlook (arises.name_of_reach hreach)) hrest
  told := by
    intro τ depth id s cache key patience outcome _ houtcome arises afoot hlength fault h
    have harises := arises.advance depth id
    cases outcome with
    | ok value => exact ⟨_, [], .mistold rfl houtcome (Progress.ended.inj h), rfl⟩
    | error failure =>
      cases h
      obtain ⟨⟨loadCache, loadKey, number, state⟩, hload, hended⟩ := System.outcome?_eq_some.1 houtcome
      obtain rfl : state = .ended (.error failure) := hended
      obtain ⟨_, hsame, rfl, -⟩ := (afoot.moves (System.polled_advance depth s id).moves).load
      cases hload.symm.trans hsame
      obtain ⟨b, mid, σ, run, depth', outcome, arises', hidle, hpoll, ⟨cause, layers, fails, rfl⟩, moves⟩ :=
        blames_of_load before harises hlength hload
      exact ⟨cause, _, .told arises' hidle hpoll fails moves, rfl⟩
  waiting _ _ _ _ _ _ _ h := by cases h
  timedOut _ hopen hdue hrest := blaming_get_step (fun _ => .timedOut hopen hdue) hrest
  loading _ _ _ _ _ _ h := by cases h
  loaded := by
    intro τ depth s t cache run outcome _ hrun arises afoot hlength fault h
    cases outcome with
    | value v => cases h
    | panicked payload => cases h
    | failed failure =>
      cases h
      obtain ⟨cause, layers, fails, rfl⟩ := hrun (afoot.due arises) hlength failure rfl
      exact ⟨cause, _, .loaded fails, rfl⟩

omit before in
private theorem blamingRuns : (blaming length).KeptByRuns where
  cut _ _ _ _ _ _ h := by cases h
  calling hrest := blaming_run_step .called hrest
  awake hdue hrest := blaming_run_step (.awake hdue) hrest
  asleep _ _ _ _ h := by cases h
  nesting _ _ _ _ _ h := by cases h
  nested := by
    intro τ depth s t load get outcome _ hget due hlength failure h
    cases outcome with
    | value v => cases h
    | panicked payload => cases h
    | failed fault =>
      cases h
      obtain ⟨cause, layers, fails, hwrapped⟩ := hget due.1 due.2 hlength fault rfl
      exact ⟨cause, layers, .nested fails, hwrapped⟩
  done _ _ _ _ _ _ _ h := by cases h
  fail depth s load failure _ _ _ h := by
    cases h
    exact ⟨failure, [], .failed depth s load, rfl⟩
  panic _ _ _ _ _ _ _ h := by cases h
  sleep hrest := blaming_run_step .slept hrest
  invalidate hdone hrest := blaming_run_step (.invalidated hdone) hrest
  invalidateNone hfault _ _ failure h := by
    cases h
    exact ⟨_, [], .noneInvalidated rfl hfault .., rfl⟩
  invalidateAll hdone hrest := blaming_run_step (.allInvalidated hdone) hrest
  invalidateAllNone hfault _ _ failure h := by
    cases h
    exact ⟨_, [], .noneOfAllInvalidated rfl hfault .., rfl⟩
  get hrest := blaming_run_step .made hrest

end

/-- Polls that fail have a cause, by induction on the length of the history: what a load has failed with was brought
before the load had landed. -/
private theorem blaming_holds (length depth : Nat) : (blaming length).HoldsAt depth := by
  induction length using Nat.strongRecOn generalizing depth with
  | ind length before =>
    refine Judgement.Kept.polls ⟨blamingGets before, blamingRuns, ?_⟩ depth
    exact ⟨fun _ _ => trivial, fun _ => trivial, fun _ _ _ => trivial, fun _ _ _ => trivial⟩

/-- In a run, every get that fails does so for a cause. -/
theorem blames_of_ended {τ : ValueType} {s t : System} {get : Get τ} {depth : Nat} {fault : CacheFault}
    (arises : s.Arises) (afoot : Get.Afoot s get) (hend : Get.poll depth s get = (t, .ended (.failed fault))) :
    (Frame.get get).Blames (.error fault) depth s t := by
  have hget := (blaming_holds t.history.length depth).get s get
  rw [hend] at hget
  exact hget arises afoot rfl fault rfl

/-- **Nested failures keep their whole cause.** Let a get fail through caches on which loaders have passed the failure
on; the first of them is the cache that it asks, and the next one the cache that its loader asks. Then its error wraps
the cause in the names of these caches, all of them and in order: so say the text, the sources, the failures that are
wrapped in each other and the error of the process that is made of it. Whoever has waited for a load on the way, before
or after, is told what is left of the way from there.

Every get of a run that fails does so for such a cause, however deep below. -/
theorem failures_keep_their_cause {τ : ValueType} {get : Get τ} {depth : Nat} {s t : System} :
    (∀ {cause : Failure} {layer : Layer} {layers : List Layer}, Fails cause (layer :: layers) depth s (.get get) t →
      (∃ fault, Get.poll depth s get = (t, .ended (.failed fault)) ∧
        fault.Keeps get.asked (Layer.caches layers) cause) ∧
      ∀ {above below : List Layer} {next : Layer} {id : Nat}, layer :: layers = above ++ next :: below →
        next.load = some id → ∀ {σ : ValueType} {u : System} {answer : Outcome CacheFault (Option (Typed σ))},
          Get.Waited id u answer → Moves u t ∨ Moves t u →
            ∃ fault, answer = .failed fault ∧ fault.Keeps next.cache (Layer.caches below) cause) ∧
    ∀ {fault : CacheFault}, s.Arises → Get.Afoot s get → Get.poll depth s get = (t, .ended (.failed fault)) →
      ∃ cause layers, Fails cause layers depth s (.get get) t ∧
        .error fault = cause.wrapped (Layer.caches layers) := by
  refine ⟨fun {cause layer layers} fails => ⟨?_, fun {above below next id} hsplit hid {σ u answer} waited moves => ?_⟩,
    blames_of_ended⟩
  · obtain ⟨fault, hpoll, hfault⟩ := failsWith_of_fails fails
    obtain rfl : fault = .computation layer.cache (cause.wrapped (Layer.caches layers)) :=
      (Failure.error.inj hfault).symm
    rw [asked_of_fails fails rfl rfl] at hpoll
    exact ⟨_, hpoll, CacheFault.keeps ..⟩
  · exact ⟨_, told_of_fails fails hsplit hid waited moves, CacheFault.keeps ..⟩

/-- Caches that keep values, `c` and `d`, and one that passes calls through, `n`. -/
private def threeCaches : Registry :=
  ⟨((Registry.sole "c" .unset).caches.insert "n" (.passThrough "n")).insert "d"
    (.local ⟨"d", .unset, ∅, ∅, 0, .start⟩)⟩

private def nestedRequest (cache : String) (key : Nat) : Request := ⟨"g", cache, .ok (.ofNat key), .registry, .zero⟩

/-- It sleeps and then fails. -/
private def failsLate : Run .flag := .sleeping 5 (.fail (.text "no"))

/-- A get of `n` whose loader waits for a load of `d`. -/
private def throughN : Get .flag := .loading "n" (.nested (.awaiting "d" (.ofNat 3) 1 none))

private def nestedLoader : Loader .flag :=
  .get (nestedRequest "n" 2) (.get (nestedRequest "d" 3) (.sleep 5 (.fail (.text "no"))))

/-- A load of `c` waits for its loader's get of `n`, and so for a load of `d`. -/
private def stacked : Session :=
  (Session.start threeCaches).play [.start "a" .flag (nestedRequest "c" 1) nestedLoader, .poll 0]

private def stackedStore : LocalStore := (stacked.system.store? "d").getD ⟨"d", .unset, ∅, ∅, 0, .start⟩

/-- Someone else has joined the load of `d`. -/
private def joinedBelow : System :=
  (stacked.system.lookUp stackedStore ⟨"g", "d", .ofNat 3⟩ (.done none : Loader .text)).1

private def outerGet : Get .flag := .awaiting "c" (.ofNat 1) 0 none

private def innerGet : Get .text := .awaiting "d" (.ofNat 3) 1 none

/-- The failure of `d` ends the get of `c` with an error that names all three caches, and the one that has joined below
with the rest of it. -/
theorem failures_keep_their_cause_through_three :
    let s := joinedBelow.elapse 5
    let t := (Get.poll 9 s outerGet).1
    (∃ fault, Get.poll 9 s outerGet = (t, .ended (.failed fault)) ∧
      fault.message =
        "value loader for cache `c` failed: value loader for cache `n` failed: value loader for cache `d` failed: no" ∧
      fault.sources = ["value loader for cache `n` failed: value loader for cache `d` failed: no",
        "value loader for cache `d` failed: no", "no"] ∧
      ∃ cause layers, Fails cause layers 9 s (.get outerGet) t ∧
        .error fault = cause.wrapped (Layer.caches layers)) ∧
    ∃ fault, Get.poll 9 t innerGet = ((Get.poll 9 t innerGet).1, .ended (.failed fault)) ∧
      fault.message = "value loader for cache `d` failed: no" := by
  intro s t
  have sole : (Registry.sole "c" .unset).Built := Registry.built_sole (by decide) rfl
  have hcreated : Cache.createLocal "d" .unset = .ok (.local ⟨"d", .unset, ∅, ∅, 0, .start⟩) := rfl
  have built : threeCaches.Built := (sole.register (.passThrough "n") rfl).register (.created hcreated) rfl
  have underway := Session.underway_play built [.start "a" .flag (nestedRequest "c" 1) nestedLoader, .poll 0]
  have hreach : stacked.system.reach (nestedRequest "d" 3) = .ok (.local stackedStore) := rfl
  have hlook : stacked.system.lookUp stackedStore ⟨"g", "d", .ofNat 3⟩ (.done none : Loader .text) =
      (joinedBelow, .joined 1) := rfl
  have hjoined : System.Move stacked.system joinedBelow :=
    .lookUp (System.find?_of_reach hreach) "g" (.ofNat 3) (.done none : Loader .text)
  have arises : s.Arises := (underway.arises.lookUp (System.find?_of_reach hreach) "g" (.ofNat 3) _).elapse 5
  have hload : s.load? 0 = some ⟨"c", .ofNat 1, 0, .idle .flag (.nested throughN)⟩ := rfl
  -- the way of the failure, from the load of `d` up
  have below : Fails (.text "no") [] 2 ((s.setLoad 0 .busy).setLoad 1 .busy) (.run (some 1) failsLate)
      ((s.setLoad 0 .busy).setLoad 1 .busy) := .run (.awake (Nat.le_refl 5)) (.failed ..)
  have through : Fails (.text "no") [⟨"n", none⟩, ⟨"d", some 1⟩] 6 (s.setLoad 0 .busy) (.get throughN)
      (System.advance 3 (s.setLoad 0 .busy) 1) := by
    have hbelow : (s.setLoad 0 .busy).load? 1 = some ⟨"d", .ofNat 3, 0, .idle .flag failsLate⟩ := rfl
    exact .loaded (.nested (.told (arises.resume hload rfl) hbelow rfl below .refl))
  have fails : Fails (.text "no") [⟨"c", some 0⟩, ⟨"n", none⟩, ⟨"d", some 1⟩] 9 s (.get outerGet) t :=
    .told arises hload rfl (.nested through) .refl
  obtain ⟨chained, whole⟩ := @failures_keep_their_cause .flag outerGet 9 s t
  obtain ⟨⟨fault, hpoll, keeps⟩, told⟩ := chained fails
  have afoot : Get.Afoot s outerGet :=
    (underway.afoot _ (List.mem_singleton.2 rfl)).moves (.head hjoined (.single (.elapse joinedBelow 5)))
  refine ⟨⟨fault, hpoll, keeps.message, keeps.sources, whole arises afoot hpoll⟩, ?_⟩
  -- the get of `d` that has joined the load is told the rest
  have hshared : Get.poll 9 t innerGet =
      ((Get.poll 9 t innerGet).1, .ended (.failed (.computation "d" (.text "no")))) := Prod.ext rfl rfl
  have waited : Get.Waited (τ := .text) 1 (Get.poll 9 t innerGet).1 (.failed (.computation "d" (.text "no"))) := by
    have htold : System.Moves s t := (System.polled_get 9 s outerGet).moves
    have course : Get.Course joinedBelow innerGet t innerGet :=
      .moves (.moves (.refl ..) (.single (.elapse joinedBelow 5))) htold
    exact .told underway.arises.reached hreach hlook (.inl rfl) course (fun _ => nofun) (fun _ hp => nomatch hp) hshared
  have hsplit : [⟨"c", some 0⟩, ⟨"n", none⟩, ⟨"d", some 1⟩] =
      [⟨"c", some 0⟩, ⟨"n", none⟩] ++ [(⟨"d", some 1⟩ : Layer)] := rfl
  obtain ⟨rest, hrest, keepsRest⟩ := told hsplit rfl waited (.inr (System.polled_get 9 t innerGet).moves)
  rw [hrest] at hshared
  exact ⟨rest, hshared, keepsRest.message⟩

end SingleFlight
