import SingleFlight.Proofs.Offers

/-!
# Where values come from

A get that ends with a value, or with the absence of one, has it from a loader that was called for its own cache and its
own key, and that ended with it.

* a load is launched by a get of the session, with that get's loader (`Session.Launches`), and nothing but polls of this
  loader leads it on (`System.Led`). So is every load of a session (`Session.leads_play`);
* the answer of a get comes from its own loader or from a load that has landed with it (`Get.Answered.brought`);
* so it comes from the get's own loader or from that of a get that has launched a load for its key, and it is a value
  that such loaders can bring (`Get.produced_of_value`).
-/

namespace SingleFlight

open SingleFlight.System (Move Moves Arises Upheld)

namespace System

/-! ### Loads and their loaders -/

/-- Where a load is in the state `t`: it was launched in the state `b` to make that call of the loader. -/
inductive Led (b : System) (id : Nat) (call : Call) (loader : Loader τ) (t : System) : LoadState → Prop where
  | idle {run : Run τ} (follows : Run.Follows Arises (some id) call loader b t run) :
      Led b id call loader t (.idle τ run)
  | busy : Led b id call loader t .busy
  | ended {u : System} {number : Nat} {outcome : Outcome Failure (Option (Typed τ))}
      (ends : loader.Ends Arises (some id) call b u outcome)
      (busy : u.load? id = some ⟨call.cache, call.key, number, .busy⟩)
      (later : Moves (u.land id call.cache call.key number (loadResult outcome)) t) :
      Led b id call loader t (.ended (loadResult outcome))

/-- The load with the number `id` is for the cache and the key of the call, and is where its loader has led it. -/
def LedOn (b : System) (id : Nat) (call : Call) (loader : Loader τ) (other : Nat) (load : Load) (t : System) : Prop :=
  other = id → (load.cache = call.cache ∧ load.key = call.key) ∧ Led b id call loader t load.state

/-- In the state `t`, which arises, there is that load, which was launched in the state `b`, and its loader has led it
where it is. -/
def Leads (b : System) (id : Nat) (call : Call) (loader : Loader τ) (t : System) : Prop :=
  Upheld.Holds (id + 1) (LedOn b id call loader) t

section
variable {b s t u : System} {id : Nat} {call : Call} {loader : Loader τ}

theorem Led.moves {state : LoadState} (h : Led b id call loader s state) (moves : Moves s t) :
    Led b id call loader t state := by
  cases h with
  | idle follows => exact .idle (follows.moves moves)
  | busy => exact .busy
  | ended ends busy later => exact .ended ends busy (later.trans moves)

/-- A poll of a load that is opened takes its loader further, or leads it to its end. -/
theorem followsOn_of_opened (arises : s.Arises) {depth number : Nat} {cache : String} {key : Key} {run : Run τ}
    {progress : Progress (Run τ) Failure (Option (Typed τ))}
    (follows : Run.Follows Arises (some id) call loader b s run)
    (hload : s.load? id = some ⟨cache, key, number, .idle τ run⟩) (hcalled : run.called ∨ 0 < depth)
    (hpoll : Run.poll depth (s.setLoad id .busy) (some id) run = (t, progress)) :
    Run.FollowsOn Arises (some id) call loader b t progress := by
  rcases follows with ⟨before, rfl⟩ | ⟨c, before, way⟩
  · obtain ⟨depth, rfl⟩ := Nat.exists_eq_succ_of_ne_zero (Nat.ne_of_gt (hcalled.resolve_left Bool.false_ne_true))
    exact Run.followsOn_of_way before .refl (arises.call hload) hpoll
  · have hnow := (Run.moves_of_way way).2
    exact Run.followsOn_of_way before (way.moves (.single (.resume hload hnow))) (arises.resume hload hnow) hpoll

theorem upheld_ledOn : Upheld (id + 1) (LedOn b id call loader) where
  moves h moves hid := (h hid).imp_right (·.moves moves)
  started := by
    intro τ s t name store label key own new _ hfirst _ _ hid
    omega
  opened h hid := ⟨(h hid).1, .busy⟩
  paused := by
    intro τ s t depth other number cache key run rest arises h hload hcalled hpoll hid
    obtain ⟨hsame, led⟩ := h hid
    subst hid
    refine ⟨hsame, ?_⟩
    cases led with
    | idle follows =>
      have hbusy := (busy_of_poll hload hcalled hpoll).2
      have hrest := Run.called_of_poll hcalled (congrArg Prod.snd hpoll)
      have hfollows : Run.Follows Arises (some other) call loader b t rest :=
        followsOn_of_opened arises follows hload hcalled hpoll
      exact .idle (hfollows.moves (.single (.pause hbusy hrest)))
  landed := by
    intro τ s t depth other number cache key run outcome arises h hload hpoll hid
    obtain ⟨⟨rfl, rfl⟩, led⟩ := h hid
    subst hid
    refine ⟨⟨rfl, rfl⟩, ?_⟩
    cases led with
    | idle follows =>
      have hdepth : 0 < depth := by
        cases depth with
        | zero => cases hpoll
        | succ depth => exact Nat.succ_pos depth
      have hends : loader.Ends Arises (some other) call b t outcome :=
        followsOn_of_opened arises follows hload (.inr hdepth) hpoll
      exact .ended hends (busy_of_ended hload hpoll).2 .refl

/-- A load is where it is to begin with when it has been started. -/
theorem leads_of_started (arises : b.Arises) {name : String} {store : LocalStore}
    (hfind : b.registry.find? name = some (.local store)) {label : String} {key : Key}
    (hlook : b.lookUp store ⟨label, store.name, key⟩ loader = (t, .started id)) :
    b.Leads id ⟨label, store.name, key⟩ loader t := by
  have harises := arises.lookUp hfind label key loader
  have hmove : Move b (b.lookUp store ⟨label, store.name, key⟩ loader).1 := .lookUp hfind label key loader
  rw [hlook] at harises hmove
  obtain ⟨-, hnew⟩ := load?_of_started hlook
  refine ⟨harises, Numbered.lt_of_load? hnew, ?_⟩
  rintro _ load hload rfl
  cases hnew.symm.trans hload
  exact ⟨⟨rfl, rfl⟩, .idle (.inl ⟨.single hmove, rfl⟩)⟩

/-! ### Landings -/

theorem lt_length_of_lands (reached : t.Reached) {e : Stamped} (he : e ∈ t.history) (hlands : e.event.lands id = true) :
    id < t.loads.length := by
  rw [← reached.sound.told.loads.starts]
  exact History.lt_starts_of_lands reached.sound.told.lawful he hlands

/-- A load that has landed with a value has it from its loader. -/
theorem Leads.ends_of_landed (h : b.Leads id call loader t) (reached : t.Reached) {e : Stamped} (he : e ∈ t.history)
    {cache : String} {key : Key} {value : Stored Value} {kept : Bool}
    (hevent : e.event = .landed id cache key (.ok value) kept) :
    call.cache = cache ∧ call.key = key ∧ ∃ (w : System) (number : Nat) (v : Option (Typed τ)),
      loader.Ends Arises (some id) call b w (.value v) ∧ w.load? id = some ⟨cache, key, number, .busy⟩ ∧
        value = .ofOption (v.map (·.val)) ∧ Moves (w.land id cache key number (.ok value)) t := by
  have hlands : e.event.lands id = true := Event.lands_of_landed hevent
  obtain ⟨load, hload⟩ : ∃ load, t.load? id = some load :=
    ⟨_, List.getElem?_eq_getElem (lt_length_of_lands reached he hlands)⟩
  obtain ⟨⟨hcache, hkey⟩, led⟩ := h.each id load hload rfl
  have hended := (reached.sound.told.loads.landed id load hload).2 ⟨e, he, hlands⟩
  obtain ⟨loadCache, loadKey, number, state⟩ := load
  cases led with
  | idle follows => cases hended
  | busy => cases hended
  | @ended w number' outcome ends busy later =>
    -- the load lands once, and as its loader has ended
    obtain ⟨landing, hlanding, kept', hlanded⟩ := landing_of_ended reached hload rfl
    have hsame : e = landing :=
      History.eq_of_lands reached.sound.told.lawful he hlanding hlands (Event.lands_of_landed hlanded)
    rw [← hsame, hevent] at hlanded
    obtain ⟨-, rfl, rfl, houtcome, -⟩ := Event.landed.inj hlanded
    cases outcome with
    | failed failure => cases houtcome
    | panicked payload => cases houtcome
    | value v =>
      obtain rfl : value = .ofOption (v.map (·.val)) := Except.ok.inj houtcome
      obtain rfl : cache = call.cache := hcache
      obtain rfl : key = call.key := hkey
      exact ⟨rfl, rfl, w, number', v, ends, busy, rfl, later⟩

/-- What has landed was called before: a load calls its loader once. -/
theorem mem_of_lands {e d : Stamped} (reached : t.Reached) (moves : Moves u t) (sound : u.Sound) (he : e ∈ u.history)
    (hlands : e.event.lands id = true) (hd : d ∈ t.history) (hcalled : d.event = .called call (some id)) :
    d ∈ u.history := by
  have hcount := History.countP_callsFor_of_lands sound.told.lawful he hlands
  obtain ⟨c, hc, hcalls⟩ := List.countP_pos_iff.1 (Nat.lt_of_lt_of_eq Nat.zero_lt_one hcount.symm)
  have hsame : c = d := History.eq_of_callsFor reached.sound.told.lawful (mem_history_of_moves moves hc) hd hcalls
    (Event.callsFor_of_called hcalled)
  exact hsame ▸ hc

end

end System

/-! ### Launches -/

/-- A lookup that starts no load leaves the loads as they are. -/
theorem System.loads_of_lookUp {s t : System} {store : LocalStore} {call : Call} {loader : Loader τ} {found : Found}
    (hlook : s.lookUp store call loader = (t, found)) (hold : ∀ id, found ≠ .started id) : t.loads = s.loads :=
  List.ext_getElem? fun id => (load?_of_lookUp hlook id).resolve_right (hold id)

theorem System.length_loads_of_started {s t : System} {store : LocalStore} {call : Call} {loader : Loader τ} {id : Nat}
    (hlook : s.lookUp store call loader = (t, .started id)) : t.loads.length = s.loads.length + 1 := by
  unfold System.lookUp at hlook
  split at hlook
  · cases hlook
  · split at hlook
    · cases hlook
    · obtain ⟨rfl, -⟩ := Prod.mk.inj hlook
      exact List.length_append

namespace Poll

/-- The poll starts the load, which is to make that call of the loader. -/
inductive Launches (id : Nat) {τ : ValueType} : Call → Loader τ → Poll → Prop where
  | asking {depth : Nat} {s t : System} {request : Request} {loader : Loader τ} {key : Key} {store : LocalStore}
      (hkey : request.key = .ok key) (hreach : s.reach request = .ok (.local store))
      (hlook : s.lookUp store ⟨request.label, store.name, key⟩ loader = (t, .started id)) :
      Launches id ⟨request.label, store.name, key⟩ loader ⟨depth + 1, s, .get (.asking request loader)⟩

/-- The load was launched below the poll, and in the state `t` it is where its loader has led it. -/
def Founds (p : Poll) (id : Nat) (t : System) : Prop :=
  ∃ (τ : ValueType) (call : Call) (loader : Loader τ) (q : Poll),
    p.Reaches q ∧ q.Launches id call loader ∧ q.state.Leads id call loader t

variable {p q : Poll} {id : Nat} {s t : System}

theorem Founds.above (h : q.Founds id t) (enters : p.Enters q) : p.Founds id t := by
  obtain ⟨τ, call, loader, r, hreaches, launches, leads⟩ := h
  exact ⟨τ, call, loader, r, hreaches.head enters, launches, leads⟩

/-- What holds of loads later holds of this one. -/
theorem Founds.later (h : p.Founds id s) (carry : ∀ {first : Nat} {Q : Nat → Load → System → Prop},
    Upheld first Q → Upheld.Holds first Q s → Upheld.Holds first Q t) : p.Founds id t := by
  obtain ⟨τ, call, loader, r, hreaches, launches, leads⟩ := h
  exact ⟨τ, call, loader, r, hreaches, launches, carry System.upheld_ledOn leads⟩

/-- All loads that are new since the state of the poll were launched below it. -/
def FoundsAll (p : Poll) (t : System) : Prop :=
  p.Due → ∀ id, p.state.loads.length ≤ id → id < t.loads.length → p.Founds id t

theorem foundsAll_of_loads (h : t.loads = p.state.loads) : p.FoundsAll t := by
  intro _ id hle hlt
  rw [h] at hlt
  omega

/-- The poll goes on as the one below it. -/
theorem FoundsAll.above (h : q.FoundsAll t) (enters : p.Due → p.Enters q) (hloads : q.state.loads = p.state.loads) :
    p.FoundsAll t := by
  intro due id hle hlt
  have henters := enters due
  exact (h (henters.due due) id (hloads ▸ hle) hlt).above henters

/-- A load that is older is closed again. -/
theorem Founds.closed (h : p.Founds id s) {other : Nat} (hother : other ≠ id) {load : Load} {state : LoadState}
    (hload : s.load? other = some load) (hloads : t.loads = (s.setLoad other state).loads) (move : Move s t)
    (arises : s.Arises → t.Arises) : p.Founds id t := by
  obtain ⟨τ, call, loader, r, hreaches, launches, leads⟩ := h
  have hleads := System.upheld_ledOn.set leads (arises leads.arises) move hload hloads fun hid => absurd hid hother
  exact ⟨τ, call, loader, r, hreaches, launches, hleads⟩

/-- The state is the one that the poll leaves, and all new loads were launched below the poll. -/
private def founding : Judgement where
  get depth s get t _ := after ⟨depth, s, .get get⟩ = t → FoundsAll ⟨depth, s, .get get⟩ t
  run depth s load run t _ := after ⟨depth, s, .run load run⟩ = t → FoundsAll ⟨depth, s, .run load run⟩ t
  load depth s id t := after ⟨depth, s, .load id⟩ = t → FoundsAll ⟨depth, s, .load id⟩ t

private theorem founding_run_step {load : Option Nat} {depth : Nat} {τ : ValueType} {u : System} {run next : Run τ}
    {progress : Progress (Run τ) Failure (Option (Typed τ))} (step : Run.Step load s run u next)
    (hloads : u.loads = s.loads) (h : founding.run depth u load next t progress) :
    founding.run (depth + 1) s load run t progress := by
  intro hafter
  have hsame : after ⟨depth, u, .run load next⟩ = after ⟨depth + 1, s, .run load run⟩ :=
    congrArg Prod.fst (Run.poll_of_step step depth).symm
  exact (h (hsame.trans hafter)).above (fun _ => .run step) hloads

private theorem founding_get_step {depth : Nat} {τ : ValueType} {u : System} {get next : Get τ}
    {progress : Progress (Get τ) CacheFault (Option (Typed τ))} (hstep : s.Arises → Get.Step depth s get u next)
    (hloads : u.loads = s.loads) (h : founding.get depth u next t progress) :
    founding.get (depth + 1) s get t progress := by
  intro hafter due
  have step := hstep due.1
  have hsame : after ⟨depth, u, .get next⟩ = after ⟨depth + 1, s, .get get⟩ :=
    congrArg Prod.fst (Get.poll_of_step step).symm
  exact (h (hsame.trans hafter)).above (fun _ => .get step) hloads due

private theorem foundingGets : founding.KeptByGets where
  cut _ _ _ := foundsAll_of_loads rfl
  unkeyed _ _ := foundsAll_of_loads rfl
  refused _ _ _ := foundsAll_of_loads rfl
  passed hkey hreach := founding_get_step (fun arises => .passed hkey hreach (arises.name_of_reach hreach)) rfl
  found _ _ hlook _ := foundsAll_of_loads (System.loads_of_lookUp hlook nofun)
  started := by
    intro τ depth new s t u request loader key store progress hkey hreach hlook hrest hafter due id hle hlt
    have step : Get.Step depth s (.asking request loader) t (.awaiting store.name key new none) :=
      .started hkey hreach hlook (due.1.name_of_reach hreach)
    have hsame : after ⟨depth, t, .get (.awaiting store.name key new none : Get τ)⟩ = u :=
      (congrArg Prod.fst (Get.poll_of_step step).symm).trans hafter
    obtain ⟨rfl, hnew⟩ := System.load?_of_started hlook
    by_cases hself : id = s.loads.length
    · -- this is the load that the get has started
      subst hself
      have leads := System.leads_of_started due.1 (System.find?_of_reach hreach) hlook
      refine ⟨τ, _, loader, _, .refl, .asking hkey hreach hlook, ?_⟩
      exact hsame ▸ System.upheld_ledOn.carried.get leads depth _
    · have enters : Enters ⟨depth + 1, s, .get (.asking request loader)⟩ _ := .get step
      have hlength : t.loads.length ≤ id := by
        have hle : s.loads.length ≤ id := hle
        rw [System.length_loads_of_started hlook]
        omega
      exact (hrest hsame (enters.due due) id hlength hlt).above enters
  joined hkey hreach hlook :=
    founding_get_step (fun arises => .joined hkey hreach hlook (arises.name_of_reach hreach))
      (System.loads_of_lookUp hlook nofun)
  told h _ _ := (h rfl).above (fun _ => .awaiting) rfl
  waiting h _ _ _ := (h rfl).above (fun _ => .awaiting) rfl
  timedOut := by
    intro τ depth waited s t cache key p progress h hopen hdue hrest hafter due id hle hlt
    have step : Get.Step depth s (.awaiting cache key waited (some p)) _ (.loading cache (.calling p.call p.loader)) :=
      .timedOut hopen hdue
    have hsame : after ⟨depth, _, .get (.loading cache (.calling p.call p.loader))⟩ = t :=
      (congrArg Prod.fst (Get.poll_of_step step).symm).trans hafter
    by_cases hbefore : id < (System.advance depth s waited).loads.length
    · -- launched below the load, before the get has turned away from it
      refine ((h rfl).above (fun _ => Enters.awaiting) rfl due id hle hbefore).later fun upheld holds => ?_
      exact hsame ▸ upheld.carried.get (upheld.carried.note holds rfl) depth _
    · have enters : Enters ⟨depth + 1, s, .get (.awaiting cache key waited (some p))⟩ _ := .get step
      exact (hrest hsame (enters.due due) id (Nat.le_of_not_lt hbefore) hlt).above enters
  loading hpoll hrun _ := (hrun (congrArg Prod.fst hpoll)).above (fun _ => .loading) rfl
  loaded hpoll hrun _ := (hrun (congrArg Prod.fst hpoll)).above (fun _ => .loading) rfl

private theorem foundingRuns : founding.KeptByRuns where
  cut _ _ _ _ := foundsAll_of_loads rfl
  calling := founding_run_step .called rfl
  awake hdue := founding_run_step (.awake hdue) rfl
  asleep _ _ := foundsAll_of_loads rfl
  nesting hpoll hget _ := (hget (congrArg Prod.fst hpoll)).above (fun _ => .nested) rfl
  nested hpoll hget _ := (hget (congrArg Prod.fst hpoll)).above (fun _ => .nested) rfl
  done _ _ _ _ _ := foundsAll_of_loads rfl
  fail _ _ _ _ _ := foundsAll_of_loads rfl
  panic _ _ _ _ _ := foundsAll_of_loads rfl
  sleep := founding_run_step .slept rfl
  invalidate hdone := by
    refine founding_run_step (.invalidated hdone) ?_
    obtain ⟨cache, -, rfl⟩ := exists_of_map_eq_ok hdone
    exact System.loads_invalidateIn ..
  invalidateNone _ _ := foundsAll_of_loads rfl
  invalidateAll hdone := by
    refine founding_run_step (.allInvalidated hdone) ?_
    obtain ⟨cache, -, rfl⟩ := exists_of_map_eq_ok hdone
    exact System.loads_invalidateAllIn ..
  invalidateAllNone _ _ := foundsAll_of_loads rfl
  get := founding_run_step .made rfl

/-- New loads have been launched below the loader of the load that was advanced. -/
private theorem founds_of_opened {τ : ValueType} {depth number : Nat} {cache : String} {key : Key} {run : Run τ}
    {progress : Progress (Run τ) Failure (Option (Typed τ))} {other : Nat}
    (hload : s.load? other = some ⟨cache, key, number, .idle τ run⟩)
    (hpoll : Run.poll depth (s.setLoad other .busy) (some other) run = (t, progress))
    (h : founding.run depth (s.setLoad other .busy) (some other) run t progress) (arises : s.Arises)
    (hle : s.loads.length ≤ id) (hlt : id < t.loads.length) :
    0 < depth ∧ other ≠ id ∧ Founds ⟨depth + 1, s, .load other⟩ id t := by
  have hlength : (s.setLoad other .busy).loads.length ≤ id := by rwa [System.length_loads_setLoad]
  have hdepth : 0 < depth := by
    cases depth with
    | zero =>
      cases hpoll
      omega
    | succ depth => exact Nat.succ_pos depth
  have hother : other < s.loads.length := System.Numbered.lt_of_load? hload
  have enters : Enters ⟨depth + 1, s, .load other⟩ _ := .load hdepth hload
  exact ⟨hdepth, by omega, (h (congrArg Prod.fst hpoll) (enters.due arises) id hlength hlt).above enters⟩

private theorem foundingLoads : founding.KeptByLoads where
  cut _ _ _ := foundsAll_of_loads rfl
  still _ _ := foundsAll_of_loads rfl
  paused := by
    intro τ depth other number s t cache key run rest hload hpoll h hafter due id hle hlt
    rw [System.length_loads_setLoad] at hlt
    obtain ⟨hdepth, hother, hfounds⟩ := founds_of_opened hload hpoll h due hle hlt
    have hbusy := (System.busy_of_poll hload (.inr hdepth) hpoll).2
    have hrest := Run.called_of_poll (.inr hdepth) (congrArg Prod.snd hpoll)
    exact hfounds.closed hother hbusy rfl (.pause hbusy hrest) (Arises.carried.paused due hload (.inr hdepth) hpoll)
  landed := by
    intro τ depth other number s t cache key run outcome hload hpoll h hafter due id hle hlt
    rw [System.loads_land, System.length_loads_setLoad] at hlt
    obtain ⟨hdepth, hother, hfounds⟩ := founds_of_opened hload hpoll h due hle hlt
    have hbusy := (System.busy_of_ended hload hpoll).2
    exact hfounds.closed hother hbusy (System.loads_land ..) (.land hbusy _) (Arises.carried.landed due hload hpoll)

/-- Every load that is new after a poll was launched below it. -/
theorem foundsAll_of_get {depth : Nat} {τ : ValueType} {get : Get τ}
    {progress : Progress (Get τ) CacheFault (Option (Typed τ))} (hpoll : Get.poll depth s get = (t, progress)) :
    FoundsAll ⟨depth, s, .get get⟩ t := by
  have polls := (Judgement.Kept.polls ⟨foundingGets, foundingRuns, foundingLoads⟩ depth).get s get
  rw [hpoll] at polls
  exact polls (congrArg Prod.fst hpoll)

end Poll

/-! ### The loads of a session -/

namespace Session

/-- A get of the session has launched the load in those turns, in the state `b`, to make that call of its loader. -/
def Launches (x : Session) (turns : List Turn) (id : Nat) (call : Call) (loader : Loader τ) (b : System) : Prop :=
  ∃ p : Poll, x.Makes turns p ∧ p.state = b ∧ p.Launches id call loader

variable {registry : Registry}

/-- A load that is new after the poll of a task was launched below it. -/
private theorem leads_of_poll (built : registry.Built) (turns : List Turn) (place : Nat)
    (hplay : (start registry).play (turns ++ [.poll place]) = ((start registry).play turns).turn (.poll place))
    {id : Nat} (hold : ((start registry).play turns).system.loads.length ≤ id)
    (hid : id < ((start registry).play (turns ++ [.poll place])).system.loads.length) :
    ∃ (τ : ValueType) (call : Call) (loader : Loader τ) (b : System),
      (start registry).Launches (turns ++ [.poll place]) id call loader b ∧
        b.Leads id call loader ((start registry).play (turns ++ [.poll place])).system := by
  cases hplace : ((start registry).play turns).tasks[place]? with
  | none =>
    rw [hplay, turn_poll_of_none _ hplace] at hid
    exact absurd hid (Nat.not_lt_of_le hold)
  | some polled =>
    cases hpoll : ((start registry).play turns).system.poll polled.get with
    | mk s progress =>
      rw [turn_poll _ hplace hpoll] at hplay
      -- a task that ends leaves its answer after the poll
      have hafter : ((start registry).play (turns ++ [.poll place])).system = s ∨
          ∃ answer, ((start registry).play (turns ++ [.poll place])).system =
            s.emit (.answered polled.name answer) := by
        rw [hplay]
        cases progress with
        | pending get => exact .inl rfl
        | ended outcome => exact .inr ⟨_, rfl⟩
      have hlt : id < s.loads.length := by
        rcases hafter with hafter | ⟨answer, hafter⟩
        · rwa [hafter] at hid
        · rwa [hafter] at hid
      have underway := underway_play built turns
      have due := And.intro underway.arises (underway.afoot polled (List.mem_of_getElem? hplace))
      obtain ⟨τ, call, loader, q, hreaches, launches, leads⟩ := Poll.foundsAll_of_get hpoll due id hold hlt
      refine ⟨τ, call, loader, q.state,
        ⟨q, ⟨turns, [], place, polled, rfl, hplace, hreaches⟩, rfl, launches⟩, ?_⟩
      rcases hafter with hafter | ⟨answer, hafter⟩
      · exact hafter ▸ leads
      · exact hafter ▸ System.upheld_ledOn.carried.note leads rfl

/-- Every load of a session was launched in it, and is where its loader has led it. -/
theorem leads_play (built : registry.Built) (turns : List Turn) {id : Nat}
    (hid : id < ((start registry).play turns).system.loads.length) :
    ∃ (τ : ValueType) (call : Call) (loader : Loader τ) (b : System),
      (start registry).Launches turns id call loader b ∧
        b.Leads id call loader ((start registry).play turns).system := by
  induction turns using List.reverseRecOn with
  | nil => exact absurd hid (Nat.not_lt_zero id)
  | append_singleton turns t ih =>
    have hplay : (start registry).play (turns ++ [t]) = ((start registry).play turns).turn t := play_append ..
    by_cases hold : id < ((start registry).play turns).system.loads.length
    · obtain ⟨τ, call, loader, b, ⟨p, makes, hstate, launches⟩, leads⟩ := ih hold
      refine ⟨τ, call, loader, b, ⟨p, makes.append [t], hstate, launches⟩, ?_⟩
      rw [hplay]
      exact System.upheld_ledOn.play leads [t]
    · -- only a poll launches loads
      have hpolls : ∃ place, t = .poll place := by
        by_contra hnone
        have hloads := (turn_of_not_poll ((start registry).play turns) (t := t) fun place h => hnone ⟨place, h⟩).2
        rw [hplay, hloads] at hid
        exact hold hid
      obtain ⟨place, rfl⟩ := hpolls
      exact leads_of_poll built turns place hplay (Nat.le_of_not_lt hold) hid

/-- A load of a session that has landed with a value has it from its loader, which was called before. -/
theorem brought_of_landed (built : registry.Built) {turns : List Turn} {u : System}
    (moves : Moves u ((start registry).play turns).system) (sound : u.Sound) {e : Stamped} (he : e ∈ u.history)
    {id : Nat} {cache : String} {key : Key} {value : Stored Value} {kept : Bool}
    (hevent : e.event = .landed id cache key (.ok value) kept) :
    ∃ (τ : ValueType) (label : String) (loader : Loader τ) (b w : System) (number : Nat) (v : Option (Typed τ)),
      (start registry).Launches turns id ⟨label, cache, key⟩ loader b ∧
      (∃ c ∈ u.history, c.event = .called ⟨label, cache, key⟩ (some id)) ∧
      loader.Ends Arises (some id) ⟨label, cache, key⟩ b w (.value v) ∧
      w.load? id = some ⟨cache, key, number, .busy⟩ ∧ value = .ofOption (v.map (·.val)) ∧
      Moves (w.land id cache key number (.ok value)) ((start registry).play turns).system := by
  have reached : ((start registry).play turns).system.Reached := System.Reached.play built turns
  have he' := System.mem_history_of_moves moves he
  have hlands : e.event.lands id = true := Event.lands_of_landed hevent
  obtain ⟨τ, ⟨label, cache', key'⟩, loader, b, launches, leads⟩ :=
    leads_play built turns (System.lt_length_of_lands reached he' hlands)
  obtain ⟨hcache, hkey, w, number, v, ends, busy, hvalue, later⟩ := leads.ends_of_landed reached he' hevent
  obtain rfl : cache' = cache := hcache
  obtain rfl : key' = key := hkey
  refine ⟨τ, label, loader, b, w, number, v, launches, ?_, ends, busy, hvalue, later⟩
  obtain ⟨new, hnew, d, hd, hcalled⟩ := ends.recorded
  have hd' := System.mem_history_of_moves (later.head (.land busy _)) (hnew ▸ List.mem_append_left _ hd)
  exact ⟨d, System.mem_of_lands reached moves sound he hlands hd' hcalled, hcalled⟩

end Session

/-! ### Gets -/

/-- A loader that is called for the key ends with no other value. -/
def Loader.Only (only : Option Value) (loader : Loader τ) (load : Option Nat) (call : Call) (s : System) : Prop :=
  ∀ (u : System) (value : Option (Typed τ)), loader.Ends Arises load call s u (.value value) →
    value.map (·.val) = only

namespace Get

/-- A get that is answered with a value has it from its own loader or from a load that has landed with it. -/
theorem Answered.brought {ok : System → Prop} {τ : ValueType} {request : Request} {loader : Loader τ} {key : Key}
    {s u : System} {source : Option Nat} {answer : Outcome CacheFault (Option (Typed τ))} (reached : u.Reached)
    (h : Answered ok request loader key s u source answer) {result : Option (Typed τ)}
    (hvalue : answer = .value result) :
    loader.Ends ok none ⟨request.label, request.cache, key⟩ s u (.value result) ∨
      ∃ id value, (∃ e ∈ u.history, ∃ kept, e.event = .landed id request.cache key (.ok value) kept) ∧
        result.map (·.val) = value.toOption := by
  cases h with
  | refused h => cases hvalue
  | @own outcome ended =>
    cases outcome with
    | value v =>
      cases hvalue
      exact .inl ended
    | failed failure => cases hvalue
    | panicked payload => cases hvalue
  | @stored id value before looked held =>
    obtain ⟨-, later, look, hhistory, -⟩ := looked
    obtain ⟨e, he, hdeposits⟩ := History.deposit_of_stored held
    have hmem : e ∈ u.history := hhistory ▸ List.mem_append_right later (List.mem_cons_of_mem look he)
    exact .inr ⟨id, value, ⟨e, hmem, true, hdeposits⟩, System.value_of_typed hvalue⟩
  | @shared id number outcome looked ended =>
    cases outcome with
    | error failure => cases hvalue
    | ok value =>
      obtain ⟨e, he, hlanded⟩ := System.landing_of_ended reached ended rfl
      exact .inr ⟨id, value, ⟨e, he, hlanded⟩, System.value_of_typed hvalue⟩

/-- Where the value comes from that a get of the session is told in the state `u`, when it had not looked its key up
yet in the state `s`: a loader was called for its cache and its key, and ended with this value. -/
inductive Produced (x : Session) (turns : List Session.Turn) {τ : ValueType} (request : Request) (loader : Loader τ)
    (key : Key) (s u : System) (result : Option (Typed τ)) : Prop where
  /-- It was the get's own loader. -/
  | own (called : ∃ e ∈ u.history, e.event = .called ⟨request.label, request.cache, key⟩ none)
      (ended : loader.Ends Arises none ⟨request.label, request.cache, key⟩ s u (.value result))
  /-- It was the loader of the get that has launched the load. In the state `w` of the session it has ended with the
  value, and so the load has landed with it. -/
  | load {σ : ValueType} {id number : Nat} {label : String} {launcher : Loader σ} {b w : System}
      {value : Option (Typed σ)} (launched : x.Launches turns id ⟨label, request.cache, key⟩ launcher b)
      (called : ∃ e ∈ u.history, e.event = .called ⟨label, request.cache, key⟩ (some id))
      (ended : launcher.Ends Arises (some id) ⟨label, request.cache, key⟩ b w (.value value))
      (busy : w.load? id = some ⟨request.cache, key, number, .busy⟩)
      (later : Moves (w.land id request.cache key number (.ok (.ofOption (value.map (·.val))))) (x.play turns).system)
      (landed : ∃ e ∈ u.history, ∃ kept, e.event =
        .landed id request.cache key (.ok (.ofOption (value.map (·.val)))) kept)
      (same : value.map (·.val) = result.map (·.val))

theorem produced_of_answered {registry : Registry} (built : registry.Built) {turns : List Session.Turn} {τ : ValueType}
    {request : Request} {loader : Loader τ} {key : Key} {s u : System} (reached : u.Reached)
    (moves : Moves u ((Session.start registry).play turns).system) {source : Option Nat} {result : Option (Typed τ)}
    (h : Answered Arises request loader key s u source (.value result)) :
    Produced (.start registry) turns request loader key s u result := by
  rcases h.brought reached rfl with ended | ⟨id, value, ⟨e, he, kept, hevent⟩, hresult⟩
  · obtain ⟨new, hnew, c, hc, hcalled⟩ := ended.recorded
    exact .own ⟨c, hnew ▸ List.mem_append_left _ hc, hcalled⟩ ended
  · obtain ⟨σ, label, launcher, b, w, number, v, launched, called, ended, busy, rfl, later⟩ :=
      Session.brought_of_landed built moves reached.sound he hevent
    refine .load launched called ended busy later ⟨e, he, kept, hevent⟩ ?_
    rw [hresult, Stored.toOption_ofOption]

/-- **Where values come from.** A get that a session polls ends with a value, or with the absence of one. A loader was
called for its own cache and its own key before, and ended with just that: the get's own loader, or that of the get
which has launched the load that the value comes from. So if these loaders can end with one value only, the get has that
one. And if the loaders that callers bring, and those of the gets that they make, offer no more than what is allowed for
their caches and keys, the value is allowed for the get's.

Every get that the session polls, be it one that a loader has made, has come from its request to where it is. So has
that of every task that is live, and a turn has started the task. -/
theorem produced_of_value {registry : Registry} (built : registry.Built) (turns : List Session.Turn) :
    (∀ {τ : ValueType} {request : Request} {loader : Loader τ} {key : Key} {s t u : System} {get : Get τ} {depth : Nat}
        {result : Option (Typed τ)},
      s.Arises → request.key = .ok key → Get.Way s (.asking request loader) t get →
        (Session.start registry).Makes turns ⟨depth, t, .get get⟩ →
          Get.poll depth t get = (u, .ended (.value result)) →
      Produced (.start registry) turns request loader key s u result ∧
        (∀ only, loader.Only only none ⟨request.label, request.cache, key⟩ s →
          (∀ {σ : ValueType} {id : Nat} {label : String} {launcher : Loader σ} {b : System},
            (Session.start registry).Launches turns id ⟨label, request.cache, key⟩ launcher b →
              launcher.Only only (some id) ⟨label, request.cache, key⟩ b) → result.map (·.val) = only) ∧
        ∀ allowed : Allowance, (∀ turn ∈ turns, turn.Offers allowed) →
          loader.Offers allowed (allowed request.cache key) → allowed request.cache key (result.map (·.val))) ∧
    (∀ {τ : ValueType} {t : System} {get : Get τ} {depth : Nat},
      (Session.start registry).Makes turns ⟨depth, t, .get get⟩ →
        ∃ (s : System) (request : Request) (loader : Loader τ), s.Arises ∧ Get.Way s (.asking request loader) t get) ∧
    ∀ task ∈ ((Session.start registry).play turns).tasks, (Session.start registry).Hails turns task := by
  refine ⟨?_, fun makes => (makes.due built).2, Session.hails_play built turns⟩
  intro τ request loader key s t u get depth result arises hkey way makes hend
  have harises : t.Arises := (makes.due built).1
  have moves : Moves u ((Session.start registry).play turns).system := by
    have hafter : Poll.after ⟨depth, t, .get get⟩ = u := congrArg Prod.fst hend
    exact hafter ▸ makes.moves
  obtain ⟨source, answered⟩ := answered_of_way System.stable_arises hkey arises.reached.sound way harises hend
  have produced := produced_of_answered built (harises.reached.moves (System.moves_of_poll hend)) moves answered
  refine ⟨produced, fun only hown hlaunched => ?_, fun allowed hturns offers => ?_⟩
  · cases produced with
    | own called ended => exact hown _ _ ended
    | load launched called ended busy later landed same => exact same ▸ hlaunched launched _ _ ended
  · have hasking : (Get.asking request loader).Offers allowed (allowed request.cache key) := by
      intro other hother
      cases hkey.symm.trans hother
      exact ⟨offers, fun _ hvalue => hvalue⟩
    have afoot : Get.Afoot t get := ⟨s, request, loader, arises, way⟩
    have faithful : t.Faithful allowed := (makes.faithful built hturns).1
    exact (offers_of_poll harises afoot faithful (loader.endures allowed arises way hasking) hend).2

/-- A load of one caller is running, whose loader sleeps and then brings a value, when another caller joins it. -/
private def joining : List Session.Turn :=
  [.start "a" .flag ⟨"a", "c", .ok (.ofNat 1), .registry, .zero⟩ (.sleep 5 (.done (some (.flag true)))), .poll 0,
    .start "b" .flag ⟨"b", "c", .ok (.ofNat 1), .registry, .zero⟩ (.fail (.text "no")), .poll 1, .elapse 5]

private def unjoined : Session := .start (.sole "c" .unset)

private def joinerRequest : Request := ⟨"b", "c", .ok (.ofNat 1), .registry, .zero⟩

/-- It has joined the load. -/
private def joinerGet : Get .flag := .awaiting "c" (.ofNat 1) 0 none

/-- Every get may be told this value only. -/
private def onlyTrue : Allowance := fun _ _ value => value = some (.flag true)

/-- It is told the value, and its own loader, which would fail, is never called. -/
theorem produced_of_value_joined : Produced unjoined (joining ++ [.poll 1]) joinerRequest (.fail (.text "no"))
      (.ofNat 1) (unjoined.play (joining.take 3)).system ((unjoined.play joining).system.poll joinerGet).1
      (some (.flag true)) ∧
    (∀ turn ∈ joining ++ [.poll 1], turn.Offers onlyTrue) ∧ onlyTrue "c" (.ofNat 1) (some (.flag true)) := by
  have built : (Registry.sole "c" .unset).Built := Registry.built_sole (by decide) rfl
  have arises : (unjoined.play (joining.take 3)).system.Arises := (Session.underway_play built _).arises
  have hjoined : Get.poll 9 (unjoined.play (joining.take 3)).system (.asking joinerRequest (.fail (.text "no"))) =
      ((unjoined.play (joining.take 4)).system, .pending joinerGet) := Prod.ext rfl rfl
  have helapsed : (unjoined.play joining).system = (unjoined.play (joining.take 4)).system.elapse 5 := rfl
  have way : Get.Way (unjoined.play (joining.take 3)).system (.asking joinerRequest (.fail (.text "no")))
      (unjoined.play joining).system joinerGet :=
    helapsed ▸ .moves (.poll .refl arises hjoined) (.single (.elapse _ 5))
  have htask : (unjoined.play joining).tasks[1]? = some ⟨1, "b", .flag, joinerGet⟩ := rfl
  have makes : unjoined.Makes (joining ++ [.poll 1]) ⟨_, _, .get joinerGet⟩ :=
    ⟨joining, [], 1, _, rfl, htask, .refl⟩
  have htold : (unjoined.play joining).system.poll joinerGet =
      (((unjoined.play joining).system.poll joinerGet).1, .ended (.value (some (.flag true)))) := Prod.ext rfl rfl
  have hkey : joinerRequest.key = .ok (.ofNat 1) := rfl
  have offers : ∀ turn ∈ joining ++ [.poll 1], turn.Offers onlyTrue := by
    simp only [joining, List.cons_append, List.nil_append, List.forall_mem_cons]
    exact ⟨fun _ _ => rfl, trivial, fun _ _ => trivial, trivial, trivial, trivial, fun _ h => by cases h⟩
  obtain ⟨produced, -, hallowed⟩ := (produced_of_value built _).1 arises hkey way makes htold
  exact ⟨produced, offers, hallowed onlyTrue offers trivial⟩

end Get

end SingleFlight
