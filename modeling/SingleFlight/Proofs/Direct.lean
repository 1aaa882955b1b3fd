import SingleFlight.Proofs.Arising

/-!
# Gets that run their loaders themselves

A get runs its own loader if its cache passes calls through, or once its lock timeout has elapsed. A loader that it runs
may make a get of its own, and so on. A panic goes through such gets and no others.

* `Request.Turns` says how a get comes to call its own loader, `Loader.Throws` how a loader comes to panic: by itself,
  or through a get that it made and that has called a loader which panics;
* a get, and a loader that was called, remember at every poll how they have come where they are (`Get.Stems`,
  `Run.Stems`), so when they panic it can be told why (`Get.throws_of_way`, `Run.throws_of_follows`).
-/

namespace SingleFlight

open SingleFlight.System (Moves)

/-- A get that was made in the state `s` is about to call its own loader in the state `a`: its cache passes calls
through, or it has joined a load that had no outcome yet when the lock timeout had elapsed. -/
inductive Request.Turns (request : Request) (s : System) : Call → System → Prop where
  | passed {v a : System} {name : String} {key : Key} (made : Moves s v) (hkey : request.key = .ok key)
      (hreach : v.reach request = .ok (.passThrough name)) (later : Moves (v.emit (.passedThrough name key)) a) :
      Turns request s ⟨request.label, name, key⟩ a
  | timedOut {τ : ValueType} {v looked w a : System} {store : LocalStore} {key : Key} {loader : Loader τ} {id : Nat}
      (made : Moves s v) (hkey : request.key = .ok key) (hreach : v.reach request = .ok (.local store))
      (hlook : v.lookUp store ⟨request.label, store.name, key⟩ loader = (looked, .joined id))
      (waited : Moves looked w) (hopen : w.outcome? id = none) (htimed : request.patience ≠ .zero)
      (helapsed : looked.now * 1000000 + request.patience.nanos ≤ w.now * 1000000)
      (later : Moves (w.emit (.lockTimedOut store.name key id request.patience)) a) :
      Turns request s ⟨request.label, store.name, key⟩ a

theorem Request.Turns.moves {request : Request} {s a b : System} {call : Call} (h : request.Turns s call a)
    (moves : Moves a b) : request.Turns s call b := by
  cases h with
  | passed made hkey hreach later => exact .passed made hkey hreach (later.trans moves)
  | timedOut made hkey hreach hlook waited hopen htimed helapsed later =>
    exact .timedOut made hkey hreach hlook waited hopen htimed helapsed (later.trans moves)

/-- The loader, which was called right before the state `c`, has panicked with that payload by the state `u`: itself, or
because a get that it made has called a loader itself that has. -/
inductive Loader.Throws {τ : ValueType} (payload : Payload) (u : System) : System → Loader τ → Prop where
  | itself {c : System} {loader : Loader τ} (hclose : loader.close = .panic payload) (moves : Moves c u) :
      Throws payload u c loader
  | nested {c b a : System} {loader inner : Loader τ} {request : Request} {call : Call}
      (hclose : loader.close = .get request inner) (moves : Moves c b) (turns : request.Turns b call a)
      (throws : Throws payload u (a.emit (.called call none)) inner) : Throws payload u c loader

mutual
/-- The get, which was made in the state `s`, has come that far by the state `t`. -/
def Get.Stems {τ : ValueType} (s : System) (request : Request) (loader : Loader τ) (t : System) : Get τ → Prop
  | .asking own ownLoader => own = request ∧ ownLoader = loader ∧ Moves s t
  | .awaiting cache key id patience => patience = none ∨
    ∃ (v looked : System) (store : LocalStore), Moves s v ∧ request.key = .ok key ∧
      v.reach request = .ok (.local store) ∧ store.name = cache ∧
      v.lookUp store ⟨request.label, store.name, key⟩ loader = (looked, .joined id) ∧ Moves looked t ∧
      patience = request.patienceAt looked.now ⟨request.label, store.name, key⟩ loader
  | .loading _ run => ∃ call,
    request.Turns s call t ∧ run = .calling call loader ∨
    ∃ a, request.Turns s call a ∧ Run.Stems (a.emit (.called call none)) loader t run

/-- The loader, which was called right before the state `c`, has come that far by the state `t`. -/
def Run.Stems {τ : ValueType} (c : System) (loader : Loader τ) (t : System) : Run τ → Prop
  | .calling _ _ => False
  | .running rest | .sleeping _ rest => rest.close = loader.close ∧ Moves c t
  | .nested get => ∃ (b : System) (request : Request) (inner : Loader τ),
    loader.close = .get request inner ∧ Moves c b ∧ Get.Stems b request inner t get
end

mutual
theorem Get.Stems.moves {τ : ValueType} {s t u : System} {request : Request} {loader : Loader τ} :
    (get : Get τ) → Get.Stems s request loader t get → Moves t u → Get.Stems s request loader u get
  | .asking _ _, ⟨hrequest, hloader, made⟩, moves => ⟨hrequest, hloader, made.trans moves⟩
  | .awaiting _ _ _ _, .inl hnone, _ => .inl hnone
  | .awaiting _ _ _ _, .inr ⟨v, looked, store, made, hkey, hreach, hname, hlook, waited, hpatience⟩, moves =>
    .inr ⟨v, looked, store, made, hkey, hreach, hname, hlook, waited.trans moves, hpatience⟩
  | .loading _ _, ⟨call, .inl ⟨turns, hrun⟩⟩, moves => ⟨call, .inl ⟨turns.moves moves, hrun⟩⟩
  | .loading _ run, ⟨call, .inr ⟨a, turns, stems⟩⟩, moves => ⟨call, .inr ⟨a, turns, stems.moves run moves⟩⟩

theorem Run.Stems.moves {τ : ValueType} {c t u : System} {loader : Loader τ} :
    (run : Run τ) → Run.Stems c loader t run → Moves t u → Run.Stems c loader u run
  | .running _, ⟨hclose, called⟩, moves | .sleeping _ _, ⟨hclose, called⟩, moves => ⟨hclose, called.trans moves⟩
  | .nested get, ⟨b, request, inner, hclose, called, stems⟩, moves =>
    ⟨b, request, inner, hclose, called, stems.moves get moves⟩
end

/-- What a poll of the get has come to: if it ends with a panic, it is that of the get's own loader. -/
def Get.StemsOn {τ : ValueType} (s : System) (request : Request) (loader : Loader τ) (t : System) :
    Progress (Get τ) CacheFault (Option (Typed τ)) → Prop
  | .pending rest => Get.Stems s request loader t rest
  | .ended (.panicked payload) => ∃ call a, request.Turns s call a ∧
    loader.Throws payload t (a.emit (.called call none))
  | .ended _ => True

/-- What a poll of the loader has come to. -/
def Run.StemsOn {τ : ValueType} (c : System) (loader : Loader τ) (t : System) :
    Progress (Run τ) Failure (Option (Typed τ)) → Prop
  | .pending rest => Run.Stems c loader t rest
  | .ended (.panicked payload) => loader.Throws payload t c
  | .ended _ => True

/-! ### What polls come to -/

namespace System

/-- What is told about a stored value is no panic. -/
theorem typed_ne_panicked (τ : ValueType) (cache : String) (value : Stored Value) (payload : Payload) :
    typed τ cache value ≠ .panicked payload := by
  unfold typed
  split
  · nofun
  · split <;> nofun

/-- What is told about the outcome of a load is no panic, whatever its loader did. -/
theorem typedResult_ne_panicked (τ : ValueType) (cache : String) (outcome : LoadResult) (payload : Payload) :
    typedResult τ cache outcome ≠ .panicked payload := by
  cases outcome with
  | ok value => exact typed_ne_panicked τ cache value payload
  | error failure => nofun

end System

namespace Judgement

/-- Gets and loaders that have come somewhere have come further after a poll. A loader that is about to be called has
been called in the state before, unless the poll had no depth. -/
private def stemming : Judgement where
  get _ s get t progress := ∀ b request loader, Get.Stems b request loader s get →
    Get.StemsOn b request loader t progress
  run _ s load run t progress := (∀ c loader, Run.Stems c loader s run → Run.StemsOn c loader t progress) ∧
    ∀ call loader, run = .calling call loader →
      t = s ∧ progress = .pending run ∨ Run.StemsOn (s.emit (.called call load)) loader t progress
  load _ _ _ _ := True

private theorem stemsOn_of_ne {b t : System} {request : Request} {loader : Loader τ}
    {outcome : Outcome CacheFault (Option (Typed τ))} (h : ∀ payload, outcome ≠ .panicked payload) :
    Get.StemsOn b request loader t (.ended outcome) := by
  cases outcome with
  | value v => trivial
  | failed fault => trivial
  | panicked payload => exact absurd rfl (h payload)

/-- A get that runs its own loader comes to what that loader comes to. -/
private theorem stemsOn_loading {depth : Nat} {s t : System} {cache : String} {run : Run τ}
    {progress : Progress (Run τ) Failure (Option (Typed τ))} (hrun : stemming.run depth s none run t progress)
    {b : System} {request : Request} {loader : Loader τ} (stems : Get.Stems b request loader s (.loading cache run)) :
    Get.StemsOn b request loader t (match progress with
      | .pending rest => .pending (.loading cache rest)
      | .ended outcome => .ended (outcome.mapError (.computation cache))) := by
  -- it has been called by now, unless the poll had no depth
  have hcalled : (∃ call, request.Turns b call s ∧ t = s ∧ progress = .pending (.calling call loader)) ∨
      ∃ call a, request.Turns b call a ∧ Run.StemsOn (a.emit (.called call none)) loader t progress := by
    obtain ⟨call, ⟨turns, rfl⟩ | ⟨a, turns, stems⟩⟩ := stems
    · rcases hrun.2 call loader rfl with ⟨rfl, rfl⟩ | hon
      · exact .inl ⟨call, turns, rfl, rfl⟩
      · exact .inr ⟨call, s, turns, hon⟩
    · exact .inr ⟨call, a, turns, hrun.1 _ loader stems⟩
  rcases hcalled with ⟨call, turns, rfl, rfl⟩ | ⟨call, a, turns, hon⟩
  · exact ⟨call, .inl ⟨turns, rfl⟩⟩
  · cases progress with
    | pending rest => exact ⟨call, .inr ⟨a, turns, hon⟩⟩
    | ended outcome =>
      cases outcome with
      | value v => trivial
      | failed failure => trivial
      | panicked payload => exact ⟨call, a, turns, hon⟩

private theorem stemmingGets : stemming.KeptByGets where
  cut s get b request loader stems := stems
  unkeyed _ _ _ _ _ := trivial
  refused _ _ _ _ _ _ := trivial
  passed := by
    rintro τ depth s t request loader key name progress hkey hreach hrest b _ _ ⟨rfl, rfl, made⟩
    exact hrest b _ _ ⟨_, .inl ⟨.passed made hkey hreach .refl, rfl⟩⟩
  found _ _ _ _ _ _ _ := stemsOn_of_ne (System.typed_ne_panicked _ _ _)
  started _ _ _ hrest b request loader _ := hrest b request loader (.inl rfl)
  joined := by
    rintro τ depth id s t u request loader key store progress hkey hreach hlook hrest b _ _ ⟨rfl, rfl, made⟩
    exact hrest b _ _ (.inr ⟨s, t, store, made, hkey, hreach, rfl, hlook, .refl, rfl⟩)
  told _ _ _ _ _ _ := stemsOn_of_ne (System.typedResult_ne_panicked _ _ _)
  waiting := by
    intro τ depth id s cache key patience _ _ _ b request loader stems
    exact Get.Stems.moves _ stems (System.polled_advance depth s id).moves
  timedOut := by
    intro τ depth id s t cache key p progress _ hopen hdue hrest b request loader stems
    obtain hnone | ⟨v, looked, store, made, hkey, hreach, rfl, hlook, waited, hpatience⟩ := stems
    · cases hnone
    · unfold Request.patienceAt at hpatience
      split at hpatience
      · cases hpatience
      next htimed =>
        cases hpatience
        have helapsed : looked.now * 1000000 + request.patience.nanos ≤
            (System.advance depth s id).now * 1000000 := by
          have hdue : looked.now + request.patience.millisRoundedUp ≤ (System.advance depth s id).now := hdue
          unfold Duration.millisRoundedUp at hdue
          omega
        have hwaited : Moves looked (System.advance depth s id) := waited.trans (System.polled_advance depth s id).moves
        exact hrest b request loader
          ⟨_, .inl ⟨.timedOut made hkey hreach hlook hwaited hopen htimed helapsed .refl, rfl⟩⟩
  loading := by
    intro τ depth s t cache run rest hpoll hrun b request loader stems
    exact stemsOn_loading hrun stems
  loaded := by
    intro τ depth s t cache run outcome hpoll hrun b request loader stems
    exact stemsOn_loading hrun stems

/-- A loader that has been called comes to what it comes to from where it is. -/
private theorem stemming_of_called {depth : Nat} {s t : System} {load : Option Nat} {run : Run τ}
    {progress : Progress (Run τ) Failure (Option (Typed τ))} (hcalled : run.called)
    (h : ∀ c loader, Run.Stems c loader s run → Run.StemsOn c loader t progress) :
    stemming.run depth s load run t progress := by
  refine ⟨h, fun call loader hrun => ?_⟩
  subst hrun
  cases hcalled

private theorem stemmingRuns : stemming.KeptByRuns where
  cut s load run := ⟨fun c loader stems => stems, fun call loader hrun => .inl ⟨rfl, rfl⟩⟩
  calling := by
    intro τ depth s t load call loader progress hrest
    refine ⟨fun c own stems => stems.elim, fun _ _ hrun => .inr ?_⟩
    cases hrun
    exact hrest.1 _ loader ⟨rfl, .refl⟩
  awake _ hrest := stemming_of_called rfl hrest.1
  asleep _ := stemming_of_called rfl fun c loader stems => stems
  nesting := by
    intro τ depth s t load get rest hpoll hget
    refine stemming_of_called rfl fun c loader stems => ?_
    obtain ⟨b, request, inner, hclose, called, stems⟩ := stems
    exact ⟨b, request, inner, hclose, called, hget b request inner stems⟩
  nested := by
    intro τ depth s t load get outcome hpoll hget
    refine stemming_of_called rfl fun c loader stems => ?_
    obtain ⟨b, request, inner, hclose, called, stems⟩ := stems
    have hon := hget b request inner stems
    cases outcome with
    | value v => trivial
    | failed fault => trivial
    | panicked payload =>
      obtain ⟨call, a, turns, throws⟩ := hon
      exact .nested hclose called turns throws
  done _ _ _ _ := stemming_of_called rfl fun _ _ _ => trivial
  fail _ _ _ _ := stemming_of_called rfl fun _ _ _ => trivial
  panic _ _ _ _ := stemming_of_called rfl fun _ _ stems => .itself stems.1.symm stems.2
  sleep hrest := stemming_of_called rfl hrest.1
  invalidate hdone hrest := stemming_of_called rfl fun c loader stems =>
    hrest.1 c loader ⟨stems.1, stems.2.trans (System.polled_invalidate hdone).moves⟩
  invalidateNone _ := stemming_of_called rfl fun _ _ _ => trivial
  invalidateAll hdone hrest := stemming_of_called rfl fun c loader stems =>
    hrest.1 c loader ⟨stems.1, stems.2.trans (System.polled_invalidateAll hdone).moves⟩
  invalidateAllNone _ := stemming_of_called rfl fun _ _ _ => trivial
  get := by
    intro τ depth s t load request inner progress hrest
    refine stemming_of_called rfl fun c loader stems => ?_
    exact hrest.1 c loader ⟨s, request, inner, stems.1.symm, stems.2, rfl, rfl, .refl⟩

private theorem stemmingPolls (depth : Nat) : stemming.HoldsAt depth :=
  Kept.polls ⟨stemmingGets, stemmingRuns, ⟨fun _ _ => trivial, fun _ => trivial, fun _ _ _ => trivial,
    fun _ _ _ => trivial⟩⟩ depth

end Judgement

namespace Get

theorem stemsOn_poll {τ : ValueType} {depth : Nat} {b s t : System} {request : Request} {loader : Loader τ}
    {get : Get τ} {progress : Progress (Get τ) CacheFault (Option (Typed τ))} (stems : Stems b request loader s get)
    (hpoll : Get.poll depth s get = (t, progress)) : StemsOn b request loader t progress := by
  have hon := (Judgement.stemmingPolls depth).get s get b request loader stems
  rwa [hpoll] at hon

theorem stems_of_way {τ : ValueType} {b s : System} {request : Request} {loader : Loader τ} {get : Get τ}
    (way : Get.Way b (.asking request loader) s get) : Stems b request loader s get := by
  induction way with
  | refl => exact ⟨rfl, rfl, .refl⟩
  | moves _ moves ih => exact ih.moves _ moves
  | poll _ _ hpoll ih => exact stemsOn_poll ih hpoll

/-- A get that ends with a panic has called its own loader, which panicked. -/
theorem throws_of_way {τ : ValueType} {depth : Nat} {b s u : System} {request : Request} {loader : Loader τ}
    {get : Get τ} {payload : Payload} (way : Get.Way b (.asking request loader) s get)
    (hend : Get.poll depth s get = (u, .ended (.panicked payload))) :
    ∃ call a, request.Turns b call a ∧ loader.Throws payload u (a.emit (.called call none)) :=
  stemsOn_poll (stems_of_way way) hend

end Get

namespace Run

theorem stemsOn_poll {τ : ValueType} {depth : Nat} {c s t : System} {load : Option Nat} {loader : Loader τ}
    {run : Run τ} {progress : Progress (Run τ) Failure (Option (Typed τ))} (stems : Stems c loader s run)
    (hpoll : Run.poll depth s load run = (t, progress)) : StemsOn c loader t progress := by
  have hon := ((Judgement.stemmingPolls depth).run s load run).1 c loader stems
  rwa [hpoll] at hon

theorem stems_of_way {τ : ValueType} {ok : System → Prop} {c s : System} {load : Option Nat} {loader : Loader τ}
    {run : Run τ} (way : Run.Goes ok load c (.running loader) s run) : Stems c loader s run := by
  induction way with
  | refl => exact ⟨rfl, .refl⟩
  | moves _ moves ih => exact ih.moves _ moves
  | poll _ _ hpoll ih => exact stemsOn_poll ih hpoll

end Run

/-- A loader of a load that ends with a panic has thrown it since the load has called it. -/
theorem Run.throws_of_follows {τ : ValueType} {ok : System → Prop} {depth id number : Nat} {b s mid : System}
    {cache : String} {key : Key} {call : Call} {loader : Loader τ} {run : Run τ} {payload : Payload}
    (follows : Run.Follows ok (some id) call loader b s run)
    (hload : s.load? id = some ⟨cache, key, number, .idle τ run⟩)
    (hend : Run.poll depth (s.setLoad id .busy) (some id) run = (mid, .ended (.panicked payload))) :
    ∃ c, Moves b c ∧ loader.Throws payload mid (c.afterCall call (some id)) := by
  rcases follows with ⟨before, rfl⟩ | ⟨c, before, way⟩
  · have hpolls := (Judgement.stemmingPolls depth).run (s.setLoad id .busy) (some id) (.calling call loader)
    have hon := hpolls.2 call loader rfl
    rw [hend] at hon
    rcases hon with ⟨-, hpending⟩ | hthrows
    · cases hpending
    · exact ⟨s, before, hthrows⟩
  · have hcalled := (Run.moves_of_way way).2
    have stems := (Run.stems_of_way way).moves run (.single (.resume hload hcalled))
    exact ⟨c, before, Run.stemsOn_poll stems hend⟩

end SingleFlight
