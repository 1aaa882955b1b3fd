import SingleFlight.Proofs.Arising

/-!
# What holds of a load

Nothing but polls of its own loader takes a load further: each poll opens the load and closes it again. So what these
polls keep of a load, and moves leave alone, holds of it in every state of a run.

* `System.Upheld` lists what is to be shown of one load. Steps of polls carry it over then (`Upheld.carried`), and it
  holds of all loads of a state that arises (`Upheld.holds`) and after every schedule (`Upheld.play`);
* so the loader of a load waits for no get but the one that it makes, which has come there from its request
  (`System.heads_of_load`).
-/

namespace SingleFlight

namespace System

/-- What holds of a load in a state holds of it ever after, as its own loader is polled. Of the loads that are still to
be started this is asked from the number `first` on. -/
structure Upheld (first : Nat) (Q : Nat → Load → System → Prop) : Prop where
  moves {s t : System} {id : Nat} {load : Load} (h : Q id load s) (moves : Moves s t) : Q id load t
  started {τ : ValueType} {s t : System} {name : String} {store : LocalStore} {label : String} {key : Key}
    {loader : Loader τ} {id : Nat} (arises : s.Arises) (hfirst : first ≤ id)
    (hfind : s.registry.find? name = some (.local store))
    (hlook : s.lookUp store ⟨label, store.name, key⟩ loader = (t, .started id)) :
    Q id ⟨store.name, key, store.nextLoad, .idle τ (.calling ⟨label, store.name, key⟩ loader)⟩ t
  opened {s : System} {id : Nat} {load : Load} (h : Q id load s) : Q id { load with state := .busy } s
  paused {τ : ValueType} {s t : System} {depth id number : Nat} {cache : String} {key : Key} {run rest : Run τ}
    (arises : s.Arises) (h : Q id ⟨cache, key, number, .idle τ run⟩ s)
    (hload : s.load? id = some ⟨cache, key, number, .idle τ run⟩) (hcalled : run.called ∨ 0 < depth)
    (hpoll : Run.poll depth (s.setLoad id .busy) (some id) run = (t, .pending rest)) :
    Q id ⟨cache, key, number, .idle τ rest⟩ (t.setLoad id (.idle τ rest))
  landed {τ : ValueType} {s t : System} {depth id number : Nat} {cache : String} {key : Key} {run : Run τ}
    {outcome : Outcome Failure (Option (Typed τ))} (arises : s.Arises) (h : Q id ⟨cache, key, number, .idle τ run⟩ s)
    (hload : s.load? id = some ⟨cache, key, number, .idle τ run⟩)
    (hpoll : Run.poll depth (s.setLoad id .busy) (some id) run = (t, .ended outcome)) :
    Q id ⟨cache, key, number, .ended (loadResult outcome)⟩ (t.land id cache key number (loadResult outcome))

namespace Upheld

/-- The state arises, has that many loads, and it holds of each of its loads. -/
structure Holds (first : Nat) (Q : Nat → Load → System → Prop) (s : System) : Prop where
  arises : s.Arises
  old : first ≤ s.loads.length
  each : ∀ id load, s.load? id = some load → Q id load s

variable {first : Nat} {Q : Nat → Load → System → Prop} {s t : System}

/-- A step that leaves all loads as they are. -/
theorem kept (upheld : Upheld first Q) (h : Holds first Q s) (arises : t.Arises) (move : Move s t)
    (hloads : t.loads = s.loads) : Holds first Q t where
  arises := arises
  old := hloads ▸ h.old
  each id load hload := by
    rw [load?, hloads] at hload
    exact upheld.moves (h.each id load hload) (.single move)

/-- A step that sets the state of one load, of which it is known to hold afterwards. -/
theorem set (upheld : Upheld first Q) (h : Holds first Q s) (arises : t.Arises) (move : Move s t) {id : Nat}
    {load : Load} {state : LoadState} (hload : s.load? id = some load) (hloads : t.loads = (s.setLoad id state).loads)
    (hself : Q id { load with state } t) : Holds first Q t where
  arises := arises
  old := by
    rw [hloads, length_loads_setLoad]
    exact h.old
  each other now hnow := by
    rw [load?, hloads] at hnow
    by_cases hother : other = id
    · subst hother
      cases (load?_setLoad_self hload state).symm.trans hnow
      exact hself
    · have hold : s.load? other = some now := (load?_setLoad_of_ne s hother state).symm.trans hnow
      exact upheld.moves (h.each other now hold) (.single move)

theorem lookUp (upheld : Upheld first Q) (h : Holds first Q s) {name : String} {store : LocalStore}
    (hfind : s.registry.find? name = some (.local store)) (label : String) (key : Key) (loader : Loader τ) :
    Holds first Q (s.lookUp store ⟨label, store.name, key⟩ loader).1 := by
  have hmove : Move s (s.lookUp store ⟨label, store.name, key⟩ loader).1 := .lookUp hfind label key loader
  refine ⟨h.arises.lookUp hfind label key loader, Nat.le_trans h.old (length_loads_moves (.single hmove)), ?_⟩
  intro id load hload
  cases hlook : s.lookUp store ⟨label, store.name, key⟩ loader with
  | mk u found =>
    rw [hlook] at hmove hload
    rcases load?_of_lookUp hlook id with hold | rfl
    · exact upheld.moves (h.each id load (hold ▸ hload)) (.single hmove)
    · -- the load that the lookup has started
      obtain ⟨rfl, hnew⟩ := load?_of_started hlook
      cases hnew.symm.trans hload
      exact upheld.started h.arises h.old hfind hlook

theorem carried (upheld : Upheld first Q) : Carried (Holds first Q) where
  note h aside := upheld.kept h (h.arises.note aside) (.note aside) rfl
  lookUp h hfind label key loader := upheld.lookUp h hfind label key loader
  call h hload :=
    upheld.set h (h.arises.call hload) (.call hload) hload rfl
      (upheld.moves (upheld.opened (h.each _ _ hload)) (.single (.call hload)))
  resume h hload hcalled :=
    upheld.set h (h.arises.resume hload hcalled) (.resume hload hcalled) hload rfl
      (upheld.moves (upheld.opened (h.each _ _ hload)) (.single (.resume hload hcalled)))
  paused h hload hcalled hpoll h' := by
    have hbusy := (busy_of_poll hload hcalled hpoll).2
    have hrest := Run.called_of_poll hcalled (congrArg Prod.snd hpoll)
    exact upheld.set h' (Arises.carried.paused h.arises hload hcalled hpoll h'.arises) (.pause hbusy hrest) hbusy rfl
      (upheld.paused h.arises (h.each _ _ hload) hload hcalled hpoll)
  landed h hload hpoll h' := by
    have hbusy := (busy_of_ended hload hpoll).2
    exact upheld.set h' (Arises.carried.landed h.arises hload hpoll h'.arises) (.land hbusy _) hbusy (loads_land ..)
      (upheld.landed h.arises (h.each _ _ hload) hload hpoll)
  invalidateIn h hfind key :=
    upheld.kept h (h.arises.invalidate hfind key) (.invalidate hfind key) (loads_invalidateIn ..)
  invalidateAllIn h hfind :=
    upheld.kept h (h.arises.invalidateAll hfind) (.invalidateAll hfind) (loads_invalidateAllIn ..)

theorem elapse (upheld : Upheld first Q) (h : Holds first Q s) (ms : Nat) : Holds first Q (s.elapse ms) :=
  upheld.kept h (h.arises.elapse ms) (.elapse s ms) rfl

theorem tend (upheld : Upheld first Q) (h : Holds first Q s) (name : String) : Holds first Q (s.tend name) :=
  upheld.kept h (h.arises.tend name) (.tend s name) rfl

/-- What is asked of all loads holds of each in every state that arises. -/
theorem holds (upheld : Upheld 0 Q) (h : s.Arises) : Holds 0 Q s := by
  induction h with
  | start built => exact ⟨.start built, Nat.zero_le _, fun _ _ => nofun⟩
  | elapse _ ms ih => exact upheld.elapse ih ms
  | note _ aside ih => exact upheld.carried.note ih aside
  | lookUp _ hfind label key loader ih => exact upheld.lookUp ih hfind label key loader
  | call _ hload ih => exact upheld.carried.call ih hload
  | resume _ hload hcalled ih => exact upheld.carried.resume ih hload hcalled
  | advance _ depth id ih => exact upheld.carried.advance ih depth id
  | invalidate _ hfind key ih => exact upheld.carried.invalidateIn ih hfind key
  | invalidateAll _ hfind ih => exact upheld.carried.invalidateAllIn ih hfind
  | tend _ name ih => exact upheld.tend ih name

/-- What holds in a session holds in it however it goes on. -/
theorem play (upheld : Upheld first Q) {x : Session} (h : Holds first Q x.system) (turns : List Session.Turn) :
    Holds first Q (x.play turns).system :=
  Session.carried_play upheld.carried (fun ms h => upheld.elapse h ms) (fun name h => upheld.tend h name) h turns

end Upheld

/-! ### Gets that loaders of loads make -/

/-- A poll of the loader of a load leads it on. -/
theorem heads_of_opened {s t : System} (arises : s.Arises) {depth id number : Nat} {cache : String} {key : Key}
    {loader : Loader τ} {run rest : Run τ} (hload : s.load? id = some ⟨cache, key, number, .idle τ run⟩)
    (heads : Run.Heads loader s run)
    (hpoll : Run.poll depth (s.setLoad id .busy) (some id) run = (t, .pending rest)) : Run.Heads loader t rest := by
  cases hrun : run.called with
  | true =>
    have hopened : Run.Heads loader (s.setLoad id .busy) run := heads.moves (.single (.resume hload hrun))
    exact Run.heads_of_poll depth (arises.resume hload hrun) (.inl hrun) hopened hpoll
  | false =>
    cases run with
    | calling call own =>
      cases depth with
      | zero =>
        cases hpoll
        exact heads
      | succ depth =>
        have hcalled : Run.Heads loader ((s.setLoad id .busy).emit (.called call (some id))) (.running own) := heads
        exact Run.heads_of_poll depth (arises.call hload) (.inl rfl) hcalled hpoll
    | running own => cases hrun
    | sleeping due own => cases hrun
    | nested get => cases hrun

private theorem upheld_heads : Upheld 0 fun _ load s =>
    ∀ (τ : ValueType) (run : Run τ), load.state = .idle τ run → ∃ loader, Run.Heads loader s run where
  moves h moves τ run hstate := by
    obtain ⟨loader, heads⟩ := h τ run hstate
    exact ⟨loader, heads.moves moves⟩
  started := by
    intro _ s t name store label key loader id _ _ _ _ σ run hstate
    cases hstate
    exact ⟨loader, rfl⟩
  opened _ _ _ hstate := by cases hstate
  paused := by
    intro τ s t depth id number cache key run rest arises h hload hcalled hpoll σ now hstate
    cases hstate
    obtain ⟨loader, heads⟩ := h τ run rfl
    have hbusy := (busy_of_poll hload hcalled hpoll).2
    have hrest := Run.called_of_poll hcalled (congrArg Prod.snd hpoll)
    exact ⟨loader, (heads_of_opened arises hload heads hpoll).moves (.single (.pause hbusy hrest))⟩
  landed := by
    intro τ s t depth id number cache key run outcome _ _ _ _ σ now hstate
    cases hstate

/-- A loader of a load waits for no get but the one that it makes, which has come there from its request. -/
theorem heads_of_load {s : System} (arises : s.Arises) {id number : Nat} {cache : String} {key : Key} {run : Run τ}
    (hload : s.load? id = some ⟨cache, key, number, .idle τ run⟩) : ∃ loader, Run.Heads loader s run :=
  (upheld_heads.holds arises).each id _ hload τ run rfl

end System

end SingleFlight
