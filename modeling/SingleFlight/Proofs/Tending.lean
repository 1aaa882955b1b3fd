import SingleFlight.Proofs.Pending

/-!
# Loads between polls

Between the polls of its callers a load changes only as it is advanced, by whomever (`System.tended_get`,
`Session.tended_play`). So it keeps the type of the get that started it: what is left of its loader has that type, and
so has a value that it ends with (`System.Bears.type_eq`).
-/

namespace SingleFlight

namespace System

/-! ### Loads change as they are advanced -/

/-- Nothing has changed the load from the one state to the other but its being advanced. -/
inductive Tended (id : Nat) (s : System) : System → Prop where
  | refl : Tended id s s
  | aside {t u : System} (h : Tended id s t) (same : u.load? id = t.load? id) : Tended id s u
  | advance {t : System} (h : Tended id s t) (depth : Nat) : Tended id s (System.advance depth t id)

variable {id : Nat} {s t u : System}

theorem Tended.trans (h : Tended id s t) (h' : Tended id t u) : Tended id s u := by
  induction h' with
  | refl => exact h
  | aside _ same ih => exact ih.aside same
  | advance _ depth ih => exact ih.advance depth

theorem tended_of_eq (same : t.load? id = s.load? id) : Tended id s t := .aside .refl same

theorem tended_emit (s : System) (event : Event) : Tended id s (s.emit event) := tended_of_eq rfl

/-- The load exists. -/
def Started (id : Nat) (s : System) : Prop := ∃ load, s.load? id = some load

theorem Started.moves (h : s.Started id) (moves : Moves s t) : t.Started id := by
  obtain ⟨load, hload⟩ := h
  obtain ⟨state, hafter⟩ := load?_moves moves hload
  exact ⟨_, hafter⟩

theorem Tended.started (h : Tended id s t) (started : s.Started id) : t.Started id := by
  induction h with
  | refl => exact started
  | aside _ same ih =>
    obtain ⟨load, hload⟩ := ih
    exact ⟨load, same.trans hload⟩
  | advance _ depth ih => exact ih.moves (polled_advance ..).moves

theorem tended_lookUp (h : s.Started id) {store : LocalStore} {call : Call} {loader : Loader τ} {found : Found}
    (hlook : s.lookUp store call loader = (t, found)) : Tended id s t := by
  obtain ⟨load, hload⟩ := h
  have hafter : (s.lookUp store call loader).1.load? id = some load := load?_lookUp hload
  rw [hlook] at hafter
  exact tended_of_eq (hafter.trans hload.symm)

theorem tended_invalidate {cache : String} {key : Key} (h : s.invalidate cache key = .ok t) : Tended id s t := by
  obtain ⟨reached, -, rfl⟩ := exists_of_map_eq_ok h
  exact tended_of_eq (by rw [load?, loads_invalidateIn, load?])

theorem tended_invalidateAll {cache : String} (h : s.invalidateAll cache = .ok t) : Tended id s t := by
  obtain ⟨reached, -, rfl⟩ := exists_of_map_eq_ok h
  exact tended_of_eq (by rw [load?, loads_invalidateAllIn, load?])

/-- What is polled changes the load only as it advances it. To advance the load itself is left to `Tended.advance`. -/
private def tending (id : Nat) : Judgement where
  get _ s _ t _ := s.Started id → Tended id s t
  run _ s _ _ t _ := s.Started id → Tended id s t
  load _ s other t := id ≠ other → s.Started id → Tended id s t

private theorem tended_advance_of {depth other : Nat} (h : (tending id).load depth s other (advance depth s other))
    (started : s.Started id) : Tended id s (advance depth s other) := by
  by_cases hother : id = other
  · subst hother
    exact .advance .refl depth
  · exact h hother started

private theorem tending_gets (id : Nat) : (tending id).KeptByGets where
  cut _ _ _ := .refl
  unkeyed _ _ := .refl
  refused _ _ _ := .refl
  passed _ _ h started := (tended_emit ..).trans (h started)
  found _ _ hlook started := tended_lookUp started hlook
  started _ hreach hlook h started :=
    (tended_lookUp started hlook).trans (h (started.moves (.single (move_of_lookUp hreach hlook))))
  joined _ hreach hlook h started :=
    (tended_lookUp started hlook).trans (h (started.moves (.single (move_of_lookUp hreach hlook))))
  told h _ started := tended_advance_of h started
  waiting h _ _ started := tended_advance_of h started
  timedOut h _ _ hrest started :=
    ((tended_advance_of h started).trans (tended_emit ..)).trans
      (hrest (started.moves ((polled_advance ..).moves.tail (.note rfl))))
  loading _ h started := h started
  loaded _ h started := h started

private theorem tending_runs (id : Nat) : (tending id).KeptByRuns where
  cut _ _ _ _ := .refl
  calling h started := (tended_emit ..).trans (h started)
  awake _ h started := h started
  asleep _ _ := .refl
  nesting _ h started := h started
  nested _ h started := h started
  done _ _ _ _ _ := .refl
  fail _ _ _ _ _ := .refl
  panic _ _ _ _ _ := .refl
  sleep h started := h started
  invalidate hdone h started :=
    (tended_invalidate hdone).trans (h (started.moves (polled_invalidate hdone).moves))
  invalidateNone _ _ := .refl
  invalidateAll hdone h started :=
    (tended_invalidateAll hdone).trans (h (started.moves (polled_invalidateAll hdone).moves))
  invalidateAllNone _ _ := .refl
  get h started := h started

private theorem started_setLoad (h : s.Started id) (other : Nat) (state : LoadState) :
    (s.setLoad other state).Started id := by
  obtain ⟨load, hload⟩ := h
  by_cases hother : id = other
  · subst hother
    exact ⟨_, load?_setLoad_self hload state⟩
  · exact ⟨load, (load?_setLoad_of_ne s hother state).trans hload⟩

private theorem tending_loads (id : Nat) : (tending id).KeptByLoads where
  cut _ _ _ _ := .refl
  still _ _ _ := .refl
  paused {τ depth other number s t cache key run rest} _ _ h hother started := by
    have hpolled : Tended id (s.setLoad other .busy) t := h (started_setLoad started other .busy)
    exact ((tended_of_eq (load?_setLoad_of_ne s hother .busy)).trans hpolled).aside (load?_setLoad_of_ne t hother _)
  landed {τ depth other number s t cache key run outcome} _ _ h hother started := by
    have hpolled : Tended id (s.setLoad other .busy) t := h (started_setLoad started other .busy)
    exact ((tended_of_eq (load?_setLoad_of_ne s hother .busy)).trans hpolled).aside (load?_land_of_ne t hother ..)

/-- A poll changes a load only as it advances it. -/
theorem tended_get (h : s.Started id) (depth : Nat) (get : Get τ) : Tended id s (Get.poll depth s get).1 :=
  (Judgement.Kept.polls ⟨tending_gets id, tending_runs id, tending_loads id⟩ depth).get s get h

end System

namespace Session

/-- A schedule changes a load only as it advances it. -/
theorem tended_play {x : Session} {id : Nat} (h : x.system.Started id) (turns : List Turn) :
    System.Tended id x.system (x.play turns).system := by
  induction turns generalizing x with
  | nil => exact .refl
  | cons t turns ih =>
    refine System.Tended.trans ?_ (ih (x := x.turn t) (h.moves (moves_turn x t)))
    by_cases hquiet : ∀ place, t ≠ .poll place
    · exact System.tended_of_eq (by rw [System.load?, (turn_of_not_poll x hquiet).2, System.load?])
    · obtain ⟨place, hpoll⟩ := not_forall.1 hquiet
      obtain rfl := not_not.1 hpoll
      cases hplace : x.tasks[place]? with
      | none =>
        rw [turn_poll_of_none x hplace]
        exact .refl
      | some polled =>
        have hpolled := System.tended_get h (x.system.work + polled.get.size) polled.get
        cases hpoll : x.system.poll polled.get with
        | mk s progress =>
          unfold System.poll at hpoll
          rw [hpoll] at hpolled
          rw [turn_poll x hplace hpoll]
          cases progress with
          | pending get => exact hpolled
          | ended outcome => exact hpolled.trans (System.tended_emit ..)

end Session

/-! ### Loads keep their type -/

/-- What is left of the load's loader, and a value that it has ended with, are of the type. -/
def LoadState.Bears (τ : ValueType) : LoadState → Prop
  | .idle σ _ => σ = τ
  | .ended (.ok (.value v)) => v.type = τ
  | _ => True

namespace System

variable {s t : System} {id : Nat}

/-- The load is one that a get of the type has started. -/
def Bears (s : System) (id : Nat) (τ : ValueType) : Prop := ∃ load, s.load? id = some load ∧ load.state.Bears τ

theorem bears_loadResult (outcome : Outcome Failure (Option (Typed τ))) :
    (LoadState.ended (loadResult outcome)).Bears τ := by
  match outcome with
  | .value (some v) => exact v.property
  | .value none | .failed _ | .panicked _ => trivial

theorem Bears.advance (h : s.Bears id τ) (depth : Nat) : (advance depth s id).Bears id τ := by
  obtain ⟨⟨cache, key, number, state⟩, hload, hstate⟩ := h
  cases depth with
  | zero => exact ⟨_, hload, hstate⟩
  | succ depth =>
    cases state with
    | busy | ended outcome =>
      simp only [System.advance, hload]
      exact ⟨_, hload, hstate⟩
    | idle σ run =>
      obtain rfl : σ = τ := hstate
      simp only [System.advance, hload]
      split
      next t rest hpoll => exact ⟨_, load?_setLoad_self (busy_of_opened hload hpoll) _, rfl⟩
      next t outcome hpoll => exact ⟨_, load?_land_self (busy_of_opened hload hpoll) _, bears_loadResult outcome⟩

theorem Bears.tended (h : s.Bears id τ) (tended : Tended id s t) : t.Bears id τ := by
  induction tended with
  | refl => exact h
  | aside _ same ih =>
    obtain ⟨load, hload, hstate⟩ := ih
    exact ⟨load, same.trans hload, hstate⟩
  | advance _ depth ih => exact ih.advance depth

/-- A value that the load has ended with has its type. -/
theorem Bears.type_eq (h : s.Bears id τ) {v : Value} (houtcome : s.outcome? id = some (.ok (.value v))) :
    v.type = τ := by
  obtain ⟨load, hload, hstate⟩ := h
  obtain ⟨ended, hended, hvalue⟩ := outcome?_eq_some.1 houtcome
  rw [hload] at hended
  cases hended
  rw [hvalue] at hstate
  exact hstate

end System

end SingleFlight
