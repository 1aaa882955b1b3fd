import SingleFlight.Proofs.Reached

/-!
# Ways

What is polled now and then goes its way while the system moves: a get, or a loader that has been called. Some facts
hold only if it is polled in states of a certain kind, such as those of runs.

* a loader that a get or a load calls is on its way from that call on (`Run.Follows`), and a poll takes it further or to
  its end (`Run.followsOn_of_poll`);
* a loader ends in a state if its way, which begins with its call, has led it there (`Loader.Ends`), and then the call
  is recorded (`Loader.Ends.recorded`).
-/

namespace SingleFlight

namespace System

/-- The way of what is polled now and then, in states that are `ok`, while the system moves. -/
inductive Way (ok : System → Prop) {σ ε α : Type} (poll : Nat → System → σ → System × Progress σ ε α) (s : System)
    (first : σ) : System → σ → Prop where
  | refl : Way ok poll s first s first
  | moves {t u : System} {now : σ} (h : Way ok poll s first t now) (moves : Moves t u) : Way ok poll s first u now
  | poll {t u : System} {now next : σ} {depth : Nat} (h : Way ok poll s first t now) (hok : ok t)
      (hpoll : poll depth t now = (u, .pending next)) : Way ok poll s first u next

/-- What a get does by itself leads from a state that is `ok` to one that is. -/
structure Stable (ok : System → Prop) : Prop where
  note {s : System} {event : Event} (h : ok s) (aside : event.isAside) : ok (s.emit event)
  lookUp {τ : ValueType} {s : System} {name : String} {store : LocalStore} (h : ok s)
    (hfind : s.registry.find? name = some (.local store)) (label : String) (key : Key) (loader : Loader τ) :
    ok (s.lookUp store ⟨label, store.name, key⟩ loader).1
  advance {s : System} (h : ok s) (depth id : Nat) : ok (advance depth s id)

/-- Any state will do. -/
def anyState (_ : System) : Prop := True

theorem stable_anyState : Stable anyState where
  note _ _ := trivial
  lookUp _ _ _ _ _ := trivial
  advance _ _ _ := trivial

/-- What goes its way goes it from before, too. -/
theorem Way.of_moves {ok : System → Prop} {σ ε α : Type} {poll : Nat → System → σ → System × Progress σ ε α}
    {s t u : System} {first now : σ} (moves : Moves s t) (way : Way ok poll t first u now) :
    Way ok poll s first u now := by
  induction way with
  | refl => exact .moves .refl moves
  | moves _ later ih => exact ih.moves later
  | poll _ hok hpoll ih => exact ih.poll hok hpoll

/-- The state right after a call: a load is being advanced when it calls its loader, and a get calls it by itself. -/
def afterCall (s : System) (call : Call) : Option Nat → System
  | some id => (s.setLoad id .busy).emit (.called call (some id))
  | none => s.emit (.called call none)

theorem history_afterCall (s : System) (call : Call) (load : Option Nat) :
    (s.afterCall call load).history = ⟨s.now, .called call load⟩ :: s.history := by
  cases load <;> rfl

end System

open SingleFlight.System (Moves)

/-- The way of a get that is polled in any state. -/
abbrev Get.Course (s : System) (first : Get τ) : System → Get τ → Prop := System.Way System.anyState Get.poll s first

theorem Get.Course.poll {s t u : System} {first now next : Get τ} (h : Get.Course s first t now) {depth : Nat}
    (hpoll : Get.poll depth t now = (u, .pending next)) : Get.Course s first u next := System.Way.poll h trivial hpoll

section
variable {ok : System → Prop} {load : Option Nat} {call : Call} {loader : Loader τ} {s t u : System}

/-- Moves lead along the way of a get. -/
theorem Get.moves_of_way {get rest : Get τ} (way : System.Way ok Get.poll s get t rest) : Moves s t := by
  induction way with
  | refl => exact .refl
  | moves _ moves ih => exact ih.trans moves
  | poll _ _ hpoll ih => exact ih.trans (System.moves_of_poll hpoll)

namespace Run

/-- The way of a loader, which the load has called or else a get by itself. -/
abbrev Goes (ok : System → Prop) (load : Option Nat) (s : System) (first : Run τ) : System → Run τ → Prop :=
  System.Way ok (fun depth t run => Run.poll depth t load run) s first

/-- In the state `t` the loader is still to be called, or it was called after the state `s` and has come that far. -/
def Follows (ok : System → Prop) (load : Option Nat) (call : Call) (loader : Loader τ) (s t : System) (run : Run τ) :
    Prop :=
  Moves s t ∧ run = .calling call loader ∨
    ∃ c, Moves s c ∧ Run.Goes ok load (c.afterCall call load) (.running loader) t run

end Run

/-- The loader is called after the state `s`, by the load or else by a get itself, and it ends so in the state `u`. -/
def Loader.Ends (ok : System → Prop) (loader : Loader τ) (load : Option Nat) (call : Call) (s u : System)
    (outcome : Outcome Failure (Option (Typed τ))) : Prop :=
  ∃ (c t : System) (run : Run τ) (depth : Nat), Moves s c ∧
    Run.Goes ok load (c.afterCall call load) (.running loader) t run ∧ ok t ∧
    Run.poll depth t load run = (u, .ended outcome)

namespace Run

/-- What a poll has led the loader to. -/
def FollowsOn (ok : System → Prop) (load : Option Nat) (call : Call) (loader : Loader τ) (s u : System) :
    Progress (Run τ) Failure (Option (Typed τ)) → Prop
  | .pending rest => Run.Follows ok load call loader s u rest
  | .ended outcome => loader.Ends ok load call s u outcome

/-- Moves lead along the way of a loader that has been called. -/
theorem moves_of_way {run : Run τ} (way : Run.Goes ok load s (.running loader) t run) : Moves s t ∧ run.called := by
  induction way with
  | refl => exact ⟨.refl, rfl⟩
  | moves _ moves ih => exact ⟨ih.1.trans moves, ih.2⟩
  | @poll t u now next depth _ _ hpoll ih =>
    have hpoll : Run.poll depth t load now = (u, .pending next) := hpoll
    have hpolled := System.polled_run_of_called depth t load (.inl ih.2)
    rw [hpoll] at hpolled
    exact ⟨ih.1.trans hpolled.moves, called_of_poll (.inl ih.2) (congrArg Prod.snd hpoll)⟩

theorem Follows.moves {run : Run τ} (h : Follows ok load call loader s t run) (moves : Moves t u) :
    Follows ok load call loader s u run := by
  rcases h with ⟨before, hrun⟩ | ⟨c, before, way⟩
  · exact .inl ⟨before.trans moves, hrun⟩
  · exact .inr ⟨c, before, way.moves moves⟩

/-- A poll takes a loader further that has been called after the state `s`, or leads it to its end. -/
theorem followsOn_of_way {c : System} {run : Run τ} {depth : Nat}
    {progress : Progress (Run τ) Failure (Option (Typed τ))} (before : Moves s c)
    (way : Run.Goes ok load (c.afterCall call load) (.running loader) t run) (hok : ok t)
    (hpoll : Run.poll depth t load run = (u, progress)) : FollowsOn ok load call loader s u progress := by
  cases progress with
  | pending rest => exact .inr ⟨c, before, way.poll hok hpoll⟩
  | ended outcome => exact ⟨c, t, run, depth, before, way, hok, hpoll⟩

/-- A poll takes the loader of a get further, or leads it to its end. -/
theorem followsOn_of_poll {run : Run τ} {depth : Nat} {progress : Progress (Run τ) Failure (Option (Typed τ))}
    (stable : System.Stable ok) (h : Follows ok none call loader s t run) (hok : ok t)
    (hpoll : Run.poll depth t none run = (u, progress)) : FollowsOn ok none call loader s u progress := by
  rcases h with ⟨before, rfl⟩ | ⟨c, before, way⟩
  · cases depth with
    | zero =>
      cases hpoll
      exact .inl ⟨before, rfl⟩
    | succ depth =>
      have hpoll : Run.poll depth (t.afterCall call none) none (.running loader) = (u, progress) := hpoll
      exact followsOn_of_way before .refl (stable.note hok rfl) hpoll
  · exact followsOn_of_way before way hok hpoll

end Run

/-- A loader that has ended was called, and the call is recorded. -/
theorem Loader.Ends.recorded {outcome : Outcome Failure (Option (Typed τ))}
    (h : loader.Ends ok load call s u outcome) :
    ∃ new, u.history = new ++ s.history ∧ ∃ e ∈ new, e.event = .called call load := by
  obtain ⟨c, t, run, depth, before, way, -, hpoll⟩ := h
  obtain ⟨moves, hcalled⟩ := Run.moves_of_way way
  have hpolled := System.polled_run_of_called depth t load (.inl hcalled)
  rw [hpoll] at hpolled
  obtain ⟨old, hold⟩ := System.history_moves before
  obtain ⟨new, hnew⟩ := System.history_moves (moves.trans hpolled.moves)
  rw [System.history_afterCall, hold] at hnew
  refine ⟨new ++ ⟨c.now, .called call load⟩ :: old, ?_, _, List.mem_append_right new (List.mem_cons_self ..), rfl⟩
  rw [hnew, List.append_assoc, List.cons_append]

end

end SingleFlight
