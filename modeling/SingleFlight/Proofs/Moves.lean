import Mathlib.Logic.Relation
import SingleFlight.Poll
import SingleFlight.Proofs.Registry

/-!
# Moves

Polling comes down to a few kinds of elementary steps on the system, the moves. A system is reached from another one
when moves lead from this one to it; the states in the middle of a poll, with loads that are being advanced, are among
those that are reached.

* a poll of a get, of any depth, is a sequence of moves (`System.polled_get`);
* a load that is being advanced stays as it is until the poll that advances it is done with it;
* a loader that was called is never about to be called again.
-/

namespace SingleFlight

open Relation (ReflTransGen)

/-- The loader has been called. -/
def Run.called : Run τ → Bool
  | .calling _ _ => false
  | _ => true

/-- Events that only report what a caller does. -/
def Event.isAside : Event → Bool
  | .called _ none | .lockTimedOut _ _ _ _ | .passedThrough _ _ | .answered _ _ => true
  | _ => false

namespace System

/-- The elementary steps of every run. -/
inductive Move : System → System → Prop where
  | elapse (s : System) (ms : Nat) : Move s (s.elapse ms)
  | note {s : System} {event : Event} (aside : event.isAside) : Move s (s.emit event)
  | lookUp {s : System} {name : String} {store : LocalStore} (h : s.registry.find? name = some (.local store))
      (label : String) (key : Key) (loader : Loader τ) : Move s (s.lookUp store ⟨label, store.name, key⟩ loader).1
  /-- A load that nobody has advanced yet calls its loader. -/
  | call {s : System} {id number : Nat} {cache : String} {key : Key} {τ : ValueType} {call : Call} {loader : Loader τ}
      (h : s.load? id = some ⟨cache, key, number, .idle τ (.calling call loader)⟩) :
      Move s ((s.setLoad id .busy).emit (.called call (some id)))
  | resume {s : System} {id number : Nat} {cache : String} {key : Key} {τ : ValueType} {run : Run τ}
      (h : s.load? id = some ⟨cache, key, number, .idle τ run⟩) (called : run.called) : Move s (s.setLoad id .busy)
  | pause {s : System} {id number : Nat} {cache : String} {key : Key} {τ : ValueType} {run : Run τ}
      (h : s.load? id = some ⟨cache, key, number, .busy⟩) (called : run.called) : Move s (s.setLoad id (.idle τ run))
  | land {s : System} {id number : Nat} {cache : String} {key : Key}
      (h : s.load? id = some ⟨cache, key, number, .busy⟩) (outcome : LoadResult) :
      Move s (s.land id cache key number outcome)
  | invalidate {s : System} {name : String} {cache : Cache} (h : s.registry.find? name = some cache) (key : Key) :
      Move s (s.invalidateIn cache key)
  | invalidateAll {s : System} {name : String} {cache : Cache} (h : s.registry.find? name = some cache) :
      Move s (s.invalidateAllIn cache)
  | tend (s : System) (name : String) : Move s (s.tend name)

/-- Moves lead from the first system to the second. -/
abbrev Moves : System → System → Prop := ReflTransGen Move

/-- What a poll does to the system: moves, which let the loads alone that were being advanced before. -/
structure Polled (s t : System) : Prop where
  moves : Moves s t
  busy : ∀ {id : Nat} {load : Load}, s.load? id = some load → load.state = .busy → t.load? id = some load

namespace Polled

theorem refl (s : System) : Polled s s := ⟨.refl, fun h _ => h⟩

theorem trans {s t u : System} (hst : Polled s t) (htu : Polled t u) : Polled s u :=
  ⟨hst.moves.trans htu.moves, fun h hbusy => htu.busy (hst.busy h hbusy) hbusy⟩

/-- A move that keeps all loads. -/
theorem of_loads {s t : System} (move : Move s t) (h : t.loads = s.loads) : Polled s t :=
  ⟨.single move, fun hload _ => by rwa [load?, h]⟩

end Polled

theorem loads_invalidateIn (s : System) (cache : Cache) (key : Key) : (s.invalidateIn cache key).loads = s.loads := by
  cases cache <;> rfl

theorem loads_invalidateAllIn (s : System) (cache : Cache) : (s.invalidateAllIn cache).loads = s.loads := by
  cases cache <;> rfl

/-- A lookup keeps all loads and may add one. -/
theorem load?_lookUp {s : System} {store : LocalStore} {call : Call} {loader : Loader τ} {id : Nat} {load : Load}
    (h : s.load? id = some load) : (s.lookUp store call loader).1.load? id = some load := by
  have hlt : id < s.loads.length := (List.getElem?_eq_some_iff.1 h).1
  unfold lookUp
  split
  · exact h
  · split
    · exact h
    · show (s.loads ++ [_])[id]? = some load
      rw [List.getElem?_append_left hlt]
      exact h

theorem polled_lookUp {s : System} {name : String} {store : LocalStore}
    (h : s.registry.find? name = some (.local store)) (label : String) (key : Key) (loader : Loader τ) :
    Polled s (s.lookUp store ⟨label, store.name, key⟩ loader).1 :=
  ⟨.single (.lookUp h label key loader), fun hload _ => load?_lookUp hload⟩

theorem polled_note (s : System) {event : Event} (aside : event.isAside) : Polled s (s.emit event) :=
  .of_loads (.note aside) rfl

theorem find?_of_require {s : System} {name : String} {cache : Cache} (h : s.registry.require name = .ok cache) :
    s.registry.find? name = some cache := by
  unfold Registry.require at h
  split at h
  next hfind =>
    cases h
    exact hfind
  next => cases h

theorem polled_invalidate {s t : System} {name : String} {key : Key} (h : s.invalidate name key = .ok t) :
    Polled s t := by
  obtain ⟨cache, hcache, rfl⟩ := exists_of_map_eq_ok h
  exact .of_loads (.invalidate (find?_of_require hcache) key) (loads_invalidateIn s cache key)

theorem polled_invalidateAll {s t : System} {name : String} (h : s.invalidateAll name = .ok t) : Polled s t := by
  obtain ⟨cache, hcache, rfl⟩ := exists_of_map_eq_ok h
  exact .of_loads (.invalidateAll (find?_of_require hcache)) (loads_invalidateAllIn s cache)

theorem now_lookUp (s : System) (store : LocalStore) (call : Call) (loader : Loader τ) :
    (s.lookUp store call loader).1.now = s.now := by
  unfold System.lookUp
  split
  · rfl
  · split
    · rfl
    · rfl

theorem now_land (s : System) (id : Nat) (cache : String) (key : Key) (number : Nat) (outcome : LoadResult) :
    (s.land id cache key number outcome).now = s.now := by
  unfold System.land
  dsimp only
  split
  · rfl
  · rfl

/-- Time never goes back. -/
theorem now_move {s t : System} (move : Move s t) : s.now ≤ t.now := by
  cases move with
  | elapse s ms => exact Nat.le_add_right s.now ms
  | lookUp hfind label key loader => exact Nat.le_of_eq (now_lookUp ..).symm
  | land hload outcome => exact Nat.le_of_eq (now_land ..).symm
  | @invalidate _ _ cache hfind key => cases cache <;> exact Nat.le_refl _
  | @invalidateAll _ _ cache hfind => cases cache <;> exact Nat.le_refl _
  | _ => exact Nat.le_refl _

theorem now_moves {s t : System} (moves : Moves s t) : s.now ≤ t.now := by
  induction moves with
  | refl => exact Nat.le_refl _
  | tail _ last ih => exact Nat.le_trans ih (now_move last)

/-- The cache that a request reaches is the one that is registered under its name. -/
theorem find?_of_reach {s : System} {request : Request} {cache : Cache} (h : s.reach request = .ok cache) :
    s.registry.find? request.cache = some cache := by
  obtain ⟨found, hfound, hrest⟩ := exists_of_bind_eq_ok h
  have heq : found = cache := by
    cases hneeds : request.entryPoint.needsStore with
    | false =>
      simp only [hneeds] at hrest
      cases hrest
      rfl
    | true =>
      simp only [hneeds] at hrest
      obtain ⟨-, -, hpure⟩ := exists_of_bind_eq_ok hrest
      cases hpure
      rfl
  exact heq ▸ find?_of_require hfound

end System

/-- After a poll that had the depth to call it, a loader has been called. -/
theorem Run.called_of_poll {depth : Nat} {s : System} {load : Option Nat} {run rest : Run τ}
    (called : run.called ∨ 0 < depth) (h : (Run.poll depth s load run).2 = .pending rest) : rest.called := by
  induction depth generalizing s run with
  | zero =>
    cases h
    exact called.resolve_right (Nat.lt_irrefl 0)
  | succ depth ih =>
    cases run with
    | calling call loader =>
      cases depth with
      | zero =>
        cases h
        rfl
      | succ depth =>
        have hrunning : (Run.poll (depth + 1) (s.emit (.called call load)) load (.running loader)).2 =
            .pending rest := h
        exact ih (.inl rfl) hrunning
    | sleeping due loader =>
      simp only [Run.poll] at h
      split at h
      · exact ih (.inl rfl) h
      · cases h
        rfl
    | nested get =>
      simp only [Run.poll] at h
      split at h
      · cases h
        rfl
      · cases h
    | running loader =>
      cases loader with
      | done value => cases h
      | fail failure => cases h
      | panic payload => cases h
      | sleep ms next => exact ih (.inl rfl) h
      | invalidate cache key next =>
        simp only [Run.poll] at h
        split at h
        · exact ih (.inl rfl) h
        · cases h
      | invalidateAll cache next =>
        simp only [Run.poll] at h
        split at h
        · exact ih (.inl rfl) h
        · cases h
      | get request inner => exact ih (.inl rfl) h

namespace System

/-- Polls of that depth are sequences of moves. The loader of a load is called by a move of its own kind, so `run`
leaves this one step to `call`. -/
private structure PolledAt (depth : Nat) : Prop where
  get {τ : ValueType} (s : System) (get : Get τ) : Polled s (Get.poll depth s get).1
  run {τ : ValueType} (s : System) (load : Option Nat) (run : Run τ) (h : run.called ∨ load = none) :
    Polled s (Run.poll depth s load run).1
  call {τ : ValueType} (s : System) (id : Nat) (call : Call) (loader : Loader τ) (h : 0 < depth) :
    Polled (s.emit (.called call (some id))) (Run.poll depth s (some id) (.calling call loader)).1
  advance (s : System) (id : Nat) : Polled s (advance depth s id)

private theorem polled_get_succ {depth : Nat} (below : PolledAt depth) (s : System) (get : Get τ) :
    Polled s (Get.poll (depth + 1) s get).1 := by
  cases get with
  | asking request loader =>
    simp only [Get.poll]
    split
    · exact .refl s
    next key hkey =>
      split
      · exact .refl s
      · exact (polled_note s rfl).trans (below.get _ _)
      next store hreach =>
        have hlook := polled_lookUp (find?_of_reach hreach) request.label key loader
        split
        next t value heq =>
          rw [heq] at hlook
          exact hlook
        next t id heq =>
          rw [heq] at hlook
          exact hlook.trans (below.get _ _)
        next t id heq =>
          rw [heq] at hlook
          exact hlook.trans (below.get _ _)
  | awaiting cache key id patience =>
    have hadvance := below.advance s id
    simp only [Get.poll]
    split
    · exact hadvance
    · split
      · exact hadvance
      · split
        · exact (hadvance.trans (polled_note _ rfl)).trans (below.get _ _)
        · exact hadvance
  | loading cache run =>
    have hrun := below.run s none run (.inr rfl)
    simp only [Get.poll]
    split
    next t rest heq =>
      rw [heq] at hrun
      exact hrun
    next t outcome heq =>
      rw [heq] at hrun
      exact hrun

private theorem polled_run_succ {depth : Nat} (below : PolledAt depth) (s : System) (load : Option Nat) (run : Run τ)
    (h : run.called ∨ load = none) : Polled s (Run.poll (depth + 1) s load run).1 := by
  cases run with
  | calling call loader =>
    rcases h with hcalled | rfl
    · cases hcalled
    · exact (polled_note s rfl).trans (below.run _ none (.running loader) (.inr rfl))
  | sleeping due loader =>
    simp only [Run.poll]
    split
    · exact below.run s load (.running loader) (.inl rfl)
    · exact .refl s
  | nested get =>
    have hget := below.get s get
    simp only [Run.poll]
    split
    next t rest heq =>
      rw [heq] at hget
      exact hget
    next t outcome heq =>
      rw [heq] at hget
      exact hget
  | running loader =>
    cases loader with
    | done value => exact .refl s
    | fail failure => exact .refl s
    | panic payload => exact .refl s
    | sleep ms next => exact below.run s load (.sleeping (s.now + ms) next) (.inl rfl)
    | invalidate cache key next =>
      simp only [Run.poll]
      split
      next t heq => exact (polled_invalidate heq).trans (below.run t load (.running next) (.inl rfl))
      next => exact .refl s
    | invalidateAll cache next =>
      simp only [Run.poll]
      split
      next t heq => exact (polled_invalidateAll heq).trans (below.run t load (.running next) (.inl rfl))
      next => exact .refl s
    | get request inner => exact below.run s load (.nested (.asking request inner)) (.inl rfl)

theorem load?_setLoad_self {s : System} {id : Nat} {load : Load} (h : s.load? id = some load) (state : LoadState) :
    (s.setLoad id state).load? id = some { load with state } := by
  rw [load?_setLoad, if_pos rfl, h, Option.map_some]

theorem load?_setLoad_of_ne (s : System) {id other : Nat} (h : other ≠ id) (state : LoadState) :
    (s.setLoad id state).load? other = s.load? other := by
  rw [load?_setLoad, if_neg h]

theorem load?_land_of_ne (s : System) {id other : Nat} (h : other ≠ id) (cache : String) (key : Key) (number : Nat)
    (outcome : LoadResult) : (s.land id cache key number outcome).load? other = s.load? other := by
  unfold land
  rw [load?_emit, load?_setLoad_of_ne _ h]
  split <;> rfl

theorem load?_land_self {s : System} {id number : Nat} {cache : String} {key : Key} {state : LoadState}
    (hload : s.load? id = some ⟨cache, key, number, state⟩) (outcome : LoadResult) :
    (s.land id cache key number outcome).load? id = some ⟨cache, key, number, .ended outcome⟩ := by
  cases hin : s.inFlight cache key number with
  | true =>
    rw [land_of_kept hin]
    exact load?_setLoad_self (s := s.mapStore _ _) hload _
  | false =>
    rw [land_of_detached hin]
    exact load?_setLoad_self hload _

/-- The loader of a load is polled in a state that is one move away and in which the load is busy. -/
private theorem entered {depth id number : Nat} (below : PolledAt depth) {s : System} {cache : String} {key : Key}
    {τ : ValueType} {run : Run τ} (hload : s.load? id = some ⟨cache, key, number, .idle τ run⟩)
    (h : run.called ∨ 0 < depth) : ∃ t, Move s t ∧ t.loads = (s.setLoad id .busy).loads ∧
      Polled t (Run.poll depth (s.setLoad id .busy) (some id) run).1 := by
  cases hcalled : run.called with
  | true => exact ⟨_, .resume hload hcalled, rfl, below.run _ _ run (.inl hcalled)⟩
  | false =>
    rw [hcalled] at h
    cases run with
    | calling call loader =>
      exact ⟨_, .call hload, rfl, below.call _ id call loader (h.resolve_left Bool.false_ne_true)⟩
    | sleeping due loader => cases hcalled
    | running loader => cases hcalled
    | nested get => cases hcalled

/-- The load stays busy until the poll of its loader is over. -/
private theorem busy_of_entered {s t u : System} {id number : Nat} {cache : String} {key : Key} {state : LoadState}
    (hload : s.load? id = some ⟨cache, key, number, state⟩) (hloads : t.loads = (s.setLoad id .busy).loads)
    (hpolled : Polled t u) : u.load? id = some ⟨cache, key, number, .busy⟩ := by
  refine hpolled.busy ?_ rfl
  rw [load?, hloads]
  exact load?_setLoad_self hload .busy

/-- A load is opened, its loader polled, and then the load is put back or ended. -/
private theorem polled_advance_idle {depth id number : Nat} (below : PolledAt depth) {s : System} {cache : String}
    {key : Key} {τ : ValueType} {run : Run τ} (hload : s.load? id = some ⟨cache, key, number, .idle τ run⟩)
    (h : run.called ∨ 0 < depth) : Polled s (advance (depth + 1) s id) := by
  obtain ⟨opened, hmove, hloads, hpolled⟩ := entered below hload h
  have hbusy := busy_of_entered hload hloads hpolled
  have hrest : ∀ rest, (Run.poll depth (s.setLoad id .busy) (some id) run).2 = .pending rest → rest.called :=
    fun rest hrest => Run.called_of_poll h hrest
  have hopen : ∀ other ≠ id, opened.load? other = s.load? other := fun other hne => by
    rw [load?, hloads]
    exact load?_setLoad_of_ne s hne .busy
  -- whatever closes the load again leaves the others alone
  have hclose : ∀ {t u : System}, Polled opened t → Move t u → (∀ other ≠ id, u.load? other = t.load? other) →
      Polled s u := by
    intro t u hpoll hlast hothers
    refine ⟨(hpoll.moves.head hmove).tail hlast, fun {other load} hother hstate => ?_⟩
    -- a load that was busy before is not the one that was opened
    have hne : other ≠ id := by
      rintro rfl
      rw [hload] at hother
      cases hother
      cases hstate
    rw [hothers other hne]
    exact hpoll.busy (by rwa [hopen other hne]) hstate
  simp only [advance, hload]
  split
  next t rest heq =>
    rw [heq] at hpolled hrest hbusy
    exact hclose hpolled (.pause hbusy (hrest rest rfl)) fun other hne => load?_setLoad_of_ne t hne _
  next t outcome heq =>
    rw [heq] at hpolled hbusy
    exact hclose hpolled (.land hbusy _) fun other hne => load?_land_of_ne t hne ..

/-- A load that is opened and put back at once is as it was. -/
theorem setLoad_setLoad_self {s : System} {id : Nat} {load : Load} (hload : s.load? id = some load)
    (state : LoadState) : (s.setLoad id state).setLoad id load.state = s := by
  have hloads : (s.loads.modify id fun load => { load with state }).modify id
      (fun other => { other with state := load.state }) = s.loads := by
    rw [List.modify_modify_eq]
    apply List.ext_getElem?
    intro i
    rw [List.getElem?_modify]
    by_cases hi : id = i
    · subst hi
      rw [show s.loads[id]? = _ from hload]
      simp
    · simp [hi]
  exact congrArg (fun loads => { s with loads }) hloads

private theorem polled_advance_succ {depth : Nat} (below : PolledAt depth) (s : System) (id : Nat) :
    Polled s (advance (depth + 1) s id) := by
  cases hload : s.load? id with
  | none =>
    simp only [advance, hload]
    exact .refl s
  | some load =>
    obtain ⟨cache, key, number, state⟩ := load
    cases state with
    | busy =>
      simp only [advance, hload]
      exact .refl s
    | ended outcome =>
      simp only [advance, hload]
      exact .refl s
    | idle τ run =>
      cases depth with
      | succ depth => exact polled_advance_idle below hload (.inr (Nat.succ_pos depth))
      | zero =>
        -- no depth is left for the loader: the load is put back as it was
        simp only [advance, hload, Run.poll, setLoad_setLoad_self hload]
        exact .refl s

private theorem polledAt (depth : Nat) : PolledAt depth := by
  -- gets, loaders and loads poll each other, so one induction on the depth carries all four facts
  induction depth with
  | zero =>
    exact ⟨fun s _ => .refl s, fun s _ _ _ => .refl s, fun _ _ _ _ h => absurd h (Nat.lt_irrefl 0), fun s _ => .refl s⟩
  | succ depth below =>
    exact ⟨polled_get_succ below, polled_run_succ below,
      fun s id call loader _ => below.run _ (some id) (.running loader) (.inl rfl), polled_advance_succ below⟩

/-- A poll of a get is a sequence of moves. -/
theorem polled_get (depth : Nat) (s : System) (get : Get τ) : Polled s (Get.poll depth s get).1 :=
  (polledAt depth).get s get

theorem moves_of_poll {depth : Nat} {s t : System} {get : Get τ}
    {progress : Progress (Get τ) CacheFault (Option (Typed τ))} (h : Get.poll depth s get = (t, progress)) :
    Moves s t := by
  have hpolled := polled_get depth s get
  rw [h] at hpolled
  exact hpolled.moves

/-- A poll of a loader that has been called, or that a get calls by itself, is a sequence of moves. -/
theorem polled_run_of_called (depth : Nat) (s : System) (load : Option Nat) {run : Run τ}
    (h : run.called ∨ load = none) : Polled s (Run.poll depth s load run).1 := (polledAt depth).run s load run h

theorem polled_advance (depth : Nat) (s : System) (id : Nat) : Polled s (advance depth s id) :=
  (polledAt depth).advance s id

/-- While the loader of a load is polled the load stays busy, and moves lead to the state after the poll. -/
theorem busy_of_poll {depth id number : Nat} {s t : System} {cache : String} {key : Key} {τ : ValueType} {run : Run τ}
    {progress : Progress (Run τ) Failure (Option (Typed τ))}
    (hload : s.load? id = some ⟨cache, key, number, .idle τ run⟩) (hcalled : run.called ∨ 0 < depth)
    (h : Run.poll depth (s.setLoad id .busy) (some id) run = (t, progress)) :
    Moves s t ∧ t.load? id = some ⟨cache, key, number, .busy⟩ := by
  obtain ⟨opened, hmove, hloads, hpolled⟩ := entered (polledAt depth) hload hcalled
  rw [h] at hpolled
  exact ⟨hpolled.moves.head hmove, busy_of_entered hload hloads hpolled⟩

/-- When the loader of a load has ended, the load is still busy, in a state that moves lead to. -/
theorem busy_of_ended {depth id number : Nat} {s t : System} {cache : String} {key : Key} {τ : ValueType} {run : Run τ}
    {outcome : Outcome Failure (Option (Typed τ))} (hload : s.load? id = some ⟨cache, key, number, .idle τ run⟩)
    (h : Run.poll depth (s.setLoad id .busy) (some id) run = (t, .ended outcome)) :
    Moves s t ∧ t.load? id = some ⟨cache, key, number, .busy⟩ := by
  have hdepth : 0 < depth := by
    cases depth with
    | zero => cases h
    | succ depth => exact Nat.succ_pos depth
  exact busy_of_poll hload (.inr hdepth) h

/-- A load that is opened stays busy while its loader is polled, whatever the depth. -/
theorem busy_of_opened {depth id number : Nat} {s t : System} {cache : String} {key : Key} {τ : ValueType} {run : Run τ}
    {progress : Progress (Run τ) Failure (Option (Typed τ))}
    (hload : s.load? id = some ⟨cache, key, number, .idle τ run⟩)
    (h : Run.poll depth (s.setLoad id .busy) (some id) run = (t, progress)) :
    t.load? id = some ⟨cache, key, number, .busy⟩ := by
  cases depth with
  | zero =>
    cases h
    exact load?_setLoad_self hload .busy
  | succ depth => exact (busy_of_poll hload (.inr (Nat.succ_pos depth)) h).2

end System

end SingleFlight
