import SingleFlight.Proofs.Ways

/-!
# Where answers come from

A get that asks for a key is answered from what its lookup finds, a stored value or the load that it joins or starts, or
else from its own loader, which it calls itself.

* `Get.Answered` says so of the whole way of a get, with the load that the answer comes from, if it comes from one;
* a get remembers on its way what its lookup has found and which loader it has called (`Get.Placed`), so every poll
  takes it further or answers it so (`Get.settled_poll`, `Get.answered_of_way`).
-/

namespace SingleFlight

namespace History

/-- Since the events `base`, and right after the events `before`, a lookup of the key has come to that. -/
structure Looks (base : History) (cache : String) (key : Key) (found : Found) (before history : History) : Prop where
  since : ∃ recent, before = recent ++ base
  recorded : ∃ later e, history = later ++ e :: before ∧ e.event = .lookedUp cache key found

/-- Since the events `base` a lookup of the key has joined the load, which was in flight then, or has started it. -/
def Awaits (base : History) (cache : String) (key : Key) (load : Nat) (history : History) : Prop :=
  ∃ before, (Looks base cache key (.joined load) before history ∧ before.flight cache key = some load) ∨
    Looks base cache key (.started load) before history

theorem Looks.append {base before history : History} {cache : String} {key : Key} {found : Found}
    (h : Looks base cache key found before history) (new : History) :
    Looks base cache key found before (new ++ history) := by
  obtain ⟨hsince, later, e, rfl, hevent⟩ := h
  exact ⟨hsince, new ++ later, e, (List.append_assoc ..).symm, hevent⟩

theorem Awaits.append {base history : History} {cache : String} {key : Key} {load : Nat}
    (h : Awaits base cache key load history) (new : History) : Awaits base cache key load (new ++ history) := by
  obtain ⟨before, ⟨hlooks, hflight⟩ | hlooks⟩ := h
  · exact ⟨before, .inl ⟨hlooks.append new, hflight⟩⟩
  · exact ⟨before, .inr (hlooks.append new)⟩

end History

open History (Looks Awaits)

namespace Get

/-- How the get comes by the answer that it is given in the state `u`, when it had not looked its key up yet in the
state `s`, and the load that the answer comes from, if it comes from one. Loaders are polled in states that are `ok`. -/
inductive Answered (ok : System → Prop) {τ : ValueType} (request : Request) (loader : Loader τ) (key : Key)
    (s u : System) : Option Nat → Outcome CacheFault (Option (Typed τ)) → Prop where
  /-- There is no such cache, or not of that kind. -/
  | refused {fault : CacheFault} (h : u.reach request = .error fault) :
      Answered ok request loader key s u none (.failed fault)
  /-- The get has called its own loader itself, and is told how that loader has ended. -/
  | own {outcome : Outcome Failure (Option (Typed τ))}
      (ended : loader.Ends ok none ⟨request.label, request.cache, key⟩ s u outcome) :
      Answered ok request loader key s u none (outcome.mapError (.computation request.cache))
  /-- The get has found a value that the load had stored last. -/
  | stored {load : Nat} {value : Stored Value} {before : History}
      (looked : Looks s.history request.cache key (.stored value) before u.history)
      (held : before.stored request.cache key = some (load, value)) :
      Answered ok request loader key s u (some load) (System.typed τ request.cache value)
  /-- The get has waited for the load that it joined or started, and is told how that load has ended. -/
  | shared {load number : Nat} {outcome : LoadResult} (looked : Awaits s.history request.cache key load u.history)
      (ended : u.load? load = some ⟨request.cache, key, number, .ended outcome⟩) :
      Answered ok request loader key s u (some load) (System.typedResult τ request.cache outcome)

/-- How far a get has come in the state `t` that will be answered so. -/
def Placed (ok : System → Prop) {τ : ValueType} (request : Request) (loader : Loader τ) (key : Key) (s t : System) :
    Get τ → Prop
  | .asking own ownLoader => own = request ∧ ownLoader = loader
  | .awaiting cache own load patience =>
    (cache = request.cache ∧ own = key) ∧
      (∀ p, patience = some p → p.call = ⟨request.label, request.cache, key⟩ ∧ p.loader = loader) ∧
      Awaits s.history request.cache key load t.history ∧
      ∃ number state, t.load? load = some ⟨request.cache, key, number, state⟩
  | .loading cache run =>
    cache = request.cache ∧ Run.Follows ok none ⟨request.label, request.cache, key⟩ loader s t run

/-- A get after a poll: further on its way, or answered. -/
def Settled (ok : System → Prop) {τ : ValueType} (request : Request) (loader : Loader τ) (key : Key) (s u : System) :
    Progress (Get τ) CacheFault (Option (Typed τ)) → Prop
  | .pending rest => Placed ok request loader key s u rest
  | .ended answer => ∃ source, Answered ok request loader key s u source answer

section
variable {ok : System → Prop} {τ : ValueType} {request : Request} {loader : Loader τ} {key : Key} {s t u : System}

theorem Placed.moves {get : Get τ} (h : Placed ok request loader key s t get) (moves : System.Moves t u) :
    Placed ok request loader key s u get := by
  cases get with
  | asking own ownLoader => exact h
  | awaiting cache own load patience =>
    obtain ⟨hkey, hcall, hawaits, number, state, hload⟩ := h
    obtain ⟨new, hnew⟩ := System.history_moves moves
    obtain ⟨later, hlater⟩ := System.load?_moves moves hload
    rw [Placed, hnew]
    exact ⟨hkey, hcall, hawaits.append new, number, later, hlater⟩
  | loading cache run => exact ⟨h.1, h.2.moves moves⟩

/-- What a lookup finds is what the get waits for, or is its answer. -/
theorem settled_lookUp (ok : System → Prop) (key : Key) (loader : Loader τ) (sound : t.Sound)
    (moves : System.Moves s t) {store : LocalStore} (hfind : t.registry.find? request.cache = some (.local store)) :
    let looked := t.lookUp store ⟨request.label, store.name, key⟩ loader
    match looked.2 with
    | .stored value => ∃ source, Answered ok request loader key s looked.1 source (System.typed τ store.name value)
    | .joined id | .started id => ∀ patience : Option (Patience τ),
        (∀ p, patience = some p → p.call = ⟨request.label, request.cache, key⟩ ∧ p.loader = loader) →
        Placed ok request loader key s looked.1 (.awaiting store.name key id patience) := by
  intro looked
  have hname : store.name = request.cache := sound.named.name_of_find? hfind
  have hsound : looked.1.Sound := sound.move (.lookUp hfind request.label key loader)
  have hhistory : looked.1.history = ⟨t.now, .lookedUp request.cache key looked.2⟩ :: t.history := by
    rw [← hname]
    exact System.history_lookUp ..
  -- the lookup is the last event of a lawful history, so it has found what the events before it tell
  have hlawful := hsound.told.lawful
  rw [hhistory] at hlawful
  obtain ⟨-, hevent⟩ := History.lawful_cons.1 hlawful
  have hlooks : Looks s.history request.cache key looked.2 t.history looked.1.history :=
    ⟨System.history_moves moves, [], _, hhistory, rfl⟩
  have hlook : t.lookUp store ⟨request.label, store.name, key⟩ loader = (looked.1, looked.2) := rfl
  rw [hname]
  generalize looked.2 = found at hevent hlooks hlook
  cases found with
  | stored value =>
    obtain ⟨-, load, hstored⟩ := hevent
    exact ⟨some load, .stored hlooks hstored⟩
  | joined id =>
    obtain ⟨hloads, load, hload, hcache, hkey, -⟩ := System.load?_of_joined sound hfind hlook
    rw [System.load?, ← hloads] at hload
    obtain ⟨cache, own, number, state⟩ := load
    obtain rfl : cache = request.cache := hcache.trans hname
    obtain rfl : own = key := hkey
    exact fun patience hcall => ⟨⟨rfl, rfl⟩, hcall, ⟨_, .inl ⟨hlooks, hevent⟩⟩, number, state, hload⟩
  | started id =>
    obtain ⟨-, hload⟩ := System.load?_of_started hlook
    rw [hname] at hload
    exact fun patience hcall => ⟨⟨rfl, rfl⟩, hcall, ⟨_, .inr hlooks⟩, _, _, hload⟩

/-- A get that runs its own loader goes on with it, or is told how it has ended. -/
theorem settled_loading (stable : System.Stable ok) (hok : ok t) (depth : Nat) {cache : String} {run : Run τ}
    (placed : Placed ok request loader key s t (.loading cache run)) :
    Settled ok request loader key s (Get.poll depth t (.loading cache run)).1
      (Get.poll depth t (.loading cache run)).2 := by
  cases depth with
  | zero => exact placed
  | succ depth =>
    obtain ⟨hcache, hrun⟩ := placed
    simp only [Get.poll]
    split
    next t' rest heq => exact ⟨hcache, Run.followsOn_of_poll stable hrun hok heq⟩
    next t' outcome heq =>
      have hends : loader.Ends ok none _ s t' outcome := Run.followsOn_of_poll stable hrun hok heq
      rw [hcache]
      exact ⟨none, .own hends⟩

/-- A get that waits for a load has the outcome of this one load, or gives up for its own loader. -/
theorem settled_awaiting (stable : System.Stable ok) (hok : ok t) (moves : System.Moves s t) (depth : Nat)
    {cache : String} {own : Key} {id : Nat} {patience : Option (Patience τ)}
    (placed : Placed ok request loader key s t (.awaiting cache own id patience)) :
    Settled ok request loader key s (Get.poll depth t (.awaiting cache own id patience)).1
      (Get.poll depth t (.awaiting cache own id patience)).2 := by
  cases depth with
  | zero => exact placed
  | succ depth =>
    have hadvance := (System.polled_advance depth t id).moves
    obtain ⟨⟨hcache, hown⟩, hcall, hawaits, number, state, hload⟩ := placed.moves hadvance
    -- the load is advanced first: it has ended, or the patience has run out, or the get goes on waiting
    simp only [Get.poll]
    split
    next outcome houtcome =>
      obtain ⟨load, hsame, hended⟩ := System.outcome?_eq_some.1 houtcome
      rw [hload] at hsame
      cases hsame
      obtain rfl : state = .ended outcome := hended
      rw [hcache]
      exact ⟨some id, .shared hawaits hload⟩
    next =>
      split
      · exact ⟨⟨hcache, hown⟩, hcall, hawaits, number, state, hload⟩
      next p =>
        split
        · have hmoves : System.Moves s ((System.advance depth t id).emit (.lockTimedOut cache own id p.lockTimeout)) :=
            (moves.trans hadvance).tail (.note rfl)
          refine settled_loading stable (stable.note (stable.advance hok depth id) rfl) depth
            ⟨hcache, .inl ⟨hmoves, ?_⟩⟩
          rw [(hcall p rfl).1, (hcall p rfl).2]
        · exact ⟨⟨hcache, hown⟩, hcall, hawaits, number, state, hload⟩

/-- A get that asks is refused, passed through or answered by what it finds. -/
theorem settled_asking (stable : System.Stable ok) (hok : ok t) (hkey : request.key = .ok key) (sound : t.Sound)
    (moves : System.Moves s t) (depth : Nat) :
    Settled ok request loader key s (Get.poll depth t (.asking request loader)).1
      (Get.poll depth t (.asking request loader)).2 := by
  cases depth with
  | zero => exact ⟨rfl, rfl⟩
  | succ depth =>
    simp only [Get.poll, hkey]
    split
    next fault hreach => exact ⟨none, .refused hreach⟩
    next name hreach =>
      have hname : name = request.cache := sound.named _ _ (System.find?_of_reach hreach)
      have hmoves : System.Moves s (t.emit (.passedThrough name key)) := moves.tail (.note rfl)
      exact settled_loading stable (stable.note hok rfl) depth ⟨hname, .inl ⟨hmoves, by rw [hname]⟩⟩
    next store hreach =>
      have hfind := System.find?_of_reach hreach
      have hlooked := settled_lookUp ok key loader sound moves hfind
      have hmoves := moves.trans (System.polled_lookUp hfind request.label key loader).moves
      have hafter := stable.lookUp hok hfind request.label key loader
      split
      next t' value heq =>
        rw [heq] at hlooked
        exact hlooked
      next t' id heq =>
        rw [heq] at hlooked hmoves hafter
        exact settled_awaiting stable hafter hmoves depth (hlooked none fun _ hp => by cases hp)
      next t' id heq =>
        rw [heq] at hlooked hmoves hafter
        refine settled_awaiting stable hafter hmoves depth (hlooked _ fun p hp => ?_)
        split at hp
        · cases hp
        · cases hp
          exact ⟨by rw [sound.named.name_of_find? hfind], rfl⟩

/-- A poll takes a get further on its way, or answers it. No induction on the depth is needed: a get that asks comes to
wait or to load, and one that waits comes to load. -/
theorem settled_poll (stable : System.Stable ok) (hok : ok t) (hkey : request.key = .ok key) (depth : Nat)
    (sound : t.Sound) (moves : System.Moves s t) {get : Get τ} (placed : Placed ok request loader key s t get) :
    Settled ok request loader key s (Get.poll depth t get).1 (Get.poll depth t get).2 := by
  cases get with
  | asking own ownLoader =>
    obtain ⟨rfl, rfl⟩ : own = request ∧ ownLoader = loader := placed
    exact settled_asking stable hok hkey sound moves depth
  | awaiting cache own id patience => exact settled_awaiting stable hok moves depth placed
  | loading cache run => exact settled_loading stable hok depth placed

/-- A get stays on its way as long as it is not answered. -/
theorem placed_of_way (stable : System.Stable ok) (hkey : request.key = .ok key) (sound : s.Sound) {get : Get τ}
    (way : System.Way ok Get.poll s (.asking request loader) t get) : Placed ok request loader key s t get := by
  induction way with
  | refl => exact ⟨rfl, rfl⟩
  | moves _ later ih => exact ih.moves later
  | @poll t u rest next depth way hok hpoll ih =>
    -- polls of the get itself are the only steps that take it further
    have moves := moves_of_way way
    have hsettled := settled_poll stable hok hkey depth (sound.moves moves) moves ih
    rw [hpoll] at hsettled
    exact hsettled

/-- On every way of it a get is answered from its lookup or from its own loader. -/
theorem answered_of_way (stable : System.Stable ok) (hkey : request.key = .ok key) (sound : s.Sound) {get : Get τ}
    (way : System.Way ok Get.poll s (.asking request loader) t get) (hok : ok t) {depth : Nat}
    {answer : Outcome CacheFault (Option (Typed τ))} (hend : Get.poll depth t get = (u, .ended answer)) :
    ∃ source, Answered ok request loader key s u source answer := by
  have moves := moves_of_way way
  have hsettled := settled_poll stable hok hkey depth (sound.moves moves) moves (placed_of_way stable hkey sound way)
  rw [hend] at hsettled
  exact hsettled

end

end Get

end SingleFlight
