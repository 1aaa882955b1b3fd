import SingleFlight.Proofs.Consistency
import SingleFlight.Proofs.History

/-!
# What the history tells

The history of a system that moves lead to from the start is lawful, and it tells the state: how many loads there are
and how far each has come, which load is in flight for each key, and where a stored value comes from. So whatever holds
of lawful histories holds of every run.
-/

namespace SingleFlight

theorem Event.isQuiet_of_isAside {event : Event} (aside : event.isAside) : event.isQuiet := by
  cases event with
  | lookedUp c k found => cases aside
  | landed id c k outcome kept => cases aside
  | invalidated c k => cases aside
  | allInvalidated c => cases aside
  | _ => rfl

/-- What a caller does is always lawful and about no load. -/
theorem Event.tame_of_isAside {event : Event} (aside : event.isAside) :
    (∀ past, event.Lawful past) ∧ event.isStart = false ∧ (∀ id, event.lands id = false) ∧
      ∀ id, event.callsFor id = false := by
  cases event with
  | lookedUp c k found => cases aside
  | landed id c k outcome kept => cases aside
  | invalidated c k => cases aside
  | allInvalidated c => cases aside
  | called call caller =>
    cases caller with
    | none => exact ⟨fun _ => trivial, rfl, fun _ => rfl, fun _ => rfl⟩
    | some id => cases aside
  | lockTimedOut c k id timeout => exact ⟨fun _ => trivial, rfl, fun _ => rfl, fun _ => rfl⟩
  | passedThrough c k => exact ⟨fun _ => trivial, rfl, fun _ => rfl, fun _ => rfl⟩
  | answered task answer => exact ⟨fun _ => trivial, rfl, fun _ => rfl, fun _ => rfl⟩

/-- The loader of the load has been called. -/
def LoadState.called : LoadState → Bool
  | .idle _ run => run.called
  | _ => true

namespace System

/-! ### Loads -/

/-- The history tells of every load that it was started, whether it has ended, and whether its loader was called. -/
structure LoadsTold (s : System) : Prop where
  starts : History.starts s.history = s.loads.length
  started : ∀ id load, s.load? id = some load → ∃ e ∈ s.history, e.event.Starts load.cache load.key id
  landed : ∀ id load, s.load? id = some load → (load.ended = true ↔ ∃ e ∈ s.history, e.event.lands id = true)
  uncalled : ∀ id load τ (call : Call) (loader : Loader τ), s.load? id = some load →
    load.state = .idle τ (.calling call loader) →
    (call.cache = load.cache ∧ call.key = load.key) ∧ ∀ e ∈ s.history, ¬ e.event.callsFor id = true
  called : ∀ id load, s.load? id = some load → load.state.called = true →
    ∃ e ∈ s.history, e.event.callsFor id = true

namespace LoadsTold

theorem mapStore {s : System} (h : s.LoadsTold) (name : String) (f : LocalStore → LocalStore) :
    (s.mapStore name f).LoadsTold := ⟨h.starts, h.started, h.landed, h.uncalled, h.called⟩

theorem elapse {s : System} (h : s.LoadsTold) (ms : Nat) : (s.elapse ms).LoadsTold :=
  ⟨h.starts, h.started, h.landed, h.uncalled, h.called⟩

/-- Events that are about no load. -/
theorem emit {s : System} (h : s.LoadsTold) {event : Event} (hstart : event.isStart = false)
    (hlands : ∀ id, event.lands id = false) (hcalls : ∀ id, event.callsFor id = false) : (s.emit event).LoadsTold where
  starts := by
    rw [history_emit, History.starts_cons, h.starts, hstart]
    rfl
  started id load hload := by
    obtain ⟨e, he, hstarts⟩ := h.started id load hload
    exact ⟨e, List.mem_cons_of_mem _ he, hstarts⟩
  landed id load hload := by
    rw [h.landed id load hload]
    simp [hlands]
  uncalled id load τ call loader hload hstate := by
    obtain ⟨hcall, hnone⟩ := h.uncalled id load τ call loader hload hstate
    refine ⟨hcall, fun e he => ?_⟩
    rcases List.mem_cons.1 he with rfl | he
    · simp [hcalls]
    · exact hnone e he
  called id load hload hcalled := by
    obtain ⟨e, he, hcall⟩ := h.called id load hload hcalled
    exact ⟨e, List.mem_cons_of_mem _ he, hcall⟩

theorem load?_of_setLoad {s : System} {id other : Nat} {state : LoadState} {load : Load}
    (h : (s.setLoad id state).load? other = some load) (hother : other ≠ id) : s.load? other = some load := by
  rwa [load?_setLoad_of_ne s hother] at h

/-- A load that has called its loader is opened or put back. -/
theorem setLoad {s : System} (h : s.LoadsTold) {id : Nat} {load : Load} {state : LoadState}
    (hload : s.load? id = some load) (hunended : load.ended = false) (hbefore : load.state.called = true)
    (hstate : ∀ outcome, state ≠ .ended outcome) (hcalled : state.called = true) : (s.setLoad id state).LoadsTold where
  starts := by rw [history_setLoad, length_loads_setLoad, h.starts]
  started other after hafter := by
    obtain ⟨before, hbefore, hcache, hkey, -⟩ := Numbered.load?_setLoad_eq_some hafter
    rw [hcache, hkey]
    exact h.started other before hbefore
  landed other after hafter := by
    by_cases hother : other = id
    · subst hother
      rw [load?_setLoad_self hload] at hafter
      cases hafter
      rw [history_setLoad, ← h.landed other load hload, hunended]
      cases state with
      | ended outcome => exact absurd rfl (hstate outcome)
      | idle τ run => exact Iff.rfl
      | busy => exact Iff.rfl
    · exact h.landed other after (load?_of_setLoad hafter hother)
  uncalled other after τ call loader hafter hidle := by
    by_cases hother : other = id
    · subst hother
      rw [load?_setLoad_self hload] at hafter
      cases hafter
      subst hidle
      cases hcalled
    · exact h.uncalled other after τ call loader (load?_of_setLoad hafter hother) hidle
  called other after hafter hstill := by
    by_cases hother : other = id
    · exact h.called other load (hother ▸ hload) hbefore
    · exact h.called other after (load?_of_setLoad hafter hother) hstill

/-- A load calls its loader. -/
theorem call {s : System} (h : s.LoadsTold) {id : Nat} {load : Load} (hload : s.load? id = some load)
    (hunended : load.ended = false) (call : Call) : ((s.setLoad id .busy).emit (.called call (some id))).LoadsTold where
  starts := by
    rw [history_emit, History.starts_cons, history_setLoad, h.starts, loads_emit, length_loads_setLoad]
    rfl
  started other after hafter := by
    obtain ⟨before, hbefore, hcache, hkey, -⟩ := Numbered.load?_setLoad_eq_some hafter
    obtain ⟨e, he, hstarts⟩ := h.started other before hbefore
    exact ⟨e, List.mem_cons_of_mem _ he, hcache ▸ hkey ▸ hstarts⟩
  landed other after hafter := by
    rw [load?_emit] at hafter
    have hsame : (∃ e ∈ ((s.setLoad id .busy).emit (.called call (some id))).history, e.event.lands other = true) ↔
        ∃ e ∈ s.history, e.event.lands other = true := by simp [Event.lands]
    rw [hsame]
    by_cases hother : other = id
    · subst hother
      rw [load?_setLoad_self hload] at hafter
      cases hafter
      rw [← h.landed other load hload, hunended]
      exact Iff.rfl
    · exact h.landed other after (load?_of_setLoad hafter hother)
  uncalled other after τ call' loader hafter hidle := by
    rw [load?_emit] at hafter
    by_cases hother : other = id
    · subst hother
      rw [load?_setLoad_self hload] at hafter
      cases hafter
      cases hidle
    · obtain ⟨hcall, hnone⟩ := h.uncalled other after τ call' loader (load?_of_setLoad hafter hother) hidle
      refine ⟨hcall, fun e he hcalls => ?_⟩
      rcases List.mem_cons.1 he with rfl | he
      · exact hother (Option.some.inj (of_decide_eq_true hcalls)).symm
      · exact hnone e he hcalls
  called other after hafter hstill := by
    rw [load?_emit] at hafter
    by_cases hother : other = id
    · exact ⟨_, List.mem_cons_self .., decide_eq_true (congrArg some hother.symm)⟩
    · obtain ⟨e, he, hcalls⟩ := h.called other after (load?_of_setLoad hafter hother) hstill
      exact ⟨e, List.mem_cons_of_mem _ he, hcalls⟩

/-- A load that has called its loader ends. -/
theorem land {s : System} (h : s.LoadsTold) {id : Nat} {load : Load} (hload : s.load? id = some load)
    (hbefore : load.state.called = true) (cache : String) (key : Key) (outcome : LoadResult) (kept : Bool) :
    ((s.setLoad id (.ended outcome)).emit (.landed id cache key outcome kept)).LoadsTold where
  starts := by
    rw [history_emit, History.starts_cons, history_setLoad, h.starts, loads_emit, length_loads_setLoad]
    rfl
  started other after hafter := by
    obtain ⟨before, hbefore, hcache, hkey, -⟩ := Numbered.load?_setLoad_eq_some hafter
    obtain ⟨e, he, hstarts⟩ := h.started other before hbefore
    exact ⟨e, List.mem_cons_of_mem _ he, hcache ▸ hkey ▸ hstarts⟩
  landed other after hafter := by
    rw [load?_emit] at hafter
    by_cases hother : other = id
    · subst hother
      rw [load?_setLoad_self hload] at hafter
      cases hafter
      exact ⟨fun _ => ⟨_, List.mem_cons_self .., decide_eq_true rfl⟩, fun _ => rfl⟩
    · rw [h.landed other after (load?_of_setLoad hafter hother), history_emit, history_setLoad]
      simp [Event.lands, Ne.symm hother]
  uncalled other after τ call loader hafter hidle := by
    rw [load?_emit] at hafter
    by_cases hother : other = id
    · subst hother
      rw [load?_setLoad_self hload] at hafter
      cases hafter
      cases hidle
    · obtain ⟨hcall, hnone⟩ := h.uncalled other after τ call loader (load?_of_setLoad hafter hother) hidle
      refine ⟨hcall, fun e he => ?_⟩
      rcases List.mem_cons.1 he with rfl | he
      · exact Bool.false_ne_true
      · exact hnone e he
  called other after hafter hstill := by
    rw [load?_emit] at hafter
    have hcalled : ∃ e ∈ s.history, e.event.callsFor other = true := by
      by_cases hother : other = id
      · exact h.called other load (hother ▸ hload) hbefore
      · exact h.called other after (load?_of_setLoad hafter hother) hstill
    obtain ⟨e, he, hcalls⟩ := hcalled
    exact ⟨e, List.mem_cons_of_mem _ he, hcalls⟩

/-- A load is started under the number of the loads before it. -/
theorem launch {s : System} (h : s.LoadsTold) (lawful : History.Lawful s.history) (store : LocalStore) (call : Call)
    (loader : Loader τ) (hcache : call.cache = store.name) :
    ((s.launch store call loader).emit (.lookedUp store.name call.key (.started s.loads.length))).LoadsTold where
  starts := by
    have hlength : (s.launch store call loader).loads.length = s.loads.length + 1 := List.length_append
    rw [history_emit, History.starts_cons, loads_emit, hlength, ← h.starts]
    rfl
  started id load hload := by
    rw [load?_emit, Numbered.load?_launch] at hload
    split at hload
    next hid =>
      cases hload
      exact ⟨_, List.mem_cons_self .., hid ▸ rfl⟩
    next =>
      obtain ⟨e, he, hstarts⟩ := h.started id load hload
      exact ⟨e, List.mem_cons_of_mem _ he, hstarts⟩
  landed id load hload := by
    rw [load?_emit, Numbered.load?_launch] at hload
    split at hload
    next hid =>
      cases hload
      refine ⟨nofun, ?_⟩
      rintro ⟨e, he, hlands⟩
      rcases List.mem_cons.1 he with rfl | he
      · cases hlands
      · -- only loads that were started before have landed, and their numbers are below that of the new one
        have hlt := History.lt_starts_of_lands lawful he hlands
        rw [h.starts] at hlt
        omega
    next =>
      rw [h.landed id load hload]
      show _ ↔ ∃ e ∈ _ :: s.history, _
      simp [Event.lands]
  uncalled id load τ' call' loader' hload hstate := by
    rw [load?_emit, Numbered.load?_launch] at hload
    split at hload
    next hid =>
      cases hload
      cases hstate
      refine ⟨⟨hcache, rfl⟩, fun e he hcalls => ?_⟩
      rcases List.mem_cons.1 he with rfl | he
      · cases hcalls
      · have hlt := History.lt_starts_of_callsFor lawful he hcalls
        rw [h.starts] at hlt
        omega
    next =>
      obtain ⟨hcall, hnone⟩ := h.uncalled id load τ' call' loader' hload hstate
      refine ⟨hcall, fun e he => ?_⟩
      rcases List.mem_cons.1 he with rfl | he
      · exact Bool.false_ne_true
      · exact hnone e he
  called id load hload hcalled := by
    rw [load?_emit, Numbered.load?_launch] at hload
    split at hload
    next hid =>
      cases hload
      cases hcalled
    next =>
      obtain ⟨e, he, hcalls⟩ := h.called id load hload hcalled
      exact ⟨e, List.mem_cons_of_mem _ he, hcalls⟩

end LoadsTold

/-! ### Stores -/

/-- The history tells what is in flight, and where every value comes from that a store still has. -/
structure StoresTold (s : System) : Prop where
  flight : ∀ name store key, s.store? name = some store →
    (store.inFlight.find? key).map (·.load) = History.flight name key s.history
  stored : ∀ name store key value, s.store? name = some store → store.peek s.now key = some value →
    ∃ load, History.stored name key s.history = some (load, value)

namespace StoresTold

/-- The event tells what the change does to a key: its flight, and whether its value is the old one or just landed. -/
def Fits (s : System) (event : Event) (name : String) (key : Key) (before after : LocalStore) : Prop :=
  (after.inFlight.find? key).map (·.load) = event.flightAfter name key ((before.inFlight.find? key).map (·.load)) ∧
    ∀ value, after.peek s.now key = some value →
      before.peek s.now key = some value ∧ History.Spares name key ⟨s.now, event⟩ ∨
        ∃ load, event.Deposits name key load value

/-- A step with an event that fits every store. -/
theorem step {s t : System} (h : s.StoresTold) {event : Event} (hnow : t.now = s.now)
    (hhistory : t.history = ⟨s.now, event⟩ :: s.history)
    (hfits : ∀ name after, t.store? name = some after →
      ∃ before, s.store? name = some before ∧ ∀ key, Fits s event name key before after) : t.StoresTold := by
  constructor
  · intro name after key hafter
    obtain ⟨before, hbefore, hfit⟩ := hfits name after hafter
    rw [(hfit key).1, h.flight name before key hbefore, hhistory]
    rfl
  · intro name after key value hafter hpeek
    obtain ⟨before, hbefore, hfit⟩ := hfits name after hafter
    rw [hnow] at hpeek
    rw [hhistory]
    rcases (hfit key).2 value hpeek with ⟨hold, hspares⟩ | ⟨load, hdep⟩
    · obtain ⟨load, hstored⟩ := h.stored name before key value hbefore hold
      exact ⟨load, (History.stored_of_spares hspares _).trans hstored⟩
    · exact ⟨load, History.stored_of_deposits hdep _⟩

/-- An event that leaves all stores as they are. -/
theorem emit {s : System} (h : s.StoresTold) {event : Event}
    (hfits : ∀ name store, s.store? name = some store → ∀ key, Fits s event name key store store) :
    (s.emit event).StoresTold :=
  h.step rfl rfl fun name store hstore => ⟨store, hstore, hfits name store hstore⟩

/-- A change of one store. -/
theorem mapStore_emit {s : System} (h : s.StoresTold) {name : String} {f : LocalStore → LocalStore} {event : Event}
    (hself : ∀ store, s.store? name = some store → ∀ key, Fits s event name key store (f store))
    (hother : ∀ other store, other ≠ name → s.store? other = some store → ∀ key, Fits s event other key store store) :
    ((s.mapStore name f).emit event).StoresTold := by
  refine h.step rfl rfl fun other after hafter => ?_
  rw [store?_emit, store?_mapStore] at hafter
  split at hafter
  next hname =>
    obtain ⟨before, hbefore, rfl⟩ := Option.map_eq_some_iff.1 hafter
    exact ⟨before, hbefore, hname ▸ hself before (hname ▸ hbefore)⟩
  next hname => exact ⟨after, hafter, hother other after hname hafter⟩

theorem elapse {s : System} (h : s.StoresTold) (ms : Nat) : (s.elapse ms).StoresTold where
  flight := h.flight
  stored name store key value hstore hpeek :=
    h.stored name store key value hstore (LocalStore.peek_mono (Nat.le_add_right s.now ms) hpeek)

/-- A change that the history need not tell, for it lets go of values at most. -/
theorem mapStore {s : System} (h : s.StoresTold) {name : String} {f : LocalStore → LocalStore}
    (hflight : ∀ store, (f store).inFlight = store.inFlight)
    (hkeeps : ∀ store, s.store? name = some store → ∀ key, LocalStore.Keeps store (f store) s.now key) :
    (s.mapStore name f).StoresTold := by
  have hbefore : ∀ other after, (s.mapStore name f).store? other = some after → ∃ before,
      s.store? other = some before ∧ after.inFlight = before.inFlight ∧
        ∀ key value, after.peek s.now key = some value → before.peek s.now key = some value := by
    intro other after hafter
    rw [store?_mapStore] at hafter
    split at hafter
    next hname =>
      obtain ⟨before, hbefore, rfl⟩ := Option.map_eq_some_iff.1 hafter
      exact ⟨before, hbefore, hflight before, fun key value => (hkeeps before (hname ▸ hbefore) key).peek_eq_some⟩
    next => exact ⟨after, hafter, rfl, fun _ _ => id⟩
  constructor
  · intro other after key hafter
    obtain ⟨before, hstore, hsame, -⟩ := hbefore other after hafter
    rw [hsame]
    exact h.flight other before key hstore
  · intro other after key value hafter hpeek
    obtain ⟨before, hstore, -, hold⟩ := hbefore other after hafter
    exact h.stored other before key value hstore (hold key value hpeek)

end StoresTold

/-! ### Each kind of event -/

namespace StoresTold

variable {s : System} {name : String} {key : Key} {before after : LocalStore}

/-- A quiet event fits upkeep and reading. -/
theorem fits_of_isQuiet {event : Event} (quiet : event.isQuiet) (hflight : after.inFlight = before.inFlight)
    (hkeeps : LocalStore.Keeps before after s.now key) : Fits s event name key before after := by
  refine ⟨?_, fun value hvalue => .inl ⟨hkeeps.peek_eq_some hvalue, History.spares_of_isQuiet quiet name key⟩⟩
  rw [hflight, Event.flightAfter_of_isQuiet quiet]

/-- An event about another store, or about another key of the store. -/
theorem fits_of_ne {event : Event} (hspares : History.Spares name key ⟨s.now, event⟩)
    (hevent : event.flightAfter name key ((before.inFlight.find? key).map (·.load)) =
      (before.inFlight.find? key).map (·.load))
    (hflight : after.inFlight.find? key = before.inFlight.find? key)
    (hkeeps : LocalStore.Keeps before after s.now key) : Fits s event name key before after := by
  refine ⟨?_, fun value hvalue => .inl ⟨hkeeps.peek_eq_some hvalue, hspares⟩⟩
  rw [hflight, hevent]

theorem fits_of_invalidates {event : Event} (h : event.Invalidates name key) (hflight : after.inFlight.find? key = none)
    (hpeek : after.peek s.now key = none) : Fits s event name key before after := by
  constructor
  · rw [hflight, History.flightAfter_of_invalidates h]
    rfl
  · intro value hvalue
    rw [hpeek] at hvalue
    cases hvalue

/-- The load in flight for a key, if it is `id`, has the key and the number of that load. -/
theorem eq_of_flight (numbered : s.Numbered) {id : Nat} {load : Load} (hload : s.load? id = some load)
    (hstore : s.store? name = some before) (h : (before.inFlight.find? key).map (·.load) = some id) :
    name = load.cache ∧ key = load.key ∧ s.inFlight load.cache load.key load.number = true := by
  obtain ⟨flight, hflight, rfl⟩ := Option.map_eq_some_iff.1 h
  obtain ⟨⟨other, hother, ⟨rfl, rfl, -⟩, -⟩, -⟩ := numbered.flying name before key flight hstore hflight
  rw [hload] at hother
  cases hother
  exact ⟨rfl, rfl, (numbered.inFlight_iff hload).2 ⟨before, flight, hstore, hflight, rfl⟩⟩

/-- The end of a load that is not in flight for the key. -/
theorem fits_landed_of_ne {id : Nat} {cache : String} {own : Key} {outcome : LoadResult} {kept : Bool}
    (hne : (before.inFlight.find? key).map (·.load) ≠ some id) (hown : kept = true → ¬ (cache = name ∧ own = key))
    (hflight : after.inFlight.find? key = before.inFlight.find? key)
    (hkeeps : LocalStore.Keeps before after s.now key) :
    Fits s (.landed id cache own outcome kept) name key before after := by
  refine fits_of_ne ⟨fun hno => hno, fun load value hdep => ?_⟩ (if_neg hne) hflight hkeeps
  cases hdep
  exact hown rfl ⟨rfl, rfl⟩

/-- The end of the load in flight for the key. -/
theorem fits_landed_self {id : Nat} (hflight : (before.inFlight.find? key).map (·.load) = some id)
    (hpeek : before.peek s.now key = none) (outcome : LoadResult) :
    Fits s (.landed id name key outcome true) name key before (conclude s.now key outcome before) := by
  constructor
  · rw [inFlight_conclude, Assoc.find?_erase_self, hflight]
    exact (if_pos rfl).symm
  · intro value hvalue
    cases outcome with
    | ok brought =>
      obtain rfl : value = brought := LocalStore.eq_of_peek_put hpeek hvalue
      exact .inr ⟨id, rfl⟩
    | error failure =>
      have hsame : before.peek s.now key = some value := hvalue
      rw [hpeek] at hsame
      cases hsame

/-- The start of a load. -/
theorem fits_launch (own : Key) (load : Nat) :
    Fits s (.lookedUp name own (.started load)) name key before (before.launch s.now own load) := by
  have hkeeps := LocalStore.keeps_launch before s.now own load key
  refine ⟨?_, fun value hvalue => .inl ⟨hkeeps.peek_eq_some hvalue, fun hno => hno, fun _ _ => nofun⟩⟩
  rw [LocalStore.inFlight_launch, Assoc.find?_insert]
  by_cases hkey : key = own
  · rw [if_pos hkey]
    exact (if_pos ⟨rfl, hkey.symm⟩).symm
  · rw [if_neg hkey]
    exact (if_neg fun hsame => hkey hsame.2.symm).symm

end StoresTold

/-! ### All together -/

/-- The history is lawful and tells the state. -/
structure Told (s : System) : Prop where
  lawful : History.Lawful s.history
  loads : s.LoadsTold
  stores : s.StoresTold

namespace Told

theorem note {s : System} (h : s.Told) {event : Event} (aside : event.isAside) : (s.emit event).Told := by
  obtain ⟨hlawful, hstart, hlands, hcalls⟩ := Event.tame_of_isAside aside
  refine ⟨h.lawful.cons (hlawful _), h.loads.emit hstart hlands hcalls, h.stores.emit fun name store _ key => ?_⟩
  exact StoresTold.fits_of_isQuiet (Event.isQuiet_of_isAside aside) rfl (.inl rfl)

theorem elapse {s : System} (h : s.Told) (ms : Nat) : (s.elapse ms).Told :=
  ⟨h.lawful, h.loads.elapse ms, h.stores.elapse ms⟩

theorem tend {s : System} (h : s.Told) (name : String) : (s.tend name).Told where
  lawful := h.lawful
  loads := h.loads.mapStore name _
  stores := h.stores.mapStore (fun st => (LocalStore.trimmed_tend st _ _).inFlight)
    fun st _ => (LocalStore.trimmed_tend st _ _).keeps _

/-- What the lookup finds is what the history tells. -/
theorem lookUp {s : System} (h : s.Told) (numbered : s.Numbered) {store : LocalStore}
    (hstore : s.store? store.name = some store) (label : String) (key : Key) (loader : Loader τ) :
    (s.lookUp store ⟨label, store.name, key⟩ loader).1.Told := by
  have hflight := h.stores.flight store.name store key hstore
  unfold System.lookUp
  split
  next value hpeek =>
    have hstored := h.stores.stored store.name store key value hstore hpeek
    -- a key with a load in flight has no value to be found
    have hnone : History.flight store.name key s.history = none := by
      rw [← hflight]
      cases hfind : store.inFlight.find? key with
      | none => rfl
      | some flight =>
        have hempty : store.peek s.now key = none := (numbered.flying store.name store key flight hstore hfind).2
        rw [hempty] at hpeek
        cases hpeek
    refine ⟨h.lawful.cons ⟨hnone, hstored⟩, (h.loads.mapStore _ _).emit rfl (fun _ => rfl) (fun _ => rfl), ?_⟩
    refine h.stores.mapStore_emit (fun st hst other => ?_)
      fun _ _ _ _ _ => StoresTold.fits_of_isQuiet rfl rfl (.inl rfl)
    rw [hstore] at hst
    cases hst
    exact StoresTold.fits_of_isQuiet rfl (LocalStore.inFlight_touch _ _ _) (LocalStore.keeps_touch hpeek other)
  next hpeek =>
    split
    next flight hfind =>
      have hjoined : History.flight store.name key s.history = some flight.load := by
        rw [← hflight, show store.inFlight.find? key = some flight from hfind]
        rfl
      refine ⟨h.lawful.cons hjoined, (h.loads.mapStore _ _).emit rfl (fun _ => rfl) (fun _ => rfl), ?_⟩
      refine h.stores.mapStore_emit (fun st _ other => ?_)
        fun _ _ _ _ _ => StoresTold.fits_of_isQuiet rfl rfl (.inl rfl)
      have hmiss := LocalStore.trimmed_miss st s.now key
      exact StoresTold.fits_of_isQuiet rfl hmiss.inFlight (hmiss.keeps _ other)
    next hfind =>
      have hnone : History.flight store.name key s.history = none := by
        rw [← hflight, show store.inFlight.find? key = none from hfind]
        rfl
      refine ⟨h.lawful.cons ⟨hnone, h.loads.starts.symm⟩, h.loads.launch h.lawful store _ loader rfl, ?_⟩
      have hmapped : ((s.mapStore store.name (·.launch s.now key s.loads.length)).emit
          (.lookedUp store.name key (.started s.loads.length))).StoresTold := by
        refine h.stores.mapStore_emit (fun st _ other => StoresTold.fits_launch key _) fun name st hname _ other => ?_
        refine StoresTold.fits_of_ne ⟨fun hno => hno, fun _ _ => nofun⟩ (if_neg ?_) rfl (.inl rfl)
        exact fun hsame => hname hsame.1.symm
      exact ⟨hmapped.flight, hmapped.stored⟩

/-- That a load is still the one in flight is what the history tells. -/
theorem kept_iff {s : System} (h : s.Told) (numbered : s.Numbered) {id : Nat} {load : Load}
    (hload : s.load? id = some load) :
    s.inFlight load.cache load.key load.number = true ↔ History.flight load.cache load.key s.history = some id := by
  obtain ⟨store, hstore, -⟩ := numbered.housed id load hload
  rw [numbered.inFlight_iff hload, ← h.stores.flight load.cache store load.key hstore, Option.map_eq_some_iff]
  constructor
  · rintro ⟨st, flight, hst, hfind, hid⟩
    rw [hstore] at hst
    cases hst
    exact ⟨flight, hfind, hid⟩
  · rintro ⟨flight, hfind, hid⟩
    exact ⟨store, flight, hstore, hfind, hid⟩

theorem call {s : System} (h : s.Told) {id number : Nat} {cache : String} {key : Key} {call : Call}
    {loader : Loader τ} (hload : s.load? id = some ⟨cache, key, number, .idle τ (.calling call loader)⟩) :
    ((s.setLoad id .busy).emit (.called call (some id))).Told where
  lawful := by
    obtain ⟨⟨hcache, hkey⟩, hnone⟩ := h.loads.uncalled id _ τ call loader hload rfl
    have hstarted := h.loads.started id _ hload
    exact h.lawful.cons ⟨by rw [hcache, hkey]; exact hstarted, hnone⟩
  loads := h.loads.call hload rfl call
  stores := h.stores.step rfl rfl fun name store hstore =>
    ⟨store, hstore, fun key => StoresTold.fits_of_isQuiet rfl rfl (.inl rfl)⟩

theorem setLoad {s : System} (h : s.Told) {id : Nat} {load : Load} {state : LoadState} (hload : s.load? id = some load)
    (hunended : load.ended = false) (hbefore : load.state.called = true) (hstate : ∀ outcome, state ≠ .ended outcome)
    (hcalled : state.called = true) : (s.setLoad id state).Told :=
  ⟨h.lawful, h.loads.setLoad hload hunended hbefore hstate hcalled, ⟨h.stores.flight, h.stores.stored⟩⟩

/-- A load lands once, and whether it is still the one in flight is what the history tells. -/
theorem land {s : System} (h : s.Told) (numbered : s.Numbered) {id number : Nat} {cache : String} {key : Key}
    (hload : s.load? id = some ⟨cache, key, number, .busy⟩) (outcome : LoadResult) :
    (s.land id cache key number outcome).Told := by
  have hkept := h.kept_iff numbered hload
  have hlawful : Event.Lawful s.history (.landed id cache key outcome (s.inFlight cache key number)) := by
    refine ⟨h.loads.started id _ hload, h.loads.called id _ hload rfl, fun e he hlands => ?_, hkept⟩
    have hended := (h.loads.landed id _ hload).2 ⟨e, he, hlands⟩
    cases hended
  -- the load is in flight for one key at most, so its end fits every other key whatever has become of it
  cases hin : s.inFlight cache key number with
  | true =>
    rw [hin] at hlawful
    rw [land_of_kept hin]
    have hmapped : (s.mapStore cache (conclude s.now key outcome)).LoadsTold := h.loads.mapStore _ _
    refine ⟨h.lawful.cons hlawful, hmapped.land hload rfl cache key outcome true, ?_⟩
    have hstores : ((s.mapStore cache (conclude s.now key outcome)).emit
        (.landed id cache key outcome true)).StoresTold := by
      refine h.stores.mapStore_emit (fun store hstore other => ?_) fun name store hname hstore other => ?_
      · by_cases hother : other = key
        · subst hother
          have hflight := (h.stores.flight cache store other hstore).trans (hkept.1 hin)
          obtain ⟨flight, hfind, -⟩ := Option.map_eq_some_iff.1 hflight
          exact StoresTold.fits_landed_self hflight (numbered.flying cache store other flight hstore hfind).2 outcome
        · refine StoresTold.fits_landed_of_ne (fun hflight => ?_) (fun _ hsame => hother hsame.2.symm) ?_
            (keeps_conclude s.now hother outcome store)
          · exact hother (StoresTold.eq_of_flight numbered hload hstore hflight).2.1
          · rw [inFlight_conclude, Assoc.find?_erase_of_ne _ hother]
      · refine StoresTold.fits_landed_of_ne (fun hflight => ?_) (fun _ hsame => hname hsame.1.symm) rfl (.inl rfl)
        exact hname (StoresTold.eq_of_flight numbered hload hstore hflight).1
    exact ⟨hstores.flight, hstores.stored⟩
  | false =>
    rw [hin] at hlawful
    rw [land_of_detached hin]
    refine ⟨h.lawful.cons hlawful, h.loads.land hload rfl cache key outcome false, ?_⟩
    refine h.stores.step rfl rfl fun name store hstore => ⟨store, hstore, fun other => ?_⟩
    refine StoresTold.fits_landed_of_ne (fun hflight => ?_) nofun rfl (.inl rfl)
    have hno := (StoresTold.eq_of_flight numbered hload hstore hflight).2.2
    rw [hin] at hno
    cases hno

theorem invalidateIn {s : System} (h : s.Told) (cache : Cache) (key : Key) : (s.invalidateIn cache key).Told := by
  match cache with
  | .passThrough _ => exact h
  | .local store =>
    refine ⟨h.lawful.cons trivial, (h.loads.mapStore _ _).emit rfl (fun _ => rfl) (fun _ => rfl), ?_⟩
    refine h.stores.mapStore_emit (fun st hst other => ?_) fun name st hname _ other => ?_
    · by_cases hother : other = key
      · subst hother
        refine StoresTold.fits_of_invalidates ⟨rfl, rfl⟩ ?_ (LocalStore.peek_invalidate_self st s.now other)
        rw [LocalStore.inFlight_invalidate, Assoc.find?_erase_self]
      · refine StoresTold.fits_of_ne ⟨fun hsame => hother hsame.2.symm, fun _ _ => nofun⟩
          (if_neg fun hsame => hother hsame.2.symm) ?_ (LocalStore.keeps_invalidate st s.now key hother)
        rw [LocalStore.inFlight_invalidate, Assoc.find?_erase_of_ne _ hother]
    · exact StoresTold.fits_of_ne ⟨fun hsame => hname hsame.1.symm, fun _ _ => nofun⟩
        (if_neg fun hsame => hname hsame.1.symm) rfl (.inl rfl)

theorem invalidateAllIn {s : System} (h : s.Told) (cache : Cache) : (s.invalidateAllIn cache).Told := by
  match cache with
  | .passThrough _ => exact h
  | .local store =>
    refine ⟨h.lawful.cons trivial, (h.loads.mapStore _ _).emit rfl (fun _ => rfl) (fun _ => rfl), ?_⟩
    refine h.stores.mapStore_emit (fun st hst other => ?_) fun name st hname _ other => ?_
    · exact StoresTold.fits_of_invalidates rfl rfl (LocalStore.peek_invalidateAll st s.now other)
    · exact StoresTold.fits_of_ne ⟨fun hsame => hname hsame.symm, fun _ _ => nofun⟩
        (if_neg fun hsame => hname hsame.symm) rfl (.inl rfl)

theorem move {s t : System} (named : s.Named) (numbered : s.Numbered) (h : s.Told) (move : Move s t) : t.Told := by
  cases move with
  | elapse s ms => exact h.elapse ms
  | note aside => exact h.note aside
  | @lookUp _ _ name store hfind label key loader =>
    have hname := named.name_of_find? hfind
    exact h.lookUp numbered (hname ▸ store?_of_find? hfind) label key loader
  | call hload => exact h.call hload
  | resume hload called => exact h.setLoad hload rfl called (fun _ => nofun) rfl
  | pause hload called => exact h.setLoad hload rfl rfl (fun _ => nofun) called
  | land hload outcome => exact h.land numbered hload outcome
  | invalidate hfind key => exact h.invalidateIn _ key
  | invalidateAll hfind => exact h.invalidateAllIn _
  | tend s name => exact h.tend name

end Told

end System

end SingleFlight
