import SingleFlight.Proofs.Detached

/-!
# Counters

What the counters of a cache count is in the trace and in the loads.

* a lookup hits or misses, and one that misses starts a load (`System.Balanced.started`);
* a load that has ended has had its value stored, has failed, or was detached before
  (`Trace.count_concluded`, `History.detached_iff`);
* a counter is shown for a cache that keeps counters once it has been raised, and for no other (`Trace.mem_counts`).
-/

namespace SingleFlight

namespace Event

/-- A lookup in the cache. -/
def looksUp (cache : String) : Event → Bool
  | lookedUp c _ _ => decide (c = cache)
  | _ => false

/-- A load of the cache ends. -/
def concludes (cache : String) : Event → Bool
  | landed _ c _ _ _ => decide (c = cache)
  | _ => false

/-- A load of the cache ends with a value that is not stored. -/
def strays (cache : String) : Event → Bool
  | landed _ c _ (.ok _) false => decide (c = cache)
  | _ => false

/-- How much the event raises the counter. -/
def raises (counter : CounterId) (event : Event) : Nat := if event.counter? = some counter then 1 else 0

theorem raises_of_looksUp (event : Event) (cache : String) :
    event.raises ⟨.hit, cache⟩ + event.raises ⟨.miss, cache⟩ = if event.looksUp cache then 1 else 0 := by
  cases event with
  | lookedUp c key found => cases found <;> by_cases h : c = cache <;> simp [raises, counter?, looksUp, h]
  | landed id c key outcome kept => cases outcome <;> cases kept <;> simp [raises, counter?, looksUp]
  | _ => simp [raises, counter?, looksUp]

theorem raises_of_concludes (event : Event) (cache : String) : event.raises ⟨.put, cache⟩ +
    event.raises ⟨.loadFailure, cache⟩ + (if event.strays cache then 1 else 0) =
      if event.concludes cache then 1 else 0 := by
  cases event with
  | lookedUp c key found => cases found <;> simp [raises, counter?, concludes, strays]
  | landed id c key outcome kept =>
    cases outcome <;> cases kept <;> by_cases h : c = cache <;> simp [raises, counter?, concludes, strays, h]
  | _ => simp [raises, counter?, concludes, strays]

theorem counter?_of_isAside {event : Event} (aside : event.isAside) (cache : String) :
    event.counter? ≠ some ⟨.miss, cache⟩ ∧ event.concludes cache = false := by
  cases event with
  | lookedUp c key found => cases aside
  | landed id c key outcome kept => cases aside
  | invalidated c key => cases aside
  | allInvalidated c => cases aside
  | _ => simp [counter?, concludes]

end Event

namespace Trace

theorem count_cons (e : Stamped) (trace : Trace) (counter : CounterId) :
    count (e :: trace) counter = count trace counter + e.event.raises counter := by
  rw [count, List.countP_cons, count]
  simp only [beq_iff_eq, Event.raises]

/-- Lookups hit or miss. -/
theorem count_lookups (trace : Trace) (cache : String) :
    trace.count ⟨.hit, cache⟩ + trace.count ⟨.miss, cache⟩ = trace.countP (·.event.looksUp cache) := by
  induction trace with
  | nil => rfl
  | cons e trace ih =>
    have hevent := e.event.raises_of_looksUp cache
    rw [count_cons, count_cons, List.countP_cons]
    omega

/-- Loads that have ended have had their values stored, have failed, or have strayed. -/
theorem count_concluded (trace : Trace) (cache : String) : trace.count ⟨.put, cache⟩ +
    trace.count ⟨.loadFailure, cache⟩ + trace.countP (·.event.strays cache) =
      trace.countP (·.event.concludes cache) := by
  induction trace with
  | nil => rfl
  | cons e trace ih =>
    have hevent := e.event.raises_of_concludes cache
    rw [count_cons, count_cons, List.countP_cons, List.countP_cons]
    omega

/-- The counters that are shown are those that have been raised, of the caches that keep counters. -/
theorem mem_counts {trace : Trace} {counting : String → Bool} {counter : CounterId} {n : Nat} :
    (counter, n) ∈ trace.counts counting ↔ counting counter.cache = true ∧ n = trace.count counter ∧ 0 < n := by
  have hraised : counter ∈ (trace.filterMap fun e => e.event.counter?).eraseDups ↔ 0 < trace.count counter := by
    rw [List.mem_eraseDups, List.mem_filterMap, count, List.countP_pos_iff]
    simp only [beq_iff_eq]
  simp only [counts, List.mem_map, List.mem_filter, Prod.mk.injEq]
  constructor
  · rintro ⟨_, ⟨hmem, hcounting⟩, rfl, rfl⟩
    exact ⟨hcounting, rfl, hraised.1 hmem⟩
  · rintro ⟨hcounting, rfl, hpos⟩
    exact ⟨counter, ⟨hraised.2 hpos, hcounting⟩, rfl, rfl⟩

end Trace

/-- A load ends without being in flight exactly if its key has been invalidated since it was started. -/
theorem History.detached_iff {e : Stamped} {past : History} (lawful : Lawful (e :: past)) {id : Nat} {cache : String}
    {key : Key} {outcome : LoadResult} {kept : Bool} (h : e.event = .landed id cache key outcome kept) :
    kept = false ↔ Detached cache key id past := by
  cases lawful with
  | cons hpast hevent =>
    rw [h] at hevent
    obtain ⟨⟨start, hstart, hstarts⟩, -, hfirst, hkept⟩ := hevent
    constructor
    · intro hfalse
      obtain ⟨later, older, rfl⟩ := List.append_of_mem hstart
      -- unless something had freed the key, the load would still be in flight
      by_contra hattached
      have hflight : flight cache key (later ++ start :: older) = some id := by
        apply flight_append hpast (flight_of_start hstarts)
        rintro freeing hmem (hlands | hinvalid)
        · exact hfirst freeing (List.mem_append_left _ hmem) hlands
        · obtain ⟨newer, between, rfl⟩ := List.append_of_mem hmem
          refine hattached ⟨newer, freeing, between ++ start :: older, ?_, hinvalid, start, ?_, hstarts⟩
          · rw [List.append_assoc, List.cons_append]
          · exact List.mem_append_right between (List.mem_cons_self ..)
      rw [hkept.2 hflight] at hfalse
      cases hfalse
    · intro hdetached
      cases kept with
      | false => rfl
      | true => exact absurd (hkept.1 rfl) (hdetached.flight_ne hpast)

namespace System

variable {s t : System} {cache : String}

theorem countP_modify {loads : List Load} {id : Nat} {load : Load} (h : loads[id]? = some load) (f : Load → Load)
    (p : Load → Bool) : (loads.modify id f).countP p + (if p load then 1 else 0) =
      loads.countP p + if p (f load) then 1 else 0 := by
  induction loads generalizing id with
  | nil => cases h
  | cons first rest ih =>
    cases id with
    | zero =>
      cases h
      simp only [List.modify_zero_cons, List.countP_cons]
      omega
    | succ id =>
      have hrest := ih (List.getElem?_cons_succ ▸ h)
      simp only [List.modify_succ_cons, List.countP_cons]
      omega

theorem countP_setLoad {id : Nat} {load : Load} (h : s.load? id = some load) (state : LoadState) (p : Load → Bool) :
    (s.setLoad id state).loads.countP p + (if p load then 1 else 0) =
      s.loads.countP p + if p { load with state } then 1 else 0 := countP_modify h _ p

/-- As many misses have been counted as loads have been started, and as many ends of loads as loads have ended. -/
structure Balanced (cache : String) (s : System) : Prop where
  started : s.trace.count ⟨.miss, cache⟩ = s.loads.countP fun load => decide (load.cache = cache)
  ended : s.trace.countP (·.event.concludes cache) =
    s.loads.countP fun load => decide (load.cache = cache) && load.ended

namespace Balanced

theorem congr (h : s.Balanced cache) (hhistory : t.history = s.history) (hloads : t.loads = s.loads) :
    t.Balanced cache := by
  have htrace : t.trace = s.trace := congrArg List.reverse hhistory
  constructor
  · rw [htrace, hloads]
    exact h.started
  · rw [htrace, hloads]
    exact h.ended

theorem emit (h : s.Balanced cache) {event : Event} (hmiss : event.counter? ≠ some ⟨.miss, cache⟩)
    (hends : event.concludes cache = false) : (s.emit event).Balanced cache := by
  constructor
  · rw [count_emit, if_neg hmiss]
    exact h.started
  · rw [countP_trace_emit s event (Event.concludes cache), hends]
    exact h.ended

theorem emit_mapStore (h : s.Balanced cache) {name : String} {f : LocalStore → LocalStore} {event : Event}
    (hmiss : event.counter? ≠ some ⟨.miss, cache⟩) (hends : event.concludes cache = false) :
    ((s.mapStore name f).emit event).Balanced cache := by
  have hmapped : (s.mapStore name f).Balanced cache := h.congr rfl rfl
  exact hmapped.emit hmiss hends

/-- A load is set to a state in which it has ended if it had ended before. -/
theorem setLoad (h : s.Balanced cache) {id : Nat} {load : Load} (hload : s.load? id = some load) {state : LoadState}
    (hended : { load with state }.ended = load.ended) : (s.setLoad id state).Balanced cache := by
  have hstarted := countP_setLoad hload state fun load => decide (load.cache = cache)
  have hends := countP_setLoad hload state fun load => decide (load.cache = cache) && load.ended
  simp only [hended] at hends
  dsimp only at hstarted
  constructor
  · have hbefore : s.trace.count ⟨.miss, cache⟩ = _ := h.started
    show s.trace.count ⟨.miss, cache⟩ = _
    omega
  · have hbefore : s.trace.countP (·.event.concludes cache) = _ := h.ended
    show s.trace.countP (·.event.concludes cache) = _
    omega

theorem launch (h : s.Balanced cache) {store : LocalStore} {call : Call} {loader : Loader τ} {id : Nat} :
    ((s.launch store call loader).emit (.lookedUp store.name call.key (.started id))).Balanced cache := by
  have hloads : (s.launch store call loader).loads =
      s.loads ++ [⟨store.name, call.key, store.nextLoad, .idle τ (.calling call loader)⟩] := rfl
  have htrace : (s.launch store call loader).trace = s.trace := rfl
  constructor
  · rw [count_emit, htrace, h.started, loads_emit, hloads, List.countP_append, List.countP_singleton]
    simp [Event.counter?]
  · rw [countP_trace_emit _ _ (Event.concludes cache), htrace, h.ended, loads_emit, hloads, List.countP_append,
      List.countP_singleton]
    simp [Event.concludes, Load.ended]

theorem lookUp (h : s.Balanced cache) (store : LocalStore) (call : Call) (loader : Loader τ) :
    (s.lookUp store call loader).1.Balanced cache := by
  unfold System.lookUp
  split
  · apply h.emit_mapStore
    · simp [Event.counter?]
    · rfl
  · split
    · apply h.emit_mapStore
      · simp [Event.counter?]
      · rfl
    · exact h.launch

theorem land (h : s.Balanced cache) {id number : Nat} {name : String} {key : Key}
    (hload : s.load? id = some ⟨name, key, number, .busy⟩) (outcome : LoadResult) :
    (s.land id name key number outcome).Balanced cache := by
  obtain ⟨kept, hhistory⟩ := history_land s id name key number outcome
  have htrace : (s.land id name key number outcome).trace = (s.emit (.landed id name key outcome kept)).trace :=
    congrArg List.reverse hhistory
  have hmiss : (Event.landed id name key outcome kept).counter? ≠ some ⟨.miss, cache⟩ := by
    cases outcome <;> cases kept <;> simp [Event.counter?]
  constructor
  · have hset : (s.setLoad id (.ended outcome)).loads.countP (fun load => decide (load.cache = cache)) +
        (if decide (name = cache) then 1 else 0) = s.loads.countP (fun load => decide (load.cache = cache)) +
          if decide (name = cache) then 1 else 0 := countP_setLoad hload _ _
    rw [htrace, count_emit, if_neg hmiss, loads_land, h.started]
    omega
  · have hset : (s.setLoad id (.ended outcome)).loads.countP (fun load => decide (load.cache = cache) && load.ended) +
        (if decide (name = cache) && false then 1 else 0) =
          s.loads.countP (fun load => decide (load.cache = cache) && load.ended) +
            if decide (name = cache) && true then 1 else 0 := countP_setLoad hload _ _
    rw [Bool.and_false, if_neg Bool.false_ne_true, Bool.and_true] at hset
    rw [htrace, countP_trace_emit _ _ (Event.concludes cache), loads_land, h.ended]
    exact hset.symm

theorem move (h : s.Balanced cache) (move : Move s t) : t.Balanced cache := by
  cases move with
  | elapse s ms => exact h.congr rfl rfl
  | note aside =>
    obtain ⟨hmiss, hends⟩ := Event.counter?_of_isAside aside cache
    exact h.emit hmiss hends
  | lookUp hfind label key loader => exact h.lookUp _ _ loader
  | call hload =>
    have hbusy : (s.setLoad _ .busy).Balanced cache := h.setLoad hload rfl
    apply hbusy.emit
    · simp [Event.counter?]
    · rfl
  | resume hload called => exact h.setLoad hload rfl
  | pause hload called => exact h.setLoad hload rfl
  | land hload outcome => exact h.land hload outcome
  | @invalidate _ _ found hfind key =>
    match found with
    | .local store =>
      apply h.emit_mapStore
      · simp [Event.counter?]
      · rfl
    | .passThrough _ => exact h
  | @invalidateAll _ _ found hfind =>
    match found with
    | .local store =>
      apply h.emit_mapStore
      · simp [Event.counter?]
      · rfl
    | .passThrough _ => exact h
  | tend s name => exact h.congr rfl rfl

end Balanced

theorem Reached.balanced (reached : s.Reached) (cache : String) : s.Balanced cache := by
  obtain ⟨registry, -, moves⟩ := reached
  induction moves with
  | refl => exact ⟨rfl, rfl⟩
  | tail _ last ih => exact ih.move last

end System

end SingleFlight
