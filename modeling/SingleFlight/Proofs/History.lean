import Mathlib.Tactic.ByContra
import SingleFlight.Event

/-!
# Histories

A history lists the events so far, the last one first. It tells which load is in flight for a key, and which load's
value was stored for it last and has not been invalidated since. A history is lawful if every event fits what the
events before it tell. In a lawful history

* a load is started once, its loader is called at most once, and it lands at most once;
* a load stays in flight for its key until it lands or the key is invalidated (`flight_of_start`), so between two
  starts for one key the first load lands or the key is invalidated (`exists_frees`);
* what is in flight or stored after an invalidation was started after it (`start_of_flight`, `landing_of_stored`).
-/

namespace SingleFlight

/-- Events, the last one first. -/
abbrev History := List Stamped

namespace Event

/-- A lookup that starts a load. -/
def isStart : Event → Bool
  | lookedUp _ _ (.started _) => true
  | _ => false

/-- The event starts that load for the key. -/
def Starts (cache : String) (key : Key) (load : Nat) (event : Event) : Prop :=
  event = lookedUp cache key (.started load)

/-- The load calls its loader. -/
def callsFor (load : Nat) : Event → Bool
  | called _ caller => decide (caller = some load)
  | _ => false

def lands (load : Nat) : Event → Bool
  | landed id _ _ _ _ => decide (id = load)
  | _ => false

theorem callsFor_of_called {event : Event} {call : Call} {load : Nat} (h : event = .called call (some load)) :
    event.callsFor load = true := by
  rw [h]
  exact decide_eq_true rfl

theorem lands_of_landed {event : Event} {load : Nat} {cache : String} {key : Key} {outcome : LoadResult} {kept : Bool}
    (h : event = .landed load cache key outcome kept) : event.lands load = true := by
  rw [h]
  exact decide_eq_true rfl

/-- The key is invalidated, by itself or with its whole cache. -/
def Invalidates (cache : String) (key : Key) : Event → Prop
  | invalidated c k => c = cache ∧ k = key
  | allInvalidated c => c = cache
  | _ => False

/-- After the event the load is not in flight for the key. -/
def Frees (cache : String) (key : Key) (load : Nat) (event : Event) : Prop :=
  event.lands load ∨ event.Invalidates cache key

/-- The load lands with a value that is stored for the key. -/
def Deposits (cache : String) (key : Key) (load : Nat) (value : Stored Value) (event : Event) : Prop :=
  event = landed load cache key (.ok value) true

/-- The load in flight for the key after the event. -/
def flightAfter (cache : String) (key : Key) (before : Option Nat) : Event → Option Nat
  | lookedUp c k (.started load) => if c = cache ∧ k = key then some load else before
  | landed load _ _ _ _ => if before = some load then none else before
  | invalidated c k => if c = cache ∧ k = key then none else before
  | allInvalidated c => if c = cache then none else before
  | _ => before

/-- The value stored for the key after the event, and the load that brought it. -/
def storedAfter (cache : String) (key : Key) (before : Option (Nat × Stored Value)) :
    Event → Option (Nat × Stored Value)
  | landed load c k (.ok value) true => if c = cache ∧ k = key then some (load, value) else before
  | invalidated c k => if c = cache ∧ k = key then none else before
  | allInvalidated c => if c = cache then none else before
  | _ => before

/-- The event says nothing about what is in flight or stored. -/
def isQuiet : Event → Bool
  | lookedUp _ _ (.started _) | landed _ _ _ _ _ | invalidated _ _ | allInvalidated _ => false
  | _ => true

theorem flightAfter_of_isQuiet {event : Event} (quiet : event.isQuiet) (cache : String) (key : Key)
    (before : Option Nat) : event.flightAfter cache key before = before := by
  cases event with
  | lookedUp c k found =>
    cases found with
    | started id => cases quiet
    | _ => rfl
  | landed id c k outcome kept => cases quiet
  | invalidated c k => cases quiet
  | allInvalidated c => cases quiet
  | _ => rfl

end Event

namespace History

/-- The load in flight for the key. -/
def flight (cache : String) (key : Key) : History → Option Nat
  | [] => none
  | e :: past => e.event.flightAfter cache key (flight cache key past)

/-- The value that was stored for the key last, unless it has been invalidated, and the load that brought it. -/
def stored (cache : String) (key : Key) : History → Option (Nat × Stored Value)
  | [] => none
  | e :: past => e.event.storedAfter cache key (stored cache key past)

/-- How many loads have been started. -/
def starts (past : History) : Nat := past.countP (·.event.isStart)

end History

/-- The event fits the events before it. -/
def Event.Lawful (past : History) : Event → Prop
  | lookedUp cache key (.stored value) =>
    past.flight cache key = none ∧ ∃ load, past.stored cache key = some (load, value)
  | lookedUp cache key (.joined load) => past.flight cache key = some load
  | lookedUp cache key (.started load) => past.flight cache key = none ∧ load = past.starts
  | called call (some load) =>
    (∃ e ∈ past, e.event.Starts call.cache call.key load) ∧ ∀ e ∈ past, ¬ e.event.callsFor load
  | landed load cache key _ kept =>
    (∃ e ∈ past, e.event.Starts cache key load) ∧ (∃ e ∈ past, e.event.callsFor load) ∧
      (∀ e ∈ past, ¬ e.event.lands load) ∧ (kept = true ↔ past.flight cache key = some load)
  | _ => True

namespace History

/-- Every event fits the events before it. -/
inductive Lawful : History → Prop where
  | nil : Lawful []
  | cons {e : Stamped} {past : History} (lawful : Lawful past) (h : e.event.Lawful past) : Lawful (e :: past)

theorem lawful_cons {e : Stamped} {past : History} : Lawful (e :: past) ↔ Lawful past ∧ e.event.Lawful past := by
  constructor
  · intro h
    cases h with
    | cons hpast he => exact ⟨hpast, he⟩
  · rintro ⟨hpast, he⟩
    exact hpast.cons he

theorem Lawful.of_append {later past : History} (h : Lawful (later ++ past)) : Lawful past := by
  induction later with
  | nil => exact h
  | cons e later ih =>
    cases h with
    | cons hrest _ => exact ih hrest

/-! ### Loads are numbered in the order in which they start -/

theorem starts_cons (e : Stamped) (past : History) :
    starts (e :: past) = starts past + if e.event.isStart then 1 else 0 := List.countP_cons

theorem lt_starts {past : History} (h : Lawful past) {e : Stamped} (he : e ∈ past) {cache : String} {key : Key}
    {load : Nat} (hstart : e.event.Starts cache key load) : load < starts past := by
  induction h with
  | nil => cases he
  | @cons first past _ hfirst ih =>
    rw [starts_cons]
    rcases List.mem_cons.1 he with rfl | he
    · rw [hstart] at hfirst ⊢
      have hload : load = starts past := hfirst.2
      simp only [Event.isStart, ↓reduceIte]
      omega
    · have := ih he
      omega

theorem Lawful.event {past : History} (h : Lawful past) {e : Stamped} (he : e ∈ past) :
    ∃ earlier, e.event.Lawful earlier ∧ ∀ other ∈ earlier, other ∈ past := by
  obtain ⟨later, earlier, rfl⟩ := List.append_of_mem he
  cases h.of_append with
  | cons _ hlawful =>
    exact ⟨earlier, hlawful, fun other hmem => List.mem_append_right later (List.mem_cons_of_mem e hmem)⟩

theorem lt_starts_of_lands {past : History} (h : Lawful past) {e : Stamped} (he : e ∈ past) {load : Nat}
    (hlands : e.event.lands load = true) : load < starts past := by
  obtain ⟨earlier, hlawful, hmem⟩ := h.event he
  cases heq : e.event with
  | landed id cache key outcome kept =>
    rw [heq] at hlawful hlands
    obtain rfl : id = load := of_decide_eq_true hlands
    obtain ⟨⟨start, hstart, hstarts⟩, -⟩ := hlawful
    exact lt_starts h (hmem start hstart) hstarts
  | _ =>
    rw [heq] at hlands
    cases hlands

theorem lt_starts_of_callsFor {past : History} (h : Lawful past) {e : Stamped} (he : e ∈ past) {load : Nat}
    (hcalls : e.event.callsFor load = true) : load < starts past := by
  obtain ⟨earlier, hlawful, hmem⟩ := h.event he
  cases heq : e.event with
  | called call caller =>
    rw [heq] at hlawful hcalls
    obtain rfl : caller = some load := of_decide_eq_true hcalls
    obtain ⟨⟨start, hstart, hstarts⟩, -⟩ := hlawful
    exact lt_starts h (hmem start hstart) hstarts
  | _ =>
    rw [heq] at hcalls
    cases hcalls

/-- No load is started a second time. -/
theorem not_starts_before {e : Stamped} {past : History} (h : Lawful (e :: past)) {cache : String} {key : Key}
    {load : Nat} (hstart : e.event.Starts cache key load) {other : Stamped} (hother : other ∈ past) {c : String}
    {k : Key} : ¬ other.event.Starts c k load := by
  intro hagain
  cases h with
  | cons hpast he =>
    have hlt := lt_starts hpast hother hagain
    rw [hstart] at he
    have hload : load = starts past := he.2
    omega

/-! ### What is in flight -/

theorem flightAfter_of_invalidates {cache : String} {key : Key} {event : Event} (h : event.Invalidates cache key)
    (before : Option Nat) : event.flightAfter cache key before = none := by
  cases event with
  | invalidated c k => exact if_pos h
  | allInvalidated c => exact if_pos h
  | _ => cases h

/-- Only a start of its own brings a load in flight. -/
theorem starts_of_flightAfter {cache : String} {key : Key} {before : Option Nat} {event : Event} {load : Nat}
    (h : event.flightAfter cache key before = some load) : event.Starts cache key load ∨ before = some load := by
  cases event with
  | lookedUp c k found =>
    cases found with
    | stored value => exact .inr h
    | joined id => exact .inr h
    | started id =>
      simp only [Event.flightAfter] at h
      split at h
      next hkey =>
        obtain ⟨rfl, rfl⟩ := hkey
        cases h
        exact .inl rfl
      next => exact .inr h
  | landed id c k outcome kept =>
    simp only [Event.flightAfter] at h
    split at h
    · cases h
    · exact .inr h
  | invalidated c k =>
    simp only [Event.flightAfter] at h
    split at h
    · cases h
    · exact .inr h
  | allInvalidated c =>
    simp only [Event.flightAfter] at h
    split at h
    · cases h
    · exact .inr h
  | called call caller => exact .inr h
  | lockTimedOut c k id timeout => exact .inr h
  | passedThrough c k => exact .inr h
  | answered task answer => exact .inr h

/-- A load in flight stays so unless an event frees its key; no other load can start for the key meanwhile. -/
theorem flightAfter_of_not_frees {cache : String} {key : Key} {past : History} {event : Event} {load : Nat}
    (hlawful : event.Lawful past) (hflight : past.flight cache key = some load) (h : ¬ event.Frees cache key load) :
    event.flightAfter cache key (some load) = some load := by
  cases event with
  | lookedUp c k found =>
    cases found with
    | stored value => rfl
    | joined id => rfl
    | started id =>
      refine if_neg ?_
      rintro ⟨rfl, rfl⟩
      rw [hlawful.1] at hflight
      cases hflight
  | landed id c k outcome kept =>
    refine if_neg fun heq => h (.inl ?_)
    cases heq
    exact decide_eq_true rfl
  | invalidated c k => exact if_neg fun heq => h (.inr heq)
  | allInvalidated c => exact if_neg fun heq => h (.inr heq)
  | called call caller => rfl
  | lockTimedOut c k id timeout => rfl
  | passedThrough c k => rfl
  | answered task answer => rfl

theorem flight_append {cache : String} {key : Key} {later past : History} {load : Nat}
    (hlawful : Lawful (later ++ past)) (hflight : past.flight cache key = some load)
    (h : ∀ e ∈ later, ¬ e.event.Frees cache key load) : flight cache key (later ++ past) = some load := by
  -- the law of each further event is about the flight before it, which is the load by induction
  induction later with
  | nil => exact hflight
  | cons e later ih =>
    cases hlawful with
    | cons hrest he =>
      have hbefore := ih hrest fun e' he' => h e' (List.mem_cons_of_mem e he')
      show e.event.flightAfter cache key (flight cache key (later ++ past)) = some load
      rw [hbefore]
      exact flightAfter_of_not_frees he hbefore (h e (List.mem_cons_self ..))

theorem flight_of_start {e : Stamped} {past : History} {cache : String} {key : Key} {load : Nat}
    (h : e.event.Starts cache key load) : flight cache key (e :: past) = some load := by
  show e.event.flightAfter cache key _ = some load
  rw [h]
  exact if_pos ⟨rfl, rfl⟩

/-- Between two starts for one key the first load lands or the key is invalidated. -/
theorem exists_frees {between past : History} {first second : Stamped} {cache : String} {key : Key} {m n : Nat}
    (hlawful : Lawful (second :: (between ++ first :: past))) (hfirst : first.event.Starts cache key m)
    (hsecond : second.event.Starts cache key n) : ∃ e ∈ between, e.event.Frees cache key m := by
  cases hlawful with
  | cons hrest he =>
    -- otherwise the first load would be in flight still, and a lookup that finds a flight starts none
    by_contra hnone
    have hflight := flight_append hrest (flight_of_start hfirst) fun e hmem hfrees => hnone ⟨e, hmem, hfrees⟩
    rw [hsecond] at he
    rw [he.1] at hflight
    cases hflight

/-- What is in flight after an invalidation was started after it. -/
theorem start_of_flight {later past : History} {e : Stamped} {cache : String} {key : Key} {load : Nat}
    (hinvalid : e.event.Invalidates cache key) (h : flight cache key (later ++ e :: past) = some load) :
    ∃ s ∈ later, s.event.Starts cache key load := by
  induction later with
  | nil =>
    rw [List.nil_append, flight, flightAfter_of_invalidates hinvalid] at h
    cases h
  | cons s later ih =>
    rcases starts_of_flightAfter h with hstart | hbefore
    · exact ⟨s, List.mem_cons_self .., hstart⟩
    · obtain ⟨s', hmem, hstart⟩ := ih hbefore
      exact ⟨s', List.mem_cons_of_mem s hmem, hstart⟩

/-! ### What is stored -/

theorem storedAfter_of_invalidates {cache : String} {key : Key} {event : Event} (h : event.Invalidates cache key)
    (before : Option (Nat × Stored Value)) : event.storedAfter cache key before = none := by
  cases event with
  | invalidated c k => exact if_pos h
  | allInvalidated c => exact if_pos h
  | _ => cases h

/-- The event leaves alone what is stored for the key. -/
def Spares (cache : String) (key : Key) (e : Stamped) : Prop :=
  ¬ e.event.Invalidates cache key ∧ ∀ load value, ¬ e.event.Deposits cache key load value

theorem spares_of_isQuiet {e : Stamped} (quiet : e.event.isQuiet) (cache : String) (key : Key) :
    Spares cache key e := by
  obtain ⟨time, event⟩ := e
  cases event with
  | landed id c k outcome kept => cases quiet
  | invalidated c k => cases quiet
  | allInvalidated c => cases quiet
  | _ => exact ⟨id, fun _ _ => nofun⟩

theorem stored_of_deposits {cache : String} {key : Key} {e : Stamped} {load : Nat} {value : Stored Value}
    (h : e.event.Deposits cache key load value) (past : History) :
    stored cache key (e :: past) = some (load, value) := by
  show e.event.storedAfter cache key _ = some (load, value)
  rw [h]
  exact if_pos ⟨rfl, rfl⟩

theorem stored_of_spares {cache : String} {key : Key} {e : Stamped} (h : Spares cache key e) (past : History) :
    stored cache key (e :: past) = stored cache key past := by
  obtain ⟨time, event⟩ := e
  obtain ⟨hinvalid, hdep⟩ := h
  show event.storedAfter cache key _ = _
  cases event with
  | landed id c k outcome kept =>
    cases outcome with
    | error failure => rfl
    | ok value =>
      cases kept with
      | false => rfl
      | true =>
        refine if_neg ?_
        rintro ⟨rfl, rfl⟩
        exact hdep id value rfl
  | invalidated c k => exact if_neg hinvalid
  | allInvalidated c => exact if_neg hinvalid
  | lookedUp c k found => rfl
  | called call caller => rfl
  | lockTimedOut c k id timeout => rfl
  | passedThrough c k => rfl
  | answered task answer => rfl

theorem deposits_of_storedAfter {cache : String} {key : Key} {before : Option (Nat × Stored Value)} {e : Stamped}
    {load : Nat} {value : Stored Value} (h : e.event.storedAfter cache key before = some (load, value)) :
    e.event.Deposits cache key load value ∨ before = some (load, value) ∧ Spares cache key e := by
  obtain ⟨time, event⟩ := e
  cases event with
  | landed id c k outcome kept =>
    cases outcome with
    | error failure => exact .inr ⟨h, fun hno => hno, fun _ _ => nofun⟩
    | ok v =>
      cases kept with
      | false => exact .inr ⟨h, fun hno => hno, fun _ _ => nofun⟩
      | true =>
        simp only [Event.storedAfter] at h
        split at h
        next hkey =>
          obtain ⟨rfl, rfl⟩ := hkey
          cases h
          exact .inl rfl
        next hkey =>
          refine .inr ⟨h, fun hno => hno, fun _ _ hdep => hkey ?_⟩
          cases hdep
          exact ⟨rfl, rfl⟩
  | invalidated c k =>
    simp only [Event.storedAfter] at h
    split at h
    · cases h
    next hkey => exact .inr ⟨h, hkey, fun _ _ => nofun⟩
  | allInvalidated c =>
    simp only [Event.storedAfter] at h
    split at h
    · cases h
    next hkey => exact .inr ⟨h, hkey, fun _ _ => nofun⟩
  | lookedUp c k found => exact .inr ⟨h, fun hno => hno, fun _ _ => nofun⟩
  | called call caller => exact .inr ⟨h, fun hno => hno, fun _ _ => nofun⟩
  | lockTimedOut c k id timeout => exact .inr ⟨h, fun hno => hno, fun _ _ => nofun⟩
  | passedThrough c k => exact .inr ⟨h, fun hno => hno, fun _ _ => nofun⟩
  | answered task answer => exact .inr ⟨h, fun hno => hno, fun _ _ => nofun⟩

/-- What is stored was brought by a load that has landed. -/
theorem deposit_of_stored {past : History} {cache : String} {key : Key} {load : Nat} {value : Stored Value}
    (h : stored cache key past = some (load, value)) : ∃ e ∈ past, e.event.Deposits cache key load value := by
  induction past with
  | nil => cases h
  | cons e past ih =>
    rcases deposits_of_storedAfter h with hdep | ⟨hbefore, -⟩
    · exact ⟨e, List.mem_cons_self .., hdep⟩
    · obtain ⟨d, hd, hdep⟩ := ih hbefore
      exact ⟨d, List.mem_cons_of_mem e hd, hdep⟩

/-- What is stored after an invalidation was brought by a load that landed after it. -/
theorem landing_of_stored {later past : History} {e : Stamped} {cache : String} {key : Key} {load : Nat}
    {value : Stored Value} (hinvalid : e.event.Invalidates cache key)
    (h : stored cache key (later ++ e :: past) = some (load, value)) :
    ∃ since d mid, later = since ++ d :: mid ∧ d.event.Deposits cache key load value ∧
      ∀ s ∈ since, Spares cache key s := by
  induction later with
  | nil =>
    rw [List.nil_append, stored, storedAfter_of_invalidates hinvalid] at h
    cases h
  | cons s later ih =>
    rcases deposits_of_storedAfter h with hdep | ⟨hbefore, hspares⟩
    · exact ⟨[], s, later, rfl, hdep, nofun⟩
    · obtain ⟨since, d, mid, rfl, hdep, hsince⟩ := ih hbefore
      refine ⟨s :: since, d, mid, rfl, hdep, fun s' hs' => ?_⟩
      rcases List.mem_cons.1 hs' with rfl | hs'
      · exact hspares
      · exact hsince s' hs'

/-- The load that brought a value which is stored after an invalidation was started after it too. -/
theorem start_of_landing {mid past : History} {d e : Stamped} {cache : String} {key : Key} {load : Nat}
    {value : Stored Value} (hlawful : Lawful (d :: (mid ++ e :: past))) (hinvalid : e.event.Invalidates cache key)
    (hdep : d.event.Deposits cache key load value) : ∃ s ∈ mid, s.event.Starts cache key load := by
  cases hlawful with
  | cons hrest hd =>
    -- the value was stored, so the load was in flight when it landed
    rw [hdep] at hd
    exact start_of_flight hinvalid (hd.2.2.2.1 rfl)

/-! ### Once only -/

/-- An event that is lawful only if there was none of its kind happens at most once. -/
private theorem countP_le_one {kind : Event → Bool}
    (hkind : ∀ (e : Event) (past : History), e.Lawful past → kind e = true → ∀ other ∈ past, ¬ kind other.event = true)
    {past : History} (h : Lawful past) : past.countP (kind ·.event) ≤ 1 := by
  induction h with
  | nil => exact Nat.zero_le 1
  | @cons e past _ he ih =>
    rw [List.countP_cons]
    by_cases hfirst : kind e.event = true
    · have hnone : past.countP (kind ·.event) = 0 := List.countP_eq_zero.2 (hkind e.event past he hfirst)
      rw [if_pos hfirst]
      omega
    · rw [if_neg hfirst]
      exact ih

theorem countP_callsFor {past : History} (h : Lawful past) (load : Nat) :
    past.countP (·.event.callsFor load) ≤ 1 := by
  refine countP_le_one (fun e past he hcalls => ?_) h
  cases e with
  | called call caller =>
    obtain rfl : caller = some load := of_decide_eq_true hcalls
    exact he.2
  | _ => cases hcalls

/-- A load that has landed has called its loader, once. -/
theorem countP_callsFor_of_lands {past : History} (h : Lawful past) {e : Stamped} (he : e ∈ past) {load : Nat}
    (hlands : e.event.lands load = true) : past.countP (·.event.callsFor load) = 1 := by
  obtain ⟨earlier, hlawful, hmem⟩ := h.event he
  have hcalled : ∃ c ∈ past, c.event.callsFor load = true := by
    cases heq : e.event with
    | landed id cache key outcome kept =>
      rw [heq] at hlawful hlands
      obtain rfl : id = load := of_decide_eq_true hlands
      obtain ⟨-, ⟨c, hc, hcalls⟩, -⟩ := hlawful
      exact ⟨c, hmem c hc, hcalls⟩
    | _ =>
      rw [heq] at hlands
      cases hlands
  have hpos : 0 < past.countP (·.event.callsFor load) := List.countP_pos_iff.2 hcalled
  have hle := countP_callsFor h load
  omega

theorem countP_lands {past : History} (h : Lawful past) (load : Nat) : past.countP (·.event.lands load) ≤ 1 := by
  refine countP_le_one (fun e past he hlands => ?_) h
  cases e with
  | landed id cache key outcome kept =>
    obtain rfl : id = load := of_decide_eq_true hlands
    exact he.2.2.1
  | _ => cases hlands

/-- What happens once at most. -/
theorem eq_of_countP {history : History} {kind : Event → Bool} (honce : history.countP (kind ·.event) ≤ 1)
    {a b : Stamped} (ha : a ∈ history) (hb : b ∈ history) (hkind : kind a.event = true) (hkind' : kind b.event = true) :
    a = b := by
  rw [List.countP_eq_length_filter] at honce
  have ha' : a ∈ history.filter (kind ·.event) := List.mem_filter.2 ⟨ha, hkind⟩
  have hb' : b ∈ history.filter (kind ·.event) := List.mem_filter.2 ⟨hb, hkind'⟩
  generalize history.filter (kind ·.event) = those at honce ha' hb'
  match those with
  | [] => cases ha'
  | [only] => rw [List.mem_singleton.1 ha', List.mem_singleton.1 hb']
  | _ :: _ :: _ => simp at honce

/-- A load lands once. -/
theorem eq_of_lands {history : History} (lawful : Lawful history) {id : Nat} {a b : Stamped}
    (ha : a ∈ history) (hb : b ∈ history) (hlands : a.event.lands id = true) (hlands' : b.event.lands id = true) :
    a = b := eq_of_countP (countP_lands lawful id) ha hb hlands hlands'

/-- A load calls its loader once. -/
theorem eq_of_callsFor {history : History} (lawful : Lawful history) {id : Nat} {a b : Stamped}
    (ha : a ∈ history) (hb : b ∈ history) (hcalls : a.event.callsFor id = true)
    (hcalls' : b.event.callsFor id = true) : a = b := eq_of_countP (countP_callsFor lawful id) ha hb hcalls hcalls'

end History

end SingleFlight
