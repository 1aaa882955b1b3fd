import Mathlib.Data.List.Chain
import SingleFlight.Proofs.Reached

/-!
# Retention

In a store without a size limit the entries are what the events so far tell: a load that lands stores its value, a
lookup that finds the value reads it, an invalidation removes it (`System.recalls_of_reached`). A value is found as long
as neither of its limits has run out, the one since it was stored and the one since it was read last.

* `History.Retained` says so of the whole history: the last event that stored or removed the key's value stored this
  one, and no limit ran out since then, neither up to now nor between two of its reads;
* two readings of the clock are never equal, so a limit of one nanosecond has run out within the same millisecond. But
  limits of whole milliseconds run out at the same moment however little or much of a millisecond passes between two
  readings (`lasts_of_whole`);
* with such limits a lookup finds a value if and only if it is retained; with others it finds none that is not, and all
  that are retained with a millisecond to spare (`System.found_iff_retained`).
-/

namespace SingleFlight

/-- The limit, if there is one, has not run out at `now`, counted from `since`. Times are in ms; the clock is read
`tick` nanoseconds later within `now` than it was within `since`. -/
def Lasts (tick : Nat) (limit : Option Duration) (since now : Nat) : Prop :=
  ∀ d, limit = some d → now * 1000000 + tick < since * 1000000 + d.nanos

/-- A limit of whole milliseconds does not tell how much of one passes between two readings. -/
theorem lasts_ofMillis {tick : Nat} (htick : tick < 1000000) (limit since now : Nat) :
    Lasts tick (some (.ofMillis limit)) since now ↔ now < since + limit := by
  constructor
  · intro h
    have hnanos : now * 1000000 + tick < since * 1000000 + limit * 1000000 := h _ rfl
    omega
  · rintro h d ⟨⟩
    show now * 1000000 + tick < since * 1000000 + limit * 1000000
    omega

/-- The limits are whole numbers of milliseconds. -/
def Tuning.Whole (tuning : Tuning) : Prop := ∀ kind d, tuning.expiry kind = some d → ∃ ms, d = .ofMillis ms

theorem lasts_of_whole {tuning : Tuning} (whole : tuning.Whole) (kind : ExpiryKind) {tick : Nat}
    (htick : tick < 1000000) {since now : Nat} (h : Lasts 0 (tuning.expiry kind) since now) :
    Lasts tick (tuning.expiry kind) since now := by
  cases hlimit : tuning.expiry kind with
  | none => exact nofun
  | some d =>
    obtain ⟨ms, rfl⟩ := whole kind d hlimit
    rw [hlimit, lasts_ofMillis (by decide)] at h
    exact (lasts_ofMillis htick ..).2 h

/-- What lasts lasts still if less time passes between two readings. -/
theorem Lasts.mono {tick less : Nat} (hle : less ≤ tick) {limit : Option Duration} {since now : Nat}
    (h : Lasts tick limit since now) : Lasts less limit since now :=
  fun d hd => Nat.lt_of_le_of_lt (Nat.add_le_add_left hle _) (h d hd)

theorem lasts_of_within {limit : Option Duration} {since now : Nat} (h : within limit since now = true) :
    Lasts 1 limit since now := by
  rintro d rfl
  rw [LocalStore.within_some] at h
  have hle : now * 1000000 ≤ since * 1000000 + (now - since) * 1000000 := by
    rw [← Nat.add_mul]
    exact Nat.mul_le_mul_right _ (by omega)
  calc now * 1000000 + 1 ≤ since * 1000000 + (now - since) * 1000000 + 1 := Nat.add_le_add_right hle 1
    _ = since * 1000000 + ((now - since) * 1000000 + 1) := Nat.add_assoc ..
    _ < since * 1000000 + d.nanos := Nat.add_lt_add_left h _

theorem within_of_lasts {limit : Option Duration} {since now : Nat} (hle : since ≤ now) (h : Lasts 1 limit since now) :
    within limit since now = true := by
  cases limit with
  | none => rfl
  | some d =>
    obtain ⟨span, rfl⟩ := Nat.exists_eq_add_of_le hle
    have hnanos : (since + span) * 1000000 + 1 < since * 1000000 + d.nanos := h d rfl
    rw [Nat.add_mul, Nat.add_assoc, Nat.add_lt_add_iff_left] at hnanos
    rwa [LocalStore.within_some, Nat.add_sub_cancel_left]

namespace Event

/-- The entry of the key after the event, which happens at `now`. -/
def entryAfter (cache : String) (key : Key) (now : Nat) (before : Option Entry) : Event → Option Entry
  | landed _ c k (.ok value) true => if c = cache ∧ k = key then some ⟨value, now, now⟩ else before
  | lookedUp c k (.stored _) =>
    if c = cache ∧ k = key then before.map fun entry => { entry with readAt := now } else before
  | invalidated c k => if c = cache ∧ k = key then none else before
  | allInvalidated c => if c = cache then none else before
  | _ => before

/-- A lookup that finds that value of the key. -/
def reads (cache : String) (key : Key) (value : Stored Value) : Event → Bool
  | lookedUp c k (.stored found) => decide (c = cache ∧ k = key ∧ found = value)
  | _ => false

end Event

namespace History

/-- The entry that the events leave for the key. -/
def entry (cache : String) (key : Key) : History → Option Entry
  | [] => none
  | e :: past => e.event.entryAfter cache key e.time (entry cache key past)

/-- When lookups found that value of the key, the last time first. -/
def readTimes (cache : String) (key : Key) (value : Stored Value) (history : History) : List Nat :=
  (history.filter (·.event.reads cache key value)).map (·.time)

/-- The last event that stored or removed the key's value stored this one, and no limit has run out since: neither has
the write limit since then, nor has the access limit between one read and the next, where storing the value counts as
the first read and `now` as the last. -/
def Retained (tick : Nat) (tuning : Tuning) (cache : String) (key : Key) (value : Stored Value) (now : Nat)
    (history : History) : Prop :=
  ∃ since landing past load, history = since ++ landing :: past ∧ landing.event.Deposits cache key load value ∧
    (∀ e ∈ since, Spares cache key e) ∧ landing.time ≤ now ∧
    Lasts tick tuning.expireAfterWrite landing.time now ∧
    List.IsChain (fun later earlier => Lasts tick tuning.expireAfterAccess earlier later)
      (now :: (readTimes cache key value since ++ [landing.time]))

/-- Values are retained alike if their limits are. -/
theorem Retained.imp {tick other : Nat} {tuning : Tuning} {cache : String} {key : Key} {value : Stored Value}
    {now : Nat} {history : History} (hlasts : ∀ (kind : ExpiryKind) {since now : Nat},
      Lasts tick (tuning.expiry kind) since now → Lasts other (tuning.expiry kind) since now)
    (h : Retained tick tuning cache key value now history) :
    Retained other tuning cache key value now history := by
  obtain ⟨since, landing, past, load, hhistory, hdep, hspared, htime, hwrite, hreads⟩ := h
  exact ⟨since, landing, past, load, hhistory, hdep, hspared, htime, hlasts .afterWrite hwrite,
    hreads.imp fun _ _ => hlasts .afterAccess⟩

theorem entry_of_invalidates {cache : String} {key : Key} {e : Stamped} (h : e.event.Invalidates cache key)
    (past : History) : entry cache key (e :: past) = none := by
  obtain ⟨time, event⟩ := e
  cases event with
  | invalidated c k => exact if_pos h
  | allInvalidated c => exact if_pos h
  | _ => cases h

theorem entry_of_deposits {cache : String} {key : Key} {e : Stamped} {load : Nat} {value : Stored Value}
    (h : e.event.Deposits cache key load value) (past : History) :
    entry cache key (e :: past) = some ⟨value, e.time, e.time⟩ := by
  show e.event.entryAfter cache key e.time _ = _
  rw [h]
  exact if_pos ⟨rfl, rfl⟩

/-- What neither stores nor removes the value may read it. -/
theorem entry_of_spares {cache : String} {key : Key} {e : Stamped} (h : Spares cache key e) (past : History) :
    (entry cache key (e :: past) = entry cache key past ∧ ∀ value, e.event.reads cache key value = false) ∨
      ∃ value, e.event = .lookedUp cache key (.stored value) ∧
        entry cache key (e :: past) = (entry cache key past).map fun found => { found with readAt := e.time } := by
  obtain ⟨time, event⟩ := e
  obtain ⟨hinvalid, hdep⟩ := h
  cases event with
  | lookedUp c k found =>
    cases found with
    | stored value =>
      by_cases hkey : c = cache ∧ k = key
      · obtain ⟨rfl, rfl⟩ := hkey
        exact .inr ⟨value, rfl, if_pos ⟨rfl, rfl⟩⟩
      · refine .inl ⟨if_neg hkey, fun value => decide_eq_false ?_⟩
        exact fun hsame => hkey ⟨hsame.1, hsame.2.1⟩
    | joined id => exact .inl ⟨rfl, fun _ => rfl⟩
    | started id => exact .inl ⟨rfl, fun _ => rfl⟩
  | landed id c k outcome kept =>
    refine .inl ⟨?_, fun _ => rfl⟩
    cases outcome with
    | error failure => rfl
    | ok value =>
      cases kept with
      | false => rfl
      | true =>
        refine if_neg ?_
        rintro ⟨rfl, rfl⟩
        exact hdep id value rfl
  | invalidated c k => exact .inl ⟨if_neg hinvalid, fun _ => rfl⟩
  | allInvalidated c => exact .inl ⟨if_neg hinvalid, fun _ => rfl⟩
  | called call caller => exact .inl ⟨rfl, fun _ => rfl⟩
  | lockTimedOut c k id timeout => exact .inl ⟨rfl, fun _ => rfl⟩
  | passedThrough c k => exact .inl ⟨rfl, fun _ => rfl⟩
  | answered task answer => exact .inl ⟨rfl, fun _ => rfl⟩

/-- The value that is stored after a landing and events that spare it. -/
theorem stored_of_landing {cache : String} {key : Key} {since past : History} {landing : Stamped} {load : Nat}
    {value : Stored Value} (hdep : landing.event.Deposits cache key load value)
    (hsince : ∀ e ∈ since, Spares cache key e) :
    stored cache key (since ++ landing :: past) = some (load, value) := by
  induction since with
  | nil => exact stored_of_deposits hdep past
  | cons e since ih =>
    rw [List.cons_append, stored_of_spares (hsince e (List.mem_cons_self ..))]
    exact ih fun e' he' => hsince e' (List.mem_cons_of_mem e he')

theorem readTimes_cons_of_reads {cache : String} {key : Key} {value : Stored Value} {e : Stamped}
    (h : e.event.reads cache key value = true) (since : History) :
    readTimes cache key value (e :: since) = e.time :: readTimes cache key value since := by
  rw [readTimes, List.filter_cons, if_pos h]
  rfl

theorem readTimes_cons_of_not_reads {cache : String} {key : Key} {value : Stored Value} {e : Stamped}
    (h : e.event.reads cache key value = false) (since : History) :
    readTimes cache key value (e :: since) = readTimes cache key value since := by
  rw [readTimes, List.filter_cons, if_neg (by rw [h]; exact Bool.false_ne_true)]
  rfl

/-- After a landing and events that spare its value, the entry tells when the load landed and when the value was read
last. -/
theorem entry_of_landing {cache : String} {key : Key} {since past : History} {landing : Stamped} {load : Nat}
    {value : Stored Value} (lawful : Lawful (since ++ landing :: past))
    (hdep : landing.event.Deposits cache key load value) (hsince : ∀ e ∈ since, Spares cache key e) :
    ∃ found, entry cache key (since ++ landing :: past) = some found ∧ found.value = value ∧
      found.storedAt = landing.time ∧
      (readTimes cache key value since ++ [landing.time]).head? = some found.readAt := by
  induction since with
  | nil => exact ⟨_, entry_of_deposits hdep past, rfl, rfl, rfl⟩
  | cons e since ih =>
    have hlawful : Lawful (e :: (since ++ landing :: past)) := lawful
    obtain ⟨hrest, hevent⟩ := lawful_cons.1 hlawful
    have hspared : ∀ e' ∈ since, Spares cache key e' := fun e' he' => hsince e' (List.mem_cons_of_mem e he')
    obtain ⟨found, hfound, hvalue, hstored, hread⟩ := ih hrest hspared
    rcases entry_of_spares (hsince e (List.mem_cons_self ..)) (since ++ landing :: past) with
      ⟨hsame, hno⟩ | ⟨seen, hlook, hsame⟩
    · refine ⟨found, hsame.trans hfound, hvalue, hstored, ?_⟩
      rw [readTimes_cons_of_not_reads (hno value)]
      exact hread
    · -- what a lookup finds is what was stored last, so it has read this very value
      rw [hlook] at hevent
      obtain ⟨-, other, hother⟩ := hevent
      rw [stored_of_landing hdep hspared] at hother
      cases hother
      refine ⟨{ found with readAt := e.time }, hsame.trans (by rw [hfound]; rfl), hvalue, hstored, ?_⟩
      rw [readTimes_cons_of_reads (by rw [hlook]; exact decide_eq_true ⟨rfl, rfl, rfl⟩)]
      rfl

/-- An entry comes from a landing, after which nothing stored or removed the value. -/
theorem landing_of_entry {cache : String} {key : Key} {history : History} {found : Entry}
    (h : entry cache key history = some found) : ∃ since landing past load, history = since ++ landing :: past ∧
      landing.event.Deposits cache key load found.value ∧ ∀ e ∈ since, Spares cache key e := by
  induction history generalizing found with
  | nil => cases h
  | cons e history ih =>
    have hcons : ∀ {before}, Spares cache key e → entry cache key history = some before → before.value = found.value →
        ∃ since landing past load, e :: history = since ++ landing :: past ∧
          landing.event.Deposits cache key load found.value ∧ ∀ e ∈ since, Spares cache key e := by
      intro before hspares hbefore hvalue
      obtain ⟨since, landing, past, load, rfl, hdep, hsince⟩ := ih hbefore
      refine ⟨e :: since, landing, past, load, rfl, hvalue ▸ hdep, fun e' he' => ?_⟩
      rcases List.mem_cons.1 he' with rfl | he'
      · exact hspares
      · exact hsince e' he'
    by_cases hinvalid : e.event.Invalidates cache key
    · rw [entry_of_invalidates hinvalid] at h
      cases h
    · by_cases hdep : ∃ load value, e.event.Deposits cache key load value
      · obtain ⟨load, value, hdep⟩ := hdep
        rw [entry_of_deposits hdep] at h
        cases h
        exact ⟨[], e, history, load, rfl, hdep, nofun⟩
      · have hspares : Spares cache key e := ⟨hinvalid, fun load value h => hdep ⟨load, value, h⟩⟩
        rcases entry_of_spares hspares history with ⟨hsame, -⟩ | ⟨value, -, hsame⟩
        · exact hcons hspares (hsame ▸ h) rfl
        · rw [hsame] at h
          obtain ⟨before, hbefore, rfl⟩ := Option.map_eq_some_iff.1 h
          exact hcons hspares hbefore rfl

/-- Every read came before the access limit had run out since the one before. -/
def Timely (limit : Option Duration) (cache : String) (key : Key) : History → Prop
  | [] => True
  | e :: past => (∀ value, e.event.reads cache key value = true →
      ∃ found, entry cache key past = some found ∧ within limit found.readAt e.time = true) ∧
    Timely limit cache key past

/-- In a timely history no gap between two reads of a value exceeds the limit. -/
theorem Timely.isChain {limit : Option Duration} {cache : String} {key : Key} {since past : History}
    {landing : Stamped} {load : Nat} {value : Stored Value} (lawful : Lawful (since ++ landing :: past))
    (timely : Timely limit cache key (since ++ landing :: past))
    (hdep : landing.event.Deposits cache key load value) (hsince : ∀ e ∈ since, Spares cache key e) :
    List.IsChain (fun later earlier => Lasts 1 limit earlier later)
      (readTimes cache key value since ++ [landing.time]) := by
  induction since with
  | nil => exact .singleton _
  | cons e since ih =>
    have hlawful : Lawful (e :: (since ++ landing :: past)) := lawful
    obtain ⟨hrest, -⟩ := lawful_cons.1 hlawful
    have hspared : ∀ e' ∈ since, Spares cache key e' := fun e' he' => hsince e' (List.mem_cons_of_mem e he')
    have hchain := ih hrest timely.2 hspared
    cases hreads : e.event.reads cache key value with
    | false =>
      rw [readTimes_cons_of_not_reads hreads]
      exact hchain
    | true =>
      -- the read before this one is the one that the entry tells
      obtain ⟨seen, hseen, hwithin⟩ := timely.1 value hreads
      obtain ⟨found, hfound, -, -, hread⟩ := entry_of_landing hrest hdep hspared
      obtain rfl : seen = found := Option.some.inj (hseen.symm.trans hfound)
      rw [readTimes_cons_of_reads hreads]
      refine hchain.cons fun earlier hearlier => ?_
      rw [Option.mem_def, hread] at hearlier
      cases hearlier
      exact lasts_of_within hwithin

end History

namespace LocalStore

/-! ### Entries of a store without a size limit -/

theorem Trimmed.find?_eq {a b : LocalStore} (h : Trimmed a b) (hsize : a.tuning.maximumSize = none) (key : Key) :
    b.entries.find? key = a.entries.find? key := by
  rcases h.entries key with heq | ⟨hsome, -⟩
  · exact heq
  · rw [hsize] at hsome
    cases hsome

section
variable {store : LocalStore} (hsize : store.tuning.maximumSize = none) (now : Nat) (key other : Key)
include hsize

theorem find?_touch : (store.touch now key).entries.find? other =
    if other = key then (store.entries.find? other).map fun entry => { entry with readAt := now }
    else store.entries.find? other := by
  rw [(trimmed_touch store now key).find?_eq hsize]
  exact Assoc.find?_modify ..

theorem find?_launch (load : Nat) : (store.launch now key load).entries.find? other = store.entries.find? other :=
  ((trimmed_miss store now key).trans (trimmed_miss _ now key)).find?_eq hsize other

theorem find?_conclude (outcome : LoadResult) : (System.conclude now key outcome store).entries.find? other =
    match outcome with
    | .ok value => if other = key then some ⟨value, now, now⟩ else store.entries.find? other
    | .error _ => store.entries.find? other := by
  cases outcome with
  | error failure => rfl
  | ok value =>
    have hroom : store.tuning.maximumSize ≠ some 0 := by rw [hsize]; nofun
    have hput := (trimmed_put store now key value hroom).find?_eq hsize other
    exact hput.trans (Assoc.find?_insert ..)

theorem find?_invalidate : (store.invalidate now key).entries.find? other =
    if other = key then none else store.entries.find? other := by
  rw [(trimmed_invalidate store now key).find?_eq hsize]
  exact Assoc.find?_erase ..

end

end LocalStore

namespace System

/-! ### What the history recalls -/

/-- The history tells the entries of the stores without a size limit, and their reads were in time. -/
structure Recalls (s : System) : Prop where
  time : ∀ e ∈ s.history, e.time ≤ s.now
  entry : ∀ name store key, s.store? name = some store → store.tuning.maximumSize = none →
    store.entries.find? key = History.entry name key s.history
  timely : ∀ name store key, s.store? name = some store → store.tuning.maximumSize = none →
    History.Timely store.tuning.expireAfterAccess name key s.history

namespace Recalls

/-- The event tells what the change does to the entry of the key, and reads it in time if it reads it. -/
structure Notes (s : System) (event : Event) (name : String) (key : Key) (before after : LocalStore) : Prop where
  entry : after.entries.find? key = event.entryAfter name key s.now (before.entries.find? key)
  timely : ∀ value, event.reads name key value = true → ∃ entry, before.entries.find? key = some entry ∧
    within before.tuning.expireAfterAccess entry.readAt s.now = true

/-- A step with one event. -/
theorem step {s t : System} (h : s.Recalls) {event : Event} (hnow : t.now = s.now)
    (hhistory : t.history = ⟨s.now, event⟩ :: s.history)
    (hnotes : ∀ name after, t.store? name = some after → ∃ before, s.store? name = some before ∧
      after.tuning = before.tuning ∧ (before.tuning.maximumSize = none → ∀ key, Notes s event name key before after)) :
    t.Recalls where
  time e he := by
    rw [hhistory] at he
    rw [hnow]
    rcases List.mem_cons.1 he with rfl | he
    · exact Nat.le_refl _
    · exact h.time e he
  entry name after key hafter hsize := by
    obtain ⟨before, hbefore, htuning, hnote⟩ := hnotes name after hafter
    rw [htuning] at hsize
    rw [(hnote hsize key).entry, h.entry name before key hbefore hsize, hhistory]
    rfl
  timely name after key hafter hsize := by
    obtain ⟨before, hbefore, htuning, hnote⟩ := hnotes name after hafter
    rw [htuning] at hsize ⊢
    rw [hhistory]
    refine ⟨fun value hreads => ?_, h.timely name before key hbefore hsize⟩
    obtain ⟨entry, hentry, hwithin⟩ := (hnote hsize key).timely value hreads
    exact ⟨entry, (h.entry name before key hbefore hsize).symm.trans hentry, hwithin⟩

/-- An event that leaves all stores as they are. -/
theorem emit {s : System} (h : s.Recalls) {event : Event}
    (hsame : ∀ name key before, event.entryAfter name key s.now before = before)
    (hreads : ∀ name key value, event.reads name key value = false) : (s.emit event).Recalls := by
  refine h.step rfl rfl fun name store hstore => ⟨store, hstore, rfl, fun _ key => ⟨(hsame ..).symm, ?_⟩⟩
  intro value hread
  rw [hreads] at hread
  cases hread

/-- A change of one store. -/
theorem mapStore_emit {s : System} (h : s.Recalls) {name : String} {f : LocalStore → LocalStore} {event : Event}
    (htuning : ∀ store, (f store).tuning = store.tuning)
    (hself : ∀ store, s.store? name = some store → store.tuning.maximumSize = none →
      ∀ key, Notes s event name key store (f store))
    (hother : ∀ other store, other ≠ name → ∀ key, Notes s event other key store store) :
    ((s.mapStore name f).emit event).Recalls := by
  refine h.step rfl rfl fun other after hafter => ?_
  rw [store?_emit, store?_mapStore] at hafter
  split at hafter
  next hname =>
    obtain ⟨before, hbefore, rfl⟩ := Option.map_eq_some_iff.1 hafter
    exact ⟨before, hbefore, htuning before, hname ▸ hself before (hname ▸ hbefore)⟩
  next hname => exact ⟨after, hafter, rfl, fun _ => hother other after hname⟩

/-- A change without an event, which costs no entry. -/
theorem mapStore {s : System} (h : s.Recalls) {name : String} {f : LocalStore → LocalStore}
    (htrimmed : ∀ store, LocalStore.Trimmed store (f store)) : (s.mapStore name f).Recalls := by
  have hbefore : ∀ other after, (s.mapStore name f).store? other = some after → ∃ before,
      s.store? other = some before ∧ LocalStore.Trimmed before after := by
    intro other after hafter
    rw [store?_mapStore] at hafter
    split at hafter
    · obtain ⟨before, hstore, rfl⟩ := Option.map_eq_some_iff.1 hafter
      exact ⟨before, hstore, htrimmed before⟩
    · exact ⟨after, hafter, .refl after⟩
  refine ⟨h.time, fun other after key hafter hsize => ?_, fun other after key hafter hsize => ?_⟩
  · obtain ⟨before, hstore, htrim⟩ := hbefore other after hafter
    rw [htrim.tuning] at hsize
    rw [htrim.find?_eq hsize, h.entry other before key hstore hsize]
    rfl
  · obtain ⟨before, hstore, htrim⟩ := hbefore other after hafter
    rw [htrim.tuning] at hsize ⊢
    exact h.timely other before key hstore hsize

theorem lookUp {s : System} (h : s.Recalls) {store : LocalStore} (hstore : s.store? store.name = some store)
    (label : String) (key : Key) (loader : Loader τ) :
    (s.lookUp store ⟨label, store.name, key⟩ loader).1.Recalls := by
  unfold System.lookUp
  split
  next value hpeek =>
    -- the value is there, so its entry is live and is read in time
    obtain ⟨found, hfound, hlive, -⟩ := LocalStore.peek_eq_some.1 hpeek
    have hfound : store.entries.find? key = some found := hfound
    refine h.mapStore_emit (fun st => LocalStore.tuning_touch st _ _) (fun st hst hsize other => ?_)
      fun name st hname other => ⟨(if_neg fun hsame => hname hsame.1.symm).symm, fun value' hreads => ?_⟩
    · rw [hstore] at hst
      cases hst
      refine ⟨?_, fun value' hreads => ?_⟩
      · rw [LocalStore.find?_touch hsize]
        by_cases hother : other = key
        · rw [if_pos hother]
          exact (if_pos ⟨rfl, hother.symm⟩).symm
        · rw [if_neg hother]
          exact (if_neg fun hsame => hother hsame.2.symm).symm
      · obtain ⟨-, rfl, -⟩ := of_decide_eq_true hreads
        exact ⟨found, hfound, (Bool.and_eq_true_iff.1 hlive).2⟩
    · exact absurd (of_decide_eq_true hreads).1.symm hname
  next hpeek =>
    split
    next flight hfind =>
      refine h.mapStore_emit (fun st => (LocalStore.trimmed_miss st _ _).tuning) (fun st _ hsize other => ?_)
        fun name st _ other => ⟨rfl, nofun⟩
      exact ⟨(LocalStore.trimmed_miss st _ _).find?_eq hsize other, nofun⟩
    next hfind =>
      have hlaunched : ((s.mapStore store.name (·.launch s.now key s.loads.length)).emit
          (.lookedUp store.name key (.started s.loads.length))).Recalls := by
        refine h.mapStore_emit (fun st => LocalStore.tuning_launch st _ _ _) (fun st _ hsize other => ?_)
          fun name st _ other => ⟨rfl, nofun⟩
        exact ⟨LocalStore.find?_launch hsize _ _ other _, nofun⟩
      exact ⟨hlaunched.time, hlaunched.entry, hlaunched.timely⟩

theorem land {s : System} (h : s.Recalls) (id : Nat) (cache : String) (key : Key) (number : Nat)
    (outcome : LoadResult) : (s.land id cache key number outcome).Recalls := by
  cases hin : s.inFlight cache key number with
  | false =>
    rw [land_of_detached hin]
    have hset : (s.setLoad id (.ended outcome)).Recalls := ⟨h.time, h.entry, h.timely⟩
    refine hset.emit (fun name other before => ?_) fun _ _ _ => rfl
    cases outcome with
    | ok value => rfl
    | error failure => rfl
  | true =>
    rw [land_of_kept hin]
    have hlanded : ((s.mapStore cache (conclude s.now key outcome)).emit
        (.landed id cache key outcome true)).Recalls := by
      refine h.mapStore_emit (fun st => tuning_conclude _ _ _ st) (fun st _ hsize other => ⟨?_, nofun⟩)
        fun name st hname other => ⟨?_, nofun⟩
      · rw [LocalStore.find?_conclude hsize]
        cases outcome with
        | error failure => rfl
        | ok value =>
          by_cases hother : other = key
          · exact (if_pos hother).trans (if_pos ⟨rfl, hother.symm⟩).symm
          · exact (if_neg hother).trans (if_neg fun hsame => hother hsame.2.symm).symm
      · cases outcome with
        | error failure => rfl
        | ok value => exact (if_neg fun hsame => hname hsame.1.symm).symm
    exact ⟨hlanded.time, hlanded.entry, hlanded.timely⟩

theorem invalidateIn {s : System} (h : s.Recalls) (cache : Cache) (key : Key) : (s.invalidateIn cache key).Recalls := by
  match cache with
  | .passThrough _ => exact h
  | .local store =>
    refine h.mapStore_emit (fun st => LocalStore.tuning_invalidate st _ _) (fun st _ hsize other => ⟨?_, nofun⟩)
      fun name st hname other => ⟨(if_neg fun hsame => hname hsame.1.symm).symm, nofun⟩
    rw [LocalStore.find?_invalidate hsize]
    by_cases hother : other = key
    · exact (if_pos hother).trans (if_pos ⟨rfl, hother.symm⟩).symm
    · exact (if_neg hother).trans (if_neg fun hsame => hother hsame.2.symm).symm

theorem invalidateAllIn {s : System} (h : s.Recalls) (cache : Cache) : (s.invalidateAllIn cache).Recalls := by
  match cache with
  | .passThrough _ => exact h
  | .local store =>
    exact h.mapStore_emit (fun _ => rfl) (fun st _ _ other => ⟨(if_pos rfl).symm, nofun⟩)
      fun name st hname other => ⟨(if_neg fun hsame => hname hsame.symm).symm, nofun⟩

theorem move {s t : System} (named : s.Named) (h : s.Recalls) (move : Move s t) : t.Recalls := by
  cases move with
  | elapse s ms => exact ⟨fun e he => Nat.le_add_right_of_le (h.time e he), h.entry, h.timely⟩
  | @note _ event aside =>
    refine h.emit (fun name key before => ?_) fun name key value => ?_
    · cases event with
      | lookedUp c k found => cases aside
      | landed id c k outcome kept => cases aside
      | invalidated c k => cases aside
      | allInvalidated c => cases aside
      | _ => rfl
    · cases event with
      | lookedUp c k found => cases aside
      | _ => rfl
  | @lookUp _ _ name store hfind label key loader =>
    have hname := named.name_of_find? hfind
    exact h.lookUp (hname ▸ store?_of_find? hfind) label key loader
  | @call _ id number cache key τ call loader hload =>
    have hset : (s.setLoad id .busy).Recalls := ⟨h.time, h.entry, h.timely⟩
    exact hset.emit (fun _ _ _ => rfl) fun _ _ _ => rfl
  | resume hload called => exact ⟨h.time, h.entry, h.timely⟩
  | pause hload called => exact ⟨h.time, h.entry, h.timely⟩
  | land hload outcome => exact h.land _ _ _ _ outcome
  | invalidate hfind key => exact h.invalidateIn _ key
  | invalidateAll hfind => exact h.invalidateAllIn _
  | tend s name => exact h.mapStore fun st => LocalStore.trimmed_tend st _ _

end Recalls

theorem recalls_of_reached {s : System} (reached : s.Reached) : s.Recalls := by
  obtain ⟨registry, built, moves⟩ := reached
  have hboth : s.Named ∧ s.Recalls := by
    induction moves with
    | refl =>
      refine ⟨(sound_start built).named, nofun, fun name store key hstore _ => ?_, fun _ _ _ _ _ => trivial⟩
      rw [(new_of_store? built hstore).1]
      rfl
    | tail _ last ih => exact ⟨ih.1.move last, ih.2.move ih.1 last⟩
  exact hboth.2

/-! ### What a lookup finds -/

theorem peek_iff_retained {s : System} (reached : s.Reached) {name : String} {store : LocalStore}
    (hstore : s.store? name = some store) (hsize : store.tuning.maximumSize = none) {key : Key}
    {value : Stored Value} : store.peek s.now key = some value ↔
      History.Retained 1 store.tuning name key value s.now s.history := by
  have recalls := recalls_of_reached reached
  have lawful := reached.sound.told.lawful
  have hentry := recalls.entry name store key hstore hsize
  rw [LocalStore.peek_eq_some]
  constructor
  · rintro ⟨found, hfound, hlive, rfl⟩
    obtain ⟨hwrite, haccess⟩ := Bool.and_eq_true_iff.1 hlive
    obtain ⟨since, landing, past, load, hhistory, hdep, hsince⟩ :=
      History.landing_of_entry (hentry.symm.trans hfound)
    have htimely := recalls.timely name store key hstore hsize
    have htime : landing.time ≤ s.now :=
      recalls.time landing (hhistory ▸ List.mem_append_right since (List.mem_cons_self ..))
    rw [hhistory] at hentry lawful htimely
    obtain ⟨told, htold, -, hstoredAt, hread⟩ := History.entry_of_landing lawful hdep hsince
    obtain rfl : told = found := Option.some.inj (htold.symm.trans (hentry.symm.trans hfound))
    refine ⟨since, landing, past, load, hhistory, hdep, hsince, htime, ?_, ?_⟩
    · rw [← hstoredAt]
      exact lasts_of_within hwrite
    · refine (htimely.isChain lawful hdep hsince).cons fun earlier hearlier => ?_
      rw [Option.mem_def, hread] at hearlier
      cases hearlier
      exact lasts_of_within haccess
  · rintro ⟨since, landing, past, load, hhistory, hdep, hsince, htime, hwrite, hchain⟩
    rw [hhistory] at hentry lawful
    obtain ⟨found, hfound, hvalue, hstoredAt, hread⟩ := History.entry_of_landing lawful hdep hsince
    refine ⟨found, hentry.trans hfound, Bool.and_eq_true_iff.2 ⟨?_, ?_⟩, hvalue⟩
    · rw [hstoredAt]
      exact within_of_lasts htime hwrite
    · -- the last read is the landing or an event since, and neither is later than now
      have hmem : found.readAt ∈ History.readTimes name key value since ++ [landing.time] := List.mem_of_head? hread
      have hle : found.readAt ≤ s.now := by
        rcases List.mem_append.1 hmem with hmem | hmem
        · obtain ⟨e, he, heq⟩ := List.mem_map.1 hmem
          rw [← heq]
          exact recalls.time e (hhistory ▸ List.mem_append_left _ (List.mem_filter.1 he).1)
        · rw [List.mem_singleton.1 hmem]
          exact htime
      exact within_of_lasts hle (hchain.rel_head? (Option.mem_def.2 hread))

theorem found_lookUp {s : System} {store : LocalStore} {call : Call} {loader : Loader τ} {value : Stored Value} :
    (s.lookUp store call loader).2 = .stored value ↔ store.peek s.now call.key = some value := by
  unfold System.lookUp
  split
  next found hpeek =>
    rw [hpeek]
    exact ⟨fun h => congrArg some (Found.stored.inj h), fun h => congrArg Found.stored (Option.some.inj h)⟩
  next hpeek =>
    rw [hpeek]
    split
    · exact ⟨nofun, nofun⟩
    · exact ⟨nofun, nofun⟩

/-- **Retention and expiry.** If its limits are whole milliseconds, a lookup in a store without a size limit finds a
value if and only if the value is retained: it was stored by the last event about the key that stored or removed one,
and no limit has run out since. The store contains the key by the same rule, or if a load is in flight for it, and
asking whether it does changes nothing. Whatever the limits are, a value that is found is retained, and one that is
retained with a further millisecond to spare, less a nanosecond, is found; and so it is for what the store contains. -/
theorem found_iff_retained {s : System} (reached : s.Reached) {name : String} {store : LocalStore}
    (hstore : s.store? name = some store) (hsize : store.tuning.maximumSize = none) (key : Key) :
    (store.tuning.Whole →
      (∀ {τ : ValueType} (label : String) (loader : Loader τ) (value : Stored Value),
        (s.lookUp store ⟨label, store.name, key⟩ loader).2 = .stored value ↔
          History.Retained 0 store.tuning name key value s.now s.history) ∧
      (store.contains s.now key = true ↔ (∃ flight, store.inFlight.find? key = some flight) ∨
        ∃ value, History.Retained 0 store.tuning name key value s.now s.history)) ∧
    (∀ {τ : ValueType} (label : String) (loader : Loader τ) (value : Stored Value),
      ((s.lookUp store ⟨label, store.name, key⟩ loader).2 = .stored value →
        History.Retained 0 store.tuning name key value s.now s.history) ∧
      (History.Retained 999999 store.tuning name key value s.now s.history →
        (s.lookUp store ⟨label, store.name, key⟩ loader).2 = .stored value)) ∧
    ((store.contains s.now key = true → (∃ flight, store.inFlight.find? key = some flight) ∨
        ∃ value, History.Retained 0 store.tuning name key value s.now s.history) ∧
      ((∃ flight, store.inFlight.find? key = some flight) ∨
        (∃ value, History.Retained 999999 store.tuning name key value s.now s.history) →
          store.contains s.now key = true)) ∧
    ∀ (x : Session) (cache : String) (asked : Except KeyFault Key), (x.perform (.contains cache asked)).1 = x := by
  have hpeek : ∀ {value}, store.peek s.now key = some value ↔
      History.Retained 1 store.tuning name key value s.now s.history := peek_iff_retained reached hstore hsize
  have hless : ∀ {value}, store.peek s.now key = some value →
      History.Retained 0 store.tuning name key value s.now s.history :=
    fun h => (hpeek.1 h).imp fun _ => .mono (Nat.zero_le 1)
  have hmore : ∀ {value}, History.Retained 999999 store.tuning name key value s.now s.history →
      store.peek s.now key = some value := fun h => hpeek.2 (h.imp fun _ => .mono (by decide))
  have hcontains : store.contains s.now key = true ↔ (∃ flight, store.inFlight.find? key = some flight) ∨
      ∃ value, store.peek s.now key = some value := by
    rw [LocalStore.contains, Bool.or_eq_true, Option.isSome_iff_exists, Option.isSome_iff_exists]
  refine ⟨fun whole => ?_, fun label loader value => ⟨fun h => hless (found_lookUp.1 h), fun h =>
    found_lookUp.2 (hmore h)⟩, ⟨fun h => ?_, fun h => ?_⟩, fun x cache asked => ?_⟩
  · have hwhole : ∀ {value}, store.peek s.now key = some value ↔
        History.Retained 0 store.tuning name key value s.now s.history :=
      ⟨hless, fun h => hpeek.2 (h.imp fun kind => lasts_of_whole whole kind (by decide))⟩
    refine ⟨fun label loader value => found_lookUp.trans hwhole, ?_⟩
    rw [hcontains]
    simp only [hwhole]
  · exact (hcontains.1 h).imp_right fun found => found.imp fun _ => hless
  · exact hcontains.2 (h.imp_right fun retained => retained.imp fun _ => hmore)
  · cases asked <;> rfl

/-- Values go idle after 10 ms, and a day after they were stored they are gone. -/
private def dozing : Tuning := ⟨none, none, some (.ofSeconds 86400), some (.ofMillis 10), none⟩

/-- A value was stored by a load that took 20 ms, has been read 8 ms later, and 8 ms have passed again. -/
private def readOnce : System :=
  let get (loader : Loader .flag) : Session.Turn :=
    .start "a" .flag ⟨"g", "c", .ok (.ofNat 1), .registry, .zero⟩ loader
  ((Session.start (.sole "c" dozing)).play
    [get (.sleep 20 (.done none)), .poll 0, .elapse 20, .poll 0, .elapse 8, get (.done none), .poll 0,
      .elapse 8]).system

theorem found_iff_retained_readOnce : ∃ store, readOnce.store? "c" = some store ∧ store.tuning.Whole ∧
    History.Retained 0 store.tuning "c" (.ofNat 1) .absent 36 readOnce.history := by
  have built : (Registry.sole "c" dozing).Built := Registry.built_sole (by decide) rfl
  have hfacts : (readOnce.store? "c").map (fun store => (store.peek readOnce.now (.ofNat 1), store.tuning)) =
      some (some .absent, dozing) := by decide +kernel
  obtain ⟨store, hstore, hfacts⟩ := Option.map_eq_some_iff.1 hfacts
  obtain ⟨hpeek, htuning⟩ := Prod.mk.inj hfacts
  have whole : store.tuning.Whole := by
    rw [htuning]
    rintro (_ | _) d ⟨⟩
    · exact ⟨86400000, rfl⟩
    · exact ⟨10, rfl⟩
  have hsize : store.tuning.maximumSize = none := by rw [htuning]; rfl
  obtain ⟨hfound, -⟩ := (found_iff_retained (Reached.play built _) hstore hsize (.ofNat 1)).1 whole
  have hlook : (readOnce.lookUp store ⟨"g", store.name, .ofNat 1⟩ (.done none : Loader .flag)).2 = .stored .absent :=
    found_lookUp.2 hpeek
  exact ⟨store, hstore, whole, (hfound "g" (.done none) .absent).1 hlook⟩

/-- A limit of one nanosecond. -/
private def hasty : Tuning := ⟨none, none, some ⟨1⟩, none, none⟩

/-- A value was stored within this very millisecond. -/
private def storedNow : System :=
  ((Session.start (.sole "c" hasty)).play
    [.start "a" .flag ⟨"g", "c", .ok (.ofNat 1), .registry, .zero⟩ (.done none), .poll 0]).system

/-- Counted in whole milliseconds the limit of one nanosecond has not run out, and yet the value is found no more. -/
theorem not_found_storedNow : storedNow.Reached ∧ ∃ store, storedNow.store? "c" = some store ∧
    store.tuning.maximumSize = none ∧
    History.Retained 0 store.tuning "c" (.ofNat 1) .absent storedNow.now storedNow.history ∧
    ∀ (label : String) (loader : Loader .flag),
      (storedNow.lookUp store ⟨label, store.name, .ofNat 1⟩ loader).2 ≠ .stored .absent := by
  have built : (Registry.sole "c" hasty).Built := Registry.built_sole (by decide) rfl
  have hfacts : (storedNow.store? "c").map (fun store => (store.peek storedNow.now (.ofNat 1), store.tuning)) =
      some (none, hasty) := by decide +kernel
  obtain ⟨store, hstore, hfacts⟩ := Option.map_eq_some_iff.1 hfacts
  obtain ⟨hpeek, htuning⟩ := Prod.mk.inj hfacts
  have hhistory : storedNow.history = [⟨0, .answered "a" (.value none)⟩] ++
      ⟨0, .landed 0 "c" (.ofNat 1) (.ok .absent) true⟩ ::
        [⟨0, .called ⟨"g", "c", .ofNat 1⟩ (some 0)⟩, ⟨0, .lookedUp "c" (.ofNat 1) (.started 0)⟩] := rfl
  refine ⟨Reached.play built _, store, hstore, by rw [htuning]; rfl, ?_, fun label loader hfound => ?_⟩
  · have hnow : storedNow.now = 0 := rfl
    rw [htuning, hnow]
    refine ⟨_, _, _, 0, hhistory, rfl, ?_, Nat.le_refl 0, ?_, ?_⟩
    · intro e he
      rw [List.mem_singleton.1 he]
      exact ⟨id, fun _ _ => nofun⟩
    · rintro _ ⟨⟩
      decide
    · exact .cons_cons nofun (.singleton _)
  · rw [found_lookUp, hpeek] at hfound
    cases hfound

end System

end SingleFlight
