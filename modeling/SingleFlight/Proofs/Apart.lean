import SingleFlight.Proofs.Detached
import SingleFlight.Proofs.Retention

/-!
# Keys and caches do not interfere

* `System.Acts cache key` are the steps made on behalf of one key of one cache; with the invalidations of whole
  caches, the passing of time, upkeep and answers these are all the moves there are (`System.acts_of_move`);
* such a step changes one store at most, and in a store without a size limit nothing about any other key; it changes
  no load of another key, and raises no counter of another cache (`System.Confined`);
* so over any run a key keeps its value, its times and its load until an event of the key, or an invalidation of its
  whole cache, has come (`System.agree_of_moves`).
-/

namespace SingleFlight

namespace LocalStore

/-- Both stores hold the same for the key: its value with its times, and its load in flight. -/
structure Agree (key : Key) (before after : LocalStore) : Prop where
  tuning : after.tuning = before.tuning
  entry : after.entries.find? key = before.entries.find? key
  flight : after.inFlight.find? key = before.inFlight.find? key

namespace Agree

variable {key : Key} {a b c : LocalStore}

theorem refl (key : Key) (a : LocalStore) : Agree key a a := ⟨rfl, rfl, rfl⟩

theorem trans (hab : Agree key a b) (hbc : Agree key b c) : Agree key a c :=
  ⟨hbc.tuning.trans hab.tuning, hbc.entry.trans hab.entry, hbc.flight.trans hab.flight⟩

theorem contains (h : Agree key a b) (now : Nat) : b.contains now key = a.contains now key := by
  have hlive : b.live now = a.live now := by
    funext entry
    simp only [live, h.tuning]
  simp only [LocalStore.contains, peek, h.entry, h.flight, hlive]

end Agree

section
variable {store : LocalStore} (hsize : store.tuning.maximumSize = none) (now : Nat) {key other : Key}
include hsize

theorem agree_tend (key : Key) (pending : List Change) : Agree key store (store.tend now pending) :=
  ⟨rfl, (trimmed_tend store now pending).find?_eq hsize key, rfl⟩

theorem agree_miss (key other : Key) : Agree other store (store.miss now key) :=
  have htrimmed := trimmed_miss store now key
  ⟨htrimmed.tuning, htrimmed.find?_eq hsize other, congrArg (Assoc.find? · other) htrimmed.inFlight⟩

variable (hne : other ≠ key)
include hne

theorem agree_touch : Agree other store (store.touch now key) where
  tuning := tuning_touch store now key
  entry := by rw [find?_touch hsize, if_neg hne]
  flight := by rw [inFlight_touch]

theorem agree_launch (load : Nat) : Agree other store (store.launch now key load) where
  tuning := tuning_launch store now key load
  entry := find?_launch hsize now key other load
  flight := by rw [inFlight_launch, Assoc.find?_insert_of_ne _ _ hne]

theorem agree_conclude (outcome : LoadResult) : Agree other store (System.conclude now key outcome store) where
  tuning := System.tuning_conclude now key outcome store
  entry := by
    rw [find?_conclude hsize]
    cases outcome with
    | ok value => exact if_neg hne
    | error failure => rfl
  flight := by rw [System.inFlight_conclude, Assoc.find?_erase_of_ne _ hne]

theorem agree_invalidate : Agree other store (store.invalidate now key) where
  tuning := tuning_invalidate store now key
  entry := by rw [find?_invalidate hsize, if_neg hne]
  flight := by rw [inFlight_invalidate, Assoc.find?_erase_of_ne _ hne]

end

end LocalStore

/-- The event is a lookup, a landing or an invalidation of the key, or the invalidation of its whole cache. -/
def Event.Concerns (cache : String) (key : Key) : Event → Prop
  | lookedUp c k _ | landed _ c k _ _ | invalidated c k => c = cache ∧ k = key
  | allInvalidated c => c = cache
  | _ => False

namespace System

/-! ### Steps on behalf of a key -/

/-- The steps that are made on behalf of one key of one cache. -/
inductive Acts (cache : String) (key : Key) : System → System → Prop where
  | lookUp {s : System} {store : LocalStore} (h : s.registry.find? cache = some (.local store)) (label : String)
      (loader : Loader τ) : Acts cache key s (s.lookUp store ⟨label, store.name, key⟩ loader).1
  /-- The load of the key calls its loader, or takes it up again where it stopped. -/
  | call {s : System} {id number : Nat} {τ : ValueType} {call : Call} {loader : Loader τ}
      (h : s.load? id = some ⟨cache, key, number, .idle τ (.calling call loader)⟩) :
      Acts cache key s ((s.setLoad id .busy).emit (.called call (some id)))
  | resume {s : System} {id number : Nat} {τ : ValueType} {run : Run τ}
      (h : s.load? id = some ⟨cache, key, number, .idle τ run⟩) : Acts cache key s (s.setLoad id .busy)
  | pause {s : System} {id number : Nat} {τ : ValueType} {run : Run τ}
      (h : s.load? id = some ⟨cache, key, number, .busy⟩) : Acts cache key s (s.setLoad id (.idle τ run))
  /-- The load of the key ends with an outcome of any kind. -/
  | land {s : System} {id number : Nat} (h : s.load? id = some ⟨cache, key, number, .busy⟩) (outcome : LoadResult) :
      Acts cache key s (s.land id cache key number outcome)
  /-- A caller stops waiting for the load of the key, and calls its own loader instead. -/
  | lockTimedOut (s : System) (load : Nat) (lockTimeout : Duration) :
      Acts cache key s (s.emit (.lockTimedOut cache key load lockTimeout))
  | passedThrough (s : System) : Acts cache key s (s.emit (.passedThrough cache key))
  | calledDirectly (s : System) (label : String) : Acts cache key s (s.emit (.called ⟨label, cache, key⟩ none))
  | invalidate {s : System} {found : Cache} (h : s.registry.find? cache = some found) :
      Acts cache key s (s.invalidateIn found key)

/-- Every move is a step on behalf of one key of one cache, an invalidation of a whole cache, a passing of time, upkeep,
or an answer. -/
theorem acts_of_move {s t : System} (move : Move s t) :
    (∃ cache key, Acts cache key s t) ∨
    (∃ cache found, s.registry.find? cache = some found ∧ t = s.invalidateAllIn found) ∨
    (∃ ms, t = s.elapse ms) ∨ (∃ cache, t = s.tend cache) ∨ ∃ task answer, t = s.emit (.answered task answer) := by
  cases move with
  | elapse s ms => exact .inr (.inr (.inl ⟨ms, rfl⟩))
  | @note s event aside =>
    cases event with
    | called call load =>
      cases load with
      | none => exact .inl ⟨_, _, .calledDirectly s call.label⟩
      | some id => cases aside
    | lockTimedOut cache key load lockTimeout => exact .inl ⟨_, _, .lockTimedOut s load lockTimeout⟩
    | passedThrough cache key => exact .inl ⟨_, _, .passedThrough s⟩
    | answered task answer => exact .inr (.inr (.inr (.inr ⟨task, answer, rfl⟩)))
    | lookedUp cache key found => cases aside
    | landed id cache key outcome kept => cases aside
    | invalidated cache key => cases aside
    | allInvalidated cache => cases aside
  | lookUp hfind label key loader => exact .inl ⟨_, _, .lookUp hfind label loader⟩
  | call hload => exact .inl ⟨_, _, .call hload⟩
  | resume hload called => exact .inl ⟨_, _, .resume hload⟩
  | pause hload called => exact .inl ⟨_, _, .pause hload⟩
  | land hload outcome => exact .inl ⟨_, _, .land hload outcome⟩
  | invalidate hfind key => exact .inl ⟨_, _, .invalidate hfind⟩
  | invalidateAll hfind => exact .inr (.inl ⟨_, _, hfind, rfl⟩)
  | tend s name => exact .inr (.inr (.inr (.inl ⟨name, rfl⟩)))

/-! ### What such a step leaves alone -/

/-- A step that takes no time and changes one store at most, that of the cache. Keys that are `spared` keep there what
they have unless the store has a size limit, their loads stay as they are, like those of other caches, and no counter
of another cache is raised. -/
structure Confined (cache : String) (spared : Key → Prop) (s t : System) : Prop where
  now : t.now = s.now
  store : t.registry = s.registry ∨ ∃ f, t.registry = (s.mapStore cache f).registry ∧
    ∀ store : LocalStore, store.tuning.maximumSize = none → ∀ key, spared key → store.Agree key (f store)
  load : ∀ id load, s.load? id = some load → load.cache ≠ cache ∨ spared load.key → t.load? id = some load
  event : t.history = s.history ∨ ∃ event, t.history = ⟨s.now, event⟩ :: s.history ∧
    ∀ counter, event.counter? = some counter → counter.cache = cache

namespace Confined

variable {s t : System} {cache : String} {spared : Key → Prop}

theorem refl (s : System) : Confined cache spared s s := ⟨rfl, .inl rfl, fun _ _ hload _ => hload, .inl rfl⟩

theorem emit (s : System) {event : Event} (h : ∀ counter, event.counter? = some counter → counter.cache = cache) :
    Confined cache spared s (s.emit event) :=
  ⟨rfl, .inl rfl, fun _ _ hload _ => hload, .inr ⟨event, rfl, h⟩⟩

/-- A change of the one store that leaves one event. -/
theorem mapStore_emit (s : System) {f : LocalStore → LocalStore} {event : Event}
    (hf : ∀ store : LocalStore, store.tuning.maximumSize = none → ∀ key, spared key → store.Agree key (f store))
    (h : ∀ counter, event.counter? = some counter → counter.cache = cache) :
    Confined cache spared s ((s.mapStore cache f).emit event) :=
  ⟨rfl, .inr ⟨f, rfl, hf⟩, fun _ _ hload _ => hload, .inr ⟨event, rfl, h⟩⟩

/-- A step on behalf of one key sets nothing but the load of that key. -/
theorem load?_of_setLoad {key : Key} {id number : Nat} {state state' : LoadState}
    (hload : s.load? id = some ⟨cache, key, number, state⟩) (other : Nat) (load : Load)
    (hother : s.load? other = some load) (hne : load.cache ≠ cache ∨ load.key ≠ key) :
    (s.setLoad id state').load? other = some load := by
  have hid : other ≠ id := by
    rintro rfl
    rw [hload] at hother
    cases hother
    rcases hne with hne | hne <;> exact hne rfl
  rw [load?_setLoad_of_ne s hid, hother]

theorem setLoad {key : Key} {id number : Nat} {state state' : LoadState}
    (hload : s.load? id = some ⟨cache, key, number, state⟩) :
    Confined cache (· ≠ key) s (s.setLoad id state') :=
  ⟨rfl, .inl rfl, load?_of_setLoad hload, .inl rfl⟩

theorem lookUp {store : LocalStore} (hname : store.name = cache) (label : String) (key : Key) (loader : Loader τ) :
    Confined cache (· ≠ key) s (s.lookUp store ⟨label, store.name, key⟩ loader).1 := by
  subst hname
  unfold System.lookUp
  split
  · exact .mapStore_emit s (fun _ hsize _ hne => LocalStore.agree_touch hsize s.now hne) fun _ h => by cases h; rfl
  · split
    · exact .mapStore_emit s (fun _ hsize _ _ => LocalStore.agree_miss hsize s.now ..) fun _ h => by cases h; rfl
    · refine ⟨rfl, .inr ⟨_, rfl, fun _ hsize _ hne => LocalStore.agree_launch hsize s.now hne _⟩, ?_,
        .inr ⟨_, rfl, fun _ h => by cases h; rfl⟩⟩
      exact fun id load hload _ => Numbered.load?_launch_of_some hload ..

theorem land {key : Key} {id number : Nat} {state : LoadState}
    (hload : s.load? id = some ⟨cache, key, number, state⟩) (outcome : LoadResult) :
    Confined cache (· ≠ key) s (s.land id cache key number outcome) := by
  have hcounter : ∀ kept counter, (Event.landed id cache key outcome kept).counter? = some counter →
      counter.cache = cache := by
    intro kept counter h
    cases outcome <;> cases kept <;> cases h <;> rfl
  cases hin : s.inFlight cache key number with
  | true =>
    rw [land_of_kept hin]
    exact ⟨rfl, .inr ⟨_, rfl, fun _ hsize _ hne => LocalStore.agree_conclude hsize s.now hne outcome⟩,
      load?_of_setLoad (s := s.mapStore _ _) hload, .inr ⟨_, rfl, hcounter true⟩⟩
  | false =>
    rw [land_of_detached hin]
    exact ⟨rfl, .inl rfl, load?_of_setLoad hload, .inr ⟨_, rfl, hcounter false⟩⟩

theorem invalidateIn (named : s.Named) {found : Cache} (hfind : s.registry.find? cache = some found) (key : Key) :
    Confined cache (· ≠ key) s (s.invalidateIn found key) := by
  match found with
  | .passThrough _ => exact .refl s
  | .local store =>
    obtain rfl : store.name = cache := named.name_of_find? hfind
    exact .mapStore_emit s (fun _ hsize _ hne => LocalStore.agree_invalidate hsize s.now hne) nofun

theorem invalidateAllIn (named : s.Named) {found : Cache} (hfind : s.registry.find? cache = some found) :
    Confined cache (fun _ => False) s (s.invalidateAllIn found) := by
  match found with
  | .passThrough _ => exact .refl s
  | .local store =>
    obtain rfl : store.name = cache := named.name_of_find? hfind
    exact .mapStore_emit s (fun _ _ _ hspared => hspared.elim) nofun

theorem of_acts (named : s.Named) {key : Key} (acts : Acts cache key s t) : Confined cache (· ≠ key) s t := by
  cases acts with
  | lookUp hfind label loader => exact .lookUp (named.name_of_find? hfind) label key loader
  | call hload => exact ⟨rfl, .inl rfl, load?_of_setLoad hload, .inr ⟨_, rfl, nofun⟩⟩
  | resume hload => exact .setLoad hload
  | pause hload => exact .setLoad hload
  | land hload outcome => exact .land hload outcome
  | lockTimedOut => exact .emit s fun _ h => by cases h; rfl
  | passedThrough => exact .emit s nofun
  | calledDirectly => exact .emit s nofun
  | invalidate hfind => exact .invalidateIn named hfind key

/-- Other caches are not changed at all. -/
theorem find? (h : Confined cache spared s t) {other : String} (hne : other ≠ cache) :
    t.registry.find? other = s.registry.find? other := by
  rcases h.store with heq | ⟨f, heq, -⟩
  · rw [heq]
  · rw [heq, find?_mapStore, if_neg hne]

/-- No counter of another cache is raised. -/
theorem count (h : Confined cache spared s t) {counter : CounterId} (hne : counter.cache ≠ cache) :
    t.trace.count counter = s.trace.count counter := by
  rcases h.event with heq | ⟨event, heq, hcounter⟩
  · rw [trace, heq, trace]
  · rw [count_of_history heq, if_neg fun hraised => hne (hcounter counter hraised), Nat.add_zero]

theorem agree (h : Confined cache spared s t) {other : String} {key : Key} (hspared : other ≠ cache ∨ spared key)
    {store : LocalStore} (hstore : s.store? other = some store) (hsize : store.tuning.maximumSize = none) :
    ∃ after, t.store? other = some after ∧ store.Agree key after := by
  rcases h.store with heq | ⟨f, heq, hagree⟩
  · exact ⟨store, by rw [store?, heq]; exact hstore, .refl key store⟩
  · have hafter : t.store? other = (s.mapStore cache f).store? other := by rw [store?, heq, store?]
    rw [hafter, store?_mapStore, hstore]
    by_cases hname : other = cache
    · rw [if_pos hname]
      exact ⟨f store, rfl, hagree store hsize key (hspared.resolve_left (not_not_intro hname))⟩
    · rw [if_neg hname]
      exact ⟨store, rfl, .refl key store⟩

end Confined

/-- The key has in its cache, if this has no size limit, what it had: its value with the times when it was written and
read, its load in flight, as far as this had come, and whether it is contained. -/
def Unchanged (cache : String) (key : Key) (s t : System) : Prop :=
  ∀ store, s.store? cache = some store → store.tuning.maximumSize = none →
    ∃ after, t.store? cache = some after ∧
      after.entries.find? key = store.entries.find? key ∧
      after.inFlight.find? key = store.inFlight.find? key ∧
      (∀ flight, store.inFlight.find? key = some flight → t.load? flight.load = s.load? flight.load) ∧
      after.contains t.now key = store.contains s.now key

theorem Confined.unchanged {s t : System} {cache : String} {spared : Key → Prop} (h : Confined cache spared s t)
    (numbered : s.Numbered) {other : String} {key : Key} (hspared : other ≠ cache ∨ spared key) :
    Unchanged other key s t := by
  intro store hstore hsize
  obtain ⟨after, hafter, hagree⟩ := h.agree hspared hstore hsize
  refine ⟨after, hafter, hagree.entry, hagree.flight, fun flight hflight => ?_, ?_⟩
  · -- the load in flight for a key is one of that key
    obtain ⟨⟨load, hload, ⟨hcache, hkey, -⟩, -⟩, -⟩ := numbered.flying other store key flight hstore hflight
    rw [hload]
    exact h.load flight.load load hload (by rwa [hcache, hkey])
  · rw [h.now]
    exact hagree.contains s.now

/-- **Keys and caches do not interfere.** A step on behalf of one key of a cache leaves every other key of every cache
without a size limit as it was, and everything about other caches with their counters. The invalidation of a whole
cache leaves the other caches as they were. -/
theorem keys_and_caches_apart {s : System} (reached : s.Reached) (cache : String) :
    (∀ key t, Acts cache key s t →
      (∀ other k, (other, k) ≠ (cache, key) → Unchanged other k s t) ∧
      ∀ other, other ≠ cache → t.registry.find? other = s.registry.find? other ∧
        ∀ metric, t.trace.count ⟨metric, other⟩ = s.trace.count ⟨metric, other⟩) ∧
    ∀ found, s.registry.find? cache = some found → ∀ other, other ≠ cache →
      (∀ k, Unchanged other k s (s.invalidateAllIn found)) ∧
      (s.invalidateAllIn found).registry.find? other = s.registry.find? other ∧
      ∀ metric, (s.invalidateAllIn found).trace.count ⟨metric, other⟩ = s.trace.count ⟨metric, other⟩ := by
  have named : s.Named := reached.sound.named
  have numbered : s.Numbered := reached.sound.numbered
  refine ⟨fun key t acts => ?_, fun found hfind other hother => ?_⟩
  · have confined := Confined.of_acts named acts
    refine ⟨fun other k hne => confined.unchanged numbered ?_, fun other hother =>
      ⟨confined.find? hother, fun metric => confined.count hother⟩⟩
    by_contra hboth
    obtain ⟨hcache, hkey⟩ := not_or.mp hboth
    exact hne (Prod.ext (not_not.mp hcache) (not_not.mp hkey))
  · have confined := Confined.invalidateAllIn named hfind
    exact ⟨fun k => confined.unchanged numbered (.inl hother), confined.find? hother,
      fun metric => confined.count hother⟩

/-- The caches `a` and `b` without limits. -/
private def twoCaches : Registry := (Registry.ofConfig ["a", "b"] .standard).toOption.getD ∅

/-- In `a` key 1 has a value and key 2 a load in flight, and key 2 has one in `b`, too. -/
private def twoBusy : System :=
  let request (cache : String) (key : Nat) : Request := ⟨"g", cache, .ok (.ofNat key), .registry, .zero⟩
  ((Session.start twoCaches).play
    [.start "p" .flag (request "a" 1) (.done (some (.flag true))), .poll 0,
      .start "q" .flag (request "a" 2) (.sleep 5 (.done none)), .poll 0,
      .start "r" .flag (request "b" 2) (.sleep 5 (.done none)), .poll 1]).system

/-- Key 2 is invalidated in `a`: key 1 keeps its value there, and key 2 its load in `b`. -/
theorem keys_and_caches_apart_invalidated :
    ∃ found one two, twoBusy.registry.find? "a" = some found ∧
      twoBusy.store? "a" = some one ∧ (one.entries.find? (.ofNat 1)).isSome = true ∧
      twoBusy.store? "b" = some two ∧ (two.inFlight.find? (.ofNat 2)).isSome = true ∧
      let t := twoBusy.invalidateIn found (.ofNat 2)
      (∃ after, t.store? "a" = some after ∧ after.entries.find? (.ofNat 1) = one.entries.find? (.ofNat 1)) ∧
      ∃ after, t.store? "b" = some after ∧ after.inFlight.find? (.ofNat 2) = two.inFlight.find? (.ofNat 2) := by
  have built : twoCaches.Built :=
    Registry.built_ofConfig (show Registry.ofConfig ["a", "b"] .standard = .ok twoCaches from rfl)
  have hfind : twoBusy.registry.find? "a" = some _ := rfl
  have apart := ((keys_and_caches_apart (Reached.play built _) "a").1 (.ofNat 2) _ (.invalidate hfind)).1
  obtain ⟨one, hone, hentry, -⟩ := apart "a" (.ofNat 1) (by decide) _ rfl rfl
  obtain ⟨two, htwo, -, hflight, -⟩ := apart "b" (.ofNat 2) (by decide) _ rfl rfl
  exact ⟨_, _, _, hfind, rfl, rfl, rfl, rfl, ⟨one, hone, hentry⟩, two, htwo, hflight⟩

/-! ### Whole runs -/

/-- A step on behalf of a key that changes the caches leaves an event of the key. -/
theorem concerns_of_acts {s t : System} (named : s.Named) {cache : String} {key : Key} (acts : Acts cache key s t) :
    t.registry = s.registry ∨ ∃ e, t.history = e :: s.history ∧ e.event.Concerns cache key := by
  cases acts with
  | lookUp hfind label loader =>
    exact .inr ⟨_, history_lookUp .., named.name_of_find? hfind, rfl⟩
  | land hload outcome =>
    obtain ⟨kept, hkept⟩ := history_land s _ cache key _ outcome
    exact .inr ⟨_, hkept, rfl, rfl⟩
  | @invalidate _ found hfind =>
    match found with
    | .passThrough _ => exact .inl rfl
    | .local store => exact .inr ⟨_, rfl, named.name_of_find? hfind, rfl⟩
  | _ => exact .inl rfl

/-- A move without an event of the key leaves its entry and its flight. -/
theorem agree_of_move {s t : System} (named : s.Named) (move : Move s t) {cache : String} {key : Key} {new : History}
    (hnew : t.history = new ++ s.history) (hfree : ∀ e ∈ new, ¬ e.event.Concerns cache key) {store : LocalStore}
    (hstore : s.store? cache = some store) (hsize : store.tuning.maximumSize = none) :
    ∃ after, t.store? cache = some after ∧ store.Agree key after := by
  have same : t.registry = s.registry → ∃ after, t.store? cache = some after ∧ store.Agree key after :=
    fun heq => ⟨store, by rw [store?, heq]; exact hstore, .refl key store⟩
  have silent : ¬ ∃ e, t.history = e :: s.history ∧ e.event.Concerns cache key := by
    rintro ⟨e, he, hconcerns⟩
    have hone : new = [e] := List.append_cancel_right (hnew.symm.trans he)
    exact hfree e (by rw [hone]; exact .head _) hconcerns
  rcases acts_of_move move with ⟨c, k, acts⟩ | ⟨c, found, hfind, rfl⟩ | ⟨ms, rfl⟩ | ⟨c, rfl⟩ | ⟨task, answer, rfl⟩
  · by_cases hsite : c = cache ∧ k = key
    · obtain ⟨rfl, rfl⟩ := hsite
      exact same ((concerns_of_acts named acts).resolve_right silent)
    · have hspared : cache ≠ c ∨ key ≠ k := by
        rcases not_and_or.mp hsite with h | h
        · exact .inl (Ne.symm h)
        · exact .inr (Ne.symm h)
      exact (Confined.of_acts named acts).agree hspared hstore hsize
  · by_cases hsite : c = cache
    · subst hsite
      rcases found with st | name
      · exact absurd ⟨_, rfl, named.name_of_find? hfind⟩ silent
      · exact same rfl
    · exact (Confined.invalidateAllIn named hfind).agree (.inl (Ne.symm hsite)) hstore hsize
  · exact same rfl
  · rw [tend, store?_mapStore, hstore]
    by_cases hsite : cache = c
    · rw [if_pos hsite]
      exact ⟨_, rfl, LocalStore.agree_tend hsize s.now key []⟩
    · rw [if_neg hsite]
      exact ⟨store, rfl, .refl key store⟩
  · exact same rfl

/-- Over a run without an event of the key its cache keeps for it what it had. -/
theorem agree_of_moves {s t : System} (reached : s.Reached) (moves : Moves s t) {cache : String} {key : Key}
    {new : History} (hnew : t.history = new ++ s.history) (hfree : ∀ e ∈ new, ¬ e.event.Concerns cache key)
    {store : LocalStore} (hstore : s.store? cache = some store) (hsize : store.tuning.maximumSize = none) :
    ∃ after, t.store? cache = some after ∧ store.Agree key after := by
  induction moves generalizing new with
  | refl => exact ⟨store, hstore, .refl key store⟩
  | @tail u t moves last ih =>
    obtain ⟨old, hold⟩ := history_moves moves
    obtain ⟨step, hstep⟩ := history_move last
    have hsplit : new = step ++ old :=
      (List.append_left_inj s.history).mp (by rw [← hnew, hstep, hold, List.append_assoc])
    obtain ⟨mid, hmid, hagree⟩ := ih hold fun e he => hfree e (by rw [hsplit]; exact List.mem_append_right step he)
    obtain ⟨after, hafter, hlast⟩ := agree_of_move (reached.moves moves).sound.named last hstep
      (fun e he => hfree e (by rw [hsplit]; exact List.mem_append_left old he)) hmid (by rw [hagree.tuning, hsize])
    exact ⟨after, hafter, hagree.trans hlast⟩

end System

end SingleFlight
