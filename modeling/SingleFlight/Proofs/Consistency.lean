import SingleFlight.Proofs.Moves
import SingleFlight.Proofs.Store

/-!
# Consistency of stores and loads

What holds of the stores and the loads of a system in every state that moves lead to from the start:

* every cache goes by its own name (`Named`);
* a load belongs to a store, which never gave its number to another load, and a load in flight for a key is one of
  that key that has not ended, while no value is stored for the key (`Numbered`).
-/

namespace SingleFlight

namespace Load

/-- The load has an outcome. -/
def ended (load : Load) : Bool :=
  match load.state with
  | .ended _ => true
  | _ => false

end Load

namespace System

/-! ### Names -/

/-- Every cache goes by the name under which it is registered. -/
def Named (s : System) : Prop := ∀ name cache, s.registry.find? name = some cache → cache.name = name

theorem Named.mapStore {s : System} (h : s.Named) (name : String) {f : LocalStore → LocalStore}
    (hf : ∀ store, (f store).name = store.name) : (s.mapStore name f).Named := by
  intro other cache hfind
  rw [find?_mapStore] at hfind
  split at hfind
  · obtain ⟨before, hbefore, rfl⟩ := Option.map_eq_some_iff.1 hfind
    rw [Cache.name_mapStore hf]
    exact h other before hbefore
  · exact h other cache hfind

theorem store?_of_find? {s : System} {name : String} {store : LocalStore}
    (h : s.registry.find? name = some (.local store)) : s.store? name = some store := by
  rw [store?, h]
  rfl

theorem Named.name_of_find? {s : System} (h : s.Named) {name : String} {store : LocalStore}
    (hfind : s.registry.find? name = some (.local store)) : store.name = name := h name _ hfind

theorem name_conclude (now : Nat) (key : Key) (outcome : LoadResult) (store : LocalStore) :
    (conclude now key outcome store).name = store.name := by
  cases outcome with
  | ok value => exact LocalStore.name_put store now key value
  | error failure => rfl

@[simp] theorem tuning_conclude (now : Nat) (key : Key) (outcome : LoadResult) (store : LocalStore) :
    (conclude now key outcome store).tuning = store.tuning := by
  cases outcome with
  | ok value => exact LocalStore.tuning_put store now key value
  | error failure => rfl

@[simp] theorem nextLoad_conclude (now : Nat) (key : Key) (outcome : LoadResult) (store : LocalStore) :
    (conclude now key outcome store).nextLoad = store.nextLoad := by
  cases outcome with
  | ok value => exact LocalStore.nextLoad_put store now key value
  | error failure => rfl

@[simp] theorem inFlight_conclude (now : Nat) (key : Key) (outcome : LoadResult) (store : LocalStore) :
    (conclude now key outcome store).inFlight = store.inFlight.erase key := by
  cases outcome with
  | ok value => exact congrArg (Assoc.erase · key) (LocalStore.inFlight_put store now key value)
  | error failure => rfl

theorem keeps_conclude (now : Nat) {key other : Key} (hne : other ≠ key) (outcome : LoadResult) (store : LocalStore) :
    LocalStore.Keeps store (conclude now key outcome store) now other := by
  cases outcome with
  | ok value => exact LocalStore.keeps_put store now key value hne
  | error failure => exact .inl rfl

/-- A move changes one store at most, and neither its name nor its tuning. -/
theorem registry_move {s t : System} (move : Move s t) : t.registry = s.registry ∨
    ∃ name f, (∀ store : LocalStore, (f store).name = store.name) ∧ (∀ store, (f store).tuning = store.tuning) ∧
      t.registry = (s.mapStore name f).registry := by
  cases move with
  | @lookUp _ _ name store hfind label key loader =>
    unfold System.lookUp
    split
    · exact .inr ⟨_, _, fun _ => LocalStore.name_touch .., fun _ => LocalStore.tuning_touch .., rfl⟩
    · split
      · exact .inr ⟨_, _, fun st => (LocalStore.trimmed_miss st _ _).name,
          fun st => (LocalStore.trimmed_miss st _ _).tuning, rfl⟩
      · exact .inr ⟨_, _, fun _ => LocalStore.name_launch .., fun _ => LocalStore.tuning_launch .., rfl⟩
  | land hload outcome =>
    unfold System.land
    dsimp only
    split
    · exact .inr ⟨_, _, fun _ => name_conclude .., fun _ => tuning_conclude .., rfl⟩
    · exact .inl rfl
  | @invalidate _ name cache hfind key =>
    match cache with
    | .local store =>
      exact .inr ⟨_, _, fun _ => LocalStore.name_invalidate .., fun _ => LocalStore.tuning_invalidate .., rfl⟩
    | .passThrough _ => exact .inl rfl
  | @invalidateAll _ name cache hfind =>
    match cache with
    | .local store => exact .inr ⟨store.name, LocalStore.invalidateAll, fun _ => rfl, fun _ => rfl, rfl⟩
    | .passThrough _ => exact .inl rfl
  | tend s name =>
    exact .inr ⟨_, _, fun st => (LocalStore.trimmed_tend st _ _).name,
      fun st => (LocalStore.trimmed_tend st _ _).tuning, rfl⟩
  | _ => exact .inl rfl

theorem Named.move {s t : System} (h : s.Named) (move : Move s t) : t.Named := by
  rcases registry_move move with heq | ⟨name, f, hname, -, heq⟩
  · rwa [Named, heq]
  · rw [Named, heq]
    exact h.mapStore name hname

/-! ### Numbers -/

/-- The flight is that of an unended load of the key, under the number that its store gave it. -/
def Flies (s : System) (name : String) (key : Key) (flight : Flight) : Prop :=
  ∃ load, s.load? flight.load = some load ∧ (load.cache = name ∧ load.key = key ∧ load.number = flight.number) ∧
    load.ended = false

/-- A store gives no number twice, and only a load of the key that has not ended is in flight for it. -/
structure Numbered (s : System) : Prop where
  housed : ∀ id load, s.load? id = some load → ∃ store, s.store? load.cache = some store ∧ load.number < store.nextLoad
  distinct : ∀ i j a b, s.load? i = some a → s.load? j = some b → a.cache = b.cache → a.number = b.number → i = j
  flying : ∀ name store key flight, s.store? name = some store → store.inFlight.find? key = some flight →
    s.Flies name key flight ∧ store.peek s.now key = none

namespace Numbered

theorem emit {s : System} (h : s.Numbered) (event : Event) : (s.emit event).Numbered :=
  ⟨h.housed, h.distinct, h.flying⟩

theorem elapse {s : System} (h : s.Numbered) (ms : Nat) : (s.elapse ms).Numbered where
  housed := h.housed
  distinct := h.distinct
  flying name store key flight hstore hflight := by
    obtain ⟨hflies, hpeek⟩ := h.flying name store key flight hstore hflight
    refine ⟨hflies, ?_⟩
    cases hlater : store.peek (s.elapse ms).now key with
    | none => rfl
    | some value =>
      rw [LocalStore.peek_mono (Nat.le_add_right s.now ms) hlater] at hpeek
      cases hpeek

/-- A change of a store that starts no load and stores no value for a key that stays in flight. -/
theorem mapStore {s : System} (h : s.Numbered) {name : String} {f : LocalStore → LocalStore}
    (hnext : ∀ store, (f store).nextLoad = store.nextLoad)
    (hflying : ∀ store, s.store? name = some store → ∀ key flight, (f store).inFlight.find? key = some flight →
      store.inFlight.find? key = some flight ∧ (store.peek s.now key = none → (f store).peek s.now key = none)) :
    (s.mapStore name f).Numbered where
  housed id load hload := by
    obtain ⟨store, hstore, hlt⟩ := h.housed id load hload
    rw [store?_mapStore, hstore]
    by_cases hname : load.cache = name
    · exact ⟨f store, by rw [if_pos hname, Option.map_some], by rwa [hnext]⟩
    · exact ⟨store, by rw [if_neg hname], hlt⟩
  distinct := h.distinct
  flying other store key flight hstore hflight := by
    rw [store?_mapStore] at hstore
    by_cases hname : other = name
    · rw [if_pos hname] at hstore
      obtain ⟨before, hbefore, rfl⟩ := Option.map_eq_some_iff.1 hstore
      obtain ⟨hold, hpeek⟩ := hflying before (hname ▸ hbefore) key flight hflight
      obtain ⟨hflies, hnone⟩ := h.flying other before key flight hbefore hold
      exact ⟨hflies, hpeek hnone⟩
    · rw [if_neg hname] at hstore
      exact h.flying other store key flight hstore hflight

/-- Upkeep and reading touch neither numbers nor flights. -/
theorem mapStore_keeps {s : System} (h : s.Numbered) {name : String} {f : LocalStore → LocalStore}
    (hnext : ∀ store, (f store).nextLoad = store.nextLoad) (hflight : ∀ store, (f store).inFlight = store.inFlight)
    (hkeeps : ∀ store, s.store? name = some store → ∀ key, LocalStore.Keeps store (f store) s.now key) :
    (s.mapStore name f).Numbered := by
  refine h.mapStore hnext fun store hstore key flight hfind => ?_
  rw [hflight] at hfind
  exact ⟨hfind, (hkeeps store hstore key).peek_eq_none⟩

theorem load?_setLoad_eq_some {s : System} {id other : Nat} {state : LoadState} {load : Load}
    (h : (s.setLoad id state).load? other = some load) :
    ∃ before, s.load? other = some before ∧ load.cache = before.cache ∧ load.key = before.key ∧
      load.number = before.number := by
  rw [load?_setLoad] at h
  split at h
  · obtain ⟨before, hbefore, rfl⟩ := Option.map_eq_some_iff.1 h
    exact ⟨before, hbefore, rfl, rfl, rfl⟩
  · exact ⟨load, h, rfl, rfl, rfl⟩

/-- A load that ends must not be in flight any more. -/
theorem setLoad {s : System} (h : s.Numbered) {id : Nat} {state : LoadState}
    (hstate : (∀ outcome, state ≠ .ended outcome) ∨ ∀ name store key flight, s.store? name = some store →
      store.inFlight.find? key = some flight → flight.load ≠ id) : (s.setLoad id state).Numbered where
  housed other load hload := by
    obtain ⟨before, hbefore, hcache, -, hnumber⟩ := load?_setLoad_eq_some hload
    obtain ⟨store, hstore, hlt⟩ := h.housed other before hbefore
    exact ⟨store, hcache ▸ hstore, hnumber ▸ hlt⟩
  distinct i j a b ha hb hcache hnumber := by
    obtain ⟨a', ha', hca, -, hna⟩ := load?_setLoad_eq_some ha
    obtain ⟨b', hb', hcb, -, hnb⟩ := load?_setLoad_eq_some hb
    exact h.distinct i j a' b' ha' hb' (hca ▸ hcb ▸ hcache) (hna ▸ hnb ▸ hnumber)
  flying name store key flight hstore hflight := by
    obtain ⟨⟨load, hload, hsame, hended⟩, hpeek⟩ := h.flying name store key flight hstore hflight
    refine ⟨?_, hpeek⟩
    by_cases hid : flight.load = id
    · rcases hstate with hstate | hstate
      · refine ⟨{ load with state }, hid ▸ load?_setLoad_self (hid ▸ hload) state, hsame, ?_⟩
        cases state with
        | ended outcome => exact absurd rfl (hstate outcome)
        | idle τ run => rfl
        | busy => rfl
      · exact absurd hid (hstate name store key flight hstore hflight)
    · exact ⟨load, by rwa [load?_setLoad_of_ne s hid], hsame, hended⟩

theorem load?_launch (s : System) (store : LocalStore) (call : Call) (loader : Loader τ) (id : Nat) :
    (s.launch store call loader).load? id = if id = s.loads.length then
      some ⟨store.name, call.key, store.nextLoad, .idle τ (.calling call loader)⟩ else s.load? id := by
  show (s.loads ++ [_])[id]? = _
  rw [List.getElem?_append]
  split
  next hlt => rw [if_neg (Nat.ne_of_lt hlt), load?]
  next hge =>
    by_cases hid : id = s.loads.length
    · rw [if_pos hid, hid, Nat.sub_self]
      rfl
    · rw [if_neg hid, List.getElem?_eq_none (by simp; omega), load?, List.getElem?_eq_none (by omega)]

theorem store?_launch (s : System) (store : LocalStore) (call : Call) (loader : Loader τ) (name : String) :
    (s.launch store call loader).store? name = if name = store.name then
      (s.store? name).map (·.launch s.now call.key s.loads.length) else s.store? name := store?_mapStore s _ _ _

theorem lt_of_load? {s : System} {id : Nat} {load : Load} (h : s.load? id = some load) : id < s.loads.length :=
  (List.getElem?_eq_some_iff.1 h).1

theorem load?_launch_of_some {s : System} {id : Nat} {load : Load} (h : s.load? id = some load) (store : LocalStore)
    (call : Call) (loader : Loader τ) : (s.launch store call loader).load? id = some load := by
  rw [load?_launch, if_neg (Nat.ne_of_lt (lt_of_load? h)), h]

/-- A load is launched for a key for which nothing is stored and nothing is in flight. -/
theorem launch {s : System} (h : s.Numbered) {store : LocalStore} {call : Call} (loader : Loader τ)
    (hstore : s.store? store.name = some store) (hpeek : store.peek s.now call.key = none) :
    (s.launch store call loader).Numbered where
  housed id load hload := by
    rw [load?_launch] at hload
    split at hload
    · cases hload
      exact ⟨_, by rw [store?_launch, if_pos rfl, hstore, Option.map_some], Nat.lt_succ_self store.nextLoad⟩
    · obtain ⟨before, hbefore, hlt⟩ := h.housed id load hload
      rw [store?_launch, hbefore]
      by_cases hname : load.cache = store.name
      · exact ⟨_, by rw [if_pos hname, Option.map_some], Nat.lt_succ_of_lt hlt⟩
      · exact ⟨before, by rw [if_neg hname], hlt⟩
  distinct i j a b ha hb hcache hnumber := by
    -- the new load has a number that its store has not given to any other load
    have hnew : ∀ id load, s.load? id = some load → load.cache = store.name → load.number ≠ store.nextLoad := by
      intro id load hload hname heq
      obtain ⟨before, hbefore, hlt⟩ := h.housed id load hload
      rw [hname, hstore] at hbefore
      cases hbefore
      omega
    rw [load?_launch] at ha hb
    split at ha
    next hi =>
      cases ha
      split at hb
      next hj => rw [hi, hj]
      next => exact absurd hnumber.symm (hnew j b hb hcache.symm)
    next =>
      split at hb
      next =>
        cases hb
        exact absurd hnumber (hnew i a ha hcache)
      next => exact h.distinct i j a b ha hb hcache hnumber
  flying name other key flight hother hflight := by
    rw [store?_launch] at hother
    have hold : ∀ before, s.store? name = some before → before.inFlight.find? key = some flight →
        (s.launch store call loader).Flies name key flight ∧ before.peek s.now key = none := by
      intro before hbefore hfind
      obtain ⟨⟨load, hload, hrest⟩, hnone⟩ := h.flying name before key flight hbefore hfind
      exact ⟨⟨load, load?_launch_of_some hload .., hrest⟩, hnone⟩
    by_cases hname : name = store.name
    · subst hname
      rw [if_pos rfl, hstore, Option.map_some] at hother
      cases hother
      have hkeeps := LocalStore.keeps_launch store s.now call.key s.loads.length key
      rw [LocalStore.inFlight_launch, Assoc.find?_insert] at hflight
      split at hflight
      next hkey =>
        cases hflight
        subst hkey
        exact ⟨⟨_, by rw [load?_launch, if_pos rfl], ⟨rfl, rfl, rfl⟩, rfl⟩, hkeeps.peek_eq_none hpeek⟩
      next =>
        obtain ⟨hflies, hnone⟩ := hold store hstore hflight
        exact ⟨hflies, hkeeps.peek_eq_none hnone⟩
    · rw [if_neg hname] at hother
      exact hold other hother hflight

/-- That the number in flight is the load's says that it is the load itself. -/
theorem inFlight_iff {s : System} (h : s.Numbered) {id : Nat} {load : Load} (hload : s.load? id = some load) :
    s.inFlight load.cache load.key load.number = true ↔
      ∃ store flight, s.store? load.cache = some store ∧ store.inFlight.find? load.key = some flight ∧
        flight.load = id := by
  obtain ⟨store, hstore, -⟩ := h.housed id load hload
  simp only [inFlight, hstore, decide_eq_true_eq]
  -- a flight is that of a load of the same store, and no two of these have one number
  constructor
  · intro hnumber
    obtain ⟨flight, hflight, heq⟩ := Option.map_eq_some_iff.1 hnumber
    obtain ⟨⟨other, hother, ⟨hcache, -, hsame⟩, -⟩, -⟩ := h.flying _ store _ flight hstore hflight
    exact ⟨store, flight, rfl, hflight, h.distinct _ _ other load hother hload hcache (hsame.trans heq)⟩
  · rintro ⟨_, flight, ⟨⟩, hflight, rfl⟩
    obtain ⟨⟨other, hother, ⟨-, -, hsame⟩, -⟩, -⟩ := h.flying _ store _ flight hstore hflight
    rw [hload] at hother
    cases hother
    rw [hflight, Option.map_some, hsame]

/-- The end of a load leaves no flight of its own behind, whether it was the one in flight or not. -/
theorem land {s : System} (h : s.Numbered) {id number : Nat} {cache : String} {key : Key} {state : LoadState}
    (hload : s.load? id = some ⟨cache, key, number, state⟩) (outcome : LoadResult) :
    (s.land id cache key number outcome).Numbered := by
  have hkept := h.inFlight_iff hload
  cases hin : s.inFlight cache key number with
  | true =>
    rw [land_of_kept hin]
    have hmap : (s.mapStore cache (conclude s.now key outcome)).Numbered := by
      refine h.mapStore (nextLoad_conclude s.now key outcome) fun store hstore other flight hflight => ?_
      rw [inFlight_conclude, Assoc.find?_erase] at hflight
      split at hflight
      · cases hflight
      next hne => exact ⟨hflight, (keeps_conclude s.now hne outcome store).peek_eq_none⟩
    refine (hmap.setLoad (.inr fun name store other flight hstore hflight hid => ?_)).emit _
    -- a flight that is left has the key of the load, whose flight was erased
    rw [store?_mapStore] at hstore
    obtain ⟨⟨load, hsame, ⟨hcache, hkey, -⟩, -⟩, -⟩ := hmap.flying name store other flight
      (by rw [store?_mapStore]; exact hstore) hflight
    rw [load?_mapStore, hid, hload] at hsame
    cases hsame
    obtain rfl : cache = name := hcache
    obtain rfl : key = other := hkey
    rw [if_pos rfl] at hstore
    obtain ⟨before, -, rfl⟩ := Option.map_eq_some_iff.1 hstore
    rw [inFlight_conclude, Assoc.find?_erase_self] at hflight
    cases hflight
  | false =>
    rw [land_of_detached hin]
    refine (h.setLoad (.inr fun name store other flight hstore hflight hid => ?_)).emit _
    refine absurd (hkept.2 ?_) (by rw [hin]; exact Bool.false_ne_true)
    obtain ⟨⟨load, hsame, ⟨hcache, hkey, -⟩, -⟩, -⟩ := h.flying name store other flight hstore hflight
    rw [hid, hload] at hsame
    cases hsame
    obtain rfl : cache = name := hcache
    obtain rfl : key = other := hkey
    exact ⟨store, flight, hstore, hflight, hid⟩

theorem move {s t : System} (named : s.Named) (h : s.Numbered) (move : Move s t) : t.Numbered := by
  cases move with
  | elapse s ms => exact h.elapse ms
  | note aside => exact h.emit _
  | @lookUp _ _ name store hfind label key loader =>
    have hname := named.name_of_find? hfind
    have hstore : s.store? store.name = some store := hname ▸ store?_of_find? hfind
    unfold System.lookUp
    split
    next value hpeek =>
      refine (h.mapStore_keeps (fun st => LocalStore.nextLoad_touch st _ _)
        (fun st => LocalStore.inFlight_touch st _ _) fun st hst => ?_).emit _
      rw [hstore] at hst
      cases hst
      exact LocalStore.keeps_touch hpeek
    next hpeek =>
      split
      · exact (h.mapStore_keeps (fun st => (LocalStore.trimmed_miss st _ _).nextLoad)
          (fun st => (LocalStore.trimmed_miss st _ _).inFlight)
          fun st _ => (LocalStore.trimmed_miss st _ _).keeps _).emit _
      · exact (h.launch loader hstore hpeek).emit _
  | call hload =>
    refine emit ?_ _
    exact h.setLoad (.inl fun _ => nofun)
  | resume hload called => exact h.setLoad (.inl fun _ => nofun)
  | pause hload called => exact h.setLoad (.inl fun _ => nofun)
  | land hload outcome => exact h.land hload outcome
  | @invalidate _ name cache hfind key =>
    match cache with
    | .local store =>
      refine (h.mapStore (fun st => LocalStore.nextLoad_invalidate st _ _)
        fun st _ other flight hflight => ?_).emit _
      rw [LocalStore.inFlight_invalidate, Assoc.find?_erase] at hflight
      split at hflight
      · cases hflight
      next hne => exact ⟨hflight, (LocalStore.keeps_invalidate st s.now key hne).peek_eq_none⟩
    | .passThrough _ => exact h
  | @invalidateAll _ name cache hfind =>
    match cache with
    | .local store =>
      exact (h.mapStore (f := LocalStore.invalidateAll) (fun _ => rfl)
        fun st _ other flight hflight => by cases hflight).emit _
    | .passThrough _ => exact h
  | tend s name =>
    exact h.mapStore_keeps (fun st => (LocalStore.trimmed_tend st _ _).nextLoad)
      (fun st => (LocalStore.trimmed_tend st _ _).inFlight) fun st _ => (LocalStore.trimmed_tend st _ _).keeps _

end Numbered

end System

end SingleFlight
