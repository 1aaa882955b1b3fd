import Mathlib.Data.List.Basic
import SingleFlight.Proofs.Queue

/-!
# The phases of a key

In a store a key is absent, pending with a load in flight, or ready with a value that has not expired.

* a key with a load in flight has no value, and the flights of different keys are different (`System.Numbered`);
* a move takes a key from one phase to another only for one of the reasons that `Shift` lists, and never replaces one
  value by another (`System.shift_of_move`);
* the keys that a store contains are those that are pending or ready. Without a size limit its count is the number of
  these keys and of the values that have gone idle behind one that has not (`LocalStore.size_tend`).
-/

namespace SingleFlight

/-- How far a store is with a key. -/
inductive Phase where
  | absent
  | pending (load : Nat)
  | ready (value : Stored Value)

namespace LocalStore

def phase (store : LocalStore) (now : Nat) (key : Key) : Phase :=
  match store.inFlight.find? key with
  | some flight => .pending flight.load
  | none =>
    match store.peek now key with
    | some value => .ready value
    | none => .absent

section
variable {store : LocalStore} {now : Nat} {key : Key}

theorem phase_of_flight {flight : Flight} (h : store.inFlight.find? key = some flight) :
    store.phase now key = .pending flight.load := by
  simp only [phase, h]

theorem phase_of_value {value : Stored Value} (hflight : store.inFlight.find? key = none)
    (hpeek : store.peek now key = some value) : store.phase now key = .ready value := by
  simp only [phase, hflight, hpeek]

theorem phase_of_none (hflight : store.inFlight.find? key = none) (hpeek : store.peek now key = none) :
    store.phase now key = .absent := by
  simp only [phase, hflight, hpeek]

theorem contains_iff : store.contains now key = true ↔ store.phase now key ≠ .absent := by
  unfold contains phase
  cases store.inFlight.find? key with
  | some flight => simp
  | none => cases store.peek now key <;> simp

theorem mem_keys_of_contains (h : store.contains now key = true) :
    key ∈ store.inFlight.keys ++ store.entries.keys := by
  rw [contains, Bool.or_eq_true] at h
  rw [List.mem_append, Assoc.mem_keys, Assoc.mem_keys]
  refine h.imp_right fun hpeek => ?_
  obtain ⟨value, hvalue⟩ := Option.isSome_iff_exists.1 hpeek
  obtain ⟨entry, hfind, -⟩ := peek_eq_some.1 hvalue
  exact Option.isSome_of_eq_some hfind

end

/-! ### The count -/

/-- The values that have gone idle and still count. -/
def stale (store : LocalStore) (now : Nat) : List Key := (store.tend now []).upkeep.queue.filter (store.idle now)

/-- The keys with a value that count. -/
def readyKeys (store : LocalStore) (now : Nat) : List Key :=
  (store.tend now []).upkeep.queue.filter fun key => !store.idle now key

section
variable {store : LocalStore} {now : Nat}

theorem mem_readyKeys (h : store.Tracked now) (hsize : store.tuning.maximumSize = none) {key : Key} :
    key ∈ store.readyKeys now ↔ (store.peek now key).isSome = true := by
  rw [readyKeys, List.mem_filter, Bool.not_eq_true', queue_tend, hsize]
  constructor
  · rintro ⟨hmem, hidle⟩
    exact isSome_peek_iff.2 ⟨Upkeep.fresh_of_mem_run hmem, hidle⟩
  · intro hsome
    obtain ⟨hfresh, hidle⟩ := isSome_peek_iff.1 hsome
    obtain ⟨value, hpeek⟩ := Option.isSome_iff_exists.1 hsome
    exact ⟨Upkeep.mem_run (h.tracks key value hpeek) List.not_mem_nil hfresh hidle, hidle⟩

/-- A value that still counts has an entry that was stored not too long ago, but read too long ago. -/
theorem of_mem_stale (hsize : store.tuning.maximumSize = none) {key : Key} (h : key ∈ store.stale now) :
    store.fresh now key = true ∧ store.idle now key = true := by
  rw [stale, List.mem_filter, queue_tend, hsize] at h
  exact ⟨Upkeep.fresh_of_mem_run h.1, h.2⟩

/-- Where values do not go idle none counts that has expired. -/
theorem stale_eq_nil (hsize : store.tuning.maximumSize = none) (haccess : store.tuning.expireAfterAccess = none) :
    store.stale now = [] := by
  rw [List.eq_nil_iff_forall_not_mem]
  intro key hmem
  obtain ⟨hfresh, hidle⟩ := of_mem_stale hsize hmem
  unfold fresh at hfresh
  unfold idle at hidle
  rw [haccess] at hidle
  cases hfind : store.entries.find? key with
  | none =>
    rw [hfind] at hfresh
    cases hfresh
  | some entry =>
    rw [hfind] at hidle
    cases hidle

/-- A value that still counts stands behind one that has not expired. -/
theorem exists_ready_of_stale (h : store.Tracked now) (hsize : store.tuning.maximumSize = none)
    (hstale : store.stale now ≠ []) : ∃ key, (store.peek now key).isSome = true := by
  cases hqueue : (store.tend now []).upkeep.queue with
  | nil =>
    rw [stale, hqueue] at hstale
    exact absurd rfl hstale
  | cons key rest =>
    refine ⟨key, (mem_readyKeys h hsize).1 ?_⟩
    have hidle : store.idle now key = false := Upkeep.head_withoutIdle hqueue
    rw [readyKeys, hqueue, List.mem_filter, hidle]
    exact ⟨List.mem_cons_self .., rfl⟩

theorem size_tend (h : store.Tracked now) (hsize : store.tuning.maximumSize = none)
    (hflying : ∀ key flight, store.inFlight.find? key = some flight → store.peek now key = none) :
    ∃ keys : List Key, keys.Nodup ∧ (∀ key, key ∈ keys ↔ store.contains now key = true) ∧
      (store.tend now []).size = keys.length + (store.stale now).length := by
  have hnodup := nodup_tend hsize h.nodup now []
  refine ⟨store.inFlight.keys ++ store.readyKeys now, List.nodup_append.2 ⟨store.inFlight.nodup, hnodup.filter _, ?_⟩,
    fun key => ?_, ?_⟩
  · -- no key is counted twice: one in flight has no value
    rintro a ha b hb rfl
    obtain ⟨flight, hflight⟩ := Option.isSome_iff_exists.1 (Assoc.mem_keys.1 ha)
    have hready := (mem_readyKeys h hsize).1 hb
    rw [hflying a flight hflight] at hready
    cases hready
  · rw [List.mem_append, Assoc.mem_keys, mem_readyKeys h hsize, contains, Bool.or_eq_true]
  · -- upkeep leaves the idle keys that are behind a key that is not
    have hqueue := (store.tend now []).upkeep.queue.length_eq_length_filter_add (store.idle now)
    have hflights : (store.tend now []).inFlight.size = store.inFlight.keys.length := (List.length_map ..).symm
    rw [size, hqueue, hflights, List.length_append, stale, readyKeys]
    omega

end

end LocalStore

namespace System

/-! ### Shifts -/

/-- The step from `s` to `t` leaves that one event. -/
def Leaves (s t : System) (event : Event) : Prop := t.history = ⟨s.now, event⟩ :: s.history

/-- Why a step from `s` to `t` takes a key from one phase to another. -/
inductive Shift (s t : System) (name : String) (key : Key) (before : LocalStore) : Phase → Phase → Prop where
  | stay (phase : Phase) : Shift s t name key before phase phase
  /-- A lookup starts a load. -/
  | start {load : Nat} (h : s.Leaves t (.lookedUp name key (.started load))) :
      Shift s t name key before .absent (.pending load)
  /-- The load in flight ends with a value. -/
  | succeed {load : Nat} {value : Stored Value} (h : s.Leaves t (.landed load name key (.ok value) true)) :
      Shift s t name key before (.pending load) (.ready value)
  /-- The load in flight ends with a value for which there is no room or no time. -/
  | vain {load : Nat} {value : Stored Value} (h : s.Leaves t (.landed load name key (.ok value) true))
      (hgone : before.tuning.maximumSize.isSome ∨ before.live s.now ⟨value, s.now, s.now⟩ = false) :
      Shift s t name key before (.pending load) .absent
  /-- The load in flight ends without a value. -/
  | fail {load : Nat} {failure : Failure} (h : s.Leaves t (.landed load name key (.error failure) true)) :
      Shift s t name key before (.pending load) .absent
  /-- The key is invalidated. -/
  | forget {event : Event} {phase : Phase} (h : s.Leaves t event) (hinvalid : event.Invalidates name key) :
      Shift s t name key before phase .absent
  /-- Time passes, and the value expires. -/
  | expire {entry : Entry} (hentry : before.entries.find? key = some entry) (hnow : before.live s.now entry = true)
      (hthen : before.live t.now entry = false) : Shift s t name key before (.ready entry.value) .absent
  /-- The value makes room for others. -/
  | evict {value : Stored Value} (h : before.tuning.maximumSize.isSome) :
      Shift s t name key before (.ready value) .absent

section
variable {s t : System} {name : String} {key : Key} {before after : LocalStore}

theorem shift_of_keeps (hnow : t.now = s.now) (hflight : after.inFlight.find? key = before.inFlight.find? key)
    (hkeeps : LocalStore.Keeps before after s.now key) :
    Shift s t name key before (before.phase s.now key) (after.phase t.now key) := by
  rw [hnow]
  cases hfind : before.inFlight.find? key with
  | some flight =>
    rw [LocalStore.phase_of_flight hfind, LocalStore.phase_of_flight (hflight.trans hfind)]
    exact .stay _
  | none =>
    have hnone := hflight.trans hfind
    cases hpeek : before.peek s.now key with
    | none =>
      rw [LocalStore.phase_of_none hfind hpeek, LocalStore.phase_of_none hnone (hkeeps.peek_eq_none hpeek)]
      exact .stay _
    | some value =>
      rw [LocalStore.phase_of_value hfind hpeek]
      rcases hkeeps with heq | ⟨hsize, -, hgone⟩
      · rw [LocalStore.phase_of_value hnone (heq.trans hpeek)]
        exact .stay _
      · rw [LocalStore.phase_of_none hnone hgone]
        exact .evict hsize

/-- Only time passes. -/
theorem shift_elapse (hle : s.now ≤ t.now) :
    Shift s t name key before (before.phase s.now key) (before.phase t.now key) := by
  cases hfind : before.inFlight.find? key with
  | some flight =>
    rw [LocalStore.phase_of_flight hfind, LocalStore.phase_of_flight hfind]
    exact .stay _
  | none =>
    cases hthen : before.peek t.now key with
    | some value =>
      rw [LocalStore.phase_of_value hfind hthen, LocalStore.phase_of_value hfind (LocalStore.peek_mono hle hthen)]
      exact .stay _
    | none =>
      rw [LocalStore.phase_of_none hfind hthen]
      cases hnow : before.peek s.now key with
      | none =>
        rw [LocalStore.phase_of_none hfind hnow]
        exact .stay _
      | some value =>
        rw [LocalStore.phase_of_value hfind hnow]
        obtain ⟨entry, hentry, hlive, rfl⟩ := LocalStore.peek_eq_some.1 hnow
        refine .expire hentry hlive ?_
        cases hlater : before.live t.now entry with
        | false => rfl
        | true =>
          rw [LocalStore.peek_eq_some.2 ⟨entry, hentry, hlater, rfl⟩] at hthen
          cases hthen

/-- The store after a change of one store. -/
theorem shift_mapStore {other : String} {f : LocalStore → LocalStore} (hbefore : s.store? name = some before)
    (hafter : (s.mapStore other f).store? name = some after) (hnow : t.now = s.now)
    (hself : name = other → Shift s t name key before (before.phase s.now key) ((f before).phase s.now key)) :
    Shift s t name key before (before.phase s.now key) (after.phase t.now key) := by
  rw [store?_mapStore, hbefore] at hafter
  rw [hnow]
  split at hafter
  next hname =>
    cases hafter
    exact hself hname
  next =>
    cases hafter
    exact .stay _

/-- A lookup starts a load for a key that is absent, and touches no other key. -/
theorem shift_lookUp {store : LocalStore} (hstore : s.store? store.name = some store) {label : String}
    {own : Key} {loader : Loader τ} (hbefore : s.store? name = some before)
    (hafter : (s.lookUp store ⟨label, store.name, own⟩ loader).1.store? name = some after) :
    Shift s (s.lookUp store ⟨label, store.name, own⟩ loader).1 name key before (before.phase s.now key)
      (after.phase (s.lookUp store ⟨label, store.name, own⟩ loader).1.now key) := by
  have hsame : name = store.name → before = store := by
    rintro rfl
    rw [hbefore] at hstore
    cases hstore
    rfl
  revert hafter
  unfold System.lookUp
  split
  next value hpeek =>
    intro hafter
    refine shift_mapStore hbefore hafter rfl fun hname => ?_
    obtain rfl := hsame hname
    exact shift_of_keeps rfl (by rw [LocalStore.inFlight_touch]) (LocalStore.keeps_touch hpeek key)
  next hpeek =>
    split
    next flight hflight =>
      intro hafter
      refine shift_mapStore hbefore hafter rfl fun hname => ?_
      have hmiss := LocalStore.trimmed_miss before s.now own
      exact shift_of_keeps rfl (by rw [hmiss.inFlight]) (hmiss.keeps _ key)
    next hflight =>
      intro hafter
      refine shift_mapStore (f := (·.launch s.now own s.loads.length)) hbefore hafter rfl fun hname => ?_
      obtain rfl := hsame hname
      have hkeeps := LocalStore.keeps_launch before s.now own s.loads.length key
      by_cases hkey : key = own
      · subst hkey
        have hfind : (before.launch s.now key s.loads.length).inFlight.find? key =
            some ⟨before.nextLoad, s.loads.length⟩ := by
          rw [LocalStore.inFlight_launch, Assoc.find?_insert_self]
        rw [LocalStore.phase_of_none hflight hpeek, LocalStore.phase_of_flight hfind, hname]
        exact .start rfl
      · refine shift_of_keeps rfl ?_ hkeeps
        rw [LocalStore.inFlight_launch, Assoc.find?_insert_of_ne _ _ hkey]

/-- The end of a load in flight makes its key ready or absent, and touches no other key. -/
theorem shift_land (sound : s.Sound) {id number : Nat} {cache : String} {own : Key} {state : LoadState}
    (hload : s.load? id = some ⟨cache, own, number, state⟩) (outcome : LoadResult)
    (hbefore : s.store? name = some before) (hafter : (s.land id cache own number outcome).store? name = some after) :
    Shift s (s.land id cache own number outcome) name key before (before.phase s.now key)
      (after.phase (s.land id cache own number outcome).now key) := by
  cases hin : s.inFlight cache own number with
  | false =>
    rw [land_of_detached hin] at hafter ⊢
    rw [store?_emit, store?_setLoad, hbefore] at hafter
    cases hafter
    exact .stay _
  | true =>
    rw [land_of_kept hin] at hafter ⊢
    refine shift_mapStore hbefore hafter rfl ?_
    rintro rfl
    by_cases hkey : key = own
    · -- the load is in flight for its key, which therefore has no value that could be replaced
      subst hkey
      obtain ⟨store, flight, hstore, hflight, rfl⟩ := (sound.numbered.inFlight_iff hload).1 hin
      obtain rfl : before = store := Option.some.inj (hbefore.symm.trans hstore)
      have hnone := (sound.numbered.flying name before key flight hbefore hflight).2
      have herased : (conclude s.now key outcome before).inFlight.find? key = none := by
        rw [inFlight_conclude, Assoc.find?_erase_self]
      rw [LocalStore.phase_of_flight hflight]
      cases outcome with
      | error failure =>
        have hgone : (conclude s.now key (.error failure) before).peek s.now key = none := hnone
        rw [LocalStore.phase_of_none herased hgone]
        exact .fail rfl
      | ok value =>
        rcases LocalStore.peek_put_self hnone value with hvalue | ⟨hgone, hwhy⟩
        · rw [LocalStore.phase_of_value herased hvalue]
          exact .succeed rfl
        · rw [LocalStore.phase_of_none herased hgone]
          exact .vain rfl hwhy
    · refine shift_of_keeps rfl ?_ (keeps_conclude s.now hkey outcome before)
      rw [inFlight_conclude, Assoc.find?_erase_of_ne _ hkey]

/-- Every move shifts every key for one of the reasons, if it shifts it at all. -/
theorem shift_of_move (sound : s.Sound) (move : Move s t) (hbefore : s.store? name = some before)
    (hafter : t.store? name = some after) :
    Shift s t name key before (before.phase s.now key) (after.phase t.now key) := by
  cases move with
  | elapse s ms =>
    obtain rfl : before = after := Option.some.inj (hbefore.symm.trans hafter)
    exact shift_elapse (Nat.le_add_right s.now ms)
  | note aside =>
    obtain rfl : before = after := Option.some.inj (hbefore.symm.trans hafter)
    exact .stay _
  | @lookUp _ _ other store hfind label own loader =>
    have hname := sound.named.name_of_find? hfind
    exact shift_lookUp (hname ▸ store?_of_find? hfind) hbefore hafter
  | call hload =>
    obtain rfl : before = after := Option.some.inj (hbefore.symm.trans hafter)
    exact .stay _
  | resume hload called =>
    obtain rfl : before = after := Option.some.inj (hbefore.symm.trans hafter)
    exact .stay _
  | pause hload called =>
    obtain rfl : before = after := Option.some.inj (hbefore.symm.trans hafter)
    exact .stay _
  | land hload outcome => exact shift_land sound hload outcome hbefore hafter
  | @invalidate _ other cache hfind own =>
    match cache with
    | .passThrough _ =>
      obtain rfl : before = after := Option.some.inj (hbefore.symm.trans hafter)
      exact .stay _
    | .local store =>
      refine shift_mapStore (f := (·.invalidate s.now own)) hbefore hafter rfl fun hname => ?_
      by_cases hkey : key = own
      · subst hkey
        have herased : (before.invalidate s.now key).inFlight.find? key = none := by
          rw [LocalStore.inFlight_invalidate, Assoc.find?_erase_self]
        rw [LocalStore.phase_of_none herased (LocalStore.peek_invalidate_self before s.now key)]
        exact .forget rfl ⟨hname.symm, rfl⟩
      · refine shift_of_keeps rfl ?_ (LocalStore.keeps_invalidate before s.now own hkey)
        rw [LocalStore.inFlight_invalidate, Assoc.find?_erase_of_ne _ hkey]
  | @invalidateAll _ other cache hfind =>
    match cache with
    | .passThrough _ =>
      obtain rfl : before = after := Option.some.inj (hbefore.symm.trans hafter)
      exact .stay _
    | .local store =>
      refine shift_mapStore (f := LocalStore.invalidateAll) hbefore hafter rfl fun hname => ?_
      have hgone : before.invalidateAll.phase s.now key = .absent := LocalStore.phase_of_none rfl rfl
      rw [hgone]
      exact .forget rfl hname.symm
  | tend s other =>
    refine shift_mapStore (f := (·.tend s.now [])) hbefore hafter rfl fun hname => ?_
    have htend := LocalStore.trimmed_tend before s.now []
    exact shift_of_keeps rfl (by rw [htend.inFlight]) (htend.keeps _ key)

end

/-! ### Every reached state -/

/-- In a reached state a value that has not expired is ready, whatever is in flight. -/
theorem Sound.phase_eq_ready_iff {s : System} (sound : s.Sound) {name : String} {store : LocalStore}
    (hstore : s.store? name = some store) {key : Key} {value : Stored Value} :
    store.phase s.now key = .ready value ↔ store.peek s.now key = some value := by
  cases hfind : store.inFlight.find? key with
  | some flight =>
    rw [LocalStore.phase_of_flight hfind, (sound.numbered.flying name store key flight hstore hfind).2]
    exact ⟨nofun, nofun⟩
  | none =>
    cases hpeek : store.peek s.now key with
    | none =>
      rw [LocalStore.phase_of_none hfind hpeek]
      exact ⟨nofun, nofun⟩
    | some found =>
      rw [LocalStore.phase_of_value hfind hpeek]
      constructor
      · rintro ⟨⟩
        rfl
      · rintro ⟨⟩
        rfl

/-- **The phases of a key.** In every reached state a key with a load in flight has no value that has not expired, and
the load is one of the key that has not ended. The numbers of the loads in flight are different and have been given. A
move shifts a key only for the reasons of `Shift`. A store contains the keys that are pending or ready. Without a size
limit it counts these, each once, and the values that have gone idle while another one has not. -/
theorem phases_of_reached {s : System} (reached : s.Reached) {name : String} {store : LocalStore}
    (hstore : s.store? name = some store) :
    (∀ key flight, store.inFlight.find? key = some flight →
      store.peek s.now key = none ∧ s.Flies name key flight ∧ flight.number < store.nextLoad) ∧
    (∀ key value, store.phase s.now key = .ready value ↔ store.peek s.now key = some value) ∧
    (∀ key other a b, store.inFlight.find? key = some a → store.inFlight.find? other = some b →
      a.number = b.number → key = other) ∧
    (∀ t, Move s t → ∃ after, t.store? name = some after ∧
      ∀ key, Shift s t name key store (store.phase s.now key) (after.phase t.now key)) ∧
    (∀ key, store.contains s.now key = true ↔ store.phase s.now key ≠ .absent) ∧
    (store.tuning.maximumSize = none →
      (∃ keys : List Key, keys.Nodup ∧ (∀ key, key ∈ keys ↔ store.contains s.now key = true) ∧
        (store.tend s.now []).size = keys.length + (store.stale s.now).length) ∧
      (store.stale s.now).Nodup ∧
      (∀ key ∈ store.stale s.now, store.fresh s.now key = true ∧ store.idle s.now key = true) ∧
      (store.stale s.now ≠ [] →
        store.tuning.expireAfterAccess ≠ none ∧ ∃ key, (store.peek s.now key).isSome = true)) := by
  have sound := reached.sound
  have hflying : ∀ key flight, store.inFlight.find? key = some flight →
      store.peek s.now key = none ∧ s.Flies name key flight ∧ flight.number < store.nextLoad := by
    intro key flight hflight
    obtain ⟨hflies, hnone⟩ := sound.numbered.flying name store key flight hstore hflight
    refine ⟨hnone, hflies, ?_⟩
    obtain ⟨load, hload, ⟨hcache, -, hnumber⟩, -⟩ := hflies
    obtain ⟨owner, howner, hlt⟩ := sound.numbered.housed flight.load load hload
    rw [hcache, hstore] at howner
    cases howner
    exact hnumber ▸ hlt
  refine ⟨hflying, fun key value => sound.phase_eq_ready_iff hstore, ?_, fun t move => ?_,
    fun key => LocalStore.contains_iff, fun hsize => ?_⟩
  · -- a store gives no number twice, so the loads are the same, and with them the keys
    intro key other a b ha hb hnumber
    obtain ⟨-, ⟨first, hfirst, ⟨hcache, hkey, hno⟩, -⟩, -⟩ := hflying key a ha
    obtain ⟨-, ⟨second, hsecond, ⟨hcache', hkey', hno'⟩, -⟩, -⟩ := hflying other b hb
    have hload : a.load = b.load := sound.numbered.distinct a.load b.load first second hfirst hsecond
      (hcache.trans hcache'.symm) (hno.trans (hnumber.trans hno'.symm))
    rw [hload, hsecond] at hfirst
    cases hfirst
    exact hkey.symm.trans hkey'
  · have hsome := isSome_store?_move move name
    rw [hstore] at hsome
    obtain ⟨after, hafter⟩ := Option.isSome_iff_exists.1 hsome
    exact ⟨after, hafter, fun key => shift_of_move sound move hstore hafter⟩
  · have htracked := tracked_of_reached reached name store hstore hsize
    have hnodup := LocalStore.nodup_tend hsize htracked.nodup s.now []
    refine ⟨LocalStore.size_tend htracked hsize fun key flight hflight => (hflying key flight hflight).1,
      hnodup.filter _, fun key => LocalStore.of_mem_stale hsize, fun hstale => ⟨fun haccess => ?_, ?_⟩⟩
    · exact hstale (LocalStore.stale_eq_nil hsize haccess)
    · exact LocalStore.exists_ready_of_stale htracked hsize hstale

/-- Values go idle after 10 ms. -/
private def idling : Tuning := ⟨none, none, none, some (.ofMillis 10), none⟩

/-- One value has been read lately, and another one that was stored after it has gone idle. -/
private def halfIdle : System :=
  let get (n : Nat) : Session.Turn := .start "a" .flag ⟨"g", "c", .ok (.ofNat n), .registry, .zero⟩ (.done none)
  ((Session.start (.sole "c" idling)).play
    [get 1, .poll 0, get 2, .poll 0, .elapse 8, get 1, .poll 0, .elapse 4]).system

private theorem reached_halfIdle : halfIdle.Reached := by
  have built : (Registry.sole "c" idling).Built := Registry.built_sole (by decide) rfl
  exact Reached.play built _

private theorem store_of_halfIdle : ∃ store, halfIdle.store? "c" = some store ∧ store.tuning.maximumSize = none ∧
    (∀ key, store.contains halfIdle.now key = true ↔ key = .ofNat 1) ∧ (store.tend halfIdle.now []).size = 2 := by
  have hfacts : (halfIdle.store? "c").map (fun store => (store.inFlight.keys ++ store.entries.keys,
      store.contains halfIdle.now (.ofNat 1), store.contains halfIdle.now (.ofNat 2),
      (store.tend halfIdle.now []).size, store.tuning.maximumSize)) =
      some ([.ofNat 2, .ofNat 1], true, false, 2, none) := by decide +kernel
  obtain ⟨store, hstore, hfacts⟩ := Option.map_eq_some_iff.1 hfacts
  simp only [Prod.mk.injEq] at hfacts
  obtain ⟨hkeys, hfirst, hsecond, hcount, hsize⟩ := hfacts
  refine ⟨store, hstore, hsize, fun key => ⟨fun hcontains => ?_, ?_⟩, hcount⟩
  · have hmem : key ∈ store.inFlight.keys ++ store.entries.keys := LocalStore.mem_keys_of_contains hcontains
    rw [hkeys, List.mem_cons, List.mem_singleton] at hmem
    rcases hmem with rfl | rfl
    · rw [hsecond] at hcontains
      cases hcontains
    · rfl
  · rintro rfl
    exact hfirst

theorem phases_of_halfIdle : ∃ store, halfIdle.store? "c" = some store ∧ ∃ keys : List Key, keys.Nodup ∧
    (∀ key, key ∈ keys ↔ store.contains halfIdle.now key = true) ∧
    2 = keys.length + (store.stale halfIdle.now).length := by
  obtain ⟨store, hstore, hsize, -, hcount⟩ := store_of_halfIdle
  obtain ⟨-, -, -, -, -, hunbounded⟩ := phases_of_reached reached_halfIdle hstore
  exact ⟨store, hstore, hcount ▸ (hunbounded hsize).1⟩

/-- The count of a store without a size limit is not always the number of the keys that it contains. -/
theorem size_ne_of_halfIdle : halfIdle.Reached ∧ ∃ store, halfIdle.store? "c" = some store ∧
    store.tuning.maximumSize = none ∧ ¬ ∃ keys : List Key, keys.Nodup ∧
      (∀ key, key ∈ keys ↔ store.contains halfIdle.now key = true) ∧
      (store.tend halfIdle.now []).size = keys.length := by
  obtain ⟨store, hstore, hsize, hcontains, hcount⟩ := store_of_halfIdle
  refine ⟨reached_halfIdle, store, hstore, hsize, ?_⟩
  rintro ⟨keys, hnodup, hmem, hlength⟩
  have hsub : keys ⊆ [.ofNat 1] := fun key hkey => List.mem_singleton.2 ((hcontains key).1 ((hmem key).1 hkey))
  have hle : keys.length ≤ 1 := hnodup.length_le_of_subset hsub
  rw [hcount] at hlength
  omega

end System

end SingleFlight
