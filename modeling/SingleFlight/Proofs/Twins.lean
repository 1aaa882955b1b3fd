import SingleFlight.Proofs.Metering

/-!
# Twins

Twins are stores without a size limit that are the same but for their upkeep: they hold the same entries and loads in
flight, and the notes that are still to be worked off, the queue and the time of the next upkeep may differ.

* upkeep makes a twin, and so does every note of a look or a change (`LocalStore.twins_tend`);
* what a store does, its twin does as well, so twins stay twins (`LocalStore.Twins.put` and so on), and so do systems
  of twins;
* a poll in one of two such systems does the same in the other (`System.Twins.poll`).
-/

namespace SingleFlight

namespace SameEnd

variable {ε α : Type} {R : α → α → Prop} {x y : Except ε α}

theorem of_ok (h : SameEnd R x y) {a : α} (hx : x = .ok a) : ∃ b, y = .ok b ∧ R a b := by
  cases h with
  | error e => cases hx
  | ok hab =>
    cases hx
    exact ⟨_, rfl, hab⟩

theorem of_error (h : SameEnd R x y) {e : ε} (hx : x = .error e) : y = .error e := by
  cases h with
  | error e' => exact hx
  | ok hab => cases hx

end SameEnd

namespace LocalStore

/-- Stores without a size limit that are the same but for their upkeep. -/
structure Twins (a b : LocalStore) : Prop where
  name : a.name = b.name
  tuning : a.tuning = b.tuning
  entries : a.entries = b.entries
  inFlight : a.inFlight = b.inFlight
  nextLoad : a.nextLoad = b.nextLoad
  unbounded : a.tuning.maximumSize = none

variable {a b c store : LocalStore} {now : Nat} {key : Key}

namespace Twins

theorem refl (h : store.tuning.maximumSize = none) : store.Twins store := ⟨rfl, rfl, rfl, rfl, rfl, h⟩

theorem symm (h : a.Twins b) : b.Twins a where
  name := h.name.symm
  tuning := h.tuning.symm
  entries := h.entries.symm
  inFlight := h.inFlight.symm
  nextLoad := h.nextLoad.symm
  unbounded := h.tuning ▸ h.unbounded

theorem trans (h : a.Twins b) (h' : b.Twins c) : a.Twins c where
  name := h.name.trans h'.name
  tuning := h.tuning.trans h'.tuning
  entries := h.entries.trans h'.entries
  inFlight := h.inFlight.trans h'.inFlight
  nextLoad := h.nextLoad.trans h'.nextLoad
  unbounded := h.unbounded

end Twins

/-- Upkeep in a store without a size limit lets go of no entry. -/
theorem twins_tend (h : store.tuning.maximumSize = none) (now : Nat) (pending : List Change) :
    (store.tend now pending).Twins store where
  name := rfl
  tuning := rfl
  entries := by
    simp only [tend, without]
    -- nothing is dropped for its size, so the filter keeps every entry
    generalize hdropped : (Upkeep.run ..).2 = dropped
    have hnil : dropped = [] := by
      rw [← hdropped, h]
      exact Upkeep.dropped_settle_none ..
    refine Assoc.ext_pairs ?_
    simp [hnil, Assoc.filter]
  inFlight := rfl
  nextLoad := rfl
  unbounded := h

theorem twins_noteLook (h : store.tuning.maximumSize = none) (now : Nat) (look : Look) :
    (store.noteLook now look).Twins store := by
  unfold noteLook
  split
  · obtain ⟨hname, htuning, hentries, hflight, hnext, hsize⟩ := twins_tend h now []
    exact ⟨hname, htuning, hentries, hflight, hnext, hsize⟩
  · exact ⟨rfl, rfl, rfl, rfl, rfl, h⟩

theorem twins_noteChange (h : store.tuning.maximumSize = none) (now : Nat) (change : Change) :
    (store.noteChange now change).Twins store := by
  unfold noteChange
  split
  · obtain ⟨hname, htuning, hentries, hflight, hnext, hsize⟩ := twins_tend h now [change]
    exact ⟨hname, htuning, hentries, hflight, hnext, hsize⟩
  · exact ⟨rfl, rfl, rfl, rfl, rfl, h⟩

/-- A removal is noted only where the key has a place in the queue, which twins need not agree about. -/
theorem twins_invalidate (h : store.tuning.maximumSize = none) (now : Nat) (key : Key) :
    (store.invalidate now key).Twins
      { store with entries := store.entries.erase key, inFlight := store.inFlight.erase key } := by
  unfold invalidate
  dsimp only
  split
  · refine twins_noteChange ?_ now (.removed key)
    exact h
  · exact .refl h

namespace Twins

section
variable (h : a.Twins b)
include h

theorem live (now : Nat) (entry : Entry) : a.live now entry = b.live now entry := by
  simp only [LocalStore.live, h.tuning]

theorem peek (now : Nat) (key : Key) : a.peek now key = b.peek now key := by
  simp only [LocalStore.peek, h.entries, h.live]

theorem contains (now : Nat) (key : Key) : a.contains now key = b.contains now key := by
  simp only [LocalStore.contains, h.inFlight, h.peek]

theorem fresh (now : Nat) (key : Key) : a.fresh now key = b.fresh now key := by
  simp only [LocalStore.fresh, h.entries, h.tuning]

theorem idle (now : Nat) (key : Key) : a.idle now key = b.idle now key := by
  simp only [LocalStore.idle, h.entries, h.tuning]

/-- What is noted about twins keeps them twins. -/
theorem noteLook (now : Nat) (look : Look) : (a.noteLook now look).Twins (b.noteLook now look) :=
  ((twins_noteLook h.unbounded now look).trans h).trans (twins_noteLook h.symm.unbounded now look).symm

theorem noteChange (now : Nat) (change : Change) : (a.noteChange now change).Twins (b.noteChange now change) :=
  ((twins_noteChange h.unbounded now change).trans h).trans (twins_noteChange h.symm.unbounded now change).symm

theorem touch (now : Nat) (key : Key) : (a.touch now key).Twins (b.touch now key) := by
  have hread : Twins { a with entries := a.entries.modify key fun entry => { entry with readAt := now } }
      { b with entries := b.entries.modify key fun entry => { entry with readAt := now } } :=
    ⟨h.name, h.tuning, by rw [h.entries], h.inFlight, h.nextLoad, h.unbounded⟩
  exact hread.noteLook now ⟨key, true⟩

theorem miss (now : Nat) (key : Key) : (a.miss now key).Twins (b.miss now key) := h.noteLook now ⟨key, false⟩

theorem put (now : Nat) (key : Key) (value : Stored Value) : (a.put now key value).Twins (b.put now key value) := by
  have hstored : Twins { a with entries := a.entries.insert key ⟨value, now, now⟩ }
      { b with entries := b.entries.insert key ⟨value, now, now⟩ } :=
    ⟨h.name, h.tuning, by rw [h.entries], h.inFlight, h.nextLoad, h.unbounded⟩
  have hroom : ¬ a.tuning.maximumSize = some 0 := by simp [h.unbounded]
  have hroom' : ¬ b.tuning.maximumSize = some 0 := by simp [h.symm.unbounded]
  rw [LocalStore.put, LocalStore.put, if_neg hroom, if_neg hroom']
  exact hstored.noteChange now (.stored key)

theorem launch (now : Nat) (key : Key) (load : Nat) : (a.launch now key load).Twins (b.launch now key load) := by
  obtain ⟨hname, htuning, hentries, -, -, hsize⟩ := (h.miss now key).miss now key
  exact ⟨hname, htuning, hentries, by rw [inFlight_launch, inFlight_launch, h.inFlight, h.nextLoad],
    congrArg (· + 1) h.nextLoad, hsize⟩

theorem land (key : Key) : (a.land key).Twins (b.land key) :=
  ⟨h.name, h.tuning, h.entries, by rw [LocalStore.land, LocalStore.land, h.inFlight], h.nextLoad, h.unbounded⟩

theorem conclude (now : Nat) (key : Key) (outcome : LoadResult) :
    (System.conclude now key outcome a).Twins (System.conclude now key outcome b) := by
  cases outcome with
  | ok value => exact (h.put now key value).land key
  | error failure => exact h.land key

theorem invalidate (now : Nat) (key : Key) : (a.invalidate now key).Twins (b.invalidate now key) := by
  have herased : Twins { a with entries := a.entries.erase key, inFlight := a.inFlight.erase key }
      { b with entries := b.entries.erase key, inFlight := b.inFlight.erase key } :=
    ⟨h.name, h.tuning, by rw [h.entries], by rw [h.inFlight], h.nextLoad, h.unbounded⟩
  exact ((twins_invalidate h.unbounded now key).trans herased).trans (twins_invalidate h.symm.unbounded now key).symm

theorem invalidateAll : a.invalidateAll.Twins b.invalidateAll :=
  ⟨h.name, h.tuning, rfl, rfl, h.nextLoad, h.unbounded⟩

theorem tend (now : Nat) : (a.tend now []).Twins (b.tend now []) :=
  ((twins_tend h.unbounded now []).trans h).trans (twins_tend h.symm.unbounded now []).symm

end

end Twins

end LocalStore

/-! ### Systems of twins -/

/-- Twins, or caches that pass calls through. -/
inductive Cache.Twins : Cache → Cache → Prop where
  | local {a b : LocalStore} (h : a.Twins b) : Twins (.local a) (.local b)
  | passThrough (name : String) : Twins (.passThrough name) (.passThrough name)

namespace System

/-- Systems that are the same but for the upkeep of their stores, none of which has a size limit. -/
structure Twins (s t : System) : Prop where
  now : s.now = t.now
  caches : ∀ name, Option.Rel Cache.Twins (s.registry.find? name) (t.registry.find? name)
  loads : s.loads = t.loads
  history : s.history = t.history

/-- No local store has a size limit. -/
def Unbounded (s : System) : Prop :=
  ∀ name store, s.registry.find? name = some (.local store) → store.tuning.maximumSize = none

variable {s t u : System}

namespace Twins

theorem refl (h : s.Unbounded) : s.Twins s where
  now := rfl
  caches name := by
    rcases hfind : s.registry.find? name with _ | store | own
    · exact .none
    · exact .some (.local (.refl (h name store hfind)))
    · exact .some (.passThrough own)
  loads := rfl
  history := rfl

theorem symm (h : s.Twins t) : t.Twins s where
  now := h.now.symm
  caches name := by
    have hname := h.caches name
    generalize s.registry.find? name = x at hname ⊢
    generalize t.registry.find? name = y at hname ⊢
    cases hname with
    | none => exact .none
    | some hcache =>
      cases hcache with
      | «local» hstore => exact .some (.local hstore.symm)
      | passThrough own => exact .some (.passThrough own)
  loads := h.loads.symm
  history := h.history.symm

theorem trans (h : s.Twins t) (h' : t.Twins u) : s.Twins u where
  now := h.now.trans h'.now
  caches name := by
    have hname := h.caches name
    have hname' := h'.caches name
    generalize s.registry.find? name = x at hname ⊢
    generalize t.registry.find? name = y at hname hname'
    generalize u.registry.find? name = z at hname' ⊢
    cases hname with
    | none => exact hname'
    | some hcache =>
      cases hname' with
      | some hcache' =>
        cases hcache with
        | passThrough own => exact .some hcache'
        | «local» hstore =>
          cases hcache' with
          | «local» hstore' => exact .some (.local (hstore.trans hstore'))
  loads := h.loads.trans h'.loads
  history := h.history.trans h'.history

section
variable (h : s.Twins t)
include h

theorem find?_local {name : String} {a : LocalStore} (hfind : s.registry.find? name = some (.local a)) :
    ∃ b, t.registry.find? name = some (.local b) ∧ a.Twins b := by
  have hname := h.caches name
  rw [hfind] at hname
  generalize t.registry.find? name = y at hname ⊢
  cases hname with
  | some hcache =>
    cases hcache with
    | «local» hstore => exact ⟨_, rfl, hstore⟩

theorem find?_passThrough {name own : String} (hfind : s.registry.find? name = some (.passThrough own)) :
    t.registry.find? name = some (.passThrough own) := by
  have hname := h.caches name
  rw [hfind] at hname
  generalize t.registry.find? name = y at hname ⊢
  cases hname with
  | some hcache =>
    cases hcache with
    | passThrough => rfl

theorem find?_none {name : String} (hfind : s.registry.find? name = none) : t.registry.find? name = none := by
  have hname := h.caches name
  rw [hfind] at hname
  generalize t.registry.find? name = y at hname ⊢
  cases hname with
  | none => rfl

theorem emit (event : Event) : (s.emit event).Twins (t.emit event) :=
  ⟨h.now, h.caches, h.loads, by rw [history_emit, history_emit, h.now, h.history]⟩

theorem setLoad (id : Nat) (state : LoadState) : (s.setLoad id state).Twins (t.setLoad id state) :=
  ⟨h.now, h.caches, by rw [System.setLoad, System.setLoad, h.loads], h.history⟩

theorem elapse (ms : Nat) : (s.elapse ms).Twins (t.elapse ms) :=
  ⟨congrArg (· + ms) h.now, h.caches, h.loads, h.history⟩

/-- What twins both do to a store keeps the systems twins. -/
theorem mapStore (name : String) {f g : LocalStore → LocalStore} (hfg : ∀ a b, a.Twins b → (f a).Twins (g b)) :
    (s.mapStore name f).Twins (t.mapStore name g) where
  now := h.now
  caches other := by
    have hother := h.caches other
    rw [find?_mapStore, find?_mapStore]
    generalize s.registry.find? other = x at hother ⊢
    generalize t.registry.find? other = y at hother ⊢
    split
    · cases hother with
      | none => exact .none
      | some hcache =>
        cases hcache with
        | «local» hstore => exact .some (.local (hfg _ _ hstore))
        | passThrough own => exact .some (.passThrough own)
    · exact hother
  loads := h.loads
  history := h.history

theorem load? (id : Nat) : t.load? id = s.load? id := by rw [System.load?, System.load?, h.loads]

theorem outcome? (id : Nat) : t.outcome? id = s.outcome? id := by rw [System.outcome?, System.outcome?, h.load?]

theorem work : t.work = s.work := by rw [System.work, System.work, h.loads]

theorem inFlight (cache : String) (key : Key) (number : Nat) :
    t.inFlight cache key number = s.inFlight cache key number := by
  have hname := h.caches cache
  unfold System.inFlight System.store?
  generalize s.registry.find? cache = x at hname ⊢
  generalize t.registry.find? cache = y at hname ⊢
  cases hname with
  | none => rfl
  | some hcache =>
    cases hcache with
    | «local» hstore => simp only [Option.bind_some, Cache.store?, hstore.inFlight]
    | passThrough own => rfl

theorem land (id : Nat) (cache : String) (key : Key) (number : Nat) (outcome : LoadResult) :
    (s.land id cache key number outcome).Twins (t.land id cache key number outcome) := by
  cases hin : s.inFlight cache key number with
  | true =>
    rw [land_of_kept hin, land_of_kept ((h.inFlight cache key number).trans hin), ← h.now]
    exact ((h.mapStore cache fun a b hstore => hstore.conclude s.now key outcome).setLoad id _).emit _
  | false =>
    rw [land_of_detached hin, land_of_detached ((h.inFlight cache key number).trans hin)]
    exact (h.setLoad id _).emit _

theorem launch {a b : LocalStore} (hstore : a.Twins b) (call : Call) (loader : Loader τ) :
    (s.launch a call loader).Twins (t.launch b call loader) := by
  have hmapped : (s.mapStore a.name (·.launch s.now call.key s.loads.length)).Twins
      (t.mapStore a.name (·.launch t.now call.key t.loads.length)) := by
    refine h.mapStore a.name fun a b hab => ?_
    rw [← h.now, ← h.loads]
    exact hab.launch s.now call.key s.loads.length
  rw [System.launch, System.launch, ← hstore.name, ← hstore.nextLoad]
  exact ⟨hmapped.now, hmapped.caches, by rw [h.loads], hmapped.history⟩

/-- A lookup finds the same in both. -/
theorem lookUp {a b : LocalStore} (hstore : a.Twins b) (call : Call) (loader : Loader τ) {found : Found}
    (hlook : s.lookUp a call loader = (u, found)) : ∃ v, t.lookUp b call loader = (v, found) ∧ u.Twins v := by
  have hpeek := hstore.peek s.now call.key
  simp only [System.lookUp] at hlook
  simp only [System.lookUp, ← h.now, ← hpeek, ← hstore.inFlight, ← hstore.name, ← h.loads]
  cases hvalue : a.peek s.now call.key with
  | some value =>
    simp only [hvalue, Prod.mk.injEq] at hlook
    obtain ⟨rfl, rfl⟩ := hlook
    exact ⟨_, rfl, (h.mapStore a.name fun a b hab => hab.touch s.now call.key).emit _⟩
  | none =>
    cases hflight : a.inFlight.find? call.key with
    | some flight =>
      simp only [hvalue, hflight, Prod.mk.injEq] at hlook
      obtain ⟨rfl, rfl⟩ := hlook
      exact ⟨_, rfl, (h.mapStore a.name fun a b hab => hab.miss s.now call.key).emit _⟩
    | none =>
      simp only [hvalue, hflight, Prod.mk.injEq] at hlook
      obtain ⟨rfl, rfl⟩ := hlook
      exact ⟨_, rfl, (h.launch hstore call loader).emit _⟩

theorem invalidateIn {a b : Cache} (hcache : a.Twins b) (key : Key) :
    (s.invalidateIn a key).Twins (t.invalidateIn b key) := by
  cases hcache with
  | passThrough own => exact h
  | «local» hstore =>
    simp only [System.invalidateIn, ← hstore.name, ← h.now]
    exact (h.mapStore _ fun a b hab => hab.invalidate s.now key).emit _

theorem invalidateAllIn {a b : Cache} (hcache : a.Twins b) : (s.invalidateAllIn a).Twins (t.invalidateAllIn b) := by
  cases hcache with
  | passThrough own => exact h
  | «local» hstore =>
    simp only [System.invalidateAllIn, ← hstore.name]
    exact (h.mapStore _ fun a b hab => hab.invalidateAll).emit _

/-- Both know a cache of the name, or neither does. -/
theorem require (name : String) : SameEnd Cache.Twins (s.registry.require name) (t.registry.require name) := by
  have hname := h.caches name
  unfold Registry.require
  generalize s.registry.find? name = x at hname ⊢
  generalize t.registry.find? name = y at hname ⊢
  cases hname with
  | none => exact .error _
  | some hcache => exact .ok hcache

theorem reach (request : Request) : SameEnd Cache.Twins (s.reach request) (t.reach request) := by
  refine (h.require request.cache).bind fun a b hcache => ?_
  cases hcache with
  | «local» hstore => cases request.entryPoint.needsStore <;> exact .ok (.local hstore)
  | passThrough own =>
    cases request.entryPoint.needsStore with
    | true => exact .error _
    | false => exact .ok (.passThrough own)

theorem reach_passThrough {request : Request} {name : String} (hreach : s.reach request = .ok (.passThrough name)) :
    t.reach request = .ok (.passThrough name) := by
  obtain ⟨b, hb, hcache⟩ := (h.reach request).of_ok hreach
  cases hcache with
  | passThrough => exact hb

theorem reach_local {request : Request} {a : LocalStore} (hreach : s.reach request = .ok (.local a)) :
    ∃ b, t.reach request = .ok (.local b) ∧ a.Twins b := by
  obtain ⟨b, hb, hcache⟩ := (h.reach request).of_ok hreach
  cases hcache with
  | «local» hstore => exact ⟨_, hb, hstore⟩

theorem invalidate (cache : String) (key : Key) :
    SameEnd System.Twins (s.invalidate cache key) (t.invalidate cache key) := by
  have hsame := h.require cache
  unfold System.invalidate
  generalize s.registry.require cache = x at hsame ⊢
  generalize t.registry.require cache = y at hsame ⊢
  cases hsame with
  | error fault => exact .error fault
  | ok hcache => exact .ok (h.invalidateIn hcache key)

theorem invalidateAll (cache : String) : SameEnd System.Twins (s.invalidateAll cache) (t.invalidateAll cache) := by
  have hsame := h.require cache
  unfold System.invalidateAll
  generalize s.registry.require cache = x at hsame ⊢
  generalize t.registry.require cache = y at hsame ⊢
  cases hsame with
  | error fault => exact .error fault
  | ok hcache => exact .ok (h.invalidateAllIn hcache)

end

end Twins

/-! ### Polls -/

/-- What is polled does the same in systems of twins. -/
private def twinned : Judgement where
  get depth s get u progress := ∀ t, s.Twins t → ∃ v, Get.poll depth t get = (v, progress) ∧ u.Twins v
  run depth s load run u progress := ∀ t, s.Twins t → ∃ v, Run.poll depth t load run = (v, progress) ∧ u.Twins v
  load depth s id u := ∀ t, s.Twins t → u.Twins (System.advance depth t id)

private theorem twinned_gets : twinned.KeptByGets where
  cut s get t h := ⟨t, rfl, h⟩
  unkeyed {τ depth s request loader fault} hkey t h := ⟨t, by simp only [Get.poll, hkey], h⟩
  refused {τ depth s request loader key fault} hkey hreach t h :=
    ⟨t, by simp only [Get.poll, hkey, (h.reach request).of_error hreach], h⟩
  passed {τ depth s u request loader key name progress} hkey hreach hrest t h := by
    obtain ⟨v, hpoll, hv⟩ := hrest _ (h.emit _)
    exact ⟨v, by simp only [Get.poll, hkey, h.reach_passThrough hreach, hpoll], hv⟩
  found {τ depth s u request loader key store value} hkey hreach hlook t h := by
    obtain ⟨b, hreach', hstore⟩ := h.reach_local hreach
    obtain ⟨v, hlook', hv⟩ := h.lookUp hstore _ _ hlook
    refine ⟨v, ?_, hv⟩
    rw [hstore.name] at hlook' ⊢
    simp only [Get.poll, hkey, hreach', hlook']
  started {τ depth id s u w request loader key store progress} hkey hreach hlook hrest t h := by
    obtain ⟨b, hreach', hstore⟩ := h.reach_local hreach
    obtain ⟨v, hlook', hv⟩ := h.lookUp hstore _ _ hlook
    obtain ⟨v', hpoll, hv'⟩ := hrest v hv
    refine ⟨v', ?_, hv'⟩
    rw [hstore.name] at hlook' hpoll
    simp only [Get.poll, hkey, hreach', hlook', hpoll]
  joined {τ depth id s u w request loader key store progress} hkey hreach hlook hrest t h := by
    obtain ⟨b, hreach', hstore⟩ := h.reach_local hreach
    obtain ⟨v, hlook', hv⟩ := h.lookUp hstore _ _ hlook
    obtain ⟨v', hpoll, hv'⟩ := hrest v hv
    refine ⟨v', ?_, hv'⟩
    rw [hstore.name] at hlook' hpoll
    simp only [Get.poll, hkey, hreach', hlook', ← hv.now]
    exact hpoll
  told {τ depth id s cache key patience outcome} hload houtcome t h := by
    have hadvanced := hload t h
    refine ⟨_, ?_, hadvanced⟩
    simp only [Get.poll, hadvanced.outcome? id, houtcome]
  waiting {τ depth id s cache key patience} hload houtcome hdue t h := by
    have hadvanced := hload t h
    refine ⟨_, ?_, hadvanced⟩
    simp only [Get.poll, hadvanced.outcome? id, houtcome]
    cases patience with
    | none => rfl
    | some p => exact if_neg (hadvanced.now ▸ hdue p rfl)
  timedOut {τ depth id s u cache key p progress} hload houtcome hdue hrest t h := by
    have hadvanced := hload t h
    obtain ⟨v, hpoll, hv⟩ := hrest _ (hadvanced.emit _)
    refine ⟨v, ?_, hv⟩
    simp only [Get.poll, hadvanced.outcome? id, houtcome]
    exact (if_pos (hadvanced.now ▸ hdue)).trans hpoll
  loading {τ depth s u cache run rest} _ hrest t h := by
    obtain ⟨v, hpoll, hv⟩ := hrest t h
    exact ⟨v, by simp only [Get.poll, hpoll], hv⟩
  loaded {τ depth s u cache run outcome} _ hrest t h := by
    obtain ⟨v, hpoll, hv⟩ := hrest t h
    exact ⟨v, by simp only [Get.poll, hpoll], hv⟩

private theorem twinned_runs : twinned.KeptByRuns where
  cut s load run t h := ⟨t, rfl, h⟩
  calling hrest t h := hrest _ (h.emit _)
  awake {τ depth due s u load loader progress} hdue hrest t h := by
    obtain ⟨v, hpoll, hv⟩ := hrest t h
    exact ⟨v, (if_pos (h.now ▸ hdue)).trans hpoll, hv⟩
  asleep {τ depth due s load loader} hdue t h := ⟨t, if_neg (h.now ▸ hdue), h⟩
  nesting {τ depth s u load get rest} _ hrest t h := by
    obtain ⟨v, hpoll, hv⟩ := hrest t h
    exact ⟨v, by simp only [Run.poll, hpoll], hv⟩
  nested {τ depth s u load get outcome} _ hrest t h := by
    obtain ⟨v, hpoll, hv⟩ := hrest t h
    exact ⟨v, by simp only [Run.poll, hpoll], hv⟩
  done depth s load value t h := ⟨t, rfl, h⟩
  fail depth s load failure t h := ⟨t, rfl, h⟩
  panic depth s load payload t h := ⟨t, rfl, h⟩
  sleep {τ depth ms s u load next progress} hrest t h := by
    obtain ⟨v, hpoll, hv⟩ := hrest t h
    rw [h.now] at hpoll
    exact ⟨v, hpoll, hv⟩
  invalidate {τ depth s u w load cache key next progress} hdone hrest t h := by
    obtain ⟨v, hdone', hv⟩ := (h.invalidate cache key).of_ok hdone
    obtain ⟨v', hpoll, hv'⟩ := hrest v hv
    exact ⟨v', by simp only [Run.poll, hdone', hpoll], hv'⟩
  invalidateNone {τ depth s load cache key next fault} hfault t h :=
    ⟨t, by simp only [Run.poll, (h.invalidate cache key).of_error hfault], h⟩
  invalidateAll {τ depth s u w load cache next progress} hdone hrest t h := by
    obtain ⟨v, hdone', hv⟩ := (h.invalidateAll cache).of_ok hdone
    obtain ⟨v', hpoll, hv'⟩ := hrest v hv
    exact ⟨v', by simp only [Run.poll, hdone', hpoll], hv'⟩
  invalidateAllNone {τ depth s load cache next fault} hfault t h :=
    ⟨t, by simp only [Run.poll, (h.invalidateAll cache).of_error hfault], h⟩
  get hrest t h := hrest t h

private theorem twinned_loads : twinned.KeptByLoads where
  cut s id t h := h
  still {depth id s} hstill t h := by
    simp only [System.advance, h.load?]
    cases hload : s.load? id with
    | none => exact h
    | some load =>
      obtain ⟨cache, key, number, state⟩ := load
      cases state with
      | idle τ run => exact absurd hload (hstill cache key number τ run)
      | busy => exact h
      | ended outcome => exact h
  paused {τ depth id number s u cache key run rest} hload _ hrest t h := by
    obtain ⟨v, hpoll, hv⟩ := hrest _ (h.setLoad id .busy)
    simp only [System.advance, h.load?, hload, hpoll]
    exact hv.setLoad id _
  landed {τ depth id number s u cache key run outcome} hload _ hrest t h := by
    obtain ⟨v, hpoll, hv⟩ := hrest _ (h.setLoad id .busy)
    simp only [System.advance, h.load?, hload, hpoll]
    exact hv.land id cache key number _

/-- A poll does the same in systems of twins. -/
theorem Twins.poll (h : s.Twins t) (get : Get τ) :
    ∃ v, t.poll get = (v, (s.poll get).2) ∧ (s.poll get).1.Twins v := by
  have hkept := Judgement.Kept.polls ⟨twinned_gets, twinned_runs, twinned_loads⟩ (s.work + get.size)
  rw [System.poll, h.work, System.poll]
  exact hkept.get s get t h

end System

end SingleFlight
