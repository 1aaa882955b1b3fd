import SingleFlight.Proofs.Detached
import SingleFlight.Proofs.Flight
import SingleFlight.Proofs.LockTimeout
import SingleFlight.Proofs.Phase

/-!
# Failed loads

A load that ends without a value while it is in flight leaves nothing behind: its key is as absent as before the load
was started.

* a key stays absent until a lookup starts a load for it (`System.absent_of_moves`), and every lookup of an absent key
  does (`Lookup.started_of_absent`);
* a failure is told to the gets that wait for the load, and never to one that looks its key up afterwards: what such a
  get is told has landed since its lookup, or is what its own loader came to (`Lookup.source_of_answers`).
-/

namespace SingleFlight

open History (Since)

theorem LocalStore.phase_eq_absent_iff {store : LocalStore} {now : Nat} {key : Key} :
    store.phase now key = .absent ↔ store.inFlight.find? key = none ∧ store.peek now key = none := by
  unfold phase
  cases store.inFlight.find? key with
  | some flight => simp
  | none => cases store.peek now key <;> simp

namespace System

/-! ### Absent keys -/

/-- The cache has a store, and the key has neither a value there nor a load in flight. -/
def Absent (s : System) (cache : String) (key : Key) : Prop :=
  ∃ store, s.store? cache = some store ∧ store.phase s.now key = .absent

theorem absent_of_move {s t : System} (sound : s.Sound) (move : Move s t) {cache : String} {key : Key}
    (h : s.Absent cache key) (hstart : ∀ id, ¬ s.Leaves t (.lookedUp cache key (.started id))) :
    t.Absent cache key := by
  obtain ⟨before, hbefore, habsent⟩ := h
  have hsome := isSome_store?_move move cache
  rw [hbefore] at hsome
  obtain ⟨after, hafter⟩ := Option.isSome_iff_exists.1 hsome
  have hshift : Shift s t cache key before (before.phase s.now key) (after.phase t.now key) :=
    shift_of_move sound move hbefore hafter
  rw [habsent] at hshift
  refine ⟨after, hafter, ?_⟩
  -- of the shifts that an absent key can make only the start of a load leads elsewhere
  generalize hphase : after.phase t.now key = phase at hshift
  cases hshift with
  | stay => rfl
  | start h => exact absurd h (hstart _)
  | forget _ _ => rfl

theorem absent_of_moves {s t : System} (sound : s.Sound) (moves : Moves s t) {new : History}
    (hnew : t.history = new ++ s.history) {cache : String} {key : Key} (h : s.Absent cache key)
    (hstart : ∀ e ∈ new, ∀ id, ¬ e.event.Starts cache key id) : t.Absent cache key := by
  induction moves generalizing new with
  | refl => exact h
  | @tail u t first last ih =>
    obtain ⟨old, hold⟩ := history_moves first
    obtain ⟨one, hone⟩ := history_move last
    rw [hone, hold, ← List.append_assoc] at hnew
    obtain rfl : one ++ old = new := List.append_cancel_right hnew
    refine absent_of_move (sound.moves first) last
      (ih hold fun e he => hstart e (List.mem_append_right one he)) fun id hleaves => ?_
    have hsingle : [_] ++ u.history = one ++ u.history := (Eq.symm hleaves).trans hone
    obtain rfl := List.append_cancel_right hsingle
    exact hstart _ (List.mem_append_left old (List.mem_singleton_self _)) id rfl

/-- A lookup of an absent key starts a load. -/
theorem lookUp_of_absent {s : System} {store : LocalStore} {call : Call}
    (h : store.phase s.now call.key = .absent) (loader : Loader τ) :
    (s.lookUp store call loader).2 = .started s.loads.length := by
  obtain ⟨hflight, hpeek⟩ := LocalStore.phase_eq_absent_iff.1 h
  simp only [lookUp, hpeek, hflight]

/-! ### The end of a load without a value -/

/-- What the end of the load in flight for the key does to the state `mid` if the load brought no value. -/
structure Withdrawn (mid t : System) (id : Nat) (cache : String) (key : Key) (failure : Failure) : Prop where
  /-- No stored value changes, and no other load in flight. -/
  store : ∃ store, mid.store? cache = some store ∧
    t.store? cache = some { store with inFlight := store.inFlight.erase key } ∧
    ({ store with inFlight := store.inFlight.erase key } : LocalStore).contains t.now key = false
  stores : ∀ other ≠ cache, t.store? other = mid.store? other
  absent : t.Absent cache key
  now : t.now = mid.now
  load : ∃ load, t.load? id = some load ∧ load.state = .ended (.error failure)
  loads : ∀ other ≠ id, t.load? other = mid.load? other
  history : t.history = ⟨mid.now, .landed id cache key (.error failure) true⟩ :: mid.history
  counts : ∀ counter, t.trace.count counter =
    mid.trace.count counter + if counter = ⟨.loadFailure, cache⟩ then 1 else 0

theorem withdrawn_of_land {s : System} (sound : s.Sound) {id number : Nat} {cache : String} {key : Key}
    {state : LoadState} (hload : s.load? id = some ⟨cache, key, number, state⟩)
    (hflight : s.flight? cache key = some id) (failure : Failure) :
    Withdrawn s (s.land id cache key number (.error failure)) id cache key failure := by
  obtain ⟨before, -, -, hbefore, hnone, -, -⟩ := sound.exists_of_flight? hflight
  have delivers := sound.delivers hload hflight (.error failure)
  obtain ⟨store, hstore, hafter⟩ := delivers.store
  obtain rfl : before = store := Option.some.inj (hbefore.symm.trans hstore)
  have habsent : (before.land key).phase (s.land id cache key number (.error failure)).now key = .absent := by
    rw [delivers.now]
    exact LocalStore.phase_of_none (Assoc.find?_erase_self before.inFlight key) hnone
  refine ⟨⟨before, hstore, hafter, ?_⟩, delivers.stores, ⟨_, hafter, habsent⟩, delivers.now,
    outcome?_eq_some.1 delivers.ended, delivers.loads, delivers.history, fun counter => ?_⟩
  · cases hcontains : (before.land key).contains (s.land id cache key number (.error failure)).now key with
    | false => exact hcontains
    | true => exact absurd habsent (LocalStore.contains_iff.1 hcontains)
  · have hevent : (Event.landed id cache key (.error failure) true).counter? = some ⟨.loadFailure, cache⟩ := rfl
    rw [count_of_history delivers.history, hevent]
    simp only [Option.some.injEq, eq_comm]

end System

/-! ### Gets after their lookup -/

namespace Lookup

variable {τ : ValueType}

/-- The get is told the answer, in the state `u`: by its lookup, or by a poll after it has waited. -/
inductive Answers (l : Lookup τ) : System → Outcome CacheFault (Option (Typed τ)) → Prop where
  | served {value : Stored Value} (h : l.found = .stored value) :
      Answers l l.after (System.typed τ l.store.name value)
  | started {id depth : Nat} {t u : System} {rest : Get τ} {answer : Outcome CacheFault (Option (Typed τ))}
      (h : l.found = .started id) (course : Get.Course l.after (l.waiting id) t rest)
      (hend : Get.poll depth t rest = (u, .ended answer)) : Answers l u answer
  | joined {id depth : Nat} {t u : System} {rest : Get τ} {answer : Outcome CacheFault (Option (Typed τ))}
      (h : l.found = .joined id) (course : Get.Course l.after (l.joining id) t rest)
      (hend : Get.poll depth t rest = (u, .ended answer)) : Answers l u answer

/-- Where the answer comes from. -/
inductive Source (l : Lookup τ) (u : System) : Outcome CacheFault (Option (Typed τ)) → Prop where
  | stored {value : Stored Value} (h : l.found = .stored value) : Source l u (System.typed τ l.store.name value)
  /-- The load that the lookup has found, and that has landed since. -/
  | load {id : Nat} {outcome : LoadResult} (h : l.found = .joined id ∨ l.found = .started id)
      (landed : Since l.after.history u.history fun e => ∃ kept, e = .landed id l.store.name l.key outcome kept) :
      Source l u (System.typedResult τ l.store.name outcome)
  /-- The get's own loader, which the get has called itself since, and which has ended so. -/
  | own {outcome : Outcome Failure (Option (Typed τ))}
      (called : Since l.after.history u.history (· = .called l.call none))
      (ended : l.loader.Ends System.anyState none l.call l.after u outcome) :
      Source l u (outcome.mapError (.computation l.store.name))

variable {l : Lookup τ} {id : Nat}

/-- A get that looks an absent key up has its own loader called by the load that it starts. -/
theorem started_of_absent (reached : l.before.Reached) (h : l.before.Absent l.store.name l.key) :
    l.found = .started l.before.loads.length ∧ l.Originates l.before.loads.length := by
  obtain ⟨store, hstore, habsent⟩ := h
  rw [store?_before reached] at hstore
  cases hstore
  have hlook : (l.before.lookUp l.store ⟨l.request.label, l.store.name, l.key⟩ l.loader).2 =
      .started l.before.loads.length := System.lookUp_of_absent habsent l.loader
  rw [l.lookUp_eq] at hlook
  exact ⟨hlook, originates reached hlook⟩

theorem moves_after : System.Moves l.before l.after := by
  have hmove := System.Move.lookUp l.find? l.request.label l.key l.loader
  rw [l.lookUp_eq] at hmove
  exact .single hmove

/-- The load that a lookup has found has not ended. -/
theorem unended_of_found (reached : l.before.Reached) (h : l.found = .joined id ∨ l.found = .started id) :
    ∃ load, l.after.load? id = some load ∧ load.cache = l.store.name ∧ load.key = l.key ∧ load.ended = false := by
  rcases h with h | h
  · obtain ⟨hloads, hload⟩ := System.load?_of_joined reached.sound l.find? (lookUp_of_found h)
    rw [System.load?, ← hloads] at hload
    exact hload
  · exact ⟨_, (System.load?_of_started (lookUp_of_found h)).2, rfl, rfl, rfl⟩

/-- A load that a lookup has found and that has ended has landed since. -/
theorem landed_of_outcome (reached : l.before.Reached) (h : l.found = .joined id ∨ l.found = .started id) {u : System}
    (moves : System.Moves l.after u) {outcome : LoadResult} (houtcome : u.outcome? id = some outcome) :
    Since l.after.history u.history fun e => ∃ kept, e = .landed id l.store.name l.key outcome kept := by
  obtain ⟨load, hload, hcache, hkey, hunended⟩ := unended_of_found reached h
  have hreached : l.after.Reached := reached.moves moves_after
  obtain ⟨state, hafter⟩ := System.load?_moves moves hload
  obtain ⟨ended, hended, hstate⟩ := System.outcome?_eq_some.1 houtcome
  rw [hafter] at hended
  cases hended
  obtain ⟨e, he, kept, hevent⟩ := System.landing_of_ended (hreached.moves moves) hafter hstate
  obtain ⟨new, hnew⟩ := System.history_moves moves
  have hlanding : e.event = .landed id l.store.name l.key outcome kept := by rw [hevent, ← hcache, ← hkey]
  refine ⟨new, hnew, e, ?_, kept, hlanding⟩
  -- the landing is not one of the events before, when the load had not ended
  rw [hnew] at he
  rcases List.mem_append.1 he with hmem | hmem
  · exact hmem
  · have hlands : e.event.lands id = true := Event.lands_of_landed hlanding
    rw [(hreached.sound.told.loads.landed id load hload).2 ⟨e, hmem, hlands⟩] at hunended
    cases hunended

/-- What a poll of a get that waits comes to. -/
theorem exists_of_awaiting {depth : Nat} {s u : System} {cache : String} {key : Key} {patience : Option (Patience τ)}
    {progress : Progress (Get τ) CacheFault (Option (Typed τ))}
    (hpoll : Get.poll (depth + 1) s (.awaiting cache key id patience) = (u, progress)) :
    (∃ outcome, u.outcome? id = some outcome ∧ progress = .ended (System.typedResult τ cache outcome)) ∨
      progress = .pending (.awaiting cache key id patience) ∨
      ∃ p, patience = some p ∧ Get.poll depth
        ((System.advance depth s id).emit (.lockTimedOut cache key id p.lockTimeout))
        (.loading cache (.calling p.call p.loader)) = (u, progress) := by
  simp only [Get.poll] at hpoll
  split at hpoll
  next outcome houtcome =>
    obtain ⟨rfl, rfl⟩ := Prod.mk.inj hpoll
    exact .inl ⟨outcome, houtcome, rfl⟩
  next =>
    split at hpoll
    · exact .inr (.inl (Prod.mk.inj hpoll).2.symm)
    next p =>
      split at hpoll
      · exact .inr (.inr ⟨p, rfl, hpoll⟩)
      · exact .inr (.inl (Prod.mk.inj hpoll).2.symm)

/-- A get that runs its own loader goes on with it, or is told how it has ended. -/
theorem follows_of_loading {depth : Nat} {s t u : System} {cache : String} {call : Call} {loader : Loader τ}
    {run : Run τ} {progress : Progress (Get τ) CacheFault (Option (Typed τ))}
    (follows : Run.Follows System.anyState none call loader s t run)
    (hpoll : Get.poll depth t (.loading cache run) = (u, progress)) :
    match progress with
    | .pending rest => ∃ next, rest = .loading cache next ∧ Run.Follows System.anyState none call loader s u next
    | .ended answer => ∃ outcome, loader.Ends System.anyState none call s u outcome ∧
        answer = outcome.mapError (.computation cache) := by
  cases depth with
  | zero =>
    cases hpoll
    exact ⟨run, rfl, follows⟩
  | succ depth =>
    rw [poll_loading] at hpoll
    cases hrun : Run.poll depth t none run with
    | mk t' result =>
      have hon := Run.followsOn_of_poll System.stable_anyState follows trivial hrun
      rw [hrun] at hpoll
      cases result with
      | pending next =>
        cases hpoll
        exact ⟨next, rfl, hon⟩
      | ended outcome =>
        cases hpoll
        exact ⟨outcome, hon, rfl⟩

theorem moves_forsaking (depth : Nat) (s : System) (id : Nat) (cache : String) (key : Key) (lockTimeout : Duration) :
    System.Moves s ((System.advance depth s id).emit (.lockTimedOut cache key id lockTimeout)) :=
  (System.polled_advance depth s id).moves.tail (.note rfl)

/-- A get that waits for a load goes on waiting, or runs its own loader. -/
theorem follows_of_course {s t : System} {cache : String} {key : Key} {patience : Option (Patience τ)} {call : Call}
    {loader : Loader τ} (hcall : ∀ p, patience = some p → p.call = call ∧ p.loader = loader) {rest : Get τ}
    (course : Get.Course s (.awaiting cache key id patience) t rest) : rest = .awaiting cache key id patience ∨
      ∃ run, rest = .loading cache run ∧ Run.Follows System.anyState none call loader s t run := by
  induction course with
  | refl => exact .inl rfl
  | moves _ moves ih =>
    refine ih.imp_right ?_
    rintro ⟨run, hrest, follows⟩
    exact ⟨run, hrest, follows.moves moves⟩
  | @poll t u rest next depth course _ hpoll ih =>
    rcases ih with rfl | ⟨run, rfl, follows⟩
    · cases depth with
      | zero =>
        cases hpoll
        exact .inl rfl
      | succ depth =>
        rcases exists_of_awaiting hpoll with ⟨outcome, -, hended⟩ | hsame | ⟨p, hp, hrest⟩
        · cases hended
        · cases hsame
          exact .inl rfl
        · have hmoves := (Get.moves_of_way course).trans (moves_forsaking depth t id cache key p.lockTimeout)
          rw [(hcall p hp).1, (hcall p hp).2] at hrest
          exact .inr (follows_of_loading (.inl ⟨hmoves, rfl⟩) hrest)
    · exact .inr (follows_of_loading follows hpoll)

theorem source_of_waiting (reached : l.before.Reached) (h : l.found = .joined id ∨ l.found = .started id)
    {patience : Option (Patience τ)} (hcall : ∀ p, patience = some p → p.call = l.call ∧ p.loader = l.loader)
    {depth : Nat} {t u : System} {rest : Get τ} {answer : Outcome CacheFault (Option (Typed τ))}
    (course : Get.Course l.after (.awaiting l.store.name l.key id patience) t rest)
    (hend : Get.poll depth t rest = (u, .ended answer)) : l.Source u answer := by
  have hmoves := Get.moves_of_way course
  rcases follows_of_course hcall course with rfl | ⟨run, rfl, follows⟩
  · cases depth with
    | zero => cases hend
    | succ depth =>
      rcases exists_of_awaiting hend with ⟨outcome, houtcome, hanswer⟩ | hwaits | ⟨p, hp, hrest⟩
      · cases hanswer
        exact .load h (landed_of_outcome reached h (hmoves.trans (System.moves_of_poll hend)) houtcome)
      · cases hwaits
      · have hforsaken := hmoves.trans (moves_forsaking depth t id l.store.name l.key p.lockTimeout)
        rw [(hcall p hp).1, (hcall p hp).2] at hrest
        obtain ⟨outcome, ended, rfl⟩ := follows_of_loading (.inl ⟨hforsaken, rfl⟩) hrest
        exact .own ended.recorded ended
  · obtain ⟨outcome, ended, rfl⟩ := follows_of_loading follows hend
    exact .own ended.recorded ended

/-- What a get is told after its lookup it has from the store, from a load that has landed since the lookup, or from
its own loader. -/
theorem source_of_answers (reached : l.before.Reached) {u : System} {answer : Outcome CacheFault (Option (Typed τ))}
    (h : l.Answers u answer) : l.Source u answer := by
  cases h with
  | served h => exact .stored h
  | started h course hend => exact source_of_waiting reached (.inr h) (by rintro _ ⟨⟩) course hend
  | joined h course hend =>
    unfold joining at course
    split at course
    · exact source_of_waiting reached (.inl h) (by rintro _ ⟨⟩) course hend
    · refine source_of_waiting reached (.inl h) (fun p hp => ?_) course hend
      cases hp
      exact ⟨rfl, rfl⟩

/-- A get that has found a stored value is told of no failure and no panic. -/
theorem not_failed_of_stored {value : Stored Value} (hfound : l.found = .stored value) {u : System}
    {answer : Outcome CacheFault (Option (Typed τ))} (h : l.Answers u answer) :
    (∀ name failure, answer ≠ .failed (.computation name failure)) ∧ ∀ payload, answer ≠ .panicked payload := by
  cases h with
  | served h =>
    unfold System.typed
    split
    · exact ⟨fun _ _ => nofun, fun _ => nofun⟩
    · split
      · exact ⟨fun _ _ => nofun, fun _ => nofun⟩
      · exact ⟨fun _ _ => nofun, fun _ => nofun⟩
  | started h =>
    rw [hfound] at h
    cases h
  | joined h =>
    rw [hfound] at h
    cases h

/-- No lookup finds a load that has ended. -/
theorem found_ne_of_ended (reached : l.before.Reached) {load : Load} {outcome : LoadResult}
    (hload : l.before.load? id = some load) (hended : load.state = .ended outcome) :
    l.found ≠ .joined id ∧ l.found ≠ .started id := by
  have hafter : l.after.load? id = some load := System.load?_of_ended moves_after hload hended
  have hnone : ¬ (l.found = .joined id ∨ l.found = .started id) := by
    intro h
    obtain ⟨other, hother, -, -, hunended⟩ := unended_of_found reached h
    rw [hafter] at hother
    cases hother
    rw [Load.ended, hended] at hunended
    cases hunended
  exact ⟨fun h => hnone (.inl h), fun h => hnone (.inr h)⟩

end Lookup

namespace System

/-- **Failed loads leave nothing behind and are tried again.** The load in flight for a key has failed or panicked in
the state `mid`. The step that ends it takes it out of flight and does nothing else to the caches, and one failure is
counted. The next lookup of the key starts a load with the loader of its own get. Whatever a get is told that looks a
key up afterwards, it is not the outcome of this load. -/
theorem retried_after_failure {s mid : System} (reached : s.Reached) {depth id number : Nat} {cache : String}
    {key : Key} {τ : ValueType} {run : Run τ} {outcome : Outcome Failure (Option (Typed τ))} {failure : Failure}
    (hload : s.load? id = some ⟨cache, key, number, .idle τ run⟩)
    (hpoll : Run.poll depth (s.setLoad id .busy) (some id) run = (mid, .ended outcome))
    (hfailure : loadResult outcome = .error failure) (hflight : mid.flight? cache key = some id) :
    let t := advance (depth + 1) s id
    Withdrawn mid t id cache key failure ∧
    (∀ {σ : ValueType} (l : Lookup σ) (new : History), Moves t l.before → l.before.history = new ++ t.history →
      l.store.name = cache → l.key = key → (∀ e ∈ new, ∀ other, ¬ e.event.Starts cache key other) →
        l.found = .started l.before.loads.length ∧ l.Originates l.before.loads.length) ∧
    ∀ {σ : ValueType} (l : Lookup σ), Moves t l.before → l.found ≠ .joined id ∧ l.found ≠ .started id ∧
      ∀ {u : System} {answer : Outcome CacheFault (Option (Typed σ))}, l.Answers u answer → l.Source u answer ∧
        ∀ value, l.found = .stored value →
          (∀ name other, answer ≠ .failed (.computation name other)) ∧ ∀ payload, answer ≠ .panicked payload := by
  intro t
  obtain ⟨moves, hbusy⟩ := busy_of_ended hload hpoll
  have hmid : mid.Reached := reached.moves moves
  have ht : t = mid.land id cache key number (.error failure) := by
    simp only [t, advance, hload, hpoll, hfailure]
  have hreached : t.Reached := by
    rw [ht]
    exact hmid.moves (.single (.land hbusy _))
  have hwithdrawn : Withdrawn mid t id cache key failure := by
    rw [ht]
    exact withdrawn_of_land hmid.sound hbusy hflight failure
  refine ⟨hwithdrawn, fun l new hmoves hnew hcache hkey hstart => ?_, fun l hmoves => ?_⟩
  · -- the key is absent now, and stays so until a lookup starts a load
    have habsent := absent_of_moves hreached.sound hmoves hnew hwithdrawn.absent hstart
    rw [← hcache, ← hkey] at habsent
    exact Lookup.started_of_absent (hreached.moves hmoves) habsent
  · have hbefore := hreached.moves hmoves
    obtain ⟨load, hafter, hended⟩ := hwithdrawn.load
    obtain ⟨hjoined, hstarted⟩ :=
      Lookup.found_ne_of_ended hbefore (load?_of_ended hmoves hafter hended) hended
    exact ⟨hjoined, hstarted, fun h =>
      ⟨Lookup.source_of_answers hbefore h, fun value hvalue => Lookup.not_failed_of_stored hvalue h⟩⟩

/-- A load sleeps whose loader is about to panic. -/
private def doomed : System :=
  let request : Request := ⟨"g", "c", .ok (.ofNat 1), .registry, .zero⟩
  ((Session.start (.sole "c" .unset)).play
    [.start "a" .flag request (.sleep 5 (.panic .other)), .poll 0, .elapse 5]).system

/-- A get asks for the key once it has panicked. -/
private def again : Lookup .flag where
  before := advance 3 doomed 0
  request := ⟨"h", "c", .ok (.ofNat 1), .store, .zero⟩
  loader := .done none
  key := .ofNat 1
  store := ((advance 3 doomed 0).store? "c").getD ⟨"c", .unset, ∅, ∅, 0, .start⟩
  after := ((advance 3 doomed 0).lookUp (((advance 3 doomed 0).store? "c").getD ⟨"c", .unset, ∅, ∅, 0, .start⟩)
    ⟨"h", "c", .ofNat 1⟩ (.done none : Loader .flag)).1
  found := .started 1
  key_eq := rfl
  reach_eq := rfl
  lookUp_eq := rfl

theorem retried_after_failure_doomed :
    (advance 3 doomed 0).trace.count ⟨.loadFailure, "c"⟩ = doomed.trace.count ⟨.loadFailure, "c"⟩ + 1 ∧
      again.Originates 1 := by
  have built : (Registry.sole "c" .unset).Built := Registry.built_sole (by decide) rfl
  have hload : doomed.load? 0 = some ⟨"c", .ofNat 1, 0, .idle .flag (.sleeping 5 (.panic .other))⟩ := rfl
  have hpoll : Run.poll 2 (doomed.setLoad 0 .busy) (some 0) (.sleeping 5 (.panic .other) : Run .flag) =
      (doomed.setLoad 0 .busy, .ended (.panicked .other)) := rfl
  obtain ⟨hwithdrawn, hretried, -⟩ := retried_after_failure (Reached.play built _) hload hpoll rfl rfl
  exact ⟨hwithdrawn.counts _, (hretried again [] .refl rfl rfl rfl (fun _ => nofun)).2⟩

end System

end SingleFlight
