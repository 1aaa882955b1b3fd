import SingleFlight.Proofs.Arising
import SingleFlight.Proofs.Freshness

/-!
# Waiters

Gets that wait for one load are told one outcome.

* a load that has ended keeps its outcome, whatever happens (`System.load?_of_ended`), and its landing is recorded
  (`System.landing_of_ended`);
* a get that waits goes on waiting for the same load until its patience runs out (`Get.waiting_of_course`);
* a get that is told about a load before its patience runs out is told the outcome of this very load, however late it is
  polled (`Get.told_of_waited`);
* so all of them are told the same (`Get.one_outcome`).
-/

namespace SingleFlight

namespace System

theorem load?_of_ended_move {s t : System} (move : Move s t) {id : Nat} {load : Load} {outcome : LoadResult}
    (hload : s.load? id = some load) (hended : load.state = .ended outcome) : t.load? id = some load := by
  -- the loads that a move sets are idle or busy
  have hne : ∀ {other : Nat} {l : Load}, s.load? other = some l → (∀ outcome, l.state ≠ .ended outcome) →
      id ≠ other := by
    rintro other l hother hstate rfl
    rw [hload] at hother
    cases hother
    exact hstate outcome hended
  cases move with
  | elapse s ms => exact hload
  | note aside => exact hload
  | lookUp hfind label key loader => exact load?_lookUp hload
  | call hother => exact (load?_setLoad_of_ne s (hne hother nofun) .busy).trans hload
  | resume hother called => exact (load?_setLoad_of_ne s (hne hother nofun) .busy).trans hload
  | pause hother called => exact (load?_setLoad_of_ne s (hne hother nofun) _).trans hload
  | land hother outcome' => exact (load?_land_of_ne s (hne hother nofun) ..).trans hload
  | invalidate hfind key =>
    rw [load?, loads_invalidateIn]
    exact hload
  | invalidateAll hfind =>
    rw [load?, loads_invalidateAllIn]
    exact hload
  | tend s name => exact hload

/-- A load that has ended stays as it is. -/
theorem load?_of_ended {s t : System} (moves : Moves s t) {id : Nat} {load : Load} {outcome : LoadResult}
    (hload : s.load? id = some load) (hended : load.state = .ended outcome) : t.load? id = some load := by
  induction moves with
  | refl => exact hload
  | tail _ last ih => exact load?_of_ended_move last ih hended

/-- A load that has ended had ended before, unless its end has just been set. -/
theorem load?_before_setLoad {s : System} {id other : Nat} {load : Load} {state : LoadState} {outcome : LoadResult}
    (hload : (s.setLoad other state).load? id = some load) (hended : load.state = .ended outcome)
    (hstate : ∀ outcome, state ≠ .ended outcome) : s.load? id = some load := by
  rw [load?_setLoad] at hload
  split at hload
  · obtain ⟨before, -, rfl⟩ := Option.map_eq_some_iff.1 hload
    exact absurd hended (hstate outcome)
  · exact hload

/-- A load that a lookup has started has not ended. -/
theorem load?_before_lookUp {s : System} {store : LocalStore} {call : Call} {loader : Loader τ} {id : Nat} {load : Load}
    {outcome : LoadResult} (hload : (s.lookUp store call loader).1.load? id = some load)
    (hended : load.state = .ended outcome) : s.load? id = some load := by
  unfold System.lookUp at hload
  split at hload
  · exact hload
  · split at hload
    · exact hload
    · rw [load?_emit, Numbered.load?_launch] at hload
      split at hload
      · cases hload
        cases hended
      · exact hload

/-- Every load that has ended is recorded to have landed so. -/
def Landed (s : System) : Prop := ∀ id load outcome, s.load? id = some load → load.state = .ended outcome →
  ∃ e ∈ s.history, ∃ kept, e.event = .landed id load.cache load.key outcome kept

theorem Landed.move {s t : System} (h : s.Landed) (move : Move s t) : t.Landed := by
  intro id load outcome hload hended
  have hold : s.load? id = some load →
      ∃ e ∈ t.history, ∃ kept, e.event = .landed id load.cache load.key outcome kept := by
    intro hbefore
    obtain ⟨e, he, hevent⟩ := h id load outcome hbefore hended
    exact ⟨e, mem_history_of_moves (.single move) he, hevent⟩
  cases move with
  | elapse s ms => exact hold hload
  | note aside => exact hold hload
  | lookUp hfind label key loader => exact hold (load?_before_lookUp hload hended)
  | call hother => exact hold (load?_before_setLoad hload hended nofun)
  | resume hother called => exact hold (load?_before_setLoad hload hended nofun)
  | pause hother called => exact hold (load?_before_setLoad hload hended nofun)
  | @land _ other number cache key hother outcome' =>
    by_cases hid : id = other
    · subst hid
      rw [load?_land_self hother] at hload
      cases hload
      cases hended
      obtain ⟨kept, hhistory⟩ := history_land s id cache key number outcome
      exact ⟨_, hhistory ▸ List.mem_cons_self .., kept, rfl⟩
    · exact hold ((load?_land_of_ne s hid ..).symm.trans hload)
  | invalidate hfind key =>
    rw [load?, loads_invalidateIn] at hload
    exact hold hload
  | invalidateAll hfind =>
    rw [load?, loads_invalidateAllIn] at hload
    exact hold hload
  | tend s name => exact hold hload

/-- The landing of a load that has ended is recorded. -/
theorem landing_of_ended {s : System} (reached : s.Reached) {id : Nat} {load : Load} {outcome : LoadResult}
    (hload : s.load? id = some load) (hended : load.state = .ended outcome) :
    ∃ e ∈ s.history, ∃ kept, e.event = .landed id load.cache load.key outcome kept := by
  obtain ⟨registry, -, moves⟩ := reached
  have hlanded : ∀ {t : System}, System.Moves (start registry) t → t.Landed := by
    intro t moves
    induction moves with
    | refl => exact fun _ _ _ => nofun
    | tail _ last ih => exact ih.move last
  exact hlanded moves id load outcome hload hended

end System

namespace Get

/-- A get that runs its own loader goes on with it. -/
theorem loading_of_poll {τ : ValueType} {depth : Nat} {s t : System} {cache : String} {run : Run τ} {rest : Get τ}
    (h : Get.poll depth s (.loading cache run) = (t, .pending rest)) : ∃ next, rest = .loading cache next := by
  cases depth with
  | zero =>
    cases h
    exact ⟨run, rfl⟩
  | succ depth =>
    simp only [Get.poll] at h
    split at h
    next u next hrun =>
      cases h
      exact ⟨next, rfl⟩
    next => cases h

/-- A get that waits goes on waiting for the same load, unless its patience has run out. -/
theorem waiting_of_poll {τ : ValueType} {depth : Nat} {s t : System} {cache : String} {key : Key} {id : Nat}
    {patience : Option (Patience τ)} {rest : Get τ}
    (h : Get.poll depth s (.awaiting cache key id patience) = (t, .pending rest)) :
    rest = .awaiting cache key id patience ∨
      ∃ p run, patience = some p ∧ p.due ≤ s.now ∧ rest = .loading cache run := by
  cases depth with
  | zero =>
    cases h
    exact .inl rfl
  | succ depth =>
    simp only [Get.poll, System.now_advance] at h
    split at h
    · cases h
    · split at h
      · cases h
        exact .inl rfl
      next p =>
        split at h
        next hdue =>
          obtain ⟨run, rfl⟩ := loading_of_poll h
          exact .inr ⟨p, run, rfl, hdue, rfl⟩
        · cases h
          exact .inl rfl

theorem waiting_of_course {τ : ValueType} {s t : System} {cache : String} {key : Key} {id : Nat}
    {patience : Option (Patience τ)} {rest : Get τ} (course : Course s (.awaiting cache key id patience) t rest) :
    rest = .awaiting cache key id patience ∨
      ∃ p run, patience = some p ∧ p.due ≤ t.now ∧ rest = .loading cache run := by
  induction course with
  | refl => exact .inl rfl
  | moves _ moves ih =>
    refine ih.imp_right ?_
    rintro ⟨p, run, hp, hdue, hrest⟩
    exact ⟨p, run, hp, Nat.le_trans hdue (System.now_moves moves), hrest⟩
  | @poll t u rest next depth _ _ hpoll ih =>
    have hnow : t.now ≤ u.now := by
      have hpolled := System.polled_get depth t rest
      rw [hpoll] at hpolled
      exact System.now_moves hpolled.moves
    rcases ih with rfl | ⟨p, run, hp, hdue, rfl⟩
    · refine (waiting_of_poll hpoll).imp_right ?_
      rintro ⟨p, run, hp, hdue, hrest⟩
      exact ⟨p, run, hp, Nat.le_trans hdue hnow, hrest⟩
    · obtain ⟨next', hnext⟩ := loading_of_poll hpoll
      exact .inr ⟨p, next', hp, Nat.le_trans hdue hnow, hnext⟩

/-- A get has joined the load, or started it, has been polled now and then and never dropped, and was told its answer
in the state `u`. It had not given up waiting by then: at the last poll its lock timeout had not elapsed, or the load
had its outcome in time all the same. -/
inductive Waited {τ : ValueType} (id : Nat) (u : System) (answer : Outcome CacheFault (Option (Typed τ))) : Prop where
  | told {s looked t : System} {request : Request} {key : Key} {store : LocalStore} {loader : Loader τ} {found : Found}
      {patience : Option (Patience τ)} {rest : Get τ} {depth : Nat} (reached : s.Reached)
      (hreach : s.reach request = .ok (.local store))
      (hlook : s.lookUp store ⟨request.label, store.name, key⟩ loader = (looked, found))
      (hfound : found = .joined id ∨ found = .started id)
      (course : Course looked (.awaiting store.name key id patience) t rest)
      (hwaits : ∀ run, rest ≠ .loading store.name run)
      (hpatience : ∀ p, patience = some p → t.now < p.due ∨ ((System.advance depth t id).outcome? id).isSome)
      (hend : Get.poll (depth + 1) t rest = (u, .ended answer)) :
      Waited id u answer

/-- A get that has waited is told the outcome with which its load has ended. -/
theorem told_of_waited {τ : ValueType} {id : Nat} {u : System} {answer : Outcome CacheFault (Option (Typed τ))}
    (waited : Waited id u answer) : u.Reached ∧ ∃ load outcome, u.load? id = some load ∧
      load.state = .ended outcome ∧ answer = System.typedResult τ load.cache outcome := by
  obtain @⟨s, looked, t, request, key, store, loader, found, patience, rest, depth, reached, hreach, hlook, hfound,
    course, hwaits, hpatience, hend⟩ := waited
  obtain rfl : rest = .awaiting store.name key id patience := by
    rcases waiting_of_course course with hsame | ⟨p, run, -, -, hrest⟩
    · exact hsame
    · exact absurd hrest (hwaits run)
  have hfind := System.find?_of_reach hreach
  -- the load that the lookup has found is one of the store, and so it is still at the last poll
  obtain ⟨load, hload, hcache⟩ : ∃ load, looked.load? id = some load ∧ load.cache = store.name := by
    rcases hfound with rfl | rfl
    · obtain ⟨hloads, load, hload, hcache, -⟩ := System.load?_of_joined reached.sound hfind hlook
      rw [System.load?, ← hloads] at hload
      exact ⟨load, hload, hcache⟩
    · exact ⟨_, (System.load?_of_started hlook).2, rfl⟩
  have hmove : System.Moves s looked := by
    have hmove := System.Move.lookUp hfind request.label key loader
    rw [hlook] at hmove
    exact .single hmove
  have hadvance : System.Moves t (System.advance depth t id) := (System.polled_advance depth t id).moves
  have hreached : (System.advance depth t id).Reached :=
    ((reached.moves hmove).moves (moves_of_way course)).moves hadvance
  obtain ⟨state, hstate⟩ := System.load?_moves ((moves_of_way course).trans hadvance) hload
  simp only [Get.poll] at hend
  split at hend
  next outcome houtcome =>
    obtain ⟨rfl, hanswer⟩ := Prod.mk.inj hend
    cases hanswer
    obtain ⟨ended, hended, hend⟩ := System.outcome?_eq_some.1 houtcome
    rw [hstate] at hended
    cases hended
    exact ⟨hreached, _, outcome, hstate, hend, by rw [hcache]⟩
  next houtcome =>
    split at hend
    · cases hend
    next p =>
      -- the load has no outcome yet, so the get would go on waiting
      have hnow : t.now < p.due := by
        rcases hpatience p rfl with hnow | hsome
        · exact hnow
        · rw [houtcome] at hsome
          cases hsome
      rw [System.now_advance, if_neg (Nat.not_le_of_lt hnow)] at hend
      cases hend

/-- **All waiters share one outcome.** Let a load be known in the state `z`. There is one outcome that all gets are told
that joined it or started it and were told about it before `z`, each at the type that it asked for; it is the outcome
with which this load has landed. -/
theorem one_outcome {z : System} {id : Nat} {load : Load} (hload : z.load? id = some load) :
    ∃ outcome : LoadResult, ∀ {τ : ValueType} {u : System} {answer : Outcome CacheFault (Option (Typed τ))},
      Waited id u answer → System.Moves u z →
        answer = System.typedResult τ load.cache outcome ∧ z.outcome? id = some outcome ∧
          ∃ e ∈ z.history, ∃ kept, e.event = .landed id load.cache load.key outcome kept := by
  cases houtcome : z.outcome? id with
  | none =>
    -- then nobody has been told about the load
    refine ⟨.ok .absent, fun waited moves => ?_⟩
    obtain ⟨-, old, outcome, hold, hended, -⟩ := told_of_waited waited
    have hsame : z.outcome? id = some outcome :=
      System.outcome?_eq_some.2 ⟨old, System.load?_of_ended moves hold hended, hended⟩
    rw [houtcome] at hsame
    cases hsame
  | some outcome =>
    refine ⟨outcome, fun waited moves => ?_⟩
    obtain ⟨reached, old, told, hold, hended, hanswer⟩ := told_of_waited waited
    have hload' : z.load? id = some old := System.load?_of_ended moves hold hended
    have hsame : z.outcome? id = some told := System.outcome?_eq_some.2 ⟨old, hload', hended⟩
    rw [hload] at hload'
    cases hload'
    rw [houtcome] at hsame
    cases hsame
    exact ⟨hanswer, rfl, System.landing_of_ended (reached.moves moves) hload hended⟩

private def emptyStore : LocalStore := ⟨"c", .unset, ∅, ∅, 0, .start⟩

private def request (label : String) : Request := ⟨label, "c", .ok (.ofNat 1), .registry, .zero⟩

private def sleeper : Loader .flag := .sleep 5 (.done (some (.flag true)))

/-- A lookup has started a load. -/
private def launched : System :=
  ((Session.start (.sole "c" .unset)).system.lookUp emptyStore ⟨"a", "c", .ofNat 1⟩ sleeper).1

private def waiter (τ : ValueType) : Get τ := .awaiting "c" (.ofNat 1) 0 none

/-- The get that started the load has been polled. -/
private def asleep : System := (Get.poll 9 launched (waiter .flag)).1

private def asleepStore : LocalStore := (asleep.store? "c").getD emptyStore

/-- A get that asks for a text has joined the load. -/
private def joined : System := (asleep.lookUp asleepStore ⟨"b", "c", .ofNat 1⟩ (.fail (.text "no") : Loader .text)).1

/-- The load is due, and first the get that has joined it is polled. -/
private def told : System := (Get.poll 9 (joined.elapse 5) (waiter .text)).1

theorem one_outcome_told : ∃ outcome : LoadResult,
    .value (some ⟨.flag true, rfl⟩) = System.typedResult .flag "c" outcome ∧
      .failed (.valueType "c" "alloc::string::String") = System.typedResult .text "c" outcome := by
  have built : (Registry.sole "c" .unset).Built := Registry.built_sole (by decide) rfl
  have hreach : (Session.start (.sole "c" .unset)).system.reach (request "a") = .ok (.local emptyStore) := rfl
  have hjoin : asleep.reach (request "b") = .ok (.local asleepStore) := rfl
  have hlaunched : System.Moves (Session.start (.sole "c" .unset)).system launched :=
    .single (.lookUp (System.find?_of_reach hreach) "a" (.ofNat 1) sleeper)
  have hasleep : System.Moves launched asleep := (System.polled_get 9 launched (waiter .flag)).moves
  have hjoined : System.Moves asleep joined := .single (.lookUp (System.find?_of_reach hjoin) "b" (.ofNat 1) _)
  have htold : System.Moves joined told := .head (.elapse joined 5) (System.polled_get 9 _ (waiter .text)).moves
  have hfirst : Waited (τ := .flag) 0 (Get.poll 9 told (waiter .flag)).1 (.value (some ⟨.flag true, rfl⟩)) := by
    have hlook : (Session.start (.sole "c" .unset)).system.lookUp emptyStore ⟨"a", "c", .ofNat 1⟩ sleeper =
        (launched, .started 0) := rfl
    have course : Course launched (waiter .flag) told (waiter .flag) :=
      .moves (.refl ..) ((hasleep.trans hjoined).trans htold)
    exact .told (.play built []) hreach hlook (.inr rfl) course (fun _ => nofun) (fun _ hp => nomatch hp)
      (Prod.ext rfl rfl)
  have hsecond : Waited (τ := .text) 0 told (.failed (.valueType "c" "alloc::string::String")) := by
    have hlook : asleep.lookUp asleepStore ⟨"b", "c", .ofNat 1⟩ (.fail (.text "no") : Loader .text) =
        (joined, .joined 0) := rfl
    have reached : asleep.Reached := (System.Reached.play built []).moves (hlaunched.trans hasleep)
    have course : Course joined (waiter .text) (joined.elapse 5) (waiter .text) :=
      .moves (.refl ..) (.single (.elapse joined 5))
    exact .told reached hjoin hlook (.inl rfl) course (fun _ => nofun) (fun _ hp => nomatch hp) (Prod.ext rfl rfl)
  have hload : (Get.poll 9 told (waiter .flag)).1.load? 0 =
      some ⟨"c", .ofNat 1, 0, .ended (.ok (.value (.flag true)))⟩ := rfl
  obtain ⟨outcome, hall⟩ := one_outcome hload
  exact ⟨outcome, (hall hfirst .refl).1, (hall hsecond (System.polled_get 9 told (waiter .flag)).moves).1⟩

end Get

end SingleFlight
