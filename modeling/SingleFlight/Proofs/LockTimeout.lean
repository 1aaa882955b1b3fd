import SingleFlight.Proofs.Calls
import SingleFlight.Proofs.Freshness
import SingleFlight.Proofs.Unread
import SingleFlight.Proofs.Waiters

/-!
# Lock timeouts

What becomes of a get on a local store is settled by what its lookup finds and, if that is the load of another caller,
by its lock timeout (`Session.own_loader_called`).

* a get that started its load has its loader called by it, once, in the poll of the lookup (`Lookup.originates`);
* a get that joined a load hands its loader to nobody, and waits; only when a poll at which its lock timeout has elapsed
  finds the load unfinished does the get turn away from it (`Lookup.poll_patient`, `Lookup.relented_of_attended`);
* from there on it is the get that a cache which stores nothing would have made of it (`Lookup.alone`);
* the get of every live task goes on from such a lookup, unless it asks still or was passed through
  (`Session.proceeds_of_task`).
-/

namespace SingleFlight

/-- A loader that does nothing to the caches. -/
def Loader.plain : Loader τ → Bool
  | .done _ | .fail _ | .panic _ => true
  | .sleep _ next => next.plain
  | .invalidate _ _ _ | .invalidateAll _ _ | .get _ _ => false

def Run.plain : Run τ → Bool
  | .calling _ loader | .running loader | .sleeping _ loader => loader.plain
  | .nested _ => false

/-- What the poll of a loader comes to for a get that runs it by itself. -/
def Progress.alone (cache : String) :
    Progress (Run τ) Failure (Option (Typed τ)) → Progress (Get τ) CacheFault (Option (Typed τ))
  | .pending rest => .pending (.loading cache rest)
  | .ended outcome => .ended (outcome.mapError (.computation cache))

/-- A get on a local store at its lookup. -/
structure Lookup (τ : ValueType) where
  before : System
  request : Request
  loader : Loader τ
  key : Key
  store : LocalStore
  after : System
  found : Found
  key_eq : request.key = .ok key
  reach_eq : before.reach request = .ok (.local store)
  lookUp_eq : before.lookUp store ⟨request.label, store.name, key⟩ loader = (after, found)

namespace Lookup

variable {τ : ValueType} (l : Lookup τ) (id : Nat)

/-- The get before its lookup. -/
def asking : Get τ := .asking l.request l.loader

/-- The call of the get's own loader. -/
def call : Call := ⟨l.request.label, l.store.name, l.key⟩

/-- The get while it waits for the load without bound. -/
def waiting : Get τ := .awaiting l.store.name l.key id none

/-- The get while it waits for the load with its lock timeout. -/
def patient : Get τ := .awaiting l.store.name l.key id
  (some ⟨l.before.now + l.request.patience.millisRoundedUp, l.request.patience, l.call, l.loader⟩)

/-- The get while it waits for the load of another caller. -/
def joining : Get τ := if l.request.patience = .zero then l.waiting id else l.patient id

/-- The get when it is about to call its loader itself. -/
def calling : Get τ := .loading l.store.name (.calling l.call l.loader)

/-- As much time has passed since the lookup as the lock timeout is long, in ns. -/
def Elapsed (t : System) : Prop := l.before.now * 1000000 + l.request.patience.nanos ≤ t.now * 1000000

instance (t : System) : Decidable (l.Elapsed t) := inferInstanceAs (Decidable (_ ≤ _))

/-- The state in which the get has turned away from the load. -/
def forsaken (t : System) : System := t.emit (.lockTimedOut l.store.name l.key id l.request.patience)

/-- What a get that waits for the load is told in that state. -/
def heard (t : System) (rest : Get τ) : Progress (Get τ) CacheFault (Option (Typed τ)) :=
  match t.outcome? id with
  | some outcome => .ended (System.typedResult τ l.store.name outcome)
  | none => .pending rest

/-- The get waits for the load without bound and never calls its loader itself: its polls advance the load, and do
nothing else. -/
def Bides : Prop := ∀ {t : System} {rest : Get τ}, Get.Attended l.after (l.waiting id) t rest → rest = l.waiting id ∧
  ∀ {depth}, t.work + rest.size ≤ depth → Get.poll depth t rest = (t.advanced id, l.heard id (t.advanced id) rest)

/-- A get that has found a stored value is answered with it, and its loader is called by nobody. -/
structure Served (value : Stored Value) : Prop where
  polled : ∀ depth, Get.poll (depth + 1) l.before l.asking = (l.after, .ended (System.typed τ l.store.name value))
  loads : l.after.loads = l.before.loads
  history : l.after.history = ⟨l.before.now, .lookedUp l.store.name l.key (.stored value)⟩ :: l.before.history

/-- A get that has started the load has its loader called by it, and by nobody else. -/
structure Originates : Prop where
  handed : l.after.load? id = some ⟨l.store.name, l.key, l.store.nextLoad, .idle τ (.calling l.call l.loader)⟩
  polled : ∀ depth, Get.poll (depth + 1) l.before l.asking = Get.poll depth l.after (l.waiting id)
  /-- The poll of the lookup calls the loader already, and whatever happens later this stays the load's only call. -/
  called : ∀ {t : System} {depth}, l.before.work + l.asking.size ≤ depth →
    System.Moves (Get.poll depth l.before l.asking).1 t →
      t.history.filter (·.event.callsFor id) = [⟨l.before.now, .called l.call (some id)⟩]
  bides : l.Bides id

/-- A get that turns away from its load in the state `a` and is about to call its loader itself. -/
structure Alone (a : System) : Prop where
  /-- To turn away changes no store and no load, and all gets go on as they would have. -/
  registry : (l.forsaken id a).registry = a.registry
  loads : (l.forsaken id a).loads = a.loads
  others : ∀ {σ : ValueType} (get : Get σ), get.GoesAlike a (l.forsaken id a)
  /-- A get through a cache of the same name that stores nothing comes down to the same get. -/
  passed : ∀ {s : System} {request : Request}, request.label = l.request.label → request.key = .ok l.key →
    s.reach request = .ok (.passThrough l.store.name) → ∀ depth,
      Get.poll (depth + 1) s (.asking request l.loader) =
        Get.poll depth (s.emit (.passedThrough l.store.name l.key)) l.calling
  /-- It goes alike, whether it has turned away or was passed through. -/
  alike : l.calling.GoesAlike (l.forsaken id a) (a.emit (.passedThrough l.store.name l.key))
  /-- The first poll calls the loader. -/
  called : ∀ {depth}, a.work + l.calling.size ≤ depth →
    History.Since (l.forsaken id a).history (Get.poll depth (l.forsaken id a) l.calling).1.history
      (· = .called l.call none)
  /-- The get runs its loader, which it never calls again, and is answered as it ends. -/
  runs : ∀ {t : System} {rest : Get τ}, Get.Attended (l.forsaken id a) l.calling t rest →
    rest = l.calling ∨ ∃ run, run.called ∧ rest = .loading l.store.name run
  polled : ∀ (depth : Nat) (t : System) (run : Run τ), Get.poll (depth + 1) t (.loading l.store.name run) =
    ((Run.poll depth t none run).1, (Run.poll depth t none run).2.alone l.store.name)
  /-- What a loader does to the caches it does by itself. -/
  plain : l.loader.plain → ∀ {t : System} {rest : Get τ}, Get.Attended (l.forsaken id a) l.calling t rest →
    ∀ depth, (Get.poll depth t rest).1.registry = t.registry ∧ (Get.poll depth t rest).1.loads = t.loads

/-- The get waits for the load until a poll finds it unfinished although the lock timeout has elapsed. -/
structure Relents : Prop where
  /-- The load is advanced first, so an outcome that is due at the same moment wins. -/
  polled : ∀ {t : System} {depth}, t.work + (l.patient id).size ≤ depth → Get.poll depth t (l.patient id) =
    if (t.advanced id).outcome? id = none ∧ l.Elapsed t then
      Get.poll (depth - 1) (l.forsaken id (t.advanced id)) l.calling
    else (t.advanced id, l.heard id (t.advanced id) (l.patient id))
  /-- Unless the get waits still, there was such a poll. -/
  relented : ∀ {t : System} {rest : Get τ}, Get.Attended l.after (l.patient id) t rest → rest = l.patient id ∨
    ∃ v, Get.Attended l.after (l.patient id) v (l.patient id) ∧ (v.advanced id).outcome? id = none ∧ l.Elapsed v ∧
      Get.Attended (l.forsaken id (v.advanced id)) l.calling t rest
  alone : ∀ a, l.Alone id a

/-- A get that has joined the load of another caller. Its own loader is handed to nobody. -/
structure Joins : Prop where
  polled : ∀ depth, Get.poll (depth + 1) l.before l.asking = Get.poll depth l.after (l.joining id)
  loads : l.after.loads = l.before.loads
  unfinished : ∃ load, l.before.load? id = some load ∧ load.cache = l.store.name ∧ load.key = l.key ∧
    load.ended = false
  bides : l.request.patience = .zero → l.Bides id
  relents : l.request.patience ≠ .zero → l.Relents id

/-- What becomes of the get. -/
def Fate : Prop :=
  match l.found with
  | .stored value => l.Served value
  | .started id => l.Originates id
  | .joined id => l.Joins id

/-! ### The lookup -/

theorem find? : l.before.registry.find? l.request.cache = some (.local l.store) := System.find?_of_reach l.reach_eq

variable {l} in
theorem store?_before (reached : l.before.Reached) : l.before.store? l.store.name = some l.store := by
  have hname := reached.sound.named.name_of_find? l.find?
  exact hname ▸ System.store?_of_find? l.find?

theorem now_after : l.after.now = l.before.now := by
  have hnow := System.now_lookUp l.before l.store ⟨l.request.label, l.store.name, l.key⟩ l.loader
  rw [l.lookUp_eq] at hnow
  exact hnow

variable {l} {id}

theorem lookUp_of_found {found : Found} (h : l.found = found) :
    l.before.lookUp l.store ⟨l.request.label, l.store.name, l.key⟩ l.loader = (l.after, found) := h ▸ l.lookUp_eq

theorem poll_asking_of_stored {value : Stored Value} (h : l.found = .stored value) (depth : Nat) :
    Get.poll (depth + 1) l.before l.asking = (l.after, .ended (System.typed τ l.store.name value)) := by
  simp only [asking, Get.poll, l.key_eq, l.reach_eq, lookUp_of_found h]

theorem poll_asking_of_started (h : l.found = .started id) (depth : Nat) :
    Get.poll (depth + 1) l.before l.asking = Get.poll depth l.after (l.waiting id) := by
  simp only [asking, Get.poll, l.key_eq, l.reach_eq, lookUp_of_found h, waiting]

theorem poll_asking_of_joined (h : l.found = .joined id) (depth : Nat) :
    Get.poll (depth + 1) l.before l.asking = Get.poll depth l.after (l.joining id) := by
  simp only [asking, Get.poll, l.key_eq, l.reach_eq, lookUp_of_found h, l.now_after, joining]
  split
  · rfl
  · rfl

theorem served {value : Stored Value} (h : l.found = .stored value) : l.Served value where
  polled := poll_asking_of_stored h
  loads := by
    have hlook := lookUp_of_found h
    unfold System.lookUp at hlook
    split at hlook
    · rw [← (Prod.mk.inj hlook).1]
      rfl
    · split at hlook
      · cases (Prod.mk.inj hlook).2
      · cases (Prod.mk.inj hlook).2
  history := by
    have hhistory := System.history_lookUp l.before l.store ⟨l.request.label, l.store.name, l.key⟩ l.loader
    rw [lookUp_of_found h] at hhistory
    exact hhistory

/-! ### Waiting -/

/-- A get that waits for a load advances it. What the poll comes to then depends on the load and on the time. -/
theorem poll_awaiting {depth : Nat} {t : System} (deep : t.work + 1 ≤ depth) (cache : String) (key : Key)
    (patience : Option (Patience τ)) : Get.poll (depth + 1) t (.awaiting cache key id patience) =
      match (t.advanced id).outcome? id with
      | some outcome => (t.advanced id, .ended (System.typedResult τ cache outcome))
      | none =>
        match patience with
        | none => (t.advanced id, .pending (.awaiting cache key id none))
        | some p =>
          if p.due ≤ t.now then
            Get.poll depth ((t.advanced id).emit (.lockTimedOut cache key id p.lockTimeout))
              (.loading cache (.calling p.call p.loader))
          else (t.advanced id, .pending (.awaiting cache key id (some p))) := by
  have hadvance : System.advance depth t id = t.advanced id := System.advance_eq deep
  have hnow : (System.advance depth t id).now = t.now := System.now_advance depth t id
  rw [← hadvance, ← hnow]
  rfl

theorem bides : l.Bides id := by
  intro t rest attended
  have hrest : rest = l.waiting id := by
    induction attended with
    | refl => rfl
    | moves _ _ ih => exact ih
    | poll _ _ hpoll ih =>
      rw [ih] at hpoll
      rcases Get.waiting_of_poll hpoll with hsame | ⟨p, run, hp, -, -⟩
      · exact hsame
      · cases hp
  refine ⟨hrest, fun {depth} deep => ?_⟩
  subst hrest
  obtain ⟨depth, rfl⟩ := Get.exists_depth deep
  rw [waiting, poll_awaiting (System.deep_of_awaiting deep), heard]
  split
  · rfl
  · rfl

/-! ### Gets that start their load -/

/-- A loader that is about to be called is called by the next poll. -/
theorem called_of_calling (depth : Nat) (s : System) (load : Option Nat) (call : Call) (loader : Loader τ) :
    ∃ new, (Run.poll (depth + 1) s load (.calling call loader)).1.history =
      new ++ ⟨s.now, .called call load⟩ :: s.history := by
  have hcalled : (Run.running loader).called = true := rfl
  exact (System.polled_run_of_called depth (s.emit (.called call load)) load (.inl hcalled)).history

/-- The first poll of a load calls its loader. -/
theorem called_of_advance (depth : Nat) {s : System} {cache : String} {key : Key} {number : Nat} {call : Call}
    {loader : Loader τ} (hload : s.load? id = some ⟨cache, key, number, .idle τ (.calling call loader)⟩) :
    ⟨s.now, .called call (some id)⟩ ∈ (System.advance (depth + 2) s id).history := by
  obtain ⟨new, hnew⟩ := called_of_calling depth (s.setLoad id .busy) (some id) call loader
  have hmem : ⟨s.now, .called call (some id)⟩ ∈
      (Run.poll (depth + 1) (s.setLoad id .busy) (some id) (.calling call loader)).1.history := by
    rw [hnew]
    exact List.mem_append_right new (List.mem_cons_self ..)
  simp only [System.advance, hload]
  split
  next t rest heq =>
    rw [heq] at hmem
    exact hmem
  next t outcome heq =>
    rw [heq] at hmem
    obtain ⟨kept, hkept⟩ := System.history_land t id cache key number (System.loadResult outcome)
    rw [hkept]
    exact List.mem_cons_of_mem _ hmem

/-- A load has one call at most, so it has only one that is known. -/
theorem filter_callsFor {past : History} (lawful : History.Lawful past) {e : Stamped} (he : e ∈ past)
    (hcalls : e.event.callsFor id = true) : past.filter (·.event.callsFor id) = [e] := by
  have hmem : e ∈ past.filter (·.event.callsFor id) := List.mem_filter.2 ⟨he, hcalls⟩
  have hle : (past.filter (·.event.callsFor id)).length ≤ 1 := by
    rw [← List.countP_eq_length_filter]
    exact History.countP_callsFor lawful id
  obtain ⟨only, honly⟩ := List.length_eq_one_iff.1 (Nat.le_antisymm hle (List.length_pos_of_mem hmem))
  rw [honly] at hmem
  rw [honly, List.mem_singleton.1 hmem]

theorem originates (reached : l.before.Reached) (h : l.found = .started id) : l.Originates id where
  handed := (System.load?_of_started (lookUp_of_found h)).2
  polled := poll_asking_of_started h
  bides := bides
  called := by
    intro t depth deep moves
    have hsize : l.asking.size = l.loader.size + 5 := rfl
    obtain ⟨depth, rfl⟩ : ∃ d, depth = d + 4 := ⟨depth - 4, by omega⟩
    have hload := (System.load?_of_started (lookUp_of_found h)).2
    -- a get that waits without bound leaves the state to which its poll advances the load
    have hstate : (Get.poll (depth + 4) l.before l.asking).1 = System.advance (depth + 2) l.after id := by
      rw [poll_asking_of_started h]
      simp only [waiting, Get.poll]
      split
      · rfl
      · rfl
    have hcalled : ⟨l.before.now, .called l.call (some id)⟩ ∈ t.history := by
      have hmem := called_of_advance depth hload
      rw [l.now_after, ← hstate] at hmem
      exact System.mem_history_of_moves moves hmem
    have hreached : t.Reached :=
      (reached.moves (System.polled_get (depth + 4) l.before l.asking).moves).moves moves
    exact filter_callsFor hreached.sound.told.lawful hcalled (decide_eq_true rfl)

/-! ### Gets that turn away from their load -/

/-- Patience ends at the first millisecond at which the lock timeout has elapsed. -/
theorem due_le_iff (t : System) : l.before.now + l.request.patience.millisRoundedUp ≤ t.now ↔ l.Elapsed t := by
  unfold Elapsed Duration.millisRoundedUp
  omega

theorem poll_patient {depth : Nat} {t : System} (deep : t.work + (l.patient id).size ≤ depth) :
    Get.poll depth t (l.patient id) =
      if (t.advanced id).outcome? id = none ∧ l.Elapsed t then
        Get.poll (depth - 1) (l.forsaken id (t.advanced id)) l.calling
      else (t.advanced id, l.heard id (t.advanced id) (l.patient id)) := by
  obtain ⟨depth, rfl⟩ := Get.exists_depth deep
  rw [patient, poll_awaiting (System.deep_of_awaiting deep), heard]
  cases houtcome : (t.advanced id).outcome? id with
  | some outcome => simp
  | none =>
    by_cases hdue : l.before.now + l.request.patience.millisRoundedUp ≤ t.now
    · have helapsed : l.Elapsed t := due_le_iff t |>.1 hdue
      simp [hdue, helapsed, forsaken, calling]
    · have helapsed : ¬ l.Elapsed t := fun h => hdue ((due_le_iff t).2 h)
      simp [hdue, helapsed]

/-- The get waits still, or it has turned away at some poll and has gone on by itself since. -/
theorem relented_of_attended {t : System} {rest : Get τ} (attended : Get.Attended l.after (l.patient id) t rest) :
    rest = l.patient id ∨ ∃ v, Get.Attended l.after (l.patient id) v (l.patient id) ∧
      (v.advanced id).outcome? id = none ∧ l.Elapsed v ∧
        Get.Attended (l.forsaken id (v.advanced id)) l.calling t rest := by
  induction attended with
  | refl => exact .inl rfl
  | moves _ moves ih =>
    refine ih.imp_right ?_
    rintro ⟨v, hwaits, houtcome, helapsed, hattended⟩
    exact ⟨v, hwaits, houtcome, helapsed, hattended.moves moves⟩
  | @poll t u rest next attended depth deep hpoll ih =>
    rcases ih with rfl | ⟨v, hwaits, houtcome, helapsed, hattended⟩
    · have hpatient := poll_patient deep
      rw [hpoll] at hpatient
      split at hpatient
      next hlate =>
        -- this is the poll at which it turns away
        have hsize : (l.patient id).size = l.loader.size + 4 := rfl
        have hcalling : l.calling.size = l.loader.size + 3 := rfl
        have hwork : (l.forsaken id (t.advanced id)).work ≤ t.work := System.work_advanced_le t id
        exact .inr ⟨t, attended, hlate.1, hlate.2, Get.Attended.refl.poll (by omega) hpatient.symm⟩
      next =>
        unfold heard at hpatient
        split at hpatient
        · cases hpatient
        · cases hpatient
          exact .inl rfl
    · exact .inr ⟨v, hwaits, houtcome, helapsed, hattended.poll deep hpoll⟩

/-! ### Gets that run their own loader -/

/-- A loader that does nothing to the caches changes none, and goes on so. -/
theorem plain_of_poll {depth : Nat} {s t : System} {run : Run τ}
    {progress : Progress (Run τ) Failure (Option (Typed τ))} (plain : run.plain)
    (hpoll : Run.poll depth s none run = (t, progress)) :
    t.registry = s.registry ∧ t.loads = s.loads ∧ ∀ rest, progress = .pending rest → rest.plain := by
  induction depth generalizing s run with
  | zero =>
    cases hpoll
    refine ⟨rfl, rfl, ?_⟩
    rintro _ ⟨⟩
    exact plain
  | succ depth ih =>
    cases run with
    | calling call loader =>
      have hplain : (Run.running loader).plain = true := plain
      exact ih (s := s.emit (.called call none)) hplain hpoll
    | sleeping due loader =>
      simp only [Run.poll] at hpoll
      split at hpoll
      · have hplain : (Run.running loader).plain = true := plain
        exact ih hplain hpoll
      · cases hpoll
        refine ⟨rfl, rfl, ?_⟩
        rintro _ ⟨⟩
        exact plain
    | nested get => cases plain
    | running loader =>
      cases loader with
      | done value =>
        cases hpoll
        exact ⟨rfl, rfl, fun _ hend => by cases hend⟩
      | fail failure =>
        cases hpoll
        exact ⟨rfl, rfl, fun _ hend => by cases hend⟩
      | panic payload =>
        cases hpoll
        exact ⟨rfl, rfl, fun _ hend => by cases hend⟩
      | sleep ms next =>
        have hplain : (Run.sleeping (s.now + ms) next).plain = true := plain
        exact ih hplain hpoll
      | invalidate cache key next => cases plain
      | invalidateAll cache next => cases plain
      | get request inner => cases plain

/-- A poll of a get that runs its loader by itself is a poll of the loader. -/
theorem poll_loading (name : String) (depth : Nat) (t : System) (run : Run τ) :
    Get.poll (depth + 1) t (.loading name run) =
      ((Run.poll depth t none run).1, (Run.poll depth t none run).2.alone name) := by
  simp only [Get.poll]
  split
  next u rest hrun => rw [hrun, Progress.alone]
  next u outcome hrun => rw [hrun, Progress.alone]

/-- What a deep poll of such a get leaves pending, a poll of the loader has left pending. -/
theorem pending_of_loading {depth : Nat} {t u : System} {name : String} {run : Run τ} {next : Get τ}
    (deep : t.work + (Get.loading name run).size ≤ depth)
    (hpoll : Get.poll depth t (.loading name run) = (u, .pending next)) :
    ∃ below rest, 0 < below ∧ Run.poll below t none run = (u, .pending rest) ∧ next = .loading name rest := by
  have hsize : (Get.loading name run).size = run.size + 1 := rfl
  have hpos := Run.size_pos run
  obtain ⟨depth, rfl⟩ := Get.exists_depth deep
  rw [poll_loading] at hpoll
  cases hrun : Run.poll depth t none run with
  | mk v progress =>
    rw [hrun] at hpoll
    cases progress with
    | pending rest =>
      cases hpoll
      exact ⟨depth, rest, by omega, hrun, rfl⟩
    | ended outcome => cases hpoll

/-- The loader of a get that runs it by itself has been called, once the get has been polled. -/
theorem runs_of_attended {s t : System} {rest : Get τ} (attended : Get.Attended s l.calling t rest) :
    rest = l.calling ∨ ∃ run, run.called ∧ rest = .loading l.store.name run := by
  induction attended with
  | refl => exact .inl rfl
  | moves _ _ ih => exact ih
  | @poll t u rest next _ depth deep hpoll ih =>
    obtain ⟨run, rfl⟩ : ∃ run, rest = .loading l.store.name run := by
      rcases ih with rfl | ⟨run, -, rfl⟩
      · exact ⟨_, rfl⟩
      · exact ⟨run, rfl⟩
    obtain ⟨below, next, hbelow, hrun, rfl⟩ := pending_of_loading deep hpoll
    exact .inr ⟨next, Run.called_of_poll (.inr hbelow) (congrArg Prod.snd hrun), rfl⟩

theorem plain_of_attended (plain : l.loader.plain) {s t : System} {rest : Get τ}
    (attended : Get.Attended s l.calling t rest) : ∃ run, run.plain ∧ rest = .loading l.store.name run := by
  induction attended with
  | refl => exact ⟨.calling l.call l.loader, plain, rfl⟩
  | moves _ _ ih => exact ih
  | @poll t u rest next _ depth deep hpoll ih =>
    obtain ⟨run, hplain, rfl⟩ := ih
    obtain ⟨below, next, -, hrun, rfl⟩ := pending_of_loading deep hpoll
    exact ⟨next, (plain_of_poll hplain hrun).2.2 next rfl, rfl⟩

theorem alone (a : System) : l.Alone id a where
  registry := rfl
  loads := rfl
  others get := Get.goesAlike_withPast get a _
  passed {s request} hlabel hkey hreach depth := by
    simp only [Get.poll, hkey, hreach, hlabel]
    rfl
  alike := Get.goesAlike_withPast l.calling (l.forsaken id a) _
  called {depth} deep := by
    have hsize : l.calling.size = l.loader.size + 3 := rfl
    obtain ⟨depth, rfl⟩ : ∃ d, depth = d + 2 := ⟨depth - 2, by omega⟩
    obtain ⟨new, hnew⟩ := called_of_calling depth (l.forsaken id a) none l.call l.loader
    rw [calling, poll_loading, hnew]
    exact ⟨new ++ [⟨a.now, .called l.call none⟩], by simp [forsaken], _,
      List.mem_append_right new (List.mem_singleton_self _), rfl⟩
  runs := runs_of_attended
  polled := poll_loading l.store.name
  plain plain {t rest} attended depth := by
    obtain ⟨run, hplain, rfl⟩ := plain_of_attended plain attended
    cases depth with
    | zero => exact ⟨rfl, rfl⟩
    | succ depth =>
      cases hrun : Run.poll depth t none run with
      | mk u progress =>
        obtain ⟨hregistry, hloads, -⟩ := plain_of_poll hplain hrun
        rw [poll_loading, hrun]
        exact ⟨hregistry, hloads⟩

theorem relents : l.Relents id where
  polled := poll_patient
  relented := relented_of_attended
  alone := alone

theorem joins (reached : l.before.Reached) (h : l.found = .joined id) : l.Joins id := by
  obtain ⟨hloads, hload⟩ := System.load?_of_joined reached.sound l.find? (lookUp_of_found h)
  exact ⟨poll_asking_of_joined h, hloads, hload, fun _ => bides, fun _ => relents⟩

theorem fate (reached : l.before.Reached) : l.Fate := by
  unfold Fate
  split
  next value h => exact served h
  next id h => exact originates reached h
  next id h => exact joins reached h

/-! ### Gets that come to their lookup -/

variable (l) in
/-- How the get goes on that has not been answered by its lookup. -/
def Onward (t : System) (rest : Get τ) : Prop :=
  (∃ id, l.found = .started id ∧ Get.Attended l.after (l.waiting id) t rest) ∨
    ∃ id, l.found = .joined id ∧ Get.Attended l.after (l.joining id) t rest

theorem Onward.moves {t u : System} {rest : Get τ} (h : l.Onward t rest) (moves : System.Moves t u) :
    l.Onward u rest := by
  rcases h with ⟨id, hfound, hrest⟩ | ⟨id, hfound, hrest⟩
  · exact .inl ⟨id, hfound, hrest.moves moves⟩
  · exact .inr ⟨id, hfound, hrest.moves moves⟩

theorem Onward.poll {t u : System} {rest next : Get τ} (h : l.Onward t rest) {depth : Nat}
    (deep : t.work + rest.size ≤ depth) (hpoll : Get.poll depth t rest = (u, .pending next)) : l.Onward u next := by
  rcases h with ⟨id, hfound, hrest⟩ | ⟨id, hfound, hrest⟩
  · exact .inl ⟨id, hfound, hrest.poll deep hpoll⟩
  · exact .inr ⟨id, hfound, hrest.poll deep hpoll⟩

/-- The poll of the lookup is the first of how the get goes on. -/
theorem onward_of_poll {depth : Nat} {u : System} {next : Get τ} (deep : l.before.work + l.asking.size ≤ depth)
    (hpoll : Get.poll depth l.before l.asking = (u, .pending next)) : l.Onward u next := by
  have hsize : l.asking.size = l.loader.size + 5 := rfl
  obtain ⟨depth, rfl⟩ := Get.exists_depth deep
  cases hfound : l.found with
  | stored value =>
    rw [poll_asking_of_stored hfound] at hpoll
    cases hpoll
  | started id =>
    rw [poll_asking_of_started hfound] at hpoll
    -- the work of the loader has gone over from the get to the load
    have hwork : l.after.work = l.before.work + (l.loader.size + 2) := System.work_of_lookUp (lookUp_of_found hfound)
    have hwaiting : (l.waiting id).size = 2 := rfl
    have hdeep : l.after.work + (l.waiting id).size ≤ depth := by omega
    exact .inl ⟨id, hfound, Get.Attended.refl.poll hdeep hpoll⟩
  | joined id =>
    rw [poll_asking_of_joined hfound] at hpoll
    have hwork : l.after.work = l.before.work := System.work_of_lookUp (lookUp_of_found hfound)
    have hjoining : (l.joining id).size ≤ l.loader.size + 4 := by
      unfold joining
      split
      · exact Nat.le_add_left 2 (l.loader.size + 2)
      · exact Nat.le_refl _
    have hdeep : l.after.work + (l.joining id).size ≤ depth := by omega
    exact .inr ⟨id, hfound, Get.Attended.refl.poll hdeep hpoll⟩

/-- A get that is attended to asks still, or was passed through, or has come to its lookup. -/
theorem exists_of_attended {s t : System} {request : Request} {loader : Loader τ} {rest : Get τ}
    (attended : Get.Attended s (.asking request loader) t rest) : rest = .asking request loader ∨
      (∃ v name key, System.Moves s v ∧ v.reach request = .ok (.passThrough name) ∧ Get.Attended
        (v.emit (.passedThrough name key)) (.loading name (.calling ⟨request.label, name, key⟩ loader)) t rest) ∨
      ∃ l : Lookup τ, l.request = request ∧ l.loader = loader ∧ System.Moves s l.before ∧ l.Onward t rest := by
  induction attended with
  | refl => exact .inl rfl
  | moves _ moves ih =>
    rcases ih with hasks | ⟨v, name, key, hmoves, hreach, hrest⟩ | ⟨l, hrequest, hloader, hmoves, honward⟩
    · exact .inl hasks
    · exact .inr (.inl ⟨v, name, key, hmoves, hreach, hrest.moves moves⟩)
    · exact .inr (.inr ⟨l, hrequest, hloader, hmoves, honward.moves moves⟩)
  | @poll t u rest next attended depth deep hpoll ih =>
    rcases ih with rfl | ⟨v, name, key, hmoves, hreach, hrest⟩ | ⟨l, hrequest, hloader, hmoves, honward⟩
    · have hmoves : System.Moves s t := Get.moves_of_way attended.course
      have hsize : (Get.asking request loader).size = loader.size + 5 := rfl
      cases hkey : request.key with
      | error fault =>
        obtain ⟨depth, rfl⟩ := Get.exists_depth deep
        simp only [Get.poll, hkey] at hpoll
        cases hpoll
      | ok key =>
        cases hreach : t.reach request with
        | error fault =>
          obtain ⟨depth, rfl⟩ := Get.exists_depth deep
          simp only [Get.poll, hkey, hreach] at hpoll
          cases hpoll
        | ok cache =>
          rcases cache with store | name
          · let l : Lookup τ := ⟨t, request, loader, key, store, _, _, hkey, hreach, rfl⟩
            exact .inr (.inr ⟨l, rfl, rfl, hmoves, onward_of_poll (l := l) deep hpoll⟩)
          · obtain ⟨depth, rfl⟩ := Get.exists_depth deep
            simp only [Get.poll, hkey, hreach] at hpoll
            have hdeep : (t.emit (.passedThrough name key)).work + (loader.size + 3) ≤ depth := by
              have hwork : (t.emit (.passedThrough name key)).work = t.work := rfl
              omega
            exact .inr (.inl ⟨t, name, key, hmoves, hreach, Get.Attended.refl.poll hdeep hpoll⟩)
    · exact .inr (.inl ⟨v, name, key, hmoves, hreach, hrest.poll deep hpoll⟩)
    · exact .inr (.inr ⟨l, hrequest, hloader, hmoves, honward.poll deep hpoll⟩)

end Lookup

namespace Session

/-- The get of the task asks still, or was passed through, or goes on from its lookup. -/
def Proceeds (x : Session) (task : Task) : Prop :=
  ∃ (request : Request) (loader : Loader task.type), task.get = .asking request loader ∨
    (∃ (v : System) (name : String) (key : Key), v.reach request = .ok (.passThrough name) ∧ Get.Attended
      (v.emit (.passedThrough name key)) (.loading name (.calling ⟨request.label, name, key⟩ loader))
      x.system task.get) ∨
    ∃ l : Lookup task.type, l.request = request ∧ l.loader = loader ∧ l.Fate ∧ l.Onward x.system task.get

theorem proceeds_of_task {registry : Registry} (built : registry.Built) (turns : List Turn) {task : Task}
    (h : task ∈ ((Session.start registry).play turns).tasks) :
    Proceeds ((Session.start registry).play turns) task := by
  rcases attends_play (Session.start registry) turns h with ⟨get, hmem, -⟩ | ⟨s, request, loader, hmoves, attended⟩
  · cases hmem
  · refine ⟨request, loader, (Lookup.exists_of_attended attended).imp_right (.imp ?_ ?_)⟩
    · rintro ⟨v, name, key, -, hreach, hrest⟩
      exact ⟨v, name, key, hreach, hrest⟩
    · rintro ⟨l, hrequest, hloader, hlooks, honward⟩
      exact ⟨l, hrequest, hloader, Lookup.fate ⟨registry, built, hmoves.trans hlooks⟩, honward⟩

/-- **Whose loader is called, and by whom.** Over every schedule there are at most as many calls under a label as gets
were started under it. In every state that is reached from there, in the middle of a poll or not, a get that looks its
key up in a local store is answered from the store, or has its loader called by the load that it starts, or waits for
the load that it joins, and calls its loader itself only once it has waited as long as its lock timeout in vain. Every
live task of the schedule asks still, was passed through, or goes on from such a lookup. -/
theorem own_loader_called {registry : Registry} (built : registry.Built) (turns : List Turn) :
    (∀ label, ((Session.start registry).play turns).system.callsUnder label ≤
      (turns.map (·.labelled label)).sum) ∧
    (∀ {τ : ValueType} (l : Lookup τ), System.Moves ((Session.start registry).play turns).system l.before → l.Fate) ∧
    ∀ task ∈ ((Session.start registry).play turns).tasks, Proceeds ((Session.start registry).play turns) task :=
  ⟨calls_le registry turns, fun _ moves => Lookup.fate ((System.Reached.play built turns).moves moves),
    fun _ h => proceeds_of_task built turns h⟩

/-- A load of another caller is running. -/
private def occupied : System :=
  ((Session.start (.sole "c" .unset)).play
    [.start "a" .flag ⟨"a", "c", .ok (.ofNat 1), .registry, .zero⟩ (.sleep 50 (.done (some (.flag true)))),
      .poll 0]).system

/-- A get with a lock timeout of 5 ms joins it. -/
private def late : Lookup .flag where
  before := occupied
  request := ⟨"b", "c", .ok (.ofNat 1), .registry, .ofMillis 5⟩
  loader := .fail (.text "no")
  key := .ofNat 1
  store := (occupied.store? "c").getD ⟨"c", .unset, ∅, ∅, 0, .start⟩
  after := (occupied.lookUp ((occupied.store? "c").getD ⟨"c", .unset, ∅, ∅, 0, .start⟩)
    ⟨"b", "c", .ofNat 1⟩ (.fail (.text "no") : Loader .flag)).1
  found := .joined 0
  key_eq := rfl
  reach_eq := rfl
  lookUp_eq := rfl

/-- After 5 ms the load is still unfinished, and the get is answered with the failure of its own loader. -/
theorem own_loader_called_late : let t := late.after.elapse 5
    (t.advanced 0).outcome? 0 = none ∧
      (Get.poll 40 t (late.patient 0)).2 = .ended (.failed (.computation "c" (.text "no"))) := by
  intro t
  have built : (Registry.sole "c" .unset).Built := Registry.built_sole (by decide) rfl
  have joins : late.Joins 0 := (own_loader_called built _).2.1 late .refl
  have houtcome : (t.advanced 0).outcome? 0 = none := rfl
  have helapsed : late.Elapsed t := by decide
  have hdeep : t.work + (late.patient 0).size ≤ 40 := by decide
  have hpoll := (joins.relents (by decide)).polled hdeep
  rw [if_pos ⟨houtcome, helapsed⟩] at hpoll
  rw [hpoll]
  exact ⟨houtcome, rfl⟩

end Session

end SingleFlight
