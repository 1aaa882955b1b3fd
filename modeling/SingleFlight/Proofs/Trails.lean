import SingleFlight.Proofs.Retry
import SingleFlight.Proofs.Tending

/-!
# Trails

The trail of a get lists its polls up to the one that tells it its answer, each with the state before it and the state
that it leaves.

* a get that waits is told the outcome of its load at last, and any other get that has waited there as long would have
  been told of it by the same polls; or it turns away (`Get.Trail.exists_of_awaiting`);
* every task of a schedule that is told its answer has a trail, on which the load that it has started was tended
  (`Session.Trails.guarded`).
-/

namespace SingleFlight

namespace Get

variable {τ : ValueType}

/-- The polls of a get up to the one that tells it its answer, each with the state before it and the state that it
leaves. -/
inductive Trail : Get τ → List (System × System) → Outcome CacheFault (Option (Typed τ)) → Prop where
  | last {get : Get τ} {s t : System} {answer : Outcome CacheFault (Option (Typed τ))}
      (hpoll : s.poll get = (t, .ended answer)) : Trail get [(s, t)] answer
  | more {get rest : Get τ} {s t : System} {polls : List (System × System)}
      {answer : Outcome CacheFault (Option (Typed τ))} (hpoll : s.poll get = (t, .pending rest))
      (h : Trail rest polls answer) : Trail get ((s, t) :: polls) answer

end Get

namespace System

variable {s t : System} {id : Nat} {τ : ValueType}

section
variable {cache : String} {key : Key} {patience : Option (Patience τ)}

/-- A get that waits for a load advances it first, and is told the outcome that it has then. -/
theorem poll_awaiting_of_outcome {outcome : LoadResult} (houtcome : (t.advanced id).outcome? id = some outcome) :
    t.poll (.awaiting cache key id patience) = (t.advanced id, .ended (typedResult τ cache outcome)) := by
  have deep := Nat.le_succ (t.work + (Get.awaiting cache key id patience).size)
  rw [← poll_eq deep, Lookup.poll_awaiting (deep_of_awaiting deep)]
  simp only [houtcome]

theorem poll_awaiting_of_early (hnone : (t.advanced id).outcome? id = none)
    (hearly : ∀ p, patience = some p → ¬ p.due ≤ t.now) :
    t.poll (.awaiting cache key id patience) = (t.advanced id, .pending (.awaiting cache key id patience)) := by
  have deep := Nat.le_succ (t.work + (Get.awaiting cache key id patience).size)
  rw [← poll_eq deep, Lookup.poll_awaiting (deep_of_awaiting deep)]
  cases patience with
  | none => simp only [hnone]
  | some p => simp only [hnone, if_neg (hearly p rfl)]

theorem poll_awaiting_of_due {p : Patience τ} (hnone : (t.advanced id).outcome? id = none) (hdue : p.due ≤ t.now) :
    t.poll (.awaiting cache key id (some p)) =
      ((t.advanced id).emit (.lockTimedOut cache key id p.lockTimeout)).poll
        (.loading cache (.calling p.call p.loader)) := by
  have deep := Nat.le_succ (t.work + (Get.awaiting cache key id (some p)).size)
  rw [← poll_eq deep, Lookup.poll_awaiting (deep_of_awaiting deep)]
  simp only [hnone, if_pos hdue]
  refine poll_eq ?_
  have hwork := work_advanced_le t id
  have hwaiting : (Get.awaiting cache key id (some p)).size = p.loader.size + 4 := rfl
  have hloading : (Get.loading cache (.calling p.call p.loader)).size = p.loader.size + 2 + 1 := rfl
  show (t.advanced id).work + _ ≤ _
  omega

end

theorem poll_of_passed {request : Request} {key : Key} {name : String} (hkey : request.key = .ok key)
    (hreach : s.reach request = .ok (.passThrough name)) (loader : Loader τ) : s.poll (.asking request loader) =
      (s.emit (.passedThrough name key)).poll (.loading name (.calling ⟨request.label, name, key⟩ loader)) := by
  have hstep : ∀ depth, Get.poll (depth + 1) s (.asking request loader) =
      Get.poll depth (s.emit (.passedThrough name key))
        (.loading name (.calling ⟨request.label, name, key⟩ loader)) := by
    intro depth
    simp only [Get.poll, hkey, hreach]
  have deep : s.work + (Get.asking request loader).size ≤ (s.work + loader.size + 4) + 1 := Nat.le_refl _
  rw [← poll_eq deep, hstep]
  exact poll_eq (deep_of_passed name ⟨request.label, name, key⟩ deep)

theorem poll_loading (t : System) (cache : String) (run : Run τ) : t.poll (.loading cache run) =
    ((Run.poll (t.work + run.size) t none run).1, (Run.poll (t.work + run.size) t none run).2.alone cache) :=
  Lookup.poll_loading cache (t.work + run.size) t run

end System

namespace Lookup

variable {τ : ValueType} {l : Lookup τ} {id : Nat}

theorem poll_of_stored {value : Stored Value} (h : l.found = .stored value) :
    l.before.poll l.asking = (l.after, .ended (System.typed τ l.store.name value)) :=
  poll_asking_of_stored h (l.before.work + l.loader.size + 4)

theorem poll_of_started (h : l.found = .started id) : l.before.poll l.asking = l.after.poll (l.waiting id) := by
  have deep : l.before.work + l.asking.size ≤ (l.before.work + l.loader.size + 4) + 1 := Nat.le_refl _
  rw [← System.poll_eq deep, poll_asking_of_started h]
  exact System.poll_eq (System.deep_of_started (lookUp_of_found h) deep _ _)

theorem joining_eq (l : Lookup τ) (id : Nat) :
    l.joining id = .awaiting l.store.name l.key id (l.request.patienceAt l.after.now l.call l.loader) := by
  rw [joining, Request.patienceAt, l.now_after]
  split
  · rfl
  · rfl

theorem poll_of_joined (h : l.found = .joined id) : l.before.poll l.asking = l.after.poll (l.joining id) := by
  have deep : l.before.work + l.asking.size ≤ (l.before.work + l.loader.size + 4) + 1 := Nat.le_refl _
  rw [← System.poll_eq deep, poll_asking_of_joined h, joining_eq]
  exact System.poll_eq (System.deep_of_joined (lookUp_of_found h) deep _ _)

end Lookup

namespace Get.Trail

variable {τ : ValueType} {get other : Get τ} {s s' t : System} {polls : List (System × System)}
  {answer : Outcome CacheFault (Option (Typed τ))}

/-- The trail of a get is that of another one if the first poll of the one is the first poll of the other. -/
theorem of_poll (h : Trail get ((s, t) :: polls) answer) (hpoll : s'.poll other = s.poll get) :
    Trail other ((s', t) :: polls) answer := by
  cases h with
  | last hend => exact .last (hpoll.trans hend)
  | more hrest h => exact .more (hpoll.trans hrest) h

/-- A get that runs its own loader is answered as the loader ends. -/
theorem exists_of_loading {cache : String} {run : Run τ} (h : Trail (.loading cache run) polls answer) :
    ∃ outcome : Outcome Failure (Option (Typed τ)), answer = outcome.mapError (.computation cache) := by
  generalize hget : Get.loading cache run = get at h
  induction h generalizing run with
  | last hpoll =>
    subst hget
    rw [System.poll_loading] at hpoll
    obtain ⟨-, hpoll⟩ := Prod.mk.inj hpoll
    unfold Progress.alone at hpoll
    split at hpoll
    · cases hpoll
    next outcome hrun =>
      cases hpoll
      exact ⟨outcome, rfl⟩
  | more hpoll _ ih =>
    subst hget
    obtain ⟨next, rfl⟩ := Get.loading_of_poll hpoll
    exact ih rfl

variable {cache : String} {key : Key} {id : Nat} {patience : Option (Patience τ)}

/-- The last poll has found the load with the outcome, of which a get of any other type with as much patience would
  have been told by the same polls. -/
def Told (cache : String) (key : Key) (id : Nat) (patience : Option (Patience τ)) (polls : List (System × System))
    (outcome : LoadResult) : Prop :=
  (∃ before s, polls = before ++ [(s, s.advanced id)] ∧ (s.advanced id).outcome? id = some outcome) ∧
    ∀ {σ : ValueType} (like : Option (Patience σ)), like.map (·.due) = patience.map (·.due) →
      Trail (.awaiting cache key id like) polls (System.typedResult σ cache outcome)

/-- At some poll the get has turned away from the load, which had no outcome, and has gone on by itself. -/
def Turned (cache : String) (key : Key) (id : Nat) (p : Patience τ) (polls : List (System × System))
    (answer : Outcome CacheFault (Option (Typed τ))) : Prop :=
  ∃ before s t rest, polls = before ++ (s, t) :: rest ∧ (s.advanced id).outcome? id = none ∧ p.due ≤ s.now ∧
    Trail (.loading cache (.calling p.call p.loader))
      (((s.advanced id).emit (.lockTimedOut cache key id p.lockTimeout), t) :: rest) answer

/-- A get that waits for a load is told its outcome at last, or turns away from it. -/
theorem exists_of_awaiting (h : Trail (.awaiting cache key id patience) polls answer) :
    (∃ outcome, answer = System.typedResult τ cache outcome ∧ Told cache key id patience polls outcome) ∨
      ∃ p, patience = some p ∧ Turned cache key id p polls answer := by
  generalize hget : Get.awaiting cache key id patience = get at h
  induction h with
  | @last get s t answer hpoll =>
    subst hget
    cases houtcome : (s.advanced id).outcome? id with
    | some outcome =>
      rw [System.poll_awaiting_of_outcome houtcome] at hpoll
      cases hpoll
      exact .inl ⟨outcome, rfl, ⟨[], s, rfl, houtcome⟩, fun like _ => .last (System.poll_awaiting_of_outcome houtcome)⟩
    | none =>
      by_cases hdue : ∃ p, patience = some p ∧ p.due ≤ s.now
      · obtain ⟨p, rfl, hdue⟩ := hdue
        rw [System.poll_awaiting_of_due houtcome hdue] at hpoll
        exact .inr ⟨p, rfl, [], s, t, [], rfl, houtcome, hdue, .last hpoll⟩
      · rw [System.poll_awaiting_of_early houtcome fun p hp hle => hdue ⟨p, hp, hle⟩] at hpoll
        cases hpoll
  | @more get rest s t polls answer hpoll h ih =>
    subst hget
    cases houtcome : (s.advanced id).outcome? id with
    | some outcome =>
      rw [System.poll_awaiting_of_outcome houtcome] at hpoll
      cases hpoll
    | none =>
      by_cases hdue : ∃ p, patience = some p ∧ p.due ≤ s.now
      · obtain ⟨p, rfl, hdue⟩ := hdue
        rw [System.poll_awaiting_of_due houtcome hdue] at hpoll
        exact .inr ⟨p, rfl, [], s, t, polls, rfl, houtcome, hdue, .more hpoll h⟩
      · have hearly : ∀ p, patience = some p → ¬ p.due ≤ s.now := fun p hp hle => hdue ⟨p, hp, hle⟩
        rw [System.poll_awaiting_of_early houtcome hearly] at hpoll
        cases hpoll
        refine (ih rfl).imp ?_ ?_
        · rintro ⟨outcome, hanswer, ⟨before, u, hpolls, htold⟩, halike⟩
          refine ⟨outcome, hanswer, ⟨(s, s.advanced id) :: before, u, by rw [hpolls]; rfl, htold⟩, fun like hlike => ?_⟩
          -- a get with as much patience waits as well
          refine .more (System.poll_awaiting_of_early houtcome fun q hq hle => ?_) (halike like hlike)
          rw [hq] at hlike
          obtain ⟨p, hp, hsame⟩ := Option.map_eq_some_iff.1 hlike.symm
          exact hearly p hp (hsame ▸ hle)
        · rintro ⟨p, hp, before, u, v, rest, hpolls, hturn⟩
          exact ⟨p, hp, (s, s.advanced id) :: before, u, v, rest, by rw [hpolls]; rfl, hturn⟩

end Get.Trail

namespace Get

variable {τ : ValueType}

/-- A get that the first poll answers without a change has no other poll. -/
theorem Trail.of_ended {get : Get τ} {s t : System} {polls : List (System × System)}
    {answer told : Outcome CacheFault (Option (Typed τ))} (h : Trail get ((s, t) :: polls) answer)
    (hpoll : s.poll get = (s, .ended told)) : t = s ∧ polls = [] ∧ answer = told := by
  cases h with
  | last hend =>
    rw [hpoll] at hend
    cases hend
    exact ⟨rfl, rfl, rfl⟩
  | more hrest _ =>
    rw [hpoll] at hrest
    cases hrest

/-- The load that the get has started, if it has started one, is tended from its first poll to its last. -/
def Guarded (request : Request) (loader : Loader τ) (polls : List (System × System)) : Prop :=
  ∀ (l : Lookup τ) (id : Nat) (t v u : System) (between : List (System × System)),
    l.asking = .asking request loader → l.found = .started id → polls = (l.before, t) :: (between ++ [(v, u)]) →
      System.Tended id t v

theorem Trail.fst_poll {get : Get τ} {s t : System} {polls : List (System × System)}
    {answer : Outcome CacheFault (Option (Typed τ))} (h : Trail get ((s, t) :: polls) answer) :
    (s.poll get).1 = t := by
  cases h with
  | last hpoll => rw [hpoll]
  | more hpoll _ => rw [hpoll]

end Get

namespace Lookup

variable {τ : ValueType} {l : Lookup τ} {id : Nat}

theorem started_after (hfound : l.found = .started id) : l.after.Started id :=
  ⟨_, (System.load?_of_started (lookUp_of_found hfound)).2⟩

/-- The first poll of a get that starts its load tends it. -/
theorem tended_of_trail (hfound : l.found = .started id) {t : System} {polls : List (System × System)}
    {answer : Outcome CacheFault (Option (Typed τ))} (h : Get.Trail l.asking ((l.before, t) :: polls) answer) :
    System.Tended id l.after t := by
  have hfirst : (l.after.poll (l.waiting id)).1 = t := by
    rw [← poll_of_started hfound]
    exact h.fst_poll
  rw [← hfirst]
  exact System.tended_get (started_after hfound) _ (l.waiting id)

end Lookup

/-! ### Schedules -/

namespace Session

open Get (Trail Guarded)

/-- The polls so far of the get of a task that a turn as said has started. A load that was there after the first of
them has been tended since. -/
def Trails (x : Session) (ok : Turn → Prop) (task : Task) : Prop :=
  ∃ (request : Request) (loader : Loader task.type) (polls : List (System × System)),
    ok (.start task.name task.type request loader) ∧
    (∀ {more answer}, Trail task.get more answer → Trail (.asking request loader) (polls ++ more) answer) ∧
      ∀ first ∈ polls.head?, first.1.Reached ∧ ∀ id, first.2.Started id → System.Tended id first.2 x.system

variable {x : Session} {ok : Turn → Prop}

theorem Trails.turn {task : Task} (h : x.Trails ok task) (t : Turn) : (x.turn t).Trails ok task := by
  obtain ⟨request, loader, polls, hstart, htrail, hfirst⟩ := h
  refine ⟨request, loader, polls, hstart, htrail, fun first hmem => ⟨(hfirst first hmem).1, fun id started => ?_⟩⟩
  have htended := (hfirst first hmem).2 id started
  exact htended.trans (tended_play (htended.started started) [t])

/-- The poll of a task goes on its trail. -/
theorem Trails.poll (reached : x.system.Reached) {task : Task} (h : x.Trails ok task) {s : System} {get : Get task.type}
    (hpoll : x.system.poll task.get = (s, .pending get)) (tasks : List Task) :
    Trails { x with system := s, tasks } ok { task with get } := by
  obtain ⟨request, loader, polls, hstart, htrail, hfirst⟩ := h
  refine ⟨request, loader, polls ++ [(x.system, s)], hstart, fun hmore => ?_, fun first hmem => ?_⟩
  · rw [List.append_assoc]
    exact htrail (.more hpoll hmore)
  · cases polls with
    | nil =>
      cases hmem
      exact ⟨reached, fun id _ => .refl⟩
    | cons _ polls =>
      cases hmem
      obtain ⟨hreached, htended⟩ := hfirst first rfl
      refine ⟨hreached, fun id started => (htended id started).trans ?_⟩
      have hpolled := System.tended_get ((htended id started).started started)
        (x.system.work + task.get.size) task.get
      unfold System.poll at hpoll
      rwa [hpoll] at hpolled

theorem trails_turn (reached : x.system.Reached) (h : ∀ task ∈ x.tasks, x.Trails ok task) {t : Turn} (ht : ok t)
    {task : Task} (htask : task ∈ (x.turn t).tasks) : (x.turn t).Trails ok task := by
  rcases mem_tasks_turn x htask with hold | ⟨name, type, request, loader, rfl, rfl⟩ |
    ⟨place, polled, get, rfl, hplace, hpoll, rfl⟩
  · exact (h task hold).turn t
  · exact ⟨request, loader, [], ht, fun htrail => htrail, nofun⟩
  · exact (h polled (List.mem_of_getElem? hplace)).poll reached hpoll (x.turn (.poll place)).tasks

theorem trails_play (reached : x.system.Reached) (h : ∀ task ∈ x.tasks, x.Trails ok task) {turns : List Turn}
    (hturns : ∀ t ∈ turns, ok t) : ∀ task ∈ (x.play turns).tasks, (x.play turns).Trails ok task := by
  induction turns generalizing x with
  | nil => exact h
  | cons t turns ih =>
    have hturn : ∀ task ∈ (x.turn t).tasks, (x.turn t).Trails ok task :=
      fun _ => trails_turn reached h (hturns t (List.mem_cons_self ..))
    exact ih (reached.moves (moves_turn x t)) hturn fun t' ht' => hturns t' (List.mem_cons_of_mem t ht')

/-- A task that is told its answer has a trail, and the load that it has started is tended. -/
theorem Trails.guarded (reached : x.system.Reached) {task : Task} (h : x.Trails ok task) {u : System}
    {answer : Outcome CacheFault (Option (Typed task.type))} (hpoll : x.system.poll task.get = (u, .ended answer)) :
    ∃ (request : Request) (loader : Loader task.type) (s t : System) (polls : List (System × System)),
      ok (.start task.name task.type request loader) ∧ ((s, t) :: polls).getLast? = some (x.system, u) ∧ s.Reached ∧
        Trail (.asking request loader) ((s, t) :: polls) answer ∧ Guarded request loader ((s, t) :: polls) := by
  obtain ⟨request, loader, polls, hstart, htrail, hfirst⟩ := h
  have hwhole := htrail (.last hpoll)
  refine ⟨request, loader, ?_⟩
  cases polls with
  | nil =>
    refine ⟨x.system, u, [], hstart, rfl, reached, hwhole, fun l id t v w between _ _ hpolls => ?_⟩
    obtain ⟨-, hnil⟩ := List.cons.inj hpolls
    exact absurd hnil.symm (List.append_ne_nil_of_right_ne_nil between (List.cons_ne_nil _ _))
  | cons first polls =>
    obtain ⟨hreached, htended⟩ := hfirst first rfl
    obtain ⟨s, t⟩ := first
    refine ⟨s, t, polls ++ [(x.system, u)], hstart, ?_, hreached, hwhole,
      fun l id first v w between hl hfound hpolls => ?_⟩
    · rw [← List.cons_append, List.getLast?_concat]
    · obtain ⟨hsame, hrest⟩ := List.cons.inj hpolls
      obtain ⟨-, hlast⟩ := List.append_inj' hrest rfl
      cases hsame
      cases hlast
      rw [← hl] at hwhole
      exact htended id ((Lookup.tended_of_trail hfound hwhole).started (Lookup.started_after hfound))

end Session

end SingleFlight
