import SingleFlight.Proofs.Depth
import SingleFlight.Proofs.Schedule

/-!
# How often loaders are called

A call is recorded under the label of the get whose loader is called. After every schedule there are at most as many
calls under a label as gets were started under it, those that loaders make included (`Session.calls_le`): whether a get
has its loader called by a load, calls it by itself, or neither, the loader is called once at most.
-/

namespace SingleFlight

/-- How many gets under the label the script makes. -/
def Loader.labelled (label : String) : Loader τ → Nat
  | .done _ | .fail _ | .panic _ => 0
  | .sleep _ next | .invalidate _ _ next | .invalidateAll _ next => next.labelled label
  | .get request loader => (if request.label = label then 1 else 0) + loader.labelled label

mutual
/-- How many calls under the label the get may still lead to, apart from those of the load that it waits for. -/
def Get.labelled (label : String) : Get τ → Nat
  | .asking request loader => (if request.label = label then 1 else 0) + loader.labelled label
  | .awaiting _ _ _ none => 0
  | .awaiting _ _ _ (some p) => (if p.call.label = label then 1 else 0) + p.loader.labelled label
  | .loading _ run => run.labelled label

def Run.labelled (label : String) : Run τ → Nat
  | .calling call loader => (if call.label = label then 1 else 0) + loader.labelled label
  | .running loader | .sleeping _ loader => loader.labelled label
  | .nested get => get.labelled label
end

/-- Calls under the label, those made and those that may come. -/
def Weight.calls (label : String) : Weight :=
  ⟨fun call => if call.label = label then 1 else 0, Get.labelled label, Run.labelled label⟩

theorem Weight.falls_calls (label : String) : (Weight.calls label).Falls where
  passed request key name loader := Nat.le_refl _
  started request name key id loader := by
    show 0 + _ ≤ _
    exact Nat.le_of_eq (Nat.zero_add _)
  joined request name key id due timeout loader := Nat.le_refl _
  timedOut name key id p := Nat.le_refl _
  loading name run rest := Nat.le_of_eq (Nat.add_comm ..)
  loaded name run := Nat.le_refl _
  calling call loader := Nat.le_refl _
  awake due loader := Nat.le_refl _
  nesting get rest := Nat.le_of_eq (Nat.add_comm ..)
  nested get := Nat.le_refl _
  sleep ms due next := Nat.le_refl _
  invalidate cache key next := Nat.le_refl _
  invalidateAll cache next := Nat.le_refl _
  nest request inner := Nat.le_refl _

/-- The calls that are recorded under the label. -/
def System.callsUnder (s : System) (label : String) : Nat :=
  s.trace.calls.countP fun record => decide (record.call.label = label)

/-- Calls weigh what they count. -/
theorem System.callsUnder_eq (s : System) (label : String) :
    s.callsUnder label = (s.history.map fun e => (Weight.calls label).event e.event).sum := by
  rw [callsUnder, trace, Trace.calls, List.filterMap_reverse, List.countP_reverse]
  induction s.history with
  | nil => rfl
  | cons e past ih =>
    obtain ⟨time, event⟩ := e
    rw [List.map_cons, List.sum_cons, ← ih]
    cases event with
    | called call load =>
      by_cases h : call.label = label
      · simp [Weight.event, Weight.calls, h, Nat.add_comm]
      · simp [Weight.event, Weight.calls, h]
    | _ => exact (Nat.zero_add _).symm

namespace Session

/-- What the get weighs that the turn starts, if it starts one. -/
def Turn.weight (w : Weight) : Turn → Nat
  | .start _ _ request loader => w.get (.asking request loader)
  | _ => 0

/-- How many gets under the label the turn starts. -/
def Turn.labelled (label : String) (t : Turn) : Nat := t.weight (.calls label)

/-- What is left of the live tasks. -/
def left (w : Weight) (tasks : List Task) : Nat := (tasks.map fun task => w.get task.get).sum

variable {w : Weight}

theorem left_eraseIdx {tasks : List Task} {place : Nat} {task : Task} (h : tasks[place]? = some task) :
    left w (tasks.eraseIdx place) + w.get task.get = left w tasks := by
  induction tasks generalizing place with
  | nil => cases h
  | cons head rest ih =>
    cases place with
    | zero =>
      cases h
      exact Nat.add_comm ..
    | succ place =>
      have hrest := ih (List.getElem?_cons_succ ▸ h)
      show w.get head.get + left w (rest.eraseIdx place) + _ = w.get head.get + left w rest
      omega

theorem left_eraseIdx_le (tasks : List Task) (place : Nat) : left w (tasks.eraseIdx place) ≤ left w tasks := by
  cases h : tasks[place]? with
  | none =>
    have hsame : tasks.eraseIdx place = tasks := List.eraseIdx_of_length_le (List.getElem?_eq_none_iff.1 h)
    exact Nat.le_of_eq (congrArg (left w) hsame)
  | some task => exact Nat.le_of_add_right_le (Nat.le_of_eq (left_eraseIdx h))

theorem left_set {tasks : List Task} {place : Nat} {task : Task} (h : tasks[place]? = some task) (next : Task) :
    left w (tasks.set place next) + w.get task.get = left w tasks + w.get next.get := by
  induction tasks generalizing place with
  | nil => cases h
  | cons head rest ih =>
    cases place with
    | zero =>
      cases h
      show w.get next.get + left w rest + w.get task.get = w.get task.get + left w rest + w.get next.get
      omega
    | succ place =>
      have hrest := ih (List.getElem?_cons_succ ▸ h)
      show w.get head.get + left w (rest.set place next) + _ = w.get head.get + left w rest + _
      omega

/-- A turn adds no weight but that of a get that it starts. -/
theorem weight_turn (falls : w.Falls) (x : Session) (t : Turn) :
    w.total (x.turn t).system + left w (x.turn t).tasks ≤ w.total x.system + left w x.tasks + t.weight w := by
  cases t with
  | start name type request loader =>
    show w.total x.system + left w (x.tasks ++ [_]) ≤ _
    rw [left, List.map_append, List.sum_append, List.map_singleton, List.sum_singleton, ← Nat.add_assoc]
    exact Nat.le_refl _
  | poll place =>
    simp only [turn]
    cases hplace : x.tasks[place]? with
    | none => exact Nat.le_refl _
    | some task =>
      have hpoll := Weight.poll_get falls (x.system.work + task.get.size) x.system task.get
      simp only [System.pollTask, System.poll]
      cases hresult : Get.poll (x.system.work + task.get.size) x.system task.get with
      | mk s progress =>
        rw [hresult] at hpoll
        cases progress with
        | pending get =>
          have hset := left_set (w := w) hplace { task with get }
          have hpoll : w.total s + w.get get ≤ w.total x.system + w.get task.get := hpoll
          show w.total s + left w (x.tasks.set place { task with get }) ≤ w.total x.system + left w x.tasks + 0
          have hset : left w (x.tasks.set place { task with get }) + w.get task.get =
              left w x.tasks + w.get get := hset
          omega
        | ended outcome =>
          have herase := left_eraseIdx (w := w) hplace
          have hpoll : w.total s + 0 ≤ w.total x.system + w.get task.get := hpoll
          have hemit : w.total (s.emit (.answered task.name (outcome.mapValue fun v => v.map (·.val)))) =
              0 + w.total s := Weight.total_emit ..
          show w.total (s.emit (.answered task.name (outcome.mapValue fun v => v.map (·.val)))) +
            left w (x.tasks.eraseIdx place) ≤ w.total x.system + left w x.tasks + 0
          omega
  | drop place => exact Nat.add_le_add_left (left_eraseIdx_le x.tasks place) _
  | elapse ms => exact Nat.le_refl _
  | invalidate name key =>
    simp only [turn]
    split
    next cache _ => exact Nat.le_of_eq (congrArg (· + left w x.tasks) (Weight.total_invalidateIn x.system cache key))
    next => exact Nat.le_refl _
  | invalidateAll name =>
    simp only [turn]
    split
    next cache _ => exact Nat.le_of_eq (congrArg (· + left w x.tasks) (Weight.total_invalidateAllIn x.system cache))
    next => exact Nat.le_refl _
  | tend name => exact Nat.le_refl _

/-- **At most one call for each get.** After every schedule there are at most as many calls recorded under a label as
gets were started under it. -/
theorem calls_le (registry : Registry) (turns : List Turn) (label : String) :
    ((Session.start registry).play turns).system.callsUnder label ≤ (turns.map (·.labelled label)).sum := by
  have hplay : ∀ (turns : List Turn) (x : Session),
      (Weight.calls label).total (x.play turns).system + left (Weight.calls label) (x.play turns).tasks ≤
        (Weight.calls label).total x.system + left (Weight.calls label) x.tasks +
          (turns.map (·.labelled label)).sum := by
    intro turns
    induction turns with
    | nil => exact fun x => Nat.le_refl _
    | cons t turns ih =>
      intro x
      have hturn := weight_turn (Weight.falls_calls label) x t
      have hlabel : t.weight (.calls label) = t.labelled label := rfl
      rw [List.map_cons, List.sum_cons]
      exact Nat.le_trans (ih (x.turn t)) (by omega)
  have hstart := hplay turns (Session.start registry)
  rw [System.callsUnder_eq]
  have htotal : (Weight.calls label).total (Session.start registry).system +
      left (Weight.calls label) (Session.start registry).tasks = 0 := rfl
  rw [htotal, Nat.zero_add] at hstart
  exact Nat.le_trans (Nat.le_add_left _ _) (Nat.le_trans (Nat.le_add_right _ _) hstart)

end Session

end SingleFlight
