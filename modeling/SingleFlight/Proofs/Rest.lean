import Mathlib.Data.Set.Insert
import SingleFlight.Proofs.Arising
import SingleFlight.Proofs.Pending

/-!
# Rest

When no task can go on before time passes, everything that the tasks wait for is still: each loader sleeps, or it waits
for loads that are still themselves, maybe for one that waits for it.

* to poll what is still changes nothing, however deep (`System.poll_still`);
* a poll that does not end its get leaves the get still, and keeps everything still that was
  (`System.still_of_pending`): a load that lands in the middle of a poll ends every get up to the one that is polled;
* so the tasks are settled after a pass that ends none of them (`Session.resting_pass`), and after every step of a
  session (`Session.resting_run`).
-/

namespace SingleFlight

mutual
/-- The get makes no headway at that time as long as the loads in `P` make none. -/
def Get.Still (P : Set Nat) (now : Nat) : Get τ → Prop
  | .asking _ _ => False
  | .awaiting _ _ id patience => id ∈ P ∧ ∀ p, patience = some p → now < p.due
  | .loading _ run => run.Still P now

def Run.Still (P : Set Nat) (now : Nat) : Run τ → Prop
  | .calling _ _ | .running _ => False
  | .sleeping due _ => now < due
  | .nested get => get.Still P now
end

/-- A load that is being advanced counts as still until it ends. -/
def LoadState.Still (P : Set Nat) (now : Nat) : LoadState → Prop
  | .idle _ run => run.Still P now
  | .busy => True
  | .ended _ => False

mutual
theorem Get.Still.mono {P Q : Set Nat} (hle : P ⊆ Q) {now : Nat} : {get : Get τ} → get.Still P now → get.Still Q now
  | .asking _ _, h => h
  | .awaiting _ _ _ _, h => ⟨hle h.1, h.2⟩
  | .loading _ _, h => Run.Still.mono hle h

theorem Run.Still.mono {P Q : Set Nat} (hle : P ⊆ Q) {now : Nat} : {run : Run τ} → run.Still P now → run.Still Q now
  | .calling _ _, h | .running _, h | .sleeping _ _, h => h
  | .nested _, h => Get.Still.mono hle h
end

mutual
/-- What makes no headway at that time makes none before. -/
theorem Get.Still.earlier {P : Set Nat} {now before : Nat} (hle : before ≤ now) :
    {get : Get τ} → get.Still P now → get.Still P before
  | .asking _ _, h => h
  | .awaiting _ _ _ _, h => ⟨h.1, fun p hp => Nat.lt_of_le_of_lt hle (h.2 p hp)⟩
  | .loading _ _, h => Run.Still.earlier hle h

theorem Run.Still.earlier {P : Set Nat} {now before : Nat} (hle : before ≤ now) :
    {run : Run τ} → run.Still P now → run.Still P before
  | .calling _ _, h | .running _, h => h
  | .sleeping _ _, h => Nat.lt_of_le_of_lt hle h
  | .nested _, h => Get.Still.earlier hle h
end

theorem LoadState.Still.mono {P Q : Set Nat} (hle : P ⊆ Q) {now : Nat} {state : LoadState} (h : state.Still P now) :
    state.Still Q now := by
  cases state with
  | idle τ run => exact Run.Still.mono hle h
  | busy => trivial
  | ended outcome => exact h

namespace System

/-- The loads in `P` are there and make no headway unless they are being advanced. -/
def Still (P : Set Nat) (s : System) : Prop := ∀ id ∈ P, ∃ load, s.load? id = some load ∧ load.state.Still P s.now

variable {P : Set Nat} {s t : System} {id : Nat}

namespace Still

/-- Time does not pass and all loads stay as they are. -/
theorem of_load? (h : s.Still P) (hnow : t.now = s.now)
    (hloads : ∀ id load, s.load? id = some load → t.load? id = some load) : t.Still P := by
  intro id hid
  obtain ⟨load, hload, hstill⟩ := h id hid
  rw [hnow]
  exact ⟨load, hloads id load hload, hstill⟩

theorem of_loads (h : s.Still P) (hnow : t.now = s.now) (hloads : t.loads = s.loads) : t.Still P := by
  refine h.of_load? hnow fun id load hload => ?_
  rw [load?, hloads]
  exact hload

theorem emit (h : s.Still P) (event : Event) : (s.emit event).Still P := h

theorem invalidateIn (h : s.Still P) (cache : Cache) (key : Key) : (s.invalidateIn cache key).Still P := by
  apply h.of_loads
  · cases cache <;> rfl
  · exact loads_invalidateIn s cache key

theorem invalidateAllIn (h : s.Still P) (cache : Cache) : (s.invalidateAllIn cache).Still P := by
  apply h.of_loads
  · cases cache <;> rfl
  · exact loads_invalidateAllIn s cache

theorem lookUp (h : s.Still P) {store : LocalStore} {call : Call} {loader : Loader τ} {found : Found}
    (hlook : s.lookUp store call loader = (t, found)) : t.Still P := by
  have hnow := now_lookUp s store call loader
  rw [hlook] at hnow
  refine h.of_load? hnow fun id load hload => ?_
  have hafter : (s.lookUp store call loader).1.load? id = some load := load?_lookUp hload
  rwa [hlook] at hafter

theorem setLoad (h : s.Still P) (id : Nat) {state : LoadState} (hstate : state.Still P s.now) :
    (s.setLoad id state).Still P := by
  intro other hother
  obtain ⟨load, hload, hstill⟩ := h other hother
  by_cases hsame : other = id
  · subst hsame
    exact ⟨_, load?_setLoad_self hload state, hstate⟩
  · exact ⟨load, (load?_setLoad_of_ne s hsame state).trans hload, hstill⟩

theorem busy (h : s.Still P) (id : Nat) : (s.setLoad id .busy).Still P := by
  apply h.setLoad
  trivial

theorem idle (h : s.Still P) {run : Run τ} (hrun : run.Still P s.now) (id : Nat) :
    (s.setLoad id (.idle τ run)).Still P := by
  apply h.setLoad
  exact hrun

theorem insert (h : s.Still P) {load : Load} (hload : s.load? id = some load)
    (hstate : load.state.Still (insert id P) s.now) : s.Still (insert id P) := by
  rintro other (rfl | hother)
  · exact ⟨load, hload, hstate⟩
  · obtain ⟨found, hfound, hstill⟩ := h other hother
    exact ⟨found, hfound, hstill.mono (Set.subset_insert id P)⟩

theorem run (h : s.Still P) (hid : id ∈ P) {number : Nat} {cache : String} {key : Key} {run : Run τ}
    (hload : s.load? id = some ⟨cache, key, number, .idle τ run⟩) : run.Still P s.now := by
  obtain ⟨load, hfound, hstill⟩ := h id hid
  rw [hload] at hfound
  cases hfound
  exact hstill

theorem outcome? (h : s.Still P) (hid : id ∈ P) : s.outcome? id = none := by
  cases houtcome : s.outcome? id with
  | none => rfl
  | some outcome =>
    obtain ⟨load, hload, hstill⟩ := h id hid
    obtain ⟨ended, hended, hstate⟩ := outcome?_eq_some.1 houtcome
    rw [hload] at hended
    cases hended
    rw [hstate] at hstill
    exact hstill.elim

end Still

/-! ### What is still stays as it is -/

private def unmoved : Judgement where
  get _ s get t progress := ∀ P, s.Still P → get.Still P s.now → t = s ∧ progress = .pending get
  run _ s _ run t progress := ∀ P, s.Still P → run.Still P s.now → t = s ∧ progress = .pending run
  load _ s id t := ∀ P, s.Still P → id ∈ P → t = s

private theorem unmovedGets : unmoved.KeptByGets where
  cut _ _ _ _ _ := ⟨rfl, rfl⟩
  unkeyed _ _ _ hget := hget.elim
  refused _ _ _ _ hget := hget.elim
  passed _ _ _ _ _ hget := hget.elim
  found _ _ _ _ _ hget := hget.elim
  started _ _ _ _ _ _ hget := hget.elim
  joined _ _ _ _ _ _ hget := hget.elim
  told hadvance houtcome P hs hget := by
    have hsame := hadvance P hs hget.1
    rw [hsame, hs.outcome? hget.1] at houtcome
    cases houtcome
  waiting hadvance _ _ P hs hget := ⟨hadvance P hs hget.1, rfl⟩
  timedOut {τ depth id s t cache key p progress} hadvance _ hdue _ P hs hget := by
    have hsame := hadvance P hs hget.1
    have hpending : s.now < p.due := hget.2 p rfl
    rw [hsame] at hdue
    omega
  loading _ hrun P hs hget := by
    obtain ⟨rfl, hrest⟩ := hrun P hs hget
    cases hrest
    exact ⟨rfl, rfl⟩
  loaded _ hrun P hs hget := by
    obtain ⟨-, hrest⟩ := hrun P hs hget
    cases hrest

private theorem unmovedRuns : unmoved.KeptByRuns where
  cut _ _ _ _ _ _ := ⟨rfl, rfl⟩
  calling _ _ _ hrun := hrun.elim
  awake {τ depth due s t load loader progress} hdue _ P _ hrun := by
    have hpending : s.now < due := hrun
    omega
  asleep _ _ _ _ := ⟨rfl, rfl⟩
  nesting _ hget P hs hrun := by
    obtain ⟨rfl, hrest⟩ := hget P hs hrun
    cases hrest
    exact ⟨rfl, rfl⟩
  nested _ hget P hs hrun := by
    obtain ⟨-, hrest⟩ := hget P hs hrun
    cases hrest
  done _ _ _ _ _ _ hrun := hrun.elim
  fail _ _ _ _ _ _ hrun := hrun.elim
  panic _ _ _ _ _ _ hrun := hrun.elim
  sleep _ _ _ hrun := hrun.elim
  invalidate _ _ _ _ hrun := hrun.elim
  invalidateNone _ _ _ hrun := hrun.elim
  invalidateAll _ _ _ _ hrun := hrun.elim
  invalidateAllNone _ _ _ hrun := hrun.elim
  get _ _ _ hrun := hrun.elim

private theorem unmovedLoads : unmoved.KeptByLoads where
  cut _ _ _ _ _ := rfl
  still _ _ _ _ := rfl
  paused {τ depth id number s t cache key run rest} hload _ hrun P hs hid := by
    -- the load is opened and put back as it was
    have hopened : (s.setLoad id .busy).Still P := hs.busy id
    obtain ⟨rfl, hrest⟩ := hrun P hopened (hs.run hid hload)
    cases hrest
    exact setLoad_setLoad_self hload .busy
  landed {τ depth id number s t cache key run outcome} hload _ hrun P hs hid := by
    have hopened : (s.setLoad id .busy).Still P := hs.busy id
    obtain ⟨-, hrest⟩ := hrun P hopened (hs.run hid hload)
    cases hrest

private theorem unmovedPolls : unmoved.Kept := ⟨unmovedGets, unmovedRuns, unmovedLoads⟩

/-- To poll a get that is still changes nothing. -/
theorem poll_still (hs : s.Still P) {get : Get τ} (hget : get.Still P s.now) (depth : Nat) :
    Get.poll depth s get = (s, .pending get) := by
  obtain ⟨hsame, hrest⟩ := (unmovedPolls.polls depth).get s get P hs hget
  exact Prod.ext hsame hrest

theorem poll_run_still (hs : s.Still P) {run : Run τ} (hrun : run.Still P s.now) (depth : Nat) (load : Option Nat) :
    Run.poll depth s load run = (s, .pending run) := by
  obtain ⟨hsame, hrest⟩ := (unmovedPolls.polls depth).run s load run P hs hrun
  exact Prod.ext hsame hrest

/-! ### What is left of a poll is still -/

/-- A poll with the depth for the work at hand keeps what is still, and leaves what it does not end still. -/
private def stilling (m : Setting) : Judgement where
  get depth s get t progress := s.work + get.size ≤ depth → ∀ first, get.Sits m first s → ∀ P, s.Still P →
    progress.All fun rest => ∃ Q, P ⊆ Q ∧ t.Still Q ∧ rest.Still Q t.now
  run depth s _ run t progress := s.work + run.size ≤ depth → ∀ first, run.Sits m first s → ∀ P, s.Still P →
    progress.All fun rest => ∃ Q, P ⊆ Q ∧ t.Still Q ∧ rest.Still Q t.now
  load depth s id t := s.work + 1 ≤ depth → s.Fits m → id < s.loads.length → t.outcome? id = none → ∀ P, s.Still P →
    ∃ Q, P ⊆ Q ∧ t.Still Q ∧ id ∈ Q

variable {m : Setting}

private theorem stillingGets : (stilling m).KeptByGets where
  cut s get hdepth := absurd hdepth (Nat.not_le_of_lt (Nat.lt_add_left s.work get.size_pos))
  unkeyed _ _ _ _ _ _ := trivial
  refused _ _ _ _ _ _ _ := trivial
  passed {τ depth s t request loader key name progress} _ _ hrest hdepth first h P hs :=
    hrest (deep_of_passed name _ hdepth) first (h.passed ..) P (hs.emit _)
  found _ _ _ _ _ _ _ _ := trivial
  started _ hreach hlook hrest hdepth first h P hs :=
    hrest (deep_of_started hlook hdepth _ _) first (h.started hreach hlook) P (hs.lookUp hlook)
  joined _ hreach hlook hrest hdepth first h P hs :=
    hrest (deep_of_joined hlook hdepth _ _) first (h.joined hreach hlook) P (hs.lookUp hlook)
  told _ _ _ _ _ _ _ := trivial
  waiting {τ depth id s cache key patience} hadvance houtcome hdue hdepth first h P hs := by
    obtain ⟨Q, hle, hstill, hid⟩ := hadvance (deep_of_awaiting hdepth) h.system h.lt houtcome P hs
    exact ⟨Q, hle, hstill, hid, fun p hp => Nat.lt_of_not_le (hdue p hp)⟩
  timedOut {τ depth id s t cache key p progress} hadvance houtcome _ hrest hdepth first h P hs := by
    obtain ⟨Q, hle, hstill, -⟩ := hadvance (deep_of_awaiting hdepth) h.system h.lt houtcome P hs
    have hcalling := h.timedOut (fits_advance h.system depth id) (length_loads_advance depth s id)
    have hafter := hrest (deep_of_timedOut hdepth) first (hcalling _) Q (hstill.emit _)
    refine hafter.imp fun rest => ?_
    rintro ⟨R, hsub, hrest⟩
    exact ⟨R, hle.trans hsub, hrest⟩
  loading {τ depth s t cache run rest} _ hrun hdepth first h P hs :=
    hrun (Nat.le_of_succ_le_succ hdepth) first h.loading P hs
  loaded _ _ _ _ _ _ _ := trivial

private theorem stillingRuns : (stilling m).KeptByRuns where
  cut s load run hdepth := absurd hdepth (Nat.not_le_of_lt (Nat.lt_add_left s.work run.size_pos))
  calling hrest hdepth first h P hs := hrest (Nat.le_of_succ_le_succ hdepth) first (h.calling _) P (hs.emit _)
  awake _ hrest hdepth first h P hs := hrest (Nat.le_of_succ_le_succ hdepth) first h.awake P hs
  asleep hdue _ _ _ P hs := ⟨P, subset_rfl, hs, Nat.lt_of_not_le hdue⟩
  nesting _ hget hdepth first h P hs := hget (Nat.le_of_succ_le_succ hdepth) first h.nested P hs
  nested _ _ _ _ _ _ _ := trivial
  done _ _ _ _ _ _ _ _ _ := trivial
  fail _ _ _ _ _ _ _ _ _ := trivial
  panic _ _ _ _ _ _ _ _ _ := trivial
  sleep hrest hdepth first h P hs := hrest (Nat.le_of_succ_le_succ hdepth) first (h.sleep _) P hs
  invalidate hdone hrest hdepth first h P hs := by
    have hdeep := deep_of_invalidate hdone hdepth
    have hsits := h.invalidate hdone
    obtain ⟨found, -, rfl⟩ := exists_of_map_eq_ok hdone
    exact hrest hdeep first hsits P (hs.invalidateIn found _)
  invalidateNone _ _ _ _ _ _ := trivial
  invalidateAll hdone hrest hdepth first h P hs := by
    have hdeep := deep_of_invalidateAll hdone hdepth
    have hsits := h.invalidateAll hdone
    obtain ⟨found, -, rfl⟩ := exists_of_map_eq_ok hdone
    exact hrest hdeep first hsits P (hs.invalidateAllIn found)
  invalidateAllNone _ _ _ _ _ _ := trivial
  get hrest hdepth first h P hs := hrest (Nat.le_of_succ_le_succ hdepth) first h.nest P hs

private theorem stillingLoads : (stilling m).KeptByLoads where
  cut s id hdepth := absurd hdepth (Nat.not_succ_le_zero _)
  still {depth id s} hstill _ _ hlt houtcome P hs := by
    obtain ⟨⟨cache, key, number, state⟩, hload⟩ : ∃ load, s.load? id = some load := ⟨_, List.getElem?_eq_getElem hlt⟩
    refine ⟨insert id P, Set.subset_insert id P, hs.insert hload ?_, Set.mem_insert id P⟩
    cases state with
    | idle τ run => exact absurd hload (hstill cache key number τ run)
    | busy => trivial
    | ended outcome =>
      rw [outcome?_eq_some.2 ⟨_, hload, rfl⟩] at houtcome
      cases houtcome
  paused {τ depth id number s t cache key run rest} hload _ hrun hdepth h _ _ P hs := by
    have hopened : (s.setLoad id .busy).Still (insert id P) :=
      Still.insert (hs.busy id) (load?_setLoad_self hload .busy) trivial
    obtain ⟨Q, hle, hstill, hrest⟩ :=
      hrun (deep_of_opened hload hdepth) (id + 1) (.opened h hload) (insert id P) hopened
    refine ⟨Q, (Set.subset_insert id P).trans hle, hstill.idle hrest id, hle (Set.mem_insert id P)⟩
  landed {τ depth id number s t cache key run outcome} hload hpoll _ _ _ _ houtcome P _ := by
    have hended := load?_land_self (busy_of_opened hload hpoll) (loadResult outcome)
    rw [outcome?_eq_some.2 ⟨_, hended, rfl⟩] at houtcome
    cases houtcome

/-- A poll that does not end its get leaves it still, beside all that was still before. -/
theorem still_of_pending (hs : s.Still P) {get rest : Get τ} {first : Nat} (h : get.Sits m first s)
    (hpoll : s.poll get = (t, .pending rest)) : ∃ Q, P ⊆ Q ∧ t.Still Q ∧ rest.Still Q t.now := by
  have hkept : (stilling m).Kept := ⟨stillingGets, stillingRuns, stillingLoads⟩
  have hafter := (hkept.polls _).get s get (Nat.le_refl _) first h P hs
  unfold System.poll at hpoll
  rw [hpoll] at hafter
  exact hafter

theorem now_poll {get : Get τ} {progress : Progress (Get τ) CacheFault (Option (Typed τ))}
    (hpoll : s.poll get = (t, progress)) : t.now = s.now := by
  have hnow := (carried_now s.now).get rfl (s.work + get.size) get
  unfold System.poll at hpoll
  rwa [hpoll] at hnow

/-! ### Passes -/

theorem length_pollEach_le (s : System) (tasks : List Task) : (s.pollEach tasks).2.length ≤ tasks.length := by
  induction tasks generalizing s with
  | nil => exact Nat.le_refl _
  | cons task tasks ih =>
    have hrest := ih (s.pollTask task).1
    simp only [pollEach]
    split
    next t next heq =>
      rw [heq] at hrest
      exact Nat.succ_le_succ hrest
    next t heq =>
      rw [heq] at hrest
      exact Nat.le_succ_of_le hrest

/-- A pass that ends no task leaves all its tasks still. -/
theorem still_pollEach (hfits : s.Fits m) (hs : s.Still P) {tasks : List Task}
    (htasks : ∀ task ∈ tasks, task.get.Fits m 0 s.loads.length)
    (hlength : (s.pollEach tasks).2.length = tasks.length) :
    ∃ Q, P ⊆ Q ∧ (s.pollEach tasks).1.now = s.now ∧ (s.pollEach tasks).1.Still Q ∧
      ∀ task ∈ (s.pollEach tasks).2, task.get.Still Q s.now := by
  induction tasks generalizing s P with
  | nil => exact ⟨P, subset_rfl, rfl, hs, nofun⟩
  | cons task tasks ih =>
    have hsits : task.get.Sits m 0 s := ⟨hfits, Nat.zero_le _, htasks task (List.mem_cons_self ..)⟩
    cases hpoll : s.poll task.get with
    | mk t progress =>
      cases progress with
      | ended outcome =>
        -- one task has ended, and no other has been added
        have hle := length_pollEach_le (t.emit (.answered task.name (outcome.mapValue fun v => v.map (·.val)))) tasks
        simp only [pollEach, pollTask, hpoll, List.length_cons] at hlength
        omega
      | pending rest =>
        obtain ⟨Q, hPQ, hstill, hrest⟩ := still_of_pending hs hsits hpoll
        have hnow := now_poll hpoll
        have hmore := length_loads_moves (moves_of_poll hpoll)
        have hothers : ∀ other ∈ tasks, other.get.Fits m 0 t.loads.length := fun other hother =>
          (htasks other (List.mem_cons_of_mem task hother)).mono hmore
        simp only [pollEach, pollTask, hpoll, List.length_cons, Nat.add_right_cancel_iff] at hlength ⊢
        obtain ⟨R, hQR, hlater, hstill, htasks⟩ := ih (fits_poll hsits hpoll).1 hstill hothers hlength
        rw [hnow] at hlater htasks hrest
        refine ⟨R, hPQ.trans hQR, hlater, hstill, fun other hother => ?_⟩
        rcases List.mem_cons.1 hother with rfl | hother
        · exact hrest.mono hQR
        · exact htasks other hother

end System

/-! ### Sessions -/

namespace Session

variable {m : Setting} {x y : Session}

/-- No task gets any further when it is polled. -/
def Settled (x : Session) : Prop := ∀ task ∈ x.tasks, x.system.poll task.get = (x.system, .pending task.get)

/-- All that the tasks wait for is still. -/
def Resting (x : Session) : Prop := ∃ P, x.system.Still P ∧ ∀ task ∈ x.tasks, task.get.Still P x.system.now

theorem Resting.settled (h : x.Resting) : x.Settled := by
  obtain ⟨P, hstill, htasks⟩ := h
  exact fun task htask => System.poll_still hstill (htasks task htask) _

theorem Resting.of_loads (h : x.Resting) (htasks : y.tasks = x.tasks) (hnow : y.system.now = x.system.now)
    (hloads : y.system.loads = x.system.loads) : y.Resting := by
  obtain ⟨P, hstill, hall⟩ := h
  refine ⟨P, hstill.of_loads hnow hloads, fun task htask => ?_⟩
  rw [htasks] at htask
  rw [hnow]
  exact hall task htask

theorem Resting.invalidateIn (h : x.Resting) (cache : Cache) (key : Key) :
    (x.mapSystem (·.invalidateIn cache key)).Resting := by
  refine h.of_loads rfl ?_ (System.loads_invalidateIn x.system cache key)
  cases cache <;> rfl

theorem Resting.invalidateAllIn (h : x.Resting) (cache : Cache) :
    (x.mapSystem (·.invalidateAllIn cache)).Resting := by
  refine h.of_loads rfl ?_ (System.loads_invalidateAllIn x.system cache)
  cases cache <;> rfl

/-- Polls leave a settled session as it is, whichever tasks are polled and in whichever order. -/
theorem Settled.play (h : x.Settled) (places : List Nat) : x.play (places.map .poll) = x := by
  have hturn : ∀ place, x.turn (.poll place) = x := by
    intro place
    cases hplace : x.tasks[place]? with
    | none => exact turn_poll_of_none x hplace
    | some task =>
      rw [turn_poll x hplace (h task (List.mem_of_getElem? hplace))]
      have hset : x.tasks.set place task = x.tasks := by
        obtain ⟨hlt, rfl⟩ := List.getElem?_eq_some_iff.1 hplace
        exact List.set_getElem_self hlt
      exact congrArg (Session.mk x.system · x.started) hset
  induction places with
  | nil => rfl
  | cons place places ih => rwa [List.map_cons, Session.play, List.foldl_cons, hturn]

/-- **After a pass that ends no task no task gets any further**: the session is settled. -/
theorem resting_pass (h : x.Orderly m) (hlength : x.pass.tasks.length = x.tasks.length) : x.pass.Resting := by
  have hnone : x.system.Still ∅ := nofun
  obtain ⟨Q, -, hnow, hstill, htasks⟩ :=
    System.still_pollEach h.fits hnone (fun task htask => (h.tasks task htask).1) hlength
  refine ⟨Q, hstill, fun task htask => ?_⟩
  have hpassed := htasks task htask
  rwa [← hnow] at hpassed

theorem Turn.asks_of_not_starts {allowed : Request → Prop} (t : Turn) (h : ¬ t.Starts) : t.Asks allowed := by
  cases t with
  | start task type request loader => exact absurd trivial h
  | _ => trivial

theorem Orderly.plays (h : x.Orderly m) (plays : PlaysBy (·.Asks m.allowed) x y) : y.Orderly m := by
  obtain ⟨turns, asks, rfl⟩ := plays
  exact h.play asks

theorem resting_settleWithin (h : x.Orderly m) {passes : Nat} (hpasses : x.tasks.length < passes) :
    (x.settleWithin passes).Resting := by
  induction passes generalizing x with
  | zero => omega
  | succ passes ih =>
    have hle : x.pass.tasks.length ≤ x.tasks.length := System.length_pollEach_le x.system x.tasks
    simp only [settleWithin]
    split
    next hlt => exact ih (h.plays (playsBy_pass Turn.asks_of_not_starts x)) (by omega)
    next hlt => exact resting_pass h (by omega)

theorem resting_settle (h : x.Orderly m) : x.settle.Resting := resting_settleWithin h (Nat.lt_succ_self _)

theorem resting_tick (h : x.Orderly m) : x.tick.Resting :=
  resting_settle (h.turn (t := .elapse 1) trivial)

theorem resting_advance (h : x.Orderly m) (hrest : x.Resting) (ms : Nat) : (x.advance ms).Resting := by
  induction ms generalizing x with
  | zero => exact hrest
  | succ ms ih =>
    simp only [advance]
    split
    next hempty =>
      have hnone : x.tasks = [] := List.isEmpty_iff.1 hempty
      refine ⟨∅, fun id hid => hid.elim, fun task htask => ?_⟩
      have hmem : task ∈ x.tasks := htask
      rw [hnone] at hmem
      cases hmem
    next => exact ih (h.plays (playsBy_tick Turn.asks_of_not_starts x)) (resting_tick h)

theorem resting_await (h : x.Orderly m) (hrest : x.Resting) (id limit : Nat) : (x.await id limit).Resting := by
  induction limit generalizing x with
  | zero => exact hrest
  | succ limit ih =>
    simp only [await]
    split
    · exact ih (h.plays (playsBy_tick Turn.asks_of_not_starts x)) (resting_tick h)
    · exact hrest

theorem resting_spawn (h : x.Orderly m) {task : String} {request : Request} {loader : Loader τ}
    (asks : (Turn.start task τ request loader).Asks m.allowed) : (x.spawn task request loader).Resting :=
  resting_settle (h.turn asks)

theorem resting_perform (h : x.Orderly m) (hrest : x.Resting) {step : Step}
    (starts : step.StartsOnly (·.Asks m.allowed)) : (x.perform step).1.Resting := by
  cases step with
  | start task type request loader => exact resting_spawn h starts
  | get task type request loader limit =>
    have hspawn : PlaysBy (·.Asks m.allowed) x (x.spawn task request loader) :=
      playsBy_spawn Turn.asks_of_not_starts x starts
    exact resting_await (h.plays hspawn) (resting_spawn h starts) _ _
  | advance ms => exact resting_advance h hrest ms
  | abort task =>
    refine resting_settle (m := m) ⟨h.fits, h.calm, fun other hother => ?_⟩
    exact h.tasks other (List.mem_of_mem_eraseP hother)
  | invalidate name key =>
    cases key with
    | error fault => exact hrest
    | ok key =>
      simp only [perform, replaceSystem]
      split
      next t hdone =>
        obtain ⟨cache, -, rfl⟩ := exists_of_map_eq_ok hdone
        exact hrest.invalidateIn cache key
      next => exact hrest
  | invalidateAll name =>
    simp only [perform, replaceSystem]
    split
    next t hdone =>
      obtain ⟨cache, -, rfl⟩ := exists_of_map_eq_ok hdone
      exact hrest.invalidateAllIn cache
    next => exact hrest
  | invalidateIn name key =>
    cases key with
    | error fault => exact hrest
    | ok key =>
      simp only [perform]
      split
      · exact hrest.invalidateIn _ key
      · exact hrest
  | invalidateAllIn name =>
    simp only [perform]
    split
    · exact hrest.invalidateAllIn _
    · exact hrest
  | contains name key => cases key <;> exact hrest
  | count name => exact hrest.of_loads rfl rfl rfl
  | inspect name => exact hrest.of_loads rfl rfl rfl

/-- The steps of a session leave it settled. -/
theorem resting_run (h : x.Orderly m) (hrest : x.Resting) {steps : List Step}
    (starts : ∀ step ∈ steps, step.StartsOnly (·.Asks m.allowed)) : (x.run steps).1.Resting := by
  induction steps generalizing x with
  | nil => exact hrest
  | cons step steps ih =>
    have hstep := starts step (List.mem_cons_self ..)
    have hperform := playsBy_perform Turn.asks_of_not_starts x hstep
    exact ih (h.plays hperform) (resting_perform h hrest hstep) fun other hother =>
      starts other (List.mem_cons_of_mem step hother)

end Session

end SingleFlight
