import SingleFlight.Proofs.Depth
import SingleFlight.Proofs.Reached

/-!
# Nobody reads the history

What happens depends on the clock, the caches and the loads, and never on the events so far. Over another past

* a poll comes to the same and adds the same events (`System.alike_get`);
* the same moves are there (`System.alike_move`);
* so a get goes the same way to the same answer (`Get.goesAlike_withPast`).
-/

namespace SingleFlight

namespace System

/-- The state over another past. -/
def withPast (s : System) (past : History) : System := { s with history := past }

/-- The function leads from `s` to `t` with that result, and over another past to the same with the same new events. -/
def Alike {α : Type} (f : System → System × α) (s t : System) (result : α) : Prop :=
  ∃ new, t.history = new ++ s.history ∧ ∀ past, f (s.withPast past) = (t.withPast (new ++ past), result)

section
variable {α β : Type} {f : System → System × α} {g : System → System × β} {s t u : System} {a : α} {b : β}

/-- One after the other. -/
theorem Alike.andThen {k : System → System × β} (hf : Alike f s t a) (hg : Alike g t u b)
    (hk : ∀ past past', f (s.withPast past) = (t.withPast past', a) → k (s.withPast past) = g (t.withPast past')) :
    Alike k s u b := by
  obtain ⟨new, hnew, hsame⟩ := hf
  obtain ⟨more, hmore, hsame'⟩ := hg
  refine ⟨more ++ new, by rw [hmore, hnew, List.append_assoc], fun past => ?_⟩
  rw [hk past _ (hsame past), hsame', List.append_assoc]

/-- The same with another result. -/
theorem Alike.map {k : System → System × β} (hf : Alike f s t a)
    (hk : ∀ past past', f (s.withPast past) = (t.withPast past', a) → k (s.withPast past) = (t.withPast past', b)) :
    Alike k s t b := by
  obtain ⟨new, hnew, hsame⟩ := hf
  exact ⟨new, hnew, fun past => hk past _ (hsame past)⟩

/-- What leaves the history as it is. -/
theorem alike_of_withPast (h : t.history = s.history) (hf : ∀ past, f (s.withPast past) = (t.withPast past, a)) :
    Alike f s t a :=
  ⟨[], h, hf⟩

end

/-! ### Elementary steps -/

section
variable (s : System)

theorem alike_emit (event : Event) : Alike (fun x => (x.emit event, ())) s (s.emit event) () :=
  ⟨[⟨s.now, event⟩], rfl, fun _ => rfl⟩

theorem alike_setLoad (id : Nat) (state : LoadState) :
    Alike (fun x => (x.setLoad id state, ())) s (s.setLoad id state) () := alike_of_withPast rfl fun _ => rfl

theorem alike_lookUp (store : LocalStore) (call : Call) (loader : Loader τ) :
    Alike (fun x => x.lookUp store call loader) s (s.lookUp store call loader).1 (s.lookUp store call loader).2 := by
  refine ⟨[⟨s.now, .lookedUp store.name call.key (s.lookUp store call loader).2⟩], history_lookUp .., fun past => ?_⟩
  have hnow : (s.withPast past).now = s.now := rfl
  have hloads : (s.withPast past).loads = s.loads := rfl
  simp only [System.lookUp, hnow, hloads]
  split
  · rfl
  · split
    · rfl
    · rfl

theorem alike_land (id : Nat) (cache : String) (key : Key) (number : Nat) (outcome : LoadResult) :
    Alike (fun x => (x.land id cache key number outcome, ())) s (s.land id cache key number outcome) () := by
  cases hin : s.inFlight cache key number with
  | true =>
    refine ⟨[⟨s.now, .landed id cache key outcome true⟩], by rw [land_of_kept hin]; rfl, fun past => ?_⟩
    have hsame : (s.withPast past).inFlight cache key number = true := hin
    simp only [land_of_kept hin, land_of_kept hsame]
    rfl
  | false =>
    refine ⟨[⟨s.now, .landed id cache key outcome false⟩], by rw [land_of_detached hin]; rfl, fun past => ?_⟩
    have hsame : (s.withPast past).inFlight cache key number = false := hin
    simp only [land_of_detached hin, land_of_detached hsame]
    rfl

theorem alike_invalidateIn (cache : Cache) (key : Key) :
    Alike (fun x => (x.invalidateIn cache key, ())) s (s.invalidateIn cache key) () := by
  match cache with
  | .local store => exact ⟨[_], rfl, fun _ => rfl⟩
  | .passThrough _ => exact alike_of_withPast rfl fun _ => rfl

theorem alike_invalidateAllIn (cache : Cache) :
    Alike (fun x => (x.invalidateAllIn cache, ())) s (s.invalidateAllIn cache) () := by
  match cache with
  | .local store => exact ⟨[_], rfl, fun _ => rfl⟩
  | .passThrough _ => exact alike_of_withPast rfl fun _ => rfl

theorem reach_withPast (past : History) (request : Request) : (s.withPast past).reach request = s.reach request := rfl

theorem load?_withPast (past : History) (id : Nat) : (s.withPast past).load? id = s.load? id := rfl

theorem outcome?_withPast (past : History) (id : Nat) : (s.withPast past).outcome? id = s.outcome? id := rfl

theorem now_withPast (past : History) : (s.withPast past).now = s.now := rfl

end

/-- An invalidation that succeeds does so over another past. -/
theorem alike_of_invalidate {cache : String} {key : Key} {s t : System} (h : s.invalidate cache key = .ok t) :
    ∃ reached : Cache, Alike (fun x => (x.invalidateIn reached key, ())) s t () ∧
      ∀ past, (s.withPast past).invalidate cache key = .ok ((s.withPast past).invalidateIn reached key) := by
  obtain ⟨reached, hreached, rfl⟩ := exists_of_map_eq_ok h
  refine ⟨reached, alike_invalidateIn s reached key, fun past => ?_⟩
  show (fun c => (s.withPast past).invalidateIn c key) <$> s.registry.require cache = _
  rw [hreached]
  rfl

theorem alike_of_invalidateAll {cache : String} {s t : System} (h : s.invalidateAll cache = .ok t) :
    ∃ reached : Cache, Alike (fun x => (x.invalidateAllIn reached, ())) s t () ∧
      ∀ past, (s.withPast past).invalidateAll cache = .ok ((s.withPast past).invalidateAllIn reached) := by
  obtain ⟨reached, hreached, rfl⟩ := exists_of_map_eq_ok h
  refine ⟨reached, alike_invalidateAllIn s reached, fun past => ?_⟩
  show (s.withPast past).invalidateAllIn <$> s.registry.require cache = _
  rw [hreached]
  rfl

/-- What fails for want of the cache fails so whatever was to be done with it. -/
theorem map_require_eq_error {α β : Type} {cache : String} {s : System} {fault : CacheFault} {f : Cache → α}
    (h : f <$> s.registry.require cache = .error fault) (g : Cache → β) :
    g <$> s.registry.require cache = .error fault := by
  rw [eq_error_of_map_eq_error h]
  rfl

/-! ### Polls -/

private def unread : Judgement where
  get depth s get t progress := Alike (Get.poll depth · get) s t progress
  run depth s load run t progress := Alike (Run.poll depth · load run) s t progress
  load depth s id t := Alike (fun x => (System.advance depth x id, ())) s t ()

private theorem advance_withPast {depth id : Nat} {s t : System} (h : unread.load depth s id t) :
    ∃ new, t.history = new ++ s.history ∧
      ∀ past, System.advance depth (s.withPast past) id = t.withPast (new ++ past) := by
  obtain ⟨new, hnew, hsame⟩ := h
  exact ⟨new, hnew, fun past => (Prod.mk.inj (hsame past)).1⟩

private theorem unread_gets : unread.KeptByGets where
  cut s get := ⟨[], rfl, fun _ => rfl⟩
  unkeyed hkey := ⟨[], rfl, fun past => by simp only [Get.poll, hkey, List.nil_append]⟩
  refused hkey hreach := ⟨[], rfl, fun past => by simp only [Get.poll, hkey, reach_withPast, hreach, List.nil_append]⟩
  passed {τ depth s t request loader key name progress} hkey hreach h := by
    have hrest : Alike (Get.poll depth · (.loading name (.calling ⟨request.label, name, key⟩ loader))) _ t progress := h
    show Alike (Get.poll (depth + 1) · (.asking request loader)) s t progress
    refine (alike_emit s (.passedThrough name key)).andThen hrest fun past past' hemit => ?_
    simp only [Get.poll, hkey, reach_withPast, hreach, (Prod.mk.inj hemit).1]
  found {τ depth s t request loader key store value} hkey hreach hlook := by
    have halike := alike_lookUp s store ⟨request.label, store.name, key⟩ loader
    rw [hlook] at halike
    show Alike (Get.poll (depth + 1) · (.asking request loader)) s t (.ended (typed τ store.name value))
    refine halike.map fun past past' hsame => ?_
    simp only [Get.poll, hkey, reach_withPast, hreach, hsame]
  started {τ depth id s t u request loader key store progress} hkey hreach hlook h := by
    have halike := alike_lookUp s store ⟨request.label, store.name, key⟩ loader
    rw [hlook] at halike
    have hrest : Alike (Get.poll depth · (.awaiting store.name key id none)) t u progress := h
    show Alike (Get.poll (depth + 1) · (.asking request loader)) s u progress
    refine halike.andThen hrest fun past past' hsame => ?_
    simp only [Get.poll, hkey, reach_withPast, hreach, hsame]
  joined {τ depth id s t u request loader key store progress} hkey hreach hlook h := by
    have halike := alike_lookUp s store ⟨request.label, store.name, key⟩ loader
    rw [hlook] at halike
    have hrest : Alike (Get.poll depth · (.awaiting store.name key id
      (request.patienceAt t.now ⟨request.label, store.name, key⟩ loader))) t u progress := h
    show Alike (Get.poll (depth + 1) · (.asking request loader)) s u progress
    refine halike.andThen hrest fun past past' hsame => ?_
    simp only [Get.poll, hkey, reach_withPast, hreach, hsame, now_withPast, Request.patienceAt]
  told {τ depth id s cache key patience outcome} h houtcome := by
    obtain ⟨new, hnew, hsame⟩ := advance_withPast h
    refine ⟨new, hnew, fun past => ?_⟩
    simp only [Get.poll, hsame, outcome?_withPast, houtcome]
  waiting {τ depth id s cache key patience} h houtcome hdue := by
    obtain ⟨new, hnew, hsame⟩ := advance_withPast h
    refine ⟨new, hnew, fun past => ?_⟩
    cases patience with
    | none => simp only [Get.poll, hsame, outcome?_withPast, houtcome]
    | some p => simp only [Get.poll, hsame, outcome?_withPast, houtcome, now_withPast, if_neg (hdue p rfl)]
  timedOut {τ depth id s t cache key p progress} h houtcome hdue hrest := by
    have hadvance : Alike (fun x => (System.advance depth x id, ())) s _ () := h
    have hcall : Alike (Get.poll depth · (.loading cache (.calling p.call p.loader))) _ t progress := hrest
    have hemit := (alike_emit _ (.lockTimedOut cache key id p.lockTimeout)).andThen
      (k := fun x => Get.poll depth (x.emit (.lockTimedOut cache key id p.lockTimeout))
        (.loading cache (.calling p.call p.loader))) hcall fun past past' hemit => by rw [(Prod.mk.inj hemit).1]
    show Alike (Get.poll (depth + 1) · (.awaiting cache key id (some p))) s t progress
    refine hadvance.andThen hemit fun past past' hsame => ?_
    simp only [Get.poll, (Prod.mk.inj hsame).1, outcome?_withPast, houtcome, now_withPast, if_pos hdue]
  loading {τ depth s t cache run rest} hpoll h := by
    have hrun : Alike (Run.poll depth · none run) s t (.pending rest) := h
    show Alike (Get.poll (depth + 1) · (.loading cache run)) s t (.pending (.loading cache rest))
    exact hrun.map fun past past' hsame => by simp only [Get.poll, hsame]
  loaded {τ depth s t cache run outcome} hpoll h := by
    have hrun : Alike (Run.poll depth · none run) s t (.ended outcome) := h
    show Alike (Get.poll (depth + 1) · (.loading cache run)) s t (.ended (outcome.mapError (.computation cache)))
    exact hrun.map fun past past' hsame => by simp only [Get.poll, hsame]

private theorem unread_runs : unread.KeptByRuns where
  cut s load run := ⟨[], rfl, fun _ => rfl⟩
  calling {τ depth s t load call loader progress} h := by
    have hrest : Alike (Run.poll depth · load (.running loader)) _ t progress := h
    show Alike (Run.poll (depth + 1) · load (.calling call loader)) s t progress
    refine (alike_emit s (.called call load)).andThen hrest fun past past' hemit => ?_
    simp only [Run.poll, (Prod.mk.inj hemit).1]
  awake {τ depth due s t load loader progress} hdue h := by
    obtain ⟨new, hnew, hsame⟩ : Alike (Run.poll depth · load (.running loader)) s t progress := h
    refine ⟨new, hnew, fun past => ?_⟩
    simp only [Run.poll, now_withPast, if_pos hdue, hsame]
  asleep {τ depth due s load loader} hdue :=
    ⟨[], rfl, fun past => by
      simp only [Run.poll, now_withPast, List.nil_append]
      exact if_neg hdue⟩
  nesting {τ depth s t load get rest} hpoll h := by
    have hget : Alike (Get.poll depth · get) s t (.pending rest) := h
    show Alike (Run.poll (depth + 1) · load (.nested get)) s t (.pending (.nested rest))
    exact hget.map fun past past' hsame => by simp only [Run.poll, hsame]
  nested {τ depth s t load get outcome} hpoll h := by
    have hget : Alike (Get.poll depth · get) s t (.ended outcome) := h
    show Alike (Run.poll (depth + 1) · load (.nested get)) s t (.ended (outcome.mapError .error))
    exact hget.map fun past past' hsame => by simp only [Run.poll, hsame]
  done depth s load value := ⟨[], rfl, fun _ => rfl⟩
  fail depth s load failure := ⟨[], rfl, fun _ => rfl⟩
  panic depth s load payload := ⟨[], rfl, fun _ => rfl⟩
  sleep h := h
  invalidate {τ depth s t u load cache key next progress} hdone h := by
    obtain ⟨reached, halike, hsame⟩ := alike_of_invalidate hdone
    have hrest : Alike (Run.poll depth · load (.running next)) t u progress := h
    show Alike (Run.poll (depth + 1) · load (.running (.invalidate cache key next))) s u progress
    refine halike.andThen hrest fun past past' hin => ?_
    simp only [Run.poll, hsame, (Prod.mk.inj hin).1]
  invalidateNone {τ depth s load cache key next fault} hfault := by
    refine ⟨[], rfl, fun past => ?_⟩
    have hsame : (s.withPast past).invalidate cache key = .error fault := map_require_eq_error hfault _
    simp only [Run.poll, hsame, List.nil_append]
  invalidateAll {τ depth s t u load cache next progress} hdone h := by
    obtain ⟨reached, halike, hsame⟩ := alike_of_invalidateAll hdone
    have hrest : Alike (Run.poll depth · load (.running next)) t u progress := h
    show Alike (Run.poll (depth + 1) · load (.running (.invalidateAll cache next))) s u progress
    refine halike.andThen hrest fun past past' hin => ?_
    simp only [Run.poll, hsame, (Prod.mk.inj hin).1]
  invalidateAllNone {τ depth s load cache next fault} hfault := by
    refine ⟨[], rfl, fun past => ?_⟩
    have hsame : (s.withPast past).invalidateAll cache = .error fault := map_require_eq_error hfault _
    simp only [Run.poll, hsame, List.nil_append]
  get h := h

private theorem unread_loads : unread.KeptByLoads where
  cut s id := ⟨[], rfl, fun _ => rfl⟩
  still {depth id s} hstill := by
    refine ⟨[], rfl, fun past => ?_⟩
    simp only [System.advance, load?_withPast]
    rfl
  paused {τ depth id number s t cache key run rest} hload hpoll h := by
    obtain ⟨new, hnew, hsame⟩ : Alike (Run.poll depth · (some id) run) (s.setLoad id .busy) t (.pending rest) := h
    refine ⟨new, hnew, fun past => ?_⟩
    have hbusy : Run.poll depth ((s.withPast past).setLoad id .busy) (some id) run =
      (t.withPast (new ++ past), .pending rest) := hsame past
    simp only [System.advance, load?_withPast, hload, hbusy]
    rfl
  landed {τ depth id number s t cache key run outcome} hload hpoll h := by
    have hrun : Alike (fun x => Run.poll depth (x.setLoad id .busy) (some id) run) s t (.ended outcome) := h
    show Alike (fun x => (System.advance (depth + 1) x id, ())) s (t.land id cache key number (loadResult outcome)) ()
    refine hrun.andThen (alike_land t id cache key number (loadResult outcome)) fun past past' hsame => ?_
    simp only [System.advance, load?_withPast, hload, hsame]

/-- Over another past a poll comes to the same and adds the same events. -/
theorem alike_get (depth : Nat) (s : System) (get : Get τ) :
    Alike (Get.poll depth · get) s (Get.poll depth s get).1 (Get.poll depth s get).2 :=
  (Judgement.Kept.polls ⟨unread_gets, unread_runs, unread_loads⟩ depth).get s get

/-- Over another past the same move is there, and it adds the same events. -/
theorem alike_move {s t : System} (move : Move s t) :
    ∃ new, t.history = new ++ s.history ∧ ∀ past, Move (s.withPast past) (t.withPast (new ++ past)) := by
  -- a step that comes to the same over another past is a move there, if the step is one
  have hstep : ∀ (f : System → System) (t : System), Alike (fun x => (f x, ())) s t () →
      (∀ past, Move (s.withPast past) (f (s.withPast past))) →
      ∃ new, t.history = new ++ s.history ∧ ∀ past, Move (s.withPast past) (t.withPast (new ++ past)) := by
    rintro f t ⟨new, hnew, hsame⟩ hmove
    refine ⟨new, hnew, fun past => ?_⟩
    have hover := (Prod.mk.inj (hsame past)).1
    exact hover ▸ hmove past
  cases move with
  | elapse s ms => exact ⟨[], rfl, fun past => .elapse (s.withPast past) ms⟩
  | @note _ event aside => exact hstep (·.emit event) _ (alike_emit s event) fun past => .note aside
  | @lookUp τ _ name store hfind label key loader =>
    have hlook := alike_lookUp s store ⟨label, store.name, key⟩ loader
    refine hstep (fun x => (x.lookUp store ⟨label, store.name, key⟩ loader).1) _ ?_
      fun past => .lookUp (s := s.withPast past) hfind label key loader
    exact hlook.map fun past past' hsame => by rw [hsame]
  | @call _ id number cache key τ call loader hload =>
    exact hstep (fun x => (x.setLoad id .busy).emit (.called call (some id))) _ ⟨[_], rfl, fun past => rfl⟩
      fun past => .call (s := s.withPast past) hload
  | @resume _ id number cache key τ run hload called =>
    exact hstep (·.setLoad id .busy) _ (alike_setLoad s id .busy)
      fun past => .resume (s := s.withPast past) hload called
  | @pause _ id number cache key τ run hload called =>
    exact hstep (·.setLoad id (.idle τ run)) _ (alike_setLoad s id _)
      fun past => .pause (s := s.withPast past) hload called
  | @land _ id number cache key hload outcome =>
    exact hstep (·.land id cache key number outcome) _ (alike_land s id cache key number outcome)
      fun past => .land (s := s.withPast past) hload outcome
  | @invalidate _ name cache hfind key =>
    exact hstep (·.invalidateIn cache key) _ (alike_invalidateIn s cache key)
      fun past => .invalidate (s := s.withPast past) hfind key
  | @invalidateAll _ name cache hfind =>
    exact hstep (·.invalidateAllIn cache) _ (alike_invalidateAllIn s cache)
      fun past => .invalidateAll (s := s.withPast past) hfind
  | tend s name => exact ⟨[], rfl, fun past => .tend (s.withPast past) name⟩

theorem alike_moves {s t : System} (moves : Moves s t) :
    ∃ new, t.history = new ++ s.history ∧ ∀ past, Moves (s.withPast past) (t.withPast (new ++ past)) := by
  induction moves with
  | refl => exact ⟨[], rfl, fun past => .refl⟩
  | @tail t u _ last ih =>
    obtain ⟨new, hnew, hmoves⟩ := ih
    obtain ⟨more, hmore, hmove⟩ := alike_move last
    refine ⟨more ++ new, by rw [hmore, hnew, List.append_assoc], fun past => ?_⟩
    rw [List.append_assoc]
    exact (hmoves past).tail (hmove (new ++ past))

end System

namespace Get

/-- Over another past a get goes the same way, and the same events happen. -/
theorem Attended.withPast {s t : System} {get rest : Get τ} (attended : Attended s get t rest) :
    ∃ new, t.history = new ++ s.history ∧ ∀ past, Attended (s.withPast past) get (t.withPast (new ++ past)) rest := by
  induction attended with
  | refl => exact ⟨[], rfl, fun past => .refl⟩
  | @moves t u rest _ moves ih =>
    obtain ⟨new, hnew, hattended⟩ := ih
    obtain ⟨more, hmore, hmoves⟩ := System.alike_moves moves
    refine ⟨more ++ new, by rw [hmore, hnew, List.append_assoc], fun past => ?_⟩
    rw [List.append_assoc]
    exact (hattended past).moves (hmoves (new ++ past))
  | @poll t u rest next _ depth deep hpoll ih =>
    obtain ⟨new, hnew, hattended⟩ := ih
    obtain ⟨more, hmore, hsame⟩ := System.alike_get depth t rest
    rw [hpoll] at hmore hsame
    refine ⟨more ++ new, by rw [hmore, hnew, List.append_assoc], fun past => ?_⟩
    rw [List.append_assoc]
    exact (hattended past).poll deep (hsame (new ++ past))

/-- The get goes the same way from both states: however it goes from the first, it goes so from the second, the same
events happen, and every poll on the way comes to the same. -/
def GoesAlike (get : Get τ) (s s' : System) : Prop :=
  ∀ {t : System} {rest : Get τ}, Attended s get t rest → ∃ new, t.history = new ++ s.history ∧
    Attended s' get (t.withPast (new ++ s'.history)) rest ∧
    ∀ depth, ∃ more, (Get.poll depth t rest).1.history = more ++ t.history ∧
      Get.poll depth (t.withPast (new ++ s'.history)) rest =
        ((Get.poll depth t rest).1.withPast (more ++ (new ++ s'.history)), (Get.poll depth t rest).2)

/-- **The history is never read.** States that differ in their history only are alike to every get. -/
theorem goesAlike_withPast (get : Get τ) (s : System) (past : History) : get.GoesAlike s (s.withPast past) := by
  intro t rest attended
  obtain ⟨new, hnew, hattended⟩ := attended.withPast
  refine ⟨new, hnew, hattended past, fun depth => ?_⟩
  obtain ⟨more, hmore, hsame⟩ := System.alike_get depth t rest
  exact ⟨more, hmore, hsame (new ++ past)⟩

end Get

end SingleFlight
