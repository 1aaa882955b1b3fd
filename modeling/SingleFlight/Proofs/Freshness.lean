import SingleFlight.Proofs.Answers

/-!
# Freshness after an invalidation

A get that looks its key up after an invalidation is answered from nothing that was started before it.

* a lookup after an invalidation finds only loads, and values of loads, that were started after it
  (`History.fresh_of_joined`, `History.fresh_of_stored`);
* a get has its answer from its lookup, or else from its own loader, which it calls itself, so the load that the answer
  comes from is fresh, if it comes from one (`Get.fresh_of_answered`);
* that is so for every get that has not looked its key up yet, and every task of a schedule that begins there is such a
  get, or was live before (`Get.answered_after_invalidation`).
-/

namespace SingleFlight

/-- The history goes on from `base`, and such an event has happened since. -/
def History.Since (base history : History) (p : Event → Prop) : Prop :=
  ∃ recent, history = recent ++ base ∧ ∃ e ∈ recent, p e.event

/-- The load was started for the key since `base`, and not before. -/
def History.Fresh (base history : History) (cache : String) (key : Key) (load : Nat) : Prop :=
  Since base history (·.Starts cache key load) ∧ ∀ e ∈ base, ¬ e.event.Starts cache key load

namespace History

theorem Since.append {base history : History} {p : Event → Prop} (h : Since base history p) (new : History) :
    Since base (new ++ history) p := by
  obtain ⟨recent, rfl, e, he, hp⟩ := h
  exact ⟨new ++ recent, (List.append_assoc ..).symm, e, List.mem_append_right new he, hp⟩

theorem Fresh.append {base history : History} {cache : String} {key : Key} {load : Nat}
    (h : Fresh base history cache key load) (new : History) : Fresh base (new ++ history) cache key load :=
  ⟨h.1.append new, h.2⟩

/-- A load that was started since `base` was not started before. -/
theorem fresh_of_start {base recent : History} (lawful : Lawful (recent ++ base)) {cache : String} {key : Key}
    {load : Nat} (h : ∃ e ∈ recent, e.event.Starts cache key load) : Fresh base (recent ++ base) cache key load := by
  refine ⟨⟨recent, rfl, h⟩, fun old hold hstarts => ?_⟩
  obtain ⟨e, he, hstart⟩ := h
  obtain ⟨newer, older, rfl⟩ := List.append_of_mem he
  rw [List.append_assoc, List.cons_append] at lawful
  exact not_starts_before lawful.of_append hstart (List.mem_append_right older hold) hstarts

/-- A load that is joined after an invalidation was started after it. -/
theorem fresh_of_joined {past recent : History} {e : Stamped} {cache : String} {key : Key} {load : Nat}
    (lawful : Lawful (recent ++ e :: past)) (hinvalid : e.event.Invalidates cache key)
    (hflight : flight cache key (recent ++ e :: past) = some load) :
    Fresh (e :: past) (recent ++ e :: past) cache key load :=
  fresh_of_start lawful (start_of_flight hinvalid hflight)

/-- A value that is found after an invalidation was brought by a load that was started after it. -/
theorem fresh_of_stored {past recent : History} {e : Stamped} {cache : String} {key : Key} {load : Nat}
    {value : Stored Value} (lawful : Lawful (recent ++ e :: past)) (hinvalid : e.event.Invalidates cache key)
    (hstored : stored cache key (recent ++ e :: past) = some (load, value)) :
    Fresh (e :: past) (recent ++ e :: past) cache key load := by
  obtain ⟨since, d, mid, rfl, hdep, -⟩ := landing_of_stored hinvalid hstored
  have hlanded : Lawful (d :: (mid ++ e :: past)) := by
    rw [List.append_assoc, List.cons_append] at lawful
    exact lawful.of_append
  obtain ⟨s, hs, hstarts⟩ := start_of_landing hlanded hinvalid hdep
  exact fresh_of_start lawful ⟨s, List.mem_append_right since (List.mem_cons_of_mem d hs), hstarts⟩

end History

open History (Fresh)

namespace Get

section
variable {ok : System → Prop} {τ : ValueType} {s t u : System}

theorem Attended.course {get rest : Get τ} (attended : Attended s get t rest) : Course s get t rest := by
  induction attended with
  | refl => exact .refl
  | moves _ moves ih => exact ih.moves moves
  | poll _ _ hpoll ih => exact Course.poll ih hpoll

/-- The load that an answer comes from is fresh. -/
theorem fresh_of_answered {request : Request} {loader : Loader τ} {key : Key} {later past : History} {e : Stamped}
    {source : Option Nat} {answer : Outcome CacheFault (Option (Typed τ))} (sound : u.Sound)
    (hasked : s.history = later ++ e :: past) (hinvalid : e.event.Invalidates request.cache key)
    (h : Answered ok request loader key s u source answer) {load : Nat} (hload : load ∈ source) :
    Fresh (e :: past) u.history request.cache key load := by
  have lawful := sound.told.lawful
  -- the events before the lookup go on from the invalidation, too
  have hbefore : ∀ {found before}, History.Looks s.history request.cache key found before u.history →
      ∃ recent new, before = recent ++ e :: past ∧ History.Lawful before ∧ u.history = new ++ before ∧
        ∃ look ∈ new, look.event = .lookedUp request.cache key found := by
    rintro found before ⟨⟨recent, hrecent⟩, new, look, hhistory, hlook⟩
    rw [hasked, ← List.append_assoc] at hrecent
    have hsplit : u.history = (new ++ [look]) ++ before := by rw [hhistory, List.append_assoc, List.singleton_append]
    refine ⟨recent ++ later, new ++ [look], hrecent, ?_, hsplit, look, ?_, hlook⟩
    · rw [hsplit] at lawful
      exact lawful.of_append
    · exact List.mem_append_right new (List.mem_singleton_self look)
  cases h with
  | refused h => cases hload
  | own ended => cases hload
  | stored looked held =>
    cases hload
    obtain ⟨recent, new, rfl, hlawful, hhistory, -⟩ := hbefore looked
    rw [hhistory]
    exact (History.fresh_of_stored hlawful hinvalid held).append new
  | shared looked ended =>
    cases hload
    obtain ⟨before, ⟨hlooks, hflight⟩ | hlooks⟩ := looked
    · obtain ⟨recent, new, rfl, hlawful, hhistory, -⟩ := hbefore hlooks
      rw [hhistory]
      exact (History.fresh_of_joined hlawful hinvalid hflight).append new
    · obtain ⟨recent, new, rfl, -, hhistory, look, hlook, hstarts⟩ := hbefore hlooks
      rw [← List.append_assoc] at hhistory
      rw [hhistory] at lawful ⊢
      exact History.fresh_of_start lawful ⟨look, List.mem_append_left recent hlook, hstarts⟩

end

end Get

namespace Session

open Get (Course)

/-- The get of a task goes its course as the session takes turns, from the session before them or from its request. -/
def Comes (x y : Session) (task : Task) : Prop :=
  (∃ get : Get task.type, { task with get } ∈ x.tasks ∧ Course x.system get y.system task.get) ∨
    ∃ request loader, Course x.system (.asking request loader) y.system task.get

/-- Every live task of a schedule is on such a course. -/
theorem comes_play (x : Session) (turns : List Turn) {task : Task} (h : task ∈ (x.play turns).tasks) :
    Comes x (x.play turns) task := by
  rcases attends_play x turns h with ⟨get, hmem, attended⟩ | ⟨s, request, loader, hmoves, attended⟩
  · exact .inl ⟨get, hmem, attended.course⟩
  · exact .inr ⟨request, loader, attended.course.of_moves hmoves⟩

end Session

namespace Get

/-- **Freshness after an invalidation.** A get has not looked its key up yet when the key has been invalidated. On every
course that it and the system take, its answer comes from its own loader, which it has called since, or from the
registry, or else from a load that was started after the invalidation, be it as a value that this load has stored or as
the load's outcome. And every task that lives after more turns has been live before, or is such a get. -/
theorem answered_after_invalidation {s : System} {later past : History} {e : Stamped} (reached : s.Reached)
    (hasked : s.history = later ++ e :: past) :
    (∀ {τ : ValueType} {request : Request} {loader : Loader τ} {key : Key} {t u : System} {get : Get τ} {depth : Nat}
        {answer : Outcome CacheFault (Option (Typed τ))},
      e.event.Invalidates request.cache key → request.key = .ok key → Course s (.asking request loader) t get →
        Get.poll depth t get = (u, .ended answer) →
          ∃ source, Answered System.anyState request loader key s u source answer ∧
            ∀ load ∈ source, Fresh (e :: past) u.history request.cache key load) ∧
    ∀ (x : Session) (turns : List Session.Turn), x.system = s → ∀ task ∈ (x.play turns).tasks,
      x.Comes (x.play turns) task := by
  refine ⟨?_, fun x turns _ task htask => Session.comes_play x turns htask⟩
  intro τ request loader key t u get depth answer hinvalid hkey course hend
  obtain ⟨source, hanswered⟩ := answered_of_way System.stable_anyState hkey reached.sound course trivial hend
  have sound : u.Sound := reached.sound.moves ((moves_of_way course).trans (System.moves_of_poll hend))
  exact ⟨source, hanswered, fun load hload => fresh_of_answered sound hasked hinvalid hanswered hload⟩

/-- A load is running when its key is invalidated. -/
private def outdated : System :=
  let request : Request := ⟨"g", "c", .ok (.ofNat 1), .registry, .zero⟩
  ((Session.start (.sole "c" .unset)).play
    [.start "a" .flag request (.sleep 5 (.done none)), .poll 0, .invalidate "c" (.ofNat 1)]).system

theorem answered_after_invalidation_outdated :
    let request : Request := ⟨"g", "c", .ok (.ofNat 1), .registry, .zero⟩
    let loader : Loader .flag := .fail (.text "no")
    let u := (Get.poll 5 outdated (.asking request loader)).1
    ∃ source, Answered System.anyState request loader (.ofNat 1) outdated u source
        (.failed (.computation "c" (.text "no"))) ∧
      ∀ load ∈ source, Fresh outdated.history u.history "c" (.ofNat 1) load := by
  intro request loader u
  have built : (Registry.sole "c" .unset).Built := Registry.built_sole (by decide) rfl
  have hhistory : outdated.history = [] ++ ⟨0, .invalidated "c" (.ofNat 1)⟩ ::
      [⟨0, .called ⟨"g", "c", .ofNat 1⟩ (some 0)⟩, ⟨0, .lookedUp "c" (.ofNat 1) (.started 0)⟩] := rfl
  have hpoll : Get.poll 5 outdated (.asking request loader) = (u, .ended (.failed (.computation "c" (.text "no")))) :=
    Prod.ext rfl rfl
  exact (answered_after_invalidation (System.Reached.play built _) hhistory).1 ⟨rfl, rfl⟩ rfl .refl hpoll

end Get

end SingleFlight
