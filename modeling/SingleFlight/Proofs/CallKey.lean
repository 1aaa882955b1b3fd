import SingleFlight.Poll
import SingleFlight.Proofs.Selection

/-!
# Which key a call has

* `Key.faultAt` says what is wrong with a position when several are given, and `Key.Refused` lists the reasons for
  which a call with parameters has no key;
* such a call has a key, which its selection makes, or is refused for one of these reasons (`refused_of_ofCall`);
* it is never refused while all positions are in range and nothing that it selects is null, and a tuple of all
  parameters is not refused even then (`not_refused`);
* a get whose call has no key fails with the reason before it looks at any cache (`System.poll_of_unkeyed`).
-/

namespace SingleFlight

/-- A get without a key fails for the reason that there is none, and nothing else happens. -/
theorem System.poll_of_unkeyed (s : System) {request : Request} {fault : KeyFault} (h : request.key = .error fault)
    (loader : Loader τ) : s.poll (.asking request loader) = (s, .ended (.failed (.invalidKey fault))) := by
  have hdeep : s.work + (Get.asking request loader).size = (s.work + loader.size + 4) + 1 := rfl
  rw [System.poll, hdeep]
  simp only [Get.poll, h]

namespace Key

variable {cache : String} {positions : List Nat} {parameters : List Component}

/-- What is wrong with a position among several. -/
def faultAt (parameters : List Component) (position : Nat) : Option KeyFault :=
  match parameters[position]? with
  | none => some (.positionOutOfRange position parameters.length)
  | some component => if component = .null then some (.nullElement position) else none

/-- Why a call with parameters has no key. -/
inductive Refused (parameters : List Component) : (positions : List Nat) → KeyFault → Prop where
  | nullParameter (only : parameters = [.null]) : Refused parameters [] .nullKey
  | outOfRange {position : Nat} (beyond : parameters.length ≤ position) :
    Refused parameters [position] (.positionOutOfRange position parameters.length)
  | nullPosition {position : Nat} (null : parameters[position]? = some .null) : Refused parameters [position] .nullKey
  /-- Of several positions the first that has a fault decides. -/
  | firstFault {before after : List Nat} {position : Nat} {fault : KeyFault}
      (several : 2 ≤ (before ++ position :: after).length)
      (sound : ∀ earlier ∈ before, faultAt parameters earlier = none)
      (faulty : faultAt parameters position = some fault) :
    Refused parameters (before ++ position :: after) fault

/-! ### One element and several -/

theorem faultAt_eq_none {position : Nat} :
    faultAt parameters position = none ↔ ∃ component, parameters[position]? = some component ∧ component ≠ .null := by
  unfold faultAt
  split <;> simp_all

theorem pick_eq_error {position : Nat} {fault : KeyFault} :
    pick parameters position = .error fault ↔
      parameters.length ≤ position ∧ fault = .positionOutOfRange position parameters.length := by
  rw [← List.getElem?_eq_none_iff]
  cases h : parameters[position]? <;> simp [pick, h, eq_comm]

theorem faultAt_of_pickPresent_ok {position : Nat} {component : Component}
    (h : pickPresent parameters position = .ok component) : faultAt parameters position = none := by
  obtain ⟨found, hpick, hpresent⟩ := exists_of_bind_eq_ok h
  split at hpresent
  · cases hpresent
  next hne => exact faultAt_eq_none.mpr ⟨found, pick_eq_ok.mp hpick, hne⟩

theorem faultAt_of_pickPresent_error {position : Nat} {fault : KeyFault}
    (h : pickPresent parameters position = .error fault) : faultAt parameters position = some fault := by
  unfold pickPresent pick at h
  unfold faultAt
  cases hfound : parameters[position]? with
  | none =>
    rw [hfound] at h
    cases h
    rfl
  | some component =>
    rw [hfound] at h
    by_cases hnull : component = .null
    · subst hnull
      cases h
      rfl
    · cases (if_neg hnull).symm.trans h

theorem ofComponent_eq_ok {component : Component} {key : Key} :
    ofComponent component = .ok key ↔ ∃ h, key = single component h := by
  unfold ofComponent
  split <;> simp_all [eq_comm]

theorem ofComponent_eq_error {component : Component} {fault : KeyFault} :
    ofComponent component = .error fault ↔ component = .null ∧ fault = .nullKey := by
  unfold ofComponent
  split <;> simp_all [eq_comm]

theorem ofElements_of_two_le {elements : List Component} (h : 2 ≤ elements.length) :
    ofElements elements = .ok (tuple ⟨elements, h⟩) := by
  rw [ofElements, Tuple.ofElements, dif_pos h]
  rfl

/-! ### Calls that are refused -/

private theorem two_le_length {l : List α} (hnil : l ≠ []) (hone : ∀ x, l ≠ [x]) : 2 ≤ l.length := by
  rcases l with - | ⟨first, - | ⟨second, rest⟩⟩
  · exact absurd rfl hnil
  · exact absurd rfl (hone first)
  · simp

/-- A call is refused only for one of the reasons. -/
theorem refused_of_ofCall {fault : KeyFault} (h : ofCall cache positions parameters = .error fault) :
    parameters ≠ [] ∧ Refused parameters positions fault := by
  unfold ofCall at h
  split at h
  next => cases h
  next component =>
    obtain ⟨rfl, rfl⟩ := ofComponent_eq_error.mp h
    exact ⟨nofun, .nullParameter rfl⟩
  next hnil hone =>
    rw [ofElements_of_two_le (two_le_length hnil fun component heq => hone component heq)] at h
    cases h
  next position hnil =>
    refine ⟨hnil, ?_⟩
    cases hpick : pick parameters position with
    | error other =>
      rw [hpick] at h
      cases h
      obtain ⟨hbeyond, rfl⟩ := pick_eq_error.mp hpick
      exact .outOfRange hbeyond
    | ok component =>
      rw [hpick] at h
      obtain ⟨rfl, rfl⟩ := ofComponent_eq_error.mp h
      exact .nullPosition (pick_eq_ok.mp hpick)
  next hnil hnone hsingle _ =>
    refine ⟨hnil, ?_⟩
    have hseveral : 2 ≤ positions.length := two_le_length hnone hsingle
    cases hall : positions.mapM (pickPresent parameters) with
    | ok elements =>
      have hlength : positions.length = elements.length := (forall₂_of_mapM_eq_ok hall).length_eq
      rw [hall] at h
      have hok := ofElements_of_two_le (hlength ▸ hseveral)
      cases hok.symm.trans h
    | error other =>
      rw [hall] at h
      cases h
      obtain ⟨before, position, after, rfl, hbefore, hposition⟩ := exists_of_mapM_eq_error hall
      refine .firstFault hseveral (fun earlier hmem => ?_) ?_
      · obtain ⟨component, hok⟩ := hbefore earlier hmem
        exact faultAt_of_pickPresent_ok hok
      · exact faultAt_of_pickPresent_error hposition

theorem mem_selection {position : Nat} {component : Component} (hmem : position ∈ positions)
    (hfound : parameters[position]? = some component) : component ∈ selection positions parameters := by
  rw [selection, if_neg (List.ne_nil_of_mem hmem)]
  exact List.mem_filterMap.mpr ⟨position, hmem, hfound⟩

/-- A call is not refused while every position is in range and it selects nothing that is null, or all parameters, of
which there are several. -/
theorem not_refused {fault : KeyFault} (hrange : ∀ position ∈ positions, position < parameters.length)
    (hpresent : positions = [] ∧ 2 ≤ parameters.length ∨
      ∀ component ∈ selection positions parameters, component ≠ .null) :
    ¬ Refused parameters positions fault := by
  intro refused
  cases refused with
  | nullParameter only =>
    subst only
    rcases hpresent with ⟨-, hseveral⟩ | hpresent
    · simp at hseveral
    · exact hpresent .null (.head _) rfl
  | outOfRange beyond => exact absurd (hrange _ (.head _)) (Nat.not_lt.mpr beyond)
  | nullPosition null =>
    rcases hpresent with ⟨hnil, -⟩ | hpresent
    · cases hnil
    · exact hpresent .null (mem_selection (.head _) null) rfl
  | @firstFault before after position _ several sound faulty =>
    have hmem : position ∈ before ++ position :: after := by simp
    rcases hpresent with ⟨hnil, -⟩ | hpresent
    · simp at hnil
    · have hfound := List.getElem?_eq_getElem (hrange position hmem)
      have hnone := faultAt_eq_none.mpr ⟨_, hfound, hpresent _ (mem_selection hmem hfound)⟩
      cases hnone.symm.trans faulty

/-- What a call with a key selects is not null, unless it selects all parameters and there are several. -/
theorem present_of_ofCall {key : Key} (h : ofCall cache positions parameters = .ok key) (hne : parameters ≠ []) :
    positions = [] ∧ 2 ≤ parameters.length ∨
      ∀ component ∈ selection positions parameters, component ≠ .null := by
  -- with positions, what is selected stands at one of them
  have selected : positions ≠ [] → (∀ position ∈ positions, faultAt parameters position = none) →
      ∀ component ∈ selection positions parameters, component ≠ .null := by
    intro hpositions hsound component hmem
    rw [selection, if_neg hpositions] at hmem
    obtain ⟨position, hposition, hfound⟩ := List.mem_filterMap.mp hmem
    obtain ⟨other, hother, hpresent⟩ := faultAt_eq_none.mp (hsound position hposition)
    cases hfound.symm.trans hother
    exact hpresent
  unfold ofCall at h
  split at h
  next => exact absurd rfl hne
  next component =>
    obtain ⟨hpresent, -⟩ := ofComponent_eq_ok.mp h
    exact .inr fun other hmem => List.mem_singleton.mp hmem ▸ hpresent
  next hnil hone => exact .inl ⟨rfl, two_le_length hnil fun component heq => hone component heq⟩
  next position _ =>
    obtain ⟨component, hpick, hkey⟩ := exists_of_bind_eq_ok h
    obtain ⟨hpresent, -⟩ := ofComponent_eq_ok.mp hkey
    refine .inr (selected (List.cons_ne_nil _ _) fun other hmem => ?_)
    cases List.mem_singleton.mp hmem
    exact faultAt_eq_none.mpr ⟨component, pick_eq_ok.mp hpick, hpresent⟩
  next hnone _ _ =>
    obtain ⟨elements, hall, -⟩ := exists_of_bind_eq_ok h
    have hboth := (forall₂_of_mapM_eq_ok hall).imp fun _ _ hok => And.intro (faultAt_of_pickPresent_ok hok) hok
    exact .inr (selected hnone ((List.forall₂_and_left _ _).mp hboth).1)

/-- What is selected makes the key: by itself if it is one component, a tuple if there are more. -/
theorem eq_of_ofCall {key : Key} (h : ofCall cache positions parameters = .ok key) (hne : parameters ≠ []) :
    (∃ component present, selection positions parameters = [component] ∧ key = single component present) ∨
      ∃ several, key = tuple ⟨selection positions parameters, several⟩ := by
  obtain ⟨hkind, hmade, -⟩ := components_ofCall h hne
  cases key with
  | default _ => cases hkind
  | single component present => exact .inl ⟨component, present, hmade.symm, rfl⟩
  | tuple t =>
    have helements : t.elements = selection positions parameters := hmade
    exact .inr ⟨helements ▸ t.two_le_length, congrArg tuple (Tuple.ext helements)⟩

/-- **The key of a call.** A call without parameters has the default key of its cache, whatever the positions. A call
with parameters has a key if and only if every position is in range and nothing that it selects is null, nulls in a
tuple of all parameters apart; the key is made of exactly what is selected, in order and with repetitions. So it does
not depend on the parameters that are not selected. A call that has no key is refused for one of the reasons, of
several positions for the first that has a fault, and a get with that call fails with an invalid key. -/
theorem ofCall_selects (cache : String) (positions : List Nat) (parameters : List Component) :
    (parameters = [] → ofCall cache positions parameters = .ok (default cache)) ∧
    (parameters ≠ [] →
      ((∃ key, ofCall cache positions parameters = .ok key) ↔
        (∀ position ∈ positions, position < parameters.length) ∧
          (positions = [] ∧ 2 ≤ parameters.length ∨
            ∀ component ∈ selection positions parameters, component ≠ .null)) ∧
      (∀ key, ofCall cache positions parameters = .ok key →
        (∃ component present, selection positions parameters = [component] ∧ key = single component present) ∨
          ∃ several, key = tuple ⟨selection positions parameters, several⟩) ∧
      ∀ others a b, others ≠ [] → selection positions others = selection positions parameters →
        ofCall cache positions others = .ok a → ofCall cache positions parameters = .ok b → a = b) ∧
    ∀ fault, ofCall cache positions parameters = .error fault →
      Refused parameters positions fault ∧
      ∀ (τ : ValueType) (s : System) (request : Request) (loader : Loader τ),
        request.key = ofCall cache positions parameters →
        s.poll (.asking request loader) = (s, .ended (.failed (.invalidKey fault))) := by
  refine ⟨?_, fun hne => ⟨⟨?_, ?_⟩, fun key hkey => eq_of_ofCall hkey hne, ?_⟩, fun fault hfault => ⟨?_, ?_⟩⟩
  · rintro rfl
    rfl
  · rintro ⟨key, hkey⟩
    exact ⟨(components_ofCall hkey hne).2.2, present_of_ofCall hkey hne⟩
  · rintro ⟨hrange, hpresent⟩
    cases hcall : ofCall cache positions parameters with
    | ok key => exact ⟨key, rfl⟩
    | error fault => exact absurd (refused_of_ofCall hcall).2 (not_refused hrange hpresent)
  · intro others a b hothers hsame ha hb
    obtain ⟨hkindA, hmadeA, -⟩ := components_ofCall ha hothers
    obtain ⟨hkindB, hmadeB, -⟩ := components_ofCall hb hne
    rw [eq_iff_components hkindA hkindB, hmadeA, hmadeB, hsame]
  · exact (refused_of_ofCall hfault).2
  · intro τ s request loader hkey
    exact s.poll_of_unkeyed (hkey.trans hfault) loader

/-- A repeated position counts twice, and a tuple of all parameters may hold nulls. Of two faulty positions the first
one is reported, although the second is out of range. -/
theorem ofCall_selects_in_order :
    (∃ key, ofCall "users" [2, 1, 2] [.null, .int 1, .str "a"] = .ok key) ∧
    (∃ key, ofCall "users" [] [.null, .null] = .ok key) ∧
    ofCall "users" [1, 0, 9] [.null, .int 1] = .error (.nullElement 0) ∧
    Refused [.null, .int 1] [1, 0, 9] (.nullElement 0) := by
  have repeated := (ofCall_selects "users" [2, 1, 2] [.null, .int 1, .str "a"]).2.1 nofun
  have nulls := (ofCall_selects "users" [] [.null, .null]).2.1 nofun
  have faulty := (ofCall_selects "users" [1, 0, 9] [.null, .int 1]).2.2 (.nullElement 0) rfl
  exact ⟨repeated.1.mpr ⟨by decide, .inr (by decide)⟩, nulls.1.mpr ⟨nofun, .inl ⟨rfl, by decide⟩⟩, rfl, faulty.1⟩

end Key

end SingleFlight
