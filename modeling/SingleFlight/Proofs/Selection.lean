import SingleFlight.Proofs.Registry

/-!
# When two calls have the same key

* `Component.Alike` compares components kind by kind, and sequences element by element;
* `Key.selection` lists the parameters that a call's key is made of, in the order in which they count;
* the key of a call with parameters is made of its selection and of nothing else (`components_ofCall`), and a key
  that is not a default key is told by what it is made of (`eq_iff_components`);
* so two calls have the same key if and only if they both have no parameters on caches of one name, or both have some
  and select the same.
-/

namespace SingleFlight

/-! ### Components that are alike -/

namespace Component

mutual
/-- Of one kind and with one content. -/
def Alike : Component → Component → Prop
  | null, null => True
  | bool a, bool b => a = b
  | int a, int b => a = b
  | uint a, uint b => a = b
  | str a, str b => a = b
  | bytes a, bytes b => a = b
  | seq as, seq bs => AllAlike as bs
  | _, _ => False

/-- As many, and one by one alike. -/
def AllAlike : List Component → List Component → Prop
  | [], [] => True
  | a :: as, b :: bs => Alike a b ∧ AllAlike as bs
  | _, _ => False
end

mutual
theorem alike_iff : (a b : Component) → (Alike a b ↔ a = b)
  | seq as, seq bs => by simp [Alike, allAlike_iff as bs]
  | seq _, null | seq _, bool _ | seq _, int _ | seq _, uint _ | seq _, str _ | seq _, bytes _ => by simp [Alike]
  | null, b | bool _, b | int _, b | uint _, b | str _, b | bytes _, b => by cases b <;> simp [Alike]

theorem allAlike_iff : (as bs : List Component) → (AllAlike as bs ↔ as = bs)
  | [], [] | [], _ :: _ | _ :: _, [] => by simp [AllAlike]
  | a :: as, b :: bs => by simp [AllAlike, alike_iff a b, allAlike_iff as bs]
end

/-- A sequence is not among its own items. -/
theorem ne_singleton_seq (items : List Component) : items ≠ [seq items] := by
  intro h
  have hsize := congrArg sizeOf h
  simp at hsize
  omega

end Component

theorem Tuple.elements_ne_singleton (t : Tuple) (c : Component) : t.elements ≠ [c] := by
  intro h
  have hlen : 2 ≤ t.elements.length := t.two_le_length
  simp [h] at hlen

namespace Key

/-! ### What a key is made of -/

/-- The components that a key is made of; none for a default key. -/
def components : Key → List Component
  | default _ => []
  | single component _ => [component]
  | tuple key => key.elements

/-- Keys that are not default keys are equal once they are made of the same: one component makes a single key, more
make a tuple. -/
theorem eq_iff_components {a b : Key} (ha : a.isDefault = false) (hb : b.isDefault = false) :
    a = b ↔ a.components = b.components := by
  refine ⟨congrArg components, fun h => ?_⟩
  cases a with
  | default _ => cases ha
  | single c _ =>
    cases b with
    | default _ => cases hb
    | single c' _ =>
      cases List.singleton_inj.mp h
      rfl
    | tuple t =>
      exact absurd h.symm (t.elements_ne_singleton c)
  | tuple t =>
    cases b with
    | default _ => cases hb
    | single c _ =>
      exact absurd h (t.elements_ne_singleton c)
    | tuple t' => exact congrArg tuple (Tuple.ext h)

/-! ### What a call selects -/

/-- The parameters that the key of a call is made of: those at the positions in the order of the positions, or all of
them if no position is given. -/
def selection (positions : List Nat) (parameters : List Component) : List Component :=
  if positions = [] then parameters else positions.filterMap (parameters[·]?)

theorem pick_eq_ok {parameters : List Component} {position : Nat} {component : Component} :
    pick parameters position = .ok component ↔ parameters[position]? = some component := by
  unfold pick
  split <;> simp_all

theorem pick_of_pickPresent {parameters : List Component} {position : Nat} {component : Component}
    (h : pickPresent parameters position = .ok component) : parameters[position]? = some component := by
  obtain ⟨found, hpick, hpresent⟩ := exists_of_bind_eq_ok h
  split at hpresent
  · cases hpresent
  · cases hpresent
    exact pick_eq_ok.mp hpick

theorem selection_of_forall₂ {parameters : List Component} {positions : List Nat} {elements : List Component}
    (hne : positions ≠ [])
    (h : List.Forall₂ (fun position component => parameters[position]? = some component) positions elements) :
    selection positions parameters = elements := by
  rw [selection, if_neg hne]
  clear hne
  induction h with
  | nil => rfl
  | cons hpick _ ih => rw [List.filterMap_cons_some hpick, ih]

theorem components_ofComponent {component : Component} {key : Key} (h : ofComponent component = .ok key) :
    key.isDefault = false ∧ key.components = [component] := by
  unfold ofComponent at h
  split at h
  · cases h
  · cases h
    exact ⟨rfl, rfl⟩

theorem components_ofElements {elements : List Component} {key : Key} (h : ofElements elements = .ok key) :
    key.isDefault = false ∧ key.components = elements := by
  obtain ⟨t, ht, rfl⟩ := exists_of_map_eq_ok h
  unfold Tuple.ofElements at ht
  split at ht
  · cases ht
    exact ⟨rfl, rfl⟩
  · cases ht

/-- A call with parameters, if it has a key, has one that is made of its selection, and there is a parameter at every
position that was given. -/
theorem components_ofCall {cache : String} {positions : List Nat} {parameters : List Component} {key : Key}
    (h : ofCall cache positions parameters = .ok key) (hne : parameters ≠ []) :
    key.isDefault = false ∧ key.components = selection positions parameters ∧
      ∀ position ∈ positions, position < parameters.length := by
  -- the last two cases give positions, each with the component found there
  have picked : ∀ {elements : List Component}, positions ≠ [] →
      List.Forall₂ (fun position component => parameters[position]? = some component) positions elements →
      (key.isDefault = false ∧ key.components = elements) →
      key.isDefault = false ∧ key.components = selection positions parameters ∧
        ∀ position ∈ positions, position < parameters.length := by
    intro elements hpositions hfound hkey
    rw [selection_of_forall₂ hpositions hfound]
    have hthere : ∀ position ∈ positions, position < parameters.length :=
      ((List.forall₂_and_left ..).mp (hfound.imp fun _ _ hat => ⟨(List.getElem?_eq_some_iff.mp hat).1, hat⟩)).1
    exact ⟨hkey.1, hkey.2, hthere⟩
  unfold ofCall at h
  split at h
  next => exact absurd rfl hne
  next => exact ⟨(components_ofComponent h).1, (components_ofComponent h).2, by simp⟩
  next => exact ⟨(components_ofElements h).1, (components_ofElements h).2, by simp⟩
  next position _ =>
    obtain ⟨component, hpick, hkey⟩ := exists_of_bind_eq_ok h
    exact picked (by simp) (.cons (pick_eq_ok.mp hpick) .nil) (components_ofComponent hkey)
  next hnone hone _ =>
    obtain ⟨elements, hall, hkey⟩ := exists_of_bind_eq_ok h
    exact picked hnone ((forall₂_of_mapM_eq_ok hall).imp fun _ _ => pick_of_pickPresent) (components_ofElements hkey)

theorem selection_nil (positions : List Nat) : selection positions [] = [] := by
  unfold selection
  split
  · rfl
  · simp

theorem eq_iff_of_ofCall {cache₁ cache₂ : String} {positions₁ positions₂ : List Nat}
    {parameters₁ parameters₂ : List Component} {a b : Key} (ha : ofCall cache₁ positions₁ parameters₁ = .ok a)
    (hb : ofCall cache₂ positions₂ parameters₂ = .ok b) :
    a = b ↔
      (parameters₁ = [] ∧ parameters₂ = [] ∧ cache₁ = cache₂) ∨
      (parameters₁ ≠ [] ∧ parameters₂ ≠ [] ∧
        Component.AllAlike (selection positions₁ parameters₁) (selection positions₂ parameters₂)) := by
  rw [Component.allAlike_iff]
  by_cases h₁ : parameters₁ = [] <;> by_cases h₂ : parameters₂ = []
  · subst h₁ h₂
    cases ha
    cases hb
    simp
  · subst h₁
    cases ha
    have hb' := (components_ofCall hb h₂).1
    have hne : default cache₁ ≠ b := by
      rintro rfl
      cases hb'
    simp [hne, h₂]
  · subst h₂
    cases hb
    have ha' := (components_ofCall ha h₁).1
    have hne : a ≠ default cache₂ := by
      rintro rfl
      cases ha'
    simp [hne, h₁]
  · obtain ⟨ha', hsel₁, -⟩ := components_ofCall ha h₁
    obtain ⟨hb', hsel₂, -⟩ := components_ofCall hb h₂
    rw [eq_iff_components ha' hb', hsel₁, hsel₂]
    simp [h₁, h₂]

/-- **Keys collide only when they should.** Two calls have the same key if and only if they both have no parameters and
are on caches of one name, or both have parameters and select the same ones in the same order. So the key of a call
without parameters is never that of a call with some, a sequence by itself never serves for its items, and no
rearrangement or omission that changes what is selected keeps the key. -/
theorem eq_iff_selections {cache₁ cache₂ : String} {positions₁ positions₂ : List Nat}
    {parameters₁ parameters₂ : List Component} {a b : Key} (ha : ofCall cache₁ positions₁ parameters₁ = .ok a)
    (hb : ofCall cache₂ positions₂ parameters₂ = .ok b) :
    (a = b ↔
      (parameters₁ = [] ∧ parameters₂ = [] ∧ cache₁ = cache₂) ∨
      (parameters₁ ≠ [] ∧ parameters₂ ≠ [] ∧
        Component.AllAlike (selection positions₁ parameters₁) (selection positions₂ parameters₂))) ∧
    (parameters₁ = [] → parameters₂ ≠ [] → a ≠ b) ∧
    (∀ items, selection positions₁ parameters₁ = [.seq items] → selection positions₂ parameters₂ = items → a ≠ b) ∧
    (selection positions₂ parameters₂ ≠ selection positions₁ parameters₁ → a ≠ b) := by
  have hiff := eq_iff_of_ofCall ha hb
  have hne : selection positions₂ parameters₂ ≠ selection positions₁ parameters₁ → a ≠ b := by
    intro hsel heq
    rcases hiff.mp heq with ⟨rfl, rfl, -⟩ | ⟨-, -, halike⟩
    · exact hsel (by rw [selection_nil, selection_nil])
    · exact hsel ((Component.allAlike_iff ..).mp halike).symm
  refine ⟨hiff, fun h₁ h₂ heq => ?_, fun items h₁ h₂ => hne ?_, hne⟩
  · rcases hiff.mp heq with ⟨-, hnil, -⟩ | ⟨hcons, -⟩
    · exact h₂ hnil
    · exact hcons h₁
  · rw [h₁, h₂]
    exact Component.ne_singleton_seq items

/-- A repeated position selects its parameter again, so those two calls have one key; a list in a single parameter is
not the list of its items. -/
theorem eq_iff_selections_repeated :
    (∃ a b, ofCall "users" [1, 0, 1] [.int 5, .uint 5] = .ok a ∧
      ofCall "orders" [] [.uint 5, .int 5, .uint 5] = .ok b ∧ a = b) ∧
    ∃ a b, ofCall "users" [] [.seq [.int 5, .null]] = .ok a ∧ ofCall "users" [] [.int 5, .null] = .ok b ∧ a ≠ b := by
  have repeated := eq_iff_selections (show ofCall "users" [1, 0, 1] [.int 5, .uint 5] = .ok _ from rfl)
    (show ofCall "orders" [] [.uint 5, .int 5, .uint 5] = .ok _ from rfl)
  have nested := eq_iff_selections (show ofCall "users" [] [.seq [.int 5, .null]] = .ok _ from rfl)
    (show ofCall "users" [] [.int 5, .null] = .ok _ from rfl)
  exact ⟨⟨_, _, rfl, rfl, repeated.1.mpr (.inr ⟨nofun, nofun, by simp [selection, Component.allAlike_iff]⟩)⟩,
    _, _, rfl, rfl, nested.2.2.1 _ rfl rfl⟩

end Key

end SingleFlight
