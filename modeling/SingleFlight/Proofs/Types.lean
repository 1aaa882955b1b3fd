import SingleFlight.Proofs.Trails

/-!
# Values of other types

A store holds values of every type, and a get may be answered with what another caller's loader has brought. It asks for
one type, and is told of a mismatch if the value has another one.

* what a get is told depends on the route by which its answer came (`Get.takes_of_trail`);
* there is a mismatch only on the two routes on which the value may be another caller's (`Get.Retrieved.mismatch_iff`);
* what a get is told of a mismatch changes nothing: the polls of a get at the type of the value would have been the same
  (`Get.Retrieved.alike`).
-/

namespace SingleFlight

namespace System

/-! ### What is told -/

theorem typed_value_of_ne {v : Value} (h : v.type ≠ τ) (cache : String) :
    typed τ cache (.value v) = .failed (.valueType cache τ.name) := by
  simp only [typed, Stored.toOption, Value.as?, dif_neg h]

theorem typed_value_of_eq {v : Value} (h : v.type = τ) (cache : String) :
    typed τ cache (.value v) = .value (some ⟨v, h⟩) := by
  simp only [typed, Stored.toOption, Value.as?, dif_pos h]

end System

/-- The route by which a get came by its answer. -/
inductive Route (τ : ValueType) where
  /-- Its key or its cache is none. -/
  | refused (fault : CacheFault)
  /-- It read a stored value. -/
  | stored (value : Stored Value)
  /-- It was told the outcome of a load that it had joined. -/
  | joined (outcome : LoadResult)
  /-- It was told the outcome of the load that it had started. -/
  | started (outcome : LoadResult)
  /-- It ran its own loader, because its cache passes calls through or because it had turned away from its load. -/
  | alone (outcome : Outcome Failure (Option (Typed τ)))

namespace Route

variable {τ : ValueType}

def answer (cache : String) : Route τ → Outcome CacheFault (Option (Typed τ))
  | refused fault => .failed fault
  | stored value => System.typed τ cache value
  | joined outcome | started outcome => System.typedResult τ cache outcome
  | alone outcome => outcome.mapError (.computation cache)

/-- The value, present or absent, to which the route has led. -/
def brought : Route τ → Option (Option Value)
  | stored value | joined (.ok value) | started (.ok value) => some value.toOption
  | alone (.value v) => some (v.map (·.val))
  | _ => none

/-- The value was brought by another caller, or before, and has another type. -/
def Mismatched : Route τ → Prop
  | stored (.value v) | joined (.ok (.value v)) => v.type ≠ τ
  | _ => False

/-- The fault is none of a value's type, and a load that the get has started has brought no value of another type. -/
def Sound : Route τ → Prop
  | refused fault => ∀ cache expected, fault ≠ .valueType cache expected
  | started (.ok (.value v)) => v.type = τ
  | _ => True

end Route

/-! ### Routes -/

namespace Get

variable {τ : ValueType}

/-- The answer of the get came by the route. The first poll of a get that looks its key up counts from the state after
its lookup. -/
inductive Takes (request : Request) (loader : Loader τ) : List (System × System) → Route τ → Prop where
  | unkeyed {s : System} {fault : KeyFault} (hkey : request.key = .error fault) :
      Takes request loader [(s, s)] (.refused (.invalidKey fault))
  | refused {s : System} {fault : CacheFault} (hreach : s.reach request = .error fault) :
      Takes request loader [(s, s)] (.refused fault)
  | passed {s t : System} {polls : List (System × System)} {name : String} {key : Key}
      {outcome : Outcome Failure (Option (Typed τ))} (hkey : request.key = .ok key)
      (hreach : s.reach request = .ok (.passThrough name))
      (own : Trail (.loading name (.calling ⟨request.label, name, key⟩ loader))
        ((s.emit (.passedThrough name key), t) :: polls) (outcome.mapError (.computation name))) :
      Takes request loader ((s, t) :: polls) (.alone outcome)
  | stored {l : Lookup τ} {value : Stored Value} (hl : l.asking = .asking request loader)
      (hfound : l.found = .stored value) : Takes request loader [(l.before, l.after)] (.stored value)
  | started {l : Lookup τ} {id : Nat} {t v : System} {polls before : List (System × System)} {outcome : LoadResult}
      (hl : l.asking = .asking request loader) (hfound : l.found = .started id)
      (hlast : (l.after, t) :: polls = before ++ [(v, v.advanced id)])
      (told : (v.advanced id).outcome? id = some outcome) :
      Takes request loader ((l.before, t) :: polls) (.started outcome)
  | joined {l : Lookup τ} {id : Nat} {t v : System} {polls before : List (System × System)} {outcome : LoadResult}
      (hl : l.asking = .asking request loader) (hfound : l.found = .joined id)
      (hlast : (l.after, t) :: polls = before ++ [(v, v.advanced id)])
      (told : (v.advanced id).outcome? id = some outcome) :
      Takes request loader ((l.before, t) :: polls) (.joined outcome)
  | turned {l : Lookup τ} {id : Nat} {t v w : System} {polls before rest : List (System × System)}
      {outcome : Outcome Failure (Option (Typed τ))} (hl : l.asking = .asking request loader)
      (hfound : l.found = .joined id) (hpolls : (l.after, t) :: polls = before ++ (v, w) :: rest)
      (unended : (v.advanced id).outcome? id = none) (timed : l.request.patience ≠ .zero) (elapsed : l.Elapsed v)
      (own : Trail l.calling ((l.forsaken id (v.advanced id), w) :: rest)
        (outcome.mapError (.computation l.store.name))) :
      Takes request loader ((l.before, t) :: polls) (.alone outcome)

/-- A get of any other type that asks for the same would have been told of the same value by the same polls. -/
def Shares (request : Request) (cache : String) (polls : List (System × System)) : Route τ → Prop
  | .stored value => ∀ {σ : ValueType} (like : Loader σ),
    Trail (.asking request like) polls (System.typed σ cache value)
  | .joined outcome => ∀ {σ : ValueType} (like : Loader σ),
    Trail (.asking request like) polls (System.typedResult σ cache outcome)
  | _ => True

end Get

namespace Lookup

variable {τ σ : ValueType} {l : Lookup τ} {id : Nat} {t : System} {polls : List (System × System)}
  {answer : Outcome CacheFault (Option (Typed τ))}

theorem lookUp_like {s t : System} {store : LocalStore} {call : Call} {loader : Loader τ} {found : Found}
    (hlook : s.lookUp store call loader = (t, found)) (hfound : ∀ id, found ≠ .started id) (like : Loader σ) :
    s.lookUp store call like = (t, found) := by
  unfold System.lookUp at hlook ⊢
  split at hlook
  · exact hlook
  · split at hlook
    · exact hlook
    · cases hlook
      exact absurd rfl (hfound _)

/-- The same get at another type, if it starts no load. -/
def like (l : Lookup τ) (hfound : ∀ id, l.found ≠ .started id) (loader : Loader σ) : Lookup σ where
  before := l.before
  request := l.request
  loader := loader
  key := l.key
  store := l.store
  after := l.after
  found := l.found
  key_eq := l.key_eq
  reach_eq := l.reach_eq
  lookUp_eq := lookUp_like l.lookUp_eq hfound loader

theorem takes_of_stored {value : Stored Value} (hfound : l.found = .stored value)
    (h : Get.Trail l.asking ((l.before, t) :: polls) answer) : ∃ route : Route τ,
      Get.Takes l.request l.loader ((l.before, t) :: polls) route ∧ answer = route.answer l.store.name ∧
        Get.Shares l.request l.store.name ((l.before, t) :: polls) route := by
  have hpoll := poll_of_stored hfound
  cases h with
  | last hend =>
    rw [hpoll] at hend
    cases hend
    refine ⟨.stored value, .stored rfl hfound, rfl, fun loader => .last ?_⟩
    exact poll_of_stored (l := l.like (by rw [hfound]; exact fun _ => nofun) loader) hfound
  | more hrest =>
    rw [hpoll] at hrest
    cases hrest

theorem takes_of_started (hfound : l.found = .started id)
    (h : Get.Trail l.asking ((l.before, t) :: polls) answer) : ∃ route : Route τ,
      Get.Takes l.request l.loader ((l.before, t) :: polls) route ∧ answer = route.answer l.store.name ∧
        Get.Shares l.request l.store.name ((l.before, t) :: polls) route := by
  rcases (h.of_poll (poll_of_started hfound).symm).exists_of_awaiting with
    ⟨outcome, hanswer, ⟨before, v, hlast, told⟩, -⟩ | ⟨p, hp, -⟩
  · exact ⟨.started outcome, .started rfl hfound hlast told, hanswer, trivial⟩
  · cases hp

theorem takes_of_joined (hfound : l.found = .joined id)
    (h : Get.Trail l.asking ((l.before, t) :: polls) answer) : ∃ route : Route τ,
      Get.Takes l.request l.loader ((l.before, t) :: polls) route ∧ answer = route.answer l.store.name ∧
        Get.Shares l.request l.store.name ((l.before, t) :: polls) route := by
  have hwaits := h.of_poll (poll_of_joined hfound).symm
  rw [joining_eq] at hwaits
  rcases hwaits.exists_of_awaiting with
    ⟨outcome, hanswer, ⟨before, v, hlast, told⟩, halike⟩ | ⟨p, hp, before, v, w, rest, hpolls, hnone, hdue, hown⟩
  · refine ⟨.joined outcome, .joined rfl hfound hlast told, hanswer, fun {σ} loader => ?_⟩
    let like : Lookup σ := l.like (by rw [hfound]; exact fun _ => nofun) loader
    have hdue : (l.request.patienceAt l.after.now like.call loader).map (·.due) =
        (l.request.patienceAt l.after.now l.call l.loader).map (·.due) := by
      unfold Request.patienceAt
      split
      · rfl
      · rfl
    have hlike := halike _ hdue
    have hpoll : l.before.poll (.asking l.request loader) = l.after.poll (like.joining id) :=
      poll_of_joined (l := like) hfound
    rw [joining_eq] at hpoll
    exact hlike.of_poll hpoll
  · unfold Request.patienceAt at hp
    split at hp
    · cases hp
    next htimed =>
      cases hp
      rw [l.now_after] at hdue
      obtain ⟨outcome, rfl⟩ := hown.exists_of_loading
      exact ⟨.alone outcome, .turned rfl hfound hpolls hnone htimed ((due_le_iff v).1 hdue) hown, rfl, trivial⟩

end Lookup

/-! ### What the routes tell -/

namespace System

theorem typed_eq_valueType_iff {v : Value} {cache other expected : String} :
    typed τ cache (.value v) = .failed (.valueType other expected) ↔
      other = cache ∧ expected = τ.name ∧ v.type ≠ τ := by
  by_cases htype : v.type = τ
  · rw [typed_value_of_eq htype]
    exact ⟨nofun, fun h => absurd htype h.2.2⟩
  · rw [typed_value_of_ne htype]
    constructor
    · rintro ⟨⟩
      exact ⟨rfl, rfl, htype⟩
    · rintro ⟨rfl, rfl, -⟩
      rfl

theorem typed_eq_value_iff {v w : Value} {cache : String} :
    (typed τ cache (.value v)).mapValue (fun found => found.map (·.val)) = .value (some w) ↔ w.type = τ ∧ v = w := by
  by_cases htype : v.type = τ
  · rw [typed_value_of_eq htype]
    constructor
    · rintro ⟨⟩
      exact ⟨htype, rfl⟩
    · rintro ⟨-, rfl⟩
      rfl
  · rw [typed_value_of_ne htype]
    constructor
    · rintro ⟨⟩
    · rintro ⟨hw, rfl⟩
      exact absurd hw htype

theorem typed_ne_none {v : Value} {cache : String} : typed τ cache (.value v) ≠ .value none := by
  by_cases htype : v.type = τ
  · rw [typed_value_of_eq htype]
    nofun
  · rw [typed_value_of_ne htype]
    nofun

end System

namespace Route

variable {τ : ValueType} {route : Route τ} {cache : String}

open SingleFlight.System (typed_eq_valueType_iff typed_eq_value_iff typed_ne_none)

theorem Mismatched.exists (h : route.Mismatched) :
    ∃ v, v.type ≠ τ ∧ (route = .stored (.value v) ∨ route = .joined (.ok (.value v))) := by
  match route with
  | .stored (.value v) => exact ⟨v, h, .inl rfl⟩
  | .joined (.ok (.value v)) => exact ⟨v, h, .inr rfl⟩

theorem answer_eq_valueType_iff (sound : route.Sound) {other expected : String} :
    route.answer cache = .failed (.valueType other expected) ↔
      other = cache ∧ expected = τ.name ∧ route.Mismatched := by
  match route with
  | .refused fault =>
    refine ⟨fun h => ?_, fun h => h.2.2.elim⟩
    cases h
    exact absurd rfl (sound other expected)
  | .stored .absent | .joined (.ok .absent) | .started (.ok .absent) => exact ⟨nofun, fun h => h.2.2.elim⟩
  | .joined (.error failure) | .started (.error failure) => exact ⟨nofun, fun h => h.2.2.elim⟩
  | .stored (.value v) | .joined (.ok (.value v)) => exact typed_eq_valueType_iff
  | .started (.ok (.value v)) =>
    refine ⟨fun h => ?_, fun h => h.2.2.elim⟩
    exact absurd sound (typed_eq_valueType_iff.1 h).2.2
  | .alone (.value v) | .alone (.failed failure) | .alone (.panicked payload) =>
    exact ⟨nofun, fun h => h.2.2.elim⟩

theorem answer_eq_value_iff {v : Value} :
    (route.answer cache).mapValue (fun found => found.map (·.val)) = .value (some v) ↔
      v.type = τ ∧ route.brought = some (some v) := by
  have hvalue : ∀ {w : Value}, some (Stored.value w).toOption = some (some v) ↔ w = v := by
    intro w
    exact ⟨fun h => Option.some.inj (Option.some.inj h), fun h => h ▸ rfl⟩
  match route with
  | .refused fault => exact ⟨nofun, fun h => nomatch h.2⟩
  | .stored .absent | .joined (.ok .absent) | .started (.ok .absent) => exact ⟨nofun, fun h => nomatch h.2⟩
  | .joined (.error failure) | .started (.error failure) => exact ⟨nofun, fun h => nomatch h.2⟩
  | .stored (.value w) | .joined (.ok (.value w)) | .started (.ok (.value w)) =>
    exact typed_eq_value_iff.trans (and_congr_right fun _ => hvalue.symm)
  | .alone (.failed failure) | .alone (.panicked payload) => exact ⟨nofun, fun h => nomatch h.2⟩
  | .alone (.value none) => exact ⟨nofun, fun h => nomatch h.2⟩
  | .alone (.value (some w)) =>
    constructor
    · rintro ⟨⟩
      exact ⟨w.property, rfl⟩
    · rintro ⟨-, hbrought⟩
      cases hbrought
      rfl

theorem answer_eq_none_iff : route.answer cache = .value none ↔ route.brought = some none := by
  match route with
  | .refused fault => exact ⟨nofun, nofun⟩
  | .stored .absent | .joined (.ok .absent) | .started (.ok .absent) => exact ⟨fun _ => rfl, fun _ => rfl⟩
  | .joined (.error failure) | .started (.error failure) => exact ⟨nofun, nofun⟩
  | .stored (.value w) | .joined (.ok (.value w)) | .started (.ok (.value w)) =>
    exact ⟨fun h => absurd h typed_ne_none, nofun⟩
  | .alone (.failed failure) | .alone (.panicked payload) => exact ⟨nofun, nofun⟩
  | .alone (.value none) => exact ⟨fun _ => rfl, fun _ => rfl⟩
  | .alone (.value (some w)) => exact ⟨nofun, nofun⟩

end Route

namespace System

/-- The store of the cache that the request asks for holds the value under its key. -/
def Holds (s : System) (request : Request) (v : Value) : Prop :=
  ∃ store key, s.store? request.cache = some store ∧ request.key = .ok key ∧ store.peek s.now key = some (.value v)

theorem reach_of_store? {s : System} {request : Request} {store : LocalStore}
    (h : s.store? request.cache = some store) : s.reach request = .ok (.local store) := by
  obtain ⟨cache, hfind, hstore⟩ := Option.bind_eq_some_iff.1 h
  cases cache with
  | passThrough name => cases hstore
  | «local» other =>
    cases hstore
    have hrequire : s.registry.require request.cache = .ok (.local store) := by rw [Registry.require, hfind]
    rw [reach, hrequire]
    cases request.entryPoint.needsStore with
    | false => rfl
    | true => rfl

/-- A cache that cannot be reached is no matter of types. -/
theorem ne_valueType_of_reach {s : System} {request : Request} {fault : CacheFault} (h : s.reach request = .error fault)
    (cache expected : String) : fault ≠ .valueType cache expected := by
  rw [reach, Registry.require] at h
  cases hfind : s.registry.find? request.cache with
  | none =>
    rw [hfind] at h
    cases h
    nofun
  | some found =>
    rw [hfind] at h
    cases found with
    | «local» store =>
      cases hneeds : request.entryPoint.needsStore with
      | false =>
        rw [hneeds] at h
        cases h
      | true =>
        rw [hneeds] at h
        cases h
    | passThrough name =>
      cases hneeds : request.entryPoint.needsStore with
      | false =>
        rw [hneeds] at h
        cases h
      | true =>
        rw [hneeds] at h
        cases h
        nofun

end System

namespace Lookup

variable {τ : ValueType} {l : Lookup τ}

theorem name_eq (named : l.before.Named) : l.store.name = l.request.cache := named.name_of_find? l.find?

theorem after_of_stored {value : Stored Value} (hfound : l.found = .stored value) :
    l.store.peek l.before.now l.key = some value ∧
      l.after = (l.before.mapStore l.store.name (·.touch l.before.now l.key)).emit
        (.lookedUp l.store.name l.key (.stored value)) := by
  have hlook := lookUp_of_found hfound
  unfold System.lookUp at hlook
  split at hlook
  next other hpeek =>
    obtain ⟨hafter, hsame⟩ := Prod.mk.inj hlook
    cases hsame
    exact ⟨hpeek, hafter.symm⟩
  · split at hlook
    · cases (Prod.mk.inj hlook).2
    · cases (Prod.mk.inj hlook).2

/-- A value that was read is still there, unless upkeep has dropped it from a store with a size limit. -/
theorem holds_of_stored (reached : l.before.Reached) {v : Value} (hfound : l.found = .stored (.value v)) :
    l.after.Holds l.request v ∨
      ∃ store size, l.after.store? l.request.cache = some store ∧ store.tuning.maximumSize = some size := by
  obtain ⟨hpeek, hafter⟩ := after_of_stored hfound
  have hstore : l.after.store? l.store.name = some (l.store.touch l.before.now l.key) := by
    rw [hafter, System.store?_emit, System.store?_mapStore, if_pos rfl, store?_before reached]
    rfl
  rw [name_eq reached.sound.named] at hstore
  rcases LocalStore.keeps_touch hpeek l.key with hkept | ⟨hsize, -⟩
  · refine .inl ⟨_, l.key, hstore, l.key_eq, ?_⟩
    rw [l.now_after, hkept, hpeek]
  · obtain ⟨size, hsize⟩ := Option.isSome_iff_exists.1 hsize
    exact .inr ⟨_, size, hstore, by rw [LocalStore.tuning_touch, hsize]⟩

end Lookup

namespace Get

variable {τ : ValueType}

/-- A get at the type of a value that is there hits it. -/
theorem trail_of_holds {w : System} (reached : w.Reached) {request : Request} {v : Value} (holds : w.Holds request v)
    (like : Loader v.type) : ∃ x key, Trail (.asking request like) [(w, x)] (.value (some ⟨v, rfl⟩)) ∧
      x.history = ⟨w.now, .lookedUp request.cache key (.stored (.value v))⟩ :: w.history := by
  obtain ⟨store, key, hstore, hkey, hpeek⟩ := holds
  let l : Lookup v.type := ⟨w, request, like, key, store, _, _, hkey, System.reach_of_store? hstore, rfl⟩
  have hfound : l.found = .stored (.value v) := by
    show (w.lookUp store ⟨request.label, store.name, key⟩ like).2 = _
    simp only [System.lookUp, hpeek]
  have hpoll := Lookup.poll_of_stored hfound
  rw [System.typed_value_of_eq rfl] at hpoll
  refine ⟨l.after, key, .last hpoll, ?_⟩
  rw [(Lookup.served hfound).history, Lookup.name_eq reached.sound.named]

/-- Every get comes by its answer by a route. -/
theorem takes_of_trail {s t : System} (named : s.Named) {request : Request} {loader : Loader τ}
    {polls : List (System × System)} {answer : Outcome CacheFault (Option (Typed τ))}
    (h : Trail (.asking request loader) ((s, t) :: polls) answer) : ∃ route : Route τ,
      Takes request loader ((s, t) :: polls) route ∧ answer = route.answer request.cache ∧
        Shares request request.cache ((s, t) :: polls) route := by
  have hdeep : s.work + (Get.asking request loader).size = (s.work + loader.size + 4) + 1 := rfl
  cases hkey : request.key with
  | error fault =>
    have hpoll : s.poll (.asking request loader) = (s, .ended (.failed (.invalidKey fault))) := by
      rw [System.poll, hdeep]
      simp only [Get.poll, hkey]
    obtain ⟨rfl, rfl, rfl⟩ := h.of_ended hpoll
    exact ⟨.refused (.invalidKey fault), .unkeyed hkey, rfl, trivial⟩
  | ok key =>
    cases hreach : s.reach request with
    | error fault =>
      have hpoll : s.poll (.asking request loader) = (s, .ended (.failed fault)) := by
        rw [System.poll, hdeep]
        simp only [Get.poll, hkey, hreach]
      obtain ⟨rfl, rfl, rfl⟩ := h.of_ended hpoll
      exact ⟨.refused fault, .refused hreach, rfl, trivial⟩
    | ok cache =>
      rcases cache with store | name
      · let l : Lookup τ := ⟨s, request, loader, key, store, _, _, hkey, hreach, rfl⟩
        have hname : l.store.name = request.cache := Lookup.name_eq (l := l) named
        rw [← hname]
        cases hfound : l.found with
        | stored value => exact Lookup.takes_of_stored hfound h
        | started id => exact Lookup.takes_of_started hfound h
        | joined id => exact Lookup.takes_of_joined hfound h
      · have hown := h.of_poll (System.poll_of_passed hkey hreach loader).symm
        obtain ⟨outcome, rfl⟩ := hown.exists_of_loading
        have hname : name = request.cache := named _ _ (System.find?_of_reach hreach)
        exact ⟨.alone outcome, .passed hkey hreach hown, by rw [hname]; rfl, trivial⟩

/-- A load that the get has started brings no value of another type. -/
theorem sound_of_takes {s t : System} {request : Request} {loader : Loader τ}
    {polls : List (System × System)} {answer : Outcome CacheFault (Option (Typed τ))}
    (h : Trail (.asking request loader) ((s, t) :: polls) answer)
    (guarded : Guarded request loader ((s, t) :: polls)) {route : Route τ}
    (takes : Takes request loader ((s, t) :: polls) route) : route.Sound := by
  cases takes with
  | unkeyed hkey => exact fun _ _ => nofun
  | refused hreach => exact System.ne_valueType_of_reach hreach
  | passed hkey hreach own => trivial
  | stored hl hfound => trivial
  | joined hl hfound hlast told => trivial
  | turned hl hfound hpolls unended timed elapsed own => trivial
  | @started l id _ v _ before outcome hl hfound hlast told =>
    -- the load is tended from the lookup to the poll at which it is found ended
    rw [← hl] at h
    have hpolled := Lookup.tended_of_trail hfound h
    have htended : System.Tended id l.after v := by
      cases before with
      | nil =>
        obtain ⟨hv, -⟩ := List.cons.inj hlast
        cases hv
        exact .refl
      | cons first between =>
        obtain ⟨rfl, hpolls⟩ := List.cons.inj hlast
        exact hpolled.trans (guarded l id t v _ between hl hfound (congrArg _ hpolls))
    match outcome with
    | .error failure | .ok .absent => trivial
    | .ok (.value w) =>
      have hbears : System.Bears l.after id τ :=
        ⟨_, (System.load?_of_started (Lookup.lookUp_of_found hfound)).2, rfl⟩
      exact ((hbears.tended htended).advance _).type_eq told

/-- A value that a get has read is still there, unless upkeep has dropped it from a store with a size limit. -/
theorem holds_of_takes {s t : System} (reached : s.Reached) {request : Request} {loader : Loader τ}
    {polls : List (System × System)} {v : Value}
    (takes : Takes request loader ((s, t) :: polls) (.stored (.value v))) : t.Holds request v ∨
      ∃ store size, t.store? request.cache = some store ∧ store.tuning.maximumSize = some size := by
  cases takes with
  | @stored l _ hl hfound =>
    cases hl
    exact Lookup.holds_of_stored reached hfound

/-- What is true of a get that has come by its answer by the route, in polls of which the first has led from the state
`s` to the state `t`. -/
structure Retrieved (request : Request) (loader : Loader τ) (s t : System) (polls : List (System × System))
    (answer : Outcome CacheFault (Option (Typed τ))) (route : Route τ) : Prop where
  takes : Takes request loader ((s, t) :: polls) route
  answer_eq : answer = route.answer request.cache
  mismatch_iff : ∀ cache expected, answer = .failed (.valueType cache expected) ↔
    cache = request.cache ∧ expected = τ.name ∧ route.Mismatched
  value_iff : ∀ v, answer.mapValue (fun found => found.map (·.val)) = .value (some v) ↔
    v.type = τ ∧ route.brought = some (some v)
  absent_iff : answer = .value none ↔ route.brought = some none
  /-- A get at the type of the value would have been told the value by the very same polls, from the same states to the
  same states. -/
  alike : ∀ v, route.Mismatched → route.brought = some (some v) → ∀ like : Loader v.type,
    Trail (.asking request like) ((s, t) :: polls) (.value (some ⟨v, rfl⟩))
  /-- A value that was read is still there, unless upkeep has dropped it from a store with a size limit. -/
  holds : ∀ v, route = .stored (.value v) → t.Holds request v ∨
    ∃ store size, t.store? request.cache = some store ∧ store.tuning.maximumSize = some size
  /-- As long as the value is there, a get at its type hits it. -/
  hits : ∀ v {w : System}, w.Reached → w.Holds request v → ∀ like : Loader v.type, ∃ x key,
    Trail (.asking request like) [(w, x)] (.value (some ⟨v, rfl⟩)) ∧
    x.history = ⟨w.now, .lookedUp request.cache key (.stored (.value v))⟩ :: w.history

theorem retrieved_of_trail {s t : System} (reached : s.Reached) {request : Request} {loader : Loader τ}
    {polls : List (System × System)} {answer : Outcome CacheFault (Option (Typed τ))}
    (trail : Trail (.asking request loader) ((s, t) :: polls) answer)
    (guarded : Guarded request loader ((s, t) :: polls)) :
    ∃ route, Retrieved request loader s t polls answer route := by
  obtain ⟨route, takes, hanswer, shares⟩ := takes_of_trail reached.sound.named trail
  have sound := sound_of_takes trail guarded takes
  subst hanswer
  refine ⟨route, takes, rfl, fun cache expected => Route.answer_eq_valueType_iff sound,
    fun v => Route.answer_eq_value_iff, Route.answer_eq_none_iff, fun v hmismatch hbrought like => ?_,
    fun v hroute => ?_, fun v w hw holds like => trail_of_holds hw holds like⟩
  · obtain ⟨w, -, rfl | rfl⟩ := hmismatch.exists
    · cases hbrought
      have hlike := shares like
      rwa [System.typed_value_of_eq rfl] at hlike
    · cases hbrought
      have hlike := shares like
      rwa [System.typedResult, System.typed_value_of_eq rfl] at hlike
  · subst hroute
    exact holds_of_takes reached takes

end Get

namespace Session

open Get (Trail Guarded Retrieved)

/-- **Typed retrieval.** The get of every task of a schedule, on the trail of its polls from its request on, and every
get whose own load is tended, comes by its answer by a route. It is told of a mismatch, of its own cache and type, if
and only if the route is a stored value, or the value of a load that another get has started, and the value has another
type. It is told of a value only if that has its own type, and of an absent one whatever its type is. What it is told of
a mismatch changes nothing. -/
theorem typed_retrieval {registry : Registry} (built : registry.Built) (turns : List Turn) :
    (∀ {place : Nat} {task : Task} {u : System} {answer : Outcome CacheFault (Option (Typed task.type))},
      ((Session.start registry).play turns).tasks[place]? = some task →
      ((Session.start registry).play turns).system.poll task.get = (u, .ended answer) →
      ∃ (request : Request) (loader : Loader task.type) (s t : System) (polls : List (System × System))
        (route : Route task.type), .start task.name task.type request loader ∈ turns ∧
        ((s, t) :: polls).getLast? = some (((Session.start registry).play turns).system, u) ∧
          s.Reached ∧ Trail (.asking request loader) ((s, t) :: polls) answer ∧
            Retrieved request loader s t polls answer route) ∧
    ∀ {τ : ValueType} {s t : System} {request : Request} {loader : Loader τ} {polls : List (System × System)}
      {answer : Outcome CacheFault (Option (Typed τ))}, System.Moves ((Session.start registry).play turns).system s →
      Trail (.asking request loader) ((s, t) :: polls) answer → Guarded request loader ((s, t) :: polls) →
      ∃ route, Retrieved request loader s t polls answer route := by
  have reached := System.Reached.play built turns
  refine ⟨fun {place task u answer} hplace hpoll => ?_, fun moves trail guarded => ?_⟩
  · have hstart : (Session.start registry).system.Reached := System.Reached.play built []
    have htrails : ((Session.start registry).play turns).Trails (· ∈ turns) task :=
      trails_play hstart (fun _ => nofun) (fun _ ht => ht) task (List.mem_of_getElem? hplace)
    obtain ⟨request, loader, s, t, polls, hturn, hlast, hs, htrail, hguarded⟩ := htrails.guarded reached hpoll
    obtain ⟨route, hroute⟩ := Get.retrieved_of_trail hs htrail hguarded
    exact ⟨request, loader, s, t, polls, route, hturn, hlast, hs, htrail, hroute⟩
  · exact Get.retrieved_of_trail (reached.moves moves) trail guarded

/-- A get asks for a key of the cache "c". -/
private def wanted (n : Nat) : Request := ⟨"g", "c", .ok (.ofNat n), .registry, .zero⟩

/-- A get that brings a text, and is polled. -/
private def bringing (n : Nat) : List Turn :=
  [.start "a" .text (wanted n) (.done (some ⟨.text "a", rfl⟩)), .poll 0]

/-- The loader of a get that has to wait for it. -/
private def lingering : Loader .text := .sleep 5 (.done (some ⟨.text "b", rfl⟩))

/-- A get asks for a number where a text is stored, and another one waits for the text that its own loader brings. -/
theorem typed_retrieval_of_text :
    (∃ (request : Request) (loader : Loader .number) (s t : System) (polls : List (System × System))
      (route : Route .number), Retrieved request loader s t polls (.failed (.valueType "c" "u32")) route ∧
        request.cache = "c" ∧ route.Mismatched) ∧
    ∃ (s t v u : System) (route : Route .text),
      Retrieved (wanted 1) lingering s t [(v, u)] (.value (some ⟨.text "b", rfl⟩)) route ∧
        route.brought = some (some (.text "b")) := by
  have built : (Registry.sole "c" .unset).Built := Registry.built_sole (by decide) rfl
  constructor
  · obtain ⟨htold, -⟩ := typed_retrieval built (bringing 1 ++ [.start "b" .number (wanted 1) (.done none)])
    obtain ⟨request, loader, s, t, polls, route, -, -, -, -, hroute⟩ :=
      @htold 0 ⟨1, "b", .number, .asking (wanted 1) (.done none)⟩ _ (.failed (.valueType "c" "u32")) rfl
        (Prod.ext rfl rfl)
    obtain ⟨hcache, -, hmismatch⟩ := (hroute.mismatch_iff "c" "u32").1 rfl
    exact ⟨request, loader, s, t, polls, route, hroute, hcache.symm, hmismatch⟩
  · obtain ⟨-, hall⟩ := typed_retrieval built []
    let s : System := (Session.start (.sole "c" .unset)).system
    let t : System := (s.poll (.asking (wanted 1) lingering)).1
    let waits : Get .text := .awaiting "c" (.ofNat 1) 0 none
    have trail : Trail (.asking (wanted 1) lingering) [(s, t), (t.elapse 5, ((t.elapse 5).poll waits).1)]
        (.value (some ⟨.text "b", rfl⟩)) :=
      .more (show s.poll _ = (t, .pending waits) from Prod.ext rfl rfl) (.last (Prod.ext rfl rfl))
    have guarded : Guarded (wanted 1) lingering [(s, t), (t.elapse 5, ((t.elapse 5).poll waits).1)] := by
      intro l id first last u between _ _ hpolls
      obtain ⟨hfirst, hrest⟩ := List.cons.inj hpolls
      have hconcat : [] ++ [(t.elapse 5, ((t.elapse 5).poll waits).1)] = between ++ [(last, u)] := hrest
      obtain ⟨-, hlast⟩ := List.append_inj' hconcat rfl
      rw [← (Prod.mk.inj hfirst).2, ← (Prod.mk.inj (List.cons.inj hlast).1).1]
      exact System.tended_of_eq rfl
    obtain ⟨route, hroute⟩ := hall .refl trail guarded
    exact ⟨s, t, _, _, route, hroute, ((hroute.value_iff (.text "b")).1 rfl).2⟩

/-- A store with room for one value has two, of which the first was read more often. Upkeep is due. -/
private def crowded : System :=
  ((Session.start (.sole "c" { Tuning.unset with maximumSize := some 1 })).play
    (bringing 1 ++ [.elapse 300] ++ bringing 1 ++ bringing 1 ++ bringing 1 ++ bringing 2 ++ [.elapse 300])).system

/-- A get that is told of a mismatch may cost a store with a size limit the value that it has read, so that the next get
at the type of the value has to load it. -/
theorem not_holds_after_mismatch : ∃ t x : System, crowded.Reached ∧ crowded.Holds (wanted 2) (.text "a") ∧
    crowded.poll (.asking (wanted 2) (.done none : Loader .number)) =
      (t, .ended (.failed (.valueType "c" "u32"))) ∧
    ¬ t.Holds (wanted 2) (.text "a") ∧
    t.poll (.asking (wanted 2) (.done (some ⟨.text "z", rfl⟩) : Loader .text)) =
      (x, .ended (.value (some ⟨.text "z", rfl⟩))) := by
  have built : (Registry.sole "c" { Tuning.unset with maximumSize := some 1 }).Built :=
    Registry.built_sole (by decide) rfl
  have hbefore : (crowded.store? "c").map (·.peek crowded.now (.ofNat 2)) = some (some (.value (.text "a"))) := by
    decide +kernel
  refine ⟨_, _, System.Reached.play built _, ?_, Prod.ext rfl rfl, ?_, Prod.ext rfl rfl⟩
  · obtain ⟨store, hstore, hpeek⟩ := Option.map_eq_some_iff.1 hbefore
    exact ⟨store, .ofNat 2, hstore, rfl, hpeek⟩
  · rintro ⟨store, key, hstore, hkey, hpeek⟩
    cases hkey
    have hafter : ((crowded.poll (.asking (wanted 2) (.done none : Loader .number))).1.store? "c").map
        (·.peek crowded.now (.ofNat 2)) = some none := by decide +kernel
    obtain ⟨found, hfound, hnone⟩ := Option.map_eq_some_iff.1 hafter
    obtain rfl : store = found := Option.some.inj (hstore.symm.trans hfound)
    exact absurd (hpeek.symm.trans hnone) nofun

end Session

end SingleFlight
