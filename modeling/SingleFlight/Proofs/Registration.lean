import Mathlib.Data.List.Nodup
import SingleFlight.Proofs.Building

/-!
# Registering one cache after another

A registry is built by calls, each with a cache, and calls go on after one that failed.

* a call succeeds if its cache has a name that is not registered yet, and a call that fails changes nothing
  (`register_cases`, `add_of_error`);
* so a name finds the cache of the first call that succeeded for it (`find?_foldl_add`), which is the first call with
  that name at all (`find?_built`), and there are as many caches as calls that succeeded (`size_foldl_add`);
* what a name finds depends on the calls with that name only, so calls with different names may change places
  (`foldl_add_congr`).
-/

namespace SingleFlight

namespace Dictionary

variable {α : Type u}

theorem length_insertEntry {name : String} (v : α) {l : List (String × α)} (h : l.lookup name = none) :
    (insertEntry name v l).length = l.length + 1 := by
  induction l with
  | nil => rfl
  | cons e l ih =>
    obtain ⟨other, w⟩ := e
    rw [Assoc.lookup_cons_if] at h
    have hne : name ≠ other := by
      rintro rfl
      rw [if_pos rfl] at h
      cases h
    rw [if_neg hne] at h
    rw [insertEntry]
    split
    next => rfl
    next heq => exact absurd (Std.LawfulEqCmp.eq_of_compare heq) hne
    next => rw [List.length_cons, ih h, List.length_cons]

/-- A new name makes a dictionary longer by one. -/
theorem size_insert_of_new {d : Dictionary α} {name : String} (v : α) (h : d.find? name = none) :
    (d.insert name v).size = d.size + 1 := length_insertEntry v h

end Dictionary

namespace Registry

variable {registry next : Registry} {cache : Cache} {name : String}

/-! ### One call -/

/-- A call fails for an empty name or for one that is registered, and otherwise adds the cache under its name. -/
theorem register_cases (registry : Registry) (cache : Cache) :
    (cache.name = "" ∧ registry.register cache = .error .emptyName) ∨
    (cache.name ≠ "" ∧ (registry.find? cache.name).isSome = true ∧
      registry.register cache = .error (.duplicateName cache.name)) ∨
    (cache.name ≠ "" ∧ registry.find? cache.name = none ∧
      registry.register cache = .ok ⟨registry.caches.insert cache.name cache⟩) := by
  by_cases hname : cache.name = ""
  · exact .inl ⟨hname, if_pos hname⟩
  · have hregister : registry.register cache = if (registry.find? cache.name).isSome
        then .error (.duplicateName cache.name) else .ok ⟨registry.caches.insert cache.name cache⟩ := if_neg hname
    cases hfind : registry.find? cache.name with
    | some held => exact .inr (.inl ⟨hname, rfl, by rw [hregister, hfind]; rfl⟩)
    | none => exact .inr (.inr ⟨hname, rfl, by rw [hregister, hfind]; rfl⟩)

/-- What a call comes to. -/
def outcome (registry : Registry) (cache : Cache) : Except ConfigFault Unit := (fun _ => ()) <$> registry.register cache

/-- The registry after a call. -/
def add (registry : Registry) (cache : Cache) : Registry :=
  match registry.register cache with
  | .ok next => next
  | .error _ => registry

theorem outcome_eq_ok : registry.outcome cache = .ok () ↔ cache.name ≠ "" ∧ registry.find? cache.name = none := by
  rw [outcome]
  rcases register_cases registry cache with ⟨hname, heq⟩ | ⟨hname, hsome, heq⟩ | ⟨hname, hnone, heq⟩
  · simp [heq, hname]
  · simp [heq, Option.isSome_iff_ne_none.mp hsome]
  · simp [heq, hname, hnone]

theorem fault_of_outcome {fault : ConfigFault} (h : registry.outcome cache = .error fault) :
    fault = if cache.name = "" then .emptyName else .duplicateName cache.name := by
  have herror : registry.register cache = .error fault := eq_error_of_map_eq_error h
  rcases register_cases registry cache with ⟨hname, heq⟩ | ⟨hname, -, heq⟩ | ⟨-, -, heq⟩
  · cases heq.symm.trans herror
    exact (if_pos hname).symm
  · cases heq.symm.trans herror
    exact (if_neg hname).symm
  · cases heq.symm.trans herror

theorem add_of_error {fault : ConfigFault} (h : registry.outcome cache = .error fault) :
    registry.add cache = registry := by
  rw [add, eq_error_of_map_eq_error h]

/-- A call adds its cache under a name that is not empty and finds nothing yet. -/
theorem find?_add (registry : Registry) (cache : Cache) (name : String) :
    (registry.add cache).find? name =
      (registry.find? name).or (if cache.name = name ∧ name ≠ "" then some cache else none) := by
  rw [add]
  rcases register_cases registry cache with ⟨hname, heq⟩ | ⟨-, hsome, heq⟩ | ⟨hname, hnone, heq⟩
  · rw [heq, if_neg (fun h => h.2 (h.1.symm.trans hname)), Option.or_none]
  · rw [heq]
    by_cases h : cache.name = name
    · rw [← h]
      exact (Option.or_of_isSome hsome).symm
    · rw [if_neg (fun h' => h h'.1), Option.or_none]
  · rw [heq]
    refine (Dictionary.find?_insert ..).trans ?_
    by_cases h : name = cache.name
    · subst h
      rw [if_pos rfl, if_pos ⟨rfl, hname⟩, hnone, Option.none_or]
    · rw [if_neg h, if_neg (fun h' => h h'.1.symm), Option.or_none]
      rfl

theorem find?_add_of_outcome (registry : Registry) (cache : Cache) (name : String) :
    (registry.add cache).find? name =
      (registry.find? name).or (if registry.outcome cache = .ok () ∧ cache.name = name then some cache else none) := by
  simp only [find?_add, outcome_eq_ok]
  by_cases h : cache.name = name
  · subst h
    cases registry.find? cache.name <;> simp
  · simp [h]

theorem size_add (registry : Registry) (cache : Cache) :
    (registry.add cache).size = registry.size + if registry.outcome cache = .ok () then 1 else 0 := by
  rcases register_cases registry cache with ⟨-, heq⟩ | ⟨-, -, heq⟩ | ⟨hname, hnone, heq⟩
  · simp [add, outcome, heq]
  · simp [add, outcome, heq]
  · rw [if_pos (outcome_eq_ok.mpr ⟨hname, hnone⟩), add, heq]
    exact Dictionary.size_insert_of_new cache hnone

/-! ### Calls in a row -/

/-- The calls with what they come to. -/
def answers (registry : Registry) : List Cache → List (Cache × Except ConfigFault Unit)
  | [] => []
  | cache :: rest => (cache, registry.outcome cache) :: answers (registry.add cache) rest

theorem map_fst_answers (registry : Registry) (calls : List Cache) :
    (registry.answers calls).map (·.1) = calls := by
  induction calls generalizing registry with
  | nil => rfl
  | cons cache rest ih => exact congrArg _ (ih _)

/-- Each call is answered by the registry that the calls before it left. -/
theorem eq_outcome_of_answers {calls : List Cache} {before after : List (Cache × Except ConfigFault Unit)}
    {result : Except ConfigFault Unit} (h : registry.answers calls = before ++ (cache, result) :: after) :
    result = ((before.map (·.1)).foldl add registry).outcome cache := by
  induction before generalizing registry calls with
  | nil =>
    cases calls with
    | nil => cases h
    | cons first rest =>
      cases h
      rfl
  | cons earlier before ih =>
    cases calls with
    | nil => cases h
    | cons first rest =>
      obtain ⟨rfl, hrest⟩ := List.cons.inj h
      exact ih hrest

theorem answers_before {calls : List Cache} {before after : List (Cache × Except ConfigFault Unit)}
    (h : registry.answers calls = before ++ after) : registry.answers (before.map (·.1)) = before := by
  induction before generalizing registry calls with
  | nil => rfl
  | cons earlier before ih =>
    cases calls with
    | nil => cases h
    | cons first rest =>
      obtain ⟨rfl, hrest⟩ := List.cons.inj h
      exact congrArg _ (ih hrest)

/-- A name finds what it found before, or else the cache of the first call that succeeded for it. -/
theorem find?_foldl_add (registry : Registry) (calls : List Cache) (name : String) :
    (calls.foldl add registry).find? name = (registry.find? name).or
      (((registry.answers calls).find? fun e => e.2 = .ok () ∧ e.1.name = name).map (·.1)) := by
  induction calls generalizing registry with
  | nil => exact Option.or_none.symm
  | cons cache rest ih =>
    rw [List.foldl_cons, ih, find?_add_of_outcome, Option.or_assoc, answers, List.find?_cons]
    by_cases h : registry.outcome cache = .ok () ∧ cache.name = name <;> simp [h]

/-- Whether a call succeeds hangs on the calls of its own name only: the first of them does, if it has a name. -/
theorem find?_foldl_add_eq_first (registry : Registry) (calls : List Cache) (name : String) :
    (calls.foldl add registry).find? name = (registry.find? name).or
      (if name = "" then none else calls.find? fun cache => cache.name = name) := by
  induction calls generalizing registry with
  | nil => simp
  | cons cache rest ih =>
    rw [List.foldl_cons, ih, find?_add, Option.or_assoc, List.find?_cons]
    by_cases hname : name = "" <;> by_cases h : cache.name = name <;> simp [hname, h]

theorem size_foldl_add (registry : Registry) (calls : List Cache) :
    (calls.foldl add registry).size =
      registry.size + (registry.answers calls).countP fun e => e.2 = .ok () := by
  induction calls generalizing registry with
  | nil => rfl
  | cons cache rest ih =>
    rw [List.foldl_cons, ih, size_add, answers, List.countP_cons]
    simp only [decide_eq_true_eq]
    omega

/-- Registries that find the same under every name are equal. -/
theorem ext_find? {a b : Registry} (h : ∀ name, a.find? name = b.find? name) : a = b :=
  congrArg mk (Dictionary.ext_find? h)

/-- Calls may change places as long as the calls of each name keep their order. -/
theorem foldl_add_congr (registry : Registry) {calls others : List Cache}
    (h : ∀ name, others.filter (fun cache => cache.name = name) = calls.filter (fun cache => cache.name = name)) :
    others.foldl add registry = calls.foldl add registry := by
  refine ext_find? fun name => ?_
  rw [find?_foldl_add_eq_first, find?_foldl_add_eq_first, ← List.head?_filter, ← List.head?_filter, h]

/-- With no name twice, any order of the calls keeps those of each name as they are. -/
theorem filter_name_of_perm {calls others : List Cache} (h : calls.Perm others) (hnodup : (calls.map Cache.name).Nodup)
    (name : String) :
    others.filter (fun cache => cache.name = name) = calls.filter (fun cache => cache.name = name) := by
  have hperm := h.filter fun cache => decide (cache.name = name)
  have hlength : (calls.filter fun cache => cache.name = name).length ≤ 1 := by
    rw [← List.countP_eq_length_filter]
    have hcount := List.nodup_iff_count_le_one.mp hnodup name
    rw [List.count, List.countP_map] at hcount
    exact hcount
  generalize calls.filter (fun cache => cache.name = name) = own at hperm hlength ⊢
  match own, hlength with
  | [], _ => exact List.nil_perm.mp hperm
  | [_], _ => exact List.singleton_perm.mp hperm |>.symm

/-! ### A registry built by calls -/

/-- After the calls a name finds the cache of the first of them that succeeded for it. -/
theorem find?_built {calls : List Cache} :
    (calls.foldl add ∅).find? name = some cache ↔
      ∃ before after, answers ∅ calls = before ++ (cache, .ok ()) :: after ∧ cache.name = name ∧
        ∀ other, (other, .ok ()) ∈ before → other.name ≠ name := by
  rw [find?_foldl_add, show (∅ : Registry).find? name = none from rfl, Option.none_or, Option.map_eq_some_iff]
  simp only [List.find?_eq_some_iff_append, decide_eq_true_eq]
  constructor
  · rintro ⟨⟨_, result⟩, ⟨⟨rfl, hname⟩, before, after, hsplit, hbefore⟩, rfl⟩
    exact ⟨before, after, hsplit, hname, fun other hmem h => by simpa [h] using hbefore _ hmem⟩
  · rintro ⟨before, after, hsplit, hname, hbefore⟩
    refine ⟨_, ⟨⟨rfl, hname⟩, before, after, hsplit, ?_⟩, rfl⟩
    rintro ⟨other, result⟩ hmem
    have hother : result = .ok () → other.name ≠ name := by
      rintro rfl
      exact hbefore other hmem
    simpa [imp_iff_not_or] using hother

theorem find?_built_eq_none {calls : List Cache} :
    (calls.foldl add ∅).find? name = none ↔
      ∀ other, (other, .ok ()) ∈ answers ∅ calls → other.name ≠ name := by
  rw [find?_foldl_add, show (∅ : Registry).find? name = none from rfl, Option.none_or, Option.map_eq_none_iff,
    List.find?_eq_none, Prod.forall]
  simp only [decide_eq_true_eq, not_and]
  exact ⟨fun h other hmem => h other _ hmem rfl, fun h other _ hmem hok => h other (hok ▸ hmem)⟩

/-- **The first registration of a name counts.** Of any calls in a row, one succeeds exactly if its cache has a name
that is not empty and no earlier call succeeded for that name. A call that fails tells which of the two it was, leaves
the registry as it is, and might as well not have been made. The registry then lists the names of the calls that
succeeded, each once and in ascending order, as many as these calls, and each name finds the cache of the first of
them. Calls with different names may be made in any order. -/
theorem first_registration_counts (calls : List Cache) :
    ((answers ∅ calls).map (·.1) = calls ∧
      ∀ before cache result after, answers ∅ calls = before ++ (cache, result) :: after →
        (result = .ok () ↔ cache.name ≠ "" ∧ ∀ other, (other, .ok ()) ∈ before → other.name ≠ cache.name) ∧
        ∀ fault, result = .error fault →
          fault = (if cache.name = "" then .emptyName else .duplicateName cache.name) ∧
          (before.map (·.1) ++ [cache]).foldl add ∅ = (before.map (·.1)).foldl add ∅ ∧
          ((before ++ after).map (·.1)).foldl add ∅ = calls.foldl add ∅) ∧
    (calls.foldl add ∅).names.Pairwise Text.Before ∧
    (∀ name, name ∈ (calls.foldl add ∅).names ↔ ∃ cache, (cache, .ok ()) ∈ answers ∅ calls ∧ cache.name = name) ∧
    (∀ name cache, (calls.foldl add ∅).find? name = some cache ↔
      ∃ before after, answers ∅ calls = before ++ (cache, .ok ()) :: after ∧ cache.name = name ∧
        ∀ other, (other, .ok ()) ∈ before → other.name ≠ name) ∧
    (calls.foldl add ∅).size = (answers ∅ calls).countP (fun e => e.2 = .ok ()) ∧
    (∀ others : List Cache,
      (∀ name, others.filter (fun cache => cache.name = name) = calls.filter (fun cache => cache.name = name)) →
        others.foldl add ∅ = calls.foldl add ∅) ∧
    (∀ others, calls.Perm others → (calls.map Cache.name).Nodup → others.foldl add ∅ = calls.foldl add ∅) := by
  refine ⟨⟨map_fst_answers ∅ calls, fun before cache result after hsplit => ⟨?_, fun fault hfault => ?_⟩⟩,
    (calls.foldl add ∅).caches.sorted_keys, fun name => ?_, fun name cache => find?_built, ?_,
    fun others => foldl_add_congr ∅, fun others h hnodup => foldl_add_congr ∅ (filter_name_of_perm h hnodup)⟩
  · rw [eq_outcome_of_answers hsplit, outcome_eq_ok, find?_built_eq_none, answers_before hsplit]
  · have houtcome := (eq_outcome_of_answers hsplit).symm.trans hfault
    have hadd := add_of_error houtcome
    refine ⟨fault_of_outcome houtcome, by rw [List.foldl_append]; exact hadd, ?_⟩
    have hcalls : before.map (·.1) ++ cache :: after.map (·.1) = calls := by
      rw [← map_fst_answers ∅ calls, hsplit, List.map_append, List.map_cons]
    rw [← hcalls, List.map_append, List.foldl_append, List.foldl_append, List.foldl_cons, hadd]
  · rw [mem_names_iff, Option.isSome_iff_ne_none, ne_eq, find?_built_eq_none]
    push Not
    rfl
  · rw [size_foldl_add]
    exact Nat.zero_add _

/-- A cache with counters, the same name without them, no name at all, and another name. -/
private def fourCalls : List Cache :=
  [.local ⟨"users", ⟨none, none, none, none, some true⟩, ∅, ∅, 0, .start⟩, .passThrough "users", .passThrough "",
    .passThrough "orders"]

/-- The first and the last call succeed. The first cache for the users stays, and the last call might as well have been
the first. -/
theorem first_registration_counts_of_four :
    (answers ∅ fourCalls).map (·.2) =
      [.ok (), .error (.duplicateName "users"), .error .emptyName, .ok ()] ∧
    ((fourCalls.foldl add ∅).find? "users").map Cache.kind = some "local" ∧
    (fourCalls.foldl add ∅).names = ["orders", "users"] ∧
    (fourCalls.foldl add ∅).size = 2 ∧
    (Cache.passThrough "orders" :: fourCalls.take 3).foldl add ∅ = fourCalls.foldl add ∅ := by
  have counts := first_registration_counts fourCalls
  refine ⟨rfl, rfl, rfl, counts.2.2.2.2.1, counts.2.2.2.2.2.1 _ fun name => ?_⟩
  by_cases hname : "orders" = name
  · subst hname
    rfl
  · have hother : decide ("orders" = name) = false := decide_eq_false hname
    simp [fourCalls, List.filter_cons, show (Cache.passThrough "orders").name = "orders" from rfl, hother]

end Registry

end SingleFlight
