import SingleFlight.Proofs.Registry

/-!
# Registries as they are described

What a configuration describes is told name by name: the limits of a name are its own where it sets them and the
defaults elsewhere (`Config.limit`), and a name is refused for an expiry that is too long or for being empty
(`Config.Refuses`).

* one step of building looks at nothing but its name: a name that is refused stops the building, and a new one that is
  not gets the cache described for it (`registerFor_of_refuses`, `exists_of_accepted`);
* so building goes on up to the first name that is refused (`foldlM_registerFor`), which is the smallest, as the names
  are taken in ascending order (`ofConfig_of_backend`).
-/

namespace SingleFlight

/-! ### Dictionaries of pairs -/

namespace Dictionary

variable {α : Type u}

private theorem find?_foldl_insert (pairs : List (String × α)) (d : Dictionary α) (name : String) :
    (∃ v, (name, v) ∈ pairs ∧ (pairs.foldl (fun d e => d.insert e.1 e.2) d).find? name = some v) ∨
    (∀ v, (name, v) ∉ pairs) ∧ (pairs.foldl (fun d e => d.insert e.1 e.2) d).find? name = d.find? name := by
  induction pairs generalizing d with
  | nil => exact .inr ⟨fun _ => List.not_mem_nil, rfl⟩
  | cons e pairs ih =>
    obtain ⟨other, w⟩ := e
    rw [List.foldl_cons]
    rcases ih (d.insert other w) with ⟨v, hmem, hfind⟩ | ⟨hnone, hfind⟩
    · exact .inl ⟨v, .tail _ hmem, hfind⟩
    · rw [find?_insert] at hfind
      by_cases heq : name = other
      · subst heq
        rw [if_pos rfl] at hfind
        exact .inl ⟨w, .head _, hfind⟩
      · rw [if_neg heq] at hfind
        refine .inr ⟨fun v hmem => ?_, hfind⟩
        rcases List.mem_cons.mp hmem with hhead | htail
        · exact heq (congrArg Prod.fst hhead)
        · exact hnone v htail

/-- What is found under a name was paired with it. -/
theorem mem_of_find?_ofList {pairs : List (String × α)} {name : String} {v : α}
    (h : (ofList pairs).find? name = some v) : (name, v) ∈ pairs := by
  rcases find?_foldl_insert pairs empty name with ⟨w, hmem, hfind⟩ | ⟨-, hfind⟩
  · cases hfind.symm.trans h
    exact hmem
  · cases hfind.symm.trans h

/-- The entries of a dictionary make the same dictionary again. -/
theorem ofList_entries (d : Dictionary α) : ofList d.entries = d := by
  refine ext_find? fun name => ?_
  have hiff := @lookup_eq_some_iff _ d.entries d.ascending name
  rcases find?_foldl_insert d.entries empty name with ⟨v, hmem, hfind⟩ | ⟨hnone, hfind⟩
  · exact hfind.trans (hiff.mpr hmem).symm
  · have hmissing : d.find? name = none :=
      Option.eq_none_iff_forall_ne_some.mpr fun v h => hnone v (hiff.mp h)
    exact hfind.trans hmissing.symm

theorem mem_keys {d : Dictionary α} {name : String} : name ∈ d.keys ↔ ∃ v, d.find? name = some v := by
  simp only [keys, List.mem_map, find?, lookup_eq_some_iff d.ascending]
  constructor
  · rintro ⟨⟨_, v⟩, hmem, rfl⟩
    exact ⟨v, hmem⟩
  · rintro ⟨v, hmem⟩
    exact ⟨(name, v), hmem, rfl⟩

theorem sorted_keys (d : Dictionary α) : d.keys.Pairwise Text.Before := List.pairwise_map.mpr d.ascending

theorem nodup_keys (d : Dictionary α) : d.keys.Nodup := d.sorted_keys.imp Text.Before.ne

end Dictionary

theorem mem_distinctNames {names : List String} {name : String} : name ∈ distinctNames names ↔ name ∈ names := by
  unfold distinctNames
  rw [Dictionary.mem_keys]
  rcases Dictionary.find?_foldl_insert (names.map fun name => (name, ())) .empty name with
    ⟨_, hmem, hfind⟩ | ⟨hnone, hfind⟩
  · exact ⟨fun _ => by simpa using hmem, fun _ => ⟨_, hfind⟩⟩
  · refine ⟨fun ⟨_, h⟩ => ?_, fun h => absurd (List.mem_map_of_mem h) (hnone ())⟩
    cases hfind.symm.trans h

/-! ### What is described for a name -/

theorem Tuning.check_eq_ok {tuning : Tuning} (h : ∀ kind, tuning.expiryAllowed kind = true) (cache : String) :
    tuning.check cache = .ok () := by
  simp [check, h]

namespace Config

variable {config : Config} {name : String}

/-- A limit of a name: its own, or the default, or none. -/
def limit (config : Config) (field : Tuning → Option α) (name : String) : Option α :=
  ((config.caches.find? name).bind field).or (field config.defaults)

def limits (config : Config) (name : String) : Tuning where
  initialCapacity := config.limit (·.initialCapacity) name
  maximumSize := config.limit (·.maximumSize) name
  expireAfterWrite := config.limit (·.expireAfterWrite) name
  expireAfterAccess := config.limit (·.expireAfterAccess) name
  metricsEnabled := config.limit (·.metricsEnabled) name

/-- The expiry of a name is at most the longest one allowed. -/
def ExpiryAllowed (config : Config) (name : String) (kind : ExpiryKind) : Prop :=
  ∀ d, config.limit (·.expiry kind) name = some d → d ≤ longestExpiry

/-- Why a listed name is refused: if caching is enabled, for its expiries, the one after writing first; and only then
for being empty. -/
inductive Refuses (config : Config) (name : String) : ConfigFault → Prop where
  | afterWrite (enabled : config.enabled = true) (long : ¬ config.ExpiryAllowed name .afterWrite) :
    Refuses config name (.expiryTooLong name .afterWrite)
  | afterAccess (enabled : config.enabled = true) (allowed : config.ExpiryAllowed name .afterWrite)
      (long : ¬ config.ExpiryAllowed name .afterAccess) : Refuses config name (.expiryTooLong name .afterAccess)
  | empty (allowed : config.enabled = true → ∀ kind, config.ExpiryAllowed name kind) (h : name = "") :
    Refuses config name .emptyName

/-- The cache described for a name, as it is at first. -/
def cacheNamed (config : Config) (name : String) : Cache :=
  if config.enabled then .local ⟨name, config.limits name, ∅, ∅, 0, .start⟩ else .passThrough name

@[simp]
theorem name_cacheNamed (config : Config) (name : String) : (config.cacheNamed name).name = name := by
  unfold cacheNamed
  split <;> rfl

theorem of_cacheNamed_eq_local {store : LocalStore} (h : config.cacheNamed name = .local store) :
    config.enabled = true ∧ store.tuning = config.limits name := by
  unfold cacheNamed at h
  split at h
  next enabled =>
    cases h
    exact ⟨enabled, rfl⟩
  next => cases h

theorem tuningOf_eq_limits (config : Config) (name : String) : config.tuningOf name = config.limits name := by
  unfold tuningOf limits limit
  cases config.caches.find? name <;> rfl

theorem expiryAllowed_tuningOf {kind : ExpiryKind} :
    (config.tuningOf name).expiryAllowed kind = true ↔ config.ExpiryAllowed name kind := by
  have hexpiry : (config.tuningOf name).expiry kind = config.limit (·.expiry kind) name := by
    rw [tuningOf_eq_limits]
    cases kind <;> rfl
  rw [Tuning.expiryAllowed, hexpiry, ExpiryAllowed]
  cases config.limit (·.expiry kind) name <;> simp

/-- A name is accepted if it is not empty and, where caching is enabled, none of its expiries is too long. -/
theorem forall_not_refuses_iff : (∀ fault, ¬ config.Refuses name fault) ↔
    name ≠ "" ∧ (config.enabled = true → ∀ kind, config.ExpiryAllowed name kind) := by
  constructor
  · intro accepted
    have hallowed : config.enabled = true → ∀ kind, config.ExpiryAllowed name kind := by
      intro enabled
      have hwrite : config.ExpiryAllowed name .afterWrite := by
        by_contra long
        exact accepted _ (.afterWrite enabled long)
      have haccess : config.ExpiryAllowed name .afterAccess := by
        by_contra long
        exact accepted _ (.afterAccess enabled hwrite long)
      intro kind
      cases kind with
      | afterWrite => exact hwrite
      | afterAccess => exact haccess
    exact ⟨fun hempty => accepted _ (.empty hallowed hempty), hallowed⟩
  · rintro ⟨hname, hallowed⟩ fault refused
    cases refused with
    | afterWrite enabled long => exact long (hallowed enabled _)
    | afterAccess enabled _ long => exact long (hallowed enabled _)
    | empty _ hempty => exact hname hempty

theorem forall_mem_not_refuses_iff {names : List String} :
    (∀ name ∈ names, ∀ fault, ¬ config.Refuses name fault) ↔
      "" ∉ names ∧ (config.enabled = false ∨ ∀ name ∈ names, ∀ kind, config.ExpiryAllowed name kind) := by
  simp only [forall_not_refuses_iff, ← Bool.not_eq_true]
  constructor
  · intro accepted
    refine ⟨fun hempty => (accepted "" hempty).1 rfl, or_iff_not_imp_left.mpr fun enabled name hmem => ?_⟩
    exact (accepted name hmem).2 (not_not.mp enabled)
  · rintro ⟨hempty, hallowed⟩ name hmem
    refine ⟨fun heq => hempty (heq ▸ hmem), fun enabled => ?_⟩
    exact hallowed.resolve_left (not_not.mpr enabled) name hmem

/-- The backend as it is read. -/
def backendWord (config : Config) : String := Text.asciiLower (Text.trimmed config.backendName)

theorem backend_cases (config : Config) :
    (∃ backend : Backend, config.backendWord = backend.name ∧ config.backend = .ok backend) ∨
    (∀ backend : Backend, config.backendWord ≠ backend.name) ∧
      config.backend = .error (.unknownBackend config.backendWord) := by
  have hread : config.backend = if config.backendWord = Backend.bounded.name then .ok .bounded
      else .error (.unknownBackend config.backendWord) := rfl
  rw [hread]
  split
  next h => exact .inl ⟨.bounded, h, rfl⟩
  next h => exact .inr ⟨fun | .bounded => h, rfl⟩

end Config

/-! ### One name after another -/

namespace Registry

variable {config : Config} {registry : Registry} {name : String}

theorem registerFor_of_check (enabled : config.enabled = true) {fault : ConfigFault}
    (h : (config.tuningOf name).check name = .error fault) (registry : Registry) :
    registerFor config registry name = .error fault := by
  rw [registerFor, cacheFor, if_pos enabled, Cache.createLocal, LocalStore.create, h]
  rfl

theorem cacheFor_of_allowed (allowed : config.enabled = true → ∀ kind, config.ExpiryAllowed name kind) :
    cacheFor config name = .ok (config.cacheNamed name) := by
  unfold cacheFor Config.cacheNamed
  split
  next enabled =>
    have hcheck : (config.tuningOf name).check name = .ok () :=
      Tuning.check_eq_ok (fun kind => Config.expiryAllowed_tuningOf.mpr (allowed enabled kind)) name
    rw [Cache.createLocal, LocalStore.create, hcheck, Config.tuningOf_eq_limits]
    rfl
  next => rfl

/-- A name that is refused stops the building. -/
theorem registerFor_of_refuses {fault : ConfigFault} (refused : config.Refuses name fault) (registry : Registry) :
    registerFor config registry name = .error fault := by
  cases refused with
  | afterWrite enabled long =>
    rw [← Config.expiryAllowed_tuningOf] at long
    exact registerFor_of_check enabled (by simp [Tuning.check, long]) registry
  | afterAccess enabled allowed long =>
    rw [← Config.expiryAllowed_tuningOf] at allowed long
    exact registerFor_of_check enabled (by simp [Tuning.check, allowed, long]) registry
  | empty allowed hempty =>
    rw [registerFor, cacheFor_of_allowed allowed]
    exact if_pos ((config.name_cacheNamed name).trans hempty)

/-- A new name that is not refused gets the cache described for it. -/
theorem exists_of_accepted (accepted : ∀ fault, ¬ config.Refuses name fault) (hnew : registry.find? name = none) :
    ∃ next, registerFor config registry name = .ok next ∧
      ∀ other, next.find? other = if other = name then some (config.cacheNamed name) else registry.find? other := by
  obtain ⟨hname, hallowed⟩ := Config.forall_not_refuses_iff.mp accepted
  have hfree : registry.caches.contains name = false := by
    rw [Dictionary.contains, show registry.caches.find? name = none from hnew]
    rfl
  have hregister : registry.register (config.cacheNamed name) =
      .ok ⟨registry.caches.insert name (config.cacheNamed name)⟩ := by
    simp [register, hname, hfree]
  refine ⟨_, by rw [registerFor, cacheFor_of_allowed hallowed]; exact hregister, fun other => ?_⟩
  rw [find?_register hregister, config.name_cacheNamed]

/-- New names, each listed once, get their caches one by one, up to the first name that is refused. -/
theorem foldlM_registerFor (config : Config) (names : List String) (registry : Registry) (hnodup : names.Nodup)
    (hnew : ∀ name ∈ names, registry.find? name = none) :
    ((∀ name ∈ names, ∀ fault, ¬ config.Refuses name fault) ∧
      ∃ built, names.foldlM (registerFor config) registry = .ok built ∧
        ∀ name, built.find? name = if name ∈ names then some (config.cacheNamed name) else registry.find? name) ∨
    ∃ before name after fault, names = before ++ name :: after ∧
      (∀ other ∈ before, ∀ fault, ¬ config.Refuses other fault) ∧ config.Refuses name fault ∧
      names.foldlM (registerFor config) registry = .error fault := by
  induction names generalizing registry with
  | nil => exact .inl ⟨nofun, registry, rfl, fun _ => rfl⟩
  | cons name names ih =>
    rw [List.foldlM_cons]
    by_cases hrefused : ∃ fault, config.Refuses name fault
    · obtain ⟨fault, refused⟩ := hrefused
      rw [registerFor_of_refuses refused]
      exact .inr ⟨[], name, names, fault, rfl, nofun, refused, rfl⟩
    · have accepted : ∀ fault, ¬ config.Refuses name fault := not_exists.mp hrefused
      obtain ⟨hnot, hrest⟩ := List.nodup_cons.mp hnodup
      obtain ⟨next, hnext, hadded⟩ := exists_of_accepted accepted (hnew name (.head _))
      have hfresh : ∀ other ∈ names, next.find? other = none := by
        intro other hmem
        rw [hadded, if_neg (by rintro rfl; exact hnot hmem)]
        exact hnew other (.tail _ hmem)
      rw [hnext]
      rcases ih next hrest hfresh with
        ⟨hall, built, hfold, hfind⟩ | ⟨before, other, after, fault, rfl, hbefore, refused, hfold⟩
      · refine .inl ⟨List.forall_mem_cons.mpr ⟨accepted, hall⟩, built, hfold, fun other => ?_⟩
        rw [hfind, hadded]
        by_cases heq : other = name <;> simp [heq]
      · have hfirst := List.forall_mem_cons.mpr ⟨accepted, hbefore⟩
        exact .inr ⟨name :: before, other, after, fault, rfl, hfirst, refused, hfold⟩

/-! ### From a list in any order -/

theorem mem_names_iff {registry : Registry} {name : String} :
    name ∈ registry.names ↔ (registry.find? name).isSome := by
  rw [names, Dictionary.mem_keys, Option.isSome_iff_exists]
  rfl

/-- With a backend that is known, the building goes by the names: all are accepted and get their caches, or the
smallest one that is refused says why. -/
theorem ofConfig_of_backend {backend : Backend} (known : config.backend = .ok backend) (names : List String) :
    ((∀ name ∈ names, ∀ fault, ¬ config.Refuses name fault) ∧
      ∃ built, ofConfig names config = .ok built ∧
        ∀ name, built.find? name = if name ∈ names then some (config.cacheNamed name) else none) ∨
    ∃ name ∈ names, ∃ fault, config.Refuses name fault ∧ ofConfig names config = .error fault ∧
      ∀ other ∈ names, Text.Before other name → ∀ fault, ¬ config.Refuses other fault := by
  rw [ofConfig_eq, known]
  show (_ ∧ ∃ built, (distinctNames names).foldlM (registerFor config) empty = _ ∧ _) ∨
    ∃ name ∈ names, ∃ fault, _ ∧ (distinctNames names).foldlM (registerFor config) empty = _ ∧ _
  simp only [← @mem_distinctNames names]
  have hsorted : (distinctNames names).Pairwise Text.Before := Dictionary.sorted_keys _
  have hnodup : (distinctNames names).Nodup := Dictionary.nodup_keys _
  rcases foldlM_registerFor config (distinctNames names) empty hnodup (fun _ _ => rfl) with
    haccepted | ⟨before, name, after, fault, heq, hbefore, refused, hfold⟩
  · exact .inl haccepted
  · rw [heq] at hsorted
    have hafter := (List.pairwise_cons.mp (List.pairwise_append.mp hsorted).2.1).1
    refine .inr ⟨name, by simp [heq], fault, refused, hfold, fun other hmem hless => ?_⟩
    rw [heq] at hmem
    rcases List.mem_append.mp hmem with hmem | hmem
    · exact hbefore other hmem
    · rcases List.mem_cons.mp hmem with rfl | hmem
      · exact absurd hless (Text.Before.irrefl _)
      · exact absurd hless (hafter other hmem).asymm

/-- A registry finds the caches that its configuration describes, under the names that were listed and no others. -/
theorem find?_ofConfig {names : List String} (h : ofConfig names config = .ok registry) (name : String) :
    registry.find? name = if name ∈ names then some (config.cacheNamed name) else none := by
  obtain ⟨backend, known, -⟩ := exists_of_bind_eq_ok (ofConfig_eq names config ▸ h)
  rcases ofConfig_of_backend known names with ⟨-, built, hbuilt, hfind⟩ | ⟨_, -, fault, -, hfault, -⟩
  · cases hbuilt.symm.trans h
    exact hfind name
  · cases hfault.symm.trans h

theorem cacheNamed_of_find? {names : List String} (h : ofConfig names config = .ok registry) {cache : Cache}
    (hfind : registry.find? name = some cache) : cache = config.cacheNamed name := by
  rw [find?_ofConfig h] at hfind
  split at hfind
  · exact (Option.some.inj hfind).symm
  · cases hfind

/-- **A configuration builds the registry it describes.** A registry is built exactly if the backend is known, no listed
name is empty and, where caching is enabled, no expiry of a listed name is too long. It then holds the listed names in
ascending order, each once, with the caches described for them. If it is not built, the backend is not known, or the
smallest of the names that are refused tells the fault. -/
theorem ofConfig_described (names : List String) (config : Config) :
    ((∃ registry, ofConfig names config = .ok registry) ↔
      (∃ backend : Backend, config.backendWord = backend.name) ∧ "" ∉ names ∧
      (config.enabled = false ∨ ∀ name ∈ names, ∀ kind, config.ExpiryAllowed name kind)) ∧
    (∀ registry, ofConfig names config = .ok registry →
      registry.names.Pairwise Text.Before ∧ (∀ name, name ∈ registry.names ↔ name ∈ names) ∧
      ∀ name ∈ names, registry.find? name = some (config.cacheNamed name)) ∧
    ∀ fault, ofConfig names config = .error fault →
      (∀ backend : Backend, config.backendWord ≠ backend.name) ∧ fault = .unknownBackend config.backendWord ∨
      (∃ backend : Backend, config.backendWord = backend.name) ∧
        ∃ name ∈ names, config.Refuses name fault ∧
          ∀ other ∈ names, Text.Before other name → ∀ fault, ¬ config.Refuses other fault := by
  rcases config.backend_cases with ⟨backend, hname, known⟩ | ⟨hunknown, hfault⟩
  · have hknown : ∃ backend : Backend, config.backendWord = backend.name := ⟨backend, hname⟩
    rw [← Config.forall_mem_not_refuses_iff]
    rcases ofConfig_of_backend known names with
      ⟨accepted, built, hbuilt, hfind⟩ | ⟨name, hmem, fault, refused, hfault, hfirst⟩
    · refine ⟨⟨fun _ => ⟨hknown, accepted⟩, fun _ => ⟨built, hbuilt⟩⟩, fun registry hok => ?_, fun fault herr => ?_⟩
      · cases hbuilt.symm.trans hok
        refine ⟨built.caches.sorted_keys, fun name => ?_, fun name hmem => by rw [hfind, if_pos hmem]⟩
        rw [mem_names_iff, hfind]
        split <;> simp_all
      · cases hbuilt.symm.trans herr
    · refine ⟨⟨fun ⟨registry, hok⟩ => ?_, fun ⟨_, accepted⟩ => ?_⟩, fun registry hok => ?_, fun other herr => ?_⟩
      · cases hfault.symm.trans hok
      · exact absurd refused (accepted name hmem fault)
      · cases hfault.symm.trans hok
      · cases hfault.symm.trans herr
        exact .inr ⟨hknown, name, hmem, refused, hfirst⟩
  · have herror : ofConfig names config = .error (.unknownBackend config.backendWord) := by
      rw [ofConfig_eq, hfault]
      rfl
    refine ⟨⟨fun ⟨registry, hok⟩ => ?_, fun ⟨⟨backend, hname⟩, _⟩ => ?_⟩, fun registry hok => ?_, fun fault herr => ?_⟩
    · cases herror.symm.trans hok
    · exact absurd hname (hunknown backend)
    · cases herror.symm.trans hok
    · cases herror.symm.trans herr
      exact .inl ⟨hunknown, rfl⟩

/-- What was read is kept for two thousand years, but for the users. -/
private def patient : Config where
  enabled := true
  backendName := " Moka "
  defaults := ⟨none, some 10, none, some (.ofSeconds (2 * longestExpirySeconds)), none⟩
  caches := (∅ : Dictionary Tuning).insert "users" ⟨none, none, none, some (.ofSeconds 60), none⟩

/-- The users have a cache with an expiry of their own and the default size. A cache without a name is refused for its
expiry, not for its name. -/
theorem ofConfig_described_by_overrides :
    (∃ registry, ofConfig ["users", "users"] patient = .ok registry ∧ registry.find? "users" =
      some (.local ⟨"users", ⟨none, some 10, none, some (.ofSeconds 60), none⟩, ∅, ∅, 0, .start⟩)) ∧
    ofConfig ["users", ""] patient = .error (.expiryTooLong "" .afterAccess) ∧
      ∃ name ∈ ["users", ""], patient.Refuses name (.expiryTooLong "" .afterAccess) := by
  have hbuilt := (ofConfig_described ["users", "users"] patient).2.1 _ rfl
  have hfailed := (ofConfig_described ["users", ""] patient).2.2 (.expiryTooLong "" .afterAccess) rfl
  refine ⟨⟨_, rfl, hbuilt.2.2 "users" (by decide)⟩, rfl, ?_⟩
  rcases hfailed with ⟨-, hfault⟩ | ⟨-, name, hmem, refused, -⟩
  · cases hfault
  · exact ⟨name, hmem, refused⟩

end Registry

end SingleFlight
