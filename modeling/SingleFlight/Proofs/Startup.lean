import SingleFlight.Proofs.Building
import SingleFlight.Startup

/-!
# Loaded settings always build

Expiries are checked twice: in milliseconds when settings are loaded, override by override and under their keys, and
as durations when a store is created, after the override has been laid over the defaults.

* an expiry that loading admits is one that a store admits (`le_of_checkExpiry`), and laying one tuning over another
  takes every expiry from one of the two, so what loading admits stays admissible under every name
  (`Config.Sound`, `sound_of_ofDraft`);
* a sound configuration refuses nothing but the empty name (`Config.Sound.refuses_iff`), so what was loaded builds a
  registry for all names but that one (`Registry.ofConfig_of_sound`).
-/

namespace SingleFlight

/-! ### Tunings that a store can keep to -/

namespace Tuning

theorem expiry_overlay (own defaults : Tuning) (kind : ExpiryKind) :
    (own.overlay defaults).expiry kind = (own.expiry kind).or (defaults.expiry kind) := by
  cases kind <;> rfl

/-- Each expiry of an overlaid tuning is that of one of the two. -/
theorem expiryAllowed_overlay {own defaults : Tuning} {kind : ExpiryKind} (hown : own.expiryAllowed kind = true)
    (hdefaults : defaults.expiryAllowed kind = true) : (own.overlay defaults).expiryAllowed kind = true := by
  unfold expiryAllowed at *
  rw [expiry_overlay]
  cases hexpiry : own.expiry kind with
  | none => exact hdefaults
  | some d => simpa [hexpiry] using hown

end Tuning

/-! ### What loading admits -/

namespace Settings

/-- Loading admits an expiry if and only if it is at least a millisecond and at most the longest one allowed. -/
theorem checkExpiry_eq_ok {key : String} {ms : Nat} {expiry : Option Duration} :
    checkExpiry key (some ms) = .ok expiry ↔
      ms ≠ 0 ∧ Duration.ofMillis ms ≤ longestExpiry ∧ expiry = some (.ofMillis ms) := by
  simp only [checkExpiry]
  by_cases hzero : ms = 0
  · simp [hzero]
  · by_cases hlong : longestExpiry < .ofMillis ms
    · have hnot : ¬ Duration.ofMillis ms ≤ longestExpiry := Nat.not_le.mpr hlong
      simp [hzero, hlong, hnot]
    · have hle : Duration.ofMillis ms ≤ longestExpiry := Nat.not_lt.mp hlong
      simp [hzero, hlong, hle, eq_comm]

theorem le_of_checkExpiry {key : String} {ms : Option Nat} {d : Duration}
    (h : checkExpiry key ms = .ok (some d)) : d ≤ longestExpiry := by
  cases ms with
  | none => cases h
  | some ms =>
    obtain ⟨-, hle, heq⟩ := checkExpiry_eq_ok.mp h
    cases heq
    exact hle

theorem allowed_of_checkTuning {key : String} {draft : TuningDraft} {tuning : Tuning}
    (h : checkTuning key draft = .ok tuning) (kind : ExpiryKind) : tuning.expiryAllowed kind = true := by
  obtain ⟨write, hwrite, h⟩ := exists_of_bind_eq_ok h
  obtain ⟨access, haccess, h⟩ := exists_of_bind_eq_ok h
  cases h
  cases kind with
  | afterWrite =>
    cases write with
    | none => rfl
    | some d => exact decide_eq_true (le_of_checkExpiry hwrite)
  | afterAccess =>
    cases access with
    | none => rfl
    | some d => exact decide_eq_true (le_of_checkExpiry haccess)

end Settings

/-- A configuration that registries can be built from: its backend is known, and what it makes of any name is a tuning
that a store can keep to. -/
structure Config.Sound (config : Config) : Prop where
  backend : config.backend = .ok .bounded
  allowed (name : String) (kind : ExpiryKind) : (config.tuningOf name).expiryAllowed kind = true

namespace Settings

theorem backend_of_checkBackend {draft : CacheDraft} {name : String} (h : checkBackend draft = .ok name) :
    Backend.ofName name = .ok .bounded := by
  unfold checkBackend at h
  dsimp only at h
  split at h
  next backend hbackend =>
    cases h
    rw [hbackend]
  next => cases h

theorem allowed_of_checkNamed {entry : String × TuningDraft} {named : String × Tuning}
    (h : checkNamed entry = .ok named) (kind : ExpiryKind) : named.2.expiryAllowed kind = true := by
  unfold checkNamed at h
  split at h
  · cases h
  · obtain ⟨tuning, htuning, heq⟩ := exists_of_bind_eq_ok h
    cases heq
    exact allowed_of_checkTuning htuning kind

theorem sound_of_checkCache {draft : CacheDraft} {config : Config} (h : checkCache draft = .ok config) :
    config.Sound := by
  obtain ⟨backendName, hbackend, h⟩ := exists_of_bind_eq_ok h
  obtain ⟨defaults, hdefaults, h⟩ := exists_of_bind_eq_ok h
  obtain ⟨named, hnamed, h⟩ := exists_of_bind_eq_ok h
  cases h
  have hall : ∀ entry ∈ named, ∀ kind, entry.2.expiryAllowed kind = true := by
    have hchecked := (forall₂_of_mapM_eq_ok hnamed).imp fun _ _ => allowed_of_checkNamed
    exact ((List.forall₂_and_left _ _).mp (hchecked.imp fun _ _ h => ⟨h, trivial⟩).flip).1
  refine ⟨backend_of_checkBackend hbackend, fun name kind => ?_⟩
  unfold Config.tuningOf
  dsimp only
  split
  next own hown =>
    have hmem : (name, own) ∈ named := Dictionary.mem_of_find?_ofList hown
    exact Tuning.expiryAllowed_overlay (hall _ hmem kind) (allowed_of_checkTuning hdefaults kind)
  next => exact allowed_of_checkTuning hdefaults kind

/-- Settings that a draft was checked for hold a sound configuration. -/
theorem sound_of_ofDraft {draft : Draft} {settings : Settings} (h : ofDraft draft = .ok settings) :
    settings.cache.Sound := by
  obtain ⟨level, -, h⟩ := exists_of_bind_eq_ok h
  obtain ⟨cache, hcache, h⟩ := exists_of_bind_eq_ok h
  cases h
  exact sound_of_checkCache hcache

theorem exists_of_gather {surroundings : Surroundings} {asked : Option String} {settings : Settings}
    (h : gather surroundings asked = .ok settings) : ∃ draft, ofDraft draft = .ok settings := by
  unfold gather at h
  split at h
  next draft _ => exact ⟨draft, h⟩
  next => cases h

end Settings

/-! ### Building a registry -/

/-- A sound configuration refuses nothing but the empty name. -/
theorem Config.Sound.refuses_iff {config : Config} (sound : config.Sound) {name : String} {fault : ConfigFault} :
    config.Refuses name fault ↔ name = "" ∧ fault = .emptyName := by
  have hallowed : ∀ kind, config.ExpiryAllowed name kind := fun kind =>
    Config.expiryAllowed_tuningOf.mp (sound.allowed name kind)
  constructor
  · intro refused
    cases refused with
    | afterWrite _ long => exact absurd (hallowed _) long
    | afterAccess _ _ long => exact absurd (hallowed _) long
    | empty _ hempty => exact ⟨hempty, rfl⟩
  · rintro ⟨hempty, rfl⟩
    exact .empty (fun _ => hallowed) hempty

namespace Registry

variable {config : Config}

/-- A sound configuration builds for a list of names unless the empty name is among them. -/
theorem ofConfig_of_sound (sound : config.Sound) (names : List String) :
    ("" ∉ names ∧ ∃ registry, ofConfig names config = .ok registry) ∨
    ("" ∈ names ∧ ofConfig names config = .error .emptyName) := by
  rcases ofConfig_of_backend sound.backend names with
    ⟨accepted, built, hbuilt, -⟩ | ⟨name, hmem, fault, refused, hfault, -⟩
  · exact .inl ⟨fun hmem => accepted "" hmem _ (sound.refuses_iff.mpr ⟨rfl, rfl⟩), built, hbuilt⟩
  · obtain ⟨rfl, rfl⟩ := sound.refuses_iff.mp refused
    exact .inr ⟨hmem, hfault⟩

end Registry

/-- **Loaded settings always build.** Settings that were loaded name a backend that is known, and make of every name a
tuning that passes its check. So a registry can be built from them for all names but the empty one, and a program that
loads them and installs telemetry starts up, or fails for the empty name and for nothing else. -/
theorem loaded_settings_build (settings : Settings) :
    (∀ draft, Settings.ofDraft draft = .ok settings →
      settings.cache.backend = .ok .bounded ∧
      (∀ name, (settings.cache.tuningOf name).check name = .ok ()) ∧
      (∀ names, "" ∉ names → ∃ registry, Registry.ofConfig names settings.cache = .ok registry) ∧
      ∀ names fault, Registry.ofConfig names settings.cache = .error fault ↔ fault = .emptyName ∧ "" ∈ names) ∧
    ∀ (program next : Program) (surroundings : Settings.Surroundings) (asked : Option String) (directives : String)
      (names : List String),
      Settings.gather surroundings asked = .ok settings → program.install directives settings = .ok next →
      ("" ∉ names →
        ∃ registry, (program.startUp surroundings asked directives names).result = .ok (settings, registry)) ∧
      ("" ∈ names →
        (program.startUp surroundings asked directives names).result =
          .error (.ofCacheFault (.configuration .emptyName))) := by
  refine ⟨fun draft hdraft => ?_, fun program next surroundings asked directives names hgather hinstall => ?_⟩
  · have sound : settings.cache.Sound := Settings.sound_of_ofDraft hdraft
    refine ⟨sound.backend, fun name => Tuning.check_eq_ok (sound.allowed name) name, fun names hnames => ?_,
      fun names fault => ?_⟩
    · rcases Registry.ofConfig_of_sound sound names with ⟨-, hbuilt⟩ | ⟨hempty, -⟩
      · exact hbuilt
      · exact absurd hempty hnames
    · rcases Registry.ofConfig_of_sound sound names with ⟨hnames, registry, hbuilt⟩ | ⟨hempty, hfault⟩
      · simp [hbuilt, hnames]
      · simp [hfault, hempty, eq_comm]
  · obtain ⟨draft, hdraft⟩ := Settings.exists_of_gather hgather
    have sound : settings.cache.Sound := Settings.sound_of_ofDraft hdraft
    simp only [Program.startUp, hgather, hinstall]
    rcases Registry.ofConfig_of_sound sound names with ⟨hnames, registry, hbuilt⟩ | ⟨hempty, hfault⟩
    · rw [hbuilt]
      exact ⟨fun _ => ⟨registry, rfl⟩, fun hempty => absurd hempty hnames⟩
    · rw [hfault]
      exact ⟨fun hnames => absurd hempty hnames, fun _ => rfl⟩

/-- The longest expiry allowed, in milliseconds. -/
private def longestMillis : Nat := longestExpirySeconds * 1000

/-- An override at the limit over defaults at the limit, and a backend in capitals. -/
private def atTheLimit : Settings.Draft where
  logging := .unset
  cache := {
    enabled := none
    backend := some " MOKA "
    defaults := ⟨none, some 10, some longestMillis, none, none⟩
    caches := (∅ : Dictionary Settings.TuningDraft).insert "users" ⟨none, none, none, some longestMillis, some true⟩ }

/-- Expiries at the limit build under a name that overrides them and under one that does not. With no settings given
at all, a program starts up with the cache it asks for, and fails once it asks for one without a name. -/
theorem loaded_settings_build_at_limit :
    (∃ settings, Settings.ofDraft atTheLimit = .ok settings ∧
      (settings.cache.tuningOf "users").expireAfterAccess = some longestExpiry ∧
      ∃ registry, Registry.ofConfig ["users", "orders", "users"] settings.cache = .ok registry) ∧
    ∃ settings, Settings.ofDraft .unset = .ok settings ∧
      (∃ registry, (Program.fresh.startUp ⟨.ofList [], []⟩ none "" ["users"]).result = .ok (settings, registry)) ∧
      (Program.fresh.startUp ⟨.ofList [], []⟩ none "" ["users", ""]).result =
        .error (.ofCacheFault (.configuration .emptyName)) := by
  have limit := (loaded_settings_build _).1 atTheLimit rfl
  have starts := fun names => (loaded_settings_build _).2 .fresh _ ⟨.ofList [], []⟩ none "" names rfl rfl
  exact ⟨⟨_, rfl, rfl, limit.2.2.1 _ (by decide)⟩, _, rfl, (starts _).1 (by decide), (starts _).2 (by decide)⟩

end SingleFlight
