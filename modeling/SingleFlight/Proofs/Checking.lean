import SingleFlight.Proofs.Startup

/-!
# What a draft is refused for

A draft is checked item by item and refused for the first item that is wrong.

* an `Item` is one thing that is checked, with what the draft says there; it has a key, and something may be wrong with
  it (`Item.Wrong`);
* a check settles its items if it comes to what they stand for when all are right, and otherwise to the key and the
  reason of the first one that is wrong (`Settles`); checks in a row settle their items in a row (`Settles.bind`,
  `Settles.mapM`);
* so the check of a draft settles the items of the draft in their order (`settles_ofDraft`), and the drafts that hold
  nothing wrong are the valid ones (`Draft.valid_iff`).
-/

namespace SingleFlight.Settings

/-! ### What is checked -/

/-- One thing that is checked in a draft. -/
inductive Item where
  | level (written : Option String)
  | backend (written : Option String)
  | name (cache : String)
  | expiry (block : String) (kind : ExpiryKind) (millis : Option Nat)
deriving DecidableEq

namespace Item

/-- The key that the item is reported by. -/
def key : Item → String
  | level _ => "logging.level"
  | backend _ => "cache.backend"
  | name _ => "cache.caches"
  | expiry block kind _ => block ++ "." ++ kind.field ++ "_ms"

/-- What may be wrong with an item. Nothing is wrong with what is not written. -/
inductive Wrong : Item → Invalidity → Prop where
  | level {s : String} (h : level? s = none) : Wrong (.level (some s)) .level
  | backend {s : String} (h : ∀ backend : Backend, Text.asciiLower (Text.trimmed s) ≠ backend.name) :
    Wrong (.backend (some s)) (.backend (.unknownBackend (Text.asciiLower (Text.trimmed s))))
  | blank {cache : String} (h : ∀ c ∈ cache.toList, Text.isBlank c = true) : Wrong (.name cache) .blankName
  | zero {block : String} {kind : ExpiryKind} : Wrong (.expiry block kind (some 0)) .zeroExpiry
  | long {block : String} {kind : ExpiryKind} {ms : Nat} (h : longestExpirySeconds * 1000 < ms) :
    Wrong (.expiry block kind (some ms)) .longExpiry

def Right (item : Item) : Prop := ∀ reason, ¬ item.Wrong reason

theorem right_level {written : Option String} :
    (level written).Right ↔ ∀ s, written = some s → ∃ level, level? s = some level := by
  constructor
  · rintro right s rfl
    exact Option.ne_none_iff_exists'.mp fun hnone => right _ (.level hnone)
  · rintro known _ (⟨hnone⟩)
    obtain ⟨level, hlevel⟩ := known _ rfl
    cases hnone.symm.trans hlevel

theorem right_backend {written : Option String} : (backend written).Right ↔
    ∀ s, written = some s → ∃ backend : Backend, Text.asciiLower (Text.trimmed s) = backend.name := by
  constructor
  · rintro right s rfl
    by_contra hunknown
    exact right _ (.backend (not_exists.mp hunknown))
  · rintro known _ (⟨⟩ | ⟨hunknown⟩)
    obtain ⟨backend, hbackend⟩ := known _ rfl
    exact hunknown backend hbackend

theorem right_name {cache : String} : (name cache).Right ↔ ∃ c ∈ cache.toList, Text.isBlank c = false := by
  constructor
  · intro right
    by_contra hblank
    refine right _ (.blank fun c hmem => ?_)
    by_contra hc
    exact hblank ⟨c, hmem, Bool.eq_false_iff.mpr hc⟩
  · rintro ⟨c, hmem, hc⟩ _ (⟨⟩ | ⟨⟩ | ⟨hblank⟩)
    cases hc.symm.trans (hblank c hmem)

theorem right_expiry {block : String} {kind : ExpiryKind} {millis : Option Nat} :
    (expiry block kind millis).Right ↔ ∀ ms, millis = some ms → 1 ≤ ms ∧ ms ≤ longestExpirySeconds * 1000 := by
  constructor
  · rintro right ms rfl
    refine ⟨Nat.pos_of_ne_zero ?_, Nat.not_lt.mp fun hlong => right _ (.long hlong)⟩
    rintro rfl
    exact right _ .zero
  · intro bounded reason wrong
    cases wrong with
    | zero => exact absurd (bounded 0 rfl).1 (by decide)
    | long hlong => exact absurd (bounded _ rfl).2 (Nat.not_le.mpr hlong)

end Item

def TuningDraft.millis (draft : TuningDraft) : ExpiryKind → Option Nat
  | .afterWrite => draft.expireAfterWriteMs
  | .afterAccess => draft.expireAfterAccessMs

/-- The items of the tuning in a block, in the order of their checks. -/
def TuningDraft.items (block : String) (draft : TuningDraft) : List Item :=
  [.expiry block .afterWrite (draft.millis .afterWrite), .expiry block .afterAccess (draft.millis .afterAccess)]

def namedItems (entry : String × TuningDraft) : List Item :=
  .name entry.1 :: entry.2.items ("cache.caches." ++ entry.1)

/-- Everything that is checked in a draft, in the order of the checks; named tunings by ascending name. -/
def Draft.items (draft : Draft) : List Item :=
  [.level draft.logging.level] ++ ([.backend draft.cache.backend] ++ (draft.cache.defaults.items "cache.defaults" ++
    draft.cache.caches.entries.flatMap namedItems))

/-! ### What a draft stands for -/

/-- The tuning as it is written. -/
def TuningDraft.tuning (draft : TuningDraft) : Tuning where
  initialCapacity := draft.initialCapacity
  maximumSize := draft.maximumSize
  expireAfterWrite := draft.expireAfterWriteMs.map .ofMillis
  expireAfterAccess := draft.expireAfterAccessMs.map .ofMillis
  metricsEnabled := draft.metricsEnabled

def CacheDraft.config (draft : CacheDraft) : Config where
  enabled := draft.enabled.getD true
  backendName := draft.backend.getD Backend.bounded.name
  defaults := draft.defaults.tuning
  caches := draft.caches.map TuningDraft.tuning

/-- The settings as they are written, if the level is one. -/
def Draft.settings (draft : Draft) : Settings where
  level := (draft.logging.level.bind level?).getD .info
  format := formatOf draft.logging
  cache := draft.cache.config

/-! ### Checks in a row -/

/-- The check of the items comes to `a` if all of them are right, and tells what is wrong with the first one that is
not. -/
inductive Settles (items : List Item) (a : α) : Except LoadFault α → Prop where
  | right (h : ∀ item ∈ items, item.Right) : Settles items a (.ok a)
  | wrong {before after : List Item} {item : Item} {reason : Invalidity} (first : items = before ++ item :: after)
    (h : ∀ other ∈ before, other.Right) (wrong : item.Wrong reason) :
    Settles items a (.error (.invalid item.key reason))

namespace Settles

variable {α β : Type}

theorem single_right {item : Item} {a : α} (h : item.Right) : Settles [item] a (.ok a) :=
  .right (List.forall_mem_singleton.mpr h)

theorem single_wrong {item : Item} {a : α} {reason : Invalidity} (h : item.Wrong reason) :
    Settles [item] a (.error (.invalid item.key reason)) :=
  .wrong (List.nil_append _).symm nofun h

/-- What is checked first is reported first. -/
theorem bind {first second : List Item} {a : α} {b : β} {x : Except LoadFault α} {f : α → Except LoadFault β}
    (h : Settles first a x) (hf : Settles second b (f a)) : Settles (first ++ second) b (x >>= f) := by
  cases h with
  | wrong split hbefore hwrong => exact .wrong (by rw [split, List.append_assoc]; rfl) hbefore hwrong
  | right hfirst =>
    show Settles _ b (f a)
    generalize f a = y at hf
    cases hf with
    | right hsecond => exact .right (List.forall_mem_append.mpr ⟨hfirst, hsecond⟩)
    | wrong split hbefore hwrong =>
      have hrights := List.forall_mem_append.mpr ⟨hfirst, hbefore⟩
      exact .wrong (by rw [split, List.append_assoc]) hrights hwrong

theorem cons {item : Item} {items : List Item} {a : α} {x : Except LoadFault α} (h : item.Right)
    (hx : Settles items a x) : Settles (item :: items) a x := by
  show Settles ([item] ++ items) a ((Except.ok () : Except LoadFault Unit) >>= fun _ => x)
  exact (single_right h).bind hx

/-- A check whose result is only put into place. -/
theorem map {items : List Item} {a : α} {x : Except LoadFault α} (h : Settles items a x) (f : α → β) :
    Settles items (f a) (x >>= fun a => .ok (f a)) := by
  rw [← List.append_nil items]
  exact h.bind (.right nofun)

theorem mapM {items : α → List Item} {stands : α → β} {f : α → Except LoadFault β} (xs : List α)
    (h : ∀ x ∈ xs, Settles (items x) (stands x) (f x)) : Settles (xs.flatMap items) (xs.map stands) (xs.mapM f) := by
  induction xs with
  | nil => exact .right nofun
  | cons x xs ih =>
    obtain ⟨hx, hxs⟩ := List.forall_mem_cons.mp h
    rw [List.mapM_cons]
    exact hx.bind ((ih hxs).map _)

end Settles

/-! ### The checks of a draft -/

theorem longestExpiry_lt_ofMillis {ms : Nat} :
    longestExpiry < .ofMillis ms ↔ longestExpirySeconds * 1000 < ms := by
  show longestExpirySeconds * 1000000000 < ms * 1000000 ↔ _
  omega

theorem settles_checkLevel (draft : LoggingDraft) :
    Settles [.level draft.level] ((draft.level.bind level?).getD .info) (checkLevel draft) := by
  unfold checkLevel
  cases draft.level with
  | none => exact .single_right (Item.right_level.mpr nofun)
  | some s =>
    dsimp only [Option.bind_some]
    cases hlevel : level? s with
    | none => exact .single_wrong (.level hlevel)
    | some level =>
      refine .single_right (Item.right_level.mpr ?_)
      rintro _ ⟨⟩
      exact ⟨level, hlevel⟩

theorem settles_checkBackend (draft : CacheDraft) :
    Settles [.backend draft.backend] (draft.backend.getD Backend.bounded.name) (checkBackend draft) := by
  cases hwritten : draft.backend with
  | none =>
    have hcheck : checkBackend draft = .ok Backend.bounded.name := by
      rw [checkBackend, hwritten]
      rfl
    rw [hcheck]
    exact .single_right (Item.right_backend.mpr nofun)
  | some s =>
    rw [checkBackend, hwritten]
    dsimp only [Option.getD_some, Backend.ofName]
    by_cases hname : Text.asciiLower (Text.trimmed s) = Backend.bounded.name
    · rw [if_pos hname]
      refine .single_right (Item.right_backend.mpr ?_)
      rintro _ ⟨⟩
      exact ⟨.bounded, hname⟩
    · rw [if_neg hname]
      exact .single_wrong (.backend fun | .bounded => hname)

theorem settles_checkExpiry (block : String) (kind : ExpiryKind) (millis : Option Nat) :
    Settles [.expiry block kind millis] (millis.map .ofMillis)
      (checkExpiry (Item.expiry block kind millis).key millis) := by
  cases millis with
  | none => exact .single_right (Item.right_expiry.mpr nofun)
  | some ms =>
    unfold checkExpiry
    dsimp only
    split
    next hzero =>
      subst hzero
      exact .single_wrong .zero
    next hzero =>
      split
      next hlong => exact .single_wrong (.long (longestExpiry_lt_ofMillis.mp hlong))
      next hlong =>
        rw [longestExpiry_lt_ofMillis] at hlong
        refine .single_right (Item.right_expiry.mpr ?_)
        rintro _ ⟨⟩
        exact ⟨Nat.pos_of_ne_zero hzero, Nat.not_lt.mp hlong⟩

theorem settles_checkTuning (block : String) (draft : TuningDraft) :
    Settles (draft.items block) draft.tuning (checkTuning block draft) := by
  have hwrite := settles_checkExpiry block .afterWrite draft.expireAfterWriteMs
  have haccess := settles_checkExpiry block .afterAccess draft.expireAfterAccessMs
  have hkey (kind : ExpiryKind) (millis : Option Nat) (suffix : String) (h : suffix = "." ++ (kind.field ++ "_ms")) :
      (Item.expiry block kind millis).key = block ++ suffix := by
    rw [h, Item.key, String.append_assoc, String.append_assoc]
  rw [hkey _ _ ".expire_after_write_ms" rfl] at hwrite
  rw [hkey _ _ ".expire_after_access_ms" rfl] at haccess
  let tuning (access : Option Duration) : Tuning :=
    ⟨draft.initialCapacity, draft.maximumSize, draft.expireAfterWriteMs.map .ofMillis, access, draft.metricsEnabled⟩
  exact hwrite.bind (haccess.map tuning)

theorem settles_checkNamed (entry : String × TuningDraft) :
    Settles (namedItems entry) (entry.1, entry.2.tuning) (checkNamed entry) := by
  obtain ⟨name, draft⟩ := entry
  unfold checkNamed
  by_cases hblank : Text.isBlankText name = true
  · rw [if_pos hblank]
    exact .wrong (List.nil_append _).symm nofun (.blank (List.all_eq_true.mp hblank))
  · rw [if_neg hblank]
    have hname : (Item.name name).Right := by
      rw [Item.right_name]
      simpa [Text.isBlankText] using hblank
    exact .cons hname ((settles_checkTuning ("cache.caches." ++ name) draft).map fun tuning => (name, tuning))

theorem settles_checkCache (draft : CacheDraft) :
    Settles ([.backend draft.backend] ++
        (draft.defaults.items "cache.defaults" ++ draft.caches.entries.flatMap namedItems))
      draft.config (checkCache draft) := by
  have hnamed := Settles.mapM draft.caches.entries fun entry _ => settles_checkNamed entry
  have hentries : Dictionary.ofList (draft.caches.entries.map fun entry => (entry.1, entry.2.tuning)) =
      draft.caches.map TuningDraft.tuning := Dictionary.ofList_entries (draft.caches.map _)
  have hconfig := hnamed.map fun named =>
    (⟨draft.enabled.getD true, draft.backend.getD Backend.bounded.name, draft.defaults.tuning, .ofList named⟩ : Config)
  rw [hentries] at hconfig
  exact (settles_checkBackend draft).bind ((settles_checkTuning _ draft.defaults).bind hconfig)

theorem settles_ofDraft (draft : Draft) : Settles draft.items draft.settings (ofDraft draft) :=
  (settles_checkLevel draft.logging).bind ((settles_checkCache draft.cache).map _)

/-! ### Valid drafts -/

/-- Every expiry that is written is at least a millisecond and at most the longest one allowed. -/
def TuningDraft.InBounds (draft : TuningDraft) : Prop :=
  ∀ kind ms, draft.millis kind = some ms → 1 ≤ ms ∧ ms ≤ longestExpirySeconds * 1000

theorem TuningDraft.inBounds_iff {draft : TuningDraft} {block : String} :
    draft.InBounds ↔ ∀ item ∈ draft.items block, item.Right := by
  simp only [items, List.forall_mem_cons, List.not_mem_nil, IsEmpty.forall_iff, implies_true, and_true,
    Item.right_expiry, InBounds]
  constructor
  · exact fun h => ⟨h .afterWrite, h .afterAccess⟩
  · rintro ⟨hwrite, haccess⟩ kind
    cases kind with
    | afterWrite => exact hwrite
    | afterAccess => exact haccess

/-- A draft with nothing wrong in it. -/
structure Draft.Valid (draft : Draft) : Prop where
  level : ∀ s, draft.logging.level = some s → ∃ level, level? s = some level
  backend : ∀ s, draft.cache.backend = some s → ∃ backend : Backend, Text.asciiLower (Text.trimmed s) = backend.name
  defaults : draft.cache.defaults.InBounds
  name : ∀ name block, draft.cache.caches.find? name = some block → ∃ c ∈ name.toList, Text.isBlank c = false
  block : ∀ name block, draft.cache.caches.find? name = some block → block.InBounds

theorem Draft.valid_iff {draft : Draft} : draft.Valid ↔ ∀ item ∈ draft.items, item.Right := by
  have hnamed : (∀ item ∈ draft.cache.caches.entries.flatMap namedItems, item.Right) ↔
      ∀ name block, draft.cache.caches.find? name = some block →
        (∃ c ∈ name.toList, Text.isBlank c = false) ∧ block.InBounds := by
    simp only [List.forall_mem_flatMap, namedItems, List.forall_mem_cons, Item.right_name,
      ← TuningDraft.inBounds_iff, Prod.forall, Dictionary.find?,
      Dictionary.lookup_eq_some_iff draft.cache.caches.ascending]
  rw [items, List.forall_mem_append, List.forall_mem_append, List.forall_mem_append, List.forall_mem_singleton,
    List.forall_mem_singleton, Item.right_level, Item.right_backend, ← TuningDraft.inBounds_iff, hnamed]
  constructor
  · rintro ⟨hlevel, hbackend, hdefaults, hname, hblock⟩
    exact ⟨hlevel, hbackend, hdefaults, fun name block h => ⟨hname name block h, hblock name block h⟩⟩
  · rintro ⟨hlevel, hbackend, hdefaults, hblocks⟩
    exact ⟨hlevel, hbackend, hdefaults, fun name block h => (hblocks name block h).1,
      fun name block h => (hblocks name block h).2⟩

/-- The settings hold what the draft says, and the defaults where it says nothing. -/
structure Draft.Gives (draft : Draft) (settings : Settings) : Prop where
  level : (draft.logging.level = none ∧ settings.level = .info) ∨
    ∃ s, draft.logging.level = some s ∧ level? s = some settings.level
  format : settings.format = .json ↔ draft.logging.json = some true
  enabled : settings.cache.enabled = draft.cache.enabled.getD true
  backend : settings.cache.backendName = draft.cache.backend.getD "moka"
  defaults : settings.cache.defaults = draft.cache.defaults.tuning
  caches : ∀ name, settings.cache.caches.find? name = (draft.cache.caches.find? name).map TuningDraft.tuning

theorem Draft.Valid.gives {draft : Draft} (valid : draft.Valid) : draft.Gives draft.settings where
  level := by
    cases hwritten : draft.logging.level with
    | none => exact .inl ⟨rfl, by simp [settings, hwritten]⟩
    | some s =>
      obtain ⟨level, hlevel⟩ := valid.level s hwritten
      exact .inr ⟨s, rfl, by simp [settings, hwritten, hlevel]⟩
  format := by
    rw [settings, formatOf]
    rcases draft.logging.json with _ | _ | _ <;> simp
  enabled := rfl
  backend := rfl
  defaults := rfl
  caches := fun name => Dictionary.find?_map draft.cache.caches TuningDraft.tuning name

/-- **A draft is refused for its first wrong item.** A draft becomes settings exactly if its level and its backend are
missing or known, no named block has a blank name, and every expiry, in the defaults and in the named blocks, is from
one millisecond to the longest one allowed. The settings then hold what the draft says, block by block. Otherwise the
key and the reason are those of the first item that is wrong: the level, the backend, the defaults, and then the blocks
by ascending name, each with its name before its expiries. -/
theorem ofDraft_exactly (draft : Draft) :
    ((∃ settings, ofDraft draft = .ok settings) ↔ draft.Valid) ∧
    (∀ settings, ofDraft draft = .ok settings → draft.Gives settings) ∧
    ∀ fault, ofDraft draft = .error fault →
      ∃ before item after reason, draft.items = before ++ item :: after ∧ (∀ other ∈ before, other.Right) ∧
        item.Wrong reason ∧ fault = .invalid item.key reason := by
  have hsettles := settles_ofDraft draft
  generalize ofDraft draft = x at hsettles
  cases hsettles with
  | right hright =>
    have valid : draft.Valid := Draft.valid_iff.mpr hright
    refine ⟨⟨fun _ => valid, fun _ => ⟨_, rfl⟩⟩, ?_, ?_⟩
    · rintro _ ⟨⟩
      exact valid.gives
    · rintro _ ⟨⟩
  | wrong first hbefore hwrong =>
    refine ⟨⟨?_, fun valid => ?_⟩, ?_, ?_⟩
    · rintro ⟨_, ⟨⟩⟩
    · have hright := Draft.valid_iff.mp valid
      rw [first] at hright
      exact absurd hwrong (hright _ (List.mem_append_right _ (.head _)) _)
    · rintro _ ⟨⟩
    · rintro _ ⟨⟩
      exact ⟨_, _, _, _, first, hbefore, hwrong, rfl⟩

/-- The orders are to be kept for too long, and the users not at all. -/
private def twoFaults : Draft where
  logging := ⟨some "warn", some true⟩
  cache := {
    enabled := some false
    backend := some " MOKA "
    defaults := .unset
    caches := (((∅ : Dictionary TuningDraft).insert "users" ⟨none, none, some 0, none, none⟩).insert "orders"
      ⟨none, none, some 1, some (longestExpirySeconds * 1000 + 1), none⟩) }

/-- Each expiry of the orders is at one of its bounds. -/
private def atBounds : Draft :=
  ⟨.unset, { CacheDraft.unset with caches :=
    (∅ : Dictionary TuningDraft).insert "orders" ⟨none, none, some 1, some (longestExpirySeconds * 1000), none⟩ }⟩

/-- Of two faults the one of the smaller name is reported. Expiries at their bounds are kept as they are. -/
theorem ofDraft_exactly_at_bounds :
    (∃ item ∈ twoFaults.items, ∃ reason, item.Wrong reason ∧
      LoadFault.invalid item.key reason = .invalid "cache.caches.orders.expire_after_access_ms" .longExpiry) ∧
    ∃ settings, ofDraft atBounds = .ok settings ∧ settings.level = .info ∧
      settings.cache.caches.find? "orders" =
        some ⟨none, none, some (.ofMillis 1), some (.ofMillis (longestExpirySeconds * 1000)), none⟩ := by
  constructor
  · obtain ⟨before, item, after, reason, first, -, hwrong, hfault⟩ := (ofDraft_exactly twoFaults).2.2
      (.invalid "cache.caches.orders.expire_after_access_ms" .longExpiry) rfl
    have hmem : item ∈ twoFaults.items := by
      rw [first]
      exact List.mem_append_right _ (.head _)
    exact ⟨item, hmem, reason, hwrong, hfault.symm⟩
  · have gives := (ofDraft_exactly atBounds).2.1 atBounds.settings rfl
    exact ⟨atBounds.settings, rfl, rfl, gives.caches "orders"⟩

end SingleFlight.Settings
