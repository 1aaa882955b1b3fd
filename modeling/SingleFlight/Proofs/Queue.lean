import SingleFlight.Proofs.Reached

/-!
# The queue of a store without a size limit

Without a size limit upkeep turns no key away, so the queue keeps up with the entries.

* upkeep keeps a key once, and lets a key go only if it has been removed, was stored too long ago or is idle;
* every key with a value that has not expired is in the queue, or a note that it was stored is still to be settled
  (`LocalStore.Tracked`);
* this holds of the stores of every reached state (`System.tracked_of_reached`).
-/

namespace SingleFlight

namespace Upkeep

/-! ### Keys that move -/

theorem nodup_moveToBack {queue : List Key} (h : queue.Nodup) (key : Key) : (moveToBack queue key).Nodup := by
  rw [moveToBack, List.nodup_append]
  refine ⟨h.erase key, by simp, ?_⟩
  rintro a ha b hb rfl
  rw [List.mem_singleton] at hb
  subst hb
  exact h.not_mem_erase ha

theorem mem_moveToBack {queue : List Key} {key other : Key} (h : other ∈ queue) : other ∈ moveToBack queue key := by
  rw [moveToBack, List.mem_append, List.mem_singleton]
  by_cases heq : other = key
  · exact .inr heq
  · exact .inl ((List.mem_erase_of_ne heq).2 h)

theorem nodup_moveFound {queue : List Key} (h : queue.Nodup) (look : Look) : (moveFound queue look).Nodup := by
  unfold moveFound
  split
  · exact nodup_moveToBack h look.key
  · exact h

theorem mem_moveFound {queue : List Key} {key : Key} (h : key ∈ queue) (look : Look) : key ∈ moveFound queue look := by
  unfold moveFound
  split
  · exact mem_moveToBack h
  · exact h

theorem nodup_foldl_moveFound (looks : List Look) {queue : List Key} (h : queue.Nodup) :
    (looks.foldl moveFound queue).Nodup := by
  induction looks generalizing queue with
  | nil => exact h
  | cons look looks ih => exact ih (nodup_moveFound h look)

theorem mem_foldl_moveFound (looks : List Look) {queue : List Key} {key : Key} (h : key ∈ queue) :
    key ∈ looks.foldl moveFound queue := by
  induction looks generalizing queue with
  | nil => exact h
  | cons look looks ih => exact ih (mem_moveFound h look)

/-! ### Changes that are settled -/

/-- The last change that is noted about the key. -/
def lastAbout (changes : List Change) (key : Key) : Option Change :=
  changes.reverse.find? fun change => decide (change.key = key)

theorem lastAbout_cons (change : Change) (changes : List Change) (key : Key) :
    lastAbout (change :: changes) key =
      (lastAbout changes key).or (if change.key = key then some change else none) := by
  rw [lastAbout, List.reverse_cons, List.find?_append, lastAbout]
  congr 1
  by_cases h : change.key = key
  · rw [if_pos h]
    simp [h]
  · rw [if_neg h]
    simp [h]

/-- The key will be in the queue once the changes are settled. -/
def Held (changes : List Change) (queue : List Key) (key : Key) : Prop :=
  match lastAbout changes key with
  | some change => change.isStored = true
  | none => key ∈ queue

/-- A further change decides about its own key. -/
theorem held_concat {changes : List Change} {change : Change} {queue : List Key} {key : Key} :
    Held (changes ++ [change]) queue key ↔
      if change.key = key then change.isStored = true else Held changes queue key := by
  unfold Held lastAbout
  rw [List.reverse_append, List.reverse_singleton, List.singleton_append, List.find?_cons]
  by_cases h : change.key = key
  · simp [h]
  · simp [h]

theorem tracks_iff {u : Upkeep} {key : Key} : u.tracks key = true ↔ Held u.changes u.queue key := by
  simp only [tracks, Held, lastAbout]
  cases u.changes.reverse.find? fun change => decide (change.key = key) with
  | some change => exact Iff.rfl
  | none => exact List.contains_iff_mem

/-- What is held before a change is held after it in the queue that the change leaves. -/
theorem held_of_cons {change : Change} {changes : List Change} {queue next : List Key} {key : Key}
    (h : Held (change :: changes) queue key) (hself : change.isStored = true → change.key = key →
      lastAbout changes key = none → key ∈ next) (hother : change.key ≠ key → key ∈ queue → key ∈ next) :
    Held changes next key := by
  unfold Held at h ⊢
  rw [lastAbout_cons] at h
  cases hlast : lastAbout changes key with
  | some last =>
    rw [hlast, Option.some_or] at h
    exact h
  | none =>
    rw [hlast, Option.none_or] at h
    by_cases hkey : change.key = key
    · rw [if_pos hkey] at h
      exact hself h hkey hlast
    · rw [if_neg hkey] at h
      exact hother hkey h

theorem lastAbout_eq_none {changes : List Change} {key : Key} (h : lastAbout changes key = none) {change : Change}
    (hmem : change ∈ changes) : change.key ≠ key := by
  have hnone := List.find?_eq_none.1 h change (List.mem_reverse.2 hmem)
  simpa using hnone

/-- Without a size limit, the keys that are held are in the queue once the changes are settled. -/
theorem mem_settle {pending : List Change} {key : Key} (hpending : .removed key ∉ pending) (popularity : Key → Nat)
    (changes : List Change) {queue : List Key} (dropped : List Key) (h : Held changes queue key) :
    key ∈ (settle none pending popularity changes queue dropped).1 := by
  induction changes generalizing queue with
  | nil => exact h
  | cons change changes ih =>
    cases change with
    | removed other =>
      refine ih (held_of_cons h nofun fun hne hmem => ?_)
      exact (List.mem_erase_of_ne (Ne.symm hne)).2 hmem
    | stored other =>
      simp only [settle, hasRoom, Option.all_none, ↓reduceIte]
      split
      next hin =>
        refine ih (held_of_cons h (fun _ hkey _ => ?_) fun _ hmem => mem_moveToBack hmem)
        obtain rfl : other = key := hkey
        exact mem_moveToBack (List.contains_iff_mem.1 hin)
      next =>
        split
        next hlater =>
          -- the key will be removed: by a change that is still to be settled, for the pending one is about another key
          refine ih (held_of_cons h (fun _ hkey hlast => ?_) fun _ hmem => hmem)
          obtain rfl : other = key := hkey
          rcases List.mem_append.1 (List.contains_iff_mem.1 hlater) with hmem | hmem
          · exact absurd rfl (lastAbout_eq_none hlast hmem)
          · exact absurd hmem hpending
        next =>
          refine ih (held_of_cons h (fun _ hkey _ => ?_) fun _ hmem => List.mem_append_left _ hmem)
          obtain rfl : other = key := hkey
          exact List.mem_append_right _ (List.mem_singleton.2 rfl)

theorem nodup_settle (pending : List Change) (popularity : Key → Nat) (changes : List Change) {queue : List Key}
    (dropped : List Key) (h : queue.Nodup) : (settle none pending popularity changes queue dropped).1.Nodup := by
  induction changes generalizing queue with
  | nil => exact h
  | cons change changes ih =>
    cases change with
    | removed other => exact ih (h.erase other)
    | stored other =>
      simp only [settle, hasRoom, Option.all_none, ↓reduceIte]
      split
      · exact ih (nodup_moveToBack h other)
      next hin =>
        split
        · exact ih h
        · refine ih (List.nodup_append.2 ⟨h, by simp, ?_⟩)
          rintro a ha b hb rfl
          obtain rfl := List.mem_singleton.1 hb
          exact hin (List.contains_iff_mem.2 ha)

/-! ### Idle keys -/

theorem mem_of_mem_withoutIdle {pending : List Change} {idle : Key → Bool} {queue : List Key} {key : Key}
    (h : key ∈ withoutIdle pending idle queue) : key ∈ queue := by
  induction queue with
  | nil => cases h
  | cons first rest ih =>
    unfold withoutIdle at h
    split at h
    · rcases List.mem_append.1 h with hmem | hmem
      · exact List.mem_cons_of_mem first (ih hmem)
      · exact List.mem_singleton.1 hmem ▸ List.mem_cons_self ..
    · split at h
      · exact List.mem_cons_of_mem first (ih h)
      · exact h

theorem nodup_withoutIdle (pending : List Change) (idle : Key → Bool) {queue : List Key} (h : queue.Nodup) :
    (withoutIdle pending idle queue).Nodup := by
  induction queue with
  | nil => exact h
  | cons first rest ih =>
    obtain ⟨hfirst, hrest⟩ := List.nodup_cons.1 h
    unfold withoutIdle
    split
    · refine List.nodup_append.2 ⟨ih hrest, by simp, ?_⟩
      rintro a ha b hb rfl
      obtain rfl := List.mem_singleton.1 hb
      exact hfirst (mem_of_mem_withoutIdle ha)
    · split
      · exact ih hrest
      · exact h

theorem mem_withoutIdle {pending : List Change} {idle : Key → Bool} {queue : List Key} {key : Key} (h : key ∈ queue)
    (hidle : idle key = false) : key ∈ withoutIdle pending idle queue := by
  induction queue with
  | nil => cases h
  | cons first rest ih =>
    unfold withoutIdle
    rcases List.mem_cons.1 h with rfl | hrest
    · split
      · exact List.mem_append_right _ (List.mem_singleton.2 rfl)
      · rw [if_neg (by rw [hidle]; exact Bool.false_ne_true)]
        exact List.mem_cons_self ..
    · split
      · exact List.mem_append_left _ (ih hrest)
      · split
        · exact ih hrest
        · exact List.mem_cons_of_mem first hrest

/-- With no change pending, the queue that is left begins with a key that is not idle. -/
theorem head_withoutIdle {idle : Key → Bool} {queue rest : List Key} {key : Key}
    (h : withoutIdle [] idle queue = key :: rest) : idle key = false := by
  induction queue with
  | nil => cases h
  | cons first queue ih =>
    simp only [withoutIdle, awaited, List.any_nil, Bool.false_eq_true, ↓reduceIte] at h
    split at h
    · exact ih h
    next hidle =>
      cases h
      exact Bool.eq_false_iff.2 hidle

/-! ### A whole upkeep -/

section
variable {u : Upkeep} {now : Nat} {pending : List Change} {fresh idle : Key → Bool} {key : Key}

theorem nodup_run (h : u.queue.Nodup) : (u.run now none pending fresh idle).1.queue.Nodup :=
  nodup_withoutIdle _ _ ((nodup_settle _ _ _ _ (nodup_foldl_moveFound u.looks h)).filter _)

/-- Without a size limit, a key that is tracked, fresh and not idle stays. -/
theorem mem_run (htracks : u.tracks key = true) (hpending : .removed key ∉ pending) (hfresh : fresh key = true)
    (hidle : idle key = false) : key ∈ (u.run now none pending fresh idle).1.queue := by
  -- looks only move keys, so the key is held still when the changes are settled
  have hheld : Held u.changes (u.looks.foldl moveFound u.queue) key := by
    have hbefore := tracks_iff.1 htracks
    unfold Held at hbefore ⊢
    cases hlast : lastAbout u.changes key with
    | some change =>
      rw [hlast] at hbefore
      exact hbefore
    | none =>
      rw [hlast] at hbefore
      exact mem_foldl_moveFound u.looks hbefore
  refine mem_withoutIdle (List.mem_filter.2 ⟨mem_settle hpending _ _ _ hheld, ?_⟩) hidle
  rw [hfresh, Bool.or_true]

/-- With no change pending, the keys that stay are fresh. -/
theorem fresh_of_mem_run (h : key ∈ (u.run now none [] fresh idle).1.queue) : fresh key = true := by
  have hmem := (List.mem_filter.1 (mem_of_mem_withoutIdle h)).2
  simpa [awaited] using hmem

end

end Upkeep

namespace LocalStore

/-! ### Stores that keep track of their values -/

/-- The queue lists a key once, and every key with a value that has not expired is tracked. -/
structure Tracked (store : LocalStore) (now : Nat) : Prop where
  nodup : store.upkeep.queue.Nodup
  tracks : ∀ key value, store.peek now key = some value → store.upkeep.tracks key = true

/-- A value is there if its entry is fresh and not idle. -/
theorem isSome_peek_iff {store : LocalStore} {now : Nat} {key : Key} :
    (store.peek now key).isSome = true ↔ store.fresh now key = true ∧ store.idle now key = false := by
  simp only [peek, fresh, idle, live]
  cases store.entries.find? key with
  | none => simp
  | some entry => simp [apply_ite Option.isSome]

theorem queue_tend (store : LocalStore) (now : Nat) (pending : List Change) : (store.tend now pending).upkeep =
    (store.upkeep.run now store.tuning.maximumSize pending (store.fresh now) (store.idle now)).1 := rfl

theorem nodup_tend {store : LocalStore} (hsize : store.tuning.maximumSize = none) (h : store.upkeep.queue.Nodup)
    (now : Nat) (pending : List Change) : (store.tend now pending).upkeep.queue.Nodup := by
  rw [queue_tend, hsize]
  exact Upkeep.nodup_run h

/-- Upkeep keeps the keys of all values. -/
theorem mem_queue_tend {store : LocalStore} {now : Nat} (hsize : store.tuning.maximumSize = none)
    {pending : List Change} {key : Key} {value : Stored Value} (hpeek : store.peek now key = some value)
    (htracks : store.upkeep.tracks key = true) (hpending : .removed key ∉ pending) :
    key ∈ (store.tend now pending).upkeep.queue := by
  obtain ⟨hfresh, hidle⟩ := isSome_peek_iff.1 (Option.isSome_of_eq_some hpeek)
  rw [queue_tend, hsize]
  exact Upkeep.mem_run htracks hpending hfresh hidle

/-- Without a size limit upkeep costs no value. -/
theorem Trimmed.peek_eq {a b : LocalStore} (h : Trimmed a b) (hsize : a.tuning.maximumSize = none) (now : Nat)
    (key : Key) : b.peek now key = a.peek now key := by
  rcases h.keeps now key with heq | ⟨hsome, -⟩
  · exact heq
  · rw [hsize] at hsome
    cases hsome

theorem Tracked.tend {store : LocalStore} {now : Nat} (h : store.Tracked now)
    (hsize : store.tuning.maximumSize = none) : (store.tend now []).Tracked now where
  nodup := nodup_tend hsize h.nodup now []
  tracks key value hpeek := by
    rw [(trimmed_tend store now []).peek_eq hsize] at hpeek
    exact Upkeep.tracks_iff.2 (mem_queue_tend hsize hpeek (h.tracks key value hpeek) List.not_mem_nil)

theorem Tracked.noteLook {store : LocalStore} {now : Nat} (h : store.Tracked now)
    (hsize : store.tuning.maximumSize = none) (look : Look) : (store.noteLook now look).Tracked now := by
  unfold LocalStore.noteLook
  split
  · exact ⟨(h.tend hsize).nodup, (h.tend hsize).tracks⟩
  · exact ⟨h.nodup, h.tracks⟩

/-- A change is noted after it has happened: its key may not be tracked yet, but then it was stored. -/
theorem tracked_noteChange {store : LocalStore} {now : Nat} {change : Change}
    (hsize : store.tuning.maximumSize = none) (hnodup : store.upkeep.queue.Nodup)
    (hother : ∀ key value, key ≠ change.key → store.peek now key = some value → store.upkeep.tracks key = true)
    (hself : change.isStored = true ∨ store.peek now change.key = none) :
    (store.noteChange now change).Tracked now := by
  have htrimmed := trimmed_noteChange store now change
  have hpending : ∀ key, key ≠ change.key → .removed key ∉ [change] := by
    intro key hne hmem
    rw [List.mem_singleton] at hmem
    exact hne (congrArg Change.key hmem)
  constructor
  · unfold noteChange
    split
    · exact nodup_tend hsize hnodup now [change]
    · exact hnodup
  · intro key value hpeek
    rw [htrimmed.peek_eq hsize] at hpeek
    rw [Upkeep.tracks_iff]
    -- the change itself decides about its key, whether upkeep has just run or not
    have hdecide : ∀ changes queue, (key ≠ change.key → Upkeep.Held changes queue key) →
        Upkeep.Held (changes ++ [change]) queue key := by
      intro changes queue hheld
      rw [Upkeep.held_concat]
      by_cases hkey : change.key = key
      · rw [if_pos hkey]
        rcases hself with hstored | hnone
        · exact hstored
        · rw [hkey, hpeek] at hnone
          cases hnone
      · rw [if_neg hkey]
        exact hheld (Ne.symm hkey)
    unfold noteChange
    split
    · exact hdecide [] _ fun hne => mem_queue_tend hsize hpeek (hother key value hne hpeek) (hpending key hne)
    · exact hdecide _ _ fun hne => Upkeep.tracks_iff.1 (hother key value hne hpeek)

/-! ### The steps of a store -/

namespace Tracked

variable {store : LocalStore} {now : Nat}

theorem later (h : store.Tracked now) {later : Nat} (hle : now ≤ later) : store.Tracked later :=
  ⟨h.nodup, fun key value hpeek => h.tracks key value (peek_mono hle hpeek)⟩

theorem miss (h : store.Tracked now) (hsize : store.tuning.maximumSize = none) (key : Key) :
    (store.miss now key).Tracked now := h.noteLook hsize ⟨key, false⟩

theorem touch (h : store.Tracked now) (hsize : store.tuning.maximumSize = none) {key : Key} {value : Stored Value}
    (hpeek : store.peek now key = some value) : (store.touch now key).Tracked now := by
  have hread :
      Tracked { store with entries := store.entries.modify key fun entry => { entry with readAt := now } } now := by
    refine ⟨h.nodup, fun other found hfound => ?_⟩
    by_cases hother : other = key
    · exact hother ▸ h.tracks key value hpeek
    · refine h.tracks other found ?_
      simp only [peek, Assoc.find?_modify, hother, ↓reduceIte] at hfound
      exact hfound
  exact hread.noteLook hsize ⟨key, true⟩

theorem launch (h : store.Tracked now) (hsize : store.tuning.maximumSize = none) (key : Key) (load : Nat) :
    (store.launch now key load).Tracked now := by
  have hsize' : (store.miss now key).tuning.maximumSize = none := by rw [(trimmed_miss store now key).tuning, hsize]
  have hlooked := (h.miss hsize key).miss hsize' key
  exact ⟨hlooked.nodup, hlooked.tracks⟩

theorem put (h : store.Tracked now) (hsize : store.tuning.maximumSize = none) (key : Key) (value : Stored Value) :
    (store.put now key value).Tracked now := by
  rw [LocalStore.put, if_neg (by simp [hsize])]
  refine tracked_noteChange hsize h.nodup (fun other found hother hfound => ?_) (.inl rfl)
  have hne : other ≠ key := hother
  refine h.tracks other found ?_
  simp only [peek, Assoc.find?_insert, hne, ↓reduceIte] at hfound
  exact hfound

theorem invalidate (h : store.Tracked now) (hsize : store.tuning.maximumSize = none) (key : Key) :
    (store.invalidate now key).Tracked now := by
  have hrest : ∀ other found, other ≠ key → { store with
      entries := store.entries.erase key, inFlight := store.inFlight.erase key }.peek now other = some found →
      store.upkeep.tracks other = true := by
    intro other found hother hfound
    refine h.tracks other found ?_
    simp only [peek, Assoc.find?_erase, hother, ↓reduceIte] at hfound
    exact hfound
  have hgone : { store with entries := store.entries.erase key, inFlight := store.inFlight.erase key }.peek now key =
      none := peek_eq_none_of_find? (Assoc.find?_erase_self ..)
  unfold LocalStore.invalidate
  dsimp only
  split
  · exact tracked_noteChange hsize h.nodup hrest (.inr hgone)
  · refine ⟨h.nodup, fun other found hfound => ?_⟩
    by_cases hother : other = key
    · rw [hother, hgone] at hfound
      cases hfound
    · exact hrest other found hother hfound

theorem conclude (h : store.Tracked now) (hsize : store.tuning.maximumSize = none) (key : Key) (outcome : LoadResult) :
    (System.conclude now key outcome store).Tracked now := by
  cases outcome with
  | ok value =>
    have hput := h.put hsize key value
    exact ⟨hput.nodup, hput.tracks⟩
  | error failure => exact ⟨h.nodup, h.tracks⟩

end Tracked

end LocalStore

namespace System

/-! ### Every reached state -/

/-- Every store without a size limit keeps track of its values. -/
def Tracked (s : System) : Prop :=
  ∀ name store, s.store? name = some store → store.tuning.maximumSize = none → store.Tracked s.now

theorem Tracked.mapStore {s : System} (h : s.Tracked) {name : String} {f : LocalStore → LocalStore}
    (htuning : ∀ store, (f store).tuning = store.tuning)
    (hf : ∀ store, s.store? name = some store → store.tuning.maximumSize = none → store.Tracked s.now →
      (f store).Tracked s.now) : (s.mapStore name f).Tracked := by
  intro other store hstore hsize
  rw [store?_mapStore] at hstore
  split at hstore
  next hname =>
    obtain ⟨before, hbefore, rfl⟩ := Option.map_eq_some_iff.1 hstore
    rw [htuning] at hsize
    exact hf before (hname ▸ hbefore) hsize (h other before hbefore hsize)
  next => exact h other store hstore hsize

theorem Tracked.move {s t : System} (named : s.Named) (h : s.Tracked) (move : Move s t) : t.Tracked := by
  cases move with
  | elapse s ms => exact fun name store hstore hsize => (h name store hstore hsize).later (Nat.le_add_right s.now ms)
  | note aside => exact h
  | @lookUp _ _ name store hfind label key loader =>
    have hname := named.name_of_find? hfind
    have hstore : s.store? store.name = some store := hname ▸ store?_of_find? hfind
    unfold System.lookUp
    split
    next value hpeek =>
      refine h.mapStore (fun st => LocalStore.tuning_touch st _ _) fun st hst hsize htracked => ?_
      rw [hstore] at hst
      cases hst
      exact htracked.touch hsize hpeek
    next hpeek =>
      split
      · exact h.mapStore (fun st => (LocalStore.trimmed_miss st _ _).tuning) fun _ _ hsize ht => ht.miss hsize key
      · exact h.mapStore (fun st => LocalStore.tuning_launch st _ _ _) fun _ _ hsize ht => ht.launch hsize key _
  | call hload => exact h
  | resume hload called => exact h
  | pause hload called => exact h
  | @land _ id number cache key hload outcome =>
    have hmapped : (s.mapStore cache (conclude s.now key outcome)).Tracked :=
      h.mapStore (fun st => tuning_conclude _ _ _ st) fun _ _ hsize ht => ht.conclude hsize key outcome
    unfold System.land
    dsimp only
    split
    · exact hmapped
    · exact h
  | @invalidate _ name cache hfind key =>
    match cache with
    | .local store =>
      exact h.mapStore (fun st => LocalStore.tuning_invalidate st _ _) fun _ _ hsize ht => ht.invalidate hsize key
    | .passThrough _ => exact h
  | @invalidateAll _ name cache hfind =>
    match cache with
    | .local store =>
      exact h.mapStore (f := LocalStore.invalidateAll) (fun _ => rfl) fun _ _ _ ht => ⟨ht.nodup, fun _ _ => nofun⟩
    | .passThrough _ => exact h
  | tend s name =>
    exact h.mapStore (fun st => (LocalStore.trimmed_tend st _ _).tuning) fun _ _ hsize ht => ht.tend hsize

theorem tracked_start {registry : Registry} (built : registry.Built) : (start registry).Tracked := by
  intro name store hstore _
  obtain ⟨hentries, -, -, hupkeep⟩ := new_of_store? built hstore
  refine ⟨by rw [hupkeep]; exact List.nodup_nil, fun key value hpeek => ?_⟩
  obtain ⟨entry, hentry, -⟩ := LocalStore.peek_eq_some.1 hpeek
  rw [hentries] at hentry
  cases hentry

theorem tracked_of_reached {s : System} (h : s.Reached) : s.Tracked := by
  obtain ⟨registry, built, moves⟩ := h
  -- what goes by which name is needed at every step to find the store that a move changes
  have hboth : s.Named ∧ s.Tracked := by
    induction moves with
    | refl => exact ⟨(sound_start built).named, tracked_start built⟩
    | tail _ last ih => exact ⟨ih.1.move last, ih.2.move ih.1 last⟩
  exact hboth.2

end System

end SingleFlight
