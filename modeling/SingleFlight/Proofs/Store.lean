import SingleFlight.Store

/-!
# What the steps of a store change

* upkeep, and so every note, only lets go of entries, and in a store without a size limit of none;
* only a launch, a landing and an invalidation touch the loads in flight;
* a value that has expired stays expired.
-/

namespace SingleFlight

/-- Without a size limit no key is turned away and none makes room. -/
theorem Upkeep.dropped_settle_none (pending : List Change) (popularity : Key → Nat) (changes : List Change)
    (queue dropped : List Key) : (settle none pending popularity changes queue dropped).2 = dropped := by
  induction changes generalizing queue with
  | nil => rfl
  | cons change changes ih =>
    cases change with
    | removed key => exact ih _
    | stored key =>
      simp only [settle, hasRoom, Option.all_none, ↓reduceIte]
      split
      · exact ih _
      · split
        · exact ih _
        · exact ih _

namespace LocalStore

/-! ### Expiry -/

theorem within_some {d : Duration} {since now : Nat} :
    within (some d) since now = true ↔ (now - since) * 1000000 + 1 < d.nanos := decide_eq_true_iff

theorem within_mono {limit : Option Duration} {since now later : Nat} (hle : now ≤ later)
    (h : within limit since later = true) : within limit since now = true := by
  cases limit with
  | none => rfl
  | some d =>
    have hspan : (now - since) * 1000000 ≤ (later - since) * 1000000 :=
      Nat.mul_le_mul_right _ (Nat.sub_le_sub_right hle since)
    rw [within_some] at h ⊢
    exact Nat.lt_of_le_of_lt (Nat.add_le_add_right hspan 1) h

/-- A limit that has not run out yet does not run out when it starts again. -/
theorem within_self {limit : Option Duration} {since now : Nat} (h : within limit since now = true) :
    within limit now now = true := by
  cases limit with
  | none => rfl
  | some d =>
    rw [within_some] at h ⊢
    rw [Nat.sub_self, Nat.zero_mul]
    exact Nat.lt_of_le_of_lt (Nat.add_le_add_right (Nat.zero_le _) 1) h

theorem live_mono {store : LocalStore} {entry : Entry} {now later : Nat} (hle : now ≤ later)
    (h : store.live later entry = true) : store.live now entry = true := by
  simp only [live, Bool.and_eq_true] at h ⊢
  exact ⟨within_mono hle h.1, within_mono hle h.2⟩

theorem peek_eq_some {store : LocalStore} {now : Nat} {key : Key} {value : Stored Value} :
    store.peek now key = some value ↔
      ∃ entry, store.entries.find? key = some entry ∧ store.live now entry = true ∧ entry.value = value := by
  unfold peek
  cases store.entries.find? key with
  | none => simp
  | some entry => by_cases h : store.live now entry = true <;> simp [h]

/-- What has expired stays expired. -/
theorem peek_mono {store : LocalStore} {key : Key} {value : Stored Value} {now later : Nat} (hle : now ≤ later)
    (h : store.peek later key = some value) : store.peek now key = some value := by
  obtain ⟨entry, hfind, hlive, hvalue⟩ := peek_eq_some.1 h
  exact peek_eq_some.2 ⟨entry, hfind, live_mono hle hlive, hvalue⟩

/-! ### Upkeep -/

/-- `after` is `before` without some entries, which only a size limit can cost it. -/
structure Trimmed (before after : LocalStore) : Prop where
  name : after.name = before.name
  tuning : after.tuning = before.tuning
  inFlight : after.inFlight = before.inFlight
  nextLoad : after.nextLoad = before.nextLoad
  entries : ∀ key, after.entries.find? key = before.entries.find? key ∨
    before.tuning.maximumSize.isSome ∧ after.entries.find? key = none

namespace Trimmed

variable {a b c : LocalStore}

theorem refl (a : LocalStore) : Trimmed a a := ⟨rfl, rfl, rfl, rfl, fun _ => .inl rfl⟩

theorem trans (hab : Trimmed a b) (hbc : Trimmed b c) : Trimmed a c where
  name := hbc.name.trans hab.name
  tuning := hbc.tuning.trans hab.tuning
  inFlight := hbc.inFlight.trans hab.inFlight
  nextLoad := hbc.nextLoad.trans hab.nextLoad
  entries key := by
    rcases hbc.entries key with h | ⟨hsize, h⟩
    · rw [h]
      exact hab.entries key
    · exact .inr ⟨by rwa [← hab.tuning], h⟩

end Trimmed

/-- The key's value is what it was, unless a size limit cost the store its entry. -/
def Keeps (before after : LocalStore) (now : Nat) (key : Key) : Prop :=
  after.peek now key = before.peek now key ∨
    before.tuning.maximumSize.isSome ∧ after.entries.find? key = none ∧ after.peek now key = none

namespace Keeps

variable {a b : LocalStore} {now : Nat} {key : Key} {value : Stored Value}

theorem peek_eq_some (h : Keeps a b now key) (hb : b.peek now key = some value) : a.peek now key = some value := by
  rcases h with heq | ⟨-, -, hnone⟩
  · rw [← heq, hb]
  · rw [hnone] at hb
    cases hb

theorem peek_eq_none (h : Keeps a b now key) (ha : a.peek now key = none) : b.peek now key = none := by
  rcases h with heq | ⟨-, -, hnone⟩
  · rw [heq, ha]
  · exact hnone

end Keeps

theorem peek_eq_none_of_find? {store : LocalStore} {now : Nat} {key : Key}
    (h : store.entries.find? key = none) : store.peek now key = none := by
  simp only [peek, h]

theorem Trimmed.keeps {a b : LocalStore} (h : Trimmed a b) (now : Nat) (key : Key) : Keeps a b now key := by
  rcases h.entries key with hfind | ⟨hsize, hfind⟩
  · left
    have hlive : b.live now = a.live now := by
      funext entry
      simp only [live, h.tuning]
    simp only [peek, hfind, hlive]
  · exact .inr ⟨hsize, hfind, peek_eq_none_of_find? hfind⟩

theorem trimmed_tend (store : LocalStore) (now : Nat) (pending : List Change) :
    Trimmed store (store.tend now pending) where
  name := rfl
  tuning := rfl
  inFlight := rfl
  nextLoad := rfl
  entries key := by
    simp only [tend, without]
    generalize hdropped : (Upkeep.run ..).2 = dropped
    rw [Assoc.find?_filter_key store.entries fun key => !dropped.contains key]
    cases hsize : store.tuning.maximumSize with
    | some n =>
      by_cases hkey : key ∈ dropped
      · exact .inr ⟨rfl, by simp [hkey]⟩
      · exact .inl (by simp [hkey])
    | none =>
      have hnil : dropped = [] := by
        rw [← hdropped, hsize]
        exact Upkeep.dropped_settle_none ..
      exact .inl (by simp [hnil])

theorem trimmed_noteLook (store : LocalStore) (now : Nat) (look : Look) :
    Trimmed store (store.noteLook now look) := by
  unfold noteLook
  split
  · obtain ⟨hname, htuning, hflight, hnext, hentries⟩ := trimmed_tend store now []
    exact ⟨hname, htuning, hflight, hnext, hentries⟩
  · exact ⟨rfl, rfl, rfl, rfl, fun _ => .inl rfl⟩

theorem trimmed_noteChange (store : LocalStore) (now : Nat) (change : Change) :
    Trimmed store (store.noteChange now change) := by
  unfold noteChange
  split
  · obtain ⟨hname, htuning, hflight, hnext, hentries⟩ := trimmed_tend store now [change]
    exact ⟨hname, htuning, hflight, hnext, hentries⟩
  · exact ⟨rfl, rfl, rfl, rfl, fun _ => .inl rfl⟩

/-! ### One key after another -/

section
variable (store : LocalStore) (now : Nat) (key : Key)

theorem trimmed_miss : Trimmed store (store.miss now key) := trimmed_noteLook store now ⟨key, false⟩

theorem trimmed_touch :
    Trimmed { store with entries := store.entries.modify key fun entry => { entry with readAt := now } }
      (store.touch now key) := trimmed_noteLook _ now ⟨key, true⟩

@[simp] theorem name_touch : (store.touch now key).name = store.name := (trimmed_touch store now key).name

@[simp] theorem tuning_touch : (store.touch now key).tuning = store.tuning := (trimmed_touch store now key).tuning

@[simp] theorem inFlight_touch : (store.touch now key).inFlight = store.inFlight :=
  (trimmed_touch store now key).inFlight

@[simp] theorem nextLoad_touch : (store.touch now key).nextLoad = store.nextLoad :=
  (trimmed_touch store now key).nextLoad

/-- Reading a value restarts a clock that has not run out. -/
theorem keeps_touch {store : LocalStore} {now : Nat} {key : Key} {value : Stored Value}
    (h : store.peek now key = some value) (other : Key) : Keeps store (store.touch now key) now other := by
  obtain ⟨entry, hfind, hlive, hvalue⟩ := peek_eq_some.1 h
  -- the entry that was read is live, and stays so with its later reading time
  have hread : peek { store with entries := store.entries.modify key fun entry => { entry with readAt := now } }
      now other = store.peek now other := by
    by_cases heq : other = key
    · subst heq
      simp only [live, Bool.and_eq_true] at hlive
      have hnow : within store.tuning.expireAfterAccess now now = true := within_self hlive.2
      simp only [peek, Assoc.find?_modify, hfind, Option.map_some, ↓reduceIte, live, hlive.1, hlive.2, hnow,
        Bool.and_self]
    · simp only [peek, Assoc.find?_modify, heq, ↓reduceIte]
      rfl
  rcases (trimmed_touch store now key).keeps now other with heq | hgone
  · exact .inl (heq.trans hread)
  · exact .inr hgone

@[simp] theorem name_launch (load : Nat) : (store.launch now key load).name = store.name :=
  ((trimmed_miss store now key).trans (trimmed_miss _ now key)).name

@[simp] theorem tuning_launch (load : Nat) : (store.launch now key load).tuning = store.tuning :=
  ((trimmed_miss store now key).trans (trimmed_miss _ now key)).tuning

@[simp] theorem inFlight_launch (load : Nat) :
    (store.launch now key load).inFlight = store.inFlight.insert key ⟨store.nextLoad, load⟩ := rfl

theorem keeps_launch (load : Nat) (other : Key) : Keeps store (store.launch now key load) now other :=
  ((trimmed_miss store now key).trans (trimmed_miss _ now key)).keeps now other

variable (value : Stored Value)

theorem put_of_no_room (h : store.tuning.maximumSize = some 0) : store.put now key value = store := by
  rw [put, if_pos h]

theorem trimmed_put (h : store.tuning.maximumSize ≠ some 0) :
    Trimmed { store with entries := store.entries.insert key ⟨value, now, now⟩ } (store.put now key value) := by
  rw [put, if_neg h]
  exact trimmed_noteChange _ now (.stored key)

@[simp] theorem name_put : (store.put now key value).name = store.name := by
  by_cases h : store.tuning.maximumSize = some 0
  · rw [put_of_no_room store now key value h]
  · exact (trimmed_put store now key value h).name

@[simp] theorem tuning_put : (store.put now key value).tuning = store.tuning := by
  by_cases h : store.tuning.maximumSize = some 0
  · rw [put_of_no_room store now key value h]
  · exact (trimmed_put store now key value h).tuning

@[simp] theorem inFlight_put : (store.put now key value).inFlight = store.inFlight := by
  by_cases h : store.tuning.maximumSize = some 0
  · rw [put_of_no_room store now key value h]
  · exact (trimmed_put store now key value h).inFlight

@[simp] theorem nextLoad_put : (store.put now key value).nextLoad = store.nextLoad := by
  by_cases h : store.tuning.maximumSize = some 0
  · rw [put_of_no_room store now key value h]
  · exact (trimmed_put store now key value h).nextLoad

theorem keeps_put {other : Key} (hne : other ≠ key) : Keeps store (store.put now key value) now other := by
  by_cases h : store.tuning.maximumSize = some 0
  · rw [put_of_no_room store now key value h]
    exact .inl rfl
  · have hkept := (trimmed_put store now key value h).keeps now other
    simp only [Keeps, peek, Assoc.find?_insert, hne, ↓reduceIte] at hkept ⊢
    exact hkept

/-- A value that is stored is there, unless the size limit has no place for it or its time is up at once. -/
theorem peek_put_self {store : LocalStore} {now : Nat} {key : Key} (hnone : store.peek now key = none)
    (value : Stored Value) : (store.put now key value).peek now key = some value ∨
      (store.put now key value).peek now key = none ∧
        (store.tuning.maximumSize.isSome ∨ store.live now ⟨value, now, now⟩ = false) := by
  by_cases h : store.tuning.maximumSize = some 0
  · rw [put_of_no_room store now key value h, hnone, h]
    exact .inr ⟨rfl, .inl rfl⟩
  · rcases (trimmed_put store now key value h).keeps now key with heq | ⟨hsize, -, hgone⟩
    · rw [heq]
      simp only [peek, Assoc.find?_insert_self]
      split
      · exact .inl rfl
      next hlive => exact .inr ⟨rfl, .inr (Bool.eq_false_iff.2 hlive)⟩
    · exact .inr ⟨hgone, .inl hsize⟩

theorem eq_of_peek_put {store : LocalStore} {now : Nat} {key : Key} {value found : Stored Value}
    (hnone : store.peek now key = none) (h : (store.put now key value).peek now key = some found) :
    found = value := by
  by_cases hsize : store.tuning.maximumSize = some 0
  · rw [put_of_no_room store now key value hsize, hnone] at h
    cases h
  · have hkept := (trimmed_put store now key value hsize).keeps now key
    obtain ⟨entry, hfind, -, rfl⟩ := peek_eq_some.1 (hkept.peek_eq_some h)
    rw [Assoc.find?_insert_self] at hfind
    cases hfind
    rfl

theorem trimmed_invalidate : Trimmed
    { store with entries := store.entries.erase key, inFlight := store.inFlight.erase key }
    (store.invalidate now key) := by
  unfold invalidate
  dsimp only
  split
  · exact trimmed_noteChange _ now (.removed key)
  · exact .refl _

@[simp] theorem name_invalidate : (store.invalidate now key).name = store.name :=
  (trimmed_invalidate store now key).name

@[simp] theorem tuning_invalidate : (store.invalidate now key).tuning = store.tuning :=
  (trimmed_invalidate store now key).tuning

@[simp] theorem inFlight_invalidate : (store.invalidate now key).inFlight = store.inFlight.erase key :=
  (trimmed_invalidate store now key).inFlight

@[simp] theorem nextLoad_invalidate : (store.invalidate now key).nextLoad = store.nextLoad :=
  (trimmed_invalidate store now key).nextLoad

theorem peek_invalidate_self : (store.invalidate now key).peek now key = none := by
  apply ((trimmed_invalidate store now key).keeps now key).peek_eq_none
  exact peek_eq_none_of_find? (Assoc.find?_erase_self ..)

theorem keeps_invalidate {other : Key} (hne : other ≠ key) : Keeps store (store.invalidate now key) now other := by
  have hkept := (trimmed_invalidate store now key).keeps now other
  simp only [Keeps, peek, Assoc.find?_erase, hne, ↓reduceIte] at hkept ⊢
  exact hkept

end

@[simp] theorem peek_invalidateAll (store : LocalStore) (now : Nat) (key : Key) :
    store.invalidateAll.peek now key = none := rfl

end LocalStore

end SingleFlight
