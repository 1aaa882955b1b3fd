import Mathlib.Data.List.Pairwise
import SingleFlight.Key.Order

/-!
# The order of key components is total

* components of different kinds are compared by the rank of their kinds (`order_of_rank_ne`), so each law is shown for
  components of one kind, which are plain or sequences (`plain_or_seq`);
* the only kind that holds components is a sequence, and a law that its items obey holds of lists of them
  (`items_induction`, and `orderOfAll_swap`, `eq_of_orderOfAll`, `orderOfAll_lt_trans`);
* sequences and tuples are compared lexicographically, and so are texts and bytes (`compareLex_eq_lt`);
* a list has one ascending arrangement and no other, with equal components next to each other (`eq_sorted`).
-/

namespace SingleFlight

/-- A comparison after a total order, in which nothing equals anything but itself. -/
structure TotalOrder (cmp : α → α → Ordering) : Prop where
  total (a b : α) : (cmp a b).isLE ∨ (cmp b a).isLE
  trans (a b c : α) : (cmp a b).isLE → (cmp b c).isLE → (cmp a c).isLE
  swap (a b : α) : cmp b a = (cmp a b).swap
  eq_iff (a b : α) : cmp a b = .eq ↔ a = b

theorem totalOrder (cmp : α → α → Ordering) [Std.TransCmp cmp] [Std.LawfulEqCmp cmp] : TotalOrder cmp where
  total a b := by
    cases h : cmp a b with
    | lt | eq => exact .inl rfl
    | gt => exact .inr (Ordering.isLE_of_eq_lt (Std.OrientedCmp.gt_iff_lt.mp h))
  trans _ _ _ := Std.TransCmp.isLE_trans
  swap _ _ := Std.OrientedCmp.eq_swap
  eq_iff _ _ := Std.LawfulEqCmp.compare_eq_iff_eq

/-- Lexicographic comparison, a proper beginning first. -/
theorem compareLex_eq_lt {cmp : α → α → Ordering} [Std.LawfulEqCmp cmp] {as bs : List α} :
    as.compareLex cmp bs = .lt ↔ List.Lex (fun a b => cmp a b = .lt) as bs := by
  induction as generalizing bs with
  | nil => cases bs <;> simp [List.compareLex]
  | cons a as ih =>
    cases bs with
    | nil => simp [List.compareLex]
    | cons b bs =>
      rw [List.compareLex_cons_cons, Ordering.then_eq_lt, ih, Std.LawfulEqCmp.compare_eq_iff_eq]
      constructor
      · rintro (h | ⟨rfl, h⟩)
        · exact .rel h
        · exact .cons h
      · rintro (_ | h | h)
        · exact .inl h
        · exact .inr ⟨rfl, h⟩

namespace Component

/-- What holds of a component as soon as it holds of all its items holds of every component. -/
@[elab_as_elim]
theorem items_induction {P : Component → Prop}
    (step : ∀ c, (∀ items, c = seq items → ∀ item ∈ items, P item) → P c) (c : Component) : P c :=
  step c fun items _h item _hmem => items_induction step item
termination_by c
decreasing_by
  subst _h
  have hlt : sizeOf item < sizeOf items := List.sizeOf_lt_of_mem _hmem
  simp
  omega

/-- Makes the components of a kind that hold no others: what they hold is ordered totally, and their order is that. -/
structure Plain (make : α → Component) (cmp : α → α → Ordering) : Prop where
  trans : Std.TransCmp cmp := by infer_instance
  lawful : Std.LawfulEqCmp cmp := by infer_instance
  order_make (x y : α) : order (make x) (make y) = cmp x y := by intros; rfl
  make_of_rank_eq (x : α) {c : Component} (h : (make x).rank = c.rank) : ∃ y, c = make y := by
    intro _ c h
    cases c <;> first | exact ⟨_, rfl⟩ | simp [rank] at h

theorem plain_null : Plain (fun _ : Fin 1 => null) compare where
  order_make x y := by
    rw [Subsingleton.elim x y]
    exact Eq.symm Std.ReflCmp.compare_self
  make_of_rank_eq _ c h := by cases c <;> first | exact ⟨0, rfl⟩ | simp [rank] at h

/-- A component that is not of a plain kind is a sequence. -/
theorem plain_or_seq (c : Component) :
    (∃ (α : Type) (make : α → Component) (cmp : α → α → Ordering), Plain make cmp ∧ ∃ x, c = make x) ∨
      ∃ items, c = seq items := by
  cases c with
  | null => exact .inl ⟨_, _, _, plain_null, 0, rfl⟩
  | bool x => exact .inl ⟨Bool, bool, compare, {}, x, rfl⟩
  | int x => exact .inl ⟨Int, int, compare, {}, x, rfl⟩
  | uint x => exact .inl ⟨Nat, uint, compare, {}, x, rfl⟩
  | str x => exact .inl ⟨String, str, Text.byteOrder, {}, x, rfl⟩
  | bytes x => exact .inl ⟨List UInt8, bytes, compare, {}, x, rfl⟩
  | seq items => exact .inr ⟨items, rfl⟩

theorem exists_seq_of_rank_eq {items : List Component} {c : Component} (h : (seq items).rank = c.rank) :
    ∃ others, c = seq others := by
  cases c <;> first | exact ⟨_, rfl⟩ | simp [rank] at h

theorem order_of_rank_ne {a b : Component} (h : a.rank ≠ b.rank) : order a b = compare a.rank b.rank := by
  cases a <;> cases b <;> first | rfl | exact absurd rfl h

theorem order_of_rank_lt {a b : Component} (h : a.rank < b.rank) : order a b = .lt := by
  rw [order_of_rank_ne (Nat.ne_of_lt h)]
  exact Nat.compare_eq_lt.mpr h

theorem rank_le_of_order_lt {a b : Component} (h : order a b = .lt) : a.rank ≤ b.rank := by
  by_cases hrank : a.rank = b.rank
  · exact Nat.le_of_eq hrank
  · rw [order_of_rank_ne hrank] at h
    exact Nat.le_of_lt (Nat.compare_eq_lt.mp h)

/-! ### Sequences compare as their items do -/

theorem orderOfAll_swap {as : List Component} (h : ∀ a ∈ as, ∀ b, order b a = (order a b).swap)
    (bs : List Component) : orderOfAll bs as = (orderOfAll as bs).swap := by
  induction as generalizing bs with
  | nil => cases bs <;> rfl
  | cons a as ih =>
    obtain ⟨ha, has⟩ := List.forall_mem_cons.mp h
    cases bs with
    | nil => rfl
    | cons b bs => rw [orderOfAll, orderOfAll, Ordering.swap_then, ha, ih has]

theorem eq_of_orderOfAll {as : List Component} (h : ∀ a ∈ as, ∀ b, order a b = .eq → a = b) {bs : List Component}
    (heq : orderOfAll as bs = .eq) : as = bs := by
  induction as generalizing bs with
  | nil =>
    cases bs with
    | nil => rfl
    | cons b bs => cases heq
  | cons a as ih =>
    obtain ⟨ha, has⟩ := List.forall_mem_cons.mp h
    cases bs with
    | nil => cases heq
    | cons b bs =>
      obtain ⟨hhead, htail⟩ := Ordering.then_eq_eq.mp heq
      rw [ha b hhead, ih has htail]

theorem orderOfAll_lt_trans {as : List Component} (eq_of : ∀ a b, order a b = .eq → a = b)
    (h : ∀ a ∈ as, ∀ b c, order a b = .lt → order b c = .lt → order a c = .lt) {bs cs : List Component}
    (hbs : orderOfAll as bs = .lt) (hcs : orderOfAll bs cs = .lt) : orderOfAll as cs = .lt := by
  induction as generalizing bs cs with
  | nil =>
    cases cs with
    | nil => cases bs <;> cases hcs
    | cons c cs => rfl
  | cons a as ih =>
    obtain ⟨ha, has⟩ := List.forall_mem_cons.mp h
    rcases bs with - | ⟨b, bs⟩
    · cases hbs
    · rcases cs with - | ⟨c, cs⟩
      · cases hcs
      · rw [orderOfAll, Ordering.then_eq_lt] at hbs hcs ⊢
        -- two heads that are equal are one component, so either the first difference of one pair decides or the rest
        rcases hbs with hab | ⟨hab, hbs⟩
        · rcases hcs with hbc | ⟨hbc, -⟩
          · exact .inl (ha b c hab hbc)
          · exact .inl (eq_of b c hbc ▸ hab)
        · obtain rfl := eq_of a b hab
          rcases hcs with hbc | ⟨hbc, hcs⟩
          · exact .inl hbc
          · exact .inr ⟨hbc, ih has hbs hcs⟩

/-! ### The laws, kind by kind -/

theorem eq_of_order {a : Component} : ∀ b, order a b = .eq → a = b := by
  induction a using items_induction with
  | step a items =>
    intro b h
    have hrank : a.rank = b.rank := by
      by_contra hne
      rw [order_of_rank_ne hne] at h
      exact hne (Nat.compare_eq_eq.mp h)
    rcases plain_or_seq a with ⟨_, _, _, kind, x, rfl⟩ | ⟨as, rfl⟩
    · obtain ⟨y, rfl⟩ := kind.make_of_rank_eq x hrank
      rw [kind.order_make] at h
      rw [kind.lawful.eq_of_compare h]
    · obtain ⟨bs, rfl⟩ := exists_seq_of_rank_eq hrank
      rw [eq_of_orderOfAll (items as rfl) h]

theorem order_swap {a : Component} : ∀ b, order b a = (order a b).swap := by
  induction a using items_induction with
  | step a items =>
    intro b
    by_cases hrank : a.rank = b.rank
    · rcases plain_or_seq a with ⟨_, _, _, kind, x, rfl⟩ | ⟨as, rfl⟩
      · obtain ⟨y, rfl⟩ := kind.make_of_rank_eq x hrank
        rw [kind.order_make, kind.order_make, kind.trans.eq_swap]
      · obtain ⟨bs, rfl⟩ := exists_seq_of_rank_eq hrank
        exact orderOfAll_swap (items as rfl) bs
    · rw [order_of_rank_ne hrank, order_of_rank_ne (Ne.symm hrank)]
      exact Std.OrientedCmp.eq_swap

theorem order_lt_trans {a : Component} : ∀ b c, order a b = .lt → order b c = .lt → order a c = .lt := by
  induction a using items_induction with
  | step a items =>
    intro b c hab hbc
    have hrankab : a.rank ≤ b.rank := rank_le_of_order_lt hab
    have hrankbc : b.rank ≤ c.rank := rank_le_of_order_lt hbc
    by_cases hrank : a.rank = c.rank
    · have hrankab : a.rank = b.rank := by omega
      rcases plain_or_seq a with ⟨_, _, _, kind, x, rfl⟩ | ⟨as, rfl⟩
      · obtain ⟨y, rfl⟩ := kind.make_of_rank_eq x hrankab
        obtain ⟨z, rfl⟩ := kind.make_of_rank_eq x hrank
        have := kind.trans
        rw [kind.order_make] at hab hbc ⊢
        exact Std.TransCmp.lt_trans hab hbc
      · obtain ⟨bs, rfl⟩ := exists_seq_of_rank_eq hrankab
        obtain ⟨cs, rfl⟩ := exists_seq_of_rank_eq hrank
        exact orderOfAll_lt_trans (fun _ => eq_of_order) (items as rfl) hab hbc
    · exact order_of_rank_lt (by omega)

instance : Std.OrientedCmp order where
  eq_swap := order_swap _

instance : Std.LawfulEqCmp order where
  compare_self {a} := Ordering.eq_eq_of_eq_swap (order_swap a)
  eq_of_compare := eq_of_order _

instance : Std.TransCmp order where
  isLE_trans {a b c} hab hbc := by
    rcases Ordering.isLE_iff_eq_lt_or_eq_eq.mp hab with hab | hab
    · rcases Ordering.isLE_iff_eq_lt_or_eq_eq.mp hbc with hbc | hbc
      · exact Ordering.isLE_of_eq_lt (order_lt_trans b c hab hbc)
      · exact eq_of_order c hbc ▸ Ordering.isLE_of_eq_lt hab
    · exact eq_of_order b hab ▸ hbc

theorem orderOfAll_eq_compareLex : orderOfAll = List.compareLex order := by
  funext as bs
  induction as generalizing bs with
  | nil => cases bs <;> simp [orderOfAll, List.compareLex]
  | cons a as ih =>
    cases bs with
    | nil => simp [orderOfAll, List.compareLex]
    | cons b bs => rw [orderOfAll, List.compareLex_cons_cons, ih]

instance : Std.LawfulEqCmp orderOfAll := orderOfAll_eq_compareLex ▸ inferInstance

instance : Std.TransCmp orderOfAll := orderOfAll_eq_compareLex ▸ inferInstance

theorem orderOfAll_eq_lt {as bs : List Component} :
    orderOfAll as bs = .lt ↔ List.Lex (fun a b => order a b = .lt) as bs := by
  rw [orderOfAll_eq_compareLex, compareLex_eq_lt]

/-! ### Ascending arrangements -/

theorem le_antisymm {a b : Component} (h : (order a b).isLE) (h' : (order b a).isLE) : a = b :=
  eq_of_order b (Std.OrientedCmp.isLE_antisymm h h')

theorem sorted_perm (components : List Component) : (sorted components).Perm components :=
  List.mergeSort_perm ..

theorem ascending_sorted (components : List Component) :
    (sorted components).Pairwise fun a b => (order a b).isLE :=
  have total : ∀ a b, ((order a b).isLE || (order b a).isLE) = true := by
    simpa using (totalOrder order).total
  List.pairwise_mergeSort (fun _ _ _ => Std.TransCmp.isLE_trans) total components

/-- An ascending arrangement of a list is the one that sorting gives. -/
theorem eq_sorted {components arranged : List Component} (hperm : arranged.Perm components)
    (hascending : arranged.Pairwise fun a b => (order a b).isLE) : arranged = sorted components :=
  List.Perm.eq_of_pairwise (fun _ _ _ _ => le_antisymm) hascending (ascending_sorted components)
    (hperm.trans (sorted_perm components).symm)

private theorem le_of_getElem? {l : List Component} (hascending : l.Pairwise fun a b => (order a b).isLE) {i j : Nat}
    {a b : Component} (hij : i ≤ j) (hi : l[i]? = some a) (hj : l[j]? = some b) : (order a b).isLE := by
  rcases Nat.lt_or_eq_of_le hij with hlt | rfl
  · obtain ⟨hi', rfl⟩ := List.getElem?_eq_some_iff.mp hi
    obtain ⟨hj', rfl⟩ := List.getElem?_eq_some_iff.mp hj
    exact List.pairwise_iff_getElem.mp hascending i j hi' hj' hlt
  · cases hi.symm.trans hj
    exact Std.ReflCmp.isLE_rfl

/-- What stands between two equal components of an ascending list is equal to them. -/
theorem eq_of_between {l : List Component} (hascending : l.Pairwise fun a b => (order a b).isLE) {i j k : Nat}
    {a b : Component} (hij : i ≤ j) (hjk : j ≤ k) (hi : l[i]? = some a) (hj : l[j]? = some b)
    (hk : l[k]? = some a) : b = a :=
  le_antisymm (le_of_getElem? hascending hjk hj hk) (le_of_getElem? hascending hij hi hj)

end Component

namespace Tuple

instance : Std.LawfulEqCmp order where
  compare_self {a} := show Component.orderOfAll a.elements a.elements = .eq from Std.ReflCmp.compare_self
  eq_of_compare {a b} h :=
    ext (Std.LawfulEqCmp.eq_of_compare (show Component.orderOfAll a.elements b.elements = .eq from h))

instance : Std.TransCmp order where
  eq_swap {a b} :=
    show Component.orderOfAll a.elements b.elements = (Component.orderOfAll b.elements a.elements).swap from
      Std.OrientedCmp.eq_swap
  isLE_trans {a _ c} hab hbc :=
    show (Component.orderOfAll a.elements c.elements).isLE from Std.TransCmp.isLE_trans hab hbc

end Tuple

namespace Component

theorem compare_bytes_eq_lt {data other : List UInt8} : compare data other = .lt ↔ List.Lex (· < ·) data other := by
  have hbyte : (fun a b : UInt8 => compare a b = .lt) = (· < ·) := by
    funext a b
    exact propext Std.compare_eq_lt
  rw [← hbyte]
  exact compareLex_eq_lt

/-- **The order of components is total.** Of two components one is at most the other, the order is transitive, and two
components are equal in it only if they are the same. The kinds are ranked null, Boolean, signed, unsigned, text, bytes,
sequence. Numbers go by size; texts go by their bytes, and texts, bytes, sequences and tuples are compared
lexicographically, with a proper beginning first. Tuples are ordered totally too. So a list has one ascending
arrangement, the same for every rearrangement of the list, and equal components stand next to each other in it. -/
theorem order_total :
    TotalOrder order ∧ TotalOrder Tuple.order ∧
    (∀ x m n s data items, order null (bool x) = .lt ∧ order (bool x) (int m) = .lt ∧ order (int m) (uint n) = .lt ∧
      order (uint n) (str s) = .lt ∧ order (str s) (bytes data) = .lt ∧ order (bytes data) (seq items) = .lt) ∧
    (∀ m n, order (int m) (int n) = .lt ↔ m < n) ∧
    (∀ m n, order (uint m) (uint n) = .lt ↔ m < n) ∧
    (∀ s t, order (str s) (str t) = .lt ↔ List.Lex (· < ·) (Text.utf8 s) (Text.utf8 t)) ∧
    (∀ data other, order (bytes data) (bytes other) = .lt ↔ List.Lex (· < ·) data other) ∧
    (∀ items others, order (seq items) (seq others) = .lt ↔ List.Lex (fun a b => order a b = .lt) items others) ∧
    (∀ s t : Tuple, s.order t = .lt ↔ List.Lex (fun a b => order a b = .lt) s.elements t.elements) ∧
    ∀ components,
      (sorted components).Perm components ∧
      (sorted components).Pairwise (fun a b => (order a b).isLE) ∧
      (∀ others, others.Perm components → sorted others = sorted components) ∧
      (∀ others, others.Perm components → others.Pairwise (fun a b => (order a b).isLE) → others = sorted components) ∧
      ∀ (i j k : Nat) (a b : Component), i ≤ j → j ≤ k → (sorted components)[i]? = some a →
        (sorted components)[j]? = some b → (sorted components)[k]? = some a → b = a := by
  refine ⟨totalOrder order, totalOrder Tuple.order, ?ranks, fun _ _ => Int.compare_eq_lt, fun _ _ => Nat.compare_eq_lt,
    fun _ _ => compare_bytes_eq_lt, fun _ _ => compare_bytes_eq_lt, fun _ _ => orderOfAll_eq_lt,
    fun _ _ => orderOfAll_eq_lt, fun components => ⟨sorted_perm components, ascending_sorted components, ?_, ?_, ?_⟩⟩
  case ranks => exact fun _ _ _ _ _ _ => ⟨rfl, rfl, rfl, rfl, rfl, rfl⟩
  · intro others hperm
    exact eq_sorted ((sorted_perm others).trans hperm) (ascending_sorted others)
  · exact fun others => eq_sorted
  · exact fun i j k a b => eq_of_between (ascending_sorted components)

/-- A nested sequence, texts of which one begins the other, and two numbers of different kinds: any arrangement of them
is sorted into the same one. -/
theorem order_total_rearranged :
    sorted [seq [int 1, null], str "ab", uint 5, str "a", int 5, str "ab"] =
        sorted [str "ab", int 5, str "ab", seq [int 1, null], str "a", uint 5] ∧
      sorted [seq [int 1, null], str "ab", uint 5, str "a", int 5, str "ab"] =
        [int 5, uint 5, str "a", str "ab", str "ab", seq [int 1, null]] := by
  have sorts := order_total.2.2.2.2.2.2.2.2.2 [seq [int 1, null], str "ab", uint 5, str "a", int 5, str "ab"]
  exact ⟨(sorts.2.2.1 _ (by decide)).symm, (sorts.2.2.2.1 _ (by decide) (by decide)).symm⟩

end Component

end SingleFlight
