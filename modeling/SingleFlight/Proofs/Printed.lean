import Mathlib.Data.List.Forall2
import SingleFlight.Key
import SingleFlight.Proofs.Spelling

/-!
# What a printed key tells

* the impression of a component is all that its printed form shows: of an integer the number, of bytes how many there
  are (`chars_impression`);
* the first character of a printed form tells the kind of the impression (`rank_of_chars`), and where a printed form
  ends is clear from it and from the character that follows, which is never a digit (`Ends`);
* so components that print alike have one impression (`chars_append_inj`), and so have lists of them up to the bracket
  that closes the list (`charsOfAll_append_inj`);
* keys of the three kinds begin differently, as no component begins like a default key or a tuple
  (`KeyImpression.single_ne`), so keys that print alike have one impression too (`KeyImpression.chars_inj`).
-/

namespace SingleFlight

/-- What the printed form of a component shows. -/
inductive Impression where
  | null
  | bool (value : Bool)
  | number (value : Int)
  | str (value : String)
  | bytes (length : Nat)
  | seq (items : List Impression)

mutual
/-- Integers by their numbers and bytes by their length, here and in every item. -/
def Component.impression : Component → Impression
  | .null => .null
  | .bool value => .bool value
  | .int value => .number value
  | .uint value => .number value
  | .str value => .str value
  | .bytes data => .bytes data.length
  | .seq items => .seq (impressions items)

def Component.impressions : List Component → List Impression
  | [] => []
  | component :: rest => component.impression :: impressions rest
end

namespace Impression

mutual
def chars : Impression → List Char
  | null => "null".toList
  | bool true => "true".toList
  | bool false => "false".toList
  | number n => Component.intChars n
  | str s => Text.quotedChars s.toList
  | bytes length => "bytes[".toList ++ Component.natChars length ++ [']']
  | seq items => '[' :: (charsOfAll items ++ [']'])

def charsOfAll : List Impression → List Char
  | [] => []
  | [item] => chars item
  | item :: rest => chars item ++ [',', ' '] ++ charsOfAll rest
end

/-- The items but the first, each after a comma. -/
def charsOfRest (items : List Impression) : List Char := items.flatMap fun item => ',' :: ' ' :: item.chars

theorem charsOfAll_cons (item : Impression) (rest : List Impression) :
    charsOfAll (item :: rest) = item.chars ++ charsOfRest rest := by
  induction rest generalizing item with
  | nil => simp [charsOfAll, charsOfRest]
  | cons next rest ih => simp [charsOfAll, ih, charsOfRest]

end Impression

mutual
theorem Component.chars_impression : (c : Component) → c.impression.chars = c.chars
  | .null | .bool true | .bool false | .int _ | .uint _ | .str _ | .bytes _ => rfl
  | .seq items => congrArg (fun inside => '[' :: (inside ++ [']'])) (charsOfAll_impressions items)

theorem Component.charsOfAll_impressions :
    (items : List Component) → Impression.charsOfAll (impressions items) = charsOfAll items
  | [] => rfl
  | [c] => chars_impression c
  | c :: d :: rest => by
    show c.impression.chars ++ [',', ' '] ++ Impression.charsOfAll (impressions (d :: rest)) =
      c.chars ++ [',', ' '] ++ charsOfAll (d :: rest)
    rw [chars_impression c, charsOfAll_impressions (d :: rest)]
end

/-! ### Where a printed form ends -/

/-- A text that may follow a number: it goes on without a digit. -/
def Ends (rest : List Char) : Prop := ∀ c ∈ rest.head?, c.isDigit = false

theorem ends_cons {c : Char} (h : c.isDigit = false) (rest : List Char) : Ends (c :: rest) := by
  simpa [Ends] using h

namespace Component

theorem isDigit_of_mem_natChars {n : Nat} : ∀ c ∈ natChars n, c.isDigit = true :=
  fun _ => Nat.isDigit_of_mem_toDigits (by decide) (by decide)

theorem natChars_append_inj {m n : Nat} {r r' : List Char} (hr : Ends r) (hr' : Ends r')
    (h : natChars m ++ r = natChars n ++ r') : m = n ∧ r = r' := by
  obtain ⟨hsame, hrest⟩ := Text.append_inj_of_all isDigit_of_mem_natChars isDigit_of_mem_natChars hr hr' h
  exact ⟨Text.toDigits_inj (by decide) (by decide) hsame, hrest⟩

/-- The digits of a number do not begin with its sign. -/
theorem natChars_append_ne_minus (n : Nat) (r r' : List Char) : natChars n ++ r ≠ '-' :: r' := by
  intro h
  cases hchars : natChars n with
  | nil => exact Nat.toDigits_ne_nil hchars
  | cons c rest =>
    rw [hchars] at h
    obtain ⟨rfl, -⟩ := List.cons.inj h
    exact absurd (isDigit_of_mem_natChars (n := n) '-' (hchars ▸ .head _)) (by decide)

theorem intChars_append_inj {m n : Int} {r r' : List Char} (hr : Ends r) (hr' : Ends r')
    (h : intChars m ++ r = intChars n ++ r') : m = n ∧ r = r' := by
  cases m with
  | ofNat m =>
    cases n with
    | ofNat n =>
      obtain ⟨rfl, hrest⟩ := natChars_append_inj hr hr' h
      exact ⟨rfl, hrest⟩
    | negSucc n => exact absurd h (natChars_append_ne_minus m r _)
  | negSucc m =>
    cases n with
    | ofNat n => exact absurd h.symm (natChars_append_ne_minus n r' _)
    | negSucc n =>
      obtain ⟨hsame, hrest⟩ := natChars_append_inj hr hr' (List.cons.inj h).2
      obtain rfl := Nat.succ.inj hsame
      exact ⟨rfl, hrest⟩

end Component

namespace Impression

/-! ### The first character tells the kind -/

def rank : Impression → Nat
  | null => 0
  | bool _ => 1
  | number _ => 2
  | str _ => 3
  | bytes _ => 4
  | seq _ => 5

/-- The kind of an impression whose printed form begins with the character; none begins with other characters. -/
def rankOf (c : Char) : Nat :=
  if c.isDigit || c = '-' then 2
  else match c with
    | 'n' => 0
    | 't' | 'f' => 1
    | '"' => 3
    | 'b' => 4
    | '[' => 5
    | _ => 6

theorem exists_first (item : Impression) : ∃ c rest, item.chars = c :: rest ∧ rankOf c = item.rank := by
  cases item with
  | null | str _ | bytes _ | seq _ => exact ⟨_, _, rfl, rfl⟩
  | bool value => cases value <;> exact ⟨_, _, rfl, rfl⟩
  | number n =>
    cases n with
    | negSucc n => exact ⟨_, _, rfl, rfl⟩
    | ofNat n =>
      cases hchars : Component.natChars n with
      | nil => exact absurd hchars Nat.toDigits_ne_nil
      | cons c rest =>
        have hdigit : c.isDigit = true := Component.isDigit_of_mem_natChars (n := n) c (hchars ▸ .head _)
        exact ⟨c, rest, hchars, by simp [rankOf, hdigit, rank]⟩

theorem rank_of_chars {item : Impression} {c : Char} {r r' : List Char} (h : item.chars ++ r = c :: r') :
    item.rank = rankOf c := by
  obtain ⟨d, rest, hchars, hrank⟩ := exists_first item
  rw [hchars] at h
  obtain ⟨rfl, -⟩ := List.cons.inj h
  exact hrank.symm

theorem rank_eq_of_chars {a b : Impression} {r r' : List Char} (h : a.chars ++ r = b.chars ++ r') :
    a.rank = b.rank := by
  obtain ⟨c, rest, hchars, hrank⟩ := exists_first b
  rw [hchars] at h
  exact (rank_of_chars h).trans hrank

/-- No printed form begins with a character of no kind. -/
theorem append_ne_cons {item : Impression} {c : Char} (hc : rankOf c = 6) {r r' : List Char} :
    item.chars ++ r ≠ c :: r' := by
  intro h
  have hrank : item.rank = 6 := (rank_of_chars h).trans hc
  cases item <;> cases hrank

/-- A bracket that closes a list. -/
def Closing (c : Char) : Prop := c = ']' ∨ c = ')'

theorem Closing.ends {close : Char} (closing : Closing close) (r : List Char) : Ends (close :: r) := by
  rcases closing with rfl | rfl <;> exact ends_cons (by decide) r

theorem Closing.ne_comma {close : Char} (closing : Closing close) : close ≠ ',' := by
  rcases closing with rfl | rfl <;> decide

theorem Closing.append_ne {close : Char} (closing : Closing close) (item : Impression) (r r' : List Char) :
    item.chars ++ r ≠ close :: r' :=
  append_ne_cons (by rcases closing with rfl | rfl <;> rfl)

/-- What follows an item of a list begins with a comma or with the bracket that closes the list. -/
theorem ends_rest {close : Char} (closing : Closing close) (items : List Impression) (r : List Char) :
    Ends (charsOfRest items ++ close :: r) := by
  cases items with
  | nil => exact closing.ends r
  | cons item items => exact ends_cons (by decide) _

mutual
/-- Texts that begin with printed forms, and go on without a digit, begin with the same impression. -/
theorem chars_append_inj : (a b : Impression) → {r r' : List Char} → Ends r → Ends r' →
    a.chars ++ r = b.chars ++ r' → a = b ∧ r = r'
  -- the first characters rule out another kind, and only a number needs what follows to tell where it ends
  | .null, b, _, _, _, _, h => by
    cases b with
    | null => exact ⟨rfl, List.append_cancel_left h⟩
    | _ => cases rank_eq_of_chars h
  | .bool x, b, _, _, _, _, h => by
    cases b with
    | bool y =>
      cases x <;> cases y <;>
        first | exact ⟨rfl, List.append_cancel_left h⟩ | exact absurd (List.cons.inj h).1 (by decide)
    | _ => cases rank_eq_of_chars h
  | .number m, b, _, _, hr, hr', h => by
    cases b with
    | number n =>
      obtain ⟨rfl, hrest⟩ := Component.intChars_append_inj hr hr' h
      exact ⟨rfl, hrest⟩
    | _ => cases rank_eq_of_chars h
  | .str s, b, _, _, _, _, h => by
    cases b with
    | str t =>
      obtain ⟨hsame, hrest⟩ := Text.quotedChars_append_inj h
      exact ⟨congrArg str (String.toList_inj.mp hsame), hrest⟩
    | _ => cases rank_eq_of_chars h
  | .bytes m, b, r, r', _, _, h => by
    cases b with
    | bytes n =>
      have hwhole : "bytes[".toList ++ (Component.natChars m ++ [']']) ++ r =
          "bytes[".toList ++ (Component.natChars n ++ [']']) ++ r' := h
      have hlength : Component.natChars m ++ ']' :: r = Component.natChars n ++ ']' :: r' := by
        simpa only [List.append_assoc, List.singleton_append, List.append_cancel_left_eq] using hwhole
      have hbracket := fun r => Closing.ends (.inl rfl) r
      obtain ⟨rfl, hrest⟩ := Component.natChars_append_inj (hbracket r) (hbracket r') hlength
      exact ⟨rfl, (List.cons.inj hrest).2⟩
    | _ => cases rank_eq_of_chars h
  | .seq as, b, r, r', _, _, h => by
    cases b with
    | seq bs =>
      have hwhole : '[' :: (charsOfAll as ++ [']'] ++ r) = '[' :: (charsOfAll bs ++ [']'] ++ r') := h
      have hitems : charsOfAll as ++ ']' :: r = charsOfAll bs ++ ']' :: r' := by
        simpa only [List.append_assoc, List.singleton_append] using (List.cons.inj hwhole).2
      obtain ⟨rfl, hrest⟩ := charsOfAll_append_inj (.inl rfl) as bs hitems
      exact ⟨rfl, hrest⟩
    | _ => cases rank_eq_of_chars h

/-- Lists of printed forms up to the bracket that closes them. -/
theorem charsOfAll_append_inj {close : Char} (closing : Closing close) : (as bs : List Impression) →
    {r r' : List Char} → charsOfAll as ++ close :: r = charsOfAll bs ++ close :: r' → as = bs ∧ r = r'
  | [], [], _, _, h => ⟨rfl, (List.cons.inj h).2⟩
  | [], b :: bs, _, _, h => by
    rw [charsOfAll_cons, List.append_assoc] at h
    exact absurd h.symm (closing.append_ne b _ _)
  | a :: as, [], _, _, h => by
    rw [charsOfAll_cons, List.append_assoc] at h
    exact absurd h (closing.append_ne a _ _)
  | a :: as, b :: bs, r, r', h => by
    rw [charsOfAll_cons, charsOfAll_cons, List.append_assoc, List.append_assoc] at h
    obtain ⟨rfl, hrest⟩ := chars_append_inj a b (ends_rest closing as r) (ends_rest closing bs r') h
    obtain ⟨rfl, hr⟩ := charsOfRest_append_inj closing as bs hrest
    exact ⟨rfl, hr⟩

/-- The items but the first, up to the bracket. -/
theorem charsOfRest_append_inj {close : Char} (closing : Closing close) : (as bs : List Impression) →
    {r r' : List Char} → charsOfRest as ++ close :: r = charsOfRest bs ++ close :: r' → as = bs ∧ r = r'
  | [], [], _, _, h => ⟨rfl, (List.cons.inj h).2⟩
  | [], _ :: _, _, _, h => absurd (List.cons.inj h).1 closing.ne_comma
  | _ :: _, [], _, _, h => absurd (List.cons.inj h).1.symm closing.ne_comma
  | a :: as, b :: bs, r, r', h => by
    have hitems : a.chars ++ (charsOfRest as ++ close :: r) = b.chars ++ (charsOfRest bs ++ close :: r') := by
      simpa [charsOfRest] using h
    obtain ⟨rfl, hrest⟩ := chars_append_inj a b (ends_rest closing as r) (ends_rest closing bs r') hitems
    obtain ⟨rfl, hr⟩ := charsOfRest_append_inj closing as bs hrest
    exact ⟨rfl, hr⟩
end

theorem chars_inj {a b : Impression} (h : a.chars = b.chars) : a = b := by
  have hends : Ends [] := nofun
  exact (chars_append_inj a b hends hends (congrArg (· ++ []) h)).1

end Impression

/-! ### Components -/

namespace Component

theorem text_eq_iff {c d : Component} : c.text = d.text ↔ c.impression = d.impression := by
  rw [text, text, String.ofList_inj, ← chars_impression c, ← chars_impression d]
  exact ⟨Impression.chars_inj, congrArg Impression.chars⟩

theorem impressions_eq_map (items : List Component) : impressions items = items.map impression := by
  induction items with
  | nil => rfl
  | cons c rest ih => rw [impressions, ih, List.map_cons]

/-- Lists of one impression are as long as each other, and print alike item by item. -/
theorem impressions_eq_iff {items others : List Component} :
    impressions items = impressions others ↔ List.Forall₂ (fun c d => c.text = d.text) items others := by
  simp only [impressions_eq_map, text_eq_iff]
  rw [← List.forall₂_eq_eq_eq, List.forall₂_map_left_iff, List.forall₂_map_right_iff]

theorem impression_eq_str_iff {c : Component} {s : String} : c.impression = .str s ↔ c = str s := by
  cases c <;> simp [impression]

theorem impression_eq_seq_iff {c : Component} {shown : List Impression} :
    c.impression = .seq shown ↔ ∃ items, c = seq items ∧ impressions items = shown := by
  cases c <;> simp [impression]

end Component

/-! ### Keys -/

/-- What the printed form of a key shows. -/
inductive KeyImpression where
  | default (cache : String)
  | single (component : Impression)
  | tuple (elements : List Impression)

def Key.impression : Key → KeyImpression
  | default cache => .default cache
  | single component _ => .single component.impression
  | tuple key => .tuple (Component.impressions key.elements)

namespace KeyImpression

def chars : KeyImpression → List Char
  | default cache => "default(".toList ++ cache.toList ++ [')']
  | single component => component.chars
  | tuple elements => '(' :: (Impression.charsOfAll elements ++ [')'])

/-- A component begins neither as a default key does nor as a tuple does. -/
theorem single_ne {component : Impression} {c : Char} (hc : Impression.rankOf c = 6) (rest : List Char) :
    (single component).chars ≠ c :: rest := by
  intro h
  exact Impression.append_ne_cons hc (r := []) ((List.append_nil _).trans h)

theorem chars_inj : (a b : KeyImpression) → a.chars = b.chars → a = b
  | default x, default y, h => by
    have hname : x.toList = y.toList := List.append_cancel_left (List.append_cancel_right h)
    rw [String.toList_inj.mp hname]
  | single _, single _, h => congrArg single (Impression.chars_inj h)
  | tuple as, tuple bs, h => congrArg tuple (Impression.charsOfAll_append_inj (.inr rfl) as bs (List.cons.inj h).2).1
  | default _, tuple _, h | tuple _, default _, h => absurd (List.cons.inj h).1 (by decide)
  | single _, default _, h | single _, tuple _, h => absurd h (single_ne rfl _)
  | default _, single _, h | tuple _, single _, h => absurd h.symm (single_ne rfl _)

end KeyImpression

namespace Key

theorem chars_impression (key : Key) : key.impression.chars = key.chars := by
  cases key with
  | default cache => rfl
  | single c _ => exact c.chars_impression
  | tuple t => exact congrArg (fun inside => '(' :: (inside ++ [')'])) (Component.charsOfAll_impressions t.elements)

theorem text_eq_iff {a b : Key} : a.text = b.text ↔ a.impression = b.impression := by
  rw [text, text, String.ofList_inj, ← chars_impression a, ← chars_impression b]
  exact ⟨KeyImpression.chars_inj _ _, congrArg KeyImpression.chars⟩

/-- Keys print alike exactly when they are of one impression. So a default key shows its cache, a single component and
a tuple show that they are one and show their components, and within these a text shows every character and a sequence
each of its items. -/
theorem text_shows :
    (∀ a b : Key, a.text = b.text ↔ a.impression = b.impression) ∧
    (∀ (cache : String) (b : Key), (default cache).text = b.text ↔ b = default cache) ∧
    (∀ (c : Component) (present : c ≠ .null) (b : Key), (single c present).text = b.text ↔
      ∃ d present', b = single d present' ∧ c.text = d.text) ∧
    (∀ (t : Tuple) (b : Key), (tuple t).text = b.text ↔
      ∃ u, b = tuple u ∧ List.Forall₂ (fun c d => c.text = d.text) t.elements u.elements) ∧
    (∀ (s : String) (c : Component), (Component.str s).text = c.text ↔ c = .str s) ∧
    ∀ (items : List Component) (c : Component), (Component.seq items).text = c.text ↔
      ∃ others, c = .seq others ∧ List.Forall₂ (fun c d => c.text = d.text) items others := by
  refine ⟨fun _ _ => text_eq_iff, ?default, ?single, ?tuple, ?str, ?seq⟩
  case default =>
    intro cache b
    cases b <;> simp [text_eq_iff, impression, eq_comm]
  case single =>
    intro c present b
    cases b with
    | single d present' => simp [text_eq_iff, Component.text_eq_iff, impression, present']
    | _ => simp [text_eq_iff, impression]
  case tuple =>
    intro t b
    cases b <;> simp [text_eq_iff, impression, ← Component.impressions_eq_iff]
  case str =>
    intro s c
    rw [Component.text_eq_iff, eq_comm]
    exact Component.impression_eq_str_iff
  case seq =>
    intro items c
    rw [Component.text_eq_iff, eq_comm, Component.impression, Component.impression_eq_seq_iff]
    simp only [← Component.impressions_eq_iff, eq_comm]

/-- The quotes of a text do not end it. -/
example : (ofText "a\", \"b").text = "\"a\\\", \\\"b\"" := by decide

end Key

end SingleFlight
