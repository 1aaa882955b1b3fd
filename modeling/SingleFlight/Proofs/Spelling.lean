import SingleFlight.Text.Quoted

/-!
# Spellings that show where they end

Two texts that go on after a part are cut at one place if the part shows where it ends.

* digits end where no digit follows (`append_inj_of_all`), and no two numbers have the same digits (`toDigits_inj`);
* a character of a quoted text is written as itself, by a name after a backslash or by its code (`Spelling`), and the
  three ways never mix (`quotedChar_append_inj`);
* so a quoted text ends with its first quote that is not escaped, and shows the text (`quotedChars_append_inj`).
-/

namespace SingleFlight.Text

/-- Two parts of one kind of characters, each followed by no other of the kind, are equal if the whole texts are. -/
theorem append_inj_of_all {p : Char → Bool} {l l' r r' : List Char} (hl : ∀ c ∈ l, p c = true)
    (hl' : ∀ c ∈ l', p c = true) (hr : ∀ c ∈ r.head?, p c = false) (hr' : ∀ c ∈ r'.head?, p c = false)
    (h : l ++ r = l' ++ r') : l = l' ∧ r = r' := by
  have ends : ∀ {l r : List Char}, (∀ c ∈ l, p c = true) → (∀ c ∈ r.head?, p c = false) →
      (l ++ r).takeWhile p = l := by
    intro l r hl hr
    rw [List.takeWhile_append_of_pos hl]
    cases r with
    | nil => simp
    | cons c r => simp [hr c rfl]
  have heq : l = l' := by rw [← ends hl hr, h, ends hl' hr']
  subst heq
  exact ⟨rfl, List.append_cancel_left h⟩

/-! ### Digits -/

theorem digitChar_inj : ∀ m < 16, ∀ n < 16, Nat.digitChar m = Nat.digitChar n → m = n := by decide

theorem exists_digitChar_of_mem {b n : Nat} (hb : 1 < b) {c : Char} (h : c ∈ Nat.toDigits b n) :
    ∃ d, c = Nat.digitChar d := by
  induction n using Nat.strongRecOn with
  | ind n ih =>
    rw [Nat.toDigits_eq_if hb] at h
    split at h
    · exact ⟨n, List.mem_singleton.mp h⟩
    next hn =>
      rcases List.mem_append.mp h with h | h
      · exact ih (n / b) (Nat.div_lt_self (by omega) hb) h
      · exact ⟨_, List.mem_singleton.mp h⟩

private theorem toDigits_eq_concat {b n : Nat} (hb : 1 < b) :
    Nat.toDigits b n = (if n < b then [] else Nat.toDigits b (n / b)) ++ [Nat.digitChar (n % b)] := by
  rw [Nat.toDigits_eq_if hb]
  split
  next hn => rw [Nat.mod_eq_of_lt hn]; rfl
  next => rfl

/-- Numbers with the same digits are equal. -/
theorem toDigits_inj {b : Nat} (hb : 1 < b) (hb' : b ≤ 16) {m n : Nat} (h : Nat.toDigits b m = Nat.toDigits b n) :
    m = n := by
  induction m using Nat.strongRecOn generalizing n with
  | ind m ih =>
    rw [toDigits_eq_concat hb, toDigits_eq_concat (n := n) hb] at h
    obtain ⟨hfront, hlast⟩ := List.append_inj' h rfl
    have hmod : m % b = n % b := by
      have hm : m % b < 16 := Nat.lt_of_lt_of_le (Nat.mod_lt m (by omega)) hb'
      have hn : n % b < 16 := Nat.lt_of_lt_of_le (Nat.mod_lt n (by omega)) hb'
      exact digitChar_inj _ hm _ hn (List.singleton_inj.mp hlast)
    split at hfront
    next hm =>
      split at hfront
      next hn => rwa [Nat.mod_eq_of_lt hm, Nat.mod_eq_of_lt hn] at hmod
      next => exact absurd hfront.symm Nat.toDigits_ne_nil
    next hm =>
      split at hfront
      next => exact absurd hfront Nat.toDigits_ne_nil
      next =>
        have hdiv : m / b = n / b := ih (m / b) (Nat.div_lt_self (by omega) hb) hfront
        rw [← Nat.div_add_mod m b, hdiv, hmod, Nat.div_add_mod]

/-! ### Quoted texts -/

/-- The character that a letter after a backslash stands for. -/
def named : Char → Char
  | 'n' => '\n'
  | 'r' => '\r'
  | 't' => '\t'
  | '0' => '\x00'
  | c => c

/-- The ways to write a character of a quoted text. -/
inductive Spelling (c : Char) : List Char → Prop where
  | plain (not_quote : c ≠ '"') (not_backslash : c ≠ '\\') : Spelling c [c]
  | escaped (x : Char) (not_code : x ≠ 'u') (h : named x = c) : Spelling c ['\\', x]
  | coded : Spelling c (codeEscape c)

theorem spelling_quotedChar (c : Char) : Spelling c (quotedChar c) := by
  unfold quotedChar
  split
  next h => exact .escaped '"' (by decide) h.symm
  next hquote =>
    split
    next h => exact .escaped '\\' (by decide) h.symm
    next hbackslash =>
      repeat' split
      next h => exact .escaped 'n' (by decide) h.symm
      next h => exact .escaped 'r' (by decide) h.symm
      next h => exact .escaped 't' (by decide) h.symm
      next h => exact .escaped '0' (by decide) (Char.toNat_inj.mp h.symm)
      next => exact .coded
      next => exact .plain hquote hbackslash

/-- A code ends with its brace, and shows the character. -/
theorem codeEscape_append_inj {c d : Char} {r r' : List Char} (h : codeEscape c ++ r = codeEscape d ++ r') :
    c = d ∧ r = r' := by
  have hdigits : ∀ {n : Nat}, ∀ x ∈ Nat.toDigits 16 n, (x != '\x7d') = true := by
    intro n x hx
    obtain ⟨m, rfl⟩ := exists_digitChar_of_mem (by decide) hx
    exact bne_iff_ne.mpr (Nat.digitChar_ne '\x7d' rfl)
  have hcode : Nat.toDigits 16 c.toNat ++ '\x7d' :: r = Nat.toDigits 16 d.toNat ++ '\x7d' :: r' := by
    simpa [codeEscape] using h
  obtain ⟨hsame, hrest⟩ := append_inj_of_all hdigits hdigits (by simp) (by simp) hcode
  exact ⟨Char.toNat_inj.mp (toDigits_inj (by decide) (by decide) hsame), (List.cons.inj hrest).2⟩

/-- A spelling does not begin with a quote. -/
theorem Spelling.append_ne_quote {c : Char} {w r r' : List Char} (h : Spelling c w) : w ++ r ≠ '"' :: r' := by
  intro heq
  cases h with
  | plain not_quote _ => exact not_quote (List.cons.inj heq).1
  | escaped | coded => simp [codeEscape] at heq

/-- Texts that begin with a spelling of a character begin with the same one and go on alike. -/
theorem Spelling.append_inj {c d : Char} {w w' r r' : List Char} (h : Spelling c w) (h' : Spelling d w')
    (heq : w ++ r = w' ++ r') : c = d ∧ r = r' := by
  cases h with
  | plain _ hc =>
    cases h' with
    | plain => exact List.cons.inj heq
    | escaped | coded => exact absurd (List.cons.inj heq).1 hc
  | escaped x hx hc =>
    cases h' with
    | plain _ hd => exact absurd (List.cons.inj heq).1.symm hd
    | escaped y _ hd =>
      obtain ⟨rfl, hrest⟩ := List.cons.inj (List.cons.inj heq).2
      exact ⟨hc.symm.trans hd, hrest⟩
    | coded => exact absurd (List.cons.inj (List.cons.inj heq).2).1 hx
  | coded =>
    cases h' with
    | plain _ hd => exact absurd (List.cons.inj heq).1.symm hd
    | escaped y hy _ => exact absurd (List.cons.inj (List.cons.inj heq).2).1.symm hy
    | coded => exact codeEscape_append_inj heq

/-- A quoted text ends with its first quote that is not escaped. -/
theorem quotedChars_append_inj {s t r r' : List Char} (h : quotedChars s ++ r = quotedChars t ++ r') :
    s = t ∧ r = r' := by
  have hbody : s.flatMap quotedChar ++ '"' :: r = t.flatMap quotedChar ++ '"' :: r' := by
    simpa [quotedChars] using h
  clear h
  induction s generalizing t with
  | nil =>
    cases t with
    | nil => exact ⟨rfl, (List.cons.inj hbody).2⟩
    | cons d t =>
      rw [List.flatMap_cons, List.append_assoc] at hbody
      exact absurd hbody.symm (spelling_quotedChar d).append_ne_quote
  | cons c s ih =>
    rw [List.flatMap_cons, List.append_assoc] at hbody
    cases t with
    | nil => exact absurd hbody (spelling_quotedChar c).append_ne_quote
    | cons d t =>
      rw [List.flatMap_cons, List.append_assoc] at hbody
      obtain ⟨rfl, hrest⟩ := (spelling_quotedChar c).append_inj (spelling_quotedChar d) hbody
      obtain ⟨rfl, hr⟩ := ih hrest
      exact ⟨rfl, hr⟩

end SingleFlight.Text
