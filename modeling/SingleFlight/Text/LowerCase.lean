import SingleFlight.Text.Casing

/-!
# Small letters

`lowered` writes a text in small letters. Two capitals are not replaced one for one: the dotted capital I becomes
an i and a combining dot, and a capital sigma that ends a word becomes the final form.
-/

namespace SingleFlight.Text

/-- Is the code point one of the run's capitals? -/
def CapitalRun.has (run : CapitalRun) (n : Nat) : Bool :=
  run.first ≤ n && n ≤ run.last && (n - run.first) % run.stride == 0

/-- The small letter of a capital, and every other character itself. -/
def smallLetter (c : Char) : Char :=
  if c.toNat < 0x80 then c.toLower
  else match capitalRuns.find? (·.has c.toNat) with
    | some run => Char.ofNat (Int.toNat (c.toNat + run.shift))
    | none => c

/-- A cased letter comes first once the characters that a word may hold are passed over. -/
def reachesCased (s : List Char) : Bool :=
  match s.dropWhile caseIgnorable.has with
  | c :: _ => cased.has c
  | [] => false

/-- A capital sigma is final after a cased letter and not before one. -/
def finalSigma (before after : List Char) : Bool := reachesCased before && !reachesCased after

/-- `before` is what has been passed, nearest character first. -/
def loweredFrom (before : List Char) : List Char → List Char
  | [] => []
  | c :: rest =>
    (if c = 'Σ' then [if finalSigma before rest then 'ς' else 'σ']
      else if c = 'İ' then ['i', '\u0307']
      else [smallLetter c]) ++ loweredFrom (c :: before) rest

def lowered (s : String) : String := String.ofList (loweredFrom [] s.toList)

end SingleFlight.Text
