import SingleFlight.Text.Ranges

/-!
# Blank characters

* `trimmed` cuts blank characters from both ends and nothing else;
* `isBlankText` holds of the texts that have no other character.
-/

namespace SingleFlight.Text

/-- The property White_Space. -/
def blank : Ranges := [
  (0x9, 0xD), (0x20, 0x20), (0x85, 0x85), (0xA0, 0xA0), (0x1680, 0x1680), (0x2000, 0x200A), (0x2028, 0x2029),
  (0x202F, 0x202F), (0x205F, 0x205F), (0x3000, 0x3000)]

def isBlank (c : Char) : Bool := blank.has c

/-- The text without the blank characters at its ends. -/
def trimmed (s : String) : String :=
  String.ofList ((s.toList.dropWhile isBlank).reverse.dropWhile isBlank).reverse

def isBlankText (s : String) : Bool := s.toList.all isBlank

/-- Only `A` to `Z` have another small form here. -/
def asciiLower (s : String) : String := String.ofList (s.toList.map Char.toLower)

/-- Two texts that differ at most in the case of ASCII letters. -/
def sameLetters (s t : String) : Bool := asciiLower s == asciiLower t

end SingleFlight.Text
