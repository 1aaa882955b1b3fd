import SingleFlight.Text.Unprintable
import SingleFlight.Text.Extending

/-!
# Quoted text

A text between double quotes. Quotes, backslashes and the common controls are escaped with a backslash, and what has
no printed form of its own is written by its code point.
-/

namespace SingleFlight.Text

/-- A character that is written by its code point: it extends another one or has no printed form. -/
def needsCode (c : Char) : Bool :=
  if c.toNat < 0x7F then c.toNat < 0x20 else extending.has c || unprintable.has c

/-- The code point in lower-case hexadecimal digits without padding. -/
def codeEscape (c : Char) : List Char :=
  '\\' :: 'u' :: '\x7b' :: (Nat.toDigits 16 c.toNat ++ ['\x7d'])

def quotedChar (c : Char) : List Char :=
  if c = '"' then ['\\', '"']
  else if c = '\\' then ['\\', '\\']
  else if c = '\n' then ['\\', 'n']
  else if c = '\r' then ['\\', 'r']
  else if c = '\t' then ['\\', 't']
  else if c.toNat = 0 then ['\\', '0']
  else if needsCode c then codeEscape c
  else [c]

def quotedChars (s : List Char) : List Char := '"' :: (s.flatMap quotedChar ++ ['"'])

def quoted (s : String) : String := String.ofList (quotedChars s.toList)

end SingleFlight.Text
