/-!
# Patterns

Regular expressions, as far as it matters whether there is a matcher for them. Matchers know no character classes that
are defined by properties of characters, so

* `\d`, `\s` and `\w`, word boundaries and letters whose case does not count need the mode for bytes, `(?-u)`;
* in that mode nothing may stand for a part of a character: no point, no negated class, no byte above 127;
* parts nest `nestingLimit` levels deep at most.
-/

namespace SingleFlight.Text

/-- The modes that decide whether a pattern has a matcher. -/
structure PatternMode where
  /-- The case of letters does not count. -/
  caseless : Bool
  /-- The pattern is about characters, and not about bytes. -/
  characters : Bool
deriving DecidableEq

/-- What a group of flags such as `(?i-u)` switches on or off. -/
structure PatternFlags where
  caseless : Option Bool
  characters : Option Bool
  /-- Blanks and comments in the pattern do not count. -/
  spaced : Option Bool
deriving DecidableEq

/-- Switches nothing. -/
def PatternFlags.none : PatternFlags := ⟨.none, .none, .none⟩

/-- The mode after the flags. -/
def PatternFlags.apply (flags : PatternFlags) (mode : PatternMode) : PatternMode where
  caseless := flags.caseless.getD mode.caseless
  characters := flags.characters.getD mode.characters

/-- A character as the pattern writes it. -/
structure PatternLetter where
  code : Nat
  /-- Written as `\x` with two digits. -/
  asByte : Bool
deriving DecidableEq

def PatternLetter.isAscii (letter : PatternLetter) : Bool := letter.code < 128

mutual
/-- One member of a class in brackets. -/
inductive ClassMember where
  | letter (letter : PatternLetter)
  | range (first last : PatternLetter)
  /-- A named class of ASCII characters, such as `[:alpha:]`. -/
  | named (negated : Bool)
  /-- One of `\d`, `\s` and `\w`, or with a capital letter, negated. -/
  | shorthand (negated : Bool)
  | nested (negated : Bool) (inner : ClassBody)

/-- What stands between the brackets of a class. -/
inductive ClassBody where
  | members (all : List ClassMember)
  /-- Two bodies with one of the operators `&&`, `--` and `~~` between them. -/
  | combined (left right : ClassBody)
end

/-- A regular expression. -/
inductive Pattern where
  | empty
  /-- Flags for the rest of the group. -/
  | flags (flags : PatternFlags)
  | letter (letter : PatternLetter)
  /-- The point, which stands for every character. -/
  | anything
  /-- The start or the end of a line or of the text. -/
  | edge
  | wordBoundary
  | shorthand (negated : Bool)
  | bracketed (negated : Bool) (body : ClassBody)
  | repeated (inner : Pattern)
  | group (name : Option String) (flags : PatternFlags) (inner : Pattern)
  | sequence (parts : List Pattern)
  | alternatives (all : List Pattern)

mutual
/-- How deep the parts of a class nest. -/
def ClassMember.depth : ClassMember → Nat
  | .nested _ inner => inner.depth + 1
  | _ => 0

def ClassBody.depth : ClassBody → Nat
  | .members [] => 0
  | .members [one] => one.depth
  | .members (first :: second :: rest) => max first.depth (max second.depth (memberDepth rest)) + 1
  | .combined left right => max left.depth right.depth + 1

def memberDepth : List ClassMember → Nat
  | [] => 0
  | member :: rest => max member.depth (memberDepth rest)
end

mutual
/-- How deep the parts of a pattern nest. -/
def Pattern.depth : Pattern → Nat
  | .bracketed _ body => body.depth + 1
  | .repeated inner => inner.depth + 1
  | .group _ _ inner => inner.depth + 1
  | .sequence parts => partDepth parts + 1
  | .alternatives all => partDepth all + 1
  | _ => 0

def partDepth : List Pattern → Nat
  | [] => 0
  | part :: rest => max part.depth (partDepth rest)
end

mutual
/-- The names of the groups. -/
def Pattern.names : Pattern → List String
  | .repeated inner => inner.names
  | .group name _ inner => name.toList ++ inner.names
  | .sequence parts => partNames parts
  | .alternatives all => partNames all
  | _ => []

def partNames : List Pattern → List String
  | [] => []
  | part :: rest => part.names ++ partNames rest
end

mutual
/-- The member has a matcher in that mode. -/
def ClassMember.matchable (mode : PatternMode) : ClassMember → Bool
  | .letter l => if mode.characters then !mode.caseless else l.isAscii
  | .range first last => if mode.characters then !mode.caseless else first.isAscii && last.isAscii
  | .named negated => if mode.characters then !mode.caseless else !negated
  | .shorthand negated => !mode.characters && !negated
  | .nested negated inner => (mode.characters || !negated) && inner.matchable mode

def ClassBody.matchable (mode : PatternMode) : ClassBody → Bool
  | .members all => membersMatchable mode all
  | .combined left right => left.matchable mode && right.matchable mode

def membersMatchable (mode : PatternMode) : List ClassMember → Bool
  | [] => true
  | member :: rest => member.matchable mode && membersMatchable mode rest
end

mutual
/-- The mode behind the pattern, if it has a matcher. Flags work up to the end of their group. -/
def Pattern.modeBehind? (mode : PatternMode) : Pattern → Option PatternMode
  | .empty | .edge => some mode
  | .flags f => some (f.apply mode)
  | .letter l =>
    if mode.characters then if mode.caseless then none else some mode
    else if l.asByte && !l.isAscii then none else some mode
  | .anything => if mode.characters then some mode else none
  | .wordBoundary => if mode.characters then none else some mode
  | .shorthand negated => if mode.characters || negated then none else some mode
  | .bracketed negated body =>
    if (mode.characters || !negated) && body.matchable mode then some mode else none
  | .repeated inner => inner.modeBehind? mode
  | .group _ f inner => (inner.modeBehind? (f.apply mode)).map fun _ => mode
  | .sequence parts => modeBehindAll? mode parts
  | .alternatives all => modeBehindAll? mode all

def modeBehindAll? (mode : PatternMode) : List Pattern → Option PatternMode
  | [] => some mode
  | part :: rest => (part.modeBehind? mode).bind fun mode => modeBehindAll? mode rest
end

namespace Pattern

/-- The number of levels that a pattern has at most. -/
def nestingLimit : Nat := 250

/-- The mode that a pattern begins in. -/
def startMode : PatternMode := ⟨false, true⟩

/-- There is a matcher for the pattern. -/
def hasMatcher (pattern : Pattern) : Bool :=
  decide (pattern.depth ≤ nestingLimit) && decide pattern.names.Nodup && (pattern.modeBehind? startMode).isSome

end Pattern

end SingleFlight.Text
