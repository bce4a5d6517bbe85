/-! Header fields. Names are compared without regard to letter case and kept in small letters. -/

namespace RowFence.Http

def isTokenChar (c : Char) : Bool := c.isAlphanum || "!#$%&'*+-.^_`|~".toList.contains c

def isToken (s : String) : Bool := !s.isEmpty && s.toList.all isTokenChar

def isHeaderValue (s : String) : Bool := s.toList.all fun c => (' ' ≤ c && c != '\x7f') || c = '\t'

def isPlain (s : String) : Bool := s.toList.all fun c => (' ' ≤ c && c ≤ '~') || c = '\t'

def lowered (name : String) : String := .ofList (name.toList.map Char.toLower)

/-- Header fields in their order, the names in small letters. -/
abbrev Headers := List (String × String)

namespace Headers

def first? (hs : Headers) (name : String) : Option String := hs.lookup (lowered name)

def text? (hs : Headers) (name : String) : Option String := (hs.first? name).filter isPlain

def contains (hs : Headers) (name : String) : Bool := (hs.first? name).isSome

end Headers

def headerField? (name value : String) : Option (String × String) :=
  if isToken name && isHeaderValue value then some (lowered name, value) else none

end RowFence.Http
