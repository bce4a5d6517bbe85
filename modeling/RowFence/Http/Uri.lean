/-! Targets of requests: a path, an authority, both behind a scheme, or a star. -/

namespace RowFence.Http

structure Uri where
  scheme? : Option String
  authority : String
  /-- The path as it is written. It may be empty behind an authority. -/
  rawPath : String
  query? : Option String
  deriving DecidableEq, Repr

namespace Uri

def isSchemeChar (c : Char) : Bool := c.isAlphanum || c = '+' || c = '-' || c = '.' || c = '~'

def isAuthorityChar (c : Char) : Bool := c.isAlphanum || "!$&'()*+,-.;=_~".toList.contains c

def endsAuthority (c : Char) : Bool := c = '/' || c = '?' || c = '#'

def isPathChar (c : Char) : Bool :=
  c = '!' || ('$' ≤ c && c ≤ ';') || c = '=' || ('@' ≤ c && c ≤ '_') || ('a' ≤ c && c ≤ 'z')
    || c = '|' || c = '~' || '\x7f' < c || c = '"' || c = '{' || c = '}'

def isQueryChar (c : Char) : Bool :=
  c = '!' || ('$' ≤ c && c ≤ ';') || c = '=' || ('?' ≤ c && c != '\x7f')

def maxLength : Nat := 65534

def maxSchemeLength : Nat := 64

/-- What has been seen of an authority. Colons and percent signs before an at sign or a closing
bracket do not count. -/
structure AuthorityScan where
  colons : Nat := 0
  opened : Bool := false
  closed : Bool := false
  percent : Bool := false
  deriving DecidableEq, Repr

def AuthorityScan.next? (s : AuthorityScan) (c : Char) : Option AuthorityScan :=
  match c with
  | ':' => if 8 ≤ s.colons then none else some { s with colons := s.colons + 1 }
  | '[' => if s.percent || s.opened then none else some { s with opened := true }
  | ']' =>
    if !s.opened || s.closed then none
    else some { s with closed := true, colons := 0, percent := false }
  | '@' => some { s with colons := 0, percent := false }
  | '%' => some { s with percent := true }
  | c => if isAuthorityChar c then some s else none

def AuthorityScan.isComplete (s : AuthorityScan) : Bool :=
  s.opened == s.closed && s.colons ≤ 1 && !s.percent

def isAuthority (cs : List Char) : Bool :=
  match cs.foldlM AuthorityScan.next? {} with
  | some s => s.isComplete && cs.getLast? != some '@'
  | none => false

def splitAuthority? (cs : List Char) : Option (List Char × List Char) :=
  let (authority, rest) := cs.span (!endsAuthority ·)
  if isAuthority authority then some (authority, rest) else none

def splitScheme? (cs : List Char) : Option (List Char × List Char) :=
  match cs.span isSchemeChar with
  | (scheme, ':' :: '/' :: '/' :: rest) => some (scheme, rest)
  | _ => none

def pathAndQuery? (cs : List Char) : Option (List Char × Option (List Char)) :=
  match cs.span isPathChar with
  | (path, []) | (path, '#' :: _) => some (path, none)
  | (path, '?' :: rest) =>
    match rest.span isQueryChar with
    | (query, []) | (query, '#' :: _) => some (path, some query)
    | _ => none
  | _ => none

def ofPath? (scheme? : Option String) (authority : String) (cs : List Char) : Option Uri :=
  (pathAndQuery? cs).map fun (path, query?) =>
    ⟨scheme?, authority, String.ofList path, query?.map String.ofList⟩

def ofAuthority? (cs : List Char) : Option Uri :=
  if !cs.isEmpty && cs.all (!endsAuthority ·) && isAuthority cs then
    some ⟨none, String.ofList cs, "", none⟩
  else none

def ofChars? (cs : List Char) : Option Uri :=
  match cs with
  | ['*'] => some ⟨none, "", "*", none⟩
  | '/' :: _ => ofPath? none "" cs
  | _ =>
    match if cs.length ≤ 3 then none else splitScheme? cs with
    | none => ofAuthority? cs
    | some (scheme, rest) =>
      if maxSchemeLength < scheme.length then none
      else
        match splitAuthority? rest with
        | some (c :: authority, rest) =>
          ofPath? (some (String.ofList scheme)) (String.ofList (c :: authority)) rest
        | _ => none

def ofText? (s : String) : Option Uri :=
  if maxLength < s.utf8ByteSize then none else ofChars? s.toList

/-- The path, `/` if an absolute target leaves it out. -/
def path (u : Uri) : String :=
  if u.rawPath.isEmpty && u.scheme?.isSome then "/" else u.rawPath

/-- The host of an authority: what follows the last at sign, without a port number. -/
def hostOf (authority : List Char) : List Char :=
  match (authority.reverse.takeWhile (· != '@')).reverse with
  | '[' :: rest => '[' :: rest.takeWhile (· != ']') ++ [']']
  | host => host.takeWhile (· != ':')

def host? (u : Uri) : Option String :=
  if u.authority.isEmpty then none else some (String.ofList (hostOf u.authority.toList))

end Uri

end RowFence.Http
