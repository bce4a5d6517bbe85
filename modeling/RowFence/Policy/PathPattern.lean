import RowFence.Text.Blank
import RowFence.Text.Quoted

/-! Patterns of request paths: one path, or all paths with a prefix, written with a trailing
`/**`. -/

namespace RowFence

inductive PathPattern where
  | exact (path : String)
  | under (start : String)
  deriving DecidableEq, Repr

namespace PathPattern

inductive Fault where
  | noSlash
  | wildcard
  deriving DecidableEq, Repr

def Fault.reason : Fault → String
  | noSlash => "path patterns must start with '/'"
  | wildcard => "only a trailing '/**' wildcard is supported"

structure Invalid where
  pattern : String
  fault : Fault
  deriving DecidableEq, Repr

def complaint (pattern reason : String) : String :=
  "invalid excluded path pattern " ++ Text.quote pattern ++ ": " ++ reason

def Invalid.message (e : Invalid) : String := complaint e.pattern e.fault.reason

def wildcardEnding : List Char := ['/', '*', '*']

def beforeWildcard? (cs : List Char) : Option (List Char) :=
  if wildcardEnding.isSuffixOf cs then some (cs.take (cs.length - wildcardEnding.length)) else none

def ofChars (cs : List Char) : Except Fault PathPattern :=
  if cs.head? != some '/' then .error .noSlash
  else
    match beforeWildcard? cs with
    | some start =>
      if start.contains '*' then .error .wildcard else .ok (.under (String.ofList start))
    | none => if cs.contains '*' then .error .wildcard else .ok (.exact (String.ofList cs))

def ofText (s : String) : Except Invalid PathPattern :=
  let trimmed := Text.trimChars s.toList
  match ofChars trimmed with
  | .ok p => .ok p
  | .error fault => .error ⟨String.ofList trimmed, fault⟩

def path : PathPattern → String
  | exact path => path
  | under start => start

def spelling : PathPattern → String
  | exact path => path
  | under start => start ++ "/**"

def matchesPath : PathPattern → String → Bool
  | exact path, p => p = path
  | under start, p => start.toList.isPrefixOf p.toList

end PathPattern

end RowFence
