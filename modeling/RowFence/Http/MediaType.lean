import RowFence.Http.Header

/-! Media types: two tokens around a slash, and parameters behind semicolons. -/

namespace RowFence.Http

def isQuotedChar (c : Char) : Bool := ' ' ≤ c && c != '\x7f'

/-- Reads over a quoted value and what separates it from the next parameter. There is at least
one character between the quotes. -/
def afterQuoted? (cs : List Char) : Option (List Char) :=
  match cs with
  | [] => none
  | c :: cs =>
    match isQuotedChar c, cs.span fun c => isQuotedChar c && c != '"' with
    | true, (_, '"' :: rest) =>
      match rest.dropWhile (· = ' ') with
      | [] => some []
      | ';' :: rest => some rest
      | _ => none
    | _, _ => none

def afterValue? (cs : List Char) : Option (List Char) :=
  match cs with
  | '"' :: rest => afterQuoted? rest
  | _ =>
    match cs.span isTokenChar with
    | (_, []) => some []
    | (_ :: _, ';' :: rest) => some rest
    | _ => none

def areParameters : (bound : Nat) → List Char → Bool
  | 0, _ => false
  | bound + 1, cs =>
    match cs.dropWhile (· = ' ') with
    | [] => true
    | cs =>
      match cs.span isTokenChar with
      | (_ :: _, '=' :: rest) =>
        match afterValue? rest with
        | some rest => areParameters bound rest
        | none => false
      | _ => false

structure MediaType where
  type : String
  subtype : String
  suffix? : Option String
  deriving DecidableEq, Repr

namespace MediaType

def splitSuffix (cs : List Char) : List Char × Option (List Char) :=
  match cs.reverse.span (· != '+') with
  | (suffix, _ :: before) => if before.isEmpty then (cs, none) else (before.reverse, some suffix.reverse)
  | _ => (cs, none)

def ofText? (s : String) : Option MediaType := do
  let (type, '/' :: rest) := s.toList.span isTokenChar | none
  if type.isEmpty then none
  let (name, parameters) := rest.span isTokenChar
  match parameters with
  | [] => pure ()
  | c :: parameters =>
    if name.isEmpty || c != ';' then none
    if !areParameters (parameters.length + 1) parameters then none
  let (subtype, suffix?) := splitSuffix name
  return ⟨lowered (.ofList type), lowered (.ofList subtype),
    suffix?.map fun cs => lowered (.ofList cs)⟩

def isJson (m : MediaType) : Bool :=
  m.type = "application" && (m.subtype = "json" || m.suffix? == some "json")

end MediaType

end RowFence.Http
