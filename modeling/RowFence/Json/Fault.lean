import RowFence.Tenant.Id

/-! Why a JSON text cannot be read, and where: lines count from 1, columns are the bytes read in
the line. -/

namespace RowFence.Json

structure Place where
  line : Nat
  column : Nat
  deriving DecidableEq, Repr

namespace Place

def start : Place := ⟨1, 0⟩

def after (p : Place) (c : Char) : Place :=
  if c = '\n' then ⟨p.line + 1, 0⟩ else ⟨p.line, p.column + c.utf8Size⟩

end Place

inductive Reason where
  | endOfValue | endOfList | endOfObject | endOfString
  | wantsColon | wantsListEnd | wantsObjectEnd | wantsWord | wantsValue
  | escape | number | hugeNumber | controlCharacter | key | loneSurrogate | brokenSurrogate
  | trailingComma | trailingText | tooDeep
  | unexpected (found wanted : String)
  | outOfRange (value : Int) (wanted : String)
  | unknownVariant (found : String) (known : List String)
  | duplicateField (name : String)
  | missingField (name : String)
  | length (found : Nat) (wanted : String)
  | tenant (e : TenantId.Invalid)
  deriving DecidableEq, Repr

def ticked (s : String) : String := "`" ++ s ++ "`"

def choice : List String → String
  | [a] => ticked a
  | [a, b] => ticked a ++ " or " ++ ticked b
  | names => "one of " ++ ", ".intercalate (names.map ticked)

namespace Reason

def message : Reason → String
  | endOfValue => "EOF while parsing a value"
  | endOfList => "EOF while parsing a list"
  | endOfObject => "EOF while parsing an object"
  | endOfString => "EOF while parsing a string"
  | wantsColon => "expected `:`"
  | wantsListEnd => "expected `,` or `]`"
  | wantsObjectEnd => "expected `,` or `\x7d`"
  | wantsWord => "expected ident"
  | wantsValue => "expected value"
  | escape => "invalid escape"
  | number => "invalid number"
  | hugeNumber => "number out of range"
  | controlCharacter => "control character (\\u0000-\\u001F) found while parsing a string"
  | key => "key must be a string"
  | loneSurrogate => "lone leading surrogate in hex escape"
  | brokenSurrogate => "unexpected end of hex escape"
  | trailingComma => "trailing comma"
  | trailingText => "trailing characters"
  | tooDeep => "recursion limit exceeded"
  | unexpected found wanted => "invalid type: " ++ found ++ ", expected " ++ wanted
  | outOfRange value wanted =>
    "invalid value: integer " ++ ticked (toString value) ++ ", expected " ++ wanted
  | unknownVariant found known =>
    "unknown variant " ++ ticked found ++ ", expected " ++ choice known
  | duplicateField name => "duplicate field " ++ ticked name
  | missingField name => "missing field " ++ ticked name
  | length found wanted => "invalid length " ++ toString found ++ ", expected " ++ wanted
  | tenant e => e.message

def concernsShape : Reason → Bool
  | unexpected .. | outOfRange .. | unknownVariant .. | duplicateField .. | missingField ..
  | length .. | tenant .. => true
  | _ => false

end Reason

inductive Step where
  | field (name : String)
  | element (index : Nat)
  deriving DecidableEq, Repr

def Step.spelling : Step → String
  | field name => name
  | element index => "[" ++ toString index ++ "]"

def spellPath : List Step → String
  | [] => ""
  | s :: ss => s.spelling ++ go ss
where
  go : List Step → String
    | [] => ""
    | .field name :: ss => "." ++ name ++ go ss
    | .element index :: ss => (Step.element index).spelling ++ go ss

structure Fault where
  reason : Reason
  place? : Option Place
  path : List Step
  deriving DecidableEq, Repr

namespace Fault

def message (e : Fault) : String :=
  match e.place? with
  | some p =>
    e.reason.message ++ " at line " ++ toString p.line ++ " column " ++ toString p.column
  | none => e.reason.message

def tracedMessage (e : Fault) : String :=
  match e.path with
  | [] => e.message
  | path => spellPath path ++ ": " ++ e.message

end Fault

end RowFence.Json
