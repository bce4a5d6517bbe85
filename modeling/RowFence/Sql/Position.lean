/-! Places in a statement text, counted from line 1 and column 1. Line 0 stands for the end of the
text, which is not spelled out in messages. -/

namespace RowFence.Sql

structure Position where
  line : Nat
  column : Nat
  deriving DecidableEq, Repr, Inhabited

namespace Position

def start : Position := ⟨1, 1⟩

def ending : Position := ⟨0, 0⟩

def after (p : Position) (c : Char) : Position :=
  if c = '\n' then ⟨p.line + 1, 1⟩ else ⟨p.line, p.column + 1⟩

def suffix (p : Position) : String :=
  if p.line = 0 then "" else s!" at Line: {p.line}, Column: {p.column}"

end Position

inductive SyntaxError where
  | lexical (reason : String) (place : Position)
  | expected (wanted found : String) (place : Position)
  | refused (reason : String) (place : Position)
  | tooDeep
  deriving DecidableEq, Repr

def SyntaxError.message : SyntaxError → String
  | .lexical reason place => s!"sql parser error: {reason}{place.suffix}"
  | .expected wanted found place => s!"sql parser error: Expected: {wanted}, found: {found}{place.suffix}"
  | .refused reason place => s!"sql parser error: {reason}{place.suffix}"
  | .tooDeep => "sql parser error: recursion limit exceeded"

end RowFence.Sql
