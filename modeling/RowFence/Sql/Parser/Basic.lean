import RowFence.Sql.Lexer
import RowFence.Sql.Literal

/-! Parsers over the tokens of a statement text: a position in the tokens that a parser moves, and
steps that look at or take the next tokens. Past the last token there are only endings. -/

namespace RowFence.Sql

structure Source where
  tokens : Array PlacedToken
  dialect : Dialect
  hierarchical : Bool

/-- The position is kept when a parser fails: it tells how far the parser came. -/
abbrev Parser := ReaderT Source (ExceptT SyntaxError (StateM Nat))

namespace Parser

def dialect : Parser Dialect := return (← read).dialect

def isAny (dialects : List Dialect) : Parser Bool := return dialects.contains (← read).dialect

def peekAt (ahead : Nat) : Parser PlacedToken := do
  let position ← get
  return ((← read).tokens[position + ahead]?).getD ⟨.ending, .ending, []⟩

def peek : Parser PlacedToken := peekAt 0

def peekToken : Parser Token := return (← peek).token

def skip : Parser Unit := modify (· + 1)

def next : Parser PlacedToken := do
  let token ← peek
  skip
  return token

def back : Parser Unit := modify (· - 1)

def fail {α : Type} (e : SyntaxError) : Parser α := throw e

def expected {α : Type} (wanted : String) (found : PlacedToken) : Parser α :=
  throw (.expected wanted found.token.text found.place)

def expectedHere {α : Type} (wanted : String) : Parser α := do expected wanted (← peek)

def refuse {α : Type} (reason : String) (place : Position) : Parser α :=
  throw (.refused reason place)

def peekKey : Parser String := return (← peekToken).key

def peekKeyAt (ahead : Nat) : Parser String := return (← peekAt ahead).token.key

def atKeyword (key : String) : Parser Bool := return (← peekKey) == key

def both (first second : Parser Bool) : Parser Bool := do
  if ← first then second else return false

def either (first second : Parser Bool) : Parser Bool := do
  if ← first then return true else second

def keyword (key : String) : Parser Bool := do
  if (← peekKey) == key then
    skip
    return true
  else return false

def keywords (keys : List String) : Parser Bool := do
  let start ← get
  for key in keys do
    if !(← keyword key) then
      set start
      return false
  return true

def firstKeywords : List (List String) → Parser (Option (List String))
  | [] => return none
  | keys :: rest => do
    if ← keywords keys then return some keys else firstKeywords rest

def oneOf? (keys : List String) : Parser (Option String) := do
  let key ← peekKey
  if key != "" && keys.contains key then
    skip
    return some key
  else return none

/-- One of some phrases, after a blank, or nothing. -/
def phrase (options : List (List String)) : Parser String := do
  match ← firstKeywords options with
  | some keys => return " " ++ " ".intercalate keys
  | none => return ""

def expectKeyword (key : String) : Parser Unit := do
  if !(← keyword key) then expectedHere key

def expectKeywords (keys : List String) : Parser Unit := do
  for key in keys do expectKeyword key

def expectOneOf (keys : List String) : Parser String := do
  match ← oneOf? keys with
  | some key => return key
  | none => expectedHere ("one of " ++ " or ".intercalate keys)

def atSymbol (s : Symbol) : Parser Bool := return (← peekToken) == .symbol s

def symbolAt (ahead : Nat) (s : Symbol) : Parser Bool := return (← peekAt ahead).token == .symbol s

def symbol (s : Symbol) : Parser Bool := do
  if ← atSymbol s then
    skip
    return true
  else return false

def expectSymbol (s : Symbol) : Parser Unit := do
  if !(← symbol s) then expectedHere s.spelling

def symbols (ss : List Symbol) : Parser Bool := do
  let start ← get
  for s in ss do
    if !(← symbol s) then
      set start
      return false
  return true

/-- Tries a parser: when it fails, no token is taken. Too deep a nesting stays a failure. -/
def maybe? {α : Type} (p : Parser α) : Parser (Option α) := fun source position =>
  match p source position with
  | (.ok a, position) => (.ok (some a), position)
  | (.error .tooDeep, position) => (.error .tooDeep, position)
  | (.error _, _) => (.ok none, position)

/-- Tries a parser: when it fails, the tokens that it took stay taken. -/
def lenient? {α : Type} (p : Parser α) : Parser (Option α) := fun source position =>
  match p source position with
  | (.ok a, position) => (.ok (some a), position)
  | (.error _, position) => (.ok none, position)

def repeated {α : Type} (step : Parser (Option α)) : Nat → Parser (List α)
  | 0 => return []
  | n + 1 => do
    match ← step with
    | none => return []
    | some a => return a :: (← repeated step n)

/-- Runs a step until it yields nothing. Each step takes a token, so their number is bounded. -/
def many {α : Type} (step : Parser (Option α)) : Parser (List α) := do
  repeated step ((← read).tokens.size + 1)

def separated {α : Type} (separator : Parser Bool) (item : Parser α) : Parser (List α) := do
  let first ← item
  let others ← many do
    if ← separator then some <$> item else return none
  return first :: others

def commaSeparated {α : Type} (item : Parser α) : Parser (List α) := separated (symbol .comma) item

def commaSeparated0 {α : Type} (item : Parser α) (closing : Symbol) : Parser (List α) := do
  if ← atSymbol closing then return [] else commaSeparated item

def parenthesized {α : Type} (p : Parser α) : Parser α := do
  expectSymbol .lParen
  let a ← p
  expectSymbol .rParen
  return a

def optionally {α : Type} (condition : Parser Bool) (p : Parser α) : Parser (Option α) := do
  if ← condition then some <$> p else return none

end Parser

/-- The parsers that nest without bound of their own; they are cut off at a fixed depth. -/
structure Grammar where
  subexpr : (precedence : Nat) → Parser Expr
  query : Parser Query
  statement : Parser Statement
  column : Parser (List Piece)

def Grammar.expr (g : Grammar) : Parser Expr := g.subexpr 0

namespace Parser

/-- Statements between semicolons. A word `END` after a statement ends them. -/
def statementsWithin (g : Grammar) : (bound : Nat) → Parser (List Statement)
  | 0 => return []
  | bound + 1 => do
    let _ ← many do if ← symbol .semiColon then return some () else return none
    let found ← peek
    if found.token == .ending then return []
    let s ← g.statement
    let after ← peek
    if after.token == .ending || after.token.key == "END" then return [s]
    if after.token != .symbol .semiColon then expected "end of statement" after
    return s :: (← statementsWithin g bound)

def exprOr (g : Grammar) (wanted : String) : Parser Expr := do
  match ← lenient? g.expr with
  | some e => return e
  | none => expectedHere wanted

def statements (g : Grammar) : Parser (List Statement) := do
  statementsWithin g ((← read).tokens.size + 1)

end Parser

/-! Phrases. -/

def text (s : String) : List Piece := [.text s]

def pieceOf (e : Expr) : List Piece := [.expr e]

def separatedBy (separator : String) : List (List Piece) → List Piece
  | [] => []
  | [p] => p
  | p :: ps => p ++ .text separator :: separatedBy separator ps

def commaPieces (items : List (List Piece)) : List Piece := separatedBy ", " items

def exprPieces (es : List Expr) : List Piece := commaPieces (es.map pieceOf)

end RowFence.Sql
