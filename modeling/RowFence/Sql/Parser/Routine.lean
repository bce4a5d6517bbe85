import RowFence.Sql.Parser.Column

/-! Functions, procedures, macros and triggers, each after its keyword. -/

namespace RowFence.Sql.Parser

def routineArgument (g : Grammar) : Parser (List Piece) := do
  let mode := ((← oneOf? ["IN", "OUT", "INOUT"]).map (· ++ " ")).getD ""
  let first ← dataType g
  let (name, type) ← match first.kind with
    | .custom i => pure (i.spelling ++ " ", ← dataType g)
    | _ => pure ("", first)
  let initial ←
    if ← either (keyword "DEFAULT") (symbol .eq) then pure [.text " = ", .expr (← g.expr)]
    else pure []
  return .text (mode ++ name) :: type.pieces ++ initial

/-- Arguments after the opening parenthesis. When there are none the parentheses are left out. -/
def routineArguments (g : Grammar) : Parser (List Piece) := do
  if ← symbol .rParen then return []
  let arguments ← commaSeparated (routineArgument g)
  expectSymbol .rParen
  return inPieceParens (commaPieces arguments)

def routine (g : Grammar) : Parser (List Piece) := do
  let name ← objectName
  let arguments ← if ← symbol .lParen then routineArguments g else pure []
  return .text (Name.spelling name) :: arguments

/-! Functions -/

def routineBody : Parser String := do
  match ← peekToken with
  | .dollarString _ _ =>
    if ← isAny [.postgres, .generic] then return (← next).token.text
    return Literal.single (← literalString)
  | _ => return Literal.single (← literalString)

inductive RoutineTrait where
  | language | behaviour | nulls | concurrency | body
  deriving DecidableEq

abbrev RoutineTraits := List (RoutineTrait × List Piece)

def routineTrait (g : Grammar) (given : RoutineTraits) :
    Parser (Option (RoutineTrait × List Piece)) := do
  let once (t : RoutineTrait) (title : String) (p : Parser (List Piece)) := do
    if given.any (·.1 = t) then refuse (title ++ " specified more than once") .ending
    return some (t, ← p)
  let nulls := once .nulls "CALLED ON NULL INPUT | RETURNS NULL ON NULL INPUT | STRICT"
  if ← keyword "AS" then return ← once .body "AS" do return text (" AS " ++ (← routineBody))
  if ← keyword "LANGUAGE" then
    return ← once .language "LANGUAGE" do return text (" LANGUAGE " ++ (← identifier).spelling)
  match ← oneOf? ["IMMUTABLE", "STABLE", "VOLATILE"] with
  | some key =>
    return ← once .behaviour "IMMUTABLE | STABLE | VOLATILE" (pure (text (" " ++ key)))
  | none => pure ()
  match ← firstKeywords [["CALLED", "ON", "NULL", "INPUT"],
      ["RETURNS", "NULL", "ON", "NULL", "INPUT"], ["STRICT"]] with
  | some keys => return ← nulls (pure (text (" " ++ " ".intercalate keys)))
  | none => pure ()
  if ← keyword "PARALLEL" then
    return ← once .concurrency "PARALLEL \x7b UNSAFE | RESTRICTED | SAFE \x7d" do
      match ← oneOf? ["UNSAFE", "RESTRICTED", "SAFE"] with
      | some key => return text (" PARALLEL " ++ key)
      | none => expectedHere "one of UNSAFE | RESTRICTED | SAFE"
  if ← keyword "RETURN" then
    return ← once .body "RETURN" do return [.text " RETURN ", .expr (← g.expr)]
  return none

def routineTraits (g : Grammar) : (bound : Nat) → RoutineTraits → Parser RoutineTraits
  | 0, given => return given
  | bound + 1, given => do
    match ← routineTrait g given with
    | some t => routineTraits g bound (t :: given)
    | none => return given

def createFunction (g : Grammar) (opening : String) : Parser Statement := do
  if !(← isAny [.postgres, .generic]) then
    back
    expectedHere "an object type after CREATE"
  let name ← objectName
  expectSymbol .lParen
  let arguments ← routineArguments g
  let result ←
    if ← keyword "RETURNS" then pure (.text " RETURNS " :: (← dataType g).pieces) else pure []
  let traits ← routineTraits g 6 []
  let trait (t : RoutineTrait) : List Piece := ((traits.find? (·.1 = t)).map (·.2)).getD []
  return .other (.text (opening ++ "FUNCTION " ++ Name.spelling name) :: arguments ++ result
    ++ [.language, .behaviour, .nulls, .concurrency, .body].flatMap trait)

/-! Macros and procedures -/

def macroArgument (g : Grammar) : Parser (List Piece) := do
  let name ← identifier
  if ← either (symbol .assignment) (symbol .rArrow) then
    return [.text (name.spelling ++ " := "), .expr (← g.expr)]
  else return text name.spelling

def createMacro (g : Grammar) (opening : String) : Parser Statement := do
  if !(← isAny [.generic]) then
    back
    expectedHere "an object type after CREATE"
  let name ← objectName
  expectSymbol .lParen
  let arguments ←
    if ← atSymbol .rParen then pure []
    else pure (inPieceParens (commaPieces (← commaSeparated (macroArgument g))))
  expectSymbol .rParen
  expectKeyword "AS"
  let meaning ←
    if ← keyword "TABLE" then pure [.text " AS TABLE ", .query (← g.query)]
    else pure [.text " AS ", .expr (← g.expr)]
  return .other (.text (opening ++ "MACRO " ++ Name.spelling name) :: arguments ++ meaning)

def procedureParameters (g : Grammar) : (bound : Nat) → Parser (List (List Piece))
  | 0 => return []
  | bound + 1 => do
    let parameter ← match ← peekToken with
      | .word _ => do
        let name ← identifier
        pure [.text (name.spelling ++ " ") :: (← dataType g).pieces]
      | _ => pure []
    let comma ← symbol .comma
    if ← symbol .rParen then return parameter
    if !comma then expectedHere "',' or ')' after parameter definition"
    return parameter ++ (← procedureParameters g bound)

def createProcedure (g : Grammar) (orAlter : Bool) : Parser Statement := do
  let name ← objectName
  let parameters ←
    if ← symbol .lParen then
      if ← symbol .rParen then pure [] else procedureParameters g ((← read).tokens.size + 1)
    else pure []
  expectKeyword "AS"
  expectKeyword "BEGIN"
  let body ← statements g
  expectKeyword "END"
  return .other (.text ((if orAlter then "CREATE OR ALTER PROCEDURE " else "CREATE PROCEDURE ")
    ++ Name.spelling name) :: around " (" (commaPieces parameters) ++ .text " AS BEGIN "
    :: separatedBy "; " (body.map statementPieces) ++ text " END")

/-! Triggers -/

def triggerPeriod : Parser String := do
  match ← expectOneOf ["BEFORE", "AFTER", "INSTEAD"] with
  | "INSTEAD" =>
    expectKeyword "OF"
    return "INSTEAD OF"
  | key => return key

def triggerEvent : Parser String := do
  match ← expectOneOf ["INSERT", "UPDATE", "DELETE", "TRUNCATE"] with
  | "UPDATE" =>
    if ← keyword "OF" then return "UPDATE OF " ++ namesText (← commaSeparated identifier)
    else return "UPDATE"
  | key => return key

def transitionTable : Parser (Option String) := do
  match ← oneOf? ["OLD", "NEW"] with
  | none => return none
  | some key =>
    if !(← keyword "TABLE") then return none
    let after := if ← keyword "AS" then " AS " else " "
    return some (" " ++ key ++ " TABLE" ++ after ++ Name.spelling (← objectName))

def createTrigger (g : Grammar) (opening : String) : Parser Statement := do
  if !(← isAny [.postgres, .generic]) then
    back
    expectedHere "an object type after CREATE"
  let name ← objectName
  let period ← triggerPeriod
  let events ← separated (keyword "OR") triggerEvent
  expectKeyword "ON"
  let table ← objectName
  let referred ← lenientName ["FROM"] " FROM "
  let characteristics ← characteristics
  let transitions ← if ← keyword "REFERENCING" then many transitionTable else pure []
  expectKeyword "FOR"
  let each ← keyword "EACH"
  let scope ← expectOneOf ["ROW", "STATEMENT"]
  let condition ← if ← keyword "WHEN" then pure [.text " WHEN ", .expr (← g.expr)] else pure []
  expectKeyword "EXECUTE"
  let kind ← expectOneOf ["FUNCTION", "PROCEDURE"]
  let action ← routine g
  return .other (.text (opening ++ "TRIGGER " ++ Name.spelling name ++ " " ++ period ++ " "
    ++ " OR ".intercalate events ++ " ON " ++ Name.spelling table ++ referred ++ characteristics
    ++ (if transitions.isEmpty then "" else " REFERENCING" ++ String.join transitions)
    ++ (if each then " FOR EACH " else " FOR ") ++ scope) :: condition
    ++ .text (" EXECUTE " ++ kind ++ " ") :: action)

end RowFence.Sql.Parser
