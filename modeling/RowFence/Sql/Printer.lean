import RowFence.Sql.Literal

/-! The text of a statement. Every construct has one spelling: one blank between words, keywords
in capitals, `AS` before each alias. -/

namespace RowFence.Sql

namespace JoinOp

def spelling : JoinOp → String
  | inner => "JOIN"
  | left => "LEFT JOIN"
  | right => "RIGHT JOIN"
  | full => "FULL JOIN"
  | leftSemi => "LEFT SEMI JOIN"
  | rightSemi => "RIGHT SEMI JOIN"
  | leftAnti => "LEFT ANTI JOIN"
  | rightAnti => "RIGHT ANTI JOIN"
  | cross => "CROSS JOIN"
  | crossApply => "CROSS APPLY"
  | outerApply => "OUTER APPLY"
  | asOf => "ASOF JOIN"

end JoinOp

/-- A clause that starts with a blank and is absent when it has no text. -/
def clause (keyword : String) (text : String) : String :=
  if text.isEmpty then "" else " " ++ keyword ++ text

def asAlias (alias? : Option TableAlias) : String :=
  match alias? with
  | some a => " AS " ++ a.spelling
  | none => ""

mutual

def Expr.spelling : Expr → String
  | .name parts => Name.spelling parts
  | .value s => s
  | .binary l op r => l.spelling ++ " " ++ op.spelling ++ " " ++ r.spelling
  | .nested e => "(" ++ e.spelling ++ ")"
  | .call f rest => Name.spelling f ++ spellPieces rest
  | .form pieces => spellPieces pieces

def spellExprs : List Expr → List String
  | [] => []
  | e :: es => e.spelling :: spellExprs es

def spellOption (keyword : String) : Option Expr → String
  | none => ""
  | some e => " " ++ keyword ++ " " ++ e.spelling

def Piece.spelling : Piece → String
  | .text s => s
  | .expr e => e.spelling
  | .query q => q.spelling
  | .table t => t.spelling

def spellPieces : List Piece → String
  | [] => ""
  | p :: ps => p.spelling ++ spellPieces ps

def TableFactor.spelling : TableFactor → String
  | .base name arguments alias? hints =>
    Name.spelling name ++ spellPieces arguments ++ asAlias alias? ++ spellPieces hints
  | .derived lateral q alias? =>
    (if lateral then "LATERAL (" else "(") ++ q.spelling ++ ")" ++ asAlias alias?
  | .nested inner alias? => "(" ++ inner.spelling ++ ")" ++ asAlias alias?
  | .other pieces alias? tail => spellPieces pieces ++ asAlias alias? ++ spellPieces tail

def JoinConstraint.spelling : JoinConstraint → String
  | .on e => " ON " ++ e.spelling
  | .shared columns => " USING(" ++ listed (columns.map Ident.spelling) ++ ")"
  | .natural => ""
  | .none => ""

def Join.spelling : Join → String
  | { isGlobal, op, relation, matching, constraint } =>
    (if isGlobal then " GLOBAL" else "")
      ++ (match constraint with | .natural => " NATURAL " | _ => " ")
      ++ op.spelling ++ " " ++ relation.spelling
      ++ (match matching with | some e => " MATCH_CONDITION (" ++ e.spelling ++ ")" | none => "")
      ++ constraint.spelling

def spellJoins : List Join → String
  | [] => ""
  | j :: js => j.spelling ++ spellJoins js

def TableWithJoins.spelling : TableWithJoins → String
  | { relation, joins } => relation.spelling ++ spellJoins joins

def spellTables : List TableWithJoins → List String
  | [] => []
  | t :: ts => t.spelling :: spellTables ts

def Cte.spelling : Cte → String
  | { given, query, source?, materialized } =>
    given.spelling
      ++ (match materialized with
        | none => " AS ("
        | some true => " AS MATERIALIZED ("
        | some false => " AS NOT MATERIALIZED (")
      ++ query.spelling ++ ")"
      ++ (match source? with | some i => " FROM " ++ i.spelling | none => "")

def spellCtes : List Cte → List String
  | [] => []
  | c :: cs => c.spelling :: spellCtes cs

def OrderKey.spelling : OrderKey → String
  | { key, direction, fill } => key.spelling ++ direction ++ spellPieces fill

def spellKeys : List OrderKey → List String
  | [] => []
  | k :: ks => k.spelling :: spellKeys ks

def Query.spelling : Query → String
  | { recursive, ctes, body, orderBy, interpolate, limit, tail } =>
    (if ctes.isEmpty then ""
      else (if recursive then "WITH RECURSIVE " else "WITH ") ++ listed (spellCtes ctes) ++ " ")
      ++ body.spelling
      ++ clause "ORDER BY " (listed (spellKeys orderBy))
      ++ spellPieces interpolate
      ++ spellOption "LIMIT" limit
      ++ spellPieces tail

def Body.spelling : Body → String
  | .select s => s.spelling
  | .setOp l op quantifier r =>
    l.spelling ++ " " ++ op.spelling ++ quantifier ++ " " ++ r.spelling
  | .query q => "(" ++ q.spelling ++ ")"
  | .rows pieces => spellPieces pieces
  | .table s => s
  | .change s => s.spelling

def SelectItem.spelling : SelectItem → String
  | .expr e none => e.spelling
  | .expr e (some a) => e.spelling ++ " AS " ++ a.spelling
  | .wildcard qualifier options =>
    (if qualifier.isEmpty then "*" else Name.spelling qualifier ++ ".*") ++ spellPieces options

def spellItems : List SelectItem → List String
  | [] => []
  | i :: is => i.spelling :: spellItems is

def Distinct.spelling : Distinct → String
  | .none => ""
  | .rows => " DISTINCT"
  | .on keys => " DISTINCT ON (" ++ listed (spellExprs keys) ++ ")"

def Select.spelling : Select → String
  | { top, topFirst, distinct, items, into, tables, views, condition, groupAll, groupBy,
      groupModifiers, sorting, having, tail } =>
    "SELECT" ++ (if topFirst then spellPieces top else "") ++ distinct.spelling
      ++ (if topFirst then "" else spellPieces top)
      ++ " " ++ listed (spellItems items)
      ++ into
      ++ clause "FROM " (listed (spellTables tables))
      ++ spellPieces views
      ++ spellOption "WHERE" condition
      ++ (if groupAll then " GROUP BY ALL" else clause "GROUP BY " (listed (spellExprs groupBy)))
      ++ (if groupAll || !groupBy.isEmpty then String.join (groupModifiers.map (" " ++ ·)) else "")
      ++ spellPieces sorting
      ++ spellOption "HAVING" having
      ++ spellPieces tail

def Update.spelling : Update → String
  | { target, assignments, source?, condition, returning } =>
    "UPDATE " ++ target.spelling ++ spellPieces assignments
      ++ (match source? with | some t => " FROM " ++ t.spelling | none => "")
      ++ spellOption "WHERE" condition ++ spellPieces returning

def Delete.spelling : Delete → String
  | { named, fromKeyword, targets, sources, condition, tail } =>
    "DELETE " ++ (if named.isEmpty then "" else listed (named.map Name.spelling) ++ " ")
      ++ (if fromKeyword then "FROM " else "") ++ listed (spellTables targets)
      ++ clause "USING " (listed (spellTables sources))
      ++ spellOption "WHERE" condition ++ spellPieces tail

def Statement.spelling : Statement → String
  | .query q => q.spelling
  | .update u => u.spelling
  | .delete d => d.spelling
  | .other pieces => spellPieces pieces

end

def spellStatements (statements : List Statement) : String :=
  "; ".intercalate (statements.map Statement.spelling)

end RowFence.Sql
