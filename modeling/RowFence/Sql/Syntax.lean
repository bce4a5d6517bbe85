/-! Statements as far as tenant scoping looks into them. Expressions, tables, joins, queries and
row changes have a structure of their own; every other construct is a phrase, that is, its spelling
with the expressions, queries and tables in it left as nodes. -/

namespace RowFence.Sql

structure Ident where
  value : String
  quote : Option Char
  deriving DecidableEq, Repr

abbrev Name := List Ident

structure TableAlias where
  name : Ident
  columns : List Ident
  deriving DecidableEq, Repr

inductive BinaryOp where
  | and | or | xor | eq | concat
  | other (spelling : String)
  deriving DecidableEq, Repr

inductive JoinOp where
  | inner | left | right | full
  | leftSemi | rightSemi | leftAnti | rightAnti
  | cross | crossApply | outerApply
  | asOf
  deriving DecidableEq, Repr

inductive SetOp where
  | union | except | intersect
  deriving DecidableEq, Repr

mutual

inductive Expr where
  | name (parts : Name)
  | value (spelling : String)
  | binary (left : Expr) (op : BinaryOp) (right : Expr)
  | nested (inner : Expr)
  | call (function : Name) (rest : List Piece)
  | form (pieces : List Piece)

inductive Piece where
  | text (spelling : String)
  | expr (e : Expr)
  | query (q : Query)
  | table (t : TableFactor)

inductive TableFactor where
  | base (name : Name) (arguments : List Piece) (alias? : Option TableAlias) (hints : List Piece)
  | derived (lateral : Bool) (subquery : Query) (alias? : Option TableAlias)
  | nested (inner : TableWithJoins) (alias? : Option TableAlias)
  | other (pieces : List Piece) (alias? : Option TableAlias) (tail : List Piece)

inductive JoinConstraint where
  | on (condition : Expr)
  | shared (columns : List Ident)
  | natural
  | none

structure Join where
  isGlobal : Bool
  op : JoinOp
  relation : TableFactor
  matching : Option Expr
  constraint : JoinConstraint

structure TableWithJoins where
  relation : TableFactor
  joins : List Join

structure Cte where
  given : TableAlias
  query : Query
  source? : Option Ident
  materialized : Option Bool

structure OrderKey where
  key : Expr
  direction : String
  fill : List Piece

structure Query where
  recursive : Bool
  ctes : List Cte
  body : Body
  orderBy : List OrderKey
  interpolate : List Piece
  limit : Option Expr
  tail : List Piece

inductive Body where
  | select (s : Select)
  | setOp (left : Body) (op : SetOp) (quantifier : String) (right : Body)
  | query (q : Query)
  | rows (pieces : List Piece)
  | table (spelling : String)
  | change (s : Statement)

inductive SelectItem where
  | expr (e : Expr) (alias? : Option Ident)
  | wildcard (qualifier : Name) (options : List Piece)

inductive Distinct where
  | none
  | rows
  | on (keys : List Expr)

structure Select where
  top : List Piece
  topFirst : Bool
  distinct : Distinct
  items : List SelectItem
  into : String
  tables : List TableWithJoins
  views : List Piece
  condition : Option Expr
  groupAll : Bool
  groupBy : List Expr
  groupModifiers : List String
  sorting : List Piece
  having : Option Expr
  tail : List Piece

structure Update where
  target : TableWithJoins
  assignments : List Piece
  source? : Option TableWithJoins
  condition : Option Expr
  returning : List Piece

structure Delete where
  named : List Name
  fromKeyword : Bool
  targets : List TableWithJoins
  sources : List TableWithJoins
  condition : Option Expr
  tail : List Piece

inductive Statement where
  | query (q : Query)
  | update (u : Update)
  | delete (d : Delete)
  | other (pieces : List Piece)

end

end RowFence.Sql
