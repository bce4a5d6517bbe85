/-! Statements as far as a database looks into them before it runs them: which names they use, and
how many columns they have where. -/

namespace RowFence.Database

structure Path where
  schema? : Option String
  name : String
  deriving DecidableEq, Repr

mutual

inductive Expr where
  | constant
  | integer (value : Nat)
  /-- A name on its own. In double quotes it may be a text as well. -/
  | column (name : String) (inDoubleQuotes : Bool)
  | columnOf (table : Path) (column : String)
  | negative (inner : Expr)
  | collated (inner : Expr)
  | operator (parts : List Expr)
  /-- An operator between values, or rows of the same number of values. -/
  | comparison (parts : List Expr)
  | row (parts : List Expr)
  | call (function : String) (distinct : Bool) (arguments order filter : List Expr)
      (window? : Option Window)
  | subquery (q : Query)
  | exists (q : Query)
  | member (e : Expr) (among : Collection)
  /-- Stops the statement that a trigger runs for. -/
  | stop (reason : List Expr)

inductive Collection where
  | list (es : List Expr)
  | query (q : Query)
  | table (path : Path) (arguments? : Option (List Expr))

inductive Window where
  | named (name : String)
  /-- A window that may start from another one. -/
  | given (base? : Option String) (parts : List Expr)

inductive Item where
  | all
  | allOf (table : String)
  | expr (e : Expr) (name? : Option String) (spelling : String)

inductive Source where
  | table (path : Path) (arguments? : Option (List Expr)) (alias? index? : Option String)
  | query (q : Query) (alias? : Option String)
  | group (inner : List Joined) (alias? : Option String)

structure Joined where
  isNatural : Bool
  source : Source
  condition : List Expr
  shared : List String

structure NamedWindow where
  name : String
  window : Window

inductive Arm where
  | select (items : List Item) (sources : List Joined) (condition groupBy having : List Expr)
      (windows : List NamedWindow)
  | rows (rows : List (List Expr))

structure Cte where
  name : String
  columns : List String
  query : Query

structure OrderTerm where
  key : Expr
  spelling : String

/-- Arms that are put together by `UNION`, `INTERSECT` or `EXCEPT`. -/
structure Query where
  ctes : List Cte
  arms : List Arm
  orderBy : List OrderTerm
  limit : List Expr

end

structure Assignment where
  columns : List String
  value : Expr

structure Upsert where
  target : List Expr
  targetCondition : List Expr
  assignments : List Assignment
  condition : List Expr

structure Target where
  path : Path
  alias? : Option String
  index? : Option String

inductive Change where
  | insert (ctes : List Cte) (target : Target) (columns : List String) (source? : Option Query)
      (upserts : List Upsert) (returning : List Item)
  | update (ctes : List Cte) (target : Target) (assignments : List Assignment)
      (sources : List Joined) (condition : List Expr) (returning : List Item)
  | delete (ctes : List Cte) (target : Target) (condition : List Expr) (returning : List Item)

structure ColumnDef where
  name : String
  type : List String
  isKey : Bool
  isUnique : Bool
  isAutoincrement : Bool
  isGenerated : Bool
  checks : List Expr
  default : List Expr

inductive TableRule where
  | key (columns : List Expr) (isAutoincrement : Bool)
  | unique (columns : List Expr)
  | check (condition : Expr)
  | foreign (columns others : List String)

structure TableDef where
  columns : List ColumnDef
  rules : List TableRule
  withoutRowNumber : Bool
  isStrict : Bool

inductive TableBody where
  | given (definition : TableDef)
  | query (q : Query)

inductive ObjectKind where
  | table | view | index | trigger
  deriving DecidableEq, Repr

inductive TriggerEvent where
  | delete | insert
  | update (columns : List String)
  deriving DecidableEq, Repr

structure TriggerDef where
  isInstead : Bool
  event : TriggerEvent
  table : Path
  condition : List Expr

inductive TableChange where
  | rename (name : String)
  | renameColumn (column name : String)
  | addColumn (column : ColumnDef)
  | dropColumn (column : String)

inductive Statement where
  | query (q : Query)
  | change (c : Change)
  | createTable (temporary ifNew : Bool) (path : Path) (body : TableBody)
  | createView (temporary ifNew : Bool) (path : Path) (columns : List String) (q : Query)
  | createIndex (ifNew : Bool) (path : Path) (table : String) (columns condition : List Expr)
  | createTrigger (temporary ifNew : Bool) (path : Path) (definition : TriggerDef)
  | createVirtual (ifNew : Bool) (path : Path) (module : String) (arguments : List String)
  | drop (kind : ObjectKind) (ifThere : Bool) (path : Path)
  | alter (table : Path) (change : TableChange)
  | begin
  | commit
  | rollback
  | savepoint (name : String)
  | release (name : String)
  | rollbackTo (name : String)
  | vacuum (schema? : Option String)
  | analyze (path? : Option Path)
  | reindex (path? : Option Path)
  | attach (name : String)
  | detach (name : String)
  | pragma (path : Path) (isGiven : Bool)
  | explain (inner : Statement)

/-- Whether a statement is kept as it is written, so that no parameter can stand in it. -/
def Statement.isDefinition : Statement → Bool
  | .createTable .. | .createView .. | .createIndex .. | .createTrigger .. => true
  | _ => false

end RowFence.Database
