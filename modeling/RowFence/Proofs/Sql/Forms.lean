import RowFence.Proofs.Sql.Phrases
import RowFence.Proofs.Sql.Running

/-! Forms of statements, each with the tokens that it is written in. They nest as the parsers do:
what stands in parentheses or to the right of an operator is one level further in. -/

namespace RowFence.Sql

def typeWords : List String :=
  ["BOOLEAN", "BOOL", "REAL", "FLOAT4", "FLOAT64", "FLOAT8", "INT64", "UUID", "DATE", "JSON",
    "JSONB", "REGCLASS", "TEXT", "BYTEA", "TRIGGER", "FLOAT32", "INT16", "INT32", "INT128",
    "INT256", "UINT8", "UINT16", "UINT32", "UINT64", "UINT128", "UINT256", "DATE32", "DOUBLE",
    "FLOAT", "CLOB", "BINARY", "VARBINARY", "BLOB", "BYTES", "DATETIME", "STRING", "TINYINT",
    "INT2", "SMALLINT", "MEDIUMINT", "INT", "INT4", "INT8", "INTEGER", "BIGINT", "VARCHAR",
    "NVARCHAR", "CHARACTER", "CHAR", "TIMESTAMP", "TIME", "TIMESTAMPTZ", "TIMETZ", "NUMERIC",
    "DECIMAL", "DEC", "BIGNUMERIC", "BIGDECIMAL", "ENUM", "SET", "FIXEDSTRING", "DATETIME64",
    "INTERVAL", "ARRAY", "STRUCT", "UNION", "NULLABLE", "LOWCARDINALITY", "MAP", "NESTED", "TUPLE"]

def operandWords : List String :=
  ["TRUE", "FALSE", "NULL", "CASE", "CONVERT", "CAST", "TRY_CAST", "SAFE_CAST", "EXISTS", "EXTRACT",
    "CEIL", "FLOOR", "SUBSTRING", "OVERLAY", "TRIM", "NOT", "CURRENT_TIMESTAMP", "CURRENT_TIME",
    "CURRENT_DATE", "LOCALTIME", "LOCALTIMESTAMP", "CURRENT_CATALOG", "CURRENT_USER",
    "SESSION_USER", "USER", "POSITION", "MATCH", "TRY_CONVERT", "PRIOR"]

def clauseWords : List String :=
  ["SELECT", "WITH", "VALUES", "ALL", "DISTINCT", "ON", "TOP", "ANY", "SOME", "LATERAL", "TABLE",
    "UNNEST", "JSON_TABLE", "FROM", "GROUPING", "CUBE", "ROLLUP"]

/-- Words that mean something else than a name where a column or a table may stand. -/
def reservedWords : List String := typeWords ++ operandWords ++ clauseWords

/-- A name of a column or a table that may stand first. -/
structure IsPlainName (d : Dialect) (i : Ident) : Prop where
  rereads : Lexer.RereadsName d i
  free : i.word.key ∉ reservedWords

/-- Operators and the tokens that they are written as. -/
def operatorTokens : List (BinaryOp × Token) :=
  [(.and, .keyword "AND"), (.or, .keyword "OR"), (.xor, .keyword "XOR"), (.eq, .symbol .eq),
    (.concat, .symbol .stringConcat), (.other "<>", .symbol .neq), (.other "<", .symbol .lt),
    (.other "<=", .symbol .ltEq), (.other ">", .symbol .gt), (.other ">=", .symbol .gtEq),
    (.other "<=>", .symbol .spaceship), (.other "+", .symbol .plus), (.other "-", .symbol .minus),
    (.other "*", .symbol .mul), (.other "/", .symbol .div), (.other "%", .symbol .mod)]

/-- How tightly the token of an operator binds. -/
def Token.strength (d : Dialect) (t : Token) : Nat :=
  ((match t with
    | .word w => Level.ofWords? d w.key "" ""
    | .symbol s => Level.ofSymbol? d s
    | _ => none).map (Level.strength d)).getD 0

/-- Which expressions and queries stand one level further in, and the tokens that they are written
in. An expression is told with a strength that all its operators exceed. -/
structure Forms where
  expr : (strength : Nat) → Expr → List Token → Prop
  query : Query → List Token → Prop

inductive ArgumentForm (F : Forms) : List Piece → List Token → Prop
  | all : ArgumentForm F [.text "*"] [.symbol .mul]
  | expr {e : Expr} {ts : List Token} (h : F.expr 0 e ts) : ArgumentForm F (pieceOf e) ts

/-- Which arguments of a call count. -/
def duplicateTokens : List (String × List Token) :=
  [("", []), ("DISTINCT ", [.keyword "DISTINCT"]), ("ALL ", [.keyword "ALL"])]

/-- Items one after the other. -/
inductive Row {α : Type} (R : α → List Token → Prop) : List α → List Token → Prop
  | nil : Row R [] []
  | cons {a : α} {as : List α} {ts us : List Token} (h : R a ts) (others : Row R as us) :
      Row R (a :: as) (ts ++ us)

/-- What the branches of a case are compared with. It is left out where they have conditions. -/
inductive SubjectForm (F : Forms) : List Piece → List Token → Prop
  | none : SubjectForm F [] []
  | some {e : Expr} {ts : List Token} (h : F.expr 0 e ts)
      (unmerged : ∀ t ∈ ts.head?, t.key ≠ "WHEN") : SubjectForm F [.text " ", .expr e] ts

inductive BranchForm (F : Forms) : List Piece → List Token → Prop
  | mk {test result : Expr} {ts us : List Token} (tested : F.expr 0 test ts)
      (chosen : F.expr 0 result us) :
      BranchForm F [.text " WHEN ", .expr test, .text " THEN ", .expr result]
        (.keyword "WHEN" :: ts ++ .keyword "THEN" :: us)

inductive OtherwiseForm (F : Forms) : List Piece → List Token → Prop
  | none : OtherwiseForm F [] []
  | some {e : Expr} {ts : List Token} (h : F.expr 0 e ts) :
      OtherwiseForm F [.text " ELSE ", .expr e] (.keyword "ELSE" :: ts)

def negationText (negated : Bool) : String := if negated then "NOT " else ""

def negationTokens (negated : Bool) : List Token := if negated then [.keyword "NOT"] else []

inductive OperandForm (d : Dialect) (F : Forms) : Expr → List Token → Prop
  | name {i : Ident} {n : Name} (first : IsPlainName d i)
      (others : ∀ j ∈ n, Lexer.RereadsName d j) :
      OperandForm d F (.name (i :: n)) (Name.tokens (i :: n))
  | number {digits : String} (numeral : Lexer.IsNumeral digits.toList) :
      OperandForm d F (.value digits) [.number digits false]
  | string {body : String} (rereads : Lexer.Rereads d body) :
      OperandForm d F (.value (Literal.single body)) [.string .single body]
  | null : OperandForm d F (.value "NULL") [.keyword "NULL"]
  | truth {w : String} (known : w ∈ ["true", "false"]) :
      OperandForm d F (.value w) [.word (Ident.word ⟨w, none⟩)]
  | nested {e : Expr} {ts : List Token} (inner : F.expr 0 e ts) :
      OperandForm d F (.nested e) (.symbol .lParen :: ts ++ [.symbol .rParen])
  | query {q : Query} {ts : List Token} (inner : F.query q ts)
      (unwrapped : ∀ t ∈ ts.head?, t ≠ .symbol .lParen) :
      OperandForm d F (.form [.text "(", .query q, .text ")"])
        (.symbol .lParen :: ts ++ [.symbol .rParen])
  | exists {q : Query} {negated : Bool} {ts : List Token} (inner : F.query q ts) :
      OperandForm d F
        (.form [.text (if negated then "NOT EXISTS (" else "EXISTS ("), .query q, .text ")"])
        (negationTokens negated
          ++ .keyword "EXISTS" :: .symbol .lParen :: ts ++ [.symbol .rParen])
  | call {i : Ident} {n : Name} {duplicates : String} {items : List (List Piece)}
      {ds ts : List Token} (first : IsPlainName d i) (others : ∀ j ∈ n, Lexer.RereadsName d j)
      (counted : (duplicates, ds) ∈ duplicateTokens)
      (arguments : Parser.Commas (ArgumentForm F) items ts) :
      OperandForm d F (.call (i :: n) (Parser.inPieceParens (.text duplicates :: commaPieces items)))
        (Name.tokens (i :: n) ++ .symbol .lParen :: (ds ++ ts) ++ [.symbol .rParen])
  | callEmpty {i : Ident} {n : Name} (first : IsPlainName d i)
      (others : ∀ j ∈ n, Lexer.RereadsName d j) :
      OperandForm d F (.call (i :: n) (Parser.inPieceParens []))
        (Name.tokens (i :: n) ++ [.symbol .lParen, .symbol .rParen])
  | choice {subject otherwise : List Piece} {branches : List (List Piece)} {ts us vs : List Token}
      (compared : SubjectForm F subject ts) (nonempty : branches ≠ [])
      (tried : Row (BranchForm F) branches us) (last : OtherwiseForm F otherwise vs) :
      OperandForm d F
        (.form (text "CASE" ++ subject ++ branches.flatten ++ otherwise ++ text " END"))
        (.keyword "CASE" :: ts ++ us ++ vs ++ [.keyword "END"])

/-- Operators from left to right, each one followed by an operand whose own operators bind tighter,
and preceded by operators that bind as tightly. -/
inductive ExprForm (d : Dialect) (F : Forms) : (strength : Nat) → Expr → List Token → Prop
  | operand {p : Nat} {e : Expr} {ts : List Token} (h : OperandForm d F e ts) :
      ExprForm d F p e ts
  | not {p : Nat} {e : Expr} {ts : List Token} (tighter : p < Level.strength d .not)
      (inner : F.expr (Level.strength d .not) e ts)
      (unmerged : ∀ t ∈ ts.head?, t.key ≠ "EXISTS") :
      ExprForm d F p (.form [.text "NOT ", .expr e]) (.keyword "NOT" :: ts)
  | negative {p : Nat} {e : Expr} {ts : List Token} (tighter : p < Level.strength d .multiply)
      (inner : F.expr (Level.strength d .multiply) e ts)
      (unmerged : ∀ t ∈ ts.head?, t ≠ .symbol .minus) :
      ExprForm d F p (.form [.text "-", .expr e]) (.symbol .minus :: ts)
  | binary {p : Nat} {l r : Expr} {op : BinaryOp} {t : Token} {ts us : List Token}
      (operator : (op, t) ∈ operatorTokens) (tighter : p < t.strength d)
      (left : ExprForm d F (t.strength d - 1) l ts) (right : F.expr (t.strength d) r us) :
      ExprForm d F p (.binary l op r) (ts ++ t :: us)
  | test {p : Nat} {l : Expr} {keys : List String} {ts : List Token} (known : keys ∈ Parser.isTests)
      (tighter : p < Level.strength d .is) (left : ExprForm d F (Level.strength d .is - 1) l ts) :
      ExprForm d F p (.form [.expr l, .text (" IS " ++ " ".intercalate keys)])
        (ts ++ .keyword "IS" :: keys.map .keyword)
  | among {p : Nat} {l : Expr} {es : List Expr} {negated : Bool} {ts us : List Token}
      (tighter : p < Level.strength d .between)
      (left : ExprForm d F (Level.strength d .between - 1) l ts)
      (items : Parser.Commas (F.expr 0) es us) :
      ExprForm d F p
        (.form ([.expr l, .text (" " ++ negationText negated ++ "IN ")]
          ++ Parser.inPieceParens (exprPieces es)))
        (ts ++ negationTokens negated
          ++ .keyword "IN" :: .symbol .lParen :: us ++ [.symbol .rParen])
  | isIn {p : Nat} {l : Expr} {q : Query} {negated : Bool} {ts us : List Token}
      (tighter : p < Level.strength d .between)
      (left : ExprForm d F (Level.strength d .between - 1) l ts) (rows : F.query q us)
      (unwrapped : ∀ t ∈ us.head?, t ≠ .symbol .lParen) :
      ExprForm d F p
        (.form ([.expr l, .text (" " ++ negationText negated ++ "IN ")]
          ++ Parser.inPieceParens [.query q]))
        (ts ++ negationTokens negated
          ++ .keyword "IN" :: .symbol .lParen :: us ++ [.symbol .rParen])
  | between {p : Nat} {l low high : Expr} {negated : Bool} {ts us vs : List Token}
      (tighter : p < Level.strength d .between)
      (left : ExprForm d F (Level.strength d .between - 1) l ts)
      (lower : F.expr (Level.strength d .between) low us)
      (upper : F.expr (Level.strength d .between) high vs) :
      ExprForm d F p
        (.form [.expr l, .text (" " ++ negationText negated ++ "BETWEEN "), .expr low,
          .text " AND ", .expr high])
        (ts ++ negationTokens negated ++ .keyword "BETWEEN" :: us ++ .keyword "AND" :: vs)
  | like {p : Nat} {l pattern : Expr} {negated : Bool} {ts us : List Token}
      (tighter : p < Level.strength d .like)
      (left : ExprForm d F (Level.strength d .like - 1) l ts)
      (right : F.expr (Level.strength d .like) pattern us) :
      ExprForm d F p
        (.form [.expr l, .text (" " ++ (negationText negated ++ "LIKE") ++ " " ++ ""),
          .expr pattern, .text ""])
        (ts ++ negationTokens negated ++ .keyword "LIKE" :: us)

inductive IdentForm (d : Dialect) : Ident → List Token → Prop
  | mk {i : Ident} (rereads : Lexer.RereadsName d i) : IdentForm d i [.word i.word]

/-- Names of columns in parentheses, left out when there are none. -/
inductive ColumnsForm (d : Dialect) : List Ident → List Token → Prop
  | nil : ColumnsForm d [] []
  | items {columns : List Ident} {ts : List Token}
      (named : Parser.Commas (IdentForm d) columns ts) :
      ColumnsForm d columns (.symbol .lParen :: ts ++ [.symbol .rParen])

inductive AliasForm (d : Dialect) : Option TableAlias → List Token → Prop
  | none : AliasForm d none []
  | some {i : Ident} {columns : List Ident} {ts : List Token} (plain : IsPlainName d i)
      (listed : ColumnsForm d columns ts) :
      AliasForm d (some ⟨i, columns⟩) (.keyword "AS" :: .word i.word :: ts)

def lateralTokens (lateral : Bool) : List Token := if lateral then [.keyword "LATERAL"] else []

inductive FactorForm (d : Dialect) (F : Forms) : TableFactor → List Token → Prop
  | base {i : Ident} {n : Name} {alias? : Option TableAlias} {ts : List Token}
      (first : IsPlainName d i) (others : ∀ j ∈ n, Lexer.RereadsName d j)
      (named : AliasForm d alias? ts) :
      FactorForm d F (.base (i :: n) [] alias? []) (Name.tokens (i :: n) ++ ts)
  | derived {lateral : Bool} {q : Query} {alias? : Option TableAlias} {ts us : List Token}
      (rows : F.query q ts) (named : AliasForm d alias? us) :
      FactorForm d F (.derived lateral q alias?)
        (lateralTokens lateral ++ .symbol .lParen :: ts ++ .symbol .rParen :: us)

inductive ConstraintForm (d : Dialect) (F : Forms) : JoinConstraint → List Token → Prop
  | on {e : Expr} {ts : List Token} (condition : F.expr 0 e ts) :
      ConstraintForm d F (.on e) (.keyword "ON" :: ts)
  | shared {columns : List Ident} {ts : List Token}
      (named : Parser.Commas (IdentForm d) columns ts) :
      ConstraintForm d F (.shared columns)
        (.keyword "USING" :: .symbol .lParen :: ts ++ [.symbol .rParen])
  | none : ConstraintForm d F .none []

/-- Joins that a condition may follow. -/
def joinTokens : List (JoinOp × List Token) :=
  [(.inner, [.keyword "JOIN"]), (.left, [.keyword "LEFT", .keyword "JOIN"]),
    (.right, [.keyword "RIGHT", .keyword "JOIN"]), (.full, [.keyword "FULL", .keyword "JOIN"]),
    (.leftSemi, [.keyword "LEFT", .keyword "SEMI", .keyword "JOIN"]),
    (.rightSemi, [.keyword "RIGHT", .keyword "SEMI", .keyword "JOIN"]),
    (.leftAnti, [.keyword "LEFT", .keyword "ANTI", .keyword "JOIN"]),
    (.rightAnti, [.keyword "RIGHT", .keyword "ANTI", .keyword "JOIN"])]

def crossTokens : List (JoinOp × List Token) :=
  [(.cross, [.keyword "CROSS", .keyword "JOIN"]), (.crossApply, [.keyword "CROSS", .keyword "APPLY"]),
    (.outerApply, [.keyword "OUTER", .keyword "APPLY"])]

inductive JoinForm (d : Dialect) (F : Forms) : Join → List Token → Prop
  | constrained {op : JoinOp} {relation : TableFactor} {constraint : JoinConstraint}
      {ks ts us : List Token} (operator : (op, ks) ∈ joinTokens)
      (right : FactorForm d F relation ts) (matched : ConstraintForm d F constraint us) :
      JoinForm d F ⟨false, op, relation, none, constraint⟩ (ks ++ ts ++ us)
  | natural {op : JoinOp} {relation : TableFactor} {ks ts : List Token}
      (operator : (op, ks) ∈ joinTokens) (right : FactorForm d F relation ts) :
      JoinForm d F ⟨false, op, relation, none, .natural⟩ (.keyword "NATURAL" :: ks ++ ts)
  | cross {op : JoinOp} {relation : TableFactor} {ks ts : List Token}
      (operator : (op, ks) ∈ crossTokens) (right : FactorForm d F relation ts) :
      JoinForm d F ⟨false, op, relation, none, .none⟩ (ks ++ ts)

inductive TableForm (d : Dialect) (F : Forms) : TableWithJoins → List Token → Prop
  | mk {relation : TableFactor} {joins : List Join} {ts us : List Token}
      (first : FactorForm d F relation ts) (others : Row (JoinForm d F) joins us) :
      TableForm d F ⟨relation, joins⟩ (ts ++ us)

/-- A clause that is left out or starts with its keywords. -/
inductive ClauseForm {α : Type} (ks : List Token) (R : α → List Token → Prop) :
    Option α → List Token → Prop
  | none : ClauseForm ks R none []
  | some {a : α} {ts : List Token} (h : R a ts) : ClauseForm ks R (some a) (ks ++ ts)

/-- A list after keywords, left out when it is empty. -/
inductive ListForm {α : Type} (ks : List Token) (R : α → List Token → Prop) :
    List α → List Token → Prop
  | nil : ListForm ks R [] []
  | items {as : List α} {ts : List Token} (h : Parser.Commas R as ts) : ListForm ks R as (ks ++ ts)

inductive ItemForm (d : Dialect) (F : Forms) : SelectItem → List Token → Prop
  | wildcard : ItemForm d F (.wildcard [] []) [.symbol .mul]
  | qualified {i : Ident} {n : Name} (first : IsPlainName d i)
      (others : ∀ j ∈ n, Lexer.RereadsName d j) :
      ItemForm d F (.wildcard (i :: n) [])
        (Name.tokens (i :: n) ++ [.symbol .period, .symbol .mul])
  | expr {e : Expr} {ts : List Token} (h : F.expr 0 e ts)
      (named : Parser.isBareFrom e = Option.none) : ItemForm d F (.expr e none) ts
  | given {e : Expr} {i : Ident} {ts : List Token} (h : F.expr 0 e ts)
      (named : Parser.isBareFrom e = Option.none) (rereads : Lexer.RereadsName d i) :
      ItemForm d F (.expr e (some i)) (ts ++ [.keyword "AS", .word i.word])

inductive DistinctForm : Distinct → List Token → Prop
  | none : DistinctForm .none []
  | rows : DistinctForm .rows [.keyword "DISTINCT"]

inductive SelectForm (d : Dialect) (F : Forms) : Select → List Token → Prop
  | mk {distinct : Distinct} {items : List SelectItem} {tables : List TableWithJoins}
      {condition having : Option Expr} {groupBy : List Expr} {ds is ts cs gs hs : List Token}
      (distinguished : DistinctForm distinct ds) (selected : Parser.Commas (ItemForm d F) items is)
      (source : ListForm [.keyword "FROM"] (TableForm d F) tables ts)
      (tested : ClauseForm [.keyword "WHERE"] (F.expr 0) condition cs)
      (grouped : ListForm [.keyword "GROUP", .keyword "BY"] (F.expr 0) groupBy gs)
      (kept : ClauseForm [.keyword "HAVING"] (F.expr 0) having hs) :
      SelectForm d F
        { top := [], topFirst := false, distinct, items, into := "", tables, views := [], condition,
          groupAll := false, groupBy, groupModifiers := [], sorting := [], having, tail := [] }
        (.keyword "SELECT" :: ds ++ is ++ ts ++ cs ++ gs ++ hs)

def directionTokens : List (String × List Token) :=
  [("", []), (" ASC", [.keyword "ASC"]), (" DESC", [.keyword "DESC"])]

inductive KeyForm (F : Forms) : OrderKey → List Token → Prop
  | mk {e : Expr} {direction : String} {ts ds : List Token} (h : F.expr 0 e ts)
      (directed : (direction, ds) ∈ directionTokens) : KeyForm F ⟨e, direction, []⟩ (ts ++ ds)

/-- What an operation between two queries does with rows that occur more than once. -/
def quantifierTokens : List (String × List Token) :=
  [("", []), (" ALL", [.keyword "ALL"]), (" DISTINCT", [.keyword "DISTINCT"]),
    (" BY NAME", [.keyword "BY", .keyword "NAME"]),
    (" ALL BY NAME", [.keyword "ALL", .keyword "BY", .keyword "NAME"]),
    (" DISTINCT BY NAME", [.keyword "DISTINCT", .keyword "BY", .keyword "NAME"])]

/-- Whether the last of the queries that are combined takes its rows from tables. -/
def Body.hasTables : Body → Bool
  | .select s => !s.tables.isEmpty
  | .setOp _ _ _ r => r.hasTables
  | _ => true

/-- Set operations from left to right, as tight as operators in an expression. The generic dialect takes
`EXCEPT` right behind `*` for an option of the wildcard. -/
inductive BodyForm (d : Dialect) (F : Forms) : (strength : Nat) → Body → List Token → Prop
  | select {p : Nat} {s : Select} {ts : List Token} (h : SelectForm d F s ts) :
      BodyForm d F p (.select s) ts
  | query {p : Nat} {q : Query} {ts : List Token} (inner : F.query q ts) :
      BodyForm d F p (.query q) (.symbol .lParen :: ts ++ [.symbol .rParen])
  | setOp {p : Nat} {l r : Body} {op : SetOp} {quantifier : String} {ts qs us : List Token}
      (tighter : p < op.strength) (left : BodyForm d F (op.strength - 1) l ts)
      (unmerged : d = .generic → op = .except → l.hasTables = true)
      (quantified : (quantifier, qs) ∈ quantifierTokens) (right : BodyForm d F op.strength r us) :
      BodyForm d F p (.setOp l op quantifier r) (ts ++ .keyword op.spelling :: qs ++ us)

/-- Whether the rows of a common table are computed once. Only one dialect says so. -/
def materialTokens : List (Option Bool × List Token) :=
  [(none, []), (some true, [.keyword "MATERIALIZED"]),
    (some false, [.keyword "NOT", .keyword "MATERIALIZED"])]

inductive CteForm (d : Dialect) (F : Forms) : Cte → List Token → Prop
  | mk {i : Ident} {columns : List Ident} {q : Query} {materialized : Option Bool}
      {cs ms ts : List Token} (rereads : Lexer.RereadsName d i) (listed : ColumnsForm d columns cs)
      (computed : (materialized, ms) ∈ materialTokens)
      (allowed : materialized ≠ none → d = .postgres) (rows : F.query q ts) :
      CteForm d F ⟨⟨i, columns⟩, q, none, materialized⟩
        (.word i.word :: cs ++ .keyword "AS" :: ms ++ .symbol .lParen :: ts ++ [.symbol .rParen])

def recursiveTokens (recursive : Bool) : List Token :=
  if recursive then [.keyword "RECURSIVE"] else []

inductive WithForm (d : Dialect) (F : Forms) : Bool → List Cte → List Token → Prop
  | none : WithForm d F false [] []
  | tables {recursive : Bool} {ctes : List Cte} {ts : List Token}
      (h : Parser.Commas (CteForm d F) ctes ts)
      (unmerged : recursive = false → ∀ t ∈ ts.head?, t.key ≠ "RECURSIVE") :
      WithForm d F recursive ctes (.keyword "WITH" :: recursiveTokens recursive ++ ts)

def unitTokens : List (String × List Token) :=
  [("", []), (" ROW", [.keyword "ROW"]), (" ROWS", [.keyword "ROWS"])]

inductive OffsetForm (F : Forms) : List Piece → List Token → Prop
  | none : OffsetForm F [] []
  | some {e : Expr} {unit : String} {ts us : List Token} (h : F.expr 0 e ts)
      (counted : (unit, us) ∈ unitTokens) :
      OffsetForm F [.text " OFFSET ", .expr e, .text unit] (.keyword "OFFSET" :: ts ++ us)

inductive QueryForm (d : Dialect) (F : Forms) : Query → List Token → Prop
  | mk {recursive : Bool} {ctes : List Cte} {body : Body} {orderBy : List OrderKey}
      {limit : Option Expr} {tail : List Piece} {ws bs os ls fs : List Token}
      (common : WithForm d F recursive ctes ws) (rows : BodyForm d F 0 body bs)
      (sorted : ListForm [.keyword "ORDER", .keyword "BY"] (KeyForm F) orderBy os)
      (limited : ClauseForm [.keyword "LIMIT"] (F.expr 0) limit ls)
      (skipped : OffsetForm F tail fs) :
      QueryForm d F { recursive, ctes, body, orderBy, interpolate := [], limit, tail }
        (ws ++ bs ++ os ++ ls ++ fs)

namespace Forms

def none : Forms := ⟨fun _ _ _ => False, fun _ _ => False⟩

def next (F : Forms) (d : Dialect) : Forms := ⟨ExprForm d F, QueryForm d F⟩

/-- What nests at most as deep as the parsers do that are cut off at this depth. -/
def within (d : Dialect) : (depth : Nat) → Forms
  | 0 => none
  | depth + 1 => next (within d depth) d

end Forms

inductive AssignmentForm (d : Dialect) (F : Forms) : List Piece → List Token → Prop
  | mk {n : Name} {e : Expr} {ts : List Token} (nonempty : n ≠ [])
      (target : ∀ i ∈ n, Lexer.RereadsName d i) (h : F.expr 0 e ts) :
      AssignmentForm d F [.text (Name.spelling n ++ " = "), .expr e]
        (Name.tokens n ++ .symbol .eq :: ts)

/-- A table by itself, which no join continues. -/
inductive LoneForm (d : Dialect) (F : Forms) : TableWithJoins → List Token → Prop
  | mk {relation : TableFactor} {ts : List Token} (h : FactorForm d F relation ts) :
      LoneForm d F ⟨relation, []⟩ ts

/-- Tables that rows are deleted from, and tables that these rows are told by. Behind a join `USING`
starts a list of columns. -/
inductive TargetsForm (d : Dialect) (F : Forms) :
    List TableWithJoins → List TableWithJoins → List Token → Prop
  | alone {targets : List TableWithJoins} {ts : List Token}
      (h : Parser.Commas (TableForm d F) targets ts) : TargetsForm d F targets [] ts
  | sourced {targets sources : List TableWithJoins} {ts us : List Token}
      (h : Parser.Commas (LoneForm d F) targets ts)
      (source : Parser.Commas (TableForm d F) sources us) :
      TargetsForm d F targets sources (ts ++ .keyword "USING" :: us)

inductive NameForm (d : Dialect) : Name → List Token → Prop
  | mk {i : Ident} {n : Name} (first : IsPlainName d i) (others : ∀ j ∈ n, Lexer.RereadsName d j) :
      NameForm d (i :: n) (Name.tokens (i :: n))

inductive StatementForm (d : Dialect) (F : Forms) : Statement → List Token → Prop
  | query {q : Query} {ts : List Token} (h : F.query q ts) : StatementForm d F (.query q) ts
  | update {target : TableWithJoins} {changes : List (List Piece)} {source? : Option TableWithJoins}
      {condition : Option Expr} {ts us fs cs : List Token} (table : TableForm d F target ts)
      (changed : Parser.Commas (AssignmentForm d F) changes us)
      (source : ClauseForm [.keyword "FROM"] (TableForm d F) source? fs)
      (allowed : source? ≠ none → d ≠ .mysql)
      (tested : ClauseForm [.keyword "WHERE"] (F.expr 0) condition cs) :
      StatementForm d F
        (.update { target, assignments := .text " SET " :: commaPieces changes, source?, condition,
                   returning := [] })
        (.keyword "UPDATE" :: ts ++ .keyword "SET" :: us ++ fs ++ cs)
  | delete {named : List Name} {targets sources : List TableWithJoins} {condition : Option Expr}
      {ns ts cs : List Token} (chosen : ListForm [] (NameForm d) named ns)
      (allowed : named ≠ [] → d ≠ .generic) (table : TargetsForm d F targets sources ts)
      (tested : ClauseForm [.keyword "WHERE"] (F.expr 0) condition cs) :
      StatementForm d F
        (.delete { named, fromKeyword := true, targets, sources, condition, tail := [] })
        (.keyword "DELETE" :: ns ++ .keyword "FROM" :: ts ++ cs)

end RowFence.Sql
