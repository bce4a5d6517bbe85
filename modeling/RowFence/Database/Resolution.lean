import RowFence.Database.Function
import RowFence.Database.Token
import RowFence.Database.Scope

/-! Whether the names of an expression or a query have a meaning, and what its columns are. Nothing
is found for what a database refuses. -/

namespace RowFence.Database

structure Allowed where
  aggregates : Bool := false
  windows : Bool := false
  named : List String := []
  queries : Bool := true
  deriving DecidableEq, Repr

structure Result where
  name : String
  shape : Shape
  /-- Whether the name can be used for the column elsewhere in the query. -/
  isGiven : Bool
  spelling : String
  deriving DecidableEq, Repr

def single (s : Shape) : Option Shape := if s.width = 1 then some s else none

def combined (shapes : List Shape) : Option Shape :=
  if shapes.all (·.width = 1) then some ⟨1, shapes.any (·.isAggregate)⟩ else none

def compared (shapes : List Shape) : Option Shape :=
  match shapes with
  | [] => none
  | s :: _ =>
    if shapes.all (·.width = s.width) then some ⟨1, shapes.any (·.isAggregate)⟩ else none

def isTruthWord (name : String) : Bool := sameName name "true" || sameName name "false"

def Visible.starNames (v : Visible) : List String :=
  if v.onlyByName then [] else v.relation.columns.filter fun n => !hasName v.shared n

def starNames (sources : List Visible) : List String := sources.flatMap (·.starNames)

/-- Whether the name of a source tells its columns from all others. -/
def Visible.isClear (sources : List Visible) (v : Visible) : Bool :=
  v.name = "" || sources.length ≤ 1
    || v.starNames.all fun n => Level.findIn ⟨sources, []⟩ ⟨v.schema?, v.name⟩ n == .found {}

def starResults? (sources meant : List Visible) : Option (List Result) :=
  if !meant.isEmpty && meant.all (·.isClear sources) then
    some ((starNames meant).map fun n => ⟨n, {}, true, n⟩)
  else none

def unusedName (used : List String) (name : String) : (bound tries : Nat) → String
  | 0, _ => name
  | bound + 1, tries =>
    let candidate := if tries = 0 then name else name ++ ":" ++ toString tries
    if hasName used candidate then unusedName used name bound (tries + 1) else candidate

/-- Names for columns, no two the same. -/
def toldApart (names : List String) : List String :=
  names.foldl (fun used name => used ++ [unusedName used name (used.length + 1) 0]) []

structure Output where
  results : List Result
  level : Level
  allowed : Allowed
  isFilled : Bool
  deriving DecidableEq, Repr

namespace Output

def names (o : Output) : List String := o.results.map (·.name)

def relation (o : Output) : Relation where
  columns := toldApart o.names
  isFilled := o.isFilled

end Output

/-- What is left of an expression without the order of its texts. -/
def Expr.bare : Expr → Expr
  | .collated x => x.bare
  | x => x

def packed (spelling : String) : String :=
  lowered (.ofList (spelling.toList.filter (!Token.isBlank ·)))

def resultName (e : Expr) (name? : Option String) (spelling : String) : String × Bool :=
  match name?, e with
  | some name, _ => (name, true)
  | none, .column name _ => (name, false)
  | none, .columnOf _ name => (name, false)
  | none, _ => (spelling, false)

def Relation.renamed? (r : Relation) (columns : List String) : Option Relation :=
  if columns.isEmpty then some r
  else if columns.length = r.columns.length then some { r with columns }
  else none

/-- A new source beside those before it. Columns that they share are on both sides. -/
def sideBySide? (before these : List Visible) (isNatural : Bool) (shared : List String) :
    Option (List Visible) :=
  let left := before.filter (!·.onlyByName)
  let right := these.filter (!·.onlyByName)
  let common := if isNatural then
      (starNames left).filter fun n => 0 < Visible.matching right n
    else shared
  if common.all fun n => 0 < Visible.matching right n && Visible.matching left n = 1 then
    some (before ++ these.map fun v => { v with shared := common })
  else none

def hasTwice : List String → Bool
  | [] => false
  | name :: names => hasName names name || hasTwice names

def isNonzero : Expr → Bool
  | .integer n => n != 0
  | _ => false

def isZero : Expr → Bool
  | .integer n => n == 0
  | _ => false

def fills (sources : List Visible) (joins : List Joined) (condition : List Expr) : Bool :=
  condition.all isNonzero && sources.all (·.relation.isFilled)
    && joins.all fun j => j.condition.isEmpty && j.shared.isEmpty && !j.isNatural

def ordinal? (o : Output) (n : Nat) : Option Result := if n = 0 then none else o.results[n - 1]?

/-- What the queries of `WITH` come to. Each may use the others, so as many rounds are made as
there are queries. -/
def rounds (names : List String)
    (round : List (String × Option Relation) → List (String × Option Relation)) :
    List (String × Option Relation) :=
  names.foldl (fun known _ => round known) (names.map fun name => (name, none))

mutual

def Expr.shape? (e : Environment) (s : Scope) (a : Allowed) : Expr → Option Shape
  | .constant => some {}
  | .integer _ => some {}
  | .column name inDoubleQuotes =>
    match s.find name with
    | .found x => if x.isAggregate && !a.aggregates then none else some x
    | .ambiguous => none
    | .absent => if inDoubleQuotes || isTruthWord name then some {} else none
  | .columnOf table name =>
    match s.findIn table name with
    | .found x => some x
    | _ => none
  | .negative x => (x.shape? e s a).bind single
  | .collated x => (x.shape? e s a).bind single
  | .operator parts => (shapes? e s a parts).bind combined
  | .comparison parts => (shapes? e s a parts).bind compared
  | .row parts => do
    let x ← (shapes? e s a parts).bind combined
    return { x with width := parts.length }
  | .call function distinct arguments order filter window? => do
    let plain := { a with aggregates := false, windows := false }
    match ← Function.kindOf? (lowered function) arguments.length, window? with
    | .scalar, none =>
      if !(order.isEmpty && filter.isEmpty) then none
      (shapes? e s a arguments).bind combined
    | .aggregate, none =>
      if !a.aggregates || (distinct && arguments.length != 1) then none
      let _ ← (shapes? e s plain (arguments)).bind combined
      let _ ← (shapes? e s plain order).bind combined
      let _ ← (shapes? e s plain filter).bind combined
      return { isAggregate := true }
    | .window, none | .scalar, some _ => none
    | kind, some window =>
      if !a.windows || distinct || !order.isEmpty then none
      if kind = .window && !filter.isEmpty then none
      let inner := { a with windows := false }
      let x ← (shapes? e s inner arguments).bind combined
      let _ ← (shapes? e s plain filter).bind combined
      let y ← window.shape? e s inner
      return ⟨1, x.isAggregate || y.isAggregate⟩
  | .subquery q => do
    if !a.queries then none
    let r ← q.relation? e s
    return { width := r.columns.length }
  | .exists q => do
    if !a.queries then none
    let _ ← q.relation? e s
    return {}
  | .member _ (.list []) => some {}
  | .member x among => do
    let left ← x.shape? e s a
    let right ← among.shape? e s a
    compared [left, right]
  | .stop _ => none

def shapes? (e : Environment) (s : Scope) (a : Allowed) : List Expr → Option (List Shape)
  | [] => some []
  | x :: xs => do
    let first ← x.shape? e s a
    return first :: (← shapes? e s a xs)

def Collection.shape? (e : Environment) (s : Scope) (a : Allowed) : Collection → Option Shape
  | .list es => do
    let shapes ← shapes? e s a es
    let x ← compared shapes
    return { x with width := (shapes.head?.map (·.width)).getD 1 }
  | .query q => do
    if !a.queries then none
    let r ← q.relation? e s
    return { width := r.columns.length }
  | .table path arguments? => do
    if !a.queries then none
    let (_, r) ← e.source? path
    let _ ← optionalShapes? e s a arguments?
    return { width := r.columns.length }

def optionalShapes? (e : Environment) (s : Scope) (a : Allowed) :
    Option (List Expr) → Option Shape
  | none => some {}
  | some es => (shapes? e s a es).bind combined

def Window.shape? (e : Environment) (s : Scope) (a : Allowed) : Window → Option Shape
  | .named name => if hasName a.named name then some {} else none
  | .given base? parts =>
    if base?.all (hasName a.named) then (shapes? e s a parts).bind combined else none

def Query.relation? (e : Environment) (s : Scope) : Query → Option Relation
  | { ctes, arms, orderBy, limit } => do
    if hasTwice (ctes.map (·.name)) then none
    let e := e.withQueries
      (rounds (ctes.map (·.name)) fun known => cteRound (e.withQueries known) s ctes)
    match ← outputs? e s arms with
    | [] => none
    | first :: others =>
      if !(others.all fun o => o.results.length = first.results.length) then none
      ordered? e (first :: others) orderBy
      let _ ← (shapes? e [] {} limit).bind combined
      let isFilled := (first :: others).any (·.isFilled) && !limit.head?.any isZero
      return { first.relation with isFilled }

/-- The queries of `WITH`, if those found so far are what they use. A query may use its own rows
behind its first arm. -/
def cteRound (e : Environment) (s : Scope) : List Cte → List (String × Option Relation)
  | [] => []
  | { name, columns, query } :: cs =>
    let first? := do (← query.firstArm? (e.withQueries [(name, none)]) s).renamed? columns
    let inner := e.withQueries [(name, first?)]
    let all? := do (← query.relation? inner s).renamed? columns
    (name, all?) :: cteRound e s cs

def Query.firstArm? (e : Environment) (s : Scope) : Query → Option Relation
  | { ctes, arms, .. } =>
    firstOutput? (e.withQueries
      (rounds (ctes.map (·.name)) fun known => cteRound (e.withQueries known) s ctes)) s arms

def firstOutput? (e : Environment) (s : Scope) : List Arm → Option Relation
  | first :: _ :: _ => (first.output? e s).map (·.relation)
  | _ => none

def outputs? (e : Environment) (s : Scope) : List Arm → Option (List Output)
  | [] => some []
  | x :: xs => do
    let first ← x.output? e s
    return first :: (← outputs? e s xs)

def Arm.output? (e : Environment) (s : Scope) : Arm → Option Output
  | .rows rows => do
    let width ← rowsWidth? e s rows
    let results := (List.range width).map fun i =>
      let name := "column" ++ toString (i + 1)
      (⟨name, {}, false, name⟩ : Result)
    return ⟨results, ⟨[], []⟩, {}, true⟩
  | .select items joins condition groupBy having windows => do
    let sources ← sources? e s [] joins
    let named := windows.map (·.name)
    let all : Allowed := { aggregates := true, windows := true, named }
    let results ← results? e (⟨sources, []⟩ :: s) all sources items
    let isAggregate := !groupBy.isEmpty || results.any (·.shape.isAggregate)
    let given := (results.filter (·.isGiven)).map fun r => (r.name, r.shape)
    let level : Level := ⟨sources, given⟩
    let output : Output := ⟨results, level, { all with aggregates := isAggregate }, false⟩
    joinsHold? e (level :: s) joins
    let _ ← (shapes? e (level :: s) {} condition).bind combined
    grouped? e output groupBy
    if !having.isEmpty && !isAggregate then none
    let _ ← (shapes? e (level :: s) { all with windows := false } having).bind combined
    windowsHold? e (⟨sources, []⟩ :: s) { all with windows := false } windows
    let oneRow := groupBy.isEmpty && isAggregate
    return { output with
      isFilled := having.isEmpty && (oneRow || fills sources joins condition) }

def rowsWidth? (e : Environment) (s : Scope) : List (List Expr) → Option Nat
  | [] => none
  | [row] => do
    let _ ← (shapes? e s { aggregates := true, windows := true } row).bind combined
    return row.length
  | row :: rows => do
    let _ ← (shapes? e s {} row).bind combined
    if (← rowsWidth? e s rows) = row.length then return row.length else none

def windowsHold? (e : Environment) (s : Scope) (a : Allowed) : List NamedWindow → Option Unit
  | [] => some ()
  | { window, .. } :: ws => do
    let _ ← window.shape? e s a
    windowsHold? e s a ws

def results? (e : Environment) (s : Scope) (a : Allowed) (sources : List Visible) :
    List Item → Option (List Result)
  | [] => some []
  | .all :: is => do
    return (← starResults? sources sources) ++ (← results? e s a sources is)
  | .allOf table :: is => do
    let meant := sources.filter fun v => sameName v.name table
    return (← starResults? sources meant) ++ (← results? e s a sources is)
  | .expr x name? spelling :: is => do
    let shape ← (x.shape? e s a).bind single
    let (name, isGiven) := resultName x name? spelling
    return ⟨name, shape, isGiven, spelling⟩ :: (← results? e s a sources is)

def sources? (e : Environment) (s : Scope) (before : List Visible) :
    List Joined → Option (List Visible)
  | [] => some before
  | { isNatural, source, shared, .. } :: js => do
    let these ← source.visible? e s
    sources? e s (← sideBySide? before these isNatural shared) js

def Source.visible? (e : Environment) (s : Scope) : Source → Option (List Visible)
  | .table path arguments? alias? index? => do
    let (schema?, r) ← e.source? path
    if arguments?.any fun es => r.hidden.length < es.length then none
    if !index?.all fun index => schema?.isSome && e.isIndex index path then none
    return [{ schema?, name := alias?.getD path.name, relation := r }]
  | .query q alias? => do
    let r ← q.relation? e s
    return [{ schema? := none, name := alias?.getD "", relation := r }]
  | .group inner alias? => do
    let sources ← sources? e s [] inner
    joinsHold? e (⟨sources, []⟩ :: s) inner
    match alias? with
    | none => return sources
    | some name =>
      return { schema? := none, name, relation := { columns := starNames sources } }
        :: sources.map fun v => { v with onlyByName := true }

def joinsHold? (e : Environment) (s : Scope) : List Joined → Option Unit
  | [] => some ()
  | { source, condition, .. } :: js => do
    source.argumentsHold? e s
    let _ ← (shapes? e s {} condition).bind combined
    joinsHold? e s js

def Source.argumentsHold? (e : Environment) (s : Scope) : Source → Option Unit
  | .table _ arguments? _ _ => (optionalShapes? e s {} arguments?).map fun _ => ()
  | .query .. => some ()
  | .group .. => some ()

/-- Whether a query can be grouped by expressions. A number means a result. -/
def grouped? (e : Environment) (o : Output) : List Expr → Option Unit
  | [] => some ()
  | x :: xs => do
    let shape ← x.shape? e [o.level] {}
    let shape ← match x.bare with
      | .integer n => (ordinal? o n).map (·.shape)
      | _ => single shape
    if shape.isAggregate then none
    grouped? e o xs

/-- Whether results can be ordered. A number means a result, and so does its name. The keys of
results that are put together are results themselves. -/
def ordered? (e : Environment) (outputs : List Output) : List OrderTerm → Option Unit
  | [] => some ()
  | { key, spelling } :: ts => do
    let isResult := match key.bare with
      | .integer n => outputs.any fun o => (ordinal? o n).isSome
      | .negative (.integer _) => false
      | .column name _ => outputs.any fun o => (o.level.result? name).isSome
      | _ => false
    let isOrdinal := match key.bare with
      | .integer _ | .negative (.integer _) => true
      | _ => false
    let meant := outputs.filter fun o => ((key.shape? e [o.level] o.allowed).bind single).isSome
    let isMatched := match outputs with
      | [_] => !meant.isEmpty
      | _ => meant.any fun o => o.results.any fun r =>
          sameName r.name (resultName key.bare none spelling).1
            || packed r.spelling = packed spelling
    if isResult || (!isOrdinal && isMatched) then ordered? e outputs ts else none

end

end RowFence.Database
