import RowFence.Database.Catalog

/-! Tables from their definitions. -/

namespace RowFence.Database

def keyColumns : List Expr → List String
  | [] => []
  | .column name _ :: es => name :: keyColumns es
  | .collated (.column name _) :: es => name :: keyColumns es
  | _ :: es => keyColumns es

def sameColumns (as bs : List String) : Bool :=
  as.all (hasName bs) && bs.all (hasName as)

mutual

/-- Whether a value can be told without a row. Which functions there are does not matter. -/
def Expr.isConstant : Expr → Bool
  | .constant => true
  | .integer _ => true
  | .column name inDoubleQuotes => !inDoubleQuotes && isTruthWord name
  | .columnOf .. => false
  | .negative x => x.isConstant
  | .collated x => x.isConstant
  | .operator parts => areConstant parts
  | .comparison parts => areConstant parts
  | .row _ => false
  | .call _ _ arguments order filter window? =>
    areConstant arguments && order.isEmpty && filter.isEmpty && window?.isNone
  | .subquery _ => false
  | .exists _ => false
  | .member .. => false
  | .stop _ => false

def areConstant : List Expr → Bool
  | [] => true
  | x :: xs => x.isConstant && areConstant xs

end

def strictTypes : List String := ["INT", "INTEGER", "REAL", "TEXT", "BLOB", "ANY"]

def isIntegerKey (type : List String) : Bool :=
  match type with
  | [word] => sameName word "INTEGER"
  | _ => false

def TableDef.keys (d : TableDef) : List (List String) :=
  (d.columns.filter fun c => c.isKey || c.isUnique).map (fun c => [c.name])
    ++ d.rules.filterMap fun
      | .key columns _ | .unique columns => some (keyColumns columns)
      | _ => none

def TableDef.mainKeys (d : TableDef) : List (List String) :=
  (d.columns.filter (·.isKey)).map (fun c => [c.name])
    ++ d.rules.filterMap fun
      | .key columns _ => some (keyColumns columns)
      | _ => none

def TableDef.counts (d : TableDef) : Bool :=
  d.columns.any (·.isAutoincrement) || d.rules.any fun
    | .key _ isAutoincrement => isAutoincrement
    | _ => false

def TableDef.hasIntegerKey (d : TableDef) : Bool :=
  match d.mainKeys with
  | [[name]] => d.columns.any fun c => sameName c.name name && isIntegerKey c.type
  | _ => false

def ruleHolds (e : Environment) (s : Scope) (a : Allowed) (names : List String) : TableRule → Bool
  | .key columns _ | .unique columns =>
    (keyColumns columns).length = columns.length && (keyColumns columns).all (hasName names)
  | .check x => ((x.shape? e s a).bind single).isSome
  | .foreign columns others =>
    columns.all (hasName names) && (others.isEmpty || others.length = columns.length)

def TableDef.table? (e : Environment) (path : Path) (d : TableDef) : Option Table := do
  let names := d.columns.map (·.name)
  let generated := (d.columns.filter (·.isGenerated)).map (·.name)
  let table : Table := {
    schema := path.schema?.getD "main", name := path.name, columns := names, generated
    keys := d.keys, hasRowNumber := !d.withoutRowNumber }
  let s : Scope := [⟨[⟨none, path.name, table.relation, [], false⟩], []⟩]
  let plain : Allowed := { queries := false }
  if hasTwice names || generated.length = names.length then none
  let _ ← (shapes? e s plain (d.columns.flatMap (·.checks))).bind combined
  if !areConstant (d.columns.flatMap (·.default)) then none
  if !d.rules.all (ruleHolds e s plain names) then none
  if 1 < (d.mainKeys).length then none
  if d.withoutRowNumber && ((d.mainKeys).isEmpty || d.counts) then none
  if d.counts && !d.hasIntegerKey then none
  if d.isStrict && !d.columns.all (fun c => match c.type with
      | [word] => hasName strictTypes word
      | _ => false) then none
  return table

end RowFence.Database
