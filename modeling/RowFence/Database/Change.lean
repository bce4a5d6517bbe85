import RowFence.Database.Definition

/-! Statements that change the rows of a table. -/

namespace RowFence.Database

structure Effect where
  catalog : Catalog
  hasRow : Bool := false

namespace Target

/-- Rows are changed in tables only, not in those that keep what is in a database. -/
def table? (c : Catalog) (t : Target) : Option Table := do
  let table ← c.table? t.path
  if !(c.tables.any fun u => sameName u.schema table.schema && sameName u.name table.name) then none
  if !t.index?.all fun index => c.hasIndex index t.path then none
  return table

def visible (t : Target) (table : Table) : Visible :=
  { schema? := table.schema, name := t.alias?.getD t.path.name, relation := table.relation }

/-- Views can be changed where triggers do the work. -/
def view? (c : Catalog) (t : Target) : Option Table := do
  let v ← c.view? t.path
  if !(c.triggers.any fun g => g.isInstead && sameName g.schema v.schema && sameName g.table v.name)
  then none
  let stored ← c.names.stored? t.path
  return { schema := v.schema, name := v.name, columns := stored.relation.columns }

def changed? (c : Catalog) (t : Target) : Option Table := (t.table? c).or (t.view? c)

end Target

def assigned? (e : Environment) (s : Scope) (t : Table) : List Assignment → Option Unit
  | [] => some ()
  | ⟨columns, value⟩ :: others => do
    if !columns.all t.isWritable then none
    let shape ← value.shape? e s {}
    if shape.width != columns.length then none
    assigned? e s t others

def Upsert.hasKey (u : Upsert) (t : Table) : Bool :=
  u.target.isEmpty || t.keys.any (sameColumns (keyColumns u.target))
    || (t.hasRowNumber && (keyColumns u.target).all (hasName rowNumbers) && u.target.length = 1)

/-- Whether rows that are there already can be dealt with. Where no key tells of them, nothing is
done about them. -/
def upserted? (e : Environment) (visible : Visible) (t : Table) : List Upsert → Option Unit
  | [] => some ()
  | u :: us => do
    let excluded := { visible with schema? := none, name := "excluded", onlyByName := true }
    let s : Scope := [⟨[visible, excluded], []⟩]
    if !u.hasKey t then none
    let _ ← (shapes? e [⟨[visible], []⟩] {} (u.target ++ u.targetCondition)).bind combined
    if !t.keys.isEmpty then
      assigned? e s t u.assignments
      let _ ← (shapes? e s {} u.condition).bind combined
    upserted? e visible t us

def plainRow? (e : Environment) (q : Query) : Option Unit :=
  match q.arms with
  | [.rows [row]] => ((shapes? e [] {} row).bind combined).map fun _ => ()
  | _ => some ()

namespace Catalog

def withNames (c : Catalog) (ctes : List Cte) : Option Environment :=
  if hasTwice (ctes.map (·.name)) then none
  else
    let e := c.names
    some (e.withQueries
      (rounds (ctes.map (·.name)) fun known => cteRound (e.withQueries known) [] ctes))

def fill (c : Catalog) (t : Table) (isFilled : Bool) : Catalog :=
  { c with tables := c.tables.map fun u =>
      if sameName u.schema t.schema && sameName u.name t.name then { u with isFilled } else u }

def returned? (e : Environment) (visible : Visible) (items : List Item) : Option Bool := do
  if items.isEmpty then return false
  let _ ← results? e [⟨[visible], []⟩] {} [visible] items
  return true

def change? (c : Catalog) : Change → Option Effect
  | .insert ctes target columns source? upserts returning => do
    let e ← c.withNames ctes
    let t ← target.changed? c
    let visible := target.visible t
    if !columns.all t.isWritable then none
    let wanted := if columns.isEmpty then t.plainColumns.length else columns.length
    let isFilled ← match source? with
      | none => pure true
      | some q => do
        plainRow? e q
        let r ← q.relation? e []
        if r.columns.length != wanted then none
        pure r.isFilled
    upserted? e visible t upserts
    let returns ← returned? e visible returning
    return ⟨c.fill t (t.isFilled || isFilled), returns && isFilled⟩
  | .update ctes target assignments sources condition returning => do
    let e ← c.withNames ctes
    let t ← target.changed? c
    let visible := target.visible t
    let others ← sources? e [] [] sources
    let s : Scope := [⟨visible :: others, []⟩]
    joinsHold? e s sources
    assigned? e s t assignments
    let _ ← (shapes? e s {} condition).bind combined
    let returns ← returned? e visible returning
    return ⟨c, returns && fills (visible :: others) sources condition⟩
  | .delete ctes target condition returning => do
    let e ← c.withNames ctes
    let t ← target.changed? c
    let visible := target.visible t
    let _ ← (shapes? e [⟨[visible], []⟩] {} condition).bind combined
    let returns ← returned? e visible returning
    return ⟨c.fill t false, returns && fills [visible] [] condition⟩

end Catalog

end RowFence.Database
