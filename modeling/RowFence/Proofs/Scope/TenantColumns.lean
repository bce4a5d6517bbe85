import RowFence.Proofs.Meaning.Numbers
import RowFence.Proofs.Scope.ColumnNames
import RowFence.Proofs.Scope.TableFunctions

/-! Whether the column in the predicate of a table is the tenant column of this very table. It is, where
the alias of the table leaves the column its name, and the table shows where the predicate is put. The
names that an alias gives to columns, and the alias of a join around a table, are not looked at. -/

namespace RowFence.Scope

open Sql

namespace Item

variable {v : View} {placement : Placement} {i : Item}

lemma isNone_on?_outcome : (i.outcome v placement).on?.isNone = i.on?.isNone := by
  obtain ⟨factor, on?⟩ := i
  cases on? <;> rfl

lemma mem_conjuncts_outcome {p e : Expr} (hp : p ∈ i.predicates v)
    (h : (i.outcome v .joinCondition).on? = some e) : p ∈ conjuncts e := by
  obtain ⟨factor, on?⟩ := i
  cases on? with
  | none => cases h
  | some condition =>
    have he : (ownPredicates v factor).foldl conjoin (scopeExpr v condition).value = e :=
      Option.some.inj h
    rw [← he, conjuncts_foldl_conjoin fun q hq => conjuncts_ownPredicates hq]
    exact List.mem_append_right _ hp

lemma pending_eq_predicates (h : placement = .statement ∨ i.on? = none) :
    i.pending v placement = i.predicates v := by
  rcases h with rfl | hnone
  · rfl
  · cases placement with
    | statement => rfl
    | joinCondition => rw [pending, hnone]; rfl

end Item

namespace FromClause

variable (R : Reading)

def standings (f : FromClause) : List Standing := (tablesTree f.tables).standings R [] none true

/-- What a condition sees at the place of a predicate, and the condition. -/
def slot (f : FromClause) (x : Standing) : List Range × Option Expr :=
  match f.placement, x.on? with
  | .joinCondition, some (seen, e) => (seen, some e)
  | _, _ => ((tablesTree f.tables).ranges R [], f.condition)

variable {R} {f : FromClause} {x : Standing}

lemma bases_standings (f : FromClause) :
    bases ((f.standings R).map Standing.item) = bases f.items := by
  rw [standings, Tree.map_item_standings, Option.map_none, bases_tablesTree, items]

lemma item_mem_items (hx : x ∈ f.standings R) (hbase : isBase x.factor = true) : x.item ∈ f.items := by
  have hmem : x.item ∈ bases ((f.standings R).map Standing.item) :=
    List.mem_filter.mpr ⟨List.mem_map_of_mem hx, hbase⟩
  rw [bases_standings] at hmem
  exact (List.mem_filter.mp hmem).1

/-- The place of a predicate is the ON of the join if the table shows there, and the condition of the
whole clause otherwise. -/
lemma slot_cases (f : FromClause) (x : Standing) :
    (∃ seen e, f.placement = .joinCondition ∧ x.on? = some (seen, e) ∧
      f.slot R x = (seen, some e)) ∨
    ((f.placement = .statement ∨ x.on? = none) ∧
      f.slot R x = ((tablesTree f.tables).ranges R [], f.condition)) := by
  unfold slot
  cases hplacement : f.placement with
  | statement => exact .inr ⟨.inl rfl, rfl⟩
  | joinCondition =>
    cases hon : x.on? with
    | none => exact .inr ⟨.inr rfl, rfl⟩
    | some s => exact .inl ⟨s.1, s.2, rfl, rfl, rfl⟩

/-- The table is among the ranges at its slot just in case the slot is its ON or the table shows in the
clause. -/
lemma range_mem_slot (hx : x ∈ f.standings R) :
    ((f.placement = .joinCondition ∧ x.on?.isSome = true) ∨ x.shows = true →
        x.range R ∈ (f.slot R x).1) ∧
      ((∃ r ∈ (f.slot R x).1, r.place = x.place) →
        (f.placement = .joinCondition ∧ x.on?.isSome = true) ∨ x.shows = true) := by
  obtain ⟨hmem, hshown⟩ := Tree.shows_iff hx
  obtain ⟨seen, e, hplacement, hon, hslot⟩ | ⟨helsewhere, hslot⟩ := f.slot_cases (R := R) x
  · rw [hslot]
    have hrange : x.range R ∈ seen :=
      Tree.range_mem_of_on? (fun s hs => absurd hs (Option.not_mem_none s)) hx hon
    exact ⟨fun _ => hrange, fun _ => .inl ⟨hplacement, by rw [hon]; rfl⟩⟩
  · rw [hslot]
    refine ⟨fun h => ?_, fun hr => .inr (hshown rfl hr)⟩
    rcases h with ⟨hplacement, hon⟩ | hshows
    · rcases helsewhere with hstatement | hnone
      · rw [hstatement] at hplacement
        cases hplacement
      · rw [hnone] at hon
        cases hon
    · exact (hmem hshows).2

/-- At its slot, a column of a table goes by the name of the table just in case the table shows there and
its alias leaves the column its name. -/
lemma denotes?_slot_iff (hx : x ∈ f.standings R)
    (hname : qualifier (factorName x.factor) (factorAlias? x.factor) ≠ [])
    (hapart : (f.slot R x).1.Pairwise Range.Apart) {column : Ident} {i : Nat}
    (h : position? (R.column column) (R.columns x.factor) = some i) (levels : List (List Range)) :
    R.denotes? ((f.slot R x).1 :: levels) (qualifier (factorName x.factor) (factorAlias? x.factor))
        column = some ⟨0, x.place, i⟩ ↔
      ((f.placement = .joinCondition ∧ x.on?.isSome = true) ∨ x.shows = true) ∧
        R.Leaves (factorAlias? x.factor) column i := by
  obtain ⟨hmem, hshows⟩ := range_mem_slot hx
  constructor
  · intro hdenotes
    have hshown := hshows (exists_range_of_resolve? hdenotes)
    exact ⟨hshown, (denotes?_range_iff R hapart (hmem hshown) hname h levels).mp hdenotes⟩
  · rintro ⟨hshown, hleaves⟩
    exact (denotes?_range_iff R hapart (hmem hshown) hname h levels).mpr hleaves

/-- A predicate that a table needs is in the condition at its slot. -/
lemma mem_slot_of_predicates {i : Item} (hi : i ∈ f.items)
    (hx : x.item = i.outcome f.view f.placement) {p : Expr} (hp : p ∈ i.predicates f.view) :
    p ∈ conjunctsOf (f.outcome.slot R x).2 := by
  have hon : x.on?.map (·.2) = (i.outcome f.view f.placement).on? := congrArg Item.on? hx
  obtain ⟨seen, e, hplacement, hsome, hslot⟩ | ⟨helsewhere, hslot⟩ := f.outcome.slot_cases (R := R) x
  · have hjoin : f.placement = .joinCondition := hplacement
    rw [hsome, hjoin] at hon
    rw [hslot]
    exact List.mem_append_left _ (Item.mem_conjuncts_outcome hp hon.symm)
  · have hpending : i.pending f.view f.placement = i.predicates f.view := by
      refine Item.pending_eq_predicates (helsewhere.imp id fun hnone => ?_)
      rw [hnone] at hon
      rw [← Option.isNone_iff_eq_none, ← Item.isNone_on?_outcome, ← hon]
      rfl
    rw [hslot, f.conjuncts_outcome]
    exact List.mem_append_right _ (List.mem_flatMap.mpr ⟨i, hi, by rwa [hpending]⟩)

end FromClause

/-- Scoping leaves the name and the alias of a table as they are. -/
lemma predicates_of_outcome {v : View} {placement : Placement} {i : Item} {name : Name}
    {arguments hints : List Piece} {alias? : Option TableAlias}
    (h : (i.outcome v placement).factor = .base name arguments alias? hints) :
    i.predicates v = v.predicates name alias? := by
  obtain ⟨factor, on?⟩ := i
  cases factor with
  | base name' arguments' alias' hints' =>
    obtain ⟨rfl, -, rfl, -⟩ := TableFactor.base.inj h
    exact ownPredicates_base v name' arguments' hints' alias'
  | derived lateral q alias? => cases h
  | nested inner alias? => cases h
  | other pieces alias? tail => cases h

/-- In the FROM clauses of scoped statements, at every depth, a named table that is not exempt has its
predicate at one of two places. Where the names of the ranges do not conflict, the column in the
predicate is the tenant column of the table just in case the table shows at this place and its alias
leaves the column its name. A table always shows in the ON of its own join; in the condition it does
not, if it stands in a join with an alias or on the side that a semi join drops. -/
theorem denotes_tenantColumn_iff (R : Reading) (v : View) (ss : List Statement) :
    fromClauses v (scopeStatements v ss).value = (fromClauses v ss).map FromClause.outcome ∧
      ∀ f ∈ fromClauses v ss,
        bases ((f.outcome.standings R).map Standing.item) = bases f.outcome.items ∧
        ∀ x ∈ f.outcome.standings R, ∀ name arguments alias? hints,
          x.factor = .base name arguments alias? hints → name ≠ [] → f.view.exempts name = false →
          let column : Ident := ⟨f.view.policy.tenantColumn, none⟩
          let slot := f.outcome.slot R x
          .binary (.name (qualifier name alias? ++ [column])) .eq (.value f.view.tenant.spelling) ∈
              conjunctsOf slot.2 ∧
            ∀ levels i, slot.1.Pairwise Range.Apart →
              position? (R.column column) (R.columns x.factor) = some i →
              (R.denotes? (slot.1 :: levels) (qualifier name alias?) column = some ⟨0, x.place, i⟩ ↔
                ((f.placement = .joinCondition ∧ x.on?.isSome = true) ∨ x.shows = true) ∧
                  R.Leaves alias? column i) := by
  refine ⟨fromClauses_scopeStatements v ss, fun f _ => ⟨FromClause.bases_standings _, ?_⟩⟩
  rintro ⟨_, place, on?, shows⟩ hx name arguments alias? hints rfl hname hexempt column slot
  have hmem := FromClause.item_mem_items hx rfl
  rw [f.items_outcome] at hmem
  obtain ⟨i, hi, hitem⟩ := List.mem_map.mp hmem
  constructor
  · refine FromClause.mem_slot_of_predicates hi hitem.symm ?_
    rw [predicates_of_outcome (congrArg Item.factor hitem), View.predicates, hexempt]
    cases alias? <;> exact List.mem_singleton_self _
  · intro levels index hapart hposition
    have hqualifier : qualifier name alias? ≠ [] := by
      cases alias? with
      | none => exact hname
      | some a => exact List.cons_ne_nil _ _
    exact FromClause.denotes?_slot_iff hx hqualifier hapart hposition levels

section Shop

open Meaning.Numbers (columnOf equal join selectAll)

/-- Orders have a number and a tenant, and items the number of an order and a tenant. -/
def shopReading : Reading where
  table := Ident.folded
  column := Ident.folded
  columns
    | .base [⟨"orders", none⟩] .. => ["id", "tenant_id"]
    | .base [⟨"items", none⟩] .. => ["order_id", "tenant_id"]
    | _ => []

def shopView : View := ⟨.usualEnabled, .one, []⟩

def ordersAs (alias? : Option TableAlias) : TableFactor := .base [⟨"orders", none⟩] [] alias? []

def withItems (orders : TableFactor) (name : String) : TableWithJoins :=
  ⟨orders, [join .inner (.base [⟨"items", none⟩] [] none [])
    (equal (columnOf name "id") (columnOf "items" "order_id"))]⟩

def renamed (columns : List String) : TableAlias :=
  ⟨⟨"o", none⟩, columns.map fun column => ⟨column, none⟩⟩

def joinedOrders : FromClause where
  view := shopView
  placement := .joinCondition
  tables := [withItems (ordersAs (some (renamed ["id", "TENANT_ID"]))) "o"]
  condition := none

/-- The alias gives the tenant column the name that it has. -/
theorem denotes_tenantColumn_joined :
    ∃ o i, joinedOrders.outcome.standings shopReading = [o, i] ∧
      shopReading.denotes? [(joinedOrders.outcome.slot shopReading o).1] [⟨"o", none⟩]
        ⟨"tenant_id", none⟩ = some ⟨0, o.place, 1⟩ ∧
      shopReading.denotes? [(joinedOrders.outcome.slot shopReading i).1] [⟨"items", none⟩]
        ⟨"tenant_id", none⟩ = some ⟨0, i.place, 1⟩ := by
  have hclause : joinedOrders ∈ fromClauses shopView [.query (selectAll joinedOrders.tables none)] :=
    List.mem_append_right _ (List.mem_singleton_self _)
  obtain ⟨-, hnames⟩ := (denotes_tenantColumn_iff shopReading shopView
    [.query (selectAll joinedOrders.tables none)]).2 joinedOrders hclause
  refine ⟨_, _, rfl, ?_, ?_⟩
  · have horders := hnames _ List.mem_cons_self [⟨"orders", none⟩] [] _ [] rfl (by decide) (by decide)
    have hcolumn : position? (shopReading.column ⟨"tenant_id", none⟩) ["id", "tenant_id"] =
        some 1 := by decide
    exact (horders.2 [] 1 (by decide) hcolumn).mpr
      ⟨.inr rfl, (position?_renamed_iff shopReading _ hcolumn).mp (by decide)⟩
  · have hitems := hnames _ (List.mem_cons_of_mem _ List.mem_cons_self) [⟨"items", none⟩] [] none [] rfl
      (by decide) (by decide)
    exact (hitems.2 [] 1 (by decide) (by decide)).mpr ⟨.inl ⟨rfl, rfl⟩, nofun⟩

def swappedOrders : FromClause where
  view := shopView
  placement := .joinCondition
  tables := [⟨ordersAs (some (renamed ["tenant_id", "id"])), []⟩]
  condition := none

def wrappedOrders : FromClause where
  view := shopView
  placement := .joinCondition
  tables := [⟨.nested (withItems (ordersAs none) "orders") (some ⟨⟨"j", none⟩, []⟩), []⟩]
  condition := none

/-- The alias swaps the names of two columns, and the predicate compares the number. With an alias
around the join, the predicate on the orders has nothing to refer to. -/
theorem denotes_tenantColumn_swapped :
    let swapped := "SELECT * FROM orders AS o (tenant_id, id)"
    let wrapped := "SELECT * FROM (orders JOIN items ON orders.id = items.order_id) AS j"
    let result := fun sql => (Policy.usualEnabled.scopedText (some .one) sql).toOption
    spellStatements [.query (selectAll swappedOrders.tables none)] = swapped ∧
    result swapped = some (swapped ++ " WHERE o.tenant_id = 1") ∧
    (∃ x, swappedOrders.outcome.standings shopReading = [x] ∧
      position? "tenant_id" (shopReading.columns x.factor) = some 1 ∧
      shopReading.denotes? [(swappedOrders.outcome.slot shopReading x).1] [⟨"o", none⟩]
        ⟨"tenant_id", none⟩ = some ⟨0, x.place, 0⟩) ∧
    spellStatements [.query (selectAll wrappedOrders.tables none)] = wrapped ∧
    result wrapped =
      some ("SELECT * FROM (orders JOIN items ON orders.id = items.order_id AND items.tenant_id = 1) "
        ++ "AS j WHERE orders.tenant_id = 1") ∧
    ∃ x i, wrappedOrders.outcome.standings shopReading = [x, i] ∧
      shopReading.denotes? [(wrappedOrders.outcome.slot shopReading x).1] [⟨"orders", none⟩]
        ⟨"tenant_id", none⟩ = none := by
  refine ⟨by decide +kernel, by decide +kernel, ⟨_, rfl, by decide, by decide⟩, by decide +kernel,
    by decide +kernel, ?_⟩
  exact ⟨_, _, rfl, by decide⟩

end Shop

end RowFence.Scope
