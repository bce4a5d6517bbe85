import Mathlib.Data.List.Perm.Subperm
import RowFence.Proofs.Meaning.Lookup
import RowFence.Proofs.Meaning.Numbers
import RowFence.Proofs.Meaning.Pending

/-! What a scoped UPDATE or DELETE leaves of a database. A row is changed only when it takes part in
a joined row for which the condition is true; rows of other tenants never do. -/

namespace RowFence.Meaning

open Sql Scope

variable {V : Type}

def Statement.joins? : Statement → Option (List TableWithJoins × Option Expr)
  | .update u => some (u.target :: u.source?.toList, u.condition)
  | .delete d => some (d.targets ++ d.sources, d.condition)
  | _ => none

section Execution

variable (E : Engine V) (D : Store V)

/-- Whether a row with these values takes part in a write. -/
def TakesPart (tables : List TableWithJoins) (condition : Option Expr) (path : List String)
    (values : List V) : Prop :=
  ∃ f ∈ (E.fetch D [] [] (tablesPlan E (E.fetch D) [] tables)
      (optionTerm E (E.fetch D) [] condition)).rows,
    ∃ b ∈ f.items, b.stored = true ∧ Name.folded b.occurrence.name = path ∧ b.values = values

/-- What a database may be after an UPDATE or DELETE: rows that take no part in it are left. -/
def Executes (s : Statement) (D' : Store V) : Prop :=
  ∃ tables condition, Statement.joins? s = some (tables, condition) ∧
    ∀ path (rows : List (List V)), rows.Sublist (D path).rows →
      (∀ values ∈ rows, ¬ TakesPart E D tables condition path values) →
        rows.Subperm (D' path).rows

end Execution

def Layout.isOpen : Layout → Bool
  | .nested inner alias? => alias?.isNone && inner.isOpen
  | .join _ _ l r => l.isOpen && r.isOpen
  | _ => true

/-- Whether a table is not excluded where it stands in a layout, and keeps its column names. -/
def Layout.confines (p : Policy) (path : List String) (L : Layout) : Bool :=
  L.isOpen && isDistinct L.places && L.places.all fun o => Name.folded o.name != path ||
    (!p.excludesTable (Name.spelling o.name) && o.alias?.all (·.columns.isEmpty))

/-- A row of a FROM clause shows stored rows at places of the clause. -/
structure Shows (D : Store V) (v : View) (L : Layout) (f : Frame V) : Prop where
  places : (f.items.map (·.occurrence)).Sublist L.places
  columns : ∀ b ∈ f.items, b.stored = true →
    b.columns = renamedColumns b.occurrence.alias? (D (Name.folded b.occurrence.name)).columns
  pending : ∀ b ∈ f.items, b.stored = true → v.exempts b.occurrence.name = false →
    b.occurrence ∈ L.pending v .statement

section Shown

variable {D : Store V} {v : View} {L M : Layout} {f g : Frame V}

lemma Shows.mono (h : Shows D v L f) (hplaces : L.places.Sublist M.places)
    (hpending : L.pending v .statement ⊆ M.pending v .statement) : Shows D v M f :=
  ⟨h.places.trans hplaces, h.columns, fun b hb hs he => hpending (h.pending b hb hs he)⟩

lemma pending_join (op : JoinOp) (hasOn : Bool) : (Layout.join op hasOn L M).pending v .statement =
    L.pending v .statement ++ M.pending v .statement := by
  simp only [Layout.pending, takesTests, reduceCtorEq, decide_false, Bool.and_false, Bool.false_and,
    Bool.false_eq_true, if_false]

lemma Shows.join (op op' : JoinOp) (hasOn : Bool) (merge : Merge) (hf : Shows D v L f)
    (hg : Shows D v M g) : Shows D v (.join op hasOn L M) (.join op' merge f g) := by
  refine ⟨?_, fun b hb hs => ?_, fun b hb hs he => ?_⟩
  · rw [Frame.items, List.map_append]
    exact hf.places.append hg.places
  · obtain hb | hb := List.mem_append.mp hb
    · exact hf.columns b hb hs
    · exact hg.columns b hb hs
  · rw [pending_join, List.mem_append]
    obtain hb | hb := List.mem_append.mp hb
    · exact .inl (hf.pending b hb hs he)
    · exact .inr (hg.pending b hb hs he)

lemma Shows.left (op : JoinOp) (hasOn : Bool) (h : Shows D v L f) :
    Shows D v (.join op hasOn L M) f := by
  refine h.mono (List.sublist_append_left _ _) ?_
  rw [pending_join]
  exact List.subset_append_left _ _

lemma Shows.right (op : JoinOp) (hasOn : Bool) (h : Shows D v M f) :
    Shows D v (.join op hasOn L M) f := by
  refine h.mono (List.sublist_append_right _ _) ?_
  rw [pending_join]
  exact List.subset_append_right _ _

variable (E : Engine V)

lemma shows_placed {place : Occurrence} {stored : Bool} {columns : List String}
    {rows : List (List V)}
    (h : ∀ values, Shows D v L (.item ⟨place, stored, columns, values⟩)) :
    Shows D v L (E.placed place stored columns rows).blank ∧
      ∀ f ∈ (E.placed place stored columns rows).rows, Shows D v L f := by
  refine ⟨h _, fun f hf => ?_⟩
  obtain ⟨values, -, rfl⟩ := List.mem_map.mp hf
  exact h values

lemma shows_source (D : Store V) (v : View) (c : Common V) (env : Env V) (pl : Plan V)
    (hp : pl.layout.isOpen = true) (left : Frame V) :
    Shows D v pl.layout (E.source D c env pl left).blank ∧
      ∀ f ∈ (E.source D c env pl left).rows, Shows D v pl.layout f := by
  induction pl generalizing left with
  | unit =>
    have hempty : Shows D v .unit (.empty : Frame V) := ⟨List.Sublist.refl _, nofun, nofun⟩
    refine ⟨hempty, fun f hf => ?_⟩
    rw [List.mem_singleton.mp hf]
    exact hempty
  | base place access? =>
    refine shows_placed E fun values => ⟨List.Sublist.refl _, fun b hb hs => ?_, fun b hb _ he => ?_⟩
    · rw [List.mem_singleton.mp hb] at hs ⊢
      exact congrArg (fun table : Table V => renamedColumns place.alias? table.columns)
        (lookup_of_stored c D place.name hs)
    · rw [List.mem_singleton.mp hb] at he ⊢
      rw [Plan.layout, Layout.pending, he]
      exact List.mem_singleton_self place
  | derived lateral query alias? =>
    refine shows_placed E fun values => ⟨List.Sublist.refl _, fun b hb hs => ?_, fun b hb hs => ?_⟩
    all_goals
      rw [List.mem_singleton.mp hb] at hs
      exact absurd hs Bool.false_ne_true
  | nested inner alias? ih =>
    rw [Plan.layout, Layout.isOpen, Bool.and_eq_true, Option.isNone_iff_eq_none] at hp
    obtain ⟨rfl, hinner⟩ := hp
    obtain ⟨hblank, hrows⟩ := ih hinner left
    have hnested : ∀ f, Shows D v inner.layout f → Shows D v (.nested inner.layout none) f :=
      fun f h => h.mono (List.Sublist.refl _) (List.Subset.refl _)
    exact ⟨hnested _ hblank, fun f hf => hnested f (hrows f hf)⟩
  | join op matching link l r ihl ihr =>
    rw [Plan.layout, Layout.isOpen, Bool.and_eq_true] at hp
    exact E.joined_forall link (ihl hp.1 left) (fun f => ihr hp.2 _)
      (fun f g hf hg => hf.join op op link.hasOn link.merged hg)
      (fun _ => ⟨fun f hf => hf.left op link.hasOn, fun g hg => hg.right op link.hasOn⟩) matching

end Shown

lemma isDistinct_sublist {as bs : List Occurrence} (hs : as.Sublist bs)
    (h : isDistinct bs = true) : isDistinct as = true := by
  induction hs with
  | slnil => rfl
  | cons a hs ih => exact ih (isDistinct_cons h).2
  | cons_cons a hs ih =>
    obtain ⟨hapart, hrest⟩ := isDistinct_cons h
    rw [isDistinct, ih hrest, Bool.and_true, List.all_eq_true]
    exact fun b hb => hapart b (hs.subset hb)

lemma owns_of_mem_fetch (E : Engine V) {D : Store V} {c : Common V} {env : Env V} {v : View}
    {pl : Plan V} (hp : pl.layout.isOpen = true) (hd : isDistinct pl.layout.places = true)
    {condition : Option (Term V)} {f : Frame V}
    (hf : f ∈ (E.fetch D c env pl (E.extend condition
      ((pl.layout.pending v .statement).map (E.test v)))).rows)
    {b : Bound V} (hb : b ∈ f.items) (hs : b.stored = true)
    (he : v.exempts b.occurrence.name = false) (hname : b.occurrence.qualifier ≠ []) :
    E.owns v.policy v.tenant b.columns b.values = true := by
  obtain ⟨hsource, hholds⟩ := List.mem_filter.mp hf
  have hshows := (shows_source E D v c env pl hp .empty).2 f hsource
  rw [E.holds_extend, Bool.and_eq_true, List.all_map, List.all_eq_true] at hholds
  have htest := hholds.2 b.occurrence (hshows.pending b hb hs he)
  rw [← E.isTrue_test v (isDistinct_sublist hshows.places hd) hb hname [] env]
  exact htest

section Statements

variable (v : View)

lemma scopeTables_append (placement : Placement) (xs ys : List TableWithJoins) :
    (scopeTables v placement (xs ++ ys)).value =
      ((scopeTables v placement xs).value.1 ++ (scopeTables v placement ys).value.1,
        (scopeTables v placement xs).value.2 ++ (scopeTables v placement ys).value.2) := by
  induction xs with
  | nil => rfl
  | cons x xs ih =>
    simp only [List.cons_append, scopeTables, Counted.value_bind, Counted.value_pure, ih,
      List.append_assoc]

lemma scopeTables_toList (placement : Placement) (x? : Option TableWithJoins) :
    (scopeTables v placement x?.toList).value =
      ((scopeTableOption v placement x?).value.1.toList,
        (scopeTableOption v placement x?).value.2) := by
  cases x? with
  | none => rfl
  | some x =>
    simp only [Option.toList, scopeTables, scopeTableOption, Counted.value_bind, Counted.value_pure,
      List.append_nil]

lemma joins_scopeStatement {s : Statement} {tables : List TableWithJoins} {condition : Option Expr}
    (h : Statement.joins? s = some (tables, condition)) :
    Statement.joins? (scopeStatement v s).value =
      some ((scopeTables v .statement tables).value.1,
        extended (scopeOption v condition).value (scopeTables v .statement tables).value.2) := by
  cases s with
  | query q => cases h
  | other pieces => cases h
  | update u =>
    obtain ⟨rfl, rfl⟩ := Prod.mk.inj (Option.some.inj h)
    simp only [scopeStatement, scopeUpdate, Statement.joins?, scopeTables, scopeTables_toList,
      Counted.value_bind, Counted.value_pure]
  | delete d =>
    obtain ⟨rfl, rfl⟩ := Prod.mk.inj (Option.some.inj h)
    simp only [scopeStatement, scopeDelete, Statement.joins?, scopeTables_append,
      Counted.value_bind, Counted.value_pure]

end Statements

lemma owns_of_takesPart (E : Engine V) (D : Store V) (p : Policy) (t : TenantId)
    (tables : List TableWithJoins) (condition : Option Expr) {path : List String} (hpath : path ≠ [])
    (hc : (tablesLayout tables).confines p path = true) {values : List V}
    (h : TakesPart E D (scopeTables ⟨p, t, []⟩ .statement tables).value.1
      (extended condition (scopeTables ⟨p, t, []⟩ .statement tables).value.2) path values) :
    E.owns p t (D path).columns values = true := by
  obtain ⟨f, hf, b, hb, hs, rfl, rfl⟩ := h
  rw [Layout.confines, Bool.and_eq_true, Bool.and_eq_true, List.all_eq_true] at hc
  obtain ⟨⟨hopen, hd⟩, hplaces⟩ := hc
  rw [← layout_scopeTables ⟨p, t, []⟩ .statement, ← layout_tablesPlan E (E.fetch D) []]
    at hopen hd hplaces
  have hshows := (shows_source E D ⟨p, t, []⟩ [] [] _ hopen .empty).2 f (List.mem_filter.mp hf).1
  have hplace := hplaces b.occurrence (hshows.places.subset (List.mem_map_of_mem hb))
  rw [bne_self_eq_false, Bool.false_or, Bool.and_eq_true, Bool.not_eq_true'] at hplace
  have hcolumns := hshows.columns b hb hs
  rw [renamedColumns_eq hplace.2] at hcolumns
  have hexempt : View.exempts ⟨p, t, []⟩ b.occurrence.name = false := by
    rw [View.exempts, hplace.1, Bool.false_or, View.hides, List.contains_nil, Bool.and_false]
  have hname : b.occurrence.qualifier ≠ [] := by
    unfold Occurrence.qualifier
    split
    · exact List.cons_ne_nil _ _
    · exact fun hnil => hpath (congrArg Name.folded hnil)
  rw [pending_scopeTables, optionTerm_extended, exprTerm_predicatesAt,
    ← layout_scopeTables ⟨p, t, []⟩ .statement tables, ← layout_tablesPlan E (E.fetch D) []] at hf
  rw [← hcolumns]
  exact owns_of_mem_fetch E hopen hd hf hb hs hexempt hname

/-- After a scoped UPDATE or DELETE, the rows of other tenants are what they were. -/
theorem rows_subperm_of_executes {V : Type} (E : Engine V) (D D' : Store V) (p : Policy)
    (t : TenantId) (s : Statement) (tables : List TableWithJoins) (condition : Option Expr)
    (hs : Statement.joins? s = some (tables, condition))
    (h : Executes E D (scopeStatement ⟨p, t, []⟩ s).value D') (path : List String)
    (hpath : path ≠ []) (hc : (tablesLayout tables).confines p path = true) :
    ((D path).rows.filter (!E.owns p t (D path).columns ·)).Subperm (D' path).rows := by
  obtain ⟨tables', condition', hs', hkept⟩ := h
  rw [joins_scopeStatement ⟨p, t, []⟩ hs] at hs'
  obtain ⟨rfl, rfl⟩ := Prod.mk.inj (Option.some.inj hs')
  refine hkept path _ List.filter_sublist fun values hvalues hpart => ?_
  have howned := owns_of_takesPart E D p t tables _ hpath hc hpart
  rw [List.mem_filter, howned] at hvalues
  exact absurd hvalues.2 Bool.false_ne_true

section Shop

open Numbers

def deleteOrders : Delete where
  named := [[⟨"orders", none⟩]]
  fromKeyword := true
  targets := [⟨table "orders", [join .left (table "items")
    (equal (columnOf "items" "order_id") (columnOf "orders" "id"))]⟩]
  sources := []
  condition := none
  tail := []

def ordersBefore : Store Datum :=
  shop [[some 1, some 10, some 1], [some 2, some 10, some 2]] [[some 1, some 1]]

def ordersAfter : Store Datum := shop [[some 2, some 10, some 2]] [[some 1, some 1]]

lemma executes_deleteOrders : Executes engine ordersBefore
    (scopeStatement ⟨.usual, .one, []⟩ (.delete deleteOrders)).value ordersAfter := by
  refine ⟨_, _, rfl, fun path rows hrows hpart => ?_⟩
  by_cases hpath : path = ["orders"]
  · subst hpath
    obtain hrest | ⟨rest, rfl, -⟩ := List.sublist_cons_iff.mp hrows
    · exact hrest.subperm
    · refine absurd ?_ (hpart _ List.mem_cons_self)
      exact ⟨_, List.Mem.head _, _, List.Mem.head _, rfl, rfl, rfl⟩
  · rw [ordersBefore, shop_of_ne hpath] at hrows
    exact hrows.subperm

theorem rows_subperm_deleteOrders :
    let s := Statement.delete deleteOrders
    let layout := tablesLayout deleteOrders.targets
    Statement.joins? s = some (deleteOrders.targets, none) ∧
      Executes engine ordersBefore (scopeStatement ⟨.usual, .one, []⟩ s).value ordersAfter ∧
      ["orders"] ≠ [] ∧ layout.confines .usual ["orders"] = true ∧
      ((ordersBefore ["orders"]).rows.filter
        (!engine.owns .usual .one (ordersBefore ["orders"]).columns ·)).Subperm
          (ordersAfter ["orders"]).rows :=
  have hpath : ["orders"] ≠ [] := by decide
  have hc : (tablesLayout deleteOrders.targets).confines .usual ["orders"] = true := by decide
  ⟨rfl, executes_deleteOrders, hpath, hc, rows_subperm_of_executes engine _ _ .usual .one
    (.delete deleteOrders) deleteOrders.targets none rfl executes_deleteOrders ["orders"] hpath hc⟩

end Shop

end RowFence.Meaning
