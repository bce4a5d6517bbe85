import Mathlib.Tactic.Lemma
import RowFence.Proofs.Scope.Additions
import RowFence.Proofs.Sql.Respelling

/-! Scoping looks at no literal: statements with other literals, scoped to another tenant, differ in
these literals and in the tenant only. -/

namespace RowFence.Scope

open Sql

/-- The same result but for `r`, with as many predicates. -/
def Respells {α β : Type} (r : α → β) (m : Counted α) (m' : Counted β) : Prop :=
  m'.value = r m.value ∧ m'.added = m.added

namespace Respells

variable {α β γ δ : Type} {r : α → β} {q : γ → δ}

lemma pure {a : α} {b : β} (h : b = r a) : Respells r (Pure.pure a) (Pure.pure b) := ⟨h, rfl⟩

lemma bind {m : Counted α} {m' : Counted β} {k : α → Counted γ} {k' : β → Counted δ}
    (hm : Respells r m m') (hk : Respells q (k m.value) (k' (r m.value))) :
    Respells q (m >>= k) (m' >>= k') := by
  obtain ⟨hvalue, hadded⟩ := hm
  rw [← hvalue] at hk
  obtain ⟨hvalue', hadded'⟩ := hk
  refine ⟨hvalue', ?_⟩
  rw [Counted.added_bind, Counted.added_bind, hadded, hadded']

lemma counted (r : Expr → Expr) (ps : List Expr) :
    Respells (List.map r) (Scope.counted ps) (Scope.counted (ps.map r)) :=
  ⟨rfl, List.length_map r⟩

end Respells

def View.forTenant (v : View) (t : TenantId) : View := { v with tenant := t }

section Conditions

variable (f : String → String)

lemma hasLoose_respell (e : Expr) : hasLoose (e.respell f) = hasLoose e := by
  have hnodes : looseOperators ∘ Node.respell f = looseOperators := by
    funext n
    cases n with
    | expr e => cases e <;> rfl
    | table name alias? => rfl
    | given name => rfl
  rw [hasLoose, Expr.collect_respell, hnodes, hasLoose]

lemma grouped_respell (e : Expr) : grouped (e.respell f) = (grouped e).respell f := by
  have hloose := hasLoose_respell f e
  cases e with
  | nested e => rfl
  | _ =>
    simp only [Expr.respell] at hloose ⊢
    simp only [grouped, hloose]
    split <;> simp only [Expr.respell]

lemma conjoin_respell (e p : Expr) :
    conjoin (e.respell f) (p.respell f) = (conjoin e p).respell f := by
  rw [conjoin, grouped_respell, conjoin, Expr.respell]

lemma foldl_conjoin_respell (ps : List Expr) (e : Expr) :
    (ps.map (Expr.respell f)).foldl conjoin (e.respell f) = (ps.foldl conjoin e).respell f := by
  induction ps generalizing e with
  | nil => rfl
  | cons p ps ih => rw [List.map_cons, List.foldl_cons, conjoin_respell, ih, List.foldl_cons]

lemma extended_respell (ps : List Expr) (e? : Option Expr) :
    extended (respellOption f e?) (ps.map (Expr.respell f)) = respellOption f (extended e? ps) := by
  induction ps generalizing e? with
  | nil => cases e? <;> rfl
  | cons p ps ih =>
    cases e? with
    | none => exact ih (some p)
    | some e =>
      rw [List.map_cons, respellOption, extended, conjoin_respell]
      exact ih (some (conjoin e p))

lemma placed_respell (placement : Placement) (j : JoinConstraint) (ps : List Expr) :
    placed placement (j.respell f) (ps.map (Expr.respell f)) =
      ((placed placement j ps).1.respell f, (placed placement j ps).2.map (Expr.respell f)) := by
  cases placement with
  | statement => cases j <;> rfl
  | joinCondition =>
    cases j with
    | on e =>
      rw [JoinConstraint.respell, placed, foldl_conjoin_respell]
      rfl
    | shared columns => rfl
    | natural => rfl
    | none => rfl

lemma isBase_respell (t : TableFactor) : isBase (t.respell f) = isBase t := by
  cases t <;> rfl

variable {f}

lemma predicates_forTenant {v : View} {t : TenantId} (h : f v.tenant.spelling = t.spelling)
    (name : Name) (alias? : Option TableAlias) :
    (v.forTenant t).predicates name alias? = (v.predicates name alias?).map (Expr.respell f) := by
  have hexempts : (v.forTenant t).exempts name = v.exempts name := rfl
  unfold View.predicates
  rw [hexempts]
  split
  · rfl
  · simp only [List.map_singleton, tenantPredicate, Expr.respell, h]
    rfl

end Conditions

/-- A table, and the predicates that come with it. -/
def respellOwing {α : Type} (r : α → α) (f : String → String) : α × List Expr → α × List Expr :=
  Prod.map r (List.map (Expr.respell f))

section Syntax

variable {f : String → String} {t : TenantId}

mutual

lemma respells_scopeExpr (v : View) (h : f v.tenant.spelling = t.spelling) : (e : Expr) →
    Respells (Expr.respell f) (scopeExpr v e) (scopeExpr (v.forTenant t) (e.respell f))
  | .name _ => .pure rfl
  | .value _ => .pure rfl
  | .binary l op r => by
    rw [Expr.respell, scopeExpr, scopeExpr]
    exact (respells_scopeExpr v h l).bind ((respells_scopeExpr v h r).bind (.pure rfl))
  | .nested e => by
    rw [Expr.respell, scopeExpr, scopeExpr]
    exact (respells_scopeExpr v h e).bind (.pure rfl)
  | .call g rest => by
    rw [Expr.respell, scopeExpr, scopeExpr]
    exact (respells_scopePieces v h rest).bind (.pure rfl)
  | .form pieces => by
    rw [Expr.respell, scopeExpr, scopeExpr]
    exact (respells_scopePieces v h pieces).bind (.pure rfl)

lemma respells_scopeExprs (v : View) (h : f v.tenant.spelling = t.spelling) : (es : List Expr) →
    Respells (respellExprs f) (scopeExprs v es) (scopeExprs (v.forTenant t) (respellExprs f es))
  | [] => .pure rfl
  | e :: es => by
    rw [respellExprs, scopeExprs, scopeExprs]
    exact (respells_scopeExpr v h e).bind ((respells_scopeExprs v h es).bind (.pure rfl))

lemma respells_scopeOption (v : View) (h : f v.tenant.spelling = t.spelling) :
    (e? : Option Expr) →
    Respells (respellOption f) (scopeOption v e?) (scopeOption (v.forTenant t) (respellOption f e?))
  | none => .pure rfl
  | some e => by
    rw [respellOption, scopeOption, scopeOption]
    exact (respells_scopeExpr v h e).bind (.pure rfl)

lemma respells_scopePiece (v : View) (h : f v.tenant.spelling = t.spelling) : (p : Piece) →
    Respells (Piece.respell f) (scopePiece v p) (scopePiece (v.forTenant t) (p.respell f))
  | .text _ => .pure rfl
  | .expr e => by
    rw [Piece.respell, scopePiece, scopePiece]
    exact (respells_scopeExpr v h e).bind (.pure rfl)
  | .query q => by
    rw [Piece.respell, scopePiece, scopePiece]
    exact (respells_scopeQuery v h q).bind (.pure rfl)
  | .table t' => by
    rw [Piece.respell, scopePiece, scopePiece]
    exact (respells_scopeInner v h t').bind (.pure rfl)

lemma respells_scopePieces (v : View) (h : f v.tenant.spelling = t.spelling) :
    (ps : List Piece) →
    Respells (respellPieces f) (scopePieces v ps) (scopePieces (v.forTenant t) (respellPieces f ps))
  | [] => .pure rfl
  | p :: ps => by
    rw [respellPieces, scopePieces, scopePieces]
    exact (respells_scopePiece v h p).bind ((respells_scopePieces v h ps).bind (.pure rfl))

lemma respells_scopeInner (v : View) (h : f v.tenant.spelling = t.spelling) :
    (u : TableFactor) →
    Respells (TableFactor.respell f) (scopeInner v u) (scopeInner (v.forTenant t) (u.respell f))
  | .base name arguments alias? hints => by
    rw [TableFactor.respell, scopeInner, scopeInner]
    exact (respells_scopePieces v h arguments).bind
      ((respells_scopePieces v h hints).bind (.pure rfl))
  | .derived _ _ _ => .pure rfl
  | .nested inner alias? => by
    rw [TableFactor.respell, scopeInner, scopeInner]
    exact (respells_scopeInnerTable v h inner).bind (.pure rfl)
  | .other pieces alias? tail => by
    rw [TableFactor.respell, scopeInner, scopeInner]
    exact (respells_scopePieces v h pieces).bind ((respells_scopePieces v h tail).bind (.pure rfl))

lemma respells_scopeConstraint (v : View) (h : f v.tenant.spelling = t.spelling) :
    (j : JoinConstraint) → Respells (JoinConstraint.respell f) (scopeConstraint v j)
      (scopeConstraint (v.forTenant t) (j.respell f))
  | .on e => by
    rw [JoinConstraint.respell, scopeConstraint, scopeConstraint]
    exact (respells_scopeExpr v h e).bind (.pure rfl)
  | .shared _ => .pure rfl
  | .natural => .pure rfl
  | .none => .pure rfl

lemma respells_scopeInnerJoins (v : View) (h : f v.tenant.spelling = t.spelling) :
    (js : List Join) → Respells (respellJoins f) (scopeInnerJoins v js)
      (scopeInnerJoins (v.forTenant t) (respellJoins f js))
  | [] => .pure rfl
  | { relation, matching, constraint, .. } :: js => by
    rw [respellJoins, Join.respell, scopeInnerJoins, scopeInnerJoins]
    exact (respells_scopeInner v h relation).bind ((respells_scopeOption v h matching).bind
      ((respells_scopeConstraint v h constraint).bind
        ((respells_scopeInnerJoins v h js).bind (.pure rfl))))

lemma respells_scopeInnerTable (v : View) (h : f v.tenant.spelling = t.spelling) :
    (u : TableWithJoins) → Respells (TableWithJoins.respell f) (scopeInnerTable v u)
      (scopeInnerTable (v.forTenant t) (u.respell f))
  | { relation, joins } => by
    rw [TableWithJoins.respell, scopeInnerTable, scopeInnerTable]
    exact (respells_scopeInner v h relation).bind
      ((respells_scopeInnerJoins v h joins).bind (.pure rfl))

lemma respells_scopeFactor (v : View) (h : f v.tenant.spelling = t.spelling)
    (placement : Placement) : (u : TableFactor) →
    Respells (respellOwing (TableFactor.respell f) f) (scopeFactor v placement u)
      (scopeFactor (v.forTenant t) placement (u.respell f))
  | .base name arguments alias? hints => by
    rw [TableFactor.respell, scopeFactor, scopeFactor, predicates_forTenant h]
    exact (respells_scopePieces v h arguments).bind ((respells_scopePieces v h hints).bind
      ((Respells.counted _ _).bind (.pure rfl)))
  | .derived lateral q alias? => by
    rw [TableFactor.respell, scopeFactor, scopeFactor]
    exact (respells_scopeQuery v h q).bind (.pure rfl)
  | .nested inner alias? => by
    rw [TableFactor.respell, scopeFactor, scopeFactor]
    exact (respells_scopeTable v h placement inner).bind (.pure rfl)
  | .other pieces alias? tail => by
    rw [TableFactor.respell, scopeFactor, scopeFactor]
    exact (respells_scopePieces v h pieces).bind ((respells_scopePieces v h tail).bind (.pure rfl))

lemma respells_scopeJoins (v : View) (h : f v.tenant.spelling = t.spelling)
    (placement : Placement) : (js : List Join) →
    Respells (respellOwing (respellJoins f) f) (scopeJoins v placement js)
      (scopeJoins (v.forTenant t) placement (respellJoins f js))
  | [] => by
    rw [respellJoins, scopeJoins, scopeJoins]
    exact .pure rfl
  | { relation, matching, constraint, .. } :: js => by
    have hjoins := respells_scopeJoins v h placement js
    rw [respellJoins, Join.respell, scopeJoins, scopeJoins, isBase_respell]
    refine (respells_scopeFactor v h placement relation).bind
      ((respells_scopeOption v h matching).bind ((respells_scopeConstraint v h constraint).bind ?_))
    cases isBase relation with
    | true =>
      simp only [if_true, placed_respell]
      refine hjoins.bind (.pure ?_)
      simp only [respellOwing, Prod.map, respellJoins, Join.respell, List.map_append]
    | false =>
      simp only [Bool.false_eq_true, if_false]
      refine hjoins.bind (.pure ?_)
      simp only [respellOwing, Prod.map, respellJoins, Join.respell, List.map_append]

lemma respells_scopeTable (v : View) (h : f v.tenant.spelling = t.spelling)
    (placement : Placement) : (u : TableWithJoins) →
    Respells (respellOwing (TableWithJoins.respell f) f) (scopeTable v placement u)
      (scopeTable (v.forTenant t) placement (u.respell f))
  | { relation, joins } => by
    rw [TableWithJoins.respell, scopeTable, scopeTable]
    refine (respells_scopeFactor v h placement relation).bind
      ((respells_scopeJoins v h placement joins).bind (.pure ?_))
    simp only [respellOwing, Prod.map, TableWithJoins.respell, List.map_append]

lemma respells_scopeTables (v : View) (h : f v.tenant.spelling = t.spelling)
    (placement : Placement) : (us : List TableWithJoins) →
    Respells (respellOwing (respellTables f) f) (scopeTables v placement us)
      (scopeTables (v.forTenant t) placement (respellTables f us))
  | [] => by
    rw [respellTables, scopeTables, scopeTables]
    exact .pure rfl
  | u :: us => by
    rw [respellTables, scopeTables, scopeTables]
    refine (respells_scopeTable v h placement u).bind
      ((respells_scopeTables v h placement us).bind (.pure ?_))
    simp only [respellOwing, Prod.map, respellTables, List.map_append]

lemma respells_scopeCtes (v : View) (h : f v.tenant.spelling = t.spelling) :
    (cs : List Cte) → Respells (Prod.map (respellCtes f) (View.forTenant · t)) (scopeCtes v cs)
      (scopeCtes (v.forTenant t) (respellCtes f cs))
  | [] => .pure rfl
  | { given, query, .. } :: cs => by
    rw [respellCtes, scopeCtes, scopeCtes]
    exact (respells_scopeQuery v h query).bind
      ((respells_scopeCtes (v.withHidden given.name) h cs).bind (.pure rfl))

lemma respells_scopeKeys (v : View) (h : f v.tenant.spelling = t.spelling) :
    (ks : List OrderKey) →
    Respells (respellKeys f) (scopeKeys v ks) (scopeKeys (v.forTenant t) (respellKeys f ks))
  | [] => .pure rfl
  | { key, fill, .. } :: ks => by
    rw [respellKeys, scopeKeys, scopeKeys]
    exact (respells_scopeExpr v h key).bind ((respells_scopePieces v h fill).bind
      ((respells_scopeKeys v h ks).bind (.pure rfl)))

lemma respells_scopeQuery (v : View) (h : f v.tenant.spelling = t.spelling) : (q : Query) →
    Respells (Query.respell f) (scopeQuery v q) (scopeQuery (v.forTenant t) (q.respell f))
  | { ctes, body, orderBy, interpolate, limit, .. } => by
    have hinner : f (scopeCtes v ctes).value.2.tenant.spelling = t.spelling := by
      rw [(view_scopeCtes v ctes).2, h]
    rw [Query.respell, scopeQuery, scopeQuery]
    exact (respells_scopeCtes v h ctes).bind ((respells_scopeBody _ hinner body).bind
      ((respells_scopeKeys _ hinner orderBy).bind
        ((respells_scopePieces _ hinner interpolate).bind
          ((respells_scopeOption _ hinner limit).bind (.pure rfl)))))

lemma respells_scopeBody (v : View) (h : f v.tenant.spelling = t.spelling) : (b : Body) →
    Respells (Body.respell f) (scopeBody v b) (scopeBody (v.forTenant t) (b.respell f))
  | .select s => by
    rw [Body.respell, scopeBody, scopeBody]
    exact (respells_scopeSelect v h s).bind (.pure rfl)
  | .setOp l op quantifier r => by
    rw [Body.respell, scopeBody, scopeBody]
    exact (respells_scopeBody v h l).bind ((respells_scopeBody v h r).bind (.pure rfl))
  | .query q => by
    rw [Body.respell, scopeBody, scopeBody]
    exact (respells_scopeQuery v h q).bind (.pure rfl)
  | .rows _ => .pure rfl
  | .table _ => .pure rfl
  | .change _ => .pure rfl

lemma respells_scopeItems (v : View) (h : f v.tenant.spelling = t.spelling) :
    (is : List SelectItem) →
    Respells (respellItems f) (scopeItems v is) (scopeItems (v.forTenant t) (respellItems f is))
  | [] => .pure rfl
  | .expr e alias? :: is => by
    rw [respellItems, scopeItems, scopeItems]
    exact (respells_scopeExpr v h e).bind ((respells_scopeItems v h is).bind (.pure rfl))
  | .wildcard qualifier options :: is => by
    rw [respellItems, scopeItems, scopeItems]
    exact (respells_scopePieces v h options).bind ((respells_scopeItems v h is).bind (.pure rfl))

lemma respells_scopeDistinct (v : View) (h : f v.tenant.spelling = t.spelling) :
    (d : Distinct) →
    Respells (Distinct.respell f) (scopeDistinct v d) (scopeDistinct (v.forTenant t) (d.respell f))
  | .none => .pure rfl
  | .rows => .pure rfl
  | .on keys => by
    rw [Distinct.respell, scopeDistinct, scopeDistinct]
    exact (respells_scopeExprs v h keys).bind (.pure rfl)

lemma respells_scopeSelect (v : View) (h : f v.tenant.spelling = t.spelling) : (s : Select) →
    Respells (Select.respell f) (scopeSelect v s) (scopeSelect (v.forTenant t) (s.respell f))
  | { top, distinct, items, tables, views, condition, groupBy, sorting, having, tail, .. } => by
    rw [Select.respell, scopeSelect, scopeSelect]
    refine (respells_scopePieces v h top).bind ((respells_scopeDistinct v h distinct).bind
      ((respells_scopeItems v h items).bind ((respells_scopePieces v h views).bind
      ((respells_scopeOption v h condition).bind ((respells_scopeExprs v h groupBy).bind
      ((respells_scopePieces v h sorting).bind ((respells_scopeOption v h having).bind
      ((respells_scopePieces v h tail).bind ((respells_scopeTables v h .joinCondition tables).bind
      (.pure ?_))))))))))
    simp only [extended_respell, Select.respell]

end

end Syntax

section Statements

variable {f : String → String} {t : TenantId} {v : View} (h : f v.tenant.spelling = t.spelling)

include h

lemma respells_scopeTableOption (placement : Placement) (u? : Option TableWithJoins) :
    Respells (respellOwing (respellTableOption f) f) (scopeTableOption v placement u?)
      (scopeTableOption (v.forTenant t) placement (respellTableOption f u?)) := by
  cases u? with
  | none =>
    rw [respellTableOption, scopeTableOption, scopeTableOption]
    exact .pure rfl
  | some u =>
    rw [respellTableOption, scopeTableOption, scopeTableOption]
    exact (respells_scopeTable v h placement u).bind (.pure rfl)

lemma respells_scopeStatement (s : Statement) :
    Respells (Statement.respell f) (scopeStatement v s)
      (scopeStatement (v.forTenant t) (s.respell f)) := by
  cases s with
  | query q =>
    rw [Statement.respell, scopeStatement, scopeStatement]
    exact (respells_scopeQuery v h q).bind (.pure rfl)
  | update u =>
    obtain ⟨target, assignments, source?, condition, returning⟩ := u
    simp only [Statement.respell, scopeStatement, scopeUpdate, bind_assoc, pure_bind]
    refine (respells_scopePieces v h assignments).bind ((respells_scopeOption v h condition).bind
      ((respells_scopeTable v h .statement target).bind
        ((respells_scopeTableOption h .statement source?).bind (.pure ?_))))
    simp only [respellOwing, Prod.map, ← List.map_append, extended_respell, Statement.respell]
  | delete d =>
    obtain ⟨named, fromKeyword, targets, sources, condition, tail⟩ := d
    simp only [Statement.respell, scopeStatement, scopeDelete, bind_assoc, pure_bind]
    refine (respells_scopeOption v h condition).bind
      ((respells_scopeTables v h .statement targets).bind
        ((respells_scopeTables v h .statement sources).bind (.pure ?_)))
    simp only [respellOwing, Prod.map, ← List.map_append, extended_respell, Statement.respell]
  | other pieces => exact .pure rfl

lemma respells_scopeStatements (ss : List Statement) :
    Respells (List.map (Statement.respell f)) (scopeStatements v ss)
      (scopeStatements (v.forTenant t) (ss.map (Statement.respell f))) := by
  induction ss with
  | nil => exact .pure rfl
  | cons s ss ih =>
    rw [List.map_cons, scopeStatements_cons, scopeStatements_cons]
    exact (respells_scopeStatement h s).bind (ih.bind (.pure rfl))

end Statements

section Templates

/-- How a template spells the literals of the statements that it is for. All other literals in it
stand for the tenant. -/
def kept (s : String) : String := .ofList ('=' :: s.toList)

def filled (t : TenantId) (s : String) : String :=
  match s.toList with
  | '=' :: cs => .ofList cs
  | _ => t.spelling

lemma filled_kept (t : TenantId) : (filled t).LeftInverse kept := by
  intro s
  simp [filled, kept]

lemma filled_spelling (t t' : TenantId) : filled t' t.spelling = t'.spelling := by
  have hdigits : t.spelling.toList = Nat.toDigits 10 t.value := Nat.toList_repr
  unfold filled
  split
  · rename_i cs hcs
    have hdigit : '=' ∈ Nat.toDigits 10 t.value := by
      rw [← hdigits, hcs]
      exact List.mem_cons_self
    exact absurd (Nat.isDigit_of_mem_toDigits (by decide) (by decide) hdigit) (by decide)
  · rfl

lemma respells_template (p : Policy) (t t' : TenantId) (ss : List Statement) :
    Respells (List.map (Statement.respell (filled t')))
      (p.scopedStatements t (ss.map (Statement.respell kept))) (p.scopedStatements t' ss) := by
  have hspelling : filled t' (View.tenant ⟨p, t, []⟩).spelling = t'.spelling := filled_spelling t t'
  have hscoped := respells_scopeStatements hspelling (ss.map (Statement.respell kept))
  have hstatements : (ss.map (Statement.respell kept)).map (Statement.respell (filled t')) = ss := by
    rw [List.map_map]
    exact List.map_id'' (fun s => Statement.respell_undone (filled_kept t') s) ss
  rw [hstatements] at hscoped
  exact hscoped

lemma added_scopedStatements (p : Policy) (t t' : TenantId) (ss : List Statement) :
    (p.scopedStatements t ss).added = (p.scopedStatements t' ss).added := by
  rw [(respells_template p t t ss).2, (respells_template p t t' ss).2]

lemma outcome_alike (p : Policy) (t t' : TenantId) (sql : String) :
    (p.outcome (some t) sql).map (fun o => (o.unchanged?, o.predicatesAdded)) =
      (p.outcome (some t') sql).map fun o => (o.unchanged?, o.predicatesAdded) := by
  unfold Policy.outcome
  cases p.enabled with
  | false => rfl
  | true =>
    cases parseStatements p.dialect sql with
    | error e => rfl
    | ok ss =>
      have hadded := added_scopedStatements p t t' ss
      dsimp only
      cases hscoped : p.scopedStatements t ss with
      | mk statements added =>
        cases hscoped' : p.scopedStatements t' ss with
        | mk statements' added' =>
          rw [hscoped, hscoped'] at hadded
          obtain rfl : added = added' := hadded
          cases added <;> rfl

/-- What is done with a text is the same for all tenants, and so are the scoped statements, but for
the tenants in the predicates: all are filled from one template, from which erasing the predicates
gives the statements as they were. -/
theorem scopes_alike (p : Policy) (t : TenantId) :
    (∀ t' sql, (p.outcome (some t) sql).map (fun o => (o.unchanged?, o.predicatesAdded)) =
      (p.outcome (some t') sql).map fun o => (o.unchanged?, o.predicatesAdded)) ∧
    ∀ ss, ∃ template edits,
      eraseStatements p.tenantColumn t template edits =
        some (ss.map (Statement.respell kept), []) ∧
      additionCount edits = (p.scopedStatements t ss).added ∧
      ∀ t', (p.scopedStatements t' ss).value = template.map (Statement.respell (filled t')) := by
  refine ⟨outcome_alike p t, fun ss => ?_⟩
  obtain ⟨edits, hcount, herased⟩ :=
    restores_scopeStatements ⟨p, t, []⟩ (ss.map (Statement.respell kept))
  have hadded := (respells_template p t t ss).2
  have hall := herased []
  rw [List.append_nil] at hall
  exact ⟨_, edits, hall, hcount.trans hadded.symm, fun t' => (respells_template p t t' ss).1⟩

/-- The number in the condition is not the tenant. -/
example :
    [1, 2].map (fun n => (Policy.usualEnabled.outcome (TenantId.ofNat? n)
      "SELECT * FROM orders WHERE id = 1").toOption.map (·.sql)) =
      [some "SELECT * FROM orders WHERE id = 1 AND orders.tenant_id = 1",
        some "SELECT * FROM orders WHERE id = 1 AND orders.tenant_id = 2"] := by
  decide +kernel

end Templates

end RowFence.Scope
