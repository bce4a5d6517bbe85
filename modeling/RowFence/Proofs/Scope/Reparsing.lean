import RowFence.Proofs.Scope.FormScoping
import RowFence.Proofs.Scope.Once
import RowFence.Proofs.Sql.StatementReading

/-! What scoping writes is read back as what it made of the statements, as long as it nests no deeper
than the parsers go. -/

namespace RowFence.Scope

open Sql

lemma statements_scoped {v : View} {d : Dialect}
    (column : isPlainIdentifier v.policy.tenantColumn = true) {n b : Nat} {ss : List Statement}
    {ts : List Token} (h : StatementsForm d (Forms.within d n) ss ts)
    (hb : (scopeStatements v ss).added ≤ b) :
    ∃ us, StatementsForm d (Forms.within d (n + 2 + b)) (scopeStatements v ss).value us := by
  unfold scopeStatements at hb ⊢
  induction h with
  | one h =>
    rw [added_mapM_cons] at hb
    obtain ⟨us, hus⟩ := statement_scoped column h (Nat.le_of_add_right_le hb)
    exact ⟨us, .one hus⟩
  | more h others ih =>
    rw [added_mapM_cons] at hb
    obtain ⟨us, hus⟩ := statement_scoped column h (Nat.le_of_add_right_le hb)
    obtain ⟨vs, hvs⟩ := ih (Nat.le_of_add_left_le hb)
    rw [value_mapM_cons]
    exact ⟨_, .more hus hvs⟩

lemma outcome_eq_scoped {p : Policy} {tenant : TenantId} {sql : String} {ss : List Statement}
    {o : Outcome} (parsed : parseStatements p.dialect sql = .ok ss)
    (run : p.outcome (some tenant) sql = .ok o) (hscoped : o.isScoped = true) :
    o.sql = spellStatements (p.scopedStatements tenant ss).value ∧
      o.predicatesAdded = (p.scopedStatements tenant ss).added := by
  unfold Policy.outcome at run
  split at run
  · next htenant => cases htenant
  · next htenant =>
    obtain rfl := Option.some.inj htenant
    split at run
    · obtain rfl := Except.ok.inj run
      cases hscoped
    · rw [parsed] at run
      dsimp only at run
      split at run
      · obtain rfl := Except.ok.inj run
        cases hscoped
      · next hstatements =>
        obtain rfl := Except.ok.inj run
        rw [hstatements]
        exact ⟨rfl, rfl⟩

/-- The text that scoping puts in place of statements parses to the scoped statements, if the
statements are of these forms and their depth, with one level for each predicate, stays within that
of the parsers. -/
theorem parseStatements_outcome {p : Policy} {tenant : TenantId} {sql : String}
    {ss : List Statement} {o : Outcome} {depth : Nat} {ts : List Token}
    (column : isPlainIdentifier p.tenantColumn = true)
    (parsed : parseStatements p.dialect sql = .ok ss)
    (form : StatementsForm p.dialect (Forms.within p.dialect depth) ss ts)
    (run : p.outcome (some tenant) sql = .ok o) (hscoped : o.isScoped = true)
    (shallow : depth + o.predicatesAdded ≤ 47) :
    parseStatements p.dialect o.sql = .ok (p.scopedStatements tenant ss).value := by
  obtain ⟨hsql, hadded⟩ := outcome_eq_scoped parsed run hscoped
  obtain ⟨n, hn⟩ : ∃ n, depth + 2 + n = 49 := ⟨47 - depth, by omega⟩
  obtain ⟨us, hus⟩ := statements_scoped (v := ⟨p, tenant, []⟩) (b := n) column form
    (by rw [hadded, Policy.scopedStatements] at shallow; omega)
  rw [hn] at hus
  rw [hsql]
  exact parseStatements_spellStatements hus

/-- The query `SELECT * FROM orders WHERE status = 'open' OR id = 1`. -/
def openOrders : Query where
  recursive := false
  ctes := []
  body := .select {
    top := [], topFirst := false, distinct := .none, items := [.wildcard [] []], into := ""
    tables := [⟨.base [⟨"orders", none⟩] [] none [], []⟩], views := []
    condition := some (.binary (.binary (.name [⟨"status", none⟩]) .eq (.value (Literal.single "open")))
      .or (.binary (.name [⟨"id", none⟩]) .eq (.value "1")))
    groupAll := false, groupBy := [], groupModifiers := [], sorting := [], having := none, tail := [] }
  orderBy := []
  interpolate := []
  limit := none
  tail := []

lemma form_openOrders (k : Nat) :
    ∃ ts, StatementsForm .mysql (Forms.within .mysql (k + 4)) [.query openOrders] ts := by
  have hplain : ∀ w ∈ ["orders", "status", "id"], IsPlainName .mysql ⟨w, none⟩ := by
    intro w hw
    simp only [List.mem_cons, List.not_mem_nil, or_false] at hw
    rcases hw with rfl | rfl | rfl <;> exact ⟨by decide +kernel, by decide +kernel⟩
  have hopen : (Forms.within .mysql (k + 2)).expr ((Token.symbol .eq).strength .mysql)
      (.value (Literal.single "open")) [.string .single "open"] :=
    .operand (.string (by decide +kernel))
  have hone : (Forms.within .mysql (k + 1)).expr ((Token.symbol .eq).strength .mysql)
      (.value "1") [.number "1" false] :=
    .operand (.number (.whole (by decide) (by decide)))
  have hstatus : ExprForm .mysql (Forms.within .mysql (k + 2))
      ((Token.keyword "OR").strength .mysql - 1)
      (.binary (.name [⟨"status", none⟩]) .eq (.value (Literal.single "open"))) _ :=
    .binary (t := .symbol .eq) (by decide) (by decide)
      (.operand (.name (hplain "status" (by decide)) (List.forall_mem_nil _))) hopen
  have hid : (Forms.within .mysql (k + 2)).expr ((Token.keyword "OR").strength .mysql)
      (.binary (.name [⟨"id", none⟩]) .eq (.value "1")) _ :=
    .binary (t := .symbol .eq) (by decide) (by decide)
      (.operand (.name (hplain "id" (by decide)) (List.forall_mem_nil _))) hone
  have hcondition : (Forms.within .mysql (k + 3)).expr 0 (.binary (.binary (.name [⟨"status", none⟩])
      .eq (.value (Literal.single "open"))) .or (.binary (.name [⟨"id", none⟩]) .eq (.value "1"))) _ :=
    .binary (t := .keyword "OR") (by decide) (by decide) hstatus hid
  have hselect : BodyForm .mysql (Forms.within .mysql (k + 3)) 0 openOrders.body _ :=
    .select (.mk .none (.one .wildcard) (.items (.one (.mk
      (.base (hplain "orders" (by decide)) (List.forall_mem_nil _) .none) .nil))) (.some hcondition)
        .nil .none)
  exact ⟨_, .one (.query (.mk .none hselect .nil .none .none))⟩

theorem parseStatements_openOrders :
    let sql := "SELECT * FROM orders WHERE status = 'open' OR id = 1"
    ∃ o, Policy.usualEnabled.outcome (some .one) sql = .ok o ∧ o.isScoped = true ∧
      parseStatements .mysql o.sql =
        .ok (Policy.usualEnabled.scopedStatements .one [.query openOrders]).value := by
  intro sql
  obtain ⟨ts, form⟩ := form_openOrders 45
  have hsql : sql = spellStatements [.query openOrders] := by decide +kernel
  have parsed : parseStatements .mysql sql = .ok [.query openOrders] := by
    rw [hsql]
    exact parseStatements_spellStatements form
  obtain ⟨ts, form⟩ := form_openOrders 0
  obtain ⟨o, run, hadded, hscoped, -⟩ := outcome_parsed (p := .usualEnabled) .one parsed
  have hone : (Policy.usualEnabled.scopedStatements .one [.query openOrders]).added = 1 := by
    decide +kernel
  replace hadded : o.predicatesAdded = 1 := hadded.trans hone
  replace hscoped := hscoped.2 (by rw [hadded]; exact Nat.one_pos)
  exact ⟨o, run, hscoped, parseStatements_outcome (p := .usualEnabled) (by decide +kernel) parsed
    form run hscoped (by rw [hadded]; decide)⟩

theorem outcome_backslashes :
    let sql := "SELECT * FROM orders WHERE name = 'a\\\\'"
    ∃ o, Policy.usualEnabled.outcome (some .one) sql = .ok o ∧ o.isScoped = true ∧
      ∃ e, parseStatements Policy.usualEnabled.dialect o.sql = .error e := by
  intro sql
  have hoff : ((Policy.usualEnabled.outcome (some .one) sql).toOption.map fun o =>
      (o.isScoped, (parseStatements Policy.usualEnabled.dialect o.sql).toOption.isNone)) =
        some (true, true) := by decide +kernel
  obtain ⟨o, ho, hboth⟩ := Option.map_eq_some_iff.1 hoff
  obtain ⟨hscoped, herror⟩ := Prod.mk.inj hboth
  refine ⟨o, ?_, hscoped, ?_⟩
  · cases hrun : Policy.usualEnabled.outcome (some .one) sql with
    | error e =>
      rw [hrun] at ho
      cases ho
    | ok o' =>
      rw [hrun] at ho
      exact congrArg _ (Option.some.inj ho)
  · cases hparse : parseStatements Policy.usualEnabled.dialect o.sql with
    | error e => exact ⟨e, rfl⟩
    | ok ss =>
      rw [hparse] at herror
      cases herror

end RowFence.Scope
