import RowFence.Proofs.Sql.TableReading

/-! Queries are read from their tokens as they were written, clause by clause. -/

namespace RowFence.Sql

/-! What may stand before each clause of a query, the clauses after it being optional. -/

def limitEnds : List Token := .keyword "OFFSET" :: queryEnds

def sortEnds : List Token := .keyword "LIMIT" :: limitEnds

def bodyEnds : List Token := .keyword "ORDER" :: sortEnds

def selectEnds : List Token := ["UNION", "EXCEPT", "INTERSECT"].map .keyword ++ bodyEnds

def havingEnds : List Token := .keyword "HAVING" :: selectEnds

def groupEnds : List Token := .keyword "GROUP" :: havingEnds

def whereEnds : List Token := .keyword "WHERE" :: groupEnds

def itemEnds : List Token := .keyword "FROM" :: whereEnds

/-- The generic dialect takes `EXCEPT` for an option of the wildcard that it stands right behind. -/
def itemEndsOf (d : Dialect) : List Token :=
  if d = .generic then itemEnds.erase (.keyword "EXCEPT") else itemEnds

namespace Parser

variable {s : Source} {g : Grammar} {F : Forms} {i j : Nat}

section Clauses

variable {α : Type} {R : α → List Token → Prop} {k : Token} {ks es : List Token}

lemma ends_before_clause {a? : Option α} {ts : List Token} (h : ClauseForm (k :: ks) R a? ts)
    (hshows : s.shows i ts) (hend : s.ends es (i + ts.length)) : s.ends (k :: es) i := by
  cases h with
  | none => exact List.mem_cons_of_mem _ hend
  | some h => exact Source.ends_of_eq hshows.1.2 List.mem_cons_self

lemma ends_before_list {as : List α} {ts : List Token} (h : ListForm (k :: ks) R as ts)
    (hshows : s.shows i ts) (hend : s.ends es (i + ts.length)) : s.ends (k :: es) i := by
  cases h with
  | nil => exact List.mem_cons_of_mem _ hend
  | items h => exact Source.ends_of_eq hshows.1.2 List.mem_cons_self

/-- A token that opens no clause stands before a clause only where it is left out. -/
lemma ne_before_clause {a? : Option α} {ts : List Token} (h : ClauseForm (k :: ks) R a? ts)
    (hshows : s.shows i ts) {t : Token} (ht : k ≠ t) (hend : s.tokenAt (i + ts.length) ≠ t) :
    s.tokenAt i ≠ t := by
  cases h with
  | none => exact hend
  | some h => exact hshows.1.2 ▸ ht

lemma ne_before_list {as : List α} {ts : List Token} (h : ListForm (k :: ks) R as ts)
    (hshows : s.shows i ts) {t : Token} (ht : k ≠ t) (hend : s.tokenAt (i + ts.length) ≠ t) :
    s.tokenAt i ≠ t := by
  cases h with
  | nil => exact hend
  | items h => exact hshows.1.2 ▸ ht

lemma reads_optionalExpr (hread : F.ReadBy s g) {w : String} {e? : Option Expr} {ts : List Token}
    (h : ClauseForm [.keyword w] (F.expr 0) e? ts) (hes : ∀ t ∈ es, t ∈ exprEnds)
    (hw : ∀ t ∈ es, t.key ≠ w) : Reads s (optionalExpr g w) ts e? (s.ends es) := by
  intro i hshows hend
  cases h with
  | none =>
    replace hend : s.ends es i := hend
    simp [optionalExpr, ↓run_bind, run_keyword_false (hend.key_ne hw)]
  | @some e ts h =>
    obtain ⟨⟨-, hkeyword⟩, hts⟩ := hshows
    have hlength : i + ([Token.keyword w] ++ ts).length = i + 1 + ts.length := by
      simp only [List.length_append, List.length_cons, List.length_nil]
      omega
    rw [hlength] at hend ⊢
    have he : g.expr s (i + 1) = _ := hread.expr _ _ _ h _ hts ((hend.mono hes).halts 0)
    simp [optionalExpr, ↓run_bind, run_keyword_true (key_of_keyword hkeyword), he]

end Clauses

section Items

lemma run_wildcard?_mul (h : s.tokenAt i = .symbol .mul) :
    wildcard? s i = (.ok (some []), i + 1) := by
  simp [wildcard?, ↓run_bind, run_symbol_true h]

lemma run_wildcard?_name {j : Ident} {n : Name}
    (hshows : s.shows i (Name.tokens (j :: n) ++ [Token.symbol .period, .symbol .mul])) :
    wildcard? s i = (.ok (some (j :: n)), i + (Name.tokens (j :: n)).length + 2) := by
  rw [tokens_cons] at hshows ⊢
  obtain ⟨⟨-, hword⟩, hrest⟩ := hshows
  obtain ⟨hparts, ⟨-, hperiod⟩, ⟨-, hmul⟩, -⟩ := Source.shows_append.1 hrest
  have hplaced : ∀ j, (s.placedAt j).token = s.tokenAt j := fun _ => rfl
  have hnext : s.tokenAt (i + 1) = .symbol .period := by
    obtain rfl | hperiod' := shows_parts hparts
    · exact hperiod
    · exact hperiod'
  have hsign : s.tokenAt i ≠ .symbol .mul := by
    rw [hword]
    exact nofun
  refine (run_bind_ok run_get).trans ((run_bind_ok (run_symbol_false hsign)).trans ?_)
  rw [if_neg Bool.false_ne_true]
  refine (run_bind_ok run_peekToken).trans ?_
  simp only [hword]
  refine (run_bind_ok (run_identifier hword)).trans ((run_bind_ok (run_atSymbol _)).trans ?_)
  rw [hnext]
  simp only [BEq.rfl, Bool.not_true, Bool.false_eq_true, if_false]
  refine (run_bind_ok (run_many_parts hparts ?_ ?_)).trans
    ((run_bind_ok (run_symbols_pair hperiod hmul)).trans ?_)
  · intro i w hperiod hword
    simp [↓run_bind, run_symbol_true hperiod, hplaced, hword]
  · simp [↓run_bind, run_symbol_true hperiod, hplaced, hmul]
  · rw [Ident.ofWord_word, List.length_cons]
    simp only [if_true, run_pure]
    congr 1
    omega

lemma run_wildcard?_none (hbegin : (s.tokenAt i).beginsExpr = true) (hopens : s.opensAt i) :
    wildcard? s i = (.ok none, i) := by
  have hplaced : ∀ j, (s.placedAt j).token = s.tokenAt j := fun _ => rfl
  have hsign : s.tokenAt i ≠ .symbol .mul := by
    intro h
    rw [h] at hbegin
    cases hbegin
  by_cases hperiod : s.tokenAt (i + 1) = .symbol .period
  · obtain hnone | ⟨w, n, hword, hparts, hend⟩ := hopens
    · exact absurd hperiod hnone
    refine (run_bind_ok run_get).trans ((run_bind_ok (run_symbol_false hsign)).trans ?_)
    rw [if_neg Bool.false_ne_true]
    refine (run_bind_ok run_peekToken).trans ?_
    simp only [hword]
    refine (run_bind_ok (run_identifier hword)).trans ((run_bind_ok (run_atSymbol _)).trans ?_)
    rw [hperiod]
    simp only [BEq.rfl, Bool.not_true, Bool.false_eq_true, if_false]
    refine (run_bind_ok (run_many_parts hparts ?_ ?_)).trans
      ((run_bind_ok (run_symbols_cons_false [.mul] hend)).trans ?_)
    · intro i w hperiod hword
      simp [↓run_bind, run_symbol_true hperiod, hplaced, hword]
    · simp [↓run_bind, run_symbol_false hend]
    · simp [↓run_bind]
  · cases htoken : s.tokenAt i with
    | word w =>
      simp [wildcard?, ↓run_bind, run_symbol_false hsign, htoken, run_identifier htoken,
        hperiod]
    | string kind b =>
      cases kind with
      | single =>
        simp [wildcard?, ↓run_bind, run_symbol_false hsign, htoken, identifier, hplaced,
          hperiod]
      | _ => rw [htoken] at hbegin; cases hbegin
    | _ => simp [wildcard?, ↓run_bind, run_symbol_false hsign, htoken]

lemma mem_itemEnds {d : Dialect} : ∀ t ∈ Token.symbol .comma :: itemEndsOf d,
    t ∈ Token.symbol .comma :: itemEnds := by
  cases d <;> decide

/-- What may stand after the wildcard or the alias of an item. -/
lemma run_wildcardOptions (hend : s.ends (.symbol .comma :: itemEndsOf s.dialect) i) :
    wildcardOptions g s i = (.ok [], i) := by
  by_cases hd : s.dialect = .generic
  · rw [hd] at hend
    have hno : ∀ k, (∀ t ∈ Token.symbol .comma :: itemEndsOf .generic, t.key ≠ k) →
        keyword k s i = (.ok false, i) := fun k hk => run_keyword_false (hend.key_ne hk)
    simp [wildcardOptions, ↓run_bind, hd, hno "ILIKE" (by decide),
      run_both_pure_false (hno "EXCLUDE" (by decide)), hno "EXCEPT" (by decide),
      hno "REPLACE" (by decide), hno "RENAME" (by decide)]
  · simp [wildcardOptions, ↓run_bind, hd]

variable (hF : F.Regular) (hread : F.ReadBy s g)

include hF in
lemma begins_of_shows {p : Nat} {e : Expr} {ts : List Token} (h : F.expr p e ts)
    (hshows : s.shows i ts) : (s.tokenAt i).beginsExpr = true := by
  obtain ⟨t, us, rfl, hbegin⟩ := hF.begins _ _ _ h
  rwa [hshows.1.2]

include hF hread

lemma reads_item {item : SelectItem} {ts : List Token} (h : ItemForm s.dialect F item ts) :
    Reads s (selectItem g) ts item (s.ends (.symbol .comma :: itemEndsOf s.dialect)) := by
  intro i hshows hend
  cases h with
  | wildcard =>
    replace hend : s.ends (.symbol .comma :: itemEndsOf s.dialect) (i + 1) := hend
    simp [selectItem, ↓run_bind, run_wildcard?_mul hshows.1.2, run_wildcardOptions hend]
  | @qualified j n first others =>
    have hlength : i + (Name.tokens (j :: n) ++ [Token.symbol .period, Token.symbol .mul]).length =
        i + (Name.tokens (j :: n)).length + 2 := by
      simp only [List.length_append, List.length_cons, List.length_nil]
      omega
    rw [hlength] at hend ⊢
    simp [selectItem, ↓run_bind, run_wildcard?_name hshows, run_wildcardOptions hend]
  | @expr e ts h named =>
    replace hend := hend.mono mem_itemEnds
    have hstops : ∀ t ∈ Token.symbol .comma :: itemEnds,
        (∀ w, t = .word w → w.key ∈ columnStops) ∧ ∀ kind body, t ≠ .string kind body := by
      simp [itemEnds, whereEnds, groupEnds, havingEnds, selectEnds, bodyEnds, sortEnds, limitEnds,
        queryEnds, Token.keyword, columnStops]
    have hwildcard := run_wildcard?_none (begins_of_shows hF h hshows)
      (hread.opens _ _ _ h i hshows (hend.mono (by decide)))
    have he : g.expr s i = _ := hread.expr _ _ _ h i hshows ((hend.mono (by decide)).halts 0)
    have halias := run_optionalAlias_none columnStops (hend.key_ne (by decide)) (hstops _ hend).1
      (hstops _ hend).2
    simp [selectItem, ↓run_bind, hwildcard, he, named, halias]
  | @given e j ts h named rereads =>
    obtain ⟨hts, ⟨-, has⟩, ⟨-, hword⟩, -⟩ := Source.shows_append.1 hshows
    have hlength : i + (ts ++ [Token.keyword "AS", .word j.word]).length = i + ts.length + 2 := by
      rw [List.length_append]
      rfl
    rw [hlength]
    have hafter : s.ends exprEnds (i + ts.length) := Source.ends_of_eq has (by decide)
    have hwildcard := run_wildcard?_none (begins_of_shows hF h hts)
      (hread.opens _ _ _ h i hts (hafter.mono (by decide)))
    have he : g.expr s i = _ := hread.expr _ _ _ h i hts (hafter.halts 0)
    have halias := run_optionalAlias_some columnStops (key_of_keyword has) hword
    rw [Ident.ofWord_word] at halias
    simp [selectItem, ↓run_bind, hwildcard, he, named, halias]

omit hread in
lemma item_begins {d : Dialect} {item : SelectItem} {ts : List Token} (h : ItemForm d F item ts) :
    ∃ t us, ts = t :: us ∧ t.key ∉ ["ALL", "DISTINCT", "ON", "TOP"] := by
  have hexpr : ∀ e ts, F.expr 0 e ts →
      ∃ t us, ts = t :: us ∧ t.key ∉ ["ALL", "DISTINCT", "ON", "TOP"] := by
    intro e ts h
    obtain ⟨t, us, rfl, hbegin⟩ := hF.begins _ _ _ h
    exact ⟨t, us, rfl, key_not_mem_of_beginsExpr _ (by decide) hbegin⟩
  cases h with
  | wildcard => exact ⟨_, _, rfl, by decide⟩
  | @qualified i n first others =>
    obtain ⟨us, hus⟩ := tokens_name i n
    exact ⟨_, _, by rw [hus]; rfl,
      key_not_mem_of_beginsExpr _ (by decide) (beginsExpr_of_isPlainName first)⟩
  | expr h named => exact hexpr _ _ h
  | given h named rereads =>
    obtain ⟨t, us, rfl, hkey⟩ := hexpr _ _ h
    exact ⟨t, _, rfl, hkey⟩

end Items

section Selects

lemma reads_distinct {distinct : Distinct} {ts : List Token} (h : DistinctForm distinct ts) :
    Reads s (distinctClause g) ts distinct
      fun i => (s.tokenAt i).key ∉ ["ALL", "DISTINCT", "ON", "TOP"] := by
  intro i hshows hend
  simp only [List.mem_cons, List.not_mem_nil, or_false, not_or] at hend
  cases h with
  | none =>
    obtain ⟨hall, hdistinct, -⟩ := hend
    replace hall : (s.tokenAt i).key ≠ "ALL" := hall
    replace hdistinct : (s.tokenAt i).key ≠ "DISTINCT" := hdistinct
    simp [distinctClause, ↓run_bind, run_keyword_false hall, run_keyword_false hdistinct]
  | rows =>
    have hkey := key_of_keyword hshows.1.2
    have hall : (s.tokenAt i).key ≠ "ALL" := by
      rw [hkey]
      decide
    have hon : (s.tokenAt (i + 1)).key ≠ "ON" := hend.2.2.1
    simp [distinctClause, ↓run_bind, run_keyword_false hall, run_keyword_true hkey,
      run_keyword_false hon]

lemma run_symbols_pair_false {b c : Symbol} (hc : s.tokenAt (i + 1) ≠ .symbol c) :
    symbols [b, c] s i = (.ok false, i) := by
  by_cases hb : s.tokenAt i = .symbol b
  · simp [symbols, ↓run_bind, run_map, run_symbol_true hb, run_symbol_false hc]
  · exact run_symbols_cons_false _ hb

variable (hF : F.Regular) (hread : F.ReadBy s g)

include hread

/-- The tables of a query follow a keyword, or there are none of both. -/
lemma run_tables {tables : List TableWithJoins} {ts : List Token}
    (h : ListForm [.keyword "FROM"] (TableForm s.dialect F) tables ts) (hshows : s.shows i ts)
    (hend : s.ends whereEnds (i + ts.length)) :
    keyword "FROM" s i = (.ok false, i + ts.length) ∧ tables = [] ∨
      keyword "FROM" s i = (.ok true, i + 1) ∧
        commaSeparated (tableWithJoins g) s (i + 1) = (.ok tables, i + ts.length) := by
  cases h with
  | nil =>
    replace hend : s.ends whereEnds i := hend
    exact .inl ⟨run_keyword_false (hend.key_ne (by decide)), rfl⟩
  | @items _ ts h =>
    obtain ⟨⟨-, hfrom⟩, hts⟩ := hshows
    have hlength : i + ([Token.keyword "FROM"] ++ ts).length = i + 1 + ts.length := by
      simp only [List.length_append, List.length_cons, List.length_nil]
      omega
    rw [hlength] at hend ⊢
    refine .inr ⟨run_keyword_true (key_of_keyword hfrom), ?_⟩
    exact Reads.commaSeparated whereEnds
      (fun t ts ht i hshows hend => reads_table hread ht i hshows (hend.mono (by decide)))
      (by decide) h _ hts hend

include hF

lemma reads_groupingExpr {e : Expr} {ts : List Token} (h : F.expr 0 e ts) :
    Reads s (groupingExpr g) ts e (s.ends (.symbol .comma :: havingEnds)) := by
  intro i hshows hend
  have he : g.expr s i = _ := hread.expr _ _ _ h i hshows ((hend.mono (by decide)).halts 0)
  have hkeys := key_not_mem_of_shows hF h hshows ["GROUPING", "CUBE", "ROLLUP"] (by decide)
  simp only [List.mem_cons, List.not_mem_nil, or_false, not_or] at hkeys
  have hsets := run_keywords_cons_false ["SETS"] hkeys.1
  have hkey : (s.tokenAt i).key ∉ ["CUBE", "ROLLUP"] := by simpa using hkeys.2
  have hempty : symbols [.lParen, .rParen] s i = (.ok false, i) := by
    obtain ⟨t, us, rfl, -⟩ := hF.begins _ _ _ h
    by_cases hopen : t = .symbol .lParen
    · subst hopen
      obtain ⟨u, vs, rfl, hu⟩ := hF.filled _ _ _ _ h rfl
      exact run_symbols_pair_false (by rw [hshows.2.1.2]; exact hu)
    · exact run_symbols_cons_false _ (by rw [hshows.1.2]; exact hopen)
  cases hd : s.dialect <;>
    simp [groupingExpr, ↓run_bind, hd, hsets, run_oneOf?_none hkey, hempty, he]

lemma reads_groupClause {groupBy : List Expr} {ts : List Token}
    (h : ListForm [.keyword "GROUP", .keyword "BY"] (F.expr 0) groupBy ts) :
    Reads s (groupClause g) ts { keys := groupBy } (s.ends havingEnds) := by
  intro i hshows hend
  have hmodifiers : ∀ i, s.ends havingEnds i → groupModifiers s i = (.ok [], i) := by
    intro i hend
    have hwith := run_keyword_false (hend.key_ne (k := "WITH") (by decide))
    by_cases hd : s.dialect = .generic
    · simp only [groupModifiers, ↓run_bind, run_dialect, hd]
      exact run_many_nil (by simp [↓run_bind, hwith])
    · simp [groupModifiers, ↓run_bind, hd]
  cases h with
  | nil =>
    replace hend : s.ends havingEnds i := hend
    simp [groupClause, ↓run_bind, run_keywords_cons_false ["BY"]
      (hend.key_ne (k := "GROUP") (by decide))]
  | @items _ ts h =>
    obtain ⟨⟨-, hgroup⟩, ⟨-, hby⟩, hts⟩ := hshows
    have hlength : i + ([.keyword "GROUP", Token.keyword "BY"] ++ ts).length =
        i + 1 + 1 + ts.length := by
      simp only [List.length_append, List.length_cons, List.length_nil]
      omega
    rw [hlength] at hend ⊢
    have hkeys := Reads.commaSeparated havingEnds (fun _ _ => reads_groupingExpr hF hread)
      (by decide) h _ hts hend
    have hall : (s.tokenAt (i + 1 + 1)).key ≠ "ALL" := by
      obtain ⟨t, us, rfl, hbegin⟩ := hF.begins_commas h
      have hkey := key_not_mem_of_beginsExpr ["ALL"] (by decide) hbegin
      rw [hts.1.2]
      simpa using hkey
    simp [groupClause, ↓run_bind, run_keywords_pair (key_of_keyword hgroup) (key_of_keyword hby),
      run_keyword_false hall, hkeys, hmodifiers _ hend]

/-! Clauses that only some dialects know are left out. -/

omit hF hread in
lemma run_beforeTables (hend : s.ends itemEnds i) : intoClause s i = (.ok "", i) := by
  simp [intoClause, ↓run_bind, run_keyword_false (hend.key_ne (k := "INTO") (by decide))]

omit hF hread in
lemma run_beforeWhere (hend : s.ends whereEnds i) :
    many (lateralView g) s i = (.ok [], i) ∧
      both (isAny [.generic]) (keyword "PREWHERE") s i = (.ok false, i) := by
  have hlateral := run_keywords_cons_false ["VIEW"] (hend.key_ne (k := "LATERAL") (by decide))
  exact ⟨run_many_nil (by simp [lateralView, ↓run_bind, hlateral]),
    run_both_isAny_false (run_keyword_false (hend.key_ne (by decide)))⟩

omit hF hread in
lemma run_beforeHaving (hend : s.ends havingEnds i) :
    ∀ k ∈ ["CLUSTER", "DISTRIBUTE", "SORT"], exprsAfter g [k, "BY"] s i = (.ok [], i) := by
  intro k hk
  have hkeys : ∀ k ∈ ["CLUSTER", "DISTRIBUTE", "SORT"], ∀ t ∈ havingEnds, t.key ≠ k := by decide
  simp [exprsAfter, ↓run_bind, run_keywords_cons_false ["BY"] (hend.key_ne (hkeys k hk))]

omit hF hread in
lemma run_afterHaving (hend : s.ends selectEnds i) :
    windowsAndQualify g s i = (.ok [], i) ∧ connectClause g s i = (.ok [], i) := by
  have hwindow := hend.key_ne (k := "WINDOW") (by decide)
  have hqualify := run_keyword_false (hend.key_ne (k := "QUALIFY") (by decide))
  have hstart := hend.key_ne (k := "START") (by decide)
  have hconnect := hend.key_ne (k := "CONNECT") (by decide)
  constructor
  · simp [windowsAndQualify, qualifyClause, ↓run_bind, hwindow, hqualify]
  · by_cases hd : s.dialect = .generic <;> simp [connectClause, ↓run_bind, hd, hstart, hconnect]

omit hF hread in
/-- The items of a query may stand before what ends it, if it names no table. -/
lemma ends_before_tables {tables : List TableWithJoins} {ts : List Token}
    (h : ListForm [.keyword "FROM"] (TableForm s.dialect F) tables ts) (hshows : s.shows i ts)
    (hend : s.ends whereEnds (i + ts.length))
    (hexcept : s.dialect = .generic → tables = [] → s.tokenAt (i + ts.length) ≠ .keyword "EXCEPT") :
    s.ends (itemEndsOf s.dialect) i := by
  have hitems := ends_before_list h hshows hend
  unfold itemEndsOf
  split_ifs with hd
  · have hne : s.tokenAt i ≠ .keyword "EXCEPT" := by
      cases h with
      | nil => exact hexcept hd rfl
      | items h =>
        rw [hshows.1.2]
        decide
    exact (List.mem_erase_of_ne hne).2 hitems
  · exact hitems

lemma reads_select {sel : Select} {ts : List Token} (h : SelectForm s.dialect F sel ts) :
    Reads s (bodyOperand g) ts (.select sel) fun k => s.ends selectEnds k ∧
      (s.dialect = .generic → s.tokenAt k = .keyword "EXCEPT" → sel.tables ≠ []) := by
  rintro i hshows ⟨hend, hexcept⟩
  cases h with
  | @mk distinct items tables condition having groupBy ds is ts cs gs hs distinguished selected
      source tested grouped kept =>
    obtain ⟨hshows, hhs⟩ := Source.shows_append.1 hshows
    obtain ⟨hshows, hgs⟩ := Source.shows_append.1 hshows
    obtain ⟨hshows, hcs⟩ := Source.shows_append.1 hshows
    obtain ⟨hshows, hts⟩ := Source.shows_append.1 hshows
    obtain ⟨⟨⟨-, hselect⟩, hds⟩, his⟩ := Source.shows_append.1 hshows
    have hlength : i + (Token.keyword "SELECT" :: ds ++ is ++ ts ++ cs ++ gs ++ hs).length =
        i + 1 + ds.length + is.length + ts.length + cs.length + gs.length + hs.length := by
      simp only [List.length_append, List.length_cons]
      omega
    have hone : i + (ds.length + 1) = i + 1 + ds.length := by omega
    simp only [List.length_append, List.length_cons, ← Nat.add_assoc, hone] at hhs hgs hcs hts his
    rw [hlength] at hend hexcept ⊢
    have hhaving := reads_optionalExpr hread kept (by decide) (by decide) _ hhs hend
    have hhaved := ends_before_clause kept hhs hend
    have hgrouping := reads_groupClause hF hread grouped _ hgs hhaved
    have hgrouped := ends_before_list grouped hgs hhaved
    have hwhere := reads_optionalExpr hread tested (by decide) (by decide) _ hcs hgrouped
    have hwhered := ends_before_clause tested hcs hgrouped
    have htables := run_tables hread source hts hwhered
    have hsourced := ends_before_tables source hts hwhered fun hd htables =>
      ne_before_clause tested hcs (by decide) (ne_before_list grouped hgs (by decide)
        (ne_before_clause kept hhs (by decide) fun h => hexcept hd h htables))
    have hitems := Reads.commaSeparated (itemEndsOf s.dialect) (fun _ _ => reads_item hF hread)
      (by cases s.dialect <;> decide) selected _ his hsourced
    obtain ⟨t, us, hbegin, hkey⟩ := selected.begins fun _ _ => item_begins hF
    rw [hbegin] at his
    rw [← his.1.2] at hkey
    have hdistinct := reads_distinct (g := g) distinguished _ hds hkey
    simp only [List.mem_cons, List.not_mem_nil, or_false, not_or] at hkey
    have htop : topClause g s (i + 1 + ds.length) = (.ok [], i + 1 + ds.length) := by
      simp [topClause, ↓run_bind, run_keyword_false hkey.2.2.2]
    have hinto := run_beforeTables (ends_before_list source hts hwhered)
    obtain ⟨hviews, hprewhere⟩ := run_beforeWhere (g := g) hwhered
    have hsorting := run_beforeHaving (g := g) hhaved
    obtain ⟨hwindows, hconnect⟩ := run_afterHaving (g := g) hend
    have hkeyword := run_keyword_true (key_of_keyword hselect)
    obtain ⟨hfrom, rfl⟩ | ⟨hfrom, htables⟩ := htables
    · simp [bodyOperand, select, ↓run_bind, hkeyword, hdistinct, htop, hitems, hinto, hfrom,
        hviews, hprewhere, hwhere, hgrouping, hsorting, hhaving, hwindows, hconnect]
    · simp [bodyOperand, select, ↓run_bind, hkeyword, hdistinct, htop, hitems, hinto, hfrom,
        htables, hviews, hprewhere, hwhere, hgrouping, hsorting, hhaving, hwindows, hconnect]

end Selects

section Bodies

/-- How tightly the keyword at a position binds as a set operation. -/
def setStrengthAt (s : Source) (i : Nat) : Nat :=
  match (s.tokenAt i).key with
  | "UNION" | "EXCEPT" => SetOp.strength .union
  | "INTERSECT" => SetOp.strength .intersect
  | _ => 0

/-- Where a body may end whose set operations bind tighter than this. -/
def bodyStops (s : Source) (p : Nat) (b : Body) (i : Nat) : Prop :=
  s.ends selectEnds i ∧ setStrengthAt s i ≤ p ∧
    (s.dialect = .generic → s.tokenAt i = .keyword "EXCEPT" → b.hasTables = true)

lemma run_setOp? (op : SetOp) (h : s.tokenAt i = .keyword op.spelling) :
    setOp? s i = (.ok (some op), i) ∧ setStrengthAt s i = op.strength := by
  cases op <;> simp [setOp?, setStrengthAt, ↓run_bind, key_of_keyword h, SetOp.spelling,
    SetOp.strength]

lemma run_continuedBody_end {p : Nat} (operand : Nat → Parser Body) (bound : Nat) (b : Body)
    (hend : setStrengthAt s i ≤ p) :
    continuedBody p operand bound b s i = (.ok b, i) := by
  cases bound with
  | zero => rfl
  | succ bound =>
    unfold setStrengthAt at hend
    simp only [continuedBody, setOp?, ↓run_bind, run_peekKey]
    split at hend <;> simp_all [SetOp.strength]

lemma run_setQuantifier {quantifier : String} {qs : List Token}
    (h : (quantifier, qs) ∈ quantifierTokens) (hshows : s.shows i qs)
    (hend : s.ends [.keyword "SELECT", .symbol .lParen] (i + qs.length)) :
    setQuantifier s i = (.ok quantifier, i + qs.length) := by
  have hno : ∀ k ∈ ["BY", "ALL", "DISTINCT"], (s.tokenAt (i + qs.length)).key ≠ k := by
    have hkeys : ∀ k ∈ ["BY", "ALL", "DISTINCT"], ∀ t ∈ [Token.keyword "SELECT", .symbol .lParen],
        t.key ≠ k := by decide
    exact fun k hk => hend.key_ne (hkeys k hk)
  simp only [List.mem_cons, List.not_mem_nil, or_false, forall_eq_or_imp, forall_eq] at hno
  obtain ⟨hby, hall, hdistinct⟩ := hno
  simp only [quantifierTokens, List.mem_cons, List.not_mem_nil, or_false, Prod.mk.injEq] at h
  rcases h with ⟨rfl, rfl⟩ | ⟨rfl, rfl⟩ | ⟨rfl, rfl⟩ | ⟨rfl, rfl⟩ | ⟨rfl, rfl⟩ | ⟨rfl, rfl⟩
  · replace hby : (s.tokenAt i).key ≠ "BY" := hby
    replace hall : (s.tokenAt i).key ≠ "ALL" := hall
    replace hdistinct : (s.tokenAt i).key ≠ "DISTINCT" := hdistinct
    simp [setQuantifier, ↓run_bind, run_keywords_cons_false, run_keyword_false, hby, hall, hdistinct]
  · have hfirst := key_of_keyword hshows.1.2
    replace hby : (s.tokenAt (i + 1)).key ≠ "BY" := hby
    simp [setQuantifier, keywords, ↓run_bind, run_map, run_keyword, hfirst, hby]
  · have hfirst := key_of_keyword hshows.1.2
    replace hby : (s.tokenAt (i + 1)).key ≠ "BY" := hby
    simp [setQuantifier, keywords, ↓run_bind, run_map, run_keyword, hfirst, hby]
  · have hfirst := key_of_keyword hshows.1.2
    have hsecond := key_of_keyword hshows.2.1.2
    simp [setQuantifier, keywords, ↓run_bind, run_map, run_keyword, hfirst, hsecond]
  · have hfirst := key_of_keyword hshows.1.2
    have hsecond := key_of_keyword hshows.2.1.2
    have hthird := key_of_keyword hshows.2.2.1.2
    simp [setQuantifier, keywords, ↓run_bind, run_map, run_keyword, hfirst, hsecond, hthird]
  · have hfirst := key_of_keyword hshows.1.2
    have hsecond := key_of_keyword hshows.2.1.2
    have hthird := key_of_keyword hshows.2.2.1.2
    simp [setQuantifier, keywords, ↓run_bind, run_keyword, hfirst, hsecond, hthird]

variable (hF : F.Regular) (hread : F.ReadBy s g)

include hread

lemma reads_bodyQuery {q : Query} {ts : List Token} (h : F.query q ts)
    (hshows : s.shows i (.symbol .lParen :: ts ++ [Token.symbol .rParen])) :
    bodyOperand g s i =
      (.ok (.query q), i + (.symbol .lParen :: ts ++ [Token.symbol .rParen]).length) := by
  obtain ⟨hopen, hinner, hclose, hlength⟩ := shows_parens hshows
  have hq := hread.query _ _ h _ hinner (Source.ends_of_eq hclose (by decide))
  have hkey : (s.tokenAt i).key ≠ "SELECT" := by
    rw [hopen]
    decide
  rw [hlength]
  simp [bodyOperand, ↓run_bind, run_keyword_false hkey, run_symbol_true hopen, hq,
    run_expectSymbol hclose]

include hF

/-- The body at a position begins with one that set operations continue. -/
lemma leads_body {depth : Nat} (hright : ∀ p b ts, 20 ≤ p + 10 * depth → BodyForm s.dialect F p b ts →
      Reads s (bodyWithin g depth p) ts b (bodyStops s p b))
    {q : Nat} {b : Body} {ts : List Token} (h : BodyForm s.dialect F q b ts)
    (hdepth : 20 ≤ q + 10 * (depth + 1)) {i : Nat} (hshows : s.shows i ts)
    (hend : bodyStops s (q + 1) b (i + ts.length)) :
    ∃ a j n, bodyOperand g s i = (.ok a, j) ∧ n ≤ ts.length ∧ ∀ p ≤ q, ∀ bound,
      continuedBody p (bodyWithin g depth) (bound + n) a s j =
        continuedBody p (bodyWithin g depth) bound b s (i + ts.length) := by
  induction h generalizing i with
  | @select p sel ts h =>
    have hsel := reads_select hF hread h i hshows ⟨hend.1, fun hd ht hnil => by
      simpa [Body.hasTables, hnil] using hend.2.2 hd ht⟩
    exact ⟨_, _, 0, hsel, Nat.zero_le _, fun _ _ _ => rfl⟩
  | query inner =>
    exact ⟨_, _, 0, reads_bodyQuery hread inner hshows, Nat.zero_le _, fun _ _ _ => rfl⟩
  | @setOp p l r op quantifier ts qs us tighter left unmerged quantified right ih =>
    obtain ⟨hshows, hus⟩ := Source.shows_append.1 hshows
    obtain ⟨hts, ⟨-, hop⟩, hqs⟩ := Source.shows_append.1 hshows
    have hafter : i + (ts ++ Token.keyword op.spelling :: qs).length =
        i + ts.length + 1 + qs.length := by
      simp only [List.length_append, List.length_cons]
      omega
    rw [List.length_append, ← Nat.add_assoc, hafter] at hend ⊢
    rw [hafter] at hus
    obtain ⟨hset, hstrength⟩ := run_setOp? op hop
    have hbounds : op.strength = 10 ∨ op.strength = 20 := by cases op <;> decide
    have hleft : bodyStops s (op.strength - 1 + 1) l (i + ts.length) := by
      refine ⟨Source.ends_of_eq hop (by cases op <;> decide), by omega, fun hd ht => ?_⟩
      rw [hop] at ht
      refine unmerged hd ?_
      cases op with
      | except => rfl
      | _ => exact absurd ht (by decide)
    obtain ⟨a, j, n, ha, hn, hspine⟩ := ih (by omega) hts hleft
    have hstarts : s.ends [.keyword "SELECT", .symbol .lParen] (i + ts.length + 1 + qs.length) := by
      obtain ⟨t, us, rfl, ht⟩ := starts_body right
      exact Source.ends_of_eq hus.1.2 ht
    have hquantifier := run_setQuantifier quantified hqs hstarts
    have hr := hright _ _ _ (by omega) right _ hus ⟨hend.1, by have := hend.2.1; omega, hend.2.2⟩
    refine ⟨a, j, n + 1, ha, by simp only [List.length_append, List.length_cons]; omega,
      fun p' hp bound => ?_⟩
    have hlower : ¬p' ≥ op.strength := by omega
    rw [← Nat.add_assoc, Nat.add_right_comm, hspine p' (by omega), continuedBody]
    simp [↓run_bind, hset, hlower, hquantifier, hr]

lemma reads_bodyWithin (depth : Nat) : ∀ p b ts, 20 ≤ p + 10 * depth → BodyForm s.dialect F p b ts →
    Reads s (bodyWithin g depth p) ts b (bodyStops s p b) := by
  induction depth with
  | zero =>
    intro p b ts hp h i hshows hend
    cases h with
    | select h =>
      exact reads_select hF hread h i hshows ⟨hend.1, fun hd ht hnil => by
        simpa [Body.hasTables, hnil] using hend.2.2 hd ht⟩
    | query inner => exact reads_bodyQuery hread inner hshows
    | @setOp p l r op quantifier ts qs us tighter left unmerged quantified right =>
      have hbounds : op.strength ≤ 20 := by cases op <;> decide
      omega
  | succ depth ih =>
    intro p b ts hp h i hshows hend
    obtain ⟨a, j, n, ha, hn, hspine⟩ :=
      leads_body hF hread ih h hp hshows ⟨hend.1, Nat.le_succ_of_le hend.2.1, hend.2.2⟩
    have hsize := Source.length_le_of_shows hshows
    have hbound : s.tokens.size + 1 = (s.tokens.size - n) + 1 + n := by omega
    simp only [bodyWithin, ↓run_bind, ha, run_read, hbound, hspine p (Nat.le_refl p),
      run_continuedBody_end _ _ _ hend.2.1]

lemma reads_body {b : Body} {ts : List Token} (h : BodyForm s.dialect F 0 b ts) :
    Reads s (body g) ts b (s.ends bodyEnds) := by
  intro i hshows hend
  have hkeys : ∀ t ∈ bodyEnds, t.key ∉ ["UNION", "EXCEPT", "INTERSECT"] := by decide
  have hkey := hkeys _ hend
  simp only [List.mem_cons, List.not_mem_nil, or_false, not_or] at hkey
  have hstrength : setStrengthAt s (i + ts.length) ≤ 0 := by
    unfold setStrengthAt
    split <;> simp_all
  exact reads_bodyWithin hF hread 3 0 b ts (by decide) h i hshows
    ⟨hend.mono (by decide), hstrength, fun _ ht => absurd ht (hend.ne (by decide))⟩

end Bodies

section CommonTables

variable (hread : F.ReadBy s g)

include hread

omit hread in
lemma run_materialized {materialized : Option Bool} {ms : List Token}
    (h : (materialized, ms) ∈ materialTokens) (allowed : materialized ≠ none → s.dialect = .postgres)
    (hshows : s.shows i ms) (hopen : s.tokenAt (i + ms.length) = .symbol .lParen) :
    materialization s i = (.ok materialized, i + ms.length) := by
  by_cases hd : s.dialect = .postgres
  · simp only [materialTokens, List.mem_cons, List.not_mem_nil, or_false, Prod.mk.injEq] at h
    rcases h with ⟨rfl, rfl⟩ | ⟨rfl, rfl⟩ | ⟨rfl, rfl⟩
    · replace hopen : s.tokenAt i = .symbol .lParen := hopen
      have hkey : (s.tokenAt i).key = "" := by
        rw [hopen]
        rfl
      simp [materialization, ↓run_bind, hd, run_keyword, hkey,
        run_keywords_cons_false (s := s) (i := i) (k := "NOT") ["MATERIALIZED"] (by simp [hkey])]
    · simp [materialization, ↓run_bind, hd, run_keyword_true (key_of_keyword hshows.1.2)]
    · have hnot := key_of_keyword hshows.1.2
      have hmaterialized := key_of_keyword hshows.2.1.2
      simp [materialization, ↓run_bind, hd, run_keyword, hnot,
        run_keywords_pair hnot hmaterialized]
  · obtain rfl : materialized = none := by
      by_contra hsome
      exact hd (allowed hsome)
    have hnone : ∀ o ∈ materialTokens, o.1 = none → o.2 = [] := by decide
    have hms : ms = [] := hnone _ h rfl
    subst hms
    simp [materialization, ↓run_bind, hd]

lemma reads_commonTable {c : Cte} {ts : List Token} (h : CteForm s.dialect F c ts) :
    Reads s (commonTable g) ts c
      (s.ends [.symbol .comma, .keyword "SELECT", .symbol .lParen]) := by
  intro i hshows hend
  cases h with
  | @mk j columns q materialized cs ms ts rereads listed computed allowed rows =>
    rw [List.append_assoc _ (.symbol .lParen :: ts)] at hshows hend ⊢
    obtain ⟨hshows, hparens⟩ := Source.shows_append.1 hshows
    obtain ⟨⟨⟨-, hword⟩, hcs⟩, ⟨-, has⟩, hms⟩ := Source.shows_append.1 hshows
    obtain ⟨hopen, hrows, hclose, hlength⟩ := shows_parens hparens
    have hone : i + (Token.word j.word :: cs).length = i + 1 + cs.length := by
      rw [List.length_cons]
      omega
    have htwo : i + (.word j.word :: cs ++ Token.keyword "AS" :: ms).length =
        i + 1 + cs.length + 1 + ms.length := by
      rw [List.length_append, ← Nat.add_assoc, hone, List.length_cons]
      omega
    rw [hone] at has hms
    rw [List.length_append, ← Nat.add_assoc, hlength] at hend ⊢
    rw [htwo] at hopen hrows hclose hend ⊢
    have hq := hread.query _ _ rows _ hrows (Source.ends_of_eq hclose (by decide))
    have hquery := run_parenthesized hopen hq hclose
    have hmaterial := run_materialized computed allowed hms hopen
    have hparen : Token.symbol .lParen ∉ [Token.keyword "AS"] := by decide
    have hcolumns := reads_columns listed hparen _ hcs (Source.ends_of_eq has List.mem_cons_self)
    have hkeyAs := key_of_keyword has
    have hfrom := run_keyword_false (hend.key_ne (k := "FROM") (by decide))
    have hdirect : keyword "AS" s (i + 1) = (.ok true, i + 1 + cs.length + 1) ∧ columns = [] ∨
        keyword "AS" s (i + 1) = (.ok false, i + 1) := by
      cases listed with
      | nil => exact .inl ⟨run_keyword_true hkeyAs, rfl⟩
      | items named =>
        refine .inr (run_keyword_false ?_)
        rw [hcs.1.2]
        decide
    obtain ⟨hdirect, rfl⟩ | hdirect := hdirect
    · simp [commonTable, ↓run_bind, run_identifier hword, hdirect, hmaterial, hquery, hfrom]
    · simp [commonTable, ↓run_bind, run_identifier hword, hdirect, hcolumns,
        run_expectKeyword hkeyAs, hmaterial, hquery, hfrom]

lemma reads_withClause {recursive : Bool} {ctes : List Cte} {ts : List Token}
    (h : WithForm s.dialect F recursive ctes ts) :
    Reads s (withClause g) ts (recursive, ctes) (s.ends [.keyword "SELECT", .symbol .lParen]) := by
  intro i hshows hend
  cases h with
  | none =>
    replace hend : s.ends [.keyword "SELECT", .symbol .lParen] i := hend
    simp [withClause, ↓run_bind, run_keyword_false (hend.key_ne (k := "WITH") (by decide))]
  | @tables recursive ctes ts h unmerged =>
    obtain ⟨⟨⟨-, hwith⟩, hrecursive⟩, hts⟩ := Source.shows_append.1 hshows
    have hone : i + (.keyword "WITH" :: recursiveTokens recursive).length =
        i + 1 + (recursiveTokens recursive).length := by
      rw [List.length_cons]
      omega
    rw [hone] at hts
    rw [List.length_append, ← Nat.add_assoc, hone] at hend ⊢
    have hctes := Reads.commaSeparated [.keyword "SELECT", .symbol .lParen]
      (fun _ _ => reads_commonTable hread) (by decide) h _ hts hend
    have hkeyword : keyword "RECURSIVE" s (i + 1) =
        (.ok recursive, i + 1 + (recursiveTokens recursive).length) := by
      cases recursive with
      | true => exact run_keyword_true (key_of_keyword hrecursive.1.2)
      | false =>
        refine run_keyword_false ?_
        obtain ⟨t, us, rfl, -⟩ := h.begins (P := fun _ => True) fun c ts hc => by
          cases hc
          exact ⟨_, _, rfl, trivial⟩
        rw [show s.tokenAt (i + 1) = t from hts.1.2]
        exact unmerged rfl t rfl
    simp [withClause, ↓run_bind, run_keyword_true (key_of_keyword hwith), hkeyword, hctes]

end CommonTables

section Queries

lemma reads_sortDirection {direction : String} {ds : List Token}
    (h : (direction, ds) ∈ directionTokens) :
    Reads s sortDirection ds direction (s.ends (.symbol .comma :: sortEnds)) := by
  intro i hshows hend
  have hnulls : phrase [["NULLS", "FIRST"], ["NULLS", "LAST"]] s (i + ds.length) =
      (.ok "", i + ds.length) := by
    have hkey := hend.key_ne (k := "NULLS") (by decide)
    simp [phrase, firstKeywords, ↓run_bind, run_keywords_cons_false _ hkey]
  have hdirection : phrase [["ASC"], ["DESC"]] s i = (.ok direction, i + ds.length) := by
    simp only [directionTokens, List.mem_cons, List.not_mem_nil, or_false, Prod.mk.injEq] at h
    rcases h with ⟨rfl, rfl⟩ | ⟨rfl, rfl⟩ | ⟨rfl, rfl⟩
    · have hasc := hend.key_ne (k := "ASC") (by decide)
      have hdesc := hend.key_ne (k := "DESC") (by decide)
      rw [List.length_nil, Nat.add_zero] at hasc hdesc
      simp [phrase, firstKeywords, ↓run_bind, run_keywords_one, hasc, hdesc]
    · simp [phrase, firstKeywords, ↓run_bind, run_keywords_one, key_of_keyword hshows.1.2]
    · simp [phrase, firstKeywords, ↓run_bind, run_keywords_one, key_of_keyword hshows.1.2]
  simp [sortDirection, ↓run_bind, hdirection, hnulls]

variable (hF : F.Regular) (hread : F.ReadBy s g)

include hread

lemma reads_orderKey {k : OrderKey} {ts : List Token} (h : KeyForm F k ts) :
    Reads s (orderKey g) ts k (s.ends (.symbol .comma :: sortEnds)) := by
  intro i hshows hend
  cases h with
  | @mk e direction ts ds h directed =>
    obtain ⟨hts, hds⟩ := Source.shows_append.1 hshows
    rw [List.length_append, ← Nat.add_assoc] at hend ⊢
    have hdirected := reads_sortDirection directed _ hds hend
    have hafter : s.ends exprEnds (i + ts.length) := by
      simp only [directionTokens, List.mem_cons, List.not_mem_nil, or_false, Prod.mk.injEq]
        at directed
      rcases directed with ⟨rfl, rfl⟩ | ⟨rfl, rfl⟩ | ⟨rfl, rfl⟩
      · exact hend.mono (by decide)
      · exact Source.ends_of_eq hds.1.2 (by decide)
      · exact Source.ends_of_eq hds.1.2 (by decide)
    have he : g.expr s i = _ := hread.expr _ _ _ h i hts (hafter.halts 0)
    have hfill := run_keywords_cons_false ["FILL"] (hend.key_ne (k := "WITH") (by decide))
    simp [orderKey, ↓run_bind, he, hdirected, run_both_isAny_false hfill]

lemma reads_orderClause {orderBy : List OrderKey} {ts : List Token}
    (h : ListForm [.keyword "ORDER", .keyword "BY"] (KeyForm F) orderBy ts) :
    Reads s (orderClause g) ts orderBy (s.ends sortEnds) := by
  intro i hshows hend
  cases h with
  | nil =>
    replace hend : s.ends sortEnds i := hend
    simp [orderClause, ↓run_bind, run_keywords_cons_false ["BY"]
      (hend.key_ne (k := "ORDER") (by decide))]
  | @items _ ts h =>
    obtain ⟨⟨-, horder⟩, ⟨-, hby⟩, hts⟩ := hshows
    have hlength : i + ([.keyword "ORDER", Token.keyword "BY"] ++ ts).length =
        i + 1 + 1 + ts.length := by
      simp only [List.length_append, List.length_cons, List.length_nil]
      omega
    rw [hlength] at hend ⊢
    have hkeys := Reads.commaSeparated sortEnds (fun _ _ => reads_orderKey hread) (by decide) h _
      hts hend
    simp [orderClause, ↓run_bind, run_keywords_pair (key_of_keyword horder) (key_of_keyword hby),
      hkeys]

lemma reads_offsetClause {tail : List Piece} {ts : List Token} (h : OffsetForm F tail ts)
    (hshows : s.shows i ts) (hend : s.ends queryEnds (i + ts.length)) :
    keyword "OFFSET" s i = (.ok false, i + ts.length) ∧ tail = [] ∨
      keyword "OFFSET" s i = (.ok true, i + 1) ∧
        offsetClause g s (i + 1) = (.ok tail, i + ts.length) := by
  cases h with
  | none =>
    replace hend : s.ends queryEnds i := hend
    exact .inl ⟨run_keyword_false (hend.key_ne (by decide)), rfl⟩
  | @some e unit ts us h counted =>
    obtain ⟨⟨⟨-, hoffset⟩, hts⟩, hus⟩ := Source.shows_append.1 hshows
    have hone : i + (Token.keyword "OFFSET" :: ts).length = i + 1 + ts.length := by
      rw [List.length_cons]
      omega
    rw [List.length_append, ← Nat.add_assoc, hone] at hend ⊢
    rw [hone] at hus
    obtain ⟨hafter, hunit⟩ : s.ends exprEnds (i + 1 + ts.length) ∧
        phrase [["ROW"], ["ROWS"]] s (i + 1 + ts.length) =
          (.ok unit, i + 1 + ts.length + us.length) := by
      simp only [unitTokens, List.mem_cons, List.not_mem_nil, or_false, Prod.mk.injEq] at counted
      rcases counted with ⟨rfl, rfl⟩ | ⟨rfl, rfl⟩ | ⟨rfl, rfl⟩
      · replace hend : s.ends queryEnds (i + 1 + ts.length) := hend
        have hrow := hend.key_ne (k := "ROW") (by decide)
        have hrows := hend.key_ne (k := "ROWS") (by decide)
        exact ⟨hend.mono (by decide), by
          simp [phrase, firstKeywords, ↓run_bind, run_keywords_one, hrow, hrows]⟩
      · exact ⟨Source.ends_of_eq hus.1.2 (by decide), by
          simp [phrase, firstKeywords, ↓run_bind, run_keywords_one, key_of_keyword hus.1.2]⟩
      · exact ⟨Source.ends_of_eq hus.1.2 (by decide), by
          simp [phrase, firstKeywords, ↓run_bind, run_keywords_one, key_of_keyword hus.1.2]⟩
    have he : g.expr s (i + 1) = _ := hread.expr _ _ _ h _ hts (hafter.halts 0)
    exact .inr ⟨run_keyword_true (key_of_keyword hoffset), by
      simp [offsetClause, ↓run_bind, he, hunit]⟩

omit hread in
lemma ends_before_offset {tail : List Piece} {ts : List Token} (h : OffsetForm F tail ts)
    (hshows : s.shows i ts) (hend : s.ends queryEnds (i + ts.length)) : s.ends limitEnds i := by
  cases h with
  | none => exact List.mem_cons_of_mem _ hend
  | some h counted => exact Source.ends_of_eq hshows.1.2 List.mem_cons_self

omit hread in
lemma run_boundsRound (b : Bounds) (hend : s.ends queryEnds i) :
    boundsRound g b s i = (.ok b, i) := by
  have hlimit := run_keyword_false (hend.key_ne (k := "LIMIT") (by decide))
  have hoffset := run_keyword_false (hend.key_ne (k := "OFFSET") (by decide))
  have hcomma := run_symbol_false (hend.ne (t := .symbol .comma) (by decide))
  obtain ⟨limit, offset⟩ := b
  cases limit <;> cases offset <;> simp [boundsRound, ↓run_bind, run_both_pure_false hlimit,
    run_both_pure_false hoffset, run_both_isAny_false hcomma]

include hF in
/-- The first round of bounds reads all of them. -/
lemma reads_bounds {limit : Option Expr} {tail : List Piece} {ls fs : List Token}
    (limited : ClauseForm [.keyword "LIMIT"] (F.expr 0) limit ls) (skipped : OffsetForm F tail fs)
    (hls : s.shows i ls) (hfs : s.shows (i + ls.length) fs)
    (hend : s.ends queryEnds (i + ls.length + fs.length)) :
    ∃ offset, boundsRound g ⟨none, none⟩ s i =
      (.ok ⟨limit, offset⟩, i + ls.length + fs.length) ∧ offset.getD [] = tail := by
  have hboth : ∀ k i, both (pure true) (keyword k) s i = keyword k s i := fun k i =>
    run_both_true (run_pure true)
  have hcomma : both (isAny [.mysql, .generic, .sqlite]) (symbol .comma) s
      (i + ls.length + fs.length) = (.ok false, i + ls.length + fs.length) :=
    run_both_isAny_false (run_symbol_false (hend.ne (by decide)))
  have hoffset := reads_offsetClause hread skipped hfs hend
  cases limited with
  | none =>
    replace hend : s.ends queryEnds (i + fs.length) := hend
    replace hoffset : keyword "OFFSET" s i = (.ok false, i + fs.length) ∧ tail = [] ∨
      keyword "OFFSET" s i = (.ok true, i + 1) ∧
        offsetClause g s (i + 1) = (.ok tail, i + fs.length) := hoffset
    have hlimit : keyword "LIMIT" s i = (.ok false, i) := by
      refine run_keyword_false ?_
      cases skipped with
      | none => exact hend.key_ne (by decide)
      | some h counted =>
        rw [show s.tokenAt i = .keyword "OFFSET" from hfs.1.2]
        decide
    obtain ⟨hkeyword, rfl⟩ | ⟨hkeyword, htail⟩ := hoffset
    · exact ⟨none, by simp [boundsRound, ↓run_bind, hboth, hlimit, hkeyword], rfl⟩
    · exact ⟨some tail, by simp [boundsRound, ↓run_bind, hboth, hlimit, hkeyword, run_map, htail], rfl⟩
  | @some e ts h =>
    obtain ⟨⟨-, hlimit⟩, hts⟩ := hls
    have hlength : i + ([Token.keyword "LIMIT"] ++ ts).length = i + 1 + ts.length := by
      simp only [List.length_append, List.length_cons, List.length_nil]
      omega
    rw [hlength] at hfs hoffset hend hcomma ⊢
    have hafter : s.ends exprEnds (i + 1 + ts.length) := by
      cases skipped with
      | none => exact hend.mono (by decide)
      | some h counted => exact Source.ends_of_eq hfs.1.2 (by decide)
    have he : g.expr s (i + 1) = _ := hread.expr _ _ _ h _ hts (hafter.halts 0)
    have hall := run_keyword_false fun hkey =>
      key_not_mem_of_shows hF h hts ["ALL"] (by decide) (hkey ▸ List.mem_cons_self)
    have hkeyword := run_keyword_true (key_of_keyword hlimit)
    obtain ⟨hskipped, rfl⟩ | ⟨hskipped, htail⟩ := hoffset
    · exact ⟨none, by simp [boundsRound, limitExpr, ↓run_bind, hboth, hkeyword, hall, he, hskipped,
        hcomma], rfl⟩
    · exact ⟨some tail, by simp [boundsRound, limitExpr, ↓run_bind, hboth, hkeyword, hall, he,
        hskipped, run_map, htail], rfl⟩

omit hread in
/-- Clauses that only some dialects know are left out after the bounds. -/
lemma run_afterBounds (hend : s.ends queryEnds i) :
    limitBy g s i = (.ok [], i) ∧ settings s i = (.ok none, i) ∧ fetchClause s i = (.ok [], i) ∧
      (∀ bound, forClauses (bound + 1) s i = (.ok "", i)) ∧ formatClause s i = (.ok [], i) := by
  have hby := run_keyword_false (hend.key_ne (k := "BY") (by decide))
  have hsettings := run_keyword_false (hend.key_ne (k := "SETTINGS") (by decide))
  have hfetch := run_keyword_false (hend.key_ne (k := "FETCH") (by decide))
  have hfor := run_keyword_false (hend.key_ne (k := "FOR") (by decide))
  have hformat := run_keyword_false (hend.key_ne (k := "FORMAT") (by decide))
  refine ⟨?_, ?_, ?_, fun bound => ?_, ?_⟩
  · simp [limitBy, ↓run_bind, run_both_isAny_false hby]
  · simp [settings, ↓run_bind, run_both_isAny_false hsettings]
  · simp [fetchClause, ↓run_bind, hfetch]
  · simp [forClauses, ↓run_bind, hfor]
  · simp [formatClause, ↓run_bind, run_both_isAny_false hformat]

include hF

lemma reads_query {q : Query} {ts : List Token} (h : QueryForm s.dialect F q ts)
    (insert update : Parser Statement) :
    Reads s (query g insert update) ts q (s.ends queryEnds) := by
  intro i hshows hend
  cases h with
  | @mk recursive ctes body orderBy limit tail ws bs os ls fs common rows sorted limited skipped =>
    obtain ⟨hshows, hfs⟩ := Source.shows_append.1 hshows
    obtain ⟨hshows, hls⟩ := Source.shows_append.1 hshows
    obtain ⟨hshows, hos⟩ := Source.shows_append.1 hshows
    obtain ⟨hws, hbs⟩ := Source.shows_append.1 hshows
    simp only [List.length_append, ← Nat.add_assoc] at hos hls hfs hend ⊢
    obtain ⟨offset, hbounds, htail⟩ := reads_bounds hF hread limited skipped hls hfs hend
    have hlimited : s.ends sortEnds (i + ws.length + bs.length + os.length) :=
      ends_before_clause limited hls (ends_before_offset skipped hfs hend)
    have horder := reads_orderClause hread sorted _ hos hlimited
    have hbody := reads_body hF hread rows _ hbs (ends_before_list sorted hos hlimited)
    have hstarts : s.ends [.keyword "SELECT", .symbol .lParen] (i + ws.length) := by
      obtain ⟨t, us, rfl, ht⟩ := starts_body rows
      exact Source.ends_of_eq hbs.1.2 ht
    have hwith := reads_withClause hread common i hws hstarts
    have hinsert := run_keyword_false (hstarts.key_ne (k := "INSERT") (by decide))
    have hupdate := run_keyword_false (hstarts.key_ne (k := "UPDATE") (by decide))
    have hrest := run_boundsRound (g := g) ⟨limit, offset⟩ hend
    obtain ⟨hby, hsettings, hfetch, hlocks, hformat⟩ := run_afterBounds (g := g) hend
    cases orderBy with
    | nil =>
      simp [query, ↓run_bind, hwith, hinsert, hupdate, hbody, horder, hbounds, hrest, hby,
        hsettings, hfetch, hlocks, hformat, htail]
    | cons k ks =>
      have hinterpolate : interpolations g s (i + ws.length + bs.length + os.length) =
          (.ok [], i + ws.length + bs.length + os.length) := by
        have hkey := run_keyword_false (hlimited.key_ne (k := "INTERPOLATE") (by decide))
        simp [interpolations, ↓run_bind, run_both_isAny_false hkey]
      simp [query, ↓run_bind, hwith, hinsert, hupdate, hbody, horder, hinterpolate, hbounds, hrest,
        hby, hsettings, hfetch, hlocks, hformat, htail]

end Queries

end Parser

end RowFence.Sql
