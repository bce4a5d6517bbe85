import RowFence.Proofs.Sql.FormTexts
import RowFence.Proofs.Sql.QueryReading
import RowFence.Scope.Outcome

/-! Statements are read from their tokens as they were written, and so from their texts: what a form
is printed as parses to that form. -/

namespace RowFence.Sql

def statementEnds : List Token := [.symbol .semiColon, .ending]

namespace Parser

variable {s : Source} {g : Grammar} {F : Forms}

/-- What nests within a depth is read by the parsers that are cut off there. -/
lemma readBy_within (hs : s.IsUsual) :
    (depth : Nat) → (Forms.within s.dialect depth).ReadBy s (Grammar.within depth)
  | 0 => ⟨nofun, nofun, nofun⟩
  | depth + 1 =>
    have hF := Forms.regular_within s.dialect depth
    have hread := readBy_within hs depth
    { expr := fun _ _ _ h => reads_subexpr hs hF hread h
      query := fun _ _ h => reads_query hF hread h _ _
      opens := fun _ _ _ h _ => opens_expr hF h }

section Changes

variable (hread : F.ReadBy s g)

include hread

lemma reads_assignment {ps : List Piece} {ts : List Token} (h : AssignmentForm s.dialect F ps ts) :
    Reads s (assignment g) ts ps
      (s.ends (.symbol .comma :: .keyword "FROM" :: .keyword "WHERE" :: statementEnds)) := by
  intro i hshows hend
  cases h with
  | @mk n e ts nonempty target h =>
    obtain ⟨j, n, rfl⟩ := List.exists_cons_of_ne_nil nonempty
    obtain ⟨hname, ⟨-, heq⟩, hvalue⟩ := Source.shows_append.1 hshows
    have hlength : i + (Name.tokens (j :: n) ++ Token.symbol .eq :: ts).length =
        i + (Name.tokens (j :: n)).length + 1 + ts.length := by
      simp only [List.length_append, List.length_cons]
      omega
    rw [hlength] at hend ⊢
    have hperiod : .symbol .period ∉ [Token.symbol .eq] := by decide
    have hobject := reads_objectName j n hperiod i hname (Source.ends_of_eq heq List.mem_cons_self)
    have hparen : s.tokenAt i ≠ .symbol .lParen := by
      rw [tokens_cons] at hname
      rw [hname.1.2]
      exact nofun
    have he : g.expr s (i + (Name.tokens (j :: n)).length + 1) = _ :=
      hread.expr _ _ _ h _ hvalue ((hend.mono (by decide)).halts 0)
    simp [assignment, assignmentTarget, pieceOf, ↓run_bind, run_symbol_false hparen,
      hobject, run_expectSymbol heq, he]

omit hread in
lemma run_returningClause_nil {i : Nat} (hend : s.ends statementEnds i) :
    returningClause g s i = (.ok [], i) := by
  simp [returningClause, ↓run_bind, run_keyword_false (hend.key_ne (k := "RETURNING") (by decide))]

lemma reads_condition {e? : Option Expr} {ts : List Token}
    (h : ClauseForm [.keyword "WHERE"] (F.expr 0) e? ts) :
    Reads s (optionalExpr g "WHERE") ts e? (s.ends statementEnds) :=
  reads_optionalExpr hread h (by decide) (by decide)

/-- A table that an update takes its values from, where the dialect lets it. -/
lemma run_updateSource {source? : Option TableWithJoins} {ts : List Token}
    (h : ClauseForm [.keyword "FROM"] (TableForm s.dialect F) source? ts)
    (allowed : source? ≠ none → s.dialect ≠ .mysql) {i : Nat} (hshows : s.shows i ts)
    (hend : s.ends (.keyword "WHERE" :: statementEnds) (i + ts.length)) :
    both (keyword "FROM") (isAny [.generic, .postgres, .sqlite]) s i = (.ok false, i + ts.length) ∧
        source? = none ∨
      ∃ t, both (keyword "FROM") (isAny [.generic, .postgres, .sqlite]) s i = (.ok true, i + 1) ∧
        tableWithJoins g s (i + 1) = (.ok t, i + ts.length) ∧ source? = some t := by
  cases h with
  | none =>
    replace hend : s.ends (.keyword "WHERE" :: statementEnds) i := hend
    exact .inl ⟨run_both_false (run_keyword_false (hend.key_ne (by decide))), rfl⟩
  | @some t ts h =>
    obtain ⟨⟨-, hfrom⟩, hts⟩ := hshows
    have hlength : i + ([Token.keyword "FROM"] ++ ts).length = i + 1 + ts.length := by
      simp only [List.length_append, List.length_cons, List.length_nil]
      omega
    rw [hlength] at hend ⊢
    have htable := reads_table hread h _ hts (hend.mono (by decide))
    have hdialect := allowed nofun
    refine .inr ⟨t, ?_, htable, rfl⟩
    rw [run_both_true (run_keyword_true (key_of_keyword hfrom)), run_isAny]
    cases hd : s.dialect with
    | mysql => exact absurd hd hdialect
    | _ => rfl

lemma reads_update {target : TableWithJoins} {changes : List (List Piece)}
    {source? : Option TableWithJoins} {condition : Option Expr} {ts us fs cs : List Token}
    (table : TableForm s.dialect F target ts)
    (changed : Commas (AssignmentForm s.dialect F) changes us)
    (source : ClauseForm [.keyword "FROM"] (TableForm s.dialect F) source? fs)
    (allowed : source? ≠ none → s.dialect ≠ .mysql)
    (tested : ClauseForm [.keyword "WHERE"] (F.expr 0) condition cs) :
    Reads s (update g) (ts ++ .keyword "SET" :: us ++ fs ++ cs)
      (.update { target, assignments := .text " SET " :: commaPieces changes, source?,
                 condition, returning := [] })
      (s.ends statementEnds) := by
  intro i hshows hend
  obtain ⟨hshows, hcs⟩ := Source.shows_append.1 hshows
  obtain ⟨hshows, hfs⟩ := Source.shows_append.1 hshows
  obtain ⟨hts, ⟨-, hset⟩, hus⟩ := Source.shows_append.1 hshows
  have hafter : i + (ts ++ Token.keyword "SET" :: us).length = i + ts.length + 1 + us.length := by
    simp only [List.length_append, List.length_cons]
    omega
  have hlength : i + (ts ++ Token.keyword "SET" :: us ++ fs).length =
      i + ts.length + 1 + us.length + fs.length := by
    rw [List.length_append, ← Nat.add_assoc, hafter]
  rw [hafter] at hfs
  rw [hlength] at hcs
  rw [List.length_append, ← Nat.add_assoc, hlength] at hend ⊢
  have htested := ends_before_clause tested hcs hend
  have hsource := run_updateSource hread source allowed hfs htested
  have hsourced := ends_before_clause source hfs htested
  have htable := reads_table hread table i hts (Source.ends_of_eq hset (by decide))
  have hchanges := Reads.commaSeparated _ (fun _ _ => reads_assignment hread) (by decide) changed _
    hus hsourced
  have hcondition := reads_condition hread tested _ hcs hend
  obtain ⟨hfrom, rfl⟩ | ⟨t, hfrom, ht, rfl⟩ := hsource
  · simp [update, assignments, ↓run_bind, htable, run_expectKeyword (key_of_keyword hset),
      hchanges, hfrom, hcondition, run_returningClause_nil hend]
  · simp [update, assignments, ↓run_bind, run_map, htable, run_expectKeyword (key_of_keyword hset),
      hchanges, hfrom, ht, hcondition, run_returningClause_nil hend]

omit hread in
lemma run_deletedNames {named : List Name} {ns : List Token}
    (h : ListForm [] (NameForm s.dialect) named ns) (allowed : named ≠ [] → s.dialect ≠ .generic)
    {i : Nat} (hshows : s.shows i ns) (hfrom : s.tokenAt (i + ns.length) = .keyword "FROM") :
    keyword "FROM" s i = (.ok true, i + ns.length + 1) ∧ named = [] ∨
      (s.dialect == .generic) = false ∧ keyword "FROM" s i = (.ok false, i) ∧
        commaSeparated objectName s i = (.ok named, i + ns.length) := by
  cases h with
  | nil => exact .inl ⟨run_keyword_true (key_of_keyword hfrom), rfl⟩
  | @items _ ns h =>
    have hnamed : named ≠ [] := by
      cases h <;> exact nofun
    obtain ⟨t, us, hns, hkey⟩ := h.begins (P := fun t => t.key ≠ "FROM") fun n ts hn => by
      obtain ⟨first, others⟩ := hn
      rw [tokens_cons]
      refine ⟨_, _, rfl, fun hkey => first.free ?_⟩
      change (Token.word _).key ∈ reservedWords
      rw [hkey]
      decide
    have hnames := Reads.commaSeparated [.keyword "FROM"] (fun n ts hn => by
      obtain ⟨first, others⟩ := hn
      exact reads_objectName _ _ (by decide)) (by decide) h i hshows
      (Source.ends_of_eq hfrom List.mem_cons_self)
    refine .inr ⟨beq_false_of_ne (allowed hnamed), run_keyword_false ?_, hnames⟩
    rw [List.nil_append, hns] at hshows
    rw [hshows.1.2]
    exact hkey

lemma reads_targets {targets sources : List TableWithJoins} {ts : List Token}
    (h : TargetsForm s.dialect F targets sources ts) {i : Nat} (hshows : s.shows i ts)
    (hend : s.ends (.keyword "WHERE" :: statementEnds) (i + ts.length)) :
    ∃ j, commaSeparated (tableWithJoins g) s i = (.ok targets, j) ∧
      (keyword "USING" s j = (.ok false, i + ts.length) ∧ sources = [] ∨
        keyword "USING" s j = (.ok true, j + 1) ∧
          commaSeparated (tableWithJoins g) s (j + 1) = (.ok sources, i + ts.length)) := by
  have hall : ∀ tables us, Commas (TableForm s.dialect F) tables us →
      Reads s (commaSeparated (tableWithJoins g)) us tables
        (s.ends (.keyword "WHERE" :: statementEnds)) := fun tables us h =>
    Reads.commaSeparated _
      (fun t ts ht i hshows hend => reads_table hread ht i hshows (hend.mono (by decide)))
      (by decide) h
  cases h with
  | alone h =>
    exact ⟨_, hall _ _ h i hshows hend, .inl ⟨run_keyword_false (hend.key_ne (by decide)), rfl⟩⟩
  | @sourced _ ts us h source =>
    obtain ⟨hts, ⟨-, husing⟩, hus⟩ := Source.shows_append.1 hshows
    have hlength : i + (ts ++ Token.keyword "USING" :: us).length =
        i + ts.length + 1 + us.length := by
      simp only [List.length_append, List.length_cons]
      omega
    rw [hlength] at hend ⊢
    have htargets := Reads.commaSeparated [.keyword "USING"]
      (fun t ts ht i hshows hend => reads_lone hread ht i hshows (hend.mono (by decide)))
      (by decide) h i hts (Source.ends_of_eq husing List.mem_cons_self)
    exact ⟨_, htargets, .inr ⟨run_keyword_true (key_of_keyword husing), hall _ _ source _ hus hend⟩⟩

lemma reads_delete {named : List Name} {targets sources : List TableWithJoins}
    {condition : Option Expr} {ns ts cs : List Token}
    (chosen : ListForm [] (NameForm s.dialect) named ns)
    (allowed : named ≠ [] → s.dialect ≠ .generic) (table : TargetsForm s.dialect F targets sources ts)
    (tested : ClauseForm [.keyword "WHERE"] (F.expr 0) condition cs) :
    Reads s (delete g) (ns ++ .keyword "FROM" :: ts ++ cs)
      (.delete { named, fromKeyword := true, targets, sources, condition, tail := [] })
      (s.ends statementEnds) := by
  intro i hshows hend
  obtain ⟨hshows, hcs⟩ := Source.shows_append.1 hshows
  obtain ⟨hns, ⟨-, hfrom⟩, hts⟩ := Source.shows_append.1 hshows
  have hafter : i + (ns ++ Token.keyword "FROM" :: ts).length = i + ns.length + 1 + ts.length := by
    simp only [List.length_append, List.length_cons]
    omega
  rw [List.length_append, ← Nat.add_assoc, hafter] at hend ⊢
  rw [hafter] at hcs
  have htested := ends_before_clause tested hcs hend
  obtain ⟨j, htargets, hsources⟩ := reads_targets hread table hts htested
  have hnames := run_deletedNames chosen allowed hns hfrom
  have hkeyFrom := key_of_keyword hfrom
  have hcondition := reads_condition hread tested _ hcs hend
  have horder := run_keywords_cons_false ["BY"] (hend.key_ne (k := "ORDER") (by decide))
  have hlimit := run_keyword_false (hend.key_ne (k := "LIMIT") (by decide))
  rcases hnames with ⟨hkeyword, rfl⟩ | ⟨hd, hkeyword, hnames⟩ <;>
    rcases hsources with ⟨husing, rfl⟩ | ⟨husing, hsources⟩
  · simp [delete, ↓run_bind, hkeyword, htargets, husing, hcondition, run_returningClause_nil hend,
      horder, hlimit]
  · simp [delete, ↓run_bind, hkeyword, htargets, husing, hsources, hcondition,
      run_returningClause_nil hend, horder, hlimit]
  · simp [delete, ↓run_bind, hkeyword, hd, hnames, run_expectKeyword hkeyFrom, htargets, husing,
      hcondition, run_returningClause_nil hend, horder, hlimit]
  · simp [delete, ↓run_bind, hkeyword, hd, hnames, run_expectKeyword hkeyFrom, htargets, husing,
      hsources, hcondition, run_returningClause_nil hend, horder, hlimit]

end Changes

/-- No dialect has a statement of its own that begins with another word than these. -/
lemma run_dialectStatement?_none {i : Nat}
    (hk : (s.tokenAt i).key ∉ ["LOCK", "UNLOCK", "COMMENT", "CREATE"]) :
    dialectStatement? s i = (.ok none, i) := by
  have hno : ∀ l ∈ ["LOCK", "UNLOCK", "COMMENT", "CREATE"], (s.tokenAt i).key ≠ l :=
    fun l hl heq => hk (by rwa [heq])
  have hlock := run_keywords_cons_false ["TABLES"] (hno "LOCK" (by decide))
  have hunlock := run_keywords_cons_false ["TABLES"] (hno "UNLOCK" (by decide))
  have hcomment := run_keyword_false (hno "COMMENT" (by decide))
  have hcreate := run_keyword_false (hno "CREATE" (by decide))
  have henum : createEnum? s i = (.ok none, i) := by
    have hname : maybe? enumName s i = (.ok none, i) := by
      rw [maybe?, show enumName s i = (.error (.expected "CREATE" (s.tokenAt i).text
        (s.placedAt i).place), i) by
          simp [enumName, expectKeywords, expectKeyword, ↓run_bind, hcreate]
          rfl]
    simp [createEnum?, ↓run_bind, hname]
  cases hd : s.dialect <;>
    simp [dialectStatement?, ↓run_bind, hd, hlock, hunlock, hcomment, henum]

/-- A statement that begins with a word is read by the parser for that word. -/
lemma run_statement_word {i : Nat} {k : String} {p : Parser Statement}
    (h : s.tokenAt i = .keyword k) (hk : k ∉ ["LOCK", "UNLOCK", "COMMENT", "CREATE"])
    (hquery : k ∉ ["SELECT", "WITH", "VALUES"]) (hp : wordStatement? g k = some p) :
    statement g s i = p s (i + 1) := by
  have hkey := key_of_keyword h
  have hplaced : (s.placedAt i).token = .keyword k := h
  have hparen : (Token.keyword k == .symbol .lParen) = false := by
    rw [beq_eq_false_iff_ne]
    exact nofun
  have hword : (Token.keyword k).key = k := rfl
  have hcontains : (["SELECT", "WITH", "VALUES"].contains k) = false := by simpa using hquery
  simp only [statement, ↓run_bind, run_dialectStatement?_none (hkey ▸ hk), run_peek, hplaced,
    hparen, hword, hcontains, Bool.or_self, Bool.false_eq_true, if_false, run_skip, run_dialect, hp]

lemma run_statement_query {i j : Nat} {q : Query} (h : s.tokenAt i ∈ queryStarts)
    (hq : g.query s i = (.ok q, j)) : statement g s i = (.ok (.query q), j) := by
  have hplaced : (s.placedAt i).token = s.tokenAt i := rfl
  have hstarts : ∀ t ∈ queryStarts, t.key ∉ ["LOCK", "UNLOCK", "COMMENT", "CREATE"] ∧
      (t == .symbol .lParen || ["SELECT", "WITH", "VALUES"].contains t.key) = true := by decide
  obtain ⟨hk, hquery⟩ := hstarts _ h
  simp only [statement, ↓run_bind, run_dialectStatement?_none hk, run_peek, hplaced, hquery,
    if_true, hq, run_pure]

lemma reads_statement (hF : F.Regular) (hread : F.ReadBy s g) {st : Statement} {ts : List Token}
    (h : StatementForm s.dialect F st ts) : Reads s (statement g) ts st (s.ends statementEnds) := by
  intro i hshows hend
  cases h with
  | @query q ts h =>
    refine run_statement_query ?_ (hread.query _ _ h i hshows (hend.mono (by decide)))
    obtain ⟨t, us, rfl, ht⟩ := hF.starts _ _ h
    rwa [hshows.1.2]
  | @update target changes source? condition ts us fs cs table changed source allowed tested =>
    rw [run_statement_word hshows.1.2 (by decide) (by decide) rfl]
    have hlength : i + (.keyword "UPDATE" :: ts ++ Token.keyword "SET" :: us ++ fs ++ cs).length =
        i + 1 + (ts ++ Token.keyword "SET" :: us ++ fs ++ cs).length := by
      simp only [List.length_append, List.length_cons]
      omega
    rw [hlength] at hend ⊢
    exact reads_update hread table changed source allowed tested _ hshows.2 hend
  | @delete named targets sources condition ns ts cs chosen allowed table tested =>
    rw [run_statement_word hshows.1.2 (by decide) (by decide) rfl]
    have hlength : i + (.keyword "DELETE" :: ns ++ Token.keyword "FROM" :: ts ++ cs).length =
        i + 1 + (ns ++ Token.keyword "FROM" :: ts ++ cs).length := by
      simp only [List.length_append, List.length_cons]
      omega
    rw [hlength] at hend ⊢
    exact reads_delete hread chosen allowed table tested _ hshows.2 hend

lemma statement_begins {d : Dialect} (hF : F.Regular) {st : Statement} {ts : List Token}
    (h : StatementForm d F st ts) :
    ∃ t us, ts = t :: us ∧ t ≠ .symbol .semiColon ∧ t ≠ .ending := by
  cases h with
  | query h =>
    obtain ⟨t, us, rfl, ht⟩ := hF.starts _ _ h
    have hstarts : ∀ t ∈ queryStarts, t ≠ .symbol .semiColon ∧ t ≠ .ending := by decide
    exact ⟨t, us, rfl, hstarts t ht⟩
  | update table changed source allowed tested => exact ⟨_, _, rfl, nofun, nofun⟩
  | delete chosen allowed table tested => exact ⟨_, _, rfl, nofun, nofun⟩

lemma statements_begin {d : Dialect} (hF : F.Regular) {ss : List Statement} {ts : List Token}
    (h : StatementsForm d F ss ts) :
    ∃ t us, ts = t :: us ∧ t ≠ .symbol .semiColon ∧ t ≠ .ending := by
  cases h with
  | one h => exact statement_begins hF h
  | more h others =>
    obtain ⟨t, us, rfl, ht⟩ := statement_begins hF h
    exact ⟨t, _, rfl, ht⟩

lemma length_statements_le {d : Dialect} (hF : F.Regular) {ss : List Statement} {ts : List Token}
    (h : StatementsForm d F ss ts) : ss.length ≤ ts.length := by
  induction h with
  | one h =>
    obtain ⟨t, us, rfl, -⟩ := statement_begins hF h
    simp
  | more h others ih =>
    simp only [List.length_cons, List.length_append]
    omega

def semicolon? : Parser (Option Unit) := do
  if ← symbol .semiColon then return some () else return none

lemma run_semicolon?_none {i : Nat} (h : s.tokenAt i ≠ .symbol .semiColon) :
    semicolon? s i = (.ok none, i) := by
  simp [semicolon?, ↓run_bind, run_symbol_false h]

/-- Semicolons before a list of statements are passed over, then it is read up to the end. -/
lemma run_statementsWithin {whole : Grammar} (hF : F.Regular)
    (hread : ∀ st ts, StatementForm s.dialect F st ts →
      Reads s whole.statement ts st (s.ends statementEnds))
    {ss : List Statement} {ts : List Token} (h : StatementsForm s.dialect F ss ts) {i k : Nat}
    {us : List Unit} (hskip : many semicolon? s k = (.ok us, i)) (hshows : s.shows i ts)
    (hend : s.tokenAt (i + ts.length) = .ending) (bound : Nat) (hbound : ss.length ≤ bound) :
    statementsWithin whole bound s k = (.ok ss, i + ts.length) := by
  have hplaced : ∀ j, (s.placedAt j).token = s.tokenAt j := fun _ => rfl
  have hfirst : s.tokenAt i ≠ .ending := by
    obtain ⟨t, vs, rfl, -, ht⟩ := statements_begin hF h
    rwa [hshows.1.2]
  -- Each round begins with the semicolons before its statement; after the first one that is one.
  induction h generalizing i k us bound with
  | @one st ts h =>
    obtain ⟨bound, rfl⟩ := Nat.exists_eq_succ_of_ne_zero (Nat.ne_of_gt hbound)
    have hst := hread st ts h i hshows (Source.ends_of_eq hend (by decide))
    rw [statementsWithin]
    refine (run_bind_ok hskip).trans ?_
    simp [↓run_bind, hplaced, hfirst, hst, hend]
  | @more st ss ts vs h others ih =>
    obtain ⟨bound, rfl⟩ := Nat.exists_eq_succ_of_ne_zero
      (Nat.ne_of_gt (Nat.zero_lt_of_lt (Nat.lt_of_succ_le hbound)))
    obtain ⟨hts, ⟨hlt, hsemicolon⟩, hvs⟩ := Source.shows_append.1 hshows
    have hlength : i + (ts ++ Token.symbol .semiColon :: vs).length =
        i + ts.length + 1 + vs.length := by
      simp only [List.length_append, List.length_cons]
      omega
    rw [hlength] at hend ⊢
    have hst := hread st ts h i hts (Source.ends_of_eq hsemicolon (by decide))
    obtain ⟨t, ws, rfl, hmore, hnext⟩ := statements_begin hF others
    have hpass : many semicolon? s (i + ts.length) = (.ok [()], i + ts.length + 1) := by
      refine run_many (.cons (j := i + ts.length + 1) ?_ (.nil ?_)) (by simp; omega)
      · simp [semicolon?, ↓run_bind, run_symbol_true hsemicolon]
      · exact run_semicolon?_none (by rwa [hvs.1.2])
    have hrest := ih hpass hvs hend bound (by simpa using hbound) (by rwa [hvs.1.2])
    have hkey : (Token.symbol .semiColon).key = "" := rfl
    rw [statementsWithin]
    refine (run_bind_ok hskip).trans ?_
    simp [↓run_bind, run_map, hplaced, hfirst, hst, hsemicolon, hkey, hrest]

end Parser

section Texts

variable {d : Dialect}

lemma plain_assignment {F : Forms} (hF : F.Regular) {ps : List Piece} {ts : List Token}
    (h : AssignmentForm d F ps ts) : Plain ts := by
  cases h with
  | mk nonempty target h => simp [plain_name, hF.exprPlain _ _ _ h]

lemma plain_targets {F : Forms} (hF : F.Regular) {targets sources : List TableWithJoins}
    {ts : List Token} (h : TargetsForm d F targets sources ts) : Plain ts := by
  cases h with
  | alone h => exact plain_commas (fun _ _ => plain_table hF) h
  | sourced h source =>
    have hlone := plain_commas (fun t ts (h : LoneForm d F t ts) => by
      cases h with
      | mk h => exact plain_factor hF h) h
    simp [hlone, plain_commas (fun _ _ => plain_table hF) source]

lemma plain_statement {F : Forms} (hF : F.Regular) {st : Statement} {ts : List Token}
    (h : StatementForm d F st ts) : Plain ts := by
  cases h with
  | query h => exact hF.queryPlain _ _ h
  | update table changed source allowed tested =>
    simp [plain_table hF table, plain_commas (fun _ _ => plain_assignment hF) changed,
      plain_clause (fun _ _ => plain_table hF) (by simp) source,
      plain_clause (hF.exprPlain 0) (by simp) tested]
  | delete chosen allowed table tested =>
    have hnames := plain_list (fun n ts (h : NameForm d n ts) => by
      cases h
      exact plain_name _) plain_nil chosen
    simp [hnames, plain_targets hF table, plain_clause (hF.exprPlain 0) (by simp) tested]

lemma plain_statements {F : Forms} (hF : F.Regular) {ss : List Statement} {ts : List Token}
    (h : StatementsForm d F ss ts) : Plain ts := by
  induction h with
  | one h => exact plain_statement hF h
  | more h others ih => simp [plain_statement hF h, ih]

lemma tokenAt_eq {s : Source} {ts : List Token} (h : s.tokens.toList.map (·.token) = ts) (i : Nat) :
    s.tokenAt i = (ts[i]?).getD .ending := by
  subst h
  rw [List.getElem?_map, Array.getElem?_toList]
  cases hi : s.tokens[i]? <;> simp [Source.tokenAt, Source.placedAt, hi]

lemma shows_of_drop {s : Source} {ts us vs : List Token} (h : s.tokens.toList.map (·.token) = ts)
    {i : Nat} (hdrop : ts.drop i = us ++ vs) : s.shows i us := by
  induction us generalizing i with
  | nil => trivial
  | cons u us ih =>
    have hget : ts[i]? = some u := by
      rw [← List.head?_drop, hdrop]
      rfl
    have hlt : i < s.tokens.size := by
      obtain ⟨hi, -⟩ := List.getElem?_eq_some_iff.1 hget
      rwa [← h, List.length_map, Array.length_toList] at hi
    refine ⟨⟨hlt, by rw [tokenAt_eq h, hget]; rfl⟩, ih ?_⟩
    rw [← List.tail_drop, hdrop]
    rfl

lemma not_mem_unusualTokens {t : Token} (h : t.isPlain = true) : t ∉ unusualTokens := by
  intro ht
  simp only [unusualTokens, List.mem_cons, List.not_mem_nil, or_false] at ht
  rcases ht with rfl | rfl | rfl <;> exact absurd h (by decide)

lemma isUsual_of_tokens {s : Source} {ts : List Token}
    (h : s.tokens.toList.map (·.token) = ts ++ [Token.ending]) (hplain : Plain ts) : s.IsUsual := by
  intro i
  rw [tokenAt_eq h]
  cases hi : (ts ++ [Token.ending])[i]? with
  | none => decide
  | some t =>
    rcases List.mem_append.1 (List.mem_of_getElem? hi) with ht | ht
    · exact not_mem_unusualTokens (hplain t ht)
    · obtain rfl := List.mem_singleton.1 ht
      decide

/-- What statements of these forms are printed as parses to them. -/
theorem parseStatements_spellStatements {ss : List Statement} {ts : List Token}
    (h : StatementsForm d (Forms.within d 49) ss ts) :
    parseStatements d (spellStatements ss) = .ok ss := by
  have hF := Forms.regular_within d 49
  obtain ⟨tokens, hsplit, htokens⟩ := Lexer.tokens_of_splits
    (Lexer.splits_of_splitsInto (splitsInto_statements (Forms.spelled_within d 49) h))
  let s : Source := { tokens, dialect := d, hierarchical := false }
  have hs : s.tokens.toList.map (·.token) = ts ++ [Token.ending] := htokens
  have husual : s.IsUsual := isUsual_of_tokens hs (plain_statements hF h)
  have hshows : s.shows 0 ts := shows_of_drop hs (List.drop_zero ..)
  have hend : s.tokenAt (0 + ts.length) = .ending := by
    rw [tokenAt_eq hs, Nat.zero_add, List.getElem?_append_right (Nat.le_refl _), Nat.sub_self]
    rfl
  have hfirst : s.tokenAt 0 ≠ .symbol .semiColon := by
    obtain ⟨t, us, rfl, ht, -⟩ := Parser.statements_begin hF h
    rwa [hshows.1.2]
  have hlength := Parser.length_statements_le hF h
  have hsize := Source.length_le_of_shows hshows
  have hread := Parser.readBy_within husual 49
  have hstatements : Parser.statements .whole s 0 = (.ok ss, 0 + ts.length) :=
    Parser.run_statementsWithin hF (fun st us hst => Parser.reads_statement hF hread hst) h
      (Parser.run_many_nil (Parser.run_semicolon?_none hfirst)) hshows hend _ (by omega)
  rw [parseStatements, Parser.run, hsplit]
  exact congrArg (·.1) hstatements

end Texts

end RowFence.Sql
