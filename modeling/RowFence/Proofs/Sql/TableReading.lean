import RowFence.Proofs.Sql.ExprReading

/-! Tables and joins are read from their tokens as they were written. -/

namespace RowFence.Sql

/-- What may stand after the tables of a clause. -/
def sourceEnds : List Token :=
  [.symbol .comma, .symbol .rParen, .symbol .semiColon, .ending]
    ++ ["WHERE", "GROUP", "HAVING", "ORDER", "LIMIT", "OFFSET", "UNION", "EXCEPT", "INTERSECT",
      "SET"].map .keyword

def joinEnds : List Token :=
  sourceEnds ++ ["JOIN", "LEFT", "RIGHT", "FULL", "CROSS", "NATURAL", "OUTER"].map .keyword

def factorEnds : List Token := joinEnds ++ ["ON", "USING"].map .keyword

namespace Parser

variable {s : Source} {g : Grammar} {F : Forms} {i j : Nat}

section Names

lemma reads_objectName (j : Ident) (n : Name) {es : List Token} (hes : .symbol .period ∉ es) :
    Reads s objectName (Name.tokens (j :: n)) (j :: n) (s.ends es) := by
  intro i hshows hend
  rw [tokens_cons] at hshows hend ⊢
  obtain ⟨⟨-, hword⟩, hparts⟩ := hshows
  have hlength : i + (Token.word j.word :: partTokens n).length =
      i + 1 + (partTokens n).length := by rw [List.length_cons]; omega
  rw [hlength] at hend ⊢
  refine (run_bind_ok (run_identifier hword)).trans
    ((run_bind_ok (run_many_parts hparts ?_ ?_)).trans ?_)
  · intro i w hperiod hword
    simp [↓run_bind, run_map, run_symbol_true hperiod, run_identifier hword]
  · simp [↓run_bind, run_symbol_false (hend.ne hes)]
  · rw [Ident.ofWord_word]
    rfl

/-- An alias is left out where a word stops it or a sign stands. -/
lemma run_optionalAlias_none (stops : List String) (has : (s.tokenAt i).key ≠ "AS")
    (hstops : ∀ w, s.tokenAt i = .word w → w.key ∈ stops)
    (hstring : ∀ kind body, s.tokenAt i ≠ .string kind body) :
    optionalAlias stops s i = (.ok none, i) := by
  have hplaced : (s.placedAt i).token = s.tokenAt i := rfl
  cases htoken : s.tokenAt i with
  | word w =>
    simp [optionalAlias, ↓run_bind, run_map, run_keyword_false has, hplaced, htoken,
      hstops w htoken]
  | string kind body => exact absurd htoken (hstring kind body)
  | _ => simp [optionalAlias, ↓run_bind, run_map, run_keyword_false has, hplaced, htoken]

lemma run_optionalAlias_some (stops : List String) {w : Word} (has : (s.tokenAt i).key = "AS")
    (hword : s.tokenAt (i + 1) = .word w) :
    optionalAlias stops s i = (.ok (some (.ofWord w)), i + 2) := by
  have hplaced : (s.placedAt (i + 1)).token = .word w := hword
  simp [optionalAlias, ↓run_bind, run_keyword_true has, hplaced]

lemma reads_identifiers {names : List Ident} {ts : List Token}
    (h : Commas (IdentForm s.dialect) names ts) :
    Reads s (commaSeparated identifier) ts names (s.ends [.symbol .rParen]) := by
  refine Reads.commaSeparated _ ?_ (by decide) h
  intro j ts hj i hshows hend
  obtain ⟨rereads⟩ := hj
  rw [run_identifier hshows.1.2, Ident.ofWord_word]
  rfl

lemma run_columnNames {names : List Ident} {ts : List Token} (optional : Bool)
    (h : Commas (IdentForm s.dialect) names ts)
    (hshows : s.shows i (.symbol .lParen :: ts ++ [Token.symbol .rParen])) :
    columnNames optional s i =
      (.ok names, i + (.symbol .lParen :: ts ++ [Token.symbol .rParen]).length) := by
  obtain ⟨hopen, hnames, hclose, hlength⟩ := shows_parens hshows
  have hread := reads_identifiers h _ hnames (Source.ends_of_eq hclose List.mem_cons_self)
  rw [hlength]
  simp [columnNames, ↓run_bind, run_symbol_true hopen, hread, run_expectSymbol hclose]

lemma reads_columns {names : List Ident} {ts : List Token} (h : ColumnsForm s.dialect names ts)
    {es : List Token} (hes : .symbol .lParen ∉ es) :
    Reads s (columnNames true) ts names (s.ends es) := by
  intro i hshows hend
  cases h with
  | nil =>
    have hparen : s.tokenAt i ≠ .symbol .lParen := hend.ne hes
    simp [columnNames, ↓run_bind, run_symbol_false hparen]
  | items named => exact run_columnNames true named hshows

lemma reads_alias {alias? : Option TableAlias} {ts : List Token} (h : AliasForm s.dialect alias? ts) :
    Reads s tableAlias ts alias? (s.ends factorEnds) := by
  intro i hshows hend
  cases h with
  | none =>
    replace hend : s.ends factorEnds i := hend
    have hstops : ∀ t ∈ factorEnds, (∀ w, t = .word w → w.key ∈ tableStops) ∧
        ∀ kind body, t ≠ .string kind body := by
      simp [factorEnds, joinEnds, sourceEnds, Token.keyword, tableStops]
    have halias := run_optionalAlias_none tableStops (hend.key_ne (by decide))
      (hstops _ hend).1 (hstops _ hend).2
    simp [tableAlias, ↓run_bind, halias]
  | @some j columns ts plain listed =>
    obtain ⟨⟨-, has⟩, ⟨-, hword⟩, hts⟩ := hshows
    have hlength : i + (.keyword "AS" :: Token.word j.word :: ts).length = i + 2 + ts.length := by
      simp only [List.length_cons]
      omega
    rw [hlength] at hend ⊢
    have halias := run_optionalAlias_some tableStops (key_of_keyword has) hword
    have hcolumns := reads_columns listed (by decide) _ hts hend
    rw [Ident.ofWord_word] at halias
    simp [tableAlias, ↓run_bind, halias, hcolumns]

end Names

section Factors

lemma run_rotated (t : TableFactor) (bound : Nat) (hend : s.ends factorEnds i) :
    rotated g bound t s i = (.ok t, i) := by
  have hkeys : ∀ t ∈ factorEnds, t.key ∉ ["PIVOT", "UNPIVOT"] := by decide
  cases bound with
  | zero => rfl
  | succ bound => simp [rotated, ↓run_bind, run_oneOf?_none (hkeys _ hend)]

lemma reads_baseTable {j : Ident} {n : Name} {alias? : Option TableAlias} {ts : List Token}
    (h : AliasForm s.dialect alias? ts) :
    Reads s (baseTable g) (Name.tokens (j :: n) ++ ts) (.base (j :: n) [] alias? [])
      (s.ends factorEnds) := by
  intro i hshows hend
  obtain ⟨hname, halias⟩ := Source.shows_append.1 hshows
  have hlength : i + (Name.tokens (j :: n) ++ ts).length =
      i + (Name.tokens (j :: n)).length + ts.length := by
    rw [List.length_append]
    omega
  rw [hlength] at hend ⊢
  have hafter : s.ends (.keyword "AS" :: factorEnds) (i + (Name.tokens (j :: n)).length) := by
    cases h with
    | none => exact List.mem_cons_of_mem _ hend
    | some plain listed => exact Source.ends_of_eq halias.1.2 List.mem_cons_self
  have hbase := reads_objectName j n (by decide) i hname hafter
  have hpartition : partitionClause s (i + (Name.tokens (j :: n)).length) =
      (.ok [], i + (Name.tokens (j :: n)).length) := by
    have hkey := run_keyword_false (hafter.key_ne (k := "PARTITION") (by decide))
    simp [partitionClause, ↓run_bind, run_both_isAny_false hkey]
  have hparen := run_symbol_false (hafter.ne (t := .symbol .lParen) (by decide))
  have hordinality := run_keywords_cons_false ["ORDINALITY"]
    (hafter.key_ne (k := "WITH") (by decide))
  have htable := reads_alias h _ halias hend
  have hhints : tableHints g s (i + (Name.tokens (j :: n)).length + ts.length) =
      (.ok [], i + (Name.tokens (j :: n)).length + ts.length) := by
    simp [tableHints, ↓run_bind, run_keyword_false (hend.key_ne (k := "WITH") (by decide))]
  have hmatch := run_keyword_false (hend.key_ne (k := "MATCH_RECOGNIZE") (by decide))
  simp [baseTable, ↓run_bind, hbase, hpartition, hparen, hordinality, htable, hhints,
    run_rotated _ _ hend, run_both_isAny_false hmatch]

lemma run_maybe?_some {α : Type} {p : Parser α} {a : α} (h : p s i = (.ok a, j)) :
    maybe? p s i = (.ok (some a), j) := by
  rw [maybe?, h]

lemma run_derivedTable (hread : F.ReadBy s g) (lateral : Bool) {q : Query}
    {alias? : Option TableAlias} {ts us : List Token} (rows : F.query q ts)
    (named : AliasForm s.dialect alias? us)
    (hshows : s.shows i (.symbol .lParen :: ts ++ Token.symbol .rParen :: us))
    (hend : s.ends factorEnds (i + (.symbol .lParen :: ts ++ Token.symbol .rParen :: us).length)) :
    s.tokenAt i = .symbol .lParen ∧
      derivedTable g lateral s (i + 1) = (.ok (.derived lateral q alias?),
        i + (.symbol .lParen :: ts ++ Token.symbol .rParen :: us).length) := by
  obtain ⟨⟨⟨-, hopen⟩, hrows⟩, ⟨-, hclose⟩, halias⟩ := Source.shows_append.1 hshows
  have hafter : i + (.symbol .lParen :: ts).length = i + 1 + ts.length := by
    rw [List.length_cons]
    omega
  rw [hafter] at hclose halias
  have hlength : i + (.symbol .lParen :: ts ++ Token.symbol .rParen :: us).length =
      i + 1 + ts.length + 1 + us.length := by
    simp only [List.length_append, List.length_cons]
    omega
  rw [hlength] at hend ⊢
  have hq := hread.query _ _ rows _ hrows (Source.ends_of_eq hclose (by decide))
  have htable := reads_alias named _ halias hend
  exact ⟨hopen, by simp [derivedTable, ↓run_bind, hq, run_expectSymbol hclose, htable]⟩

lemma reads_tableFactor (hread : F.ReadBy s g) {t : TableFactor} {ts : List Token}
    (h : FactorForm s.dialect F t ts) : Reads s (tableFactor g) ts t (s.ends factorEnds) := by
  intro i hshows hend
  cases h with
  | @base j n alias? ts first others named =>
    have hbase := reads_baseTable (g := g) named i hshows hend
    have hword : (s.tokenAt i).key ∉ clauseWords ∧ s.tokenAt i ≠ .symbol .lParen := by
      rw [tokens_cons] at hshows
      rw [hshows.1.2]
      exact ⟨fun hmem => first.free (List.mem_append_right _ hmem), nofun⟩
    have hno : ∀ k ∈ clauseWords, (s.tokenAt i).key ≠ k := fun k hk h => hword.1 (h ▸ hk)
    have hlateral := run_keyword_false (hno "LATERAL" (by decide))
    have htable := run_keyword_false (hno "TABLE" (by decide))
    have hunnest := run_keyword_false (hno "UNNEST" (by decide))
    have hvalues := hno "VALUES" (by decide)
    have hjson := hno "JSON_TABLE" (by decide)
    by_cases hd : s.dialect = .generic <;>
      simp [tableFactor, tableFactorWithin, ↓run_bind, hlateral, htable, run_symbol_false hword.2,
        run_both_pure_false hunnest, hvalues, hjson, hd, hbase]
  | @derived lateral q alias? ts us rows named =>
    rw [List.append_assoc] at hshows hend ⊢
    obtain ⟨hlateral, hshows⟩ := Source.shows_append.1 hshows
    rw [List.length_append, ← Nat.add_assoc] at hend ⊢
    obtain ⟨hopen, hderived⟩ := run_derivedTable hread lateral rows named hshows hend
    generalize i + (lateralTokens lateral).length +
      (.symbol .lParen :: ts ++ Token.symbol .rParen :: us).length = k at hend hderived ⊢
    cases lateral with
    | true =>
      replace hopen : s.tokenAt (i + 1) = .symbol .lParen := hopen
      replace hderived : derivedTable g true s (i + 1 + 1) = _ := hderived
      simp [tableFactor, tableFactorWithin, lateralTable, ↓run_bind,
        run_keyword_true (key_of_keyword hlateral.1.2), run_symbol_true hopen, hderived]
    | false =>
      replace hopen : s.tokenAt i = .symbol .lParen := hopen
      replace hderived : derivedTable g false s (i + 1) = _ := hderived
      have hmaybe := run_maybe?_some hderived
      have hkey : ∀ k, k ≠ "" → keyword k s i = (.ok false, i) := fun k hk =>
        run_keyword_false (by rw [hopen]; exact hk.symm)
      simp [tableFactor, tableFactorWithin, ↓run_bind, hkey, run_symbol_true hopen, hmaybe,
        run_rotated _ _ hend]

end Factors

section Joins

/-- A join whose condition follows its table begins with no other word than these. -/
lemma run_constrainedJoin (natural : Bool) {op : JoinOp} {ks : List Token}
    (h : (op, ks) ∈ joinTokens) (hshows : s.shows i ks) :
    (s.tokenAt i).key ∈ ["JOIN", "LEFT", "RIGHT", "FULL"] ∧
      constrainedJoin natural s i = (.ok (some op), i + ks.length) := by
  have hone : ∀ w ∈ ["SEMI", "ANTI", "JOIN"], ∀ j, s.tokenAt j = .keyword w →
      oneOf? ["OUTER", "SEMI", "ANTI", "JOIN"] s j = (.ok (some w), j + 1) := by
    intro w hw j hj
    have hkey := key_of_keyword hj
    have hall : ∀ w ∈ ["SEMI", "ANTI", "JOIN"], w ≠ "" ∧ w ∈ ["OUTER", "SEMI", "ANTI", "JOIN"] := by
      decide
    rw [run_oneOf?_some (by rw [hkey]; exact (hall w hw).1) (by rw [hkey]; exact (hall w hw).2), hkey]
  -- After its side, a join may have a kind before the keyword `JOIN`.
  have hkind : ∀ side w, s.shows i [.keyword side, .keyword w, .keyword "JOIN"] → w ∈ ["SEMI", "ANTI"] →
      (s.tokenAt i).key = side ∧ oneOf? ["OUTER", "SEMI", "ANTI", "JOIN"] s (i + 1) =
        (.ok (some w), i + 1 + 1) ∧ expectKeyword "JOIN" s (i + 1 + 1) = (.ok ⟨⟩, i + 1 + 1 + 1) := by
    intro side w hshows hw
    obtain ⟨⟨-, hside⟩, ⟨-, hkind⟩, ⟨-, hjoin⟩, -⟩ := hshows
    have hall : ∀ w ∈ ["SEMI", "ANTI"], w ∈ ["SEMI", "ANTI", "JOIN"] := by decide
    exact ⟨key_of_keyword hside, hone w (hall w hw) _ hkind, run_expectKeyword (key_of_keyword hjoin)⟩
  simp only [joinTokens, List.mem_cons, List.not_mem_nil, or_false, Prod.mk.injEq] at h
  rcases h with ⟨rfl, rfl⟩ | ⟨rfl, rfl⟩ | ⟨rfl, rfl⟩ | ⟨rfl, rfl⟩ | ⟨rfl, rfl⟩ | ⟨rfl, rfl⟩ |
    ⟨rfl, rfl⟩ | ⟨rfl, rfl⟩
  · have hkey := key_of_keyword hshows.1.2
    refine ⟨by rw [hkey]; decide, ?_⟩
    simp [constrainedJoin, ↓run_bind, hkey, run_keyword, run_expectKeyword hkey]
  · have hkey := key_of_keyword hshows.1.2
    have hnext := hone "JOIN" (by decide) _ hshows.2.1.2
    refine ⟨by rw [hkey]; decide, ?_⟩
    simp [constrainedJoin, sidedJoin, ↓run_bind, run_map, hkey, hnext]
  · have hkey := key_of_keyword hshows.1.2
    have hnext := hone "JOIN" (by decide) _ hshows.2.1.2
    refine ⟨by rw [hkey]; decide, ?_⟩
    simp [constrainedJoin, sidedJoin, ↓run_bind, run_map, hkey, hnext]
  · have hkey := key_of_keyword hshows.1.2
    have hnext := key_of_keyword hshows.2.1.2
    refine ⟨by rw [hkey]; decide, ?_⟩
    simp [constrainedJoin, ↓run_bind, hkey, run_keyword, hnext, run_expectKeyword hnext]
  all_goals
    obtain ⟨hkey, hkind, hjoin⟩ := hkind _ _ hshows (by decide)
    refine ⟨by rw [hkey]; decide, ?_⟩
    simp [constrainedJoin, sidedJoin, ↓run_bind, run_map, hkey, hkind, hjoin]

lemma run_crossJoin {op : JoinOp} {ks : List Token} (h : (op, ks) ∈ crossTokens)
    (hshows : s.shows i ks) {factor : Parser TableFactor} {t : TableFactor}
    (hfactor : factor s (i + ks.length) = (.ok t, j)) :
    join g factor s i = (.ok (some ⟨false, op, t, none, .none⟩), j) := by
  simp only [crossTokens, List.mem_cons, List.not_mem_nil, or_false, Prod.mk.injEq] at h
  rcases h with ⟨rfl, rfl⟩ | ⟨rfl, rfl⟩ | ⟨rfl, rfl⟩
  all_goals
    have hkey := key_of_keyword hshows.1.2
    have hnext := key_of_keyword hshows.2.1.2
    replace hfactor : factor s (i + 1 + 1) = _ := hfactor
    simp [join, ↓run_bind, run_keyword, hkey, hnext, run_expectKeyword, hfactor]

variable (hread : F.ReadBy s g)

include hread

lemma reads_constraint {c : JoinConstraint} {ts : List Token}
    (h : ConstraintForm s.dialect F c ts) : Reads s (joinConstraint g false) ts c (s.ends joinEnds) := by
  intro i hshows hend
  cases h with
  | @on e ts condition =>
    obtain ⟨⟨-, hon⟩, hcondition⟩ := hshows
    have hlength : i + (Token.keyword "ON" :: ts).length = i + 1 + ts.length := by
      rw [List.length_cons]
      omega
    rw [hlength] at hend ⊢
    have he : g.expr s (i + 1) = _ :=
      hread.expr _ _ _ condition _ hcondition ((hend.mono (by decide)).halts 0)
    simp [joinConstraint, ↓run_bind, run_keyword_true (key_of_keyword hon), he]
  | @shared columns ts named =>
    obtain ⟨⟨-, husing⟩, hparens⟩ := hshows
    have hlength : i + (Token.keyword "USING" :: .symbol .lParen :: ts
        ++ [Token.symbol .rParen]).length =
          i + 1 + (.symbol .lParen :: ts ++ [Token.symbol .rParen]).length := by
      simp only [List.cons_append, List.length_cons]
      omega
    rw [hlength]
    have hon : (s.tokenAt i).key ≠ "ON" := by
      rw [husing]
      decide
    have hnames : columnNames false s (i + 1) = _ := run_columnNames false named hparens
    simp [joinConstraint, ↓run_bind, run_keyword_false hon,
      run_keyword_true (key_of_keyword husing), hnames]
  | none =>
    replace hend : s.ends joinEnds i := hend
    simp [joinConstraint, ↓run_bind, run_keyword_false (hend.key_ne (k := "ON") (by decide)),
      run_keyword_false (hend.key_ne (k := "USING") (by decide))]

lemma reads_join {j : Join} {ts : List Token} (h : JoinForm s.dialect F j ts) :
    ∀ i, s.shows i ts → s.ends joinEnds (i + ts.length) →
      join g (tableFactor g) s i = (.ok (some j), i + ts.length) := by
  intro i hshows hend
  cases h with
  | @constrained op relation constraint ks ts us operator right matched =>
    rw [List.append_assoc] at hshows hend ⊢
    obtain ⟨hks, hrest⟩ := Source.shows_append.1 hshows
    obtain ⟨hts, hus⟩ := Source.shows_append.1 hrest
    have hlength : i + (ks ++ (ts ++ us)).length = i + ks.length + ts.length + us.length := by
      simp only [List.length_append]
      omega
    rw [hlength] at hend ⊢
    have hmatched := reads_constraint hread matched _ hus hend
    have hafter : s.ends factorEnds (i + ks.length + ts.length) := by
      cases matched with
      | on condition => exact Source.ends_of_eq hus.1.2 (by decide)
      | shared named => exact Source.ends_of_eq hus.1.2 (by decide)
      | none => exact hend.mono (by decide)
    have hfactor := reads_tableFactor hread right _ hts hafter
    obtain ⟨hkeys, hoperator⟩ := run_constrainedJoin false operator hks
    have hno : ∀ k, k ∉ ["JOIN", "LEFT", "RIGHT", "FULL"] → keyword k s i = (.ok false, i) :=
      fun k hk => run_keyword_false fun h => hk (h ▸ hkeys)
    simp [join, ↓run_bind, hno, hoperator, hfactor, hmatched]
  | @natural op relation ks ts operator right =>
    obtain ⟨⟨⟨-, hnatural⟩, hks⟩, hts⟩ := Source.shows_append.1 hshows
    have hafter : i + (Token.keyword "NATURAL" :: ks).length = i + 1 + ks.length := by
      rw [List.length_cons]
      omega
    rw [List.length_append, ← Nat.add_assoc, hafter] at hend ⊢
    rw [hafter] at hts
    have hfactor := reads_tableFactor hread right _ hts (hend.mono (by decide))
    obtain ⟨-, hoperator⟩ := run_constrainedJoin true operator hks
    have hkey := key_of_keyword hnatural
    simp [join, joinConstraint, ↓run_bind, run_keyword, hkey, hoperator, hfactor]
  | @cross op relation ks ts operator right =>
    obtain ⟨hks, hts⟩ := Source.shows_append.1 hshows
    rw [List.length_append, ← Nat.add_assoc] at hend ⊢
    exact run_crossJoin operator hks (reads_tableFactor hread right _ hts (hend.mono (by decide)))

omit hread in
lemma run_join_none (factor : Parser TableFactor) (hend : s.ends (.keyword "USING" :: sourceEnds) i) :
    join g factor s i = (.ok none, i) := by
  have hno : ∀ k, (∀ t ∈ .keyword "USING" :: sourceEnds, t.key ≠ k) →
      keyword k s i = (.ok false, i) := fun k hk => run_keyword_false (hend.key_ne hk)
  have hkeys : ∀ t ∈ .keyword "USING" :: sourceEnds, t.key ∉ ["INNER", "JOIN", "LEFT", "RIGHT", "FULL", "OUTER"] := by
    decide
  have hkey := hkeys _ hend
  simp only [List.mem_cons, List.not_mem_nil, or_false, not_or] at hkey
  have hnone : constrainedJoin false s i = (.ok none, i) := by
    simp [constrainedJoin, ↓run_bind, hkey]
  simp [join, ↓run_bind, hno "GLOBAL" (by decide), hno "CROSS" (by decide), hno "OUTER" (by decide),
    hno "ASOF" (by decide), hno "NATURAL" (by decide), hnone]

omit hread in
lemma join_begins {d : Dialect} {j : Join} {ts : List Token} (h : JoinForm d F j ts) :
    ∃ t us, ts = t :: us ∧ t ∈ joinEnds := by
  have hheads : ∀ o ∈ joinTokens ++ crossTokens, ∃ t us, o.2 = t :: us ∧ t ∈ joinEnds := by
    simp [joinTokens, crossTokens, joinEnds, sourceEnds]
  cases h with
  | constrained operator right matched =>
    obtain ⟨t, us, rfl, ht⟩ := hheads _ (List.mem_append_left _ operator)
    exact ⟨t, _, rfl, ht⟩
  | natural operator right => exact ⟨_, _, rfl, by decide⟩
  | cross operator right =>
    obtain ⟨t, us, rfl, ht⟩ := hheads _ (List.mem_append_right _ operator)
    exact ⟨t, _, rfl, ht⟩

omit hread in
lemma ends_before_joins {d : Dialect} {js : List Join} {ts : List Token}
    (h : Row (JoinForm d F) js ts) (hshows : s.shows i ts)
    (hend : s.ends sourceEnds (i + ts.length)) : s.ends joinEnds i := by
  cases h with
  | nil => exact hend.mono (by decide)
  | cons h others =>
    obtain ⟨t, us, rfl, hmem⟩ := join_begins h
    exact Source.ends_of_eq hshows.1.2 hmem

omit hread in
lemma length_joins_le {d : Dialect} {js : List Join} {ts : List Token}
    (h : Row (JoinForm d F) js ts) : js.length ≤ ts.length := by
  induction h with
  | nil => exact Nat.zero_le _
  | cons h others ih =>
    obtain ⟨t, us, rfl, -⟩ := join_begins h
    simp only [List.length_append, List.length_cons]
    omega

lemma steps_joins {js : List Join} {ts : List Token} (h : Row (JoinForm s.dialect F) js ts) {i : Nat}
    (hshows : s.shows i ts) (hend : s.ends sourceEnds (i + ts.length)) :
    Steps s (join g (tableFactor g)) i js (i + ts.length) := by
  induction h generalizing i with
  | nil => exact .nil (run_join_none _ (List.mem_cons_of_mem _ hend))
  | @cons j js ts us h others ih =>
    obtain ⟨hts, hus⟩ := Source.shows_append.1 hshows
    rw [List.length_append, ← Nat.add_assoc] at hend ⊢
    exact .cons (reads_join hread h i hts (ends_before_joins others hus hend)) (ih hus hend)

lemma reads_table {t : TableWithJoins} {ts : List Token} (h : TableForm s.dialect F t ts) :
    Reads s (tableWithJoins g) ts t (s.ends sourceEnds) := by
  intro i hshows hend
  cases h with
  | @mk relation joins ts us first others =>
    obtain ⟨hts, hus⟩ := Source.shows_append.1 hshows
    rw [List.length_append, ← Nat.add_assoc] at hend ⊢
    have hfactor := reads_tableFactor hread first i hts
      ((ends_before_joins others hus hend).mono (by decide))
    have hlength := length_joins_le others
    have hsize := Source.length_le_of_shows hus
    have hjoins := run_many (steps_joins hread others hus hend) (by omega)
    simp [tableWithJoins, joined, ↓run_bind, hfactor, hjoins]

lemma reads_lone {t : TableWithJoins} {ts : List Token} (h : LoneForm s.dialect F t ts) :
    Reads s (tableWithJoins g) ts t (s.ends (.keyword "USING" :: sourceEnds)) := by
  intro i hshows hend
  cases h with
  | mk h =>
    have hfactor := reads_tableFactor hread h i hshows (hend.mono (by decide))
    have hjoins := run_many_nil (run_join_none (g := g) (tableFactor g) hend)
    simp [tableWithJoins, joined, ↓run_bind, hfactor, hjoins]

end Joins

end Parser

end RowFence.Sql
