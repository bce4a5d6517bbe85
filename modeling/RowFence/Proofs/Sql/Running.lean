import Mathlib.Data.List.Basic
import Mathlib.Tactic.Lemma
import RowFence.Sql.Parser

/-! Runs of parsers at a position of the tokens, step by step. -/

namespace RowFence.Sql

namespace Source

def placedAt (s : Source) (i : Nat) : PlacedToken := (s.tokens[i]?).getD ⟨.ending, .ending, []⟩

def tokenAt (s : Source) (i : Nat) : Token := (s.placedAt i).token

end Source

namespace Parser

variable {α β : Type} {s : Source} {i j : Nat}

@[simp] lemma run_pure (a : α) : (pure a : Parser α) s i = (.ok a, i) := rfl

-- For `simp` this is a rule on the way down (`↓`): what follows `p` is visited once its result is
-- known.
lemma run_bind (p : Parser α) (f : α → Parser β) :
    (p >>= f) s i = match p s i with
      | (.ok a, j) => f a s j
      | (.error e, j) => (.error e, j) := by
  change StateT.bind (p s) (ExceptT.bindCont fun a => f a s) i = _
  unfold StateT.bind
  rcases p s i with ⟨e | a, j⟩ <;> rfl

lemma run_map (g : α → β) (p : Parser α) :
    (g <$> p) s i = match p s i with
      | (.ok a, j) => (.ok (g a), j)
      | (.error e, j) => (.error e, j) := run_bind p (pure ∘ g)

lemma run_bind_ok {p : Parser α} {f : α → Parser β} {a : α} (h : p s i = (.ok a, j)) :
    (p >>= f) s i = f a s j := by
  rw [run_bind, h]

@[simp] lemma run_dialect : dialect s i = (.ok s.dialect, i) := rfl

@[simp] lemma run_isAny (ds : List Dialect) : isAny ds s i = (.ok (ds.contains s.dialect), i) := rfl

@[simp] lemma run_read : (read : Parser Source) s i = (.ok s, i) := rfl

@[simp] lemma run_get : (get : Parser Nat) s i = (.ok i, i) := rfl

@[simp] lemma run_set (n : Nat) : (set n : Parser PUnit) s i = (.ok ⟨⟩, n) := rfl

@[simp] lemma run_skip : skip s i = (.ok ⟨⟩, i + 1) := rfl

@[simp] lemma run_back : back s i = (.ok ⟨⟩, i - 1) := rfl

@[simp] lemma run_peekAt (n : Nat) : peekAt n s i = (.ok (s.placedAt (i + n)), i) := rfl

@[simp] lemma run_peek : peek s i = (.ok (s.placedAt i), i) := rfl

@[simp] lemma run_next : next s i = (.ok (s.placedAt i), i + 1) := rfl

@[simp] lemma run_peekToken : peekToken s i = (.ok (s.tokenAt i), i) := rfl

@[simp] lemma run_peekKey : peekKey s i = (.ok (s.tokenAt i).key, i) := rfl

@[simp] lemma run_peekKeyAt (n : Nat) : peekKeyAt n s i = (.ok (s.tokenAt (i + n)).key, i) := rfl

@[simp] lemma run_atKeyword (k : String) :
    atKeyword k s i = (.ok ((s.tokenAt i).key == k), i) := rfl

@[simp] lemma run_atSymbol (c : Symbol) :
    atSymbol c s i = (.ok (s.tokenAt i == .symbol c), i) := rfl

@[simp] lemma run_symbolAt (n : Nat) (c : Symbol) :
    symbolAt n c s i = (.ok (s.tokenAt (i + n) == .symbol c), i) := rfl

lemma run_keyword (k : String) :
    keyword k s i = if (s.tokenAt i).key = k then (.ok true, i + 1) else (.ok false, i) := by
  simp only [keyword, ↓run_bind, run_peekKey]
  by_cases h : (s.tokenAt i).key = k <;> simp [h, ↓run_bind]

lemma run_keyword_true {k : String} (h : (s.tokenAt i).key = k) :
    keyword k s i = (.ok true, i + 1) := by rw [run_keyword, if_pos h]

lemma run_keyword_false {k : String} (h : (s.tokenAt i).key ≠ k) :
    keyword k s i = (.ok false, i) := by rw [run_keyword, if_neg h]

lemma run_symbol (c : Symbol) :
    symbol c s i = if s.tokenAt i = .symbol c then (.ok true, i + 1) else (.ok false, i) := by
  simp only [symbol, ↓run_bind, run_atSymbol]
  by_cases h : s.tokenAt i = .symbol c <;> simp [h, ↓run_bind]

lemma run_keywords_nil : keywords [] s i = (.ok true, i) := rfl

lemma run_keywords_cons_false {k : String} (ks : List String) (h : (s.tokenAt i).key ≠ k) :
    keywords (k :: ks) s i = (.ok false, i) := by
  simp [keywords, ↓run_bind, run_map, run_keyword_false h]

lemma run_expectKeyword {k : String} (h : (s.tokenAt i).key = k) :
    expectKeyword k s i = (.ok ⟨⟩, i + 1) := by
  simp [expectKeyword, ↓run_bind, run_keyword_true h]

lemma run_keywords_pair {k l : String} (hk : (s.tokenAt i).key = k)
    (hl : (s.tokenAt (i + 1)).key = l) : keywords [k, l] s i = (.ok true, i + 2) := by
  simp [keywords, ↓run_bind, run_keyword_true hk, run_keyword_true hl]

lemma run_keywords_one (k : String) :
    keywords [k] s i = if (s.tokenAt i).key = k then (.ok true, i + 1) else (.ok false, i) := by
  by_cases h : (s.tokenAt i).key = k
  · simp [keywords, ↓run_bind, run_keyword_true h, h]
  · rw [run_keywords_cons_false _ h, if_neg h]

lemma run_keywords_two (k l : String) :
    keywords [k, l] s i = if (s.tokenAt i).key = k ∧ (s.tokenAt (i + 1)).key = l
      then (.ok true, i + 2) else (.ok false, i) := by
  by_cases hk : (s.tokenAt i).key = k
  · by_cases hl : (s.tokenAt (i + 1)).key = l
    · rw [run_keywords_pair hk hl, if_pos ⟨hk, hl⟩]
    · simp [keywords, ↓run_bind, run_map, run_keyword_true hk, run_keyword_false hl, hl]
  · rw [run_keywords_cons_false _ hk, if_neg fun h => hk h.1]

lemma run_oneOf?_none {ks : List String} (h : (s.tokenAt i).key ∉ ks) :
    oneOf? ks s i = (.ok none, i) := by
  simp [oneOf?, ↓run_bind, h]

lemma run_oneOf?_some {ks : List String} (hempty : (s.tokenAt i).key ≠ "")
    (h : (s.tokenAt i).key ∈ ks) : oneOf? ks s i = (.ok (some (s.tokenAt i).key), i + 1) := by
  simp [oneOf?, ↓run_bind, h, hempty]

lemma run_expectSymbol {c : Symbol} (h : s.tokenAt i = .symbol c) :
    expectSymbol c s i = (.ok ⟨⟩, i + 1) := by
  simp [expectSymbol, ↓run_bind, run_symbol, h]

lemma run_symbol_true {c : Symbol} (h : s.tokenAt i = .symbol c) :
    symbol c s i = (.ok true, i + 1) := by rw [run_symbol, if_pos h]

lemma run_symbol_false {c : Symbol} (h : s.tokenAt i ≠ .symbol c) :
    symbol c s i = (.ok false, i) := by rw [run_symbol, if_neg h]

lemma run_symbols_cons_false {c : Symbol} (cs : List Symbol) (h : s.tokenAt i ≠ .symbol c) :
    symbols (c :: cs) s i = (.ok false, i) := by
  simp [symbols, ↓run_bind, run_map, run_symbol_false h]

lemma run_symbols_pair {b c : Symbol} (hb : s.tokenAt i = .symbol b)
    (hc : s.tokenAt (i + 1) = .symbol c) : symbols [b, c] s i = (.ok true, i + 2) := by
  simp [symbols, ↓run_bind, run_symbol_true hb, run_symbol_true hc]

lemma run_parenthesized {p : Parser α} {a : α} (hopen : s.tokenAt i = .symbol .lParen)
    (hp : p s (i + 1) = (.ok a, j)) (hclose : s.tokenAt j = .symbol .rParen) :
    parenthesized p s i = (.ok a, j + 1) := by
  simp [parenthesized, ↓run_bind, run_expectSymbol hopen, hp, run_expectSymbol hclose]

lemma run_both_false {p q : Parser Bool} (h : p s i = (.ok false, j)) :
    both p q s i = (.ok false, j) := by
  simp [both, ↓run_bind, h]

lemma run_both_pure_false {b : Bool} {q : Parser Bool} (h : q s i = (.ok false, i)) :
    both (pure b) q s i = (.ok false, i) := by
  cases b <;> simp [both, ↓run_bind, h]

lemma run_both_isAny_false {ds : List Dialect} {q : Parser Bool} (h : q s i = (.ok false, i)) :
    both (isAny ds) q s i = (.ok false, i) := by
  cases hd : ds.contains s.dialect <;> simp_all [both, ↓run_bind]

lemma run_both_true {p q : Parser Bool} (h : p s i = (.ok true, j)) :
    both p q s i = q s j := by
  simp [both, ↓run_bind, h]

/-- The items that a step yields one after the other. -/
inductive Steps (s : Source) (step : Parser (Option α)) : Nat → List α → Nat → Prop
  | nil {i j : Nat} (h : step s i = (.ok none, j)) : Steps s step i [] j
  | cons {i j k : Nat} {a : α} {as : List α} (h : step s i = (.ok (some a), j))
      (others : Steps s step j as k) : Steps s step i (a :: as) k

lemma run_repeated {step : Parser (Option α)} {as : List α} {k : Nat} (h : Steps s step i as k)
    (n : Nat) (hn : as.length < n) : repeated step n s i = (.ok as, k) := by
  induction h generalizing n with
  | nil h =>
    obtain ⟨n, rfl⟩ := Nat.exists_eq_succ_of_ne_zero (Nat.ne_of_gt hn)
    simp [repeated, ↓run_bind, h]
  | cons h others ih =>
    obtain ⟨n, rfl⟩ := Nat.exists_eq_succ_of_ne_zero (Nat.ne_of_gt (Nat.zero_lt_of_lt hn))
    simp [repeated, ↓run_bind, h, ih n (by simpa using hn)]

lemma run_many {step : Parser (Option α)} {as : List α} {k : Nat} (h : Steps s step i as k)
    (hn : as.length ≤ s.tokens.size) : many step s i = (.ok as, k) := by
  simp [many, ↓run_bind, run_repeated h (s.tokens.size + 1) (by omega)]

lemma run_many_nil {step : Parser (Option α)} (h : step s i = (.ok none, j)) :
    many step s i = (.ok [], j) := run_many (.nil h) (Nat.zero_le _)

end Parser

/-! Tokens that stand from a position on. -/

namespace Source

variable {s : Source} {i : Nat}

def shows (s : Source) : Nat → List Token → Prop
  | _, [] => True
  | i, t :: ts => (i < s.tokens.size ∧ s.tokenAt i = t) ∧ s.shows (i + 1) ts

lemma shows_append {ts us : List Token} :
    s.shows i (ts ++ us) ↔ s.shows i ts ∧ s.shows (i + ts.length) us := by
  induction ts generalizing i with
  | nil => exact ⟨fun h => ⟨trivial, h⟩, fun h => h.2⟩
  | cons t ts ih =>
    have hlength : i + 1 + ts.length = i + (ts.length + 1) := by omega
    simp only [List.cons_append, shows, ih, List.length_cons, hlength, and_assoc]

lemma length_le_of_shows {ts : List Token} (h : s.shows i ts) : ts.length ≤ s.tokens.size - i := by
  induction ts generalizing i with
  | nil => exact Nat.zero_le _
  | cons t ts ih =>
    have hlt := h.1.1
    have hrest := ih h.2
    rw [List.length_cons]
    omega

def ends (s : Source) (ts : List Token) (i : Nat) : Prop := s.tokenAt i ∈ ts

lemma ends_of_eq {t : Token} {ts : List Token} (h : s.tokenAt i = t) (ht : t ∈ ts) :
    s.ends ts i := by rwa [ends, h]

lemma ends.mono {ts us : List Token} (h : s.ends ts i) (hsub : ∀ t ∈ ts, t ∈ us) : s.ends us i :=
  hsub _ h

lemma ends.ne {t : Token} {ts : List Token} (h : s.ends ts i) (ht : t ∉ ts) : s.tokenAt i ≠ t :=
  fun heq => ht (heq ▸ h)

lemma ends.key_ne {k : String} {ts : List Token} (h : s.ends ts i) (hk : ∀ t ∈ ts, t.key ≠ k) :
    (s.tokenAt i).key ≠ k := hk _ h

end Source

namespace Parser

variable {α β : Type}

/-- A parser reads these tokens as this, wherever they stand before a position where it may end. -/
def Reads (s : Source) (p : Parser α) (ts : List Token) (a : α) (ends : Nat → Prop) : Prop :=
  ∀ i, s.shows i ts → ends (i + ts.length) → p s i = (.ok a, i + ts.length)

/-- Items with commas between them. -/
inductive Commas (R : α → List Token → Prop) : List α → List Token → Prop
  | one {a : α} {ts : List Token} (h : R a ts) : Commas R [a] ts
  | more {a : α} {as : List α} {ts us : List Token} (h : R a ts) (others : Commas R as us) :
      Commas R (a :: as) (ts ++ .symbol .comma :: us)

lemma Commas.length_le {R : α → List Token → Prop} {as : List α} {ts : List Token}
    (h : Commas R as ts) : as.length ≤ ts.length + 1 := by
  induction h with
  | one h => simp
  | more h others ih =>
    simp only [List.length_cons, List.length_append]
    omega

lemma Commas.begins {R : α → List Token → Prop} {P : Token → Prop}
    (hR : ∀ a ts, R a ts → ∃ t us, ts = t :: us ∧ P t) {as : List α} {ts : List Token}
    (h : Commas R as ts) : ∃ t us, ts = t :: us ∧ P t := by
  cases h with
  | one h => exact hR _ _ h
  | more h others =>
    obtain ⟨t, us, rfl, ht⟩ := hR _ _ h
    exact ⟨t, _, rfl, ht⟩

lemma Commas.ne_nil {R : α → List Token → Prop} (hR : ∀ a ts, R a ts → ts ≠ []) {as : List α}
    {ts : List Token} (h : Commas R as ts) : ts ≠ [] := by
  cases h with
  | one h => exact hR _ _ h
  | more h others => simp

variable {s : Source} {R : α → List Token → Prop} {item : Parser α} (es : List Token)

lemma Commas.steps (hitem : ∀ a ts, R a ts → Reads s item ts a (s.ends (.symbol .comma :: es)))
    (hes : .symbol .comma ∉ es) {as : List α} {ts : List Token} (h : Commas R as ts) {i : Nat}
    (hshows : s.shows i ts) (hends : s.ends es (i + ts.length)) :
    ∃ a others j, as = a :: others ∧ item s i = (.ok a, j) ∧
      Steps s (do if ← symbol .comma then some <$> item else return none) j others
        (i + ts.length) := by
  induction h generalizing i with
  | @one a ts h =>
    refine ⟨a, [], _, rfl, hitem a ts h i hshows (List.mem_cons_of_mem _ hends), .nil ?_⟩
    simp [↓run_bind, run_symbol_false (hends.ne hes)]
  | @more a as ts us h others ih =>
    obtain ⟨hts, ⟨-, hcomma⟩, hus⟩ := Source.shows_append.1 hshows
    have hlength : i + (ts ++ Token.symbol .comma :: us).length =
        i + ts.length + 1 + us.length := by
      simp only [List.length_append, List.length_cons]
      omega
    rw [hlength] at hends ⊢
    obtain ⟨b, bs, j, rfl, hb, hsteps⟩ := ih hus hends
    refine ⟨a, b :: bs, _, rfl, hitem a ts h i hts ?_, .cons ?_ hsteps⟩
    · exact Source.ends_of_eq hcomma List.mem_cons_self
    · simp [↓run_bind, run_map, run_symbol_true hcomma, hb]

lemma Reads.commaSeparated
    (hitem : ∀ a ts, R a ts → Reads s item ts a (s.ends (.symbol .comma :: es)))
    (hes : .symbol .comma ∉ es) {as : List α} {ts : List Token} (h : Commas R as ts) :
    Reads s (commaSeparated item) ts as (s.ends es) := by
  intro i hshows hends
  obtain ⟨a, others, j, rfl, ha, hsteps⟩ := h.steps es hitem hes hshows hends
  have hsize := Source.length_le_of_shows hshows
  have hlength := h.length_le
  rw [List.length_cons] at hlength
  have hmany := run_many hsteps (by omega)
  simp [Parser.commaSeparated, separated, ↓run_bind, ha, hmany]

end Parser

end RowFence.Sql
