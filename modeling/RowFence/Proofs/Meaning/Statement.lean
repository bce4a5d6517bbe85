import RowFence.Proofs.Meaning.Join

/-! The meaning of expressions and queries, by recursion over the syntax. What a FROM clause and a
WHERE condition yield is a parameter: over a database, it is what `Engine.fetch` says. Common
tables see only those before them, whether or not they are called recursive. -/

namespace RowFence.Meaning

open Sql

variable {V : Type}

/-- What FROM clauses yield, given the common tables, the rows around and a condition. -/
abbrev Fetch (V : Type) := Common V → Env V → Plan V → Option (Term V) → Source V

def renamedTable (given : TableAlias) (t : Table V) : Table V :=
  { t with columns := renamedColumns (some given) t.columns }

variable (E : Engine V) (S : Fetch V)

mutual

def exprTerm (c : Common V) : Expr → Term V
  | .name parts => ⟨.name parts, fun env => E.name env parts⟩
  | .value s => ⟨.value s, fun _ => E.value s⟩
  | .binary l op r =>
    ⟨.other, fun env => E.binary op ((exprTerm c l).value env) ((exprTerm c r).value env)⟩
  | .nested e => ⟨.other, (exprTerm c e).value⟩
  | .call f rest => ⟨.other, E.call f (pieceParts c rest)⟩
  | .form pieces => ⟨.other, E.form (pieceParts c pieces)⟩

def exprTerms (c : Common V) : List Expr → List (Term V)
  | [] => []
  | e :: es => exprTerm c e :: exprTerms c es

def optionTerm (c : Common V) : Option Expr → Option (Term V)
  | none => none
  | some e => some (exprTerm c e)

def piecePart (c : Common V) : Piece → Part V
  | .text s => .text s
  | .expr e => .term (exprTerm c e)
  | .query q => .query fun env => (queryAnswer c q env).table
  | .table t => .table (factorPlan c t)

def pieceParts (c : Common V) : List Piece → List (Part V)
  | [] => []
  | p :: ps => piecePart c p :: pieceParts c ps

def factorPlan (c : Common V) : TableFactor → Plan V
  | .base name arguments alias? hints =>
    .base ⟨name, alias?⟩ (if arguments.isEmpty && hints.isEmpty then none
      else some (E.access (pieceParts c arguments) (pieceParts c hints)))
  | .derived lateral q alias? => .derived lateral (fun env => (queryAnswer c q env).table) alias?
  | .nested inner alias? => .nested (tablePlan c inner) alias?
  | .other pieces alias? tail =>
    .derived true (E.function (pieceParts c pieces) (pieceParts c tail)) alias?

def constraintLink (c : Common V) : JoinConstraint → Link V
  | .on e => .on (exprTerm c e)
  | .shared columns => .merge (.columns columns)
  | .natural => .merge .natural
  | .none => .merge .nothing

def joinsPlan (c : Common V) (first : Plan V) : List Join → Plan V
  | [] => first
  | { op, relation, matching, constraint, .. } :: js =>
    joinsPlan c (.join op (optionTerm c matching) (constraintLink c constraint) first
      (factorPlan c relation)) js

def tablePlan (c : Common V) : TableWithJoins → Plan V
  | { relation, joins } => joinsPlan c (factorPlan c relation) joins

def tablesPlan (c : Common V) : List TableWithJoins → Plan V
  | [] => .unit
  | t :: ts => .join .cross none (.merge .nothing) (tablePlan c t) (tablesPlan c ts)

def cteTables (c : Common V) : List Cte → Env V → Common V
  | [], _ => c
  | { given, query, .. } :: cs, env =>
    cteTables (c ++ [(given.name.folded, renamedTable given (queryAnswer c query env).table)]) cs env

def sortKeys (c : Common V) : List OrderKey → List (SortKey V)
  | [] => []
  | { key, direction, fill } :: ks => ⟨exprTerm c key, direction, pieceParts c fill⟩ :: sortKeys c ks

def queryAnswer (c : Common V) : Query → Env V → Answer V
  | { ctes, body, orderBy, interpolate, limit, tail, .. }, env =>
    let c := cteTables c ctes env
    E.arrange ⟨sortKeys c orderBy, pieceParts c interpolate, optionTerm c limit, pieceParts c tail⟩
      env (bodyAnswer c body env)

def bodyAnswer (c : Common V) : Body → Env V → Answer V
  | .select s, env => selectAnswer c s env
  | .setOp l op quantifier r, env =>
    E.setOp op quantifier (bodyAnswer c l env) (bodyAnswer c r env)
  | .query q, env => queryAnswer c q env
  | .rows pieces, env => E.body (pieceParts c pieces) env
  | .table s, env => E.body [.text s] env
  | .change _, env => E.body [] env

def selectItems (c : Common V) : List SelectItem → List (Item V)
  | [] => []
  | .expr e alias? :: is => .term (exprTerm c e) alias? :: selectItems c is
  | .wildcard qualifier options :: is =>
    .wildcard qualifier (pieceParts c options) :: selectItems c is

def distinctness (c : Common V) : Distinct → Distinctness V
  | .none => .none
  | .rows => .rows
  | .on keys => .on (exprTerms c keys)

def selectAnswer (c : Common V) : Select → Env V → Answer V
  | { top, topFirst, distinct, items, into, tables, views, condition, groupAll, groupBy,
      groupModifiers, sorting, having, tail }, env =>
    E.select
      { top := pieceParts c top
        topFirst
        distinct := distinctness c distinct
        items := selectItems c items
        into
        views := pieceParts c views
        groupAll
        groupBy := exprTerms c groupBy
        groupModifiers
        sorting := pieceParts c sorting
        having := optionTerm c having
        tail := pieceParts c tail }
      env (S c env (tablesPlan c tables) (optionTerm c condition))

end

def Engine.result (D : Store V) : Statement → Option (Table V)
  | .query q => some (queryAnswer E (E.fetch D) [] q []).table
  | _ => none

end RowFence.Meaning
