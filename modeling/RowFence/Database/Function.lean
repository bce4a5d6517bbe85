/-! The functions that a database knows, with the numbers of arguments that they take. -/

namespace RowFence.Database

/-- What a function takes: a row's values, all rows of a group, or the rows of a window only. -/
inductive FunctionKind where
  | scalar | aggregate | window
  deriving DecidableEq, Repr

structure Function where
  kind : FunctionKind
  name : String
  least : Nat
  most? : Option Nat
  deriving DecidableEq, Repr

namespace Function

def takes (f : Function) (arguments : Nat) : Bool :=
  f.least ≤ arguments && f.most?.all (arguments ≤ ·)

def exactly (kind : FunctionKind) (arguments : Nat) (names : List String) : List Function :=
  names.map fun name => ⟨kind, name, arguments, some arguments⟩

def upTo (kind : FunctionKind) (least most : Nat) (names : List String) : List Function :=
  names.map fun name => ⟨kind, name, least, some most⟩

def atLeast (least : Nat) (names : List String) : List Function :=
  names.map fun name => ⟨.scalar, name, least, none⟩

def scalars : List Function :=
  exactly .scalar 0 ["changes", "last_insert_rowid", "random", "sqlite_source_id", "sqlite_version",
    "total_changes", "fts5_source_id", "current_date", "current_time", "current_timestamp"]
  ++ exactly .scalar 1 ["abs", "hex", "length", "octet_length", "likely", "unlikely", "lower",
    "upper", "quote", "randomblob", "sign", "soundex", "sqlite_compileoption_get",
    "sqlite_compileoption_used", "subtype", "typeof", "unicode", "zeroblob", "json", "jsonb",
    "json_error_position", "json_quote", "rtreedepth", "optimize"]
  ++ exactly .scalar 2 ["glob", "ifnull", "instr", "likelihood", "match", "nullif", "sqlite_log",
    "timediff", "json_patch", "jsonb_patch", "->", "->>", "rtreenode"]
  ++ exactly .scalar 3 ["replace"]
  ++ upTo .scalar 1 2 ["ltrim", "rtrim", "trim", "round", "unhex", "load_extension",
    "json_array_length", "json_pretty", "json_type", "json_valid", "fts3_tokenizer", "matchinfo",
    "rtreecheck"]
  ++ upTo .scalar 2 3 ["iif", "if", "like", "substr", "substring"]
  ++ atLeast 0 ["char", "date", "time", "datetime", "julianday", "unixepoch", "strftime", "format",
    "printf", "json_array", "jsonb_array", "json_extract", "jsonb_extract", "json_insert",
    "jsonb_insert", "json_object", "jsonb_object", "json_remove", "jsonb_remove", "json_replace",
    "jsonb_replace", "json_set", "jsonb_set", "snippet"]
  ++ atLeast 1 ["concat"]
  ++ atLeast 2 ["coalesce", "concat_ws", "max", "min"]

def aggregates : List Function :=
  exactly .aggregate 1 ["avg", "max", "min", "sum", "total", "json_group_array",
    "jsonb_group_array"]
  ++ exactly .aggregate 2 ["string_agg", "json_group_object", "jsonb_group_object"]
  ++ upTo .aggregate 0 1 ["count"]
  ++ upTo .aggregate 1 2 ["group_concat"]

def windows : List Function :=
  exactly .window 0 ["row_number", "rank", "dense_rank", "percent_rank", "cume_dist"]
  ++ exactly .window 1 ["ntile", "first_value", "last_value"]
  ++ exactly .window 2 ["nth_value"]
  ++ upTo .window 1 3 ["lead", "lag"]

def all : List Function := scalars ++ aggregates ++ windows

def kindOf? (name : String) (arguments : Nat) : Option FunctionKind :=
  (all.find? fun f => f.name = name && f.takes arguments).map (·.kind)

end Function

end RowFence.Database
