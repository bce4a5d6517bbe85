import RowFence.Sql.Parser.Alter
import RowFence.Sql.Parser.Cache
import RowFence.Sql.Parser.Create
import RowFence.Sql.Parser.Rights
import RowFence.Sql.Parser.Session
import RowFence.Sql.Parser.Transfer

/-! Statements, and whole texts of them. Expressions, queries and statements nest in each other to a
fixed depth. -/

namespace RowFence.Sql

namespace Parser

def replaceInto (g : Grammar) : Parser Statement := do
  match ← dialect with
  | .mysql | .generic => insertWith g "REPLACE"
  | .sqlite =>
    back
    insert g
  | .postgres => refuse "Unsupported statement REPLACE" (← peek).place

def dialectStatement? : Parser (Option Statement) := do
  match ← dialect with
  | .mysql =>
    if ← keywords ["LOCK", "TABLES"] then return some (← lockTables)
    if ← keywords ["UNLOCK", "TABLES"] then return some (plain "UNLOCK TABLES")
    return none
  | .postgres =>
    if ← keyword "COMMENT" then return some (← comment)
    createEnum?
  | _ => return none

def wordStatement? (g : Grammar) (key : String) : Option (Parser Statement) :=
  match key with
  | "INSERT" => some (insert g)
  | "UPDATE" => some (update g)
  | "DELETE" => some (delete g)
  | "REPLACE" => some (replaceInto g)
  | "KILL" => some kill
  | "FLUSH" => some flushStatement
  | "EXPLAIN" | "DESCRIBE" | "DESC" => some (explain g key)
  | "ANALYZE" => some (analyze g)
  | "TRUNCATE" => some (truncate g)
  | "ATTACH" => some (attach g)
  | "CREATE" => some (create g)
  | "DROP" => some (drop g)
  | "DISCARD" => some discard
  | "DECLARE" => some (declare g)
  | "FETCH" => some fetch
  | "ALTER" => some (alter g)
  | "CALL" => some (callStatement g)
  | "COPY" => some (copy g)
  | "CLOSE" => some close
  | "SET" => some (setStatement g)
  | "SHOW" => some (showStatement g)
  | "USE" => some useStatement
  | "GRANT" => some grant
  | "REVOKE" => some revoke
  | "START" => some startTransaction
  | "BEGIN" => some begin
  | "END" | "COMMIT" => some commit
  | "SAVEPOINT" => some savepoint
  | "RELEASE" => some release
  | "ROLLBACK" => some rollback
  | "ASSERT" => some (assertStatement g)
  | "DEALLOCATE" => some deallocate
  | "EXECUTE" | "EXEC" => some (execute g)
  | "PREPARE" => some (prepareStatement g)
  | "MERGE" => some (merge g)
  | "PRAGMA" => some pragma
  | "MSCK" => some repairTable
  | "CACHE" => some (cacheTable g)
  | "UNCACHE" => some uncacheTable
  | "UNLOAD" => some (unload g)
  | _ => none

def extraStatement? (g : Grammar) (d : Dialect) (key : String) : Option (Parser Statement) :=
  match d, key with
  | .postgres, "LISTEN" => some listenStatement
  | .postgres, "NOTIFY" => some notify
  | .generic, "DETACH" => some detach
  | .generic, "INSTALL" => some install
  | .generic, "LOAD" => some load
  | .generic, "OPTIMIZE" => some (optimize g)
  | _, _ => none

def statement (g : Grammar) : Parser Statement := do
  match ← dialectStatement? with
  | some s => return s
  | none => pure ()
  let found ← peek
  let key := found.token.key
  if found.token == .symbol .lParen || ["SELECT", "WITH", "VALUES"].contains key then
    return .query (← g.query)
  skip
  match wordStatement? g key, extraStatement? g (← dialect) key with
  | some p, _ | none, some p => p
  | none, none => expected "an SQL statement" found

end Parser

namespace Grammar

/-- What nests in itself at most `depth` times more. -/
def within : (depth : Nat) → Grammar
  | 0 =>
    { subexpr := fun _ => Parser.fail .tooDeep
      query := Parser.fail .tooDeep
      statement := Parser.fail .tooDeep
      column := Parser.fail .tooDeep }
  | depth + 1 =>
    let inner := within depth
    { subexpr := Parser.subexpr inner
      query := Parser.query inner (Parser.insert inner) (Parser.update inner)
      statement := Parser.statement inner
      column := Parser.columnDefinition inner }

def whole : Grammar := within 50

end Grammar

namespace Parser

def run {α : Type} (p : Parser α) (d : Dialect) (text : String) : Except SyntaxError α := do
  let tokens ← Lexer.tokens d text
  (p { tokens, dialect := d, hierarchical := false } 0).1

end Parser

def parseStatements (d : Dialect) (text : String) : Except SyntaxError (List Statement) :=
  Parser.run (Parser.statements .whole) d text

end RowFence.Sql
