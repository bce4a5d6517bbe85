import RowFence.Text.Letter
import RowFence.Text.Lower

/-! The SQL dialects, their names, and which characters form words in each of them. -/

namespace RowFence.Sql

inductive Dialect where
  | generic | mysql | postgres | sqlite
  deriving DecidableEq, Repr, Inhabited

namespace Dialect

def name : Dialect → String
  | generic => "generic"
  | mysql => "mysql"
  | postgres => "postgres"
  | sqlite => "sqlite"

def all : List Dialect := [generic, mysql, postgres, sqlite]

structure UnknownName where
  lowered : String
  deriving DecidableEq, Repr

def UnknownName.message (e : UnknownName) : String := "unknown SQL dialect: " ++ e.lowered

def ofName (text : String) : Except UnknownName Dialect :=
  match Text.toLower text with
  | "generic" | "ansi" => .ok generic
  | "mysql" | "mariadb" => .ok mysql
  | "postgres" | "postgresql" | "pg" => .ok postgres
  | "sqlite" => .ok sqlite
  | lowered => .error ⟨lowered⟩

def startsWord (d : Dialect) (c : Char) : Bool :=
  match d with
  | generic => Text.isLetter c || c = '_' || c = '#' || c = '@'
  | mysql => Text.isLetter c || c = '_' || c = '$' || c = '@' || (0x80 ≤ c.toNat && c.toNat ≤ 0xFFFF)
  | postgres => Text.isLetter c || c = '_'
  | sqlite => c.isAlpha || c = '_' || (0x7F ≤ c.toNat && c.toNat ≤ 0xFFFF)

def continuesWord (d : Dialect) (c : Char) : Bool :=
  d.startsWord c || c.isDigit ||
    match d with
    | generic | postgres => c = '$'
    | mysql | sqlite => false

def quotesName (d : Dialect) (c : Char) : Bool :=
  match d with
  | generic => c = '"' || c = '`'
  | mysql => c = '`'
  | postgres => c = '"'
  | sqlite => c = '"' || c = '`' || c = '['

def backslashEscapes (d : Dialect) : Bool := d = mysql

def digitsStartWord (d : Dialect) : Bool := d = mysql

def unicodeStrings (d : Dialect) : Bool := d = postgres || d = generic

/-- Characters that lengthen an operator into one defined by the user. -/
def extendsOperator (d : Dialect) (c : Char) : Bool :=
  d = postgres && "+-*/<>=~!@#%^&|`?".toList.contains c

end Dialect

end RowFence.Sql
