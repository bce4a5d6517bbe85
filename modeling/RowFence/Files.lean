import RowFence.Text.Split

/-! Files by their paths, as they are seen from one directory. -/

namespace RowFence

inductive FileProblem where
  | missing | notDirectory | directory | longName | nul | denied | notText
  deriving DecidableEq, Repr

def FileProblem.message : FileProblem → String
  | missing => "No such file or directory (os error 2)"
  | notDirectory => "Not a directory (os error 20)"
  | directory => "Is a directory (os error 21)"
  | longName => "File name too long (os error 36)"
  | nul => "file name contained an unexpected NUL byte"
  | denied => "Permission denied (os error 13)"
  | notText => "stream did not contain valid UTF-8"

/-- What there is by path: whether it is a file, and the text that can be read from it. -/
structure Files where
  isFile : String → Bool
  text : String → Except FileProblem String

namespace Files

abbrev Tree := List (List String × String)

/-- The names between the slashes of a path. A dot and nothing at all stay where they are. -/
def steps (path : String) : List String :=
  (Text.pieces '/' path).filter fun name => name != "" && name != "."

def isDirectory (tree : Tree) (place : List String) : Bool :=
  place.isEmpty || tree.any fun (other, _) => place != other && place.isPrefixOf other

def maxNameLength : Nat := 255

def maxPathLength : Nat := 4095

/-- Walks down from a directory. Two dots lead up. -/
def walk (tree : Tree) (place : List String) : List String → Except FileProblem (List String)
  | [] => .ok place
  | name :: names =>
    if !isDirectory tree place then
      .error (if (tree.lookup place).isSome then .notDirectory else .missing)
    else if maxNameLength < name.utf8ByteSize then .error .longName
    else if name = ".." then walk tree place.dropLast names
    else walk tree (place ++ [name]) names

def wantsDirectory (path : String) : Bool :=
  match (Text.pieces '/' path).getLast? with
  | some name => name = "" || name = "."
  | none => false

def read (tree : Tree) (path : String) : Except FileProblem String := do
  if path.toList.contains '\x00' then throw .nul
  if path = "" then throw .missing
  if maxPathLength < path.utf8ByteSize then throw .longName
  let place ← walk tree [] (steps path)
  match tree.lookup place with
  | some text => if wantsDirectory path then throw .notDirectory else return text
  | none => throw (if isDirectory tree place then .directory else .missing)

def ofList (named : List (String × String)) : Files :=
  let tree : Tree := named.map fun (path, text) => (steps path, text)
  { isFile := fun path => (read tree path).toOption.isSome, text := read tree }

end Files

end RowFence
