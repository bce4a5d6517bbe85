import RowFence.Files
import RowFence.Policy
import RowFence.Policy.ConfigJson

/-! Policies from configuration texts and files. -/

namespace RowFence

inductive ConfigError where
  | file (path : String) (problem : FileProblem)
  | json (e : Json.Fault)
  | policy (e : PolicyError)
  deriving DecidableEq, Repr

def ConfigError.jsonComplaint (reason : String) : String :=
  "failed to parse isolation config: " ++ reason

def ConfigError.message : ConfigError → String
  | file path problem => "failed to read isolation config " ++ path ++ ": " ++ problem.message
  | json e => jsonComplaint e.message
  | policy e => e.message

namespace IsolationConfig

def ofText (text : String) : Except ConfigError IsolationConfig := (ofJson text).mapError .json

def ofFile (files : Files) (path : String) : Except ConfigError IsolationConfig :=
  match files.text path with
  | .ok text => ofText text
  | .error problem => .error (.file path problem)

def toPolicy (c : IsolationConfig) : Except ConfigError Policy := (Policy.ofConfig c).mapError .policy

end IsolationConfig

end RowFence
