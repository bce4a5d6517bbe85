import RowFence.Text.Blank
import RowFence.Text.Digits
import RowFence.Text.Quoted

/-! Tenant identifiers: the positive integers of 64 bits. -/

namespace RowFence

structure TenantId where
  value : Nat
  positive : 0 < value
  bounded : value < Nat.pow 2 63
  deriving DecidableEq, Repr

namespace TenantId

structure Invalid where
  value : String
  deriving DecidableEq, Repr

def Invalid.message (e : Invalid) : String :=
  "invalid tenant id: " ++ Text.quote e.value ++ " (expected a positive integer)"

def ofNat? (n : Nat) : Option TenantId :=
  if h : 0 < n ∧ n < Nat.pow 2 63 then some ⟨n, h.1, h.2⟩ else none

def ofInt? : Int → Option TenantId
  | .ofNat n => ofNat? n
  | .negSucc _ => none

def ofInt (i : Int) : Except Invalid TenantId :=
  match ofInt? i with
  | some t => .ok t
  | none => .error ⟨toString i⟩

/-- Digits with an optional plus sign before them. -/
def ofDigits? (cs : List Char) : Option TenantId :=
  let digits := match cs with | '+' :: rest => rest | _ => cs
  (Text.decimal? digits).bind ofNat?

def ofText (s : String) : Except Invalid TenantId :=
  let trimmed := Text.trimChars s.toList
  match ofDigits? trimmed with
  | some t => .ok t
  | none => .error ⟨String.ofList trimmed⟩

def spelling (t : TenantId) : String := toString t.value

instance : ToString TenantId := ⟨spelling⟩

def described (t : TenantId) : String := "TenantId(" ++ t.spelling ++ ")"

def one : TenantId := ⟨1, by decide, by decide⟩

end TenantId

end RowFence
