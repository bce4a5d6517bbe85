import RowFence.Text.Digits
import RowFence.Text.Split

/-! The code of a tenant in a host name: the first of at least three labels. -/

namespace RowFence

/-- A number below 256 in at most three digits, without leading zeros. -/
def isOctet (cs : List Char) : Bool :=
  cs.length ≤ 3 && (Text.decimal? cs).any (· < 256) && (cs.length = 1 || cs.head? != some '0')

def isIpv4Address (host : List Char) : Bool :=
  let parts := Text.splitAt '.' host
  parts.length = 4 && parts.all isOctet

/-- A host without its port number. An address in brackets is no host name. -/
def hostName? (host : List Char) : Option (List Char) :=
  if host.head? == some '[' then none else some (host.takeWhile (· != ':'))

def subdomain? (host : List Char) : Option (List Char) :=
  if isIpv4Address host then none
  else
    match Text.splitAt '.' host with
    | label :: _ :: _ :: _ => if label.isEmpty then none else some label
    | _ => none

end RowFence
