import RowFence.Json.Writer

/-! The settings of a connection pool, and their JSON form. -/

namespace RowFence

structure PoolConfig where
  maxConnections : Nat := 10
  minConnections : Nat := 1
  connectionTimeoutMs : Nat := 30000
  busyTimeoutMs : Nat := 5000
  deriving DecidableEq, Repr

namespace PoolConfig

open Json Json.Reader

def natural (bits : Nat) : Reader Nat :=
  Int.toNat <$> integer ("u" ++ toString bits) fun i => 0 ≤ i && i < Nat.pow 2 bits

def fields : List (Member PoolConfig) := [
  ⟨"max_connections", false, fun c => return { c with maxConnections := ← natural 32 }⟩,
  ⟨"min_connections", false, fun c => return { c with minConnections := ← natural 32 }⟩,
  ⟨"connection_timeout_ms", false, fun c =>
    return { c with connectionTimeoutMs := ← natural 64 }⟩,
  ⟨"busy_timeout_ms", false, fun c => return { c with busyTimeoutMs := ← natural 64 }⟩]

def ofJson (text : String) : Except Fault PoolConfig :=
  (record "struct SqlitePoolConfig" fields {}).run text

def toJson (c : PoolConfig) : Value := .object [
  ("max_connections", .int c.maxConnections),
  ("min_connections", .int c.minConnections),
  ("connection_timeout_ms", .int c.connectionTimeoutMs),
  ("busy_timeout_ms", .int c.busyTimeoutMs)]

end PoolConfig

end RowFence
