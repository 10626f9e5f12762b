/-
ProxyClient/Cache/Header.lean

The header of a cache file: eleven bytes that tell what it is, the version
of the format, and the time from which the file is expired.
-/
import ProxyClient.Wire.Codec

namespace ProxyClient

/-- The header of a cache file. -/
structure CacheHeader where
  /-- The time, in seconds, from which the file is expired; zero for never. -/
  expiresAt : Int64
  deriving DecidableEq, Repr

namespace CacheHeader

/-- The bytes at the beginning of every cache file. -/
def magic : Bytes := Bytes.ofText "ZRELAYCACHE"

/-- The version of the format. -/
def version : UInt16 := 1

/-- The number of bytes of a header. -/
def size : Nat := 21

/-- The bytes of a header. -/
def encode (header : CacheHeader) : Bytes :=
  magic ++ Wire.encodeU16 version ++ Wire.encodeI64 header.expiresAt

/-- Reads a header from its bytes; nothing for another kind of file, another
version, or too few bytes. -/
def parse? (bytes : Bytes) : Option CacheHeader :=
  let fields : Decoder (Bytes × UInt16 × Int64) := do
    return (← Wire.take 11, ← Wire.u16, ← Wire.i64)
  match fields bytes with
  | .ok ((found, foundVersion, expiresAt), _) =>
    if found = magic ∧ foundVersion = version then some ⟨expiresAt⟩ else none
  | .error _ => none

/-- The file is expired at a time. -/
def isExpired (header : CacheHeader) (now : Int64) : Bool :=
  header.expiresAt ≠ 0 ∧ header.expiresAt ≤ now

/-- The time on a clock, which shows no time before the epoch. -/
def timeOn (clock : Int64) : Int64 := max clock 0

/-- The time `ttl` seconds after `now`, at most the last there is; never for zero. -/
def expiryAfter (now : Int64) (ttl : Nat) : Int64 :=
  if ttl = 0 then 0
  else
    let last : Int := 2 ^ 63 - 1
    Int64.ofInt (min (now.toInt + min (ttl : Int) last) last)

end CacheHeader

end ProxyClient
