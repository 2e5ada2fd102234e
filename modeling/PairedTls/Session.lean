import PairedTls.Text.Utf8

namespace PairedTls

structure SessionContext where
  bytes : Bytes
  deriving DecidableEq, Repr

namespace SessionContext

def maxLength : Nat := 32

/-- The port, a colon, and the address backwards, cut to 32 bytes. -/
def ofListener (address : String) (port : UInt16) : SessionContext :=
  ⟨(Utf8.encode (port.toNat.repr.toList ++ ':' :: address.toList.reverse)).take maxLength⟩

def qualify (ctx : SessionContext) (key : Bytes) : Bytes :=
  ctx.bytes ++ key

end SessionContext

/-- Sessions by key, the oldest key first. -/
structure SessionCache where
  capacity : Nat
  entries : List (Bytes × Bytes)
  deriving DecidableEq, Repr

namespace SessionCache

def defaultCapacity : Nat := 256

def empty (capacity : Nat) : SessionCache :=
  ⟨capacity, []⟩

def get? (c : SessionCache) (key : Bytes) : Option Bytes :=
  c.entries.lookup key

def replace (key value : Bytes) : List (Bytes × Bytes) → List (Bytes × Bytes)
  | [] => []
  | (k, v) :: rest => if k = key then (k, value) :: rest else (k, v) :: replace key value rest

/-- A new value for an old key keeps the key's age; a new key may push out the oldest one. -/
def put (c : SessionCache) (key value : Bytes) : SessionCache :=
  if (c.get? key).isSome then { c with entries := replace key value c.entries }
  else
    let entries := c.entries ++ [(key, value)]
    { c with entries := if c.capacity < entries.length then entries.tail else entries }

def erase (key : Bytes) (entries : List (Bytes × Bytes)) : List (Bytes × Bytes) :=
  entries.filter (·.1 != key)

def take (c : SessionCache) (key : Bytes) : Option Bytes × SessionCache :=
  (c.get? key, { c with entries := erase key c.entries })

def canCache (_ : SessionCache) : Bool := true

end SessionCache

/-- A view of a cache through one listener's context. -/
structure ScopedStore where
  context : SessionContext
  deriving DecidableEq, Repr

namespace ScopedStore

def get? (s : ScopedStore) (c : SessionCache) (key : Bytes) : Option Bytes :=
  c.get? (s.context.qualify key)

def put (s : ScopedStore) (c : SessionCache) (key value : Bytes) : SessionCache :=
  c.put (s.context.qualify key) value

def take (s : ScopedStore) (c : SessionCache) (key : Bytes) : Option Bytes × SessionCache :=
  c.take (s.context.qualify key)

def canCache (_ : ScopedStore) (c : SessionCache) : Bool :=
  c.canCache

end ScopedStore
end PairedTls
