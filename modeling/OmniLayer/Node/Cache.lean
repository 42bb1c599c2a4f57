import OmniLayer.Binary64
import OmniLayer.FinMap
import OmniLayer.Transaction

/-! # The transaction cache

Transactions under their own identifiers, with counts of the lookups that found one and of those
that did not. Several handles may share one cache. -/

namespace OmniLayer

/-- The **counts** of lookups. -/
structure CacheStats where
  /-- Lookups that found a transaction. -/
  hits : Nat
  /-- Lookups that found none. -/
  misses : Nat
  deriving DecidableEq, Repr

namespace CacheStats

/-- The number of lookups. -/
def total (stats : CacheStats) : Nat := stats.hits + stats.misses

/-- The **hit rate** in percent; without lookups it is zero. -/
def hitRate (stats : CacheStats) : Binary64 :=
  if stats.total = 0 then Binary64.zero
  else (Binary64.ratio stats.hits stats.total).mul (Binary64.ofNat 100)

end CacheStats

/-- A **cache** of transactions. -/
structure Cache where
  /-- The transactions. -/
  entries : FinMap Txid Transaction
  /-- The counts of lookups. -/
  stats : CacheStats

namespace Cache

/-- The cache without transactions and lookups. -/
def empty : Cache := ⟨FinMap.empty, ⟨0, 0⟩⟩

instance : Inhabited Cache := ⟨empty⟩

/-- **Looks up** a transaction and counts the lookup. -/
def get (cache : Cache) (txid : Txid) : Option Transaction × Cache :=
  match cache.entries.get? txid with
  | some tx => (some tx, { cache with stats := { cache.stats with hits := cache.stats.hits + 1 } })
  | none => (none, { cache with stats := { cache.stats with misses := cache.stats.misses + 1 } })

/-- **Keeps** a transaction under its own identifier. -/
def put (cache : Cache) (tx : Transaction) : Cache :=
  { cache with entries := cache.entries.insert tx.txid tx }

/-- The cache after everything in it, counts included, is dropped. -/
def clear (_cache : Cache) : Cache := empty

/-- The number of transactions. -/
def size (cache : Cache) : Nat := cache.entries.size

end Cache

/-- **Handles** on caches: which cache each handle is on. -/
structure CacheHandles where
  /-- The caches. -/
  caches : List Cache
  /-- The index of the cache of each handle. -/
  targets : List Nat

namespace CacheHandles

/-- One handle on one empty cache. -/
def initial : CacheHandles := ⟨[Cache.empty], [0]⟩

/-- The cache of a handle; a handle that does not exist is on an empty one. -/
def cache (handles : CacheHandles) (handle : Nat) : Cache :=
  (handles.targets[handle]?.bind fun target => handles.caches[target]?).getD Cache.empty

/-- Changes the cache of a handle, for every handle on it. -/
def update (handles : CacheHandles) (handle : Nat) (change : Cache → Cache) : CacheHandles :=
  match handles.targets[handle]? with
  | none => handles
  | some target => { handles with caches := handles.caches.modify target change }

/-- Adds a handle on the cache of another. -/
def clone (handles : CacheHandles) (handle : Nat) : CacheHandles :=
  { handles with targets := handles.targets ++ [(handles.targets[handle]?).getD 0] }

/-- Adds a handle on an empty cache. -/
def add (handles : CacheHandles) : CacheHandles where
  caches := handles.caches ++ [Cache.empty]
  targets := handles.targets ++ [handles.caches.length]

end CacheHandles

end OmniLayer
