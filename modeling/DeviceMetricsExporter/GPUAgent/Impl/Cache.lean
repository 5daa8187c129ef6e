import DeviceMetricsExporter.Lib.CallPool
import DeviceMetricsExporter.GPUAgent.Impl.Health

/-!
This module contains the cache in front of the hardware queries of the GPU client, shared by any
number of concurrent `cacheRead` calls. The section under the read lock is a step of its own, the
write lock is held from one step to the next.
-/

universe u

namespace GPUAgent

structure GPUCache (ρ : Type u) where
  lastResponse : Option ρ := none
  lastTimestamp : Int := 0
  deriving DecidableEq

def cacheTimer : Int := 15 * 1000000000

/--
`queried` is the completion of a hardware query, with `none` for an error, `read` a response taken
from the cache under a lock and `returned` the return of such a response. The last two also hold the
clock value that the age of the cache was computed with.
-/
inductive CacheEvent (ρ : Type u) where
  | queried (time : Int) (res : Option ρ)
  | read (now : Int) (res : ρ)
  | returned (now : Int) (res : ρ)
  deriving DecidableEq

/--
The cache and what surrounds it: whether a call holds the write lock, the clock, and what has
happened so far, latest first.
-/
structure CacheState (ρ : Type u) where
  gCache : GPUCache ρ
  locked : Bool
  now : Int
  history : List (CacheEvent ρ)
  deriving DecidableEq

/--
Where a call of `cacheRead` is. `waiting` has missed the fast path, `locked` holds the write lock and
is to check again, and `holding` has taken a response from the cache that it is to return.
-/
inductive CacheRead (ρ : Type u) where
  | called
  | started (now : Int)
  | waiting
  | locked
  | querying
  | holding (now : Int) (res : ρ)
  | finished (res : Option ρ)
  deriving DecidableEq

variable {ρ : Type u}

def GPUCache.fresh? (gCache : GPUCache ρ) (now : Int) : Option ρ :=
  if since now gCache.lastTimestamp < cacheTimer then gCache.lastResponse else none

namespace CacheState

def record (s : CacheState ρ) (e : CacheEvent ρ) : CacheState ρ :=
  { s with history := e :: s.history }

def unlock (s : CacheState ρ) : CacheState ρ :=
  { s with locked := false }

def update (s : CacheState ρ) (res : Option ρ) : CacheState ρ :=
  { s with gCache := ⟨res, s.now⟩ }

def elapse (s : CacheState ρ) (d : Nat) : Option (CacheState ρ) :=
  some { s with now := s.now + d }

end CacheState

def cacheRead (s : CacheState ρ) (c : CacheRead ρ) (x : Option (Option ρ))
    : Option (CacheState ρ × CacheRead ρ) :=
  match c, x with
  | .called, none => some (s, .started s.now)
  | .started now, none =>
    if s.locked then
      none
    else
      match s.gCache.fresh? now with
      | some res => some (s.record (.read now res), .holding now res)
      | none => some (s, .waiting)
  | .waiting, none => if s.locked then none else some ({ s with locked := true }, .locked)
  | .locked, none =>
    match s.gCache.fresh? s.now with
    | some res => some ((s.record (.read s.now res)).unlock, .holding s.now res)
    | none => some (s, .querying)
  | .querying, some res =>
    -- the query is complete when the call reads the clock after it
    some (((s.update res).record (.queried s.now res)).unlock, .finished res)
  | .holding now res, none => some (s.record (.returned now res), .finished (some res))
  | _, _ => none

abbrev CacheAction (ρ : Type u) := CallPool.Action Unit (Option (Option ρ)) Nat

def gpuCacheSystem : TransitionSystem (CallPool (CacheState ρ) (CacheRead ρ)) (CacheAction ρ) :=
  CallPool.system ⟨fun _ => .called, cacheRead, CacheState.elapse⟩

def newCachePool (now : Int) : CallPool (CacheState ρ) (CacheRead ρ) :=
  ⟨⟨{}, false, now, []⟩, []⟩

end GPUAgent
