import Rdc.System

/-!
# Clients that read the history

A client reads the cached samples of a field one call at a time: it passes a timestamp and receives
a sample together with the timestamp to pass next. Two clients are modelled. `collectNewNotifs`
reads until nothing is left, as `rdci` does for notifications. `Poll` is a reader that shares the
cache with a writer; every call of either is one `cache_mutex_` section.
-/

namespace Rdc

/-- The samples of a field, oldest first. -/
def CacheManager.history (c : CacheManager) (gpuIndex fieldId : Nat) : List RdcCacheEntry :=
  c.cacheSamples[(gpuIndex, fieldId)]?.getD []

/-- The inner loop of `collect_new_notifs`: read from `since` on until `RDC_ST_NOT_FOUND`. The two
buffers of the call are reused. `none` is a loop that has not ended after so many calls, or has
thrown. -/
def collectNewNotifs (c : CacheManager) (gpuIndex fieldId : Nat) :
    Nat → Nat → Nat → RdcFieldValue → Option (List RdcFieldValue)
  | 0, _, _, _ => none
  | fuel + 1, since, nextTs, value =>
    match c.rdcFieldGetValueSince gpuIndex fieldId since nextTs value with
    | (.notFound, _, _) => some []
    | (.ok, nextTs, value) =>
      (collectNewNotifs c gpuIndex fieldId fuel nextTs nextTs value).map (value :: ·)
    | _ => none

/-- A call on the history of one field: a writer's append or a reader's read. -/
inductive PollOp where
  | updateCache (ts : Nat) (type : RdcFieldType) (data : RdcFieldValueData)
  | getValueSince
  deriving DecidableEq

/-- A cache with one reader. -/
structure Poll where
  cacheMgr : CacheManager
  /-- The last `next_since_time_stamp` received with `RDC_ST_OK`. -/
  cursor : Nat
  /-- The reader's buffer. -/
  value : RdcFieldValue
  /-- The positions of the samples the reader has been given. -/
  returned : List Nat

namespace Poll

/-- One call. The position of the sample a read returns is noted on the side. -/
def exec (gpuIndex fieldId : Nat) (s : Poll) : PollOp → Status × Poll
  | .updateCache ts type data =>
    let (result, c) := s.cacheMgr.rdcUpdateCache gpuIndex ⟨fieldId, 0, ts, type, data⟩
    (result, { s with cacheMgr := c })
  | .getValueSince =>
    match s.cacheMgr.rdcFieldGetValueSince gpuIndex fieldId s.cursor s.cursor s.value with
    | (.ok, next, value) =>
      (.ok, { s with
        cursor := next
        value := value
        returned :=
          (s.cacheMgr.history gpuIndex fieldId).findIdx (s.cursor ≤ ·.lastTime)
            :: s.returned })
    | (result, _, value) => (result, { s with value := value })

/-- An empty cache and a reader that starts from zero. -/
def init (value : RdcFieldValue) : Poll := ⟨CacheManager.init, 0, value, []⟩

end Poll

end Rdc
