import Rdc.Proof.Calls
import Mathlib.Data.List.Perm.Basic

/-!
# The order of watch requests

A watch enters its pair of groups in `watch_table_` and merges its settings into the record of every
field the pair covers. Seen at one entry or at one key, a list of requests is a fold: over the
requests for this entry, and over the requests that cover this key. The first fold has at most one
step that does anything, if the pairs are distinct; the steps of the second commute, because the
merge of two watches takes minima and maxima, and because the first watch on a lapsed record, which
is treated differently, makes it a record like any other (`mergeSettings_comm`).
-/

namespace Rdc.Proof

open Std (ExtTreeMap)
open Daemon OrdMap Machine

/-- One `rdc_field_watch`. -/
structure WatchRequest where
  groupId : Nat
  fieldGroupId : Nat
  updateFreq : Nat
  maxKeepAge : ℚ
  maxKeepSamples : Nat

namespace WatchRequest

/-- The pair of groups. -/
def key (r : WatchRequest) : RdcFieldGroupKey := (r.groupId, r.fieldGroupId)

/-- The settings that are asked for. -/
def settings (r : WatchRequest) : FieldSettings :=
  watchSettings r.updateFreq r.maxKeepAge r.maxKeepSamples

/-- The call. -/
def op (r : WatchRequest) : Op :=
  .fieldWatch r.groupId r.fieldGroupId r.updateFreq r.maxKeepAge r.maxKeepSamples

end WatchRequest

/-- Requests one after the other: their results, and the daemon after them. -/
def issue (tel : Telemetry) (d : Daemon) : List WatchRequest → List Status × Daemon
  | [] => ([], d)
  | r :: rs =>
    let first := d.exec tel r.op
    let others := issue tel first.2 rs
    (first.1 :: others.1, others.2)

/-! ## Two merges -/

/-- What a request does to an entry of `watch_table_`. -/
def entryStep (e : RdcFieldGroupKey) (o : Option FieldSettings) (r : WatchRequest) :
    Option FieldSettings := if r.key = e then some r.settings else o

/-- The requests can be made: their pairs are distinct, none is watching, and all exist. -/
structure Ready (d : Daemon) (reqs : List WatchRequest) : Prop where
  distinct : (reqs.map (·.key)).Nodup
  idle : ∀ r ∈ reqs, ∀ f, ¬ Watching d r.key f
  live : ∀ r ∈ reqs, d.groupSettings.Live r.key

variable {reqs reqs' : List WatchRequest}

section Issue

variable (tel : Telemetry) {d : Daemon}

theorem Ready.tail {r : WatchRequest} {rs : List WatchRequest} (h : Ready d (r :: rs)) {d' : Daemon}
    (hgs : d'.groupSettings = d.groupSettings)
    (hentry : ∀ e, d'.watchTable[e]? = entryStep e d.watchTable[e]? r) : Ready d' rs := by
  obtain ⟨hnot, hnodup⟩ := List.nodup_cons.mp h.distinct
  refine ⟨hnodup, fun q hq f hw => ?_, fun q hq => ?_⟩
  · have hne : r.key ≠ q.key := fun heq => hnot (List.mem_map.mpr ⟨q, hq, heq.symm⟩)
    refine h.idle q (List.mem_cons_of_mem _ hq) f ⟨?_, hw.2⟩
    have hget := hw.1
    rw [hentry, entryStep, if_neg hne] at hget
    exact hget
  · rw [hgs]
    exact h.live q (List.mem_cons_of_mem _ hq)

theorem Ready.perm (h : Ready d reqs) (hperm : reqs.Perm reqs') : Ready d reqs' :=
  ⟨(hperm.map _).nodup_iff.mp h.distinct, fun r hr => h.idle r (hperm.mem_iff.mpr hr),
    fun r hr => h.live r (hperm.mem_iff.mpr hr)⟩

end Issue

/-! ## The order -/

end Rdc.Proof
