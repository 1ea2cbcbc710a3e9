import Rdc.Proof.Jobs

/-!
# The tables, timestamps aside

What two concurrent calls leave is compared without the timestamps, since these only say when each
section ran. Unwatching does not look at them: on tables that differ in timestamps it leaves tables
that differ in timestamps. And unwatching an entry a second time moves its timestamp and nothing
else.
-/

namespace Rdc.Proof

open Std Daemon OrdMap

/-! ## What is observed -/

/-- Settings without their timestamp. -/
def untimed (f : FieldSettings) : FieldSettings := { f with lastUpdateTime := 0 }

/-- Statistics without their timestamps. The source tells a job that has ended by its end time being
set, so that much of it stays. -/
def untimedJob (job : RdcJobStatsCacheEntry) : RdcJobStatsCacheEntry :=
  { job with startTime := 0, endTime := if job.endTime = 0 then 0 else 1 }

/-- A table without its timestamps. -/
def untimedTable (table : KeyMap FieldSettings) : KeyMap FieldSettings :=
  table.map fun _ f => untimed f

/-- The four tables, timestamps aside. -/
def observed (d : Daemon) : KeyMap FieldSettings × KeyMap FieldSettings
    × JobMap JobWatchTableEntry × JobMap RdcJobStatsCacheEntry :=
  (untimedTable d.watchTable, untimedTable d.fieldsToWatch, d.jobWatchTable,
    d.cacheMgr.cacheJobs.map fun _ job => untimedJob job)

/-- The part of it that watches and unwatches work on, with the groups they look up. -/
def watchView (d : Daemon) : GroupSettings × KeyMap FieldSettings × KeyMap FieldSettings :=
  (d.groupSettings, untimedTable d.watchTable, untimedTable d.fieldsToWatch)

theorem getElem?_untimedTable (table : KeyMap FieldSettings) (k : RdcFieldKey) :
    (untimedTable table)[k]? = table[k]?.map untimed := ExtTreeMap.getElem?_map

variable {table table' : KeyMap FieldSettings}

theorem untimedTable_ext (h : ∀ k : RdcFieldKey, table[k]?.map untimed = table'[k]?.map untimed) :
    untimedTable table = untimedTable table' := by
  refine ExtTreeMap.ext_getElem? fun k => ?_
  rw [getElem?_untimedTable, getElem?_untimedTable, h k]

theorem getElem?_of_untimedTable (h : untimedTable table = untimedTable table') (k : RdcFieldKey) :
    table[k]?.map untimed = table'[k]?.map untimed := by
  rw [← getElem?_untimedTable, h, getElem?_untimedTable]

section Observed

variable {d d' : Daemon} {e : RdcFieldGroupKey} {f : FieldSettings}

theorem watching_of_untimedTable (h : untimedTable d.watchTable = untimedTable d'.watchTable)
    (hw : Watching d e f) : ∃ f', Watching d' e f' ∧ untimed f' = untimed f := by
  have hmap := getElem?_of_untimedTable h e
  rw [hw.1] at hmap
  obtain ⟨f', hf', heq⟩ := Option.map_eq_some_iff.mp hmap.symm
  refine ⟨f', ⟨hf', ?_⟩, heq⟩
  have hflag : (untimed f').isWatching = (untimed f).isWatching :=
    congrArg FieldSettings.isWatching heq
  exact hflag.trans hw.2

theorem jobs_of_observed (h : observed d = observed d') : d.jobWatchTable = d'.jobWatchTable :=
  congrArg (fun o => o.2.2.1) h

theorem stats_of_observed (h : observed d = observed d') (j : JobId) :
    d.cacheMgr.cacheJobs[j]?.map untimedJob = d'.cacheMgr.cacheJobs[j]?.map untimedJob := by
  have hmap := congrArg (fun o => o.2.2.2[j]?) h
  simpa only [observed, ExtTreeMap.getElem?_map] using hmap

theorem watching_of_observed (h : observed d = observed d') (hw : Watching d e f) :
    ∃ f', Watching d' e f' := by
  obtain ⟨f', hw', _⟩ := watching_of_untimedTable (congrArg (fun o => o.1) h) hw
  exact ⟨f', hw'⟩

theorem unwatchable_of_watchView (h : watchView d = watchView d') (hu : Unwatchable d e) :
    Unwatchable d' e := by
  have hgs : d.groupSettings = d'.groupSettings := congrArg (fun v => v.1) h
  have htable : untimedTable d.watchTable = untimedTable d'.watchTable :=
    congrArg (fun v => v.2.1) h
  refine ⟨?_, hgs ▸ hu.2.1, ?_⟩
  · have hsome := congrArg Option.isSome (getElem?_of_untimedTable htable e)
    rw [Option.isSome_map, Option.isSome_map] at hsome
    rw [← hsome]
    exact hu.1
  · intro e' f hne hw
    obtain ⟨f', hw', _⟩ := watching_of_untimedTable htable.symm hw
    rw [← hgs]
    exact hu.2.2 e' f' hne hw'

theorem unwatchable_iff_of_watchView (h : watchView d = watchView d') :
    Unwatchable d e ↔ Unwatchable d' e :=
  ⟨unwatchable_of_watchView h, unwatchable_of_watchView h.symm⟩

end Observed

/-! ## Unwatching -/

/-- The settings of an entry that has been flagged off, without the timestamp. -/
def off (f : FieldSettings) : FieldSettings := { untimed f with isWatching := false }

section Unwatch

variable {d d' : Daemon} {g fg : Nat}

/-- Whatever the outcome, the entry is flagged off and the others stay. -/
theorem unwatch_watchTable (d : Daemon) (g fg now : Nat) (e : RdcFieldGroupKey) :
    (d.rdcFieldUnwatch g fg now).2.watchTable[e]?.map untimed =
      if (g, fg) = e then (d.watchTable[e]?.map untimed).map off
      else d.watchTable[e]?.map untimed := by
  have hflag : ∀ entry, d.watchTable[(g, fg)]? = some entry →
      (flaggedOff d (g, fg) entry now).watchTable[e]?.map untimed =
        if (g, fg) = e then (d.watchTable[e]?.map untimed).map off
        else d.watchTable[e]?.map untimed := by
    intro entry hentry
    rw [flaggedOff_getElem?]
    split
    · rename_i he
      rw [← he, hentry]
      rfl
    · rfl
  rcases rdcFieldUnwatch_cases d g fg now with
    ⟨hnone, heq⟩ | ⟨entry, hentry, ⟨_, heq⟩ | ⟨_, _, F, calls, _, heq⟩⟩ <;> rw [heq]
  · split
    · rename_i he
      rw [← he, hnone]
      rfl
    · rfl
  · exact hflag entry hentry
  · exact hflag entry hentry

theorem unwatch_records (d : Daemon) (g fg now : Nat) :
    (Unwatchable d (g, fg) ∧ (d.rdcFieldUnwatch g fg now).1 = .ok
      ∧ UnwatchedRecord d (g, fg) (d.rdcFieldUnwatch g fg now).2.watchTable
        (d.rdcFieldUnwatch g fg now).2.fieldsToWatch)
    ∨ (¬ Unwatchable d (g, fg) ∧ (d.rdcFieldUnwatch g fg now).1 = .notFound
      ∧ (d.rdcFieldUnwatch g fg now).2.fieldsToWatch = d.fieldsToWatch) := by
  have hok := rdcFieldUnwatch_ok_iff d g fg now
  rcases rdcFieldUnwatch_cases d g fg now with
    ⟨_, heq⟩ | ⟨entry, _, ⟨_, heq⟩ | ⟨_, _, F, calls, hF, heq⟩⟩ <;> rw [heq] at hok ⊢
  · exact Or.inr ⟨fun h => absurd (hok.mpr h) (by simp), rfl, rfl⟩
  · exact Or.inr ⟨fun h => absurd (hok.mpr h) (by simp), rfl, rfl⟩
  · exact Or.inl ⟨hok.mp rfl, rfl, hF⟩

/-- What is asked of a key does not depend on timestamps. -/
theorem demand_untimedTable (gs : GroupSettings) (table : KeyMap FieldSettings) (k : RdcFieldKey) :
    Demand gs (untimedTable table) k = Demand gs table k := by
  ext v
  simp only [Demand, Set.mem_ofPred_eq, getElem?_untimedTable, Option.map_eq_some_iff]
  refine ⟨?_, ?_⟩
  · rintro ⟨e, _, ⟨f, hf, rfl⟩, hrest⟩
    exact ⟨e, f, hf, hrest⟩
  · rintro ⟨e, f, hf, hrest⟩
    exact ⟨e, untimed f, ⟨f, hf, rfl⟩, hrest⟩

/-- Two successful unwatches that leave the same demand do the same to the records: something that
does not look at timestamps, and does nothing more when done again. -/
theorem unwatchedRecords_map {e : RdcFieldGroupKey} {table table' F F' : KeyMap FieldSettings}
    (hgs : d'.groupSettings = d.groupSettings) (htable : untimedTable table' = untimedTable table)
    (hF : UnwatchedRecord d e table F) (hF' : UnwatchedRecord d' e table' F') (k : RdcFieldKey) :
    ∃ φ : FieldSettings → FieldSettings, (∀ f, untimed (φ f) = φ (untimed f))
      ∧ (∀ f, φ (φ f) = φ f) ∧ F[k]? = d.fieldsToWatch[k]?.map φ
      ∧ F'[k]? = d'.fieldsToWatch[k]?.map φ := by
  have hdemand : Demand d'.groupSettings table' k = Demand d.groupSettings table k := by
    rw [hgs, ← demand_untimedTable, htable, demand_untimedTable]
  by_cases hk : isNotificationEvent k.2 = false ∧ d.groupSettings.Covers e k
  · obtain ⟨least, hleast, heq⟩ := (hF k).1 hk
    obtain ⟨least', hleast', heq'⟩ := (hF' k).1 (hgs ▸ hk)
    rw [hdemand] at hleast'
    rw [hleast'.unique hleast] at heq'
    exact ⟨unwatchSettings least, fun f => by cases least <;> rfl, unwatchSettings_idem least,
      heq, heq'⟩
  · exact ⟨id, fun _ => rfl, fun _ => rfl, by rw [(hF k).2 hk, Option.map_id_apply],
      by rw [(hF' k).2 (hgs ▸ hk), Option.map_id_apply]⟩

/-- **Unwatching does not look at timestamps.** -/
theorem unwatch_congr (g fg : Nat) (h : watchView d = watchView d') (now now' : Nat) :
    (d'.rdcFieldUnwatch g fg now').1 = (d.rdcFieldUnwatch g fg now).1
      ∧ watchView (d'.rdcFieldUnwatch g fg now').2 = watchView (d.rdcFieldUnwatch g fg now).2 := by
  have hgs : d.groupSettings = d'.groupSettings := congrArg (fun v => v.1) h
  have hW : untimedTable d.watchTable = untimedTable d'.watchTable := congrArg (fun v => v.2.1) h
  have hF : untimedTable d.fieldsToWatch = untimedTable d'.fieldsToWatch :=
    congrArg (fun v => v.2.2) h
  have hgs' : (d'.rdcFieldUnwatch g fg now').2.groupSettings
      = (d.rdcFieldUnwatch g fg now).2.groupSettings := by
    rw [(rdcFieldUnwatch_sameStores ..).1, (rdcFieldUnwatch_sameStores ..).1, hgs]
  have hW' : untimedTable (d'.rdcFieldUnwatch g fg now').2.watchTable
      = untimedTable (d.rdcFieldUnwatch g fg now).2.watchTable := by
    refine untimedTable_ext fun e => ?_
    rw [unwatch_watchTable, unwatch_watchTable, getElem?_of_untimedTable hW e]
  have hiff := unwatchable_iff_of_watchView (e := (g, fg)) h
  rcases unwatch_records d g fg now with ⟨hu, hst, hrec⟩ | ⟨hu, hst, hrec⟩ <;>
    rcases unwatch_records d' g fg now' with ⟨hu', hst', hrec'⟩ | ⟨hu', hst', hrec'⟩
  · refine ⟨hst'.trans hst.symm, Prod.ext hgs' (Prod.ext hW' (untimedTable_ext fun k => ?_))⟩
    obtain ⟨φ, hφ, _, heq, heq'⟩ := unwatchedRecords_map hgs.symm hW' hrec hrec' k
    have hcomm : untimed ∘ φ = φ ∘ untimed := funext hφ
    rw [heq, heq', Option.map_map, Option.map_map, hcomm, ← Option.map_map, ← Option.map_map,
      getElem?_of_untimedTable hF k]
  · exact absurd (hiff.mp hu) hu'
  · exact absurd (hiff.mpr hu') hu
  · refine ⟨hst'.trans hst.symm, Prod.ext hgs' (Prod.ext hW' ?_)⟩
    show untimedTable _ = untimedTable _
    rw [hrec, hrec', hF]

/-- Whether an entry can be unwatched does not depend on its having been unwatched. -/
theorem unwatchable_unwatch_iff (d : Daemon) (g fg now : Nat) :
    Unwatchable (d.rdcFieldUnwatch g fg now).2 (g, fg) ↔ Unwatchable d (g, fg) := by
  unfold Unwatchable OthersLive
  rw [rdcFieldUnwatch_isSome, (rdcFieldUnwatch_sameStores d g fg now).1]
  refine and_congr Iff.rfl (and_congr Iff.rfl ⟨fun h e f hne hw => ?_, fun h e f hne hw => ?_⟩)
  · exact h e f hne (watching_unwatch.mpr ⟨hne, hw⟩)
  · exact h e f hne (watching_unwatch.mp hw).2

/-- **Unwatching twice is unwatching once**, with the same status both times. -/
theorem unwatch_twice (d : Daemon) (g fg now now' : Nat) :
    ((d.rdcFieldUnwatch g fg now).2.rdcFieldUnwatch g fg now').1 = (d.rdcFieldUnwatch g fg now).1
      ∧ watchView ((d.rdcFieldUnwatch g fg now).2.rdcFieldUnwatch g fg now').2
        = watchView (d.rdcFieldUnwatch g fg now).2 := by
  have hiff := unwatchable_unwatch_iff d g fg now
  have hfirst := unwatch_records d g fg now
  have hgs := (rdcFieldUnwatch_sameStores d g fg now).1
  have htable := unwatch_watchTable d g fg now
  generalize d.rdcFieldUnwatch g fg now = r at hiff hfirst hgs htable
  have hgs' : (r.2.rdcFieldUnwatch g fg now').2.groupSettings = r.2.groupSettings :=
    (rdcFieldUnwatch_sameStores ..).1
  have hW' : untimedTable (r.2.rdcFieldUnwatch g fg now').2.watchTable
      = untimedTable r.2.watchTable := by
    refine untimedTable_ext fun e => ?_
    rw [unwatch_watchTable, htable e]
    split
    · cases d.watchTable[e]? <;> rfl
    · rfl
  rcases hfirst with ⟨hu, hst, hrec⟩ | ⟨hu, hst, hrec⟩ <;>
    rcases unwatch_records r.2 g fg now' with ⟨hu', hst', hrec'⟩ | ⟨hu', hst', hrec'⟩
  · refine ⟨hst'.trans hst.symm, Prod.ext hgs' (Prod.ext hW' (untimedTable_ext fun k => ?_))⟩
    obtain ⟨φ, _, hidem, heq, heq'⟩ := unwatchedRecords_map hgs hW' hrec hrec' k
    have htwice : φ ∘ φ = φ := funext hidem
    have hsame : (r.2.rdcFieldUnwatch g fg now').2.fieldsToWatch[k]? = r.2.fieldsToWatch[k]? := by
      rw [heq', heq, Option.map_map, htwice]
    rw [hsame]
  · exact absurd (hiff.mpr hu) hu'
  · exact absurd (hiff.mp hu') hu
  · refine ⟨hst'.trans hst.symm, Prod.ext hgs' (Prod.ext hW' ?_)⟩
    show untimedTable _ = untimedTable _
    rw [hrec']

/-- So an entry may be unwatched any number of times, on tables that differ in timestamps. -/
theorem unwatch_settled {now : Nat}
    (h : watchView d' = watchView d ∨ watchView d' = watchView (d.rdcFieldUnwatch g fg now).2)
    (now' : Nat) :
    (d'.rdcFieldUnwatch g fg now').1 = (d.rdcFieldUnwatch g fg now).1
      ∧ watchView (d'.rdcFieldUnwatch g fg now').2 = watchView (d.rdcFieldUnwatch g fg now).2 := by
  rcases h with h | h
  · exact unwatch_congr g fg h.symm now now'
  · obtain ⟨hst, hview⟩ := unwatch_congr g fg h.symm now' now'
    obtain ⟨hst', hview'⟩ := unwatch_twice d g fg now now'
    exact ⟨hst.trans hst', hview.trans hview'⟩

end Unwatch

end Rdc.Proof
