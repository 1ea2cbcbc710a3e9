import Rdc.Proof.Races

/-!
# Stops and removals side by side

Without a start, whatever order the sections of two calls for one job take, the job is unwatched,
taken off the job table if that is possible, and forgotten if one of the calls is a removal. What is
done stays done, so each call can rely on it (`Progress`), and in the end there is nothing left to
choose but the status of a stop.
-/

namespace Rdc.Proof

open Std Daemon OrdMap Atomic

/-! ## What the calls lead to -/

/-- The daemon after one stop of the job. -/
def settled (d : Daemon) (j : JobId) : Daemon := ((rdcJobStopStats j ∅ ⟨0, 0⟩).run d).2

section Settled

variable {d : Daemon} {j : JobId} {job : JobWatchTableEntry}

theorem settled_unknown (hj : d.jobWatchTable[j]? = none) : settled d j = d := by
  unfold settled
  rw [stop_unknown ∅ ⟨0, 0⟩ hj]

theorem settled_known (hj : d.jobWatchTable[j]? = some job) :
    watchView (settled d j) = watchView (d.rdcFieldUnwatch job.groupId jobFieldId 0).2
      ∧ (Stoppable d j → (settled d j).jobWatchTable = d.jobWatchTable.erase j)
      ∧ (¬ Stoppable d j → (settled d j).jobWatchTable = d.jobWatchTable) := by
  have hok := rdcFieldUnwatch_ok_iff d job.groupId jobFieldId 0
  have hsame := rdcFieldUnwatch_sameStores d job.groupId jobFieldId 0
  rw [stoppable_iff hj, ← hok]
  unfold settled
  rcases rdcJobStopStats_cases d j ∅ ⟨0, 0⟩ with ⟨hnone, _⟩ | ⟨job', hjob', hcases⟩
  · rw [hj] at hnone
    simp at hnone
  · rw [hj] at hjob'
    rw [← Option.some.inj hjob'] at hcases
    rcases hcases with ⟨hst, heq⟩ | ⟨hst, heq⟩ <;> rw [heq]
    · exact ⟨rfl, fun h => absurd h hst, fun _ => hsame.2.2⟩
    · refine ⟨rfl, fun _ => ?_, fun h => absurd hst h⟩
      rw [endJob_jobs, hsame.2.2]

end Settled

/-- The tables of job statistics that calls without a start can lead to. -/
abbrev StatsOrder := JobMap RdcJobStatsCacheEntry → JobMap RdcJobStatsCacheEntry → Prop

/-- A state on the way from `d₀` to the job being stopped. What happens to the statistics is up to
`K`. -/
structure Underway (d₀ : Daemon) (j : JobId) (K : StatsOrder) (d : Daemon) : Prop where
  view : watchView d = watchView d₀ ∨ watchView d = watchView (settled d₀ j)
  jobs : d.jobWatchTable = d₀.jobWatchTable
    ∨ (d.jobWatchTable = (settled d₀ j).jobWatchTable ∧ watchView d = watchView (settled d₀ j))
  stats : K d₀.cacheMgr.cacheJobs d.cacheMgr.cacheJobs

/-- What is done stays done. -/
def Progress (d₀ : Daemon) (j : JobId) (K : StatsOrder) (d d' : Daemon) : Prop :=
  Underway d₀ j K d → Underway d₀ j K d'
    ∧ (watchView d = watchView (settled d₀ j) → watchView d' = watchView (settled d₀ j))
    ∧ (d.jobWatchTable = (settled d₀ j).jobWatchTable →
      d'.jobWatchTable = (settled d₀ j).jobWatchTable)
    ∧ K d.cacheMgr.cacheJobs d'.cacheMgr.cacheJobs

/-- The job has been unwatched, and taken off the job table if it could be. -/
structure Done (d₀ : Daemon) (j : JobId) (K : StatsOrder) (d : Daemon) : Prop where
  underway : Underway d₀ j K d
  view : watchView d = watchView (settled d₀ j)
  jobs : d.jobWatchTable = (settled d₀ j).jobWatchTable

section Progress

variable {d₀ d d' : Daemon} {j : JobId} {K : StatsOrder}

instance [IsPreorder _ K] : IsPreorder Daemon (Progress d₀ j K) where
  refl d := fun h => ⟨h, id, id, refl _⟩
  trans d₁ d₂ d₃ h₁₂ h₂₃ := by
    intro h
    obtain ⟨hu, hv, hj, hk⟩ := h₁₂ h
    obtain ⟨hu', hv', hj', hk'⟩ := h₂₃ hu
    exact ⟨hu', hv' ∘ hv, hj' ∘ hj, Trans.trans hk hk'⟩

theorem Done.progress (h : Done d₀ j K d) (hd : Progress d₀ j K d d') : Done d₀ j K d' := by
  obtain ⟨hu, hv, hj, _⟩ := hd h.underway
  exact ⟨hu, hv h.view, hj h.jobs⟩

theorem Underway.done_of_unknown (h : Underway d₀ j K d) (hj : d.jobWatchTable[j]? = none) :
    Done d₀ j K d := by
  rcases h.jobs with hjobs | ⟨hjobs, hview⟩
  · -- then it was not known in the beginning
    rw [hjobs] at hj
    have hset := settled_unknown hj
    refine ⟨h, ?_, by rw [hjobs, hset]⟩
    rcases h.view with hv | hv
    · rw [hv, hset]
    · exact hv
  · exact ⟨h, hview, hjobs⟩

theorem Underway.known {job : JobWatchTableEntry} (h : Underway d₀ j K d)
    (hj : d.jobWatchTable[j]? = some job) : d₀.jobWatchTable[j]? = some job := by
  rcases h.jobs with hjobs | ⟨hjobs, _⟩
  · rw [← hjobs]
    exact hj
  · rw [hjobs] at hj
    exact rdcJobStopStats_jobs hj

end Progress

/-! ## What each section contributes -/

section Sections

variable {d₀ d : Daemon} {j : JobId} {job : JobWatchTableEntry} {K : StatsOrder} [IsPreorder _ K]

/-- Unwatching the job is progress, and leaves it unwatched. -/
theorem unwatch_progress (hjob : d₀.jobWatchTable[j]? = some job) (h : Underway d₀ j K d)
    (now : Nat) :
    Progress d₀ j K d (d.rdcFieldUnwatch job.groupId jobFieldId now).2
      ∧ watchView (d.rdcFieldUnwatch job.groupId jobFieldId now).2 = watchView (settled d₀ j)
      ∧ ((d.rdcFieldUnwatch job.groupId jobFieldId now).1 = .ok ↔ Stoppable d₀ j)
      ∧ ((d.rdcFieldUnwatch job.groupId jobFieldId now).1 = .ok
        ∨ (d.rdcFieldUnwatch job.groupId jobFieldId now).1 = .notFound) := by
  have hset := (settled_known hjob).1
  have hsame := rdcFieldUnwatch_sameStores d job.groupId jobFieldId now
  obtain ⟨hst, hview⟩ := unwatch_settled (hset ▸ h.view) now
  rw [← hset] at hview
  refine ⟨fun _ => ⟨⟨Or.inr hview, ?_, ?_⟩, fun _ => hview, ?_, ?_⟩, hview, ?_, ?_⟩
  · rw [hsame.2.2]
    rcases h.jobs with hj | ⟨hj, _⟩
    · exact Or.inl hj
    · exact Or.inr ⟨hj, hview⟩
  · rw [hsame.2.1]
    exact h.stats
  · rw [hsame.2.2]
    exact id
  · rw [hsame.2.1]
    exact refl _
  · rw [hst, rdcFieldUnwatch_ok_iff, stoppable_iff hjob]
  · rcases unwatch_records d job.groupId jobFieldId now with ⟨_, hok, _⟩ | ⟨_, hno, _⟩
    · exact Or.inl hok
    · exact Or.inr hno

theorem erase_progress (hs : Stoppable d₀ j) (h : Underway d₀ j K d)
    (hview : watchView d = watchView (settled d₀ j)) :
    Progress d₀ j K d { d with jobWatchTable := d.jobWatchTable.erase j }
      ∧ d.jobWatchTable.erase j = (settled d₀ j).jobWatchTable := by
  have hset : (settled d₀ j).jobWatchTable = d₀.jobWatchTable.erase j := by
    obtain ⟨job, hjob, hu⟩ := hs
    exact (settled_known hjob).2.1 ⟨job, hjob, hu⟩
  have herase : d.jobWatchTable.erase j = (settled d₀ j).jobWatchTable := by
    rcases h.jobs with hj | ⟨hj, _⟩
    · rw [hj, hset]
    · rw [hj, hset, erase_of_getElem?_none ((getElem?_erase' ..).trans (if_pos rfl))]
  exact ⟨fun _ => ⟨⟨h.view, Or.inr ⟨herase, hview⟩, h.stats⟩, id, fun _ => herase, refl _⟩, herase⟩

theorem stats_progress {c : CacheManager}
    (hk : K d.cacheMgr.cacheJobs c.cacheJobs) :
    Progress d₀ j K d { d with cacheMgr := c } :=
  fun h => ⟨⟨h.view, h.jobs, Trans.trans h.stats hk⟩, id, id, hk⟩

/-- The end of a stop that has unwatched the job: the job is taken off the job table, and its
statistics are closed if they are there. -/
theorem stopUnwatched_safe (gauges : RdcGpuGauges) (time : Nat) (hs : Stoppable d₀ j)
    (h : Underway d₀ j K d) (hview : watchView d = watchView (settled d₀ j))
    (hclose : ∀ m, K d₀.cacheMgr.cacheJobs m →
      K m (m.alter j fun _ => m[j]?.map (closeEntry gauges time))) :
    Safe (Progress d₀ j K) (Progress d₀ j K)
      (fun st d => Done d₀ j K d ∧ (st = .notFound
        ∨ (st = .ok ∧ Stoppable d₀ j ∧ ∃ m, K d₀.cacheMgr.cacheJobs m ∧ m[j]?.isSome = true)))
      (stopUnwatched j gauges time .ok) d := by
  rw [stopUnwatched, if_neg (by simp)]
  refine Safe.atomic fun d₁ hd₁ => ?_
  obtain ⟨hu₁, hv₁, _⟩ := hd₁ h
  obtain ⟨hprog, herase⟩ := erase_progress hs hu₁ (hv₁ hview)
  refine ⟨hprog, ?_⟩
  intro d₂ hd₂
  have hdone : Done d₀ j K d₂ := Done.progress ⟨(hprog hu₁).1, hv₁ hview, herase⟩ hd₂
  have hclosed : Progress d₀ j K d₂ { d₂ with
      cacheMgr := (d₂.cacheMgr.rdcJobStopStats j gauges time).2 } := by
    refine stats_progress ?_
    rw [rdcJobStopStats_eq]
    exact hclose _ hdone.underway.stats
  refine ⟨hclosed, fun d₃ hd₃ => ⟨(hdone.progress hclosed).progress hd₃, ?_⟩⟩
  show (d₂.cacheMgr.rdcJobStopStats j gauges time).1 = .notFound
    ∨ ((d₂.cacheMgr.rdcJobStopStats j gauges time).1 = .ok ∧ _)
  rw [rdcJobStopStats_eq]
  dsimp only
  split
  · rename_i hsome
    exact Or.inr ⟨rfl, hs, _, hdone.underway.stats, hsome⟩
  · exact Or.inl rfl

/-- **A stop, beside others without a start, stops the job.** It succeeds only if it can unwatch the
job and still finds the statistics. -/
theorem stop_safe (gauges : RdcGpuGauges) (clock : StopClock) (h : Underway d₀ j K d)
    (hclose : Stoppable d₀ j → ∀ m, K d₀.cacheMgr.cacheJobs m →
      K m (m.alter j fun _ => m[j]?.map (closeEntry gauges clock.time))) :
    Safe (Progress d₀ j K) (Progress d₀ j K)
      (fun st d => Done d₀ j K d ∧ (st = .notFound
        ∨ (st = .ok ∧ Stoppable d₀ j ∧ ∃ m, K d₀.cacheMgr.cacheJobs m ∧ m[j]?.isSome = true)))
      (rdcJobStopStats j gauges clock) d := by
  rw [rdcJobStopStats_sections]
  refine Safe.read fun d₁ hd₁ => ?_
  obtain ⟨hu₁, _⟩ := hd₁ h
  -- the lock is released after the lookup, so the other call may act before the unwatch
  cases hj : d₁.jobWatchTable[j]? with
  | none =>
    intro d₂ hd₂
    exact ⟨(hu₁.done_of_unknown hj).progress hd₂, Or.inl rfl⟩
  | some job =>
    have hjob := hu₁.known hj
    refine Safe.atomic fun d₂ hd₂ => ?_
    obtain ⟨hu₂, _⟩ := hd₂ hu₁
    obtain ⟨hprog, hview, hok, hst⟩ := unwatch_progress hjob hu₂ clock.now
    obtain ⟨hu₃, _⟩ := hprog hu₂
    refine ⟨hprog, ?_⟩
    rcases hst with hst | hst <;> rw [hst] at hok ⊢
    · have hs := hok.mp rfl
      exact stopUnwatched_safe gauges clock.time hs hu₃ hview (hclose hs)
    · -- the job stays on the job table
      have hs : ¬ Stoppable d₀ j := fun h => absurd (hok.mpr h) (by simp)
      have hset := (settled_known hjob).2.2 hs
      rw [stopUnwatched_failed gauges clock.time (by simp)]
      have hdone : Done d₀ j K (d₂.rdcFieldUnwatch job.groupId jobFieldId clock.now).2 := by
        refine ⟨hu₃, hview, ?_⟩
        rcases hu₃.jobs with hj₃ | ⟨hj₃, _⟩
        · rw [hj₃, hset]
        · exact hj₃
      exact fun d₄ hd₄ => ⟨hdone.progress hd₄, Or.inl rfl⟩

/-- How a removal and the stops beside it treat the statistics of the job. -/
def Forgetting (j : JobId) : StatsOrder := fun m m' =>
  m'.erase j = m.erase j ∧ (m[j]? = none → m'[j]? = none)

instance (j : JobId) : IsPreorder _ (Forgetting j) where
  refl _ := ⟨rfl, id⟩
  trans _ _ _ h h' := ⟨h'.1.trans h.1, h'.2 ∘ h.2⟩

theorem forgetting_close (m : JobMap RdcJobStatsCacheEntry) (gauges : RdcGpuGauges) (time : Nat) :
    Forgetting j m (m.alter j fun _ => m[j]?.map (closeEntry gauges time)) := by
  refine ⟨ExtTreeMap.ext_getElem? fun a => ?_, fun h => ?_⟩
  · rw [getElem?_erase', getElem?_erase', getElem?_alter_const]
    split <;> rfl
  · rw [getElem?_alter_const, if_pos rfl, h]
    rfl

/-- **A removal, beside others without a start, stops the job and forgets it.** -/
theorem remove_safe (clock : StopClock) (h : Underway d₀ j (Forgetting j) d) :
    Safe (Progress d₀ j (Forgetting j)) (Progress d₀ j (Forgetting j))
      (fun st d => st = .ok ∧ Done d₀ j (Forgetting j) d ∧ d.cacheMgr.cacheJobs[j]? = none)
      (rdcJobRemove j clock) d := by
  rw [rdcJobRemove_sections]
  refine (stop_safe ∅ clock h fun _ m _ => forgetting_close m ∅ clock.time).bind fun _ d' hd' => ?_
  intro d₁ hd₁
  have hdone := hd'.1.progress hd₁
  have hdropped : Progress d₀ j (Forgetting j) d₁ ((dropStats j).run d₁).2 := by
    refine stats_progress ⟨?_, fun _ => (getElem?_erase' ..).trans (if_pos rfl)⟩
    exact erase_of_getElem?_none ((getElem?_erase' ..).trans (if_pos rfl))
  refine ⟨hdropped, fun d₂ hd₂ => ?_⟩
  have hdone₁ := hdone.progress hdropped
  exact ⟨rfl, hdone₁.progress hd₂, (hd₂ hdone₁.underway).2.2.2.2 (dropStats_stats d₁ j)⟩

end Sections

/-! ## The pairs -/

section Serial

variable {d : Daemon} {j : JobId} {K : StatsOrder}

theorem underway_self [IsPreorder _ K] (d : Daemon) (j : JobId) : Underway d j K d :=
  ⟨Or.inl rfl, Or.inl rfl, refl _⟩

theorem Done.observed {d' : Daemon} (h : Done d j K d') :
    observed d' = ((watchView (settled d j)).2.1, (watchView (settled d j)).2.2,
      (settled d j).jobWatchTable, d'.cacheMgr.cacheJobs.map fun _ job => untimedJob job) := by
  rw [← h.view, ← h.jobs]
  rfl

theorem eq_erase_of_forgetting {m m' : JobMap RdcJobStatsCacheEntry} (h : Forgetting j m m')
    (hnone : m'[j]? = none) : m' = m.erase j := by
  rw [← h.1, erase_of_getElem?_none hnone]

/-- **Two removals are serial.** -/
theorem remove_remove_serial (d : Daemon) (j : JobId) (clock clock' : StopClock) :
    Serial observed (rdcJobRemove j clock) (rdcJobRemove j clock') d := by
  have hstart := underway_self (K := Forgetting j) d j
  refine serial_of_forall (x := (.ok, .ok, (watchView (settled d j)).2.1,
    (watchView (settled d j)).2.2, (settled d j).jobWatchTable,
    (d.cacheMgr.cacheJobs.erase j).map fun _ job => untimedJob job)) fun r hr => ?_
  obtain ⟨⟨hst, hdone, hnone⟩, hst', _⟩ :=
    hr.safe (remove_safe clock hstart) (remove_safe clock' hstart)
  have hc := eq_erase_of_forgetting hdone.underway.stats hnone
  show (r.1, r.2.1, observed r.2.2) = _
  rw [hst, hst', hdone.observed, hc]

/-- **Two stops are serial unless both can succeed.** -/
theorem stop_stop_serial (h : ¬ (Stoppable d j ∧ d.cacheMgr.cacheJobs[j]?.isSome = true))
    (gauges gauges' : RdcGpuGauges) (clock clock' : StopClock) :
    Serial observed (rdcJobStopStats j gauges clock) (rdcJobStopStats j gauges' clock') d := by
  have hstart := underway_self (K := Eq) d j
  -- a job that can be stopped has no statistics to close
  have hclose : ∀ gauges time, Stoppable d j → ∀ m, d.cacheMgr.cacheJobs = m →
      m = m.alter j fun _ => m[j]?.map (closeEntry gauges time) := by
    intro gauges time hs m hc
    have hnone : m[j]? = none := by
      cases hj : m[j]? with
      | none => rfl
      | some entry => exact absurd ⟨hs, by rw [hc, hj]; rfl⟩ h
    rw [hnone, Option.map_none, ← erase_eq_alter, erase_of_getElem?_none hnone]
  have hfail : ∀ {st : Status}, (st = .notFound ∨ (st = .ok ∧ Stoppable d j
      ∧ ∃ m, d.cacheMgr.cacheJobs = m ∧ m[j]?.isSome = true)) → st = .notFound := by
    intro st hst
    rcases hst with hst | ⟨_, hs, m, hc, hsome⟩
    · exact hst
    · rw [← hc] at hsome
      exact absurd ⟨hs, hsome⟩ h
  refine serial_of_forall (x := (.notFound, .notFound, (watchView (settled d j)).2.1,
    (watchView (settled d j)).2.2, (settled d j).jobWatchTable,
    d.cacheMgr.cacheJobs.map fun _ job => untimedJob job)) fun r hr => ?_
  obtain ⟨⟨hdone, hst⟩, _, hst'⟩ :=
    hr.safe (stop_safe gauges clock hstart (hclose gauges clock.time))
      (stop_safe gauges' clock' hstart (hclose gauges' clock'.time))
  show (r.1, r.2.1, observed r.2.2) = _
  rw [hfail hst, hfail hst', hdone.observed, ← hdone.underway.stats]

/-- **A stop and a removal are serial**: the stop comes first if it still finds the statistics. -/
theorem stop_remove_serial (d : Daemon) (j : JobId) (gauges : RdcGpuGauges)
    (clock clock' : StopClock) :
    Serial observed (rdcJobStopStats j gauges clock) (rdcJobRemove j clock') d := by
  have hstart := underway_self (K := Forgetting j) d j
  have hout : ∀ r, Par (rdcJobStopStats j gauges clock) (rdcJobRemove j clock') d r →
      (r.1 = .notFound
        ∨ (r.1 = .ok ∧ Stoppable d j ∧ d.cacheMgr.cacheJobs[j]?.isSome = true))
      ∧ (r.2.1, observed r.2.2) = (.ok, (watchView (settled d j)).2.1,
        (watchView (settled d j)).2.2, (settled d j).jobWatchTable,
        (d.cacheMgr.cacheJobs.erase j).map fun _ job => untimedJob job) := by
    intro r hr
    obtain ⟨⟨_, hst⟩, hst', hdone, hnone⟩ := hr.safe
      (stop_safe gauges clock hstart fun _ m _ => forgetting_close m gauges clock.time)
      (remove_safe clock' hstart)
    refine ⟨?_, ?_⟩
    · rcases hst with hst | ⟨hst, hs, m, hc, hsome⟩
      · exact Or.inl hst
      · refine Or.inr ⟨hst, hs, ?_⟩
        cases hj : d.cacheMgr.cacheJobs[j]? with
        | none =>
          rw [hc.2 hj] at hsome
          simp at hsome
        | some entry => rfl
    · rw [hst', hdone.observed, eq_erase_of_forgetting hdone.underway.stats hnone]
  intro r hr
  obtain ⟨hst, hrest⟩ := hout r hr
  obtain ⟨_, hLR⟩ := hout _ (par_seqLR _ _ d)
  obtain ⟨hstRL, hRL⟩ := hout _ (par_seqRL _ _ d)
  rcases hst with hst | ⟨hst, hs, hsome⟩
  · right
    -- after the removal the stop fails, whether or not the job could be stopped
    have hlast : (seqRL (rdcJobStopStats j gauges clock) (rdcJobRemove j clock') d).1
        = .notFound := by
      rcases hstRL with h | ⟨_, hs, _⟩
      · exact h
      · show ((rdcJobStopStats j gauges clock).run ((rdcJobRemove j clock').run d).2).1 = _
        rw [rdcJobRemove_run, stop_unknown gauges clock]
        exact stop_gone ∅ clock' fun job hjob => (stoppable_iff hjob).mp hs
    exact Prod.ext (hst.trans hlast.symm) (hrest.trans hRL.symm)
  · left
    have hfirst : (seqLR (rdcJobStopStats j gauges clock) (rdcJobRemove j clock') d).1 = .ok := by
      obtain ⟨job, hjob, hu⟩ := hs
      obtain ⟨entry, hentry⟩ := Option.isSome_iff_exists.mp hsome
      show ((rdcJobStopStats j gauges clock).run d).1 = _
      rw [stop_stoppable gauges clock hjob hu]
      exact (closeStats_run gauges clock.time (by rw [unlisted_cache]; exact hentry)).1
    exact Prod.ext (hst.trans hfirst.symm) (hrest.trans hLR.symm)

end Serial

end Rdc.Proof
