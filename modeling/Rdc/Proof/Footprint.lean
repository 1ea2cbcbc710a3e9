import Rdc.Proof.Jobs
import Rdc.Lib.Serial

/-!
# What a lock section of a job call touches

A job call is a sequence of lock sections. Apart from reading the group store, each of them works
either on the two table entries of the job it was called for, or on the watch tables, and no call
has more than one section of the second kind. Sections with different footprints commute. So calls
for different jobs are serial, in the order of the sections in which they watch or unwatch.
-/

namespace Rdc.Proof

open Std Daemon OrdMap Atomic

/-! ## Footprints -/

/-- What the two job tables hold for one job. -/
abbrev JobSlot := Option JobWatchTableEntry × Option RdcJobStatsCacheEntry

def slot (j : JobId) (d : Daemon) : JobSlot := (d.jobWatchTable[j]?, d.cacheMgr.cacheJobs[j]?)

def setSlot (j : JobId) (d : Daemon) (x : JobSlot) : Daemon :=
  { d with
    jobWatchTable := d.jobWatchTable.alter j fun _ => x.1
    cacheMgr := { d.cacheMgr with cacheJobs := d.cacheMgr.cacheJobs.alter j fun _ => x.2 } }

/-- The watch tables, with the log of module calls. -/
abbrev WatchTables := KeyMap FieldSettings × KeyMap FieldSettings × List ModuleCall

def tables (d : Daemon) : WatchTables := (d.watchTable, d.fieldsToWatch, d.moduleCalls)

def setTables (d : Daemon) (t : WatchTables) : Daemon :=
  { d with watchTable := t.1, fieldsToWatch := t.2.1, moduleCalls := t.2.2 }

/-- A section that reads the group store and the slot of `j`, and writes that slot. -/
def JobSection (j : JobId) (u : Daemon → Daemon) (k : Daemon → Prog Daemon Status) : Prop :=
  ∃ (φ : GroupSettings → JobSlot → JobSlot) (κ : GroupSettings → JobSlot → Prog Daemon Status),
    ∀ d, u d = setSlot j d (φ d.groupSettings (slot j d)) ∧ k d = κ d.groupSettings (slot j d)

/-- A section that reads the group store and the watch tables, and writes the latter. -/
def TableSection (u : Daemon → Daemon) (k : Daemon → Prog Daemon Status) : Prop :=
  ∃ (φ : GroupSettings → WatchTables → WatchTables)
    (κ : GroupSettings → WatchTables → Prog Daemon Status),
    ∀ d, u d = setTables d (φ d.groupSettings (tables d)) ∧ k d = κ d.groupSettings (tables d)

theorem slot_setSlot_ne {j j' : JobId} (h : j ≠ j') (d : Daemon) (x : JobSlot) :
    slot j (setSlot j' d x) = slot j d := by
  show ((d.jobWatchTable.alter j' fun _ => x.1)[j]?,
    (d.cacheMgr.cacheJobs.alter j' fun _ => x.2)[j]?) = _
  rw [getElem?_alter_const, getElem?_alter_const, if_neg h.symm, if_neg h.symm]
  rfl

theorem setSlot_comm {j j' : JobId} (h : j ≠ j') (d : Daemon) (x y : JobSlot) :
    setSlot j (setSlot j' d y) x = setSlot j' (setSlot j d x) y := by
  unfold setSlot
  simp only [alter_const_comm _ h]

theorem JobSection.commute {j j' : JobId} (h : j ≠ j') {u v : Daemon → Daemon}
    {k l : Daemon → Prog Daemon Status} (hu : JobSection j u k) (hv : JobSection j' v l) :
    Commute (fun _ => True) u k v l := by
  obtain ⟨φ, κ, hφ⟩ := hu
  obtain ⟨ψ, μ, hψ⟩ := hv
  intro d _
  refine ⟨?_, ?_, ?_⟩
  · rw [(hφ (v d)).1, (hψ d).1, (hψ (u d)).1, (hφ d).1, slot_setSlot_ne h, slot_setSlot_ne h.symm,
      setSlot_comm h]
    rfl
  · rw [(hφ (v d)).2, (hφ d).2, (hψ d).1, slot_setSlot_ne h]
    rfl
  · rw [(hψ (u d)).2, (hψ d).2, (hφ d).1, slot_setSlot_ne h.symm]
    rfl

theorem JobSection.commute_table {j : JobId} {u v : Daemon → Daemon}
    {k l : Daemon → Prog Daemon Status} (hu : JobSection j u k) (hv : TableSection v l) :
    Commute (fun _ => True) u k v l := by
  obtain ⟨φ, κ, hφ⟩ := hu
  obtain ⟨ψ, μ, hψ⟩ := hv
  intro d _
  refine ⟨?_, ?_, ?_⟩
  · rw [(hφ (v d)).1, (hψ d).1, (hψ (u d)).1, (hφ d).1]
    rfl
  · rw [(hφ (v d)).2, (hφ d).2, (hψ d).1]
    rfl
  · rw [(hψ (u d)).2, (hψ d).2, (hφ d).1]
    rfl

/-! ## Programs with a footprint -/

/-- All sections of the program are sections of job `j`, except at most `n` that work on the watch
tables. -/
def Footprint (j : JobId) : Prog Daemon Status → Nat → Prop
  | .ret _, _ => True
  | .step u k, n =>
    (JobSection j u k ∧ ∀ d, Footprint j (k d) n)
      ∨ ∃ m, n = m + 1 ∧ TableSection u k ∧ ∀ d, Footprint j (k d) m

variable {u : Daemon → Daemon} {k : Daemon → Prog Daemon Status} {q p : Prog Daemon Status}

section Footprint

variable {j j' : JobId}

/-- A section of one job is a mover for the calls of another. -/
theorem each_commute_of_jobSection (h : j ≠ j') (hu : JobSection j u k) :
    ∀ {n : Nat}, Footprint j' q n →
      Each (fun _ => True) (fun v l => Commute (fun _ => True) u k v l) q := by
  induction q with
  | ret b => exact fun _ => trivial
  | step v l ih =>
    intro n hq
    rcases hq with ⟨hv, hrest⟩ | ⟨m, _, hv, hrest⟩
    · exact ⟨hu.commute h hv, fun d _ => ih d (hrest d)⟩
    · exact ⟨hu.commute_table hv, fun d _ => ih d (hrest d)⟩

theorem independent_of_footprint (h : j ≠ j') {n : Nat} (hp : Footprint j p 0)
    (hq : Footprint j' q n) : Independent (fun _ => True) p q := by
  induction p with
  | ret a => trivial
  | step u k ih =>
    rcases hp with ⟨hu, hrest⟩ | ⟨m, hm, _⟩
    · exact ⟨each_commute_of_jobSection h hu hq, fun d _ => ih d (hrest d)⟩
    · omega

theorem onePivot_of_footprint (h : j ≠ j') {n : Nat} (hp : Footprint j p 1)
    (hq : Footprint j' q n) : OnePivot (fun _ => True) q p := by
  induction p with
  | ret a => trivial
  | step u k ih =>
    rcases hp with ⟨hu, hrest⟩ | ⟨m, hm, _, hrest⟩
    · exact Or.inl ⟨each_commute_of_jobSection h hu hq, fun d _ => ih d (hrest d)⟩
    · right
      intro d _
      have hm0 : m = 0 := by omega
      subst hm0
      exact independent_of_footprint h (hrest d) hq

/-- **Calls for different jobs are serial.** -/
theorem serial_of_footprint (h : j ≠ j') {τ : Type} (obs : Daemon → τ) (hp : Footprint j p 1)
    (hq : Footprint j' q 1) (d : Daemon) : Serial obs p q d := by
  intro r hr
  have hkeep : ∀ p : Prog Daemon Status, Keeps (fun _ => True) p :=
    Each.intro fun _ _ _ _ => trivial
  rcases serial_of_onePivot hr (hkeep p) (hkeep q) (onePivot_of_footprint h hp hq)
    (onePivot_of_footprint h.symm hq hp) trivial with h' | h'
  · exact Or.inl (by rw [h'])
  · exact Or.inr (by rw [h'])

theorem Footprint.keeps_groups (gs : GroupSettings) :
    ∀ {n : Nat}, Footprint j p n → Keeps (fun d => d.groupSettings = gs) p := by
  induction p with
  | ret a => exact fun _ => trivial
  | step u k ih =>
    intro n hp
    rcases hp with ⟨⟨φ, κ, hφ⟩, hrest⟩ | ⟨m, _, ⟨φ, κ, hφ⟩, hrest⟩
    · refine ⟨fun d hd => ?_, fun d _ => ih d (hrest d)⟩
      rw [(hφ d).1]
      exact hd
    · refine ⟨fun d hd => ?_, fun d _ => ih d (hrest d)⟩
      rw [(hφ d).1]
      exact hd

theorem Footprint.mono : ∀ {n m : Nat}, Footprint j p n → n ≤ m →
    Footprint j p m := by
  induction p with
  | ret a => exact fun _ _ => trivial
  | step u k ih =>
    intro n m hp hnm
    rcases hp with ⟨hu, hrest⟩ | ⟨n', hn', hu, hrest⟩
    · exact Or.inl ⟨hu, fun d => ih d (hrest d) hnm⟩
    · exact Or.inr ⟨m - 1, by omega, hu, fun d => ih d (hrest d) (by omega)⟩

theorem JobSection.bind (h : JobSection j u k) (f : Status → Prog Daemon Status) :
    JobSection j u (fun d => k d >>= f) := by
  obtain ⟨φ, κ, hφ⟩ := h
  exact ⟨φ, fun gs x => κ gs x >>= f, fun d => ⟨(hφ d).1, congrArg (· >>= f) (hφ d).2⟩⟩

theorem TableSection.bind (h : TableSection u k) (f : Status → Prog Daemon Status) :
    TableSection u (fun d => k d >>= f) := by
  obtain ⟨φ, κ, hφ⟩ := h
  exact ⟨φ, fun gs x => κ gs x >>= f, fun d => ⟨(hφ d).1, congrArg (· >>= f) (hφ d).2⟩⟩

theorem Footprint.bind {f : Status → Prog Daemon Status} {m : Nat} (hf : ∀ a, Footprint j (f a) m) :
    ∀ {n : Nat}, Footprint j p n →
      Footprint j (p >>= f) (n + m) := by
  induction p with
  | ret a => exact fun _ => (hf a).mono (by omega)
  | step u k ih =>
    intro n hp
    rcases hp with ⟨hu, hrest⟩ | ⟨n', hn', hu, hrest⟩
    · exact Or.inl ⟨hu.bind f, fun d => ih d (hrest d)⟩
    · exact Or.inr ⟨n' + m, by omega, hu.bind f, fun d => ih d (hrest d)⟩

end Footprint

/-! ## The sections of the job calls -/

section Sections

variable {α : Type} {j : JobId} {g : α → Prog Daemon Status} {n : Nat}

theorem setSlot_slot (j : JobId) (d : Daemon) : setSlot j d (slot j d) = d := by
  show { d with
    jobWatchTable := d.jobWatchTable.alter j fun _ => d.jobWatchTable[j]?
    cacheMgr := { d.cacheMgr with
      cacheJobs := d.cacheMgr.cacheJobs.alter j fun _ => d.cacheMgr.cacheJobs[j]? } } = d
  rw [alter_const_self, alter_const_self]

theorem footprint_read {f : Daemon → α} (f' : GroupSettings → JobSlot → α)
    (hf : ∀ d, f d = f' d.groupSettings (slot j d)) (hg : ∀ a, Footprint j (g a) n) :
    Footprint j (Prog.read f >>= g) n := by
  refine Or.inl ⟨⟨fun _ x => x, fun gs x => g (f' gs x), fun d => ⟨(setSlot_slot j d).symm, ?_⟩⟩,
    fun d => hg (f d)⟩
  show g (f d) = g (f' d.groupSettings (slot j d))
  rw [hf]

theorem footprint_job {f : Daemon → α × Daemon} (f' : GroupSettings → JobSlot → α × JobSlot)
    (hf : ∀ d, f d = ((f' d.groupSettings (slot j d)).1,
      setSlot j d (f' d.groupSettings (slot j d)).2))
    (hg : ∀ a, Footprint j (g a) n) : Footprint j (Prog.atomic f >>= g) n := by
  refine Or.inl ⟨⟨fun gs x => (f' gs x).2, fun gs x => g (f' gs x).1, fun d => ⟨?_, ?_⟩⟩,
    fun d => hg (f d).1⟩
  · show (f d).2 = _
    rw [hf]
  · show g (f d).1 = _
    rw [hf]

theorem footprint_table {f : Daemon → α × Daemon}
    (f' : GroupSettings → WatchTables → α × WatchTables)
    (hf : ∀ d, f d = ((f' d.groupSettings (tables d)).1,
      setTables d (f' d.groupSettings (tables d)).2))
    (hg : ∀ a, Footprint j (g a) n) : Footprint j (Prog.atomic f >>= g) (n + 1) := by
  refine Or.inr ⟨n, rfl, ⟨fun gs x => (f' gs x).2, fun gs x => g (f' gs x).1, fun d => ⟨?_, ?_⟩⟩,
    fun d => hg (f d).1⟩
  · show (f d).2 = _
    rw [hf]
  · show g (f d).1 = _
    rw [hf]

/-- A daemon with the given groups and watch tables, and nothing else. -/
def withTables (gs : GroupSettings) (t : WatchTables) : Daemon :=
  setTables { init with groupSettings := gs } t

theorem rdcFieldWatch_footprint (tel : Telemetry) (d : Daemon) (groupId fieldGroupId freq : Nat)
    (age : ℚ) (samples : Nat) :
    d.rdcFieldWatch tel groupId fieldGroupId freq age samples =
      (((withTables d.groupSettings (tables d)).rdcFieldWatch tel groupId fieldGroupId freq age
          samples).1,
        setTables d (tables ((withTables d.groupSettings (tables d)).rdcFieldWatch tel groupId
          fieldGroupId freq age samples).2)) := by
  unfold rdcFieldWatch watchNew withTables setTables tables
  dsimp only
  cases d.watchTable[(groupId, fieldGroupId)]? with
  | none =>
    dsimp only
    cases d.groupSettings.getFieldsFromGroup groupId fieldGroupId <;> rfl
  | some entry =>
    dsimp only
    cases entry.isWatching with
    | true => rfl
    | false =>
      simp only [Bool.false_eq_true, if_false]
      cases d.groupSettings.getFieldsFromGroup groupId fieldGroupId <;> rfl

theorem rdcFieldUnwatch_footprint (d : Daemon) (groupId fieldGroupId now : Nat) :
    d.rdcFieldUnwatch groupId fieldGroupId now =
      (((withTables d.groupSettings (tables d)).rdcFieldUnwatch groupId fieldGroupId now).1,
        setTables d (tables ((withTables d.groupSettings (tables d)).rdcFieldUnwatch groupId
          fieldGroupId now).2)) := by
  unfold rdcFieldUnwatch updateFieldInTableWhenUnwatch withTables setTables tables
  dsimp only
  cases d.watchTable[(groupId, fieldGroupId)]? with
  | none => rfl
  | some entry =>
    dsimp only
    cases d.groupSettings.getFieldsFromGroup groupId fieldGroupId with
    | error st => rfl
    | ok ks =>
      dsimp only
      cases updateFrequencies d.groupSettings
        (ExtTreeMap.toList (d.watchTable.insert (groupId, fieldGroupId)
          { entry with isWatching := false, lastUpdateTime := now })) ∅ <;> rfl

/-- The rest of `rdc_job_start_stats` once the lookup has not found the job. -/
def startChecked (tel : Telemetry) (groupId : Nat) (jobId : JobId) (updateFreq : Nat)
    (gauges : RdcGpuGauges) (time : Nat) : Prog Daemon Status :=
  (Prog.read fun d : Daemon => d.groupSettings.rdcGroupGpuGetInfo groupId) >>= fun
    | .error result => pure result
    | .ok ginfo =>
      (Prog.read fun d : Daemon => d.groupSettings.rdcGroupFieldGetInfo jobFieldId) >>= fun
        | .error result => pure result
        | .ok finfo =>
          if (GroupSettings.expandGroups ginfo finfo).length = 0 then pure .notFound
          else
            (Prog.atomic fun d : Daemon => ((), { d with
              jobWatchTable := d.jobWatchTable.insertIfNew jobId
                ⟨groupId, GroupSettings.expandGroups ginfo finfo⟩ })) >>= fun _ =>
              startRegistered tel groupId jobId updateFreq gauges time

theorem rdcJobStartStats_eq (tel : Telemetry) (groupId : Nat) (jobId : JobId) (updateFreq : Nat)
    (gauges : RdcGpuGauges) (time : Nat) :
    rdcJobStartStats tel groupId jobId updateFreq gauges time =
      (Prog.read fun d : Daemon => d.jobWatchTable.contains jobId) >>= fun known =>
        if known then pure .alreadyExist
        else startChecked tel groupId jobId updateFreq gauges time := by
  unfold rdcJobStartStats readFieldsFromGroup startChecked
  refine congrArg _ (funext fun known => ?_)
  cases known with
  | true => rfl
  | false =>
    simp only [Bool.false_eq_true, if_false, Prog.bind_assoc]
    refine congrArg _ (funext fun ginfo => ?_)
    cases ginfo with
    | error result => rfl
    | ok ginfo =>
      simp only [Prog.bind_assoc]
      refine congrArg _ (funext fun finfo => ?_)
      cases finfo <;> rfl

theorem footprint_jobs {f : Daemon → α × Daemon} (a : GroupSettings → JobSlot → α)
    (o : JobSlot → Option JobWatchTableEntry)
    (hf : ∀ d, f d = (a d.groupSettings (slot j d), { d with
      jobWatchTable := d.jobWatchTable.alter j fun _ => o (slot j d) }))
    (hg : ∀ a, Footprint j (g a) n) : Footprint j (Prog.atomic f >>= g) n := by
  refine footprint_job (fun gs x => (a gs x, o x, x.2)) (fun d => (hf d).trans ?_) hg
  show (_, { d with jobWatchTable := _ }) = (_, { d with
    jobWatchTable := d.jobWatchTable.alter j fun _ => o (slot j d)
    cacheMgr := { d.cacheMgr with
      cacheJobs := d.cacheMgr.cacheJobs.alter j fun _ => d.cacheMgr.cacheJobs[j]? } })
  rw [alter_const_self]

theorem footprint_stats {f : Daemon → α × Daemon} (a : GroupSettings → JobSlot → α)
    (o : JobSlot → Option RdcJobStatsCacheEntry)
    (hf : ∀ d, f d = (a d.groupSettings (slot j d), { d with
      cacheMgr := { d.cacheMgr with
        cacheJobs := d.cacheMgr.cacheJobs.alter j fun _ => o (slot j d) } }))
    (hg : ∀ a, Footprint j (g a) n) : Footprint j (Prog.atomic f >>= g) n := by
  refine footprint_job (fun gs x => (a gs x, x.1, o x)) (fun d => (hf d).trans ?_) hg
  show (_, { d with cacheMgr := _ }) = (_, { d with
    jobWatchTable := d.jobWatchTable.alter j fun _ => d.jobWatchTable[j]?
    cacheMgr := { d.cacheMgr with
      cacheJobs := d.cacheMgr.cacheJobs.alter j fun _ => o (slot j d) } })
  rw [alter_const_self]

theorem startRegistered_footprint (tel : Telemetry) (groupId : Nat) (jobId : JobId)
    (updateFreq : Nat) (gauges : RdcGpuGauges) (time : Nat) :
    Footprint jobId (startRegistered tel groupId jobId updateFreq gauges time) 1 := by
  refine footprint_read (fun gs _ => gs.rdcGroupGpuGetInfo groupId) (fun _ => rfl) fun ginfo => ?_
  cases ginfo with
  | error result => trivial
  | ok ginfo =>
    refine footprint_read (fun gs _ => gs.rdcGroupFieldGetInfo jobFieldId) (fun _ => rfl)
      fun finfo => ?_
    cases finfo with
    | error result => trivial
    | ok finfo =>
      refine footprint_stats (fun _ _ => .ok)
        (fun _ => some (CacheManager.initJobEntry ginfo finfo gauges time)) (fun d => ?_)
        fun result => ?_
      · show (_, { d with cacheMgr := { d.cacheMgr with cacheJobs := _ } }) = _
        rw [insertIfNew_erase, insert_eq_alter]
      · split
        · trivial
        · exact footprint_table (n := 0) (g := pure)
            (fun gs t =>
              let r := (withTables gs t).rdcFieldWatch tel groupId jobFieldId updateFreq 0 0
              (r.1, tables r.2))
            (fun d => rdcFieldWatch_footprint tel d groupId jobFieldId updateFreq 0 0)
            fun _ => trivial

theorem rdcJobStartStats_footprint (tel : Telemetry) (groupId : Nat) (jobId : JobId)
    (updateFreq : Nat) (gauges : RdcGpuGauges) (time : Nat) :
    Footprint jobId (rdcJobStartStats tel groupId jobId updateFreq gauges time) 1 := by
  rw [rdcJobStartStats_eq]
  refine footprint_read (fun _ x => x.1.isSome)
    (fun d => ExtTreeMap.contains_eq_isSome_getElem?) fun known => ?_
  cases known with
  | true => trivial
  | false =>
    refine footprint_read (fun gs _ => gs.rdcGroupGpuGetInfo groupId) (fun _ => rfl)
      fun ginfo => ?_
    cases ginfo with
    | error result => trivial
    | ok ginfo =>
      refine footprint_read (fun gs _ => gs.rdcGroupFieldGetInfo jobFieldId) (fun _ => rfl)
        fun finfo => ?_
      cases finfo with
      | error result => trivial
      | ok finfo =>
        dsimp only
        split
        · trivial
        · refine footprint_jobs (fun _ _ => ())
            (fun x => x.1.or (some ⟨groupId, GroupSettings.expandGroups ginfo finfo⟩))
            (fun d => ?_) fun _ => startRegistered_footprint ..
          show (_, { d with jobWatchTable := _ }) = _
          rw [insertIfNew_eq_alter]
          rfl

/-- The job entry after its statistics have been closed. -/
def closeEntry (gauges : RdcGpuGauges) (time : Nat) (job : RdcJobStatsCacheEntry) :
    RdcJobStatsCacheEntry :=
  { job with
    endTime := time
    gpuStats := job.gpuStats.map (CacheManager.stopGpuStats gauges) }

theorem rdcJobStopStats_eq (c : CacheManager) (jobId : JobId) (gauges : RdcGpuGauges) (time : Nat) :
    c.rdcJobStopStats jobId gauges time =
      (if c.cacheJobs[jobId]?.isSome then .ok else .notFound,
        { c with cacheJobs := c.cacheJobs.alter jobId fun _ =>
          c.cacheJobs[jobId]?.map (closeEntry gauges time) }) := by
  unfold CacheManager.rdcJobStopStats
  cases h : c.cacheJobs[jobId]? with
  | none =>
    show (_, c) = (_, { c with cacheJobs := c.cacheJobs.alter jobId fun _ => none })
    rw [← erase_eq_alter, erase_of_getElem?_none h]
    rfl
  | some job =>
    show (_, { c with cacheJobs := _ }) = (_, { c with
      cacheJobs := c.cacheJobs.alter jobId fun _ => some (closeEntry gauges time job) })
    rw [← insert_eq_alter]
    rfl

theorem rdcJobStopStats_footprint (jobId : JobId) (gauges : RdcGpuGauges) (clock : StopClock) :
    Footprint jobId (rdcJobStopStats jobId gauges clock) 1 := by
  refine footprint_read (fun _ x => x.1) (fun _ => rfl) fun job => ?_
  cases job with
  | none => trivial
  | some job =>
    refine footprint_table (n := 0)
      (fun gs t =>
        let r := (withTables gs t).rdcFieldUnwatch job.groupId jobFieldId clock.now
        (r.1, tables r.2))
      (fun d => rdcFieldUnwatch_footprint d job.groupId jobFieldId clock.now) fun result => ?_
    dsimp only
    split
    · trivial
    · refine footprint_jobs (fun _ _ => ()) (fun _ => none) (fun d => ?_) fun _ => ?_
      · rw [← erase_eq_alter]
      · refine footprint_stats (g := pure) (fun _ x => if x.2.isSome then .ok else .notFound)
          (fun x => x.2.map (closeEntry gauges clock.time)) (fun d => ?_) fun _ => trivial
        show (_, { d with cacheMgr := _ }) = _
        rw [rdcJobStopStats_eq]
        rfl

theorem rdcJobRemove_footprint (jobId : JobId) (clock : StopClock) :
    Footprint jobId (rdcJobRemove jobId clock) 1 := by
  refine (rdcJobStopStats_footprint jobId ∅ clock).bind (m := 0) fun _ => ?_
  refine footprint_stats (g := pure) (fun _ _ => .ok) (fun _ => none) (fun d => ?_) fun _ => trivial
  show (_, { d with cacheMgr := { d.cacheMgr with cacheJobs := _ } }) = _
  rw [erase_eq_alter]

end Sections

end Rdc.Proof
