import Rdc.ReadRequests
import Rdc.System
import Rdc.Lib.Independent
import Rdc.Proof.RemoteReads
import Rdc.Proof.Retention
import Rdc.Proof.ReportBounds

/-!
# Replies with old memory in them

The cache manager fills the buffers of the server, and the server copies every member of them into
the reply. Two members are never filled: the `status` of a field value and the `gpu_id` of a record.
So a request that is refused gets the same reply whatever the stack held, and a request that is
granted never does: the reply has what `status`, or the `gpu_id` of the summary, held before.
-/

namespace Rdc.Proof

open Rdc Machine Daemon Buffered EmbeddedHandler OrdMap Std

/-! ## The members nobody writes -/

/-- What the buffer of a request holds in the member that is not filled, as the reply would carry
it. -/
def unfilled (request : ReadRequest) (locals : HandlerLocals) : Nat :=
  match request with
  | .getLatestFieldValue .. | .getFieldSince .. => (locals.value.status % 2 ^ 32).toNat
  | .getJobStats _ => locals.jobInfo.summary.gpuId

/-- The same member of a reply. -/
def unfilledOf : ReadReply → Nat
  | .latestFieldValue reply => reply.rdcStatus
  | .fieldSince reply => reply.rdcStatus
  | .jobStats reply => reply.summary.gpuId

/-- A field value with a given status. -/
def valueWithStatus (status : Int) : RdcFieldValue := ⟨0, status, 0, .integer, .lInt 0⟩

/-- A buffer with a given number in the member that is not filled. -/
def localsWith (n : Nat) : HandlerLocals where
  value := valueWithStatus n
  jobInfo := { staleInfo 0 with summary := { (staleInfo 0).summary with gpuId := n } }

theorem unfilled_localsWith (request : ReadRequest) {n : Nat} (h : n < 2 ^ 32) :
    unfilled request (localsWith n) = n := by
  have hstatus : ((n : Int) % 2 ^ 32).toNat = n := by omega
  cases request with
  | getLatestFieldValue gpu field => exact hstatus
  | getFieldSince gpu field since => exact hstatus
  | getJobStats jobId => rfl

/-! ## Refused or leaking -/

/-- A job has a report: it has GPUs, the memory size of each of them is known, and where the memory
usage has been sampled a hundredth of the size is not a multiple of two to the 32nd. -/
structure Reportable (job : RdcJobStatsCacheEntry) (gauges : RdcGpuGauges) : Prop where
  nonempty : ∃ gpu, gpu ∈ job.gpuStats
  memory : ∀ gpu ∈ job.gpuStats, (gpu, rdcFiGpuMemoryTotal) ∈ gauges
  divides : ∀ gpu ∈ sampledGpus job .memoryUtilization, ∀ total,
    gauges[(gpu, rdcFiGpuMemoryTotal)]? = some total → total / 100 % 2 ^ 32 ≠ 0

/-- The request is granted: the field is known and has a sample, or one at or after the time that is
asked for; or the gauges can be read, the job is known, and it has a report. -/
def Granted (answers : ReadAnswers) (c : CacheManager) : ReadRequest → Prop
  | .getLatestFieldValue gpu field => isFieldValid field = true ∧ c.history gpu field ≠ []
  | .getFieldSince gpu field since =>
    isFieldValid field = true ∧ ∃ x ∈ c.history gpu field, since ≤ x.lastTime
  | .getJobStats jobId => ∃ gauges job,
      getGpuGauges answers.deviceCount answers.query answers.fetch = .ok gauges
        ∧ c.cacheJobs[jobId]? = some job ∧ Reportable job gauges

/-- What the server does has nothing to do with the buffer. -/
def Indifferent (serve : HandlerLocals → Except Fault (Except Status ReadReply)) : Prop :=
  ∃ answer, ∀ locals, serve locals = answer

/-- All replies to a request show what their buffer held. -/
def AlwaysLeaks (request : ReadRequest)
    (serve : HandlerLocals → Except Fault (Except Status ReadReply)) : Prop :=
  ∀ locals, ∃ reply, serve locals = .ok (.ok reply) ∧ unfilledOf reply = unfilled request locals

section Fields

variable (sqrt : ℚ → ℚ) (answers : ReadAnswers) (c : CacheManager) (nextTimestamp : Nat)

theorem serve_latest_cases (gpu field : Nat) :
    ¬ Granted answers c (.getLatestFieldValue gpu field)
      ∧ Indifferent (ApiService.serve sqrt answers c nextTimestamp (.getLatestFieldValue gpu field))
    ∨ Granted answers c (.getLatestFieldValue gpu field)
      ∧ AlwaysLeaks (.getLatestFieldValue gpu field)
        (ApiService.serve sqrt answers c nextTimestamp (.getLatestFieldValue gpu field)) := by
  rcases rdcFieldGetLatestValue_cases c gpu field with
    ⟨hno, status, hne, hcall⟩ | ⟨hyes, entry, hcall⟩
  · refine .inl ⟨hno, .ok (.error status), fun locals => ?_⟩
    dsimp only [ApiService.serve, ApiService.getLatestFieldValue]
    rw [hcall]
    dsimp only
    rw [if_pos hne]
    rfl
  · -- the value has every member from the sample, but for its status
    refine .inr ⟨hyes, fun locals => ?_⟩
    dsimp only [ApiService.serve, ApiService.getLatestFieldValue]
    rw [hcall]
    exact ⟨_, rfl, rfl⟩

theorem serve_since_cases (gpu field since : Nat) :
    ¬ Granted answers c (.getFieldSince gpu field since)
      ∧ Indifferent (ApiService.serve sqrt answers c nextTimestamp (.getFieldSince gpu field since))
    ∨ Granted answers c (.getFieldSince gpu field since)
      ∧ AlwaysLeaks (.getFieldSince gpu field since)
        (ApiService.serve sqrt answers c nextTimestamp (.getFieldSince gpu field since)) := by
  rcases rdcFieldGetValueSince_cases c gpu field since with
    ⟨hno, status, hne, hcall⟩ | ⟨hyes, entry, next, hcall⟩
  · refine .inl ⟨hno, .ok (.error status), fun locals => ?_⟩
    obtain ⟨next, hnext⟩ := hcall nextTimestamp locals.value
    dsimp only [ApiService.serve, ApiService.getFieldSince]
    rw [hnext]
    dsimp only
    rw [if_pos hne]
    rfl
  · refine .inr ⟨hyes, fun locals => ?_⟩
    dsimp only [ApiService.serve, ApiService.getFieldSince]
    rw [hcall]
    exact ⟨_, rfl, rfl⟩

end Fields

/-! ## The report of a job -/

section Job

variable (sqrt : ℚ → ℚ) {job : RdcJobStatsCacheEntry} {endTime : Nat} {gauges : RdcGpuGauges}

/-- No turn of the loop touches the `gpu_id` of the summary. -/
theorem turn_summary_gpuId (info : RdcJobInfo) (p : Nat × GpuSummaryStats) :
    (turn sqrt job endTime gauges info p).summary.gpuId = info.summary.gpuId := by
  unfold turn
  split
  · exact congrArg Prod.fst (unmeasured_foldl sqrt _ _ _).2
  · rfl

theorem foldl_turn_summary_gpuId (ps : List (Nat × GpuSummaryStats)) (info : RdcJobInfo) :
    (ps.foldl (turn sqrt job endTime gauges) info).summary.gpuId = info.summary.gpuId := by
  induction ps generalizing info with
  | nil => rfl
  | cons p ps ih => rw [List.foldl_cons, ih, turn_summary_gpuId]

/-- The loop over the GPUs needs what is asked of the job. -/
theorem reportable_iff :
    Reportable job gauges
      ↔ (∀ gpu ∈ job.gpuStats, (gpu, rdcFiGpuMemoryTotal) ∈ gauges)
        ∧ 0 ∉ reportDivisors job gauges := by
  have hsize : (∃ gpu, gpu ∈ job.gpuStats) ↔ job.gpuStats.size ≠ 0 := by
    rw [← ExtTreeMap.length_keys, ne_eq, List.length_eq_zero_iff]
    constructor
    · rintro ⟨gpu, hgpu⟩
      exact List.ne_nil_of_mem (ExtTreeMap.mem_keys.mpr hgpu)
    · intro hne
      obtain ⟨gpu, hgpu⟩ := List.exists_mem_of_ne_nil _ hne
      exact ⟨gpu, ExtTreeMap.mem_keys.mp hgpu⟩
  rw [zero_mem_reportDivisors, not_or]
  constructor
  · intro h
    refine ⟨h.memory, ?_, hsize.mp h.nonempty⟩
    rintro ⟨gpu, hgpu, hzero⟩
    obtain ⟨gstats, stats, hget, -⟩ := mem_sampledGpus.mp hgpu
    obtain ⟨total, htotal⟩ := exists_getElem?_of_mem (h.memory gpu (mem_of_getElem? hget))
    rw [htotal] at hzero
    exact h.divides gpu hgpu total htotal hzero
  · rintro ⟨hmem, hzero, hne⟩
    refine ⟨hsize.mpr hne, hmem, fun gpu hgpu total htotal hdiv => hzero ⟨gpu, hgpu, ?_⟩⟩
    rw [htotal]
    exact hdiv

/-- A report of a job on GPUs that fit into the array: not to be had, or written without the
`gpu_id` of the summary. -/
theorem embedded_jobStats_cases (answers : ReadAnswers) {c : CacheManager} {jobId : JobId}
    (hin : ∀ job, c.cacheJobs[jobId]? = some job → ∀ gpu ∈ job.gpuStats, gpu < jobInfoGpus) :
    ¬ Granted answers c (.getJobStats jobId)
      ∧ ((∃ status, status ≠ .ok ∧ ∀ info, ∃ info',
          EmbeddedHandler.rdcJobGetStats sqrt answers.deviceCount answers.query answers.fetch c
            jobId answers.now info = .ok (status, info'))
        ∨ ∀ info, EmbeddedHandler.rdcJobGetStats sqrt answers.deviceCount answers.query
            answers.fetch c jobId answers.now info = .error .divideByZero)
    ∨ Granted answers c (.getJobStats jobId)
      ∧ ∃ n ≤ jobInfoGpus, ∀ info, ∃ info',
          EmbeddedHandler.rdcJobGetStats sqrt answers.deviceCount answers.query answers.fetch c
            jobId answers.now info = .ok (.ok, info')
          ∧ info'.numGpus = n ∧ info'.summary.gpuId = info.summary.gpuId := by
  unfold EmbeddedHandler.rdcJobGetStats
  cases hgauges : getGpuGauges answers.deviceCount answers.query answers.fetch with
  | error status =>
    refine .inl ⟨?_, .inl ⟨status, getGpuGauges_error hgauges, fun info => ⟨info, rfl⟩⟩⟩
    rintro ⟨gauges, job, hok, -⟩
    rw [hgauges] at hok
    cases hok
  | ok gauges =>
    dsimp only
    cases hjob : c.cacheJobs[jobId]? with
    | none =>
      refine .inl ⟨?_, .inl ⟨.notFound, by decide, fun info => ⟨info, ?_⟩⟩⟩
      · rintro ⟨gauges', job, -, hjob', -⟩
        rw [hjob] at hjob'
        cases hjob'
      · unfold CacheManager.rdcJobGetStats
        rw [hjob]
    | some job =>
      have hin' := hin job hjob
      have hgranted : Granted answers c (.getJobStats jobId) ↔ Reportable job gauges := by
        refine ⟨?_, fun h => ⟨gauges, job, hgauges, hjob, h⟩⟩
        rintro ⟨gauges', job', hok, hjob', h⟩
        rw [hgauges, Except.ok.injEq] at hok
        rw [hjob, Option.some.injEq] at hjob'
        rwa [hok, hjob']
      rw [hgranted]
      by_cases hrep : Reportable job gauges
      · obtain ⟨hmem, hdiv⟩ := reportable_iff.mp hrep
        refine .inr ⟨hrep, job.gpuStats.size, size_le_of_forall_lt hin', fun info => ?_⟩
        refine ⟨_, (rdcJobGetStats_eq_ok sqrt answers.now hjob info _).mpr
          ⟨fun gpu hgpu => ⟨hin' gpu hgpu, hmem gpu hgpu⟩, hdiv, rfl⟩, ?_, ?_⟩
        · exact foldl_turn_numGpus ..
        · exact foldl_turn_summary_gpuId ..
      · refine .inl ⟨hrep, ?_⟩
        rcases rdcJobGetStats_cases sqrt answers.now gauges hjob hin' with hbad | hzero | hall
        · exact .inl ⟨.badParameter, by decide, hbad⟩
        · exact .inr hzero
        · exact absurd (reportable_iff.mpr hall) hrep

theorem serve_jobStats_cases (answers : ReadAnswers) {c : CacheManager} (nextTimestamp : Nat)
    {jobId : JobId}
    (hin : ∀ job, c.cacheJobs[jobId]? = some job → ∀ gpu ∈ job.gpuStats, gpu < jobInfoGpus) :
    ¬ Granted answers c (.getJobStats jobId)
      ∧ Indifferent (ApiService.serve sqrt answers c nextTimestamp (.getJobStats jobId))
    ∨ Granted answers c (.getJobStats jobId)
      ∧ AlwaysLeaks (.getJobStats jobId)
        (ApiService.serve sqrt answers c nextTimestamp (.getJobStats jobId)) := by
  rcases embedded_jobStats_cases sqrt answers hin with
    ⟨hno, ⟨status, hne, hcall⟩ | hcall⟩ | ⟨hyes, n, hn, hcall⟩
  · refine .inl ⟨hno, .ok (.error status), fun locals => ?_⟩
    obtain ⟨info', hinfo⟩ := hcall locals.jobInfo
    dsimp only [ApiService.serve, ApiService.getJobStats]
    rw [hinfo]
    dsimp only
    rw [if_pos hne]
    rfl
  · refine .inl ⟨hno, .error .divideByZero, fun locals => ?_⟩
    dsimp only [ApiService.serve, ApiService.getJobStats]
    rw [hcall]
    rfl
  · refine .inr ⟨hyes, fun locals => ?_⟩
    obtain ⟨info', hinfo, hnum, hid⟩ := hcall locals.jobInfo
    obtain ⟨records, hsend, -, -⟩ := sendGpus_eq info'.gpus (n := n) (i := 0) (by omega)
    refine ⟨.jobStats ⟨n, info'.summary, records⟩, ?_, hid⟩
    dsimp only [ApiService.serve, ApiService.getJobStats]
    rw [hinfo]
    dsimp only
    rw [if_neg (fun h => h rfl), hnum, hsend]
    rfl

end Job

/-! ## Every request -/

/-- A report is asked for a job whose GPUs are the first ones of the node, at most sixteen. -/
def OnFirstGpus (c : CacheManager) : ReadRequest → Prop
  | .getJobStats jobId => ∀ job, c.cacheJobs[jobId]? = some job →
      ∃ n ≤ 16, ∀ gpu, gpu ∈ job.gpuStats ↔ gpu < n
  | .getLatestFieldValue .. | .getFieldSince .. => True

theorem serve_cases (sqrt : ℚ → ℚ) (answers : ReadAnswers) {c : CacheManager} (nextTimestamp : Nat)
    {request : ReadRequest} (hreq : OnFirstGpus c request) :
    ¬ Granted answers c request
      ∧ Indifferent (ApiService.serve sqrt answers c nextTimestamp request)
    ∨ Granted answers c request
      ∧ AlwaysLeaks request (ApiService.serve sqrt answers c nextTimestamp request) := by
  cases request with
  | getLatestFieldValue gpu field => exact serve_latest_cases sqrt answers c nextTimestamp gpu field
  | getFieldSince gpu field since =>
    exact serve_since_cases sqrt answers c nextTimestamp gpu field since
  | getJobStats jobId =>
    refine serve_jobStats_cases sqrt answers nextTimestamp fun job hjob gpu hgpu => ?_
    obtain ⟨n, hn, hgpus⟩ := hreq job hjob
    have hlt := (hgpus gpu).mp hgpu
    show gpu < 16
    omega

/-- **Replies and old memory.** In any state of the daemon, and so in any that can be reached: the
replies to a request are the same whatever the local buffer of the server held exactly when the
request is not granted. -/
theorem replies_independent_iff (sqrt : ℚ → ℚ) (answers : ReadAnswers) (d : Daemon)
    (nextTimestamp : Nat) (request : ReadRequest) (hreq : OnFirstGpus d.cacheMgr request) :
    Independent (ApiService.serve sqrt answers d.cacheMgr nextTimestamp request)
      ↔ ¬ Granted answers d.cacheMgr request := by
  rcases serve_cases sqrt answers nextTimestamp hreq with ⟨hno, answer, hall⟩ | ⟨hyes, hleaks⟩
  · exact iff_of_true (independent_of_forall_eq hall) hno
  · refine iff_of_false ?_ (not_not.mpr hyes)
    -- the observer reads the member back from whatever reply it is given
    refine not_independent_of_reads
      (fun answer => (answer.toOption.bind Except.toOption).map unfilledOf)
      (fun locals => some (unfilled request locals)) (fun locals => ?_) (localsWith 0)
      (localsWith 1) ?_
    · obtain ⟨reply, hreply, hun⟩ := hleaks locals
      rw [hreply]
      exact congrArg some hun
    · rw [unfilled_localsWith request (by omega), unfilled_localsWith request (by omega)]
      decide

/-- One GPU, whose memory size can be read, and the clock at nine. -/
def oneGpuNode : ReadAnswers := ⟨1, none, someMemory, 9⟩

/-- Nothing has been recorded for GPU 3, so nothing about the stack is told. -/
theorem replies_independent_nothingRecorded :
    Independent (ApiService.serve id oneGpuNode init.cacheMgr 0 (.getLatestFieldValue 3 300)) :=
  (replies_independent_iff id oneGpuNode init 0 (.getLatestFieldValue 3 300) trivial).mpr
    fun hgranted => hgranted.2 rfl

/-- A page fault has been recorded. Two runs of `GetLatestFieldValue`, and two of `GetFieldSince`,
that find different statuses on the stack send different replies. So do two runs of `GetJobStats`
for a job on the one GPU there is, which find different ids. -/
theorem replies_differ_pageFault :
    (∃ d, Reachable Telemetry.smiOnly d
      ∧ ApiService.serve id oneGpuNode d.cacheMgr 0 (.getLatestFieldValue 0 rdcEvntNotifVmfault)
          (localsWith 0)
        ≠ ApiService.serve id oneGpuNode d.cacheMgr 0 (.getLatestFieldValue 0 rdcEvntNotifVmfault)
          (localsWith 1)
      ∧ ApiService.serve id oneGpuNode d.cacheMgr 0 (.getFieldSince 0 rdcEvntNotifVmfault 0)
          (localsWith 0)
        ≠ ApiService.serve id oneGpuNode d.cacheMgr 0 (.getFieldSince 0 rdcEvntNotifVmfault 0)
          (localsWith 1))
    ∧ ∃ d, Reachable Telemetry.smiOnly d ∧ OnFirstGpus d.cacheMgr (.getJobStats jobA)
      ∧ ApiService.serve id oneGpuNode d.cacheMgr 0 (.getJobStats jobA) (localsWith 0)
        ≠ ApiService.serve id oneGpuNode d.cacheMgr 0 (.getJobStats jobA) (localsWith 1) := by
  refine ⟨⟨run (exec Telemetry.smiOnly) init (faultsWatched ++ [.notifUpdateCache [vmfault 1500]]),
    ⟨_, rfl⟩, by decide +kernel, by decide +kernel⟩,
    run (exec Telemetry.smiOnly) init oneJob, ⟨_, rfl⟩, ?_, by decide +kernel⟩
  intro job hjob
  have hkeys : ((run (exec Telemetry.smiOnly) init oneJob).cacheMgr.cacheJobs[jobA]?.map
      fun job => job.gpuStats.keys) = some [0] := by decide +kernel
  rw [hjob, Option.map_some, Option.some.injEq] at hkeys
  refine ⟨1, by omega, fun gpu => ?_⟩
  rw [← ExtTreeMap.mem_keys, hkeys, List.mem_singleton]
  omega

end Rdc.Proof
