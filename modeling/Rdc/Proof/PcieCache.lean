import Rdc.PcieCache

/-!
# The PCIe cache is coherent

Whatever the requests are and wherever the worker stands, the two directions of a GPU are cached
together: same time, same status, and the values of one and the same call. Between two calls for a
GPU the entry of the first has to expire, although a request is queued as often as it is made.

The invariant is about one GPU at a time (`GpuCoherent`): nothing was stored for it, or one time and
one status go with both entries, no stored call ended later than that time, and the values are those
of the latest stored success. The check of the worker turns it into the distance to all earlier
calls, and since nobody else makes calls, the distance is still there when the call is made
(`WorkerOk`).

A result is in the cache only once the worker has stored it. In between the lock is free as well, so
the values are those of the latest success among the *stored* calls.
-/

namespace Rdc.Proof

open OrdMap Machine PcieCache MetricFetcher

/-! ## The statement -/

/-- What the cache promises, if the values of a GPU are to come from the call `source gpu`. -/
structure Coherent (source : Nat → Option ThroughputCall) (s : PcieCache) : Prop where
  pair : ∀ gpu, (gpu, rdcFiPcieTx) ∈ s.fetcher.asyncMetrics
    ↔ (gpu, rdcFiPcieRx) ∈ s.fetcher.asyncMetrics
  together : ∀ (gpu : Nat) (tx rx : MetricValue),
    s.fetcher.asyncMetrics[(gpu, rdcFiPcieTx)]? = some tx →
    s.fetcher.asyncMetrics[(gpu, rdcFiPcieRx)]? = some rx →
      tx.lastTime = rx.lastTime ∧ tx.value.status = rx.value.status
  values : ∀ (gpu : Nat) (tx rx : MetricValue),
    s.fetcher.asyncMetrics[(gpu, rdcFiPcieTx)]? = some tx →
    s.fetcher.asyncMetrics[(gpu, rdcFiPcieRx)]? = some rx →
      ∀ c, source gpu = some c → tx.value.value = .lInt (asInt64 c.sent)
        ∧ rx.value.value = .lInt (asInt64 c.received)
  spaced : s.calls.Pairwise fun later earlier =>
    later.gpu = earlier.gpu → earlier.finish + pcieCacheTtl ≤ later.start

/-- The clock never goes back, and an entry can expire before it overflows. -/
def PcieClock (lo hi : Nat) (step : PcieStep) : Prop :=
  step.Between lo hi ∧ hi + pcieCacheTtl < 2 ^ 64

/-! ## One section -/

/-- The section that stores writes both entries of its GPU. -/
theorem storePcieThroughput_self (m : MetricFetcher) (c : ThroughputCall) (curTime : Nat)
    (uninit : MetricValue) (f : PcieField) :
    (m.storePcieThroughput c.gpu c.ret c.sent c.received curTime uninit).asyncMetrics[(c.gpu,
        f.id)]?
      = some (updateMetric curTime c.ret (c.bytes f)
          (m.asyncMetrics[(c.gpu, f.id)]?.getD (newMetric uninit f.id))) := by
  have hne : (c.gpu, rdcFiPcieTx) ≠ (c.gpu, rdcFiPcieRx) := by
    intro heq
    exact absurd (Prod.mk.inj heq).2 (by decide)
  unfold storePcieThroughput
  cases f with
  | tx =>
    simp only [PcieField.id, getElem?_modify', insertIfNew_eq_alter, getElem?_alter_const,
      if_neg hne, if_neg hne.symm, if_true, ThroughputCall.bytes]
    cases m.asyncMetrics[(c.gpu, rdcFiPcieTx)]? <;> rfl
  | rx =>
    simp only [PcieField.id, getElem?_modify', insertIfNew_eq_alter, getElem?_alter_const,
      if_neg hne, if_neg hne.symm, if_true, ThroughputCall.bytes]
    cases m.asyncMetrics[(c.gpu, rdcFiPcieRx)]? <;> rfl

theorem storePcieThroughput_other (m : MetricFetcher) (c : ThroughputCall) (curTime : Nat)
    (uninit : MetricValue) {key : RdcFieldKey} (h : c.gpu ≠ key.1) :
    (m.storePcieThroughput c.gpu c.ret c.sent c.received curTime uninit).asyncMetrics[key]?
      = m.asyncMetrics[key]? := by
  have hne : ∀ field, (c.gpu, field) ≠ key := by
    intro field heq
    exact h (congrArg Prod.fst heq)
  unfold storePcieThroughput
  simp only [getElem?_modify', insertIfNew_eq_alter, getElem?_alter_const, if_neg (hne _)]

/-! ## The invariant -/

/-- What is cached for one GPU, after the calls in `stored`. -/
def GpuCoherent (m : MetricFetcher) (stored : List ThroughputCall) (gpu : Nat) : Prop :=
  ((∀ f : PcieField, m.asyncMetrics[(gpu, f.id)]? = none) ∧ ∀ c ∈ stored, c.gpu ≠ gpu)
  ∨ ∃ lastTime status, lastTime + pcieCacheTtl < 2 ^ 64
      ∧ (∀ c ∈ stored, c.gpu = gpu → c.finish ≤ lastTime)
      ∧ ∀ f : PcieField, ∃ metric, m.asyncMetrics[(gpu, f.id)]? = some metric
        ∧ metric.lastTime = lastTime ∧ metric.cacheTtl = pcieCacheTtl
        ∧ metric.value.status = status
        ∧ ∀ c, latestSuccess stored gpu = some c →
            metric.value.value = .lInt (asInt64 (c.bytes f))

/-- What holds where the worker stands, at time `t`. -/
def WorkerOk (t : Nat) (calls : List ThroughputCall) : PcieWorker → Prop
  | .waiting => True
  | .taken key => ∃ f : PcieField, key.2 = f.id
  | .cleared key => ∀ c ∈ calls, c.gpu = key.1 → c.finish + pcieCacheTtl ≤ t
  | .called c => calls.head? = some c ∧ ∀ c' ∈ calls, c'.gpu = c.gpu → c'.finish ≤ t
  | .stamped c curTime =>
    calls.head? = some c ∧ curTime + pcieCacheTtl < 2 ^ 64
      ∧ ∀ c' ∈ calls, c'.gpu = c.gpu → c'.finish ≤ curTime

/-- The invariant, at time `t`. -/
structure PcieInv (t : Nat) (s : PcieCache) : Prop where
  tasks : ∀ key ∈ s.fetcher.updatedTasks, ∃ f : PcieField, key.2 = f.id
  worker : WorkerOk t s.calls s.worker
  gpus : ∀ gpu, GpuCoherent s.fetcher s.storedCalls gpu
  spaced : s.calls.Pairwise fun later earlier =>
    later.gpu = earlier.gpu → earlier.finish + pcieCacheTtl ≤ later.start

theorem WorkerOk.mono {t t' : Nat} {calls : List ThroughputCall} {w : PcieWorker}
    (h : WorkerOk t calls w) (ht : t ≤ t') : WorkerOk t' calls w := by
  cases w with
  | waiting => trivial
  | taken key => exact h
  | cleared key => exact fun c hc hgpu => (h c hc hgpu).trans ht
  | called c => exact ⟨h.1, fun c' hc' hgpu => (h.2 c' hc' hgpu).trans ht⟩
  | stamped c curTime => exact h

theorem PcieInv.mono {t t' : Nat} {s : PcieCache} (h : PcieInv t s) (ht : t ≤ t') : PcieInv t' s :=
  ⟨h.tasks, h.worker.mono ht, h.gpus, h.spaced⟩

theorem pcieInv_init : PcieInv 0 PcieCache.init := by
  refine ⟨?_, trivial, ?_, List.Pairwise.nil⟩
  · intro key hkey
    exact absurd hkey List.not_mem_nil
  · intro gpu
    left
    exact ⟨fun f => by simp [PcieCache.init, MetricFetcher.init],
      fun c hc => absurd hc List.not_mem_nil⟩

variable {stored : List ThroughputCall}

/-- **The re-check.** If the entry of a GPU has expired, all its stored calls are long over. -/
theorem GpuCoherent.expired {m : MetricFetcher} {gpu now : Nat} {f : PcieField}
    (h : GpuCoherent m stored gpu) (hexp : m.unexpired (gpu, f.id) now = none) :
    ∀ c ∈ stored, c.gpu = gpu → c.finish + pcieCacheTtl ≤ now := by
  intro c hc hgpu
  rcases h with ⟨_, hnone⟩ | ⟨lastTime, status, hbound, hfinish, hboth⟩
  · exact absurd hgpu (hnone c hc)
  · obtain ⟨metric, hmetric, htime, httl, _⟩ := hboth f
    have hold : ¬ now < u64Add metric.lastTime metric.cacheTtl := by
      intro hlt
      unfold unexpired at hexp
      rw [hmetric, Option.filter_some, if_pos (by simpa using hlt)] at hexp
      simp at hexp
    rw [htime, httl, u64Add, Nat.mod_eq_of_lt hbound] at hold
    have := hfinish c hc hgpu
    omega

/-- **The store.** Both entries of the GPU get the result. -/
theorem GpuCoherent.store {m : MetricFetcher} {gpu : Nat} (h : GpuCoherent m stored gpu)
    (c : ThroughputCall) {curTime : Nat} (uninit : MetricValue)
    (hbound : curTime + pcieCacheTtl < 2 ^ 64)
    (hfinish : ∀ c' ∈ c :: stored, c'.gpu = c.gpu → c'.finish ≤ curTime) :
    GpuCoherent (m.storePcieThroughput c.gpu c.ret c.sent c.received curTime uninit)
      (c :: stored) gpu := by
  by_cases hgpu : c.gpu = gpu
  · subst hgpu
    right
    refine ⟨curTime, c.ret, hbound, hfinish, ?_⟩
    intro f
    refine ⟨_, storePcieThroughput_self m c curTime uninit f, rfl, ?_, rfl, ?_⟩
    · -- a new entry gets the time to live, an old one has it
      rcases h with ⟨hnone, _⟩ | ⟨_, _, _, _, hboth⟩
      · rw [hnone f]
        rfl
      · obtain ⟨metric, hmetric, _, httl, _⟩ := hboth f
        rw [hmetric]
        exact httl
    · intro c' hlatest
      unfold latestSuccess at hlatest
      by_cases hret : c.ret = AmdsmiStatus.success
      · rw [List.find?_cons_of_pos (by simp [hret])] at hlatest
        obtain rfl := Option.some.inj hlatest
        simp [updateMetric, hret]
      · -- a failure leaves the values, which are those of an earlier success
        rw [List.find?_cons_of_neg (by simp [hret])] at hlatest
        rcases h with ⟨_, hnone⟩ | ⟨_, _, _, _, hboth⟩
        · have hsome := List.find?_some hlatest
          simp only [decide_eq_true_eq] at hsome
          exact absurd hsome.1 (hnone c' (List.mem_of_find?_eq_some hlatest))
        · obtain ⟨metric, hmetric, _, _, _, hvalue⟩ := hboth f
          rw [hmetric]
          simp only [updateMetric, if_neg hret, Option.getD_some]
          exact hvalue c' hlatest
  · -- the call was for another GPU: its entries and its latest success are as before
    have hlookup : ∀ f : PcieField,
        (m.storePcieThroughput c.gpu c.ret c.sent c.received curTime uninit).asyncMetrics[(gpu,
          f.id)]? = m.asyncMetrics[(gpu, f.id)]? :=
      fun f => storePcieThroughput_other m c curTime uninit hgpu
    have hlatest : latestSuccess (c :: stored) gpu = latestSuccess stored gpu :=
      List.find?_cons_of_neg (by simp [hgpu])
    unfold GpuCoherent at h ⊢
    simp only [hlookup, hlatest, List.forall_mem_cons]
    rcases h with ⟨hnone, hcalls⟩ | ⟨lastTime, status, hb, hcalls, hboth⟩
    · exact Or.inl ⟨hnone, hgpu, hcalls⟩
    · exact Or.inr ⟨lastTime, status, hb, ⟨fun heq => absurd heq hgpu, hcalls⟩, hboth⟩

/-! ## Every step keeps it -/

section Steps

variable {t t' : Nat} {s : PcieCache}

theorem PcieInv.request (h : PcieInv t s) (gpu : Nat) (f : PcieField) (now : Nat) :
    PcieInv t (s.exec (.request gpu f now)).2 := by
  unfold PcieCache.exec asyncGetPcieThroughput
  dsimp only
  split
  · exact h
  · refine ⟨?_, h.worker, h.gpus, h.spaced⟩
    intro key hkey
    rcases List.mem_append.mp hkey with hold | hnew
    · exact h.tasks key hold
    · rw [List.mem_singleton.mp hnew]
      exact ⟨f, rfl⟩

theorem PcieInv.take (h : PcieInv t s) : PcieInv t s.take := by
  unfold PcieCache.take
  split
  · rename_i key tasks hw htasks
    have hall := h.tasks
    rw [htasks] at hall
    have hgpus := h.gpus
    unfold storedCalls at hgpus
    rw [hw] at hgpus
    exact ⟨fun key' hkey' => hall key' (List.mem_cons_of_mem _ hkey'),
      hall key (List.mem_cons_self ..), hgpus, h.spaced⟩
  · exact h

theorem PcieInv.check (h : PcieInv t s) {now : Nat} (hlo : t ≤ now) :
    PcieInv now (s.check now) := by
  unfold PcieCache.check
  split
  · rename_i key hw
    have hgpus := h.gpus
    have hworker := h.worker
    unfold storedCalls at hgpus
    rw [hw] at hgpus hworker
    obtain ⟨f, hf⟩ := hworker
    refine ⟨h.tasks, ?_, ?_, h.spaced⟩
    · dsimp only
      split
      · trivial
      · rename_i hnone
        have hexp : s.fetcher.unexpired (key.1, f.id) now = none := by
          rw [← hf]
          exact Option.not_isSome_iff_eq_none.mp hnone
        exact (hgpus key.1).expired hexp
    · intro gpu
      unfold storedCalls
      cases (s.fetcher.unexpired key now).isSome <;> exact hgpus gpu
  · exact h.mono hlo

theorem PcieInv.call (h : PcieInv t s) {start finish : Nat} (hlo : t ≤ start) (hle : start ≤ finish)
    (ret : AmdsmiStatus) (sent received : Nat) :
    PcieInv finish (s.call start finish ret sent received) := by
  unfold PcieCache.call
  split
  · rename_i key hw
    have hgpus := h.gpus
    have hworker := h.worker
    unfold storedCalls at hgpus
    rw [hw] at hgpus hworker
    -- the new call starts after every earlier call for its GPU has ended
    refine ⟨h.tasks, ⟨rfl, ?_⟩, hgpus, ?_⟩
    · intro c hc hgpu
      rcases List.mem_cons.mp hc with rfl | hold
      · exact le_rfl
      · have := hworker c hold hgpu
        omega
    · refine List.pairwise_cons.mpr ⟨?_, h.spaced⟩
      intro c hc hgpu
      exact (hworker c hc hgpu.symm).trans hlo
  · exact h.mono (hlo.trans hle)

theorem PcieInv.stamp (h : PcieInv t s) {now : Nat} (hlo : t ≤ now)
    (hbound : now + pcieCacheTtl < 2 ^ 64) : PcieInv now (s.stamp now) := by
  unfold PcieCache.stamp
  split
  · rename_i c hw
    have hgpus := h.gpus
    have hworker := h.worker
    unfold storedCalls at hgpus
    rw [hw] at hgpus hworker
    exact ⟨h.tasks, ⟨hworker.1, hbound, fun c' hc' hgpu => (hworker.2 c' hc' hgpu).trans hlo⟩,
      hgpus, h.spaced⟩
  · exact h.mono hlo

theorem PcieInv.store (h : PcieInv t s) (uninit : MetricValue) : PcieInv t (s.store uninit) := by
  unfold PcieCache.store
  split
  · rename_i c curTime hw
    have hgpus := h.gpus
    have hworker := h.worker
    unfold storedCalls at hgpus
    rw [hw] at hgpus hworker
    obtain ⟨hhead, hbound, hfinish⟩ := hworker
    have hcalls : s.calls = c :: s.calls.tail := (List.cons_head?_tail hhead).symm
    rw [hcalls] at hfinish
    refine ⟨h.tasks, trivial, ?_, h.spaced⟩
    intro gpu
    show GpuCoherent _ s.calls gpu
    rw [hcalls]
    exact (hgpus gpu).store c uninit hbound hfinish
  · exact h

/-- **Every step of every thread keeps the invariant.** -/
theorem pcieInv_exec (h : PcieInv t s) (step : PcieStep) (hclock : PcieClock t t' step) :
    PcieInv t' (s.exec step).2 := by
  obtain ⟨hbetween, hbound⟩ := hclock
  cases step with
  | request gpu f now => exact (h.request gpu f now).mono hbetween.le
  | take => exact h.take.mono hbetween.le
  | check now => exact (h.check hbetween.1).mono hbetween.2
  | call start finish ret sent received =>
    exact (h.call hbetween.1 hbetween.2.1 ret sent received).mono hbetween.2.2
  | stamp now =>
    have hnow : now + pcieCacheTtl < 2 ^ 64 :=
      lt_of_le_of_lt (Nat.add_le_add_right hbetween.2 _) hbound
    exact (h.stamp hbetween.1 hnow).mono hbetween.2
  | store uninit => exact (h.store uninit).mono hbetween.le

end Steps

/-! ## Coherence -/

theorem GpuCoherent.mem_iff {m : MetricFetcher} {gpu : Nat} (h : GpuCoherent m stored gpu)
    (f f' : PcieField) (hmem : (gpu, f.id) ∈ m.asyncMetrics) : (gpu, f'.id) ∈ m.asyncMetrics := by
  rcases h with ⟨hnone, _⟩ | ⟨_, _, _, _, hboth⟩
  · exact absurd hmem ((not_mem_iff_getElem? _ _).mpr (hnone f))
  · obtain ⟨metric, hmetric, _⟩ := hboth f'
    exact mem_of_getElem? hmetric

/-- **The PCIe cache is coherent.** After any steps of the requesting threads and the worker, on a
clock that never goes back, the two directions of a GPU are cached together and come from the
latest successful call that was stored; and two calls for a GPU are a time to live apart. -/
theorem pcieCache_coherent (steps : List PcieStep) (hclock : Clocked PcieClock 0 steps) :
    Coherent (latestSuccess (after steps).storedCalls) (after steps) := by
  obtain ⟨t, hinv⟩ := Along.invariant_clocked (I := PcieInv)
    (fun t t' s step h _ hc => pcieInv_exec h step hc) pcieInv_init Along.always hclock
  refine ⟨?_, ?_, ?_, hinv.spaced⟩
  · intro gpu
    exact ⟨(hinv.gpus gpu).mem_iff .tx .rx, (hinv.gpus gpu).mem_iff .rx .tx⟩
  · intro gpu tx rx htx hrx
    rcases hinv.gpus gpu with ⟨hnone, _⟩ | ⟨_, _, _, _, hboth⟩
    · exact absurd ((hnone .tx).symm.trans htx) (by simp)
    · obtain ⟨tx', htx', htime, _, hstatus, _⟩ := hboth .tx
      obtain ⟨rx', hrx', htime', _, hstatus', _⟩ := hboth .rx
      obtain rfl := Option.some.inj (htx'.symm.trans htx)
      obtain rfl := Option.some.inj (hrx'.symm.trans hrx)
      exact ⟨htime.trans htime'.symm, hstatus.trans hstatus'.symm⟩
  · intro gpu tx rx htx hrx c hc
    rcases hinv.gpus gpu with ⟨hnone, _⟩ | ⟨_, _, _, _, hboth⟩
    · exact absurd ((hnone .tx).symm.trans htx) (by simp)
    · obtain ⟨tx', htx', _, _, _, hvalue⟩ := hboth .tx
      obtain ⟨rx', hrx', _, _, _, hvalue'⟩ := hboth .rx
      obtain rfl := Option.some.inj (htx'.symm.trans htx)
      obtain rfl := Option.some.inj (hrx'.symm.trans hrx)
      exact ⟨hvalue c hc, hvalue' c hc⟩

/-- A local that holds zeros. -/
def zeroMetric : MetricValue := ⟨0, 0, ⟨0, 0, 0, .integer, .lInt 0⟩⟩

/-- One fetch from the request to the store, and a second one up to the answer of the library. -/
def secondAnswered : List PcieStep :=
  [.request 0 .tx 0, .take, .check 0, .call 0 1 0 5 7, .stamp 1, .store zeroMetric,
    .request 0 .rx 30001, .take, .check 30001, .call 30001 30002 0 6 8]

theorem clocked_secondAnswered : Clocked PcieClock 0 secondAnswered := by
  refine ⟨0, ?_, 0, ?_, 0, ?_, 1, ?_, 1, ?_, 1, ?_, 30001, ?_, 30001, ?_, 30001, ?_, 30002, ?_,
    trivial⟩ <;> exact ⟨by simp [PcieStep.Between], by decide⟩

theorem pcieCache_coherent_secondAnswered :
    Clocked PcieClock 0 secondAnswered
      ∧ Coherent (latestSuccess (after secondAnswered).storedCalls) (after secondAnswered) :=
  ⟨clocked_secondAnswered, pcieCache_coherent secondAnswered clocked_secondAnswered⟩

/-- The lock is free, the library has answered `6` and `8`, and the cache still has `5` and `7`. -/
theorem not_coherent_secondAnswered :
    Clocked PcieClock 0 secondAnswered
      ∧ ¬ Coherent (latestSuccess (after secondAnswered).calls) (after secondAnswered) := by
  refine ⟨clocked_secondAnswered, ?_⟩
  intro h
  have htx : (after secondAnswered).fetcher.asyncMetrics[(0, rdcFiPcieTx)]?
      = some ⟨30000, 1, ⟨rdcFiPcieTx, 0, 1, .integer, .lInt 5⟩⟩ := by decide +kernel
  have hrx : (after secondAnswered).fetcher.asyncMetrics[(0, rdcFiPcieRx)]?
      = some ⟨30000, 1, ⟨rdcFiPcieRx, 0, 1, .integer, .lInt 7⟩⟩ := by decide +kernel
  have hvalue := (h.values 0 _ _ htx hrx ⟨0, 30001, 30002, 0, 6, 8⟩ (by decide +kernel)).1
  exact absurd hvalue (by decide)

end Rdc.Proof
