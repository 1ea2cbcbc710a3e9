import Rdc.Proof.Rates
import Mathlib.Tactic.Linarith

/-!
# How long samples are kept

A clean-up walks over the records and evicts the samples of each; then it drops the records that
have expired. Two consequences, one wanted and one not.

A sample of a telemetry field is never left behind without a record. A record expires by its own
timestamp, and the samples of its key are no younger than that, so the eviction just before has
emptied the list (`Kept`). This needs the two clock readings to be in order, and the modules to
stamp the values they deliver with readings of the same clock.

The samples of events have no record, since no module supports a notification field. They are
appended and never evicted (`samplesOf_events`), whatever limits they are watched with.
-/

namespace Rdc.Proof

open Daemon OrdMap Machine

/-! ## Telemetry samples and their record -/

/-- The samples of `k` are ordered, and those that there are have a record that is no older than
they are and no younger than `t`. -/
structure Kept (k : RdcFieldKey) (t : Nat) (d : Daemon) : Prop where
  ordered : Ordered (samplesOf d k)
  held : ∀ x ∈ samplesOf d k, ∃ u, updatedAt d k = some u ∧ x.lastTime ≤ u
  past : ∀ u, updatedAt d k = some u → u ≤ t

variable {t' : Nat} {clock : CleanUpClock}

section Kept

variable {k : RdcFieldKey} {t : Nat} {d : Daemon}

/-- Where there are no samples, only the record's own timestamp matters. -/
theorem kept_of_samples_eq_nil (hnil : samplesOf d k = [])
    (hpast : ∀ u, updatedAt d k = some u → u ≤ t) : Kept k t d := by
  refine ⟨?_, ?_, hpast⟩
  · rw [hnil]
    exact List.Pairwise.nil
  · rw [hnil]
    exact fun x hx => absurd hx (by simp)

theorem kept_init (k : RdcFieldKey) : Kept k 0 init := by
  have hu : updatedAt init k = none := by
    refine updatedAt_eq_none.mpr ?_
    exact Std.ExtTreeMap.getElem?_empty
  refine kept_of_samples_eq_nil (samplesOf_init k) ?_
  rw [hu]
  exact fun u h' => absurd h' (by simp)

theorem Kept.congr {d' : Daemon} (h : Kept k t d) (hs : samplesOf d' k = samplesOf d k)
    (hu : updatedAt d' k = updatedAt d k) (ht : t ≤ t') : Kept k t' d' := by
  refine ⟨?_, ?_, ?_⟩
  · rw [hs]
    exact h.ordered
  · rw [hs, hu]
    exact h.held
  · rw [hu]
    intro u h'
    exact le_trans (h.past u h') ht

theorem Kept.samples_eq_nil (h : Kept k t d) (hnone : updatedAt d k = none) :
    samplesOf d k = [] := by
  refine List.eq_nil_iff_forall_not_mem.mpr ?_
  intro x hx
  obtain ⟨u, hu, _⟩ := h.held x hx
  rw [hnone] at hu
  simp at hu

theorem Kept.calm {d' : Daemon} (h : Kept k t d) (hc : Calm d d') (ht : t ≤ t') : Kept k t' d' := by
  have hs : samplesOf d' k = samplesOf d k := samplesOf_congr hc.samples k
  rcases hc.updatedAt k with hu | ⟨hnone, hu⟩
  · exact h.congr hs hu ht
  · -- the record is new, so there were no samples
    have hnil := h.samples_eq_nil (updatedAt_eq_none.mpr hnone)
    refine kept_of_samples_eq_nil (hs.trans hnil) ?_
    intro u h'
    rw [hu] at h'
    rw [← Option.some.inj h']
    exact Nat.zero_le t'

theorem Kept.handleFields_of_labelled_eq_nil (h : Kept k t d)
    {values : List (Nat × RdcGpuFieldValue)} (hl : labelled k values = []) (ht : t ≤ t') :
    Kept k t' (d.handleFields values) := by
  refine h.congr ?_ ?_ ht
  · rw [samplesOf_handleFields]
    unfold added
    rw [hl]
    exact List.append_nil _
  · rw [updatedAt_handleFields, hl]
    cases updatedAt d k <;> rfl

/-- A delivery of at most one value to the key, which is stamped, if it is good, after everything
that is there and before its callback. -/
theorem Kept.handleFields (h : Kept k t d) {values : List (Nat × RdcGpuFieldValue)}
    (hnodup : (values.map fun v => v.2.key).Nodup) (ht : t ≤ t')
    (hrec : ∀ v ∈ values, v.2.key = k → updatedAt d k ≠ none)
    (htime : ∀ v ∈ values, t ≤ v.1 ∧ v.1 ≤ t'
      ∧ (v.2.fieldValue.status = 0 → t ≤ v.2.fieldValue.ts ∧ v.2.fieldValue.ts ≤ v.1)) :
    Kept k t' (d.handleFields values) := by
  have hs := samplesOf_handleFields d values k
  have hu := updatedAt_handleFields d values k
  rcases labelled_cases k hnodup with hl | ⟨v, hv, hvk, hl⟩
  · exact h.handleFields_of_labelled_eq_nil hl ht
  obtain ⟨hfirst, hlast, hstamp⟩ := htime v hv
  have hu' : updatedAt (d.handleFields values) k = some v.1 := by
    cases hold : updatedAt d k with
    | none => exact absurd hold (hrec v hv hvk)
    | some u =>
      rw [hu, hl, hold]
      rfl
  have hadd : ∀ x ∈ added k values,
      x.lastTime = v.2.fieldValue.ts ∧ t ≤ x.lastTime ∧ x.lastTime ≤ v.1 := by
    intro x hx
    unfold added at hx
    rw [hl] at hx
    obtain ⟨w, hw, rfl⟩ := List.mem_map.mp hx
    obtain ⟨hmem, hgood⟩ := List.mem_filter.mp hw
    rw [List.mem_singleton.mp hmem] at hgood ⊢
    exact ⟨rfl, hstamp (of_decide_eq_true hgood)⟩
  have hold : ∀ x ∈ samplesOf d k, x.lastTime ≤ t := by
    intro x hx
    obtain ⟨u, hu, hxu⟩ := h.held x hx
    exact le_trans hxu (h.past u hu)
  refine ⟨?_, ?_, ?_⟩
  · rw [hs]
    refine List.pairwise_append.mpr ⟨h.ordered, ?_, ?_⟩
    · refine List.pairwise_iff_forall_sublist.mpr ?_
      intro x y hxy
      rw [(hadd x (hxy.subset (by simp))).1, (hadd y (hxy.subset (by simp))).1]
    · intro x hx y hy
      exact le_trans (hold x hx) (hadd y hy).2.1
  · rw [hs, hu']
    intro x hx
    refine ⟨v.1, rfl, ?_⟩
    rcases List.mem_append.mp hx with hx | hx
    · exact le_trans (hold x hx) hfirst
    · exact (hadd x hx).2.2
  · intro u h'
    rw [hu'] at h'
    rw [← Option.some.inj h']
    exact hlast

/-- The eviction empties the list of a key whose record has expired: the samples are no younger than
the record, and the eviction is no earlier than the test. -/
theorem Kept.samples_cleanUp_eq_nil (h : Kept k t d) (hclock : clock.now ≤ clock.evict k)
    {r : FieldSettings} (hr : d.fieldsToWatch[k]? = some r) (he : expired clock.now r = true) :
    samplesOf (d.cleanUp clock) k = [] := by
  have hold := lt_of_expired he
  rw [samplesOf_cleanUp, hr]
  refine evicted_eq_nil ?_
  intro x hx
  obtain ⟨u, hu, hxu⟩ := h.held x hx
  rw [updatedAt_of_record hr] at hu
  rw [← Option.some.inj hu] at hxu
  have h1 : (x.lastTime : ℚ) ≤ r.lastUpdateTime := by exact_mod_cast hxu
  have h2 : (clock.now : ℚ) ≤ clock.evict k := by exact_mod_cast hclock
  linarith

/-- **Clean-up.** A record is dropped only when the eviction has emptied the list. -/
theorem Kept.cleanUp (h : Kept k t d) (hclock : clock.now ≤ clock.evict k) :
    Kept k t (d.cleanUp clock) := by
  have hpast : ∀ u, updatedAt (d.cleanUp clock) k = some u → u ≤ t :=
    fun u hu => h.past u (updatedAt_of_cleanUp hu)
  have hs := samplesOf_cleanUp d clock k
  cases hr : d.fieldsToWatch[k]? with
  | none =>
    rw [hr] at hs
    exact kept_of_samples_eq_nil (hs.trans (h.samples_eq_nil (updatedAt_eq_none.mpr hr))) hpast
  | some r =>
    cases he : expired clock.now r with
    | true => exact kept_of_samples_eq_nil (h.samples_cleanUp_eq_nil hclock hr he) hpast
    | false =>
      have hsuffix : samplesOf (d.cleanUp clock) k <:+ samplesOf d k := by
        rw [hs, hr]
        exact evicted_suffix ..
      have hrec : (d.cleanUp clock).fieldsToWatch[k]? = some r := by
        rw [cleanUp_record, hr]
        simp [he]
      refine ⟨h.ordered.sublist hsuffix.sublist, ?_, hpast⟩
      rw [updatedAt_of_record hrec, ← updatedAt_of_record hr]
      exact fun x hx => h.held x (hsuffix.subset hx)

/-- The fetch of an update, before anything is evicted. -/
theorem Kept.fetched {now : Nat} {delivered : List (Nat × RdcGpuFieldValue)} (h : Kept k t d)
    (ha : Answers d (.fieldUpdateAll now delivered clock)) (hnow : t ≤ now)
    (hlate : now ≤ clock.now) (hstamps : ∀ v ∈ delivered, now ≤ v.1 ∧ v.1 ≤ clock.now
      ∧ (v.2.fieldValue.status = 0 → now ≤ v.2.fieldValue.ts ∧ v.2.fieldValue.ts ≤ v.1)) :
    Kept k clock.now (fetched d now delivered) := by
  have hnodup : (delivered.map fun v => v.2.key).Nodup := ha.nodup_iff.mpr nodup_fieldsToFetch
  have hkept : Kept k clock.now (d.handleFields delivered) := by
    refine h.handleFields hnodup (le_trans hnow hlate) ?_ ?_
    · -- a value labelled with the key was requested, so the key has a record
      intro v hv hvk hnone
      have hmem : k ∈ d.fieldsToFetch now := ha.subset (List.mem_map.mpr ⟨v, hv, hvk⟩)
      obtain ⟨r, hr, _⟩ := mem_fieldsToFetch.mp hmem
      rw [updatedAt_eq_none.mp hnone] at hr
      simp at hr
    · intro v hv
      obtain ⟨hfirst, hlast, hstamp⟩ := hstamps v hv
      exact ⟨le_trans hnow hfirst, hlast, fun hgood =>
        ⟨le_trans hnow (hstamp hgood).1, (hstamp hgood).2⟩⟩
  refine hkept.congr ?_ ?_ le_rfl
  · rw [fetched_samples clock, brought_eq ha, samplesOf_handleFields]
  · unfold updatedAt
    rw [fetched_record clock, brought_eq ha]

/-- **Step.** On a clock that goes forward, with modules that answer, every call keeps the samples
of a telemetry key within its record. -/
theorem kept_exec {tel : Telemetry} {op : Op} (hk : isNotificationEvent k.2 = false)
    (h : Kept k t d) (ha : Answers d op) (hb : op.Between t t') : Kept k t' (d.exec tel op).2 := by
  by_cases hop : Brings op
  swap
  · exact h.calm (calm_exec tel d hop) hb.le
  cases op with
  | notifUpdateCache events =>
    -- the events of a batch are of notification fields, and the key is of another
    have hnil : labelled k (events.map RdcEvntNotification.delivery) = [] := by
      refine labelled_eq_nil ?_
      intro v hv hvk
      obtain ⟨e, he, heq⟩ := List.mem_map.mp hv
      have hev := ha e he
      rw [← heq] at hvk
      have hf : e.field.fieldId = k.2 := congrArg Prod.snd hvk
      rw [hf, hk] at hev
      simp at hev
    show Kept k t' (d.rdcNotifUpdateCache events).2
    rw [rdcNotifUpdateCache_eq]
    exact h.handleFields_of_labelled_eq_nil hnil hb.le
  | fieldUpdateAll now delivered clock =>
    obtain ⟨hnow, hlate, hstamps, hend, hevict⟩ := hb
    have hfetched := h.fetched ha hnow hlate hstamps
    -- samples are evicted after the fetch, and only when the clean-up interval has passed
    show Kept k t' (d.rdcFieldUpdateAll now delivered clock).2
    rw [rdcFieldUpdateAll_eq]
    split
    · exact (hfetched.cleanUp (hevict k).1).congr rfl rfl hend
    · exact hfetched.congr rfl rfl hend
  | _ => exact absurd hop id

end Kept

/-- **Telemetry samples never outlive their record.** In every state of a run on a clock that goes
forward, with modules that answer, the samples of a telemetry key are ordered, there are some only
if the key has a record, and none of them is younger than the record. The clock includes the stamps:
a good value of an update has one at or after the start of the update, and no later than the clock
reading of its callback. -/
theorem samples_within_record (tel : Telemetry) (ops : List Op) (hclock : ClockForward ops)
    (ha : Along (exec tel) Answers init ops) (k : RdcFieldKey)
    (hk : isNotificationEvent k.2 = false) :
    Ordered (samplesOf (run (exec tel) init ops) k)
    ∧ (samplesOf (run (exec tel) init ops) k ≠ [] →
        ∃ r, (run (exec tel) init ops).fieldsToWatch[k]? = some r)
    ∧ ∀ r, (run (exec tel) init ops).fieldsToWatch[k]? = some r →
        ∀ x ∈ samplesOf (run (exec tel) init ops) k, x.lastTime ≤ r.lastUpdateTime := by
  have hstep : ∀ t t' d op, Kept k t d → Answers d op → op.Between t t' →
      Kept k t' (d.exec tel op).2 := fun _ _ _ _ h ha hb => kept_exec hk h ha hb
  obtain ⟨t, hkept⟩ := Along.invariant_clocked hstep (kept_init k) ha hclock
  refine ⟨hkept.ordered, ?_, ?_⟩
  · intro hne
    obtain ⟨x, hx⟩ := List.exists_mem_of_ne_nil _ hne
    obtain ⟨u, hu, _⟩ := hkept.held x hx
    obtain ⟨r, hr, _⟩ := Option.map_eq_some_iff.mp hu
    exact ⟨r, hr⟩
  · intro r hr x hx
    obtain ⟨u, hu, hxu⟩ := hkept.held x hx
    rw [updatedAt_of_record hr] at hu
    rw [Option.some.inj hu]
    exact hxu

theorem samples_within_record_sampledOnce :
    samplesOf (run (exec Telemetry.smiOnly) init sampledOnce) (0, rdcFiPowerUsage)
      = [⟨1000000, .integer, .lInt 5⟩]
    ∧ ∃ r, (run (exec Telemetry.smiOnly) init sampledOnce).fieldsToWatch[(0, rdcFiPowerUsage)]?
      = some r := by
  have hs : samplesOf (run (exec Telemetry.smiOnly) init sampledOnce) (0, rdcFiPowerUsage)
      = [⟨1000000, .integer, .lInt 5⟩] := by decide +kernel
  have hclock : ClockForward sampledOnce := by
    refine ⟨0, le_rfl, 0, le_rfl, 0, le_rfl, 0, le_rfl, 1000000, ?_, trivial⟩
    simp [Op.Between, powerFetched]
  have ha : Along (exec Telemetry.smiOnly) Answers init sampledOnce :=
    ⟨trivial, trivial, trivial, trivial, by decide +kernel, trivial⟩
  refine ⟨hs, (samples_within_record Telemetry.smiOnly sampledOnce hclock ha
    (0, rdcFiPowerUsage) (by decide)).2.1 ?_⟩
  rw [hs]
  simp

/-! ## Events -/

/-- The samples that come of the events a call delivers for `k`. -/
def eventSamples (k : RdcFieldKey) : Op → List RdcCacheEntry
  | .notifUpdateCache events => added k (events.map RdcEvntNotification.delivery)
  | _ => []

/-- No value that telemetry delivers is labelled as an event. -/
def FetchesNoEvents : Op → Prop
  | .fieldUpdateAll _ delivered _ =>
    ∀ v ∈ delivered, isNotificationEvent v.2.fieldValue.fieldId = false
  | _ => True

/-- Under an event key, every call appends the events it delivers and takes nothing away. -/
theorem samplesOf_exec_event {tel : Telemetry} {d : Daemon} {op : Op} {k : RdcFieldKey}
    (hk : isNotificationEvent k.2 = true) (hs : OnlySupported tel d) (hno : FetchesNoEvents op) :
    samplesOf (d.exec tel op).2 k = samplesOf d k ++ eventSamples k op := by
  have hsup : tel.supports k.2 = false := by
    cases h : tel.supports k.2 with
    | false => rfl
    | true =>
      rw [Telemetry.not_notification_of_supports h] at hk
      simp at hk
  by_cases hop : Brings op
  swap
  · have hnil : eventSamples k op = [] := by
      cases op <;> first | rfl | exact absurd trivial hop
    rw [hnil, List.append_nil]
    exact samplesOf_congr (calm_exec tel d hop).samples k
  cases op with
  | notifUpdateCache events =>
    show samplesOf (d.rdcNotifUpdateCache events).2 k = _
    rw [rdcNotifUpdateCache_eq, samplesOf_handleFields]
    rfl
  | fieldUpdateAll now delivered clock =>
    -- telemetry brings nothing for the key, and there is no record to clean up by
    have hnil : added k (brought d (.fieldUpdateAll now delivered clock)) = [] := by
      refine added_eq_nil fun v hv hvk => ?_
      have hfetched : v ∈ delivered := by
        unfold brought at hv
        dsimp only at hv
        split at hv
        · exact absurd hv List.not_mem_nil
        · exact hv
      rw [← hvk, show v.2.key.2 = v.2.fieldValue.fieldId from rfl, hno v hfetched] at hk
      exact Bool.false_ne_true hk
    have hfetched : samplesOf (fetched d now delivered) k = samplesOf d k := by
      rw [fetched_samples clock, hnil, List.append_nil]
    have hnone : (fetched d now delivered).fieldsToWatch[k]? = none := by
      rw [fetched_record clock, handleFields_record, hs k hsup]
      rfl
    show samplesOf (d.rdcFieldUpdateAll now delivered clock).2 k = samplesOf d k ++ []
    rw [rdcFieldUpdateAll_eq, List.append_nil, ← hfetched]
    split
    · show samplesOf ((fetched d now delivered).cleanUp clock) k = _
      rw [samplesOf_cleanUp, hnone]
      rfl
    · rfl
  | _ => exact absurd hop id

theorem samplesOf_events (tel : Telemetry) {k : RdcFieldKey} (hk : isNotificationEvent k.2 = true)
    {ops : List Op} (hno : ∀ op ∈ ops, FetchesNoEvents op) {d : Daemon}
    (hs : OnlySupported tel d) :
    samplesOf (run (exec tel) d ops) k = samplesOf d k ++ ops.flatMap (eventSamples k) := by
  induction ops generalizing d with
  | nil => exact (List.append_nil _).symm
  | cons op ops ih =>
    rw [run_cons, ih (fun op' hop => hno op' (List.mem_cons_of_mem _ hop))
      (onlySupported_exec op hs), samplesOf_exec_event hk hs (hno op (List.mem_cons_self ..)),
      List.flatMap_cons, List.append_assoc]

/-! ## The limits events are watched with -/

/-- The limits of a call that has set up a watch on a pair of groups that covers `k`. -/
def limitsOf (tel : Telemetry) (d : Daemon) (k : RdcFieldKey) (op : Op) : List (Nat × ℚ) :=
  let watched (groupId fieldGroupId : Nat) : Bool :=
    match d.groupSettings.getFieldsFromGroup groupId fieldGroupId with
    | .ok keys => keys.contains k && (d.exec tel op).1 = .ok
    | .error _ => false
  match op with
  | .fieldWatch groupId fieldGroupId _ maxKeepAge maxKeepSamples =>
    if watched groupId fieldGroupId then [(maxKeepSamples, maxKeepAge)] else []
  | .jobStartStats groupId _ _ _ _ => if watched groupId jobFieldId then [(0, 0)] else []
  | _ => []

/-- All limits with which an entry that covers `k` was ever watched. -/
def everWatched (tel : Telemetry) (k : RdcFieldKey) : Daemon → List Op → List (Nat × ℚ)
  | _, [] => []
  | d, op :: ops => limitsOf tel d k op ++ everWatched tel k (d.exec tel op).2 ops

/-- At most as many samples as the largest limit, and none older at `now` than the longest age. -/
def WithinLimits (limits : List (Nat × ℚ)) (now : Nat) (xs : List RdcCacheEntry) : Prop :=
  ∀ M A, IsGreatest {m | m ∈ limits.map Prod.fst} M → IsGreatest {a | a ∈ limits.map Prod.snd} A →
    xs.length ≤ M ∧ ∀ x ∈ xs, (now : ℚ) ≤ x.lastTime + A * 1000

/-- **Events and their limits.** After an update, with its clean-up or without, the samples of an
event key are within the limits exactly when all events ever delivered for it are. All that is asked
of telemetry is that it delivers no events. -/
theorem events_withinLimits_iff (tel : Telemetry) (ops : List Op) (now : Nat)
    (delivered : List (Nat × RdcGpuFieldValue)) (clock : CleanUpClock)
    (hno : ∀ op ∈ ops ++ [.fieldUpdateAll now delivered clock], FetchesNoEvents op)
    (k : RdcFieldKey) (hk : isNotificationEvent k.2 = true) :
    WithinLimits (everWatched tel k init ops) clock.now
        (samplesOf (run (exec tel) init (ops ++ [.fieldUpdateAll now delivered clock])) k)
      ↔ WithinLimits (everWatched tel k init ops) clock.now (ops.flatMap (eventSamples k)) := by
  rw [samplesOf_events tel hk hno (onlySupported_init tel), samplesOf_init, List.nil_append,
    List.flatMap_append]
  simp [eventSamples]

/-- A page fault on GPU 0, reported at `time`. -/
def vmfault (time : Nat) : RdcEvntNotification :=
  ⟨0, rdcEvntNotifVmfault, 0, time, .string, .str [102]⟩

/-- Page faults of GPU 0 are watched, one to be kept, for ten seconds. -/
def faultsWatched : List Op :=
  [.groupGpuCreate [97], .groupGpuAdd 1 0, .groupFieldCreate [rdcEvntNotifVmfault] [98],
    .fieldWatch 1 1 1000000 10 1]

theorem everWatched_faults (events : List RdcEvntNotification) :
    everWatched Telemetry.smiOnly (0, rdcEvntNotifVmfault) init
      (faultsWatched ++ [.notifUpdateCache events]) = [(1, 10)] := by
  have hfour : everWatched Telemetry.smiOnly (0, rdcEvntNotifVmfault) init faultsWatched
      = [(1, 10)] := by decide +kernel
  exact hfour

theorem withinLimits_singleton {m : Nat} {a : ℚ} {now : Nat} {xs : List RdcCacheEntry} :
    WithinLimits [(m, a)] now xs ↔ xs.length ≤ m ∧ ∀ x ∈ xs, (now : ℚ) ≤ x.lastTime + a * 1000 := by
  have hset : ∀ {α : Type} (b : α), {c | c ∈ [b]} = {b} := by
    intro α b
    ext c
    simp
  unfold WithinLimits
  simp only [List.map_cons, List.map_nil, hset]
  refine ⟨fun h => h m a isGreatest_singleton isGreatest_singleton, fun h M A hM hA => ?_⟩
  rw [show M = m from hM.1, show A = a from hA.1]
  exact h

theorem events_withinLimits_oneFault :
    WithinLimits (everWatched Telemetry.smiOnly (0, rdcEvntNotifVmfault) init
        (faultsWatched ++ [.notifUpdateCache [vmfault 1500]])) 2000
      (samplesOf (run (exec Telemetry.smiOnly) init
        (faultsWatched ++ [.notifUpdateCache [vmfault 1500]] ++
          [.fieldUpdateAll 2000 [] ⟨2000, fun _ => 2000⟩])) (0, rdcEvntNotifVmfault)) := by
  refine (events_withinLimits_iff Telemetry.smiOnly _ 2000 [] ⟨2000, fun _ => 2000⟩
    (by simp [faultsWatched, FetchesNoEvents]) (0, rdcEvntNotifVmfault) (by decide)).mpr ?_
  rw [everWatched_faults, withinLimits_singleton]
  decide +kernel

/-- Two faults are kept where one was asked for. -/
theorem events_kept_beyond_limits :
    Along (exec Telemetry.smiOnly) Answers init
      (faultsWatched ++ [.notifUpdateCache [vmfault 1500, vmfault 1600]] ++
        [.fieldUpdateAll 2000 [] ⟨2000, fun _ => 2000⟩])
    ∧ u64Sub 2000 (run (exec Telemetry.smiOnly) init
        (faultsWatched ++ [.notifUpdateCache [vmfault 1500, vmfault 1600]])).lastCleanupTime > 1000
    ∧ ¬ WithinLimits (everWatched Telemetry.smiOnly (0, rdcEvntNotifVmfault) init
        (faultsWatched ++ [.notifUpdateCache [vmfault 1500, vmfault 1600]])) 2000
      (samplesOf (run (exec Telemetry.smiOnly) init
        (faultsWatched ++ [.notifUpdateCache [vmfault 1500, vmfault 1600]] ++
          [.fieldUpdateAll 2000 [] ⟨2000, fun _ => 2000⟩])) (0, rdcEvntNotifVmfault)) := by
  refine ⟨⟨trivial, trivial, trivial, trivial, by decide, by decide +kernel, trivial⟩,
    by decide +kernel, ?_⟩
  rw [everWatched_faults, withinLimits_singleton]
  decide +kernel

end Rdc.Proof
