import Rdc.Proof.Eviction
import Rdc.Lib.Extremes

/-!
# A limit of zero

A watch with `max_keep_samples` zero is documented to have no limit on the number of samples. Zero
gets no special treatment: the merge of overlapping watches takes the largest of their numbers, in
which a zero does not show, and the eviction takes the number it is given, and with zero finds every
sample to be one too many.

The record of a key knows the largest limits among the watches since it was made (`Merged`). Every
call keeps that; what happens to the record is said once, in `LimitStep`.
-/

namespace Rdc.Proof

open Daemon OrdMap Machine Window

/-! ## The limits of a key -/

/-- The limits a key has come to: the samples and the age in its record. -/
def limitsIn (d : Daemon) (k : RdcFieldKey) : Option (Nat × ℚ) :=
  d.fieldsToWatch[k]?.map fun r => (r.maxKeepSamples, r.maxKeepAge)

/-- The limits of the watches that cover `k`, since its record was made. -/
def limitsSince (tel : Telemetry) (k : RdcFieldKey) :
    Daemon → List (Nat × ℚ) → List Op → List (Nat × ℚ)
  | _, held, [] => held
  | d, held, op :: ops =>
    limitsSince tel k (d.exec tel op).2
      (if k ∈ (d.exec tel op).2.fieldsToWatch then held ++ limitsOf tel d k op else []) ops

/-- The limits of one more watch. -/
def mergeLimits (l : Nat × ℚ) : Option (Nat × ℚ) → Nat × ℚ
  | none => l
  | some l₀ => (max l₀.1 l.1, max l₀.2 l.2)

/-- What a call does to the limits of a key: they are gone, or as they were, or the call was a watch
and its limits are merged in. -/
def LimitStep (d d' : Daemon) (k : RdcFieldKey) (ls : List (Nat × ℚ)) : Prop :=
  limitsIn d' k = none
    ∨ (ls = [] ∧ limitsIn d' k = limitsIn d k)
    ∨ ∃ l, ls = [l] ∧ limitsIn d' k = some (mergeLimits l (limitsIn d k))

section Limits

variable {tel : Telemetry} {d : Daemon} {k : RdcFieldKey}

theorem limitsIn_unwatch (d : Daemon) (g fg now : Nat) (k : RdcFieldKey) :
    limitsIn (d.rdcFieldUnwatch g fg now).2 k = limitsIn d k :=
  map_record_unwatch (fun least _ => by cases least <;> rfl) d g fg now k

/-- The limits of a watch on a pair of groups, if it covers `k` and succeeds. -/
def watchLimits (tel : Telemetry) (d : Daemon) (k : RdcFieldKey) (g fg freq : Nat) (age : ℚ)
    (samples : Nat) : List (Nat × ℚ) :=
  if (match d.groupSettings.getFieldsFromGroup g fg with
    | .ok keys => keys.contains k && (d.rdcFieldWatch tel g fg freq age samples).1 = .ok
    | .error _ => false) = true
  then [(samples, age)] else []

theorem watchLimits_of_ne_ok {g fg freq : Nat} {age : ℚ} {samples : Nat}
    (h : (d.rdcFieldWatch tel g fg freq age samples).1 ≠ .ok) :
    watchLimits tel d k g fg freq age samples = [] := by
  unfold watchLimits
  cases d.groupSettings.getFieldsFromGroup g fg with
  | error st => rfl
  | ok keys => simp [h]

theorem watchLimits_of_ok {g fg freq : Nat} {age : ℚ} {samples : Nat}
    (hlive : d.groupSettings.Live (g, fg))
    (h : (d.rdcFieldWatch tel g fg freq age samples).1 = .ok) :
    (d.groupSettings.Covers (g, fg) k
      ∧ watchLimits tel d k g fg freq age samples = [(samples, age)])
    ∨ (¬ d.groupSettings.Covers (g, fg) k ∧ watchLimits tel d k g fg freq age samples = []) := by
  obtain ⟨ks, hks, hmem⟩ := GroupSettings.getFieldsFromGroup_ok hlive
  unfold watchLimits
  rw [hks, h, ← hmem k]
  by_cases hk : k ∈ ks
  · exact Or.inl ⟨hk, by simp [hk]⟩
  · exact Or.inr ⟨hk, by simp [hk]⟩

theorem limitStep_watch (hs : OnlySupported tel d) (g fg freq : Nat) (age : ℚ) (samples : Nat) :
    LimitStep d (d.rdcFieldWatch tel g fg freq age samples).2 k
      (watchLimits tel d k g fg freq age samples) := by
  rcases rdcFieldWatch_cases tel d g fg freq age samples with
    ⟨_, _, heq⟩ | ⟨_, _, heq⟩ | ⟨_, hlive, F, calls, hF, heq⟩
  · refine Or.inr (Or.inl ⟨watchLimits_of_ne_ok (by rw [heq]; simp), ?_⟩)
    rw [heq]
  · refine Or.inr (Or.inl ⟨watchLimits_of_ne_ok (by rw [heq]; simp), ?_⟩)
    rw [heq]
    rfl
  · have hrecord : limitsIn (d.rdcFieldWatch tel g fg freq age samples).2 k
        = F[k]?.map fun r => (r.maxKeepSamples, r.maxKeepAge) := by
      rw [heq]
      rfl
    rcases watchLimits_of_ok (k := k) hlive (by rw [heq]) with ⟨hcov, hls⟩ | ⟨hcov, hls⟩
    · cases hsup : tel.supports k.2 with
      | false =>
        left
        rw [hrecord, (hF k).2 (by simp [hsup]), hs k hsup]
        rfl
      | true =>
        refine Or.inr (Or.inr ⟨(samples, age), hls, ?_⟩)
        rw [hrecord, (hF k).1 ⟨hsup, hcov⟩]
        unfold limitsIn
        cases d.fieldsToWatch[k]? <;> rfl
    · refine Or.inr (Or.inl ⟨hls, ?_⟩)
      rw [hrecord, (hF k).2 fun h => hcov h.2]
      rfl

/-- A call that brings something in can only take the record away. -/
theorem limitsIn_updateInv (d₀ : Daemon) (k : RdcFieldKey) :
    UpdateInv fun d => limitsIn d k = none ∨ limitsIn d k = limitsIn d₀ k where
  deliver {d} time gpu value h := by
    have hsame : limitsIn (d.deliver time gpu value) k = limitsIn d k := by
      unfold limitsIn
      rcases deliver_fieldsToWatch d time gpu value k with heq | ⟨r, hr, heq⟩
      · rw [heq]
      · rw [heq, hr]
        rfl
    rw [hsame]
    exact h
  cleanUp {d} clock h := by
    have hfilter : limitsIn (d.cleanUp clock) k = none
        ∨ limitsIn (d.cleanUp clock) k = limitsIn d k := by
      unfold limitsIn
      rw [cleanUp_record]
      cases d.fieldsToWatch[k]? with
      | none => exact Or.inl rfl
      | some r =>
        rw [Option.filter_some]
        split
        · exact Or.inr rfl
        · exact Or.inl rfl
    rcases hfilter with hnone | hsame
    · exact Or.inl hnone
    · rw [hsame]
      exact h
  log _ _ h := h

theorem limitStep_of_same {d' : Daemon} {ls : List (Nat × ℚ)} (hls : ls = [])
    (h : limitsIn d' k = none ∨ limitsIn d' k = limitsIn d k) : LimitStep d d' k ls := by
  rcases h with hnone | hsame
  · exact Or.inl hnone
  · exact Or.inr (Or.inl ⟨hls, hsame⟩)

/-- A start that gets as far as its watch ends as a watch does; one that does not, changes
nothing. -/
theorem limitStep_start (hs : OnlySupported tel d) (g : Nat) (j : JobId) (freq : Nat)
    (gauges : RdcGpuGauges) (time : Nat) :
    LimitStep d (d.exec tel (.jobStartStats g j freq gauges time)).2 k
      (limitsOf tel d k (.jobStartStats g j freq gauges time)) := by
  have hfail : (d.exec tel (.jobStartStats g j freq gauges time)).1 ≠ .ok →
      limitsOf tel d k (.jobStartStats g j freq gauges time) = [] := by
    intro hst
    refine if_neg fun hwatched => ?_
    dsimp only at hwatched
    split at hwatched
    · exact hst (of_decide_eq_true (Bool.and_eq_true_iff.mp hwatched).2)
    · exact Bool.false_ne_true hwatched
  rcases rdcJobStartStats_cases tel d g j freq gauges time with
    ⟨_, heq⟩ | ⟨_, _, heq⟩ | ⟨_, ginfo, finfo, _, _, _, heq⟩
  · refine limitStep_of_same (hfail ?_) (Or.inr ?_)
    · rw [exec, heq]
      simp
    · rw [exec, heq]
  · refine limitStep_of_same (hfail ?_) (Or.inr ?_)
    · rw [exec, heq]
      simp
    · rw [exec, heq]
  · have hwatch := limitStep_watch (d := registered d g j gauges time ginfo finfo) (k := k) hs g
      jobFieldId freq 0 0
    have hlimits : limitsOf tel d k (.jobStartStats g j freq gauges time)
        = watchLimits tel (registered d g j gauges time ginfo finfo) k g jobFieldId freq 0 0 := by
      unfold limitsOf watchLimits
      dsimp only
      rw [exec, heq]
      rfl
    rw [hlimits, exec, heq]
    exact hwatch

/-- **Step.** -/
theorem limitStep_exec (hs : OnlySupported tel d) (k : RdcFieldKey) (op : Op) :
    LimitStep d (d.exec tel op).2 k (limitsOf tel d k op) := by
  have hclient : ClientInv tel (fun _ => False) fun d' => limitsIn d' k = limitsIn d k := {
    jobs := fun _ _ h => h
    watch := fun _ _ _ _ _ h _ => h.elim
    unwatch := fun g fg now h => (limitsIn_unwatch _ g fg now k).trans h }
  have hother : limitsOf tel d k op = [] → ¬ Brings op → (∀ f, ¬ Asks f op) →
      LimitStep d (d.exec tel op).2 k (limitsOf tel d k op) := by
    intro hls hbrings hasks
    refine limitStep_of_same hls (Or.inr (hclient.exec rfl hbrings (fun f h => hasks f h) ?_))
    intro hg
    obtain ⟨gs, hgs⟩ := exec_groupCall tel d hg
    rw [hgs]
    rfl
  cases op with
  | fieldWatch g fg freq age samples => exact limitStep_watch hs g fg freq age samples
  | fieldUpdateAll now delivered clock =>
    exact limitStep_of_same rfl
      ((limitsIn_updateInv d k).updateAll (Or.inr rfl) now delivered clock)
  | notifUpdateCache events =>
    exact limitStep_of_same rfl ((limitsIn_updateInv d k).notifUpdateCache (Or.inr rfl) events)
  | jobStartStats g j freq gauges time => exact limitStep_start hs g j freq gauges time
  | _ => exact hother rfl id fun _ => id

end Limits

/-! ## The record -/

/-- The largest of each limit. -/
def Largest (held : List (Nat × ℚ)) (limits : Nat × ℚ) : Prop :=
  IsGreatest {m | m ∈ held.map Prod.fst} limits.1 ∧ IsGreatest {a | a ∈ held.map Prod.snd} limits.2

theorem largest_singleton (l : Nat × ℚ) : Largest [l] l := by
  constructor
  · simp
  · simp

variable {held : List (Nat × ℚ)}

theorem Largest.append {l₀ : Nat × ℚ} (h : Largest held l₀) (l : Nat × ℚ) :
    Largest (held ++ [l]) (mergeLimits l (some l₀)) := by
  unfold Largest
  rw [List.map_append, List.map_append]
  exact ⟨Extremes.isGreatest_append h.1 l.1, Extremes.isGreatest_append h.2 l.2⟩

/-- What the record of `k` knows about the watches: the largest of their limits. -/
def Merged (k : RdcFieldKey) (d : Daemon) (held : List (Nat × ℚ)) : Prop :=
  match limitsIn d k with
  | none => held = []
  | some limits => Largest held limits

theorem mem_fieldsToWatch_iff {d : Daemon} {k : RdcFieldKey} :
    k ∈ d.fieldsToWatch ↔ limitsIn d k ≠ none := by
  unfold limitsIn
  rw [ne_eq, Option.map_eq_none_iff, ← not_mem_iff_getElem?, not_not]

theorem Merged.step {k : RdcFieldKey} {d d' : Daemon} {held ls : List (Nat × ℚ)}
    (h : Merged k d held) (hstep : LimitStep d d' k ls) :
    Merged k d' (if k ∈ d'.fieldsToWatch then held ++ ls else []) := by
  unfold Merged at h ⊢
  by_cases hnone : limitsIn d' k = none
  · rw [if_neg fun hmem => mem_fieldsToWatch_iff.mp hmem hnone, hnone]
  rw [if_pos (mem_fieldsToWatch_iff.mpr hnone)]
  rcases hstep with hgone | ⟨hls, hsame⟩ | ⟨l, hls, hmerge⟩
  · exact absurd hgone hnone
  · rw [hls, List.append_nil, hsame]
    exact h
  · rw [hls, hmerge]
    cases hold : limitsIn d k with
    | none =>
      rw [hold] at h
      rw [show held = [] from h]
      exact largest_singleton l
    | some l₀ =>
      rw [hold] at h
      exact Largest.append h l

/-- **The record knows the largest limits of the watches since it was made.** -/
theorem merged_run (tel : Telemetry) (k : RdcFieldKey) (ops : List Op) {d : Daemon}
    (hs : OnlySupported tel d) (h : Merged k d held) :
    Merged k (run (exec tel) d ops) (limitsSince tel k d held ops) := by
  induction ops generalizing d held with
  | nil => exact h
  | cons op ops ih => exact ih (onlySupported_exec op hs) (h.step (limitStep_exec hs k op))

theorem merged_init (k : RdcFieldKey) : Merged k init [] := by
  have hnone : limitsIn init k = none := by
    unfold limitsIn
    rw [Option.map_eq_none_iff]
    exact Std.ExtTreeMap.getElem?_empty
  unfold Merged
  rw [hnone]

/-! ## What a clean-up takes away -/

/-- The daemon with another cache. -/
def withCache (d : Daemon) (c : CacheManager) : Daemon := { d with cacheMgr := c }

/-- The eviction of `k` in a clean-up has a result, and takes away only samples older than `age`. -/
def TakesOnlyOld (d : Daemon) (clock : CleanUpClock) (k : RdcFieldKey) (age : ℚ) : Prop :=
  (∀ r, d.fieldsToWatch[k]? = some r →
      d.cacheMgr.evictCache k.1 k.2 r.maxKeepSamples r.maxKeepAge (clock.evict k) ≠ none)
    ∧ ∃ gone, samplesOf d k = gone ++ samplesOf (d.cleanUp clock) k
      ∧ ∀ x ∈ gone, (x.lastTime : ℚ) + 1000 * age < clock.evict k

/-- How many of `size` samples are beyond a limit, in 32 bits with a sign: from two to the 31st on
it is none. -/
def surplus (size limit : Nat) : Nat :=
  if (size - limit) % 2 ^ 32 < 2 ^ 31 then (size - limit) % 2 ^ 32 else 0

theorem toNat_itemRemove {n m : Nat} (h : m ≤ n + 2 ^ 31) :
    (CacheManager.itemRemove n m).toNat = surplus n m := by
  unfold CacheManager.itemRemove surplus
  rw [Int.bmod_def]
  split <;> split <;> omega

theorem exists_record_of_largest {tel : Telemetry} {ops : List Op} {k : RdcFieldKey}
    {limits : Nat × ℚ} (h : Largest (limitsSince tel k init [] ops) limits) :
    limitsIn (run (exec tel) init ops) k = some limits := by
  have hmerged := merged_run tel k ops (onlySupported_init tel) (merged_init k)
  unfold Merged at hmerged
  cases hin : limitsIn (run (exec tel) init ops) k with
  | none =>
    rw [hin] at hmerged
    have hmem := h.1.1
    rw [show limitsSince tel k init [] ops = [] from hmerged] at hmem
    exact absurd hmem List.not_mem_nil
  | some limits' =>
    rw [hin] at hmerged
    exact congrArg some (Prod.ext (hmerged.1.unique h.1) (hmerged.2.unique h.2))

/-- **A clean-up keeps what is young exactly if** the largest number among the limits is not too far
above the number of samples, and the samples beyond that number are too old anyway. It makes no
difference whether one of the limits is zero. -/
theorem takesOnlyOld_iff (tel : Telemetry) (ops : List Op) (k : RdcFieldKey) (samples : Nat)
    (hsamples : samples < 2 ^ 32) (age : ℚ)
    (hlargest : Largest (limitsSince tel k init [] ops) (samples, age))
    (c : CacheManager) (clock : CleanUpClock) :
    TakesOnlyOld (withCache (run (exec tel) init ops) c) clock k age
      ↔ (c.history k.1 k.2 ≠ [] → samples ≤ (c.history k.1 k.2).length + 2 ^ 31)
        ∧ ∀ x ∈ (c.history k.1 k.2).take (surplus (c.history k.1 k.2).length samples),
          (x.lastTime : ℚ) + 1000 * age < clock.evict k := by
  have hlimits := exists_record_of_largest hlargest
  unfold limitsIn at hlimits
  obtain ⟨r, hr, hboth⟩ := Option.map_eq_some_iff.mp hlimits
  obtain ⟨rfl, rfl⟩ := Prod.mk.inj hboth
  have hr' : (withCache (run (exec tel) init ops) c).fieldsToWatch[k]? = some r := hr
  -- the eviction has a result if the range to erase ends in the list
  have hdefined : (∀ r, (withCache (run (exec tel) init ops) c).fieldsToWatch[k]? = some r →
        c.evictCache k.1 k.2 r.maxKeepSamples r.maxKeepAge (clock.evict k) ≠ none)
      ↔ (c.history k.1 k.2 ≠ [] → r.maxKeepSamples ≤ (c.history k.1 k.2).length + 2 ^ 31) := by
    simp only [hr', Option.some.injEq, forall_eq', ← Option.isSome_iff_ne_none,
      isSome_evictCache_iff]
    refine imp_congr_right fun _ => ?_
    rcases itemRemove_cases (n := (c.history k.1 k.2).length) hsamples with
      ⟨hfar, hover⟩ | ⟨hle, -, heq⟩ | ⟨hmany, hless⟩ <;> omega
  have hclean := samplesOf_cleanUp (withCache (run (exec tel) init ops) c) clock k
  rw [hr'] at hclean
  unfold TakesOnlyOld
  rw [show (withCache (run (exec tel) init ops) c).cacheMgr = c from rfl, hdefined]
  refine and_congr_right fun hle => ?_
  by_cases hnil : c.history k.1 k.2 = []
  · -- there is nothing to take away
    have hnone : samplesOf (withCache (run (exec tel) init ops) c) k = [] := hnil
    rw [hnil, hclean, hnone]
    exact iff_of_true ⟨[], by rw [Option.elim_some, evicted_nil]; rfl, by simp⟩ (by simp)
  · have hgone := exists_gone_iff (tooOld r.maxKeepAge (clock.evict k)) (c.history k.1 k.2)
      (CacheManager.itemRemove (c.history k.1 k.2).length r.maxKeepSamples).toNat
    simp only [tooOld_iff] at hgone
    rw [← toNat_itemRemove (hle hnil), ← hgone, hclean, Option.elim_some,
      evicted_eq_dropWhile]
    rfl

/-- The power of GPU 0 is watched for a minute, without a limit on the samples. -/
def watchedWithout : List Op :=
  [.groupGpuCreate [97], .groupGpuAdd 1 0, .groupFieldCreate [rdcFiPowerUsage] [98],
    .fieldWatch 1 1 1000000 60 0]

/-- Another watch on it asks for ten samples. -/
def watchedTwice : List Op :=
  watchedWithout ++ [.groupFieldCreate [rdcFiPowerUsage] [99], .fieldWatch 1 2 1000000 30 10]

theorem takesOnlyOld_watchedTwice :
    (∃ l ∈ limitsSince Telemetry.smiOnly (0, rdcFiPowerUsage) init [] watchedTwice, l.1 = 0)
    ∧ TakesOnlyOld (withCache (run (exec Telemetry.smiOnly) init watchedTwice) oneSample)
      ⟨2000, fun _ => 2000⟩ (0, rdcFiPowerUsage) 60 := by
  have hlimits : limitsSince Telemetry.smiOnly (0, rdcFiPowerUsage) init [] watchedTwice
      = [(0, 60), (10, 30)] := by decide +kernel
  have hlargest : Largest (limitsSince Telemetry.smiOnly (0, rdcFiPowerUsage) init [] watchedTwice)
      (10, 60) := by
    rw [hlimits]
    refine ⟨⟨by decide, ?_⟩, ⟨by decide, ?_⟩⟩
    · rintro m hm
      exact (by decide : ∀ m ∈ [(0, 60), (10, 30)].map Prod.fst, m ≤ 10) m hm
    · rintro a ha
      exact (by decide +kernel : ∀ a ∈ [((0 : Nat), (60 : ℚ)), (10, 30)].map Prod.snd, a ≤ 60) a ha
  refine ⟨by rw [hlimits]; exact ⟨(0, 60), by decide, rfl⟩, ?_⟩
  exact (takesOnlyOld_iff Telemetry.smiOnly watchedTwice (0, rdcFiPowerUsage) 10 (by decide) 60
    hlargest oneSample ⟨2000, fun _ => 2000⟩).mpr ⟨by decide +kernel, by decide +kernel⟩

/-- Alone, the watch without a limit keeps nothing. -/
theorem not_takesOnlyOld_watchedWithout :
    limitsSince Telemetry.smiOnly (0, rdcFiPowerUsage) init [] watchedWithout = [(0, 60)]
    ∧ samplesOf (withCache (run (exec Telemetry.smiOnly) init watchedWithout) oneSample)
      (0, rdcFiPowerUsage) = [⟨1000, .integer, .lInt 5⟩]
    ∧ samplesOf ((withCache (run (exec Telemetry.smiOnly) init watchedWithout) oneSample).cleanUp
      ⟨2000, fun _ => 2000⟩) (0, rdcFiPowerUsage) = []
    ∧ ¬ TakesOnlyOld (withCache (run (exec Telemetry.smiOnly) init watchedWithout) oneSample)
      ⟨2000, fun _ => 2000⟩ (0, rdcFiPowerUsage) 60 := by
  have hbefore : samplesOf (withCache (run (exec Telemetry.smiOnly) init watchedWithout) oneSample)
      (0, rdcFiPowerUsage) = [⟨1000, .integer, .lInt 5⟩] := by decide +kernel
  have hafter : samplesOf ((withCache (run (exec Telemetry.smiOnly) init watchedWithout)
      oneSample).cleanUp ⟨2000, fun _ => 2000⟩) (0, rdcFiPowerUsage) = [] := by decide +kernel
  refine ⟨by decide +kernel, hbefore, hafter, ?_⟩
  rintro ⟨-, gone, hgone, hold⟩
  rw [hbefore, hafter, List.append_nil] at hgone
  have hage := hold ⟨1000, .integer, .lInt 5⟩ (by rw [← hgone]; exact List.mem_singleton_self _)
  norm_num at hage

end Rdc.Proof
