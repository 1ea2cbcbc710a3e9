import Rdc.Proof.Retention
import Rdc.Lib.Window

/-!
# What an eviction keeps

`evict_cache` is told how many samples to keep and how old they may be. It drops from the front what
is too much, and then what is too old, and for samples in order that is the longest suffix within
both limits, provided that the first number is right (`evicted_eq`). That number passes through an
`int`: with a limit more than `2^31` above the number of samples it turns positive, and the range to
erase ends beyond the list; with `2^31` samples too many it turns negative, or too small.
-/

namespace Rdc.Proof

open Daemon OrdMap Machine Window

/-! ## One eviction -/

/-- The sample is too old. -/
def tooOld (age : ℚ) (now : Nat) (x : RdcCacheEntry) : Bool :=
  decide ((x.lastTime : ℚ) + age * 1000 < now)

theorem dropOld_eq_dropWhile (age : ℚ) (now : Nat) (xs : List RdcCacheEntry) :
    CacheManager.dropOld age now xs = xs.dropWhile (tooOld age now) := by
  induction xs with
  | nil => rfl
  | cons x xs ih =>
    rw [CacheManager.dropOld, List.dropWhile_cons, ih]
    by_cases h : (x.lastTime : ℚ) + age * 1000 ≥ now
    · rw [if_pos h, if_neg (by simpa [tooOld] using h)]
    · rw [if_neg h, if_pos (by simpa [tooOld] using h)]

theorem evicted_eq_dropWhile (samples : Nat) (age : ℚ) (now : Nat) (xs : List RdcCacheEntry) :
    evicted samples age now xs
      = (xs.drop (CacheManager.itemRemove xs.length samples).toNat).dropWhile (tooOld age now) := by
  unfold evicted
  rw [dropOld_eq_dropWhile]

/-- An eviction of samples has a result exactly if there are as many as it is to remove. -/
theorem evictCache_eq_some_iff {c c' : CacheManager} {gpu field : Nat}
    (hne : c.history gpu field ≠ []) (samples : Nat) (age : ℚ) (now : Nat) :
    c.evictCache gpu field samples age now = some (.ok, c')
      ↔ CacheManager.itemRemove (c.history gpu field).length samples
          ≤ (c.history gpu field).length
        ∧ c.evict gpu field samples age now = c' := by
  unfold CacheManager.evict
  rw [evictCache_of_ne_nil hne]
  rcases eraseFront_cases (CacheManager.itemRemove (c.history gpu field).length samples)
    (c.history gpu field) with ⟨hle, herase⟩ | ⟨hlt, herase, -⟩
  · rw [herase, and_iff_right hle]
    simp
  · rw [herase]
    exact iff_of_false (by simp) fun h => absurd h.1 (by omega)

theorem isSome_evictCache_iff (c : CacheManager) (gpu field samples : Nat) (age : ℚ) (now : Nat) :
    (c.evictCache gpu field samples age now).isSome
      ↔ (c.history gpu field ≠ [] → CacheManager.itemRemove (c.history gpu field).length samples
          ≤ (c.history gpu field).length) := by
  by_cases hnil : c.history gpu field = []
  · rw [evictCache_of_nil hnil]
    exact iff_of_true rfl fun hne => absurd hnil hne
  · rw [evictCache_of_ne_nil hnil, Option.isSome_map]
    rcases eraseFront_cases (CacheManager.itemRemove (c.history gpu field).length samples)
      (c.history gpu field) with ⟨hle, herase⟩ | ⟨hlt, herase, -⟩
    · rw [herase]
      exact iff_of_true rfl fun _ => hle
    · rw [herase]
      exact iff_of_false (by simp) fun h => absurd (h hnil) (by omega)

variable {xs : List RdcCacheEntry}

theorem ages_of_ordered (h : Ordered xs) (age : ℚ) (now : Nat) : Ages (tooOld age now) xs := by
  refine h.imp fun {x y} hle hx => ?_
  have hle' : (x.lastTime : ℚ) ≤ y.lastTime := by exact_mod_cast hle
  simp only [tooOld, decide_eq_false_iff_not, not_lt] at hx ⊢
  linarith

/-- **An eviction drops the larger of two numbers.** -/
theorem evicted_eq {samples : Nat} {age : ℚ} {now : Nat} (h : Ordered xs) :
    evicted samples age now xs
      = xs.drop (max (CacheManager.itemRemove xs.length samples).toNat
          (xs.takeWhile (tooOld age now)).length) := by
  rw [evicted_eq_dropWhile, dropWhile_drop (ages_of_ordered h age now)]

theorem itemRemove_cases {n m : Nat} (hm : m < 2 ^ 32) :
    (n + 2 ^ 31 < m ∧ n < (CacheManager.itemRemove n m).toNat)
    ∨ (m ≤ n + 2 ^ 31 ∧ n < m + 2 ^ 31 ∧ (CacheManager.itemRemove n m).toNat = n - m)
    ∨ (m + 2 ^ 31 ≤ n ∧ (CacheManager.itemRemove n m).toNat < n - m) := by
  unfold CacheManager.itemRemove
  rw [Int.bmod_def]
  split <;> omega

/-- What a list of samples is to be cut down to: at most `m` samples, none older than `age`. -/
def Allowed (m : Nat) (age : ℚ) (now : Nat) (xs : List RdcCacheEntry) : Prop :=
  xs.length ≤ m ∧ ∀ x ∈ xs, (now : ℚ) ≤ x.lastTime + 1000 * age

theorem allowed_iff {m : Nat} {age : ℚ} {now : Nat} :
    Allowed m age now xs ↔ xs.length ≤ m ∧ ∀ x ∈ xs, tooOld age now x = false := by
  unfold Allowed tooOld
  simp [mul_comm]

/-- The eviction erases nothing beyond the end of the list, and keeps what is allowed. -/
def EvictsRight (c : CacheManager) (gpu field m : Nat) (age : ℚ) (now : Nat)
    (xs : List RdcCacheEntry) : Prop :=
  ∃ c', c.evictCache gpu field m age now = some (.ok, c')
    ∧ IsLongestSuffix (Allowed m age now) xs (c'.history gpu field)

theorem tooOld_iff {age : ℚ} {now : Nat} {x : RdcCacheEntry} :
    tooOld age now x = true ↔ (x.lastTime : ℚ) + 1000 * age < now := by
  unfold tooOld
  rw [decide_eq_true_iff, mul_comm]

/-- Dropping keeps what is allowed exactly if it drops the right number. -/
theorem isLongestSuffix_drop_iff (hord : Ordered xs) (m : Nat) (age : ℚ) (now i : Nat) :
    IsLongestSuffix (Allowed m age now) xs
        (xs.drop (max i (xs.takeWhile (tooOld age now)).length))
      ↔ xs.drop (max i (xs.takeWhile (tooOld age now)).length)
        = xs.drop (max (xs.length - m) (xs.takeWhile (tooOld age now)).length) := by
  have hQ : Allowed m age now
      = fun zs => zs.length ≤ m ∧ ∀ x ∈ zs, tooOld age now x = false :=
    funext fun zs => propext allowed_iff
  have hwindow := isLongestSuffix_window (ages_of_ordered hord age now) m
  rw [← hQ] at hwindow
  exact ⟨fun h => h.unique hwindow, fun h => h ▸ hwindow⟩

/-- **An eviction is right exactly if** the limit is not too far above the number of samples, and
the number of samples not too far above the limit, unless the surplus is too old anyway. -/
theorem evictsRight_iff (c : CacheManager) (gpu field : Nat) (x : RdcCacheEntry)
    (rest : List RdcCacheEntry) (hxs : c.cacheSamples[(gpu, field)]? = some (x :: rest))
    (hord : Ordered (x :: rest)) (m : Nat) (hm : m < 2 ^ 32) (age : ℚ) (now : Nat) :
    EvictsRight c gpu field m age now (x :: rest)
      ↔ m ≤ (x :: rest).length + 2 ^ 31
        ∧ ((x :: rest).length < m + 2 ^ 31
          ∨ ∀ y ∈ (x :: rest).take ((x :: rest).length - m),
            (y.lastTime : ℚ) + 1000 * age < now) := by
  have hlist : c.history gpu field = x :: rest := by
    unfold CacheManager.history
    rw [hxs]
    rfl
  have hevict := history_evict c gpu field m age now (gpu, field)
  rw [if_pos rfl, hlist, evicted_eq hord] at hevict
  have hright : EvictsRight c gpu field m age now (x :: rest)
      ↔ CacheManager.itemRemove (x :: rest).length m ≤ (x :: rest).length
        ∧ IsLongestSuffix (Allowed m age now) (x :: rest)
          ((c.evict gpu field m age now).history gpu field) := by
    have hne : c.history gpu field ≠ [] := by
      rw [hlist]
      exact List.cons_ne_nil x rest
    unfold EvictsRight
    simp only [evictCache_eq_some_iff hne, hlist, and_assoc, exists_and_left, exists_eq_left']
  rw [hright, hevict, isLongestSuffix_drop_iff hord]
  generalize x :: rest = xs
  have htake : (xs.takeWhile (tooOld age now)).length ≤ xs.length :=
    (List.takeWhile_sublist _).length_le
  rcases itemRemove_cases (n := xs.length) hm with
    ⟨hfar, hover⟩ | ⟨hle, hlt, heq⟩ | ⟨hmany, hless⟩
  · exact iff_of_false (fun h => absurd h.1 (by omega)) fun h => absurd h.1 (by omega)
  · refine iff_of_true ⟨by omega, by rw [heq]⟩ ⟨hle, Or.inl hlt⟩
  · have hold : (∀ y ∈ xs.take (xs.length - m), (y.lastTime : ℚ) + 1000 * age < now)
        ↔ xs.length - m ≤ (xs.takeWhile (tooOld age now)).length := by
      rw [le_length_takeWhile (Nat.sub_le ..)]
      exact forall₂_congr fun y _ => tooOld_iff.symm
    rw [hold]
    constructor
    · rintro ⟨-, hdrop⟩
      have hlength := congrArg List.length hdrop
      rw [List.length_drop, List.length_drop] at hlength
      exact ⟨by omega, Or.inr (by omega)⟩
    · rintro ⟨-, hfew | hold⟩
      · omega
      · refine ⟨by omega, ?_⟩
        rw [Nat.max_eq_right hold, Nat.max_eq_right (by omega)]

/-- One sample, taken at time 1000. -/
def oneSample : CacheManager :=
  ⟨(∅ : KeyMap (List RdcCacheEntry)).insert (0, rdcFiPowerUsage) [⟨1000, .integer, .lInt 5⟩], ∅⟩

theorem evictsRight_oneSample :
    EvictsRight oneSample 0 rdcFiPowerUsage 10 60 2000 [⟨1000, .integer, .lInt 5⟩] :=
  (evictsRight_iff oneSample 0 rdcFiPowerUsage ⟨1000, .integer, .lInt 5⟩ [] (by decide +kernel)
    (List.pairwise_singleton ..) 10 (by decide) 60 2000).mpr ⟨by decide, Or.inl (by decide)⟩

/-- With the largest limit there is, two samples are to be erased where there is one. -/
theorem not_evictsRight_oneSample :
    oneSample.cacheSamples[(0, rdcFiPowerUsage)]? = some [⟨1000, .integer, .lInt 5⟩]
    ∧ CacheManager.itemRemove 1 (2 ^ 32 - 1) = 2
    ∧ oneSample.evictCache 0 rdcFiPowerUsage (2 ^ 32 - 1) 60 2000 = none
    ∧ ¬ EvictsRight oneSample 0 rdcFiPowerUsage (2 ^ 32 - 1) 60 2000
      [⟨1000, .integer, .lInt 5⟩] := by
  have hnone : oneSample.evictCache 0 rdcFiPowerUsage (2 ^ 32 - 1) 60 2000 = none := by
    decide +kernel
  refine ⟨by decide +kernel, by decide, hnone, ?_⟩
  rintro ⟨c', hsome, -⟩
  rw [hnone] at hsome
  cases hsome

end Rdc.Proof
