import Rdc.Reader
import Rdc.Proof.Tables

/-!
# Reading by timestamps

The cursor a reader gets back is the timestamp of the next sample, or one more than that of the
last. Two things follow from its being a timestamp and not a position.

A run of samples with one timestamp cannot be read through: the first of them returns its own
timestamp as the cursor and is returned again. So the loop of a client ends, with every sample once,
exactly when the timestamps it meets increase strictly (`collect_iff_increasing`); the largest
`uint64_t` is excluded as well, since the cursor after it wraps to zero.

And a sample that is appended behind the cursor is never read. A reader loses nothing exactly when
every append is at or after its cursor (`noneLost_iff_aheadOfCursor`), which an append with the
timestamp of the newest sample is not, once the reader has that sample.
-/

namespace Rdc.Proof

open Daemon OrdMap Machine

/-! ## One call -/

/-- Nondecreasing timestamps. -/
def Ordered (xs : List RdcCacheEntry) : Prop := xs.Pairwise fun x y => x.lastTime ≤ y.lastTime

/-- The cursor that comes back with a sample that is followed by `rest`. -/
def cursorAfter (entry : RdcCacheEntry) : List RdcCacheEntry → Nat
  | [] => u64Add entry.lastTime 1
  | next :: _ => next.lastTime

variable {since : Nat} {before xs rest : List RdcCacheEntry} {entry x : RdcCacheEntry}

/-- The scan passes over what is before the cursor, and stops at the first sample that is not. -/
theorem scanSince_append (hbefore : ∀ x ∈ before, x.lastTime < since) (xs : List RdcCacheEntry) :
    CacheManager.scanSince since (before ++ xs) = CacheManager.scanSince since xs := by
  induction before with
  | nil => rfl
  | cons x before ih =>
    have hx := hbefore x (List.mem_cons_self ..)
    rw [List.cons_append, CacheManager.scanSince.eq_def]
    dsimp only
    rw [if_neg (by omega)]
    exact ih fun y hy => hbefore y (List.mem_cons_of_mem _ hy)

theorem scanSince_cons (h : since ≤ entry.lastTime) (rest : List RdcCacheEntry) :
    CacheManager.scanSince since (entry :: rest) = some (entry, cursorAfter entry rest) := by
  rw [CacheManager.scanSince.eq_def]
  dsimp only
  rw [if_pos h]
  cases rest <;> rfl

theorem scanSince_nil (since : Nat) : CacheManager.scanSince since [] = none := rfl

/-- Ordered samples are those before the cursor, then the others. -/
theorem ordered_split (h : Ordered xs) (since : Nat) :
    ∃ before, xs = before ++ xs.filter (since ≤ ·.lastTime) ∧ ∀ x ∈ before, x.lastTime < since := by
  induction xs with
  | nil => exact ⟨[], rfl, by simp⟩
  | cons x xs ih =>
    obtain ⟨hx, hxs⟩ := List.pairwise_cons.mp h
    by_cases hlt : x.lastTime < since
    · obtain ⟨before, heq, hbefore⟩ := ih hxs
      refine ⟨x :: before, ?_, ?_⟩
      · rw [List.filter_cons_of_neg (by simpa using hlt), List.cons_append, ← heq]
      · intro y hy
        rcases List.mem_cons.mp hy with rfl | hy
        · exact hlt
        · exact hbefore y hy
    · refine ⟨[], ?_, by simp⟩
      rw [List.nil_append, List.filter_eq_self.mpr]
      intro y hy
      rcases List.mem_cons.mp hy with rfl | hy
      · simpa using hlt
      · have := hx y hy
        simp only [decide_eq_true_eq]
        omega

/-- What the caller receives for a sample. -/
def valueOf (fieldId : Nat) (value : RdcFieldValue) (entry : RdcCacheEntry) : RdcFieldValue :=
  { value with
    ts := entry.lastTime
    type := entry.type
    value :=
      if entry.type = .string then .str (strncpyWithNull entry.value.strOf rdcMaxStrLength)
      else .lInt entry.value.lIntOf
    fieldId := fieldId }

section Call

variable {c : CacheManager} {gpu field since : Nat}

theorem rdcFieldGetValueSince_found {next : Nat}
    (hscan : CacheManager.scanSince since (c.history gpu field) = some (entry, next)) (nextTs : Nat)
    (value : RdcFieldValue) :
    c.rdcFieldGetValueSince gpu field since nextTs value
      = (.ok, next, valueOf field value entry) := by
  unfold CacheManager.history at hscan
  unfold CacheManager.rdcFieldGetValueSince
  cases hget : c.cacheSamples[(gpu, field)]? with
  | none =>
    rw [hget] at hscan
    exact absurd hscan (by simp [scanSince_nil])
  | some samples =>
    rw [hget, Option.getD_some] at hscan
    cases samples with
    | nil => exact absurd hscan (by simp [scanSince_nil])
    | cons first samples =>
      simp only [hscan]
      rfl

theorem rdcFieldGetValueSince_notFound
    (hscan : CacheManager.scanSince since (c.history gpu field) = none)
    (nextTs : Nat) (value : RdcFieldValue) :
    ∃ next, c.rdcFieldGetValueSince gpu field since nextTs value = (.notFound, next, value) := by
  unfold CacheManager.history at hscan
  unfold CacheManager.rdcFieldGetValueSince
  cases hget : c.cacheSamples[(gpu, field)]? with
  | none => exact ⟨nextTs, rfl⟩
  | some samples =>
    rw [hget, Option.getD_some] at hscan
    cases samples with
    | nil => exact ⟨nextTs, rfl⟩
    | cons first samples => exact ⟨since, by simp only [hscan]⟩

end Call

theorem forall_lt_concat {next : Nat} (hbefore : ∀ x ∈ before, x.lastTime < since)
    (hentry : since ≤ entry.lastTime) (hnext : entry.lastTime < next) :
    ∀ x ∈ before ++ [entry], x.lastTime < next := by
  intro x hx
  rcases List.mem_append.mp hx with hx | hx
  · exact (hbefore x hx).trans_le (hentry.trans hnext.le)
  · rw [List.mem_singleton.mp hx]
    exact hnext

theorem cursorAfter_le (entry : RdcCacheEntry) (h : Ordered rest) (hx : x ∈ rest) :
    cursorAfter entry rest ≤ x.lastTime := by
  cases rest with
  | nil => simp at hx
  | cons next rest =>
    rcases List.mem_cons.mp hx with rfl | hx
    · exact Nat.le_refl _
    · exact (List.pairwise_cons.mp h).1 x hx

/-- Before a later sample, or none, the cursor is past the one that was returned. -/
theorem lt_cursorAfter (hlater : ∀ x ∈ rest, entry.lastTime < x.lastTime)
    (hmax : entry.lastTime + 1 < 2 ^ 64) : entry.lastTime < cursorAfter entry rest := by
  cases rest with
  | nil =>
    show entry.lastTime < (entry.lastTime + 1) % 2 ^ 64
    rw [Nat.mod_eq_of_lt hmax]
    omega
  | cons next rest => exact hlater next (List.mem_cons_self ..)

/-! ## Reading to the end -/

section Collect

variable {c : CacheManager} {gpu field : Nat}

theorem collect_found {next : Nat}
    (hscan : CacheManager.scanSince since (c.history gpu field) = some (entry, next))
    (fuel nextTs : Nat) (value : RdcFieldValue) :
    collectNewNotifs c gpu field (fuel + 1) since nextTs value
      = (collectNewNotifs c gpu field fuel next next (valueOf field value entry)).map
          (valueOf field value entry :: ·) := by
  rw [collectNewNotifs, rdcFieldGetValueSince_found hscan]

theorem collect_notFound (hscan : CacheManager.scanSince since (c.history gpu field) = none)
    (fuel nextTs : Nat) (value : RdcFieldValue) :
    collectNewNotifs c gpu field (fuel + 1) since nextTs value = some [] := by
  obtain ⟨next, hcall⟩ := rdcFieldGetValueSince_notFound hscan nextTs value
  rw [collectNewNotifs, hcall]

/-- Strictly increasing samples from the cursor on are read one by one. -/
theorem collect_increasing (after before : List RdcCacheEntry)
    (heq : c.history gpu field = before ++ after) (since : Nat)
    (hbefore : ∀ x ∈ before, x.lastTime < since)
    (hafter : ∀ x ∈ after, since ≤ x.lastTime)
    (hinc : after.Pairwise fun x y => x.lastTime < y.lastTime)
    (hmax : ∀ x ∈ after, x.lastTime + 1 < 2 ^ 64) (nextTs : Nat) (value : RdcFieldValue) :
    collectNewNotifs c gpu field (after.length + 1) since nextTs value
      = some (after.map (valueOf field value)) := by
  -- by induction on what is left to read; each call moves one sample from `after` to `before`
  induction after generalizing before since nextTs value with
  | nil =>
    refine collect_notFound ?_ 0 nextTs value
    rw [heq, scanSince_append hbefore, scanSince_nil]
  | cons entry rest ih =>
    have hentry := hafter entry (List.mem_cons_self ..)
    obtain ⟨hlater, hinc'⟩ := List.pairwise_cons.mp hinc
    have hscan : CacheManager.scanSince since (c.history gpu field)
        = some (entry, cursorAfter entry rest) := by
      rw [heq, scanSince_append hbefore, scanSince_cons hentry]
    have hcursor := lt_cursorAfter hlater (hmax entry (List.mem_cons_self ..))
    have hbefore' := forall_lt_concat hbefore hentry hcursor
    have hrest := ih (before ++ [entry]) (by rw [heq]; simp) (cursorAfter entry rest) hbefore'
      (fun x hx => cursorAfter_le entry (hinc'.imp Nat.le_of_lt) hx) hinc'
      (fun x hx => hmax x (List.mem_cons_of_mem _ hx))
      (cursorAfter entry rest) (valueOf field value entry)
    rw [List.length_cons, collect_found hscan, hrest]
    rfl

/-- A bound below which every call finds a sample and returns a cursor keeps the loop going. -/
theorem collect_never_ends (bound : Nat) (hstep : ∀ since, since ≤ bound → ∃ entry next,
      CacheManager.scanSince since (c.history gpu field) = some (entry, next) ∧ next ≤ bound)
    (fuel : Nat) (hsince : since ≤ bound) (nextTs : Nat) (value : RdcFieldValue) :
    collectNewNotifs c gpu field fuel since nextTs value = none := by
  induction fuel generalizing since nextTs value with
  | zero => rfl
  | succ fuel ih =>
    obtain ⟨entry, next, hscan, hnext⟩ := hstep since hsince
    rw [collect_found hscan, ih hnext]
    rfl

/-- The scan of ordered samples finds the first one that is not before the cursor. -/
theorem scanSince_of_mem (h : Ordered xs) (hx : x ∈ xs) (since : Nat)
    (hsince : since ≤ x.lastTime) :
    ∃ entry rest, xs.filter (since ≤ ·.lastTime) = entry :: rest
      ∧ CacheManager.scanSince since xs = some (entry, cursorAfter entry rest) := by
  obtain ⟨before, heq, hbefore⟩ := ordered_split h since
  cases hf : xs.filter (since ≤ ·.lastTime) with
  | nil =>
    have hmem : x ∈ xs.filter (since ≤ ·.lastTime) :=
      List.mem_filter.mpr ⟨hx, by simpa using hsince⟩
    rw [hf] at hmem
    simp at hmem
  | cons entry rest =>
    refine ⟨entry, rest, rfl, ?_⟩
    have hentry : entry ∈ xs.filter (since ≤ ·.lastTime) := by
      rw [hf]
      exact List.mem_cons_self ..
    rw [hf] at heq
    rw [heq, scanSince_append hbefore, scanSince_cons]
    simpa using (List.mem_filter.mp hentry).2

/-- Ordered samples that do not increase strictly have two neighbours with one timestamp. -/
theorem exists_repeat (h : Ordered xs) (hno : ¬ xs.Pairwise fun x y => x.lastTime < y.lastTime) :
    ∃ before x y after, xs = before ++ x :: y :: after ∧ x.lastTime = y.lastTime := by
  induction xs with
  | nil => exact absurd List.Pairwise.nil hno
  | cons x xs ih =>
    obtain ⟨hx, hxs⟩ := List.pairwise_cons.mp h
    by_cases hinc : xs.Pairwise fun x y => x.lastTime < y.lastTime
    · cases xs with
      | nil => exact absurd (List.pairwise_singleton _ x) hno
      | cons y after =>
        refine ⟨[], x, y, after, rfl, ?_⟩
        by_contra hne
        refine hno (List.pairwise_cons.mpr ⟨?_, hinc⟩)
        intro z hz
        have hxy := hx y (List.mem_cons_self ..)
        rcases List.mem_cons.mp hz with rfl | hz
        · omega
        · have hyz := (List.pairwise_cons.mp hinc).1 z hz
          omega
    · obtain ⟨before, x', y, after, heq, hts⟩ := ih hxs hinc
      exact ⟨x :: before, x', y, after, by rw [heq]; rfl, hts⟩

/-- Nothing at or before a repeated timestamp gets the cursor past it. -/
theorem cursorAfter_le_repeat {rest before after : List RdcCacheEntry} {x y : RdcCacheEntry}
    (h : Ordered (entry :: rest)) (heq : entry :: rest = before ++ x :: y :: after)
    (hts : x.lastTime = y.lastTime) : cursorAfter entry rest ≤ x.lastTime := by
  cases before with
  | nil =>
    have hrest : rest = y :: after := (List.cons.inj heq).2
    rw [hrest]
    show y.lastTime ≤ _
    omega
  | cons b before =>
    have hrest : rest = before ++ x :: y :: after := (List.cons.inj heq).2
    exact cursorAfter_le entry (List.pairwise_cons.mp h).2 (by rw [hrest]; simp)

/-- A repeated timestamp at or after the cursor is never passed. -/
theorem collect_none_of_repeat (hord : Ordered (c.history gpu field))
    {before after : List RdcCacheEntry} {x y : RdcCacheEntry}
    (heq : c.history gpu field = before ++ x :: y :: after) (hxy : x.lastTime = y.lastTime)
    (fuel : Nat) (hsince : since ≤ x.lastTime) (nextTs : Nat) (value : RdcFieldValue) :
    collectNewNotifs c gpu field fuel since nextTs value = none := by
  refine collect_never_ends x.lastTime ?_ fuel hsince nextTs value
  intro s hs
  have hx : x ∈ c.history gpu field := by rw [heq]; simp
  obtain ⟨entry, rest, hf, hscan⟩ := scanSince_of_mem hord hx s hs
  refine ⟨entry, _, hscan, ?_⟩
  have hordf : Ordered (entry :: rest) := by
    rw [← hf]
    exact List.Pairwise.filter _ hord
  -- the two neighbours are still neighbours among what is not before the cursor
  have hsplit : entry :: rest
      = before.filter (s ≤ ·.lastTime) ++ x :: y :: after.filter (s ≤ ·.lastTime) := by
    rw [← hf, heq, List.filter_append, List.filter_cons_of_pos (by simpa using hs),
      List.filter_cons_of_pos (by simpa [← hxy] using hs)]
  exact cursorAfter_le_repeat hordf hsplit hxy

/-- The cursor after the largest timestamp is zero again. -/
theorem scanSince_of_max (hord : Ordered (c.history gpu field))
    (hts : ∀ x ∈ c.history gpu field, x.lastTime < 2 ^ 64) (hx : x ∈ c.history gpu field)
    (hmax : 2 ^ 64 ≤ x.lastTime + 1) (since : Nat) (hsince : since ≤ x.lastTime) :
    ∃ entry next, CacheManager.scanSince since (c.history gpu field) = some (entry, next)
      ∧ next ≤ x.lastTime := by
  obtain ⟨entry, rest, hf, hscan⟩ := scanSince_of_mem hord hx since hsince
  refine ⟨entry, _, hscan, ?_⟩
  cases rest with
  | nil =>
    show (entry.lastTime + 1) % 2 ^ 64 ≤ x.lastTime
    omega
  | cons next rest =>
    have hnext : next ∈ (c.history gpu field).filter (since ≤ ·.lastTime) := by rw [hf]; simp
    have := hts next (List.mem_filter.mp hnext).1
    show next.lastTime ≤ x.lastTime
    omega

theorem collect_none_of_max (hord : Ordered (c.history gpu field))
    (hts : ∀ x ∈ c.history gpu field, x.lastTime < 2 ^ 64) (hx : x ∈ c.history gpu field)
    (hmax : 2 ^ 64 ≤ x.lastTime + 1) (fuel : Nat) (hsince : since ≤ x.lastTime) (nextTs : Nat)
    (value : RdcFieldValue) : collectNewNotifs c gpu field fuel since nextTs value = none :=
  collect_never_ends x.lastTime (scanSince_of_max hord hts hx hmax) fuel hsince nextTs value

end Collect

/-- **Reading to the end.** The loop ends with every sample from `since` on, once and in order,
exactly when their timestamps increase strictly and none is the largest there is. -/
theorem collect_iff_increasing (c : CacheManager) (gpu field : Nat)
    (hord : Ordered (c.history gpu field)) (hts : ∀ x ∈ c.history gpu field, x.lastTime < 2 ^ 64)
    (since nextTs : Nat) (value : RdcFieldValue) :
    (∃ fuel, collectNewNotifs c gpu field fuel since nextTs value
      = some (((c.history gpu field).filter (since ≤ ·.lastTime)).map (valueOf field value)))
    ↔ ((c.history gpu field).filter (since ≤ ·.lastTime)).Pairwise
          (fun x y => x.lastTime < y.lastTime)
      ∧ ∀ x ∈ (c.history gpu field).filter (since ≤ ·.lastTime), x.lastTime + 1 < 2 ^ 64 := by
  obtain ⟨before, heq, hbefore⟩ := ordered_split hord since
  have hfrom : ∀ x ∈ (c.history gpu field).filter (since ≤ ·.lastTime), since ≤ x.lastTime :=
    fun x hx => by simpa using (List.mem_filter.mp hx).2
  refine ⟨?_, ?_⟩
  · rintro ⟨fuel, hfuel⟩
    refine ⟨?_, ?_⟩
    · by_contra hno
      obtain ⟨before', x, y, after, heq', hxy⟩ := exists_repeat (List.Pairwise.filter _ hord) hno
      have hx := hfrom x (by rw [heq']; simp)
      have hsplit : c.history gpu field = (before ++ before') ++ x :: y :: after := by
        rw [List.append_assoc, ← heq']
        exact heq
      rw [collect_none_of_repeat hord hsplit hxy fuel hx] at hfuel
      simp at hfuel
    · intro x hx
      by_contra hmax
      rw [collect_none_of_max hord hts (List.mem_filter.mp hx).1 (by omega) fuel (hfrom x hx)]
        at hfuel
      simp at hfuel
  · rintro ⟨hinc, hmax⟩
    exact ⟨_, collect_increasing _ before heq since hbefore hfrom hinc hmax nextTs value⟩

/-- A VM fault on GPU 0. -/
def vmFault (ts : Nat) : RdcEvntNotification :=
  ⟨0, ⟨rdcEvntNotifVmfault, 0, ts, .string, .str [102]⟩⟩

def noValue : RdcFieldValue := ⟨0, 0, 0, .integer, .lInt 0⟩

/-- The cache after one batch of events. -/
def cacheAfter (events : List RdcEvntNotification) : CacheManager :=
  (run (exec Telemetry.smiOnly) init [.notifUpdateCache events]).cacheMgr

theorem collect_twoTimes :
    ∃ fuel, collectNewNotifs (cacheAfter [vmFault 5, vmFault 6]) 0 rdcEvntNotifVmfault fuel 0 0
        noValue
      = some ((((cacheAfter [vmFault 5, vmFault 6]).history 0 rdcEvntNotifVmfault).filter
          (0 ≤ ·.lastTime)).map (valueOf rdcEvntNotifVmfault noValue)) := by
  have hhist : (cacheAfter [vmFault 5, vmFault 6]).history 0 rdcEvntNotifVmfault
      = [⟨5, .string, .str [102]⟩, ⟨6, .string, .str [102]⟩] := by decide +kernel
  refine (collect_iff_increasing (cacheAfter [vmFault 5, vmFault 6]) 0 rdcEvntNotifVmfault ?_ ?_ 0 0
    noValue).mpr ?_ <;> rw [hhist]
  · exact List.pairwise_cons.mpr ⟨by simp, List.pairwise_singleton _ _⟩
  · simp
  · simp

theorem collect_never_oneTime :
    Ordered ((cacheAfter [vmFault 5, vmFault 5]).history 0 rdcEvntNotifVmfault)
    ∧ ∀ fuel, collectNewNotifs (cacheAfter [vmFault 5, vmFault 5]) 0 rdcEvntNotifVmfault fuel 0 0
        noValue = none := by
  have hhist : (cacheAfter [vmFault 5, vmFault 5]).history 0 rdcEvntNotifVmfault
      = [] ++ ⟨5, .string, .str [102]⟩ :: ⟨5, .string, .str [102]⟩ :: [] := by decide +kernel
  have hord : Ordered ((cacheAfter [vmFault 5, vmFault 5]).history 0 rdcEvntNotifVmfault) := by
    rw [hhist]
    exact List.pairwise_cons.mpr ⟨by simp, List.pairwise_singleton _ _⟩
  exact ⟨hord, fun fuel => collect_none_of_repeat hord hhist rfl fuel (Nat.zero_le _) 0 noValue⟩

/-! ## Reading beside a writer -/

section Poll

variable {gpu field : Nat}

/-- A sample that the reader has not been given is not behind its cursor. -/
def NoneLost (gpu field : Nat) (s : Poll) : Prop :=
  ∀ (i : Nat) (entry : RdcCacheEntry), (s.cacheMgr.history gpu field)[i]? = some entry →
    i ∉ s.returned → s.cursor ≤ entry.lastTime

/-- Appends come with nondecreasing timestamps. -/
def InOrder (gpu field : Nat) (s : Poll) : PollOp → Prop
  | .updateCache ts _ _ => ∀ x ∈ s.cacheMgr.history gpu field, x.lastTime ≤ ts
  | .getValueSince => True

/-- Once the reader has been given the newest sample, an append has a later timestamp than that. The
largest timestamp is an exception: after it the cursor is zero again. -/
def AheadOfCursor (gpu field : Nat) (s : Poll) : PollOp → Prop
  | .updateCache ts _ _ => ∀ before newest,
      s.cacheMgr.history gpu field = before ++ [newest] → before.length ∈ s.returned →
        newest.lastTime + 1 < 2 ^ 64 → newest.lastTime < ts
  | .getValueSince => True

/-- The samples are ordered, and only samples that exist have been returned. The cursor starts at
zero, is never far behind the samples, and is right behind the newest once that has been
returned. -/
structure Consistent (gpu field : Nat) (s : Poll) : Prop where
  ordered : Ordered (s.cacheMgr.history gpu field)
  returned : ∀ i ∈ s.returned, i < (s.cacheMgr.history gpu field).length
  start : s.cacheMgr.history gpu field = [] → s.cursor = 0
  bounded : s.cursor < 2 ^ 64 ∨ ∃ x ∈ s.cacheMgr.history gpu field, s.cursor ≤ x.lastTime
  newest : ∀ before newest, s.cacheMgr.history gpu field = before ++ [newest] →
    before.length ∈ s.returned → newest.lastTime + 1 < 2 ^ 64 → s.cursor = newest.lastTime + 1

theorem history_updateCache (c : CacheManager) (ts : Nat) (type : RdcFieldType)
    (data : RdcFieldValueData) :
    (c.rdcUpdateCache gpu ⟨field, 0, ts, type, data⟩).2.history gpu field
      = c.history gpu field ++ [⟨ts, type, data⟩] := by
  unfold CacheManager.rdcUpdateCache CacheManager.history
  cases h : c.cacheSamples[(gpu, field)]? <;> simp [h]

theorem scanSince_some (h : Ordered xs) {since next : Nat}
    (hscan : CacheManager.scanSince since xs = some (entry, next)) :
    ∃ before rest, xs = before ++ entry :: rest ∧ (∀ x ∈ before, x.lastTime < since)
      ∧ since ≤ entry.lastTime ∧ next = cursorAfter entry rest := by
  obtain ⟨before, heq, hbefore⟩ := ordered_split h since
  cases hf : xs.filter (since ≤ ·.lastTime) with
  | nil =>
    rw [heq, hf, scanSince_append hbefore, scanSince_nil] at hscan
    simp at hscan
  | cons entry' rest =>
    have hmem : entry' ∈ xs.filter (since ≤ ·.lastTime) := by
      rw [hf]
      exact List.mem_cons_self ..
    have hle : since ≤ entry'.lastTime := by simpa using (List.mem_filter.mp hmem).2
    rw [hf] at heq
    rw [heq, scanSince_append hbefore, scanSince_cons hle] at hscan
    obtain ⟨rfl, rfl⟩ := Prod.mk.inj (Option.some.inj hscan)
    exact ⟨before, rest, heq, hbefore, hle, rfl⟩

theorem findIdx_of_split (heq : xs = before ++ entry :: rest)
    (hbefore : ∀ x ∈ before, x.lastTime < since) (hentry : since ≤ entry.lastTime) :
    xs.findIdx (since ≤ ·.lastTime) = before.length := by
  have hno : before.findIdx (since ≤ ·.lastTime) = before.length := by
    rw [List.findIdx_eq_length]
    intro x hx
    have := hbefore x hx
    simp only [decide_eq_false_iff_not]
    omega
  rw [heq, List.findIdx_append, hno, if_neg (Nat.lt_irrefl _), List.findIdx_cons]
  simp [hentry]

/-- A read returns the first sample that is not behind the cursor, or changes nothing that
matters. -/
theorem exec_getValueSince_cases (s : Poll) (h : Ordered (s.cacheMgr.history gpu field)) :
    ((s.exec gpu field .getValueSince).2.cacheMgr = s.cacheMgr
      ∧ (s.exec gpu field .getValueSince).2.cursor = s.cursor
      ∧ (s.exec gpu field .getValueSince).2.returned = s.returned)
    ∨ ∃ before entry rest, s.cacheMgr.history gpu field = before ++ entry :: rest
      ∧ (∀ x ∈ before, x.lastTime < s.cursor) ∧ s.cursor ≤ entry.lastTime
      ∧ (s.exec gpu field .getValueSince).2.cacheMgr = s.cacheMgr
      ∧ (s.exec gpu field .getValueSince).2.cursor = cursorAfter entry rest
      ∧ (s.exec gpu field .getValueSince).2.returned = before.length :: s.returned := by
  unfold Poll.exec
  cases hscan : CacheManager.scanSince s.cursor (s.cacheMgr.history gpu field) with
  | none =>
    left
    obtain ⟨next, hcall⟩ := rdcFieldGetValueSince_notFound hscan s.cursor s.value
    rw [hcall]
    exact ⟨rfl, rfl, rfl⟩
  | some found =>
    right
    obtain ⟨before, rest, heq, hbefore, hentry, hnext⟩ := scanSince_some h hscan
    refine ⟨before, found.1, rest, heq, hbefore, hentry, ?_⟩
    rw [rdcFieldGetValueSince_found hscan]
    refine ⟨rfl, hnext, ?_⟩
    show _ :: _ = _
    rw [findIdx_of_split heq hbefore hentry]

theorem consistent_exec (s : Poll) (op : PollOp) (h : Consistent gpu field s)
    (hop : InOrder gpu field s op) : Consistent gpu field (s.exec gpu field op).2 := by
  cases op with
  | updateCache ts type data =>
    have hhist : (s.exec gpu field (.updateCache ts type data)).2.cacheMgr.history gpu field
        = s.cacheMgr.history gpu field ++ [⟨ts, type, data⟩] := history_updateCache ..
    refine ⟨?_, ?_, ?_, ?_, ?_⟩
    · rw [hhist]
      refine List.pairwise_append.mpr ⟨h.ordered, List.pairwise_singleton _ _, ?_⟩
      intro x hx y hy
      rw [List.mem_singleton.mp hy]
      exact hop x hx
    · intro i hi
      have := h.returned i hi
      rw [hhist, List.length_append]
      omega
    · rw [hhist]
      simp
    · refine h.bounded.imp_right fun ⟨x, hx, hle⟩ => ⟨x, ?_, hle⟩
      rw [hhist]
      exact List.mem_append_left _ hx
    · -- the newest sample has just been appended
      intro before newest heq hret
      rw [hhist] at heq
      have hlength := h.returned _ hret
      rw [(List.append_inj' heq rfl).1] at hlength
      omega
  | getValueSince =>
    rcases exec_getValueSince_cases s h.ordered with
      ⟨hc, hcur, hret⟩ | ⟨before, entry, rest, heq, _, hle, hc, hcur, hret⟩
    · exact ⟨by rw [hc]; exact h.ordered, by rw [hc, hret]; exact h.returned,
        by rw [hc, hcur]; exact h.start, by rw [hc, hcur]; exact h.bounded,
        by rw [hc, hcur, hret]; exact h.newest⟩
    · refine ⟨by rw [hc]; exact h.ordered, ?_, by rw [hc, heq]; simp, ?_, ?_⟩
      · rw [hc, hret]
        intro i hi
        rcases List.mem_cons.mp hi with rfl | hi
        · rw [heq]
          simp
        · exact h.returned i hi
      · rw [hc, hcur, heq]
        cases rest with
        | nil => exact Or.inl (Nat.mod_lt _ (by decide))
        | cons next rest => exact Or.inr ⟨next, by simp, le_rfl⟩
      · rw [hc, hcur, hret]
        intro before' newest hnewest hmem hmax
        cases rest with
        | nil =>
          obtain ⟨-, hlast⟩ := List.append_inj' (heq.symm.trans hnewest) rfl
          obtain ⟨rfl, -⟩ := List.cons.inj hlast
          exact Nat.mod_eq_of_lt hmax
        | cons next rest =>
          -- the newest sample cannot have been returned, with the cursor not yet behind it
          exfalso
          have hlength := congrArg List.length (heq.symm.trans hnewest)
          rw [List.length_append, List.length_append, List.length_cons, List.length_cons,
            List.length_singleton] at hlength
          rcases List.mem_cons.mp hmem with hsame | hold
          · omega
          · have hord := h.ordered
            have hin : newest ∈ entry :: next :: rest := by
              refine List.mem_of_getLast? (l := entry :: next :: rest) ?_
              have hlast := congrArg List.getLast? (heq.symm.trans hnewest)
              rwa [List.getLast?_append_of_ne_nil _ (by simp), List.getLast?_concat] at hlast
            have hnew := h.newest before' newest hnewest hold hmax
            rw [heq] at hord
            have hrest := List.pairwise_cons.mp (List.pairwise_append.mp hord).2.1
            rcases List.mem_cons.mp hin with rfl | hin
            · omega
            · have := hrest.1 newest hin
              omega

/-- While no sample is lost, an append is behind the cursor only if the newest sample has been
returned: the cursor is not behind any other sample, and an append is not before any. -/
theorem cursor_le_iff {s : Poll} {ts : Nat} {type : RdcFieldType} {data : RdcFieldValueData}
    (h : Consistent gpu field s) (hop : InOrder gpu field s (.updateCache ts type data))
    (hs : NoneLost gpu field s) :
    s.cursor ≤ ts ↔ AheadOfCursor gpu field s (.updateCache ts type data) := by
  rcases List.eq_nil_or_concat (s.cacheMgr.history gpu field) with hnil | ⟨before, newest, heq⟩
  · refine iff_of_true (by rw [h.start hnil]; exact Nat.zero_le _) fun before newest heq => ?_
    rw [hnil] at heq
    simp at heq
  rw [List.concat_eq_append] at heq
  have hlast : (s.cacheMgr.history gpu field)[before.length]? = some newest := by
    rw [heq]
    simp
  have hle : newest.lastTime ≤ ts := hop newest (List.mem_of_getElem? hlast)
  have hnewest : AheadOfCursor gpu field s (.updateCache ts type data)
      ↔ (before.length ∈ s.returned → newest.lastTime + 1 < 2 ^ 64 → newest.lastTime < ts) := by
    refine ⟨fun hahead => hahead before newest heq, fun hlater before' newest' heq' => ?_⟩
    obtain ⟨rfl, hsame⟩ := List.append_inj' (heq.symm.trans heq') rfl
    rw [← (List.cons.inj hsame).1]
    exact hlater
  rw [hnewest]
  by_cases hret : before.length ∈ s.returned
  · by_cases hmax : newest.lastTime + 1 < 2 ^ 64
    · rw [h.newest before newest heq hret hmax]
      exact ⟨fun hlt _ _ => hlt, fun hlt => hlt hret hmax⟩
    · refine iff_of_true ?_ fun _ hlt => absurd hlt hmax
      rcases h.bounded with hlt | ⟨x, hx, hlow⟩
      · omega
      · exact hlow.trans (hop x hx)
  · exact iff_of_true ((hs _ newest hlast hret).trans hle) fun hmem => absurd hmem hret

/-- A read never loses a sample, and an append loses its own exactly when it is behind the
cursor. -/
theorem noneLost_exec_iff (s : Poll) (op : PollOp) (h : Consistent gpu field s)
    (hop : InOrder gpu field s op) (hs : NoneLost gpu field s) :
    NoneLost gpu field (s.exec gpu field op).2 ↔ AheadOfCursor gpu field s op := by
  cases op with
  | updateCache ts type data =>
    have hhist : (s.exec gpu field (.updateCache ts type data)).2.cacheMgr.history gpu field
        = s.cacheMgr.history gpu field ++ [⟨ts, type, data⟩] := history_updateCache ..
    rw [← cursor_le_iff h hop hs]
    refine ⟨fun hnl => ?_, fun hahead i entry hi hret => ?_⟩
    · -- the new sample cannot have been returned yet
      refine hnl (s.cacheMgr.history gpu field).length ⟨ts, type, data⟩ ?_ ?_
      · rw [hhist]
        simp
      · intro hret
        have := h.returned _ hret
        omega
    · rw [hhist, List.getElem?_append] at hi
      split at hi
      · exact hs i entry hi hret
      · have hentry := List.mem_singleton.mp (List.mem_of_getElem? hi)
        rw [hentry]
        exact hahead
  | getValueSince =>
    refine ⟨fun _ => trivial, fun _ => ?_⟩
    rcases exec_getValueSince_cases s h.ordered with
      ⟨hc, hcur, hret⟩ | ⟨before, entry, rest, heq, hbefore, -, hc, hcur, hret⟩
    · intro i x hi hnot
      rw [hc] at hi
      rw [hret] at hnot
      rw [hcur]
      exact hs i x hi hnot
    · intro i x hi hnot
      rw [hc] at hi
      rw [hret, List.mem_cons, not_or] at hnot
      have hx := hs i x hi hnot.2
      have hord := h.ordered
      rw [heq] at hi hord
      rw [hcur]
      rcases Nat.lt_or_ge i before.length with hlt | hge
      · -- samples before the one found are behind the old cursor
        rw [List.getElem?_append_left hlt] at hi
        have := hbefore x (List.mem_of_getElem? hi)
        omega
      · rw [List.getElem?_append_right hge] at hi
        obtain ⟨n, hn⟩ : ∃ n, i - before.length = n + 1 := ⟨i - before.length - 1, by omega⟩
        rw [hn, List.getElem?_cons_succ] at hi
        have hrest := (List.pairwise_cons.mp (List.pairwise_append.mp hord).2.1).2
        exact cursorAfter_le entry hrest (List.mem_of_getElem? hi)

end Poll

/-- **Reading beside a writer.** Over any interleaving with ordered appends, no sample is ever lost
exactly when no append has the timestamp of the newest sample after the reader was given that. -/
theorem noneLost_iff_aheadOfCursor (gpu field : Nat) (value : RdcFieldValue) (ops : List PollOp)
    (hord : Along (Poll.exec gpu field) (InOrder gpu field) (Poll.init value) ops) :
    (∀ done rest, ops = done ++ rest →
      NoneLost gpu field (run (Poll.exec gpu field) (Poll.init value) done))
    ↔ Along (Poll.exec gpu field) (AheadOfCursor gpu field) (Poll.init value) ops := by
  have hhist : (Poll.init value).cacheMgr.history gpu field = [] := by
    simp [Poll.init, CacheManager.init, CacheManager.history]
  refine Along.iff_forall_reached (G := Consistent gpu field)
    (fun s op h hop => consistent_exec s op h hop)
    (fun s op h hop hs => noneLost_exec_iff s op h hop hs) ?_ ?_ hord
  · refine ⟨?_, by simp [Poll.init], fun _ => rfl, Or.inl (Nat.two_pow_pos 64),
      fun _ _ _ hret => absurd hret List.not_mem_nil⟩
    rw [hhist]
    exact List.Pairwise.nil
  · intro i entry hi
    rw [hhist] at hi
    simp at hi

/-- A sample is appended and read, then one of a later millisecond. -/
def laterAppend : List PollOp :=
  [.updateCache 5 .integer (.lInt 1), .getValueSince, .updateCache 6 .integer (.lInt 2)]

theorem noneLost_laterAppend :
    NoneLost 0 rdcFiPowerUsage
      (run (Poll.exec 0 rdcFiPowerUsage) (Poll.init noValue) laterAppend) := by
  have hord : Along (Poll.exec 0 rdcFiPowerUsage) (InOrder 0 rdcFiPowerUsage) (Poll.init noValue)
      laterAppend := by
    refine ⟨?_, trivial, ?_, trivial⟩ <;> show ∀ x ∈ _, _ <;> decide +kernel
  refine (noneLost_iff_aheadOfCursor 0 rdcFiPowerUsage noValue laterAppend hord).mpr ?_
    laterAppend [] (by simp)
  refine ⟨fun _ _ _ hret => absurd hret List.not_mem_nil, trivial,
    fun before newest heq _ _ => ?_, trivial⟩
  have hone : before ++ [newest] = [⟨5, .integer, .lInt 1⟩] := heq.symm.trans (by decide +kernel)
  obtain ⟨-, hlast⟩ := List.append_inj' (hone.trans (List.nil_append _).symm) rfl
  rw [(List.cons.inj hlast).1]
  decide

/-- A sample is appended and read, then another of the same millisecond. -/
def sameMillisecond : List PollOp :=
  [.updateCache 5 .integer (.lInt 1), .getValueSince, .updateCache 5 .integer (.lInt 2)]

theorem lost_sameMillisecond :
    Along (Poll.exec 0 rdcFiPowerUsage) (InOrder 0 rdcFiPowerUsage) (Poll.init noValue)
      sameMillisecond
    ∧ ¬ NoneLost 0 rdcFiPowerUsage
      (run (Poll.exec 0 rdcFiPowerUsage) (Poll.init noValue) sameMillisecond) := by
  refine ⟨?_, fun h => ?_⟩
  · refine ⟨?_, trivial, ?_, trivial⟩ <;> show ∀ x ∈ _, _ <;> decide +kernel
  · have hcursor : ¬ (run (Poll.exec 0 rdcFiPowerUsage) (Poll.init noValue) sameMillisecond).cursor
        ≤ 5 := by decide +kernel
    exact hcursor (h 1 ⟨5, .integer, .lInt 2⟩ (by decide +kernel) (by decide +kernel))

end Rdc.Proof
