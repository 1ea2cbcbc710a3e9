import Rdc.Dmon
import Rdc.Lib.HighWater
import Rdc.Proof.Drain

/-!
# The events of several GPUs

`collect_new_notifs` reads the new events of every GPU of a group, for every notification field. It
has one mark for a field and not one for a GPU and a field: when it comes to the second GPU, the
mark is past the last event of the first, and what the second GPU has reported earlier than that is
not read any more, in this call or a later one.

The inner loop is `rdc_field_get_value_since` until nothing is left, so it returns unless it meets
the largest timestamp (`drainField_returnsIff`). What the two outer loops make of it is the reader
of several sources behind one mark.
-/

namespace Rdc.Proof

open Raise HighWater

/-- Reading straight from the cache, which does not change. -/
def cacheRead : ReadSince CacheManager := fun gpu field since nextTs value c =>
  (c.rdcFieldGetValueSince gpu field since nextTs value, c)

/-- An event as it is pushed; `value` is what the buffer held in the beginning. -/
def eventOf (value : RdcFieldValue) (p : Nat × Nat × RdcCacheEntry) : NotifDevValue :=
  ⟨p.1, valueOf p.2.1 value p.2.2⟩

/-- The members of a buffer that every read overwrites do not matter. -/
theorem valueOf_congr {value value' : RdcFieldValue} (h : value.status = value'.status)
    (field : Nat) (entry : RdcCacheEntry) :
    valueOf field value entry = valueOf field value' entry := by
  unfold valueOf
  rw [h]

section Loop

variable {c : CacheManager} {value : RdcFieldValue}

/-- The loop reads from `c`, and has pushed `events` so far. -/
structure Pushed (c : CacheManager) (value : RdcFieldValue)
    (events : List (Nat × Nat × RdcCacheEntry)) (s : Notifs CacheManager) : Prop where
  daemon : s.daemon = c
  status : s.value.status = value.status
  pushed : s.pushed = events.map (eventOf value)

variable {gpu field : Nat} {events : List (Nat × Nat × RdcCacheEntry)} {s : Notifs CacheManager}

theorem drainField_found (hs : Pushed c value events s) {since next : Nat} {entry : RdcCacheEntry}
    (hscan : CacheManager.scanSince since (c.history gpu field) = some (entry, next)) (fuel : Nat) :
    ∃ s', Pushed c value (events ++ [(gpu, field, entry)]) s'
      ∧ (drainField cacheRead gpu field (fuel + 1) since).exec s
        = (drainField cacheRead gpu field fuel next).exec s' := by
  have hread := rdcFieldGetValueSince_found hscan s.nextTs s.value
  refine ⟨{ s with
    nextTs := next
    value := valueOf field s.value entry
    pushed := s.pushed ++ [⟨gpu, valueOf field s.value entry⟩] }, ⟨hs.daemon, hs.status, ?_⟩, ?_⟩
  · dsimp only
    rw [hs.pushed, List.map_append, valueOf_congr hs.status]
    rfl
  · have hcall : (readSince cacheRead gpu field since).exec s
        = (.ok .ok, { s with nextTs := next, value := valueOf field s.value entry }) := by
      unfold readSince cacheRead
      rw [Cmd.exec_atomic]
      dsimp only
      rw [hs.daemon, hread]
    rw [drainField, Cmd.exec_bind_ok hcall]
    rfl

theorem drainField_notFound (hs : Pushed c value events s) {since : Nat}
    (hscan : CacheManager.scanSince since (c.history gpu field) = none) (fuel : Nat) :
    ∃ s', Pushed c value events s'
      ∧ (drainField cacheRead gpu field (fuel + 1) since).exec s = (.ok since, s') := by
  obtain ⟨next, hread⟩ := rdcFieldGetValueSince_notFound hscan s.nextTs s.value
  refine ⟨{ s with nextTs := next }, ⟨hs.daemon, hs.status, hs.pushed⟩, ?_⟩
  have hcall : (readSince cacheRead gpu field since).exec s
      = (.ok .notFound, { s with nextTs := next }) := by
    unfold readSince cacheRead
    rw [Cmd.exec_atomic]
    dsimp only
    rw [hs.daemon, hread]
  rw [drainField, Cmd.exec_bind_ok hcall]
  rfl

theorem bump_cursorAfter {since : Nat} {entry : RdcCacheEntry} {rest : List RdcCacheEntry}
    (hentry : since ≤ entry.lastTime) (hlater : ∀ x ∈ rest, entry.lastTime < x.lastTime)
    (hmax : entry.lastTime + 1 < 2 ^ 64) :
    bump RdcCacheEntry.lastTime (cursorAfter entry rest) rest
      = bump RdcCacheEntry.lastTime since (entry :: rest) := by
  cases rest with
  | nil =>
    show (entry.lastTime + 1) % 2 ^ 64 = max since (entry.lastTime + 1)
    rw [Nat.mod_eq_of_lt hmax]
    omega
  | cons next rest =>
    have hnext := hlater next (List.mem_cons_self ..)
    show bump RdcCacheEntry.lastTime (max next.lastTime (next.lastTime + 1)) rest
      = bump RdcCacheEntry.lastTime
          (max (max since (entry.lastTime + 1)) (next.lastTime + 1)) rest
    congr 1
    omega

theorem drainField_increasing (after before : List RdcCacheEntry)
    (heq : c.history gpu field = before ++ after) (since : Nat)
    (hbefore : ∀ x ∈ before, x.lastTime < since) (hafter : ∀ x ∈ after, since ≤ x.lastTime)
    (hinc : after.Pairwise fun x y => x.lastTime < y.lastTime)
    (hmax : ∀ x ∈ after, x.lastTime + 1 < 2 ^ 64) (hs : Pushed c value events s) (fuel : Nat) :
    ReturnsIff (after.length < fuel) (drainField cacheRead gpu field fuel since) s fun mark s' =>
      mark = bump RdcCacheEntry.lastTime since after
        ∧ Pushed c value (events ++ after.map fun x => (gpu, field, x)) s' := by
  -- by induction on what is left to read; each read moves one event from `after` to `before`
  induction after generalizing before since events s fuel with
  | nil =>
    cases fuel with
    | zero => exact Nat.lt_irrefl 0
    | succ fuel =>
      have hscan : CacheManager.scanSince since (c.history gpu field) = none := by
        rw [heq, scanSince_append hbefore, scanSince_nil]
      obtain ⟨s', hs', hexec⟩ := drainField_notFound hs hscan fuel
      unfold ReturnsIff
      rw [hexec]
      exact ⟨Nat.succ_pos _, rfl, by simpa using hs'⟩
  | cons entry rest ih =>
    cases fuel with
    | zero => exact Nat.not_lt_zero _
    | succ fuel =>
      have hentry := hafter entry (List.mem_cons_self ..)
      obtain ⟨hlater, hinc'⟩ := List.pairwise_cons.mp hinc
      have hlast := hmax entry (List.mem_cons_self ..)
      have hscan : CacheManager.scanSince since (c.history gpu field)
          = some (entry, cursorAfter entry rest) := by
        rw [heq, scanSince_append hbefore, scanSince_cons hentry]
      have hcursor := lt_cursorAfter hlater hlast
      have hbefore' := forall_lt_concat hbefore hentry hcursor
      obtain ⟨s', hs', hexec⟩ := drainField_found hs hscan fuel
      have hrest := ih (before ++ [entry]) (by rw [heq]; simp) (cursorAfter entry rest) hbefore'
        (fun x hx => cursorAfter_le entry (hinc'.imp Nat.le_of_lt) hx) hinc'
        (fun x hx => hmax x (List.mem_cons_of_mem _ hx)) hs' fuel
      unfold ReturnsIff at hrest ⊢
      rw [hexec]
      refine ReturnsIff.congr hrest (by simp) ?_
      intro mark s'' hmark
      refine ⟨hmark.1.trans (bump_cursorAfter hentry hlater hlast), ?_⟩
      simpa using hmark.2

/-- Behind the largest timestamp the loop begins again. -/
theorem drainField_never (bound : Nat) (hstep : ∀ since, since ≤ bound → ∃ entry next,
      CacheManager.scanSince since (c.history gpu field) = some (entry, next) ∧ next ≤ bound)
    (hs : Pushed c value events s) (fuel : Nat) {since : Nat} (hsince : since ≤ bound)
    (Q : Nat → Notifs CacheManager → Prop) :
    ReturnsIff False (drainField cacheRead gpu field fuel since) s Q := by
  induction fuel generalizing events s since with
  | zero => exact id
  | succ fuel ih =>
    obtain ⟨entry, next, hscan, hnext⟩ := hstep since hsince
    obtain ⟨s', hs', hexec⟩ := drainField_found hs hscan fuel
    have hrest := ih hs' hnext
    unfold ReturnsIff at hrest ⊢
    rwa [hexec]

/-- The loop returns if it has enough turns and does not meet the largest timestamp. -/
def Drainable (fuel : Nat) (xs : List RdcCacheEntry) : Prop :=
  (∀ x ∈ xs, x.lastTime + 1 < 2 ^ 64) ∧ xs.length < fuel

/-- The events of the cache have increasing timestamps of 64 bits. -/
def Increasing (xs : List RdcCacheEntry) : Prop :=
  xs.Pairwise (fun x y => x.lastTime < y.lastTime) ∧ ∀ x ∈ xs, x.lastTime < 2 ^ 64

/-- **The inner loop.** -/
theorem drainField_returnsIff (hinc : Increasing (c.history gpu field))
    (hs : Pushed c value events s) (fuel mark : Nat) :
    ReturnsIff (Drainable fuel (fresh c.history RdcCacheEntry.lastTime gpu (field, mark)))
      (drainField cacheRead gpu field fuel mark) s fun mark' s' =>
        (field, mark') = advance c.history RdcCacheEntry.lastTime gpu (field, mark)
          ∧ Pushed c value (events ++ (fresh c.history RdcCacheEntry.lastTime gpu (field, mark)).map
              fun x => (gpu, field, x)) s' := by
  have hord : Ordered (c.history gpu field) := hinc.1.imp Nat.le_of_lt
  obtain ⟨before, heq, hbefore⟩ := ordered_split hord mark
  have hfrom : ∀ x ∈ fresh c.history RdcCacheEntry.lastTime gpu (field, mark),
      mark ≤ x.lastTime := fun x hx => (mem_fresh.mp hx).2
  by_cases hmax : ∀ x ∈ fresh c.history RdcCacheEntry.lastTime gpu (field, mark),
      x.lastTime + 1 < 2 ^ 64
  · refine (drainField_increasing (fresh c.history RdcCacheEntry.lastTime gpu (field, mark)) before
      heq mark hbefore hfrom (hinc.1.filter _) hmax hs fuel).congr ?_ ?_
    · exact ⟨fun hlt => ⟨hmax, hlt⟩, fun h => h.2⟩
    · intro mark' s' h
      exact ⟨congrArg (Prod.mk field) h.1, h.2⟩
  · push Not at hmax
    obtain ⟨x, hx, hlast⟩ := hmax
    have hstep := scanSince_of_max hord hinc.2 (mem_fresh.mp hx).1 hlast
    refine (drainField_never x.lastTime hstep hs fuel (hfrom x hx) (fun _ _ => False)).congr ?_
      fun _ _ => False.elim
    exact ⟨False.elim, fun h => absurd (h.1 x hx) (by omega)⟩

/-- **The loop over the fields.** -/
theorem drainGpu_returnsIff (hs : Pushed c value events s) (fuel : Nat) (ts : List (Nat × Nat))
    (hinc : ∀ t ∈ ts, Increasing (c.history gpu t.1)) :
    ReturnsIff (∀ t ∈ ts, Drainable fuel (fresh c.history RdcCacheEntry.lastTime gpu t))
      (drainGpu cacheRead fuel gpu ts) s fun ts' s' =>
        ts' = ts.map (advance c.history RdcCacheEntry.lastTime gpu)
          ∧ Pushed c value (events ++ dueFrom c.history RdcCacheEntry.lastTime gpu ts) s' := by
  induction ts generalizing events s with
  | nil => exact ⟨by simp, rfl, by simpa [dueFrom] using hs⟩
  | cons t ts ih =>
    obtain ⟨field, mark⟩ := t
    have hfirst := drainField_returnsIff (hinc _ (List.mem_cons_self ..)) hs fuel mark
    rw [List.forall_mem_cons]
    refine hfirst.bind ?_
    intro mark' s' h
    have hrest := ih h.2 fun t ht => hinc t (List.mem_cons_of_mem _ ht)
    refine ReturnsIff.congr (hrest.bind fun ts' s'' h' => ?_) (and_iff_left trivial)
      fun _ _ h => h
    refine ⟨trivial, ?_, ?_⟩
    · rw [h'.1, h.1]
      rfl
    · simpa [dueFrom] using h'.2

/-- **The loop over the GPUs** is the reader of several sources. -/
theorem collectNewNotifs_returnsIff (hs : Pushed c value events s) (fuel : Nat) (gpus : List Nat)
    (ts : List (Nat × Nat)) (hinc : ∀ gpu ∈ gpus, ∀ t ∈ ts, Increasing (c.history gpu t.1)) :
    ReturnsIff (Meets c.history RdcCacheEntry.lastTime (Drainable fuel) gpus ts)
      (Dmon.collectNewNotifs cacheRead fuel gpus ts) s fun _ s' =>
        Pushed c value (events ++ seen c.history RdcCacheEntry.lastTime gpus ts) s' := by
  induction gpus generalizing ts events s with
  | nil => exact ⟨trivial, by simpa [seen] using hs⟩
  | cons gpu gpus ih =>
    have hfirst := drainGpu_returnsIff hs fuel ts (hinc gpu (List.mem_cons_self ..))
    refine hfirst.bind ?_
    intro ts' s' h
    rw [h.1]
    have hrest := ih h.2 (ts.map (advance c.history RdcCacheEntry.lastTime gpu)) (by
      intro gpu' hgpu' t' ht'
      obtain ⟨t, ht, rfl⟩ := List.mem_map.mp ht'
      exact hinc gpu' (List.mem_cons_of_mem _ hgpu') t ht)
    refine hrest.congr Iff.rfl fun _ s'' h' => ?_
    simpa [seen] using h'

end Loop

/-! ## What one call pushes -/

/-- The events of every GPU that are not before the mark of their field when the call begins. -/
def newEvents (c : CacheManager) (value : RdcFieldValue) (gpus : List Nat)
    (notifTs : List (Nat × Nat)) : List NotifDevValue :=
  gpus.flatMap fun gpu => notifTs.flatMap fun t =>
    ((c.history gpu t.1).filter (t.2 ≤ ·.lastTime)).map fun x => ⟨gpu, valueOf t.1 value x⟩

/-- The call comes to an end and has pushed these events, each once. -/
def SeesEveryEvent (c : CacheManager) (gpus : List Nat) (notifTs : List (Nat × Nat))
    (nextTs : Nat) (value : RdcFieldValue) : Prop :=
  ∃ fuel marks s, (Dmon.collectNewNotifs cacheRead fuel gpus notifTs).exec ⟨c, nextTs, value, []⟩
      = (.ok marks, s)
    ∧ s.pushed.Perm (newEvents c value gpus notifTs)

theorem newEvents_eq (c : CacheManager) (value : RdcFieldValue) (gpus : List Nat)
    (notifTs : List (Nat × Nat)) :
    newEvents c value gpus notifTs
      = (due c.history RdcCacheEntry.lastTime gpus notifTs).map (eventOf value) := by
  unfold newEvents due dueFrom fresh
  simp only [List.map_flatMap, List.map_map]
  rfl

/-- What is due from one GPU for one field is at most what is due. -/
theorem length_fresh_le_due {c : CacheManager} {gpus : List Nat} {notifTs : List (Nat × Nat)}
    {gpu : Nat} (hgpu : gpu ∈ gpus) {t : Nat × Nat} (ht : t ∈ notifTs) :
    (fresh c.history RdcCacheEntry.lastTime gpu t).length
      ≤ (due c.history RdcCacheEntry.lastTime gpus notifTs).length := by
  have hfrom := (List.sublist_flatten_of_mem (List.mem_map_of_mem hgpu
    (f := fun g => dueFrom c.history RdcCacheEntry.lastTime g notifTs))).length_le
  have htrack := (List.sublist_flatten_of_mem (List.mem_map_of_mem ht (f := fun t =>
    (fresh c.history RdcCacheEntry.lastTime gpu t).map fun x => (gpu, t.1, x)))).length_le
  rw [List.length_map] at htrack
  exact htrack.trans hfrom

/-- **Every event is seen exactly if**, for every field, the new events of a later GPU are younger
than those of an earlier one, and none has the largest timestamp. -/
theorem seesEveryEvent_iff (c : CacheManager) (gpus : List Nat) (notifTs : List (Nat × Nat))
    (nextTs : Nat) (value : RdcFieldValue)
    (hinc : ∀ gpu ∈ gpus, ∀ t ∈ notifTs, Increasing (c.history gpu t.1)) :
    SeesEveryEvent c gpus notifTs nextTs value ↔
      ∀ t ∈ notifTs,
        (gpus.Pairwise fun gpu gpu' =>
          ∀ x ∈ (c.history gpu t.1).filter (t.2 ≤ ·.lastTime),
            ∀ y ∈ (c.history gpu' t.1).filter (t.2 ≤ ·.lastTime), x.lastTime < y.lastTime)
        ∧ ∀ gpu ∈ gpus, ∀ x ∈ (c.history gpu t.1).filter (t.2 ≤ ·.lastTime),
            x.lastTime + 1 < 2 ^ 64 := by
  have hstart : Pushed c value [] ⟨c, nextTs, value, []⟩ := ⟨rfl, rfl, rfl⟩
  have hrun := fun fuel => collectNewNotifs_returnsIff hstart fuel gpus notifTs hinc
  constructor
  · intro ⟨fuel, marks, s, hexec, hperm⟩
    obtain ⟨hmeets, hpushed⟩ := (hrun fuel).of_ok hexec
    have hlen := hperm.length_eq
    rw [hpushed.pushed, newEvents_eq, List.length_map, List.length_map, List.nil_append] at hlen
    have hsep := separated_of_length_le (Nat.le_of_eq hlen.symm)
    intro t ht
    exact ⟨hsep t ht, fun gpu hgpu => (hsep.meets_iff.mp hmeets gpu hgpu t ht).1⟩
  · intro h
    have hsep : Separated c.history RdcCacheEntry.lastTime gpus notifTs := fun t ht => (h t ht).1
    -- one turn more than there are events is enough for every loop
    have hmeets : Meets c.history RdcCacheEntry.lastTime
        (Drainable ((due c.history RdcCacheEntry.lastTime gpus notifTs).length + 1)) gpus notifTs :=
      hsep.meets_iff.mpr fun gpu hgpu t ht =>
        ⟨(h t ht).2 gpu hgpu, Nat.lt_succ_of_le (length_fresh_le_due hgpu ht)⟩
    obtain ⟨marks, s, hexec, hpushed⟩ := (hrun _).exists_ok hmeets
    refine ⟨_, marks, s, hexec, ?_⟩
    rw [hpushed.pushed, newEvents_eq, List.nil_append, seen_eq_due hsep]

/-- The cache after one event of each of two GPUs. -/
def twoGpuEvents (ts ts' : Nat) : CacheManager :=
  cacheAfter [{ vmFault ts' with gpuId := 1 }, vmFault ts]

/-- One field, not read yet. -/
def unreadVmFault : List (Nat × Nat) := [(rdcEvntNotifVmfault, 0)]

theorem history_twoGpuEvents :
    (twoGpuEvents 5 6).history 0 rdcEvntNotifVmfault = [⟨5, .string, .str [102]⟩]
    ∧ (twoGpuEvents 5 6).history 1 rdcEvntNotifVmfault = [⟨6, .string, .str [102]⟩]
    ∧ (twoGpuEvents 5 3).history 0 rdcEvntNotifVmfault = [⟨5, .string, .str [102]⟩]
    ∧ (twoGpuEvents 5 3).history 1 rdcEvntNotifVmfault = [⟨3, .string, .str [102]⟩] := by
  decide +kernel

theorem seesEveryEvent_iff_inOrder :
    (∀ gpu ∈ [0, 1], ∀ t ∈ unreadVmFault, Increasing ((twoGpuEvents 5 6).history gpu t.1))
    ∧ SeesEveryEvent (twoGpuEvents 5 6) [0, 1] unreadVmFault 0 noValue := by
  obtain ⟨h0, h1, -, -⟩ := history_twoGpuEvents
  have hinc : ∀ gpu ∈ [0, 1], ∀ t ∈ unreadVmFault,
      Increasing ((twoGpuEvents 5 6).history gpu t.1) := by
    simp [unreadVmFault, h0, h1, Increasing]
  refine ⟨hinc, (seesEveryEvent_iff _ _ _ 0 noValue hinc).mpr ?_⟩
  simp [unreadVmFault, h0, h1]

/-- The event of the second GPU is older than the mark the first one has left. -/
theorem not_seesEveryEvent_older :
    (∀ gpu ∈ [0, 1], ∀ t ∈ unreadVmFault, Increasing ((twoGpuEvents 5 3).history gpu t.1))
    ∧ ¬ SeesEveryEvent (twoGpuEvents 5 3) [0, 1] unreadVmFault 0 noValue := by
  obtain ⟨-, -, h0, h1⟩ := history_twoGpuEvents
  have hinc : ∀ gpu ∈ [0, 1], ∀ t ∈ unreadVmFault,
      Increasing ((twoGpuEvents 5 3).history gpu t.1) := by
    simp [unreadVmFault, h0, h1, Increasing]
  refine ⟨hinc, ?_⟩
  intro ⟨fuel, marks, s, hexec, hperm⟩
  -- whatever the fuel is, only one of the two events is pushed
  have hstart : Pushed (twoGpuEvents 5 3) noValue [] ⟨twoGpuEvents 5 3, 0, noValue, []⟩ :=
    ⟨rfl, rfl, rfl⟩
  obtain ⟨_, hpushed⟩ :=
    (collectNewNotifs_returnsIff hstart fuel [0, 1] unreadVmFault hinc).of_ok hexec
  have hlen := hperm.length_eq
  rw [hpushed.pushed, List.length_map] at hlen
  simp [seen, dueFrom, advance, bump, fresh, newEvents, unreadVmFault, h0, h1] at hlen

end Rdc.Proof
