import Rdc.Proof.Samples
import Rdc.Proof.Summary

/-!
# Sampling rates

`rdc_field_update_all` asks telemetry for a key when the record of the key is at least its
`update_freq` old. The record carries the smallest frequency of all watchers, so no watcher waits
longer than it asked to. That no key is sampled more often is another matter: the age of a key is
kept in its record, and a record that lapsed and was cleaned up takes the age with it. The next
watcher starts a record at zero, and the key is due at once, however recent its last sample is.

The times at which values came in are noted beside the daemon (`Sampled`). The invariant is that a
record has the time of the last value of its key, or zero.
-/

namespace Rdc.Proof

open Daemon OrdMap Machine

/-! ## The daemon with the times of its values -/

/-- The daemon, and when each key was given its last value. -/
structure Sampled where
  daemon : Daemon
  lastValue : KeyMap Nat

namespace Sampled

/-- Note the time of each value. -/
def note (times : KeyMap Nat) (values : List (Nat × RdcGpuFieldValue)) : KeyMap Nat :=
  values.foldl (fun times v => times.insert v.2.key v.1) times

def init : Sampled := ⟨Daemon.init, ∅⟩

def exec (tel : Telemetry) (s : Sampled) (op : Op) : Status × Sampled :=
  ((s.daemon.exec tel op).1, ⟨(s.daemon.exec tel op).2, note s.lastValue (brought s.daemon op)⟩)

end Sampled

theorem getElem?_note (times : KeyMap Nat) (values : List (Nat × RdcGpuFieldValue))
    (k : RdcFieldKey) :
    (Sampled.note times values)[k]?
      = ((labelled k values).getLast?.map Prod.fst).or times[k]? := by
  induction values generalizing times with
  | nil => rfl
  | cons v values ih =>
    have hstep : Sampled.note times (v :: values)
        = Sampled.note (times.insert v.2.key v.1) values := rfl
    rw [hstep, ih, getElem?_insert']
    by_cases hk : v.2.key = k
    · rw [if_pos hk, labelled_cons_of_eq hk]
      cases labelled k values with
      | nil => rfl
      | cons w ws =>
        rw [List.getLast?_cons_cons, List.getLast?_cons]
        rfl
    · rw [if_neg hk, labelled_cons_of_ne hk]

/-! ## What a call does to a timestamp -/

theorem updatedAt_handleFields (d : Daemon) (values : List (Nat × RdcGpuFieldValue))
    (k : RdcFieldKey) :
    updatedAt (d.handleFields values) k
      = (updatedAt d k).map ((labelled k values).getLast?.map Prod.fst).getD := by
  unfold updatedAt
  rw [handleFields_record, Option.map_map, Option.map_map]
  rfl

variable {k : RdcFieldKey}

theorem updatedAt_of_cleanUp {d : Daemon} {clock : CleanUpClock} {u : Nat}
    (h : updatedAt (d.cleanUp clock) k = some u) : updatedAt d k = some u := by
  unfold updatedAt at h ⊢
  rw [cleanUp_record] at h
  obtain ⟨r, hr, hu⟩ := Option.map_eq_some_iff.mp h
  rw [(Option.filter_eq_some_iff.mp hr).1, Option.map_some, hu]

/-- The timestamp of a record after a call is that of the last value the call brought for the key;
if it brought none, it is the old one, or zero. -/
theorem updatedAt_exec {tel : Telemetry} {d : Daemon} {op : Op} {u : Nat}
    (h : updatedAt (d.exec tel op).2 k = some u) :
    (∀ v, (labelled k (brought d op)).getLast? = some v → u = v.1)
    ∧ ((labelled k (brought d op)).getLast? = none → u = 0 ∨ updatedAt d k = some u) := by
  -- both calls that bring something end with the record of a delivery
  have hbrings : updatedAt (d.handleFields (brought d op)) k = some u →
      (∀ v, (labelled k (brought d op)).getLast? = some v → u = v.1)
      ∧ ((labelled k (brought d op)).getLast? = none → u = 0 ∨ updatedAt d k = some u) := by
    intro hu
    rw [updatedAt_handleFields] at hu
    obtain ⟨u₀, hu₀, heq⟩ := Option.map_eq_some_iff.mp hu
    refine ⟨?_, ?_⟩
    · intro v hv
      rw [hv] at heq
      exact heq.symm
    · intro hnone
      rw [hnone] at heq
      have hu0 : u₀ = u := heq
      exact Or.inr (hu0 ▸ hu₀)
  by_cases hop : Brings op
  · cases op with
    | fieldUpdateAll now delivered clock =>
      refine hbrings ?_
      have hfetched : updatedAt (fetched d now delivered) k = some u := by
        have h' : updatedAt (d.rdcFieldUpdateAll now delivered clock).2 k = some u := h
        rw [rdcFieldUpdateAll_eq] at h'
        split at h'
        · exact updatedAt_of_cleanUp h'
        · exact h'
      unfold updatedAt at hfetched ⊢
      rw [← fetched_record]
      exact hfetched
    | notifUpdateCache events =>
      refine hbrings ?_
      have h' : updatedAt (d.rdcNotifUpdateCache events).2 k = some u := h
      rw [rdcNotifUpdateCache_eq] at h'
      exact h'
    | _ => exact absurd hop id
  · have hnone : brought d op = [] := by
      cases op <;> first | rfl | exact absurd trivial hop
    rw [hnone]
    refine ⟨fun v hv => absurd hv (by simp [labelled]), fun _ => ?_⟩
    rcases (calm_exec tel d hop).updatedAt k with heq | ⟨_, heq⟩
    · exact Or.inr (heq ▸ h)
    · rw [heq] at h
      exact Or.inl (Option.some.inj h).symm

/-- An entry that is watching after a call was watching before, or the call asked for it. -/
theorem watching_exec {tel : Telemetry} {d : Daemon} {op : Op} {e : RdcFieldGroupKey}
    {f : FieldSettings} (h : Watching (d.exec tel op).2 e f) : Watching d e f ∨ Asks f op := by
  let P : Daemon → Prop := fun d' => ∀ e f, Watching d' e f → Watching d e f ∨ Asks f op
  have hd : P d := fun e f hw => Or.inl hw
  have hupdate : UpdateInv P := {
    deliver := fun _ _ _ h => h
    cleanUp := fun _ h e f hw => h e f (watching_cleanUp.mp hw)
    log := fun _ _ h => h }
  have hclient : ClientInv tel (fun f => Asks f op) P := {
    jobs := fun _ _ h => h
    watch := by
      intro d' g fg freq age samples hask h e f hw
      rcases rdcFieldWatch_cases tel d' g fg freq age samples with
        ⟨_, _, heq⟩ | ⟨hno, _, heq⟩ | ⟨hno, _, F, calls, _, heq⟩ <;> rw [heq] at hw
      · exact h e f hw
      · exact h e f ((watching_erase hno e f).mp hw)
      · rcases (watching_entered (f := watchSettings freq age samples) rfl hno F calls e f).mp hw
          with ⟨_, hf⟩ | hw'
        · exact Or.inr (hf ▸ hask)
        · exact h e f hw'
    unwatch := fun _ _ _ h e f hw => h e f (watching_unwatch.mp hw).2 }
  by_cases hop : Brings op
  · cases op with
    | fieldUpdateAll now delivered clock => exact hupdate.updateAll hd now delivered clock e f h
    | notifUpdateCache events => exact hupdate.notifUpdateCache hd events e f h
    | _ => exact absurd hop id
  · refine hclient.exec hd hop (fun _ h => h) ?_ e f h
    intro hg e f hw
    obtain ⟨gs, hgs⟩ := exec_groupCall tel d hg
    rw [hgs] at hw
    exact Or.inl hw

/-! ## The schedule -/

/-- Frequencies are `uint64_t`, and the clock has not come to the middle of that range. -/
def InRange : Op → Prop
  | .fieldWatch _ _ updateFreq _ _ => updateFreq < 2 ^ 64
  | .jobStartStats _ _ updateFreq _ _ => updateFreq < 2 ^ 64
  | .fieldUpdateAll _ delivered _ => ∀ v ∈ delivered, v.1 < 2 ^ 63
  | .notifUpdateCache events => ∀ e ∈ events, e.field.ts < 2 ^ 63
  | _ => True

theorem InRange.asks {op : Op} {f : FieldSettings} (h : InRange op) (ha : Asks f op) :
    f.updateFreq < 2 ^ 64 := by
  cases op with
  | fieldWatch g fg freq age samples =>
    rw [show f = watchSettings freq age samples from ha]
    exact h
  | jobStartStats g j freq gauges time =>
    rw [show f = watchSettings freq 0 0 from ha]
    exact h
  | _ => exact absurd ha id

theorem InRange.brought {d : Daemon} {op : Op} (h : InRange op) {v : Nat × RdcGpuFieldValue}
    (hv : v ∈ brought d op) : v.1 < 2 ^ 63 := by
  cases op with
  | fieldUpdateAll now delivered clock =>
    unfold Proof.brought at hv
    dsimp only at hv
    split at hv
    · simp at hv
    · exact h v hv
  | notifUpdateCache events =>
    obtain ⟨e, he, heq⟩ := List.mem_map.mp hv
    rw [← heq]
    exact h e he
  | _ => exact absurd hv (by simp [Proof.brought])

/-- The records summarise the watch table, with numbers that fit, and carry the times of the last
values or zero. -/
structure Scheduled (tel : Telemetry) (s : Sampled) : Prop where
  summary : Summary tel s.daemon
  supported : OnlySupported tel s.daemon
  freq : ∀ e f, Watching s.daemon e f → f.updateFreq < 2 ^ 64
  time : ∀ k u, updatedAt s.daemon k = some u → u < 2 ^ 63
  stamp : ∀ (k : RdcFieldKey) (t u : Nat), s.lastValue[k]? = some t →
    updatedAt s.daemon k = some u → u = t ∨ u = 0

theorem scheduled_init (tel : Telemetry) : Scheduled tel Sampled.init where
  summary := summary_of_empty rfl rfl
  supported := onlySupported_init tel
  freq e f hw := by
    have h1 : (∅ : KeyMap FieldSettings)[e]? = some f := hw.1
    simp at h1
  time k u hu := by
    have h1 : (∅ : KeyMap FieldSettings)[k]?.map (·.lastUpdateTime) = some u := hu
    simp at h1
  stamp k t u ht := by
    have h1 : (∅ : KeyMap Nat)[k]? = some t := ht
    simp at h1

theorem scheduled_exec {tel : Telemetry} {s : Sampled} {op : Op} (h : Scheduled tel s)
    (hq : Quiet s.daemon op) (hr : InRange op) : Scheduled tel (Sampled.exec tel s op).2 where
  summary := summary_exec h.summary hq
  supported := onlySupported_exec op h.supported
  freq e f hw := by
    rcases watching_exec hw with hw' | hask
    · exact h.freq e f hw'
    · exact hr.asks hask
  time k u hu := by
    obtain ⟨hsome, hnone⟩ := updatedAt_exec hu
    cases hlast : (labelled k (brought s.daemon op)).getLast? with
    | none =>
      rcases hnone hlast with h0 | hold
      · omega
      · exact h.time k u hold
    | some v =>
      rw [hsome v hlast]
      exact hr.brought (List.mem_of_mem_filter (List.mem_of_getLast? hlast))
  stamp k t u ht hu := by
    obtain ⟨hsome, hnone⟩ := updatedAt_exec hu
    have ht' : (Sampled.note s.lastValue (brought s.daemon op))[k]? = some t := ht
    rw [getElem?_note] at ht'
    cases hlast : (labelled k (brought s.daemon op)).getLast? with
    | none =>
      rw [hlast] at ht'
      rcases hnone hlast with h0 | hold
      · exact Or.inr h0
      · exact h.stamp k t u ht' hold
    | some v =>
      rw [hlast] at ht'
      left
      rw [hsome v hlast]
      exact Option.some.inj ht'

/-! ## Who is served, and how often -/

/-- No watcher waits longer than it asked to: a supported key it covers is requested at `now`, or
its record is younger than the watcher's period. -/
def Served (tel : Telemetry) (d : Daemon) (now : Nat) : Prop :=
  ∀ e f, Watching d e f → ∀ k, tel.supports k.2 = true → d.groupSettings.Covers e k →
    k ∈ d.fieldsToFetch now ∨ ∃ u, updatedAt d k = some u ∧ now < u + f.updateFreq / 1000

/-- A requested key was given its last value at least the shortest period of its watchers ago, or
never. -/
def NotOversampled (s : Sampled) (now : Nat) : Prop :=
  ∀ k ∈ s.daemon.fieldsToFetch now,
    ∃ least, IsLeast (Demand s.daemon.groupSettings s.daemon.watchTable k) least
      ∧ ∀ t, s.lastValue[k]? = some t → t + least / 1000 ≤ now

/-- The same, except for a key whose record has not seen a value yet. -/
def NotOversampledByRecord (s : Sampled) (now : Nat) : Prop :=
  ∀ k ∈ s.daemon.fieldsToFetch now,
    ∃ least, IsLeast (Demand s.daemon.groupSettings s.daemon.watchTable k) least
      ∧ (updatedAt s.daemon k = some 0 ∨ ∀ t, s.lastValue[k]? = some t → t + least / 1000 ≤ now)

section Scheduled

variable {tel : Telemetry} {s : Sampled}

/-- Below the middle of the range the due time of a record does not wrap. -/
theorem u64Add_period {u freq : Nat} (hu : u < 2 ^ 63) (hf : freq < 2 ^ 64) :
    u64Add u (freq / 1000) = u + freq / 1000 := by
  unfold u64Add
  omega

theorem Scheduled.least (h : Scheduled tel s) {r : FieldSettings}
    (hr : s.daemon.fieldsToWatch[k]? = some r) (hw : r.isWatching = true) :
    IsLeast (Demand s.daemon.groupSettings s.daemon.watchTable k) r.updateFreq := by
  have hk : tel.supports k.2 = true := by
    cases hk : tel.supports k.2 with
    | true => rfl
    | false =>
      rw [h.supported k hk] at hr
      simp at hr
  have hleast := h.summary.least k hk
  rw [hr, asked_some, hw] at hleast
  exact hleast

theorem Scheduled.dueTime (h : Scheduled tel s) {r : FieldSettings}
    (hr : s.daemon.fieldsToWatch[k]? = some r) (hw : r.isWatching = true) :
    u64Add r.lastUpdateTime (r.updateFreq / 1000) = r.lastUpdateTime + r.updateFreq / 1000 := by
  obtain ⟨e, f, hwf, _, hf⟩ := mem_demand.mp (h.least hr hw).1
  exact u64Add_period (h.time k _ (updatedAt_of_record hr)) (hf ▸ h.freq e f hwf)

theorem Scheduled.served (h : Scheduled tel s) (now : Nat) : Served tel s.daemon now := by
  intro e f hw k hk hc
  have hmem : f.updateFreq ∈ Demand s.daemon.groupSettings s.daemon.watchTable k :=
    mem_demand.mpr ⟨e, f, hw, hc, rfl⟩
  -- somebody asks for the key, so it has a record and the record is on
  have hleast := h.summary.least k hk
  cases hr : s.daemon.fieldsToWatch[k]? with
  | none => exact absurd hc (h.summary.not_covers_of_none hk hr hw)
  | some r =>
    have hon : r.isWatching = true := by
      cases hon : r.isWatching with
      | true => rfl
      | false =>
        rw [hr, asked_some, hon] at hleast
        have hempty : Demand s.daemon.groupSettings s.daemon.watchTable k = ∅ := hleast
        rw [hempty] at hmem
        exact absurd hmem (Set.notMem_empty _)
    have hle : r.updateFreq ≤ f.updateFreq := (h.least hr hon).2 hmem
    by_cases hdue : r.lastUpdateTime + r.updateFreq / 1000 ≤ now
    · left
      rw [← h.dueTime hr hon] at hdue
      exact mem_fieldsToFetch.mpr ⟨r, hr, hon, hdue⟩
    · right
      refine ⟨r.lastUpdateTime, updatedAt_of_record hr, ?_⟩
      have hdiv : r.updateFreq / 1000 ≤ f.updateFreq / 1000 := Nat.div_le_div_right hle
      omega

theorem Scheduled.notOversampledByRecord (h : Scheduled tel s) (now : Nat) :
    NotOversampledByRecord s now := by
  intro k hk
  obtain ⟨r, hr, hon, hdue⟩ := mem_fieldsToFetch.mp hk
  rw [h.dueTime hr hon] at hdue
  refine ⟨r.updateFreq, h.least hr hon, ?_⟩
  have hu := updatedAt_of_record hr
  by_cases h0 : r.lastUpdateTime = 0
  · left
    rw [hu, h0]
  · right
    intro t ht
    rcases h.stamp k t r.lastUpdateTime ht hu with heq | heq
    · omega
    · exact absurd heq h0

end Scheduled

/-- **Sampling rates.** At every update of a quiet run, no watcher waits longer than it asked to,
and no key is requested before its shortest period has passed since its last value, unless its
record is new. -/
theorem rates_kept (tel : Telemetry) (ops : List Op)
    (h : Along (Sampled.exec tel) (fun s op => Quiet s.daemon op ∧ InRange op) Sampled.init ops)
    (now : Nat) :
    Served tel (run (Sampled.exec tel) Sampled.init ops).daemon now
    ∧ NotOversampledByRecord (run (Sampled.exec tel) Sampled.init ops) now := by
  have hinv : Scheduled tel (run (Sampled.exec tel) Sampled.init ops) :=
    Along.invariant (fun _ _ hs hop => scheduled_exec hs hop.1 hop.2) (scheduled_init tel) h
  exact ⟨hinv.served now, hinv.notOversampledByRecord now⟩

/-- One sample of the power of GPU 0, fetched at `time`. -/
def powerFetched (time : Nat) : Nat × RdcGpuFieldValue :=
  (time, ⟨0, rdcFiPowerUsage, 0, time, .integer, .lInt 5⟩)

/-- The power of GPU 0 is watched, once every thousand seconds, and sampled. -/
def sampledOnce : List Op :=
  [.groupGpuCreate [97], .groupGpuAdd 1 0, .groupFieldCreate [rdcFiPowerUsage] [98],
    .fieldWatch 1 1 1000000000 0 1,
    .fieldUpdateAll 1000000 [powerFetched 1000000] ⟨1000000, fun _ => 1000000⟩]

theorem quiet_sampledOnce : Along (Sampled.exec Telemetry.smiOnly)
    (fun s op => Quiet s.daemon op ∧ InRange op) Sampled.init sampledOnce := by
  refine ⟨⟨fun _ _ _ h => h, trivial⟩, ⟨quiet_of_empty rfl _, trivial⟩,
    ⟨fun _ _ _ h => h, trivial⟩, ⟨fun _ _ _ h => h, ?_⟩, ⟨fun _ _ _ h => h, ?_⟩, trivial⟩
  · show 1000000000 < 2 ^ 64
    omega
  · intro v hv
    rw [List.mem_singleton.mp hv]
    show 1000000 < 2 ^ 63
    omega

/-- The key is not requested again before its period is over. -/
theorem rates_kept_sampledOnce :
    (0, rdcFiPowerUsage) ∈ (run (Sampled.exec Telemetry.smiOnly) Sampled.init
        (sampledOnce.take 4)).daemon.fieldsToFetch 1000000
    ∧ Served Telemetry.smiOnly (run (Sampled.exec Telemetry.smiOnly) Sampled.init
        sampledOnce).daemon 1999999
    ∧ NotOversampledByRecord (run (Sampled.exec Telemetry.smiOnly) Sampled.init
        sampledOnce) 1999999 :=
  ⟨by decide +kernel, rates_kept Telemetry.smiOnly sampledOnce quiet_sampledOnce 1999999⟩

/-- The watch lapses, the record is cleaned up two seconds later, and the watch is renewed. -/
def renewed : List Op :=
  [.fieldUnwatch 1 1 1000000, .fieldUpdateAll 1002000 [] ⟨1002000, fun _ => 1002000⟩,
    .fieldWatch 1 1 1000000000 0 1]

theorem scheduled_renewed : Along (Sampled.exec Telemetry.smiOnly)
    (fun s op => (Quiet s.daemon op ∧ InRange op) ∧ Answers s.daemon op) Sampled.init
    (sampledOnce ++ renewed) := by
  refine ⟨⟨⟨fun _ _ _ h => h, trivial⟩, trivial⟩, ⟨⟨quiet_of_empty rfl _, trivial⟩, trivial⟩,
    ⟨⟨fun _ _ _ h => h, trivial⟩, trivial⟩, ⟨⟨fun _ _ _ h => h, ?_⟩, trivial⟩,
    ⟨⟨fun _ _ _ h => h, ?_⟩, ?_⟩, ⟨⟨fun _ _ _ h => h, trivial⟩, trivial⟩,
    ⟨⟨fun _ _ _ h => h, fun _ hv => absurd hv (by simp)⟩, ?_⟩,
    ⟨⟨fun _ _ _ h => h, ?_⟩, trivial⟩, trivial⟩
  · show 1000000000 < 2 ^ 64
    omega
  · intro v hv
    rw [List.mem_singleton.mp hv]
    show 1000000 < 2 ^ 63
    omega
  · decide +kernel
  · decide +kernel
  · show 1000000000 < 2 ^ 64
    omega

theorem clockForward_renewed : ClockForward (sampledOnce ++ renewed ++
    [.fieldUpdateAll 1002001 [powerFetched 1002001] ⟨1002001, fun _ => 1002001⟩]) := by
  refine ⟨0, le_rfl, 0, le_rfl, 0, le_rfl, 0, le_rfl, 1000000, ?_, 1000000, ⟨le_rfl, le_rfl⟩,
    1002000, ?_, 1002000, le_rfl, 1002001, ?_, trivial⟩
  · simp [Op.Between, powerFetched]
  · simp [Op.Between]
  · simp [Op.Between, powerFetched]

/-- The key is due right after the renewal, two seconds into a period of a thousand. -/
theorem oversampled_renewed :
    Along (Sampled.exec Telemetry.smiOnly)
      (fun s op => (Quiet s.daemon op ∧ InRange op) ∧ Answers s.daemon op) Sampled.init
      (sampledOnce ++ renewed)
    ∧ ClockForward (sampledOnce ++ renewed ++
        [.fieldUpdateAll 1002001 [powerFetched 1002001] ⟨1002001, fun _ => 1002001⟩])
    ∧ Answers (run (Sampled.exec Telemetry.smiOnly) Sampled.init (sampledOnce ++ renewed)).daemon
        (.fieldUpdateAll 1002001 [powerFetched 1002001] ⟨1002001, fun _ => 1002001⟩)
    ∧ ¬ NotOversampled (run (Sampled.exec Telemetry.smiOnly) Sampled.init
        (sampledOnce ++ renewed)) 1002001 := by
  have hreq : (run (Sampled.exec Telemetry.smiOnly) Sampled.init
      (sampledOnce ++ renewed)).daemon.fieldsToFetch 1002001 = [(0, rdcFiPowerUsage)] := by
    decide +kernel
  have hinv : Scheduled Telemetry.smiOnly (run (Sampled.exec Telemetry.smiOnly) Sampled.init
      (sampledOnce ++ renewed)) :=
    Along.invariant (fun _ _ hs hop => scheduled_exec hs hop.1.1 hop.1.2)
      (scheduled_init Telemetry.smiOnly) scheduled_renewed
  refine ⟨scheduled_renewed, clockForward_renewed, ?_, ?_⟩
  · show List.Perm [(0, rdcFiPowerUsage)] (fieldsToFetch _ _)
    rw [hreq]
  · intro h
    obtain ⟨least, hleast, hago⟩ := h (0, rdcFiPowerUsage) (by rw [hreq]; simp)
    have hrec : (run (Sampled.exec Telemetry.smiOnly) Sampled.init
        (sampledOnce ++ renewed)).daemon.fieldsToWatch[(0, rdcFiPowerUsage)]?
          = some ⟨1000000000, 1, 0, true, 0⟩ := by decide +kernel
    have hfreq : least = 1000000000 := hleast.unique (hinv.least hrec rfl)
    have hlate := hago 1000000 (by decide +kernel)
    omega

end Rdc.Proof
