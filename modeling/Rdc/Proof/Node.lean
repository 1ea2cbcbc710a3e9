import Rdc.Proof.NodeFetch
import Rdc.Proof.NoLimit

/-!
# The modules keep what the daemon assumes of them

With the modules in the picture nothing is assumed about telemetry any more: an update delivers one
value for each field it asks for, labelled with it, and what is reported as an event is one. So a
run of the whole is a run of the daemon in which the modules answer, and on the same clock
(`node_refines`). And what is in the cache for a field is the end of the list of its successful
readings, each made by itself (`samples_are_readings`).

A run goes through if its fetches fit into the arrays, and if no watch asks for more than `2 ^ 31`
samples: the number of samples to evict is computed in 32 bits with a sign, and above that limit
it may come out greater than the number of samples there are. The records keep to the limit because
they only ever merge the limits of watches (`LimitsFit`).
-/

namespace Rdc.Proof.Closed

open Std (ExtTreeMap)
open OrdMap Daemon Machine MetricFetcher Rdc.Proof.Rocp

variable {start : Node} {tel : Telemetry}

section Whole

variable {rocp : Option RocpModule} {n : Node}

/-! ## Limits -/

section Limits

variable {tel : Telemetry} {d : Daemon}

/-- A watch asks for a number of samples that an eviction can count with. -/
def LimitFits : Op → Prop
  | .fieldWatch _ _ _ _ samples => samples ≤ 2 ^ 31
  | _ => True

/-- Every record holds such a number. -/
def LimitsFit (d : Daemon) : Prop := ∀ k l, limitsIn d k = some l → l.1 ≤ 2 ^ 31

theorem limitsOf_fits {op : Op} (hop : LimitFits op) (k : RdcFieldKey) :
    ∀ l ∈ limitsOf tel d k op, l.1 ≤ 2 ^ 31 := by
  intro l hl
  cases op with
  | fieldWatch g fg freq age samples =>
    rw [List.mem_singleton.mp (List.mem_ite_nil_right.mp hl).2]
    exact hop
  | jobStartStats g j freq gauges time =>
    -- the watch of a job asks for none
    rw [List.mem_singleton.mp (List.mem_ite_nil_right.mp hl).2]
    exact Nat.zero_le _
  | _ => exact absurd hl List.not_mem_nil

theorem limitsFit_init : LimitsFit Daemon.init := by
  intro k l hl
  have hnone : limitsIn Daemon.init k = none :=
    Option.map_eq_none_iff.mpr ExtTreeMap.getElem?_empty
  rw [hnone] at hl
  simp at hl

theorem LimitsFit.exec (h : LimitsFit d) (hs : OnlySupported tel d) {op : Op}
    (hop : LimitFits op) : LimitsFit (d.exec tel op).2 := by
  intro k l hl
  rcases limitStep_exec hs k op with hnone | ⟨-, hsame⟩ | ⟨l', hls, hmerge⟩
  · rw [hnone] at hl
    simp at hl
  · exact h k l (hsame.symm.trans hl)
  · have hl' : l'.1 ≤ 2 ^ 31 := limitsOf_fits hop k l' (hls ▸ List.mem_singleton_self l')
    obtain rfl := Option.some.inj (hmerge.symm.trans hl)
    cases hold : limitsIn d k with
    | none => exact hl'
    | some l₀ => exact max_le (h k l₀ hold) hl'

/-- Below the limit the number to remove is at most the number there is. -/
theorem evictCache_of_le (c : CacheManager) (gpu field : Nat) {samples : Nat}
    (h : samples ≤ 2 ^ 31) (age : ℚ) (now : Nat) :
    (c.evictCache gpu field samples age now).map Prod.snd
      = some (c.evict gpu field samples age now) := by
  have hsome : (c.evictCache gpu field samples age now).isSome := by
    rw [isSome_evictCache_iff]
    intro _
    have hself := Int.self_le_toNat
      (CacheManager.itemRemove (c.history gpu field).length samples)
    rcases itemRemove_cases (n := (c.history gpu field).length) (m := samples) (by omega) with
      ⟨hfar, -⟩ | ⟨-, -, heq⟩ | ⟨-, hless⟩ <;> omega
  obtain ⟨r, hr⟩ := Option.isSome_iff_exists.mp hsome
  unfold CacheManager.evict
  rw [hr]
  rfl

/-- **Run.** The evictions have a result, and it is the cache the daemon goes on with. -/
theorem evictAll_eq (clock : CleanUpClock) {records : List (RdcFieldKey × FieldSettings)}
    (h : ∀ f ∈ records, f.2.maxKeepSamples ≤ 2 ^ 31) (c : CacheManager) :
    Node.evictAll clock records c = some (records.foldl
      (fun c f => c.evict f.1.1 f.1.2 f.2.maxKeepSamples f.2.maxKeepAge (clock.evict f.1)) c) := by
  induction records generalizing c with
  | nil => rfl
  | cons f records ih =>
    have hone := evictCache_of_le c f.1.1 f.1.2 (h f (List.mem_cons_self ..)) f.2.maxKeepAge
      (clock.evict f.1)
    unfold Node.evictAll at ih ⊢
    rw [List.foldlM_cons, hone, List.foldl_cons]
    exact ih (fun f' hf' => h f' (List.mem_cons_of_mem _ hf')) _

theorem rdcFieldUpdateAll_eq_some (h : LimitsFit d) (now : Nat)
    (delivered : List (Nat × RdcGpuFieldValue)) (clock : CleanUpClock) :
    Node.rdcFieldUpdateAll d now delivered clock
      = some (d.rdcFieldUpdateAll now delivered clock).2 := by
  -- the values that were fetched do not touch the limits
  have hfetched : ∀ f ∈ (d.fetched now delivered).fieldsToWatch.toList,
      f.2.maxKeepSamples ≤ 2 ^ 31 := by
    intro f hf
    have hrecord := ExtTreeMap.mem_toList_iff_getElem?_eq_some.mp hf
    have hlimits : limitsIn (d.fetched now delivered) f.1
        = some (f.2.maxKeepSamples, f.2.maxKeepAge) := by
      unfold limitsIn
      rw [hrecord]
      rfl
    rcases (limitsIn_updateInv d f.1).fetched (Or.inr rfl) now delivered with hnone | hsame
    · rw [hnone] at hlimits
      simp at hlimits
    · exact h f.1 _ (hsame.symm.trans hlimits)
  rw [rdcFieldUpdateAll_eq]
  unfold Node.rdcFieldUpdateAll Node.cleanUp
  dsimp only
  split
  · rw [evictAll_eq clock hfetched]
    rfl
  · rfl

end Limits

/-! ## Steps -/

theorem create_wired {value : Option String} {answers : RocpAnswers} {status : Status}
    (hinit : rdcModuleInit value answers = some (status, rocp)) (bulkFetchEnabled : Bool) :
    Fresh rocp ∧ ∃ start, Node.create rocp bulkFetchEnabled = some start ∧ Wired rocp start := by
  have hfresh : Fresh rocp := fun m hm => rdcModuleInit_loaded (hm ▸ hinit)
  -- both modules fit into the array their queries are answered in
  have hfit : ∀ ptr ∈ daemonModules,
      (claimed (ProfilerSide.query rocp) ptr).length ≤ maxNumFields := by
    cases hloaded : rocp with
    | none =>
      intro ptr _
      cases ptr with
      | smi => exact (by decide : smiFields.length ≤ maxNumFields)
      | rocp => exact Nat.zero_le _
    | some m => exact length_claimed_le (hfresh m hloaded).2
  obtain ⟨dispatcher, hd, -, hrouted⟩ := create_firstClaims hfit
  refine ⟨hfresh, ⟨Daemon.init, dispatcher, ⟨MetricFetcher.init, bulkFetchEnabled,
    AmdsmiStatus.success⟩, rocp⟩, ?_, hrouted, [], ?_⟩
  · unfold Node.create
    rw [show [TelemetryLib.smi, .rocp] = daemonModules from rfl, hd]
    rfl
  · exact Option.map_id'.symm

theorem daemon_create {bulkFetchEnabled : Bool}
    (h : Node.create rocp bulkFetchEnabled = some start) : start.daemon = Daemon.init := by
  obtain ⟨dispatcher, -, rfl⟩ := Option.map_eq_some_iff.mp h
  rfl

theorem Wired.onCall (h : Wired rocp n) (counter : RdcFieldKey → CounterAnswers)
    (uninit : RdcFieldValue) (call : ModuleCall) : Wired rocp (n.onCall counter uninit call) := by
  cases call with
  | fieldsWatch fields => exact ⟨firstClaims_dispatch h.routed _, h.table⟩
  | fieldsUnwatch fields =>
    refine ⟨firstClaims_dispatch h.routed _, ?_⟩
    refine List.foldlRecOn (motive := fun r => ∃ ops, r = rocp.map fun m => withTable m ops) _ _
      h.table ?_
    rintro r ⟨ops, rfl⟩ part -
    by_cases hlib : part.1 = .rocp
    · rw [if_pos hlib, unwatch_withTable]
      exact ⟨_, rfl⟩
    · rw [if_neg hlib]
      exact ⟨ops, rfl⟩
  | _ => exact h

theorem daemon_onCall (counter : RdcFieldKey → CounterAnswers) (uninit : RdcFieldValue) (n : Node)
    (call : ModuleCall) : (n.onCall counter uninit call).daemon = n.daemon := by
  cases call <;> rfl

theorem client_wired (h : Wired rocp n) {top : Topology} {call : ClientCall}
    {counter : RdcFieldKey → CounterAnswers} {uninit : RdcFieldValue} {n' : Node}
    (hexec : n.exec tel top (.client call counter uninit) = some n') : Wired rocp n' := by
  obtain rfl := Option.some.inj hexec
  refine List.foldlRecOn (motive := Wired rocp) _ _ ⟨h.routed, h.table⟩ ?_
  exact fun n' hwired call _ => hwired.onCall counter uninit call

theorem client_daemon {top : Topology} {call : ClientCall} {counter : RdcFieldKey → CounterAnswers}
    {uninit : RdcFieldValue} {n' : Node}
    (hexec : n.exec tel top (.client call counter uninit) = some n') :
    n'.daemon = (n.daemon.exec tel call.op).2 := by
  obtain rfl := Option.some.inj hexec
  refine List.foldlRecOn (motive := fun n' : Node => n'.daemon = (n.daemon.exec tel call.op).2) _ _
    rfl ?_
  exact fun n' hd call _ => (daemon_onCall counter uninit n' call).trans hd

/-- The fetch of an update fits, and the number of samples a watch asks for does. -/
def NodeFits (rocp : Option RocpModule) (n : Node) : NodeOp → Prop
  | .client call _ _ => LimitFits call.op
  | .update now a _ => FetchFits rocp a (n.daemon.fieldsToFetch now)
  | _ => True

/-- A good value is stamped before the callback reads the clock for it. -/
def Stamped (n : Node) : NodeOp → Prop
  | .update now a _ => ∀ r, n.rdcTelemetryFieldsValueGet a (n.daemon.fieldsToFetch now) = some r →
      ∀ v ∈ Node.handledAt a.handled r.1, v.2.fieldValue.status = 0 → v.2.fieldValue.ts ≤ v.1
  | _ => True

/-- What holds in every state of a run. -/
structure Sound (rocp : Option RocpModule) (tel : Telemetry) (n : Node) : Prop where
  wired : Wired rocp n
  supported : OnlySupported tel n.daemon
  limits : LimitsFit n.daemon

/-- The good readings of a key that a step makes, each made by itself. -/
def readAt (rocp : Option RocpModule) (k : RdcFieldKey) (n : Node) : NodeOp → List RdcCacheEntry
  | .update now a _ => samplesIn k (plainReads rocp n a (n.daemon.fieldsToFetch now))
  | _ => []

/-- What a step may do to the daemon: nothing, or one operation that is answered, asks for a fitting
number of samples, and takes place in the time of the step. -/
def Answered (tel : Telemetry) (n : Node) (op : NodeOp) (d' : Daemon) : Prop :=
  d' = n.daemon ∨ ∃ dop, Answers n.daemon dop ∧ LimitFits dop
    ∧ (Stamped n op → ∀ lo hi, op.Between lo hi → dop.Between lo hi)
    ∧ d' = (n.daemon.exec tel dop).2

/-- The daemon's part of the invariant follows from what is done to it. -/
theorem Sound.of_answered (h : Sound rocp tel n) {op : NodeOp} {n' : Node} (hwired : Wired rocp n')
    (hstep : Answered tel n op n'.daemon) : Sound rocp tel n' := by
  rcases hstep with hsame | ⟨dop, -, hlimit, -, hd⟩
  · exact ⟨hwired, hsame ▸ h.supported, hsame ▸ h.limits⟩
  · exact ⟨hwired, hd ▸ onlySupported_exec dop h.supported, hd ▸ h.limits.exec h.supported hlimit⟩

theorem update_suffix (d : Daemon) (now : Nat) (delivered : List (Nat × RdcGpuFieldValue))
    (clock : Daemon.CleanUpClock) (k : RdcFieldKey) :
    samplesOf (d.rdcFieldUpdateAll now delivered clock).2 k
      <:+ samplesOf d k ++ added k (brought d (.fieldUpdateAll now delivered clock)) := by
  rw [← fetched_samples clock k, rdcFieldUpdateAll_eq]
  split
  · have hcleaned := samplesOf_cleanUp (fetched d now delivered) clock k
    show samplesOf ((fetched d now delivered).cleanUp clock) k <:+ _
    rw [hcleaned]
    cases (fetched d now delivered).fieldsToWatch[k]? with
    | none => exact List.suffix_rfl
    | some r => exact evicted_suffix ..
  · exact List.suffix_rfl

theorem client_spec (tel : Telemetry) (d : Daemon) (call : ClientCall) :
    Answers d call.op ∧ ∀ k, samplesOf (d.exec tel call.op).2 k = samplesOf d k := by
  obtain ⟨op, hclient⟩ := call
  have hbrings : ¬ Brings op := by
    intro h
    cases op <;> first | exact h | exact Bool.false_ne_true hclient
  refine ⟨?_, fun k => samplesOf_congr (calm_exec tel d hbrings).samples k⟩
  cases op <;> trivial

/-- Listening either brings nothing or notifies the cache of events, all with the time at which the
module has read the reports. -/
theorem listen_spec (tel : Telemetry) (top : Topology) (n : Node)
    (answer : Except Status (List SmiNotification)) (now : Nat) :
    let d' := (n.daemon.rdcFieldListenNotif top answer now).2
    Answered tel n (.listen answer now) d'
      ∧ ∀ k : RdcFieldKey, isNotificationEvent k.2 = false →
          samplesOf d' k = samplesOf n.daemon k := by
  intro d'
  have hcases : d' = n.daemon ∨ ∃ reported : List SmiNotification,
      d' = (n.daemon.rdcNotifUpdateCache (reported.map (top.notification now))).2 := by
    unfold d' Daemon.rdcFieldListenNotif Topology.listen
    rw [if_neg (by decide)]
    cases answer with
    | error result => cases result <;> exact .inl rfl
    | ok reported =>
      dsimp only
      split
      · exact .inl rfl
      · exact .inr ⟨_, rfl⟩
  rcases hcases with hsame | ⟨reported, hevents⟩
  · rw [hsame]
    exact ⟨.inl rfl, fun _ _ => rfl⟩
  · have hfield : ∀ e ∈ reported.map (top.notification now),
        isNotificationEvent e.field.fieldId = true := by
      intro e he
      obtain ⟨report, -, rfl⟩ := List.mem_map.mp he
      show isNotificationEvent (smiEventNotif2RdcMap report.event) = true
      cases report.event <;> decide
    have hbetween : ∀ lo hi, (NodeOp.listen answer now).Between lo hi →
        (Op.notifUpdateCache (reported.map (top.notification now))).Between lo hi := by
      rintro lo hi ⟨hlo, hhi⟩
      refine ⟨le_trans hlo hhi, fun e he => ?_⟩
      obtain ⟨report, -, rfl⟩ := List.mem_map.mp he
      exact ⟨hlo, hhi⟩
    refine ⟨.inr ⟨.notifUpdateCache _, hfield, trivial, fun _ => hbetween, hevents⟩,
      fun k hk => ?_⟩
    -- an event never lands under a telemetry key
    rw [hevents, rdcNotifUpdateCache_eq, samplesOf_handleFields, added_eq_nil, List.append_nil]
    intro v hv heq
    obtain ⟨e, he, rfl⟩ := List.mem_map.mp hv
    have hevent := hfield e he
    rw [show e.field.fieldId = k.2 from congrArg Prod.snd heq, hk] at hevent
    exact absurd hevent (by decide)

theorem map_key_handledAt (handled : Nat → Nat) (values : List RdcGpuFieldValue) :
    ((Node.handledAt handled values).map fun v => v.2.key) = values.map RdcGpuFieldValue.key := by
  conv_rhs => rw [← map_snd_handledAt handled values]
  exact (List.map_map (g := RdcGpuFieldValue.key) (f := Prod.snd)).symm

/-- The clock readings of an update are those of the daemon's: a value is handled when the callback
says so, and stamped after the update has begun because its module stamps it. -/
theorem between_update {a : FetchAnswers} {now lo hi : Nat} {clock : CleanUpClock}
    {values : List RdcGpuFieldValue} (hb : (NodeOp.update now a clock).Between lo hi)
    (hstamps : ∀ v ∈ values, v.fieldValue.status = 0 → v.fieldValue.ts ∈ stamps a)
    (hbefore : ∀ v ∈ Node.handledAt a.handled values, v.2.fieldValue.status = 0 →
      v.2.fieldValue.ts ≤ v.1) :
    (Op.fieldUpdateAll now (Node.handledAt a.handled values) clock).Between lo hi := by
  obtain ⟨hlo, hnow, ⟨hbulk, hsingle, hrocp⟩, hhandled, hhi, hevict⟩ := hb
  refine ⟨hlo, hnow, fun v hv => ?_, hhi, hevict⟩
  obtain ⟨⟨w, i⟩, hw, rfl⟩ := List.mem_map.mp hv
  refine ⟨(hhandled i).1, (hhandled i).2, fun hgood => ⟨?_, hbefore _ hv hgood⟩⟩
  rcases hstamps w (List.fst_mem_of_mem_zipIdx hw) hgood with hts | ⟨j, hts⟩ | hts
  · exact hts ▸ hbulk
  · exact hts ▸ hsingle j
  · exact hts ▸ hrocp

/-- **An update goes through**, and is one of the daemon's with what the modules bring. -/
theorem update_spec (hfresh : Fresh rocp) (top : Topology) (hsound : Sound rocp tel n) {now : Nat}
    {a : FetchAnswers} (clock : Daemon.CleanUpClock)
    (hfits : FetchFits rocp a (n.daemon.fieldsToFetch now)) :
    ∃ n', n.exec tel top (.update now a clock) = some n' ∧ Wired rocp n'
      ∧ Answered tel n (.update now a clock) n'.daemon
      ∧ ∀ k : RdcFieldKey, isNotificationEvent k.2 = false → samplesOf n'.daemon k
          <:+ samplesOf n.daemon k ++ readAt rocp k n (.update now a clock) := by
  have hwired := hsound.wired
  obtain ⟨values, n', hfetch, hwired', hperm, hsame⟩ := fetch_spec hfresh hwired hfits
  -- without anything to fetch the modules are left alone, and nothing is brought
  have hexec : ∃ n'', n.exec tel top (.update now a clock) = some n'' ∧ Wired rocp n''
      ∧ n''.daemon = (n.daemon.exec tel
          (.fieldUpdateAll now (Node.handledAt a.handled values) clock)).2 := by
    unfold Node.exec
    dsimp only
    split
    · next hnone =>
      rw [hnone] at hperm
      have hvalues : values = [] := List.map_eq_nil_iff.mp hperm.eq_nil
      rw [hvalues, rdcFieldUpdateAll_eq_some hsound.limits]
      exact ⟨_, rfl, ⟨hwired.routed, hwired.table⟩, rfl⟩
    · rw [hfetch, Option.bind_some, rdcFieldUpdateAll_eq_some hsound.limits]
      exact ⟨_, rfl, ⟨hwired'.routed, hwired'.table⟩, rfl⟩
  obtain ⟨n'', hexec, hend, hd⟩ := hexec
  have hanswers :
      Answers n.daemon (.fieldUpdateAll now (Node.handledAt a.handled values) clock) := by
    show ((Node.handledAt a.handled values).map fun v => v.2.key).Perm _
    rw [map_key_handledAt]
    exact hperm
  have hbetween : Stamped n (.update now a clock) → ∀ lo hi,
      (NodeOp.update now a clock).Between lo hi →
        (Op.fieldUpdateAll now (Node.handledAt a.handled values) clock).Between lo hi :=
    fun hstamped lo hi hb => between_update hb
      (fun v hv hgood => ts_mem_stamps hfits.resolves hsame hv hgood) (hstamped _ hfetch)
  refine ⟨n'', hexec, hend, .inr ⟨_, hanswers, trivial, hbetween, hd⟩, fun k _ => ?_⟩
  -- what the daemon is brought for the key is what was read for it, and evictions come after
  have hbrought := update_suffix n.daemon now (Node.handledAt a.handled values) clock k
  rw [brought_eq hanswers, added_handledAt, hsame] at hbrought
  rw [hd]
  exact hbrought

/-- **Step.** Every step that fits goes through and is at most one operation of the daemon. -/
theorem exec_spec (hfresh : Fresh rocp) (top : Topology) (hsound : Sound rocp tel n) {op : NodeOp}
    (hfits : NodeFits rocp n op) :
    ∃ n', n.exec tel top op = some n' ∧ Sound rocp tel n' ∧ Answered tel n op n'.daemon
      ∧ ∀ k : RdcFieldKey, isNotificationEvent k.2 = false →
          samplesOf n'.daemon k <:+ samplesOf n.daemon k ++ readAt rocp k n op := by
  have hwired := hsound.wired
  -- it is enough to see to the wires, the rest of the invariant is the daemon's
  suffices hstep : ∃ n', n.exec tel top op = some n' ∧ Wired rocp n' ∧ Answered tel n op n'.daemon
      ∧ ∀ k : RdcFieldKey, isNotificationEvent k.2 = false →
          samplesOf n'.daemon k <:+ samplesOf n.daemon k ++ readAt rocp k n op by
    obtain ⟨n', hexec, hwired', hanswered, hsamples⟩ := hstep
    exact ⟨n', hexec, hsound.of_answered hwired' hanswered, hanswered, hsamples⟩
  cases op with
  | client call counter uninit =>
    obtain ⟨hanswers, hsamples⟩ := client_spec tel n.daemon call
    obtain ⟨n', hexec⟩ : ∃ n', n.exec tel top (.client call counter uninit) = some n' := ⟨_, rfl⟩
    have hd := client_daemon hexec
    refine ⟨n', hexec, client_wired hwired hexec,
      .inr ⟨call.op, hanswers, hfits, fun _ _ _ hb => hb, hd⟩, fun k _ => ?_⟩
    rw [hd, show readAt rocp k n (.client call counter uninit) = [] from rfl, List.append_nil,
      hsamples]
  | update now a clock => exact update_spec hfresh top hsound clock hfits
  | listen answer now =>
    obtain ⟨hanswered, hsamples⟩ := listen_spec tel top n answer now
    refine ⟨_, rfl, ⟨hwired.routed, hwired.table⟩, hanswered, fun k hk => ?_⟩
    rw [show readAt rocp k n (.listen answer now) = [] from rfl, List.append_nil]
    exact hsamples k hk ▸ List.suffix_rfl
  -- the worker of the PCIe cache does not touch the daemon
  | pcieTake =>
    refine ⟨_, rfl, ⟨hwired.routed, hwired.table⟩, .inl rfl, fun k _ => ?_⟩
    exact (List.append_nil _).symm ▸ List.suffix_rfl
  | pcieStore gpu ret sent received curTime uninit =>
    refine ⟨_, rfl, ⟨hwired.routed, hwired.table⟩, .inl rfl, fun k _ => ?_⟩
    exact (List.append_nil _).symm ▸ List.suffix_rfl

theorem create_sound {value : Option String} {answers : RocpAnswers} {status : Status}
    (hinit : rdcModuleInit value answers = some (status, rocp)) (bulkFetchEnabled : Bool)
    (tel : Telemetry) :
    Fresh rocp
      ∧ ∃ start, Node.create rocp bulkFetchEnabled = some start ∧ Sound rocp tel start := by
  obtain ⟨hfresh, start, hcreate, hwired⟩ := create_wired hinit bulkFetchEnabled
  refine ⟨hfresh, start, hcreate, hwired, ?_, ?_⟩
  · exact daemon_create hcreate ▸ onlySupported_init tel
  · exact daemon_create hcreate ▸ limitsFit_init

/-- A GPU at 42 degrees, and a counter that reads 20. -/
def warmReadings : FetchAnswers where
  smi := { zeroMetrics with
    bulkNow := 5001
    readings := fun _ => { (default : SmiReadings) with
      handle := AmdsmiStatus.success
      now := 5001
      tempMetric := fun _ => (AmdsmiStatus.success, 42) } }
  rocp := ⟨5002, fun _ => reading 20, fun _ => .ok⟩
  toBits v := (v.getD 0).num.toNat
  uninit := zeroValue
  handled _ := 5003

/-- Both are watched and fetched. -/
def watchBoth : List NodeOp :=
  [.client ⟨.groupGpuCreate [], rfl⟩ (fun _ => .granted) zeroValue,
    .client ⟨.groupGpuAdd 1 0, rfl⟩ (fun _ => .granted) zeroValue,
    .client ⟨.groupFieldCreate [200, 802] [], rfl⟩ (fun _ => .granted) zeroValue,
    .client ⟨.fieldWatch 1 1 1000 1 10, rfl⟩ (fun _ => .granted) zeroValue,
    .update 5000 warmReadings ⟨5004, fun _ => 5004⟩]

/-- The GPU they are on. -/
def warmGpu : Topology := oneGpu 0 (Nat.two_pow_pos 64)

section WatchBoth

variable {m : RocpModule} (hgpu : 0 < m.agentCount)
include hgpu

theorem watchBoth_fetchFits : FetchFits (some m) warmReadings [(0, 200), (0, 802)] := by
  refine ⟨by decide, fun m' hm' k hk _ => ?_, fun _ => rfl, fun _ => rawValue_reading 20⟩
  obtain rfl := Option.some.inj hm'
  simp only [List.mem_cons, List.not_mem_nil, or_false] at hk
  rcases hk with rfl | rfl <;> exact hgpu

theorem watchBoth_fields (hstart : start.daemon = Daemon.init) {n₁ n₂ n₃ n₄ : Node}
    (h₁ : start.exec wavesOnly warmGpu watchBoth[0] = some n₁)
    (h₂ : n₁.exec wavesOnly warmGpu watchBoth[1] = some n₂)
    (h₃ : n₂.exec wavesOnly warmGpu watchBoth[2] = some n₃)
    (h₄ : n₃.exec wavesOnly warmGpu watchBoth[3] = some n₄) :
    FetchFits (some m) warmReadings (n₄.daemon.fieldsToFetch 5000) := by
  have hfields : n₄.daemon.fieldsToFetch 5000 = [(0, 200), (0, 802)] := by
    rw [client_daemon h₄, client_daemon h₃, client_daemon h₂, client_daemon h₁, hstart]
    decide +kernel
  rw [hfields]
  exact watchBoth_fetchFits hgpu

theorem watchBoth_fits (hstart : start.daemon = Daemon.init) :
    Partial.Along (Node.exec wavesOnly warmGpu) (NodeFits (some m)) start watchBoth :=
  ⟨trivial, fun _ h₁ => ⟨trivial, fun _ h₂ => ⟨trivial, fun _ h₃ =>
    ⟨(by decide : 10 ≤ 2 ^ 31), fun _ h₄ =>
      ⟨watchBoth_fields hgpu hstart h₁ h₂ h₃ h₄, fun _ _ => trivial⟩⟩⟩⟩⟩

end WatchBoth

/-- The good readings of a key that a run makes. -/
def readings (tel : Telemetry) (top : Topology) (rocp : Option RocpModule) (k : RdcFieldKey) :
    Node → List NodeOp → List RdcCacheEntry
  | _, [] => []
  | n, op :: ops => readAt rocp k n op
      ++ (n.exec tel top op).elim [] fun n' => readings tel top rocp k n' ops

/-- **What is cached was read, and nothing is lost in between.** -/
theorem samples_are_readings (value : Option String) (answers : RocpAnswers) (status : Status)
    (rocp : Option RocpModule) (hinit : rdcModuleInit value answers = some (status, rocp))
    (bulkFetchEnabled : Bool) (tel : Telemetry) (top : Topology) :
    ∃ start, Node.create rocp bulkFetchEnabled = some start ∧ ∀ ops : List NodeOp,
      Partial.Along (Node.exec tel top) (NodeFits rocp) start ops →
        ∃ n, Partial.run (Node.exec tel top) start ops = some n
          ∧ ∀ k : RdcFieldKey, isNotificationEvent k.2 = false →
              samplesOf n.daemon k <:+ readings tel top rocp k start ops := by
  obtain ⟨hfresh, start, hcreate, hsound⟩ := create_sound hinit bulkFetchEnabled tel
  refine ⟨start, hcreate, fun ops halong => ?_⟩
  obtain ⟨n, hrun, -, hsamples⟩ := halong.relates (I := Sound rocp tel)
    (R := fun n ops n' => ∀ k : RdcFieldKey, isNotificationEvent k.2 = false →
      samplesOf n'.daemon k <:+ samplesOf n.daemon k ++ readings tel top rocp k n ops)
    (fun n k _ => (List.append_nil _).symm ▸ List.suffix_rfl)
    (fun n op hsound hfits => by
      obtain ⟨n', hexec, hsound', -, hsamples⟩ := exec_spec hfresh top hsound hfits
      refine ⟨n', hexec, hsound', fun ops n'' hrest k hk => ?_⟩
      obtain ⟨dropped, hdropped⟩ := hsamples k hk
      have hread : readings tel top rocp k n (op :: ops)
          = readAt rocp k n op ++ readings tel top rocp k n' ops := by
        conv_lhs => unfold readings
        rw [hexec]
        rfl
      rw [hread, ← List.append_assoc, ← hdropped, List.append_assoc]
      exact (hrest k hk).trans (List.suffix_append ..))
    hsound
  refine ⟨n, hrun, fun k hk => ?_⟩
  have hall := hsamples k hk
  rw [daemon_create hcreate, samplesOf_init, List.nil_append] at hall
  exact hall

theorem samples_are_readings_watchBoth :
    ∃ m start n, rdcModuleInit none mixedGpus = some (.ok, some m)
      ∧ Node.create (some m) false = some start
      ∧ Partial.run (Node.exec wavesOnly warmGpu) start watchBoth = some n
      ∧ samplesOf n.daemon (0, 802) = [⟨5002, .double, .dbl 20⟩]
      ∧ samplesOf n.daemon (0, 802)
          <:+ readings wavesOnly warmGpu (some m) (0, 802) start watchBoth := by
  have hcached : (RocpModule.create mixedGpus).bind (fun m => (Node.create (some m) false).bind
      fun start => (Partial.run (Node.exec wavesOnly warmGpu) start watchBoth).map
        fun n => samplesOf n.daemon (0, 802)) = some [⟨5002, .double, .dbl 20⟩] := by decide +kernel
  obtain ⟨m, hm, hin, -⟩ := mixedGpus_module
  obtain ⟨start, hcreate, hall⟩ :=
    samples_are_readings none mixedGpus .ok (some m) hm false wavesOnly warmGpu
  obtain ⟨n, hrun, hsuffix⟩ := hall watchBoth (watchBoth_fits hin.1 (daemon_create hcreate))
  rw [create_of_loaded hm, Option.bind_some, hcreate, Option.bind_some, hrun,
    Option.map_some] at hcached
  exact ⟨m, start, n, hm, hcreate, hrun, Option.some.inj hcached, hsuffix (0, 802) rfl⟩

end Whole

end Rdc.Proof.Closed
