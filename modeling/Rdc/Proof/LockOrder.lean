import Rdc.LockedCalls

/-!
# No deadlock, no race, and every call returns

`watch_mutex_` comes first. A thread that holds it may take any one of the other mutexes, and a
thread that holds one of those takes none. So the calls are ordered programs, and any number of them
may run side by side (`calls_complete`).
-/

namespace Rdc.Proof

open Rdc Locks
open Locks.Proc (read modify update guarded Ordered)

/-- The order in which mutexes are taken. -/
def Mutex.rank : Mutex → Nat
  | .watch => 0
  | .group | .fieldGroup | .notif | .cache | .task => 1

variable {α β : Type}

/-! ## The order of the locks -/

/-- The program takes one of the inner mutexes at a time, and can do so with `watch_mutex_` held or
without. -/
def Inner (p : Proc Data α) : Prop :=
  ∀ held, (∀ l ∈ held, l = Mutex.watch) → Ordered Mutex.rank held held p

/-- The program of a block under `watch_mutex_`. -/
def UnderWatch (p : Proc Data α) : Prop := Ordered Mutex.rank [.watch] [.watch] p

/-- The program of a call. -/
def Outside (p : Proc Data α) : Prop := Ordered Mutex.rank [] [] p

theorem Inner.pure (a : α) : Inner (Pure.pure a : Proc Data α) := fun _ _ => Ordered.pure a

variable {p : Proc Data α} {f : α → Proc Data β}

theorem Inner.bind (hp : Inner p) (hf : ∀ a, Inner (f a)) :
    Inner (p >>= f) := fun held h => Ordered.bind (hp held h) fun a => hf a held h

theorem rank_lt {l : Mutex} (hl : l ≠ .watch) {held : List Mutex}
    (h : ∀ l ∈ held, l = Mutex.watch) :
    ∀ l' ∈ held, Mutex.rank l' < Mutex.rank l := by
  intro l' hl'
  rw [h l' hl']
  cases l with
  | watch => exact absurd rfl hl
  | _ => exact Nat.zero_lt_one

theorem Inner.read {l : Mutex} (hl : l ≠ .watch) (f : Data l → α) :
    Inner (guarded l (Proc.read l f)) :=
  fun _ h => Ordered.guarded (rank_lt hl h) (Ordered.read f (List.mem_cons_self ..))

theorem Inner.modify {l : Mutex} (hl : l ≠ .watch) (f : Data l → Data l) :
    Inner (guarded l (Proc.modify l f)) :=
  fun _ h => Ordered.guarded (rank_lt hl h) (Ordered.modify f (List.mem_cons_self ..))

theorem Inner.update {l : Mutex} (hl : l ≠ .watch) (f : Data l → α × Data l) :
    Inner (guarded l (Proc.update l f)) :=
  fun _ h => Ordered.guarded (rank_lt hl h) (Ordered.update f (List.mem_cons_self ..))

theorem Inner.underWatch (h : Inner p) : UnderWatch p :=
  h _ fun _ hl => List.mem_singleton.mp hl

theorem Inner.outside (h : Inner p) : Outside p :=
  h _ fun _ hl => absurd hl List.not_mem_nil

theorem UnderWatch.pure (a : α) : UnderWatch (Pure.pure a : Proc Data α) := Ordered.pure a

theorem UnderWatch.bind (hp : UnderWatch p) (hf : ∀ a, UnderWatch (f a)) :
    UnderWatch (p >>= f) := Ordered.bind hp hf

theorem UnderWatch.read (f : WatchData → α) :
    UnderWatch (Proc.read Mutex.watch f) := by
  show Ordered Mutex.rank _ _ _
  exact Ordered.read f (List.mem_cons_self ..)

theorem UnderWatch.modify (f : WatchData → WatchData) : UnderWatch (Proc.modify .watch f) := by
  show Ordered Mutex.rank _ _ _
  exact Ordered.modify f (List.mem_cons_self ..)

theorem Outside.pure (a : α) : Outside (Pure.pure a : Proc Data α) := Ordered.pure a

theorem Outside.bind (hp : Outside p) (hf : ∀ a, Outside (f a)) :
    Outside (p >>= f) := Ordered.bind hp hf

theorem UnderWatch.guarded (h : UnderWatch p) : Outside (guarded .watch p) :=
  Ordered.guarded (fun _ hl => absurd hl List.not_mem_nil) h

/-! ### The group store -/

theorem getFieldsFromGroup_inner (g fg : Nat) : Inner (Locked.getFieldsFromGroup g fg) := by
  refine Inner.bind (Inner.read (by decide) _) fun r => ?_
  cases r with
  | error result => exact Inner.pure _
  | ok ginfo =>
    refine Inner.bind (Inner.read (by decide) _) fun r => ?_
    cases r with
    | error result => exact Inner.pure _
    | ok finfo => exact Inner.pure _

theorem handlerGroupGpuAdd_inner (n g gpu : Nat) (query : Option Failure) :
    Inner (Locked.handlerGroupGpuAdd n g gpu query) := by
  unfold Locked.handlerGroupGpuAdd
  split
  · exact Inner.pure _
  · split
    · exact Inner.update (by decide) _
    · exact Inner.pure _

theorem addAll_inner (n g : Nat) (queries : Nat → Option Failure) (gpus : List Nat)
    (status : Status) : Inner (Locked.addAll n g queries gpus status) := by
  induction gpus generalizing status with
  | nil => exact Inner.pure _
  | cons gpu gpus ih =>
    exact Inner.bind (handlerGroupGpuAdd_inner n g gpu _) fun status => ih status

theorem handlerGroupGpuCreate_inner (n : Nat) (type : RdcGroupType) (name : List UInt8)
    (queries : Nat → Option Failure) :
    Inner (Locked.handlerGroupGpuCreate n type name queries) := by
  refine Inner.bind (Inner.update (by decide) _) fun r => ?_
  rcases r with ⟨status, _ | g⟩
  · exact Inner.pure _
  · dsimp only
    split
    · exact Inner.pure _
    · split
      · exact Inner.pure _
      · exact Inner.bind (addAll_inner n g queries _ _) fun _ => Inner.pure _

theorem rdcGroupFieldCreate_inner (fieldIds : List Nat) (name : List UInt8) :
    Inner (Locked.rdcGroupFieldCreate fieldIds name) := by
  unfold Locked.rdcGroupFieldCreate
  split
  · exact Inner.update (by decide) _
  · exact Inner.pure _

theorem handlerGroupFieldCreate_inner (fieldIds : List Nat) (name : List UInt8) :
    Inner (Locked.handlerGroupFieldCreate fieldIds name) := by
  unfold Locked.handlerGroupFieldCreate
  split
  · split
    · exact rdcGroupFieldCreate_inner fieldIds name
    · exact Inner.pure _
  · exact Inner.pure _

theorem rdcGroupFieldDestroy_inner (fg : Nat) : Inner (Locked.rdcGroupFieldDestroy fg) := by
  unfold Locked.rdcGroupFieldDestroy
  split
  · exact Inner.pure _
  · exact Inner.update (by decide) _

/-! ### Watching and unwatching -/

variable (tel : Telemetry) (answers : SmiAnswers)

theorem watchNew_underWatch (gkey : RdcFieldGroupKey) (f : FieldSettings) :
    UnderWatch (Locked.watchNew tel answers gkey f) := by
  refine UnderWatch.bind (getFieldsFromGroup_inner _ _).underWatch fun r => ?_
  cases r with
  | error result => exact UnderWatch.pure _
  | ok fields =>
    refine UnderWatch.bind (Inner.modify (by decide) _).underWatch fun _ => ?_
    exact UnderWatch.bind (UnderWatch.modify _) fun _ => UnderWatch.pure _

theorem rdcFieldWatch_outside (g fg freq : Nat) (age : ℚ) (samples : Nat) :
    Outside (Locked.rdcFieldWatch tel answers g fg freq age samples) := by
  refine UnderWatch.guarded (UnderWatch.bind (UnderWatch.read _) fun r => ?_)
  cases r with
  | none => exact watchNew_underWatch tel answers _ _
  | some entry =>
    dsimp only
    split
    · exact UnderWatch.pure _
    · exact UnderWatch.bind (UnderWatch.modify _) fun _ => watchNew_underWatch tel answers _ _

theorem updateFrequencies_inner (table : List (RdcFieldGroupKey × FieldSettings))
    (frequencies : KeyMap Nat) : Inner (Locked.updateFrequencies table frequencies) := by
  induction table generalizing frequencies with
  | nil => exact Inner.pure _
  | cons entry table ih =>
    unfold Locked.updateFrequencies
    split
    · exact ih frequencies
    · refine Inner.bind (getFieldsFromGroup_inner _ _) fun r => ?_
      cases r with
      | error result => exact Inner.pure _
      | ok fields => exact ih _

theorem stopListening_inner (gpu : Nat) : Inner (Locked.stopListening answers gpu) := by
  unfold Locked.stopListening
  split
  · exact Inner.modify (by decide) _
  · exact Inner.pure _

theorem unwatchFields_inner (frequencies : KeyMap Nat) (keys : List RdcFieldKey)
    (acc : Daemon.UnwatchLoop) : Inner (Locked.unwatchFields answers frequencies keys acc) := by
  induction keys generalizing acc with
  | nil => exact Inner.pure _
  | cons key keys ih =>
    unfold Locked.unwatchFields
    refine Inner.bind ?_ fun _ => ih _
    split
    · exact stopListening_inner answers key.1
    · exact Inner.pure _

theorem rdcFieldUnwatch_outside (g fg now : Nat) :
    Outside (Locked.rdcFieldUnwatch answers g fg now) := by
  refine UnderWatch.guarded (UnderWatch.bind (UnderWatch.read _) fun r => ?_)
  cases r with
  | none => exact UnderWatch.pure _
  | some entry =>
    refine UnderWatch.bind (UnderWatch.modify _) fun _ => ?_
    refine UnderWatch.bind (getFieldsFromGroup_inner _ _).underWatch fun r => ?_
    cases r with
    | error result => exact UnderWatch.pure _
    | ok fields =>
      refine UnderWatch.bind (UnderWatch.read _) fun table => ?_
      refine UnderWatch.bind (updateFrequencies_inner _ _).underWatch fun r => ?_
      cases r with
      | error result => exact UnderWatch.pure _
      | ok frequencies =>
        refine UnderWatch.bind (UnderWatch.read _) fun before => ?_
        refine UnderWatch.bind (unwatchFields_inner answers _ _ _).underWatch fun acc => ?_
        exact UnderWatch.bind (UnderWatch.modify _) fun _ => UnderWatch.pure _

/-! ### Updates and events -/

theorem cacheValue_underWatch (gpu : Nat) (value : RdcFieldValue) :
    UnderWatch (Locked.cacheValue gpu value) := by
  refine UnderWatch.bind (Inner.modify (by decide) _).underWatch fun _ => ?_
  refine UnderWatch.bind (UnderWatch.read _) fun r => ?_
  cases r with
  | none => exact UnderWatch.pure _
  | some jobId => exact (Inner.modify (by decide) _).underWatch

theorem deliver_underWatch (time gpu : Nat) (value : RdcFieldValue) :
    UnderWatch (Locked.deliver time gpu value) := by
  refine UnderWatch.bind (UnderWatch.modify _) fun _ => ?_
  split
  · exact cacheValue_underWatch gpu value
  · exact UnderWatch.pure _

theorem handleFields_underWatch (values : List (Nat × RdcGpuFieldValue)) :
    UnderWatch (Locked.handleFields values) := by
  induction values with
  | nil => exact UnderWatch.pure _
  | cons v values ih => exact UnderWatch.bind (deliver_underWatch _ _ _) fun _ => ih

theorem fetchFields_inner (fields : List (RdcFieldKey × Nat)) :
    Inner (Locked.fetchFields fields) := by
  induction fields with
  | nil => exact Inner.pure _
  | cons field fields ih =>
    refine Inner.bind ?_ fun _ => ih
    unfold Locked.fetchField
    split
    · exact Inner.modify (by decide) _
    · exact Inner.pure _

theorem fieldsValueGet_underWatch (batches : List Locked.FetchedBatch) :
    UnderWatch (Locked.fieldsValueGet batches) := by
  induction batches with
  | nil => exact UnderWatch.pure _
  | cons batch batches ih =>
    refine UnderWatch.bind (fetchFields_inner _).underWatch fun _ => ?_
    exact UnderWatch.bind (handleFields_underWatch _) fun _ => ih

theorem evictAll_inner (clock : Daemon.CleanUpClock)
    (records : List (RdcFieldKey × FieldSettings)) : Inner (Locked.evictAll clock records) := by
  induction records with
  | nil => exact Inner.pure _
  | cons record records ih => exact Inner.bind (Inner.modify (by decide) _) fun _ => ih

theorem cleanUp_underWatch (clock : Daemon.CleanUpClock) : UnderWatch (Locked.cleanUp clock) := by
  refine UnderWatch.bind (UnderWatch.read _) fun records => ?_
  refine UnderWatch.bind (evictAll_inner clock records).underWatch fun _ => ?_
  refine UnderWatch.bind (UnderWatch.modify _) fun _ => ?_
  split
  · exact (Inner.read (by decide) _).underWatch
  · exact UnderWatch.pure _

theorem rdcFieldUpdateAll_outside (now : Nat) (batches : List Locked.FetchedBatch)
    (clock : Daemon.CleanUpClock) : Outside (Locked.rdcFieldUpdateAll now batches clock) := by
  refine UnderWatch.guarded (UnderWatch.bind ?_ fun _ => ?_)
  · refine UnderWatch.bind (UnderWatch.read _) fun fields => ?_
    split
    · exact UnderWatch.pure _
    · exact UnderWatch.bind (UnderWatch.modify _) fun _ => fieldsValueGet_underWatch batches
  · refine UnderWatch.bind (UnderWatch.read _) fun lastCleanupTime => ?_
    split
    · refine UnderWatch.bind (cleanUp_underWatch clock) fun _ => ?_
      exact UnderWatch.bind (UnderWatch.modify _) fun _ => UnderWatch.pure _
    · exact UnderWatch.pure _

theorem deliverEvents_underWatch (events : List RdcEvntNotification) :
    UnderWatch (Locked.deliverEvents events) := by
  induction events with
  | nil => exact UnderWatch.pure _
  | cons e events ih => exact UnderWatch.bind (deliver_underWatch _ _ _) fun _ => ih

theorem rdcFieldListenNotif_outside (top : Topology)
    (answer : Except Status (List SmiNotification)) (now : Nat) :
    Outside (Locked.rdcFieldListenNotif top answer now) := by
  unfold Locked.rdcFieldListenNotif
  split
  · split
    · exact Outside.pure _
    · unfold Locked.rdcNotifUpdateCache
      split
      · exact Outside.pure _
      · exact UnderWatch.guarded
          (UnderWatch.bind (deliverEvents_underWatch _) fun _ => UnderWatch.pure _)
  · exact Outside.pure _

/-! ### Jobs -/

theorem startRegistered_outside (g : Nat) (j : JobId) (freq : Nat) (gauges : RdcGpuGauges)
    (time : Nat) : Outside (Locked.startRegistered tel answers g j freq gauges time) := by
  refine Outside.bind (Inner.read (by decide) _).outside fun r => ?_
  cases r with
  | error result => exact Outside.pure _
  | ok ginfo =>
    refine Outside.bind (Inner.read (by decide) _).outside fun r => ?_
    cases r with
    | error result => exact Outside.pure _
    | ok finfo =>
      refine Outside.bind (Inner.update (by decide) _).outside fun result => ?_
      split
      · exact Outside.pure _
      · exact rdcFieldWatch_outside tel answers _ _ _ _ _

theorem rdcJobStartStats_outside (g : Nat) (j : JobId) (freq : Nat) (gauges : RdcGpuGauges)
    (time : Nat) : Outside (Locked.rdcJobStartStats tel answers g j freq gauges time) := by
  refine Outside.bind (UnderWatch.guarded (UnderWatch.read _)) fun known => ?_
  split
  · exact Outside.pure _
  · refine Outside.bind (getFieldsFromGroup_inner _ _).outside fun r => ?_
    cases r with
    | error result => exact Outside.pure _
    | ok fields =>
      dsimp only
      split
      · exact Outside.pure _
      · refine Outside.bind (UnderWatch.guarded (UnderWatch.modify _)) fun _ => ?_
        exact startRegistered_outside tel answers g j freq gauges time

theorem rdcJobStopStats_outside (j : JobId) (gauges : RdcGpuGauges) (clock : Daemon.StopClock) :
    Outside (Locked.rdcJobStopStats answers j gauges clock) := by
  refine Outside.bind (UnderWatch.guarded (UnderWatch.read _)) fun r => ?_
  cases r with
  | none => exact Outside.pure _
  | some job =>
    refine Outside.bind (rdcFieldUnwatch_outside answers _ _ _) fun result => ?_
    split
    · exact Outside.pure _
    · refine Outside.bind (UnderWatch.guarded (UnderWatch.modify _)) fun _ => ?_
      exact (Inner.update (by decide) _).outside

theorem stopJobs_outside (clock : JobId → Daemon.StopClock) (jobs : List JobId) :
    Outside (Locked.stopJobs answers clock jobs) := by
  induction jobs with
  | nil => exact Outside.pure _
  | cons j jobs ih => exact Outside.bind (rdcJobStopStats_outside answers _ _ _) fun _ => ih

theorem workerTurn_inner (checked : Nat) (ret : AmdsmiStatus) (sent received curTime : Nat)
    (uninit : MetricValue) :
    Inner (Locked.workerTurn checked ret sent received curTime uninit) := by
  refine Inner.bind (Inner.update (by decide) _) fun r => ?_
  cases r with
  | none => exact Inner.pure _
  | some key =>
    refine Inner.bind (Inner.read (by decide) _) fun fresh => ?_
    split
    · exact Inner.pure _
    · exact Inner.modify (by decide) _

theorem withGauges_outside {gauges : Except Failure RdcGpuGauges}
    {p : RdcGpuGauges → Proc Data Status} (h : ∀ gauges, Outside (p gauges)) :
    Outside (LockedCall.withGauges gauges p) := by
  cases gauges with
  | error failure => exact Outside.pure _
  | ok gauges => exact h gauges

/-- **Every call is an ordered program.** -/
theorem LockedCall.proc_outside (call : LockedCall) : Outside (call.proc tel answers) := by
  cases call with
  | groupGpuCreate n type name queries =>
    exact (Inner.bind (handlerGroupGpuCreate_inner _ _ _ _) fun _ => Inner.pure _).outside
  | groupGpuAdd n g gpu query => exact (handlerGroupGpuAdd_inner _ _ _ _).outside
  | groupGpuDestroy g => exact (Inner.update (by decide) _).outside
  | groupGpuGetInfo g =>
    refine (Inner.bind (Inner.read (by decide) _) fun r => ?_).outside
    cases r with
    | error status => exact Inner.pure _
    | ok info => exact Inner.pure _
  | groupGetAllIds =>
    exact (Inner.bind (Inner.read (by decide) _) fun _ => Inner.pure _).outside
  | groupFieldCreate fieldIds name =>
    exact (Inner.bind (handlerGroupFieldCreate_inner _ _) fun _ => Inner.pure _).outside
  | groupFieldDestroy fg => exact (rdcGroupFieldDestroy_inner fg).outside
  | groupFieldGetInfo fg =>
    refine (Inner.bind (Inner.read (by decide) _) fun r => ?_).outside
    cases r with
    | error status => exact Inner.pure _
    | ok info => exact Inner.pure _
  | groupFieldGetAllIds =>
    exact (Inner.bind (Inner.read (by decide) _) fun _ => Inner.pure _).outside
  | fieldWatch g fg freq age samples => exact rdcFieldWatch_outside tel answers _ _ _ _ _
  | fieldUnwatch g fg now => exact rdcFieldUnwatch_outside answers _ _ _
  | fieldGetLatestValue gpu field value =>
    show Outside (if isFieldValid field = true then _ else _)
    split
    · exact (Inner.read (by decide) _).outside
    · exact Outside.pure _
  | fieldGetValueSince gpu field since next value =>
    show Outside (if isFieldValid field = true then _ else _)
    split
    · exact (Inner.read (by decide) _).outside
    · exact Outside.pure _
  | fieldUpdateAll now batches clock => exact rdcFieldUpdateAll_outside _ _ _
  | fieldListenNotif top answer now => exact rdcFieldListenNotif_outside _ _ _
  | jobStartStats g j freq gauges time =>
    exact withGauges_outside fun gauges => rdcJobStartStats_outside tel answers _ _ _ _ _
  | jobStopStats j gauges clock =>
    exact withGauges_outside fun gauges => rdcJobStopStats_outside answers _ _ _
  | jobGetStats j gauges =>
    exact withGauges_outside fun gauges => (Inner.read (by decide) _).outside
  | jobRemove j clock =>
    exact Outside.bind (rdcJobStopStats_outside answers _ _ _) fun _ =>
      (Inner.update (by decide) _).outside
  | jobRemoveAll clock =>
    refine Outside.bind (UnderWatch.guarded (UnderWatch.read _)) fun jobs => ?_
    exact Outside.bind (stopJobs_outside answers clock jobs) fun _ =>
      (Inner.update (by decide) _).outside
  | workerTurn checked ret sent received curTime uninit =>
    exact (Inner.bind (workerTurn_inner _ _ _ _ _ _) fun _ => Inner.pure _).outside

/-- **Calls side by side.** Let any number of threads each make a call, cut into single actions in
any order. They do not run for ever, no two of them are ever about to touch what one mutex guards,
and as long as one of them has not returned some thread can go on. In the end every mutex is
free. -/
theorem calls_complete {n : Nat} (calls : Fin n → LockedCall) (smi : Fin n → SmiAnswers)
    (m : ∀ l, Data l) :
    (∀ run : Nat → Config Data Status (Fin n),
        run 0 = Config.start (fun i => (calls i).proc tel (smi i)) m →
        ∃ t, ¬ Step (run t) (run (t + 1)))
      ∧ ∀ c, Steps (Config.start (fun i => (calls i).proc tel (smi i)) m) c →
          (∀ i j l, c.At i l → c.At j l → i = j)
            ∧ ((∃ c', Step c c') ∨ ((∀ i, c.Ended i) ∧ ∀ l, c.Free l)) := by
  have hstart : Sound Mutex.rank (Config.start (fun i => (calls i).proc tel (smi i)) m) :=
    Sound.start (fun i => LockedCall.proc_outside tel (smi i) (calls i)) m
  refine ⟨fun run _ => ?_, fun c hc => ⟨fun i j l => (hstart.steps hc).exclusive, ?_⟩⟩
  · by_contra hall
    push Not at hall
    exact (wellFounded_iff_isEmpty_descending_chain.mp wellFounded_step).false ⟨run, hall⟩
  · have hsound := hstart.steps hc
    by_cases hgo : ∃ c', Step c c'
    · exact Or.inl hgo
    · have hended := hsound.ended_of_stuck fun c' hstep => hgo ⟨c', hstep⟩
      refine Or.inr ⟨hended, fun l i => ?_⟩
      rw [hsound.held_of_ended (hended i)]
      exact List.not_mem_nil

end Rdc.Proof
