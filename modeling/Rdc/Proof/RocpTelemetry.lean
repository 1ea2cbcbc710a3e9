import Rdc.RocpTelemetry
import Rdc.Proof.Profiler
import Rdc.Proof.Handles

/-!
# What the profiler reports, and since when

A fetch of the profiler is the loop of the library over lookups, and a lookup is a call on the
averaging table. So after any calls the values of a fetch are known: a field is reported as the mean
of its last five readings since its buffer was reset, this one included (`values_reported`).

The daemon resets a buffer when it releases a key. It fetches only keys it watches, so a key that
nobody watches has an empty buffer, and an average never reaches back behind the release of its key
(`averages_within_watch`). As for the counters, that is a relation between the daemon and the replay
of its log.
-/

namespace Rdc.Proof.Rocp

open Std (ExtTreeMap)
open OrdMap Machine Route Daemon RocpTelemetry
open RdcRocpBase (agentTurn getAverage resetAverage)

/-! ## The tables of the module -/

/-- Both tables only have fields of the list, and a buffer is for a field that is offered. -/
structure Offered (b : RdcRocpBase) : Prop where
  listed : ∀ field, field ∈ b.fieldToMetric → field ∈ rocpFields
  buffered : ∀ k : RdcFieldKey, k ∈ b.average → k.2 ∈ b.fieldToMetric

theorem Offered.insertFields {b : RdcRocpBase} (h : Offered b) (gpuIndex : Nat)
    (checkedFields : List String) :
    Offered (RdcRocpBase.insertFields gpuIndex checkedFields b) := by
  constructor
  · intro field hmem
    rcases (mem_fieldToMetric_insertFields b field).mp hmem with hold | ⟨metric, hfield, -⟩
    · exact h.listed field hold
    · have hfields : ∀ p ∈ tempFieldMapK, p.1 ∈ rocpFields := by decide
      exact hfields _ hfield
  · -- a buffer was there before, or is made together with the name of its metric
    intro k hmem
    rw [ExtTreeMap.mem_iff_isSome_getElem?, average_insertFields, Option.isSome_or,
      Bool.or_eq_true, ← ExtTreeMap.mem_iff_isSome_getElem?] at hmem
    rw [mem_fieldToMetric_insertFields]
    rcases hmem with hold | hnew
    · exact Or.inl (h.buffered k hold)
    · split at hnew
      · next hchecked => exact Or.inr hchecked.2
      · exact absurd hnew Bool.false_ne_true

theorem create_offered {a : RocpAnswers} {b : RdcRocpBase} (hb : RdcRocpBase.create a = some b) :
    Offered b := by
  have hstart : Offered ⟨∅, ∅⟩ := ⟨fun _ h => absurd h (by simp), fun _ h => absurd h (by simp)⟩
  have hloop : ∀ (gpus : List (HsaAgent × Nat)) (s : RdcRocpBase.AgentLoop), Offered s.base →
      Offered (gpus.foldl (agentTurn a.infos) s).base := by
    intro gpus
    induction gpus with
    | nil => exact fun _ h => h
    | cons p gpus ih => exact fun s h => ih _ (h.insertFields _ _)
  unfold RdcRocpBase.create at hb
  split at hb
  · split at hb
    · exact Option.some.inj hb ▸ hstart
    · exact Option.some.inj hb ▸ hloop _ _ hstart
  · simp at hb

/-! ## Lookups are calls on the table -/

/-- The call on the table that a lookup makes. -/
def lookupOp (runs : Nat → CounterRun) (field : RdcFieldKey × Nat) : AverageOp :=
  .getAverage field.1 ((runs field.2).rawValue.getD 0)

/-- The mean of the last five. -/
def meanOfLast (values : List ℚ) : ℚ :=
  (RingBuffer.lastOf bufferLengthK values).sum / (RingBuffer.lastOf bufferLengthK values).length

open Classical in
/-- The value of a field for which the table has been given `values`. Without a buffer it is not a
number, nor is the quotient by a time of zero, and it is marked as good all the same. -/
noncomputable def reportedAs (toBits : Option ℚ → Nat) (a : RocpValueGetAnswers)
    (table : KeyMap RdcAverage) (field : RdcFieldKey × Nat) (values : List ℚ) : RdcGpuFieldValue :=
  ⟨field.1.1, ⟨field.1.2, rdcStOk, a.curTime, .double, .dbl (toBits
    (if field.1 ∈ table then scaled field.1.2 (a.runs field.2).elapsed (meanOfLast values)
      else none))⟩⟩

/-- The module after calls on its table. -/
def withTable (m : RocpModule) (ops : List AverageOp) : RocpModule :=
  { m with base := run RdcRocpBase.exec m.base ops }

theorem withTable_append (m : RocpModule) (ops ops' : List AverageOp) :
    withTable m (ops ++ ops') = withTable (withTable m ops) ops' := by
  unfold withTable run
  rw [List.foldl_append]

theorem fieldToMetric_exec (b : RdcRocpBase) (op : AverageOp) :
    (b.exec op).2.fieldToMetric = b.fieldToMetric := by
  cases op with
  | getAverage p rawValue =>
    show (b.getAverage p rawValue).2.fieldToMetric = _
    unfold getAverage
    split <;> rfl
  | resetAverage p =>
    show (b.resetAverage p).fieldToMetric = _
    unfold resetAverage
    split <;> rfl

theorem fieldToMetric_run (b : RdcRocpBase) (ops : List AverageOp) :
    (run RdcRocpBase.exec b ops).fieldToMetric = b.fieldToMetric :=
  run_invariant (I := fun b' => b'.fieldToMetric = b.fieldToMetric)
    (fun b' op h => (fieldToMetric_exec b' op).trans h) rfl ops

/-- The request is inside the tables. -/
def InTables (m : RocpModule) (k : RdcFieldKey) : Prop :=
  k.1 < m.agentCount ∧ k.2 ∈ m.base.fieldToMetric

section Fetch

variable (toBits : Option ℚ → Nat) (a : RocpValueGetAnswers) {m : RocpModule}

/-- **One lookup** with a run that reads a number, after any calls on a table that was empty. -/
theorem fetchOne_eq (hempty : AllEmpty m.base) (ops : List AverageOp) {field : RdcFieldKey × Nat}
    (hin : InTables m field.1) (hreads : (a.runs field.2).rawValue ≠ none) :
    fetchOne toBits a field (withTable m ops)
      = some (reportedAs toBits a m.base.average field
          (rawValues field.1 (ops ++ [lookupOp a.runs field])),
        withTable m (ops ++ [lookupOp a.runs field])) := by
  have hin' : field.1.1 < (withTable m ops).agentCount
      ∧ field.1.2 ∈ (withTable m ops).base.fieldToMetric :=
    ⟨hin.1, (fieldToMetric_run m.base ops).symm ▸ hin.2⟩
  obtain ⟨raw, hraw⟩ := Option.ne_none_iff_exists'.mp hreads
  have hop : lookupOp a.runs field = .getAverage field.1 raw := by
    unfold lookupOp
    rw [hraw, Option.getD_some]
  have hafter : withTable (withTable m ops) [.getAverage field.1 raw]
      = { withTable m ops with base := ((withTable m ops).base.getAverage field.1 raw).2 } := rfl
  unfold fetchOne RocpModule.rocpLookup reportedAs
  rw [if_pos hin', hraw, hop, Option.map_some, Option.map_some, withTable_append, hafter]
  dsimp only
  -- no call takes a buffer away or adds one, so it is enough to look at the table of the start
  by_cases hmem : field.1 ∈ m.base.average
  · obtain ⟨avg, hget⟩ := exists_getElem?_of_mem ((mem_average_run m.base ops field.1).mpr hmem)
    -- the ring holds the last readings in some order, which is enough for their sum
    have hholds := ((averages_run hempty ops field.1 avg hget).push raw).perm
    have hvalues : rawValues field.1 (ops ++ [.getAverage field.1 raw])
        = rawValues field.1 ops ++ [raw] := (rawValues_concat ..).trans (if_pos rfl)
    have hget' : (withTable m ops).base.average[field.1]? = some avg := hget
    rw [if_pos hmem, getAverage_of_some hget', Option.bind_some, hvalues, meanOfLast,
      hholds.sum_eq, hholds.length_eq]
  · have hget : (withTable m ops).base.average[field.1]? = none := by
      rw [← not_mem_iff_getElem?]
      exact fun hin => hmem ((mem_average_run m.base ops field.1).mp hin)
    have hnone : ((withTable m ops).base.getAverage field.1 raw).1 = none := by
      unfold getAverage
      rw [hget]
    rw [if_neg hmem, hnone, Option.bind_none]

theorem makeAll_fetchOne (hempty : AllEmpty m.base) (fields : List (RdcFieldKey × Nat))
    (ops : List AverageOp) (hin : ∀ field ∈ fields, InTables m field.1)
    (hreads : ∀ i, (a.runs i).rawValue ≠ none) :
    ∃ values, Batch.makeAll (fetchOne toBits a) fields (withTable m ops)
        = some (values, withTable m (ops ++ fields.map (lookupOp a.runs)))
      ∧ ∀ (i : Nat) (field : RdcFieldKey × Nat), fields[i]? = some field →
          values[i]? = some (reportedAs toBits a m.base.average field
            (rawValues field.1 (ops ++ (fields.take (i + 1)).map (lookupOp a.runs)))) := by
  -- the calls on the table grow as the list gets shorter
  induction fields generalizing ops with
  | nil => exact ⟨[], by simp [Batch.makeAll], fun i field h => absurd h (by simp)⟩
  | cons field fields ih =>
    obtain ⟨values, hmake, hvalues⟩ := ih (ops ++ [lookupOp a.runs field])
      fun f hf => hin f (List.mem_cons_of_mem _ hf)
    refine ⟨reportedAs toBits a m.base.average field
      (rawValues field.1 (ops ++ [lookupOp a.runs field])) :: values, ?_, ?_⟩
    · unfold Batch.makeAll
      rw [fetchOne_eq toBits a hempty ops (hin field (List.mem_cons_self ..)) (hreads field.2),
        Option.bind_some, hmake, Option.map_some, List.append_assoc]
      rfl
    · intro i f hf
      cases i with
      | zero =>
        obtain rfl := Option.some.inj hf
        rfl
      | succ i =>
        rw [List.getElem?_cons_succ] at hf ⊢
        rw [hvalues i f hf, List.append_assoc]
        rfl

end Fetch

/-! ## Every fetch, after any calls -/

/-- A call on the module once it is loaded. -/
inductive RocpCall where
  | valueGet (a : RocpValueGetAnswers) (fields : List RdcFieldKey)
  | unwatch (fields : List RdcFieldKey)

/-- What is left of the module after a call. -/
def RocpCall.exec (toBits : Option ℚ → Nat) (rocp : Option RocpModule) :
    RocpCall → Option (Option RocpModule)
  | .valueGet a fields => (rdcTelemetryFieldsValueGet toBits a rocp fields).map fun r => r.2.2
  | .unwatch fields => some (rdcTelemetryFieldsUnwatch rocp fields)

/-- How many of the fields of a request are looked up. -/
def lookedUp (a : RocpValueGetAnswers) (fields : List RdcFieldKey) : Nat :=
  Batch.stopsAt bulkFieldsMax a.callback (· = .ok) fields.length

/-- The calls on the table that a call on the module makes. -/
def RocpCall.tableOps : RocpCall → List AverageOp
  | .valueGet a fields => (fields.zipIdx.take (lookedUp a fields)).map (lookupOp a.runs)
  | .unwatch fields => fields.map .resetAverage

/-- The fields of a fetch are inside the tables, and each run of a counter reads a number. -/
def RocpCall.Served (m : RocpModule) : RocpCall → Prop
  | .valueGet a fields => (∀ k ∈ fields, InTables m k) ∧ ∀ i, (a.runs i).rawValue ≠ none
  | .unwatch _ => True

variable {fields : List RdcFieldKey} {k : RdcFieldKey} {d : Daemon}

section Calls

variable (toBits : Option ℚ → Nat) {m : RocpModule}

/-- What a fetch gives to the callback, returns and leaves behind. -/
structure Reports (toBits : Option ℚ → Nat) (a : RocpValueGetAnswers) (m : RocpModule)
    (ops : List AverageOp) (fields : List RdcFieldKey) (status : Status)
    (batches : List (List RdcGpuFieldValue)) : Prop where
  /-- The values are those of the fields looked up, in their order. -/
  values : ∀ i k, fields[i]? = some k → batches.flatten[i]?
    = if i < lookedUp a fields then some (reportedAs toBits a m.base.average (k, i)
        (rawValues k (ops ++ (fields.zipIdx.take (i + 1)).map (lookupOp a.runs))))
      else none
  count : batches.flatten.length = lookedUp a fields
  full : ∀ batch ∈ batches.dropLast, batch.length = bulkFieldsMax
  size : ∀ batch ∈ batches, batch ≠ [] ∧ batch.length ≤ bulkFieldsMax
  accepted : ∀ i, i + 1 < batches.length → a.callback i = .ok
  /-- The status is the last answer of the callback, and an error if it was not asked. -/
  status_nil : fields = [] → batches = [] ∧ status = .unknownError
  status_last : ∀ i, i + 1 = batches.length → status = a.callback i

/-- The loop of a fetch ends, after as many lookups as the answers of the callback allow. -/
theorem loop_ends (hempty : AllEmpty m.base) (ops : List AverageOp) (a : RocpValueGetAnswers)
    (hin : ∀ k ∈ fields, InTables m k) (hreads : ∀ i, (a.runs i).rawValue ≠ none) :
    ∃ r left, Batch.loop bulkFieldsMax (fetchOne toBits a) a.callback (· = .ok) fields.zipIdx
        ⟨withTable m ops, [], []⟩ = some r
      ∧ fields.zipIdx = fields.zipIdx.take (lookedUp a fields) ++ left
      ∧ Batch.Ends bulkFieldsMax (fetchOne toBits a) a.callback (· = .ok) (withTable m ops)
          (fields.zipIdx.take (lookedUp a fields)) left r.1 r.2 := by
  have hfields : ∀ field ∈ fields.zipIdx, InTables m field.1 := fun field h =>
    hin _ (List.fst_mem_of_mem_zipIdx h)
  have hpos : 0 < bulkFieldsMax := by decide
  obtain ⟨values, hmake, -⟩ := makeAll_fetchOne toBits a hempty fields.zipIdx ops hfields hreads
  have hsome : (Batch.loop bulkFieldsMax (fetchOne toBits a) a.callback (· = .ok) fields.zipIdx
      ⟨withTable m ops, [], []⟩).isSome = true :=
    Batch.isSome_loop _ _ (Option.isSome_iff_exists.mpr ⟨_, hmake⟩)
  obtain ⟨r, hr⟩ := Option.isSome_iff_exists.mp hsome
  obtain ⟨done, left, hsplit, hends⟩ := (Batch.Underway.init (withTable m ops)).loop hpos hr
  rw [List.nil_append] at hends
  -- how many were done is what the answers of the callback say, and `done` is that much of the list
  have hlength : done.length = lookedUp a fields := by
    rw [hends.length_done hpos, ← hsplit, List.length_zipIdx]
    rfl
  have htake : fields.zipIdx.take (lookedUp a fields) = done := by
    rw [hsplit, ← hlength, List.take_left]
  refine ⟨r, left, hr, ?_, ?_⟩ <;> rw [htake]
  · exact hsplit
  · exact hends

section Ends

variable {toBits} {ops : List AverageOp} {a : RocpValueGetAnswers} {fields : List RdcFieldKey}
variable {left : List (RdcFieldKey × Nat)} {last : Option Status}
variable {s : Batch.Loop RocpModule RdcGpuFieldValue}

/-- What the end of the loop says about the values and the table. -/
theorem ends_values (hempty : AllEmpty m.base) (hin : ∀ k ∈ fields, InTables m k)
    (hreads : ∀ i, (a.runs i).rawValue ≠ none)
    (h : Batch.Ends bulkFieldsMax (fetchOne toBits a) a.callback (· = .ok) (withTable m ops)
      (fields.zipIdx.take (lookedUp a fields)) left last s) :
    s.state = withTable m (ops ++ (RocpCall.valueGet a fields).tableOps)
    ∧ ∀ i k, fields[i]? = some k → s.handed.flatten[i]?
      = if i < lookedUp a fields then some (reportedAs toBits a m.base.average (k, i)
          (rawValues k (ops ++ (fields.zipIdx.take (i + 1)).map (lookupOp a.runs))))
        else none := by
  obtain ⟨values, hmake, hvalues⟩ := makeAll_fetchOne toBits a hempty
    (fields.zipIdx.take (lookedUp a fields)) ops
    (fun field hmem => hin _ (List.fst_mem_of_mem_zipIdx (List.mem_of_mem_take hmem))) hreads
  have hmade := h.made
  rw [hmake, Option.some.injEq, Prod.mk.injEq] at hmade
  obtain ⟨hflatten, hstate⟩ := hmade
  refine ⟨hstate.symm, fun i k hk => ?_⟩
  have hitem : fields.zipIdx[i]? = some (k, i) := by
    rw [List.getElem?_zipIdx, hk, Option.map_some, Nat.zero_add]
  rw [← hflatten]
  -- looked up before the refusal, or never
  split
  · next hlt =>
      have htaken : (fields.zipIdx.take (lookedUp a fields))[i]? = some (k, i) := by
        rw [List.getElem?_take_of_lt hlt, hitem]
      rw [hvalues i (k, i) htaken, List.take_take, Nat.min_eq_left hlt]
  · next hge =>
      rw [List.getElem?_eq_none]
      rw [Batch.length_makeAll hmake, List.length_take]
      omega

theorem ends_nil (h : Batch.Ends bulkFieldsMax (fetchOne toBits a) a.callback (· = .ok)
    (withTable m ops) [] left last s) : s.handed = [] := by
  cases hhanded : s.handed with
  | nil => rfl
  | cons batch rest =>
    have hlen := Batch.length_makeAll h.made
    rw [hhanded, List.flatten_cons, List.length_append, List.length_nil] at hlen
    have hnil := List.length_eq_zero_iff.mp (Nat.eq_zero_of_add_eq_zero_right hlen)
    exact absurd hnil (h.size batch (hhanded ▸ List.mem_cons_self ..)).1

end Ends

theorem valueGet_reports (hempty : AllEmpty m.base) (ops : List AverageOp) (a : RocpValueGetAnswers)
    (hin : ∀ k ∈ fields, InTables m k) (hreads : ∀ i, (a.runs i).rawValue ≠ none) :
    ∃ status batches, rdcTelemetryFieldsValueGet toBits a (some (withTable m ops)) fields
        = some (status, batches,
            some (withTable m (ops ++ (RocpCall.valueGet a fields).tableOps)))
      ∧ Reports toBits a m ops fields status batches := by
  obtain ⟨r, left, hr, hsplit, hends⟩ := loop_ends toBits hempty ops a hin hreads
  obtain ⟨hstate, hvalues⟩ := ends_values hempty hin hreads hends
  refine ⟨r.1.getD .unknownError, r.2.handed, ?_, hvalues, ?_, hends.full, hends.size, ?_, ?_, ?_⟩
  · unfold rdcTelemetryFieldsValueGet
    dsimp only
    rw [hr, Option.map_some, hstate]
  · have hpos : 0 < bulkFieldsMax := by decide
    rw [Batch.length_makeAll hends.made, hends.length_done hpos, ← hsplit, List.length_zipIdx]
    rfl
  · intro i hi
    exact of_decide_eq_true (hends.accepted i hi)
  · rintro rfl
    have hnil := ends_nil hends
    rw [(hends.empty hnil).1]
    exact ⟨hnil, rfl⟩
  · intro i hi
    rw [(hends.last i hi).1]
    rfl

theorem resetAll_eq (b : RdcRocpBase) (fields : List RdcFieldKey) :
    b.rdcTelemetryFieldsUnwatch fields = run RdcRocpBase.exec b (fields.map .resetAverage) := by
  unfold RdcRocpBase.rdcTelemetryFieldsUnwatch Machine.run
  rw [List.foldl_map]
  rfl

theorem unwatch_withTable (rocp : Option RocpModule) (ops : List AverageOp)
    (fields : List RdcFieldKey) :
    rdcTelemetryFieldsUnwatch (rocp.map fun m => withTable m ops) fields
      = rocp.map fun m => withTable m (ops ++ fields.map .resetAverage) := by
  simp only [withTable_append]
  unfold rdcTelemetryFieldsUnwatch
  rw [Option.map_map]
  simp only [resetAll_eq]
  rfl

theorem RocpCall.exec_eq (hempty : AllEmpty m.base) (ops : List AverageOp) {call : RocpCall}
    (hin : call.Served m) :
    call.exec toBits (some (withTable m ops))
      = some (some (withTable m (ops ++ call.tableOps))) := by
  cases call with
  | valueGet a fields =>
    obtain ⟨status, batches, heq, -⟩ := valueGet_reports toBits hempty ops a hin.1 hin.2
    unfold RocpCall.exec
    dsimp only
    rw [heq, Option.map_some]
  | unwatch fields => exact congrArg some (unwatch_withTable (some m) ops fields)

/-- **Run.** -/
theorem calls_eq (hempty : AllEmpty m.base) (calls : List RocpCall)
    (hin : ∀ call ∈ calls, call.Served m) :
    calls.foldlM (RocpCall.exec toBits) (some m)
      = some (some (withTable m (calls.flatMap RocpCall.tableOps))) := by
  induction calls using List.reverseRecOn with
  | nil => rfl
  | append_singleton calls call ih =>
    have hrest := ih fun c hc => hin c (List.mem_append_left _ hc)
    rw [List.foldlM_append, hrest]
    have hcall := RocpCall.exec_eq toBits hempty (calls.flatMap RocpCall.tableOps)
      (hin call (by simp))
    simp only [bind, Option.bind_some, List.foldlM_cons, List.foldlM_nil, hcall, pure,
      List.flatMap_append, List.flatMap_singleton]

theorem create_of_loaded {value : Option String} {answers : RocpAnswers} {status : Status}
    {m : RocpModule} (hm : rdcModuleInit value answers = some (status, some m)) :
    RocpModule.create answers = some m := by
  unfold rdcModuleInit at hm
  split at hm
  · simp at hm
  · obtain ⟨m', hcreate, heq⟩ := Option.map_eq_some_iff.mp hm
    rw [hcreate, Option.some.inj (Prod.mk.inj heq).2]

/-- What the initialisation leaves: a table of empty buffers, for fields of the list. -/
theorem rdcModuleInit_loaded {value : Option String} {answers : RocpAnswers} {status : Status}
    {m : RocpModule} (hm : rdcModuleInit value answers = some (status, some m)) :
    AllEmpty m.base ∧ Offered m.base := by
  obtain ⟨b, hb, rfl⟩ := Option.map_eq_some_iff.mp (create_of_loaded hm)
  exact ⟨create_allEmpty hb, create_offered hb⟩

/-- **The values of a fetch**, after any calls on the module that the hardware's answers made, with
runs of the counters that succeed and read finite numbers: the fields are reported in order in
batches of sixteen until the callback refuses one, each as the mean of the last five readings of its
pair since the last reset of it. -/
theorem values_reported (toBits : Option ℚ → Nat) (value : Option String) (answers : RocpAnswers)
    (m : RocpModule) (hm : rdcModuleInit value answers = some (.ok, some m))
    (calls : List RocpCall) (hcalls : ∀ call ∈ calls, call.Served m)
    (a : RocpValueGetAnswers) (fields : List RdcFieldKey) (hin : ∀ k ∈ fields, InTables m k)
    (hreads : ∀ i, (a.runs i).rawValue ≠ none) :
    ∃ before status batches after, calls.foldlM (RocpCall.exec toBits) (some m) = some before
      ∧ rdcTelemetryFieldsValueGet toBits a before fields = some (status, batches, after)
      ∧ Reports toBits a m (calls.flatMap RocpCall.tableOps) fields status batches := by
  have hempty := (rdcModuleInit_loaded hm).1
  obtain ⟨status, batches, hget, hreports⟩ :=
    valueGet_reports toBits hempty (calls.flatMap RocpCall.tableOps) a hin hreads
  exact ⟨_, status, batches, _, calls_eq toBits hempty calls hcalls, hget, hreports⟩

/-- A run of a counter that reads `value`. -/
def reading (value : Int) : CounterRun := ⟨true, .int64 value, 10⟩

theorem rawValue_reading (value : Int) : (reading value).rawValue ≠ none := by
  rintro ⟨⟩

theorem mixedGpus_module :
    ∃ m, rdcModuleInit none mixedGpus = some (.ok, some m)
      ∧ InTables m (0, 802) ∧ (0, 802) ∈ m.base.average := by
  have hcreated : (RocpModule.create mixedGpus).map (fun m => decide (0 < m.agentCount
      ∧ 802 ∈ m.base.fieldToMetric ∧ (0, 802) ∈ m.base.average)) = some true := by decide +kernel
  obtain ⟨m, hm, hall⟩ := Option.map_eq_some_iff.mp hcreated
  obtain ⟨hgpu, hfield, hmem⟩ := of_decide_eq_true hall
  refine ⟨m, ?_, ⟨hgpu, hfield⟩, hmem⟩
  unfold rdcModuleInit isRocpDisabled
  rw [hm]
  rfl

/-- The second of two readings is reported as the mean of both. -/
theorem values_reported_twoReadings :
    ∃ m before status batches after, rdcModuleInit none mixedGpus = some (.ok, some m)
      ∧ [RocpCall.valueGet ⟨7, fun _ => reading 10, fun _ => .ok⟩ [(0, 802)]].foldlM
          (RocpCall.exec fun v => (v.getD 0).num.toNat) (some m) = some before
      ∧ rdcTelemetryFieldsValueGet (fun v => (v.getD 0).num.toNat)
          ⟨8, fun _ => reading 20, fun _ => .ok⟩ before [(0, 802)] = some (status, batches, after)
      ∧ batches.flatten[0]? = some ⟨0, ⟨802, 0, 8, .double, .dbl 15⟩⟩ := by
  obtain ⟨m, hm, hin, hmem⟩ := mixedGpus_module
  have hserved : ∀ k ∈ [((0, 802) : RdcFieldKey)], InTables m k := by
    intro k hk
    rw [List.mem_singleton.mp hk]
    exact hin
  obtain ⟨before, status, batches, after, hbefore, hget, hreports⟩ :=
    values_reported (fun v => (v.getD 0).num.toNat) none mixedGpus m hm
      [.valueGet ⟨7, fun _ => reading 10, fun _ => .ok⟩ [(0, 802)]]
      (fun call hcall => List.mem_singleton.mp hcall ▸ ⟨hserved, fun _ => rawValue_reading 10⟩)
      ⟨8, fun _ => reading 20, fun _ => .ok⟩ [(0, 802)] hserved (fun _ => rawValue_reading 20)
  refine ⟨m, before, status, batches, after, hm, hbefore, hget, ?_⟩
  refine (hreports.values 0 (0, 802) rfl).trans ?_
  have hlooked :
      0 < lookedUp ⟨8, fun _ => reading 20, fun _ => .ok⟩ [((0, 802) : RdcFieldKey)] := by
    decide
  unfold reportedAs
  rw [if_pos hlooked, if_pos hmem]
  decide +kernel

end Calls

/-! ## The log of the daemon -/

/-- The part of a request that goes to the profiler. -/
def profilerPart (m : RocpModule) (fields : List RdcFieldKey) : List RdcFieldKey :=
  fields.filter fun k => k.2 ∈ m.base.fieldToMetric

/-- The fetches made so far and the calls on the table, after one more call of the daemon. -/
def logTurn (a : ProfilerAnswers) (m : RocpModule) (log : Nat × List AverageOp) :
    ModuleCall → Nat × List AverageOp
  | .fieldsValueGet fields =>
    (log.1 + 1, log.2 ++ (profilerPart m fields).zipIdx.map (lookupOp (a.runs log.1)))
  | .fieldsUnwatch fields => (log.1, log.2 ++ (profilerPart m fields).map .resetAverage)
  | .setListenEvents _ | .stopListening _ | .fieldsWatch _ => log

/-- The calls on the table that a log of the daemon stands for, after the number of its fetches. -/
def tableLog (a : ProfilerAnswers) (m : RocpModule) (calls : List ModuleCall) :
    Nat × List AverageOp :=
  calls.foldl (logTurn a m) (0, [])

/-- A fetch of the daemon that fits: into the array of the dispatcher, and its profiler fields into
the tables. -/
def FitsTables (m : RocpModule) (fields : List RdcFieldKey) : Prop :=
  fields.length ≤ maxNumFields ∧ ∀ k ∈ profilerPart m fields, k.1 < m.agentCount

section Log

variable {m : RocpModule} (a : ProfilerAnswers)

/-- A field goes to the profiler exactly if the profiler offers it: no such field is claimed by
`RdcSmiLib`, which is asked first. -/
theorem firstClaim_rocp (h : Offered m.base) (field : Nat) :
    firstClaim (ProfilerSide.query (some m)) daemonModules field = some .rocp
      ↔ field ∈ m.base.fieldToMetric := by
  have hsmi : claimed (ProfilerSide.query (some m)) .smi = smiFields := rfl
  have hrocp : claimed (ProfilerSide.query (some m)) .rocp = m.base.fieldToMetric.keys := rfl
  have hdisjoint : ∀ field ∈ rocpFields, field ∉ smiFields := by decide
  unfold firstClaim daemonModules
  rw [List.find?_cons, List.find?_cons, List.find?_nil, hsmi, hrocp]
  by_cases hmem : field ∈ m.base.fieldToMetric
  · have hno := hdisjoint field (h.listed field hmem)
    simp [hno, hmem]
  · by_cases hs : field ∈ smiFields <;> simp [hs, hmem]

/-- The part of the profiler is carried out once, if there is one. -/
theorem handTo_profilerPart (hoffered : Offered m.base) {handed : Handed TelemetryLib}
    (h : Partitioned (ProfilerSide.query (some m)) daemonModules fields handed)
    (f : Option RocpModule → List RdcFieldKey → Option (Option RocpModule))
    (hnil : ∀ rocp, f rocp [] = some rocp) (rocp : Option RocpModule) :
    ProfilerSide.handTo f handed rocp = f rocp (profilerPart m fields) := by
  have hpart : (fields.filter fun key =>
      firstClaim (ProfilerSide.query (some m)) daemonModules key.2 = some .rocp)
        = profilerPart m fields := by
    unfold profilerPart
    simp only [firstClaim_rocp hoffered]
  have hmem := h.toModules .rocp (profilerPart m fields)
  rw [hpart] at hmem
  let g : Option (Option RocpModule) → List RdcFieldKey → Option (Option RocpModule) :=
    fun r keys => r.bind (f · keys)
  have hfold : ProfilerSide.handTo f handed rocp = handed.toModules.foldl
      (fun r p => if p.1 = .rocp then g r p.2 else r) (some rocp) := rfl
  rw [hfold]
  -- an empty part is not handed out, and carrying it out would do nothing
  by_cases hempty : profilerPart m fields = []
  · rw [hempty, hnil]
    refine foldl_part_of_not_mem g (fun q hq heq => ?_) (some rocp)
    have hq' := (h.toModules q.1 q.2).mp hq
    rw [heq, hpart, hempty] at hq'
    exact hq'.1 hq'.2
  · exact foldl_part_of_mem g h.once (hmem.mpr ⟨hempty, rfl⟩) (some rocp)

/-- What has to hold between the profiler side and the log. -/
structure Follows (m : RocpModule) (log : Nat × List AverageOp) (s : ProfilerSide) : Prop where
  routed : FirstClaims (ProfilerSide.query (some m)) daemonModules s.dispatcher.fieldsIdModule
  fetches : s.fetches = log.1
  table : s.rocp = some (withTable m log.2)

/-- No module claims more fields than the array of the query has room for. -/
theorem length_claimed_le (h : Offered m.base) :
    ∀ ptr ∈ daemonModules, (claimed (ProfilerSide.query (some m)) ptr).length ≤ maxNumFields := by
  intro ptr _
  cases ptr with
  | smi => exact (by decide : smiFields.length ≤ maxNumFields)
  | rocp =>
    have hrocp : rocpFields.length ≤ maxNumFields := by decide
    have hnodup : m.base.fieldToMetric.keys.Nodup := ExtTreeMap.nodup_keys
    refine (List.subperm_of_subset hnodup fun field hf => ?_).length_le.trans hrocp
    exact h.listed field (ExtTreeMap.mem_keys.mp hf)

theorem create_follows (h : Offered m.base) :
    ∃ start, ProfilerSide.create (some m) = some start ∧ Follows m (0, []) start := by
  obtain ⟨dispatcher, hd, -, hrouted⟩ := create_firstClaims (length_claimed_le h)
  refine ⟨⟨dispatcher, some m, 0⟩, ?_, hrouted, rfl, rfl⟩
  unfold ProfilerSide.create
  rw [show [TelemetryLib.smi, .rocp] = daemonModules from rfl, hd]
  rfl

theorem lookedUp_of_accepted (curTime : Nat) (runs : Nat → CounterRun) (fields : List RdcFieldKey) :
    lookedUp ⟨curTime, runs, fun _ => .ok⟩ fields = fields.length := by
  have hnone : ((List.range ((fields.length - 1) / bulkFieldsMax)).find?
      fun _ => !decide (Status.ok = .ok)) = none := by
    rw [List.find?_eq_none]
    exact fun _ _ => by simp
  unfold lookedUp Batch.stopsAt
  rw [hnone]
  rfl

variable {a}

/-- **Step.** A call of the daemon does to the table what its turn in the log says. -/
theorem Follows.onCall (hempty : AllEmpty m.base) (hoffered : Offered m.base)
    {log : Nat × List AverageOp} {s : ProfilerSide} (h : Follows m log s) {call : ModuleCall}
    (hfits : ∀ fields, call = .fieldsValueGet fields → FitsTables m fields) :
    ∃ s', ProfilerSide.onCall a s call = some s' ∧ Follows m (logTurn a m log call) s' := by
  cases call with
  | setListenEvents fields => exact ⟨s, rfl, h⟩
  | stopListening gpu => exact ⟨s, rfl, h⟩
  | fieldsWatch fields =>
    -- the profiler does nothing about a watch
    exact ⟨_, rfl, firstClaims_dispatch h.routed (.fieldsWatch fields a.uninit), h.fetches,
      h.table⟩
  | fieldsUnwatch fields =>
    obtain ⟨handed, heq, hpart⟩ := handOut_partitioned h.routed fields a.uninit
    have hdispatch : (s.dispatcher.dispatch (.fieldsUnwatch fields a.uninit)).1 = some handed :=
      heq
    have hcall := RocpCall.exec_eq a.toBits hempty log.2
      (show (RocpCall.unwatch (profilerPart m fields)).Served m from trivial)
    refine ⟨⟨(s.dispatcher.dispatch (.fieldsUnwatch fields a.uninit)).2,
      some (withTable m (logTurn a m log (.fieldsUnwatch fields)).2), s.fetches⟩, ?_,
      firstClaims_dispatch h.routed (.fieldsUnwatch fields a.uninit), h.fetches, rfl⟩
    unfold ProfilerSide.onCall
    dsimp only
    rw [hdispatch, Option.bind_some, handTo_profilerPart hoffered hpart _
      (fun rocp => by cases rocp <;> rfl), h.table]
    exact congrArg (Option.map _) hcall
  | fieldsValueGet fields =>
    obtain ⟨hlength, hgpus⟩ := hfits fields rfl
    -- the dispatcher's array is large enough, the profiler gets its part, and serves all of it
    have hdispatched := (dispatch_partitioned_iff h.routed (.fieldsValueGet fields a.uninit)).mpr
      fun ptr => (List.length_filter_le _ fields).trans hlength
    obtain ⟨handed, hdispatch, hpart⟩ := hdispatched
    rw [TelemetryCall.fields] at hpart
    have hserved : ∀ k ∈ profilerPart m fields, InTables m k := fun k hk =>
      ⟨hgpus k hk, of_decide_eq_true (List.mem_filter.mp hk).2⟩
    obtain ⟨status, batches, hget, -⟩ := valueGet_reports a.toBits hempty log.2
      ⟨a.curTime log.1, a.runs log.1, fun _ => .ok⟩ hserved (a.reads log.1)
    have hfetch : ProfilerSide.fetch a log.1 (some (withTable m log.2)) (profilerPart m fields)
        = some (some (withTable m (logTurn a m log (.fieldsValueGet fields)).2)) := by
      unfold ProfilerSide.fetch
      rw [hget, Option.map_some]
      unfold RocpCall.tableOps
      dsimp only
      rw [lookedUp_of_accepted, List.take_of_length_le (List.length_zipIdx ..).le]
      rfl
    refine ⟨⟨(s.dispatcher.dispatch (.fieldsValueGet fields a.uninit)).2,
      some (withTable m (logTurn a m log (.fieldsValueGet fields)).2), s.fetches + 1⟩, ?_,
      firstClaims_dispatch h.routed (.fieldsValueGet fields a.uninit),
      congrArg Nat.succ h.fetches, rfl⟩
    unfold ProfilerSide.onCall
    dsimp only
    rw [hdispatch, Option.bind_some, handTo_profilerPart hoffered hpart _
      (fun rocp => by cases rocp <;> rfl), h.table, h.fetches, hfetch]
    rfl

/-- **Run.** From the last call backwards, since the log is made from the first one on. -/
theorem replay_follows (hempty : AllEmpty m.base) (hoffered : Offered m.base) {start : ProfilerSide}
    (h : Follows m (0, []) start) (calls : List ModuleCall)
    (hfits : ∀ fields, .fieldsValueGet fields ∈ calls → FitsTables m fields) :
    ∃ s, ProfilerSide.replay a start calls = some s ∧ Follows m (tableLog a m calls) s := by
  induction calls using List.reverseRecOn with
  | nil => exact ⟨start, rfl, h⟩
  | append_singleton calls call ih =>
    obtain ⟨s, hreplay, hs⟩ := ih fun fields hf => hfits fields (List.mem_append_left _ hf)
    obtain ⟨s', hcall, hs'⟩ := hs.onCall (a := a) hempty hoffered
      fun fields (heq : call = _) => hfits fields (by rw [heq]; simp)
    refine ⟨s', ?_, ?_⟩
    · unfold ProfilerSide.replay at hreplay ⊢
      rw [List.foldlM_append, hreplay]
      simp only [bind, Option.bind_some, List.foldlM_cons, List.foldlM_nil, hcall, pure]
    · unfold tableLog
      rw [List.foldl_concat]
      exact hs'

end Log

/-! ## A key that is not watched has no readings -/

theorem rawValues_lookups (runs : Nat → CounterRun) (ops : List AverageOp)
    {fields : List (RdcFieldKey × Nat)} (h : ∀ field ∈ fields, field.1 ≠ k) :
    rawValues k (ops ++ fields.map (lookupOp runs)) = rawValues k ops := by
  induction fields using List.reverseRecOn with
  | nil => rw [List.map_nil, List.append_nil]
  | append_singleton fields field ih =>
    rw [List.map_append, List.map_singleton, ← List.append_assoc]
    refine (rawValues_concat ..).trans ((if_neg (h field (by simp))).trans ?_)
    exact ih fun f hf => h f (List.mem_append_left _ hf)

theorem rawValues_resets (k : RdcFieldKey) (ops : List AverageOp) (fields : List RdcFieldKey) :
    rawValues k (ops ++ fields.map .resetAverage)
      = if k ∈ fields then [] else rawValues k ops := by
  induction fields using List.reverseRecOn with
  | nil => rw [List.map_nil, List.append_nil, if_neg List.not_mem_nil]
  | append_singleton fields field ih =>
    rw [List.map_append, List.map_singleton, ← List.append_assoc]
    refine (rawValues_concat ..).trans ?_
    by_cases hk : field = k
    · simp [hk]
    · simp only [if_neg hk, ih, List.mem_append, List.mem_singleton, Ne.symm hk, or_false]

section Watched

variable (a : ProfilerAnswers) (m : RocpModule)

/-- The readings of a key in the log, since it was last released. -/
def readingsOf (k : RdcFieldKey) (calls : List ModuleCall) : List ℚ :=
  rawValues k (tableLog a m calls).2

/-- A key of the profiler that has no watching record has no readings since its release. -/
def ReleasedKeys (d : Daemon) : Prop :=
  ∀ k : RdcFieldKey, k.2 ∈ m.base.fieldToMetric → ¬ RecordWatching d.fieldsToWatch k →
    readingsOf a m k d.moduleCalls = []

variable {a m}

theorem mem_profilerPart (hk : k.2 ∈ m.base.fieldToMetric) :
    k ∈ profilerPart m fields ↔ k ∈ fields := by
  unfold profilerPart
  rw [List.mem_filter, decide_eq_true_eq]
  exact and_iff_left hk

theorem readingsOf_watch (k : RdcFieldKey) (calls : List ModuleCall)
    (events watching : List RdcFieldKey) :
    readingsOf a m k (calls ++ [.setListenEvents events, .fieldsWatch watching])
      = readingsOf a m k calls := by
  unfold readingsOf tableLog
  rw [List.foldl_append]
  rfl

theorem readingsOf_unwatch (hk : k.2 ∈ m.base.fieldToMetric) (calls : List ModuleCall)
    (gpus : List Nat) (released : List RdcFieldKey) :
    readingsOf a m k (calls ++ gpus.map ModuleCall.stopListening ++ [.fieldsUnwatch released])
      = if k ∈ released then [] else readingsOf a m k calls := by
  have hstop : ∀ log, (gpus.map ModuleCall.stopListening).foldl (logTurn a m) log = log := by
    intro log
    induction gpus with
    | nil => rfl
    | cons gpu gpus ih => exact ih
  unfold readingsOf tableLog
  rw [List.foldl_concat, List.foldl_append, hstop]
  refine (rawValues_resets ..).trans ?_
  simp only [mem_profilerPart hk]

theorem readingsOf_fetch (calls : List ModuleCall) (hnot : k ∉ fields) :
    readingsOf a m k (calls ++ [.fieldsValueGet fields]) = readingsOf a m k calls := by
  unfold readingsOf tableLog
  rw [List.foldl_concat]
  refine rawValues_lookups _ _ fun field hfield heq => hnot ?_
  rw [← heq]
  exact List.mem_of_mem_filter (List.fst_mem_of_mem_zipIdx hfield)

theorem recordWatching_of_fetch {now : Nat} (h : k ∈ d.fieldsToFetch now) :
    RecordWatching d.fieldsToWatch k := by
  obtain ⟨p, hp, rfl⟩ := List.mem_map.mp h
  obtain ⟨hmem, hdue⟩ := List.mem_filter.mp hp
  rw [Bool.and_eq_true] at hdue
  exact ⟨p.2, ExtTreeMap.mem_toList_iff_getElem?_eq_some.mp hmem, hdue.1⟩

theorem releasedKeys_watch (h : ReleasedKeys a m d) (tel : Telemetry) (g fg freq : Nat) (age : ℚ)
    (samples : Nat) : ReleasedKeys a m (d.rdcFieldWatch tel g fg freq age samples).2 := by
  intro k hk hnot
  rcases rdcFieldWatch_log tel d g fg freq age samples with
    ⟨hcalls, hfields⟩ | ⟨events, watching, hcalls, -, hold⟩
  · rw [hfields] at hnot
    rw [hcalls]
    exact h k hk hnot
  · rw [hcalls, readingsOf_watch]
    exact h k hk fun hw => hnot (hold k hw)

theorem releasedKeys_unwatch (hoffered : Offered m.base) (h : ReleasedKeys a m d) (g fg now : Nat) :
    ReleasedKeys a m (d.rdcFieldUnwatch g fg now).2 := by
  intro k hk hnot
  have hevent : isNotificationEvent k.2 = false :=
    Telemetry.modules_not_notification k.2 (List.mem_append_right _ (hoffered.listed k.2 hk))
  rcases rdcFieldUnwatch_log d g fg now with
    ⟨hcalls, hfields⟩ | ⟨gpus, released, hcalls, hnew⟩
  · rw [hfields] at hnot
    rw [hcalls]
    exact h k hk hnot
  · rw [hcalls, readingsOf_unwatch hk]
    split
    · rfl
    · next hkept => exact h k hk fun hw => hnot ((hnew k hevent).mpr ⟨hw, hkept⟩)

theorem releasedKeys_updateAll (h : ReleasedKeys a m d) (now : Nat)
    (delivered : List (Nat × RdcGpuFieldValue)) (clock : CleanUpClock) :
    ReleasedKeys a m (d.rdcFieldUpdateAll now delivered clock).2 := by
  intro k hk hnot
  have hwatching := (updateInv_watching (RecordWatching d.fieldsToWatch)).updateAll
    (fun k => Iff.rfl) now delivered clock
  rw [hwatching k] at hnot
  rw [rdcFieldUpdateAll_moduleCalls]
  unfold fetched
  split
  · exact h k hk hnot
  · rw [handleFields_moduleCalls]
    refine (readingsOf_fetch d.moduleCalls fun hfetch => ?_).trans (h k hk hnot)
    exact hnot (recordWatching_of_fetch hfetch)

theorem releasedKeys_notifUpdateCache (h : ReleasedKeys a m d) (events : List RdcEvntNotification) :
    ReleasedKeys a m (d.rdcNotifUpdateCache events).2 := by
  intro k hk hnot
  have hwatching := (updateInv_watching (RecordWatching d.fieldsToWatch)).notifUpdateCache
    (fun k => Iff.rfl) events
  rw [hwatching k] at hnot
  rw [notifUpdateCache_moduleCalls]
  exact h k hk hnot

theorem releasedKeys_exec (hoffered : Offered m.base) (h : ReleasedKeys a m d) (tel : Telemetry)
    (op : Op) : ReleasedKeys a m (d.exec tel op).2 := by
  by_cases hbrings : Brings op
  · cases op with
    | fieldUpdateAll now delivered clock => exact releasedKeys_updateAll h now delivered clock
    | notifUpdateCache events => exact releasedKeys_notifUpdateCache h events
    | _ => exact absurd hbrings (by simp [Brings])
  · have hclient : ClientInv tel (fun _ => True) (ReleasedKeys a m) :=
      { jobs := fun _ _ hd => hd
        watch := fun g fg freq age samples _ hd => releasedKeys_watch hd tel g fg freq age samples
        unwatch := fun g fg now hd => releasedKeys_unwatch hoffered hd g fg now }
    refine hclient.exec h hbrings (fun _ _ => trivial) ?_
    intro hgroup
    cases op <;> first | exact absurd hgroup id | exact h

end Watched

/-- **No average reaches back behind a release.** After every history of a daemon whose fetches fit,
the buffer of a key holds the last five readings made since the key was last released, and that of a
key without a watching record is empty. -/
theorem averages_within_watch (value : Option String) (answers : RocpAnswers) (m : RocpModule)
    (hm : rdcModuleInit value answers = some (.ok, some m)) (tel : Telemetry) (a : ProfilerAnswers)
    (ops : List Op)
    (hfits : ∀ fields,
      .fieldsValueGet fields ∈ (run (Daemon.exec tel) Daemon.init ops).moduleCalls →
        FitsTables m fields) :
    let d := run (Daemon.exec tel) Daemon.init ops
    ∃ start side m', ProfilerSide.create (some m) = some start
      ∧ ProfilerSide.replay a start d.moduleCalls = some side ∧ side.rocp = some m'
      ∧ ∀ k avg, m'.base.average[k]? = some avg →
          avg.Holds (readingsOf a m k d.moduleCalls)
          ∧ (¬ RecordWatching d.fieldsToWatch k → avg.buffer = []) := by
  intro d
  obtain ⟨hempty, hoffered⟩ := rdcModuleInit_loaded hm
  obtain ⟨start, hstart, hfollows⟩ := create_follows hoffered
  obtain ⟨side, hreplay, hside⟩ := replay_follows (a := a) hempty hoffered hfollows d.moduleCalls
    hfits
  refine ⟨start, side, _, hstart, hreplay, hside.table, ?_⟩
  intro k avg hget
  have hholds := averages_run hempty (tableLog a m d.moduleCalls).2 k avg hget
  refine ⟨hholds, fun hnot => ?_⟩
  -- whoever is not watched was released, or never fetched, and has no readings since
  have hinit : ReleasedKeys a m Daemon.init := fun _ _ _ => rfl
  have hreleased := run_invariant (I := ReleasedKeys a m)
    (fun d op h => releasedKeys_exec hoffered h tel op) hinit ops
  have hmem : k ∈ m.base.average := (mem_average_run m.base (tableLog a m d.moduleCalls).2 k).mp
    (ExtTreeMap.mem_iff_isSome_getElem?.mpr (Option.isSome_of_eq_some hget))
  have hnone : rawValues k (tableLog a m d.moduleCalls).2 = [] :=
    hreleased k (hoffered.buffered k hmem) hnot
  have hlen := hholds.length
  rw [hnone, List.length_nil, Nat.zero_min] at hlen
  exact List.length_eq_zero_iff.mp hlen

/-- One GPU and one field of the profiler, watched, fetched and unwatched. -/
def watchWaves : List Op :=
  [.groupGpuCreate [], .groupGpuAdd 1 0, .groupFieldCreate [802] [], .fieldWatch 1 1 1000 1 10,
    .fieldUpdateAll 5000 [] ⟨5000, fun _ => 5000⟩, .fieldUnwatch 1 1 6000]

/-- Telemetry with one field of the profiler. -/
def wavesOnly : Telemetry := Telemetry.ofModules [802] (by decide)

/-- What is answered while the field is fetched. -/
def wavesAnswers : ProfilerAnswers :=
  ⟨fun _ => 0, fun _ _ => reading 20, fun _ _ => rawValue_reading 20, fun _ => 0, zeroValue⟩

theorem averages_within_watch_watchWaves :
    ∃ m, rdcModuleInit none mixedGpus = some (.ok, some m) ∧
      let d := run (Daemon.exec wavesOnly) Daemon.init watchWaves
      .fieldsValueGet [(0, 802)] ∈ d.moduleCalls
      ∧ ∃ start side m', ProfilerSide.create (some m) = some start
        ∧ ProfilerSide.replay wavesAnswers start d.moduleCalls = some side ∧ side.rocp = some m'
        ∧ ∀ avg, m'.base.average[((0, 802) : RdcFieldKey)]? = some avg → avg.buffer = [] := by
  obtain ⟨m, hm, hin, -⟩ := mixedGpus_module
  have hcalls : (run (Daemon.exec wavesOnly) Daemon.init watchWaves).moduleCalls
      = [.setListenEvents [(0, 802)], .fieldsWatch [(0, 802)], .fieldsValueGet [(0, 802)],
          .fieldsUnwatch [(0, 802)]] := by decide +kernel
  have hrecord : ((run (Daemon.exec wavesOnly) Daemon.init watchWaves).fieldsToWatch[
      ((0, 802) : RdcFieldKey)]?).map FieldSettings.isWatching = some false := by decide +kernel
  have hreleased : ¬ RecordWatching
      (run (Daemon.exec wavesOnly) Daemon.init watchWaves).fieldsToWatch (0, 802) := by
    rintro ⟨r, hr, hw⟩
    rw [hr, Option.map_some, hw] at hrecord
    exact absurd hrecord (by decide)
  obtain ⟨start, side, m', hstart, hreplay, hrocp, hall⟩ :=
    averages_within_watch none mixedGpus m hm wavesOnly wavesAnswers watchWaves (by
      intro fields hmem
      rw [hcalls] at hmem
      obtain rfl : fields = [(0, 802)] := by simpa using hmem
      refine ⟨by decide, fun k hk => ?_⟩
      rw [List.mem_singleton.mp (List.mem_of_mem_filter hk)]
      exact hin.1)
  refine ⟨m, hm, ?_, start, side, m', hstart, hreplay, hrocp, fun avg hget => ?_⟩
  · rw [hcalls]
    simp
  · exact (hall (0, 802) avg hget).2 hreleased

end Rdc.Proof.Rocp
