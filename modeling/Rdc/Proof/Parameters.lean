import Rdc.Proof.Diagnostics

/-!
# The verdict on the parameters of the GPUs

`check_smi_param_info` compares the sensors of each GPU with the limits that can be read and keeps
the worst result. Four places do not say what they are about. The loops end before the last sensor
of each kind. The emergency limit of a temperature is never compared with: the critical one is, or
zero if there is none. The critical limits of a voltage are those of the null handle. And the index
of each GPU is written to the first record.

The comparison with the critical limit in place of the emergency one is harmless while there is one,
since the critical limit has been compared with before; so it shows only on sensors without.
-/

namespace Rdc.Proof

open Rdc

/-! ## What the thresholds say -/

/-- The limit is available, and the reading is at or above it. -/
def AtOrAbove (reading limit : AmdsmiStatus × Int) : Prop :=
  limit.1 = AmdsmiStatus.success ∧ limit.2 ≤ reading.2

/-- The limit is available, and the reading is at or below it. -/
def AtOrBelow (reading limit : AmdsmiStatus × Int) : Prop :=
  limit.1 = AmdsmiStatus.success ∧ reading.2 ≤ limit.2

/-- A result that is a failure if there is a reason to fail, and otherwise a warning if there is a
reason to warn. -/
structure IsVerdict (result : RdcDiagResult) (fails warns : Prop) : Prop where
  fail : result = .fail ↔ fails
  warn : result = .warn ↔ ¬ fails ∧ warns
  pass : result = .pass ↔ ¬ fails ∧ ¬ warns

section Thresholds

variable (a : SmiDiagAnswers)

/-- Some temperature of some GPU that can be read satisfies `P`. -/
def OnTemp (types : List TemperatureSensor) (gpus : List Nat)
    (P : Nat → TemperatureSensor → Prop) : Prop :=
  ∃ gpu ∈ gpus, ∃ type ∈ types,
    (a.tempMetric gpu type .current).1 = AmdsmiStatus.success ∧ P gpu type

/-- Some voltage of some GPU that can be read satisfies `P`. -/
def OnVolt (types : List VoltageSensor) (gpus : List Nat) (P : Nat → VoltageSensor → Prop) : Prop :=
  ∃ gpu ∈ gpus, ∃ type ∈ types,
    (a.voltMetric (some gpu) type .current).1 = AmdsmiStatus.success ∧ P gpu type

/-- A temperature at or above the critical one, or at or below the critical minimum. -/
def TempCritical (gpu : Nat) (type : TemperatureSensor) : Prop :=
  AtOrAbove (a.tempMetric gpu type .current) (a.tempMetric gpu type .critical)
    ∨ AtOrBelow (a.tempMetric gpu type .current) (a.tempMetric gpu type .critMin)

/-- A temperature at or above the emergency limit. -/
def TempEmergency (gpu : Nat) (type : TemperatureSensor) : Prop :=
  AtOrAbove (a.tempMetric gpu type .current) (a.tempMetric gpu type .emergency)

def TempWarns (gpu : Nat) (type : TemperatureSensor) : Prop :=
  AtOrAbove (a.tempMetric gpu type .current) (a.tempMetric gpu type .max)
    ∨ AtOrBelow (a.tempMetric gpu type .current) (a.tempMetric gpu type .min)

/-- A voltage outside the critical limits that are asked for with `handle`. -/
def VoltCritical (handle : Option Nat) (gpu : Nat) (type : VoltageSensor) : Prop :=
  AtOrAbove (a.voltMetric (some gpu) type .current) (a.voltMetric handle type .maxCrit)
    ∨ AtOrBelow (a.voltMetric (some gpu) type .current) (a.voltMetric handle type .minCrit)

def VoltWarns (gpu : Nat) (type : VoltageSensor) : Prop :=
  AtOrAbove (a.voltMetric (some gpu) type .current) (a.voltMetric (some gpu) type .max)
    ∨ AtOrBelow (a.voltMetric (some gpu) type .current) (a.voltMetric (some gpu) type .min)

section Among

variable (temps : List TemperatureSensor) (volts : List VoltageSensor) (gpus : List Nat)

/-- Some of the sensors is past one of its critical or emergency limits. -/
def FailsAmong : Prop :=
  OnTemp a temps gpus (fun gpu type => TempCritical a gpu type ∨ TempEmergency a gpu type)
    ∨ OnVolt a volts gpus fun gpu type => VoltCritical a (some gpu) gpu type

/-- Some of the sensors is past its maximum or minimum. -/
def WarnsAmong : Prop := OnTemp a temps gpus (TempWarns a) ∨ OnVolt a volts gpus (VoltWarns a)

end Among

/-- Some sensor is past one of its critical or emergency limits. -/
def Fails (gpus : List Nat) : Prop := FailsAmong a a.temperatureSensors a.voltageSensors gpus

/-- Some sensor is past its maximum or minimum. -/
def Warns (gpus : List Nat) : Prop := WarnsAmong a a.temperatureSensors a.voltageSensors gpus

/-- What the check of the parameters is to report. -/
structure ParamVerdict (gpus : List Nat) (r : RdcDiagTestResult) : Prop where
  status : IsVerdict r.status (Fails a gpus) (Warns a gpus)
  count : r.perGpuResultCount = gpus.length
  index : ∀ (i : Nat) (gpu : Nat), gpus[i]? = some gpu →
    r.gpuResults[i]?.map (·.gpuIndex) = some gpu

/-! ## What the code compares -/

/-- A temperature of zero or more on a sensor with an emergency limit and without a critical one:
this is what the check against the emergency limit adds. -/
def EmergencyAlone (gpu : Nat) (type : TemperatureSensor) : Prop :=
  (a.tempMetric gpu type .emergency).1 = AmdsmiStatus.success
    ∧ (a.tempMetric gpu type .critical).1 ≠ AmdsmiStatus.success
    ∧ 0 ≤ (a.tempMetric gpu type .current).2

/-- When the code fails. -/
def FailsAsCoded (gpus : List Nat) : Prop :=
  OnTemp a a.temperatureSensors.dropLast gpus
      (fun gpu type => TempCritical a gpu type ∨ EmergencyAlone a gpu type)
    ∨ OnVolt a a.voltageSensors.dropLast gpus (VoltCritical a none)

/-- When the code warns. -/
def WarnsAsCoded (gpus : List Nat) : Prop :=
  WarnsAmong a a.temperatureSensors.dropLast a.voltageSensors.dropLast gpus

/-- The last sensor of each kind, which the loops do not come to, is a reason to fail. -/
def LastFails (gpus : List Nat) : Prop :=
  FailsAmong a a.temperatureSensors.getLast?.toList a.voltageSensors.getLast?.toList gpus

/-- It is a reason to warn. -/
def LastWarns (gpus : List Nat) : Prop :=
  WarnsAmong a a.temperatureSensors.getLast?.toList a.voltageSensors.getLast?.toList gpus

/-- The limits that are not compared with, and those of the last sensors, make no difference to what
is compared in their place, or a critical temperature decides. -/
def LimitsAgree (gpus : List Nat) : Prop :=
  OnTemp a a.temperatureSensors.dropLast gpus (TempCritical a)
    ∨ (OnTemp a a.temperatureSensors.dropLast gpus (TempEmergency a)
          ∨ OnVolt a a.voltageSensors.dropLast gpus
              (fun gpu type => VoltCritical a (some gpu) gpu type)
          ∨ LastFails a gpus
        ↔ OnTemp a a.temperatureSensors.dropLast gpus (EmergencyAlone a)
          ∨ OnVolt a a.voltageSensors.dropLast gpus (VoltCritical a none))

/-- A last sensor is not alone in giving a reason to warn, unless there is one to fail. -/
def WarningsAgree (gpus : List Nat) : Prop :=
  Fails a gpus ∨ (LastWarns a gpus → WarnsAsCoded a gpus)

end Thresholds

/-! ## One sensor -/

namespace IsVerdict

variable {result result' : RdcDiagResult} {fails fails' warns warns' : Prop}

theorem of_pass : IsVerdict .pass False False := by
  constructor <;> simp

theorem congr (h : IsVerdict result fails warns) (hfails : fails ↔ fails')
    (hwarns : warns ↔ warns') : IsVerdict result fails' warns' := by
  rwa [propext hfails, propext hwarns] at h

/-- A verdict determines whether there was a reason to fail, and if there was none, whether there
was one to warn. -/
theorem iff_of_reasons (h : IsVerdict result fails warns) :
    IsVerdict result fails' warns' ↔ (fails ↔ fails') ∧ (fails' ∨ (warns ↔ warns')) := by
  constructor
  · intro h'
    have hfails : fails ↔ fails' := h.fail.symm.trans h'.fail
    refine ⟨hfails, or_iff_not_imp_left.mpr fun hno => ?_⟩
    have hwarns : ¬ fails ∧ warns ↔ ¬ fails' ∧ warns' := h.warn.symm.trans h'.warn
    rwa [hfails, and_iff_right hno, and_iff_right hno] at hwarns
  · rintro ⟨hfails, hyes | hwarns⟩
    · -- with a reason to fail, those to warn do not matter
      refine ⟨h.fail.trans hfails, h.warn.trans ?_, h.pass.trans ?_⟩ <;> simp [hfails, hyes]
    · exact h.congr hfails hwarns

theorem worse (h : IsVerdict result fails warns) (h' : IsVerdict result' fails' warns') :
    IsVerdict (if result'.num > result.num then result' else result) (fails ∨ fails')
      (warns ∨ warns') := by
  obtain ⟨hfail, hwarn, hpass⟩ := h
  obtain ⟨hfail', hwarn', hpass'⟩ := h'
  cases result <;> cases result' <;> constructor <;> simp_all [RdcDiagResult.num]

variable {limit : AmdsmiStatus × Int} {exceeded : Bool} {perGpu bad good : List UInt8}
  {s : SmiDiagnostic.Levels}

theorem checkLimit_fail (h : IsVerdict s.result fails warns) :
    IsVerdict (SmiDiagnostic.checkLimit limit exceeded .fail perGpu bad good s).result
      (fails ∨ limit.1 = AmdsmiStatus.success ∧ exceeded = true) warns := by
  obtain ⟨hfail, hwarn, hpass⟩ := h
  unfold SmiDiagnostic.checkLimit
  split
  · constructor <;> simp_all
  · split <;> constructor <;> simp_all

/-- A comparison that may warn, before there was one that fails. -/
theorem checkLimit_warn (h : IsVerdict s.result False warns) :
    IsVerdict (SmiDiagnostic.checkLimit limit exceeded .warn perGpu bad good s).result
      False (warns ∨ limit.1 = AmdsmiStatus.success ∧ exceeded = true) := by
  obtain ⟨hfail, hwarn, hpass⟩ := h
  unfold SmiDiagnostic.checkLimit
  split
  · constructor <;> simp_all
  · split <;> constructor <;> simp_all

end IsVerdict

/-- The reasons of a comparison with an upper limit and then with a lower one. -/
theorem beyond_iff (current above below : AmdsmiStatus × Int) :
    (False ∨ above.1 = AmdsmiStatus.success ∧ decide (current.2 ≥ above.2) = true)
        ∨ below.1 = AmdsmiStatus.success ∧ decide (current.2 ≤ below.2) = true
      ↔ AtOrAbove current above ∨ AtOrBelow current below := by
  rw [false_or, decide_eq_true_iff, decide_eq_true_iff]
  rfl

section Sensor

variable (a : SmiDiagAnswers) (gpu : Nat) (info perGpuInfo : List UInt8)

theorem temperatureLevels_isVerdict (type : TemperatureSensor) :
    IsVerdict (SmiDiagnostic.temperatureLevels a gpu type (a.tempMetric gpu type .current).2
        ⟨.pass, info, perGpuInfo⟩).result
      (TempCritical a gpu type ∨ EmergencyAlone a gpu type) (TempWarns a gpu type) := by
  unfold SmiDiagnostic.temperatureLevels
  refine IsVerdict.congr (.checkLimit_fail (.checkLimit_fail (.checkLimit_fail
    (.checkLimit_warn (.checkLimit_warn .of_pass))))) ?_ ?_
  · simp only [decide_eq_true_eq]
    unfold TempCritical EmergencyAlone AtOrAbove AtOrBelow
    -- where there is a critical limit, the check against the emergency limit repeats the one before
    by_cases hcritical : (a.tempMetric gpu type .critical).1 = AmdsmiStatus.success
    · simp only [hcritical, ne_eq, not_true_eq_false, if_false, false_or, true_and, false_and,
        and_false, or_false]
      rw [or_iff_left_of_imp And.right]
    · simp only [hcritical, ne_eq, not_false_eq_true, if_true, false_or, true_and, false_and]
      exact or_comm
  · exact beyond_iff ..

theorem voltageLevels_isVerdict (type : VoltageSensor) :
    IsVerdict (SmiDiagnostic.voltageLevels a gpu type (a.voltMetric (some gpu) type .current).2
        ⟨.pass, info, perGpuInfo⟩).result
      (VoltCritical a none gpu type) (VoltWarns a gpu type) := by
  unfold SmiDiagnostic.voltageLevels
  refine IsVerdict.congr (.checkLimit_fail (.checkLimit_fail
    (.checkLimit_warn (.checkLimit_warn .of_pass)))) ?_ ?_
  · exact beyond_iff ..
  · exact beyond_iff ..

end Sensor

/-! ## The loops -/

/-- A loop over sensors adds the reasons of the sensors that can be read. -/
theorem levelLoop_isVerdict {σ : Type} {reading : σ → AmdsmiStatus × Int}
    {check : σ → Int → SmiDiagnostic.Levels → SmiDiagnostic.Levels} {F W : σ → Prop}
    (hcheck : ∀ type info perGpuInfo,
      IsVerdict (check type (reading type).2 ⟨.pass, info, perGpuInfo⟩).result (F type) (W type))
    (sensors : List σ) {s : SmiDiagnostic.Levels} {fails warns : Prop}
    (h : IsVerdict s.result fails warns) :
    IsVerdict (sensors.foldl
        (fun s type => SmiDiagnostic.levelTurn (reading type) (check type) s) s).result
      (fails ∨ ∃ type ∈ sensors, (reading type).1 = AmdsmiStatus.success ∧ F type)
      (warns ∨ ∃ type ∈ sensors, (reading type).1 = AmdsmiStatus.success ∧ W type) := by
  induction sensors generalizing s fails warns with
  | nil => exact h.congr (by simp) (by simp)
  | cons type sensors ih =>
    rw [List.foldl_cons]
    have hturn : IsVerdict (SmiDiagnostic.levelTurn (reading type) (check type) s).result
        (fails ∨ (reading type).1 = AmdsmiStatus.success ∧ F type)
        (warns ∨ (reading type).1 = AmdsmiStatus.success ∧ W type) := by
      unfold SmiDiagnostic.levelTurn
      by_cases hreading : (reading type).1 = AmdsmiStatus.success
      · rw [if_neg fun hne => hne hreading]
        exact (h.worse (hcheck type s.info s.perGpuInfo)).congr (by simp [hreading])
          (by simp [hreading])
      · rw [if_pos hreading]
        exact h.congr (by simp [hreading]) (by simp [hreading])
    exact (ih hturn).congr (by simp [or_assoc]) (by simp [or_assoc])

section Loops

variable (a : SmiDiagAnswers)

theorem sensorLoops_isVerdict (gpu : Nat) {s : SmiDiagnostic.Levels} {fails warns : Prop}
    (h : IsVerdict s.result fails warns) :
    IsVerdict (SmiDiagnostic.sensorLoops a gpu s).result (fails ∨ FailsAsCoded a [gpu])
      (warns ∨ WarnsAsCoded a [gpu]) := by
  have htemp := levelLoop_isVerdict
    (fun type info perGpuInfo => temperatureLevels_isVerdict a gpu info perGpuInfo type)
    a.temperatureSensors.dropLast h
  have hvolt := levelLoop_isVerdict
    (fun type info perGpuInfo => voltageLevels_isVerdict a gpu info perGpuInfo type)
    a.voltageSensors.dropLast htemp
  refine hvolt.congr ?_ ?_
  · unfold FailsAsCoded OnTemp OnVolt
    simp [or_assoc]
  · unfold WarnsAsCoded WarnsAmong OnTemp OnVolt
    simp [or_assoc]

theorem onTemp_cons {types : List TemperatureSensor} (gpu : Nat) (gpus : List Nat)
    {P : Nat → TemperatureSensor → Prop} :
    OnTemp a types (gpu :: gpus) P ↔ OnTemp a types [gpu] P ∨ OnTemp a types gpus P := by
  unfold OnTemp
  simp

theorem onVolt_cons {types : List VoltageSensor} (gpu : Nat) (gpus : List Nat)
    {P : Nat → VoltageSensor → Prop} :
    OnVolt a types (gpu :: gpus) P ↔ OnVolt a types [gpu] P ∨ OnVolt a types gpus P := by
  unfold OnVolt
  simp

theorem failsAsCoded_cons (gpu : Nat) (gpus : List Nat) :
    FailsAsCoded a (gpu :: gpus) ↔ FailsAsCoded a [gpu] ∨ FailsAsCoded a gpus := by
  unfold FailsAsCoded
  rw [onTemp_cons a gpu gpus, onVolt_cons a gpu gpus]
  exact or_or_or_comm

theorem warnsAsCoded_cons (gpu : Nat) (gpus : List Nat) :
    WarnsAsCoded a (gpu :: gpus) ↔ WarnsAsCoded a [gpu] ∨ WarnsAsCoded a gpus := by
  unfold WarnsAsCoded WarnsAmong
  rw [onTemp_cons a gpu gpus, onVolt_cons a gpu gpus]
  exact or_or_or_comm

/-- The loop over the GPUs: the status adds the reasons of each, and the index of the last one is in
the first record. -/
theorem paramLoop_spec (gpus : List Nat) {i : Nat} (hlen : i + gpus.length ≤ rdcMaxNumDevices)
    {r : RdcDiagTestResult} {fails warns : Prop} (h : IsVerdict r.status fails warns) :
    ∃ r', SmiDiagnostic.paramLoop a gpus i r = some r'
      ∧ r'.perGpuResultCount = r.perGpuResultCount + gpus.length
      ∧ IsVerdict r'.status (fails ∨ FailsAsCoded a gpus) (warns ∨ WarnsAsCoded a gpus)
      ∧ ∀ j, r'.gpuResults[j]?.map (·.gpuIndex)
          = if j = 0 then gpus.getLast?.or (r.gpuResults[0]?.map (·.gpuIndex))
            else r.gpuResults[j]?.map (·.gpuIndex) := by
  induction gpus generalizing i r fails warns with
  | nil =>
    refine ⟨r, rfl, rfl, h.congr ?_ ?_, fun j => ?_⟩
    · simp [FailsAsCoded, OnTemp, OnVolt]
    · simp [WarnsAsCoded, WarnsAmong, OnTemp, OnVolt]
    · by_cases hj : j = 0
      · rw [if_pos hj, hj]
        rfl
      · rw [if_neg hj]
  | cons gpu gpus ih =>
    rw [List.length_cons] at hlen
    obtain ⟨r₁, msg, heq, hcount, hstatus, hindex⟩ :=
      paramLoop_cons a (show i < rdcMaxNumDevices by omega) gpu gpus r
    have h₁ : IsVerdict r₁.status (fails ∨ FailsAsCoded a [gpu])
        (warns ∨ WarnsAsCoded a [gpu]) := by
      rw [hstatus]
      exact sensorLoops_isVerdict a gpu h
    obtain ⟨r', hr', hcount', hverdict, hindex'⟩ := ih (i := i + 1) (by omega) h₁
    refine ⟨r', heq.trans hr', ?_, hverdict.congr ?_ ?_, fun j => ?_⟩
    · rw [hcount', hcount, List.length_cons]
      omega
    · rw [failsAsCoded_cons a gpu gpus, or_assoc]
    · rw [warnsAsCoded_cons a gpu gpus, or_assoc]
    · rw [hindex' j, hindex 0, if_pos rfl, List.getLast?_cons]
      by_cases hj : j = 0
      · rw [if_pos hj, if_pos hj]
        cases gpus.getLast? <;> rfl
      · rw [if_neg hj, if_neg hj, hindex j, if_neg hj]

variable {gpus : List Nat}

theorem checkSmiParamInfo_spec (gpus : List Nat) (hlen : gpus.length ≤ rdcMaxNumDevices)
    (old : RdcDiagTestResult) :
    ∃ r, SmiDiagnostic.checkSmiParamInfo a gpus old = some (.ok, r)
      ∧ r.perGpuResultCount = gpus.length
      ∧ IsVerdict r.status (FailsAsCoded a gpus) (WarnsAsCoded a gpus)
      ∧ ∀ j < rdcMaxNumDevices, r.gpuResults[j]?.map (·.gpuIndex)
          = some (if j = 0 then gpus.getLast?.getD 0 else 0) := by
  obtain ⟨r, hr, hcount, hverdict, hindex⟩ := paramLoop_spec a gpus (i := 0) (by omega)
    (r := { RdcDiagTestResult.empty with testCase := .gpuParameters, status := .pass })
    IsVerdict.of_pass
  refine ⟨r, ?_, ?_, hverdict.congr (by rw [false_or]) (by rw [false_or]), fun j hj => ?_⟩
  · unfold SmiDiagnostic.checkSmiParamInfo
    rw [hr]
    rfl
  · rw [hcount]
    exact Nat.zero_add _
  · have hempty : ∀ k < rdcMaxNumDevices,
        RdcDiagTestResult.empty.gpuResults[k]?.map (·.gpuIndex) = some 0 := by
      intro k hk
      unfold RdcDiagTestResult.empty
      rw [Vector.getElem?_replicate, if_pos hk]
      rfl
    rw [hindex j]
    dsimp only
    rw [hempty 0 (by decide), hempty j hj]
    split
    · cases gpus.getLast? <;> rfl
    · rfl

end Loops

/-! ## When the code follows the thresholds -/

section Agree

variable (a : SmiDiagAnswers) (gpus : List Nat)

theorem onTemp_or (types : List TemperatureSensor) (P Q : Nat → TemperatureSensor → Prop) :
    OnTemp a types gpus (fun gpu type => P gpu type ∨ Q gpu type)
      ↔ OnTemp a types gpus P ∨ OnTemp a types gpus Q := by
  unfold OnTemp
  simp only [and_or_left, exists_or]

theorem mem_dropLast_or_getLast? {σ : Type} (types : List σ) (type : σ) :
    type ∈ types ↔ type ∈ types.dropLast ∨ type ∈ types.getLast?.toList := by
  rcases List.eq_nil_or_concat types with rfl | ⟨before, last, rfl⟩ <;> simp

theorem onTemp_split {P : Nat → TemperatureSensor → Prop} :
    OnTemp a a.temperatureSensors gpus P ↔ OnTemp a a.temperatureSensors.dropLast gpus P
      ∨ OnTemp a a.temperatureSensors.getLast?.toList gpus P := by
  unfold OnTemp
  simp only [mem_dropLast_or_getLast? a.temperatureSensors, or_and_right, exists_or, and_or_left]

theorem onVolt_split {P : Nat → VoltageSensor → Prop} :
    OnVolt a a.voltageSensors gpus P ↔ OnVolt a a.voltageSensors.dropLast gpus P
      ∨ OnVolt a a.voltageSensors.getLast?.toList gpus P := by
  unfold OnVolt
  simp only [mem_dropLast_or_getLast? a.voltageSensors, or_and_right, exists_or, and_or_left]

theorem fails_split : Fails a gpus
    ↔ FailsAmong a a.temperatureSensors.dropLast a.voltageSensors.dropLast gpus
      ∨ LastFails a gpus := by
  unfold Fails LastFails FailsAmong
  rw [onTemp_split, onVolt_split]
  exact or_or_or_comm

theorem warns_split : Warns a gpus ↔ WarnsAsCoded a gpus ∨ LastWarns a gpus := by
  unfold Warns WarnsAsCoded LastWarns WarnsAmong
  rw [onTemp_split, onVolt_split]
  exact or_or_or_comm

theorem limitsAgree_iff : LimitsAgree a gpus ↔ (FailsAsCoded a gpus ↔ Fails a gpus) := by
  rw [fails_split]
  unfold LimitsAgree FailsAsCoded FailsAmong
  rw [onTemp_or, onTemp_or]
  by_cases hcritical : OnTemp a a.temperatureSensors.dropLast gpus (TempCritical a)
  · simp only [hcritical, true_or]
  · simp only [hcritical, false_or, or_assoc]
    exact iff_comm

theorem warningsAgree_iff :
    WarningsAgree a gpus ↔ Fails a gpus ∨ (WarnsAsCoded a gpus ↔ Warns a gpus) := by
  unfold WarningsAgree
  rw [warns_split, iff_self_or]

end Agree

/-- The last index in the first record and zeros behind it: these are the indexes of the GPUs only
if there is nothing to tell apart. -/
theorem lastIndex_iff (gpus : List Nat) :
    (∀ i gpu, gpus[i]? = some gpu → (if i = 0 then gpus.getLast?.getD 0 else 0) = gpu)
      ↔ gpus.length ≤ 1 ∨ ∀ gpu ∈ gpus, gpu = 0 := by
  constructor
  · intro h
    rw [or_iff_not_imp_left]
    intro hlen
    have hlast : gpus.getLast?.getD 0 = 0 := by
      have hget : gpus[gpus.length - 1]? = gpus.getLast? := List.getLast?_eq_getElem?.symm
      obtain ⟨last, hl⟩ : ∃ last, gpus.getLast? = some last := by
        rw [← hget, List.getElem?_eq_getElem (by omega)]
        exact ⟨_, rfl⟩
      have hzero := h _ last (hget.trans hl)
      rw [if_neg (by omega)] at hzero
      rw [hl, ← hzero]
      rfl
    intro gpu hgpu
    obtain ⟨i, hi⟩ := List.mem_iff_getElem?.mp hgpu
    rw [← h i gpu hi, hlast]
    exact ite_self 0
  · rintro (hlen | hzero) i gpu hi
    · obtain ⟨hlt, -⟩ := List.getElem?_eq_some_iff.mp hi
      have hi0 : i = 0 := by omega
      subst hi0
      have hlast : gpus.getLast? = some gpu := by
        rw [List.getLast?_eq_getElem?, show gpus.length - 1 = 0 by omega, hi]
      rw [if_pos rfl, hlast]
      rfl
    · have hlast : gpus.getLast?.getD 0 = 0 := by
        cases hl : gpus.getLast? with
        | none => rfl
        | some last => exact hzero last (List.mem_of_getLast? hl)
      rw [hlast, hzero gpu (List.mem_of_getElem? hi)]
      exact ite_self 0

/-- The check of the parameters reports what the thresholds say if and only if what is compared in
place of the emergency and the critical voltage limits makes no difference, the last sensors do not
either, and there is at most one GPU or all have the index zero. -/
theorem paramVerdict_iff (a : SmiDiagAnswers) {gpus : List Nat}
    (hlen : gpus.length ≤ rdcMaxNumDevices) (old : RdcDiagTestResult) :
    (∃ r, SmiDiagnostic.checkSmiParamInfo a gpus old = some (.ok, r) ∧ ParamVerdict a gpus r)
      ↔ LimitsAgree a gpus ∧ WarningsAgree a gpus
        ∧ (gpus.length ≤ 1 ∨ ∀ gpu ∈ gpus, gpu = 0) := by
  obtain ⟨r, hr, hcount, hverdict, hindex⟩ := checkSmiParamInfo_spec a gpus hlen old
  have hindex' : (∀ (i gpu : Nat), gpus[i]? = some gpu →
      r.gpuResults[i]?.map (·.gpuIndex) = some gpu) ↔ gpus.length ≤ 1 ∨ ∀ gpu ∈ gpus, gpu = 0 := by
    rw [← lastIndex_iff]
    refine forall_congr' fun i => forall_congr' fun gpu => imp_congr_right fun hi => ?_
    obtain ⟨hlt, -⟩ := List.getElem?_eq_some_iff.mp hi
    rw [hindex i (by omega), Option.some.injEq]
  rw [limitsAgree_iff, warningsAgree_iff, ← and_assoc, ← hverdict.iff_of_reasons, ← hindex', hr]
  constructor
  · rintro ⟨r', heq, h⟩
    cases heq
    exact ⟨h.status, h.index⟩
  · rintro ⟨hstatus, hindexes⟩
    exact ⟨r, rfl, hstatus, hcount, hindexes⟩

/-- A metric that can be read, or not. -/
def metricAnswer : Option Int → AmdsmiStatus × Int
  | some value => (AmdsmiStatus.success, value)
  | none => (AmdsmiStatus.notSupported, 0)

/-- Two sensors of each kind, the same on each GPU: the first with the given metrics, and the last
with those in `last`. With the null handle nothing can be read. -/
def twoSensors (temp : TemperatureMetric → Option Int) (volt : VoltageMetric → Option Int)
    (last : TemperatureMetric → Option Int) : SmiDiagAnswers where
  processCount := (AmdsmiStatus.success, 0)
  processes := (AmdsmiStatus.success, [])
  processGpus _ := none
  linkWeight _ _ := (AmdsmiStatus.success, 0)
  temperatureSensors := [.edge, .junction]
  tempMetric _ type metric :=
    match type with
    | .edge => metricAnswer (temp metric)
    | _ => metricAnswer (last metric)
  voltageSensors := [.vddgfx, .other 1]
  voltMetric handle type metric :=
    match type with
    | .vddgfx => metricAnswer (handle.bind fun _ => volt metric)
    | .other _ => metricAnswer none

/-- A temperature above the critical and below the emergency limit. -/
def hotMetrics : TemperatureMetric → Option Int
  | .current => some 95
  | .critical => some 90
  | .emergency => some 100
  | _ => none

def hotSensor : SmiDiagAnswers := twoSensors hotMetrics (fun _ => none) fun _ => none

theorem paramVerdict_hotSensor :
    ∃ r, SmiDiagnostic.checkSmiParamInfo hotSensor [3] .empty = some (.ok, r)
      ∧ ParamVerdict hotSensor [3] r :=
  (paramVerdict_iff hotSensor (by decide) .empty).mpr
    ⟨.inl ⟨3, List.mem_cons_self .., .edge, List.mem_cons_self .., rfl, .inl ⟨rfl, by decide⟩⟩,
      .inl (.inl ⟨3, List.mem_cons_self .., .edge, List.mem_cons_self .., rfl,
        .inl (.inl ⟨rfl, by decide⟩)⟩),
      .inl (by decide)⟩

/-- A temperature far below the emergency limit, and no critical limit. -/
def coolSensor : SmiDiagAnswers :=
  twoSensors (fun | .current => some 50 | .emergency => some 100 | _ => none) (fun _ => none)
    fun _ => none

/-- A voltage above its critical maximum. -/
def highVoltage : SmiDiagAnswers :=
  twoSensors (fun _ => none) (fun | .current => some 1300 | .maxCrit => some 1200 | _ => none)
    fun _ => none

/-- The hot sensor is the last one. -/
def hotLast : SmiDiagAnswers := twoSensors (fun _ => none) (fun _ => none) hotMetrics

/-- The cool sensor fails, the high voltage passes and so does the hot last sensor, and the second
of two GPUs has no record. -/
theorem not_paramVerdict :
    (¬ ∃ r, SmiDiagnostic.checkSmiParamInfo coolSensor [0] .empty = some (.ok, r)
        ∧ ParamVerdict coolSensor [0] r)
      ∧ (¬ ∃ r, SmiDiagnostic.checkSmiParamInfo highVoltage [0] .empty = some (.ok, r)
        ∧ ParamVerdict highVoltage [0] r)
      ∧ (¬ ∃ r, SmiDiagnostic.checkSmiParamInfo hotLast [0] .empty = some (.ok, r)
        ∧ ParamVerdict hotLast [0] r)
      ∧ ¬ ∃ r, SmiDiagnostic.checkSmiParamInfo hotSensor [0, 1] .empty = some (.ok, r)
        ∧ ParamVerdict hotSensor [0, 1] r := by
  -- a wrong answer to whether there is a reason to fail is a wrong verdict
  have hwrong : ∀ a, ¬ (FailsAsCoded a [0] ↔ Fails a [0]) →
      ¬ ∃ r, SmiDiagnostic.checkSmiParamInfo a [0] .empty = some (.ok, r)
        ∧ ParamVerdict a [0] r := by
    rintro a hdiffer ⟨r, hr, h⟩
    obtain ⟨r', hr', -, hcoded, -⟩ := checkSmiParamInfo_spec a [0] (by decide) .empty
    cases hr.symm.trans hr'
    exact hdiffer (hcoded.fail.symm.trans h.status.fail)
  refine ⟨hwrong _ fun hiff => ?_, hwrong _ fun hiff => ?_, hwrong _ fun hiff => ?_, ?_⟩
  · have hfails : ¬ Fails coolSensor [0] := by
      simp [Fails, FailsAmong, OnTemp, OnVolt, TempCritical, TempEmergency, VoltCritical, AtOrAbove,
        AtOrBelow, coolSensor, twoSensors, metricAnswer, AmdsmiStatus.success,
        AmdsmiStatus.notSupported]
    exact hfails (hiff.mp (.inl ⟨0, List.mem_cons_self .., .edge, List.mem_cons_self .., rfl,
      .inr ⟨rfl, by decide, by decide⟩⟩))
  · have hcode : ¬ FailsAsCoded highVoltage [0] := by
      simp [FailsAsCoded, OnTemp, OnVolt, VoltCritical, AtOrAbove, AtOrBelow,
        highVoltage, twoSensors, metricAnswer, AmdsmiStatus.success, AmdsmiStatus.notSupported]
    exact hcode (hiff.mpr (.inr ⟨0, List.mem_cons_self .., .vddgfx, List.mem_cons_self .., rfl,
      .inl ⟨rfl, by decide⟩⟩))
  · have hcode : ¬ FailsAsCoded hotLast [0] := by
      simp [FailsAsCoded, OnTemp, OnVolt, hotLast, twoSensors, metricAnswer, AmdsmiStatus.success,
        AmdsmiStatus.notSupported]
    exact hcode (hiff.mpr (.inl ⟨0, List.mem_cons_self .., .junction,
      List.mem_cons_of_mem _ (List.mem_cons_self ..), rfl, .inl (.inl ⟨rfl, by decide⟩)⟩))
  · rintro ⟨r, hr, h⟩
    obtain ⟨r', hr', -, -, hindex⟩ := checkSmiParamInfo_spec hotSensor [0, 1] (by decide) .empty
    cases hr.symm.trans hr'
    have hsecond := (h.index 1 1 rfl).symm.trans (hindex 1 (by decide))
    cases hsecond

end Rdc.Proof
