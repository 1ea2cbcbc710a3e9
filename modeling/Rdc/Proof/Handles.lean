import Rdc.SmiLib
import Rdc.Proof.Masks
import Rdc.Proof.Counters
import Rdc.Proof.Dispatch

/-!
# A counter for each watched counter field

Three classes have a say in whether a counter exists. The watch table records which keys are
watched; it announces all of them with every watch, and those it has released with every unwatch.
The dispatcher passes the announcements on, and the XGMI counter fields always go to `RdcSmiLib`.
The metric fetcher creates a counter for a key that has none and destroys one that is there.

The announcements of the watch table are the log of its calls, so what has to hold between the
three is a relation between a daemon and the replay of its log (`InStep`): the keys with a handle
are the keys with a watching record. Every call of the daemon keeps it when the library grants every
counter.
-/

namespace Rdc.Proof

open Std (ExtTreeMap)
open OrdMap Machine Route Lease Daemon MetricFetcher TelemetrySide

/-! ## What the watch table says -/

/-- The key has a record that is watching. -/
def RecordWatching (F : KeyMap FieldSettings) (k : RdcFieldKey) : Prop :=
  ∃ r, F[k]? = some r ∧ r.isWatching = true

theorem watchNew_log (tel : Telemetry) (d : Daemon) (e : RdcFieldGroupKey) {f : FieldSettings}
    (hf : f.isWatching = true) :
    ((watchNew tel d e f).2.moduleCalls = d.moduleCalls
      ∧ (watchNew tel d e f).2.fieldsToWatch = d.fieldsToWatch)
    ∨ ∃ events watching, (watchNew tel d e f).2.moduleCalls
          = d.moduleCalls ++ [.setListenEvents events, .fieldsWatch watching]
        ∧ (∀ k, k ∈ watching ↔ RecordWatching (watchNew tel d e f).2.fieldsToWatch k)
        ∧ ∀ k, RecordWatching d.fieldsToWatch k →
            RecordWatching (watchNew tel d e f).2.fieldsToWatch k := by
  unfold watchNew
  cases d.groupSettings.getFieldsFromGroup e.1 e.2 with
  | error result => exact Or.inl ⟨rfl, rfl⟩
  | ok fields =>
    refine Or.inr ⟨fields, _, rfl, ?_, ?_⟩
    · intro k
      rw [ExtTreeMap.mem_keys, ExtTreeMap.mem_iff_isSome_getElem?, ExtTreeMap.getElem?_filter']
      unfold RecordWatching
      dsimp only
      rw [Option.isSome_filter, Option.any_eq_true]
    · -- merging settings into a record never switches it off
      intro k hk
      obtain ⟨r, hr, hw⟩ := hk
      unfold RecordWatching
      dsimp only
      rw [getElem?_foldl_alter_idem (mergeSettings_idem hf), hr]
      split
      · exact ⟨_, rfl, rfl⟩
      · exact ⟨r, rfl, hw⟩

/-- **The log of a watch.** It fails and logs nothing, or it announces every watching record. -/
theorem rdcFieldWatch_log (tel : Telemetry) (d : Daemon) (g fg freq : Nat) (age : ℚ)
    (samples : Nat) :
    ((d.rdcFieldWatch tel g fg freq age samples).2.moduleCalls = d.moduleCalls
      ∧ (d.rdcFieldWatch tel g fg freq age samples).2.fieldsToWatch = d.fieldsToWatch)
    ∨ ∃ events watching, (d.rdcFieldWatch tel g fg freq age samples).2.moduleCalls
          = d.moduleCalls ++ [.setListenEvents events, .fieldsWatch watching]
        ∧ (∀ k, k ∈ watching
            ↔ RecordWatching (d.rdcFieldWatch tel g fg freq age samples).2.fieldsToWatch k)
        ∧ ∀ k, RecordWatching d.fieldsToWatch k →
            RecordWatching (d.rdcFieldWatch tel g fg freq age samples).2.fieldsToWatch k := by
  unfold rdcFieldWatch
  dsimp only
  split
  · split
    · exact Or.inl ⟨rfl, rfl⟩
    · exact watchNew_log tel _ _ rfl
  · exact watchNew_log tel _ _ rfl

/-- The keys the loop of an unwatch releases: those nobody else asks for, and those without a
record. -/
theorem mem_unwatchFields (frequencies : KeyMap Nat) (keys : List RdcFieldKey) (acc : UnwatchLoop)
    {k : RdcFieldKey} (hk : isNotificationEvent k.2 = false) :
    k ∈ (keys.foldl (unwatchField frequencies) acc).unwatchFields
      ↔ k ∈ acc.unwatchFields ∨ (k ∈ keys ∧ (k ∉ frequencies ∨ k ∉ acc.fieldsToWatch)) := by
  have hmem : ∀ (acc : UnwatchLoop) (key : RdcFieldKey),
      (k ∈ (unwatchField frequencies acc key).fieldsToWatch ↔ k ∈ acc.fieldsToWatch)
      ∧ (k ∈ (unwatchField frequencies acc key).unwatchFields
        ↔ k ∈ acc.unwatchFields ∨ (k = key ∧ (k ∉ frequencies ∨ k ∉ acc.fieldsToWatch))) := by
    intro acc key
    unfold unwatchField
    split
    · rename_i hevent
      have hne : k ≠ key := fun heq => by
        rw [← heq, hk] at hevent
        simp at hevent
      simp [hne]
    · split
      · rename_i hno
        refine ⟨Iff.rfl, ?_⟩
        rw [List.mem_append, List.mem_singleton]
        refine or_congr_right ⟨fun heq => ⟨heq, Or.inr (heq ▸ hno)⟩, fun h => h.1⟩
      · rename_i hrec
        refine ⟨ExtTreeMap.mem_modify, ?_⟩
        dsimp only
        by_cases heq : k = key
        · rw [heq]
          have hrec' : key ∈ acc.fieldsToWatch := not_not.mp hrec
          by_cases hfreq : key ∈ frequencies <;> simp [hfreq, hrec']
        · split <;> simp [heq]
  induction keys generalizing acc with
  | nil => simp
  | cons key keys ih =>
    obtain ⟨hrec, hun⟩ := hmem acc key
    have hrest := ih (unwatchField frequencies acc key)
    rw [hrec, hun] at hrest
    refine hrest.trans ?_
    rw [List.mem_cons, or_assoc, ← or_and_right]

/-- After the loop of an unwatch the watching records are those it has not released. -/
theorem recordWatching_unwatchLoop (frequencies : KeyMap Nat) (fields : List RdcFieldKey)
    (F : KeyMap FieldSettings) (calls : List ModuleCall) {k : RdcFieldKey}
    (hk : isNotificationEvent k.2 = false) :
    RecordWatching (fields.foldl (unwatchField frequencies) ⟨F, [], calls⟩).fieldsToWatch k
      ↔ RecordWatching F k
        ∧ k ∉ (fields.foldl (unwatchField frequencies) ⟨F, [], calls⟩).unwatchFields := by
  unfold RecordWatching
  rw [unwatchLoop_fieldsToWatch, mem_unwatchFields frequencies fields _ hk]
  dsimp only
  by_cases hmem : k ∈ fields
  · cases hr : F[k]? with
    | none => simp
    | some r =>
      have hrec : k ∈ F := mem_of_getElem? hr
      rw [if_pos ⟨hmem, hk⟩]
      -- a frequency is left for the key exactly when another entry still asks for it
      cases hfreq : frequencies[k]? with
      | none =>
        have hno : k ∉ frequencies := (not_mem_iff_getElem? _ _).mpr hfreq
        simp [unwatchSettings, hmem, hno]
      | some freq =>
        have hyes : k ∈ frequencies := mem_of_getElem? hfreq
        simp [unwatchSettings, hyes, hrec]
  · rw [if_neg fun h => hmem h.1]
    simp [hmem]

/-- **The log of an unwatch.** It fails and logs nothing, or it releases exactly the keys that stop
being watched, and possibly keys without a record. -/
theorem rdcFieldUnwatch_log (d : Daemon) (g fg now : Nat) :
    ((d.rdcFieldUnwatch g fg now).2.moduleCalls = d.moduleCalls
      ∧ (d.rdcFieldUnwatch g fg now).2.fieldsToWatch = d.fieldsToWatch)
    ∨ ∃ (gpus : List Nat) (released : List RdcFieldKey),
        (d.rdcFieldUnwatch g fg now).2.moduleCalls
          = d.moduleCalls ++ gpus.map ModuleCall.stopListening ++ [.fieldsUnwatch released]
        ∧ ∀ k, isNotificationEvent k.2 = false →
          (RecordWatching (d.rdcFieldUnwatch g fg now).2.fieldsToWatch k
            ↔ RecordWatching d.fieldsToWatch k ∧ k ∉ released) := by
  unfold rdcFieldUnwatch
  dsimp only
  split
  · exact Or.inl ⟨rfl, rfl⟩
  unfold updateFieldInTableWhenUnwatch
  dsimp only
  split
  · exact Or.inl ⟨rfl, rfl⟩
  rename_i fields _
  split
  · exact Or.inl ⟨rfl, rfl⟩
  rename_i frequencies _
  right
  dsimp only
  refine ⟨(fields.filter fun key => isNotificationEvent key.2).map Prod.fst,
    (fields.foldl (unwatchField frequencies) ⟨d.fieldsToWatch, [], d.moduleCalls⟩).unwatchFields,
    ?_, ?_⟩
  · rw [unwatchLoop_calls, List.map_map]
    rfl
  · intro k hk
    exact recordWatching_unwatchLoop frequencies fields d.fieldsToWatch d.moduleCalls hk

/-! ## What the fetcher does -/

/-- The stored handles are those of the counters that exist. -/
structure Owned (m : MetricFetcher) : Prop where
  holds : Holds m.counters (heldHandle m)
  noneLost : NoneLost m.counters (heldHandle m)

theorem owned_init : Owned MetricFetcher.init := ⟨holds_init, NoneLost.empty⟩

theorem creatable_granted : Creatable CounterAnswers.granted := by
  unfold Creatable
  decide

theorem starts_granted : Starts CounterAnswers.granted := by
  unfold Starts
  decide

variable {m : MetricFetcher} {d : Daemon}

/-- With every counter granted, a key gets a handle unless it has one or needs none. -/
theorem acquire_granted (h : Owned m) (key : RdcFieldKey) :
    Owned (m.acquireSmiHandle CounterAnswers.granted key).2
    ∧ ∀ k, k ∈ (m.acquireSmiHandle CounterAnswers.granted key).2.smiData
        ↔ k ∈ m.smiData ∨ (k = key ∧ eventGroup k.2 ≠ none) := by
  have hkeep : ¬ LosesCounter m (.acquire key CounterAnswers.granted) :=
    fun hl => hl.2 starts_granted
  refine ⟨⟨holds_execCounter h.holds (.acquire key _),
    (noneLost_execCounter h.holds h.noneLost _).mpr hkeep⟩, ?_⟩
  intro k
  rcases acquireSmiHandle_cases m CounterAnswers.granted key with
    ⟨hc, heq⟩ | ⟨hc, _, heq⟩ | ⟨_, hs, _⟩
  · rw [heq]
    refine ⟨Or.inl, ?_⟩
    intro hor
    rcases hor with hold | ⟨rfl, hgroup⟩
    · exact hold
    · by_contra hno
      exact hc ⟨hgroup, hno, creatable_granted⟩
  · rw [heq]
    dsimp only
    rw [ExtTreeMap.mem_insert, Std.LawfulEqCmp.compare_eq_iff_eq]
    refine ⟨?_, ?_⟩
    · intro hor
      rcases hor with rfl | hold
      · exact Or.inr ⟨rfl, hc.1⟩
      · exact Or.inl hold
    · intro hor
      rcases hor with hold | ⟨rfl, _⟩
      · exact Or.inr hold
      · exact Or.inl rfl
  · exact absurd starts_granted hs

/-- A key that is released loses its handle, and no other does. -/
theorem delete_granted (h : Owned m) (key : RdcFieldKey) :
    Owned (m.deleteSmiHandle CounterAnswers.granted key).2
    ∧ ∀ k, eventGroup k.2 ≠ none →
        (k ∈ (m.deleteSmiHandle CounterAnswers.granted key).2.smiData
          ↔ k ∈ m.smiData ∧ k ≠ key) := by
  have hkeep : ¬ LosesCounter m (.delete key CounterAnswers.granted) := fun hl => hl.2.2 rfl
  refine ⟨⟨holds_execCounter h.holds (.delete key _),
    (noneLost_execCounter h.holds h.noneLost _).mpr hkeep⟩, ?_⟩
  intro k hk
  rcases deleteSmiHandle_cases m CounterAnswers.granted key with
    ⟨hno, heq⟩ | ⟨data, _, _, ⟨hstop, _⟩ | ⟨_, heq⟩⟩
  · rw [heq]
    refine ⟨fun hmem => ⟨hmem, ?_⟩, fun hmem => hmem.1⟩
    intro hkey
    rw [hkey] at hmem hk
    rcases hno with hgroup | hnone
    · exact hk hgroup
    · exact (not_mem_iff_getElem? m.smiData key).mpr hnone hmem
  · exact absurd rfl hstop
  · rw [heq]
    dsimp only
    rw [ExtTreeMap.mem_erase, ne_eq, Std.LawfulEqCmp.compare_eq_iff_eq]
    exact ⟨fun hmem => ⟨hmem.2, fun heq => hmem.1 heq.symm⟩,
      fun hmem => ⟨fun heq => hmem.2 heq.symm, hmem.1⟩⟩

theorem watch_granted (keys : List RdcFieldKey) (h : Owned m) :
    Owned (keys.foldl (fun m key => (m.acquireSmiHandle CounterAnswers.granted key).2) m)
    ∧ ∀ k, eventGroup k.2 ≠ none →
        (k ∈ (keys.foldl
            (fun m key => (m.acquireSmiHandle CounterAnswers.granted key).2) m).smiData
          ↔ k ∈ m.smiData ∨ k ∈ keys) := by
  induction keys generalizing m with
  | nil => exact ⟨h, fun k _ => by simp⟩
  | cons key keys ih =>
    obtain ⟨howned, hmem⟩ := acquire_granted h key
    obtain ⟨howned', hmem'⟩ := ih howned
    refine ⟨howned', ?_⟩
    intro k hk
    refine (hmem' k hk).trans ?_
    rw [hmem k, List.mem_cons, or_assoc]
    simp [hk]

theorem unwatch_granted (keys : List RdcFieldKey) (h : Owned m) :
    Owned (keys.foldl (fun m key => (m.deleteSmiHandle CounterAnswers.granted key).2) m)
    ∧ ∀ k, eventGroup k.2 ≠ none →
        (k ∈ (keys.foldl
            (fun m key => (m.deleteSmiHandle CounterAnswers.granted key).2) m).smiData
          ↔ k ∈ m.smiData ∧ k ∉ keys) := by
  induction keys generalizing m with
  | nil => exact ⟨h, fun k _ => by simp⟩
  | cons key keys ih =>
    obtain ⟨howned, hmem⟩ := delete_granted h key
    obtain ⟨howned', hmem'⟩ := ih howned
    refine ⟨howned', ?_⟩
    intro k hk
    refine (hmem' k hk).trans ?_
    rw [hmem k hk, List.mem_cons, not_or, and_assoc]

/-! ## Fetching leaves the handles alone -/

/-- The same handles and the same counters. -/
def SameHandles (m m' : MetricFetcher) : Prop :=
  m'.counters = m.counters ∧ ∀ k, heldHandle m' k = heldHandle m k

theorem sameHandles_refl (m : MetricFetcher) : SameHandles m m := ⟨rfl, fun _ => rfl⟩

theorem SameHandles.trans {m₁ m₂ m₃ : MetricFetcher} (h : SameHandles m₁ m₂)
    (h' : SameHandles m₂ m₃) : SameHandles m₁ m₃ :=
  ⟨h'.1.trans h.1, fun k => (h'.2 k).trans (h.2 k)⟩

theorem SameHandles.owned {m m' : MetricFetcher} (h : SameHandles m m') (hm : Owned m) :
    Owned m' := by
  have hheld : heldHandle m' = heldHandle m := funext h.2
  refine ⟨?_, ?_⟩ <;> rw [h.1, hheld]
  · exact hm.holds
  · exact hm.noneLost

theorem SameHandles.mem {m m' : MetricFetcher} (h : SameHandles m m') (k : RdcFieldKey) :
    k ∈ m'.smiData ↔ k ∈ m.smiData := by
  rw [← not_iff_not, ← heldHandle_eq_none, ← heldHandle_eq_none, h.2 k]

theorem sameHandles_fetch (m : MetricFetcher) (a : SmiReadings) (key : RdcFieldKey)
    (value : RdcFieldValue) : SameHandles m (m.fetchSmiField a key value).2.2 := by
  unfold fetchSmiField
  split
  · exact sameHandles_refl m
  split
  · exact sameHandles_refl m
  show SameHandles m (m.readAny a key).2
  unfold readAny
  split
  · -- the PCIe branch may only queue a task
    unfold readPcie asyncGetPcieThroughput
    cases m.unexpired key a.asyncNow with
    | some metric => exact sameHandles_refl m
    | none => exact ⟨rfl, fun _ => rfl⟩
  split
  · -- the counter branch stores the reading with the handle it was read from
    unfold readSmiCounter
    cases hdata : m.smiData[key]? with
    | none => exact sameHandles_refl m
    | some data =>
      refine ⟨rfl, fun k => ?_⟩
      refine (heldHandle_insert m key k _ m.counters).trans ?_
      split
      · rename_i heq
        rw [← heq]
        exact (heldHandle_of_getElem? hdata).symm
      · rfl
  · exact sameHandles_refl m

theorem sameHandles_fetchOne (a : SmiReadings) (s : FetchLoop) (key : RdcFieldKey) :
    SameHandles s.metricFetcher (s.fetchOne a key).metricFetcher := by
  unfold FetchLoop.fetchOne
  split
  · exact sameHandles_fetch ..
  · exact sameHandles_refl _

theorem sameHandles_loop (readings : Nat → SmiReadings) (callback : Nat → Status)
    (keys : List RdcFieldKey) (i : Nat) (s : FetchLoop) :
    SameHandles s.metricFetcher
      (FetchLoop.loop readings callback keys i s).2.metricFetcher := by
  induction keys generalizing i s with
  | nil =>
    unfold FetchLoop.loop
    split <;> exact sameHandles_refl _
  | cons key keys ih =>
    unfold FetchLoop.loop
    split
    · exact (sameHandles_fetchOne (readings i) s key).trans (ih _ _)
    split
    · exact sameHandles_refl _
    · exact (sameHandles_fetchOne (readings i) s.flush key).trans (ih _ _)

theorem sameHandles_valueGet (lib : SmiLib) (a : ValueGetAnswers) (fields : List RdcFieldKey) :
    SameHandles lib.metricFetcher (lib.rdcTelemetryFieldsValueGet a fields).2.metricFetcher := by
  unfold SmiLib.rdcTelemetryFieldsValueGet
  dsimp only
  split
  · exact sameHandles_refl _
  · exact sameHandles_loop ..

/-! ## Through the dispatcher -/

/-- The modules of the daemon, in list order. -/
def daemonModules : List TelemetryLib := [.smi, .rocp]

theorem eventGroup_smiFields {field : Nat} (h : eventGroup field ≠ none) : field ∈ smiFields := by
  have hrange : field ∈ List.range' 1000 8 ∨ field ∈ List.range' 1500 6 := by
    rw [List.mem_range'_1, List.mem_range'_1]
    unfold eventGroup rdcEvntXgmi0NopTx rdcEvntXgmi0Thrput at h
    by_contra hno
    rw [if_neg (by omega), if_neg (by omega)] at h
    exact h rfl
  unfold smiFields
  simp only [List.mem_append]
  rcases hrange with h1 | h2
  · exact Or.inl (Or.inl (Or.inr h1))
  · exact Or.inl (Or.inr h2)

theorem eventGroup_not_notification {field : Nat} (h : eventGroup field ≠ none) :
    isNotificationEvent field = false :=
  Telemetry.modules_not_notification field (List.mem_append_left _ (eventGroup_smiFields h))

theorem firstClaim_smi {available : Option (Nat → Bool)} {field : Nat} (h : field ∈ smiFields) :
    firstClaim (moduleFields available) daemonModules field = some .smi := by
  unfold firstClaim daemonModules
  rw [List.find?_cons_of_pos]
  simpa [claimed, moduleFields] using h

/-- The part of `RdcSmiLib` is carried out once, if there is one. -/
theorem handTo_partitioned {available : Option (Nat → Bool)} {fields : List RdcFieldKey}
    {handed : Handed TelemetryLib}
    (h : Partitioned (moduleFields available) daemonModules fields handed)
    (f : SmiLib → List RdcFieldKey → SmiLib) (hnil : ∀ lib, f lib [] = lib) (lib : SmiLib) :
    handTo f (some handed) lib = f lib (fields.filter fun key =>
      firstClaim (moduleFields available) daemonModules key.2 = some .smi) := by
  unfold handTo
  dsimp only
  by_cases hpart : (fields.filter fun key =>
      firstClaim (moduleFields available) daemonModules key.2 = some .smi) = []
  · rw [hpart, hnil]
    refine foldl_part_of_not_mem f ?_ lib
    intro q hq heq
    have hq' := (h.toModules q.1 q.2).mp hq
    rw [heq, hpart] at hq'
    exact hq'.1 hq'.2
  · exact foldl_part_of_mem f h.once ((h.toModules _ _).mpr ⟨hpart, rfl⟩) lib

/-- What has to hold between the telemetry side and the keys that are watched. -/
structure Tracks (available : Option (Nat → Bool)) (s : TelemetrySide) (W : RdcFieldKey → Prop) :
    Prop where
  routed : FirstClaims (moduleFields available) daemonModules s.dispatcher.fieldsIdModule
  owned : Owned s.smiLib.metricFetcher
  keys : ∀ k, eventGroup k.2 ≠ none → (k ∈ s.smiLib.metricFetcher.smiData ↔ W k)

/-- Every counter is granted; what is fetched does not matter. -/
def grantedAnswers (valueGet : Nat → ValueGetAnswers) (uninit : RdcFieldValue) : TelemetryAnswers :=
  ⟨fun _ => CounterAnswers.granted, valueGet, uninit⟩

section Calls

variable {available : Option (Nat → Bool)} {s : TelemetrySide} {W W' : RdcFieldKey → Prop}
variable (valueGet : Nat → ValueGetAnswers) (uninit : RdcFieldValue)

theorem Tracks.congr (h : Tracks available s W)
    (hW : ∀ k, eventGroup k.2 ≠ none → (W k ↔ W' k)) : Tracks available s W' :=
  ⟨h.routed, h.owned, fun k hk => (h.keys k hk).trans (hW k hk)⟩

theorem mem_smiPart {fields : List RdcFieldKey} {k : RdcFieldKey} (hk : eventGroup k.2 ≠ none) :
    k ∈ (fields.filter fun key =>
        firstClaim (moduleFields available) daemonModules key.2 = some .smi) ↔ k ∈ fields := by
  rw [List.mem_filter, decide_eq_true_eq]
  exact ⟨fun h => h.1, fun h => ⟨h, firstClaim_smi (eventGroup_smiFields hk)⟩⟩

theorem Tracks.fieldsWatch (h : Tracks available s W) (fields : List RdcFieldKey) :
    Tracks available (onCall (grantedAnswers valueGet uninit) s (.fieldsWatch fields))
      fun k => W k ∨ k ∈ fields := by
  obtain ⟨handed, heq, hpart⟩ := handOut_partitioned h.routed fields uninit
  have hside : onCall (grantedAnswers valueGet uninit) s (.fieldsWatch fields) =
      { s with
        dispatcher := (s.dispatcher.dispatch (.fieldsWatch fields uninit)).2
        smiLib := SmiLib.rdcTelemetryFieldsWatch (fun _ => CounterAnswers.granted) s.smiLib
          (fields.filter fun key =>
            firstClaim (moduleFields available) daemonModules key.2 = some .smi) } := by
    rw [← handTo_partitioned hpart
      (SmiLib.rdcTelemetryFieldsWatch fun _ => CounterAnswers.granted) (fun _ => rfl), ← heq]
    rfl
  obtain ⟨howned, hmem⟩ := watch_granted (fields.filter fun key =>
    firstClaim (moduleFields available) daemonModules key.2 = some .smi) h.owned
  rw [hside]
  refine ⟨firstClaims_dispatch h.routed _, howned, ?_⟩
  intro k hk
  refine (hmem k hk).trans ?_
  rw [h.keys k hk, mem_smiPart hk]

theorem Tracks.fieldsUnwatch (h : Tracks available s W) (fields : List RdcFieldKey) :
    Tracks available (onCall (grantedAnswers valueGet uninit) s (.fieldsUnwatch fields))
      fun k => W k ∧ k ∉ fields := by
  obtain ⟨handed, heq, hpart⟩ := handOut_partitioned h.routed fields uninit
  have hside : onCall (grantedAnswers valueGet uninit) s (.fieldsUnwatch fields) =
      { s with
        dispatcher := (s.dispatcher.dispatch (.fieldsUnwatch fields uninit)).2
        smiLib := SmiLib.rdcTelemetryFieldsUnwatch (fun _ => CounterAnswers.granted) s.smiLib
          (fields.filter fun key =>
            firstClaim (moduleFields available) daemonModules key.2 = some .smi) } := by
    rw [← handTo_partitioned hpart
      (SmiLib.rdcTelemetryFieldsUnwatch fun _ => CounterAnswers.granted) (fun _ => rfl), ← heq]
    rfl
  obtain ⟨howned, hmem⟩ := unwatch_granted (fields.filter fun key =>
    firstClaim (moduleFields available) daemonModules key.2 = some .smi) h.owned
  rw [hside]
  refine ⟨firstClaims_dispatch h.routed _, howned, ?_⟩
  intro k hk
  refine (hmem k hk).trans ?_
  rw [h.keys k hk, mem_smiPart hk]

theorem sameHandles_handTo {f : SmiLib → List RdcFieldKey → SmiLib}
    (hf : ∀ lib keys, SameHandles lib.metricFetcher (f lib keys).metricFetcher)
    (handed : Option (Handed TelemetryLib)) (lib : SmiLib) :
    SameHandles lib.metricFetcher (handTo f handed lib).metricFetcher := by
  cases handed with
  | none => exact sameHandles_refl _
  | some handed =>
    unfold handTo
    dsimp only
    generalize handed.toModules = parts
    induction parts generalizing lib with
    | nil => exact sameHandles_refl _
    | cons part parts ih =>
      rw [List.foldl_cons]
      split
      · exact (hf lib part.2).trans (ih _)
      · exact ih lib

theorem Tracks.fieldsValueGet (h : Tracks available s W) (fields : List RdcFieldKey) :
    Tracks available (onCall (grantedAnswers valueGet uninit) s (.fieldsValueGet fields)) W := by
  have hsame := sameHandles_handTo
    (f := fun lib keys => (lib.rdcTelemetryFieldsValueGet (valueGet s.fetches) keys).2)
    (fun lib keys => sameHandles_valueGet lib _ keys)
    (s.dispatcher.dispatch (.fieldsValueGet fields uninit)).1 s.smiLib
  refine ⟨firstClaims_dispatch h.routed (.fieldsValueGet fields uninit), hsame.owned h.owned, ?_⟩
  intro k hk
  exact (hsame.mem k).trans (h.keys k hk)

theorem Tracks.stopListening (h : Tracks available s W) (gpus : List Nat) :
    Tracks available
      (replay (grantedAnswers valueGet uninit) s (gpus.map ModuleCall.stopListening)) W := by
  induction gpus with
  | nil => exact h
  | cons gpu gpus ih => exact ih

end Calls

/-! ## The joint invariant -/

section Joint

variable (available : Option (Nat → Bool)) (valueGet : Nat → ValueGetAnswers)
variable (uninit : RdcFieldValue) (start : TelemetrySide)

/-- The telemetry side, after the calls the daemon has made, has a handle for each counter key the
daemon watches. -/
def InStep (d : Daemon) : Prop :=
  Tracks available (replay (grantedAnswers valueGet uninit) start d.moduleCalls)
    (RecordWatching d.fieldsToWatch)

/-- What the daemon supports is what its modules claim. -/
def daemonTelemetry : Telemetry :=
  Telemetry.ofModules (profilerFields available) (profilerFields_subset available)

variable {available valueGet uninit start}

theorem side_append (a : TelemetryAnswers) (s : TelemetrySide) (calls calls' : List ModuleCall) :
    replay a s (calls ++ calls') = replay a (replay a s calls) calls' := List.foldl_append

theorem inStep_watch (h : InStep available valueGet uninit start d) (tel : Telemetry)
    (g fg freq : Nat) (age : ℚ) (samples : Nat) :
    InStep available valueGet uninit start (d.rdcFieldWatch tel g fg freq age samples).2 := by
  unfold InStep
  rcases rdcFieldWatch_log tel d g fg freq age samples with
    ⟨hcalls, hfields⟩ | ⟨events, watching, hcalls, hnew, hold⟩
  · rw [hcalls, hfields]
    exact h
  · rw [hcalls, side_append]
    refine (Tracks.fieldsWatch valueGet uninit h watching).congr ?_
    intro k _
    rw [← hnew k]
    exact ⟨fun hor => hor.elim (fun hw => (hnew k).mpr (hold k hw)) id, Or.inr⟩

theorem inStep_unwatch (h : InStep available valueGet uninit start d) (g fg now : Nat) :
    InStep available valueGet uninit start (d.rdcFieldUnwatch g fg now).2 := by
  unfold InStep
  rcases rdcFieldUnwatch_log d g fg now with
    ⟨hcalls, hfields⟩ | ⟨gpus, released, hcalls, hnew⟩
  · rw [hcalls, hfields]
    exact h
  · rw [hcalls, side_append, side_append]
    refine ((Tracks.stopListening valueGet uninit h gpus).fieldsUnwatch valueGet uninit
      released).congr ?_
    intro k hk
    exact (hnew k (eventGroup_not_notification hk)).symm

/-- Deliveries and clean-ups change neither who is watched nor the log. -/
theorem updateInv_watching (W : RdcFieldKey → Prop) :
    UpdateInv fun d => ∀ k, RecordWatching d.fieldsToWatch k ↔ W k where
  deliver := by
    intro d time gpu value h k
    rw [← h k]
    unfold RecordWatching
    rcases deliver_fieldsToWatch d time gpu value k with heq | ⟨r, hr, heq⟩
    · rw [heq]
    · rw [heq, hr]
      simp
  cleanUp := by
    intro d clock h k
    rw [← h k]
    unfold RecordWatching
    rcases cleanUp_fieldsToWatch d clock k with heq | ⟨r, hr, hw, heq⟩
    · rw [heq]
    · rw [heq, hr]
      simp [hw]
  log := fun _ _ h => h

theorem handleFields_moduleCalls (d : Daemon) (values : List (Nat × RdcGpuFieldValue)) :
    (d.handleFields values).moduleCalls = d.moduleCalls := by
  induction values generalizing d with
  | nil => rfl
  | cons v values ih => exact ih (d.deliver v.1 v.2.gpuIndex v.2.fieldValue)

theorem inStep_updateAll (h : InStep available valueGet uninit start d) (now : Nat)
    (delivered : List (Nat × RdcGpuFieldValue)) (clock : CleanUpClock) :
    InStep available valueGet uninit start (d.rdcFieldUpdateAll now delivered clock).2 := by
  have hwatching := (updateInv_watching (RecordWatching d.fieldsToWatch)).updateAll
    (fun k => Iff.rfl) now delivered clock
  have hfetched : (fetched d now delivered).moduleCalls = d.moduleCalls
      ∨ (fetched d now delivered).moduleCalls
        = d.moduleCalls ++ [.fieldsValueGet (d.fieldsToFetch now)] := by
    unfold fetched
    split
    · exact Or.inl rfl
    · exact Or.inr (handleFields_moduleCalls ..)
  unfold InStep
  rw [rdcFieldUpdateAll_moduleCalls]
  rcases hfetched with heq | heq <;> rw [heq]
  · exact Tracks.congr h fun k _ => (hwatching k).symm
  · rw [side_append]
    exact (Tracks.fieldsValueGet valueGet uninit h _).congr fun k _ => (hwatching k).symm

theorem notifUpdateCache_moduleCalls (d : Daemon) (events : List RdcEvntNotification) :
    (d.rdcNotifUpdateCache events).2.moduleCalls = d.moduleCalls := by
  unfold rdcNotifUpdateCache
  split
  · rfl
  · have hloop : ∀ (events : List RdcEvntNotification) (d : Daemon),
        (events.foldl (fun d e => d.deliver e.field.ts e.gpuId e.field) d).moduleCalls
          = d.moduleCalls := by
      intro events
      induction events with
      | nil => exact fun _ => rfl
      | cons e events ih => exact fun d => ih (d.deliver e.field.ts e.gpuId e.field)
    exact hloop events d

theorem inStep_notifUpdateCache (h : InStep available valueGet uninit start d)
    (events : List RdcEvntNotification) :
    InStep available valueGet uninit start (d.rdcNotifUpdateCache events).2 := by
  have hwatching := (updateInv_watching (RecordWatching d.fieldsToWatch)).notifUpdateCache
    (fun k => Iff.rfl) events
  unfold InStep
  rw [notifUpdateCache_moduleCalls]
  exact Tracks.congr h fun k _ => (hwatching k).symm

theorem inStep_exec (h : InStep available valueGet uninit start d) (tel : Telemetry) (op : Op) :
    InStep available valueGet uninit start (d.exec tel op).2 := by
  by_cases hbrings : Brings op
  · cases op with
    | fieldUpdateAll now delivered clock => exact inStep_updateAll h now delivered clock
    | notifUpdateCache events => exact inStep_notifUpdateCache h events
    | _ => exact absurd hbrings (by simp [Brings])
  · have hclient : ClientInv tel (fun _ => True) (InStep available valueGet uninit start) :=
      { jobs := fun _ _ hd => hd
        watch := fun g fg freq age samples _ hd => inStep_watch hd tel g fg freq age samples
        unwatch := fun g fg now hd => inStep_unwatch hd g fg now }
    refine hclient.exec h hbrings (fun _ _ => trivial) ?_
    intro hgroup
    cases op <;> first | exact absurd hgroup id | exact h

theorem create_tracks (available : Option (Nat → Bool)) (bulkFetchEnabled : Bool) :
    ∃ start, TelemetrySide.create available bulkFetchEnabled = some start
      ∧ Tracks available start fun _ => False := by
  have heach : ∀ ptr ∈ daemonModules,
      (claimed (moduleFields available) ptr).length ≤ maxNumFields := by
    intro ptr _
    cases ptr with
    | smi => exact (by decide : smiFields.length ≤ maxNumFields)
    | rocp =>
      cases available with
      | none => exact Nat.zero_le _
      | some has =>
        have hrocp : rocpFields.length ≤ maxNumFields := by decide
        exact (List.length_filter_le has rocpFields).trans hrocp
  obtain ⟨m, hm, _, hrouted⟩ := create_firstClaims heach
  refine ⟨⟨m, ⟨MetricFetcher.init, bulkFetchEnabled, AmdsmiStatus.success⟩, 0⟩, ?_, ?_⟩
  · unfold TelemetrySide.create
    rw [show [TelemetryLib.smi, .rocp] = daemonModules from rfl, hm]
    rfl
  · refine ⟨hrouted, owned_init, ?_⟩
    intro k _
    show k ∈ (∅ : KeyMap FieldSMIData) ↔ False
    simp

/-- **A handle is held exactly while its field is watched**, after every history of the daemon, and
there is one counter for it then and none otherwise. A fetch too long for the array of the
dispatcher counts as one that brings nothing. -/
theorem handle_iff_watching (available : Option (Nat → Bool)) (bulkFetchEnabled : Bool)
    (valueGet : Nat → ValueGetAnswers) (uninit : RdcFieldValue) (ops : List Op) (key : RdcFieldKey)
    (hkey : eventGroup key.2 ≠ none) :
    ∃ start, TelemetrySide.create available bulkFetchEnabled = some start ∧
      let d := run (Daemon.exec (daemonTelemetry available)) Daemon.init ops
      let m := (replay (grantedAnswers valueGet uninit) start d.moduleCalls).smiLib.metricFetcher
      (key ∈ m.smiData ↔ RecordWatching d.fieldsToWatch key)
        ∧ (RecordWatching d.fieldsToWatch key → (m.counters.outFor key).length = 1)
        ∧ (¬ RecordWatching d.fieldsToWatch key → (m.counters.outFor key).length = 0) := by
  obtain ⟨start, hstart, htracks⟩ := create_tracks available bulkFetchEnabled
  refine ⟨start, hstart, ?_⟩
  have hinit : InStep available valueGet uninit start Daemon.init := by
    refine htracks.congr fun k _ => ?_
    show False ↔ ∃ r, (∅ : KeyMap FieldSettings)[k]? = some r ∧ _
    simp
  have hrun := run_invariant (I := InStep available valueGet uninit start)
    (fun d op h => inStep_exec h (daemonTelemetry available) op) hinit ops
  have hmem := hrun.keys key hkey
  have hout := outFor_eq hrun.owned.holds hrun.owned.noneLost key
  refine ⟨hmem, ?_, ?_⟩
  · intro hw
    obtain ⟨data, hdata⟩ := exists_getElem?_of_mem (hmem.mpr hw)
    rw [hout, heldHandle_of_getElem? hdata]
    rfl
  · intro hw
    rw [hout, heldHandle_eq_none.mpr fun hin => hw (hmem.mp hin)]
    rfl

/-- One GPU, one throughput counter, one watch. -/
def watchXgmi : List Op :=
  [.groupGpuCreate [], .groupGpuAdd 1 0, .groupFieldCreate [1500] [], .fieldWatch 1 1 1000 1 10]

/-- Zeros, whatever is read. -/
def zeroValue : RdcFieldValue := ⟨0, 0, 0, .integer, .lInt 0⟩

@[inherit_doc zeroValue]
def zeroReadings : ValueGetAnswers :=
  ⟨0, fun _ => default, fun _ => default, fun _ => .ok,
    Vector.replicate bulkFieldsMax ⟨0, zeroValue⟩⟩

theorem handle_iff_watching_watchXgmi :
    ∃ start, TelemetrySide.create none false = some start ∧
      let d := run (Daemon.exec (daemonTelemetry none)) Daemon.init watchXgmi
      let m := (replay (grantedAnswers (fun _ => zeroReadings) zeroValue) start
        d.moduleCalls).smiLib.metricFetcher
      (0, 1500) ∈ m.smiData ∧ (m.counters.outFor (0, 1500)).length = 1 := by
  obtain ⟨start, hstart, hmem, hone, _⟩ := handle_iff_watching none false
    (fun _ => zeroReadings) zeroValue watchXgmi (0, 1500) (by decide)
  have hwatching : RecordWatching
      (run (Daemon.exec (daemonTelemetry none)) Daemon.init watchXgmi).fieldsToWatch (0, 1500) := by
    refine ⟨watchSettings 1000 1 10, ?_, rfl⟩
    decide +kernel
  exact ⟨start, hstart, hmem.mpr hwatching, hone hwatching⟩

end Joint

end Rdc.Proof
