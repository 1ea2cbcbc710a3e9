import Rdc.TelemetryModule
import Rdc.Lib.Machine

/-!
# Dispatch is a partition

The map from fields to modules says, for every field, which module claims it first; the null
pointers that lookups leave in it say what a missing entry says (`FirstClaims`). So a request is
split into the shares of the modules and what nobody claims, however many requests came before. A
share is handed on as it is to be watched, and copied into an array to be fetched: it is the array
that can be too short (`dispatchLaw_iff`).
-/

namespace Rdc.Proof

open Std (ExtTreeMap TransOrd LawfulEqOrd)
open OrdMap Machine Route RdcTelemetryModule

variable {μ : Type} (query : μ → Except Failure (List Nat)) (modules : List μ)

/-! ## Claims -/

/-- The fields a module says it delivers. -/
def claimed (ptr : μ) : List Nat :=
  match query ptr with
  | .error _ => []
  | .ok fields => fields

/-- The first module that claims a field. -/
def firstClaim (field : Nat) : Option μ :=
  modules.find? fun ptr => (claimed query ptr).contains field

/-- The routing map: for each field the first module that claims it, or none or a null pointer. -/
def FirstClaims (routes : IdMap (Option μ)) : Prop :=
  ∀ field : Nat, routes[field]?.join = firstClaim query modules field

variable {query modules}

theorem claimFields_spec {ptr : μ} (h : (claimed query ptr).length ≤ maxNumFields)
    (routes : IdMap (Option μ)) :
    ∃ routes', claimFields query routes ptr = some routes' ∧ ∀ field : Nat,
      routes'[field]? = routes[field]?.or
        (if (claimed query ptr).contains field then some (some ptr) else none) := by
  unfold claimed at h ⊢
  unfold claimFields
  cases hq : query ptr with
  | error failure => exact ⟨routes, rfl, fun field => by simp⟩
  | ok fields =>
    rw [hq] at h
    dsimp only at h ⊢
    rw [if_pos h]
    refine ⟨_, rfl, fun field => ?_⟩
    rw [getElem?_foldl_insertIfNew]
    simp

/-- The loop of the constructor: what the map had stays, and a new field gets its first claim. -/
theorem foldlM_claimFields (h : ∀ ptr ∈ modules, (claimed query ptr).length ≤ maxNumFields)
    (routes : IdMap (Option μ)) :
    ∃ routes', modules.foldlM (claimFields query) routes = some routes' ∧ ∀ field : Nat,
      routes'[field]? = routes[field]?.or ((firstClaim query modules field).map some) := by
  induction modules generalizing routes with
  | nil => exact ⟨routes, rfl, fun field => by simp [firstClaim]⟩
  | cons ptr rest ih =>
    obtain ⟨routes₁, heq₁, hget₁⟩ := claimFields_spec (h ptr (List.mem_cons_self ..)) routes
    obtain ⟨routes₂, heq₂, hget₂⟩ := ih (fun p hp => h p (List.mem_cons_of_mem _ hp)) routes₁
    refine ⟨routes₂, ?_, ?_⟩
    · rw [List.foldlM_cons, heq₁]
      exact heq₂
    · intro field
      rw [hget₂, hget₁, Option.or_assoc]
      unfold firstClaim
      rw [List.find?_cons]
      cases (claimed query ptr).contains field <;> simp

theorem create_firstClaims (h : ∀ ptr ∈ modules, (claimed query ptr).length ≤ maxNumFields) :
    ∃ m, create query modules = some m ∧ m.telemetryModules = modules
      ∧ FirstClaims query modules m.fieldsIdModule := by
  obtain ⟨routes, heq, hget⟩ := foldlM_claimFields h ∅
  refine ⟨⟨modules, routes⟩, ?_, rfl, ?_⟩
  · unfold create
    rw [heq]
    rfl
  · intro field
    rw [hget, ExtTreeMap.getElem?_empty]
    cases firstClaim query modules field <;> rfl

theorem create_of_total (htotal : (modules.flatMap (claimed query)).length ≤ maxNumFields) :
    ∃ m, create query modules = some m ∧ m.telemetryModules = modules
      ∧ FirstClaims query modules m.fieldsIdModule := by
  refine create_firstClaims fun ptr hptr => ?_
  have hsub : (claimed query ptr).Sublist (modules.flatMap (claimed query)) :=
    List.sublist_flatten_of_mem (List.mem_map_of_mem hptr)
  exact hsub.length_le.trans htotal

theorem queryLoop_eq (fieldIds : List Nat)
    (h : fieldIds.length + (modules.flatMap (claimed query)).length ≤ maxNumFields) :
    queryLoop query modules fieldIds = some (fieldIds ++ modules.flatMap (claimed query)) := by
  induction modules generalizing fieldIds with
  | nil => simp [queryLoop]
  | cons ptr rest ih =>
    rw [List.flatMap_cons, List.length_append] at h
    rw [queryLoop, List.flatMap_cons]
    have hclaimed : claimed query ptr = match query ptr with
      | .error _ => []
      | .ok fields => fields := rfl
    cases hq : query ptr with
    | error failure =>
      rw [hq] at hclaimed
      dsimp only at hclaimed ⊢
      rw [hclaimed] at h ⊢
      rw [List.length_nil] at h
      exact ih fieldIds (by omega)
    | ok fields =>
      rw [hq] at hclaimed
      dsimp only at hclaimed ⊢
      rw [hclaimed] at h ⊢
      rw [if_pos (by omega), ih (fieldIds ++ fields) (by rw [List.length_append]; omega),
        List.append_assoc]

/-- The fields that are advertised are those that somebody claims. -/
theorem mem_flatMap_claimed {field : Nat} :
    field ∈ modules.flatMap (claimed query) ↔ firstClaim query modules field ≠ none := by
  unfold firstClaim
  rw [List.mem_flatMap, ne_eq, List.find?_eq_none]
  push Not
  simp

/-! ## The law -/

variable [DecidableEq μ]

variable (query modules) in
/-- Each requested field went to the module that claims it first, in the order of the request, or
was reported as unsupported; nothing was lost or went two ways. -/
structure Partitioned (fields : List RdcFieldKey) (h : Handed μ) : Prop where
  toModules : ∀ ptr keys, (ptr, keys) ∈ h.toModules ↔
    keys ≠ [] ∧ keys = fields.filter fun key => firstClaim query modules key.2 = some ptr
  once : (h.toModules.map Prod.fst).Nodup
  unsupported : h.unsupportFields.map (fun v => (v.gpuIndex, v.fieldValue.fieldId))
    = fields.filter fun key => firstClaim query modules key.2 = none
  status : ∀ v ∈ h.unsupportFields, v.fieldValue.status = rdcStNotSupported
  whole : (h.toModules.flatMap Prod.snd
    ++ h.unsupportFields.map fun v => (v.gpuIndex, v.fieldValue.fieldId)).Perm fields

/-- In a partition by first claims, the fields that go to a module are those somebody claims. -/
theorem Partitioned.claimed_iff {fields : List RdcFieldKey} {handed : Handed μ}
    (h : Partitioned query modules fields handed) {key : RdcFieldKey} (hkey : key ∈ fields) :
    firstClaim query modules key.2 ≠ none
      ↔ ∃ ptr keys, (ptr, keys) ∈ handed.toModules ∧ key ∈ keys := by
  refine ⟨?_, ?_⟩
  · intro hne
    obtain ⟨ptr, hptr⟩ := Option.ne_none_iff_exists'.mp hne
    have hmem : key ∈ fields.filter fun k => firstClaim query modules k.2 = some ptr :=
      List.mem_filter.mpr ⟨hkey, by simpa using hptr⟩
    exact ⟨ptr, _, (h.toModules ptr _).mpr ⟨List.ne_nil_of_mem hmem, rfl⟩, hmem⟩
  · intro hto
    obtain ⟨ptr, keys, hto, hmem⟩ := hto
    rw [((h.toModules ptr keys).mp hto).2, List.mem_filter, decide_eq_true_eq] at hmem
    rw [hmem.2]
    simp

/-! ## One dispatch -/

variable [Ord μ] [TransOrd μ] [LawfulEqOrd μ]

variable (query modules) in
/-- The module a request is for. -/
def routeOf (key : RdcFieldKey) : Option μ := firstClaim query modules key.2

variable (query modules) in
/-- The working variables after the requests `done`. -/
structure Dispatched (uninit : RdcFieldValue) (done : List RdcFieldKey)
    (acc : FieldsForModule μ) : Prop where
  routed : FirstClaims query modules acc.fieldsIdModule
  collected : Collected (routeOf query modules) done acc.fieldsInModule
  unsupported : acc.unsupportFields
    = (share (routeOf query modules) none done).map (unsupportField uninit)

theorem dispatched_step {uninit : RdcFieldValue} {done : List RdcFieldKey} {acc : FieldsForModule μ}
    (h : Dispatched query modules uninit done acc) (key : RdcFieldKey) :
    Dispatched query modules uninit (done ++ [key]) (dispatchField uninit acc key) := by
  have hroute := h.routed key.2
  unfold dispatchField
  split
  · rename_i ptr hptr
    rw [hptr] at hroute
    have hkey : routeOf query modules key = some ptr := hroute.symm
    refine ⟨h.routed, h.collected.push hkey, ?_⟩
    rw [share_concat, hkey, if_neg (by simp)]
    exact h.unsupported
  · -- the entry is missing or null, and a null pointer is what a missing entry becomes
    rename_i hnot
    have hnull : acc.fieldsIdModule[key.2]?.join = none := by
      cases hentry : acc.fieldsIdModule[key.2]? with
      | none => rfl
      | some o =>
        cases o with
        | none => rfl
        | some ptr => exact absurd hentry (hnot ptr)
    have hkey : routeOf query modules key = none := hroute.symm.trans hnull
    refine ⟨?_, h.collected.skip hkey, ?_⟩
    · intro field
      dsimp only
      rw [ExtTreeMap.getElem?_insertIfNew]
      split
      · rename_i hfield
        obtain ⟨hcmp, hmem⟩ := hfield
        have heq : key.2 = field := Std.LawfulEqCmp.eq_of_compare hcmp
        rw [← heq]
        exact hkey.symm
      · exact h.routed field
    · dsimp only
      rw [share_concat, hkey, if_pos rfl, h.unsupported, List.map_append]
      rfl

variable {m : RdcTelemetryModule μ}

theorem dispatched_getFieldsForModule (h : FirstClaims query modules m.fieldsIdModule)
    (fields : List RdcFieldKey) (uninit : RdcFieldValue) :
    Dispatched query modules uninit fields (m.getFieldsForModule fields uninit) := by
  have hloop : ∀ (rest done : List RdcFieldKey) (acc : FieldsForModule μ),
      Dispatched query modules uninit done acc →
      Dispatched query modules uninit (done ++ rest) (rest.foldl (dispatchField uninit) acc) := by
    intro rest
    induction rest with
    | nil =>
      intro done acc hacc
      rw [List.append_nil]
      exact hacc
    | cons key rest ih =>
      intro done acc hacc
      have hnext := ih (done ++ [key]) _ (dispatched_step hacc key)
      rw [List.append_assoc] at hnext
      exact hnext
  exact hloop fields [] _ ⟨h, Collected.nil, rfl⟩

/-! ## Every dispatch -/

/-- The shares in the map, with the unsupported fields, partition the request. -/
theorem partitioned_of_dispatched {uninit : RdcFieldValue} {fields : List RdcFieldKey}
    {acc : FieldsForModule μ} (h : Dispatched query modules uninit fields acc) :
    Partitioned query modules fields ⟨acc.fieldsInModule.toList, acc.unsupportFields⟩ := by
  have hkeys : acc.unsupportFields.map (fun v => (v.gpuIndex, v.fieldValue.fieldId))
      = share (routeOf query modules) none fields := by
    rw [h.unsupported, List.map_map]
    exact List.map_id _
  have honce : (acc.fieldsInModule.toList.map Prod.fst).Nodup := by
    rw [ExtTreeMap.map_fst_toList_eq_keys]
    exact ExtTreeMap.nodup_keys
  have hflat : acc.fieldsInModule.toList.flatMap Prod.snd
      = (acc.fieldsInModule.toList.map Prod.fst).flatMap
          fun ptr => share (routeOf query modules) (some ptr) fields := by
    rw [List.flatMap_map]
    refine List.flatMap_congr fun p hp => ?_
    exact (h.collected.mem_toList.mp hp).2
  refine ⟨fun ptr keys => h.collected.mem_toList, honce, hkeys, ?_, ?_⟩
  · intro v hv
    dsimp only at hv
    rw [h.unsupported, List.mem_map] at hv
    obtain ⟨key, _, rfl⟩ := hv
    rfl
  · dsimp only
    rw [hkeys, hflat]
    refine shares_perm honce ?_
    intro key hkey ptr hptr
    have hmem : key ∈ share (routeOf query modules) (some ptr) fields := mem_share.mpr ⟨hkey, hptr⟩
    refine List.mem_map.mpr ⟨(ptr, share (routeOf query modules) (some ptr) fields), ?_, rfl⟩
    exact h.collected.mem_toList.mpr ⟨List.ne_nil_of_mem hmem, rfl⟩

variable (query modules) in
/-- The array of the fetch is long enough for the share of every module. -/
def Fits : TelemetryCall → Prop
  | .fieldsWatch _ _ => True
  | .fieldsUnwatch _ _ => True
  | .fieldsValueGet fields _ => ∀ ptr,
      (fields.filter fun key => firstClaim query modules key.2 = some ptr).length ≤ maxNumFields

theorem firstClaims_dispatch (h : FirstClaims query modules m.fieldsIdModule)
    (call : TelemetryCall) : FirstClaims query modules (m.dispatch call).2.fieldsIdModule := by
  cases call with
  | fieldsWatch fields uninit => exact (dispatched_getFieldsForModule h fields uninit).routed
  | fieldsUnwatch fields uninit => exact (dispatched_getFieldsForModule h fields uninit).routed
  | fieldsValueGet fields uninit => exact (dispatched_getFieldsForModule h fields uninit).routed

theorem handOut_partitioned (h : FirstClaims query modules m.fieldsIdModule)
    (fields : List RdcFieldKey) (uninit : RdcFieldValue) :
    ∃ handed, (m.handOut fields uninit).1 = some handed
      ∧ Partitioned query modules fields handed := by
  have hd := dispatched_getFieldsForModule h fields uninit
  refine ⟨_, rfl, ?_⟩
  have hfilter : (m.getFieldsForModule fields uninit).fieldsInModule.toList.filter
        (0 < ·.2.length)
      = (m.getFieldsForModule fields uninit).fieldsInModule.toList := by
    refine List.filter_eq_self.mpr fun p hp => ?_
    have hne := (hd.collected.mem_toList.mp hp).1
    simpa [List.length_pos_iff] using hne
  rw [hfilter]
  exact partitioned_of_dispatched hd

/-- A call is dispatched, and then it partitions its request, exactly when the shares fit. -/
theorem dispatch_partitioned_iff (h : FirstClaims query modules m.fieldsIdModule)
    (call : TelemetryCall) :
    (∃ handed, (m.dispatch call).1 = some handed ∧ Partitioned query modules call.fields handed)
      ↔ Fits query modules call := by
  cases call with
  | fieldsWatch fields uninit => exact iff_of_true (handOut_partitioned h fields uninit) trivial
  | fieldsUnwatch fields uninit => exact iff_of_true (handOut_partitioned h fields uninit) trivial
  | fieldsValueGet fields uninit =>
    have hd := dispatched_getFieldsForModule h fields uninit
    have hall : (m.getFieldsForModule fields uninit).fieldsInModule.toList.all
          (·.2.length ≤ maxNumFields) = true
        ↔ Fits query modules (.fieldsValueGet fields uninit) := by
      rw [List.all_eq_true]
      refine ⟨?_, ?_⟩
      · intro hfit ptr
        by_cases hnil : share (routeOf query modules) (some ptr) fields = []
        · have hlen : (share (routeOf query modules) (some ptr) fields).length = 0 := by
            rw [hnil]
            rfl
          exact hlen.trans_le (Nat.zero_le _)
        · have hp := hfit (ptr, share (routeOf query modules) (some ptr) fields)
            (hd.collected.mem_toList.mpr ⟨hnil, rfl⟩)
          exact of_decide_eq_true hp
      · intro hfit p hp
        rw [(hd.collected.mem_toList.mp hp).2]
        exact decide_eq_true (hfit p.1)
    rw [← hall]
    unfold dispatch copyOut
    dsimp only
    refine ⟨?_, ?_⟩
    · intro hhanded
      obtain ⟨handed, heq, _⟩ := hhanded
      by_contra hno
      rw [if_neg hno] at heq
      simp at heq
    · intro hfit
      refine ⟨_, if_pos hfit, partitioned_of_dispatched hd⟩

variable (query modules) in
/-- After any earlier calls: the call is a partition of its request, and a field of the request goes
to a module exactly when it is advertised. -/
def DispatchLaw (earlier : List TelemetryCall) (call : TelemetryCall) : Prop :=
  ∃ m fieldIds handed, create query modules = some m
    ∧ (run dispatch m earlier).rdcTelemetryFieldsQuery query = some fieldIds
    ∧ ((run dispatch m earlier).dispatch call).1 = some handed
    ∧ Partitioned query modules call.fields handed
    ∧ ∀ key ∈ call.fields,
        (key.2 ∈ fieldIds ↔ ∃ ptr keys, (ptr, keys) ∈ handed.toModules ∧ key ∈ keys)

theorem run_dispatch (h : FirstClaims query modules m.fieldsIdModule) (calls : List TelemetryCall) :
    FirstClaims query modules (run dispatch m calls).fieldsIdModule
      ∧ (run dispatch m calls).telemetryModules = m.telemetryModules := by
  induction calls generalizing m with
  | nil => exact ⟨h, rfl⟩
  | cons call calls ih =>
    obtain ⟨hrouted, hmodules⟩ := ih (firstClaims_dispatch h call)
    refine ⟨hrouted, hmodules.trans ?_⟩
    cases call <;> rfl

theorem fits_of_dispatchLaw (htotal : (modules.flatMap (claimed query)).length ≤ maxNumFields)
    {earlier : List TelemetryCall} {call : TelemetryCall}
    (h : DispatchLaw query modules earlier call) : Fits query modules call := by
  obtain ⟨m, hm, _, hrouted⟩ := create_of_total htotal
  obtain ⟨m', _, handed, hm', _, hhanded, hpart, _⟩ := h
  rw [hm] at hm'
  rw [← Option.some.inj hm'] at hhanded
  exact (dispatch_partitioned_iff (run_dispatch hrouted earlier).1 call).mp ⟨handed, hhanded, hpart⟩

/-- **Dispatch is a partition** that agrees with what is advertised, exactly when the shares of a
fetch fit the array they are copied into. -/
theorem dispatchLaw_iff (query : μ → Except Failure (List Nat)) (modules : List μ)
    (htotal : (modules.flatMap (claimed query)).length ≤ maxNumFields)
    (earlier : List TelemetryCall) (call : TelemetryCall) :
    DispatchLaw query modules earlier call ↔ Fits query modules call := by
  refine ⟨fits_of_dispatchLaw htotal, ?_⟩
  intro hfits
  obtain ⟨m, hm, hmodules, hrouted⟩ := create_of_total htotal
  obtain ⟨hrun, hrunModules⟩ := run_dispatch hrouted earlier
  obtain ⟨handed, hhanded, hpart⟩ := (dispatch_partitioned_iff hrun call).mpr hfits
  have hquery : (run dispatch m earlier).rdcTelemetryFieldsQuery query
      = some (modules.flatMap (claimed query)) := by
    unfold rdcTelemetryFieldsQuery
    rw [hrunModules, hmodules]
    exact queryLoop_eq [] (by simpa using htotal)
  refine ⟨m, _, handed, hm, hquery, hhanded, hpart, ?_⟩
  intro key hkey
  rw [mem_flatMap_claimed]
  exact hpart.claimed_iff hkey

/-- Two modules that claim the GPU clock, the second of them also the power. -/
def twoModules (ptr : Nat) : Except Failure (List Nat) :=
  if ptr = 1 then .ok [rdcFiGpuClock] else .ok [rdcFiGpuClock, rdcFiPowerUsage]

/-- A fetch from both, after one that neither of them claims. -/
theorem dispatchLaw_iff_twoModules :
    ([1, 2].flatMap (claimed twoModules)).length ≤ maxNumFields
      ∧ DispatchLaw twoModules [1, 2]
          [.fieldsValueGet [(0, rdcFiMemClock)] ⟨0, 0, 0, .integer, .lInt 0⟩]
          (.fieldsValueGet [(0, rdcFiPowerUsage), (1, rdcFiGpuClock)]
            ⟨0, 0, 0, .integer, .lInt 0⟩) :=
  ⟨by decide, (dispatchLaw_iff _ _ (by decide) _ _).mpr fun _ =>
    (List.length_filter_le ..).trans (by decide)⟩

/-- A fetch of more fields than the array has room for, all from one module. -/
theorem not_dispatchLaw_long :
    ([1, 2].flatMap (claimed twoModules)).length ≤ maxNumFields
      ∧ ¬ DispatchLaw twoModules [1, 2] []
          (.fieldsValueGet (List.replicate 8193 (0, rdcFiGpuClock))
            ⟨0, 0, 0, .integer, .lInt 0⟩) := by
  have htotal : ([1, 2].flatMap (claimed twoModules)).length ≤ maxNumFields := by decide
  refine ⟨htotal, ?_⟩
  intro hlaw
  have hfirst : firstClaim twoModules [1, 2] rdcFiGpuClock = some 1 := by decide
  have hlen := fits_of_dispatchLaw htotal hlaw 1
  rw [List.filter_replicate_of_pos (by simpa using hfirst), List.length_replicate] at hlen
  exact absurd hlen (by decide)

end Rdc.Proof
