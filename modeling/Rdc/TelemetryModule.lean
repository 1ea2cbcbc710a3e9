import Rdc.Handler
import Rdc.Lib.Route

/-!
# Which module delivers a field

`RdcTelemetryModule`: a list of modules, each of which says which fields it can deliver, and a map
from fields to modules that is filled when the object is made. A request is split by that map and
handed on, a part to each module; what no module delivers is reported as unsupported.

A module is a pointer. All that matters about pointers is that they are ordered, which is the order
the parts are handed out in, so the class is written over any such type. A lookup of an unknown
field puts a null pointer into the map; a null pointer is `none`.

The class copies each part into an array before it passes it on, and a part that does not fit makes
the result `none`.
-/

namespace Rdc

open Std

/-- `MAX_NUM_FIELDS`. -/
def maxNumFields : Nat := 8192

/-- `RDC_ST_NOT_SUPPORTED`, as the `int` of a field value. -/
def rdcStNotSupported : Int := 1

/-- `RdcTelemetryModule`. -/
structure RdcTelemetryModule (μ : Type) where
  telemetryModules : List μ
  fieldsIdModule : IdMap (Option μ)

/-- A call that is dispatched to the modules, with what the caller's local value happens to hold.
-/
inductive TelemetryCall where
  | fieldsWatch (fields : List RdcFieldKey) (uninit : RdcFieldValue)
  | fieldsUnwatch (fields : List RdcFieldKey) (uninit : RdcFieldValue)
  | fieldsValueGet (fields : List RdcFieldKey) (uninit : RdcFieldValue)

/-- The requested fields. -/
def TelemetryCall.fields : TelemetryCall → List RdcFieldKey
  | .fieldsWatch fields _ | .fieldsUnwatch fields _ | .fieldsValueGet fields _ => fields

/-- Where the fields of a request went: the parts in the order of the pointers, and
`unsupport_fields`. -/
structure Handed (μ : Type) where
  toModules : List (μ × List RdcFieldKey)
  unsupportFields : List RdcGpuFieldValue

/-- The working variables of `get_fields_for_module`. -/
structure FieldsForModule (μ : Type) [Ord μ] where
  fieldsIdModule : IdMap (Option μ)
  fieldsInModule : ExtTreeMap μ (List RdcFieldKey) compare
  unsupportFields : List RdcGpuFieldValue

namespace RdcTelemetryModule

variable {μ : Type} [Ord μ] [TransOrd μ]

section Query

variable (query : μ → Except Failure (List Nat))

/-- One turn of the loop of the constructor. A field keeps the first module that claims it. -/
def claimFields (routes : IdMap (Option μ)) (ptr : μ) : Option (IdMap (Option μ)) :=
  match query ptr with
  | .error _ => some routes
  | .ok fields =>
    if fields.length ≤ maxNumFields then
      some (fields.foldl (fun routes field => routes.insertIfNew field (some ptr)) routes)
    else none

/-- The constructor. -/
def create (modules : List μ) : Option (RdcTelemetryModule μ) :=
  (modules.foldlM (claimFields query) ∅).map (⟨modules, ·⟩)

/-- The loop of `rdc_telemetry_fields_query`: each module writes behind the one before. -/
def queryLoop : List μ → List Nat → Option (List Nat)
  | [], fieldIds => some fieldIds
  | ptr :: rest, fieldIds =>
    match query ptr with
    | .error _ => queryLoop rest fieldIds
    | .ok fields =>
      if fieldIds.length + fields.length ≤ maxNumFields then queryLoop rest (fieldIds ++ fields)
      else none

/-- `rdc_telemetry_fields_query`. -/
def rdcTelemetryFieldsQuery (m : RdcTelemetryModule μ) : Option (List Nat) :=
  queryLoop query m.telemetryModules []

end Query

/-- What is reported for a field that no module delivers. -/
def unsupportField (uninit : RdcFieldValue) (key : RdcFieldKey) : RdcGpuFieldValue where
  gpuIndex := key.1
  fieldValue := { uninit with fieldId := key.2, status := rdcStNotSupported }

/-- One turn of the loop of `get_fields_for_module`. -/
def dispatchField (uninit : RdcFieldValue) (acc : FieldsForModule μ) (key : RdcFieldKey) :
    FieldsForModule μ :=
  match acc.fieldsIdModule[key.2]? with
  | some (some ptr) => { acc with fieldsInModule := Route.push acc.fieldsInModule ptr key }
  | _ =>
    { acc with
      -- reading a missing entry makes one
      fieldsIdModule := acc.fieldsIdModule.insertIfNew key.2 none
      unsupportFields := acc.unsupportFields ++ [unsupportField uninit key] }

/-- `get_fields_for_module`. -/
def getFieldsForModule (m : RdcTelemetryModule μ) (fields : List RdcFieldKey)
    (uninit : RdcFieldValue) : FieldsForModule μ :=
  fields.foldl (dispatchField uninit) ⟨m.fieldsIdModule, ∅, []⟩

/-- `rdc_telemetry_fields_watch` and `rdc_telemetry_fields_unwatch`, up to the call made on each
module: a part that is empty is not handed out. -/
def handOut (m : RdcTelemetryModule μ) (fields : List RdcFieldKey) (uninit : RdcFieldValue) :
    Option (Handed μ) × RdcTelemetryModule μ :=
  let acc := m.getFieldsForModule fields uninit
  (some ⟨acc.fieldsInModule.toList.filter (0 < ·.2.length), acc.unsupportFields⟩,
    { m with fieldsIdModule := acc.fieldsIdModule })

/-- `rdc_telemetry_fields_value_get`, up to the call made on each module. Each part is copied into
an array of `MAX_NUM_FIELDS` first. -/
def copyOut (m : RdcTelemetryModule μ) (fields : List RdcFieldKey) (uninit : RdcFieldValue) :
    Option (Handed μ) × RdcTelemetryModule μ :=
  let acc := m.getFieldsForModule fields uninit
  (if acc.fieldsInModule.toList.all (·.2.length ≤ maxNumFields) then
      some ⟨acc.fieldsInModule.toList, acc.unsupportFields⟩
    else none,
    { m with fieldsIdModule := acc.fieldsIdModule })

/-- Dispatch one call. -/
def dispatch (m : RdcTelemetryModule μ) :
    TelemetryCall → Option (Handed μ) × RdcTelemetryModule μ
  | .fieldsWatch fields uninit => m.handOut fields uninit
  | .fieldsUnwatch fields uninit => m.handOut fields uninit
  | .fieldsValueGet fields uninit => m.copyOut fields uninit

end RdcTelemetryModule

end Rdc
