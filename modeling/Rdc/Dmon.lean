import Rdc.Standalone
import Rdc.Reader
import Rdc.Lib.Raise

/-!
# `rdci dmon`

`RdciDmonSubSystem`: it reads its command line, makes groups of its own if it was given GPUs and
fields rather than groups, watches, prints samples and events until it has printed enough, and gives
its groups back. The destructor gives them back too, if that has not happened yet.

The daemon is on the other side of a connection and can answer anything, so it is a parameter
(`RdcApi`): one function for each call, over a state of any type. What is printed is left out, but
not the exceptions on the way there. A loop that waits for `RDC_ST_NOT_FOUND` may never get it, so
it has fuel.

`gpuGroups` and `fieldGroups` keep track, on the side, of the groups the object has made and not
destroyed.
-/

namespace Rdc

open Raise

/-! ## The daemon -/

/-- A field of the table; the daemon takes no others into a group. -/
abbrev KnownField := { field : Nat // field ∈ fieldIdToDescript }

/-- The daemon, and the signal handler. Destroying a group succeeds. -/
structure RdcApi (σ : Type) where
  rdcGroupGpuCreate : σ → Except Failure Nat × σ
  rdcGroupGpuAdd (groupId gpuIndex : Nat) : σ → Status × σ
  rdcGroupFieldCreate (fieldIds : List Nat) : σ → Except Failure Nat × σ
  /-- The members of the group. -/
  rdcGroupGpuGetInfo (groupId : Nat) : σ → Except Failure (List Nat) × σ
  /-- The members of the field group. -/
  rdcGroupFieldGetInfo (fieldGroupId : Nat) : σ → Except Failure (List KnownField) × σ
  rdcFieldWatch (groupId fieldGroupId updateFreq : Nat) (maxKeepAge : ℚ) (maxKeepSamples : Nat) :
    σ → Status × σ
  rdcFieldUnwatch (groupId fieldGroupId : Nat) : σ → Status × σ
  /-- The status, and the two buffers after the call. -/
  rdcFieldGetValueSince (gpuIndex fieldId since nextTs : Nat) (value : RdcFieldValue) :
    σ → (Status × Nat × RdcFieldValue) × σ
  rdcFieldGetLatestValue (gpuIndex fieldId : Nat) : σ → Except Failure RdcFieldValue × σ
  rdcGroupGpuDestroy (groupId : Nat) : σ → σ
  rdcGroupFieldDestroy (fieldGroupId : Nat) : σ → σ
  /-- `is_terminating_`. -/
  isTerminating : σ → Bool × σ

/-! ## Stopping -/

/-- What is thrown: an `RdcException`, or one of the standard library. -/
inductive DmonError where
  | rdcException (errorCode : Status) (what : String)
  | outOfRange

/-- Why the program did not come to its end. -/
inductive DmonStop where
  | thrown (error : DmonError)
  /-- It has written over the end of an array. -/
  | overrun
  /-- It is still in a loop. -/
  | unfinished

/-- Throw an `RdcException`. -/
def throwRdc {σ α : Type} (status : Status) (what : String) : Cmd DmonStop σ α :=
  Cmd.stop (.thrown (.rdcException status what))

/-! ## New notifications -/

/-- `notif_dev_value`. -/
structure NotifDevValue where
  devInd : Nat
  val : RdcFieldValue
  deriving DecidableEq

/-- The variables of `collect_new_notifs`, and what it has pushed. -/
structure Notifs (σ : Type) where
  daemon : σ
  nextTs : Nat
  value : RdcFieldValue
  pushed : List NotifDevValue

section Collect

variable {σ : Type}

/-- How `collect_new_notifs` reads, with its two buffers. -/
abbrev ReadSince (σ : Type) :=
  Nat → Nat → Nat → Nat → RdcFieldValue → σ → (Status × Nat × RdcFieldValue) × σ

variable (read : ReadSince σ)

/-- One call of `rdc_field_get_value_since`. -/
def readSince (gpu field since : Nat) : Cmd DmonStop (Notifs σ) Status :=
  Cmd.atomic fun s =>
    let ((ret, nextTs, value), daemon) := read gpu field since s.nextTs s.value s.daemon
    (ret, { s with daemon := daemon, nextTs := nextTs, value := value })

/-- The loop for one GPU and one field: the new mark of the field. -/
def drainField (gpu field : Nat) : Nat → Nat → Cmd DmonStop (Notifs σ) Nat
  | 0, _ => Cmd.stop .unfinished
  | fuel + 1, mark => do
      match ← readSince read gpu field mark with
      | .notFound => return mark
      | .ok =>
        Cmd.update fun s => { s with pushed := s.pushed ++ [⟨gpu, s.value⟩] }
        drainField gpu field fuel (← Cmd.read fun s => s.nextTs)
      | ret => throwRdc ret "rdc_field_get_value_since() failed"

/-- The loop over the fields, each with its mark in `notif_ts`. -/
def drainGpu (fuel gpu : Nat) : List (Nat × Nat) → Cmd DmonStop (Notifs σ) (List (Nat × Nat))
  | [] => return []
  | (field, mark) :: rest => do
      let mark' ← drainField read gpu field fuel mark
      return (field, mark') :: (← drainGpu fuel gpu rest)

/-- `collect_new_notifs`: the marks it leaves. The GPUs are outside, so a field has the mark that
the GPU before has left. -/
def Dmon.collectNewNotifs (fuel : Nat) :
    List Nat → List (Nat × Nat) → Cmd DmonStop (Notifs σ) (List (Nat × Nat))
  | [], notifTs => return notifTs
  | gpu :: gpus, notifTs => do
      Dmon.collectNewNotifs fuel gpus (← drainGpu read fuel gpu notifTs)

end Collect

/-! ## The object -/

/-- `OPERATIONS`, without the unused zero. -/
inductive DmonOps where
  | help
  | listFields
  | listAllFields
  | monitor
  deriving DecidableEq

/-- `OPTIONS`, without the unused zero. -/
inductive DmonOption where
  | count
  | delay
  | fieldGroupId
  | groupId
  deriving DecidableEq

/-- `RdciDmonSubSystem`, with the daemon it talks to. -/
structure Dmon (σ : Type) where
  daemon : σ
  dmonOps : DmonOps
  options : DmonOption → Option Nat
  fieldIds : List Nat
  gpuIndexes : List Nat
  needCleanup : Bool
  gpuGroups : List Nat
  fieldGroups : List Nat

/-- What the local variables hold before they are written. -/
structure DmonLocals where
  fieldIdArray : Vector Nat rdcMaxFieldIdsPerFieldGroup
  nextTs : Nat
  value : RdcFieldValue

/-- The tables of texts. -/
structure DmonTables where
  /-- `get_field_id_from_name`. -/
  fieldIdFromName : List Char → Option Nat
  /-- `rdc_status_string`. -/
  statusString : Status → String

/-- An option of the command line, as `getopt_long` returns it. -/
inductive DmonArg where
  | host (optarg : List Char)
  | help
  | unauth
  | timeStamp
  | list
  | listAll
  | fieldGroupId (optarg : List Char)
  | fieldId (optarg : List Char)
  | gpuIndex (optarg : List Char)
  | groupId (optarg : List Char)
  | count (optarg : List Char)
  | delay (optarg : List Char)
  | unknown
  deriving DecidableEq

namespace Dmon

variable {σ : Type}

/-- The constructor. -/
def init (daemon : σ) : Dmon σ := ⟨daemon, .monitor, fun _ => none, [], [], false, [], []⟩

/-- `options_.insert`: what is there stays. -/
def insertOption (s : Dmon σ) (option : DmonOption) (value : Nat) : Dmon σ :=
  { s with
    options := fun o => if o = option then (s.options o).or (some value) else s.options o }

/-- A call to the daemon. -/
def call {α : Type} (f : σ → α × σ) : Cmd DmonStop (Dmon σ) α :=
  Cmd.atomic fun s => ((f s.daemon).1, { s with daemon := (f s.daemon).2 })

/-- `options_[…]`, which makes a missing entry. -/
def optionAt (option : DmonOption) : Cmd DmonStop (Dmon σ) Nat :=
  Cmd.atomic fun s => (((s.options option).getD 0), s.insertOption option 0)

/-! ## The command line -/

/-- `IsNumber`. -/
def isNumber (s : List Char) : Bool := !s.isEmpty && s.all Char.isDigit

/-- `std::stoi` of digits. -/
def stoi (s : List Char) : Cmd DmonStop (Dmon σ) Nat :=
  let n := s.foldl (fun n c => 10 * n + (c.toNat - '0'.toNat)) 0
  if n < 2 ^ 31 then return n else Cmd.stop (.thrown .outOfRange)

/-- The loop of `split_string`, with the token that has been read so far. -/
def splitTokens (delimiter : Char) : List Char → List Char → List (List Char)
  | [], [] => []
  | [], token => [token]
  | c :: s, token =>
    if c = delimiter then token :: splitTokens delimiter s []
    else splitTokens delimiter s (token ++ [c])

/-- `split_string`. -/
def splitString (s : List Char) (delimiter : Char) : List (List Char) := splitTokens delimiter s []

/-- An option whose argument is a number. -/
def numberOption (option : DmonOption) (what : String) (optarg : List Char) :
    Cmd DmonStop (Dmon σ) Unit := do
  if !isNumber optarg then
    throwRdc .badParameter what
  let n ← stoi optarg
  Cmd.update fun s => s.insertOption option n

/-- The loop over the options: the arguments of `-e` and `-i`, or nothing after `-h`. -/
def parseLoop : List DmonArg → List Char → List Char →
    Cmd DmonStop (Dmon σ) (Option (List Char × List Char))
  | [], fieldIds, gpuIndexes => return some (fieldIds, gpuIndexes)
  | .help :: _, _, _ => do
      Cmd.update fun s => { s with dmonOps := .help }
      return none
  | .host _ :: rest, fieldIds, gpuIndexes => parseLoop rest fieldIds gpuIndexes
  | .unauth :: rest, fieldIds, gpuIndexes => parseLoop rest fieldIds gpuIndexes
  | .timeStamp :: rest, fieldIds, gpuIndexes => parseLoop rest fieldIds gpuIndexes
  | .list :: rest, fieldIds, gpuIndexes => do
      Cmd.update fun s => { s with dmonOps := .listFields }
      parseLoop rest fieldIds gpuIndexes
  | .listAll :: rest, fieldIds, gpuIndexes => do
      Cmd.update fun s => { s with dmonOps := .listAllFields }
      parseLoop rest fieldIds gpuIndexes
  | .fieldGroupId optarg :: rest, fieldIds, gpuIndexes => do
      numberOption .fieldGroupId "The field group id needs to be a number" optarg
      parseLoop rest fieldIds gpuIndexes
  | .fieldId optarg :: rest, _, gpuIndexes => parseLoop rest optarg gpuIndexes
  | .gpuIndex optarg :: rest, fieldIds, _ => parseLoop rest fieldIds optarg
  | .groupId optarg :: rest, fieldIds, gpuIndexes => do
      numberOption .groupId "The group id needs to be a number" optarg
      parseLoop rest fieldIds gpuIndexes
  | .count optarg :: rest, fieldIds, gpuIndexes => do
      numberOption .count "The count needs to be a number" optarg
      parseLoop rest fieldIds gpuIndexes
  | .delay optarg :: rest, fieldIds, gpuIndexes => do
      numberOption .delay "The delay needs to be a number" optarg
      parseLoop rest fieldIds gpuIndexes
  | .unknown :: _, _, _ => throwRdc .badParameter "Unknown command line options"

/-- The fields of `-e`: numbers, or names from the table. -/
def pushFieldIds (tables : DmonTables) : List (List Char) → Cmd DmonStop (Dmon σ) Unit
  | [] => return
  | id :: rest => do
      if !isNumber id then
        match tables.fieldIdFromName id with
        | none =>
          throwRdc .badParameter ("The field name " ++ String.ofList id ++ " is not valid")
        | some field => Cmd.update fun s => { s with fieldIds := s.fieldIds ++ [field] }
      else
        let field ← stoi id
        Cmd.update fun s => { s with fieldIds := s.fieldIds ++ [field] }
      pushFieldIds tables rest

/-- The GPUs of `-i`. -/
def pushGpuIndexes : List (List Char) → Cmd DmonStop (Dmon σ) Unit
  | [] => return
  | id :: rest => do
      if !isNumber id then
        throwRdc .badParameter ("The GPU index " ++ String.ofList id ++ " needs to be a number")
      let gpu ← stoi id
      Cmd.update fun s => { s with gpuIndexes := s.gpuIndexes ++ [gpu] }
      pushGpuIndexes rest

/-- Without a field group there must be fields. -/
def checkFieldIds (tables : DmonTables) (fieldIds : List Char) : Cmd DmonStop (Dmon σ) Unit := do
  if ← Cmd.read fun s => (s.options .fieldGroupId).isNone then
    if fieldIds = [] then
      throwRdc .badParameter "Need to specify the fields or field group id"
    else
      pushFieldIds tables (splitString fieldIds ',')

/-- Without a group there must be GPUs. -/
def checkGpuIndexes (gpuIndexes : List Char) : Cmd DmonStop (Dmon σ) Unit := do
  if ← Cmd.read fun s => (s.options .groupId).isNone then
    if gpuIndexes = [] then
      throwRdc .badParameter "Need to specify the GPUs or group id"
    else
      pushGpuIndexes (splitString gpuIndexes ',')

/-- A list and a group exclude each other. -/
def checkNotBoth (option : DmonOption) (what : String) (optarg : List Char) :
    Cmd DmonStop (Dmon σ) Unit := do
  if ← Cmd.read fun s => !optarg.isEmpty && (s.options option).isSome then
    throwRdc .badParameter what

/-- The second half of `parse_cmd_opts`. -/
def checkOptions (tables : DmonTables) (fieldIds gpuIndexes : List Char) :
    Cmd DmonStop (Dmon σ) Unit := do
  checkFieldIds tables fieldIds
  checkGpuIndexes gpuIndexes
  checkNotBoth .groupId "Use either the group or GPU indexes" gpuIndexes
  checkNotBoth .fieldGroupId "Use either the field group or field IDs" fieldIds
  Cmd.update fun s => s.insertOption .delay 1000
  Cmd.update fun s => s.insertOption .count (2 ^ 32 - 1)

/-- `parse_cmd_opts`. -/
def parseCmdOpts (tables : DmonTables) (args : List DmonArg) : Cmd DmonStop (Dmon σ) Unit := do
  match ← parseLoop args [] [] with
  | none => return
  | some (fieldIds, gpuIndexes) =>
    match ← Cmd.read fun s => s.dmonOps with
    | .listFields | .listAllFields => return
    | _ => checkOptions tables fieldIds gpuIndexes

/-! ## Temporary groups -/

variable (api : RdcApi σ) (tables : DmonTables) (uninit : DmonLocals)

/-- The loop of `create_temp_group`. -/
def addGpus (groupId : Nat) : List Nat → Cmd DmonStop (Dmon σ) Unit
  | [] => return
  | gpu :: gpus => do
      let result ← call (api.rdcGroupGpuAdd groupId gpu)
      if result ≠ .ok then
        throwRdc result ("Fail to add " ++ toString gpu ++ " to the dmon group.")
      addGpus groupId gpus

/-- `create_temp_group`. The id goes into the options when the group is complete. -/
def createTempGroup : Cmd DmonStop (Dmon σ) Unit := do
  let gpuIndexes ← Cmd.read fun s => s.gpuIndexes
  if gpuIndexes = [] then
    return
  match ← call api.rdcGroupGpuCreate with
  | .error failure => throwRdc failure.status "Fail to create the dmon group"
  | .ok groupId =>
    Cmd.update fun s => { s with needCleanup := true, gpuGroups := groupId :: s.gpuGroups }
    addGpus api groupId gpuIndexes
    Cmd.update fun s => s.insertOption .groupId groupId

/-- `create_temp_field_group`. -/
def createTempFieldGroup : Cmd DmonStop (Dmon σ) Unit := do
  let fieldIds ← Cmd.read fun s => s.fieldIds
  if fieldIds = [] then
    return
  match copyFieldIds fieldIds uninit.fieldIdArray with
  | none => Cmd.stop .overrun
  | some copied =>
    match ← call (api.rdcGroupFieldCreate copied) with
    | .error failure => throwRdc failure.status "Fail to create the dmon field group."
    | .ok groupId =>
      Cmd.update fun s =>
        { s with needCleanup := true, fieldGroups := groupId :: s.fieldGroups }
      Cmd.update fun s => s.insertOption .fieldGroupId groupId

/-! ## Monitoring -/

/-- Look a group up that must exist and have members. -/
def getMembers {α : Type} (getInfo : Nat → σ → Except Failure (List α) × σ) (option : DmonOption)
    (kind theKind member : String) : Cmd DmonStop (Dmon σ) (List α) := do
  let id ← optionAt option
  match ← call (getInfo id) with
  | .error failure =>
    throwRdc failure.status
      (if failure.status = .notFound then "Cannot find the " ++ kind ++ " " ++ toString id
        else tables.statusString failure.status)
  | .ok [] =>
    throwRdc .notFound
      ("The " ++ theKind ++ " " ++ toString id ++ " must contain at least 1 " ++ member ++ ".")
  | .ok members => return members

/-- A call of `collect_new_notifs`: the marks and what was pushed. -/
def newNotifs (fuel : Nat) (gpus : List Nat) (notifTs : List (Nat × Nat)) :
    Cmd DmonStop (Dmon σ) (List (Nat × Nat) × List NotifDevValue) := fun s =>
  match (collectNewNotifs api.rdcFieldGetValueSince fuel gpus notifTs).exec
      ⟨s.daemon, uninit.nextTs, uninit.value, []⟩ with
  | (.ok marks, n) => (.ok (marks, n.pushed), { s with daemon := n.daemon })
  | (.error e, n) => (.error e, { s with daemon := n.daemon })

/-- `print_and_clr_notif_pq`: the label of an event is looked up with `at`. -/
def printAndClrNotifPq (pushed : List NotifDevValue) : Cmd DmonStop (Dmon σ) Unit :=
  if pushed.all fun v => fieldIdToDescript.contains v.val.fieldId then return
  else Cmd.stop (.thrown .outOfRange)

/-- The loop over the fields of a GPU; whether the program is to end. -/
def printFields (gpu : Nat) : List Nat → Cmd DmonStop (Dmon σ) Bool
  | [] => return false
  | field :: fields => do
      let _ ← call (api.rdcFieldGetLatestValue gpu field)
      if ← call api.isTerminating then
        return true
      printFields gpu fields

/-- The loop over the GPUs. -/
def printGpus (regFields : List Nat) : List Nat → Cmd DmonStop (Dmon σ) Bool
  | [] => return false
  | gpu :: gpus => do
      if ← printFields api gpu regFields then
        return true
      printGpus regFields gpus

/-- The loop that is run `count` times, or until the program is to end. -/
def monitorLoop (fuel : Nat) (gpus regFields : List Nat) :
    Nat → List (Nat × Nat) → Cmd DmonStop (Dmon σ) Unit
  | 0, _ => return
  | count + 1, notifTs => do
      let (notifTs, pushed) ← newNotifs api uninit fuel gpus notifTs
      printAndClrNotifPq pushed
      if ← printGpus api regFields gpus then
        return
      monitorLoop fuel gpus regFields count notifTs

/-- `clean_up`, first part: the watch ends if both groups are known. -/
def cleanUpWatch (s : Dmon σ) : Dmon σ :=
  match s.options .groupId, s.options .fieldGroupId with
  | some g, some fg => { s with daemon := (api.rdcFieldUnwatch g fg s.daemon).2 }
  | _, _ => s

/-- `clean_up`, second part. -/
def cleanUpGroup (s : Dmon σ) : Dmon σ :=
  if s.gpuIndexes ≠ [] then
    match s.options .groupId with
    | some g =>
      { s with
        daemon := api.rdcGroupGpuDestroy g s.daemon
        gpuGroups := s.gpuGroups.filter (· ≠ g) }
    | none => s
  else s

/-- `clean_up`, third part. -/
def cleanUpFieldGroup (s : Dmon σ) : Dmon σ :=
  if s.fieldIds ≠ [] then
    match s.options .fieldGroupId with
    | some fg =>
      { s with
        daemon := api.rdcGroupFieldDestroy fg s.daemon
        fieldGroups := s.fieldGroups.filter (· ≠ fg) }
    | none => s
  else s

/-- `clean_up`. -/
def cleanUp (s : Dmon σ) : Dmon σ :=
  if s.needCleanup then
    { cleanUpFieldGroup api (cleanUpGroup api (cleanUpWatch api s)) with needCleanup := false }
  else s

/-- `process`, once the groups are there. -/
def monitor (fuel : Nat) : Cmd DmonStop (Dmon σ) Unit := do
  let gpus ← getMembers tables api.rdcGroupGpuGetInfo .groupId "group" "gpu group" "GPU"
  let fields ← getMembers tables api.rdcGroupFieldGetInfo .fieldGroupId "field group" "field group"
    "field"
  let (notifFields, regFields) :=
    (fields.map Subtype.val).partition fun field => isNotificationEvent field
  let delay ← optionAt .delay
  let g ← optionAt .groupId
  let fg ← optionAt .fieldGroupId
  -- the status is not looked at
  let _ ← call (api.rdcFieldWatch g fg (delay * 1000 % 2 ^ 32) (delay / 1000 + 60) 10)
  Cmd.update fun s => { s with needCleanup := true }
  -- events that are in the cache already are not printed
  let (notifTs, _) ← newNotifs api uninit fuel gpus (notifFields.map fun field => (field, 0))
  let count ← optionAt .count
  monitorLoop api uninit fuel gpus regFields count notifTs
  Cmd.update (cleanUp api)

/-- `process`. -/
def process (fuel : Nat) : Cmd DmonStop (Dmon σ) Unit := do
  match ← Cmd.read fun s => s.dmonOps with
  | .help | .listFields | .listAllFields => return
  | .monitor =>
    createTempGroup api
    createTempFieldGroup api uninit
    monitor api tables uninit fuel

/-- What `main` does with the object. -/
def main (fuel : Nat) (args : List DmonArg) : Cmd DmonStop (Dmon σ) Unit := do
  parseCmdOpts tables args
  process api tables uninit fuel

/-- The life of the object: the command line, `process`, and the destructor, however far the program
got. -/
def lifetime (fuel : Nat) (args : List DmonArg) (daemon : σ) : Except DmonStop Unit × Dmon σ :=
  let r := (main api tables uninit fuel args).exec (init daemon)
  (r.1, cleanUp api r.2)

end Dmon

end Rdc
