import Rdc.GroupRequests
import Rdc.Lib.Raise

/-!
# `rdci group`

`RdciGroupSubSystem`, what it has from `RdciSubSystem`, and `main` around it: the command line, the
connection, the operation, the handlers of the exceptions, and the destructor. Standard output is
kept as the bytes that have been written to it.

With `--json` the output is put together in four places. The option prints the opening brace when
it is met, the operation or the handler of an exception prints members, and the destructor prints
the closing brace.

The daemon is on the other side of a connection and can answer anything, so it is a parameter
(`GroupApi`). `getopt_long` and the files with the certificates are outside; what they return is an
argument. What the client library logs about itself is left out.
-/

namespace Rdc

open Raise

/-- `rdc_status_string`. -/
def rdcStatusString : Status → String
  | .ok => "Success"
  | .notSupported => "Not supported"
  | .failLoadModule => "Fail to load module"
  | .invalidHandler => "Invalid handler"
  | .notFound => "Cannot find the value"
  | .badParameter => "Invalid parameters"
  | .msiError => "SMI error"
  | .maxLimit => "The max limit reached"
  | .conflict => "Conflict with current state"
  | .alreadyExist => "The value already exists"
  | .clientError => "RDC Client error"
  | .insuffResources => "Not enough resources to complete operation"
  | .fileError => "Failed to access a file"
  | .noData => "Data was requested, but none was found"
  | .permError => "Insufficient permission to complete operation"
  | .unknownError => "Unknown error"
  | .disabledModule => "Unknown"

/-! ## The object -/

/-- `OPERATIONS`. -/
inductive GroupOperation where
  | unknown
  | help
  | create
  | delete
  | list
  | addGpus
  | info
  deriving DecidableEq

/-- An option of the command line, as `getopt_long` returns it. -/
inductive GroupArg where
  | host (optarg : List UInt8)
  | json
  | help
  | unauth
  | list
  | group (optarg : List UInt8)
  | create (optarg : List UInt8)
  | add (optarg : List UInt8)
  | info
  | delete (optarg : List UInt8)
  | unknown
  deriving DecidableEq

/-- What is thrown: an `RdcException`, or one of the standard library. -/
inductive RdciError where
  | rdcException (errorCode : Status) (what : List UInt8)
  | outOfRange

/-- `RdciGroupSubSystem`, with the daemon it talks to and standard output. `groupId` is there once
`is_group_set_` is. -/
structure RdciGroup (σ : Type) where
  daemon : σ
  out : List UInt8
  useAuth : Bool
  isJsonOutput : Bool
  groupOps : GroupOperation
  groupId : Option Nat
  groupName : List UInt8
  gpuIds : List UInt8

/-- A file that is needed for the authentication. -/
inductive FileAnswer where
  | missing
  | unreadable
  | readable
  deriving DecidableEq

/-- What is met on the way to a connection. -/
structure ConnectAnswers where
  rootCa : FileAnswer
  clientCert : FileAnswer
  clientKey : FileAnswer
  rdcConnect : Option Failure

namespace RdciGroup

variable {σ : Type}

/-- The constructors. -/
def init (daemon : σ) : RdciGroup σ := ⟨daemon, [], true, false, .unknown, none, [], []⟩

/-- `std::cout <<`. -/
def print (bytes : List UInt8) : Cmd RdciError (RdciGroup σ) Unit :=
  Cmd.update fun s => { s with out := s.out ++ bytes }

/-- Throw an `RdcException`. -/
def throwRdc {α : Type} (status : Status) (what : List UInt8) : Cmd RdciError (RdciGroup σ) α :=
  Cmd.stop (.rdcException status what)

/-- A call to the daemon. -/
def call {α : Type} (f : σ → Answer α × σ) : Cmd RdciError (RdciGroup σ) (Except Failure α) :=
  Cmd.atomic fun s =>
    ((f s.daemon).1.result,
      { s with daemon := (f s.daemon).2, out := s.out ++ (f s.daemon).1.printed })

/-- `is_json_output`. -/
def isJson : Cmd RdciError (RdciGroup σ) Bool := Cmd.read fun s => s.isJsonOutput

/-- One text for each kind of output. -/
def printEither (json plain : List UInt8) : Cmd RdciError (RdciGroup σ) Unit := do
  if ← isJson then print json else print plain

/-! ## Help -/

/-- `root_ca_`. -/
def rootCa : String := "/etc/rdc/client/certs/rdc_cacert.pem"

/-- `client_cert_`. -/
def clientCert : String := "/etc/rdc/client/certs/rdc_client_cert.pem"

/-- `client_key_`. -/
def clientKey : String := "/etc/rdc/client/private/rdc_client_cert.key"

/-- What `show_common_usage` prints. -/
def commonUsage : String :=
  "  --host       <IP/FQDN>:port    Connects to specified IP or fully-qualified domain name.\n" ++
  "                                 The port must be specified.\n" ++
  "                                 Default: localhost:50051\n" ++
  "  -u  --unauth                   Do not use the SSL mutual" ++
  " authentication to encrypt the communication\n" ++
  "                                 Default: SSL mutual will be" ++
  " used. You must copy the root CA to " ++ rootCa ++ "\n" ++
  "                                 Client certificate to " ++ clientCert ++ "\n" ++
  "                                 Client key to " ++ clientKey ++ "\n" ++
  "  -h  --help                     Displays usage information and exits.\n"

/-- What `show_help` prints. -/
def help : String :=
  " group -- Used to  create and maintain groups of GPUs.\n\n" ++
  "Usage\n" ++
  "    rdci group [--host <IP/FQDN>:port] [--json] [-u] -l\n" ++
  "    rdci group [--host <IP/FQDN>:port] [--json] [-u] -c <groupName> [-a <entityId>]\n" ++
  "    rdci group [--host <IP/FQDN>:port] [--json] [-u] -g <groupId> [-a <entityId>]\n" ++
  "    rdci group [--host <IP/FQDN>:port] [--json] [-u] -g <groupId> [-i]\n" ++
  "    rdci group [--host <IP/FQDN>:port] [--json] [-u] -d <groupId>\n" ++
  "\nFlags:\n" ++
  commonUsage ++
  "  --json                         Output using json.\n" ++
  "  -l  --list                     List the groups that currently exist for a host.\n" ++
  "  -g  --group groupId            The GPU group to query on the specified host.\n" ++
  "  -c  --create groupName         Create a group on the remote host.\n" ++
  "  -a  --add    gpuIndexes        " ++
  "Comma-separated list of the GPU indexes to add to the group.\n" ++
  "  -i  --info                     Display the information for the specified group Id\n" ++
  "  -d  --delete groupId           Delete a group on the remote host.\n"

/-- `show_help`. -/
def showHelp : Cmd RdciError (RdciGroup σ) Unit := printEither [] (text help)

/-- Show the help and throw. -/
def usageError {α : Type} (what : String) : Cmd RdciError (RdciGroup σ) α := do
  showHelp
  throwRdc .badParameter (text what)

/-! ## The command line -/

/-- `IsNumber`. -/
def isNumber (s : List UInt8) : Bool := !s.isEmpty && s.all fun b => 48 ≤ b && b ≤ 57

/-- `std::stoi` of digits. -/
def stoi (s : List UInt8) : Cmd RdciError (RdciGroup σ) Nat :=
  let n := s.foldl (fun n b => 10 * n + (b.toNat - 48)) 0
  if n < 2 ^ 31 then return n else Cmd.stop .outOfRange

/-- The argument of `-g` and of `-d`. -/
def parseGroupId (optarg : List UInt8) : Cmd RdciError (RdciGroup σ) Unit := do
  if !isNumber optarg then
    usageError "The group id needs to be a number"
  let n ← stoi optarg
  Cmd.update fun s => { s with groupId := some n }

/-- `set_json_output(true)`. -/
def setJsonOutput : Cmd RdciError (RdciGroup σ) Unit := do
  Cmd.update fun s => { s with isJsonOutput := true }
  print (text "\x7b")

/-- The operation an option asks for. -/
def setOps (ops : GroupOperation) : Cmd RdciError (RdciGroup σ) Unit :=
  Cmd.update fun s => { s with groupOps := ops }

/-- `parse_cmd_opts`. -/
def parseCmdOpts : List GroupArg → Cmd RdciError (RdciGroup σ) Unit
  | [] => do
      if (← Cmd.read fun s => s.groupOps) = .unknown then
        usageError "Must specify a valid operations"
  | .help :: _ => setOps .help
  | .host _ :: rest => parseCmdOpts rest
  | .json :: rest => do
      setJsonOutput
      parseCmdOpts rest
  | .unauth :: rest => do
      Cmd.update fun s => { s with useAuth := false }
      parseCmdOpts rest
  | .list :: rest => do
      setOps .list
      parseCmdOpts rest
  | .group optarg :: rest => do
      parseGroupId optarg
      parseCmdOpts rest
  | .create optarg :: rest => do
      setOps .create
      Cmd.update fun s => { s with groupName := optarg }
      parseCmdOpts rest
  | .add optarg :: rest => do
      -- a create may add GPUs as well
      if (← Cmd.read fun s => s.groupOps) ≠ .create then
        setOps .addGpus
      Cmd.update fun s => { s with gpuIds := optarg }
      parseCmdOpts rest
  | .info :: rest => do
      setOps .info
      parseCmdOpts rest
  | .delete optarg :: rest => do
      setOps .delete
      parseGroupId optarg
      parseCmdOpts rest
  | .unknown :: _ => usageError "Unknown command line options"

/-! ## The connection -/

/-- A file that has to be there and has to be readable. What is printed about a missing one goes to
standard output in either mode. -/
def requireFile (answer : FileAnswer) (kind path notFound unreadable : String) :
    Cmd RdciError (RdciGroup σ) Unit :=
  match answer with
  | .missing => do
      print (text ("In order to use the SSL mutual authentication, the " ++ kind ++
        " must be copied to " ++ path ++ "\n"))
      throwRdc .badParameter (text notFound)
  | .unreadable => throwRdc .badParameter (text (unreadable ++ path))
  | .readable => return ()

/-- `connect`. -/
def connect (answers : ConnectAnswers) : Cmd RdciError (RdciGroup σ) Unit := do
  if ← Cmd.read fun s => s.useAuth then
    requireFile answers.rootCa "root CA" rootCa "root CA not found" "Fail to read root CA at"
    requireFile answers.clientCert "client certificate" clientCert "client cert not found"
      "Fail to read client certificate at"
    requireFile answers.clientKey "client private key" clientKey "client key not found"
      "Fail to read client key at "
  match answers.rdcConnect with
  | some failure =>
    throwRdc failure.status (text ("Fail to setup the connection. Please check all " ++
      "libraries in right folder"))
  | none => return ()

/-! ## The operations -/

/-- The end of `process` after a call that has failed. -/
def fail {α : Type} (failure : Failure) : Cmd RdciError (RdciGroup σ) α :=
  throwRdc failure.status (text (rdcStatusString failure.status))

/-- The members that say an operation on a group has worked. -/
def jsonGroupOk (groupId : Nat) : List UInt8 :=
  text "\"group_id\": \"" ++ decimal groupId ++ text "\", \"status\": \"ok\""

/-- The group that an operation needs. -/
def theGroup (what : String) : Cmd RdciError (RdciGroup σ) Nat := do
  match ← Cmd.read fun s => s.groupId with
  | none => usageError what
  | some groupId => return groupId

/-- The loop of `split_string`, with the token that has been read so far. -/
def splitTokens (delimiter : UInt8) : List UInt8 → List UInt8 → List (List UInt8)
  | [], [] => []
  | [], token => [token]
  | b :: s, token =>
    if b = delimiter then token :: splitTokens delimiter s []
    else splitTokens delimiter s (token ++ [b])

/-- `split_string`. -/
def splitString (s : List UInt8) (delimiter : UInt8) : List (List UInt8) :=
  splitTokens delimiter s []

section Process

variable (api : GroupApi σ)

/-- The loop that adds GPUs to a group. -/
def addGpuIds (groupId : Nat) : List (List UInt8) → Cmd RdciError (RdciGroup σ) Unit
  | [] => return ()
  | gpuId :: gpuIds => do
      if !isNumber gpuId then
        throwRdc .badParameter (text "The GPU Id " ++ gpuId ++ text " needs to be a number")
      let gpu ← stoi gpuId
      match ← call (api.rdcGroupGpuAdd groupId gpu) with
      | .error failure =>
        throwRdc failure.status (text "Fail to add GPU " ++ gpuId ++ text " to the group")
      | .ok () => addGpuIds groupId gpuIds

/-- The loop over the GPUs of a group, from index `j` on. `more` is how it tests whether another one
follows. -/
def gpuIndexes (more : Nat → Bool) : List Nat → Nat → List UInt8
  | [], _ => []
  | gpu :: gpus, j =>
    decimal gpu ++ (if more j then text "," else []) ++ gpuIndexes more gpus (j + 1)

/-- `GROUP_CREATE`. -/
def processCreate : Cmd RdciError (RdciGroup σ) Unit := do
  let groupName ← Cmd.read fun s => s.groupName
  if groupName = [] then
    usageError "Must specify the group name when create a group"
  match ← call (api.rdcGroupGpuCreate groupName) with
  | .error failure => throwRdc failure.status (text "Fail to create group " ++ groupName)
  | .ok groupId =>
    addGpuIds api groupId (splitString (← Cmd.read fun s => s.gpuIds) 44)
    printEither (jsonGroupOk groupId)
      (text "Successfully created group with a group ID " ++ decimal groupId ++ text "\n")

/-- `GROUP_DELETE`. -/
def processDelete : Cmd RdciError (RdciGroup σ) Unit := do
  let groupId ← theGroup "Need to specify the group id to delete a group"
  match ← call (api.rdcGroupGpuDestroy groupId) with
  | .error failure => fail failure
  | .ok () =>
    printEither (jsonGroupOk groupId)
      (text "Successfully deleted the group " ++ decimal groupId ++ text "\n")

/-- `GROUP_ADD_GPUS`. -/
def processAddGpus : Cmd RdciError (RdciGroup σ) Unit := do
  let groupId ← theGroup "Need to specify the group id to add a group"
  let gpuIds ← Cmd.read fun s => s.gpuIds
  addGpuIds api groupId (splitString gpuIds 44)
  printEither (jsonGroupOk groupId)
    (text "Successfully added the GPU " ++ gpuIds ++ text " to group " ++ decimal groupId ++
      text "\n")

/-- `GROUP_INFO`. -/
def processInfo : Cmd RdciError (RdciGroup σ) Unit := do
  let groupId ← theGroup "Need to specify the group id to show group info"
  match ← call (api.rdcGroupGpuGetInfo groupId) with
  | .error failure => fail failure
  | .ok groupInfo =>
    printEither
      (text "\"group_name\": \"" ++ groupInfo.groupName ++ text "\", \"gpu_indexes\": [" ++
        gpuIndexes (fun i => i ≠ groupInfo.entityIds.length - 1) groupInfo.entityIds 0 ++
        text "], \"status\": \"ok\"")
      (text "Group name: " ++ groupInfo.groupName ++ text "\nGpu indexes: " ++
        groupInfo.entityIds.flatMap (fun gpu => decimal gpu ++ text " ") ++ text "\n")

/-- The GPUs of a group in a listing. -/
def listedIndexes (groupInfo : GroupInfo) : List UInt8 :=
  gpuIndexes (fun j => j < groupInfo.entityIds.length - 1) groupInfo.entityIds 0

/-- What the listing adds to `json_group_ids` for a group; `i` is its index. -/
def jsonGroup (count i groupId : Nat) (groupInfo : GroupInfo) : List UInt8 :=
  text "\x7b\"group_id\": \"" ++ decimal groupId ++ text "\", \"group_name\": \"" ++
    groupInfo.groupName ++ text "\", \"gpu_indexes\": [" ++
    listedIndexes groupInfo ++ text "]\x7d" ++
    (if i ≠ count - 1 then text "," else [])

/-- The line of the listing for a group. -/
def plainGroup (groupId : Nat) (groupInfo : GroupInfo) : List UInt8 :=
  decimal groupId ++ text "\t" ++ groupInfo.groupName ++ text "\t\t" ++
    listedIndexes groupInfo ++ text "\n"

/-- The loop of the listing, from index `i` on: `json_group_ids` when it is done. -/
def listGroups (count : Nat) :
    List Nat → Nat → List UInt8 → Cmd RdciError (RdciGroup σ) (List UInt8)
  | [], _, jsonGroupIds => return jsonGroupIds
  | groupId :: groupIds, i, jsonGroupIds => do
      match ← call (api.rdcGroupGpuGetInfo groupId) with
      | .error _ =>
        throwRdc .badParameter (text "Fail to get information for group " ++ decimal groupId)
      | .ok groupInfo =>
        if ← isJson then
          listGroups count groupIds (i + 1) (jsonGroupIds ++ jsonGroup count i groupId groupInfo)
        else
          print (plainGroup groupId groupInfo)
          listGroups count groupIds (i + 1) jsonGroupIds

/-- `GROUP_LIST`. -/
def processList : Cmd RdciError (RdciGroup σ) Unit := do
  match ← call api.rdcGroupGetAllIds with
  | .error failure => fail failure
  | .ok groupIdList =>
    printEither []
      (decimal groupIdList.length ++ text " group found.\nGroupID\tGroupName\tGPUIndex\n")
    let jsonGroupIds ← listGroups api groupIdList.length groupIdList 0
      (text "\"gpu_groups\": [")
    printEither (jsonGroupIds ++ text "], \"status\": \"ok\"") []

/-- `process`. -/
def process : Cmd RdciError (RdciGroup σ) Unit := do
  match ← Cmd.read fun s => s.groupOps with
  | .help => showHelp
  | .create => processCreate api
  | .delete => processDelete api
  | .list => processList api
  | .addGpus => processAddGpus api
  | .info => processInfo api
  | .unknown => throwRdc .badParameter (text "Unknown command")

end Process

/-! ## The program -/

/-- What the handlers in `main` print. -/
def report (s : RdciGroup σ) : RdciError → List UInt8
  | .rdcException _ what =>
    if s.isJsonOutput then
      text "\"status\": \"error\", \"description\": \"" ++ what ++ text "\""
    else text "rdci Error: " ++ what ++ text "\n"
  | .outOfRange =>
    if s.isJsonOutput then
      text "\"status\": \"error\", \"description\": \"Unhandled exception.\""
    else text "Unhandled exception.\n"

/-- The destructor. -/
def destructor (s : RdciGroup σ) : RdciGroup σ :=
  { s with out := s.out ++ if s.isJsonOutput then text "\x7d\n" else [] }

/-- `main` for `rdci group`: standard output, and the daemon. -/
def main (api : GroupApi σ) (answers : ConnectAnswers) (args : List GroupArg) (daemon : σ) :
    List UInt8 × σ :=
  let program : Cmd RdciError (RdciGroup σ) Unit := do
    parseCmdOpts args
    connect answers
    process api
  let s :=
    match program.exec (init daemon) with
    | (.ok (), s) => s
    | (.error e, s) => { s with out := s.out ++ report s e }
  (s.destructor.out, s.destructor.daemon)

end RdciGroup

end Rdc
