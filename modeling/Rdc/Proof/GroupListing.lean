import Rdc.RdciGroup
import Rdc.Lib.Json
import Rdc.Proof.GroupStore

/-!
# The groups as JSON

`rdci group -l --json` puts its output together from pieces: the option, the loop over the groups,
and the destructor each write a part. For every store the client can list, these parts make one
object (`main_list_json`): every brace has its partner, and there is a comma behind every group but
the last and behind every GPU but the last.

What is missing is the escaping of the names. A name goes into its string as it is, so a quote in it
ends the string, a backslash makes an escape of what follows, and a control character may not be
there at all. The listing is read back as the groups of the store if and only if no name has such a
character (`faithful_iff`).
-/

namespace Rdc.Proof

open RdciGroup Raise Std

/-! ## Texts -/

theorem text_eq (s : String) : text s = CString.encode s.toList := CString.toList_toUTF8 s

theorem decimal_eq (n : Nat) : decimal n = Json.decimal n := by
  show text (Nat.repr n) = _
  rw [text_eq, Nat.repr, String.toList_ofList]
  rfl

/-- Whether a text is plain can be seen from its characters. -/
theorem plain_text {s : String} (h : Json.Plain (CString.encode s.toList)) :
    Json.Plain (text s) := by
  rw [text_eq]
  exact h

theorem text_comma : text "," = [44] := by
  rw [text_eq]
  decide

theorem gpuIndexes_eq (more : Nat → Bool) (gpus : List Nat) (j : Nat) :
    gpuIndexes more gpus j = Json.separated more (gpus.map Json.decimal) j := by
  induction gpus generalizing j with
  | nil => rfl
  | cons gpu gpus ih =>
    rw [gpuIndexes, ih, decimal_eq, text_comma]
    rfl

theorem listedIndexes_eq (groupInfo : GroupInfo) :
    listedIndexes groupInfo = Json.commas (groupInfo.entityIds.map Json.decimal) := by
  rw [listedIndexes, gpuIndexes_eq]
  refine Json.separated_eq_commas ?_
  intro j _ hj
  rw [List.length_map] at hj ⊢
  rw [decide_eq_true_iff]
  omega

/-- A group of a listing. -/
structure ListedGroup where
  groupId : Nat
  groupName : List UInt8
  gpuIndexes : List Nat
  deriving DecidableEq

/-- The object for a group. -/
def groupText (g : ListedGroup) : List UInt8 :=
  Json.braced [Json.named (text "group_id") (Json.quoted (Json.decimal g.groupId)),
    32 :: Json.named (text "group_name") (Json.quoted g.groupName),
    32 :: Json.named (text "gpu_indexes") (Json.bracketed (g.gpuIndexes.map Json.decimal))]

/-- The object for a listing. -/
def listingText (groups : List ListedGroup) : List UInt8 :=
  Json.braced [Json.named (text "gpu_groups") (Json.bracketed (groups.map groupText)),
    32 :: Json.named (text "status") (Json.quoted (text "ok"))]

/-- The object for a group, from its brace to the quote behind the name and on. -/
theorem groupText_append (g : ListedGroup) (rest : List UInt8) :
    groupText g ++ rest
      = 123 :: (Json.named (text "group_id") (Json.quoted (Json.decimal g.groupId)) ++
        44 :: 32 :: Json.named (text "group_name") (34 :: (g.groupName ++ 34 :: ([44, 32] ++
          34 :: (text "gpu_indexes" ++ 34 :: 58 :: 32 ::
            (Json.bracketed (g.gpuIndexes.map Json.decimal) ++ 125 :: rest)))))) := by
  simp [groupText, Json.braced, Json.named, Json.quoted, Json.commas_cons_cons,
    Json.commas_singleton]

/-- The line with the listing, from its brace to the array and on. -/
theorem listingText_line (groups : List ListedGroup) :
    listingText groups ++ [10]
      = 123 :: Json.named (text "gpu_groups") (91 :: (Json.commas (groups.map groupText) ++ 93 ::
        44 :: 32 :: (Json.named (text "status") (Json.quoted (text "ok")) ++ [125, 10]))) := by
  simp [listingText, Json.braced, Json.named, Json.quoted, Json.bracketed, Json.commas_cons_cons,
    Json.commas_singleton]

theorem jsonGroup_eq (count i groupId : Nat) (groupInfo : GroupInfo) :
    jsonGroup count i groupId groupInfo
      = groupText ⟨groupId, groupInfo.groupName, groupInfo.entityIds⟩
        ++ if i ≠ count - 1 then [44] else [] := by
  have hid : text "\x7b\"group_id\": \"" = 123 :: 34 :: (text "group_id" ++ [34, 58, 32, 34]) := by
    rw [text_eq, text_eq]
    decide
  have hname : text "\", \"group_name\": \""
      = 34 :: 44 :: 32 :: 34 :: (text "group_name" ++ [34, 58, 32, 34]) := by
    rw [text_eq, text_eq]
    decide
  have hindexes : text "\", \"gpu_indexes\": ["
      = 34 :: 44 :: 32 :: 34 :: (text "gpu_indexes" ++ [34, 58, 32, 91]) := by
    rw [text_eq, text_eq]
    decide
  have hend : text "]\x7d" = [93, 125] := by
    rw [text_eq]
    decide
  rw [jsonGroup, listedIndexes_eq, hid, hname, hindexes, hend, text_comma, decimal_eq,
    groupText_append]
  simp [Json.named, Json.quoted, Json.bracketed]

/-! ## The run -/

/-- The store as it is listed. -/
def storedGroups (gs : GroupSettings) : List ListedGroup :=
  gs.gpuGroup.toList.map fun p => ⟨p.1, p.2.groupName, p.2.entityIds⟩

section Run

variable {grpcError : List UInt8} {hw : DeviceAnswers} {gs : GroupSettings}

theorem rdcGroupGpuGetInfo_of_isText {groupId : Nat} {info : RdcGroupInfo}
    (hget : gs.gpuGroup[groupId]? = some info)
    (hname : CString.IsText rdcMaxStrLength info.groupName) :
    StandaloneHandler.rdcGroupGpuGetInfo grpcError gs groupId
      = ⟨.ok ⟨info.groupName, info.entityIds, info.count_le⟩, []⟩ := by
  have hcopy : strncpyWithNull info.groupName rdcMaxStrLength = info.groupName := hname.take_pred
  have hreply : ApiService.getGpuGroupInfo gs groupId
      = ⟨.ok, info.groupName, info.entityIds⟩ := by
    unfold ApiService.getGpuGroupInfo GroupSettings.rdcGroupGpuGetInfo
    rw [hget]
    dsimp only
    rw [hcopy]
  unfold StandaloneHandler.rdcGroupGpuGetInfo
  rw [hreply]
  dsimp only
  rw [if_pos hname.utf8, dif_pos info.count_le, CString.cStr_of_notMem hname.noZero, hcopy]
  rfl

theorem call_exec {σ α : Type} {f : σ → Answer α × σ} {r : Except Failure α} {s : RdciGroup σ}
    (h : f s.daemon = (⟨r, []⟩, s.daemon)) : (call f).exec s = (.ok r, s) := by
  unfold call
  rw [Cmd.exec_atomic, h]
  dsimp only
  rw [List.append_nil]

theorem isJson_exec {σ : Type} {s : RdciGroup σ} (hjson : s.isJsonOutput = true) :
    (isJson : Cmd RdciError (RdciGroup σ) Bool).exec s = (.ok true, s) := by
  rw [← hjson]
  rfl

theorem printEither_exec {σ : Type} {s : RdciGroup σ} (hjson : s.isJsonOutput = true)
    (json plain : List UInt8) :
    (printEither json plain).exec s = (.ok (), { s with out := s.out ++ json }) := by
  unfold printEither
  rw [Cmd.exec_bind_ok (isJson_exec hjson), if_pos rfl]
  rfl

variable (grpcError hw) in
/-- The rest of the loop, from the group at index `i` on. -/
theorem listGroups_exec (count : Nat) {groups : List (Nat × RdcGroupInfo)}
    (hgroups : ∀ p ∈ groups, gs.gpuGroup[p.1]? = some p.2
      ∧ CString.IsText rdcMaxStrLength p.2.groupName) (i : Nat) (json : List UInt8)
    {s : RdciGroup GroupSettings} (hdaemon : s.daemon = gs) (hjson : s.isJsonOutput = true) :
    (listGroups (.standalone grpcError hw) count (groups.map Prod.fst) i json).exec s
      = (.ok (json ++ Json.separated (fun i => i ≠ count - 1)
          (groups.map fun p => groupText ⟨p.1, p.2.groupName, p.2.entityIds⟩) i), s) := by
  induction groups generalizing i json with
  | nil =>
    rw [List.map_nil, List.map_nil, Json.separated, List.append_nil]
    rfl
  | cons p groups ih =>
    obtain ⟨⟨hget, hname⟩, hrest⟩ := List.forall_mem_cons.mp hgroups
    have hcall : (call ((GroupApi.standalone grpcError hw).rdcGroupGpuGetInfo p.1)).exec s
        = (.ok (.ok ⟨p.2.groupName, p.2.entityIds, p.2.count_le⟩), s) := by
      refine call_exec ?_
      show (StandaloneHandler.rdcGroupGpuGetInfo grpcError s.daemon p.1, s.daemon) = _
      rw [hdaemon, rdcGroupGpuGetInfo_of_isText hget hname]
    rw [List.map_cons, listGroups, Cmd.exec_bind_ok hcall]
    dsimp only
    rw [Cmd.exec_bind_ok (isJson_exec hjson), if_pos rfl, ih hrest, jsonGroup_eq, List.map_cons,
      Json.separated]
    simp

theorem listAllIds_of_lt (hsize : gs.gpuGroup.size < rdcMaxNumGroups) :
    StandaloneHandler.listAllIds gs = ⟨.ok gs.gpuGroup.keys, []⟩ := by
  have hlt : gs.gpuGroup.keys.length < rdcMaxNumGroups := by
    rw [ExtTreeMap.length_keys]
    exact hsize
  have hlisting : StandaloneHandler.rdcGroupGetAllIds gs
      = EmbeddedHandler.listing (.ok, gs.gpuGroup.keys) := by
    unfold StandaloneHandler.rdcGroupGetAllIds ApiService.getGroupAllIds
    rw [rdcGroupGetAllIds_of_le (Nat.le_of_lt hsize)]
    exact (allIds_eq_iff _ _).mpr hlt
  unfold StandaloneHandler.listAllIds
  rw [hlisting]
  rfl

/-- Every name is a text that fits into the array of a group. -/
def NamesAreText (gs : GroupSettings) : Prop :=
  ∀ (groupId : Nat) (info : RdcGroupInfo), gs.gpuGroup[groupId]? = some info →
    CString.IsText rdcMaxStrLength info.groupName

/-- Everything is in place for a connection. -/
def connected : ConnectAnswers := ⟨.readable, .readable, .readable, none⟩

theorem processList_exec (hsize : gs.gpuGroup.size < rdcMaxNumGroups)
    (hnames : NamesAreText gs)
    {s : RdciGroup GroupSettings} (hdaemon : s.daemon = gs) (hjson : s.isJsonOutput = true) :
    (processList (.standalone grpcError hw)).exec s
      = (.ok (), { s with out := s.out ++ (text "\"gpu_groups\": ["
          ++ Json.commas ((storedGroups gs).map groupText) ++ text "], \"status\": \"ok\"") }) := by
  have hcall : (call (GroupApi.standalone grpcError hw).rdcGroupGetAllIds).exec s
      = (.ok (.ok gs.gpuGroup.keys), s) := by
    refine call_exec ?_
    show (StandaloneHandler.listAllIds s.daemon, s.daemon) = _
    rw [hdaemon, listAllIds_of_lt hsize]
  have hplain : (printEither [] (decimal gs.gpuGroup.keys.length
      ++ text " group found.\nGroupID\tGroupName\tGPUIndex\n")).exec s = (.ok (), s) := by
    rw [printEither_exec hjson, List.append_nil]
  have hgroups : ∀ p ∈ gs.gpuGroup.toList, gs.gpuGroup[p.1]? = some p.2
      ∧ CString.IsText rdcMaxStrLength p.2.groupName := by
    intro p hp
    have hget := ExtTreeMap.mem_toList_iff_getElem?_eq_some.mp hp
    exact ⟨hget, hnames p.1 p.2 hget⟩
  have hloop := listGroups_exec grpcError hw gs.gpuGroup.keys.length hgroups 0
    (text "\"gpu_groups\": [") hdaemon hjson
  rw [ExtTreeMap.map_fst_toList_eq_keys] at hloop
  unfold processList
  rw [Cmd.exec_bind_ok hcall]
  dsimp only
  rw [Cmd.exec_bind_ok hplain, Cmd.exec_bind_ok hloop, printEither_exec hjson,
    Json.separated_eq_commas]
  · simp [storedGroups, Function.comp_def]
  · intro j _ hj
    rw [List.length_map, ExtTreeMap.length_toList] at hj ⊢
    rw [ExtTreeMap.length_keys, decide_eq_true_iff]
    omega

theorem program_list_json : (do
      parseCmdOpts [.list, .json]
      connect connected
      process (.standalone grpcError hw)).exec (RdciGroup.init gs)
    = (processList (.standalone grpcError hw)).exec { RdciGroup.init gs with
        out := [] ++ text "\x7b", isJsonOutput := true, groupOps := .list } := rfl

theorem main_list_json (hsize : gs.gpuGroup.size < rdcMaxNumGroups)
    (hnames : NamesAreText gs) :
    (RdciGroup.main (.standalone grpcError hw) connected [.list, .json] gs).1
      = listingText (storedGroups gs) ++ [10] := by
  have hbrace : text "\x7b" = [123] := by
    rw [text_eq]
    decide
  have hend : text "\x7d\n" = [125, 10] := by
    rw [text_eq]
    decide
  have hgroups : text "\"gpu_groups\": [" = 34 :: (text "gpu_groups" ++ [34, 58, 32, 91]) := by
    rw [text_eq, text_eq]
    decide
  have hstatus : text "], \"status\": \"ok\""
      = 93 :: 44 :: 32 :: 34 :: (text "status" ++ 34 :: 58 :: 32 :: 34 :: (text "ok" ++ [34])) := by
    rw [text_eq, text_eq, text_eq]
    decide
  unfold RdciGroup.main
  dsimp only
  rw [program_list_json, processList_exec hsize hnames rfl rfl]
  dsimp only
  unfold destructor
  dsimp only
  rw [if_pos rfl, hbrace, hend, hgroups, hstatus, listingText_line]
  simp [Json.named, Json.quoted]

end Run

/-! ## Reading the listing -/

/-- The group that an object is about. -/
def decodeGroup (v : Json) : Option ListedGroup := do
  let members ← v.obj?
  let groupId ← (← Json.member? (text "group_id") members).str?
  let groupName ← (← Json.member? (text "group_name") members).str?
  let gpuIndexes ← (← Json.member? (text "gpu_indexes") members).arr?
  return ⟨← Json.digits? groupId, groupName, ← gpuIndexes.mapM Json.nat?⟩

/-- The groups of a listing. -/
def decodeListing (v : Json) : Option (List ListedGroup) := do
  let members ← v.obj?
  let gpuGroups ← (← Json.member? (text "gpu_groups") members).arr?
  gpuGroups.mapM decodeGroup

/-- The output is an object, and reading it gives the groups. -/
def Faithful (out : List UInt8) (groups : List ListedGroup) : Prop :=
  ∃ members, Json.parse out = some (.obj members) ∧ decodeListing (.obj members) = some groups

/-- What the members of the object for a group are meant to be. -/
def groupMembers (g : ListedGroup) : List (List UInt8 × Json) :=
  [(text "group_id", .str (Json.decimal g.groupId)), (text "group_name", .str g.groupName),
    (text "gpu_indexes", .arr (g.gpuIndexes.map fun (n : Nat) => .num n))]

/-- What the members of the listing are meant to be. -/
def listingMembers (groups : List ListedGroup) : List (List UInt8 × Json) :=
  [(text "gpu_groups", .arr (groups.map fun g => .obj (groupMembers g))),
    (text "status", .str (text "ok"))]

variable {g : ListedGroup}

theorem reads_groupText (h : Json.Plain g.groupName) (depth : Nat) :
    Json.Reads (Json.value (depth + 3)) (groupText g) (.obj (groupMembers g)) := by
  have hindexes : List.Forall₂ (Json.Reads (Json.value (depth + 1)))
      (g.gpuIndexes.map Json.decimal) (g.gpuIndexes.map fun (n : Nat) => Json.num n) :=
    Json.reads_map fun n _ => Json.reads_decimal depth n
  refine Json.reads_braced (.cons ?_ (.cons ?_ (.cons ?_ .nil)))
  · exact (Json.reads_quoted (Json.plain_decimal _) _).named (plain_text (by decide))
  · exact ((Json.reads_quoted h _).named (plain_text (by decide))).blank
  · exact ((Json.reads_bracketed hindexes).named (plain_text (by decide))).blank

variable {groups : List ListedGroup}

theorem reads_listingText (h : ∀ g ∈ groups, Json.Plain g.groupName) (depth : Nat) :
    Json.Reads (Json.value (depth + 5)) (listingText groups) (.obj (listingMembers groups)) := by
  have hgroups : List.Forall₂ (Json.Reads (Json.value (depth + 3))) (groups.map groupText)
      (groups.map fun g => Json.obj (groupMembers g)) :=
    Json.reads_map fun g hg => reads_groupText (h g hg) depth
  refine Json.reads_braced (.cons ?_ (.cons ?_ .nil))
  · exact (Json.reads_bracketed hgroups).named (plain_text (by decide))
  · exact ((Json.reads_quoted (plain_text (by decide)) _).named (plain_text (by decide))).blank

/-- The readers of a line of this kind have depth to spare. -/
theorem exists_depth (groups : List ListedGroup) :
    ∃ depth, (listingText groups ++ [10]).length = depth + 5 := by
  refine Nat.exists_eq_add_of_le' ?_
  simp only [listingText, Json.braced, Json.named, Json.quoted, Json.commas_cons_cons,
    List.length_append, List.length_cons]
  omega

theorem groupId_ne_groupName : text "group_id" ≠ text "group_name" := by
  rw [text_eq, text_eq]
  decide

theorem groupId_ne_gpuIndexes : text "group_id" ≠ text "gpu_indexes" := by
  rw [text_eq, text_eq]
  decide

theorem groupName_ne_gpuIndexes : text "group_name" ≠ text "gpu_indexes" := by
  rw [text_eq, text_eq]
  decide

theorem decodeGroup_groupMembers (g : ListedGroup) :
    decodeGroup (.obj (groupMembers g)) = some g := by
  have hid : Json.member? (text "group_id") (groupMembers g)
      = some (.str (Json.decimal g.groupId)) := by
    refine Json.member?_cons_self _ ?_
    refine List.forall_mem_cons.mpr ⟨groupId_ne_groupName.symm, ?_⟩
    exact List.forall_mem_cons.mpr ⟨groupId_ne_gpuIndexes.symm, List.forall_mem_nil _⟩
  have hname : Json.member? (text "group_name") (groupMembers g) = some (.str g.groupName) := by
    rw [groupMembers, Json.member?_cons_of_ne groupId_ne_groupName]
    refine Json.member?_cons_self _ ?_
    exact List.forall_mem_cons.mpr ⟨groupName_ne_gpuIndexes.symm, List.forall_mem_nil _⟩
  have hindexes : Json.member? (text "gpu_indexes") (groupMembers g)
      = some (.arr (g.gpuIndexes.map fun (n : Nat) => .num n)) := by
    rw [groupMembers, Json.member?_cons_of_ne groupId_ne_gpuIndexes,
      Json.member?_cons_of_ne groupName_ne_gpuIndexes]
    exact Json.member?_cons_self _ (List.forall_mem_nil _)
  have hall : (g.gpuIndexes.map fun (n : Nat) => Json.num n).mapM Json.nat?
      = some g.gpuIndexes := by
    rw [List.mapM_map]
    exact (Buffer.mapM_eq_some_map fun n _ => Json.nat?_num n).trans (by rw [List.map_id'])
  unfold decodeGroup
  simp only [Json.obj?, Option.bind_eq_bind, Option.bind_some, hid, hname, hindexes, Json.str?,
    Json.arr?, Json.digits?_decimal, hall]
  rfl

theorem decodeListing_listingMembers (groups : List ListedGroup) :
    decodeListing (.obj (listingMembers groups)) = some groups := by
  have hgroups : Json.member? (text "gpu_groups") (listingMembers groups)
      = some (.arr (groups.map fun g => .obj (groupMembers g))) := by
    refine Json.member?_cons_self _ ?_
    simp only [List.mem_singleton, forall_eq, text_eq]
    decide
  have hall : (groups.map fun g => Json.obj (groupMembers g)).mapM decodeGroup = some groups := by
    rw [List.mapM_map]
    exact (Buffer.mapM_eq_some_map fun g _ => decodeGroup_groupMembers g).trans
      (by rw [List.map_id'])
  unfold decodeListing
  simp only [Json.obj?, Option.bind_eq_bind, Option.bind_some, hgroups, Json.arr?, hall]

theorem utf8_text (s : String) : CString.utf8 (text s) = true :=
  CString.utf8_iff.mpr ⟨s.toList, text_eq s⟩

theorem utf8_decimal (n : Nat) : CString.utf8 (Json.decimal n) = true :=
  CString.utf8_iff.mpr ⟨_, rfl⟩

theorem utf8_groupText (h : CString.utf8 g.groupName = true) :
    CString.utf8 (groupText g) = true := by
  refine Json.utf8_braced ?_
  refine List.forall_mem_cons.mpr ⟨?_, List.forall_mem_cons.mpr ⟨?_, List.forall_mem_cons.mpr ⟨?_,
    List.forall_mem_nil _⟩⟩⟩
  · exact Json.utf8_named (utf8_text _) (Json.utf8_quoted (utf8_decimal _))
  · exact CString.utf8_cons (by decide) (Json.utf8_named (utf8_text _) (Json.utf8_quoted h))
  · refine CString.utf8_cons (by decide) (Json.utf8_named (utf8_text _) (Json.utf8_bracketed ?_))
    exact List.forall_mem_map.mpr fun n _ => utf8_decimal n

theorem utf8_listingText (h : ∀ g ∈ groups, CString.utf8 g.groupName = true) :
    CString.utf8 (listingText groups) = true := by
  refine Json.utf8_braced ?_
  refine List.forall_mem_cons.mpr ⟨?_, List.forall_mem_cons.mpr ⟨?_, List.forall_mem_nil _⟩⟩
  · refine Json.utf8_named (utf8_text _) (Json.utf8_bracketed ?_)
    exact List.forall_mem_map.mpr fun g hg => utf8_groupText (h g hg)
  · exact CString.utf8_cons (by decide)
      (Json.utf8_named (utf8_text _) (Json.utf8_quoted (utf8_text _)))

theorem faithful_of_plain (hutf8 : ∀ g ∈ groups, CString.utf8 g.groupName = true)
    (h : ∀ g ∈ groups, Json.Plain g.groupName) : Faithful (listingText groups ++ [10]) groups := by
  obtain ⟨depth, hdepth⟩ := exists_depth groups
  refine ⟨listingMembers groups, Json.parse_line ?_ ?_, decodeListing_listingMembers groups⟩
  · exact CString.utf8_append (utf8_listingText hutf8) (by decide)
  · rw [hdepth]
    exact reads_listingText h depth

/-! ## Names that are read back -/

theorem exists_of_decodeGroup {members : List (List UInt8 × Json)}
    (h : decodeGroup (.obj members) = some g) :
    ∃ v, Json.member? (text "group_name") members = some v ∧ v.str? = some g.groupName := by
  unfold decodeGroup at h
  simp only [Json.obj?, Option.bind_eq_bind, Option.bind_some, Option.bind_eq_some_iff] at h
  obtain ⟨_, _, _, _, v, hv, name, hname, _, _, _, _, _, _, _, _, hg⟩ := h
  rw [← Option.some.inj hg]
  exact ⟨v, hv, hname⟩

theorem exists_of_decodeListing {members : List (List UInt8 × Json)}
    (h : decodeListing (.obj members) = some groups) :
    ∃ v, Json.member? (text "gpu_groups") members = some v
      ∧ ∃ items, v.arr? = some items ∧ items.mapM decodeGroup = some groups := by
  unfold decodeListing at h
  simp only [Json.obj?, Option.bind_eq_bind, Option.bind_some, Option.bind_eq_some_iff] at h
  exact h

/-- The group that comes out of the object for a group has its name only if the name is plain,
whatever follows the object. -/
theorem plain_of_decodeGroup {g g' : ListedGroup} {depth : Nat} {rest s : List UInt8} {v : Json}
    (h : Json.value (depth + 3) (groupText g ++ rest) = some (v, s))
    (hg : decodeGroup v = some g') (hname : g'.groupName = g.groupName) :
    Json.Plain g.groupName := by
  have hid : Json.Reads (Json.member (Json.value (depth + 2)))
      (Json.named (text "group_id") (Json.quoted (Json.decimal g.groupId))) _ :=
    (Json.reads_quoted (Json.plain_decimal g.groupId) (depth + 1)).named (plain_text (by decide))
  rw [groupText_append, Json.value_brace] at h
  obtain ⟨members, rfl, hlist⟩ := Json.exists_of_map h
  rw [Json.list_of_token_eq_none rfl] at hlist
  obtain ⟨fuel, members, rfl, hrest⟩ := Json.entries_of_cons hid hlist
  obtain ⟨m, members, s', rfl, hmember⟩ := Json.exists_of_entries hrest
  -- the name is what is read up to the next quote
  rw [Json.member_blank, Json.member_named (plain_text (by decide)), Json.value_quote] at hmember
  obtain ⟨w, rfl, hw⟩ := Json.exists_of_map hmember
  obtain ⟨bs, rfl, hchars⟩ := Json.exists_of_map hw
  obtain ⟨v, hv, hstr⟩ := exists_of_decodeGroup hg
  rw [Json.member?_cons_of_ne groupId_ne_groupName] at hv
  rw [Json.eq_of_member? hv, hname] at hstr
  rw [Option.some.inj hstr] at hchars
  exact Json.plain_of_chars (by decide) (List.cons_ne_nil _ _) hchars

/-- The rest of the array: if the groups are read back, their names are plain. -/
theorem plain_of_entries {depth fuel : Nat} {rest r : List UInt8} {vs : List Json}
    (h : Json.entries (Json.value (depth + 3)) 93 fuel
      (Json.commas (groups.map groupText) ++ 93 :: rest) = some (vs, r))
    (hgroups : vs.mapM decodeGroup = some groups) : ∀ g ∈ groups, Json.Plain g.groupName := by
  induction groups generalizing fuel vs with
  | nil => exact List.forall_mem_nil _
  | cons g groups ih =>
    obtain ⟨v, vs, s, rfl, hv⟩ := Json.exists_of_entries h
    have hsplit : decodeGroup v = some g ∧ vs.mapM decodeGroup = some groups := by
      rw [List.mapM_cons] at hgroups
      simp only [Option.bind_eq_bind, Option.bind_eq_some_iff] at hgroups
      obtain ⟨g', hg', groups', hgroups', heq⟩ := hgroups
      obtain ⟨rfl, rfl⟩ := List.cons.inj (Option.some.inj heq)
      exact ⟨hg', hgroups'⟩
    obtain ⟨q, -, hq⟩ := Json.exists_commas_cons (.inl rfl) (groupText g)
      (groups.map groupText) rest
    have hplain : Json.Plain g.groupName := by
      rw [List.map_cons, hq] at hv
      exact plain_of_decodeGroup hv hsplit.1 rfl
    refine List.forall_mem_cons.mpr ⟨hplain, ?_⟩
    cases groups with
    | nil => exact List.forall_mem_nil _
    | cons g' groups =>
      -- the object before is read as it was meant, and so the rest is read from its start
      rw [List.map_cons, List.map_cons, Json.commas_cons_cons, List.append_assoc,
        List.cons_append] at h
      obtain ⟨fuel', vs', hvs, hrest⟩ := Json.entries_of_cons (reads_groupText hplain depth) h
      rw [← (List.cons.inj hvs).2] at hrest
      exact ih hrest hsplit.2

theorem plain_of_faithful (h : Faithful (listingText groups ++ [10]) groups) :
    ∀ g ∈ groups, Json.Plain g.groupName := by
  obtain ⟨members, hparse, hdecode⟩ := h
  obtain ⟨rest, hvalue⟩ := Json.exists_of_parse hparse
  obtain ⟨depth, hdepth⟩ := exists_depth groups
  rw [hdepth, listingText_line, Json.value_brace] at hvalue
  obtain ⟨members', hmembers, hlist⟩ := Json.exists_of_map hvalue
  cases hmembers
  rw [Json.list_of_token_eq_none rfl] at hlist
  obtain ⟨m, members, s, rfl, hmember⟩ := Json.exists_of_entries hlist
  rw [Json.member_named (plain_text (by decide)), Json.value_bracket] at hmember
  obtain ⟨w, rfl, hw⟩ := Json.exists_of_map hmember
  obtain ⟨items, rfl, hitems⟩ := Json.exists_of_map hw
  have hgroups : items.mapM decodeGroup = some groups := by
    obtain ⟨v, hv, items', hitems', hall⟩ := exists_of_decodeListing hdecode
    rw [Json.eq_of_member? hv] at hitems'
    rwa [Option.some.inj hitems']
  cases groups with
  | nil => exact List.forall_mem_nil _
  | cons g groups =>
    obtain ⟨q, -, hq⟩ := Json.exists_commas_cons (.inl rfl) (groupText g)
      (groups.map groupText) _
    rw [List.map_cons, hq, Json.list_of_token_eq_none rfl, ← hq, ← List.map_cons] at hitems
    exact plain_of_entries hitems hgroups

/-! ## The listing of a store -/

theorem forall_storedGroups {gs : GroupSettings} (P : List UInt8 → Prop) :
    (∀ g ∈ storedGroups gs, P g.groupName)
      ↔ ∀ (groupId : Nat) (info : RdcGroupInfo), gs.gpuGroup[groupId]? = some info →
        P info.groupName := by
  unfold storedGroups
  rw [List.forall_mem_map]
  refine ⟨fun h groupId info hget => ?_, fun h p hp => ?_⟩
  · exact h (groupId, info) (ExtTreeMap.mem_toList_iff_getElem?_eq_some.mpr hget)
  · exact h p.1 p.2 (ExtTreeMap.mem_toList_iff_getElem?_eq_some.mp hp)

/-- The listing is faithful if and only if no name has a character that JSON wants escaped. -/
theorem faithful_iff (grpcError : List UInt8) (hw : DeviceAnswers) {gs : GroupSettings}
    (hsize : gs.gpuGroup.size ≤ 63) (hnames : NamesAreText gs) :
    Faithful (RdciGroup.main (.standalone grpcError hw) connected [.list, .json] gs).1
        (storedGroups gs)
      ↔ ∀ (groupId : Nat) (info : RdcGroupInfo), gs.gpuGroup[groupId]? = some info →
        Json.Plain info.groupName := by
  have hutf8 : ∀ g ∈ storedGroups gs, CString.utf8 g.groupName = true :=
    (forall_storedGroups fun name => CString.utf8 name = true).mpr fun groupId info hget =>
      (hnames groupId info hget).utf8
  rw [main_list_json (Nat.lt_succ_of_le hsize) hnames, ← forall_storedGroups Json.Plain]
  exact ⟨plain_of_faithful, faithful_of_plain hutf8⟩

/-- A name with a quote: the output is not JSON. -/
theorem not_faithful_quote :
    let gs := (GroupSettings.init.rdcGroupGpuCreate (text "a\"b")).2.2
    let out := (RdciGroup.main (.standalone [] ⟨1, fun _ _ => none⟩) connected [.list, .json] gs).1
    gs.gpuGroup.size ≤ 63 ∧ NamesAreText gs ∧ (Json.parse out).isNone = true
      ∧ ¬ Faithful out (storedGroups gs) := by
  intro gs out
  have hparse : (Json.parse out).isNone = true := by decide +kernel
  refine ⟨by decide +kernel, ?_, hparse, ?_⟩
  · refine (forall_storedGroups _).mp ?_
    have hstored : storedGroups gs = [⟨1, text "a\"b", []⟩] := by decide +kernel
    rw [hstored]
    decide +kernel
  · rintro ⟨members, hmembers, -⟩
    rw [hmembers] at hparse
    cases hparse

/-- Two groups, one of them with two GPUs. -/
theorem faithful_two_groups :
    let gs := (GroupSettings.init.rdcGroupGpuCreate (text "all")).2.2
    let gs := ((gs.rdcGroupGpuAdd 1 0).2.rdcGroupGpuAdd 1 7).2
    let gs := (gs.rdcGroupGpuCreate (text "new group")).2.2
    let api := GroupApi.standalone [] ⟨8, fun _ _ => none⟩
    storedGroups gs = [⟨1, text "all", [0, 7]⟩, ⟨2, text "new group", []⟩]
      ∧ Faithful (RdciGroup.main api connected [.list, .json] gs).1 (storedGroups gs) := by
  intro _ _ gs _
  have hstored : storedGroups gs = [⟨1, text "all", [0, 7]⟩, ⟨2, text "new group", []⟩] := by
    decide +kernel
  have hnames : NamesAreText gs := by
    refine (forall_storedGroups _).mp ?_
    rw [hstored]
    decide +kernel
  refine ⟨hstored, (faithful_iff [] ⟨8, fun _ _ => none⟩ (by decide +kernel) hnames).mpr ?_⟩
  refine (forall_storedGroups _).mp ?_
  rw [hstored]
  decide +kernel

end Rdc.Proof
