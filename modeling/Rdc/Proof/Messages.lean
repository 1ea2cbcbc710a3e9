import Rdc.Messages
import Rdc.Proof.Diagnostics

/-!
# What the client makes of a message is what the server made it from

The usage of a GPU has fifteen members, eight of them summaries with four members each, and the two
copies agree on all of them. A diagnostic response is sent up to its counts, and comes back up to
its counts: the caller's array keeps what it held behind them.
-/

namespace Rdc.Proof

open Rdc CString

/-! ## The usage of a GPU -/

theorem copySummary_copySummary (summary : RdcStatsSummary) :
    StandaloneHandler.copySummary (ApiService.copySummary summary) = summary := rfl

theorem copyGpuUsageInfo_copyGpuUsageInfo (info : RdcGpuUsageInfo) :
    StandaloneHandler.copyGpuUsageInfo (ApiService.copyGpuUsageInfo info) = info := by
  unfold StandaloneHandler.copyGpuUsageInfo ApiService.copyGpuUsageInfo
  simp only [copySummary_copySummary]

/-! ## One result of a diagnostic run -/

/-- A result that is sent, in the members of the message. -/
def wire (m : DiagnosticTestResultMessage) : DiagnosticTestResult where
  status := m.status.num
  details := ApiService.copyDetail m.details
  testCase := m.testCase.num
  perGpuResultCount := m.perGpuResultCount
  gpuResults := m.gpuResults.map ApiService.copyPerGpuResult
  info := m.info

/-- The count is inside the array, and what it counts has text for its messages. -/
structure ValidResult (r : RdcDiagTestResult) : Prop where
  count : r.perGpuResultCount ≤ rdcMaxNumDevices
  detail : IsText maxDiagMsgLength r.details.msg
  perGpu : ∀ per ∈ r.gpuResults.toList.take r.perGpuResultCount,
    IsText maxDiagMsgLength per.gpuResult.msg
  info : IsText maxDiagMsgLength r.info

theorem ofNum_num (result : RdcDiagResult) : RdcDiagResult.ofNum result.num = some result := by
  cases result <;> rfl

theorem ofNum_num_testCase (testCase : RdcDiagTestCase) :
    RdcDiagTestCase.ofNum testCase.num = some testCase := by
  cases testCase <;> rfl

theorem diagMsg_cStr {msg : List UInt8} (h : IsText maxDiagMsgLength msg) :
    diagMsg (cStr msg) = msg := by
  rw [cStr_of_notMem h.noZero]
  exact h.take_pred

theorem copyDetail_copyDetail {detail : RdcDiagDetail} (h : IsText maxDiagMsgLength detail.msg) :
    StandaloneHandler.copyDetail (ApiService.copyDetail detail) = detail := by
  unfold StandaloneHandler.copyDetail ApiService.copyDetail
  rw [diagMsg_cStr h]

variable {r : RdcDiagTestResult}

theorem copyTestResult_eq (h : r.perGpuResultCount ≤ rdcMaxNumDevices) :
    ApiService.copyTestResult r = some (wire r.message) := by
  unfold ApiService.copyTestResult
  rw [Buffer.read_eq_some _ (by omega)]
  rfl

theorem parses_wire (h : ValidResult r) : (wire r.message).parses = true := by
  have hper : (wire r.message).gpuResults.all (fun per => utf8 per.gpuResult.msg) = true := by
    rw [List.all_eq_true]
    intro per hmem
    obtain ⟨entry, hentry, rfl⟩ := List.mem_map.mp hmem
    exact (h.perGpu entry hentry).utf8
  unfold DiagnosticTestResult.parses
  rw [hper, Bool.and_true, Bool.and_eq_true]
  exact ⟨h.detail.utf8, h.info.utf8⟩

theorem length_gpuResults (h : r.perGpuResultCount ≤ rdcMaxNumDevices) :
    r.message.gpuResults.length = r.perGpuResultCount := by
  show (r.gpuResults.toList.take r.perGpuResultCount).length = _
  rw [List.length_take, Vector.length_toList]
  exact Nat.min_eq_left h

theorem map_copyPerGpuResult (h : ValidResult r) :
    (wire r.message).gpuResults.map StandaloneHandler.copyPerGpuResult = r.message.gpuResults := by
  have hcopy : ∀ per ∈ r.message.gpuResults,
      StandaloneHandler.copyPerGpuResult (ApiService.copyPerGpuResult per) = per := by
    intro per hper
    unfold StandaloneHandler.copyPerGpuResult ApiService.copyPerGpuResult
    rw [copyDetail_copyDetail (h.perGpu per hper)]
  show (r.message.gpuResults.map _).map _ = _
  rw [List.map_map]
  exact (List.map_congr_left hcopy).trans (List.map_id' _)

/-- The client's copy says what was sent, whatever it is written over. -/
theorem copyTestResult_wire (h : ValidResult r) (toResult : RdcDiagTestResult) :
    ∃ out, StandaloneHandler.copyTestResult (wire r.message) toResult = some (.ok, out)
      ∧ out.message = r.message := by
  have hcount := h.count
  have hlen := length_gpuResults hcount
  have hwire : (wire r.message).gpuResults.length = r.perGpuResultCount := by
    rw [← hlen]
    exact List.length_map _
  have hfits : 0 + r.message.gpuResults.length ≤ rdcMaxNumDevices := by omega
  obtain ⟨gpuResults, hfill, hlist⟩ := Buffer.fill_eq_some hfits toResult.gpuResults
  -- the entries behind the count stay as they were, and are not looked at
  have htake : gpuResults.toList.take r.perGpuResultCount = r.message.gpuResults := by
    rw [hlist, List.take_zero, List.nil_append, List.take_append_of_le_length (by omega),
      List.take_of_length_le (by omega)]
  refine ⟨{ r with gpuResults := gpuResults }, ?_, ?_⟩
  · unfold StandaloneHandler.copyTestResult
    rw [show (wire r.message).status = r.status.num from rfl,
      show (wire r.message).testCase = r.testCase.num from rfl, ofNum_num, ofNum_num_testCase]
    dsimp only
    rw [if_neg (by omega), map_copyPerGpuResult h, hfill]
    dsimp only
    rw [show (wire r.message).details = ApiService.copyDetail r.details from rfl,
      show (wire r.message).info = r.info from rfl, copyDetail_copyDetail h.detail,
      diagMsg_cStr h.info]
    rfl
  · unfold RdcDiagTestResult.message
    rw [htake]
    rfl

/-! ## The whole response -/

/-- The loop over the results: what it has written says what was sent. -/
theorem copyDiagInfo_wire {rs : List RdcDiagTestResult} (h : ∀ r ∈ rs, ValidResult r) {i : Nat}
    (hi : i + rs.length ≤ maxTestCases) (diagInfo : Vector RdcDiagTestResult maxTestCases) :
    ∃ out, StandaloneHandler.copyDiagInfo (rs.map (wire ·.message)) i diagInfo = some (.ok, out)
      ∧ (out.toList.take (i + rs.length)).map RdcDiagTestResult.message
          = (diagInfo.toList.take i).map RdcDiagTestResult.message
            ++ rs.map RdcDiagTestResult.message := by
  induction rs generalizing i diagInfo with
  | nil => exact ⟨diagInfo, rfl, by simp⟩
  | cons r rs ih =>
    rw [List.length_cons] at hi
    have hlt : i < maxTestCases := by omega
    obtain ⟨toResult, hcopy, hmessage⟩ :=
      copyTestResult_wire (h r (List.mem_cons_self ..)) (diagInfo.get ⟨i, hlt⟩)
    obtain ⟨out, hrest, htake⟩ := ih (fun r hr => h r (List.mem_cons_of_mem _ hr)) (i := i + 1)
      (by omega) (diagInfo.set i toResult hlt)
    refine ⟨out, ?_, ?_⟩
    · rw [List.map_cons, StandaloneHandler.copyDiagInfo, dif_pos hlt, hcopy]
      exact hrest
    · rw [Buffer.take_toList_set, List.map_append, List.append_assoc] at htake
      rw [List.length_cons, show i + (rs.length + 1) = i + 1 + rs.length by omega, htake,
        List.map_singleton, hmessage, List.map_cons, List.singleton_append]

/-- The results that count. -/
def counted (response : RdcDiagResponse) : List RdcDiagTestResult :=
  response.diagInfo.toList.take response.resultsCount

/-- The counts of a response are inside its arrays, and its messages are text. -/
structure ValidResponse (response : RdcDiagResponse) : Prop where
  count : response.resultsCount ≤ maxTestCases
  results : ∀ r ∈ counted response, ValidResult r

theorem copyDiagResponse_eq {response : RdcDiagResponse} (h : ValidResponse response) :
    ApiService.copyDiagResponse response
      = some ⟨response.resultsCount, (counted response).map (wire ·.message)⟩ := by
  have hresults : (counted response).mapM ApiService.copyTestResult
      = some ((counted response).map (wire ·.message)) :=
    Buffer.mapM_eq_some_map fun r hr => copyTestResult_eq (h.results r hr).count
  unfold ApiService.copyDiagResponse
  rw [Buffer.read_eq_some _ (by have := h.count; omega)]
  show Option.map _ ((counted response).mapM ApiService.copyTestResult) = _
  rw [hresults]
  rfl

/-- The message of a valid response is accepted, and the client's copy says what was sent. -/
theorem copyDiagResponse_copyDiagResponse {sent : RdcDiagResponse} (h : ValidResponse sent)
    (response : RdcDiagResponse) :
    ∃ res received, ApiService.copyDiagResponse sent = some res ∧ res.parses = true
      ∧ StandaloneHandler.copyDiagResponse res response = some (.ok, received)
      ∧ received.resultsCount = sent.resultsCount ∧ results received = results sent := by
  have hcount := h.count
  have hlen : (counted sent).length = sent.resultsCount := by
    rw [counted, List.length_take, Vector.length_toList]
    exact Nat.min_eq_left hcount
  obtain ⟨diagInfo, hloop, htake⟩ :=
    copyDiagInfo_wire h.results (i := 0) (by omega) response.diagInfo
  rw [List.take_zero, List.map_nil, List.nil_append, Nat.zero_add, hlen] at htake
  refine ⟨_, ⟨sent.resultsCount, diagInfo⟩, copyDiagResponse_eq h, ?_, ?_, rfl, htake⟩
  · unfold DiagnosticResponse.parses
    rw [List.all_eq_true]
    intro result hmem
    obtain ⟨r, hr, rfl⟩ := List.mem_map.mp hmem
    exact parses_wire (h.results r hr)
  · unfold StandaloneHandler.copyDiagResponse
    rw [if_neg (by rw [List.length_map]; omega)]
    dsimp only
    rw [hloop]
    rfl

/-- The client's copies undo the server's: the usage of a GPU comes back with every member, and a
diagnostic response with `RDC_ST_OK`, its count, and every result and per-GPU entry that counts,
whatever the caller's response held before. -/
theorem decode_encode :
    (∀ info : RdcGpuUsageInfo,
      StandaloneHandler.copyGpuUsageInfo (ApiService.copyGpuUsageInfo info) = info)
    ∧ ∀ sent response : RdcDiagResponse, ValidResponse sent →
        ∃ res received, ApiService.copyDiagResponse sent = some res ∧ res.parses = true
          ∧ StandaloneHandler.copyDiagResponse res response = some (.ok, received)
          ∧ received.resultsCount = sent.resultsCount ∧ results received = results sent :=
  ⟨copyGpuUsageInfo_copyGpuUsageInfo,
    fun _ response h => copyDiagResponse_copyDiagResponse h response⟩

/-- A failed test with a text about one GPU. -/
def failedTest : RdcDiagTestResult where
  status := .fail
  details := ⟨[72, 105], 7⟩
  testCase := .gpuParameters
  perGpuResultCount := 1
  gpuResults := Vector.replicate rdcMaxNumDevices ⟨3, [72], 9⟩
  info := []

/-- A response with that test, twice. -/
def failedTwice : RdcDiagResponse := ⟨2, Vector.replicate maxTestCases failedTest⟩

theorem decode_encode_failedTwice :
    ∃ res received, ApiService.copyDiagResponse failedTwice = some res ∧ res.parses = true
      ∧ StandaloneHandler.copyDiagResponse res (staleResponse 129) = some (.ok, received)
      ∧ received.resultsCount = 2 ∧ results received = results failedTwice := by
  have hdetail : utf8 [72, 105] = true := utf8_iff.mpr ⟨['H', 'i'], by decide⟩
  have hper : utf8 [72] = true := utf8_iff.mpr ⟨['H'], by decide⟩
  have hinfo : utf8 [] = true := utf8_iff.mpr ⟨[], rfl⟩
  have hvalid : ValidResult failedTest := by
    refine ⟨by decide, ⟨by decide, by decide, hdetail⟩, fun per hmem => ?_,
      ⟨by decide, by decide, hinfo⟩⟩
    obtain rfl : per = ⟨3, [72], 9⟩ :=
      List.eq_of_mem_replicate (n := rdcMaxNumDevices) (List.mem_of_mem_take hmem)
    exact ⟨by decide, by decide, hper⟩
  refine decode_encode.2 failedTwice (staleResponse 129) ⟨by decide, fun r hr => ?_⟩
  obtain rfl : r = failedTest :=
    List.eq_of_mem_replicate (n := maxTestCases) (List.mem_of_mem_take hr)
  exact hvalid

end Rdc.Proof
