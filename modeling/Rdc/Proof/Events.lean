import Rdc.Notification
import Rdc.Proof.Samples

/-!
# Where a reported event ends up

Subscribing goes from a GPU index to a processor handle, reporting comes back from the handle. On
the way back `listen` does not look for the index of the handle but takes the BDF id of the device,
cut to 32 bits, for the GPU. So an event is cached under the key it was subscribed by exactly when
that number happens to be the index (`routed_iff`).
-/

namespace Rdc.Proof

open Daemon OrdMap

/-- The daemon after a batch of reports. -/
def afterReports (d : Daemon) (top : Topology) (now : Nat) (reported : List SmiNotification) :
    Daemon := (d.rdcFieldListenNotif top (.ok reported) now).2

/-- The key of an event on a GPU: what a client watches and reads. -/
def eventKey (gpu : Nat) (event : SmiEvent) : RdcFieldKey := (gpu, smiEventNotif2RdcMap event)

/-- Event `e` of a batch, reported after `before`, is appended to the samples of the key of its GPU
and event, and to no others. -/
def Routed (d : Daemon) (top : Topology) (now : Nat) (before : List SmiNotification)
    (e : SmiNotification) : Prop :=
  ∀ gpu, top.processors[gpu]? = some e.processorHandle → ∀ k,
    samplesOf (afterReports d top now (before ++ [e])) k
      = samplesOf (afterReports d top now before) k
        ++ if k = eventKey gpu e.event then [sampleOf (top.notification now e).field] else []

section Batch

variable {d : Daemon} {top : Topology} {now : Nat}

/-- A batch that fits into the buffer is delivered event by event. -/
theorem afterReports_eq {reported : List SmiNotification}
    (h : reported.length ≤ kMaxRSMIEvents) :
    afterReports d top now reported
      = d.handleFields (reported.map fun e => (top.notification now e).delivery) := by
  have hlisten : top.listen kMaxRSMIEvents (.ok reported) now
      = (.ok, reported.map (top.notification now)) := by
    unfold Topology.listen
    rw [if_neg (by decide), Nat.min_self]
    dsimp only
    rw [List.take_of_length_le h]
  have hmap : reported.map (fun e => (top.notification now e).delivery)
      = (reported.map (top.notification now)).map RdcEvntNotification.delivery := by
    rw [List.map_map]
    rfl
  unfold afterReports rdcFieldListenNotif
  rw [hlisten, hmap]
  dsimp only
  split
  · rename_i hnil
    rw [hnil]
    rfl
  · exact rdcNotifUpdateCache_eq d _

theorem added_report (k : RdcFieldKey) (e : SmiNotification) :
    added k [(top.notification now e).delivery]
      = if k = eventKey (top.bdfId e.processorHandle % 2 ^ 32) e.event then
          [sampleOf (top.notification now e).field]
        else [] := by
  have hkey : (top.notification now e).delivery.2.key
      = eventKey (top.bdfId e.processorHandle % 2 ^ 32) e.event := rfl
  have hstatus : (top.notification now e).delivery.2.fieldValue.status = 0 := rfl
  unfold added
  by_cases hk : k = eventKey (top.bdfId e.processorHandle % 2 ^ 32) e.event
  · rw [if_pos hk, labelled_cons_of_eq (hkey.trans hk.symm),
      List.filter_cons_of_pos (by simp [hstatus])]
    rfl
  · rw [if_neg hk, labelled_cons_of_ne (fun h => hk (h.symm.trans hkey))]
    rfl

/-- One more report adds its sample under the number made of the BDF id. -/
theorem samplesOf_report {before : List SmiNotification} {e : SmiNotification}
    (h : (before ++ [e]).length ≤ kMaxRSMIEvents) (k : RdcFieldKey) :
    samplesOf (afterReports d top now (before ++ [e])) k
      = samplesOf (afterReports d top now before) k
        ++ if k = eventKey (top.bdfId e.processorHandle % 2 ^ 32) e.event then
            [sampleOf (top.notification now e).field]
          else [] := by
  have hbefore : before.length ≤ kMaxRSMIEvents := by
    rw [List.length_append] at h
    omega
  rw [afterReports_eq h, afterReports_eq hbefore, ← added_report, samplesOf_handleFields,
    samplesOf_handleFields, List.append_assoc, List.map_append, List.map_singleton, added_append]

end Batch

/-- **Events and their keys.** Each event of a batch is appended to exactly the key of its GPU and
type, exactly when the BDF id of every device that reports is, cut to 32 bits, its index. -/
theorem routed_iff (d : Daemon) (top : Topology) (now : Nat) (reported : List SmiNotification)
    (hlen : reported.length ≤ kMaxRSMIEvents) :
    (∀ before e rest, reported = before ++ e :: rest → Routed d top now before e)
      ↔ ∀ e ∈ reported, ∀ gpu, top.processors[gpu]? = some e.processorHandle →
          top.bdfId e.processorHandle % 2 ^ 32 = gpu := by
  have hfits : ∀ before e rest, reported = before ++ e :: rest →
      (before ++ [e]).length ≤ kMaxRSMIEvents := by
    intro before e rest heq
    rw [heq, List.length_append, List.length_cons] at hlen
    rw [List.length_append, List.length_singleton]
    omega
  refine ⟨?_, ?_⟩
  · intro h e he gpu hgpu
    obtain ⟨before, rest, heq⟩ := List.append_of_mem he
    -- look at the key the sample really went to
    have hrouted := h before e rest heq gpu hgpu
      (eventKey (top.bdfId e.processorHandle % 2 ^ 32) e.event)
    rw [samplesOf_report (hfits before e rest heq), if_pos rfl] at hrouted
    by_contra hne
    have hkey : eventKey (top.bdfId e.processorHandle % 2 ^ 32) e.event
        ≠ eventKey gpu e.event := by
      intro hk
      exact hne (congrArg Prod.fst hk)
    rw [if_neg hkey] at hrouted
    have hlength := congrArg List.length hrouted
    rw [List.length_append, List.length_append, List.length_singleton, List.length_nil] at hlength
    omega
  · intro h before e rest heq gpu hgpu k
    have he : e ∈ reported := by
      rw [heq]
      exact List.mem_append_right _ (List.mem_cons_self ..)
    rw [samplesOf_report (hfits before e rest heq), h e he gpu hgpu]

/-- One GPU, with handle 7 and the given BDF id. -/
def oneGpu (bdfId : Nat) (h : bdfId < 2 ^ 64) : Topology where
  processors := [7]
  nodup := by simp
  bdfId _ := bdfId
  bdfId_lt _ := h

/-- A page fault on it. -/
def reportedFault : SmiNotification := ⟨7, .vmfault, [102]⟩

theorem routed_bdfZero :
    samplesOf (afterReports init (oneGpu 0 (by decide)) 5 [reportedFault]) (0, rdcEvntNotifVmfault)
      = [⟨5, .string, .str [102]⟩] := by
  have hrouted := (routed_iff init (oneGpu 0 (by decide)) 5 [reportedFault] (by decide)).mpr
    (by
      intro e he gpu hgpu
      have hlt := (List.getElem?_eq_some_iff.mp hgpu).1
      have hlt' : gpu < 1 := hlt
      show 0 % 2 ^ 32 = gpu
      omega) [] reportedFault [] rfl 0 rfl (0, rdcEvntNotifVmfault)
  exact hrouted

/-- The only GPU sits on PCI bus 3, so its events are cached under GPU 768. -/
theorem not_routed_busThree :
    (oneGpu 768 (by decide)).processors[0]? = some reportedFault.processorHandle
    ∧ samplesOf (afterReports init (oneGpu 768 (by decide)) 5 [reportedFault])
        (0, rdcEvntNotifVmfault) = []
    ∧ samplesOf (afterReports init (oneGpu 768 (by decide)) 5 [reportedFault])
        (768, rdcEvntNotifVmfault) = [⟨5, .string, .str [102]⟩] := by
  refine ⟨rfl, by decide +kernel, by decide +kernel⟩

end Rdc.Proof
