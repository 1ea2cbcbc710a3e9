import Rdc.DmonSession
import Rdc.Proof.Dmon
import Rdc.Proof.Summary

/-!
# Whose watch does `rdci dmon` end?

`process` does not look at what `rdc_field_watch` returns, and `clean_up` unwatches in any case. The
daemon does not know whose watch an entry is. So if the pair was watched already, the client ends
the watch of somebody else: the entry is watching after that only if somebody else sets it up again,
with the same settings (`neverCancels_iff`).

The client and the daemon run together, with operations of others in between. Until the client asks
for a watch nothing is at stake (`Unasked`); from then on it holds the pair in its options and the
entry is as it was found, unless somebody else unwatched it (`Held`, `Armed`); and after the unwatch
the entry is off until somebody else turns it on (`Settled`).
-/

namespace Rdc.Proof

open Raise Dmon Daemon

/-! ## What is asked -/

/-- What happened after step `i`. -/
def later (t : Session) (i : Nat) : List SessionEvent := t.history.drop (i + 1)

/-- Step `i` was the client's watch on `e`, which somebody was watching with settings `f`. -/
def Conflict (t : Session) (i : Nat) (e : RdcFieldGroupKey) (f : FieldSettings) : Prop :=
  ∃ d, t.history[i]? = some (.watch d e) ∧ Watching d e f

/-- Nobody but the client unwatched `e`. -/
def Spared (e : RdcFieldGroupKey) (events : List SessionEvent) : Prop :=
  ∀ d op, .other d op ∈ events → ¬ Unwatches d e op

/-- Somebody else turned the entry on again, with settings `f`. -/
def Rewatched (tel : Telemetry) (e : RdcFieldGroupKey) (f : FieldSettings)
    (events : List SessionEvent) : Prop :=
  ∃ d op, .other d op ∈ events ∧ ¬ Watching d e f ∧ Watching (d.exec tel op).2 e f

/-- The program came to its end, with an exception or without. -/
def Ended : Except DmonStop Unit → Prop
  | .ok _ => True
  | .error (.thrown _) => True
  | .error .overrun => False
  | .error .unfinished => False

/-- When the client has ended, a watch that it ran into is still there, if nobody else unwatched it.
-/
def NeverCancels (r : Except DmonStop Unit × Dmon Session) : Prop :=
  Ended r.1 → ∀ i e f, Conflict r.2.daemon i e f → Spared e (later r.2.daemon i) →
    Watching r.2.daemon.daemon e f

/-! ## One step -/

variable {e : RdcFieldGroupKey} {f : FieldSettings} {events : List SessionEvent}

theorem watching_of_not_unwatches {tel : Telemetry} {d : Daemon} {op : Op} (h : Watching d e f)
    (hop : ¬ Unwatches d e op) : Watching (d.exec tel op).2 e f := by
  have hinv : TableInv tel (fun _ e' => e' ≠ e) (fun d => Watching d e f) := {
    frame := fun h hsame => ⟨by rw [hsame.2.1]; exact h.1, h.2⟩
    watch := by
      intro d g fg freq age samples h
      rcases rdcFieldWatch_cases tel d g fg freq age samples with
        ⟨_, _, heq⟩ | ⟨hno, _, heq⟩ | ⟨hno, _, F, calls, _, heq⟩ <;> rw [heq]
      · exact h
      · exact (watching_erase hno e f).mpr h
      · exact (watching_entered rfl hno F calls e f).mpr (Or.inr h)
    unwatch := fun _ _ _ hne h => watching_unwatch.mpr ⟨hne.symm, h⟩
    deliver := fun _ _ _ h => h
    cleanUp := fun _ h => watching_cleanUp.mpr h
    harmless_frame := fun h _ => h
    harmless_unwatch := fun _ _ _ h => h }
  refine hinv.exec h (fun e' he' heq => hop (heq ▸ he')) fun hgroup => ?_
  obtain ⟨gs, hgs⟩ := exec_groupCall tel d hgroup
  rw [hgs]
  exact h

theorem spared_concat {ev : SessionEvent} :
    Spared e (events ++ [ev])
      ↔ Spared e events ∧ ∀ d op, ev = .other d op → ¬ Unwatches d e op := by
  refine ⟨fun h => ⟨fun d op hmem => h d op (List.mem_append_left _ hmem), ?_⟩, ?_⟩
  · rintro d op rfl
    exact h d op (List.mem_append_right _ (List.mem_singleton_self _))
  · rintro ⟨hold, hnew⟩ d op hmem
    rcases List.mem_append.mp hmem with h | h
    · exact hold d op h
    · exact hnew d op (List.mem_singleton.mp h).symm

theorem rewatched_other {tel : Telemetry} {d : Daemon} {op : Op} :
    Rewatched tel e f (events ++ [.other d op])
      ↔ Rewatched tel e f events ∨ (¬ Watching d e f ∧ Watching (d.exec tel op).2 e f) := by
  constructor
  · rintro ⟨d', op', hmem, hoff, hon⟩
    rcases List.mem_append.mp hmem with h | h
    · exact Or.inl ⟨d', op', h, hoff, hon⟩
    · cases List.mem_singleton.mp h
      exact Or.inr ⟨hoff, hon⟩
  · rintro (⟨d', op', hmem, hoff, hon⟩ | ⟨hoff, hon⟩)
    · exact ⟨d', op', List.mem_append_left _ hmem, hoff, hon⟩
    · exact ⟨d, op, List.mem_append_right _ (List.mem_singleton_self _), hoff, hon⟩

theorem rewatched_call {tel : Telemetry} {d : Daemon} :
    Rewatched tel e f (events ++ [.call d]) ↔ Rewatched tel e f events := by
  simp [Rewatched]

/-! ## The three phases -/

/-- The client has not asked for a watch. -/
def Unasked (t : Session) : Prop := ∀ d e, .watch d e ∉ t.history

/-- For every watch the client ran into that nobody else unwatched, `Φ` holds of what happened since
and of the daemon. -/
def ForConflicts (Φ : RdcFieldGroupKey → FieldSettings → List SessionEvent → Daemon → Prop)
    (t : Session) : Prop :=
  ∀ i e f, Conflict t i e f → Spared e (later t i) → Φ e f (later t i) t.daemon

/-- The client has asked for `e₀`, and the entry is as it was. -/
def Held (tel : Telemetry) (e₀ : RdcFieldGroupKey) : Session → Prop :=
  ForConflicts fun e f events d => e = e₀ ∧ Watching d e f ∧ ¬ Rewatched tel e f events

/-- The entry is on exactly if somebody else has turned it on again. -/
def Settled (tel : Telemetry) : Session → Prop :=
  ForConflicts fun e f events d => Watching d e f ↔ Rewatched tel e f events

theorem Unasked.forConflicts {t : Session} (h : Unasked t)
    (Φ : RdcFieldGroupKey → FieldSettings → List SessionEvent → Daemon → Prop) :
    ForConflicts Φ t := by
  rintro i e f ⟨d, hi, -⟩
  exact absurd (List.mem_of_getElem? hi) (h d e)

/-- The session after one more step. -/
def stepped (t : Session) (d : Daemon) (calls : Nat) (ev : SessionEvent) : Session :=
  { t with daemon := d, calls := calls, history := t.history ++ [ev] }

theorem getElem?_concat_cases {history : List SessionEvent} {ev ev' : SessionEvent} {i : Nat}
    (h : (history ++ [ev])[i]? = some ev') :
    (i < history.length ∧ history[i]? = some ev') ∨ (history.length ≤ i ∧ ev' = ev) := by
  rcases Nat.lt_or_ge i history.length with hlt | hge
  · rw [List.getElem?_append_left hlt] at h
    exact Or.inl ⟨hlt, h⟩
  · rw [List.getElem?_append_right hge] at h
    exact Or.inr ⟨hge, List.mem_singleton.mp (List.mem_of_getElem? h)⟩

section Step

variable {t : Session} {d : Daemon} {calls : Nat} {ev : SessionEvent}

theorem Unasked.step (h : Unasked t) (hev : ∀ d e, ev ≠ .watch d e) :
    Unasked (stepped t d calls ev) := by
  intro d' e hmem
  rcases List.mem_append.mp hmem with hold | hnew
  · exact h d' e hold
  · exact hev d' e (List.mem_singleton.mp hnew).symm

theorem ForConflicts.step
    {Φ Φ' : RdcFieldGroupKey → FieldSettings → List SessionEvent → Daemon → Prop}
    (h : ForConflicts Φ t) (hev : ∀ d e, ev ≠ .watch d e)
    (hstep : ∀ e f events, Spared e (events ++ [ev]) → Φ e f events t.daemon →
      Φ' e f (events ++ [ev]) d) : ForConflicts Φ' (stepped t d calls ev) := by
  rintro i e f ⟨d', hi, hw⟩ hspared
  rcases getElem?_concat_cases hi with ⟨hlt, hold⟩ | ⟨_, hnew⟩
  · have hlater : later (stepped t d calls ev) i = later t i ++ [ev] :=
      List.drop_append_of_le_length hlt
    rw [hlater] at hspared ⊢
    exact hstep e f _ hspared (h i e f ⟨d', hold, hw⟩ (spared_concat.mp hspared).1)
  · exact absurd hnew.symm (hev d' e)

end Step

/-! ## What keeps a phase -/

/-- `J` is kept by what others do, and by calls of the client that change the daemon as `R` allows.
-/
structure SessionInv (tel : Telemetry) (R : Daemon → Daemon → Prop) (J : Session → Prop) :
    Prop where
  other : ∀ {t} op, J t → J (t.otherStep tel op)
  call : ∀ {t} d calls, R t.daemon d → J t → J (stepped t d calls (.call t.daemon))

/-- The call leaves `watch_table_` alone. -/
def SameWatches (d d' : Daemon) : Prop := d'.watchTable = d.watchTable

theorem SameWatches.watching {d d' : Daemon} (h : SameWatches d d') (e : RdcFieldGroupKey)
    (f : FieldSettings) : Watching d' e f ↔ Watching d e f := by
  unfold Watching
  rw [h]

variable {tel : Telemetry}

theorem unasked_inv : SessionInv tel (fun _ _ => True) Unasked where
  other _ h := h.step (fun _ _ heq => by cases heq)
  call _ _ _ h := h.step (fun _ _ heq => by cases heq)

theorem held_inv (e₀ : RdcFieldGroupKey) : SessionInv tel SameWatches (Held tel e₀) where
  other {t} op h := by
    refine ForConflicts.step h (fun _ _ heq => by cases heq) ?_
    rintro e f events hspared ⟨he, hw, hnot⟩
    have hop := (spared_concat.mp hspared).2 t.daemon op rfl
    refine ⟨he, watching_of_not_unwatches hw hop, fun hre => ?_⟩
    rcases rewatched_other.mp hre with h | h
    · exact hnot h
    · exact h.1 hw
  call {t} d calls hsame h := by
    refine ForConflicts.step h (fun _ _ heq => by cases heq) ?_
    rintro e f events - ⟨he, hw, hnot⟩
    exact ⟨he, (hsame.watching e f).mpr hw, fun hre => hnot (rewatched_call.mp hre)⟩

theorem settled_inv : SessionInv tel SameWatches (Settled tel) where
  other {t} op h := by
    refine ForConflicts.step h (fun _ _ heq => by cases heq) ?_
    intro e f events hspared hiff
    have hop := (spared_concat.mp hspared).2 t.daemon op rfl
    rw [rewatched_other, ← hiff]
    by_cases hw : Watching t.daemon e f
    · exact iff_of_true (watching_of_not_unwatches hw hop) (Or.inl hw)
    · exact ⟨fun h => Or.inr ⟨hw, h⟩, fun h => (h.resolve_left hw).2⟩
  call {t} d calls hsame h := by
    refine ForConflicts.step h (fun _ _ heq => by cases heq) ?_
    intro e f events _ hiff
    rw [hsame.watching, rewatched_call]
    exact hiff

namespace SessionInv

variable {R : Daemon → Daemon → Prop} {J : Session → Prop}

theorem othersTurn (h : SessionInv tel R J) {t : Session} (ht : J t) : J (t.othersTurn tel) := by
  have hfold : ∀ (ops : List Op) (t : Session), J t → J (ops.foldl (Session.otherStep tel) t) := by
    intro ops
    induction ops with
    | nil => exact fun t ht => ht
    | cons op ops ih => exact fun t ht => ih _ (h.other op ht)
  exact hfold _ t ht

theorem serve (h : SessionInv tel R J) {α : Type} {f : Turn → Daemon → α × Daemon}
    (hf : ∀ turn d, R d (f turn d).2) {t : Session} (ht : J t) :
    J (Session.serve tel .call f t).2 := h.call _ _ (hf _ _) (h.othersTurn ht)

variable {n : Nat} {uninit : RdcFieldValue}

theorem readInv (h : SessionInv tel R J) (hrefl : ∀ d, R d d) :
    ReadInv (Session.api tel n uninit) J where
  getValueSince _ _ _ _ _ _ ht := h.serve (fun _ d => hrefl d) ht
  getLatestValue _ _ _ ht := h.serve (fun _ d => hrefl d) ht
  isTerminating _ ht := h.serve (fun _ d => hrefl d) ht

theorem cleanUp_groups (h : SessionInv tel R J)
    (hgroups : ∀ d gs, R d { d with groupSettings := gs }) {s : Dmon Session} (hs : J s.daemon) :
    J (cleanUpFieldGroup (Session.api tel n uninit)
      (cleanUpGroup (Session.api tel n uninit) s)).daemon := by
  have hserve : ∀ (f : GroupSettings → Status × GroupSettings) {t : Session}, J t →
      J (Session.serve tel .call (fun _ d => d.onGroups (f d.groupSettings)) t).2 :=
    fun f _ ht => h.serve (fun _ d => hgroups d _) ht
  have hfirst : J (cleanUpGroup (Session.api tel n uninit) s).daemon := by
    unfold cleanUpGroup
    split
    · split
      · exact hserve (·.rdcGroupGpuDestroy _) hs
      · exact hs
    · exact hs
  generalize cleanUpGroup (Session.api tel n uninit) s = s' at hfirst
  unfold cleanUpFieldGroup
  split
  · split
    · exact hserve (·.rdcGroupFieldDestroy _) hfirst
    · exact hfirst
  · exact hfirst

end SessionInv

/-! ## The watch and the unwatch -/

section Calls

variable (n : Nat) (uninit : RdcFieldValue) {t : Session}

theorem held_watch (h : Unasked t) (g fg freq : Nat) (age : ℚ) (samples : Nat) :
    Held tel (g, fg) ((Session.api tel n uninit).rdcFieldWatch g fg freq age samples t).2 := by
  have hothers : Unasked (t.othersTurn tel) := unasked_inv.othersTurn h
  rintro i e f ⟨d, hi, hw⟩ -
  rcases getElem?_concat_cases hi with ⟨_, hold⟩ | ⟨hge, hnew⟩
  · exact absurd (List.mem_of_getElem? hold) (hothers d e)
  · cases hnew
    refine ⟨rfl, ?_, ?_⟩
    · rcases rdcFieldWatch_cases tel (t.othersTurn tel).daemon g fg freq age samples with
        ⟨_, _, heq⟩ | ⟨hno, _⟩ | ⟨hno, _⟩
      · show Watching ((t.othersTurn tel).daemon.rdcFieldWatch tel g fg freq age samples).2 _ f
        rw [heq]
        exact hw
      · exact absurd hw (hno f)
      · exact absurd hw (hno f)
    · -- nothing has happened since
      have hnil :
          later ((Session.api tel n uninit).rdcFieldWatch g fg freq age samples t).2 i = [] :=
        List.drop_eq_nil_of_le (by
          show ((t.othersTurn tel).history ++ [_]).length ≤ i + 1
          rw [List.length_append, List.length_singleton]
          omega)
      rw [hnil]
      rintro ⟨_, _, hmem, _⟩
      exact absurd hmem List.not_mem_nil

theorem settled_unwatch (h : Held tel e t) :
    Settled tel ((Session.api tel n uninit).rdcFieldUnwatch e.1 e.2 t).2 := by
  refine ForConflicts.step ((held_inv e).othersTurn h) (fun _ _ heq => by cases heq) ?_
  rintro e' f events - ⟨rfl, -, hnot⟩
  rw [watching_unwatch, rewatched_call]
  exact iff_of_false (fun h => h.1 rfl) hnot

end Calls

/-! ## Before the watch -/

variable {n : Nat} {latest : RdcFieldValue} {tables : DmonTables} {uninit : DmonLocals}

/-- The client holds the pair `e` in its options and will clean up. -/
structure Armed (tel : Telemetry) (e : RdcFieldGroupKey) (s : Dmon Session) : Prop where
  held : Held tel e s.daemon
  groupId : s.options .groupId = some e.1
  fieldGroupId : s.options .fieldGroupId = some e.2
  needCleanup : s.needCleanup = true

/-- However the client got here, its clean-up settles everything. -/
def SettlesOnExit (tel : Telemetry) (s : Dmon Session) : Prop :=
  Unasked s.daemon ∨ (∃ e, Armed tel e s) ∨ (Settled tel s.daemon ∧ s.needCleanup = false)

/-- The client has not asked for a watch, before the command and after it. -/
def Waits {α : Type} (tel : Telemetry) (x : Cmd DmonStop (Dmon Session) α) : Prop :=
  Triple (fun s => Unasked s.daemon) x (fun _ s => Unasked s.daemon) fun _ => SettlesOnExit tel

namespace Waits

variable {α β : Type}

theorem pure (a : α) : Waits tel (Pure.pure a : Cmd DmonStop (Dmon Session) α) :=
  Triple.pure fun _ h => h

theorem stop (e : DmonStop) : Waits tel (Cmd.stop e : Cmd DmonStop (Dmon Session) α) :=
  Triple.stop fun _ h => Or.inl h

theorem bind {x : Cmd DmonStop (Dmon Session) α} {f : α → Cmd DmonStop (Dmon Session) β}
    (hx : Waits tel x) (hf : ∀ a, Waits tel (f a)) : Waits tel (x >>= f) := Triple.bind hx hf

theorem read (f : Dmon Session → α) : Waits tel (Cmd.read f) := Triple.read fun _ h => h

theorem update {f : Dmon Session → Dmon Session} (hf : ∀ s, (f s).daemon = s.daemon) :
    Waits tel (Cmd.update f) := Triple.update fun s h => by rw [hf]; exact h

theorem optionAt (option : DmonOption) : Waits tel (Dmon.optionAt option) :=
  Triple.atomic fun _ h => h

theorem serve (f : Turn → Daemon → α × Daemon) :
    Waits tel (Dmon.call (Session.serve tel .call f)) :=
  Triple.atomic fun _ h => unasked_inv.serve (fun _ _ => trivial) h

theorem parseCmdOpts (args : List DmonArg) : Waits tel (Dmon.parseCmdOpts tables args) := by
  have hE : ∀ (e : DmonError) (s : Dmon Session), Unasked s.daemon → SettlesOnExit tel s :=
    fun _ _ h => Or.inl h
  refine bind (triple_parseLoop (P := fun s => Unasked s.daemon) hE (fun _ _ _ h => h)
    (fun _ _ h => h) args [] []) fun opts => ?_
  split
  · exact pure _
  · refine (read _).bind fun ops => ?_
    split
    · exact pure _
    · exact pure _
    · unfold checkOptions
      refine bind ?_ fun _ => bind ?_ fun _ => ?_
      · unfold checkFieldIds
        refine (read _).bind fun noGroup => ?_
        split
        · split
          · exact stop _
          · exact triple_pushFieldIds (P := fun s => Unasked s.daemon) hE tables (fun _ _ h => h) _
        · exact pure _
      · unfold checkGpuIndexes
        refine (read _).bind fun noGroup => ?_
        split
        · split
          · exact stop _
          · exact triple_pushGpuIndexes (P := fun s => Unasked s.daemon) hE (fun _ _ h => h) _
        · exact pure _
      · have hboth := triple_checkNotBoth (P := fun s : Dmon Session => Unasked s.daemon)
          (E := fun _ => SettlesOnExit tel) hE
        refine bind (hboth _ _ _) fun _ => bind (hboth _ _ _) fun _ => ?_
        refine bind (update fun _ => rfl) fun _ => ?_
        exact update fun _ => rfl

theorem addGpus (groupId : Nat) (gpus : List Nat) :
    Waits tel (Dmon.addGpus (Session.api tel n latest) groupId gpus) := by
  induction gpus with
  | nil => exact pure _
  | cons gpu gpus ih =>
    unfold Dmon.addGpus
    refine (serve _).bind fun result => ?_
    split
    · exact (stop _).bind fun _ => ih
    · exact ih

theorem createTempGroup : Waits tel (Dmon.createTempGroup (Session.api tel n latest)) := by
  unfold Dmon.createTempGroup
  refine (read _).bind fun gpus => ?_
  split
  · exact pure _
  · refine (serve _).bind fun r => ?_
    split
    · exact stop _
    · refine bind (update fun _ => rfl) fun _ => ?_
      exact bind (addGpus _ _) fun _ => update fun _ => rfl

theorem createTempFieldGroup :
    Waits tel (Dmon.createTempFieldGroup (Session.api tel n latest) uninit) := by
  unfold Dmon.createTempFieldGroup
  refine (read _).bind fun ids => ?_
  split
  · exact pure _
  · split
    · exact stop _
    · refine (serve _).bind fun r => ?_
      split
      · exact stop _
      · refine bind (update fun _ => rfl) fun _ => ?_
        exact update fun _ => rfl

theorem getMembers (f : Nat → Turn → Daemon → Except Failure (List α) × Daemon)
    (option : DmonOption) (kind theKind member : String) :
    Waits tel (Dmon.getMembers tables (fun id => Session.serve tel .call (f id)) option kind theKind
      member) := by
  unfold Dmon.getMembers
  refine (optionAt option).bind fun id => (serve _).bind fun info => ?_
  split
  · exact stop _
  · exact stop _
  · exact pure _

end Waits

/-! ## From the watch on -/

/-- **The clean-up of a client that has asked for a watch** turns its entry off. -/
theorem Armed.cleanUp {s : Dmon Session} (h : Armed tel e s) :
    Settled tel (cleanUp (Session.api tel n latest) s).daemon := by
  have hunwatch : (cleanUpWatch (Session.api tel n latest) s).daemon
      = ((Session.api tel n latest).rdcFieldUnwatch e.1 e.2 s.daemon).2 := by
    unfold cleanUpWatch
    rw [h.groupId, h.fieldGroupId]
  have hsettled : Settled tel (cleanUpWatch (Session.api tel n latest) s).daemon := by
    rw [hunwatch]
    exact settled_unwatch n latest h.held
  unfold Dmon.cleanUp
  rw [if_pos h.needCleanup]
  exact settled_inv.cleanUp_groups (fun _ _ => rfl) hsettled

theorem SettlesOnExit.cleanUp {s : Dmon Session} (h : SettlesOnExit tel s) :
    Settled tel (cleanUp (Session.api tel n latest) s).daemon := by
  rcases h with hnot | ⟨e, harmed⟩ | ⟨hsettled, hdone⟩
  · refine Unasked.forConflicts ?_ _
    unfold Dmon.cleanUp
    split
    · refine unasked_inv.cleanUp_groups (fun _ _ => trivial) ?_
      unfold cleanUpWatch
      split
      · rename_i g fg _ _
        exact unasked_inv.serve (f := fun turn d => d.rdcFieldUnwatch g fg turn.now)
          (fun _ _ => trivial) hnot
      · exact hnot
    · exact hnot
  · exact harmed.cleanUp
  · unfold Dmon.cleanUp
    rw [if_neg (by rw [hdone]; decide)]
    exact hsettled

theorem Armed.reads {α : Type} {x : Cmd DmonStop (Dmon Session) α} (h : Reads (Held tel e) x) :
    Triple (Armed tel e) x (fun _ => Armed tel e) fun _ => SettlesOnExit tel :=
  (h.triple (fun _ hs => hs.held) fun _ _ hs hd =>
    ⟨hd, hs.groupId, hs.fieldGroupId, hs.needCleanup⟩).conseqStop
    fun _ _ hs => Or.inr (Or.inl ⟨e, hs.2⟩)

theorem triple_optionAt {P : Dmon Session → Prop} {option : DmonOption}
    (hP : ∀ s, P s → P (s.insertOption option 0)) :
    Triple P (optionAt option) (fun value s => P s ∧ s.options option = some value)
      fun _ => SettlesOnExit tel := by
  refine Triple.atomic fun s h => ⟨hP s h, ?_⟩
  rw [insertOption_self]
  cases s.options option <;> rfl

theorem triple_monitor (fuel : Nat) :
    Triple (fun s => Unasked s.daemon) (monitor (Session.api tel n latest) tables uninit fuel)
      (fun _ => SettlesOnExit tel) fun _ => SettlesOnExit tel := by
  unfold monitor
  refine Triple.bind (Waits.getMembers _ _ _ _ _) fun gpus => ?_
  refine Triple.bind (Waits.getMembers _ _ _ _ _) fun fields => ?_
  refine Triple.bind (Waits.optionAt _) fun delay => ?_
  refine Triple.bind (triple_optionAt fun _ h => h) fun g => ?_
  refine Triple.bind (triple_optionAt fun s h => ⟨h.1, ?_⟩) fun fg => ?_
  · rw [insertOption_other s (by decide)]
    exact h.2
  refine Triple.bind (Q := fun _ s => Held tel (g, fg) s.daemon ∧ s.options .groupId = some g
    ∧ s.options .fieldGroupId = some fg) (Triple.atomic fun s h => ?_) fun _ => ?_
  · exact ⟨held_watch n latest h.1.1 g fg _ _ _, h.1.2, h.2⟩
  refine Triple.bind (Q := fun _ => Armed tel (g, fg)) (Triple.update fun s h => ?_) fun _ => ?_
  · exact ⟨h.1, h.2.1, h.2.2, rfl⟩
  have hread : ReadInv (Session.api tel n latest) (Held tel (g, fg)) :=
    (held_inv (g, fg)).readInv fun _ => rfl
  refine Triple.bind (Armed.reads (reads_newNotifs hread uninit fuel gpus _)) fun r => ?_
  refine Triple.bind (Q := fun _ => Armed tel (g, fg)) (Triple.atomic fun s h => ?_) fun count => ?_
  · exact ⟨h.held, (insertOption_other s (by decide) _).trans h.groupId,
      (insertOption_other s (by decide) _).trans h.fieldGroupId, h.needCleanup⟩
  refine Triple.bind (Armed.reads (reads_monitorLoop hread uninit fuel gpus _ count r.1))
    fun _ => ?_
  refine Triple.update fun s h => Or.inr (Or.inr ⟨h.cleanUp, ?_⟩)
  unfold Dmon.cleanUp
  rw [if_pos h.needCleanup]

/-- However far the client got, it is ready to clean up. -/
theorem triple_main (tel : Telemetry) (n : Nat) (latest : RdcFieldValue) (tables : DmonTables)
    (uninit : DmonLocals) (fuel : Nat) (args : List DmonArg) :
    Triple (fun s => Unasked s.daemon)
      (Dmon.main (Session.api tel n latest) tables uninit fuel args)
      (fun _ => SettlesOnExit tel) fun _ => SettlesOnExit tel := by
  refine Triple.bind (Waits.parseCmdOpts args) fun _ => ?_
  unfold process
  refine Triple.bind (Waits.read _) fun ops => ?_
  split
  · exact Triple.pure fun _ h => Or.inl h
  · exact Triple.pure fun _ h => Or.inl h
  · exact Triple.pure fun _ h => Or.inl h
  · refine Triple.bind Waits.createTempGroup fun _ => ?_
    exact Triple.bind Waits.createTempFieldGroup fun _ => triple_monitor fuel

/-! ## The whole run -/

theorem settled_lifetime (fuel : Nat) (args : List DmonArg) (d : Daemon) (turns : Nat → Turn) :
    Settled tel (lifetime (Session.api tel n latest) tables uninit fuel args
      (Session.init d turns)).2.daemon := by
  have hmain := triple_main tel n latest tables uninit fuel args
    (Dmon.init (Session.init d turns)) fun _ _ hmem => absurd hmem List.not_mem_nil
  unfold lifetime
  dsimp only
  revert hmain
  rcases (Dmon.main (Session.api tel n latest) tables uninit fuel args).exec
    (Dmon.init (Session.init d turns)) with ⟨r, s⟩
  cases r with
  | ok a => exact fun h => h.cleanUp
  | error e => exact fun h => h.cleanUp

/-- **`rdci dmon` never ends somebody else's watch exactly if** it runs into none, or somebody else
sets the watch it has ended up again. -/
theorem neverCancels_iff (tel : Telemetry) (deviceCount : Nat) (latest : RdcFieldValue)
    (tables : DmonTables) (uninit : DmonLocals) (fuel : Nat) (args : List DmonArg) (d : Daemon)
    (turns : Nat → Turn) :
    let r := lifetime (Session.api tel deviceCount latest) tables uninit fuel args
      (Session.init d turns)
    NeverCancels r ↔ (Ended r.1 → ∀ i e f, Conflict r.2.daemon i e f →
      Spared e (later r.2.daemon i) → Rewatched tel e f (later r.2.daemon i)) := by
  intro r
  have hsettled : Settled tel r.2.daemon := settled_lifetime fuel args d turns
  refine ⟨fun h hend i e f hc hs => ?_, fun h hend i e f hc hs => ?_⟩
  · exact (hsettled i e f hc hs).mp (h hend i e f hc hs)
  · exact (hsettled i e f hc hs).mpr (h hend i e f hc hs)

/-- Somebody watches the power of GPU 0. -/
def watchedBySomebody : List Op :=
  [.groupGpuCreate [97], .groupGpuAdd 1 0, .groupFieldCreate [rdcFiPowerUsage] [98],
    .fieldWatch 1 1 1000000 60 10]

/-- `rdci dmon -g 1 -f 1 -c 1`, while nobody else does anything. -/
def dmonOnSameGroups : Except DmonStop Unit × Dmon Session :=
  lifetime (Session.api Telemetry.smiOnly 1 ⟨0, 0, 0, .integer, .lInt 0⟩)
    ⟨fun _ => none, fun _ => ""⟩ ⟨Vector.replicate _ 0, 0, ⟨0, 0, 0, .integer, .lInt 0⟩⟩ 1
    [.groupId ['1'], .fieldGroupId ['1'], .count ['1']]
    (Session.init (Machine.run (exec Telemetry.smiOnly) Daemon.init watchedBySomebody)
      fun _ => ⟨[], none, 7, false⟩)

/-- The step is not one of the client. -/
def isOther : SessionEvent → Bool
  | .other _ _ => true
  | _ => false

/-- What the client's watch finds in the table, if the step is one. -/
def found : SessionEvent → Option (RdcFieldGroupKey × Option FieldSettings)
  | .watch d e => some (e, d.watchTable[e]?)
  | _ => none

theorem conflict_of_found {t : Session} {i : Nat} (h : t.history[i]?.bind found = some (e, some f))
    (hf : f.isWatching = true) : Conflict t i e f := by
  obtain ⟨ev, hev, hfound⟩ := Option.bind_eq_some_iff.mp h
  cases ev with
  | watch d e' =>
    obtain ⟨rfl, hget⟩ := Prod.mk.inj (Option.some.inj hfound)
    exact ⟨d, hev, hget, hf⟩
  | other d op => exact absurd hfound (by simp [found])
  | call d => exact absurd hfound (by simp [found])

/-- While nobody else does anything, there is nobody to set the watch up again. -/
theorem not_neverCancels_of_alone {r : Except DmonStop Unit × Dmon Session} {i : Nat}
    (hok : r.1.isOk = true) (hconflict : Conflict r.2.daemon i e f)
    (hoff : ¬ Watching r.2.daemon.daemon e f)
    (halone : ∀ ev ∈ r.2.daemon.history, ∀ d op, ev ≠ .other d op) : ¬ NeverCancels r := by
  have hended : Ended r.1 := by
    cases hr : r.1 with
    | ok a => trivial
    | error e =>
      rw [hr] at hok
      exact absurd hok (by simp [Except.isOk, Except.toBool])
  intro h
  refine hoff (h hended i e f hconflict fun d op hmem => ?_)
  exact absurd rfl (halone _ (List.mem_of_mem_drop hmem) d op)

/-- The client runs into the watch, prints once, and ends it. -/
theorem not_neverCancels_sameGroups :
    Conflict dmonOnSameGroups.2.daemon 2 (1, 1) (watchSettings 1000000 60 10)
    ∧ dmonOnSameGroups.2.daemon.daemon.watchTable[((1, 1) : RdcFieldGroupKey)]?
      = some { watchSettings 1000000 60 10 with isWatching := false, lastUpdateTime := 7 }
    ∧ ¬ NeverCancels dmonOnSameGroups := by
  have hconflict : Conflict dmonOnSameGroups.2.daemon 2 (1, 1) (watchSettings 1000000 60 10) :=
    conflict_of_found (by decide +kernel) rfl
  have hentry : dmonOnSameGroups.2.daemon.daemon.watchTable[((1, 1) : RdcFieldGroupKey)]?
      = some { watchSettings 1000000 60 10 with isWatching := false, lastUpdateTime := 7 } := by
    decide +kernel
  have hnone : dmonOnSameGroups.2.daemon.history.all (fun ev => !isOther ev) = true := by
    decide +kernel
  refine ⟨hconflict, hentry, not_neverCancels_of_alone (by decide +kernel) hconflict ?_ ?_⟩
  · rintro ⟨hget, -⟩
    have hsame := Option.some.inj (hentry.symm.trans hget)
    exact absurd (congrArg FieldSettings.isWatching hsame) (by decide)
  · rintro ev hev d op rfl
    exact absurd (List.all_eq_true.mp hnone _ hev) (by simp [isOther])

end Rdc.Proof
