import Rdc.Proof.Summary

/-!
# Records nobody asks for

An unwatch flags its entry off first and looks its groups up afterwards. When a group is gone the
lookup fails, the call returns, and the records of the entry stay as they are: polled from then on,
with no entry left to unwatch them by. The lookup walks over the watching entries of everybody, so
the missing group may be somebody else's.

Two results. A run whose unwatches all find the groups of their own entry leaves no such record once
no entry is watching (`nothingPolled_of_idle`): as long as a foreign dead entry could make an
unwatch fail, that entry is itself still watching. And an unwatch of a live entry does its work
exactly when the groups of all other watching entries exist (`unwatchWorks_iff_othersLive`).
-/

namespace Rdc.Proof

open Daemon OrdMap Machine

/-! ## Accounting for the watching records -/

/-- Only supported fields have records; and unless some watching entry is dead, every watching
record is covered by a watching entry. -/
structure Accounted (tel : Telemetry) (d : Daemon) : Prop where
  supported : ∀ (k : RdcFieldKey) (r : FieldSettings), d.fieldsToWatch[k]? = some r →
    tel.supports k.2 = true
  covered : (∃ e f, Watching d e f ∧ ¬ d.groupSettings.Live e)
    ∨ ∀ (k : RdcFieldKey) (r : FieldSettings), d.fieldsToWatch[k]? = some r →
      r.isWatching = true → ∃ e f, Watching d e f ∧ d.groupSettings.Covers e k

/-- An unwatch is harmless when the entry is off already or still has its groups. -/
def Harmless (d : Daemon) (e : RdcFieldGroupKey) : Prop :=
  ∀ f, Watching d e f → d.groupSettings.Live e

section Steps

variable {tel : Telemetry} {d : Daemon}

/-- A change that keeps the groups and the watching entries, and turns no record on. -/
theorem Accounted.of_sameWatching {d' : Daemon} (h : Accounted tel d)
    (hg : d'.groupSettings = d.groupSettings) (hw : ∀ e f, Watching d' e f ↔ Watching d e f)
    (hr : ∀ (k : RdcFieldKey) (r' : FieldSettings), d'.fieldsToWatch[k]? = some r' →
      ∃ r, d.fieldsToWatch[k]? = some r ∧ r.isWatching = r'.isWatching) :
    Accounted tel d' := by
  refine ⟨?_, ?_⟩
  · intro k r' hr'
    obtain ⟨r, hget, _⟩ := hr k r' hr'
    exact h.supported k r hget
  · simp only [hg, hw]
    rcases h.covered with hdead | hcov
    · exact Or.inl hdead
    · right
      intro k r' hr' hon
      obtain ⟨r, hget, heq⟩ := hr k r' hr'
      exact hcov k r hget (heq.trans hon)

theorem Accounted.watch (h : Accounted tel d) (g fg freq : Nat) (age : ℚ) (samples : Nat) :
    Accounted tel (d.rdcFieldWatch tel g fg freq age samples).2 := by
  rcases rdcFieldWatch_cases tel d g fg freq age samples with
    ⟨f, hw, heq⟩ | ⟨hno, _, heq⟩ | ⟨hno, hl, F, calls, hF, heq⟩ <;> rw [heq]
  · exact h
  · exact h.of_sameWatching rfl (watching_erase hno) fun _ r hr => ⟨r, hr, rfl⟩
  have hwat := watching_entered (f := watchSettings freq age samples) rfl hno F calls
  refine ⟨?_, ?_⟩
  · intro k r hr
    by_cases hk : tel.supports k.2 = true ∧ d.groupSettings.Covers (g, fg) k
    · exact hk.1
    · have hr' : F[k]? = some r := hr
      rw [(hF k).2 hk] at hr'
      exact h.supported k r hr'
  · rcases h.covered with ⟨e, f, hw, hdead⟩ | hcov
    · exact Or.inl ⟨e, f, (hwat e f).mpr (Or.inr hw), hdead⟩
    · right
      intro k r hr hon
      by_cases hk : tel.supports k.2 = true ∧ d.groupSettings.Covers (g, fg) k
      · exact ⟨_, _, (hwat _ _).mpr (Or.inl ⟨rfl, rfl⟩), hk.2⟩
      · have hr' : F[k]? = some r := hr
        rw [(hF k).2 hk] at hr'
        obtain ⟨e, f, hw, hc⟩ := hcov k r hr' hon
        exact ⟨e, f, (hwat e f).mpr (Or.inr hw), hc⟩

/-- A record that is still on after a successful unwatch was on before. If the entry covered its
key, somebody else asks for it. -/
theorem Accounted.unwatched (h : Accounted tel d) {e : RdcFieldGroupKey} {entry : FieldSettings}
    {now : Nat} {F : KeyMap FieldSettings} (hl : d.groupSettings.Live e) (ho : OthersLive d e)
    (hF : UnwatchedRecord d e (flaggedOff d e entry now).watchTable F) (calls : List ModuleCall) :
    Accounted tel { flaggedOff d e entry now with fieldsToWatch := F, moduleCalls := calls } := by
  -- an unwatch makes no record
  have hold : ∀ (k : RdcFieldKey) (r : FieldSettings), F[k]? = some r →
      ∃ r₀, d.fieldsToWatch[k]? = some r₀ := by
    intro k r hr
    by_cases hk : isNotificationEvent k.2 = false ∧ d.groupSettings.Covers e k
    · obtain ⟨least, _, hget⟩ := (hF k).1 hk
      rw [hget] at hr
      obtain ⟨r₀, h0, _⟩ := Option.map_eq_some_iff.mp hr
      exact ⟨r₀, h0⟩
    · rw [(hF k).2 hk] at hr
      exact ⟨r, hr⟩
  refine ⟨?_, ?_⟩
  · intro k r hr
    obtain ⟨r₀, h0⟩ := hold k r hr
    exact h.supported k r₀ h0
  · -- a dead watcher would have made the unwatch fail, the entry itself being alive
    rcases h.covered with ⟨e', f, hw, hdead⟩ | hcov
    · by_cases he : e' = e
      · rw [he] at hdead
        exact absurd hl hdead
      · exact absurd (ho e' f he hw) hdead
    right
    intro k r hr hon
    have hr' : F[k]? = some r := hr
    obtain ⟨r₀, h0⟩ := hold k r hr'
    have hn := Telemetry.not_notification_of_supports (h.supported k r₀ h0)
    by_cases hc : d.groupSettings.Covers e k
    · obtain ⟨least, hleast, hget⟩ := (hF k).1 ⟨hn, hc⟩
      rw [hget, h0] at hr'
      cases least with
      | none =>
        rw [← Option.some.inj hr'] at hon
        exact absurd hon (by simp [unwatchSettings])
      | some v =>
        obtain ⟨e', f, hne, hw, hce, _⟩ := mem_demand_flaggedOff.mp hleast.1
        exact ⟨e', f, watching_flaggedOff.mpr ⟨hne, hw⟩, hce⟩
    · rw [(hF k).2 fun hk => hc hk.2] at hr'
      obtain ⟨e', f, hw, hce⟩ := hcov k r hr' hon
      refine ⟨e', f, watching_flaggedOff.mpr ⟨?_, hw⟩, hce⟩
      intro he
      rw [he] at hce
      exact hc hce

theorem Accounted.unwatch (h : Accounted tel d) (g fg now : Nat) (hh : Harmless d (g, fg)) :
    Accounted tel (d.rdcFieldUnwatch g fg now).2 := by
  rcases rdcFieldUnwatch_cases d g fg now with
    ⟨_, heq⟩ | ⟨entry, hentry, ⟨hno, heq⟩ | ⟨hl, ho, F, calls, hF, heq⟩⟩ <;> rw [heq]
  · exact h
  · by_cases hw : ∃ f, Watching d (g, fg) f
    · -- the entry has its groups, so it is another one that made the call fail
      obtain ⟨f, hw⟩ := hw
      have hothers : ¬ OthersLive d (g, fg) := fun ho => hno ⟨hh f hw, ho⟩
      unfold OthersLive at hothers
      push Not at hothers
      obtain ⟨e', f', hne, hw', hdead⟩ := hothers
      exact ⟨h.supported, Or.inl ⟨e', f', watching_flaggedOff.mpr ⟨hne, hw'⟩, hdead⟩⟩
    · refine h.of_sameWatching rfl ?_ fun _ r hr => ⟨r, hr, rfl⟩
      intro e f
      rw [watching_flaggedOff]
      refine ⟨fun hw' => hw'.2, fun hw' => ⟨?_, hw'⟩⟩
      intro he
      rw [he] at hw'
      exact hw ⟨f, hw'⟩
  · exact h.unwatched hl ho hF calls

theorem Accounted.deliver (h : Accounted tel d) (time gpu : Nat) (value : RdcFieldValue) :
    Accounted tel (d.deliver time gpu value) := by
  refine h.of_sameWatching rfl (fun _ _ => Iff.rfl) ?_
  intro k r' hr'
  rcases deliver_fieldsToWatch d time gpu value k with heq | ⟨r, hr, heq⟩
  · exact ⟨r', by rw [← heq, hr'], rfl⟩
  · rw [heq] at hr'
    exact ⟨r, hr, by rw [← Option.some.inj hr']⟩

theorem Accounted.cleanUp (h : Accounted tel d) (clock : CleanUpClock) :
    Accounted tel (d.cleanUp clock) := by
  refine h.of_sameWatching rfl (fun _ _ => watching_cleanUp) ?_
  intro k r' hr'
  rcases cleanUp_fieldsToWatch d clock k with heq | ⟨_, _, _, heq⟩
  · exact ⟨r', by rw [← heq, hr'], rfl⟩
  · rw [heq] at hr'
    simp at hr'

end Steps

/-! ## Runs -/

theorem accounted_tableInv (tel : Telemetry) : TableInv tel Harmless (Accounted tel) where
  frame h hs := by
    obtain ⟨hg, hw, hf⟩ := hs
    refine h.of_sameWatching hg (fun e f => ?_) fun k r hr => ⟨r, by rw [← hf]; exact hr, rfl⟩
    unfold Watching
    rw [hw]
  watch g fg freq age samples h := h.watch g fg freq age samples
  unwatch g fg now hh h := h.unwatch g fg now hh
  deliver time gpu value h := h.deliver time gpu value
  cleanUp clock h := h.cleanUp clock
  harmless_frame hh hs := by
    obtain ⟨hg, hw, _⟩ := hs
    intro f hwf
    unfold Watching at hwf
    rw [hw] at hwf
    rw [hg]
    exact hh f hwf
  harmless_unwatch g fg now hh := by
    intro f hwf
    rw [(rdcFieldUnwatch_sameStores ..).1]
    exact hh f (watching_unwatch.mp hwf).2

/-- What a call must not do: unwatch a watching entry one of whose groups is gone, or issue again an
id that such an entry still names. -/
def Careful (d : Daemon) (op : Op) : Prop :=
  (∀ e, Unwatches d e op → Harmless d e)
    ∧ ∀ e f, Watching d e f → ¬ d.groupSettings.Live e → ¬ Reissues d e op

theorem accounted_exec {tel : Telemetry} {d : Daemon} {op : Op} (h : Accounted tel d)
    (hc : Careful d op) : Accounted tel (d.exec tel op).2 := by
  refine (accounted_tableInv tel).exec h hc.1 ?_
  intro hg
  obtain ⟨gs, hgs⟩ := exec_groupCall tel d hg
  have hwat : ∀ e f, Watching (d.exec tel op).2 e f ↔ Watching d e f := by
    intro e f
    rw [hgs]
    exact Iff.rfl
  have hF : (d.exec tel op).2.fieldsToWatch = d.fieldsToWatch := by rw [hgs]
  refine ⟨by rw [hF]; exact h.supported, ?_⟩
  simp only [hwat, hF]
  rcases h.covered with ⟨e, f, hw, hdead⟩ | hcov
  · exact Or.inl ⟨e, f, hw, not_live_exec hdead (hc.2 e f hw hdead)⟩
  · by_cases hdead : ∃ e f, Watching d e f ∧ ¬ (d.exec tel op).2.groupSettings.Live e
    · exact Or.inl hdead
    · right
      intro k r hr hon
      obtain ⟨e, f, hw, hce⟩ := hcov k r hr hon
      have hl : (d.exec tel op).2.groupSettings.Live e := by
        by_contra hl
        exact hdead ⟨e, f, hw, hl⟩
      exact ⟨e, f, hw, covers_exec_of_live hce hl⟩

theorem accounted_init (tel : Telemetry) : Accounted tel init := by
  have hnone : ∀ (k : RdcFieldKey) (r : FieldSettings), ¬ init.fieldsToWatch[k]? = some r := by
    intro k r hr
    exact absurd hr (by simp [init])
  exact ⟨fun k r hr => absurd hr (hnone k r), Or.inr fun k r hr => absurd hr (hnone k r)⟩

/-- No entry of the watch table is watching. -/
def Idle (d : Daemon) : Prop := ∀ e f, ¬ Watching d e f

/-- No field is polled. -/
def NothingPolled (d : Daemon) : Prop :=
  (∀ (k : RdcFieldKey) (r : FieldSettings), d.fieldsToWatch[k]? = some r → r.isWatching = false)
    ∧ ∀ now, d.fieldsToFetch now = []

/-- **No orphan polling, for careful runs.** -/
theorem nothingPolled_of_idle (tel : Telemetry) (ops : List Op)
    (hc : Along (exec tel) Careful init ops) (hidle : Idle (run (exec tel) init ops)) :
    NothingPolled (run (exec tel) init ops) := by
  have hinv : Accounted tel (run (exec tel) init ops) :=
    Along.invariant (fun _ _ h hc => accounted_exec h hc) (accounted_init tel) hc
  generalize run (exec tel) init ops = d at hinv hidle ⊢
  have hoff : ∀ (k : RdcFieldKey) (r : FieldSettings), d.fieldsToWatch[k]? = some r →
      r.isWatching = false := by
    intro k r hr
    rcases hinv.covered with ⟨e, f, hw, _⟩ | hcov
    · exact absurd hw (hidle e f)
    · cases hon : r.isWatching with
      | false => rfl
      | true =>
        obtain ⟨e, f, hw, _⟩ := hcov k r hr hon
        exact absurd hw (hidle e f)
  refine ⟨hoff, fun now => ?_⟩
  unfold fieldsToFetch
  rw [List.map_eq_nil_iff, List.filter_eq_nil_iff]
  intro p hp
  have hget := Std.ExtTreeMap.mem_toList_iff_getElem?_eq_some.mp hp
  rw [hoff p.1 p.2 hget]
  simp

/-- A group is watched and unwatched again. -/
def watchedAndUnwatched : List Op :=
  [.groupGpuCreate [97], .groupGpuAdd 1 0, .fieldWatch 1 0 1000000 0 10, .fieldUnwatch 1 0 7]

theorem idle_of_toList {d : Daemon} (h : ∀ p ∈ d.watchTable.toList, p.2.isWatching = false) :
    Idle d := by
  intro e f hw
  have hoff := h (e, f) (Std.ExtTreeMap.mem_toList_iff_getElem?_eq_some.mpr hw.1)
  rw [hw.2] at hoff
  simp at hoff

theorem careful_of_live {d : Daemon} (op : Op)
    (h : ∀ p ∈ d.watchTable.toList, d.groupSettings.Live p.1) : Careful d op := by
  have hl : ∀ e f, Watching d e f → d.groupSettings.Live e := fun e f hw =>
    h (e, f) (Std.ExtTreeMap.mem_toList_iff_getElem?_eq_some.mpr hw.1)
  exact ⟨fun e _ f hw => hl e f hw, fun e f hw hdead => absurd (hl e f hw) hdead⟩

theorem nothingPolled_watchedAndUnwatched :
    Idle (run (exec Telemetry.smiOnly) init watchedAndUnwatched)
    ∧ NothingPolled (run (exec Telemetry.smiOnly) init watchedAndUnwatched) := by
  have hcareful : Along (exec Telemetry.smiOnly) Careful init watchedAndUnwatched :=
    ⟨careful_of_live _ (by decide +kernel), careful_of_live _ (by decide +kernel),
      careful_of_live _ (by decide +kernel), careful_of_live _ (by decide +kernel), trivial⟩
  have hidle : Idle (run (exec Telemetry.smiOnly) init watchedAndUnwatched) :=
    idle_of_toList (by decide +kernel)
  exact ⟨hidle, nothingPolled_of_idle Telemetry.smiOnly watchedAndUnwatched hcareful hidle⟩

/-- The group is destroyed before the unwatch. -/
def destroyedUnderWatch : List Op :=
  [.groupGpuCreate [97], .groupGpuAdd 1 0, .fieldWatch 1 0 1000000 0 10, .groupGpuDestroy 1,
    .fieldUnwatch 1 0 7]

theorem polled_destroyedUnderWatch :
    Idle (run (exec Telemetry.smiOnly) init destroyedUnderWatch)
    ∧ ¬ NothingPolled (run (exec Telemetry.smiOnly) init destroyedUnderWatch) := by
  refine ⟨idle_of_toList (by decide +kernel), ?_⟩
  intro h
  have hfetch : (run (exec Telemetry.smiOnly) init destroyedUnderWatch).fieldsToFetch 5000
      ≠ [] := by decide +kernel
  exact hfetch (h.2 5000)

/-! ## One unwatch -/

/-- The call succeeds and turns off every supported field of the entry that nobody else covers. -/
def UnwatchWorks (tel : Telemetry) (d : Daemon) (g fg now : Nat) : Prop :=
  (d.rdcFieldUnwatch g fg now).1 = .ok
    ∧ ∀ k : RdcFieldKey, tel.supports k.2 = true → d.groupSettings.Covers (g, fg) k →
      (∀ e f, e ≠ (g, fg) → Watching d e f → ¬ d.groupSettings.Covers e k) →
      ∀ r, (d.rdcFieldUnwatch g fg now).2.fieldsToWatch[k]? = some r → r.isWatching = false

/-- **Whose groups an unwatch depends on.** On a watching entry that has its own groups, the unwatch
works exactly when every other watching entry has its groups as well. -/
theorem unwatchWorks_iff_othersLive (tel : Telemetry) (d : Daemon) (g fg now : Nat)
    (f : FieldSettings) (hw : Watching d (g, fg) f) (hl : d.groupSettings.Live (g, fg)) :
    UnwatchWorks tel d g fg now ↔ OthersLive d (g, fg) := by
  rcases rdcFieldUnwatch_cases d g fg now with
    ⟨hnone, heq⟩ | ⟨entry, _, ⟨hno, heq⟩ | ⟨_, ho, F, calls, hF, heq⟩⟩
  · have h1 := hw.1
    rw [hnone] at h1
    simp at h1
  · refine ⟨fun h => ?_, fun ho => absurd ⟨hl, ho⟩ hno⟩
    have hst := h.1
    rw [heq] at hst
    simp at hst
  · refine ⟨fun _ => ho, fun _ => ⟨by rw [heq], ?_⟩⟩
    intro k hk hc hothers r hr
    rw [heq] at hr
    have hr' : F[k]? = some r := hr
    obtain ⟨least, hleast, hget⟩ := (hF k).1 ⟨Telemetry.not_notification_of_supports hk, hc⟩
    rw [hget] at hr'
    obtain ⟨r₀, _, hr₀⟩ := Option.map_eq_some_iff.mp hr'
    cases least with
    | none => rw [← hr₀]; rfl
    | some v =>
      obtain ⟨e, f', hne, hw', hce, _⟩ := mem_demand_flaggedOff.mp hleast.1
      exact absurd hce (hothers e f' hne hw')

/-- Two groups without a GPU in common, both watched. -/
def disjointWatches : List Op :=
  [.groupGpuCreate [97], .groupGpuAdd 1 0, .groupGpuCreate [98], .groupGpuAdd 2 1,
    .fieldWatch 1 0 1000000 0 10, .fieldWatch 2 0 1000000 0 10]

theorem unwatchWorks_disjointWatches :
    OthersLive (run (exec Telemetry.smiOnly) init disjointWatches) (1, 0)
    ∧ UnwatchWorks Telemetry.smiOnly (run (exec Telemetry.smiOnly) init disjointWatches) 1 0 7 := by
  have hall : ∀ p ∈ (run (exec Telemetry.smiOnly) init disjointWatches).watchTable.toList,
      (run (exec Telemetry.smiOnly) init disjointWatches).groupSettings.Live p.1 := by
    decide +kernel
  have hothers : OthersLive (run (exec Telemetry.smiOnly) init disjointWatches) (1, 0) :=
    fun e f _ hw => hall (e, f) (Std.ExtTreeMap.mem_toList_iff_getElem?_eq_some.mpr hw.1)
  have hentry : Watching (run (exec Telemetry.smiOnly) init disjointWatches) (1, 0)
      (watchSettings 1000000 0 10) := ⟨by decide +kernel, rfl⟩
  exact ⟨hothers, (unwatchWorks_iff_othersLive Telemetry.smiOnly _ 1 0 7 _ hentry
    (by decide +kernel)).mpr hothers⟩

/-- The second client's group is destroyed. -/
def foreignDestroyed : List Op := disjointWatches ++ [.groupGpuDestroy 2]

theorem not_unwatchWorks_foreignDestroyed :
    Reachable Telemetry.smiOnly (run (exec Telemetry.smiOnly) init foreignDestroyed)
    ∧ Watching (run (exec Telemetry.smiOnly) init foreignDestroyed) (1, 0)
        (watchSettings 1000000 0 10)
    ∧ (run (exec Telemetry.smiOnly) init foreignDestroyed).groupSettings.Live (1, 0)
    ∧ ¬ UnwatchWorks Telemetry.smiOnly (run (exec Telemetry.smiOnly) init foreignDestroyed)
        1 0 7 := by
  refine ⟨⟨_, rfl⟩, ⟨by decide +kernel, rfl⟩, by decide +kernel, ?_⟩
  intro h
  have hst : ((run (exec Telemetry.smiOnly) init foreignDestroyed).rdcFieldUnwatch 1 0 7).1
      = .notFound := by decide +kernel
  have hok := h.1
  rw [hst] at hok
  simp at hok

end Rdc.Proof
