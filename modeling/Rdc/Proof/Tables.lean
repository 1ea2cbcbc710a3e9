import Rdc.System

/-!
# What each table operation does

One statement for each function of the watch table, pointwise in the key: what `rdc_field_watch`,
`rdc_field_unwatch`, a delivery and a clean-up leave in `watch_table_` and `fields_to_watch_`, in
which cases, with which status. Everything later about the tables is derived from these.
-/

namespace Rdc.Proof

open Std Daemon OrdMap

/-! ## Who asks for a key -/

/-- Entry `e` is watching, with settings `f`. -/
def Watching (d : Daemon) (e : RdcFieldGroupKey) (f : FieldSettings) : Prop :=
  d.watchTable[e]? = some f ∧ f.isWatching = true

/-- Every watching entry other than `e` still has both its groups. -/
def OthersLive (d : Daemon) (e : RdcFieldGroupKey) : Prop :=
  ∀ e' f, e' ≠ e → Watching d e' f → d.groupSettings.Live e'

/-- The frequencies the watching entries that cover `k` ask for. -/
def Demand (gs : GroupSettings) (table : KeyMap FieldSettings) (k : RdcFieldKey) : Set Nat :=
  {v | ∃ e f, table[e]? = some f ∧ f.isWatching = true ∧ gs.Covers e k ∧ f.updateFreq = v}

/-! ## Watching -/

variable {f : FieldSettings} {e : RdcFieldGroupKey}

theorem mergeSettings_idem (hf : f.isWatching = true) (o : Option FieldSettings) :
    mergeSettings f (mergeSettings f o) = mergeSettings f o := by
  cases o with
  | none =>
    cases f
    simp_all [mergeSettings]
  | some t => cases ht : t.isWatching <;> simp [mergeSettings, ht]

/-- The record of a key after a successful watch on `e`. -/
def WatchedRecord (tel : Telemetry) (d : Daemon) (e : RdcFieldGroupKey) (f : FieldSettings)
    (F : KeyMap FieldSettings) : Prop :=
  ∀ k, (tel.supports k.2 = true ∧ d.groupSettings.Covers e k →
      F[k]? = mergeSettings f d.fieldsToWatch[k]?)
    ∧ (¬ (tel.supports k.2 = true ∧ d.groupSettings.Covers e k) → F[k]? = d.fieldsToWatch[k]?)

/-- `watchNew` fails exactly when a group is gone, and leaves the daemon alone then. -/
theorem watchNew_cases (tel : Telemetry) (d : Daemon) (e : RdcFieldGroupKey)
    (hf : f.isWatching = true) :
    (¬ d.groupSettings.Live e ∧ watchNew tel d e f = (.notFound, d))
    ∨ (d.groupSettings.Live e ∧ ∃ F calls, WatchedRecord tel d e f F ∧ watchNew tel d e f =
        (.ok, { d with
          fieldsToWatch := F
          watchTable := d.watchTable.insertIfNew e f
          moduleCalls := calls })) := by
  by_cases hl : d.groupSettings.Live e
  · right
    obtain ⟨ks, hks, hmem⟩ := GroupSettings.getFieldsFromGroup_ok hl
    refine ⟨hl, ?_⟩
    unfold watchNew
    rw [hks]
    refine ⟨_, _, ?_, rfl⟩
    intro k
    have hiff : k ∈ ks.filter (fun key => tel.supports key.2)
        ↔ tel.supports k.2 = true ∧ d.groupSettings.Covers e k := by
      rw [List.mem_filter, hmem k]
      exact And.comm
    rw [getElem?_foldl_alter_idem (mergeSettings_idem hf)]
    exact ⟨fun h => if_pos (hiff.mpr h), fun h => if_neg (fun h' => h (hiff.mp h'))⟩
  · left
    refine ⟨hl, ?_⟩
    unfold watchNew
    rw [GroupSettings.getFieldsFromGroup_error hl]

/-- The daemon after a successful watch on `e`. -/
def entered (d : Daemon) (e : RdcFieldGroupKey) (f : FieldSettings) (F : KeyMap FieldSettings)
    (calls : List ModuleCall) : Daemon :=
  { d with
    fieldsToWatch := F
    watchTable := d.watchTable.insert e f
    moduleCalls := calls }

/-- **`rdc_field_watch`.** A watching entry is a conflict; otherwise a lapsed entry goes, and the
watch succeeds exactly when both groups exist. -/
theorem rdcFieldWatch_cases (tel : Telemetry) (d : Daemon) (g fg freq : Nat) (age : ℚ)
    (samples : Nat) :
    (∃ f, Watching d (g, fg) f ∧ d.rdcFieldWatch tel g fg freq age samples = (.conflict, d))
    ∨ ((∀ f, ¬ Watching d (g, fg) f) ∧ ¬ d.groupSettings.Live (g, fg)
        ∧ d.rdcFieldWatch tel g fg freq age samples =
          (.notFound, { d with watchTable := d.watchTable.erase (g, fg) }))
    ∨ ((∀ f, ¬ Watching d (g, fg) f) ∧ d.groupSettings.Live (g, fg)
        ∧ ∃ F calls, WatchedRecord tel d (g, fg) (watchSettings freq age samples) F
          ∧ d.rdcFieldWatch tel g fg freq age samples =
            (.ok, entered d (g, fg) (watchSettings freq age samples) F calls)) := by
  have hf : (watchSettings freq age samples).isWatching = true := rfl
  cases hq : d.watchTable[(g, fg)]? with
  | none =>
    have hno : ∀ f, ¬ Watching d (g, fg) f := by
      intro f hw
      have := hw.1
      rw [hq] at this
      simp at this
    have hrun : d.rdcFieldWatch tel g fg freq age samples
        = watchNew tel d (g, fg) (watchSettings freq age samples) := by
      unfold rdcFieldWatch
      simp only [hq]
    rw [hrun, erase_of_getElem?_none hq]
    rcases watchNew_cases tel d (g, fg) hf with ⟨hl, heq⟩ | ⟨hl, F, calls, hF, heq⟩
    · exact Or.inr (Or.inl ⟨hno, hl, heq⟩)
    · rw [insertIfNew_of_getElem?_none hq] at heq
      exact Or.inr (Or.inr ⟨hno, hl, F, calls, hF, heq⟩)
  | some entry =>
    cases hw : entry.isWatching with
    | true =>
      refine Or.inl ⟨entry, ⟨hq, hw⟩, ?_⟩
      unfold rdcFieldWatch
      simp only [hq, hw, if_true]
    -- an entry flagged off is erased first, and stays erased if a group is gone
    | false =>
      have hno : ∀ f, ¬ Watching d (g, fg) f := by
        intro f hwf
        have h1 := hwf.1
        rw [hq] at h1
        have h2 := hwf.2
        rw [← Option.some.inj h1, hw] at h2
        simp at h2
      have hrun : d.rdcFieldWatch tel g fg freq age samples
          = watchNew tel { d with watchTable := d.watchTable.erase (g, fg) } (g, fg)
            (watchSettings freq age samples) := by
        unfold rdcFieldWatch
        simp only [hq, hw]
        rfl
      rw [hrun]
      rcases watchNew_cases tel { d with watchTable := d.watchTable.erase (g, fg) } (g, fg) hf
        with ⟨hl, heq⟩ | ⟨hl, F, calls, hF, heq⟩
      · exact Or.inr (Or.inl ⟨hno, hl, heq⟩)
      · simp only [insertIfNew_erase] at heq
        exact Or.inr (Or.inr ⟨hno, hl, F, calls, hF, heq⟩)

/-! ## Unwatching -/

/-- The walk over the watch table fails when some watching entry lost a group. -/
theorem updateFrequencies_error {gs : GroupSettings}
    {table : List (RdcFieldGroupKey × FieldSettings)} {frequencies : KeyMap Nat}
    (h : ∃ p ∈ table, p.2.isWatching = true ∧ ¬ gs.Live p.1) :
    updateFrequencies gs table frequencies = .error .notFound := by
  induction table generalizing frequencies with
  | nil =>
    obtain ⟨p, hp, _⟩ := h
    simp at hp
  | cons q rest ih =>
    obtain ⟨p, hp, hpw, hpl⟩ := h
    rw [updateFrequencies]
    split
    · rename_i hq
      refine ih ⟨p, ?_, hpw, hpl⟩
      rcases List.mem_cons.mp hp with h' | h'
      · subst h'; rw [hq] at hpw; simp at hpw
      · exact h'
    · by_cases hql : gs.Live q.1
      · obtain ⟨ks, hks, _⟩ := GroupSettings.getFieldsFromGroup_ok hql
        rw [hks]
        refine ih ⟨p, ?_, hpw, hpl⟩
        rcases List.mem_cons.mp hp with h' | h'
        · subst h'; exact absurd hql hpl
        · exact h'
      · rw [GroupSettings.getFieldsFromGroup_error hql]

theorem updateFrequencies_ok {gs : GroupSettings}
    (table : List (RdcFieldGroupKey × FieldSettings)) (frequencies : KeyMap Nat)
    (h : ∀ p ∈ table, p.2.isWatching = true → gs.Live p.1) :
    ∃ result, updateFrequencies gs table frequencies = .ok result
      ∧ ∀ k S, LeastOf S frequencies[k]? → LeastOf
          {v | v ∈ S ∨ ∃ p ∈ table, p.2.isWatching = true ∧ gs.Covers p.1 k ∧ p.2.updateFreq = v}
          result[k]? := by
  -- `S` is what the keys of the entries already passed have asked for
  induction table generalizing frequencies with
  | nil => exact ⟨frequencies, rfl, fun k S hS => by simpa using hS⟩
  | cons q rest ih =>
    have hrest : ∀ p ∈ rest, p.2.isWatching = true → gs.Live p.1 :=
      fun p hp => h p (List.mem_cons_of_mem _ hp)
    rw [updateFrequencies]
    split
    · rename_i hq
      obtain ⟨result, heq, hleast⟩ := ih frequencies hrest
      refine ⟨result, heq, fun k S hS => ?_⟩
      have hset : {v | v ∈ S ∨ ∃ p ∈ q :: rest,
            p.2.isWatching = true ∧ gs.Covers p.1 k ∧ p.2.updateFreq = v}
          = {v | v ∈ S ∨ ∃ p ∈ rest,
            p.2.isWatching = true ∧ gs.Covers p.1 k ∧ p.2.updateFreq = v} := by
        ext v
        simp [hq]
      rw [hset]
      exact hleast k S hS
    · rename_i hq
      have hqw : q.2.isWatching = true := by simpa using hq
      obtain ⟨ks, hks, hmem⟩ :=
        GroupSettings.getFieldsFromGroup_ok (h q (List.mem_cons_self ..) hqw)
      rw [hks]
      obtain ⟨result, heq, hleast⟩ := ih (keepMin q.2.updateFreq ks frequencies) hrest
      refine ⟨result, heq, fun k S hS => ?_⟩
      have hset : {v | v ∈ S ∨ ∃ p ∈ q :: rest,
            p.2.isWatching = true ∧ gs.Covers p.1 k ∧ p.2.updateFreq = v}
          = {v | v ∈ {w | w ∈ S ∨ (k ∈ ks ∧ w = q.2.updateFreq)} ∨ ∃ p ∈ rest,
            p.2.isWatching = true ∧ gs.Covers p.1 k ∧ p.2.updateFreq = v} := by
        ext v
        simp [hqw, hmem k, or_assoc, eq_comm (a := v)]
      rw [hset]
      exact hleast k _ (leastOf_keepMin hS _ ks)

theorem unwatchSettings_idem (o : Option Nat) (f : FieldSettings) :
    unwatchSettings o (unwatchSettings o f) = unwatchSettings o f := by
  cases o <;> rfl

theorem unwatchField_fieldsToWatch (frequencies : KeyMap Nat) (acc : UnwatchLoop)
    (k a : RdcFieldKey) :
    (unwatchField frequencies acc k).fieldsToWatch[a]? =
      if k = a ∧ isNotificationEvent a.2 = false then
        acc.fieldsToWatch[a]?.map (unwatchSettings frequencies[a]?)
      else acc.fieldsToWatch[a]? := by
  unfold unwatchField
  by_cases hka : k = a
  · subst hka
    split
    · rename_i hn
      simp [hn]
    · rename_i hn
      split
      · rename_i hk
        simp [(not_mem_iff_getElem? acc.fieldsToWatch k).mp hk]
      · simp [hn]
  · split
    · simp [hka]
    · split
      · simp [hka]
      · simp [hka, getElem?_modify']

/-- The last loop of the unwatch updates the records of its keys, events apart. -/
theorem unwatchLoop_fieldsToWatch (frequencies : KeyMap Nat) (ks : List RdcFieldKey)
    (acc : UnwatchLoop) (a : RdcFieldKey) :
    (ks.foldl (unwatchField frequencies) acc).fieldsToWatch[a]? =
      if a ∈ ks ∧ isNotificationEvent a.2 = false then
        acc.fieldsToWatch[a]?.map (unwatchSettings frequencies[a]?)
      else acc.fieldsToWatch[a]? := by
  induction ks generalizing acc with
  | nil => simp
  | cons k ks ih =>
    rw [List.foldl_cons, ih, unwatchField_fieldsToWatch]
    by_cases hka : k = a
    · subst hka
      by_cases hm : k ∈ ks <;> by_cases hn : isNotificationEvent k.2 = false <;>
        simp [hm, hn, Function.comp_def, unwatchSettings_idem]
    · simp [hka, Ne.symm hka]

/-- The watch table with one entry flagged off. -/
def flaggedOff (d : Daemon) (e : RdcFieldGroupKey) (entry : FieldSettings) (now : Nat) : Daemon :=
  { d with
    watchTable := d.watchTable.insert e { entry with isWatching := false, lastUpdateTime := now } }

theorem flaggedOff_getElem? (d : Daemon) (e e' : RdcFieldGroupKey) (entry : FieldSettings)
    (now : Nat) :
    (flaggedOff d e entry now).watchTable[e']? =
      if e = e' then some { entry with isWatching := false, lastUpdateTime := now }
      else d.watchTable[e']? := getElem?_insert' ..

/-- Flagging an entry off leaves exactly the other watching entries. -/
theorem watching_flaggedOff {d : Daemon} {e e' : RdcFieldGroupKey} {entry f : FieldSettings}
    {now : Nat} : Watching (flaggedOff d e entry now) e' f ↔ e' ≠ e ∧ Watching d e' f := by
  unfold Watching
  rw [flaggedOff_getElem?]
  by_cases h : e = e'
  · subst h
    simp only [if_true, Option.some.injEq, ne_eq, not_true_eq_false, false_and, iff_false]
    intro h'
    have h1 := h'.2
    rw [← h'.1] at h1
    simp at h1
  · simp [h, Ne.symm h]

/-- The record of a key after a successful unwatch of `e`, when `table` is what is left. -/
def UnwatchedRecord (d : Daemon) (e : RdcFieldGroupKey) (table F : KeyMap FieldSettings) : Prop :=
  ∀ k, (isNotificationEvent k.2 = false ∧ d.groupSettings.Covers e k →
      ∃ least, LeastOf (Demand d.groupSettings table k) least
        ∧ F[k]? = d.fieldsToWatch[k]?.map (unwatchSettings least))
    ∧ (¬ (isNotificationEvent k.2 = false ∧ d.groupSettings.Covers e k) →
      F[k]? = d.fieldsToWatch[k]?)

/-- `update_field_in_table_when_unwatch` fails when a group of the entry, or of any watching entry,
is gone; otherwise it recomputes the records of its own keys. -/
theorem updateFieldInTableWhenUnwatch_cases (d : Daemon) (e : RdcFieldGroupKey)
    (hoff : ∀ f, ¬ Watching d e f) :
    (¬ (d.groupSettings.Live e ∧ OthersLive d e)
        ∧ d.updateFieldInTableWhenUnwatch e = (.notFound, d))
    ∨ (d.groupSettings.Live e ∧ OthersLive d e
        ∧ ∃ F calls, UnwatchedRecord d e d.watchTable F
          ∧ d.updateFieldInTableWhenUnwatch e =
            (.ok, { d with fieldsToWatch := F, moduleCalls := calls })) := by
  by_cases hl : d.groupSettings.Live e
  · obtain ⟨ks, hks, hmem⟩ := GroupSettings.getFieldsFromGroup_ok hl
    by_cases ho : OthersLive d e
    · right
      refine ⟨hl, ho, ?_⟩
      -- the entry itself is flagged off by now, so the table has only the other watchers
      have htable : ∀ p ∈ d.watchTable.toList, p.2.isWatching = true →
          d.groupSettings.Live p.1 := by
        intro p hp hpw
        have hget := ExtTreeMap.mem_toList_iff_getElem?_eq_some.mp hp
        refine ho p.1 p.2 ?_ ⟨hget, hpw⟩
        intro he
        exact hoff p.2 ⟨he ▸ hget, hpw⟩
      obtain ⟨frequencies, hfreq, hleast⟩ := updateFrequencies_ok d.watchTable.toList ∅ htable
      unfold updateFieldInTableWhenUnwatch
      rw [hks]
      dsimp only
      rw [hfreq]
      refine ⟨_, _, ?_, rfl⟩
      intro k
      rw [unwatchLoop_fieldsToWatch]
      refine ⟨fun hk => ⟨frequencies[k]?, ?_, if_pos ⟨(hmem k).mpr hk.2, hk.1⟩⟩,
        fun hk => if_neg fun h => hk ⟨h.2, (hmem k).mp h.1⟩⟩
      · have h0 := hleast k ∅ (by rw [ExtTreeMap.getElem?_empty]; rfl)
        have hset : Demand d.groupSettings d.watchTable k = {v | v ∈ (∅ : Set Nat)
            ∨ ∃ p ∈ d.watchTable.toList,
              p.2.isWatching = true ∧ d.groupSettings.Covers p.1 k ∧ p.2.updateFreq = v} := by
          ext v
          simp [Demand, ExtTreeMap.mem_toList_iff_getElem?_eq_some]
        rw [hset]
        exact h0
    · left
      refine ⟨fun h => ho h.2, ?_⟩
      have hbad : ∃ p ∈ d.watchTable.toList, p.2.isWatching = true
          ∧ ¬ d.groupSettings.Live p.1 := by
        unfold OthersLive at ho
        push Not at ho
        obtain ⟨e', f, _, hw, hnl⟩ := ho
        exact ⟨(e', f), ExtTreeMap.mem_toList_iff_getElem?_eq_some.mpr hw.1, hw.2, hnl⟩
      unfold updateFieldInTableWhenUnwatch
      rw [hks]
      dsimp only
      rw [updateFrequencies_error hbad]
  · left
    refine ⟨fun h => hl h.1, ?_⟩
    unfold updateFieldInTableWhenUnwatch
    rw [GroupSettings.getFieldsFromGroup_error hl]

/-- **`rdc_field_unwatch`.** An unknown entry is not found. A known one is flagged off in any case;
the call succeeds exactly when its own groups and those of every other watching entry exist. -/
theorem rdcFieldUnwatch_cases (d : Daemon) (g fg now : Nat) :
    (d.watchTable[(g, fg)]? = none ∧ d.rdcFieldUnwatch g fg now = (.notFound, d))
    ∨ ∃ entry, d.watchTable[(g, fg)]? = some entry
      ∧ ((¬ (d.groupSettings.Live (g, fg) ∧ OthersLive d (g, fg))
            ∧ d.rdcFieldUnwatch g fg now = (.notFound, flaggedOff d (g, fg) entry now))
        ∨ (d.groupSettings.Live (g, fg) ∧ OthersLive d (g, fg)
            ∧ ∃ F calls,
              UnwatchedRecord d (g, fg) (flaggedOff d (g, fg) entry now).watchTable F
              ∧ d.rdcFieldUnwatch g fg now = (.ok,
                  { flaggedOff d (g, fg) entry now with
                    fieldsToWatch := F, moduleCalls := calls }))) := by
  cases hq : d.watchTable[(g, fg)]? with
  | none =>
    left
    refine ⟨rfl, ?_⟩
    unfold rdcFieldUnwatch
    simp only [hq]
  | some entry =>
    right
    refine ⟨entry, rfl, ?_⟩
    have hrun : d.rdcFieldUnwatch g fg now
        = (flaggedOff d (g, fg) entry now).updateFieldInTableWhenUnwatch (g, fg) := by
      unfold rdcFieldUnwatch
      simp only [hq]
      rfl
    have hoff : ∀ f, ¬ Watching (flaggedOff d (g, fg) entry now) (g, fg) f :=
      fun f hf => (watching_flaggedOff.mp hf).1 rfl
    have hothers : OthersLive (flaggedOff d (g, fg) entry now) (g, fg)
        ↔ OthersLive d (g, fg) := by
      unfold OthersLive
      refine ⟨fun h e' f hne hw => h e' f hne (watching_flaggedOff.mpr ⟨hne, hw⟩), ?_⟩
      intro h e' f hne hw
      exact h e' f hne (watching_flaggedOff.mp hw).2
    rw [hrun]
    rcases updateFieldInTableWhenUnwatch_cases _ (g, fg) hoff with
      ⟨hno, heq⟩ | ⟨hl, ho, F, calls, hF, heq⟩
    · exact Or.inl ⟨fun h => hno ⟨h.1, hothers.mpr h.2⟩, heq⟩
    · exact Or.inr ⟨hl, hothers.mp ho, F, calls, hF, heq⟩

/-- Whatever the outcome, the entry has stopped watching and no other has. -/
theorem watching_unwatch {d : Daemon} {g fg now : Nat} :
    Watching (d.rdcFieldUnwatch g fg now).2 e f ↔ e ≠ (g, fg) ∧ Watching d e f := by
  rcases rdcFieldUnwatch_cases d g fg now with
    ⟨hnone, heq⟩ | ⟨entry, _, ⟨_, heq⟩ | ⟨_, _, F, calls, _, heq⟩⟩
  · rw [heq]
    refine ⟨fun hw => ⟨?_, hw⟩, fun hw => hw.2⟩
    intro he
    have h1 := hw.1
    rw [he, hnone] at h1
    simp at h1
  · rw [heq]
    exact watching_flaggedOff
  · rw [heq]
    exact watching_flaggedOff (d := d) (e := (g, fg)) (f := f)

/-! ## Delivery and clean-up -/

/-- What is asked of a key, by its record: the frequency of a watching one, nothing otherwise. -/
def asked (o : Option FieldSettings) : Option Nat :=
  o.bind fun r => if r.isWatching then some r.updateFreq else none

theorem asked_some {r : FieldSettings} :
    asked (some r) = if r.isWatching then some r.updateFreq else none := rfl

theorem deliver_fieldsToWatch (d : Daemon) (time gpu : Nat) (value : RdcFieldValue)
    (k : RdcFieldKey) :
    (d.deliver time gpu value).fieldsToWatch[k]? = d.fieldsToWatch[k]?
    ∨ ∃ r, d.fieldsToWatch[k]? = some r
      ∧ (d.deliver time gpu value).fieldsToWatch[k]? = some { r with lastUpdateTime := time } := by
  show (d.fieldsToWatch.modify _ _)[k]? = _ ∨ _
  rw [getElem?_modify']
  by_cases hk : (gpu, value.fieldId) = k
  · cases hr : d.fieldsToWatch[k]? with
    | none => simp [hk, hr]
    | some r =>
      right
      refine ⟨r, rfl, ?_⟩
      show (d.fieldsToWatch.modify _ _)[k]? = _
      rw [getElem?_modify', if_pos hk, hk, hr]
      rfl
  · exact Or.inl (if_neg hk)

theorem not_expired_of_watching {now : Nat} (h : f.isWatching = true) : expired now f = false := by
  simp [expired, h]

theorem lt_of_expired {now : Nat} (he : expired now f = true) :
    (f.lastUpdateTime : ℚ) + f.maxKeepAge * 1000 < now := by
  unfold expired at he
  simp only [Bool.and_eq_true, decide_eq_true_eq] at he
  exact he.2

theorem watching_cleanUp {d : Daemon} {clock : CleanUpClock} :
    Watching (d.cleanUp clock) e f ↔ Watching d e f := by
  unfold Watching
  show (d.watchTable.filter _)[e]? = _ ∧ _ ↔ _
  rw [ExtTreeMap.getElem?_filter', Option.filter_eq_some_iff]
  refine ⟨fun h => ⟨h.1.1, h.2⟩, fun h => ⟨⟨h.1, ?_⟩, h.2⟩⟩
  rw [not_expired_of_watching h.2]
  rfl

/-- A clean-up only drops records, and no watching one. -/
theorem cleanUp_fieldsToWatch (d : Daemon) (clock : CleanUpClock) (k : RdcFieldKey) :
    (d.cleanUp clock).fieldsToWatch[k]? = d.fieldsToWatch[k]?
    ∨ ∃ r, d.fieldsToWatch[k]? = some r ∧ r.isWatching = false
      ∧ (d.cleanUp clock).fieldsToWatch[k]? = none := by
  show (d.fieldsToWatch.filter _)[k]? = _ ∨ _
  rw [ExtTreeMap.getElem?_filter']
  cases hr : d.fieldsToWatch[k]? with
  | none => exact Or.inl rfl
  | some r =>
    cases he : expired clock.now r with
    | false => exact Or.inl (by simp [he])
    | true =>
      right
      refine ⟨r, rfl, ?_, ?_⟩
      · cases hw : r.isWatching with
        | false => rfl
        | true =>
          rw [not_expired_of_watching hw] at he
          simp at he
      · show (d.fieldsToWatch.filter _)[k]? = none
        rw [ExtTreeMap.getElem?_filter', hr]
        simp [he]

end Rdc.Proof
