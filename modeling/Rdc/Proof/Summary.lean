import Rdc.Proof.Groups

/-!
# `fields_to_watch_` summarises `watch_table_`

The header says the settings of a field can be deduced from the watch table. As an invariant: what
is asked of a supported key, by its record, is the least of what the watching entries that cover the
key ask for, and the record keeps samples at least as long as each of them wants.

A watch offers its frequency to the keys it covers, and the merge keeps the smaller one; an unwatch
computes the least of the remaining offers afresh. Both need every watching entry to have its
groups, so the invariant is about runs in which nobody extends or destroys a group under a watching
entry.
-/

namespace Rdc.Proof

open Daemon OrdMap Machine

/-- The record of every supported key is what the watching entries amount to. -/
structure Summary (tel : Telemetry) (d : Daemon) : Prop where
  live : ∀ e f, Watching d e f → d.groupSettings.Live e
  least : ∀ k, tel.supports k.2 = true →
    LeastOf (Demand d.groupSettings d.watchTable k) (asked d.fieldsToWatch[k]?)
  keeps : ∀ k, tel.supports k.2 = true → ∀ e f, Watching d e f → d.groupSettings.Covers e k →
    ∀ r, d.fieldsToWatch[k]? = some r →
      f.maxKeepAge ≤ r.maxKeepAge ∧ f.maxKeepSamples ≤ r.maxKeepSamples

/-! ## Demand -/

variable {d : Daemon} {f : FieldSettings} {e : RdcFieldGroupKey}

theorem mem_demand {gs : GroupSettings} {k : RdcFieldKey} {v : Nat} :
    v ∈ Demand gs d.watchTable k ↔ ∃ e f, Watching d e f ∧ gs.Covers e k ∧ f.updateFreq = v := by
  unfold Watching
  simp only [Demand, Set.mem_ofPred_eq, and_assoc]

theorem demand_congr {d d' : Daemon} (h : ∀ e f, Watching d' e f ↔ Watching d e f)
    (gs : GroupSettings) (k : RdcFieldKey) :
    Demand gs d'.watchTable k = Demand gs d.watchTable k := by
  ext v
  simp only [mem_demand, h]

theorem asked_merge (hf : f.isWatching = true) (o : Option FieldSettings) :
    asked (mergeSettings f o) = offerMin f.updateFreq (asked o) := by
  cases o with
  | none => simp [mergeSettings, asked, offerMin, hf]
  | some r => cases hr : r.isWatching <;> simp [mergeSettings, asked, offerMin, hr]

/-- A record that was asked for takes the least of the demand that is left; with none left, it is
flagged off. -/
theorem asked_unwatch {D D' : Set Nat} {o : Option FieldSettings} {least : Option Nat}
    (hsub : D' ⊆ D) (ho : LeastOf D (asked o)) (hleast : LeastOf D' least) :
    asked (o.map (unwatchSettings least)) = least := by
  cases least with
  | none => cases o <;> rfl
  | some v =>
    have hv : v ∈ D := hsub hleast.1
    cases o with
    | none =>
      have hD : D = ∅ := ho
      rw [hD] at hv
      exact absurd hv (Set.notMem_empty v)
    | some r =>
      cases hr : r.isWatching with
      | false =>
        rw [asked_some, hr] at ho
        have hD : D = ∅ := ho
        rw [hD] at hv
        exact absurd hv (Set.notMem_empty v)
      | true => simp [asked, unwatchSettings, hr]

/-! ## The steps -/

section Steps

variable {tel : Telemetry} {d : Daemon}

theorem Summary.frame {d' : Daemon} (h : Summary tel d) (hs : SameTables d d') :
    Summary tel d' := by
  obtain ⟨hg, hw, hf⟩ := hs
  have hwat : ∀ e f, Watching d' e f ↔ Watching d e f := by
    intro e f
    unfold Watching
    rw [hw]
  refine ⟨?_, ?_, ?_⟩
  · intro e f hwf
    rw [hg]
    exact h.live e f ((hwat e f).mp hwf)
  · intro k hk
    rw [hg, hw, hf]
    exact h.least k hk
  · intro k hk e f hwf hc r hr
    rw [hg] at hc
    rw [hf] at hr
    exact h.keeps k hk e f ((hwat e f).mp hwf) hc r hr

/-- A change that keeps the groups and the watching entries, and of every record what it asks for
and how long it keeps samples. -/
theorem Summary.of_sameWatching {d' : Daemon} (h : Summary tel d)
    (hg : d'.groupSettings = d.groupSettings) (hw : ∀ e f, Watching d' e f ↔ Watching d e f)
    (ha : ∀ k : RdcFieldKey, asked d'.fieldsToWatch[k]? = asked d.fieldsToWatch[k]?)
    (hr : ∀ (k : RdcFieldKey) (r' : FieldSettings), d'.fieldsToWatch[k]? = some r' →
      ∃ r, d.fieldsToWatch[k]? = some r
        ∧ r.maxKeepAge = r'.maxKeepAge ∧ r.maxKeepSamples = r'.maxKeepSamples) :
    Summary tel d' := by
  refine ⟨?_, ?_, ?_⟩
  · intro e f hwf
    rw [hg]
    exact h.live e f ((hw e f).mp hwf)
  · intro k hk
    rw [hg, demand_congr hw, ha]
    exact h.least k hk
  · intro k hk e f hwf hc r' hr'
    rw [hg] at hc
    obtain ⟨r, hget, hage, hsamples⟩ := hr k r' hr'
    rw [← hage, ← hsamples]
    exact h.keeps k hk e f ((hw e f).mp hwf) hc r hget

theorem Summary.deliver (h : Summary tel d) (time gpu : Nat) (value : RdcFieldValue) :
    Summary tel (d.deliver time gpu value) := by
  refine h.of_sameWatching rfl (fun _ _ => Iff.rfl) ?_ ?_
  · intro k
    rcases deliver_fieldsToWatch d time gpu value k with heq | ⟨r, hr, heq⟩
    · rw [heq]
    · rw [heq, hr]
      rfl
  · intro k r' hr'
    rcases deliver_fieldsToWatch d time gpu value k with heq | ⟨r, hr, heq⟩
    · exact ⟨r', by rw [← heq, hr'], rfl, rfl⟩
    · rw [heq] at hr'
      exact ⟨r, hr, by rw [← Option.some.inj hr'], by rw [← Option.some.inj hr']⟩

theorem Summary.cleanUp (h : Summary tel d) (clock : CleanUpClock) :
    Summary tel (d.cleanUp clock) := by
  refine h.of_sameWatching rfl (fun _ _ => watching_cleanUp) ?_ ?_
  · intro k
    rcases cleanUp_fieldsToWatch d clock k with heq | ⟨r, hr, hoff, heq⟩
    · rw [heq]
    · rw [heq, hr, asked_some, hoff]
      rfl
  · intro k r' hr'
    rcases cleanUp_fieldsToWatch d clock k with heq | ⟨r, hr, hoff, heq⟩
    · exact ⟨r', by rw [← heq, hr'], rfl, rfl⟩
    · rw [heq] at hr'
      simp at hr'

theorem watching_erase (hno : ∀ f, ¬ Watching d e f) (e' : RdcFieldGroupKey) (f : FieldSettings) :
    Watching { d with watchTable := d.watchTable.erase e } e' f ↔ Watching d e' f := by
  unfold Watching
  show (d.watchTable.erase e)[e']? = _ ∧ _ ↔ _
  rw [getElem?_erase']
  by_cases he : e = e'
  · subst he
    refine ⟨fun h => absurd h.1 (by simp), fun h => absurd h (hno f)⟩
  · rw [if_neg he]

theorem watching_entered (hf : f.isWatching = true) (hno : ∀ f, ¬ Watching d e f)
    (F : KeyMap FieldSettings) (calls : List ModuleCall) (e' : RdcFieldGroupKey)
    (f' : FieldSettings) :
    Watching (entered d e f F calls) e' f' ↔ (e' = e ∧ f' = f) ∨ Watching d e' f' := by
  unfold Watching
  show (d.watchTable.insert e f)[e']? = _ ∧ _ ↔ _
  rw [getElem?_insert']
  by_cases he : e = e'
  · subst he
    rw [if_pos rfl]
    refine ⟨fun h => Or.inl ⟨rfl, (Option.some.inj h.1).symm⟩, ?_⟩
    rintro (⟨_, rfl⟩ | h)
    · exact ⟨rfl, hf⟩
    · exact absurd h (hno f')
  · rw [if_neg he]
    refine ⟨Or.inr, ?_⟩
    rintro (⟨rfl, _⟩ | h)
    · exact absurd rfl he
    · exact h

/-- The new entry adds its frequency to the demand for the keys it covers. -/
theorem demand_entered (hf : f.isWatching = true) (hno : ∀ f, ¬ Watching d e f)
    (F : KeyMap FieldSettings) (calls : List ModuleCall) (gs : GroupSettings) (k : RdcFieldKey) :
    Demand gs (entered d e f F calls).watchTable k
      = {v | v ∈ Demand gs d.watchTable k ∨ (gs.Covers e k ∧ v = f.updateFreq)} := by
  ext v
  rw [mem_demand, Set.mem_ofPred_eq, mem_demand]
  refine ⟨?_, ?_⟩
  · rintro ⟨e', f', hw, hc, hv⟩
    rcases (watching_entered hf hno F calls e' f').mp hw with ⟨rfl, rfl⟩ | hw'
    · exact Or.inr ⟨hc, hv.symm⟩
    · exact Or.inl ⟨e', f', hw', hc, hv⟩
  · rintro (⟨e', f', hw, hc, hv⟩ | ⟨hc, hv⟩)
    · exact ⟨e', f', (watching_entered hf hno F calls e' f').mpr (Or.inr hw), hc, hv⟩
    · exact ⟨e, f, (watching_entered hf hno F calls e f).mpr (Or.inl ⟨rfl, rfl⟩), hc, hv.symm⟩

theorem Summary.not_covers_of_none (h : Summary tel d) {k : RdcFieldKey}
    (hk : tel.supports k.2 = true) (hnone : d.fieldsToWatch[k]? = none) (hw : Watching d e f) :
    ¬ d.groupSettings.Covers e k := by
  intro hc
  have hleast := h.least k hk
  rw [hnone] at hleast
  have hempty : Demand d.groupSettings d.watchTable k = ∅ := hleast
  have hmem : f.updateFreq ∈ Demand d.groupSettings d.watchTable k :=
    mem_demand.mpr ⟨e, f, hw, hc, rfl⟩
  rw [hempty] at hmem
  exact Set.notMem_empty _ hmem

theorem Summary.entered (h : Summary tel d) (hf : f.isWatching = true) (hno : ∀ f, ¬ Watching d e f)
    (hl : d.groupSettings.Live e) {F : KeyMap FieldSettings} (hF : WatchedRecord tel d e f F)
    (calls : List ModuleCall) : Summary tel (entered d e f F calls) := by
  refine ⟨?_, ?_, ?_⟩
  · intro e' f' hw
    rcases (watching_entered hf hno F calls e' f').mp hw with ⟨rfl, _⟩ | hw'
    · exact hl
    · exact h.live e' f' hw'
  · intro k hk
    show LeastOf (Demand d.groupSettings _ k) (asked F[k]?)
    rw [demand_entered hf hno]
    by_cases hc : d.groupSettings.Covers e k
    · rw [(hF k).1 ⟨hk, hc⟩, asked_merge hf]
      have hset : {v | v ∈ Demand d.groupSettings d.watchTable k
            ∨ (d.groupSettings.Covers e k ∧ v = f.updateFreq)}
          = insert f.updateFreq (Demand d.groupSettings d.watchTable k) := by
        ext v
        simp [hc, or_comm]
      rw [hset]
      exact (h.least k hk).offer f.updateFreq
    · rw [(hF k).2 fun hk' => hc hk'.2]
      simpa [hc] using h.least k hk
  · intro k hk e' f' hw hc r hr
    have hr' : F[k]? = some r := hr
    -- a covered record takes the larger of the two limits, so it keeps what each watcher asked for
    by_cases hcov : d.groupSettings.Covers e k
    · rw [(hF k).1 ⟨hk, hcov⟩] at hr'
      cases hold : d.fieldsToWatch[k]? with
      | none =>
        rw [hold] at hr'
        rcases (watching_entered hf hno F calls e' f').mp hw with ⟨_, rfl⟩ | hw'
        · rw [← Option.some.inj hr']
          exact ⟨le_rfl, le_rfl⟩
        · exact absurd hc (h.not_covers_of_none hk hold hw')
      | some r₀ =>
        rw [hold] at hr'
        rw [← Option.some.inj hr']
        rcases (watching_entered hf hno F calls e' f').mp hw with ⟨_, rfl⟩ | hw'
        · exact ⟨le_max_right _ _, le_max_right _ _⟩
        · obtain ⟨h1, h2⟩ := h.keeps k hk e' f' hw' hc r₀ hold
          exact ⟨le_trans h1 (le_max_left _ _), le_trans h2 (le_max_left _ _)⟩
    · rw [(hF k).2 fun hk' => hcov hk'.2] at hr'
      rcases (watching_entered hf hno F calls e' f').mp hw with ⟨rfl, _⟩ | hw'
      · exact absurd hc hcov
      · exact h.keeps k hk e' f' hw' hc r hr'

theorem Summary.watch (h : Summary tel d) (g fg freq : Nat) (age : ℚ) (samples : Nat) :
    Summary tel (d.rdcFieldWatch tel g fg freq age samples).2 := by
  rcases rdcFieldWatch_cases tel d g fg freq age samples with
    ⟨f, hw, heq⟩ | ⟨hno, _, heq⟩ | ⟨hno, hl, F, calls, hF, heq⟩ <;> rw [heq]
  · exact h
  · exact h.of_sameWatching rfl (watching_erase hno) (fun _ => rfl)
      (fun _ r' hr' => ⟨r', hr', rfl, rfl⟩)
  · exact h.entered rfl hno hl hF calls

/-- With one entry flagged off, the demand is that of the others. -/
theorem mem_demand_flaggedOff {entry : FieldSettings} {now : Nat} {gs : GroupSettings}
    {k : RdcFieldKey} {v : Nat} :
    v ∈ Demand gs (flaggedOff d e entry now).watchTable k
      ↔ ∃ e' f, e' ≠ e ∧ Watching d e' f ∧ gs.Covers e' k ∧ f.updateFreq = v := by
  rw [mem_demand]
  simp only [watching_flaggedOff, and_assoc]

theorem Summary.unwatched (h : Summary tel d) {entry : FieldSettings} {now : Nat}
    {F : KeyMap FieldSettings} (hF : UnwatchedRecord d e (flaggedOff d e entry now).watchTable F)
    (calls : List ModuleCall) :
    Summary tel { flaggedOff d e entry now with fieldsToWatch := F, moduleCalls := calls } := by
  refine ⟨?_, ?_, ?_⟩
  · intro e' f hw
    exact h.live e' f (watching_flaggedOff.mp hw).2
  · intro k hk
    have hn := Telemetry.not_notification_of_supports hk
    show LeastOf (Demand d.groupSettings (flaggedOff d e entry now).watchTable k) (asked F[k]?)
    have hsub : Demand d.groupSettings (flaggedOff d e entry now).watchTable k
        ⊆ Demand d.groupSettings d.watchTable k := by
      intro v hv
      obtain ⟨e', f, _, hw, hc, hv'⟩ := mem_demand_flaggedOff.mp hv
      exact mem_demand.mpr ⟨e', f, hw, hc, hv'⟩
    by_cases hc : d.groupSettings.Covers e k
    · obtain ⟨least, hleast, hget⟩ := (hF k).1 ⟨hn, hc⟩
      rw [hget, asked_unwatch hsub (h.least k hk) hleast]
      exact hleast
    · -- the entry did not cover the key, so nobody stopped asking for it
      have hset : Demand d.groupSettings (flaggedOff d e entry now).watchTable k
          = Demand d.groupSettings d.watchTable k := by
        refine Set.Subset.antisymm hsub ?_
        intro v hv
        obtain ⟨e', f, hw, hce, hv'⟩ := mem_demand.mp hv
        refine mem_demand_flaggedOff.mpr ⟨e', f, ?_, hw, hce, hv'⟩
        rintro rfl
        exact hc hce
      rw [hset, (hF k).2 fun hk' => hc hk'.2]
      exact h.least k hk
  · intro k hk e' f hw hc r hr
    have hr' : F[k]? = some r := hr
    have hw' : Watching d e' f := (watching_flaggedOff.mp hw).2
    by_cases hcov : isNotificationEvent k.2 = false ∧ d.groupSettings.Covers e k
    · obtain ⟨least, _, hget⟩ := (hF k).1 hcov
      rw [hget] at hr'
      obtain ⟨r₀, hold, heq⟩ := Option.map_eq_some_iff.mp hr'
      have hkeep := h.keeps k hk e' f hw' hc r₀ hold
      rw [← heq]
      cases least <;> exact hkeep
    · rw [(hF k).2 hcov] at hr'
      exact h.keeps k hk e' f hw' hc r hr'

/-- Under the invariant an unwatch can only fail on an entry that is not watching anyway. -/
theorem Summary.unwatch (h : Summary tel d) (g fg now : Nat) :
    Summary tel (d.rdcFieldUnwatch g fg now).2 := by
  rcases rdcFieldUnwatch_cases d g fg now with
    ⟨_, heq⟩ | ⟨entry, hentry, ⟨hno, heq⟩ | ⟨_, _, F, calls, hF, heq⟩⟩ <;> rw [heq]
  · exact h
  · have hnw : ∀ f, ¬ Watching d (g, fg) f := fun f hw =>
      hno ⟨h.live _ f hw, fun e' f' _ hw' => h.live e' f' hw'⟩
    refine h.of_sameWatching rfl ?_ (fun _ => rfl) (fun _ r' hr' => ⟨r', hr', rfl, rfl⟩)
    intro e f
    rw [watching_flaggedOff]
    refine ⟨fun hw => hw.2, fun hw => ⟨?_, hw⟩⟩
    rintro rfl
    exact hnw f hw
  · exact h.unwatched hF calls

end Steps

/-! ## Runs -/

/-- Nobody extends or destroys a group that a watching entry names. -/
def Quiet (d : Daemon) (op : Op) : Prop := ∀ e f, Watching d e f → ¬ Touches e op

theorem summary_tableInv (tel : Telemetry) : TableInv tel (fun _ _ => True) (Summary tel) where
  frame h hs := h.frame hs
  watch g fg freq age samples h := h.watch g fg freq age samples
  unwatch g fg now _ h := h.unwatch g fg now
  deliver time gpu value h := h.deliver time gpu value
  cleanUp clock h := h.cleanUp clock
  harmless_frame _ _ := trivial
  harmless_unwatch _ _ _ _ := trivial

theorem summary_exec {tel : Telemetry} {op : Op} (h : Summary tel d) (hq : Quiet d op) :
    Summary tel (d.exec tel op).2 := by
  refine (summary_tableInv tel).exec h (fun _ _ => trivial) ?_
  intro hg
  obtain ⟨gs, hgs⟩ := exec_groupCall tel d hg
  have hwat : ∀ e f, Watching (d.exec tel op).2 e f ↔ Watching d e f := by
    intro e f
    rw [hgs]
    exact Iff.rfl
  have hF : (d.exec tel op).2.fieldsToWatch = d.fieldsToWatch := by rw [hgs]
  refine ⟨?_, ?_, ?_⟩
  · intro e f hw
    have hw' := (hwat e f).mp hw
    exact live_exec (h.live e f hw') (hq e f hw')
  · intro k hk
    have hset : Demand (d.exec tel op).2.groupSettings (d.exec tel op).2.watchTable k
        = Demand d.groupSettings d.watchTable k := by
      ext v
      rw [mem_demand, mem_demand]
      simp only [hwat]
      refine ⟨?_, ?_⟩
      · rintro ⟨e, f, hw, hc, hv⟩
        exact ⟨e, f, hw, (covers_exec (h.live e f hw) (hq e f hw) k).mp hc, hv⟩
      · rintro ⟨e, f, hw, hc, hv⟩
        exact ⟨e, f, hw, (covers_exec (h.live e f hw) (hq e f hw) k).mpr hc, hv⟩
    rw [hset, hF]
    exact h.least k hk
  · intro k hk e f hw hc r hr
    have hw' := (hwat e f).mp hw
    rw [hF] at hr
    exact h.keeps k hk e f hw' ((covers_exec (h.live e f hw') (hq e f hw') k).mp hc) r hr

theorem summary_of_empty {tel : Telemetry} (hW : d.watchTable = ∅) (hF : d.fieldsToWatch = ∅) :
    Summary tel d := by
  have hno : ∀ e f, ¬ Watching d e f := by
    intro e f hw
    have h1 := hw.1
    rw [hW] at h1
    simp at h1
  refine ⟨fun e f hw => absurd hw (hno e f), ?_, fun k _ e f hw => absurd hw (hno e f)⟩
  intro k _
  have hnone : d.fieldsToWatch[k]? = none := by rw [hF]; simp
  rw [hnone]
  show Demand _ _ k = ∅
  ext v
  rw [mem_demand]
  refine ⟨?_, fun h => absurd h (Set.notMem_empty v)⟩
  rintro ⟨e, f, hw, _⟩
  exact absurd hw (hno e f)

/-- **The summary.** After any quiet run from empty tables, the record of a supported key is
watching exactly when some watching entry covers the key; then its frequency is the least those
entries ask for, and its ages and sample counts are at least theirs. -/
theorem fieldsToWatch_summary (tel : Telemetry) (d : Daemon) (hW : d.watchTable = ∅)
    (hF : d.fieldsToWatch = ∅) (ops : List Op) (hq : Along (exec tel) Quiet d ops)
    (k : RdcFieldKey) (hk : tel.supports k.2 = true) :
    ((∃ r, (run (exec tel) d ops).fieldsToWatch[k]? = some r ∧ r.isWatching = true)
      ↔ ∃ e f, Watching (run (exec tel) d ops) e f
        ∧ (run (exec tel) d ops).groupSettings.Covers e k)
    ∧ ∀ r, (run (exec tel) d ops).fieldsToWatch[k]? = some r → r.isWatching = true →
      IsLeast {v | ∃ e f, Watching (run (exec tel) d ops) e f
          ∧ (run (exec tel) d ops).groupSettings.Covers e k ∧ f.updateFreq = v} r.updateFreq
      ∧ ∀ e f, Watching (run (exec tel) d ops) e f →
        (run (exec tel) d ops).groupSettings.Covers e k →
          f.maxKeepAge ≤ r.maxKeepAge ∧ f.maxKeepSamples ≤ r.maxKeepSamples := by
  have hinv : Summary tel (run (exec tel) d ops) :=
    Along.invariant (fun _ _ h hq => summary_exec h hq) (summary_of_empty hW hF) hq
  generalize run (exec tel) d ops = d' at hinv ⊢
  have hleast := hinv.least k hk
  refine ⟨⟨?_, ?_⟩, ?_⟩
  · rintro ⟨r, hr, hw⟩
    rw [hr, asked_some, hw] at hleast
    obtain ⟨e, f, hwf, hc, _⟩ := mem_demand.mp hleast.1
    exact ⟨e, f, hwf, hc⟩
  · rintro ⟨e, f, hwf, hc⟩
    have hmem : f.updateFreq ∈ Demand d'.groupSettings d'.watchTable k :=
      mem_demand.mpr ⟨e, f, hwf, hc, rfl⟩
    cases hr : d'.fieldsToWatch[k]? with
    | none => exact absurd hc (hinv.not_covers_of_none hk hr hwf)
    | some r =>
      refine ⟨r, rfl, ?_⟩
      cases hw : r.isWatching with
      | true => rfl
      | false =>
        rw [hr, asked_some, hw] at hleast
        have hempty : Demand d'.groupSettings d'.watchTable k = ∅ := hleast
        rw [hempty] at hmem
        exact absurd hmem (Set.notMem_empty _)
  · intro r hr hw
    refine ⟨?_, fun e f hwf hc => hinv.keeps k hk e f hwf hc r hr⟩
    rw [hr, asked_some, hw] at hleast
    have hset : {v | ∃ e f, Watching d' e f ∧ d'.groupSettings.Covers e k ∧ f.updateFreq = v}
        = Demand d'.groupSettings d'.watchTable k := by
      ext v
      rw [mem_demand]
      rfl
    rw [hset]
    exact hleast

theorem quiet_of_empty (hW : d.watchTable = ∅) (op : Op) : Quiet d op := by
  intro e f hw
  have h1 := hw.1
  rw [hW] at h1
  simp at h1

/-- Two groups that share GPU 0, both watched, with different settings. -/
def overlapping : List Op :=
  [.groupGpuCreate [97], .groupGpuAdd 1 0, .groupGpuCreate [98], .groupGpuAdd 2 0,
    .fieldWatch 1 0 2000000 10 5, .fieldWatch 2 0 1000000 20 3]

theorem fieldsToWatch_summary_overlapping :
    (run (exec Telemetry.smiOnly) init overlapping).fieldsToWatch[(0, rdcFiPowerUsage)]?
      = some ⟨1000000, 5, 20, true, 0⟩
    ∧ IsLeast {v | ∃ e f, Watching (run (exec Telemetry.smiOnly) init overlapping) e f
        ∧ (run (exec Telemetry.smiOnly) init overlapping).groupSettings.Covers e
          (0, rdcFiPowerUsage) ∧ f.updateFreq = v} 1000000 := by
  have hrec : (run (exec Telemetry.smiOnly) init overlapping).fieldsToWatch[(0, rdcFiPowerUsage)]?
      = some ⟨1000000, 5, 20, true, 0⟩ := by decide +kernel
  have hquiet : Along (exec Telemetry.smiOnly) Quiet init overlapping := by
    refine ⟨fun _ _ _ h => h, quiet_of_empty rfl _, fun _ _ _ h => h, quiet_of_empty rfl _,
      fun _ _ _ h => h, fun _ _ _ h => h, trivial⟩
  have hsum := fieldsToWatch_summary Telemetry.smiOnly init rfl rfl overlapping hquiet
    (0, rdcFiPowerUsage) (by decide)
  exact ⟨hrec, (hsum.2 _ hrec rfl).1⟩

end Rdc.Proof
