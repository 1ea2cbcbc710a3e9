import Mathlib.Data.List.Basic

/-!
# Handing over in batches

A loop makes one value for each item and keeps the values until there are `n` of them. They are then
handed over before the next value is made, and what is left is handed over at the end. The receiver
answers each batch, and the loop ends early at an answer it does not go on after.

Making a value may change a state, and may be impossible. Whatever the answers are, the batches are
the values of the items up to some item, cut every `n` values, and the loop leaves items out only
after a full batch that was turned away (`Ends`). So how many items have a value is known from the
answers (`stopsAt`).
-/

namespace Batch

variable {α β σ τ : Type}

/-- The state that values are made from, the values that wait, and the batches handed over. -/
structure Loop (σ β : Type) where
  state : σ
  waiting : List β
  handed : List (List β)

/-- Hand over what waits. -/
def Loop.handOver (s : Loop σ β) : Loop σ β :=
  { s with waiting := [], handed := s.handed ++ [s.waiting] }

section Defs

variable (n : Nat) (make : α → σ → Option (β × σ)) (answer : Nat → τ) (goesOn : τ → Bool)

/-- Make the value of an item. -/
def Loop.add (s : Loop σ β) (x : α) : Option (Loop σ β) :=
  (make x s.state).map fun r => { s with state := r.2, waiting := s.waiting ++ [r.1] }

/-- The loop over the items that are left, and the last answer if there is one. -/
def loop : List α → Loop σ β → Option (Option τ × Loop σ β)
  | [], s =>
    if s.waiting = [] then some (none, s) else some (some (answer s.handed.length), s.handOver)
  | x :: xs, s =>
    if s.waiting.length < n then (s.add make x).bind (loop xs)
    else if goesOn (answer s.handed.length) then (s.handOver.add make x).bind (loop xs)
    else some (some (answer s.handed.length), s.handOver)

/-- The values of all items, without batches. -/
def makeAll : List α → σ → Option (List β × σ)
  | [], s => some ([], s)
  | x :: xs, s => (make x s).bind fun r => (makeAll xs r.2).map fun r' => (r.1 :: r'.1, r'.2)

/-- How many of `count` items have a value in the end: a batch in front of others that is turned
away is the last one. -/
def stopsAt (count : Nat) : Nat :=
  ((List.range ((count - 1) / n)).find? fun i => !goesOn (answer i)).elim count fun i => n * (i + 1)

/-- The loop in between: the items `done` have their values in the batches and behind them. -/
structure Underway (start : σ) (done : List α) (s : Loop σ β) : Prop where
  made : makeAll make done start = some (s.handed.flatten ++ s.waiting, s.state)
  full : ∀ batch ∈ s.handed, batch.length = n
  waiting_le : s.waiting.length ≤ n
  accepted : ∀ i < s.handed.length, goesOn (answer i) = true
  waits : s.waiting = [] → done = []

/-- The end of the loop, after which the items `left` have no value. -/
structure Ends (start : σ) (done left : List α) (last : Option τ) (s : Loop σ β) : Prop where
  made : makeAll make done start = some (s.handed.flatten, s.state)
  full : ∀ batch ∈ s.handed.dropLast, batch.length = n
  size : ∀ batch ∈ s.handed, batch ≠ [] ∧ batch.length ≤ n
  accepted : ∀ i, i + 1 < s.handed.length → goesOn (answer i) = true
  empty : s.handed = [] → last = none ∧ left = []
  last : ∀ i, i + 1 = s.handed.length → last = some (answer i)
    ∧ (left ≠ [] → goesOn (answer i) = false ∧ done.length = n * s.handed.length)

end Defs

variable {n : Nat} {make : α → σ → Option (β × σ)} {answer : Nat → τ} {goesOn : τ → Bool}

theorem makeAll_concat (xs : List α) (x : α) (s : σ) :
    makeAll make (xs ++ [x]) s
      = (makeAll make xs s).bind fun r => (make x r.2).map fun r' => (r.1 ++ [r'.1], r'.2) := by
  induction xs generalizing s with
  | nil =>
    simp only [List.nil_append, makeAll, Option.bind_some]
    cases make x s <;> rfl
  | cons y ys ih =>
    simp only [List.cons_append, makeAll, ih]
    cases make y s with
    | none => rfl
    | some r =>
      simp only [Option.bind_some]
      cases makeAll make ys r.2 with
      | none => rfl
      | some r' =>
        simp only [Option.map_some, Option.bind_some]
        cases make x r'.2 <;> rfl

theorem length_makeAll {xs : List α} {s : σ} {r : List β × σ} (h : makeAll make xs s = some r) :
    r.1.length = xs.length := by
  induction xs generalizing s r with
  | nil =>
    obtain rfl := Option.some.inj h
    rfl
  | cons x xs ih =>
    obtain ⟨r₁, -, h⟩ := Option.bind_eq_some_iff.mp h
    obtain ⟨r₂, hrest, rfl⟩ := Option.map_eq_some_iff.mp h
    simp only [List.length_cons, ih hrest]

theorem length_flatten_of_full {batches : List (List β)} (h : ∀ batch ∈ batches, batch.length = n) :
    batches.flatten.length = n * batches.length := by
  induction batches with
  | nil => rfl
  | cons batch batches ih =>
    rw [List.flatten_cons, List.length_append, h batch (List.mem_cons_self ..),
      ih fun b hb => h b (List.mem_cons_of_mem _ hb), List.length_cons, Nat.mul_succ,
      Nat.add_comm]

section Loop

variable {start : σ} {done : List α} {s : Loop σ β}

theorem Underway.init (start : σ) :
    Underway n make answer goesOn start [] (⟨start, [], []⟩ : Loop σ β) :=
  ⟨rfl, fun _ h => absurd h List.not_mem_nil, Nat.zero_le n,
    fun _ h => absurd h (Nat.not_lt_zero _), fun _ => rfl⟩

/-- **Step.** There is room for one more value. -/
theorem Underway.add (h : Underway n make answer goesOn start done s)
    (hroom : s.waiting.length < n) {x : α} {s' : Loop σ β} (hs : s.add make x = some s') :
    Underway n make answer goesOn start (done ++ [x]) s' := by
  obtain ⟨r, hmake, rfl⟩ := Option.map_eq_some_iff.mp hs
  refine ⟨?_, h.full, ?_, h.accepted, fun hnil => absurd hnil (by simp)⟩
  · rw [makeAll_concat, h.made, Option.bind_some, hmake, Option.map_some, List.append_assoc]
  · rw [List.length_append, List.length_singleton]
    exact hroom

/-- **Step.** A full batch is accepted first. -/
theorem Underway.handOver_add (h : Underway n make answer goesOn start done s) (hn : 0 < n)
    (hfull : ¬ s.waiting.length < n) (hgo : goesOn (answer s.handed.length) = true) {x : α}
    {s' : Loop σ β} (hs : s.handOver.add make x = some s') :
    Underway n make answer goesOn start (done ++ [x]) s' := by
  obtain ⟨r, hmake, rfl⟩ := Option.map_eq_some_iff.mp hs
  have hlen : s.waiting.length = n := Nat.le_antisymm h.waiting_le (Nat.le_of_not_lt hfull)
  refine ⟨?_, ?_, hn, ?_, fun hnil => absurd hnil (List.cons_ne_nil r.1 [])⟩
  · have hstate : make x s.state = some r := hmake
    rw [makeAll_concat, h.made, Option.bind_some, hstate, Option.map_some]
    simp [Loop.handOver]
  · intro batch hbatch
    rcases List.mem_append.mp hbatch with hold | hnew
    · exact h.full batch hold
    · exact List.mem_singleton.mp hnew ▸ hlen
  · intro i hi
    have hi' : i < s.handed.length + 1 := by simpa [Loop.handOver] using hi
    rcases Nat.lt_or_eq_of_le (Nat.le_of_lt_succ hi') with hlt | rfl
    · exact h.accepted i hlt
    · exact hgo

theorem Underway.fresh (h : Underway n make answer goesOn start [] s) (hn : 0 < n) :
    s.handed = [] ∧ s.state = start := by
  have hmade := h.made
  simp only [makeAll, Option.some.injEq, Prod.mk.injEq] at hmade
  refine ⟨?_, hmade.2.symm⟩
  cases hcase : s.handed with
  | nil => rfl
  | cons batch rest =>
    have hlen := h.full batch (hcase ▸ List.mem_cons_self ..)
    rw [hcase, List.flatten_cons, List.append_assoc] at hmade
    rw [(List.append_eq_nil_iff.mp hmade.1.symm).1] at hlen
    exact absurd hlen (Nat.ne_of_lt hn)

/-- What waits is handed over and nothing is made after it. -/
theorem Underway.ends (h : Underway n make answer goesOn start done s) (hwait : s.waiting ≠ [])
    {left : List α}
    (hleft : left ≠ [] → goesOn (answer s.handed.length) = false ∧ s.waiting.length = n) :
    Ends n make answer goesOn start done left (some (answer s.handed.length)) s.handOver := by
  have hhanded : s.handOver.handed = s.handed ++ [s.waiting] := rfl
  have hlength : s.handOver.handed.length = s.handed.length + 1 := by rw [hhanded]; simp
  refine ⟨?_, ?_, ?_, ?_, fun hnil => absurd hnil (by simp [hhanded]), ?_⟩
  · rw [h.made, hhanded, List.flatten_append, List.flatten_singleton]
    rfl
  · rw [hhanded, List.dropLast_concat]
    exact h.full
  · intro batch hbatch
    rw [hhanded, List.mem_append, List.mem_singleton] at hbatch
    rcases hbatch with hold | rfl
    · -- an earlier batch is full, and so is not shorter than the one that waits
      have hlen := h.full batch hold
      have hpos := List.length_pos_of_ne_nil hwait
      refine ⟨List.ne_nil_of_length_pos ?_, Nat.le_of_eq hlen⟩
      have hle := h.waiting_le
      omega
    · exact ⟨hwait, h.waiting_le⟩
  · intro i hi
    rw [hlength] at hi
    exact h.accepted i (Nat.lt_of_succ_lt_succ hi)
  · intro i hi
    rw [hlength] at hi
    obtain rfl := Nat.succ.inj hi
    refine ⟨rfl, fun hne => ?_⟩
    obtain ⟨hstop, hlen⟩ := hleft hne
    refine ⟨hstop, ?_⟩
    have hmade := length_makeAll h.made
    rw [← hmade, List.length_append, length_flatten_of_full h.full, hlen, hlength, Nat.mul_succ]

/-- **Run.** -/
theorem Underway.loop (h : Underway n make answer goesOn start done s) (hn : 0 < n) {xs : List α}
    {r : Option τ × Loop σ β} (hr : Batch.loop n make answer goesOn xs s = some r) :
    ∃ more left, xs = more ++ left
      ∧ Ends n make answer goesOn start (done ++ more) left r.1 r.2 := by
  induction xs generalizing s done with
  | nil =>
    unfold Batch.loop at hr
    split at hr
    · next hnil =>
        obtain rfl := Option.some.inj hr
        obtain rfl := h.waits hnil
        obtain ⟨hempty, hstate⟩ := h.fresh hn
        refine ⟨[], [], rfl, ?_, ?_, ?_, ?_, fun _ => ⟨rfl, rfl⟩, ?_⟩
        · rw [hempty, hstate]
          rfl
        · simp [hempty]
        · simp [hempty]
        · simp [hempty]
        · simp [hempty]
    · next hwait =>
        obtain rfl := Option.some.inj hr
        refine ⟨[], [], rfl, ?_⟩
        rw [List.append_nil]
        exact h.ends hwait fun hne => absurd rfl hne
  | cons x xs ih =>
    unfold Batch.loop at hr
    split at hr
    · next hroom =>
        obtain ⟨s', hs, hr⟩ := Option.bind_eq_some_iff.mp hr
        obtain ⟨more, left, rfl, hends⟩ := ih (h.add hroom hs) hr
        exact ⟨x :: more, left, rfl, by rwa [List.append_assoc] at hends⟩
    · next hfull =>
        split at hr
        · next hgo =>
            obtain ⟨s', hs, hr⟩ := Option.bind_eq_some_iff.mp hr
            obtain ⟨more, left, rfl, hends⟩ := ih (h.handOver_add hn hfull hgo hs) hr
            exact ⟨x :: more, left, rfl, by rwa [List.append_assoc] at hends⟩
        · next hstop =>
            obtain rfl := Option.some.inj hr
            have hlen := Nat.le_antisymm h.waiting_le (Nat.le_of_not_lt hfull)
            refine ⟨[], x :: xs, rfl, ?_⟩
            rw [List.append_nil]
            refine h.ends (List.ne_nil_of_length_pos (hlen ▸ hn)) fun _ => ⟨?_, hlen⟩
            simpa using hstop

end Loop

theorem Ends.length_made {start : σ} {done left : List α} {last : Option τ} {s : Loop σ β}
    (h : Ends n make answer goesOn start done left last s) {i : Nat}
    (hi : i + 1 = s.handed.length) : n * i < done.length ∧ done.length ≤ n * (i + 1) := by
  obtain ⟨front, batch, hcons⟩ : ∃ front batch, s.handed = front ++ [batch] := by
    refine ⟨s.handed.dropLast, s.handed.getLast ?_, (List.dropLast_append_getLast _).symm⟩
    exact List.ne_nil_of_length_pos (hi ▸ Nat.succ_pos i)
  have hfront : front.length = i := by
    rw [hcons, List.length_append, List.length_singleton] at hi
    exact (Nat.succ.inj hi).symm
  have hfull := h.full
  rw [hcons, List.dropLast_concat] at hfull
  obtain ⟨hne, hle⟩ := h.size batch (hcons ▸ List.mem_append_right _ (List.mem_singleton_self _))
  have hlen : done.length = n * i + batch.length := by
    rw [← length_makeAll h.made, hcons, List.flatten_append, List.flatten_singleton,
      List.length_append, length_flatten_of_full hfull, hfront]
  have hpos := List.length_pos_of_ne_nil hne
  rw [Nat.mul_succ]
  omega

/-- **Where the loop ends.** -/
theorem Ends.length_done {start : σ} {done left : List α} {last : Option τ} {s : Loop σ β}
    (h : Ends n make answer goesOn start done left last s) (hn : 0 < n) :
    done.length = stopsAt n answer goesOn (done ++ left).length := by
  unfold stopsAt
  cases hhanded : s.handed.length with
  | zero =>
    have hnil := List.length_eq_zero_iff.mp hhanded
    have hdone : done.length = 0 := by
      rw [← length_makeAll h.made, hnil]
      rfl
    rw [(h.empty hnil).2, List.append_nil, hdone, Nat.zero_sub, Nat.zero_div]
    rfl
  | succ i =>
    obtain ⟨hlo, hhi⟩ := h.length_made hhanded.symm
    have haccepted : ∀ j < i, goesOn (answer j) = true :=
      fun j hj => h.accepted j (by rw [hhanded]; exact Nat.succ_lt_succ hj)
    by_cases hleft : left = []
    · -- no batch in front of others was turned away
      have hcount : (done.length - 1) / n = i := by
        refine Nat.div_eq_of_lt_le ?_ ?_
        · rw [Nat.mul_comm]
          omega
        · rw [Nat.mul_comm]
          exact Nat.lt_of_lt_of_le (Nat.sub_one_lt (Nat.ne_of_gt (Nat.zero_lt_of_lt hlo))) hhi
      have hnone : ((List.range i).find? fun j => !goesOn (answer j)) = none := by
        rw [List.find?_eq_none]
        intro j hj
        rw [haccepted j (List.mem_range.mp hj)]
        exact Bool.false_ne_true
      rw [hleft, List.append_nil, hcount, hnone]
      rfl
    · obtain ⟨hstop, hlen⟩ := (h.last i hhanded.symm).2 hleft
      have hrange : i < ((done ++ left).length - 1) / n := by
        have hpos := List.length_pos_of_ne_nil hleft
        refine (Nat.le_div_iff_mul_le hn).mpr ?_
        have hcount : (done ++ left).length = n * (i + 1) + left.length := by
          rw [List.length_append, hlen, hhanded]
        rw [Nat.mul_comm, hcount]
        exact Nat.le_sub_of_add_le (Nat.add_le_add_left hpos _)
      have hfind : ((List.range (((done ++ left).length - 1) / n)).find?
          fun j => !goesOn (answer j)) = some i := by
        rw [List.find?_range_eq_some]
        refine ⟨by rw [hstop]; rfl, List.mem_range.mpr hrange, ?_⟩
        intro j hj
        rw [haccepted j hj]
        rfl
      rw [hfind, hlen, hhanded]
      rfl

/-- Where all values can be made the loop comes to its end. -/
theorem isSome_loop (xs : List α) (s : Loop σ β) (h : (makeAll make xs s.state).isSome = true) :
    (loop n make answer goesOn xs s).isSome = true := by
  induction xs generalizing s with
  | nil =>
    unfold loop
    split <;> rfl
  | cons x xs ih =>
    obtain ⟨r, hr⟩ := Option.isSome_iff_exists.mp h
    obtain ⟨r₁, hmake, hrest⟩ := Option.bind_eq_some_iff.mp hr
    obtain ⟨r₂, hrest, -⟩ := Option.map_eq_some_iff.mp hrest
    have hadd : ∀ t : Loop σ β, t.state = s.state →
        ((t.add make x).bind (loop n make answer goesOn xs)).isSome = true := by
      intro t ht
      unfold Loop.add
      rw [ht, hmake, Option.map_some, Option.bind_some]
      refine ih _ ?_
      rw [hrest]
      rfl
    unfold loop
    split
    · exact hadd s rfl
    split
    · exact hadd s.handOver rfl
    · rfl

end Batch
