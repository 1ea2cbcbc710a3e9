/-!
# Clients of a server

A client makes one request at a time and goes on with the answer, so what it does is a tree: a
request at each node, and a branch for every answer. The server has a state, and how it answers may
also depend on the number of the request. Two servers that answer alike whenever the client asks one
of them cannot be told apart by it.
-/

namespace Dialogue

/-- A client that requests `Q`, is answered `A`, and ends with an `α`. -/
inductive Client (Q A α : Type) where
  | done (result : α)
  | call (request : Q) (next : A → Client Q A α)

namespace Client

variable {Q A α σ : Type}

/-- The client from its `n`th request on. A server may leave a request without an answer. -/
def run (serve : Nat → Q → σ → Option (A × σ)) : Nat → Client Q A α → σ → Option (α × σ)
  | _, .done result, s => some (result, s)
  | n, .call request next, s =>
    match serve n request s with
    | none => none
    | some (answer, s') => run serve (n + 1) (next answer) s'

/-- Every request that the client makes has a property, in the state it is made in. -/
def Always (serve : Nat → Q → σ → Option (A × σ)) (P : Nat → Q → σ → Prop) :
    Nat → Client Q A α → σ → Prop
  | _, .done _, _ => True
  | n, .call request next, s =>
    P n request s
      ∧ ∀ answer s', serve n request s = some (answer, s') →
          Always serve P (n + 1) (next answer) s'

/-- Servers that agree on the requests the client makes to one of them. -/
theorem run_congr {serve serve' : Nat → Q → σ → Option (A × σ)} {P : Nat → Q → σ → Prop}
    (h : ∀ n request s, P n request s → serve' n request s = serve n request s)
    (client : Client Q A α) (n : Nat) (s : σ) (hP : Always serve P n client s) :
    run serve' n client s = run serve n client s := by
  induction client generalizing n s with
  | done result => rfl
  | call request next ih =>
    obtain ⟨hrequest, hnext⟩ := hP
    rw [run, run, h n request s hrequest]
    cases hserve : serve n request s with
    | none => rfl
    | some r => exact ih r.1 (n + 1) r.2 (hnext r.1 r.2 hserve)

end Client

end Dialogue
