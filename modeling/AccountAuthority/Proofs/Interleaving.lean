import AccountAuthority.Proofs.Operations
import AccountAuthority.Service.Backend
import Mathlib.Logic.Function.Basic

/-!
# Calls that run at the same time

A call of a service is a program that asks the repository, and for the rest its
surroundings: the clock, chance, the signer.  What calls that run at the same
time share is the repository, which performs one request after the other.  So a
schedule says whose request comes next, and a statement about every schedule is
a statement about every way in which the calls may run.
-/

namespace AccountAuthority

/-- The interface of the repository alone. -/
@[reducible] def RepositoryPort : Interface :=
  ⟨RepositoryRequest, RepositoryRequest.Answer⟩

/-- What a call is answered, other than by the repository: the `n`th request of
the call, counted from zero, gets the `n`th answer to it. -/
abbrev Surroundings :=
  (n : ℕ) → (r : ServiceRequest) → r.Answer

/-- Surroundings in which the clock stands still, signing succeeds, and there is
nothing random about the random bytes. -/
def Surroundings.still (now : Instant) (bytes : Bytes) : Surroundings
  | _, .now => now
  | _, .randomBytes _ => bytes
  | _, .freshId => default
  | _, .jitter => .least
  | _, .pause _ => ()
  | _, .signAccess _ => .ok ""
  | _, .publishedKeys => .ok []
  | _, .verifyIdToken .. => .notConfigured
  | _, .checkLogin .. => .ok ()
  | _, .loginFailed .. => ()
  | _, .loginSucceeded .. => ()
  | _, .notify _ => .ok ()
  | _, .repository _ => .error (.corruptRow "")
  | _, .queue _ => .error (.corruptRow "")

namespace Program

variable {α : Type}

/-- A call as the repository sees it, from its `n`th request on. -/
def within (o : Surroundings) (n : ℕ) :
    Program Backend α → Program RepositoryPort α
  | .done a => .done a
  | .ask (.repository r) next =>
      .ask r fun answer => (next (.ok answer)).within o (n + 1)
  | .ask r next => (next (o n r)).within o (n + 1)

section

variable {β : Type} (o : Surroundings) (n : ℕ)

@[simp] theorem within_pure (a : α) :
    ((pure a : Service α).run).within o n = .done (.ok a) := rfl

@[simp] theorem within_throw (e : ServiceError) :
    ((throw e : Service α).run).within o n = .done (.error e) := rfl

@[simp] theorem within_repository
    (r : RepositoryRequest) (k : r.Answer → Service α) :
    ((Service.repository r >>= k).run).within o n =
      .ask r fun answer => (k answer).run.within o (n + 1) := rfl

@[simp] theorem within_now (k : Instant → Service α) :
    ((Service.now >>= k).run).within o n =
      (k (o n .now)).run.within o (n + 1) := rfl

@[simp] theorem within_freshToken (k : String → Service α) :
    ((Service.freshToken >>= k).run).within o n =
      (k (BearerToken.ofBytes (o n (.randomBytes BearerToken.length)))).run.within
        o (n + 1) := rfl

end

/-- A call that runs alone; its new records get the identifiers `fresh`. -/
def runAlone (p : Program RepositoryPort α) (fresh : FreshIds) (s : Store) :
    α × Store :=
  p.run (fun r s => s.perform r fresh) s

/-- What is left of a call when its first request has been performed. -/
def afterFirst (p : Program RepositoryPort α) (fresh : FreshIds) (s : Store) :
    Program RepositoryPort α :=
  match p with
  | .done a => .done a
  | .ask r next => next (s.perform r fresh).1

/-- A program makes at most `k` requests, whatever it is answered. -/
inductive AsksAtMost {I : Interface} : ℕ → Program I α → Prop
  | done (k : ℕ) (a : α) : AsksAtMost k (.done a)
  | ask {k : ℕ} (r : I.Request) {next : I.Answer r → Program I α}
      (h : ∀ answer, AsksAtMost k (next answer)) :
      AsksAtMost (k + 1) (.ask r next)

theorem AsksAtMost.mono
    {I : Interface} {p : Program I α} {k l : ℕ} (h : AsksAtMost k p)
    (hkl : k ≤ l) : AsksAtMost l p := by
  induction h generalizing l with
  | done k a => exact .done l a
  | ask r _ ih =>
      cases l with
      | zero => exact absurd hkl (Nat.not_succ_le_zero _)
      | succ l => exact .ask r fun answer => ih answer (Nat.le_of_succ_le_succ hkl)

theorem AsksAtMost.exists_done
    {I : Interface} {p : Program I α} (h : AsksAtMost 0 p) :
    ∃ a, p = .done a := by
  cases h with
  | done _ a => exact ⟨a, rfl⟩

end Program

/-- Calls that are under way over one store. -/
structure Pool (ι α : Type) where
  calls : ι → Program RepositoryPort α
  store : Store

/-- One turn in a schedule: whose request is performed, and the identifiers for
the records that it makes. -/
structure Turn (ι : Type) where
  call : ι
  fresh : FreshIds

namespace Pool

variable {ι α : Type}

/-- The result of a call that has ended. -/
def result? (p : Pool ι α) (i : ι) : Option α :=
  match p.calls i with
  | .done a => some a
  | .ask _ _ => none

/-- All calls have ended. -/
def Finished (p : Pool ι α) : Prop :=
  ∀ i, (p.result? i).isSome = true

theorem result?_eq_some_iff {p : Pool ι α} {i : ι} {a : α} :
    p.result? i = some a ↔ p.calls i = .done a := by
  unfold result?
  split
  next b h => simp [h]
  next h => simp [h]

variable [DecidableEq ι]

/-- The next request of one call is performed; a call that has ended does
nothing with its turn. -/
def turn (p : Pool ι α) (t : Turn ι) : Pool ι α :=
  match p.calls t.call with
  | .done _ => p
  | .ask r next =>
      let (answer, store) := p.store.perform r t.fresh
      ⟨Function.update p.calls t.call (next answer), store⟩

/-- The pool after a schedule. -/
def run (p : Pool ι α) (ts : List (Turn ι)) : Pool ι α :=
  ts.foldl turn p

theorem turn_of_done
    {p : Pool ι α} {t : Turn ι} {a : α} (h : p.calls t.call = .done a) :
    p.turn t = p := by
  unfold turn
  rw [h]

theorem turn_calls_self
    {p : Pool ι α} {t : Turn ι} {r : RepositoryRequest}
    {next : r.Answer → Program RepositoryPort α}
    (h : p.calls t.call = .ask r next) :
    (p.turn t).calls t.call = next (p.store.perform r t.fresh).1 := by
  unfold turn
  rw [h]
  exact Function.update_self t.call _ p.calls

theorem turn_store
    {p : Pool ι α} {t : Turn ι} {r : RepositoryRequest}
    {next : r.Answer → Program RepositoryPort α}
    (h : p.calls t.call = .ask r next) :
    (p.turn t).store = (p.store.perform r t.fresh).2 := by
  unfold turn
  rw [h]

theorem turn_calls_of_ne
    (p : Pool ι α) {t : Turn ι} {i : ι} (hne : i ≠ t.call) :
    (p.turn t).calls i = p.calls i := by
  unfold turn
  split
  · rfl
  · exact Function.update_of_ne hne _ p.calls

/-- What is known of some calls is known after a turn if it is known of the call
whose turn it was. -/
theorem forall_turn
    {p : Pool ι α} {t : Turn ι} {q : ι → Prop}
    {P : ι → Program RepositoryPort α → Prop}
    (h : ∀ i, q i → P i (p.calls i))
    (hself : q t.call → P t.call ((p.turn t).calls t.call)) :
    ∀ i, q i → P i ((p.turn t).calls i) := by
  intro i hi
  by_cases hcall : i = t.call
  · subst hcall
    exact hself hi
  · rw [turn_calls_of_ne p hcall]
    exact h i hi

theorem forall_calls_turn
    {p : Pool ι α} {t : Turn ι} {P : ι → Program RepositoryPort α → Prop}
    (h : ∀ i, P i (p.calls i)) (hself : P t.call ((p.turn t).calls t.call))
    (i : ι) : P i ((p.turn t).calls i) :=
  forall_turn (q := fun _ => True) (fun i _ => h i) (fun _ => hself) i trivial

theorem run_concat (p : Pool ι α) (ts : List (Turn ι)) (t : Turn ι) :
    p.run (ts ++ [t]) = (p.run ts).turn t := by
  simp [run]

/-- What holds at first and is kept by every turn of a schedule holds after the
schedule. -/
theorem run_induction
    {P : Pool ι α → Prop} {p : Pool ι α} {ts : List (Turn ι)} (hp : P p)
    (hturn : ∀ t ∈ ts, ∀ p, P p → P (p.turn t)) : P (p.run ts) := by
  induction ts using List.reverseRecOn with
  | nil => exact hp
  | append_singleton ts t ih =>
      rw [run_concat]
      simp only [List.mem_append, List.mem_singleton] at hturn
      exact hturn t (Or.inr rfl) _ (ih fun t ht => hturn t (Or.inl ht))

/-! ## How many turns a call needs -/

theorem asksAtMost_turn
    {p : Pool ι α} {i : ι} {k : ℕ} (h : (p.calls i).AsksAtMost k)
    (t : Turn ι) :
    ((p.turn t).calls i).AsksAtMost (k - if t.call = i then 1 else 0) := by
  by_cases hi : t.call = i
  · subst hi
    rw [if_pos rfl]
    cases hcall : p.calls t.call with
    | done a =>
        rw [turn_of_done hcall, hcall]
        exact .done _ a
    | ask r next =>
        rw [turn_calls_self hcall]
        rw [hcall] at h
        cases h with
        | ask _ h => exact h _
  · rw [if_neg hi, turn_calls_of_ne p fun heq => hi heq.symm]
    exact h

theorem asksAtMost_run
    {p : Pool ι α} {i : ι} {k : ℕ} (h : (p.calls i).AsksAtMost k)
    (ts : List (Turn ι)) :
    ((p.run ts).calls i).AsksAtMost
      (k - ts.countP fun t => t.call = i) := by
  induction ts using List.reverseRecOn with
  | nil => exact h
  | append_singleton ts t ih =>
      rw [run_concat, List.countP_append]
      refine (asksAtMost_turn ih t).mono ?_
      by_cases hi : t.call = i
      · simp only [List.countP_cons, List.countP_nil, hi, decide_true, if_true]
        omega
      · simp [hi]

/-- A call that makes at most `k` requests has ended when it has had `k`
turns. -/
theorem isSome_result?_run
    {p : Pool ι α} {i : ι} {k : ℕ} (h : (p.calls i).AsksAtMost k)
    {ts : List (Turn ι)} (hturns : k ≤ ts.countP fun t => t.call = i) :
    ((p.run ts).result? i).isSome = true := by
  have hzero := (asksAtMost_run h ts).mono (l := 0) (by omega)
  obtain ⟨a, ha⟩ := hzero.exists_done
  rw [result?_eq_some_iff.mpr ha]
  rfl

end Pool

end AccountAuthority
