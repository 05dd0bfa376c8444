import AccountAuthority.Database.Transaction
import AccountAuthority.Proofs.HeededAnswers
import Mathlib.Data.Nat.Notation

/-!
# Transactions under the guard

The guard attempts a unit of work in one serializable transaction after the
other.  An attempt takes one of five courses, and tells by its error whether it
has lost to another transaction; then, and only then, the guard starts the unit
from scratch, as often as it may.
-/

namespace AccountAuthority

variable {S σ α : Type}

/-- An attempt of a unit of work: what was sent for it, and what it ended with. -/
structure Attempt (S α : Type) where
  messages : List (Message S)
  result : Except RepositoryError α

namespace Attempt

/-- Something that the attempt sent was given up for another transaction. -/
def Conflicts (a : Attempt S α) : Prop :=
  ∃ m ∈ a.messages, m.Conflicts

/-- The courses that an attempt may take.  The transaction is made serializable
before anything else, and committed when the statements of the unit have settled;
if anything fails after the beginning, the commit included, it is rolled back. -/
inductive IsProper (D : S → Reply → Prop) : Attempt S α → Prop
  | notBegun (e : DatabaseError) :
      IsProper D ⟨[.control .begin (.error e)], .error (.ofDatabase e)⟩
  | notSerializable (e : DatabaseError) (answer : Except DatabaseError Unit) :
      IsProper D
        ⟨[.control .begin (.ok ()), .control .serializable (.error e),
          .control .rollback answer], .error (.ofDatabase e)⟩
  | failed (log : List (Message S)) (e : RepositoryError)
      (answer : Except DatabaseError Unit)
      (hstatements : ∀ m ∈ log, m.IsStatement)
      (hunsettled : ¬∀ m ∈ log, m.Settles D)
      (hcause : e.isTransient = true ↔ ∃ m ∈ log, m.Conflicts) :
      IsProper D
        ⟨.control .begin (.ok ()) :: .control .serializable (.ok ()) ::
          log ++ [.control .rollback answer], .error e⟩
  | notCommitted (log : List (Message S)) (e : DatabaseError)
      (answer : Except DatabaseError Unit) (hsettled : ∀ m ∈ log, m.Settles D) :
      IsProper D
        ⟨.control .begin (.ok ()) :: .control .serializable (.ok ()) ::
          log ++ [.control .commit (.error e), .control .rollback answer],
          .error (.ofDatabase e)⟩
  | committed (log : List (Message S)) (a : α)
      (hsettled : ∀ m ∈ log, m.Settles D) :
      IsProper D
        ⟨.control .begin (.ok ()) :: .control .serializable (.ok ()) ::
          log ++ [.control .commit (.ok ())], .ok a⟩

end Attempt

namespace Sql

variable {D : S → Reply → Prop} {server : Server S σ} {t : σ}

theorem converse_control (server : Server S σ) (t : σ) (c : TransactionControl) :
    (control c : Sql S RepositoryError Unit).converse server t =
      ⟨[.control c (server (.control c) t).1],
        (server (.control c) t).1.mapError RepositoryError.ofDatabase,
        (server (.control c) t).2⟩ := rfl

section

variable {x : Sql S RepositoryError α} {log : List (Message S)} {t' : σ}

/-- The work in a transaction, and the commit after it. -/
def committing (x : Sql S RepositoryError α) : Sql S RepositoryError α :=
  x >>= fun a => control .commit >>= fun _ => pure a

theorem converse_settle_error
    {e : RepositoryError} (h : (committing x).converse server t = ⟨log, .error e, t'⟩) :
    ∃ answer t'', (settle x).converse server t =
      ⟨log ++ [.control .rollback answer], .error e, t''⟩ := by
  refine ⟨(server (.control .rollback) t').1, (server (.control .rollback) t').2, ?_⟩
  exact Program.converse_bind_of_eq h _

theorem converse_settle_ok
    {a : α} (h : (committing x).converse server t = ⟨log, .ok a, t'⟩) :
    (settle x).converse server t = ⟨log, .ok a, t'⟩ := by
  refine (Program.converse_bind_of_eq h _).trans ?_
  change (⟨log ++ [], .ok a, t'⟩ : Conversation S σ (Except RepositoryError α)) = _
  rw [List.append_nil]

/-- Work that has failed is rolled back. -/
theorem converse_settle_of_failed
    {e : RepositoryError} (h : x.converse server t = ⟨log, .error e, t'⟩) :
    ∃ answer t'', (settle x).converse server t =
      ⟨log ++ [.control .rollback answer], .error e, t''⟩ :=
  converse_settle_error (converse_bind_error h)

/-- Work that is done is committed, and rolled back if the commit fails. -/
theorem converse_settle_of_done
    {a : α} (h : x.converse server t = ⟨log, .ok a, t'⟩) :
    (∃ t'', (settle x).converse server t =
      ⟨log ++ [.control .commit (.ok ())], .ok a, t''⟩) ∨
    ∃ e answer t'', (settle x).converse server t =
      ⟨log ++ [.control .commit (.error e), .control .rollback answer],
        .error (.ofDatabase e), t''⟩ := by
  have hcommit := converse_control server t' .commit
  have hdone : (committing x).converse server t = _ := converse_bind_ok h
  cases hcommitted : (server (.control .commit) t').1 with
  | ok =>
      rw [hcommitted] at hcommit
      rw [converse_bind_ok hcommit] at hdone
      exact Or.inl ⟨_, converse_settle_ok hdone⟩
  | error e =>
      rw [hcommitted] at hcommit
      rw [converse_bind_error hcommit] at hdone
      obtain ⟨answer, t'', hsettle⟩ := converse_settle_error hdone
      rw [List.append_assoc] at hsettle
      exact Or.inr ⟨e, answer, t'', hsettle⟩

end

/-- What an attempt does once its transaction has begun. -/
theorem settle_isProper
    {work : Sql S RepositoryError α} (hwork : Heeds D True work) :
    let c := (settle (control .serializable >>= fun _ => work)).converse server t
    Attempt.IsProper D ⟨.control .begin (.ok ()) :: c.messages, c.result⟩ := by
  have hserializable := converse_control server t .serializable
  cases hset : (server (.control .serializable) t).1 with
  | error e =>
      rw [hset] at hserializable
      obtain ⟨answer, t', hsettle⟩ := converse_settle_of_failed
        (converse_bind_error (k := fun _ => work) hserializable)
      rw [hsettle]
      exact .notSerializable e answer
  | ok =>
      rw [hset] at hserializable
      have hunit := converse_bind_ok (k := fun _ => work) hserializable
      have hheeds := hwork σ server (server (.control .serializable) t).2
      cases hworked : work.converse server (server (.control .serializable) t).2 with
      | mk log result t₁ =>
          rw [hworked] at hunit hheeds
          cases result with
          | error e =>
              obtain ⟨answer, t', hsettle⟩ := converse_settle_of_failed hunit
              rw [hsettle]
              refine .failed log e answer hheeds.isStatement (fun h => ?_)
                (hheeds.isTransient_iff e rfl)
              obtain ⟨_, ⟨⟩⟩ := hheeds.ok_iff.mpr ⟨h, trivial⟩
          | ok a =>
              obtain ⟨hsettled, -⟩ := hheeds.ok_iff.mp ⟨a, rfl⟩
              rcases converse_settle_of_done hunit with
                ⟨t', hsettle⟩ | ⟨e, answer, t', hsettle⟩
              · rw [hsettle]
                exact .committed log a hsettled
              · rw [hsettle]
                exact .notCommitted log e answer hsettled

/-- However the server answers, an attempt takes one of its courses. -/
theorem attempt_isProper
    {work : Sql S RepositoryError α} (hwork : Heeds D True work)
    (server : Server S σ) (t : σ) :
    let c := (attempt work).converse server t
    Attempt.IsProper D ⟨c.messages, c.result⟩ := by
  have hbegin := converse_control server t .begin
  unfold attempt transaction
  cases hbegun : (server (.control .begin) t).1 with
  | error e =>
      rw [hbegun] at hbegin
      rw [converse_bind_error hbegin]
      exact .notBegun e
  | ok =>
      rw [hbegun] at hbegin
      rw [converse_bind_ok hbegin]
      exact settle_isProper hwork

end Sql

/-! ## Runs of the guard -/

namespace Attempt

variable {D : S → Reply → Prop} {a : Attempt S α}

theorem conflicts_begun_iff
    {log tail : List (Message S)} {result : Except RepositoryError α} :
    Conflicts ⟨.control .begin (.ok ()) :: .control .serializable (.ok ()) ::
        log ++ tail, result⟩ ↔
      (∃ m ∈ log, m.Conflicts) ∨ ∃ m ∈ tail, m.Conflicts := by
  simp [Conflicts, Message.Conflicts, or_and_right, exists_or]

/-- The error of an attempt tells whether it has met with a conflict. -/
theorem IsProper.conflicts_iff (h : a.IsProper D) :
    a.Conflicts ↔ ∃ e, a.result = .error e ∧ e.isTransient = true := by
  have hnone {log : List (Message S)} (hsettled : ∀ m ∈ log, m.Settles D) :
      ¬∃ m ∈ log, m.Conflicts :=
    fun ⟨m, hm, hconflict⟩ => (hsettled m hm).not_conflicts hconflict
  cases h with
  | notBegun e =>
      simp [Conflicts, Message.Conflicts, RepositoryError.isTransient_ofDatabase]
  | notSerializable e answer =>
      simp [Conflicts, Message.Conflicts, RepositoryError.isTransient_ofDatabase]
  | failed log e answer _ _ hcause =>
      rw [conflicts_begun_iff, ← hcause]
      simp [Message.Conflicts]
  | notCommitted log e answer hsettled =>
      rw [conflicts_begun_iff, or_iff_right (hnone hsettled)]
      simp [Message.Conflicts, RepositoryError.isTransient_ofDatabase]
  | committed log a hsettled =>
      rw [conflicts_begun_iff, or_iff_right (hnone hsettled)]
      simp [Message.Conflicts]

theorem countP_isBegin_begun
    {log tail : List (Message S)} (hlog : ∀ m ∈ log, m.IsStatement) :
    (.control .begin (.ok ()) :: .control .serializable (.ok ()) ::
        log ++ tail).countP Message.isBegin = 1 + tail.countP Message.isBegin := by
  simp [List.countP_cons, Message.countP_isBegin_of_statements hlog, Message.isBegin,
    Nat.add_comm]

/-- Every attempt begins one transaction. -/
theorem IsProper.countP_isBegin (h : a.IsProper D) :
    a.messages.countP Message.isBegin = 1 := by
  have hstatements {log : List (Message S)} (h : ∀ m ∈ log, m.Settles D) :
      ∀ m ∈ log, m.IsStatement :=
    fun m hm => (h m hm).isStatement
  cases h with
  | notBegun e => rfl
  | notSerializable e answer => rfl
  | failed log e answer h _ _ => exact countP_isBegin_begun h
  | notCommitted log e answer h => exact countP_isBegin_begun (hstatements h)
  | committed log a h => exact countP_isBegin_begun (hstatements h)

end Attempt

/-- A run of the guard: its attempts one after the other.  An attempt is followed
by another just if it has met with a conflict and the limit allows one more, and
the run ends as its last attempt does. -/
structure GuardRun (D : S → Reply → Prop) (limit : ℕ) (attempts : List (Attempt S α))
    (log : List (Message S)) (result : Except RepositoryError α) : Prop where
  proper : ∀ a ∈ attempts, a.IsProper D
  messages : log = attempts.flatMap Attempt.messages
  result : attempts.getLast?.map Attempt.result = some result
  atMost : attempts.length ≤ limit
  again : ∀ i (hi : i < attempts.length),
    i + 1 < attempts.length ↔ attempts[i].Conflicts ∧ i + 1 < limit

namespace GuardRun

variable {D : S → Reply → Prop} {limit : ℕ} {attempts : List (Attempt S α)}
  {log : List (Message S)} {result : Except RepositoryError α} {a : Attempt S α}

theorem single (h : a.IsProper D) (hlimit : 0 < limit)
    (hlast : a.Conflicts → limit = 1) :
    GuardRun D limit [a] a.messages a.result where
  proper := by simpa using h
  messages := by simp
  result := rfl
  atMost := hlimit
  again := by
    rintro i hi
    obtain rfl : i = 0 := by simpa using hi
    simp only [List.length_singleton, List.getElem_singleton]
    constructor
    · omega
    · rintro ⟨hconflicts, hmore⟩
      have := hlast hconflicts
      omega

theorem cons
    (h : GuardRun D limit attempts log result) (ha : a.IsProper D)
    (hconflicts : a.Conflicts) :
    GuardRun D (limit + 1) (a :: attempts) (a.messages ++ log) result where
  proper := List.forall_mem_cons.mpr ⟨ha, h.proper⟩
  messages := by rw [List.flatMap_cons, h.messages]
  result := by
    have hlast := h.result
    cases attempts with
    | nil => cases hlast
    | cons b attempts => exact hlast
  atMost := Nat.succ_le_succ h.atMost
  again := by
    have hlast := h.result
    rintro (_ | i) hi
    · have hpos : 0 < attempts.length := by
        cases attempts with
        | nil => cases hlast
        | cons b attempts => exact Nat.succ_pos _
      have hlimit := h.atMost
      simp only [List.length_cons, List.getElem_cons_zero]
      exact ⟨fun _ => ⟨hconflicts, by omega⟩, fun _ => by omega⟩
    · have hagain := h.again i (by simpa using hi)
      simpa using hagain

theorem countP_isBegin_le (h : GuardRun D limit attempts log result) :
    log.countP Message.isBegin ≤ limit := by
  have hone : ∀ a ∈ attempts, (List.countP Message.isBegin ∘ Attempt.messages) a = 1 :=
    fun a ha => (h.proper a ha).countP_isBegin
  calc log.countP Message.isBegin
      = (attempts.map (List.countP Message.isBegin ∘ Attempt.messages)).sum := by
        rw [h.messages, List.countP_flatMap]
    _ = (attempts.map fun _ => 1).sum := congrArg _ (List.map_congr_left hone)
    _ = attempts.length := by
        rw [List.map_const', List.sum_replicate_nat, Nat.mul_one]
    _ ≤ limit := h.atMost

end GuardRun

namespace Sql

variable {D : S → Reply → Prop} {server : Server S σ} {t : σ}

/-- By induction on the number of attempts that are left: the first attempt is a
run of its own, or stands before the run of the others. -/
theorem guardRun_retryUpTo
    {work : Sql S RepositoryError α} (hwork : Heeds D True work)
    {wait : Nat → Program (Database S) Unit}
    (hwait : ∀ n t, ((wait n).converse server t).messages = []) (left made : ℕ) :
    let c := (retryUpTo RepositoryError.isTransient wait (attempt work).run left
      made).converse server t
    ∃ attempts, GuardRun D (left + 1) attempts c.messages c.result := by
  induction left generalizing made t with
  | zero =>
      have hproper := attempt_isProper hwork server t
      cases hfirst : (attempt work).converse server t with
      | mk messages result t' =>
          rw [hfirst] at hproper
          rw [retryUpTo, Program.converse_bind_of_eq hfirst]
          refine ⟨[⟨messages, result⟩], ?_⟩
          cases result with
          | ok a => simpa using GuardRun.single hproper Nat.one_pos fun _ => rfl
          | error e => simpa using GuardRun.single hproper Nat.one_pos fun _ => rfl
  | succ left ih =>
      have hproper := attempt_isProper hwork server t
      cases hfirst : (attempt work).converse server t with
      | mk messages result t' =>
          rw [hfirst] at hproper
          have hcause := hproper.conflicts_iff
          rw [retryUpTo, Program.converse_bind_of_eq hfirst]
          cases result with
          | ok a =>
              have hrun : GuardRun D (left + 2) _ _ _ :=
                .single hproper (Nat.succ_pos _) fun h => by simp [hcause] at h
              exact ⟨_, by simpa using hrun⟩
          | error e =>
              dsimp only
              split
              next htransient =>
                cases hwaited : (wait made).converse server t' with
                | mk log _ t'' =>
                    obtain rfl : log = [] := by simpa [hwaited] using hwait made t'
                    rw [Program.converse_bind_of_eq hwaited]
                    obtain ⟨attempts, hrun⟩ := ih (t := t'') (made + 1)
                    exact ⟨_, hrun.cons hproper (hcause.mpr ⟨e, rfl, htransient⟩)⟩
              next hfinal =>
                have hrun : GuardRun D (left + 2) _ _ _ :=
                  .single hproper (Nat.succ_pos _) fun h => by
                    simp [hcause, hfinal] at h
                exact ⟨_, by simpa using hrun⟩

/-- Nothing is sent while the guard waits. -/
theorem converse_wait (config : RetryConfig) (n : ℕ) :
    ((config.wait (ask (S := S) .jitter) (fun d => ask (.pause d)) n).converse server
      t).messages = [] := by
  rw [RetryConfig.wait, Program.messages_bind]
  refine List.append_eq_nil_iff.mpr ⟨rfl, ?_⟩
  -- the length of the wait is not to be computed
  generalize config.backoff n _ = d
  dsimp only
  split
  all_goals rfl

theorem guardRun_guarded
    {work : Sql S RepositoryError α} (hwork : Heeds D True work)
    (config : RetryConfig) (server : Server S σ) (t : σ) :
    let c := (guarded config RepositoryError.isTransient work).converse server t
    ∃ attempts, GuardRun D (max 1 config.maxAttempts) attempts c.messages c.result := by
  have hlimit : config.attempts - 1 + 1 = max 1 config.maxAttempts := by
    have hattempts : config.attempts = max config.maxAttempts 1 := rfl
    omega
  rw [← hlimit]
  exact guardRun_retryUpTo hwork (fun n _ => converse_wait config n)
    (config.attempts - 1) 0

/-- A transaction, also one outside of the guard, begins once. -/
theorem countP_isBegin_transaction
    {P : Prop} {work : Sql S RepositoryError α} (hwork : Heeds D P work) :
    ((transaction work).converse server t).messages.countP Message.isBegin = 1 := by
  have hbegin := converse_control server t .begin
  unfold transaction
  cases hbegun : (server (.control .begin) t).1 with
  | error e =>
      rw [hbegun] at hbegin
      rw [converse_bind_error hbegin]
      rfl
  | ok =>
      rw [hbegun] at hbegin
      rw [converse_bind_ok hbegin]
      have hstatements := (hwork σ server (server (.control .begin) t).2).isStatement
      cases hworked : work.converse server (server (.control .begin) t).2 with
      | mk log result t' =>
          rw [hworked] at hstatements
          have hzero := Message.countP_isBegin_of_statements hstatements
          cases result with
          | error e =>
              obtain ⟨answer, t'', hsettle⟩ := converse_settle_of_failed hworked
              change (_ :: ((settle work).converse server _).messages).countP _ = 1
              rw [hsettle]
              simp [Message.isBegin, List.countP_cons, hzero]
          | ok a =>
              change (_ :: ((settle work).converse server _).messages).countP _ = 1
              rcases converse_settle_of_done hworked with
                ⟨t'', hsettle⟩ | ⟨e, answer, t'', hsettle⟩
              all_goals
                rw [hsettle]
                simp [Message.isBegin, List.countP_cons, hzero]

end Sql

end AccountAuthority
