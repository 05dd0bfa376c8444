import AccountAuthority.Database.Transaction
import AccountAuthority.Proofs.Dialogues
import Mathlib.Data.Nat.Notation

/-!
# Bounded retry

A retried operation is called until it succeeds, fails for good, or has been called
as often as is allowed.  Which of its calls is the last is told by its results alone,
whatever they are; between two calls there is one wait, and none after the last.  The
operation may itself be made of requests, as a unit of work in a database is: its
retry is the same dialogue, with every call of the operation carried out.
-/

namespace AccountAuthority

variable {ε α : Type}

/-- What a retry asks for: a call of the operation, a draw for a wait, and a pause. -/
inductive RetryRequest where
  | call
  | draw
  | pause (d : Span)

/-- The type of the answer to a request of a retry. -/
@[reducible] def RetryRequest.Answer (ε α : Type) : RetryRequest → Type
  | call => Except ε α
  | draw => Jitter
  | pause _ => Unit

/-- The interface of an operation that is retried. -/
@[reducible] def RetryPort (ε α : Type) : Interface :=
  ⟨RetryRequest, RetryRequest.Answer ε α⟩

namespace RetryPort

/-- An operation with the given results, call by call, and with what is drawn after
each call.  The state is the number of calls that have been made. -/
def scripted (results : ℕ → Except ε α) (draws : ℕ → Jitter) :
    (RetryPort ε α).Respondent ℕ
  | .call, n => (results n, n + 1)
  | .draw, n => (draws (n - 1), n)
  | .pause _, n => ((), n)

/-- A call of the operation. -/
def called (result : Except ε α) : (RetryPort ε α).Answered :=
  ⟨.call, result⟩

/-- A draw for a wait. -/
def drawn (draw : Jitter) : (RetryPort ε α).Answered :=
  ⟨.draw, draw⟩

/-- A pause between two calls. -/
def paused (d : Span) : (RetryPort ε α).Answered :=
  ⟨.pause d, ()⟩

def isCall : (RetryPort ε α).Answered → Bool
  | ⟨.call, _⟩ => true
  | _ => false

/-- How long is paused. -/
def pause? : (RetryPort ε α).Answered → Option Span
  | ⟨.pause d, _⟩ => some d
  | _ => none

@[simp] theorem isCall_called (result : Except ε α) : isCall (called result) = true := rfl

@[simp] theorem isCall_drawn (draw : Jitter) :
    isCall (drawn draw : (RetryPort ε α).Answered) = false := rfl

@[simp] theorem isCall_paused (d : Span) :
    isCall (paused d : (RetryPort ε α).Answered) = false := rfl

@[simp] theorem pause?_called (result : Except ε α) : pause? (called result) = none := rfl

@[simp] theorem pause?_drawn (draw : Jitter) :
    pause? (drawn draw : (RetryPort ε α).Answered) = none := rfl

@[simp] theorem pause?_paused (d : Span) :
    pause? (paused d : (RetryPort ε α).Answered) = some d := rfl

/-- A call that is followed by another one, with its result, what is drawn after it, and
the pauses until the next call. -/
def round (result : Except ε α) (draw : Jitter) (pauses : List Span) :
    List (RetryPort ε α).Answered :=
  called result :: drawn draw :: pauses.map paused

section Round

variable (result : Except ε α) (draw : Jitter) (pauses : List Span)

theorem round_append (rest : List (RetryPort ε α).Answered) :
    [called result] ++ ((drawn draw :: pauses.map paused) ++ rest) =
      round result draw pauses ++ rest := rfl

@[simp] theorem countP_isCall_round :
    (round result draw pauses).countP isCall = 1 := by
  have hpauses : (pauses.map (paused : Span → (RetryPort ε α).Answered)).countP isCall =
      0 := by
    simp [List.countP_eq_zero]
  simp [round, List.countP_cons, hpauses]

@[simp] theorem filterMap_pause?_round :
    (round result draw pauses).filterMap pause? = pauses := by
  simp [round, List.filterMap_cons, List.filterMap_map, Function.comp_def]

end Round

end RetryPort

/-- After this result the operation is not called again. -/
def settled (again : ε → Bool) : Except ε α → Bool
  | .ok _ => true
  | .error e => !again e

/-- The position, counted from one, of the first result after which the operation is not
called again, and the limit if there is none before it. -/
def callsMade (again : ε → Bool) (results : ℕ → Except ε α) (limit : ℕ) : ℕ :=
  match (List.range limit).find? fun i => settled again (results i) with
  | some i => i + 1
  | none => limit

section CallsMade

variable {again : ε → Bool} {results : ℕ → Except ε α} {limit : ℕ}

theorem callsMade_succ :
    callsMade again results (limit + 1) =
      if settled again (results 0) then 1
      else callsMade again (fun i => results (i + 1)) limit + 1 := by
  unfold callsMade
  rw [List.range_succ_eq_map, List.find?_cons]
  by_cases hfirst : settled again (results 0) = true
  · simp [hfirst]
  · have hfirst' : settled again (results 0) = false := by simpa using hfirst
    simp only [hfirst', List.find?_map, Function.comp_def, Nat.succ_eq_add_one]
    cases (List.range limit).find? fun i => settled again (results (i + 1)) with
    | none => rfl
    | some i => rfl

theorem callsMade_le : callsMade again results limit ≤ limit := by
  unfold callsMade
  split
  next i hfound =>
    exact List.mem_range.mp (List.mem_of_find?_eq_some hfound)
  next => exact Nat.le_refl limit

theorem callsMade_pos (hlimit : 0 < limit) : 0 < callsMade again results limit := by
  unfold callsMade
  split
  · exact Nat.succ_pos _
  · exact hlimit

/-- After every result but the last one the operation is called again. -/
theorem settled_eq_false_of_lt_callsMade {i : ℕ}
    (hi : i + 1 < callsMade again results limit) :
    settled again (results i) = false := by
  unfold callsMade at hi
  split at hi
  next n hfound =>
    obtain ⟨-, -, hbefore⟩ := List.find?_range_eq_some.mp hfound
    simpa using hbefore i (Nat.lt_of_succ_lt_succ hi)
  next hnone =>
    have hresult := List.find?_range_eq_none.mp hnone i (Nat.lt_of_succ_lt hi)
    simpa using hresult

/-- If there are fewer calls than are allowed, it is for the last result. -/
theorem settled_of_callsMade_lt (h : callsMade again results limit < limit) :
    settled again (results (callsMade again results limit - 1)) = true := by
  unfold callsMade at h ⊢
  split at h
  next i hfound =>
    exact List.find?_some (p := fun i => settled again (results i)) hfound
  next => exact absurd h (Nat.lt_irrefl limit)

end CallsMade

namespace RetryConfig

open RetryPort

variable {again : ε → Bool}

/-- The wait for a retry. -/
def between (c : RetryConfig) : ℕ → Program (RetryPort ε α) Unit :=
  c.wait (Program.request (I := RetryPort ε α) .draw)
    fun d => Program.request (I := RetryPort ε α) (.pause d)

/-- The retry of an operation. -/
def retried (c : RetryConfig) (again : ε → Bool) :
    Program (RetryPort ε α) (Except ε α) :=
  retry c again c.between (Program.request (I := RetryPort ε α) .call)

/-- The pause before retry number `i`, which is left out if it has no length. -/
def pauses (c : RetryConfig) (draws : ℕ → Jitter) (i : ℕ) : List Span :=
  if (c.backoff i (draws i)).nanos = 0 then [] else [c.backoff i (draws i)]

/-- The round of call number `i`, counted from zero. -/
def round (c : RetryConfig) (results : ℕ → Except ε α) (draws : ℕ → Jitter)
    (i : ℕ) : List (RetryPort ε α).Answered :=
  RetryPort.round (results i) (draws i) (c.pauses draws i)

variable (c : RetryConfig) (results : ℕ → Except ε α) (draws : ℕ → Jitter)

/-- A wait whose length is not to be computed. -/
theorem dialogue_wait_of (length : Jitter → Span) (i : ℕ) :
    (do
      let d := length (← Program.request (I := RetryPort ε α) .draw)
      if d.nanos = 0 then pure ()
      else Program.request (I := RetryPort ε α) (.pause d) :
        Program (RetryPort ε α) Unit).dialogue (scripted results draws) (i + 1) =
      ⟨drawn (draws i) ::
        (if (length (draws i)).nanos = 0 then [] else [length (draws i)]).map paused,
        (), i + 1⟩ := by
  have hdraw : (Program.request (I := RetryPort ε α) .draw).dialogue
      (scripted results draws) (i + 1) = ⟨[drawn (draws i)], draws i, i + 1⟩ := rfl
  rw [Program.dialogue_bind, hdraw]
  dsimp only
  split
  all_goals rfl

theorem dialogue_between (i : ℕ) :
    (c.between i).dialogue (scripted results draws) (i + 1) =
      ⟨drawn (draws i) :: (c.pauses draws i).map paused, (), i + 1⟩ :=
  dialogue_wait_of results draws (c.backoff i) i

theorem dialogue_call (made : ℕ) :
    (Program.request (I := RetryPort ε α) .call).dialogue (scripted results draws) made =
      ⟨[called (results made)], results made, made + 1⟩ := rfl

section Calls

variable {results} {left made : ℕ}

theorem dialogue_retryUpTo_of_settled (h : settled again (results made) = true) :
    (retryUpTo again c.between (Program.request (I := RetryPort ε α) .call) left
        made).dialogue (scripted results draws) made =
      ⟨[called (results made)], results made, made + 1⟩ := by
  rw [retryUpTo, Program.dialogue_bind, dialogue_call]
  cases hresult : results made with
  | ok a => simp
  | error e =>
      have hfinal : again e = false := by simpa [hresult, settled] using h
      simp [hfinal]

/-- The one call that is left is the last one, whatever comes of it. -/
theorem dialogue_retryUpTo_zero :
    (retryUpTo again c.between (Program.request (I := RetryPort ε α) .call) 0
        made).dialogue (scripted results draws) made =
      ⟨[called (results made)], results made, made + 1⟩ := by
  rw [retryUpTo, Program.dialogue_bind, dialogue_call]
  cases hresult : results made with
  | ok a => simp
  | error e =>
      cases hagain : again e
      all_goals simp [hagain]

theorem dialogue_retryUpTo_succ (h : settled again (results made) = false) :
    (retryUpTo again c.between (Program.request (I := RetryPort ε α) .call) (left + 1)
        made).dialogue (scripted results draws) made =
      let rest := (retryUpTo again c.between
        (Program.request (I := RetryPort ε α) .call) left (made + 1)).dialogue
          (scripted results draws) (made + 1)
      ⟨c.round results draws made ++ rest.asked, rest.result, rest.state⟩ := by
  obtain ⟨e, hresult, hagain⟩ : ∃ e, results made = .error e ∧ again e = true := by
    cases hresult : results made with
    | ok a => simp [hresult, settled] at h
    | error e => exact ⟨e, rfl, by simpa [hresult, settled] using h⟩
  rw [retryUpTo, Program.dialogue_bind, dialogue_call]
  simp only [hresult, hagain, if_true]
  rw [Program.dialogue_bind, dialogue_between, round, hresult]
  dsimp only
  rw [round_append]

end Calls

/-- By induction on the number of retries that are left: the first call is the last
one, or the others come after the first round. -/
theorem dialogue_retryUpTo (again : ε → Bool) (left made : ℕ) :
    let k := callsMade again (fun i => results (made + i)) (left + 1)
    (retryUpTo again c.between (Program.request (I := RetryPort ε α) .call) left
        made).dialogue (scripted results draws) made =
      ⟨(List.range' made (k - 1)).flatMap (c.round results draws) ++
          [called (results (made + (k - 1)))],
        results (made + (k - 1)), made + k⟩ := by
  induction left generalizing made with
  | zero =>
      have hk : callsMade again (fun i => results (made + i)) 1 = 1 :=
        Nat.le_antisymm callsMade_le (callsMade_pos Nat.one_pos)
      rw [dialogue_retryUpTo_zero, hk]
      rfl
  | succ left ih =>
      intro k
      cases hfirst : settled again (results made) with
      | true =>
          have hk : k = 1 := by simp [k, callsMade_succ, hfirst]
          rw [dialogue_retryUpTo_of_settled c draws hfirst, hk]
          rfl
      | false =>
          let rest := callsMade again (fun i => results (made + 1 + i)) (left + 1)
          have hk : k = rest + 1 := by
            simp [k, rest, callsMade_succ, hfirst, Nat.add_assoc, Nat.add_comm 1]
          have hrest : rest = rest - 1 + 1 := (Nat.sub_add_cancel
            (callsMade_pos (Nat.succ_pos left))).symm
          have hlast : made + (k - 1) = made + 1 + (rest - 1) := by omega
          have hrounds : List.range' made (k - 1) =
              made :: List.range' (made + 1) (rest - 1) := by
            rw [hk, Nat.add_sub_cancel, hrest, List.range'_succ, Nat.add_sub_cancel]
          rw [dialogue_retryUpTo_succ c draws hfirst, ih, hlast, hrounds]
          simp only [List.flatMap_cons, List.append_assoc]
          congr 1
          omega

end RetryConfig

namespace Program

variable {I J : Interface} {β γ : Type}

theorem bind_assoc (p : Program I α) (f : α → Program I β) (g : β → Program I γ) :
    (p.bind f).bind g = p.bind fun a => (f a).bind g := by
  induction p with
  | done a => rfl
  | ask r next ih => simp only [Program.bind, ih]

variable (handler : (r : I.Request) → Program J (I.Answer r))

theorem expand_bind (p : Program I α) (f : α → Program I β) :
    (p >>= f).expand handler =
      p.expand handler >>= fun a => (f a).expand handler := by
  change (p.bind f).expand handler = (p.expand handler).bind _
  induction p with
  | done a => rfl
  | ask r next ih => simp only [Program.bind, expand, ih, bind_assoc]

theorem expand_request (r : I.Request) :
    (request r).expand handler = handler r := by
  change (handler r).bind .done = handler r
  induction handler r with
  | done a => rfl
  | ask r next ih => simp only [Program.bind, ih]

end Program

section Carried

variable {J : Interface} (draw : Program J Jitter) (pause : Span → Program J Unit)
  (attempt : Program J (Except ε α))

/-- Carry out what a retry asks for. -/
def RetryPort.carriedOut :
    (r : RetryRequest) → Program J (r.Answer ε α)
  | .call => attempt
  | .draw => draw
  | .pause d => pause d

theorem RetryPort.expand_wait_of (length : Jitter → Span) :
    (do
      let d := length (← Program.request (I := RetryPort ε α) .draw)
      if d.nanos = 0 then pure ()
      else Program.request (I := RetryPort ε α) (.pause d) :
        Program (RetryPort ε α) Unit).expand (RetryPort.carriedOut draw pause attempt) =
      (do
        let d := length (← draw)
        if d.nanos = 0 then pure () else pause d) := by
  rw [Program.expand_bind, Program.expand_request]
  congr 1
  funext j
  dsimp only
  split
  · rfl
  · exact Program.expand_request (I := RetryPort ε α) _ (.pause (length j))

theorem RetryConfig.expand_between (c : RetryConfig) (i : ℕ) :
    (c.between i).expand (I := RetryPort ε α)
        (RetryPort.carriedOut draw pause attempt) =
      c.wait draw pause i :=
  RetryPort.expand_wait_of draw pause attempt (c.backoff i)

/-- By induction on the number of retries that are left. -/
theorem retryUpTo_eq_expand (c : RetryConfig) (again : ε → Bool) (left made : ℕ) :
    retryUpTo again (c.wait draw pause) attempt left made =
      (retryUpTo again c.between (Program.request (I := RetryPort ε α) .call) left
        made).expand (RetryPort.carriedOut draw pause attempt) := by
  induction left generalizing made with
  | zero =>
      rw [retryUpTo, retryUpTo, Program.expand_bind, Program.expand_request]
      congr 1
      funext result
      cases result with
      | ok a => rfl
      | error e =>
          cases hagain : again e
          all_goals simp only [hagain]; rfl
  | succ left ih =>
      rw [retryUpTo, retryUpTo, Program.expand_bind, Program.expand_request]
      congr 1
      funext result
      cases result with
      | ok a => rfl
      | error e =>
          cases hagain : again e with
          | true =>
              simp only [hagain, if_true]
              rw [Program.expand_bind, RetryConfig.expand_between, ih]
          | false => simp only [hagain]; rfl

end Carried

/-- The guard of a unit of work in a database is the retry of its attempts. -/
theorem Sql.guarded_eq_expand {S : Type} [OfDatabase ε] (c : RetryConfig)
    (again : ε → Bool) (work : Sql S ε α) :
    guarded c again work = ExceptT.mk ((c.retried again).expand
      (RetryPort.carriedOut (ask (S := S) .jitter) (fun d => ask (S := S) (.pause d))
        (attempt work).run)) :=
  congrArg ExceptT.mk (retryUpTo_eq_expand _ _ _ c again (c.attempts - 1) 0)

/-- A retried operation, whatever its results are, is called `k` times, where `k` is
the position of the first of them that is a success or a failure for good, if that is
within the limit, and else the limit, which is the number of attempts of the
configuration and at least one.  The last of these results is what comes of it.  Every
call but the last one is followed by the wait before the retry of its number, and the
last one by none. -/
theorem retry_bounded
    (c : RetryConfig) (again : ε → Bool) (results : ℕ → Except ε α)
    (draws : ℕ → Jitter) :
    let limit := max 1 c.maxAttempts
    let k := callsMade again results limit
    let d := (c.retried again).dialogue (RetryPort.scripted results draws) 0
    (1 ≤ k ∧ k ≤ limit) ∧
      (∀ i < k - 1, settled again (results i) = false) ∧
      (k < limit → settled again (results (k - 1)) = true) ∧
      d.asked = (List.range (k - 1)).flatMap (c.round results draws) ++
        [RetryPort.called (results (k - 1))] ∧
      d.asked.countP RetryPort.isCall = k ∧
      d.asked.filterMap RetryPort.pause? =
        (List.range (k - 1)).flatMap (c.pauses draws) ∧
      d.result = results (k - 1) := by
  intro limit k d
  have hlimit : c.attempts - 1 + 1 = limit := by
    have hattempts : c.attempts = max c.maxAttempts 1 := rfl
    omega
  have hpos : 1 ≤ k := callsMade_pos (Nat.lt_of_lt_of_le Nat.one_pos (Nat.le_max_left 1 _))
  have hd : d = ⟨(List.range (k - 1)).flatMap (c.round results draws) ++
      [RetryPort.called (results (k - 1))], results (k - 1), k⟩ := by
    have hrun := RetryConfig.dialogue_retryUpTo c results draws again (c.attempts - 1) 0
    simp only [hlimit, Nat.zero_add, ← List.range_eq_range'] at hrun
    exact hrun
  have hasked : d.asked = (List.range (k - 1)).flatMap (c.round results draws) ++
      [RetryPort.called (results (k - 1))] := by
    rw [hd]
  refine ⟨⟨hpos, callsMade_le⟩, fun i hi => ?_, settled_of_callsMade_lt, hasked, ?_, ?_, ?_⟩
  · exact settled_eq_false_of_lt_callsMade (Nat.lt_sub_iff_add_lt.mp hi)
  · simp [hasked, List.countP_flatMap, Function.comp_def, RetryConfig.round,
      List.map_const', Nat.sub_add_cancel hpos]
  · simp [hasked, List.filterMap_flatMap, RetryConfig.round]
  · rw [hd]

end AccountAuthority
