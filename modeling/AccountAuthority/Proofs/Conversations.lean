import AccountAuthority.Database.Scripted

/-!
# What is said to a database

A program over a database runs against a server, of which nothing is known but
that it answers.  Of all that the program asks for, the statements and the
control of transactions go to the server over the wire.  These messages with
their answers are what the conversation consists of; the messages of two programs
in a row are those of the first one and then those of the second one.
-/

namespace AccountAuthority

/-- What the server was sent, with its answer. -/
inductive Message (S : Type) where
  | statement (s : S) (answer : Except DatabaseError Reply)
  | control (c : TransactionControl) (answer : Except DatabaseError Unit)

namespace Message

variable {S : Type}

/-- A message without its answer. -/
def sent : Message S → Sent S
  | statement s _ => .statement s
  | control c _ => .control c

/-- The request was a statement, not for the control of a transaction. -/
def IsStatement : Message S → Prop
  | statement .. => True
  | control .. => False

/-- A transaction was to begin. -/
def isBegin : Message S → Bool
  | control .begin _ => true
  | _ => false

theorem countP_isBegin_of_statements
    {log : List (Message S)} (h : ∀ m ∈ log, m.IsStatement) :
    log.countP isBegin = 0 := by
  refine List.countP_eq_zero.mpr fun m hm => ?_
  have hstatement := h m hm
  cases m with
  | statement s answer => exact nofun
  | control c answer => exact absurd hstatement id

end Message

/-- How a program got on with a server: the messages with their answers, the
result, and the state of the server afterwards. -/
structure Conversation (S σ α : Type) where
  messages : List (Message S)
  result : α
  state : σ

/-- A server: how it answers in a state, and the state afterwards. -/
abbrev Server (S σ : Type) :=
  (r : DatabaseRequest S) → σ → r.Answer × σ

variable {S σ ε α β : Type}

/-- What comes over the wire, if anything. -/
def DatabaseRequest.message? : (r : DatabaseRequest S) → r.Answer → Option (Message S)
  | .execute s, answer => some (.statement s answer)
  | .control c, answer => some (.control c answer)
  | _, _ => none

namespace Program

/-- The conversation of a program with a server. -/
def converse (server : Server S σ) : Program (Database S) α → σ → Conversation S σ α
  | .done a, t => ⟨[], a, t⟩
  | .ask r next, t =>
      let answered := server r t
      let rest := (next answered.1).converse server answered.2
      ⟨(r.message? answered.1).toList ++ rest.messages, rest.result, rest.state⟩

variable (server : Server S σ)

/-- A conversation is a run of which the messages are kept. -/
theorem converse_eq_run (p : Program (Database S) α) (t : σ) :
    ((p.converse server t).result, (p.converse server t).state) = p.run server t := by
  induction p generalizing t with
  | done a => rfl
  | ask r next ih => exact ih _ _

@[simp] theorem converse_pure (a : α) (t : σ) :
    (pure a : Program (Database S) α).converse server t = ⟨[], a, t⟩ := rfl

theorem converse_bind (p : Program (Database S) α) (f : α → Program (Database S) β)
    (t : σ) :
    (p >>= f).converse server t =
      let first := p.converse server t
      let second := (f first.result).converse server first.state
      ⟨first.messages ++ second.messages, second.result, second.state⟩ := by
  change (p.bind f).converse server t = _
  induction p generalizing t with
  | done a => rfl
  | ask r next ih =>
      simp only [Program.bind, converse, ih, List.append_assoc]

theorem messages_bind (p : Program (Database S) α) (f : α → Program (Database S) β)
    (t : σ) :
    ((p >>= f).converse server t).messages =
      (p.converse server t).messages ++
        ((f (p.converse server t).result).converse server
          (p.converse server t).state).messages := by
  rw [converse_bind]

theorem converse_bind_of_eq
    {server : Server S σ} {p : Program (Database S) α} {t t' : σ}
    {log : List (Message S)} {a : α} (h : p.converse server t = ⟨log, a, t'⟩)
    (f : α → Program (Database S) β) :
    (p >>= f).converse server t =
      let rest := (f a).converse server t'
      ⟨log ++ rest.messages, rest.result, rest.state⟩ := by
  rw [converse_bind, h]

/-- A scripted server notes down the messages of the conversation. -/
theorem sent_converse (p : Program (Database S) α) (script : ScriptedServer S) :
    (p.converse ScriptedServer.answer script).state.sent =
      script.sent ++ (p.converse ScriptedServer.answer script).messages.map
        Message.sent := by
  induction p generalizing script with
  | done a => simp [converse]
  | ask r next ih =>
      simp only [converse, ih, List.map_append, ← List.append_assoc]
      congr 1
      cases r with
      | execute s =>
          simp only [ScriptedServer.answer]
          split <;> rfl
      | control c =>
          simp only [ScriptedServer.answer]
          split <;> rfl
      | _ => simp [ScriptedServer.answer, DatabaseRequest.message?]

end Program

namespace Sql

variable (server : Server S σ) (t : σ)

/-- The conversation of a program that may fail. -/
def converse (x : Sql S ε α) : Conversation S σ (Except ε α) :=
  x.run.converse server t

@[simp] theorem converse_pure (a : α) :
    (pure a : Sql S ε α).converse server t = ⟨[], .ok a, t⟩ := rfl

@[simp] theorem converse_throw (e : ε) :
    (throw e : Sql S ε α).converse server t = ⟨[], .error e, t⟩ := rfl

variable {server t}

section

variable {x : Sql S ε α} {log : List (Message S)} {t' : σ}

theorem converse_bind_ok
    {k : α → Sql S ε β} {a : α} (h : x.converse server t = ⟨log, .ok a, t'⟩) :
    (x >>= k).converse server t =
      let rest := (k a).converse server t'
      ⟨log ++ rest.messages, rest.result, rest.state⟩ :=
  Program.converse_bind_of_eq h _

/-- A program that fails says no more. -/
theorem converse_bind_error
    {k : α → Sql S ε β} {e : ε} (h : x.converse server t = ⟨log, .error e, t'⟩) :
    (x >>= k).converse server t = ⟨log, .error e, t'⟩ := by
  refine (Program.converse_bind_of_eq h _).trans ?_
  change (⟨log ++ [], .error e, t'⟩ : Conversation S σ (Except ε β)) = _
  rw [List.append_nil]

theorem converse_tryCatch_ok
    {handle : ε → Sql S ε α} {a : α} (h : x.converse server t = ⟨log, .ok a, t'⟩) :
    (tryCatch x handle).converse server t = ⟨log, .ok a, t'⟩ := by
  refine (Program.converse_bind_of_eq h _).trans ?_
  change (⟨log ++ [], .ok a, t'⟩ : Conversation S σ (Except ε α)) = _
  rw [List.append_nil]

/-- A failure is dealt with where the program has stopped. -/
theorem converse_tryCatch_error
    {handle : ε → Sql S ε α} {e : ε} (h : x.converse server t = ⟨log, .error e, t'⟩) :
    (tryCatch x handle).converse server t =
      let rest := (handle e).converse server t'
      ⟨log ++ rest.messages, rest.result, rest.state⟩ :=
  Program.converse_bind_of_eq h _

end

theorem messages_map (x : Sql S ε α) (f : α → β) :
    ((x >>= fun a => pure (f a)).converse server t).messages =
      (x.converse server t).messages := by
  cases hc : x.converse server t with
  | mk log result t' =>
      cases result with
      | error e => rw [converse_bind_error hc]
      | ok a =>
          rw [converse_bind_ok hc, converse_pure]
          exact List.append_nil log

theorem converse_bind_pure (x : Sql S ε α) :
    (x >>= pure).converse server t = x.converse server t := by
  cases hc : x.converse server t with
  | mk log result t' =>
      cases result with
      | error e => exact converse_bind_error hc
      | ok a =>
          refine (converse_bind_ok hc).trans ?_
          rw [converse_pure]
          simp

end Sql

end AccountAuthority
