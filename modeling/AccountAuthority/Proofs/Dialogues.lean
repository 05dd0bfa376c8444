import AccountAuthority.Program

/-!
# Dialogues

A program gets on with whoever answers its requests, and of them nothing is known
but that they answer: they may refuse, forget, or say something else each time they
are asked.  All that is asked in such a dialogue, with the answers, is what a
statement about the behaviour of a program is about.  The dialogue of two programs
in a row is that of the first one and then that of the second one.
-/

namespace AccountAuthority

/-- What is asked, and what is answered. -/
abbrev Interface.Answered (I : Interface) :=
  (r : I.Request) × I.Answer r

/-- Whoever answers: what they answer in a state, and the state afterwards. -/
abbrev Interface.Respondent (I : Interface) (σ : Type) :=
  (r : I.Request) → σ → I.Answer r × σ

/-- How a program got on with a respondent: what was asked, the first request
first, the result, and the state of the respondent afterwards. -/
structure Dialogue (I : Interface) (σ α : Type) where
  asked : List I.Answered
  result : α
  state : σ

namespace Program

variable {I : Interface} {σ α β : Type}

/-- The dialogue of a program with a respondent. -/
def dialogue (answer : I.Respondent σ) : Program I α → σ → Dialogue I σ α
  | .done a, s => ⟨[], a, s⟩
  | .ask r next, s =>
      let rest := (next (answer r s).1).dialogue answer (answer r s).2
      ⟨⟨r, (answer r s).1⟩ :: rest.asked, rest.result, rest.state⟩

variable (answer : I.Respondent σ)

/-- A dialogue is a run of which the requests are kept. -/
theorem dialogue_eq_run (p : Program I α) (s : σ) :
    ((p.dialogue answer s).result, (p.dialogue answer s).state) =
      p.run answer s := by
  induction p generalizing s with
  | done a => rfl
  | ask r next ih => exact ih _ _

@[simp] theorem dialogue_pure (a : α) (s : σ) :
    (pure a : Program I α).dialogue answer s = ⟨[], a, s⟩ := rfl

theorem dialogue_bind (p : Program I α) (f : α → Program I β) (s : σ) :
    (p >>= f).dialogue answer s =
      let first := p.dialogue answer s
      let rest := (f first.result).dialogue answer first.state
      ⟨first.asked ++ rest.asked, rest.result, rest.state⟩ := by
  change (p.bind f).dialogue answer s = _
  induction p generalizing s with
  | done a => rfl
  | ask r next ih => simp only [Program.bind, dialogue, ih, List.cons_append]

end Program

end AccountAuthority
