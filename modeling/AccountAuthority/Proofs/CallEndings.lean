import AccountAuthority.Proofs.ServiceCalls

/-!
# How calls end

What a service does is told here together with how it ends, be it with a result
or with an error.  A call has a history at every time: it is what the call has
asked at its turns and been answered, all of it, and each request in it was
allowed by the rule of the call when it was made.
-/

namespace AccountAuthority

namespace Service

variable {α β : Type} {φ : Rule} {H : History}

/-- A service obeys the rule, and `ψ` holds of the way in which it ends. -/
def Ends (φ : Rule) (H : History) (x : Service α)
    (ψ : History → Except ServiceError α → Prop) : Prop :=
  x.run.Obeys φ ψ H

theorem ends_pure {ψ : History → Except ServiceError α → Prop} {a : α} :
    Ends φ H (pure a) ψ ↔ ψ H (.ok a) :=
  Program.obeys_done

theorem ends_throw
    {ψ : History → Except ServiceError α → Prop} {e : ServiceError} :
    Ends φ H (throw e) ψ ↔ ψ H (.error e) :=
  Program.obeys_done

/-- How a service ends that goes on with `k` if nothing has failed. -/
def endsThen
    (φ : Rule) (k : α → Service β) (ψ : History → Except ServiceError β → Prop)
    (H : History) : Except ServiceError α → Prop
  | .ok a => Ends φ H (k a) ψ
  | .error e => ψ H (.error e)

theorem endsThen_ok
    {k : α → Service β} {ψ : History → Except ServiceError β → Prop} {a : α} :
    endsThen φ k ψ H (.ok a) ↔ Ends φ H (k a) ψ :=
  Iff.rfl

theorem ends_bind
    {ψ : History → Except ServiceError β → Prop} {x : Service α}
    {k : α → Service β} :
    Ends φ H (x >>= k) ψ ↔ Ends φ H x (endsThen φ k ψ) := by
  unfold Ends
  refine Program.obeys_bind.trans ?_
  have hcont (H : History) (result : Except ServiceError α) :
      (ExceptT.bindCont k result : Program Backend _).Obeys φ ψ H ↔
        endsThen φ k ψ H result := by
    cases result with
    | ok a => rfl
    | error e => exact Program.obeys_done
  exact ⟨fun h => h.mono fun H r => (hcont H r).mp,
    fun h => h.mono fun H r => (hcont H r).mpr⟩

/-- The repository that calls share does not fail. -/
theorem ends_repository
    {r : RepositoryRequest} {ψ : History → Except ServiceError r.Answer → Prop} :
    @Ends (no_index r.Answer) φ H (repository r) ψ ↔
      φ H r ∧ ∀ answer, r.MayAnswer answer → ψ (⟨r, answer⟩ :: H) (.ok answer) := by
  refine Program.obeys_bind.trans
    (Program.obeys_bind.trans (obeys_ask_repository.trans ?_))
  exact and_congr_right fun _ => forall_congr' fun answer =>
    forall_congr' fun _ => Program.obeys_done.trans Program.obeys_done

theorem ends_ask
    {r : ServiceRequest} (hr : ∀ q, r ≠ .repository q)
    {ψ : History → Except ServiceError r.Answer → Prop} :
    Ends φ H (liftM (ask r)) ψ ↔ ∀ answer, ψ H (.ok answer) := by
  refine Program.obeys_bind.trans ((obeys_ask hr).trans ?_)
  exact forall_congr' fun answer => Program.obeys_done

theorem ends_now {ψ : History → Except ServiceError Instant → Prop} :
    Ends φ H now ψ ↔ ∀ time, ψ H (.ok time) :=
  ends_ask (by simp)

theorem ends_hashPassword
    {c : ServiceSettings} {password : String}
    {ψ : History → Except ServiceError String → Prop} :
    Ends φ H (hashPassword c password) ψ ↔
      ∀ salt, ψ H (.ok (c.hasher.hash salt password)) := by
  rw [hashPassword, ends_bind, ends_ask (by simp)]
  exact forall_congr' fun salt => ends_pure

theorem ends_refuseInvalid
    {errors : List FieldError} {ψ : History → Except ServiceError Unit → Prop}
    (hok : ψ H (.ok ())) (herror : ∀ e, ψ H (.error e)) :
    Ends φ H (refuseInvalid errors) ψ := by
  unfold refuseInvalid
  split
  · exact ends_pure.mpr hok
  · exact ends_throw.mpr (herror _)

/-- A service as the repository sees it, with what is made of its result. -/
theorem Ends.abides
    {x : Service α} {f : Except ServiceError α → β} {ψ : History → β → Prop}
    (h : Ends φ H x fun H result => ψ H (f result)) (o : Surroundings) (n : ℕ) :
    (f <$> x.run.within o n).Abides φ ψ H :=
  Program.Abides.map (Program.Obeys.within h o n)

end Service

/-! ## Histories -/

/-- Every request of a history was allowed when it was made. -/
inductive History.Lawful (φ : Rule) : History → Prop
  | nil : Lawful φ []
  | cons {H : History} {e : Exchange} (rest : Lawful φ H)
      (allowed : φ H e.request) : Lawful φ (e :: H)

namespace Pool

variable {ι α : Type} [DecidableEq ι] {p : Pool ι α}

theorem hasHeard_concat
    {ts : List (Turn ι)} {t : Turn ι} {i : ι} {e : Exchange} :
    p.HasHeard (ts ++ [t]) i e ↔
      p.HasHeard ts i e ∨ (t.call = i ∧ p.Hears ts t e) := by
  constructor
  · rintro ⟨pre, u, post, hsplit, hcall, hhears⟩
    rcases List.eq_nil_or_concat' post with rfl | ⟨init, last, rfl⟩
    · obtain ⟨rfl, hlast⟩ := List.append_inj' hsplit rfl
      obtain rfl := List.singleton_inj.mp hlast
      exact Or.inr ⟨hcall, hhears⟩
    · rw [← List.cons_append, ← List.append_assoc] at hsplit
      obtain ⟨rfl, -⟩ := List.append_inj' hsplit rfl
      exact Or.inl ⟨pre, u, init, rfl, hcall, hhears⟩
  · rintro (h | ⟨hcall, hhears⟩)
    · exact h.concat t
    · exact ⟨ts, t, [], rfl, hcall, hhears⟩

theorem HasHeard.mono
    {pre ts : List (Turn ι)} {i : ι} {e : Exchange} (h : p.HasHeard pre i e)
    (hts : pre <+: ts) : p.HasHeard ts i e := by
  obtain ⟨rest, rfl⟩ := hts
  obtain ⟨before, t, after, rfl, hat⟩ := h
  exact ⟨before, t, after ++ rest, by simp, hat⟩

/-- There is one exchange at every turn. -/
theorem Hears.unique
    {pre : List (Turn ι)} {t : Turn ι} {e e' : Exchange} (h : p.Hears pre t e)
    (h' : p.Hears pre t e') : e = e' := by
  obtain ⟨r, answer⟩ := e
  obtain ⟨r', answer'⟩ := e'
  obtain ⟨next, hnext⟩ := h.asks
  obtain ⟨next', hnext'⟩ := h'.asks
  rw [hnext] at hnext'
  obtain rfl : r = r' := (Program.ask.inj hnext').1
  exact congrArg _ (h.answer.trans h'.answer.symm)

/-- What a call may do next depends on all that it has heard so far. -/
structure Remembers
    (p : Pool ι α) (φ : ι → Rule) (ψ : ι → History → α → Prop)
    (ts : List (Turn ι)) (i : ι) (H : History) : Prop where
  abides : ((p.run ts).calls i).Abides (φ i) (ψ i) H
  lawful : H.Lawful (φ i)
  heard : ∀ e, e ∈ H ↔ p.HasHeard ts i e

variable {φ : ι → Rule} {ψ : ι → History → α → Prop}

/-- A request at a turn is allowed, and its answer is remembered. -/
theorem Remembers.hears
    {ts : List (Turn ι)} {t : Turn ι} {H : History} {e : Exchange}
    (h : p.Remembers φ ψ ts t.call H) (hhears : p.Hears ts t e) :
    φ t.call H e.request ∧ p.Remembers φ ψ (ts ++ [t]) t.call (e :: H) := by
  obtain ⟨next, hnext⟩ := hhears.asks
  have habides := h.abides
  rw [hnext, Program.abides_ask] at habides
  refine ⟨habides.1, ?_, .cons h.lawful habides.1, fun e' => ?_⟩
  · rw [run_concat, turn_calls_self hnext, ← hhears.answer]
    exact habides.2 e.answer ⟨_, t.fresh, hhears.answer⟩
  · rw [List.mem_cons, hasHeard_concat, h.heard e', or_comm]
    refine or_congr_right ⟨?_, fun ⟨_, hhears'⟩ => hhears'.unique hhears⟩
    rintro rfl
    exact ⟨rfl, hhears⟩

/-- A call hears nothing at a turn of another call, nor after it has ended. -/
theorem Remembers.of_not_hears
    {ts : List (Turn ι)} {t : Turn ι} {i : ι} {H : History}
    (h : p.Remembers φ ψ ts i H) (hcalls : (p.run (ts ++ [t])).calls i =
      (p.run ts).calls i)
    (hnone : ¬∃ e, t.call = i ∧ p.Hears ts t e) :
    p.Remembers φ ψ (ts ++ [t]) i H where
  abides := hcalls ▸ h.abides
  lawful := h.lawful
  heard e := by
    rw [hasHeard_concat, h.heard e]
    exact ⟨Or.inl, fun he => he.resolve_right fun hhears => hnone ⟨e, hhears⟩⟩

/-- Whatever the schedule, every call remembers what it has heard. -/
theorem exists_remembers
    (h : ∀ i, (p.calls i).Abides (φ i) (ψ i) []) (ts : List (Turn ι)) (i : ι) :
    ∃ H, p.Remembers φ ψ ts i H := by
  induction ts using List.reverseRecOn with
  | nil =>
      refine ⟨[], h i, .nil, fun e => ⟨fun he => absurd he List.not_mem_nil, ?_⟩⟩
      rintro ⟨pre, t, post, hsplit, -⟩
      simp at hsplit
  | append_singleton ts t ih =>
      obtain ⟨H, hremembers⟩ := ih
      by_cases hcall : t.call = i
      · subst hcall
        cases hprogram : (p.run ts).calls t.call with
        | ask r next =>
            let e : Exchange := ⟨r, ((p.run ts).store.perform r t.fresh).1⟩
            have hhears : p.Hears ts t e := ⟨⟨next, hprogram⟩, rfl⟩
            exact ⟨e :: H, (hremembers.hears hhears).2⟩
        | done a =>
            refine ⟨H, hremembers.of_not_hears ?_ ?_⟩
            · rw [run_concat, turn_of_done hprogram]
            · rintro ⟨e, -, ⟨next, hnext⟩, -⟩
              rw [hprogram] at hnext
              cases hnext
      · refine ⟨H, hremembers.of_not_hears ?_ fun ⟨_, heq, _⟩ => hcall heq⟩
        rw [run_concat]
        exact turn_calls_of_ne _ fun heq => hcall heq.symm

end Pool

end AccountAuthority
