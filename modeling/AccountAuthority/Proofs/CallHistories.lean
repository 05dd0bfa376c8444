import AccountAuthority.Proofs.Interleaving
import AccountAuthority.Proofs.SessionHistory
import AccountAuthority.Service.Sessions

/-!
# What calls hear

What a call asks of the repository depends on what it has been answered before.
A rule says what may be asked after which answers; that a service obeys a rule
is shown piece by piece, whatever the answers are.  In a schedule a call that
obeys a rule has heard what the repository did answer at its earlier turns.
-/

namespace AccountAuthority

/-- A request to the repository and an answer to it. -/
structure Exchange where
  request : RepositoryRequest
  answer : request.Answer

/-- The repository answers a request so in some store. -/
def RepositoryRequest.MayAnswer (r : RepositoryRequest) (answer : r.Answer) :
    Prop :=
  ∃ (s : Store) (fresh : FreshIds), answer = (s.perform r fresh).1

/-- What a call has asked and been answered, the latest first. -/
abbrev History := List Exchange

/-- What may be asked after a history. -/
abbrev Rule := History → RepositoryRequest → Prop

namespace Program

variable {α β : Type} {φ : Rule}

/-- Whatever it may be answered, a service asks the repository only for what the
rule allows, and what it ends with is as `ψ` says. -/
def Obeys (φ : Rule) (ψ : History → α → Prop) :
    Program Backend α → History → Prop
  | .done a, H => ψ H a
  | .ask (.repository r) next, H =>
      φ H r ∧ ∀ answer, r.MayAnswer answer →
        (next (.ok answer)).Obeys φ ψ (⟨r, answer⟩ :: H)
  | .ask _ next, H => ∀ answer, (next answer).Obeys φ ψ H

/-- The same for a call as the repository sees it. -/
def Abides (φ : Rule) (ψ : History → α → Prop) :
    Program RepositoryPort α → History → Prop
  | .done a, H => ψ H a
  | .ask r next, H =>
      φ H r ∧ ∀ answer, r.MayAnswer answer →
        (next answer).Abides φ ψ (⟨r, answer⟩ :: H)

theorem obeys_done {ψ : History → α → Prop} {a : α} {H : History} :
    (Program.done (I := Backend) a).Obeys φ ψ H ↔ ψ H a :=
  Iff.rfl

theorem Obeys.within
    {ψ : History → α → Prop} {p : Program Backend α} {H : History}
    (h : p.Obeys φ ψ H) (o : Surroundings) (n : ℕ) :
    (p.within o n).Abides φ ψ H := by
  induction p generalizing H n with
  | done a => exact h
  | ask r next ih =>
      cases r with
      | repository r =>
          obtain ⟨hr, hnext⟩ := h
          exact ⟨hr, fun answer hmay => ih _ (hnext answer hmay) (n + 1)⟩
      | _ => exact ih _ (h _) (n + 1)

theorem Obeys.mono
    {ψ ψ' : History → α → Prop} {p : Program Backend α} {H : History}
    (h : p.Obeys φ ψ H) (hψ : ∀ H a, ψ H a → ψ' H a) : p.Obeys φ ψ' H := by
  induction p generalizing H with
  | done a => exact hψ H a h
  | ask r next ih =>
      cases r with
      | repository r =>
          obtain ⟨hr, hnext⟩ := h
          exact ⟨hr, fun answer hmay => ih _ (hnext answer hmay)⟩
      | _ => exact fun answer => ih answer (h answer)

theorem obeys_bind
    {ψ : History → β → Prop} {p : Program Backend α}
    {f : α → Program Backend β} {H : History} :
    (p.bind f).Obeys φ ψ H ↔ p.Obeys φ (fun H a => (f a).Obeys φ ψ H) H := by
  induction p generalizing H with
  | done a => rfl
  | ask r next ih =>
      cases r with
      | repository r =>
          exact and_congr_right fun _ => forall_congr' fun answer =>
            forall_congr' fun _ => ih _
      | _ => exact forall_congr' fun answer => ih answer

theorem abides_done {ψ : History → α → Prop} {a : α} {H : History} :
    (Program.done (I := RepositoryPort) a).Abides φ ψ H ↔ ψ H a :=
  Iff.rfl

theorem abides_ask
    {ψ : History → α → Prop} {r : RepositoryRequest}
    {next : r.Answer → Program RepositoryPort α} {H : History} :
    (Program.ask (I := RepositoryPort) r next).Abides φ ψ H ↔
      φ H r ∧ ∀ answer, r.MayAnswer answer →
        (next answer).Abides φ ψ (⟨r, answer⟩ :: H) :=
  Iff.rfl

theorem Abides.map
    {ψ : History → β → Prop} {p : Program RepositoryPort α} {f : α → β}
    {H : History} (h : p.Abides φ (fun H a => ψ H (f a)) H) :
    (f <$> p).Abides φ ψ H := by
  induction p generalizing H with
  | done a => exact h
  | ask r next ih =>
      obtain ⟨hr, hnext⟩ := h
      exact ⟨hr, fun answer hmay => ih answer (hnext answer hmay)⟩

end Program

/-! ## Services -/

namespace Service

variable {α β : Type} {φ : Rule} {H : History}

theorem obeys_ask_repository
    {r : RepositoryRequest}
    {ψ : History → Except RepositoryError r.Answer → Prop} :
    (ask (.repository r)).Obeys φ ψ H ↔
      φ H r ∧ ∀ answer, r.MayAnswer answer →
        ψ (⟨r, answer⟩ :: H) (.ok answer) :=
  Iff.rfl

/-- What is not asked of the repository leaves the history as it is. -/
theorem obeys_ask
    {r : ServiceRequest} (hr : ∀ q, r ≠ .repository q)
    {ψ : History → r.Answer → Prop} :
    (ask r).Obeys φ ψ H ↔ ∀ answer, ψ H answer := by
  cases r with
  | repository q => exact absurd rfl (hr q)
  | _ => rfl

/-- A service obeys the rule, and `ψ` holds of its result if it has one. -/
def Ensures (φ : Rule) (H : History) (x : Service α) (ψ : History → α → Prop) :
    Prop :=
  x.run.Obeys φ (fun H result => ∀ a, result = .ok a → ψ H a) H

@[simp] theorem ensures_pure {ψ : History → α → Prop} {a : α} :
    Ensures φ H (pure a) ψ ↔ ψ H a := by
  constructor
  · exact fun h => h a rfl
  · intro h b hb
    exact Except.ok.inj hb ▸ h

@[simp] theorem ensures_throw {ψ : History → α → Prop} {e : ServiceError} :
    Ensures φ H (throw e) ψ := by
  intro a h
  cases h

@[simp] theorem ensures_bind
    {ψ : History → β → Prop} {x : Service α} {k : α → Service β} :
    Ensures φ H (x >>= k) ψ ↔
      Ensures φ H x (fun H a => Ensures φ H (k a) ψ) := by
  unfold Ensures
  refine Program.obeys_bind.trans ?_
  constructor
  · intro h
    refine h.mono fun H result hresult a ha => ?_
    subst ha
    exact hresult
  · intro h
    refine h.mono fun H result hresult => ?_
    cases result with
    | ok a => exact hresult a rfl
    | error e => exact fun a ha => by cases ha

/-- The type of an answer is computed from the request, so nothing is looked up
by it. -/
@[simp] theorem ensures_repository
    {r : RepositoryRequest} {ψ : History → r.Answer → Prop} :
    @Ensures (no_index r.Answer) φ H (repository r) ψ ↔
      φ H r ∧ ∀ answer, r.MayAnswer answer → ψ (⟨r, answer⟩ :: H) answer := by
  refine and_congr_right fun _ => forall_congr' fun answer => ?_
  exact forall_congr' fun _ => ensures_pure

theorem ensures_ask
    {r : ServiceRequest} (hr : ∀ q, r ≠ .repository q)
    {ψ : History → r.Answer → Prop} :
    Ensures φ H (liftM (ask r)) ψ ↔ ∀ answer, ψ H answer := by
  refine Program.obeys_bind.trans ((obeys_ask hr).trans ?_)
  exact forall_congr' fun answer => ensures_pure

@[simp] theorem ensures_now {ψ : History → Instant → Prop} :
    Ensures φ H now ψ ↔ ∀ time, ψ H time :=
  ensures_ask (by simp)

@[simp] theorem ensures_freshId {ψ : History → Uuid → Prop} :
    Ensures φ H freshId ψ ↔ ∀ id, ψ H id :=
  ensures_ask (by simp)

@[simp] theorem ensures_freshToken {ψ : History → String → Prop} :
    Ensures φ H freshToken ψ ↔
      ∀ bytes, ψ H (BearerToken.ofBytes bytes) := by
  rw [freshToken, ensures_bind, ensures_ask (by simp)]
  simp only [ensures_pure]

@[simp] theorem ensures_notify
    {notice : Notice} {ψ : History → Unit → Prop} :
    Ensures φ H (notify notice) ψ ↔ ψ H () := by
  rw [notify, ensures_bind, ensures_ask (by simp)]
  simp only [ensures_pure]
  exact ⟨fun h => h (.ok ()), fun h _ => h⟩

theorem ensures_signFor
    {c : ServiceSettings} {user : User} {session : SessionId}
    {ψ : History → String → Prop} (h : ∀ token, ψ H token) :
    Ensures φ H (signFor c user session) ψ := by
  rw [signFor, ensures_bind, ensures_ask (by simp)]
  intro answer
  cases answer with
  | ok token => exact ensures_pure.mpr (h token)
  | error text => exact ensures_throw

/-- A service that ensures `ψ`, as the repository sees it. -/
theorem Ensures.abides
    {x : Service α} {ψ : History → α → Prop} (h : Ensures φ H x ψ)
    {f : Except ServiceError α → β} {ψ' : History → β → Prop}
    (hψ : ∀ H result, (∀ a, result = .ok a → ψ H a) → ψ' H (f result))
    (o : Surroundings) (n : ℕ) :
    (f <$> x.run.within o n).Abides φ ψ' H :=
  Program.Abides.map ((Program.Obeys.mono h hψ).within o n)

end Service

-- From here on services are taken apart by the lemmas above.
attribute [irreducible] Service.Ensures Program.Obeys Program.Abides

/-! ## Schedules -/

namespace Pool

variable {ι α : Type} [DecidableEq ι] {p : Pool ι α}

/-- What a call asks at its turn after the schedule `pre`, and the answer that
it gets. -/
structure Hears (p : Pool ι α) (pre : List (Turn ι)) (t : Turn ι)
    (e : Exchange) : Prop where
  asks : ∃ next, (p.run pre).calls t.call = .ask e.request next
  answer : e.answer = ((p.run pre).store.perform e.request t.fresh).1

/-- A call has heard an answer at one of its turns. -/
def HasHeard (p : Pool ι α) (ts : List (Turn ι)) (i : ι) (e : Exchange) : Prop :=
  ∃ pre t post, ts = pre ++ t :: post ∧ t.call = i ∧ p.Hears pre t e

theorem HasHeard.concat
    {ts : List (Turn ι)} {i : ι} {e : Exchange} (h : p.HasHeard ts i e)
    (t : Turn ι) : p.HasHeard (ts ++ [t]) i e := by
  obtain ⟨pre, u, post, rfl, hcall, hhears⟩ := h
  exact ⟨pre, u, post ++ [t], by simp, hcall, hhears⟩

theorem Hears.store
    {pre : List (Turn ι)} {t : Turn ι} {e : Exchange} (h : p.Hears pre t e) :
    (p.run (pre ++ [t])).store =
      Operation.apply ⟨e.request, t.fresh⟩ (p.run pre).store := by
  obtain ⟨next, hnext⟩ := h.asks
  rw [run_concat]
  exact turn_store hnext

/-- A call that has obeyed its rule all along goes on to obey it. -/
theorem abides_run
    {φ : ι → Rule} {ψ : ι → History → α → Prop}
    (h : ∀ i, (p.calls i).Abides (φ i) (ψ i) []) (ts : List (Turn ι)) (i : ι) :
    ∃ H, ((p.run ts).calls i).Abides (φ i) (ψ i) H ∧
      ∀ e ∈ H, p.HasHeard ts i e := by
  induction ts using List.reverseRecOn with
  | nil => exact ⟨[], h i, fun _ he => absurd he List.not_mem_nil⟩
  | append_singleton ts t ih =>
      obtain ⟨H, habides, hheard⟩ := ih
      have hheard' : ∀ e ∈ H, p.HasHeard (ts ++ [t]) i e :=
        fun e he => (hheard e he).concat t
      rw [run_concat]
      by_cases hcall : t.call = i
      · subst hcall
        cases hnext : (p.run ts).calls t.call with
        | done a =>
            rw [turn_of_done hnext]
            exact ⟨H, habides, hheard'⟩
        | ask r next =>
            rw [turn_calls_self hnext]
            rw [hnext, Program.abides_ask] at habides
            refine ⟨_, habides.2 _ ⟨_, t.fresh, rfl⟩,
              List.forall_mem_cons.mpr ⟨?_, hheard'⟩⟩
            exact ⟨ts, t, [], rfl, rfl, ⟨next, hnext⟩, rfl⟩
      · rw [turn_calls_of_ne _ fun heq => hcall heq.symm]
        exact ⟨H, habides, hheard'⟩

/-- What a call asks at its turn is what its rule allows after what it has
heard. -/
theorem Hears.allowed
    {φ : ι → Rule} {ψ : ι → History → α → Prop}
    (h : ∀ i, (p.calls i).Abides (φ i) (ψ i) []) {pre : List (Turn ι)}
    {t : Turn ι} {e : Exchange} (hhears : p.Hears pre t e) :
    ∃ H, φ t.call H e.request ∧ ∀ e ∈ H, p.HasHeard pre t.call e := by
  obtain ⟨H, habides, hheard⟩ := abides_run h pre t.call
  obtain ⟨next, hnext⟩ := hhears.asks
  rw [hnext, Program.abides_ask] at habides
  exact ⟨H, habides.1, hheard⟩

/-- A call that has ended has ended as its rule says. -/
theorem ended_run
    {φ : ι → Rule} {ψ : ι → History → α → Prop}
    (h : ∀ i, (p.calls i).Abides (φ i) (ψ i) []) {ts : List (Turn ι)} {i : ι}
    {a : α} (ha : (p.run ts).result? i = some a) :
    ∃ H, ψ i H a ∧ ∀ e ∈ H, p.HasHeard ts i e := by
  obtain ⟨H, habides, hheard⟩ := abides_run h ts i
  rw [result?_eq_some_iff.mp ha, Program.abides_done] at habides
  exact ⟨H, habides, hheard⟩

/-- A turn leaves the store alone, or performs what the call asks. -/
theorem store_concat
    (p : Pool ι α) (pre : List (Turn ι)) (t : Turn ι) :
    (p.run (pre ++ [t])).store = (p.run pre).store ∨ ∃ e, p.Hears pre t e := by
  cases hcall : (p.run pre).calls t.call with
  | done a =>
      rw [run_concat, turn_of_done hcall]
      exact Or.inl rfl
  | ask r next =>
      let answer := ((p.run pre).store.perform r t.fresh).1
      exact Or.inr ⟨⟨r, answer⟩, ⟨next, hcall⟩, rfl⟩

end Pool

/-! ## Sessions along a schedule -/

theorem Store.eq_of_mem_createSession
    {s : Store} {x y : Session} {t : RefreshToken} {now : Instant}
    (hy : y ∈ (s.createSession x t now).2.sessions.rows) (hid : y.id = x.id) :
    y = x := by
  rcases Table.mem_rows_insert.mp hy with hyx | ⟨-, hne⟩
  · exact hyx
  · exact absurd hid hne

/-- A session with a name that an operation has drawn is the one that it was asked
to open. -/
theorem Operation.opened_of_name
    {op : Operation} {s : Store} {y : Session} (hname : .session y.id ∈ op.names)
    (hy : y ∈ (op.apply s).sessions.rows) :
    ∃ t now, op.request = .createSession y t now := by
  obtain ⟨r, fresh⟩ := op
  cases r with
  | createSession x t now =>
      have hid : y.id = x.id := by simpa [names] using hname
      obtain rfl : y = x := Store.eq_of_mem_createSession hy hid
      exact ⟨t, now, rfl⟩
  | rotate r => simp [names] at hname
  | _ => exact absurd hname List.not_mem_nil

/-- A session is the one that an operation was asked to open, or it has come
from one that was there. -/
theorem Operation.opened_or_later
    {op : Operation} {s : Store} (hopen : op.request.OpensProperly)
    {y : Session} (hy : y ∈ (op.apply s).sessions.rows) :
    (∃ t now, op.request = .createSession y t now) ∨
      ∃ x ∈ s.sessions.rows, x.Later y :=
  (op.session_origin hopen hy).imp_left fun hname => opened_of_name hname hy

namespace Pool

variable {ι α : Type} [DecidableEq ι] {p : Pool ι α}

/-- What holds of the sessions that were there, and of a session when it is
opened, and is kept by every turn, holds of every session after a schedule. -/
theorem session_induction
    {Q : List (Turn ι) → Session → Prop}
    (hproper : ∀ {pre t e}, p.Hears pre t e → e.request.OpensProperly)
    (hstart : ∀ x ∈ p.store.sessions.rows, Q [] x)
    (hopened : ∀ pre t x token now answer,
      p.Hears pre t ⟨.createSession x token now, answer⟩ → Q (pre ++ [t]) x)
    (hkept : ∀ pre t x y, x ∈ (p.run pre).store.sessions.rows →
      y ∈ (p.run (pre ++ [t])).store.sessions.rows → x.Later y → Q pre x →
      Q (pre ++ [t]) y)
    {ts : List (Turn ι)} {y : Session}
    (hy : y ∈ (p.run ts).store.sessions.rows) : Q ts y := by
  induction ts using List.reverseRecOn generalizing y with
  | nil => exact hstart y hy
  | append_singleton ts t ih =>
      rcases store_concat p ts t with hsame | ⟨e, hhears⟩
      · have hy' := hy
        rw [hsame] at hy'
        exact hkept ts t y y hy' hy (.refl y) (ih hy')
      · have hy' := hy
        rw [hhears.store] at hy'
        rcases Operation.opened_or_later (hproper hhears) hy' with
          ⟨token, now, hrequest⟩ | ⟨x, hx, hlater⟩
        · obtain ⟨r, answer⟩ := e
          obtain rfl : r = _ := hrequest
          exact hopened ts t y token now answer hhears
        · exact hkept ts t x y hx hy hlater (ih hx)

end Pool

end AccountAuthority
