import AccountAuthority.Proofs.Interleaving
import AccountAuthority.Service.Accounts
import AccountAuthority.Service.Credentials
import AccountAuthority.Service.Deletion

/-!
# Calls that run one after the other

A call of a service, or a poll of the worker, that finishes before the next one
begins works on two books: the store and the queue.  What it asks for besides,
and the identifiers that are drawn for it, are its circumstances.  That a call
leads the books to where a statement holds is shown piece by piece along its
program, whatever the circumstances are; what every call keeps, all calls in a
row keep.
-/

namespace AccountAuthority

/-- The store and the queue, and the operations that the store has been through,
the first one first. -/
structure Books where
  store : Store := .empty
  queue : Queue := .empty
  log : List Operation := []

namespace Books

/-- The books before the first call. -/
def empty : Books := {}

/-- The books after a request to the repository. -/
def perform (b : Books) (r : RepositoryRequest) (fresh : FreshIds) : Books :=
  { b with
    store := (b.store.perform r fresh).2
    log := b.log ++ [⟨r, fresh⟩] }

/-- The books after a request to the queue. -/
def enter (b : Books) (r : QueueRequest) (jobId : String) : Books :=
  { b with queue := (b.queue.perform r jobId).2 }

section

variable (b : Books) (r : RepositoryRequest) (fresh : FreshIds)
  (q : QueueRequest) (jobId : String)

@[simp] theorem perform_store :
    (b.perform r fresh).store = (b.store.perform r fresh).2 := rfl

@[simp] theorem perform_queue : (b.perform r fresh).queue = b.queue := rfl

@[simp] theorem perform_log :
    (b.perform r fresh).log = b.log ++ [⟨r, fresh⟩] := rfl

@[simp] theorem enter_store : (b.enter q jobId).store = b.store := rfl

@[simp] theorem enter_queue :
    (b.enter q jobId).queue = (b.queue.perform q jobId).2 := rfl

@[simp] theorem enter_log : (b.enter q jobId).log = b.log := rfl

end

end Books

/-- What a call is answered, other than by the store and the queue, and the
identifiers for what it puts in: at its `n`th request, counted from zero. -/
structure Circumstances where
  around : Surroundings
  fresh : ℕ → FreshIds
  jobIds : ℕ → String

namespace Program

variable {α β : Type}

/-- Carry a call out from its `n`th request on. -/
def carryOut (o : Circumstances) (n : ℕ) :
    Program Backend α → Books → α × Books
  | .done a, b => (a, b)
  | .ask (.repository r) next, b =>
      (next (.ok (b.store.perform r (o.fresh n)).1)).carryOut o (n + 1)
        (b.perform r (o.fresh n))
  | .ask (.queue r) next, b =>
      (next (b.queue.perform r (o.jobIds n)).1).carryOut o (n + 1)
        (b.enter r (o.jobIds n))
  | .ask r next, b => (next (o.around n r)).carryOut o (n + 1) b

/-- However a call is carried out while the clock shows times in `T`, it ends in
books and with a value that `ψ` holds of. -/
def Leads (T : Instant → Prop) (ψ : α → Books → Prop) :
    Program Backend α → Books → Prop
  | .done a, b => ψ a b
  | .ask (.repository r) next, b => ∀ fresh,
      (next (.ok (b.store.perform r fresh).1)).Leads T ψ (b.perform r fresh)
  | .ask (.queue r) next, b => ∀ jobId,
      (next (b.queue.perform r jobId).1).Leads T ψ (b.enter r jobId)
  | .ask .now next, b => ∀ t, T t → (next t).Leads T ψ b
  | .ask _ next, b => ∀ answer, (next answer).Leads T ψ b

variable {T : Instant → Prop}

theorem Leads.carryOut
    {ψ : α → Books → Prop} {p : Program Backend α} {b : Books}
    (h : p.Leads T ψ b) {o : Circumstances} (ho : ∀ n, T (o.around n .now))
    (n : ℕ) : ψ (p.carryOut o n b).1 (p.carryOut o n b).2 := by
  induction p generalizing b n with
  | done a => exact h
  | ask r next ih =>
      cases r with
      | repository r => exact ih _ (h (o.fresh n)) (n + 1)
      | queue r => exact ih _ (h (o.jobIds n)) (n + 1)
      | now => exact ih _ (h _ (ho n)) (n + 1)
      | _ => exact ih _ (h _) (n + 1)

theorem Leads.mono
    {ψ ψ' : α → Books → Prop} {p : Program Backend α} {b : Books}
    (h : p.Leads T ψ b) (hψ : ∀ a b, ψ a b → ψ' a b) : p.Leads T ψ' b := by
  induction p generalizing b with
  | done a => exact hψ a b h
  | ask r next ih =>
      cases r with
      | repository r => exact fun fresh => ih _ (h fresh)
      | queue r => exact fun jobId => ih _ (h jobId)
      | now => exact fun t ht => ih t (h t ht)
      | _ => exact fun answer => ih answer (h answer)

theorem leads_bind
    {ψ : β → Books → Prop} {p : Program Backend α} {f : α → Program Backend β}
    {b : Books} :
    (p >>= f).Leads T ψ b ↔ p.Leads T (fun a b => (f a).Leads T ψ b) b := by
  change (p.bind f).Leads T ψ b ↔ _
  induction p generalizing b with
  | done a => rfl
  | ask r next ih =>
      cases r with
      | repository r => exact forall_congr' fun fresh => ih _
      | queue r => exact forall_congr' fun jobId => ih _
      | now => exact forall_congr' fun t => forall_congr' fun _ => ih t
      | _ => exact forall_congr' fun answer => ih answer

theorem leads_pure {ψ : α → Books → Prop} {a : α} {b : Books} :
    (pure a : Program Backend α).Leads T ψ b ↔ ψ a b :=
  Iff.rfl

theorem leads_ask_repository
    {r : RepositoryRequest} {b : Books}
    {ψ : Except RepositoryError r.Answer → Books → Prop} :
    (Service.ask (.repository r)).Leads T ψ b ↔
      ∀ fresh, ψ (.ok (b.store.perform r fresh).1) (b.perform r fresh) :=
  Iff.rfl

theorem leads_ask_queue
    {r : QueueRequest} {b : Books}
    {ψ : Except QueueError r.Answer → Books → Prop} :
    (Service.ask (.queue r)).Leads T ψ b ↔
      ∀ jobId, ψ (b.queue.perform r jobId).1 (b.enter r jobId) :=
  Iff.rfl

theorem leads_ask_now {b : Books} {ψ : Instant → Books → Prop} :
    (Service.ask .now).Leads T ψ b ↔ ∀ t, T t → ψ t b :=
  Iff.rfl

/-- What is asked neither of the store nor of the queue leaves the books as they
are. -/
theorem leads_ask
    {r : ServiceRequest} (hrepository : ∀ q, r ≠ .repository q)
    (hqueue : ∀ q, r ≠ .queue q) {b : Books} {ψ : r.Answer → Books → Prop}
    (h : ∀ answer, ψ answer b) : (Service.ask r).Leads T ψ b := by
  cases r with
  | repository q => exact absurd rfl (hrepository q)
  | queue q => exact absurd rfl (hqueue q)
  | now => exact fun t _ => h t
  | _ => exact h

end Program

/-! ## Services -/

namespace Service

variable {α β : Type} {T : Instant → Prop} {b : Books} {φ : Books → Prop}

/-- A service ends in books that `φ` holds of if it fails, and in books and with
a result that `ψ` holds of if it does not. -/
def Leads (T : Instant → Prop) (φ : Books → Prop) (b : Books) (x : Service α)
    (ψ : α → Books → Prop) : Prop :=
  x.run.Leads T (fun
    | .ok a => ψ a
    | .error _ => φ) b

@[simp] theorem leads_pure {ψ : α → Books → Prop} {a : α} :
    Leads T φ b (pure a) ψ ↔ ψ a b :=
  Iff.rfl

@[simp] theorem leads_throw {ψ : α → Books → Prop} {e : ServiceError} :
    Leads T φ b (throw e) ψ ↔ φ b :=
  Iff.rfl

@[simp] theorem leads_bind
    {ψ : β → Books → Prop} {x : Service α} {k : α → Service β} :
    Leads T φ b (x >>= k) ψ ↔
      Leads T φ b x (fun a b => Leads T φ b (k a) ψ) := by
  unfold Leads
  refine Program.leads_bind.trans ⟨fun h => h.mono ?_, fun h => h.mono ?_⟩
  all_goals
    intro result b hresult
    cases result with
    | ok a => exact hresult
    | error e => exact hresult

theorem Leads.mono
    {ψ ψ' : α → Books → Prop} {x : Service α} (h : Leads T φ b x ψ)
    (hψ : ∀ a b, ψ a b → ψ' a b) : Leads T φ b x ψ' := by
  refine Program.Leads.mono h fun result b hresult => ?_
  cases result with
  | ok a => exact hψ a b hresult
  | error e => exact hresult

/-- The type of an answer is computed from the request, so nothing is looked up
by it. -/
@[simp] theorem leads_repository
    {r : RepositoryRequest} {ψ : r.Answer → Books → Prop} :
    @Leads (no_index r.Answer) T φ b (repository r) ψ ↔
      ∀ fresh, ψ (b.store.perform r fresh).1 (b.perform r fresh) :=
  Iff.rfl

theorem leads_queue
    {r : QueueRequest} {ψ : r.Answer → Books → Prop}
    (h : ∀ jobId answer, (b.queue.perform r jobId).1 = .ok answer →
      ψ answer (b.enter r jobId))
    (hfailed : ∀ jobId e, (b.queue.perform r jobId).1 = .error e →
      φ (b.enter r jobId)) :
    Leads T φ b (queue r) ψ := by
  rw [queue, leads_bind]
  intro jobId
  cases hresult : (b.queue.perform r jobId).1 with
  | ok answer => exact h jobId answer hresult
  | error e => exact hfailed jobId e hresult

@[simp] theorem leads_now {ψ : Instant → Books → Prop} :
    Leads T φ b now ψ ↔ ∀ t, T t → ψ t b :=
  Iff.rfl

theorem leads_ask
    {r : ServiceRequest} (hrepository : ∀ q, r ≠ .repository q)
    (hqueue : ∀ q, r ≠ .queue q) {ψ : r.Answer → Books → Prop}
    (h : ∀ answer, ψ answer b) : Leads T φ b (liftM (ask r)) ψ :=
  Program.leads_bind.mpr (Program.leads_ask hrepository hqueue h)

@[simp] theorem leads_freshId {ψ : Uuid → Books → Prop} :
    Leads T φ b freshId ψ ↔ ∀ id, ψ id b :=
  Iff.rfl

@[simp] theorem leads_freshToken {ψ : String → Books → Prop} :
    Leads T φ b freshToken ψ ↔
      ∀ bytes, ψ (BearerToken.ofBytes bytes) b :=
  Iff.rfl

@[simp] theorem leads_notify
    {notice : Notice} {ψ : Unit → Books → Prop} :
    Leads T φ b (notify notice) ψ ↔ ψ () b :=
  ⟨fun h => h (.ok ()), fun h _ => h⟩

@[simp] theorem leads_hashPassword
    {c : ServiceSettings} {password : String} {ψ : String → Books → Prop} :
    Leads T φ b (hashPassword c password) ψ ↔
      ∀ salt, ψ (c.hasher.hash salt password) b :=
  Iff.rfl

theorem leads_refuseInvalid
    {errors : List FieldError} {ψ : Unit → Books → Prop} (h : ψ () b)
    (hfailed : φ b) : Leads T φ b (refuseInvalid errors) ψ := by
  unfold refuseInvalid
  split
  · exact h
  · exact hfailed

theorem leads_signFor
    {c : ServiceSettings} {user : User} {session : SessionId}
    {ψ : String → Books → Prop} (h : ∀ token, ψ token b) (hfailed : φ b) :
    Leads T φ b (signFor c user session) ψ := by
  rw [signFor, leads_bind]
  refine leads_ask (by simp) (by simp) fun answer => ?_
  cases answer with
  | ok token => exact h token
  | error text => exact hfailed

theorem leads_providerIdentity
    {provider token : String} {ψ : ProviderIdentity × String → Books → Prop}
    (h : ∀ found, ψ found b) (hfailed : φ b) :
    Leads T φ b (providerIdentity provider token) ψ := by
  rw [providerIdentity, leads_bind]
  refine leads_ask (by simp) (by simp) fun answer => ?_
  split
  · exact hfailed
  · exact hfailed
  split
  · split
    · exact h _
    · exact hfailed
  · exact hfailed

end Service

-- From here on calls are taken apart by the lemmas above.
attribute [irreducible] Service.Leads Program.Leads

/-! ## Deletions -/

/-- The instant that the user is told who has asked for the deletion. -/
def DeletionRequestOutcome.announced? : DeletionRequestOutcome → Option Instant
  | requested user | alreadyRequested user => user.deletionScheduledFor
  | userNotFound | userDeleted => none

/-- The outcome of a deletion, as the worker takes note of it. -/
def FinalizeOutcome.noted (outcome : FinalizeOutcome) (blockedRetry : Span)
    (now : Instant) : DeletionResult :=
  match outcome with
  | notDue scheduledFor => .rescheduled scheduledFor
  | blockedLastAdmin => .rescheduled (Job.blockedUntil blockedRetry now)
  | outcome => .completed outcome

namespace Service

variable {T : Instant → Prop} {b : Books}

/-- A job is put in for the instant that is announced, if there is one. -/
theorem leads_requestDeletion
    {c : ServiceSettings} {actor : Actor} {target : UserId} {φ : Books → Prop}
    {ψ : DeletionRequestOutcome → Books → Prop}
    (h : ∀ time fresh, T time →
      let due := User.deletionDue c.gracePeriod time
      let outcome := (b.store.requestDeletion actor target due time fresh).1
      let b' := b.perform (.requestDeletion actor target due time) fresh
      (∀ scheduledFor jobId, outcome.announced? = some scheduledFor →
        ψ outcome (b'.enter (deletionJob c target scheduledFor time) jobId)) ∧
      (outcome.announced? = none → ψ outcome b')) :
    Leads T φ b (requestDeletion c actor target) ψ := by
  simp only [requestDeletion, leads_bind, leads_now, leads_repository]
  intro time htime fresh
  have hnext := h time fresh htime
  simp only [Store.perform] at hnext ⊢
  generalize (b.store.requestDeletion actor target _ time fresh).1 = outcome at hnext ⊢
  generalize b.perform _ fresh = b' at hnext ⊢
  cases outcome with
  | requested user | alreadyRequested user =>
      simp only [DeletionRequestOutcome.announced?] at hnext
      cases hscheduled : user.deletionScheduledFor with
      | none =>
          simp only [hscheduled, leads_pure]
          exact hnext.2 hscheduled
      | some scheduledFor =>
          simp only [hscheduled, leads_bind]
          refine leads_queue (fun jobId _ _ => ?_) fun jobId e he => by cases he
          exact leads_pure.mpr (hnext.1 scheduledFor jobId hscheduled)
  | userNotFound | userDeleted => exact leads_pure.mpr (hnext.2 rfl)

/-- A deletion takes the time once and asks the store once. -/
theorem leads_finalize
    {blockedRetry : Span} {payload : DeletionPayload} {trace : Option String}
    {ψ : DeletionResult → Books → Prop}
    (h : ∀ time fresh, T time →
      ψ ((b.store.finalizeDeletion payload.user trace time fresh).1.noted
          blockedRetry time)
        (b.perform (.finalizeDeletion payload.user trace time) fresh)) :
    (finalize blockedRetry payload trace).Leads T ψ b := by
  refine Program.leads_bind.mpr (Program.leads_ask_now.mpr fun time htime => ?_)
  refine Program.leads_bind.mpr (Program.leads_ask_repository.mpr fun fresh => ?_)
  have hresult := h time fresh htime
  simp only [Store.perform]
  cases houtcome : (b.store.finalizeDeletion payload.user trace time fresh).1 <;>
    rw [houtcome] at hresult <;> exact Program.leads_pure.mpr hresult

end Service

namespace Worker

variable {w : WorkerSettings} {T : Instant → Prop} {b : Books}

theorem leads_tell
    {r : QueueRequest} {applied : Applied}
    {ψ : Except QueueError Applied → Books → Prop}
    (h : ∀ result jobId, ψ result (b.enter r jobId)) :
    (tell r applied).Leads T ψ b := by
  refine Program.leads_bind.mpr (Program.leads_ask_queue.mpr fun jobId => ?_)
  split
  all_goals exact Program.leads_pure.mpr (h _ jobId)

/-- The request to the queue by which a deletion is noted. -/
def note (w : WorkerSettings) (job : Job) (result : DeletionResult)
    (now : Instant) (draw : Jitter) : QueueRequest :=
  match result with
  | .completed _ => .complete job.id now
  | .rescheduled runAt => .reschedule job.id runAt now
  | .failed e =>
      .fail job.id e.chain (some (w.retryAt job.attempts draw now)) now

theorem leads_process
    {job : Job} {ψ : Except QueueError Applied → Books → Prop}
    (hunread : ∀ e time jobId, T time → DeletionPayload.read job.payload = .error e →
      ∀ result, ψ result (b.enter (.fail job.id e.message none time) jobId))
    (hread : ∀ payload time fresh, T time →
      DeletionPayload.read job.payload = .ok payload →
      let outcome :=
        (b.store.finalizeDeletion payload.user none time fresh).1
      let b' := b.perform (.finalizeDeletion payload.user none time) fresh
      ∀ later draw jobId, T later → ∀ result, ψ result
        (b'.enter (note w job (outcome.noted w.blockedRetry time) later draw) jobId)) :
    (process w job).Leads T ψ b := by
  unfold process
  split
  next e he =>
    refine Program.leads_bind.mpr (Program.leads_ask_now.mpr fun time htime => ?_)
    exact leads_tell fun result jobId => hunread e time jobId htime he result
  next payload hpayload =>
    refine Program.leads_bind.mpr (Service.leads_finalize fun time fresh htime => ?_)
    have hnoted := hread payload time fresh htime hpayload
    dsimp only at hnoted
    generalize FinalizeOutcome.noted _ _ _ = result at hnoted ⊢
    cases result with
    | completed outcome =>
        refine Program.leads_bind.mpr (Program.leads_ask_now.mpr fun later hlater => ?_)
        exact leads_tell fun result jobId => hnoted later .least jobId hlater result
    | rescheduled runAt =>
        refine Program.leads_bind.mpr (Program.leads_ask_now.mpr fun later hlater => ?_)
        exact leads_tell fun result jobId => hnoted later .least jobId hlater result
    | failed e =>
        refine Program.leads_bind.mpr (Program.leads_ask_now.mpr fun later hlater => ?_)
        refine Program.leads_bind.mpr
          (Program.leads_ask (by simp) (by simp) fun draw => ?_)
        exact leads_tell fun result jobId => hnoted later draw jobId hlater result

/-- What is to be shown for the jobs of a batch, one after the other. -/
theorem leads_processAll
    {Φ : List Job → Books → Prop}
    (h : ∀ job jobs b, Φ (job :: jobs) b →
      (process w job).Leads T (fun _ => Φ jobs) b)
    (s : PollSummary) {jobs : List Job} {b : Books} (hb : Φ jobs b) :
    (processAll w s jobs).Leads T (fun _ => Φ []) b := by
  induction jobs generalizing s b with
  | nil => exact Program.leads_pure.mpr hb
  | cons job jobs ih =>
      refine Program.leads_bind.mpr ((h job jobs b hb).mono fun result b hb => ?_)
      exact ih (s.count result) hb

theorem leads_poll
    {Φ : List Job → Books → Prop}
    (h : ∀ job jobs b, Φ (job :: jobs) b →
      (process w job).Leads T (fun _ => Φ jobs) b)
    (hclaim : ∀ time jobId, T time →
      Φ (b.queue.claim Job.deletionType time WorkerSettings.lease w.batch).1
        (b.enter (.claim Job.deletionType time WorkerSettings.lease w.batch)
          jobId)) :
    (poll w).Leads T (fun _ => Φ []) b := by
  refine Program.leads_bind.mpr (Program.leads_ask_now.mpr fun time htime => ?_)
  refine Program.leads_bind.mpr (Program.leads_ask_queue.mpr fun jobId => ?_)
  refine Program.leads_bind.mpr ?_
  exact (leads_processAll h _ (hclaim time jobId htime)).mono fun _ _ hb =>
    Program.leads_pure.mpr hb

end Worker

/-! ## All calls -/

/-- A call of a service, or a poll of the worker. -/
inductive ServiceCall where
  | register (email password : String) (displayName : Option String)
      (device : Device)
  | login (email password : String) (device : Device)
  | exchange (provider token : String) (device : Device)
  | connect (user : UserId) (provider token : String)
  | refresh (rawToken : String) (device : Device)
  | logout (rawToken : String)
  | revokeSession (user : UserId) (session : SessionId)
  | revokeDevice (user : UserId) (device : String)
  | listSessions (user : UserId) (current : Option SessionId)
  | registerPushToken (user : UserId) (session : SessionId) (token : String)
      (platform : Option String)
  | requestReset (email : String)
  | confirmReset (rawToken password : String)
  | changePassword (user : UserId) (session : Option SessionId)
      (current new : String)
  | verifyEmail (rawToken : String)
  | changeRole (actor : Actor) (target : UserId) (role : Role)
  | changeStatus (actor : Actor) (target : UserId) (status : Status)
      (reason : Option String)
  | requestDeletion (actor : Actor) (target : UserId)
  | cancelDeletion (actor : Actor) (target : UserId)
  | auditTrail (target : UserId)
  | poll

namespace ServiceCall

/-- The program of a call; what it ends with does not matter to the books. -/
def program (c : ServiceSettings) (w : WorkerSettings) :
    ServiceCall → Program Backend Unit
  | register email password displayName device => do
      let _ ← (Service.register c email password displayName device).run
  | login email password device => do
      let _ ← (Service.login c email password device).run
  | exchange provider token device => do
      let _ ← (Service.exchangeIdToken c provider token device).run
  | connect user provider token => do
      let _ ← (Service.connectIdentity user provider token).run
  | refresh rawToken device => do
      let _ ← (Service.refresh c rawToken device).run
  | logout rawToken => do
      let _ ← (Service.logout c rawToken).run
  | revokeSession user session => do
      let _ ← (Service.revokeSession user session).run
  | revokeDevice user device => do
      let _ ← (Service.revokeDevice user device).run
  | listSessions user current => do
      let _ ← (Service.listSessions user current).run
  | registerPushToken user session token platform => do
      let _ ← (Service.registerPushToken user session token platform).run
  | requestReset email => do
      let _ ← (Service.requestReset c email).run
  | confirmReset rawToken password => do
      let _ ← (Service.confirmReset c rawToken password).run
  | changePassword user session current new => do
      let _ ← (Service.changePassword c user session current new).run
  | verifyEmail rawToken => do
      let _ ← (Service.verifyEmail c rawToken).run
  | changeRole actor target role => do
      let _ ← (Service.changeRole actor target role).run
  | changeStatus actor target status reason => do
      let _ ← (Service.changeStatus actor target status reason).run
  | requestDeletion actor target => do
      let _ ← (Service.requestDeletion c actor target).run
  | cancelDeletion actor target => do
      let _ ← (Service.cancelDeletion actor target).run
  | auditTrail target => do
      let _ ← (Service.auditTrail target).run
  | poll => do
      let _ ← Worker.poll w

end ServiceCall

/-- A service that leads to `φ`, whether or not it fails, in a program. -/
theorem Service.Leads.program
    {α : Type} {T : Instant → Prop} {b : Books} {φ : Books → Prop}
    {x : Service α} (h : Service.Leads T φ b x fun _ => φ) :
    Program.Leads T (fun _ => φ) (do let _ ← x.run) b := by
  unfold Service.Leads at h
  refine Program.leads_bind.mpr (h.mono fun result b hresult => ?_)
  cases result with
  | ok a => exact Program.leads_pure.mpr hresult
  | error e => exact Program.leads_pure.mpr hresult

/-- A call with its circumstances. -/
structure Errand where
  call : ServiceCall
  circumstances : Circumstances

/-- What the clock shows during a call is in `T`. -/
def Errand.ClockIn (e : Errand) (T : Instant → Prop) : Prop :=
  ∀ n, T (e.circumstances.around n .now)

namespace Books

/-- The books after a call. -/
def after (b : Books) (c : ServiceSettings) (w : WorkerSettings) (e : Errand) :
    Books :=
  ((e.call.program c w).carryOut e.circumstances 0 b).2

/-- The books after calls, each of which finishes before the next one begins. -/
def run (b : Books) (c : ServiceSettings) (w : WorkerSettings)
    (errands : List Errand) : Books :=
  errands.foldl (fun b e => b.after c w e) b

variable {b : Books} {c : ServiceSettings} {w : WorkerSettings}

@[simp] theorem run_nil : b.run c w [] = b := rfl

theorem run_concat (errands : List Errand) (e : Errand) :
    b.run c w (errands ++ [e]) = (b.run c w errands).after c w e := by
  simp [run]

theorem run_append (errands errands' : List Errand) :
    b.run c w (errands ++ errands') = (b.run c w errands).run c w errands' :=
  List.foldl_append

/-- What every call keeps, all calls in a row keep. -/
theorem run_induction
    {φ : Books → Prop} (hb : φ b) {errands : List Errand}
    (hcall : ∀ e ∈ errands, ∀ b, φ b → φ (b.after c w e)) :
    φ (b.run c w errands) := by
  induction errands using List.reverseRecOn with
  | nil => exact hb
  | append_singleton errands e ih =>
      simp only [List.mem_append, List.mem_singleton] at hcall
      rw [run_concat]
      exact hcall e (Or.inr rfl) _ (ih fun e he => hcall e (Or.inl he))

end Books

/-! ## Samples -/

/-- Circumstances in which the clock stands still and everything that is drawn
is numbered, from `k` on. -/
def Circumstances.numbered (k : ℕ) (now : Instant) : Circumstances where
  around
    | n, .freshId => ⟨BitVec.ofNat 128 (k + n)⟩
    | n, .randomBytes _ => [UInt8.ofNat (k + n)]
    | n, r => Surroundings.still now [] n r
  fresh n := ⟨⟨BitVec.ofNat 128 (k + n)⟩, ⟨0⟩, ⟨0⟩⟩
  jobIds _ := ""

/-- A worker that claims up to ten jobs at a time. -/
def sampleWorker : WorkerSettings where
  blockedRetry := .hours 1
  pollIntervalSeconds := 1
  batchSize := 10
  maxAttempts := 1

end AccountAuthority
