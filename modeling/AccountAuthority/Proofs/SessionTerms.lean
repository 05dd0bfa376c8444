import AccountAuthority.Proofs.SequentialCalls
import AccountAuthority.Proofs.ServiceCalls

/-!
# The terms that services ask for

A session is opened with a fixed time to live, its first refresh token with
another one, and every replacement of a token is asked for with the latter.
Whatever a service has been answered, it asks the repository for nothing else;
so calls that run at the same time make up a run of operations on these terms.
-/

namespace AccountAuthority

/-- A session that is opened at `now`, and its first token, run out when the
settings say. -/
structure OpenedOnTerms (c : ServiceSettings) (x : Session) (t : RefreshToken)
    (now : Instant) : Prop where
  session : ∃ methods device,
    x = Session.create x.id x.user methods device (Session.expiry c.sessionTtl now) now
  token : t =
    { id := t.id, session := x.id, hash := t.hash
      expiresAt := RefreshToken.expiry x.expiresAt c.refreshTtl now, createdAt := now }

/-- What is asked for is on the terms of the settings: sessions and tokens get
their times to live, and nobody is deleted by a change of status. -/
def RepositoryRequest.OnTerms (c : ServiceSettings) : RepositoryRequest → Prop
  | createSession x t now => OpenedOnTerms c x t now
  | rotate r => r.ttl = c.refreshTtl
  | changeStatus _ _ status _ _ => status ≠ .deleted
  | _ => True

theorem OpenedOnTerms.madeTogether
    {c : ServiceSettings} {x : Session} {t : RefreshToken} {now : Instant}
    (h : OpenedOnTerms c x t now) : MadeTogether x t where
  session := by
    obtain ⟨methods, device, hx⟩ := h.session
    exact ⟨methods, device, _, now, hx⟩
  token := by
    have ht := h.token
    rw [ht]

theorem OpenedOnTerms.expiresAt
    {c : ServiceSettings} {x : Session} {t : RefreshToken} {now : Instant}
    (h : OpenedOnTerms c x t now) :
    x.createdAt = now ∧ x.expiresAt = now + c.sessionTtl := by
  obtain ⟨methods, device, hx⟩ := h.session
  rw [hx]
  exact ⟨rfl, rfl⟩

theorem RepositoryRequest.OnTerms.opensProperly
    {c : ServiceSettings} {r : RepositoryRequest} (h : r.OnTerms c) :
    r.OpensProperly := by
  cases r with
  | createSession => exact h.madeTogether
  | _ => trivial

theorem RepositoryRequest.OnTerms.setsLiveStatus
    {c : ServiceSettings} {r : RepositoryRequest} (h : r.OnTerms c) :
    r.SetsLiveStatus := by
  cases r with
  | changeStatus actor target status reason now =>
      have hstatus : status ≠ .deleted := h
      simpa [SetsLiveStatus, statuses] using hstatus.symm
  | _ => exact List.not_mem_nil

/-- A call asks for what is on the terms of the settings, whatever it has
heard. -/
def onTerms (c : ServiceSettings) : Rule :=
  fun _ r => r.OnTerms c

/-! ## Services -/

namespace Service

variable {c : ServiceSettings} {H : History}

theorem Ensures.mono
    {α : Type} {φ : Rule} {x : Service α} {ψ ψ' : History → α → Prop}
    (h : Ensures φ H x ψ) (hψ : ∀ H a, ψ H a → ψ' H a) : Ensures φ H x ψ' := by
  unfold Ensures at h ⊢
  exact h.mono fun H result hresult a ha => hψ H a (hresult a ha)

/-- A service asks for what is on the terms of the settings. -/
def StaysOnTerms {α : Type} (c : ServiceSettings) (x : Service α) : Prop :=
  ∀ H, Ensures (onTerms c) H x fun _ _ => True

section

variable {α β : Type}

@[simp] theorem staysOnTerms_pure (a : α) :
    StaysOnTerms c (pure a : Service α) :=
  fun _ => ensures_pure.mpr trivial

@[simp] theorem staysOnTerms_throw (e : ServiceError) :
    StaysOnTerms c (throw e : Service α) :=
  fun _ => ensures_throw

theorem StaysOnTerms.bind
    {x : Service α} {k : α → Service β} (hx : StaysOnTerms c x)
    (hk : ∀ a, StaysOnTerms c (k a)) : StaysOnTerms c (x >>= k) := by
  intro H
  exact ensures_bind.mpr ((hx H).mono fun H a _ => hk a H)

/-- Whatever is asked of others than the repository is on the terms. -/
theorem staysOnTerms_ask {r : ServiceRequest} (hr : ∀ q, r ≠ .repository q) :
    StaysOnTerms c (liftM (ask r)) :=
  fun _ => (ensures_ask hr).mpr fun _ => trivial

theorem staysOnTerms_repository
    {r : RepositoryRequest} (hr : r.OnTerms c) :
    @StaysOnTerms (no_index r.Answer) c (repository r) :=
  fun _ => ensures_repository.mpr ⟨hr, fun _ _ => trivial⟩

@[simp] theorem staysOnTerms_now : StaysOnTerms c now :=
  staysOnTerms_ask (by simp)

@[simp] theorem staysOnTerms_freshId : StaysOnTerms c freshId :=
  staysOnTerms_ask (by simp)

@[simp] theorem staysOnTerms_freshToken : StaysOnTerms c freshToken :=
  (staysOnTerms_ask (by simp)).bind fun _ => staysOnTerms_pure _

@[simp] theorem staysOnTerms_notify (notice : Notice) :
    StaysOnTerms c (notify notice) :=
  (staysOnTerms_ask (by simp)).bind fun _ => staysOnTerms_pure _

@[simp] theorem staysOnTerms_queue (r : QueueRequest) :
    StaysOnTerms c (queue r) := by
  refine (staysOnTerms_ask (r := .queue r) (by simp)).bind fun answer => ?_
  split <;> simp

@[simp] theorem staysOnTerms_refuseInvalid (errors : List FieldError) :
    StaysOnTerms c (refuseInvalid errors) := by
  unfold refuseInvalid
  split <;> simp

@[simp] theorem staysOnTerms_hashPassword (password : String) :
    StaysOnTerms c (hashPassword c password) :=
  (staysOnTerms_ask (by simp)).bind fun _ => staysOnTerms_pure _

@[simp] theorem staysOnTerms_signFor (user : User) (session : SessionId) :
    StaysOnTerms c (signFor c user session) :=
  fun _ => ensures_signFor fun _ => trivial

@[simp] theorem staysOnTerms_providerIdentity (provider token : String) :
    StaysOnTerms c (providerIdentity provider token) :=
  fun _ => ensures_providerIdentity fun _ => trivial

/-- A request to the repository whose outcome is only looked at. -/
theorem staysOnTerms_asking
    {r : RepositoryRequest} {k : r.Answer → Service α} (hr : r.OnTerms c)
    (hk : ∀ a, StaysOnTerms c (k a)) : StaysOnTerms c (repository r >>= k) :=
  (staysOnTerms_repository hr).bind hk

end

/-! ### Services that open or refresh sessions -/

@[simp] theorem staysOnTerms_issue
    (user : User) (methods : List AuthMethod) (device : Device) :
    StaysOnTerms c (issue c user methods device) := by
  refine staysOnTerms_now.bind fun now => staysOnTerms_freshId.bind fun id => ?_
  refine (staysOnTerms_signFor _ _).bind fun access => ?_
  refine staysOnTerms_freshToken.bind fun raw => staysOnTerms_freshId.bind fun tokenId => ?_
  refine staysOnTerms_asking ?_ fun _ => staysOnTerms_pure _
  exact ⟨⟨methods, device, rfl⟩, rfl⟩

@[simp] theorem staysOnTerms_openFor
    (user : User) (method : AuthMethod) (device : Device) :
    StaysOnTerms c (openFor c user method device) := by
  unfold openFor
  split <;> simp

theorem staysOnTerms_sendToken
    (user : User) (purpose : TokenPurpose) (ttl : Span) :
    StaysOnTerms c (sendToken c user purpose ttl) :=
  staysOnTerms_now.bind fun _ => staysOnTerms_freshToken.bind fun _ =>
    staysOnTerms_freshId.bind fun _ => staysOnTerms_asking trivial fun _ =>
      staysOnTerms_notify _

theorem staysOnTerms_login (email password : String) (device : Device) :
    StaysOnTerms c (login c email password device) := by
  refine staysOnTerms_now.bind fun now => ?_
  refine (staysOnTerms_ask (by simp)).bind fun answer => ?_
  split
  · simp
  refine staysOnTerms_asking trivial fun found => ?_
  dsimp only
  split
  · exact staysOnTerms_now.bind fun _ => (staysOnTerms_ask (by simp)).bind fun _ =>
      staysOnTerms_throw _
  · split
    · exact (staysOnTerms_ask (by simp)).bind fun _ => staysOnTerms_openFor _ _ _
    · exact staysOnTerms_openFor _ _ _

theorem staysOnTerms_register
    (email password : String) (displayName : Option String) (device : Device) :
    StaysOnTerms c (register c email password displayName device) := by
  refine (staysOnTerms_refuseInvalid _).bind fun _ => ?_
  refine (staysOnTerms_refuseInvalid _).bind fun _ => ?_
  refine (staysOnTerms_hashPassword _).bind fun hash => ?_
  refine staysOnTerms_freshId.bind fun id => staysOnTerms_now.bind fun time => ?_
  refine staysOnTerms_asking trivial fun outcome => ?_
  split
  · simp
  · exact (staysOnTerms_sendToken _ _ _).bind fun _ => staysOnTerms_issue _ _ _

theorem staysOnTerms_exchangeIdToken
    (provider token : String) (device : Device) :
    StaysOnTerms c (exchangeIdToken c provider token device) := by
  refine (staysOnTerms_providerIdentity provider token).bind fun found => ?_
  refine staysOnTerms_asking trivial fun first => ?_
  split
  · simp
  refine staysOnTerms_asking trivial fun taken => ?_
  split
  · refine staysOnTerms_asking trivial fun second => ?_
    split <;> simp
  · refine staysOnTerms_now.bind fun time => staysOnTerms_freshId.bind fun id => ?_
    refine staysOnTerms_freshId.bind fun identityId => ?_
    refine staysOnTerms_asking trivial fun outcome => ?_
    split <;> simp

theorem staysOnTerms_refresh (rawToken : String) (device : Device) :
    StaysOnTerms c (refresh c rawToken device) := by
  refine staysOnTerms_now.bind fun time => staysOnTerms_asking trivial fun found => ?_
  split
  · simp
  split
  · simp
  split
  · exact staysOnTerms_now.bind fun _ =>
      staysOnTerms_asking trivial fun _ => staysOnTerms_throw _
  · refine (staysOnTerms_signFor _ _).bind fun access => ?_
    refine staysOnTerms_freshToken.bind fun raw => staysOnTerms_asking rfl fun outcome => ?_
    split <;> simp

/-! ### Other services -/

/-- Services that take the time, ask once and look at the outcome. -/
theorem staysOnTerms_timed
    {α : Type} {r : Instant → RepositoryRequest}
    {k : (time : Instant) → (r time).Answer → Service α}
    (hr : ∀ time, (r time).OnTerms c) (hk : ∀ time a, StaysOnTerms c (k time a)) :
    StaysOnTerms c (now >>= fun time => repository (r time) >>= k time) :=
  staysOnTerms_now.bind fun time => staysOnTerms_asking (hr time) (hk time)

theorem staysOnTerms_logout (rawToken : String) :
    StaysOnTerms c (logout c rawToken) :=
  staysOnTerms_timed (fun _ => trivial) fun _ outcome => by cases outcome <;> simp

theorem staysOnTerms_revokeSession (user : UserId) (session : SessionId) :
    StaysOnTerms c (revokeSession user session) :=
  staysOnTerms_timed (fun _ => trivial) fun _ outcome => by cases outcome <;> simp

theorem staysOnTerms_revokeDevice (user : UserId) (device : String) :
    StaysOnTerms c (revokeDevice user device) :=
  staysOnTerms_timed (fun _ => trivial) fun _ outcome => by cases outcome <;> simp

theorem staysOnTerms_listSessions (user : UserId) (current : Option SessionId) :
    StaysOnTerms c (listSessions user current) :=
  staysOnTerms_timed (fun _ => trivial) fun _ _ => staysOnTerms_pure _

theorem staysOnTerms_registerPushToken
    (user : UserId) (session : SessionId) (token : String)
    (platform : Option String) :
    StaysOnTerms c (registerPushToken user session token platform) := by
  unfold registerPushToken
  dsimp only
  split
  · exact (staysOnTerms_throw _).bind fun _ => staysOnTerms_timed (fun _ => trivial)
      fun _ outcome => by cases outcome <;> simp
  · exact staysOnTerms_timed (fun _ => trivial)
      fun _ outcome => by cases outcome <;> simp

theorem staysOnTerms_connectIdentity (user : UserId) (provider token : String) :
    StaysOnTerms c (connectIdentity user provider token) := by
  refine (staysOnTerms_providerIdentity provider token).bind fun found => ?_
  refine staysOnTerms_freshId.bind fun id => ?_
  exact staysOnTerms_timed (fun _ => trivial) fun _ outcome => by cases outcome <;> simp

theorem staysOnTerms_requestReset (email : String) :
    StaysOnTerms c (requestReset c email) := by
  refine staysOnTerms_asking trivial fun found => ?_
  split
  · simp
  split
  · exact staysOnTerms_sendToken _ _ _
  · simp

theorem staysOnTerms_confirmReset (rawToken password : String) :
    StaysOnTerms c (confirmReset c rawToken password) := by
  refine (staysOnTerms_refuseInvalid _).bind fun _ => ?_
  refine (staysOnTerms_hashPassword _).bind fun hash => ?_
  exact staysOnTerms_timed (fun _ => trivial) fun _ outcome => by cases outcome <;> simp

theorem staysOnTerms_changePassword
    (user : UserId) (session : Option SessionId) (current new : String) :
    StaysOnTerms c (changePassword c user session current new) := by
  refine (staysOnTerms_refuseInvalid _).bind fun _ => ?_
  refine staysOnTerms_asking trivial fun found => ?_
  split
  · simp
  split
  · simp
  split
  · simp
  · refine (staysOnTerms_hashPassword _).bind fun hash => ?_
    exact staysOnTerms_timed (fun _ => trivial) fun _ outcome => by cases outcome <;> simp

theorem staysOnTerms_verifyEmail (rawToken : String) :
    StaysOnTerms c (verifyEmail c rawToken) :=
  staysOnTerms_timed (fun _ => trivial) fun _ outcome => by cases outcome <;> simp

theorem staysOnTerms_changeRole (actor : Actor) (target : UserId) (role : Role) :
    StaysOnTerms c (changeRole actor target role) :=
  staysOnTerms_now.bind fun _ => staysOnTerms_repository trivial

theorem staysOnTerms_changeStatus
    (actor : Actor) (target : UserId) (status : Status) (reason : Option String) :
    StaysOnTerms c (changeStatus actor target status reason) := by
  unfold changeStatus
  split
  · simp
  next hstatus => exact staysOnTerms_now.bind fun _ => staysOnTerms_repository hstatus

theorem staysOnTerms_requestDeletion (actor : Actor) (target : UserId) :
    StaysOnTerms c (requestDeletion c actor target) := by
  refine staysOnTerms_timed (fun _ => trivial) fun time outcome => ?_
  cases outcome with
  | requested user | alreadyRequested user =>
      dsimp only
      split
      · exact (staysOnTerms_queue _).bind fun _ => staysOnTerms_pure _
      · simp
  | userNotFound | userDeleted => simp

theorem staysOnTerms_cancelDeletion (actor : Actor) (target : UserId) :
    StaysOnTerms c (cancelDeletion actor target) :=
  staysOnTerms_now.bind fun _ => staysOnTerms_repository trivial

theorem staysOnTerms_auditTrail (target : UserId) :
    StaysOnTerms c (auditTrail target) :=
  staysOnTerms_repository trivial

end Service

/-! ## Calls -/

/-- A program asks for what is on the terms of the settings. -/
def Program.StaysOnTerms
    {α : Type} (c : ServiceSettings) (p : Program Backend α) : Prop :=
  ∀ H, p.Obeys (onTerms c) (fun _ _ => True) H

section

variable {α β : Type} {c : ServiceSettings}

theorem Program.StaysOnTerms.bind
    {p : Program Backend α} {f : α → Program Backend β} (hp : p.StaysOnTerms c)
    (hf : ∀ a, (f a).StaysOnTerms c) : (p >>= f).StaysOnTerms c :=
  fun H => Program.obeys_bind.mpr ((hp H).mono fun H a _ => hf a H)

theorem Program.staysOnTerms_pure (a : α) :
    Program.StaysOnTerms c (pure a : Program Backend α) :=
  fun _ => Program.obeys_done.mpr trivial

theorem Program.staysOnTerms_ask {r : ServiceRequest} (hr : ∀ q, r ≠ .repository q) :
    Program.StaysOnTerms c (Service.ask r) :=
  fun _ => (Service.obeys_ask hr).mpr fun _ => trivial

theorem Service.StaysOnTerms.program {x : Service α} (h : x.StaysOnTerms c) :
    Program.StaysOnTerms c (do let _ ← x.run) := by
  refine Program.StaysOnTerms.bind (fun H => ?_) fun _ => Program.staysOnTerms_pure _
  have hx := h H
  unfold Service.Ensures at hx
  exact hx.mono fun _ _ _ => trivial

end

namespace Worker

open Program

variable {c : ServiceSettings} (w : WorkerSettings)

theorem staysOnTerms_tell (r : QueueRequest) (applied : Applied) :
    StaysOnTerms c (tell r applied) := by
  refine (staysOnTerms_ask (r := .queue r) (by simp)).bind fun answer => ?_
  split <;> exact staysOnTerms_pure _

theorem staysOnTerms_finalize
    (blockedRetry : Span) (payload : DeletionPayload) (trace : Option String) :
    StaysOnTerms c (Service.finalize blockedRetry payload trace) := by
  refine (staysOnTerms_ask (by simp)).bind fun time => ?_
  refine StaysOnTerms.bind (fun H => ?_) fun answer => ?_
  · exact Service.obeys_ask_repository.mpr ⟨trivial, fun _ _ => trivial⟩
  · split <;> exact staysOnTerms_pure _

theorem staysOnTerms_process (job : Job) : StaysOnTerms c (process w job) := by
  unfold process
  split
  · exact (staysOnTerms_ask (by simp)).bind fun _ => staysOnTerms_tell _ _
  refine (staysOnTerms_finalize _ _ _).bind fun result => ?_
  split
  · exact (staysOnTerms_ask (by simp)).bind fun _ => staysOnTerms_tell _ _
  · exact (staysOnTerms_ask (by simp)).bind fun _ => staysOnTerms_tell _ _
  · exact (staysOnTerms_ask (by simp)).bind fun _ =>
      (staysOnTerms_ask (by simp)).bind fun _ => staysOnTerms_tell _ _

theorem staysOnTerms_processAll (summary : PollSummary) (jobs : List Job) :
    StaysOnTerms c (processAll w summary jobs) := by
  induction jobs generalizing summary with
  | nil => exact staysOnTerms_pure _
  | cons job jobs ih => exact (staysOnTerms_process w job).bind fun _ => ih _

theorem staysOnTerms_poll : StaysOnTerms c (poll w) := by
  refine (staysOnTerms_ask (by simp)).bind fun time => ?_
  refine (staysOnTerms_ask (by simp)).bind fun answer => ?_
  split
  · exact staysOnTerms_pure _
  · exact (staysOnTerms_processAll w _ _).bind fun _ => staysOnTerms_pure _

end Worker

/-- Every call asks for what is on the terms of its settings. -/
theorem ServiceCall.staysOnTerms
    (c : ServiceSettings) (w : WorkerSettings) (call : ServiceCall) :
    (call.program c w).StaysOnTerms c := by
  cases call with
  | register => exact (Service.staysOnTerms_register _ _ _ _).program
  | login => exact (Service.staysOnTerms_login _ _ _).program
  | exchange => exact (Service.staysOnTerms_exchangeIdToken _ _ _).program
  | connect => exact (Service.staysOnTerms_connectIdentity _ _ _).program
  | refresh => exact (Service.staysOnTerms_refresh _ _).program
  | logout => exact (Service.staysOnTerms_logout _).program
  | revokeSession => exact (Service.staysOnTerms_revokeSession _ _).program
  | revokeDevice => exact (Service.staysOnTerms_revokeDevice _ _).program
  | listSessions => exact (Service.staysOnTerms_listSessions _ _).program
  | registerPushToken => exact (Service.staysOnTerms_registerPushToken _ _ _ _).program
  | requestReset => exact (Service.staysOnTerms_requestReset _).program
  | confirmReset => exact (Service.staysOnTerms_confirmReset _ _).program
  | changePassword => exact (Service.staysOnTerms_changePassword _ _ _ _).program
  | verifyEmail => exact (Service.staysOnTerms_verifyEmail _).program
  | changeRole => exact (Service.staysOnTerms_changeRole _ _ _).program
  | changeStatus => exact (Service.staysOnTerms_changeStatus _ _ _ _).program
  | requestDeletion => exact (Service.staysOnTerms_requestDeletion _ _).program
  | cancelDeletion => exact (Service.staysOnTerms_cancelDeletion _ _).program
  | auditTrail => exact (Service.staysOnTerms_auditTrail _).program
  | poll => exact (Worker.staysOnTerms_poll w).bind fun _ => Program.staysOnTerms_pure _

/-! ## Schedules -/

namespace Pool

variable {ι α : Type} [DecidableEq ι]

/-- What a turn does to the store. -/
def operation? (p : Pool ι α) (t : Turn ι) : Option Operation :=
  match p.calls t.call with
  | .done _ => none
  | .ask r _ => some ⟨r, t.fresh⟩

/-- What the turns of a schedule do to the store. -/
def operations (p : Pool ι α) : List (Turn ι) → List Operation
  | [] => []
  | t :: ts => (p.operation? t).toList ++ (p.turn t).operations ts

theorem operations_append (p : Pool ι α) (ts us : List (Turn ι)) :
    p.operations (ts ++ us) = p.operations ts ++ (p.run ts).operations us := by
  induction ts generalizing p with
  | nil => rfl
  | cons t ts ih =>
      rw [List.cons_append, operations, operations, ih, List.append_assoc]
      rfl

theorem store_turn (p : Pool ι α) (t : Turn ι) :
    (p.turn t).store = p.store.run (p.operation? t).toList := by
  unfold operation?
  cases hcall : p.calls t.call with
  | done a => rw [turn_of_done hcall]; rfl
  | ask r next => rw [turn_store hcall]; rfl

theorem store_run (p : Pool ι α) (ts : List (Turn ι)) :
    (p.run ts).store = p.store.run (p.operations ts) := by
  induction ts generalizing p with
  | nil => rfl
  | cons t ts ih =>
      rw [operations, Store.run_append, ← store_turn]
      exact ih (p.turn t)

end Pool

/-- One who works on the store: a call of a service with its surroundings, or
somebody who asks for a single operation. -/
inductive Party where
  | service (call : ServiceCall) (o : Surroundings)
  | operation (r : RepositoryRequest)

/-- What a party does, as the repository sees it. -/
def Party.program (c : ServiceSettings) (w : WorkerSettings) :
    Party → Program RepositoryPort Unit
  | service call o => (call.program c w).within o 0
  | operation r => .ask r fun _ => .done ()

/-- Parties that work on a store at the same time. -/
def partyPool
    {ι : Type} (c : ServiceSettings) (w : WorkerSettings) (parties : ι → Party)
    (s : Store) : Pool ι Unit where
  calls i := (parties i).program c w
  store := s

theorem Party.abides
    {c : ServiceSettings} {w : WorkerSettings} {party : Party}
    (h : ∀ r, party = .operation r → r.OnTerms c) :
    (party.program c w).Abides (onTerms c) (fun _ _ => True) [] := by
  cases party with
  | service call o => exact (call.staysOnTerms c w []).within o 0
  | operation r =>
      exact Program.abides_ask.mpr
        ⟨h r rfl, fun _ _ => Program.abides_done.mpr trivial⟩

/-- What parties do to a store in some schedule is on the terms of their
settings. -/
theorem onTerms_operations
    {ι : Type} [DecidableEq ι] {c : ServiceSettings} {w : WorkerSettings}
    {parties : ι → Party} (s : Store)
    (h : ∀ i r, parties i = .operation r → r.OnTerms c) (ts : List (Turn ι)) :
    ∀ op ∈ (partyPool c w parties s).operations ts, op.request.OnTerms c := by
  have habides : ∀ i, ((partyPool c w parties s).calls i).Abides (onTerms c)
      (fun _ _ => True) [] := fun i => Party.abides (h i)
  induction ts using List.reverseRecOn with
  | nil => exact fun _ hop => absurd hop List.not_mem_nil
  | append_singleton ts t ih =>
      rw [Pool.operations_append]
      intro op hop
      rcases List.mem_append.mp hop with hop | hop
      · exact ih op hop
      simp only [Pool.operations, List.append_nil, Option.mem_toList] at hop
      unfold Pool.operation? at hop
      split at hop
      · cases hop
      next r next hcall =>
        cases hop
        have hhears : Pool.Hears (partyPool c w parties s) ts t
            ⟨r, (((partyPool c w parties s).run ts).store.perform r t.fresh).1⟩ :=
          ⟨⟨next, hcall⟩, rfl⟩
        obtain ⟨H, hallowed, -⟩ := hhears.allowed habides
        exact hallowed

end AccountAuthority
