import AccountAuthority.Proofs.InactiveUsers
import AccountAuthority.Proofs.SequentialCalls
import AccountAuthority.Proofs.ServiceCalls
import AccountAuthority.Proofs.UserRecords

/-!
# What calls ask for when they run alone

A call that is not overtaken finds the store as it was shown to it.  So sessions
and verification tokens are put in for users who are active at that time, an
external identity comes in with its own user, new accounts are neither deleted
nor scheduled for deletion, and nobody is deleted by a change of status.
-/

namespace AccountAuthority

namespace RepositoryRequest

/-- What is asked for in a store when no call is overtaken. -/
def ProperIn (s : Store) : RepositoryRequest → Prop
  | createSession x t _ => MadeTogether x t ∧ s.Active x.user
  | storeVerificationToken t => s.Active t.user
  | createUser u _ => u.Stays
  | createExternalUser u i => u.Stays ∧ i.user = u.id
  | changeStatus _ _ status _ _ => status ≠ .deleted
  | _ => True

/-- A deletion is scheduled or carried out. -/
def isDeletion : RepositoryRequest → Bool
  | requestDeletion .. | finalizeDeletion .. => true
  | _ => false

variable {s : Store} {r : RepositoryRequest}

theorem ProperIn.opensProperly (h : r.ProperIn s) : r.OpensProperly := by
  cases r with
  | createSession => exact h.1
  | _ => trivial

theorem ProperIn.setsLiveStatus (h : r.ProperIn s) : r.SetsLiveStatus := by
  cases r with
  | changeStatus actor target status reason now =>
      have hstatus : status ≠ .deleted := h
      simpa [SetsLiveStatus, statuses] using hstatus.symm
  | _ => exact List.not_mem_nil

theorem ProperIn.stays (h : r.ProperIn s) : ∀ u ∈ r.newAccounts, u.Stays := by
  cases r with
  | createUser u hash => exact List.forall_mem_singleton.mpr h
  | createExternalUser u i => exact List.forall_mem_singleton.mpr h.1
  | _ => exact fun _ hu => absurd hu List.not_mem_nil

end RepositoryRequest

/-- The operations of a run are asked for as by calls that are not overtaken. -/
def ProperRun (ops : List Operation) : Prop :=
  ∀ pre op post, ops = pre ++ op :: post →
    op.request.ProperIn (Store.empty.run pre)

theorem ProperRun.concat
    {ops : List Operation} (h : ProperRun ops) {op : Operation}
    (hop : op.request.ProperIn (Store.empty.run ops)) :
    ProperRun (ops ++ [op]) := by
  intro pre o post hsplit
  rcases split_concat hsplit with ⟨rfl, rfl, -⟩ | ⟨init, -, hops⟩
  · exact hop
  · exact h pre o init hops

/-- The store has come from the empty one by the operations of the log, and they
were properly asked for. -/
structure Books.Proper (b : Books) : Prop where
  store : b.store = Store.empty.run b.log
  log : ProperRun b.log

namespace Books

variable {b : Books}

theorem proper_empty : Books.empty.Proper where
  store := rfl
  log := fun _ _ _ hsplit => by simp [Books.empty] at hsplit

theorem Proper.perform
    (hb : b.Proper) {r : RepositoryRequest} (hr : r.ProperIn b.store)
    (fresh : FreshIds) : (b.perform r fresh).Proper where
  store := by
    rw [perform_log, Store.run_concat, ← hb.store]
    rfl
  log := hb.log.concat (by rwa [← hb.store])

theorem Proper.enter (hb : b.Proper) (r : QueueRequest) (jobId : String) :
    (b.enter r jobId).Proper where
  store := hb.store
  log := hb.log

end Books

/-- What a call is shown of a user is how the user stands in the store. -/
theorem Books.get?_shownUser
    {b : Books} {r : RepositoryRequest} {fresh : FreshIds} {answer : r.Answer}
    (h : (b.store.perform r fresh).1 = answer) {u : User}
    (hu : Exchange.shownUser? ⟨r, answer⟩ = some u) :
    (b.perform r fresh).store.users.get? u.id = some u :=
  Exchange.get?_shownUser (e := ⟨r, answer⟩) h.symm hu

/-- What is kept by everything that calls ask of the store, the scheduling and
the carrying out of deletions apart. -/
def Books.Stable (φ : Books → Prop) : Prop :=
  ∀ b r fresh, φ b → r.ProperIn b.store → r.isDeletion = false →
    φ (b.perform r fresh)

theorem Books.stable_proper : Books.Stable Books.Proper :=
  fun _ _ fresh hb hr _ => hb.perform hr fresh

theorem Store.Active.of_users_eq
    {s s' : Store} {id : UserId} (h : s.Active id) (husers : s'.users = s.users) :
    s'.Active id := by
  rwa [Active, husers]

/-! ## Services that do not open anything -/

namespace Service

section Keeping

variable {α β : Type} {T : Instant → Prop} {φ : Books → Prop}

/-- What holds before the service holds afterwards. -/
def Keeps (T : Instant → Prop) (φ : Books → Prop) (x : Service α) : Prop :=
  ∀ b, φ b → Leads T φ b x fun _ => φ

@[simp] theorem keeps_pure (a : α) : Keeps T φ (pure a : Service α) :=
  fun _ hb => leads_pure.mpr hb

@[simp] theorem keeps_throw (e : ServiceError) : Keeps T φ (throw e : Service α) :=
  fun _ hb => leads_throw.mpr hb

theorem Keeps.bind
    {x : Service α} {k : α → Service β} (hx : Keeps T φ x)
    (hk : ∀ a, Keeps T φ (k a)) : Keeps T φ (x >>= k) :=
  fun b hb => leads_bind.mpr ((hx b hb).mono fun a b => hk a b)

@[simp] theorem keeps_now : Keeps T φ now :=
  fun _ hb => leads_now.mpr fun _ _ => hb

@[simp] theorem keeps_freshId : Keeps T φ freshId :=
  fun _ hb => leads_freshId.mpr fun _ => hb

@[simp] theorem keeps_freshToken : Keeps T φ freshToken :=
  fun _ hb => leads_freshToken.mpr fun _ => hb

@[simp] theorem keeps_refuseInvalid (errors : List FieldError) :
    Keeps T φ (refuseInvalid errors) :=
  fun _ hb => leads_refuseInvalid hb hb

@[simp] theorem keeps_hashPassword (c : ServiceSettings) (password : String) :
    Keeps T φ (hashPassword c password) :=
  fun _ hb => leads_hashPassword.mpr fun _ => hb

@[simp] theorem keeps_signFor
    (c : ServiceSettings) (user : User) (session : SessionId) :
    Keeps T φ (signFor c user session) :=
  fun _ hb => leads_signFor (fun _ => hb) hb

@[simp] theorem keeps_providerIdentity (provider token : String) :
    Keeps T φ (providerIdentity provider token) :=
  fun _ hb => leads_providerIdentity (fun _ => hb) hb

/-- A request that may be made in every store. -/
theorem keeps_repository
    (hφ : Books.Stable φ) {r : RepositoryRequest} (hr : ∀ s, r.ProperIn s)
    (hdeletion : r.isDeletion = false) :
    @Keeps (no_index r.Answer) T φ (repository r) :=
  fun b hb => leads_repository.mpr fun fresh => hφ b r fresh hb (hr _) hdeletion

theorem keeps_asking
    (hφ : Books.Stable φ) {r : RepositoryRequest} {k : r.Answer → Service β}
    (hr : ∀ s, r.ProperIn s) (hdeletion : r.isDeletion = false)
    (hk : ∀ a, Keeps T φ (k a)) : Keeps T φ (repository r >>= k) :=
  (keeps_repository hφ hr hdeletion).bind hk

end Keeping

variable {T : Instant → Prop} {φ : Books → Prop} (hφ : Books.Stable φ)
  (c : ServiceSettings)

include hφ

theorem keeps_logout (rawToken : String) : Keeps T φ (logout c rawToken) := by
  refine keeps_now.bind fun time => ?_
  refine keeps_asking hφ (fun _ => trivial) rfl fun outcome => ?_
  cases outcome <;> simp

theorem keeps_revokeSession (user : UserId) (session : SessionId) :
    Keeps T φ (revokeSession user session) := by
  refine keeps_now.bind fun time => ?_
  refine keeps_asking hφ (fun _ => trivial) rfl fun outcome => ?_
  cases outcome <;> simp

theorem keeps_revokeDevice (user : UserId) (device : String) :
    Keeps T φ (revokeDevice user device) := by
  refine keeps_now.bind fun time => ?_
  refine keeps_asking hφ (fun _ => trivial) rfl fun outcome => ?_
  cases outcome <;> simp

theorem keeps_listSessions (user : UserId) (current : Option SessionId) :
    Keeps T φ (listSessions user current) :=
  keeps_now.bind fun _ =>
    keeps_asking hφ (fun _ => trivial) rfl fun _ => keeps_pure _

theorem keeps_registerPushToken
    (user : UserId) (session : SessionId) (token : String)
    (platform : Option String) :
    Keeps T φ (registerPushToken user session token platform) := by
  unfold registerPushToken
  dsimp only
  split
  · exact (keeps_throw _).bind fun _ => keeps_now.bind fun time =>
      keeps_asking hφ (fun _ => trivial) rfl fun outcome => by cases outcome <;> simp
  · refine keeps_now.bind fun time => ?_
    refine keeps_asking hφ (fun _ => trivial) rfl fun outcome => ?_
    cases outcome <;> simp

theorem keeps_connectIdentity (user : UserId) (provider token : String) :
    Keeps T φ (connectIdentity user provider token) := by
  refine (keeps_providerIdentity provider token).bind fun found => ?_
  refine keeps_freshId.bind fun id => keeps_now.bind fun time => ?_
  refine keeps_asking hφ (fun _ => trivial) rfl fun outcome => ?_
  cases outcome <;> simp

theorem keeps_refresh (rawToken : String) (device : Device) :
    Keeps T φ (refresh c rawToken device) := by
  refine keeps_now.bind fun time => ?_
  refine keeps_asking hφ (fun _ => trivial) rfl fun found => ?_
  split
  · exact keeps_throw _
  split
  · exact keeps_throw _
  split
  · exact keeps_now.bind fun _ =>
      keeps_asking hφ (fun _ => trivial) rfl fun _ => keeps_throw _
  · refine (keeps_signFor _ _ _).bind fun access => ?_
    refine keeps_freshToken.bind fun raw => ?_
    refine keeps_asking hφ (fun _ => trivial) rfl fun outcome => ?_
    cases outcome <;> simp

theorem keeps_confirmReset (rawToken password : String) :
    Keeps T φ (confirmReset c rawToken password) := by
  refine (keeps_refuseInvalid _).bind fun _ => (keeps_hashPassword c _).bind fun hash => ?_
  refine keeps_now.bind fun time => ?_
  refine keeps_asking hφ (fun _ => trivial) rfl fun outcome => ?_
  cases outcome <;> simp

theorem keeps_changePassword
    (user : UserId) (session : Option SessionId) (current new : String) :
    Keeps T φ (changePassword c user session current new) := by
  refine (keeps_refuseInvalid _).bind fun _ => ?_
  refine keeps_asking hφ (fun _ => trivial) rfl fun found => ?_
  split
  · exact keeps_throw _
  split
  · exact keeps_throw _
  split
  · exact keeps_throw _
  · refine (keeps_hashPassword c _).bind fun hash => keeps_now.bind fun time => ?_
    refine keeps_asking hφ (fun _ => trivial) rfl fun outcome => ?_
    cases outcome <;> simp

theorem keeps_verifyEmail (rawToken : String) :
    Keeps T φ (verifyEmail c rawToken) := by
  refine keeps_now.bind fun time => ?_
  refine keeps_asking hφ (fun _ => trivial) rfl fun outcome => ?_
  cases outcome <;> simp

theorem keeps_changeRole (actor : Actor) (target : UserId) (role : Role) :
    Keeps T φ (changeRole actor target role) :=
  keeps_now.bind fun _ => keeps_repository hφ (fun _ => trivial) rfl

theorem keeps_changeStatus
    (actor : Actor) (target : UserId) (status : Status) (reason : Option String) :
    Keeps T φ (changeStatus actor target status reason) := by
  unfold changeStatus
  split
  · exact keeps_throw _
  next hstatus =>
    exact keeps_now.bind fun _ => keeps_repository hφ (fun _ => hstatus) rfl

theorem keeps_cancelDeletion (actor : Actor) (target : UserId) :
    Keeps T φ (cancelDeletion actor target) :=
  keeps_now.bind fun _ => keeps_repository hφ (fun _ => trivial) rfl

theorem keeps_auditTrail (target : UserId) : Keeps T φ (auditTrail target) :=
  keeps_repository hφ (fun _ => trivial) rfl

/-! ## Services that open sessions or send tokens -/

variable {b : Books} (hb : φ b)

include hb

theorem leads_issue
    {user : User} (methods : List AuthMethod) (device : Device)
    (hactive : b.store.Active user.id) :
    Leads T φ b (issue c user methods device) (fun _ => φ) := by
  simp only [issue, leads_bind, leads_now, leads_freshId]
  intro now _ id
  refine leads_signFor (fun access => ?_) hb
  simp only [leads_freshToken, leads_repository, leads_pure]
  intro bytes tokenId fresh
  refine hφ _ _ fresh hb ?_ rfl
  exact ⟨⟨⟨methods, device, _, now, rfl⟩, rfl⟩, hactive⟩

theorem leads_openFor
    {user : User} (method : AuthMethod) (device : Device)
    (huser : b.store.users.get? user.id = some user) :
    Leads T φ b (openFor c user method device) (fun _ => φ) := by
  unfold openFor
  split
  · exact leads_throw.mpr hb
  · exact leads_throw.mpr hb
  next hactive => exact leads_issue hφ c hb _ _ ⟨user, huser, hactive⟩

theorem leads_sendToken
    {user : User} (purpose : TokenPurpose) (ttl : Span)
    (hactive : b.store.Active user.id) :
    Leads T φ b (sendToken c user purpose ttl)
      (fun _ b' => φ b' ∧ b'.store.users = b.store.users) := by
  simp only [sendToken, leads_bind, leads_now, leads_freshToken, leads_freshId,
    leads_repository, leads_notify]
  intro now _ bytes id fresh
  refine ⟨hφ _ _ fresh hb ?_ rfl, rfl⟩
  exact hactive

omit hb

theorem keeps_login (email password : String) (device : Device) :
    Keeps T φ (login c email password device) := by
  intro b hb
  simp only [login, leads_bind, leads_now]
  intro now _
  refine leads_ask (by simp) (by simp) fun answer => ?_
  cases answer with
  | error seconds => exact leads_throw.mpr hb
  | ok =>
      simp only [leads_bind, leads_repository]
      intro fresh
      have hb' : φ (b.perform (.findLogin (Email.normalize email)) fresh) :=
        hφ _ _ fresh hb trivial rfl
      split
      · simp only [leads_bind, leads_now]
        intro time _
        exact leads_ask (by simp) (by simp) fun _ => leads_throw.mpr hb'
      next record hrecord =>
        obtain ⟨hfound, -⟩ := Option.filter_eq_some_iff.mp hrecord
        have hissue := leads_openFor (T := T) hφ c hb' .password device
          (Books.get?_shownUser hfound rfl)
        split
        · simp only [leads_bind]
          exact leads_ask (by simp) (by simp) fun _ => hissue
        · exact hissue

theorem keeps_register
    (email password : String) (displayName : Option String) (device : Device) :
    Keeps T φ (register c email password displayName device) := by
  refine (keeps_refuseInvalid _).bind fun _ => (keeps_refuseInvalid _).bind fun _ => ?_
  refine (keeps_hashPassword c _).bind fun hash => keeps_freshId.bind fun id => ?_
  refine keeps_now.bind fun time b hb => ?_
  simp only [leads_bind, leads_repository]
  intro fresh
  generalize huser : User.create id (Email.normalize email) displayName time = user
  have hstays : user.Stays := huser ▸ User.stays_create ..
  have hb' : φ (b.perform (.createUser user hash) fresh) :=
    hφ _ _ fresh hb hstays rfl
  split
  · exact leads_throw.mpr hb'
  next u hcreated =>
    have hu := Books.get?_shownUser hcreated rfl
    obtain rfl := user_eq_of_created ⟨b.store, fresh, hcreated.symm⟩
    have hactive : Store.Active _ u.id := ⟨u, hu, huser ▸ rfl⟩
    rw [leads_bind]
    refine (leads_sendToken hφ c hb' _ _ hactive).mono fun _ b'' hsent => ?_
    obtain ⟨hb'', husers⟩ := hsent
    exact leads_issue hφ c hb'' _ _ (hactive.of_users_eq husers)

theorem keeps_exchangeIdToken (provider token : String) (device : Device) :
    Keeps T φ (exchangeIdToken c provider token device) := by
  refine (keeps_providerIdentity provider token).bind fun found b hb => ?_
  obtain ⟨identity, email⟩ := found
  -- The user is looked up twice, and a session is opened for whoever is found.
  have hfind {b : Books} (hb : φ b) {k : Option User → Service Grant}
      (hsome : ∀ user, k (some user) = openFor c user .oidc device)
      (hnone : ∀ b, φ b → Leads T φ b (k none) fun _ => φ) :
      Leads T φ b (repository
        (.findExternalUser identity.provider identity.subject) >>= k)
        fun _ => φ := by
    rw [leads_bind, leads_repository]
    intro fresh
    have hb' : φ (b.perform _ fresh) := hφ b
      (.findExternalUser identity.provider identity.subject) fresh hb trivial rfl
    cases hfound : (b.store.perform (.findExternalUser identity.provider
        identity.subject) fresh).1 with
    | none => exact hnone _ hb'
    | some user =>
        rw [hsome]
        exact leads_openFor hφ c hb' _ _ (Books.get?_shownUser hfound rfl)
  refine hfind hb (fun _ => rfl) fun b hb => ?_
  refine keeps_asking (r := .findLogin email) hφ (fun _ => trivial) rfl
    (fun found => ?_) b hb
  split
  · exact fun b hb => hfind hb (fun _ => rfl) fun b hb => leads_throw.mpr hb
  · refine keeps_now.bind fun time => keeps_freshId.bind fun id => ?_
    refine keeps_freshId.bind fun identityId b hb => ?_
    simp only [leads_bind, leads_repository]
    intro fresh
    have hstays : User.Stays
        { User.create id email none time with emailVerifiedAt := some time } :=
      ⟨(User.stays_create id email none time).live, rfl⟩
    have hb' : φ (b.perform (.createExternalUser _ (.create identityId
        identity.provider identity.subject id (some email) time)) fresh) :=
      hφ _ _ fresh hb ⟨hstays, rfl⟩ rfl
    split
    next user hcreated =>
      exact leads_openFor hφ c hb' _ _ (Books.get?_shownUser hcreated rfl)
    next user hexists =>
      exact leads_openFor hφ c hb' _ _ (Books.get?_shownUser hexists rfl)
    · exact leads_throw.mpr hb'

theorem keeps_requestReset (email : String) :
    Keeps T φ (requestReset c email) := by
  intro b hb
  simp only [requestReset, leads_bind, leads_repository]
  intro fresh
  have hb' : φ (b.perform (.findLogin (Email.normalize email)) fresh) :=
    hφ _ _ fresh hb trivial rfl
  split
  · exact leads_pure.mpr hb'
  next record hfound =>
    split
    next hactive =>
      have hu := Books.get?_shownUser hfound rfl
      exact (leads_sendToken hφ c hb' _ _ ⟨record.user, hu, hactive⟩).mono
        fun _ _ h => h.1
    · exact leads_pure.mpr hb'

end Service

/-! ## All calls -/

section

variable {c : ServiceSettings} {w : WorkerSettings} {T : Instant → Prop}
  {φ : Books → Prop}

/-- What deletions keep besides, every call keeps. -/
theorem ServiceCall.leads
    (hφ : Books.Stable φ) (call : ServiceCall)
    (hrequest : ∀ actor target, call = .requestDeletion actor target →
      Service.Keeps T φ (Service.requestDeletion c actor target))
    (hpoll : ∀ b, φ b → (Worker.poll w).Leads T (fun _ => φ) b) {b : Books}
    (hb : φ b) : (call.program c w).Leads T (fun _ => φ) b := by
  cases call with
  | register email password displayName device =>
      exact (Service.keeps_register hφ c email password displayName device b hb).program
  | login email password device =>
      exact (Service.keeps_login hφ c email password device b hb).program
  | exchange provider token device =>
      exact (Service.keeps_exchangeIdToken hφ c provider token device b hb).program
  | connect user provider token =>
      exact (Service.keeps_connectIdentity hφ user provider token b hb).program
  | refresh rawToken device =>
      exact (Service.keeps_refresh hφ c rawToken device b hb).program
  | logout rawToken => exact (Service.keeps_logout hφ c rawToken b hb).program
  | revokeSession user session =>
      exact (Service.keeps_revokeSession hφ user session b hb).program
  | revokeDevice user device =>
      exact (Service.keeps_revokeDevice hφ user device b hb).program
  | listSessions user current =>
      exact (Service.keeps_listSessions hφ user current b hb).program
  | registerPushToken user session token platform =>
      exact (Service.keeps_registerPushToken hφ user session token platform b hb).program
  | requestReset email => exact (Service.keeps_requestReset hφ c email b hb).program
  | confirmReset rawToken password =>
      exact (Service.keeps_confirmReset hφ c rawToken password b hb).program
  | changePassword user session current new =>
      exact (Service.keeps_changePassword hφ c user session current new b hb).program
  | verifyEmail rawToken =>
      exact (Service.keeps_verifyEmail hφ c rawToken b hb).program
  | changeRole actor target role =>
      exact (Service.keeps_changeRole hφ actor target role b hb).program
  | changeStatus actor target status reason =>
      exact (Service.keeps_changeStatus hφ actor target status reason b hb).program
  | requestDeletion actor target =>
      exact (hrequest actor target rfl b hb).program
  | cancelDeletion actor target =>
      exact (Service.keeps_cancelDeletion hφ actor target b hb).program
  | auditTrail target => exact (Service.keeps_auditTrail hφ target b hb).program
  | poll =>
      exact Program.leads_bind.mpr ((hpoll b hb).mono fun _ _ h =>
        Program.leads_pure.mpr h)

theorem Service.keeps_requestDeletion (actor : Actor) (target : UserId) :
    Keeps T Books.Proper (requestDeletion c actor target) := by
  intro b hb
  refine leads_requestDeletion fun time fresh _ => ?_
  have hb' : (b.perform (.requestDeletion actor target _ time) fresh).Proper :=
    hb.perform (r := .requestDeletion actor target
      (User.deletionDue c.gracePeriod time) time) trivial fresh
  exact ⟨fun _ jobId _ => hb'.enter _ jobId, fun _ => hb'⟩

theorem Worker.leads_poll_proper {b : Books} (hb : b.Proper) :
    (Worker.poll w).Leads T (fun _ => Books.Proper) b := by
  refine leads_poll (Φ := fun _ => Books.Proper) (fun job jobs b hb => ?_) ?_
  · refine leads_process ?_ ?_
    · exact fun e time jobId _ _ _ => hb.enter _ jobId
    · intro payload time fresh _ _
      have hb' := hb.perform (r := .finalizeDeletion payload.user none time)
        trivial fresh
      exact fun _ _ jobId _ _ => hb'.enter _ jobId
  · exact fun time jobId _ => hb.enter _ jobId

/-- However calls run one after the other, the store is properly worked on. -/
theorem Books.proper_run (errands : List Errand) :
    (Books.empty.run c w errands).Proper := by
  refine run_induction proper_empty fun e _ b hb => ?_
  have hleads : (e.call.program c w).Leads (fun _ => True)
      (fun _ => Books.Proper) b :=
    ServiceCall.leads stable_proper e.call
      (fun actor target _ => Service.keeps_requestDeletion actor target)
      (fun _ => Worker.leads_poll_proper) hb
  exact hleads.carryOut (fun _ => trivial) 0

end

end AccountAuthority
