import AccountAuthority.Proofs.AcceptedTokens
import AccountAuthority.Proofs.NormalForms
import AccountAuthority.Proofs.SessionWork
import AccountAuthority.Proofs.SharedAddresses
import AccountAuthority.Proofs.UnknownAddresses

/-!
# Spellings of an address

An address is brought into its normal form wherever it comes in, and some calls
do so twice.  Since the normal form is its own normal form, once is enough, and
the address of an account is found in every spelling with the same normal form: by
logins, by resets of the password, by registrations, and by the first login with
an external identity.
-/

namespace AccountAuthority

open Store

/-! ## An address with one user -/

namespace Store

/-- An address is that of one user, who has a password. -/
structure BelongsTo (s : Store) (address : String) (u : User) (hash : String) : Prop where
  mem : u ∈ s.users.rows
  email : u.email = address
  only : ∀ v ∈ s.users.rows, v.email = address → v = u
  password : s.passwordHash? u.id = some hash

variable {s s' : Store} {address hash : String} {u : User}

theorem BelongsTo.of_same
    (h : s.BelongsTo address u hash) (husers : s'.users = s.users)
    (hpasswords : s'.passwords = s.passwords) : s'.BelongsTo address u hash where
  mem := husers ▸ h.mem
  email := h.email
  only := husers ▸ h.only
  password := by
    rw [passwordHash?, hpasswords]
    exact h.password

theorem BelongsTo.findLogin_eq (h : s.BelongsTo address u hash) :
    s.findLogin address = some ⟨u, some hash⟩ := by
  have hfound : s.userByEmail? address = some u := by
    cases hfind : s.userByEmail? address with
    | none =>
        have hnone := List.find?_eq_none.mp hfind u h.mem
        simp [h.email] at hnone
    | some v =>
        have hv : v.email = address := by simpa using List.find?_some hfind
        rw [h.only v (List.mem_of_find?_eq_some hfind) hv]
  rw [findLogin, hfound, Option.map_some, h.password]

theorem BelongsTo.emailTaken_eq (h : s.BelongsTo address u hash) :
    s.emailTaken address = true :=
  List.any_eq_true.mpr ⟨u, h.mem, by simp [h.email]⟩

/-- The address of a new account is that of no other one. -/
theorem belongsTo_insertUser (hfree : s.emailTaken u.email = false) (hash : String) :
    (s.insertUser u (some hash)).BelongsTo u.email u hash where
  mem := Table.mem_rows_insert.mpr (Or.inl rfl)
  email := rfl
  only v hv hemail := by
    rcases Table.mem_rows_insert.mp hv with rfl | ⟨hv, -⟩
    · rfl
    · exact absurd hemail (ne_email_of_not_taken hfree hv)
  password := by
    have hkey : u.id = key (⟨u.id, hash⟩ : StoredPassword) := rfl
    rw [passwordHash?, insertUser, Table.get?_insert, if_pos hkey]
    rfl

end Store

/-! ## What calls come to at the desk -/

namespace Service

variable {α : Type} {c : ServiceSettings} {o : Circumstances} {n : ℕ} {d : LoginDesk}

theorem serve_refuseInvalid (errors : List FieldError) (k : Unit → Service α) :
    (refuseInvalid errors >>= k).run.serve o n d =
      if errors.isEmpty then (k ()).run.serve o n d
      else (.error (.validation (FieldError.render errors)), d) := by
  unfold refuseInvalid
  split <;> rfl

theorem serve_hashPassword (password : String) (k : String → Service α) :
    (hashPassword c password >>= k).run.serve o n d =
      (k (c.hasher.hash (o.around n (.randomBytes PasswordHasher.saltLength))
        password)).run.serve o (n + 1) d := rfl

/-- A token is kept and sent before a call goes on. -/
theorem serve_sendToken_bind
    (user : User) (purpose : TokenPurpose) (ttl : Span) (k : Unit → Service α) :
    ∃ token, (sendToken c user purpose ttl >>= k).run.serve o n d =
      (k ()).run.serve o (n + 5)
        { d with store := d.store.storeVerificationToken token } :=
  ⟨_, rfl⟩

/-- A call goes on with an access token, or ends with an error of the signer. -/
theorem serve_signFor (user : User) (session : SessionId) (k : String → Service α) :
    ∃ signed : Except String String,
      (signFor c user session >>= k).run.serve o n d =
        match signed with
        | .ok token => (k token).run.serve o (n + 1) d
        | .error text => (.error (.internal text), d) := by
  let request : AccessRequest := {
    user := user.id
    session := session
    emailVerified := user.emailVerified
    roles := [code user.role]
    ttlSeconds := c.accessTtlSeconds }
  refine ⟨o.around n (.signAccess request), ?_⟩
  have hasked (answer : Except String String → Service String) :
      ((liftM (ask (.signAccess request)) >>= answer) >>= k).run.serve o n d =
        (answer (o.around n (.signAccess request)) >>= k).run.serve o (n + 1) d := rfl
  rw [signFor]
  refine (hasked _).trans ?_
  generalize o.around n (.signAccess request) = signed
  cases signed <;> rfl

/-- Opening a session changes no accounts, and what is granted is for the user. -/
theorem serve_issue
    (user : User) (methods : List AuthMethod) (device : Device) :
    let served := (issue c user methods device).run.serve o n d
    SameAccounts d.store served.2.store ∧
      ∀ g, served.1 = .ok g → g.user = user.view := by
  rw [issue, Program.serve_now, Program.serve_freshId]
  dsimp only
  obtain ⟨signed, hsigned⟩ :=
    serve_signFor (c := c) (o := o) (n := n + 1 + 1) (d := d) user _ _
  rw [hsigned]
  cases signed with
  | error text =>
      refine ⟨.refl d.store, fun g hg => ?_⟩
      cases hg
  | ok token =>
      dsimp only
      rw [Program.serve_freshToken, Program.serve_freshId, Program.serve_repository]
      refine ⟨createSession_sameAccounts d.store _ _ _, fun g hg => ?_⟩
      cases hg
      rfl

/-- The verified address of an identity comes in normal form. -/
theorem serve_providerIdentity
    {provider token email : String} {identity : ProviderIdentity}
    (hverified : o.around n (.verifyIdToken provider token) = .verified identity)
    (hemail : identity.email = some email) (hflag : identity.emailVerified = true)
    (k : ProviderIdentity × String → Service α) :
    (providerIdentity provider token >>= k).run.serve o n d =
      (k (identity, Email.normalize email)).run.serve o (n + 1) d := by
  have hasked (answer : OidcVerification → Service (ProviderIdentity × String)) :
      ((liftM (ask (.verifyIdToken provider token)) >>= answer) >>= k).run.serve o n d =
        (answer (o.around n (.verifyIdToken provider token)) >>= k).run.serve
          o (n + 1) d := rfl
  rw [providerIdentity]
  refine (hasked _).trans ?_
  simp only [hverified, hemail, hflag, if_true]
  rfl

end Service

/-! ## An address in every spelling -/

/-- A login of the user `u`, who is active: the limit on logins is asked, and the
password is checked against the hash of the user. -/
def LoginDesk.logIn
    (d : LoginDesk) (c : ServiceSettings) (o : Circumstances) (n : ℕ) (u : User)
    (hash password : String) (device : Device) : Except ServiceError Grant × LoginDesk :=
  match d.limiter.check u.email device.ipAddress (o.around n .now) with
  | (.error seconds, limiter) =>
      (.error (.rateLimited seconds), { d with limiter := limiter })
  | (.ok (), limiter) =>
      if c.hasher.verify password hash then
        (Service.issue c u [.password] device).run.serve o (n + 4)
          { d with limiter := limiter.recordSuccess u.email device.ipAddress }
      else
        (.error .invalidCredentials,
          { d with limiter :=
              limiter.recordFailure u.email device.ipAddress (o.around (n + 3) .now) })

/-- What is granted to a login is for the user. -/
theorem LoginDesk.user_of_logIn
    {d : LoginDesk} {c : ServiceSettings} {o : Circumstances} {n : ℕ} {u : User}
    {hash password : String} {device : Device} {g : Grant}
    (h : (d.logIn c o n u hash password device).1 = .ok g) : g.user = u.view := by
  unfold logIn at h
  split at h
  · cases h
  split at h
  · exact (Service.serve_issue u [.password] device).2 g h
  · cases h

/-- An address, as it is spelled, leads to the user `u` and to nobody else: the user
logs in with it and is sent tokens to reset the password, and nobody can register it
or sign up with it. -/
structure LoginDesk.Reaches
    (d : LoginDesk) (c : ServiceSettings) (spelling : String) (u : User)
    (hash : String) : Prop where
  found : d.store.findLogin (Email.normalize spelling) = some ⟨u, some hash⟩
  only : ∀ v ∈ d.store.users.rows, v.email = Email.normalize spelling ↔ v = u
  login : ∀ o n password device,
    (Service.login c spelling password device).run.serve o n d =
      d.logIn c o n u hash password device
  granted : ∀ o n password device g,
    ((Service.login c spelling password device).run.serve o n d).1 = .ok g →
      g.user = u.view
  reset : ∀ o n,
    (Service.requestReset c spelling).run.serve o n d =
      (Service.sendToken c u .passwordReset c.resetTtl).run.serve o (n + 1) d
  register : ∀ o n password displayName device, ∃ error,
    (Service.register c spelling password displayName device).run.serve o n d =
      (.error error, d) ∧
    ((displayName.getD "").length ≤ Service.maxDisplayName →
      Password.policyErrors password = [] → error = .emailAlreadyRegistered)
  exchange : ∀ (o : Circumstances) n provider token device identity,
    o.around n (.verifyIdToken provider token) = .verified identity →
    identity.email = some spelling → identity.emailVerified = true →
    d.store.findExternalUser identity.provider identity.subject = none →
      (Service.exchangeIdToken c provider token device).run.serve o n d =
        (.error .linkRequired, d)

namespace Service

variable {c : ServiceSettings} {o : Circumstances} {n : ℕ} {d : LoginDesk}
  {spelling hash : String} {u : User}

theorem serve_login_of_belongsTo
    (h : d.store.BelongsTo (Email.normalize spelling) u hash)
    (hactive : u.status = .active) (password : String) (device : Device) :
    (login c spelling password device).run.serve o n d =
      d.logIn c o n u hash password device := by
  rw [login, Program.serve_now]
  refine (Program.serve_checkLogin ..).trans ?_
  rw [LoginDesk.logIn, h.email]
  cases d.limiter.check (Email.normalize spelling) device.ipAddress (o.around n .now) with
  | mk answer limiter =>
      cases answer with
      | error seconds => rfl
      | ok _ =>
          refine (Program.serve_repository ..).trans ?_
          simp only [Store.perform, h.findLogin_eq, Option.bind_some,
            PasswordHasher.verifyStored]
          cases c.hasher.verify password hash with
          | false => rfl
          | true =>
              simp only [Option.filter_some, if_true, hactive, openFor]
              rfl

theorem serve_requestReset_of_belongsTo
    (h : d.store.BelongsTo (Email.normalize spelling) u hash)
    (hactive : u.status = .active) :
    (requestReset c spelling).run.serve o n d =
      (sendToken c u .passwordReset c.resetTtl).run.serve o (n + 1) d := by
  rw [requestReset, Program.serve_repository]
  simp only [Store.perform, h.findLogin_eq, if_pos hactive]

theorem registrationErrors_of_isValid
    {address : String} (hvalid : Email.isValid address = true)
    {displayName : Option String}
    (hname : (displayName.getD "").length ≤ maxDisplayName) :
    registrationErrors address displayName = [] := by
  simp [registrationErrors, hvalid, hname]

theorem serve_register_of_belongsTo
    (h : d.store.BelongsTo (Email.normalize spelling) u hash)
    (hvalid : Email.isValid (Email.normalize spelling) = true)
    (password : String) (displayName : Option String) (device : Device) :
    ∃ error,
      (register c spelling password displayName device).run.serve o n d =
        (.error error, d) ∧
      ((displayName.getD "").length ≤ maxDisplayName →
        Password.policyErrors password = [] → error = .emailAlreadyRegistered) := by
  rw [register, serve_refuseInvalid]
  split
  · rw [serve_refuseInvalid]
    split
    · rw [serve_hashPassword, Program.serve_freshId, Program.serve_now,
        Program.serve_repository]
      have htaken :
          d.store.emailTaken (Email.normalize (Email.normalize spelling)) = true := by
        rw [Email.normalize_normalize]
        exact h.emailTaken_eq
      simp only [Store.perform, createUser, User.create, htaken, if_true]
      exact ⟨_, rfl, fun _ _ => rfl⟩
    next hpolicy =>
      exact ⟨_, rfl, fun _ hnone => absurd (by rw [hnone]; rfl) hpolicy⟩
  next hform =>
    refine ⟨_, rfl, fun hname _ => absurd ?_ hform⟩
    rw [registrationErrors_of_isValid hvalid hname]
    rfl

theorem serve_exchangeIdToken_of_belongsTo
    (h : d.store.BelongsTo (Email.normalize spelling) u hash)
    {provider token : String} {identity : ProviderIdentity}
    (hverified : o.around n (.verifyIdToken provider token) = .verified identity)
    (hemail : identity.email = some spelling) (hflag : identity.emailVerified = true)
    (hunlinked : d.store.findExternalUser identity.provider identity.subject = none)
    (device : Device) :
    (exchangeIdToken c provider token device).run.serve o n d =
      (.error .linkRequired, d) := by
  rw [exchangeIdToken, serve_providerIdentity hverified hemail hflag]
  refine (Program.serve_repository ..).trans ?_
  simp only [Store.perform, hunlinked]
  refine (Program.serve_repository ..).trans ?_
  simp only [Store.perform, h.findLogin_eq]
  refine (Program.serve_repository ..).trans ?_
  simp only [Store.perform, hunlinked]
  rfl

end Service

theorem Store.BelongsTo.reaches
    {c : ServiceSettings} {d : LoginDesk} {spelling hash : String} {u : User}
    (h : d.store.BelongsTo (Email.normalize spelling) u hash)
    (hactive : u.status = .active)
    (hvalid : Email.isValid (Email.normalize spelling) = true) :
    d.Reaches c spelling u hash where
  found := h.findLogin_eq
  only v hv := ⟨h.only v hv, fun hvu => hvu ▸ h.email⟩
  login _ _ := Service.serve_login_of_belongsTo h hactive
  granted o n password device g hg := by
    rw [Service.serve_login_of_belongsTo h hactive] at hg
    exact LoginDesk.user_of_logIn hg
  reset _ _ := Service.serve_requestReset_of_belongsTo h hactive
  register _ _ := Service.serve_register_of_belongsTo h hvalid
  exchange _ _ _ _ device _ hverified hemail hflag hunlinked :=
    Service.serve_exchangeIdToken_of_belongsTo h hverified hemail hflag hunlinked device

/-! ## Registration -/

namespace Service

/-- A new user is sent a token, and a session is opened; the address stays theirs. -/
theorem belongsTo_of_welcome
    {c : ServiceSettings} {o : Circumstances} {n : ℕ} {d d' : LoginDesk}
    {address hash : String} {u : User} (hu : d.store.BelongsTo address u hash)
    {purpose : TokenPurpose} {ttl : Span} {methods : List AuthMethod} {device : Device}
    {g : Grant}
    (h : (sendToken c u purpose ttl >>= fun _ => issue c u methods device).run.serve
      o n d = (.ok g, d')) :
    g.user = u.view ∧ d'.store.BelongsTo address u hash := by
  obtain ⟨token, hsent⟩ := serve_sendToken_bind (c := c) (o := o) (n := n) (d := d)
    u purpose ttl fun _ => issue c u methods device
  obtain ⟨hsame, hgrant⟩ := serve_issue (c := c) (o := o) (n := n + 5)
    (d := { d with store := d.store.storeVerificationToken token }) u methods device
  rw [← hsent, h] at hsame hgrant
  exact ⟨hgrant g rfl, hu.of_same hsame.users hsame.passwords⟩

/-- After a registration the address is that of the new user, and of nobody before. -/
theorem belongsTo_of_register
    {c : ServiceSettings} {o : Circumstances} {n : ℕ} {d d' : LoginDesk}
    {email password : String} {displayName : Option String} {device : Device} {g : Grant}
    (h : (register c email password displayName device).run.serve o n d = (.ok g, d')) :
    Email.isValid (Email.normalize email) = true ∧
      d.store.emailTaken (Email.normalize email) = false ∧
      ∃ id now salt, g.user = (User.create id email displayName now).view ∧
        d'.store.BelongsTo (Email.normalize email) (User.create id email displayName now)
          (c.hasher.hash salt password) := by
  rw [register, serve_refuseInvalid] at h
  split at h
  next hform =>
    have hvalid : Email.isValid (Email.normalize email) = true := by
      by_contra hinvalid
      simp [registrationErrors, hinvalid] at hform
    rw [serve_refuseInvalid] at h
    split at h
    · rw [serve_hashPassword, Program.serve_freshId, Program.serve_now,
        Program.serve_repository] at h
      have hcreate (id : Uuid) (now : Instant) :
          User.create id (Email.normalize email) displayName now =
            User.create id email displayName now := by
        simp only [User.create, Email.normalize_normalize]
      simp only [Store.perform, hcreate] at h
      generalize o.around n (.randomBytes PasswordHasher.saltLength) = salt at h
      generalize o.around (n + 1) .freshId = id at h
      generalize o.around (n + 1 + 1) .now = now at h
      refine ⟨hvalid, ?_⟩
      have hemail : (User.create id email displayName now).email =
          Email.normalize email := rfl
      rw [← hemail]
      generalize hu : User.create id email displayName now = u at h hemail ⊢
      cases hfree : d.store.emailTaken u.email with
      | true =>
          rw [createUser, if_pos hfree] at h
          cases h
      | false =>
          rw [createUser, if_neg (by simp [hfree])] at h
          have hbelongs := belongsTo_insertUser hfree (c.hasher.hash salt password)
          obtain ⟨hgrant, hbelongs⟩ := belongsTo_of_welcome
            (d := ⟨d.store.insertUser u (some (c.hasher.hash salt password)), d.limiter⟩)
            hbelongs h
          subst hu
          exact ⟨rfl, id, now, salt, hgrant, hbelongs⟩
    · cases h
  · cases h

end Service

/-- The normal form of every text is its own normal form.  After a registration has
succeeded, the address leads to the new user and to nobody else, whatever the
spelling: a login with it is one of this user, a reset token is sent to this user,
another registration is told that the address is registered, and the first login
with an external identity that has the address is told to link the identity. -/
theorem every_spelling_reaches_account :
    (∀ address, Email.normalize (Email.normalize address) = Email.normalize address) ∧
    ∀ (c : ServiceSettings) (o : Circumstances) n (d d' : LoginDesk)
      (email password : String) displayName device g,
      (Service.register c email password displayName device).run.serve o n d =
          (.ok g, d') →
        ∃ id now salt,
          let u := User.create id email displayName now
          g.user = u.view ∧ u.email = Email.normalize email ∧
          (∀ v ∈ d.store.users.rows, v.email ≠ u.email) ∧
          ∀ spelling, Email.normalize spelling = Email.normalize email →
            d'.Reaches c spelling u (c.hasher.hash salt password) := by
  refine ⟨Email.normalize_normalize, ?_⟩
  intro c o n d d' email password displayName device g h
  obtain ⟨hvalid, hfree, id, now, salt, hgrant, hbelongs⟩ :=
    Service.belongsTo_of_register h
  refine ⟨id, now, salt, hgrant, rfl, fun v hv => ne_email_of_not_taken hfree hv,
    fun spelling heq => ?_⟩
  rw [← heq] at hvalid hbelongs
  exact hbelongs.reaches rfl hvalid

/-- Circumstances in which every identity token is one of an identity with the
address. -/
def Circumstances.vouching (address : String) : Circumstances where
  around
    | _, .verifyIdToken .. => .verified ⟨"google", "subject", some address, true⟩
    | n, r => (Circumstances.numbered 1 ⟨0, 0⟩).around n r
  fresh := (Circumstances.numbered 1 ⟨0, 0⟩).fresh
  jobIds := (Circumstances.numbered 1 ⟨0, 0⟩).jobIds

/-- A user registers on an empty store, and comes back with capital letters and a
blank. -/
theorem every_spelling_reaches_account_ada :
    let served := (Service.register plainSettings " Ada@Example.com" "password" none
      {}).run.serve (.numbered 1 ⟨0, 0⟩) 0 ⟨.empty, .create 5 60⟩
    ∃ g u, served.1 = .ok g ∧ g.user = u.view ∧ u.email = "ada@example.com" ∧
      served.2.Reaches plainSettings "ADA@example.COM " u "password" ∧
      (Service.exchangeIdToken plainSettings "google" "token" {}).run.serve
        (.vouching "ADA@example.COM ") 0 served.2 = (.error .linkRequired, served.2) := by
  intro served
  have hok : served.1.toOption.isSome = true := by decide +kernel
  have hunlinked : served.2.store.findExternalUser "google" "subject" = none := by
    decide +kernel
  have hspelling : Email.normalize "ADA@example.COM " =
      Email.normalize " Ada@Example.com" := by decide +kernel
  have hnormal : Email.normalize " Ada@Example.com" = "ada@example.com" := by
    decide +kernel
  obtain ⟨g, hg⟩ := Option.isSome_iff_exists.mp hok
  have hgranted : served.1 = .ok g := Except.eq_ok_of_toOption hg
  obtain ⟨-, hregister⟩ := every_spelling_reaches_account
  obtain ⟨id, now, salt, hview, hemail, -, hreaches⟩ := hregister plainSettings
    (.numbered 1 ⟨0, 0⟩) 0 ⟨.empty, .create 5 60⟩ served.2 " Ada@Example.com"
    "password" none {} g (Prod.ext hgranted rfl)
  have hreached := hreaches _ hspelling
  exact ⟨g, _, hgranted, hview, hemail.trans hnormal, hreached,
    hreached.exchange _ 0 _ _ _ _ rfl rfl rfl hunlinked⟩

end AccountAuthority
