import AccountAuthority.Proofs.InactiveUsers
import AccountAuthority.Proofs.SequentialCalls
import AccountAuthority.RateLimit

/-!
# Addresses that are not known

Somebody who does not know the password of an account tries passwords on its
address and asks for resets.  What such a caller is told, and what the limit on
logins counts, can be told from the limiter and the clock alone.  So it does not
show whether there is an account: the same calls on an address without one end
in the same way.
-/

namespace AccountAuthority

/-- What logins and resets work on: the store, and the limit on logins. -/
structure LoginDesk where
  store : Store
  limiter : RateLimiter

namespace Program

variable {α : Type}

/-- Carry a call out at the desk, from its `n`th request on. -/
def serve (o : Circumstances) (n : ℕ) : Program Backend α → LoginDesk → α × LoginDesk
  | .done a, d => (a, d)
  | .ask (.repository r) next, d =>
      (next (.ok (d.store.perform r (o.fresh n)).1)).serve o (n + 1)
        { d with store := (d.store.perform r (o.fresh n)).2 }
  | .ask (.checkLogin email ip now) next, d =>
      (next (d.limiter.check email ip now).1).serve o (n + 1)
        { d with limiter := (d.limiter.check email ip now).2 }
  | .ask (.loginFailed email ip now) next, d =>
      (next ()).serve o (n + 1)
        { d with limiter := d.limiter.recordFailure email ip now }
  | .ask (.loginSucceeded email ip) next, d =>
      (next ()).serve o (n + 1)
        { d with limiter := d.limiter.recordSuccess email ip }
  | .ask r next, d => (next (o.around n r)).serve o (n + 1) d

section

variable (o : Circumstances) (n : ℕ) (d : LoginDesk)

@[simp] theorem serve_repository
    (r : RepositoryRequest) (k : r.Answer → Service α) :
    (Service.repository r >>= k).run.serve o n d =
      (k (d.store.perform r (o.fresh n)).1).run.serve o (n + 1)
        { d with store := (d.store.perform r (o.fresh n)).2 } := rfl

@[simp] theorem serve_now (k : Instant → Service α) :
    (Service.now >>= k).run.serve o n d =
      (k (o.around n .now)).run.serve o (n + 1) d := rfl

@[simp] theorem serve_freshId (k : Uuid → Service α) :
    (Service.freshId >>= k).run.serve o n d =
      (k (o.around n .freshId)).run.serve o (n + 1) d := rfl

@[simp] theorem serve_freshToken (k : String → Service α) :
    (Service.freshToken >>= k).run.serve o n d =
      (k (BearerToken.ofBytes (o.around n (.randomBytes BearerToken.length)))).run.serve
        o (n + 1) d := rfl

@[simp] theorem serve_checkLogin
    (email : String) (ip : Option String) (now : Instant)
    (k : (ServiceRequest.checkLogin email ip now).Answer → Service α) :
    ((liftM (Service.ask (.checkLogin email ip now)) : Service _) >>= k).run.serve
        o n d =
      (k (d.limiter.check email ip now).1).run.serve o (n + 1)
        { d with limiter := (d.limiter.check email ip now).2 } := rfl

end

end Program

/-- Somebody without the password tries an address. -/
inductive Probe where
  | login (email password : String) (device : Device)
  | reset (email : String)

/-- What somebody is told who tries an address. -/
inductive ProbeResult where
  | login (result : Except ServiceError Grant)
  | reset (result : Except ServiceError Unit)

/-- A login is refused, for its credentials or for a while, and a reset is
accepted. -/
def ProbeResult.IsUsual : ProbeResult → Prop
  | login result =>
      result = .error .invalidCredentials ∨
        ∃ seconds, result = .error (.rateLimited seconds)
  | reset result => result = .ok ()

namespace Probe

/-- The address that is tried, in normal form. -/
def address : Probe → String
  | login email _ _ | reset email => Email.normalize email

/-- The password that is tried, if there is one, does not belong to the hash that is
stored, if there is one. -/
def Misses (h : PasswordHasher) (stored : Option String) : Probe → Prop
  | login _ password _ => ∀ hash ∈ stored, h.verify password hash = false
  | reset _ => True

/-- Where nothing is stored, every password misses. -/
theorem misses_none (h : PasswordHasher) (p : Probe) : p.Misses h none := by
  cases p with
  | login => exact nofun
  | reset => trivial

theorem Misses.verifyStored
    {h : PasswordHasher} {stored : Option String} {email password : String}
    {device : Device} (hmisses : (login email password device).Misses h stored) :
    h.verifyStored password stored = false := by
  cases stored with
  | none => rfl
  | some hash => exact hmisses hash rfl

/-- The call is carried out at the desk. -/
def perform (c : ServiceSettings) (o : Circumstances) :
    Probe → LoginDesk → ProbeResult × LoginDesk
  | login email password device, d =>
      ((Service.login c email password device).run.serve o 0 d).map .login id
  | reset email, d => ((Service.requestReset c email).run.serve o 0 d).map .reset id

end Probe

/-- A login that is refused, as the limit on logins has it: the clock is read for
the check, and once more when the failure is counted. -/
def RateLimiter.refuse
    (l : RateLimiter) (email : String) (ip : Option String) (checked failed : Instant) :
    ServiceError × RateLimiter :=
  match l.check email ip checked with
  | (.error seconds, l) => (.rateLimited seconds, l)
  | (.ok (), l) => (.invalidCredentials, l.recordFailure email ip failed)

namespace Service

variable {c : ServiceSettings} {o : Circumstances} {d : LoginDesk}

/-- A login without the password depends on the limiter and the clock alone. -/
theorem serve_login_of_misses
    {email password : String} {device : Device}
    (h : c.hasher.verifyStored password
      ((d.store.findLogin (Email.normalize email)).bind LoginRecord.passwordHash) =
        false) :
    (login c email password device).run.serve o 0 d =
      let refused := d.limiter.refuse (Email.normalize email) device.ipAddress
        (o.around 0 .now) (o.around 3 .now)
      (.error refused.1, { d with limiter := refused.2 }) := by
  rw [login, Program.serve_now]
  refine (Program.serve_checkLogin ..).trans ?_
  unfold RateLimiter.refuse
  cases d.limiter.check (Email.normalize email) device.ipAddress (o.around 0 .now) with
  | mk answer limiter =>
      cases answer with
      | error seconds => rfl
      | ok _ =>
          refine (Program.serve_repository ..).trans ?_
          simp only [Store.perform, h]
          cases d.store.findLogin (Email.normalize email) with
          | none => rfl
          | some record => rfl

theorem serve_sendToken (user : User) (purpose : TokenPurpose) (ttl : Span) (n : ℕ) :
    ∃ token, (sendToken c user purpose ttl).run.serve o n d =
      (.ok (), { d with store := d.store.storeVerificationToken token }) := by
  rw [sendToken, Program.serve_now, Program.serve_freshToken, Program.serve_freshId]
  exact ⟨_, rfl⟩

/-- A reset may leave a token in the store, which no login looks at. -/
theorem serve_requestReset (email : String) :
    ∃ store : Store, (requestReset c email).run.serve o 0 d =
        (.ok (), { d with store := store }) ∧
      ∀ address, store.findLogin address = d.store.findLogin address := by
  rw [requestReset]
  cases hfind : d.store.findLogin (Email.normalize email) with
  | none =>
      refine ⟨d.store, (Program.serve_repository ..).trans ?_, fun _ => rfl⟩
      simp only [Store.perform, hfind]
      rfl
  | some record =>
      by_cases hactive : record.user.status = .active
      · obtain ⟨token, hsent⟩ := serve_sendToken (c := c) (o := o) (d := d)
          record.user .passwordReset c.resetTtl 1
        refine ⟨d.store.storeVerificationToken token,
          (Program.serve_repository ..).trans ?_, fun _ => rfl⟩
        simp only [Store.perform, hfind, if_pos hactive]
        exact hsent
      · refine ⟨d.store, (Program.serve_repository ..).trans ?_, fun _ => rfl⟩
        simp only [Store.perform, hfind, if_neg hactive]
        rfl

end Service

/-! ## Two desks -/

namespace Probe

/-- What the call ends with when no password matches, and what it leaves of the
limit on logins. -/
def refuse (o : Circumstances) : Probe → RateLimiter → ProbeResult × RateLimiter
  | login email _ device, l =>
      let refused := l.refuse (Email.normalize email) device.ipAddress
        (o.around 0 .now) (o.around 3 .now)
      (.login (.error refused.1), refused.2)
  | reset _, l => (.reset (.ok ()), l)

variable {c : ServiceSettings} {o : Circumstances} {d : LoginDesk}

/-- One call, if no password matches. -/
theorem perform_of_misses
    {p : Probe} (h : p.Misses c.hasher
      ((d.store.findLogin p.address).bind LoginRecord.passwordHash)) :
    ∃ store : Store, p.perform c o d =
        ((p.refuse o d.limiter).1, ⟨store, (p.refuse o d.limiter).2⟩) ∧
      ∀ address, store.findLogin address = d.store.findLogin address := by
  cases p with
  | login email password device =>
      refine ⟨d.store, ?_, fun _ => rfl⟩
      rw [perform, Service.serve_login_of_misses h.verifyStored]
      rfl
  | reset email =>
      obtain ⟨store, hrun, hsame⟩ :=
        Service.serve_requestReset (c := c) (o := o) (d := d) email
      refine ⟨store, ?_, hsame⟩
      rw [perform, hrun]
      rfl

end Probe

namespace LoginDesk

/-- Calls at the desk, one after the other, each in its own circumstances: the
results and the desk afterwards. -/
def probe (d : LoginDesk) (c : ServiceSettings) (o : ℕ → Circumstances) :
    List Probe → List ProbeResult × LoginDesk
  | [] => ([], d)
  | p :: probes =>
      let rest := (p.perform c (o 0) d).2.probe c (fun n => o (n + 1)) probes
      ((p.perform c (o 0) d).1 :: rest.1, rest.2)

end LoginDesk

/-- Calls none of which has a password that matches, as the limit on logins has
them. -/
def RateLimiter.refuseAll (l : RateLimiter) (o : ℕ → Circumstances) :
    List Probe → List ProbeResult × RateLimiter
  | [] => ([], l)
  | p :: probes =>
      let rest := (p.refuse (o 0) l).2.refuseAll (fun n => o (n + 1)) probes
      ((p.refuse (o 0) l).1 :: rest.1, rest.2)

variable {c : ServiceSettings} {o : ℕ → Circumstances} {address : String}

/-- A run of calls, if no password matches. -/
theorem LoginDesk.probe_of_misses
    {d : LoginDesk} {probes : List Probe}
    (haddress : ∀ p ∈ probes, p.address = address)
    (hmisses : ∀ p ∈ probes, p.Misses c.hasher
      ((d.store.findLogin address).bind LoginRecord.passwordHash)) :
    (d.probe c o probes).1 = (d.limiter.refuseAll o probes).1 ∧
      (d.probe c o probes).2.limiter = (d.limiter.refuseAll o probes).2 := by
  induction probes generalizing d o with
  | nil => exact ⟨rfl, rfl⟩
  | cons p probes ih =>
      obtain ⟨haddr, haddress⟩ := List.forall_mem_cons.mp haddress
      obtain ⟨hmiss, hmisses⟩ := List.forall_mem_cons.mp hmisses
      obtain ⟨store, hfirst, hsame⟩ :=
        Probe.perform_of_misses (o := o 0) (haddr.symm ▸ hmiss)
      rw [← hsame] at hmisses
      obtain ⟨hresults, hlimiter⟩ := ih (d := ⟨store, _⟩) (o := fun n => o (n + 1))
        haddress hmisses
      simp only [probe, RateLimiter.refuseAll, hfirst]
      exact ⟨congrArg _ hresults, hlimiter⟩

namespace RateLimiter

theorem refuseAll_congr
    {l : RateLimiter} {o o' : ℕ → Circumstances} {probes : List Probe}
    (hclock : ∀ i n, (o i).around n .now = (o' i).around n .now) :
    l.refuseAll o probes = l.refuseAll o' probes := by
  induction probes generalizing l o o' with
  | nil => rfl
  | cons p probes ih =>
      have hfirst : p.refuse (o 0) l = p.refuse (o' 0) l := by
        cases p with
        | login => simp only [Probe.refuse, hclock]
        | reset => rfl
      simp only [refuseAll, hfirst, ih fun i n => hclock (i + 1) n]

theorem refuse_cases
    (l : RateLimiter) (email : String) (ip : Option String) (checked failed : Instant) :
    (l.refuse email ip checked failed).1 = .invalidCredentials ∨
      ∃ seconds, (l.refuse email ip checked failed).1 = .rateLimited seconds := by
  unfold refuse
  split
  · exact Or.inr ⟨_, rfl⟩
  · exact Or.inl rfl

theorem isUsual_of_mem_refuseAll
    {l : RateLimiter} {probes : List Probe} {result : ProbeResult}
    (h : result ∈ (l.refuseAll o probes).1) : result.IsUsual := by
  induction probes generalizing l o with
  | nil => exact absurd h List.not_mem_nil
  | cons p probes ih =>
      rcases List.mem_cons.mp h with rfl | h
      · cases p with
        | login email password device =>
            refine (refuse_cases ..).imp (congrArg _) ?_
            exact fun ⟨seconds, h⟩ => ⟨seconds, congrArg _ h⟩
        | reset email => rfl
      · exact ih h

end RateLimiter

/-- Whoever tries an address without having the password is told the same, and
leaves the same behind in the limit on logins, whether or not there is an account
with that address, and whatever the status of the account is. -/
theorem unknown_address_indistinguishable
    (c : ServiceSettings) (o₁ o₂ : ℕ → Circumstances) (d₁ d₂ : LoginDesk)
    (address : String) (record : LoginRecord) (probes : List Probe)
    (hknown : d₁.store.findLogin address = some record)
    (hunknown : d₂.store.findLogin address = none)
    (hlimiter : d₁.limiter = d₂.limiter)
    (hclock : ∀ i n, (o₁ i).around n .now = (o₂ i).around n .now)
    (haddress : ∀ p ∈ probes, p.address = address)
    (hmisses : ∀ p ∈ probes, p.Misses c.hasher record.passwordHash) :
    (d₁.probe c o₁ probes).1 = (d₂.probe c o₂ probes).1 ∧
      (d₁.probe c o₁ probes).2.limiter = (d₂.probe c o₂ probes).2.limiter ∧
      ∀ result ∈ (d₁.probe c o₁ probes).1, result.IsUsual := by
  have hmisses₁ : ∀ p ∈ probes, p.Misses c.hasher
      ((d₁.store.findLogin address).bind LoginRecord.passwordHash) := by
    rwa [hknown]
  have hmisses₂ : ∀ p ∈ probes, p.Misses c.hasher
      ((d₂.store.findLogin address).bind LoginRecord.passwordHash) := by
    rw [hunknown]
    exact fun p _ => p.misses_none c.hasher
  obtain ⟨hresults₁, hlimiter₁⟩ := LoginDesk.probe_of_misses (o := o₁) haddress hmisses₁
  obtain ⟨hresults₂, hlimiter₂⟩ := LoginDesk.probe_of_misses (o := o₂) haddress hmisses₂
  rw [hresults₁, hresults₂, hlimiter₁, hlimiter₂, hlimiter,
    RateLimiter.refuseAll_congr hclock]
  exact ⟨rfl, rfl, fun _ => RateLimiter.isUsual_of_mem_refuseAll⟩

/-- The store with the sample user and its password, and the empty store; logins
are locked after one failure. -/
theorem unknown_address_indistinguishable_sample :
    let o : ℕ → Circumstances := fun i => .numbered i ⟨i, 0⟩
    let known : LoginDesk := ⟨userWithPassword, .create 1 60⟩
    let unknown : LoginDesk := ⟨.empty, .create 1 60⟩
    let probes : List Probe :=
      [.login " USER" "wrong" {}, .reset "user", .login "user" "other" {}]
    known.store.findLogin "user" = some ⟨sampleUser, some "password"⟩ ∧
      unknown.store.findLogin "user" = none ∧
      (∀ p ∈ probes, p.address = "user") ∧
      (∀ p ∈ probes, p.Misses plainSettings.hasher (some "password")) ∧
      (known.probe plainSettings o probes).1 =
        (unknown.probe plainSettings o probes).1 ∧
      (known.probe plainSettings o probes).2.limiter =
        (unknown.probe plainSettings o probes).2.limiter := by
  intro o known unknown probes
  have hknown : known.store.findLogin "user" =
      some ⟨sampleUser, some "password"⟩ := by decide +kernel
  have haddress : ∀ p ∈ probes, p.address = "user" := by decide +kernel
  have hmisses : ∀ p ∈ probes,
      p.Misses plainSettings.hasher (some "password") := by
    simp [probes, Probe.Misses, plainSettings]
  obtain ⟨hresults, hlimiter, -⟩ := unknown_address_indistinguishable plainSettings
    o o known unknown "user" _ probes hknown rfl rfl (fun _ _ => rfl) haddress hmisses
  exact ⟨hknown, rfl, haddress, hmisses, hresults, hlimiter⟩

end AccountAuthority
