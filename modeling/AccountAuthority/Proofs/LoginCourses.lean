import AccountAuthority.Proofs.WaitingTimes

/-!
# The course of a login

A login asks the limiter whether it may be tried, the repository for the account,
and the limiter again to count a failure or to forget the failures.  How it goes
is told from what it asks and is answered.  Nothing is assumed of the answers of
the repository and the signer: the accounts may change from one request to the
next, or not be told at all.
-/

namespace AccountAuthority

/-- What is asked of the backend, and what is answered. -/
abbrev AnsweredRequest := (r : ServiceRequest) × r.Answer

/-- How a call goes: what it ends with, the limiter afterwards, and what has been
asked, the first request first. -/
structure Course (α : Type) where
  result : α
  limiter : RateLimiter
  asked : List AnsweredRequest

namespace Course

variable {α : Type}

/-- The readings of the clock in the course of a call. -/
def readings (x : Course α) : List Instant :=
  x.asked.filterMap fun
    | ⟨.now, t⟩ => some t
    | _ => none

/-- The course of a call that first asks for something. -/
def after (x : Course α) (q : AnsweredRequest) : Course α :=
  { x with asked := q :: x.asked }

@[simp] theorem result_after (x : Course α) (q : AnsweredRequest) :
    (x.after q).result = x.result := rfl

@[simp] theorem limiter_after (x : Course α) (q : AnsweredRequest) :
    (x.after q).limiter = x.limiter := rfl

@[simp] theorem asked_after (x : Course α) (q : AnsweredRequest) :
    (x.after q).asked = q :: x.asked := rfl

end Course

/-- The answer to the `n`th request of a call, and the limiter after it.  What the
limiter is not asked, the surroundings are. -/
def RateLimiter.answer (l : RateLimiter) (o : Surroundings) (n : ℕ) :
    (r : ServiceRequest) → r.Answer × RateLimiter
  | .checkLogin email ip now => l.check email ip now
  | .loginFailed email ip now => ((), l.recordFailure email ip now)
  | .loginSucceeded email ip => ((), l.recordSuccess email ip)
  | r => (o n r, l)

namespace Program

variable {α : Type}

/-- The course of a call from its `n`th request on. -/
def course (o : Surroundings) (n : ℕ) : Program Backend α → RateLimiter → Course α
  | .done a, l => ⟨a, l, []⟩
  | .ask r next, l =>
      ((next (l.answer o n r).1).course o (n + 1) (l.answer o n r).2).after
        ⟨r, (l.answer o n r).1⟩

variable (o : Surroundings) (n : ℕ) (l : RateLimiter)

theorem course_ask (r : ServiceRequest) (k : r.Answer → Service α) :
    ((liftM (Service.ask r) : Service r.Answer) >>= k).run.course o n l =
      ((k (l.answer o n r).1).run.course o (n + 1) (l.answer o n r).2).after
        ⟨r, (l.answer o n r).1⟩ := rfl

theorem course_now (k : Instant → Service α) :
    (Service.now >>= k).run.course o n l =
      ((k (o n .now)).run.course o (n + 1) l).after ⟨.now, o n .now⟩ := rfl

theorem course_freshId (k : Uuid → Service α) :
    (Service.freshId >>= k).run.course o n l =
      ((k (o n .freshId)).run.course o (n + 1) l).after ⟨.freshId, o n .freshId⟩ := rfl

theorem course_freshToken (k : String → Service α) :
    (Service.freshToken >>= k).run.course o n l =
      ((k (BearerToken.ofBytes (o n (.randomBytes BearerToken.length)))).run.course
        o (n + 1) l).after
          ⟨.randomBytes BearerToken.length, o n (.randomBytes BearerToken.length)⟩ := rfl

theorem course_repository (r : RepositoryRequest) (k : r.Answer → Service α) :
    (Service.repository r >>= k).run.course o n l =
      (match o n (.repository r) with
        | .ok answer => (k answer).run.course o (n + 1) l
        | .error e => ⟨.error (.repository e), l, []⟩).after
          ⟨.repository r, o n (.repository r)⟩ := by
  change Course.after (((match o n (.repository r) with
    | .ok answer => pure answer
    | .error e => throw (.repository e) : Service r.Answer) >>= k).run.course
      o (n + 1) l) ⟨.repository r, o n (.repository r)⟩ = _
  cases o n (.repository r) <;> rfl

theorem course_signFor
    (c : ServiceSettings) (user : User) (session : SessionId) (k : String → Service α) :
    ∃ request : AccessRequest, (Service.signFor c user session >>= k).run.course o n l =
      (match o n (.signAccess request) with
        | .ok token => (k token).run.course o (n + 1) l
        | .error text => ⟨.error (.internal text), l, []⟩).after
          ⟨.signAccess request, o n (.signAccess request)⟩ := by
  let request : AccessRequest := {
    user := user.id
    session := session
    emailVerified := user.emailVerified
    roles := [code user.role]
    ttlSeconds := c.accessTtlSeconds }
  refine ⟨request, ?_⟩
  change Course.after (((match o n (.signAccess request) with
    | .ok token => pure token
    | .error text => throw (.internal text) : Service String) >>= k).run.course
      o (n + 1) l) ⟨.signAccess request, o n (.signAccess request)⟩ = _
  cases o n (.signAccess request) <;> rfl

end Program

/-- A login by password, and what surrounds it. -/
structure LoginAttempt where
  email : String
  password : String
  device : Device
  around : Surroundings

namespace LoginAttempt

variable (a : LoginAttempt)

/-- Whom a failure is counted for. -/
def source : LoginSource :=
  ⟨Email.normalize a.email, a.device.ipAddress⟩

/-- The reading of the clock for the check. -/
def checkedAt : Instant :=
  a.around 0 .now

/-- The reading of the clock for the failure. -/
def failedAt : Instant :=
  a.around 3 .now

/-- The request for the account, with the stored hash. -/
abbrev lookup : RepositoryRequest :=
  .findLogin a.source.email

/-- What is found, if the attempt gets as far. -/
def found : Except RepositoryError (Option LoginRecord) :=
  a.around 2 (.repository a.lookup)

end LoginAttempt

/-- An attempt, and the limiter that it meets. -/
structure LoginEncounter extends LoginAttempt where
  limiter : RateLimiter

namespace LoginEncounter

variable (c : ServiceSettings) (e : LoginEncounter)

/-- How the login goes. -/
def course : Course (Except ServiceError Grant) :=
  (Service.login c e.email e.password e.device).run.course e.around 0 e.limiter

/-- What the limiter says. -/
def verdict : Except ℕ Unit :=
  (e.limiter.check e.source.email e.source.ip e.checkedAt).1

/-- The limiter after the check. -/
def checked : RateLimiter :=
  (e.limiter.check e.source.email e.source.ip e.checkedAt).2

/-- The login is refused for a while, and nothing is asked for but the time and
the check.  In particular the password is not looked at. -/
def IsRefused : Prop :=
  ∃ seconds, e.course c = ⟨.error (.rateLimited seconds), e.limiter,
    [⟨.now, e.checkedAt⟩,
      ⟨.checkLogin e.source.email e.source.ip e.checkedAt, .error seconds⟩]⟩

/-- The account is looked up in order to verify the password. -/
def IsVerified : Prop :=
  ∃ answer, ⟨.repository e.lookup, answer⟩ ∈ (e.course c).asked

/-- The password is verified, and is not that of an account. -/
def Fails : Prop :=
  ∃ found, ⟨.repository e.lookup, .ok found⟩ ∈ (e.course c).asked ∧
    c.hasher.verifyStored e.password (found.bind LoginRecord.passwordHash) = false

/-- The password is verified, and is that of an active account. -/
def Succeeds : Prop :=
  ∃ record, ⟨.repository e.lookup, .ok (some record)⟩ ∈ (e.course c).asked ∧
    c.hasher.verifyStored e.password record.passwordHash = true ∧
    record.user.status = .active

/-- The user is let in. -/
def IsGranted : Prop :=
  ∃ grant, (e.course c).result = .ok grant

variable {c : ServiceSettings} {e : LoginEncounter}

/-! ## The course of a login -/

/-- The limiter and the stored hashes stay out of it, and what goes wrong is the
matter of the signer or the repository. -/
structure IsApart (l : RateLimiter) (x : Course (Except ServiceError Grant)) : Prop where
  limiter : x.limiter = l
  lookups : ∀ address answer, ⟨.repository (.findLogin address), answer⟩ ∉ x.asked
  errors : ∀ e, x.result = .error e →
    (∃ text, e = .internal text) ∨ ∃ cause, e = .repository cause

theorem IsApart.after
    {l : RateLimiter} {x : Course (Except ServiceError Grant)} {q : AnsweredRequest}
    (h : IsApart l x) (hq : ∀ address, q.1 ≠ .repository (.findLogin address)) :
    IsApart l (x.after q) where
  limiter := h.limiter
  lookups := by
    intro address answer hmem
    rcases List.mem_cons.mp hmem with rfl | hmem
    · exact hq address rfl
    · exact h.lookups address answer hmem
  errors := h.errors

theorem isApart_done
    {l : RateLimiter} {result : Except ServiceError Grant}
    (h : ∀ e, result = .error e →
      (∃ text, e = .internal text) ∨ ∃ cause, e = .repository cause) :
    IsApart l ⟨result, l, []⟩ :=
  ⟨rfl, fun _ _ => List.not_mem_nil, h⟩

theorem isApart_issue
    (user : User) (methods : List AuthMethod) (device : Device) (o : Surroundings) (n : ℕ)
    (l : RateLimiter) :
    IsApart l ((Service.issue c user methods device).run.course o n l) := by
  rw [Service.issue, Program.course_now, Program.course_freshId]
  refine .after (.after ?_ (by simp)) (by simp)
  obtain ⟨request, hsign⟩ := Program.course_signFor o (n + 2) l c user _ _
  rw [hsign]
  refine .after ?_ (by simp)
  cases o (n + 2) (.signAccess request) with
  | error text => exact isApart_done fun e he => Or.inl ⟨text, (Except.error.inj he).symm⟩
  | ok token =>
      dsimp only
      rw [Program.course_freshToken, Program.course_freshId, Program.course_repository]
      refine .after (.after (.after ?_ (by simp)) (by simp)) (by simp)
      split
      · refine isApart_done fun e he => ?_
        cases he
      · exact isApart_done fun e he => Or.inr ⟨_, (Except.error.inj he).symm⟩

variable (c e) in
/-- How the login goes on when the account has been looked up. -/
def decision : Course (Except ServiceError Grant) :=
  match e.found with
  | .error cause => ⟨.error (.repository cause), e.checked, []⟩
  | .ok found =>
    match found.filter fun _ =>
        c.hasher.verifyStored e.password (found.bind LoginRecord.passwordHash) with
    | none =>
      ⟨.error .invalidCredentials,
        e.checked.recordFailure e.source.email e.source.ip e.failedAt,
        [⟨.now, e.failedAt⟩, ⟨.loginFailed e.source.email e.source.ip e.failedAt, ()⟩]⟩
    | some record =>
      match record.user.status with
      | .deleted => ⟨.error .invalidCredentials, e.checked, []⟩
      | .suspended => ⟨.error .userSuspended, e.checked, []⟩
      | .active =>
        ((Service.issue c record.user [.password] e.device).run.course e.around 4
          (e.checked.recordSuccess e.source.email e.source.ip)).after
            ⟨.loginSucceeded e.source.email e.source.ip, ()⟩

variable (c e) in
/-- How the login goes on when the limiter has been asked. -/
def remainder : Course (Except ServiceError Grant) :=
  match e.verdict with
  | .error seconds => ⟨.error (.rateLimited seconds), e.checked, []⟩
  | .ok _ => (e.decision c).after ⟨.repository e.lookup, e.found⟩

theorem course_eq :
    e.course c = ((e.remainder c).after
      ⟨.checkLogin e.source.email e.source.ip e.checkedAt, e.verdict⟩).after
        ⟨.now, e.checkedAt⟩ := by
  rw [course, Service.login, Program.course_now, Program.course_ask]
  have hanswer : e.limiter.answer e.around 1 (.checkLogin (Email.normalize e.email)
      e.device.ipAddress (e.around 0 .now)) =
        e.limiter.check e.source.email e.source.ip e.checkedAt := rfl
  rw [hanswer]
  unfold remainder decision verdict checked
  cases e.limiter.check e.source.email e.source.ip e.checkedAt with
  | mk verdict l =>
      cases verdict with
      | error seconds => rfl
      | ok _ =>
          dsimp only
          rw [Program.course_repository]
          have hfound : e.around 2 (.repository (.findLogin (Email.normalize e.email))) =
            e.found := rfl
          rw [hfound]
          cases e.found with
          | error cause => rfl
          | ok found =>
              dsimp only
              cases found.filter fun _ => c.hasher.verifyStored e.password
                (found.bind LoginRecord.passwordHash) with
              | none => rfl
              | some record =>
                  dsimp only
                  unfold Service.openFor
                  cases hstatus : record.user.status with
                  | deleted => rfl
                  | suspended => rfl
                  | active => rfl

theorem readings_eq : (e.course c).readings = e.checkedAt :: (e.remainder c).readings := by
  rw [course_eq]
  rfl

theorem isRefused_of_error {seconds : ℕ} (h : e.verdict = .error seconds) :
    e.IsRefused c := by
  have hsame : e.checked = e.limiter := RateLimiter.check_of_error h
  refine ⟨seconds, ?_⟩
  rw [course_eq, remainder, h, hsame]
  rfl

/-- What follows the lookup is no other one. -/
theorem lookups_decision (address : String) (answer) :
    ⟨.repository (.findLogin address), answer⟩ ∉ (e.decision c).asked := by
  unfold decision
  cases e.found with
  | error cause => exact List.not_mem_nil
  | ok found =>
      dsimp only
      split
      · simp
      · split
        · exact List.not_mem_nil
        · exact List.not_mem_nil
        · exact ((isApart_issue ..).after (by simp)).lookups address answer

theorem lookup_mem_asked_iff {answer : (ServiceRequest.repository e.lookup).Answer} :
    ⟨.repository e.lookup, answer⟩ ∈ (e.course c).asked ↔
      e.verdict = .ok () ∧ e.found = answer := by
  rw [course_eq, remainder]
  cases e.verdict with
  | error seconds => simp
  | ok _ =>
      have hnot := lookups_decision (c := c) (e := e) e.source.email answer
      simp [hnot, eq_comm]

theorem isVerified_iff : e.IsVerified c ↔ e.verdict = .ok () := by
  simp only [IsVerified, lookup_mem_asked_iff, exists_and_left, exists_eq', and_true]

theorem fails_iff :
    e.Fails c ↔ e.verdict = .ok () ∧ ∃ found, e.found = .ok found ∧
      c.hasher.verifyStored e.password (found.bind LoginRecord.passwordHash) = false := by
  simp only [Fails, lookup_mem_asked_iff, and_assoc, exists_and_left]

theorem succeeds_iff :
    e.Succeeds c ↔ e.verdict = .ok () ∧ ∃ record, e.found = .ok (some record) ∧
      c.hasher.verifyStored e.password record.passwordHash = true ∧
      record.user.status = .active := by
  simp only [Succeeds, lookup_mem_asked_iff, and_assoc, exists_and_left]

theorem Fails.not_succeeds (h : e.Fails c) : ¬e.Succeeds c := by
  rw [succeeds_iff]
  rintro ⟨-, record, hrecord, hverified, -⟩
  obtain ⟨-, found, hfound, hmiss⟩ := fails_iff.mp h
  obtain rfl := Except.ok.inj (hfound.symm.trans hrecord)
  exact nomatch hmiss.symm.trans hverified

theorem course_of_fails (h : e.Fails c) :
    e.course c = ⟨.error .invalidCredentials,
      e.checked.recordFailure e.source.email e.source.ip e.failedAt,
      [⟨.now, e.checkedAt⟩,
        ⟨.checkLogin e.source.email e.source.ip e.checkedAt, .ok ()⟩,
        ⟨.repository e.lookup, e.found⟩, ⟨.now, e.failedAt⟩,
        ⟨.loginFailed e.source.email e.source.ip e.failedAt, ()⟩]⟩ := by
  obtain ⟨hverdict, found, hfound, hmiss⟩ := fails_iff.mp h
  have hnone : (found.filter fun _ => c.hasher.verifyStored e.password
      (found.bind LoginRecord.passwordHash)) = none := by
    simp [hmiss]
  rw [course_eq, remainder, hverdict, decision, hfound]
  dsimp only
  rw [hnone]
  rfl

theorem readings_of_fails (h : e.Fails c) :
    (e.course c).readings = [e.checkedAt, e.failedAt] := by
  rw [course_of_fails h]
  rfl

theorem filter_of_verified
    {record : LoginRecord} (h : c.hasher.verifyStored e.password record.passwordHash = true) :
    ((some record).filter fun _ => c.hasher.verifyStored e.password
      ((some record).bind LoginRecord.passwordHash)) = some record := by
  simp [h]

theorem course_of_succeeds (h : e.Succeeds c) :
    (e.course c).limiter = e.checked.recordSuccess e.source.email e.source.ip ∧
      ∀ error, (e.course c).result = .error error →
        (∃ text, error = .internal text) ∨ ∃ cause, error = .repository cause := by
  obtain ⟨hverdict, record, hfound, hverified, hactive⟩ := succeeds_iff.mp h
  have hissue := isApart_issue (c := c) record.user [.password] e.device e.around 4
    (e.checked.recordSuccess e.source.email e.source.ip)
  rw [course_eq, remainder, hverdict, decision, hfound]
  dsimp only
  rw [filter_of_verified hverified]
  dsimp only
  rw [hactive]
  simp only [Course.limiter_after, Course.result_after]
  exact ⟨hissue.limiter, hissue.errors⟩

theorem course_of_neither (hfails : ¬e.Fails c) (hsucceeds : ¬e.Succeeds c) :
    (e.course c).limiter = e.checked ∧ ¬e.IsGranted c := by
  rw [fails_iff] at hfails
  rw [succeeds_iff] at hsucceeds
  rw [IsGranted, course_eq, remainder]
  cases hverdict : e.verdict with
  | error seconds => exact ⟨rfl, fun ⟨_, h⟩ => nomatch h⟩
  | ok _ =>
      dsimp only
      rw [decision]
      cases hfound : e.found with
      | error cause => exact ⟨rfl, fun ⟨_, h⟩ => nomatch h⟩
      | ok found =>
          have hverified : c.hasher.verifyStored e.password
              (found.bind LoginRecord.passwordHash) = true := by
            by_contra hmiss
            exact hfails ⟨hverdict, found, hfound, by simpa using hmiss⟩
          cases found with
          | none => exact nomatch hverified
          | some record =>
              dsimp only
              rw [filter_of_verified hverified]
              dsimp only
              cases hstatus : record.user.status with
              | deleted => exact ⟨rfl, fun ⟨_, h⟩ => nomatch h⟩
              | suspended => exact ⟨rfl, fun ⟨_, h⟩ => nomatch h⟩
              | active =>
                  exact absurd ⟨hverdict, record, hfound, hverified, hstatus⟩ hsucceeds

theorem IsGranted.succeeds (h : e.IsGranted c) : e.Succeeds c := by
  by_contra hsucceeds
  by_cases hfails : e.Fails c
  · obtain ⟨grant, hresult⟩ := h
    rw [course_of_fails hfails] at hresult
    exact nomatch hresult
  · exact (course_of_neither hfails hsucceeds).2 h

theorem Succeeds.isGranted_or (h : e.Succeeds c) :
    e.IsGranted c ∨ (∃ text, (e.course c).result = .error (.internal text)) ∨
      ∃ cause, (e.course c).result = .error (.repository cause) := by
  have herrors := (course_of_succeeds h).2
  cases hresult : (e.course c).result with
  | ok grant => exact Or.inl ⟨grant, hresult⟩
  | error error =>
      right
      rcases herrors error hresult with ⟨text, rfl⟩ | ⟨cause, rfl⟩
      · exact Or.inl ⟨text, rfl⟩
      · exact Or.inr ⟨cause, rfl⟩

end LoginEncounter

end AccountAuthority
