import AccountAuthority.Proofs.Instants
import AccountAuthority.Proofs.RotationChains
import AccountAuthority.Proofs.UserSteps

/-!
# What verification tokens are good for

A verification token that is stored stays the same until it is used up or
removed, and once it is used up it stays so.  Which token is meant by a hash is
settled as long as no hash is drawn twice.  So a hash is accepted once, and only
for the purpose that its token was stored with; and a reset uses up the other
reset tokens of the user along with its own.
-/

namespace AccountAuthority

open Store

@[simp] theorem key_verificationToken (t : VerificationToken) : key t = t.id := rfl

/-! ## What becomes of a token -/

/-- The same token, which may have been used up since. -/
structure VerificationToken.Later (t u : VerificationToken) : Prop where
  same : u = { t with consumedAt := u.consumedAt }
  consumed : t.isConsumed = true → u.consumedAt = t.consumedAt

namespace VerificationToken.Later

variable {t u v : VerificationToken}

theorem refl (t : VerificationToken) : t.Later t :=
  ⟨rfl, fun _ => rfl⟩

theorem id (h : t.Later u) : u.id = t.id := by rw [h.same]

theorem user (h : t.Later u) : u.user = t.user := by rw [h.same]

theorem hash (h : t.Later u) : u.hash = t.hash := by rw [h.same]

theorem isConsumed (h : t.Later u) (ht : t.isConsumed = true) :
    u.isConsumed = true := by
  rw [VerificationToken.isConsumed, h.consumed ht]
  exact ht

theorem trans (h : t.Later u) (h' : u.Later v) : t.Later v where
  same := by
    rw [h'.same, h.same]
  consumed ht := (h'.consumed (h.isConsumed ht)).trans (h.consumed ht)

/-- A token that is used up at most when it has not been before. -/
theorem of_consumedAt
    (time : Option Instant) (h : t.isConsumed = true → time = t.consumedAt) :
    t.Later { t with consumedAt := time } :=
  ⟨rfl, h⟩

end VerificationToken.Later

/-- The verification tokens that a request puts in. -/
def RepositoryRequest.storedTokens : RepositoryRequest → List VerificationToken
  | storeVerificationToken t => [t]
  | _ => []

/-- The verification tokens that are put in by a run. -/
def storedTokens (ops : List Operation) : List VerificationToken :=
  ops.flatMap fun op => op.request.storedTokens

theorem storedTokens_append (ops ops' : List Operation) :
    storedTokens (ops ++ ops') = storedTokens ops ++ storedTokens ops' :=
  List.flatMap_append

theorem storedTokens_concat (ops : List Operation) (op : Operation) :
    storedTokens (ops ++ [op]) = storedTokens ops ++ op.request.storedTokens := by
  rw [storedTokens_append]
  simp [storedTokens]

/-- The verification tokens of the second store are those in `N` and later forms
of those of the first one. -/
def Store.TokensStep (N : List VerificationToken) (s s' : Store) : Prop :=
  ∀ u ∈ s'.verificationTokens.rows,
    u ∈ N ∨ ∃ t ∈ s.verificationTokens.rows, t.Later u

namespace Store

variable {N : List VerificationToken} {s s' : Store}

theorem TokensStep.of_eq
    (h : s'.verificationTokens = s.verificationTokens) : TokensStep N s s' :=
  fun u hu => Or.inr ⟨u, h ▸ hu, .refl u⟩

theorem TokensStep.of_map
    {f : VerificationToken → VerificationToken}
    (hf : ∀ t ∈ s.verificationTokens.rows, t.Later (f t))
    (h : s'.verificationTokens.rows = s.verificationTokens.rows.map f) :
    TokensStep N s s' := by
  intro u hu
  rw [h] at hu
  obtain ⟨t, ht, rfl⟩ := List.mem_map.mp hu
  exact Or.inr ⟨t, ht, hf t ht⟩

theorem verificationToken?_eq_some
    {hash : String} {purpose : TokenPurpose} {t : VerificationToken}
    (h : s.verificationToken? hash purpose = some t) :
    t ∈ s.verificationTokens.rows ∧ t.hash = hash ∧ t.purpose = purpose := by
  have ht := List.find?_some h
  simp only [Bool.and_eq_true, decide_eq_true_eq] at ht
  exact ⟨List.mem_of_find?_eq_some h, ht⟩

/-- What a reset by a token of the user makes of a token. -/
def resetting
    (user : UserId) (now : Instant) (t : VerificationToken) :
    VerificationToken :=
  if t.user = user ∧ t.purpose = .passwordReset ∧ t.consumedAt = none then
    { t with consumedAt := some now }
  else t

theorem later_resetting (user : UserId) (now : Instant) (t : VerificationToken) :
    t.Later (resetting user now t) := by
  unfold resetting
  split
  next h =>
    refine .of_consumedAt _ fun hconsumed => ?_
    simp [VerificationToken.isConsumed, h.2.2] at hconsumed
  · exact .refl t

variable (s)

theorem resetPassword_tokensStep (hash newHash : String) (now : Instant) :
    TokensStep N s (s.resetPassword hash newHash now).2 := by
  unfold resetPassword
  split
  · exact .of_eq rfl
  next t _ =>
    split
    · exact .of_eq rfl
    split
    · exact .of_eq rfl
    split
    · exact .of_eq rfl
    split
    · exact .of_eq rfl
    · exact .of_map (fun u _ => later_resetting t.user now u)
        (congrArg Table.rows (verificationTokens_revokeAll ..))

/-- The token that is looked up is used up, and no other one is changed. -/
theorem consumeToken_tokensStep
    {t : VerificationToken} (ht : t ∈ s.verificationTokens.rows)
    (hunused : t.isConsumed = false) (now : Instant)
    (h : s'.verificationTokens =
      (s.consumeToken t.id now).verificationTokens) : TokensStep N s s' := by
  refine .of_map (f := fun u =>
    if u.id = t.id then { u with consumedAt := some now } else u)
    (fun u hu => ?_) (by rw [h]; rfl)
  split
  next hid =>
    obtain rfl := Table.eq_of_key_eq hu ht hid
    refine .of_consumedAt _ fun hconsumed => ?_
    rw [hunused] at hconsumed
    cases hconsumed
  · exact .refl u

theorem verifyEmail_tokensStep (hash : String) (now : Instant) :
    TokensStep N s (s.verifyEmail hash now).2 := by
  unfold verifyEmail
  split
  · exact .of_eq rfl
  next t ht =>
    obtain ⟨hmem, -, -⟩ := verificationToken?_eq_some ht
    split
    · exact .of_eq rfl
    next hunused =>
      have hunused : t.isConsumed = false := by simpa using hunused
      split
      · exact .of_eq rfl
      split
      · exact .of_eq rfl
      split
      · exact .of_eq rfl
      split
      · exact consumeToken_tokensStep s hmem hunused now rfl
      · exact consumeToken_tokensStep s hmem hunused now rfl

theorem changePassword_tokensStep
    (user : UserId) (expected hash : String) (keep : Option SessionId)
    (now : Instant) :
    TokensStep N s (s.changePassword user expected hash keep now).2 := by
  unfold changePassword
  split
  · exact .of_eq rfl
  split
  · exact .of_eq rfl
  dsimp only
  split
  · exact .of_eq rfl
  · exact .of_eq (verificationTokens_revokeAll ..)

theorem changeStatus_tokensStep
    (actor : Actor) (target : UserId) (status : Status) (reason : Option String)
    (now : Instant) (fresh : FreshIds) :
    TokensStep N s
      (s.changeStatus actor target status reason now fresh).2 := by
  unfold changeStatus
  split
  · exact .of_eq rfl
  split
  · exact .of_eq rfl
  split
  · exact .of_eq rfl
  split
  · exact .of_eq rfl
  by_cases hsuspended : status = .suspended
  · simp only [hsuspended, if_true]
    exact .of_eq (verificationTokens_revokeAll ..)
  · simp only [hsuspended, if_false]
    exact .of_eq rfl

theorem finalizeDeletion_tokensStep
    (user : UserId) (trace : Option String) (now : Instant) (fresh : FreshIds) :
    TokensStep N s (s.finalizeDeletion user trace now fresh).2 := by
  unfold finalizeDeletion
  split
  · exact .of_eq rfl
  split
  · exact .of_eq rfl
  split
  · exact .of_eq rfl
  split
  · exact .of_eq rfl
  dsimp only
  split
  · exact .of_eq rfl
  · exact fun u hu => Or.inr ⟨u, (List.mem_filter.mp hu).1, .refl u⟩

end Store

theorem Operation.tokensStep (op : Operation) (s : Store) :
    TokensStep op.request.storedTokens s (op.apply s) := by
  by_cases hleaves : op.request.LeavesAccounts
  · exact .of_eq (op.sameAccounts s hleaves).verificationTokens
  obtain ⟨r, fresh⟩ := op
  cases r with
  | storeVerificationToken t =>
      intro u hu
      rcases Table.mem_rows_insert.mp hu with rfl | ⟨hu, -⟩
      · exact Or.inl (List.mem_singleton_self u)
      · exact Or.inr ⟨u, hu, .refl u⟩
  | createUser u hash =>
      refine .of_eq ?_
      simp only [apply, perform, createUser]
      split <;> rfl
  | createExternalUser u identity =>
      refine .of_eq ?_
      simp only [apply, perform, createExternalUser]
      repeat' split
      all_goals rfl
  | linkIdentity identity =>
      refine .of_eq ?_
      simp only [apply, perform, linkIdentity]
      repeat' split
      all_goals rfl
  | resetPassword hash newHash now =>
      exact resetPassword_tokensStep s hash newHash now
  | verifyEmail hash now => exact verifyEmail_tokensStep s hash now
  | changePassword user expected new keep now =>
      exact changePassword_tokensStep s user expected new keep now
  | changeRole actor target role now =>
      refine .of_eq ?_
      simp only [apply, perform, changeRole]
      repeat' split
      all_goals rfl
  | changeStatus actor target status reason now =>
      exact changeStatus_tokensStep s actor target status reason now fresh
  | requestDeletion actor target scheduledFor now =>
      refine .of_eq ?_
      simp only [apply, perform, requestDeletion]
      repeat' split
      all_goals rfl
  | cancelDeletion actor target now =>
      refine .of_eq ?_
      simp only [apply, perform, cancelDeletion]
      repeat' split
      all_goals rfl
  | finalizeDeletion user trace now =>
      exact finalizeDeletion_tokensStep s user trace now fresh
  | _ => exact absurd trivial hleaves

namespace Store

variable {s : Store} {ops : List Operation}

theorem verificationToken_origin_run
    {u : VerificationToken} (hu : u ∈ (s.run ops).verificationTokens.rows) :
    (∃ t ∈ storedTokens ops, t.Later u) ∨
      ∃ t ∈ s.verificationTokens.rows, t.Later u := by
  induction ops using List.reverseRecOn generalizing u with
  | nil => exact Or.inr ⟨u, hu, .refl u⟩
  | append_singleton ops op ih =>
      rw [run_concat] at hu
      rw [storedTokens_concat]
      rcases op.tokensStep _ u hu with hnew | ⟨v, hv, hvu⟩
      · exact Or.inl ⟨u, List.mem_append_right _ hnew, .refl u⟩
      rcases ih hv with ⟨t, ht, htv⟩ | ⟨t, ht, htv⟩
      · exact Or.inl ⟨t, List.mem_append_left _ ht, htv.trans hvu⟩
      · exact Or.inr ⟨t, ht, htv.trans hvu⟩

/-- All tokens of a store that is reached were put in by the run. -/
theorem storedToken_of_mem
    {u : VerificationToken}
    (hu : u ∈ (Store.empty.run ops).verificationTokens.rows) :
    ∃ t ∈ storedTokens ops, t.Later u :=
  (verificationToken_origin_run hu).resolve_right
    fun ⟨_, ht, _⟩ => absurd ht List.not_mem_nil

end Store

/-! ## Which token is meant by a hash -/

/-- No two verification tokens have the same hash. -/
def Store.VerificationHashesDistinct (s : Store) : Prop :=
  ∀ t ∈ s.verificationTokens.rows, ∀ u ∈ s.verificationTokens.rows,
    t.hash = u.hash → t = u

namespace Store

variable {s : Store} {ops : List Operation}

theorem verificationHashesDistinct_run
    (hhashes : ((storedTokens ops).map VerificationToken.hash).Nodup) :
    (Store.empty.run ops).VerificationHashesDistinct := by
  intro t ht u hu heq
  obtain ⟨t₀, ht₀, htt⟩ := storedToken_of_mem ht
  obtain ⟨u₀, hu₀, huu⟩ := storedToken_of_mem hu
  have hsame : t₀ = u₀ :=
    List.inj_on_of_nodup_map hhashes ht₀ hu₀
      (htt.hash.symm.trans (heq.trans huu.hash))
  exact Table.eq_of_key_eq ht hu (htt.id.trans (hsame ▸ huu.id.symm))

/-- The verification token of an existing user that can be used for a purpose by
its hash. -/
structure Usable
    (s : Store) (purpose : TokenPurpose) (hash : String) (now : Instant)
    (t : VerificationToken) (u : User) : Prop where
  mem : t ∈ s.verificationTokens.rows
  hash : t.hash = hash
  purpose : t.purpose = purpose
  unused : t.consumedAt = none
  unexpired : now < t.expiresAt
  owner : s.users.get? t.user = some u

section

variable {purpose : TokenPurpose} {hash : String} {now : Instant}
  {t : VerificationToken} {u : User}

theorem isExpired_eq_false_iff : t.isExpired now = false ↔ now < t.expiresAt := by
  rw [VerificationToken.isExpired, decide_eq_false_iff_not, ← Instant.not_lt,
    not_not]

/-- What the operations look at when they are given the hash of a token. -/
theorem VerificationHashesDistinct.usable_iff
    (hs : s.VerificationHashesDistinct) :
    s.Usable purpose hash now t u ↔
      s.verificationToken? hash purpose = some t ∧ t.isConsumed = false ∧
        t.isExpired now = false ∧ s.users.get? t.user = some u := by
  rw [isExpired_eq_false_iff, VerificationToken.isConsumed,
    Option.isSome_eq_false_iff, Option.isNone_iff_eq_none]
  constructor
  · rintro ⟨hmem, hhash, hpurpose, hunused, hunexpired, howner⟩
    refine ⟨?_, hunused, hunexpired, howner⟩
    cases hfind : s.verificationToken? hash purpose with
    | none =>
        have hnot := List.find?_eq_none.mp hfind t hmem
        simp [hhash, hpurpose] at hnot
    | some v =>
        obtain ⟨hv, hvhash, -⟩ := verificationToken?_eq_some hfind
        rw [hs v hv t hmem (hvhash.trans hhash.symm)]
  · rintro ⟨hfind, hunused, hunexpired, howner⟩
    obtain ⟨hmem, hhash, hpurpose⟩ := verificationToken?_eq_some hfind
    exact ⟨hmem, hhash, hpurpose, hunused, hunexpired, howner⟩

/-- A reset is granted for the token that is found by its hash. -/
theorem resetPassword_found
    {newHash : String} {user : UserId} {n : ℕ}
    (h : (s.resetPassword hash newHash now).1 = .reset user n) :
    ∃ t u, s.verificationToken? hash .passwordReset = some t ∧
      t.isConsumed = false ∧ t.isExpired now = false ∧
      s.users.get? t.user = some u ∧ t.user = user ∧ u.status = .active ∧
      (s.resetPassword hash newHash now).2.verificationTokens.rows =
        s.verificationTokens.rows.map (resetting user now) := by
  unfold resetPassword at h ⊢
  split at h
  · cases h
  next t ht =>
    split at h
    · cases h
    next hunused =>
      split at h
      · cases h
      next hunexpired =>
        split at h
        · cases h
        next u hu =>
          split at h
          · cases h
          next hactive =>
            cases h
            refine ⟨t, u, ht, by simpa using hunused, by simpa using hunexpired, hu,
              rfl, by simpa using hactive, ?_⟩
            simp only [hunused, hunexpired, hactive, if_false]
            exact congrArg Table.rows (verificationTokens_revokeAll ..)

/-- A reset is granted for a usable reset token of an active user, and uses up
all reset tokens of the user. -/
theorem VerificationHashesDistinct.resetPassword_reset
    (hs : s.VerificationHashesDistinct) {newHash : String} {user : UserId} {n : ℕ}
    (h : (s.resetPassword hash newHash now).1 = .reset user n) :
    (∃ t u, s.Usable .passwordReset hash now t u ∧ t.user = user ∧
      u.status = .active) ∧
    (s.resetPassword hash newHash now).2.verificationTokens.rows =
      s.verificationTokens.rows.map (resetting user now) := by
  obtain ⟨t, u, ht, hunused, hunexpired, hu, huser, hactive, hrows⟩ :=
    resetPassword_found h
  exact ⟨⟨t, u, hs.usable_iff.mpr ⟨ht, hunused, hunexpired, hu⟩, huser, hactive⟩,
    hrows⟩

theorem VerificationHashesDistinct.resetPassword_of_usable
    (hs : s.VerificationHashesDistinct) (newHash : String)
    (h : s.Usable .passwordReset hash now t u) (hactive : u.status = .active) :
    ∃ n, (s.resetPassword hash newHash now).1 = .reset t.user n := by
  obtain ⟨ht, hunused, hunexpired, hu⟩ := hs.usable_iff.mp h
  simp only [resetPassword, ht, hunused, hunexpired, hu, hactive,
    Bool.false_eq_true, if_false, ne_eq, not_true_eq_false]
  exact ⟨_, rfl⟩

/-- A verification is granted for a usable token of a user that is not deleted,
and uses up the token. -/
theorem VerificationHashesDistinct.verifyEmail_verified
    (hs : s.VerificationHashesDistinct) {user : UserId}
    (h : (s.verifyEmail hash now).1 = .verified user ∨
      (s.verifyEmail hash now).1 = .alreadyVerified user) :
    ∃ t u, s.Usable .emailVerification hash now t u ∧ t.user = user ∧
      u.status ≠ .deleted ∧
      (s.verifyEmail hash now).2.verificationTokens =
        (s.consumeToken t.id now).verificationTokens := by
  unfold verifyEmail at h
  split at h
  · simp at h
  next t ht =>
    split at h
    · simp at h
    next hunused =>
      split at h
      · simp at h
      next hunexpired =>
        split at h
        · simp at h
        next u hu =>
          split at h
          · simp at h
          next hlive =>
            refine ⟨t, u, hs.usable_iff.mpr ⟨ht, by simpa using hunused,
              by simpa using hunexpired, hu⟩, ?_, hlive, ?_⟩
            · split at h <;> simpa using h
            · simp only [verifyEmail, ht, hunused, hunexpired, hu, hlive, if_false,
                Bool.false_eq_true]
              split <;> rfl

theorem VerificationHashesDistinct.verifyEmail_of_usable
    (hs : s.VerificationHashesDistinct)
    (h : s.Usable .emailVerification hash now t u) (hlive : u.status ≠ .deleted) :
    (s.verifyEmail hash now).1 = .verified t.user ∨
      (s.verifyEmail hash now).1 = .alreadyVerified t.user := by
  obtain ⟨ht, hunused, hunexpired, hu⟩ := hs.usable_iff.mp h
  cases hverified : u.emailVerified with
  | true => simp [verifyEmail, ht, hunused, hunexpired, hu, hlive, hverified]
  | false => simp [verifyEmail, ht, hunused, hunexpired, hu, hlive, hverified]

end

/-! ## Tokens that are used up -/

/-- Whatever token has the hash is used up. -/
def UsedUp (s : Store) (hash : String) : Prop :=
  ∀ t ∈ s.verificationTokens.rows, t.hash = hash → t.isConsumed = true

theorem UsedUp.run
    {hash : String} (h : s.UsedUp hash)
    (hdrawn : hash ∉ (storedTokens ops).map VerificationToken.hash) :
    (s.run ops).UsedUp hash := by
  intro u hu hhash
  rcases verificationToken_origin_run hu with ⟨t, ht, htu⟩ | ⟨t, ht, htu⟩
  · exact absurd (List.mem_map.mpr ⟨t, ht, htu.hash.symm.trans hhash⟩) hdrawn
  · exact htu.isConsumed (h t ht (htu.hash.symm.trans hhash))

/-- A hash that is used up is not accepted for a reset any more. -/
theorem UsedUp.resetPassword
    {hash : String} (h : s.UsedUp hash) (newHash : String) (now : Instant) :
    s.resetPassword hash newHash now = (.invalidToken, s) := by
  unfold Store.resetPassword
  split
  · rfl
  next t ht =>
    obtain ⟨hmem, hhash, -⟩ := verificationToken?_eq_some ht
    exact if_pos (h t hmem hhash)

theorem UsedUp.verifyEmail
    {hash : String} (h : s.UsedUp hash) (now : Instant) :
    s.verifyEmail hash now = (.invalidToken, s) := by
  unfold Store.verifyEmail
  split
  · rfl
  next t ht =>
    obtain ⟨hmem, hhash, -⟩ := verificationToken?_eq_some ht
    exact if_pos (h t hmem hhash)

section

variable (hs : s.VerificationHashesDistinct) {t : VerificationToken}
  (ht : t ∈ s.verificationTokens.rows)

include hs ht

/-- A reset uses up every reset token of the user. -/
theorem usedUp_resetPassword
    {hash newHash : String} {now : Instant} {n : ℕ}
    (h : (s.resetPassword hash newHash now).1 = .reset t.user n)
    (hpurpose : t.purpose = .passwordReset) :
    (s.resetPassword hash newHash now).2.UsedUp t.hash := by
  obtain ⟨-, hrows⟩ := hs.resetPassword_reset h
  intro u hu hhash
  rw [hrows] at hu
  obtain ⟨v, hv, rfl⟩ := List.mem_map.mp hu
  obtain rfl := hs v hv t ht ((later_resetting t.user now v).hash.symm.trans hhash)
  unfold resetting
  split
  · rfl
  next hused =>
    by_contra hunused
    refine hused ⟨rfl, hpurpose, ?_⟩
    simpa [VerificationToken.isConsumed] using hunused

theorem usedUp_consumeToken
    {s' : Store} {now : Instant}
    (h : s'.verificationTokens =
      (s.consumeToken t.id now).verificationTokens) : s'.UsedUp t.hash := by
  intro u hu hhash
  rw [h] at hu
  obtain ⟨v, hv, rfl⟩ := List.mem_map.mp hu
  split
  · rfl
  next hid =>
    rw [if_neg hid] at hhash
    exact absurd (congrArg VerificationToken.id (hs v hv t ht hhash)) hid

end

end Store

/-! ## Verified addresses -/

/-- An address that has been verified stays verified since the same time, unless
its user is one of those in `N`. -/
def Store.KeepsVerified (N : List UserId) (s s' : Store) : Prop :=
  ∀ id u time, id ∉ N → s.users.get? id = some u →
    u.emailVerifiedAt = some time →
      ∃ v, s'.users.get? id = some v ∧ v.emailVerifiedAt = some time

namespace Store

variable {N : List UserId} {s s' : Store}

theorem KeepsVerified.of_eq (h : s'.users = s.users) : KeepsVerified N s s' :=
  fun _ u _ _ hu htime => ⟨u, by rw [h, hu], htime⟩

theorem KeepsVerified.of_created
    {w : User} (hN : w.id ∈ N) (h : s'.users = s.users.insert w) :
    KeepsVerified N s s' := by
  intro id u time hid hu htime
  refine ⟨u, ?_, htime⟩
  rw [h, Table.get?_insert, if_neg, hu]
  rintro rfl
  exact hid hN

/-- One user is changed, and if the address was verified, not in this respect. -/
theorem KeepsVerified.of_insert
    {id : UserId} {w v : User} (hw : s.users.get? id = some w)
    (h : s'.users = s.users.insert v) (hid : v.id = w.id)
    (hkeep : w.emailVerified = true → v.emailVerifiedAt = w.emailVerifiedAt) :
    KeepsVerified N s s' := by
  intro id' u time _ hu htime
  obtain rfl := id_of_get?_user s hw
  rw [h, Table.get?_insert]
  by_cases heq : id' = key v
  · have hid' : id' = w.id := heq.trans hid
    rw [hid', hw] at hu
    obtain rfl := Option.some.inj hu
    have hverified : w.emailVerified = true := by simp [User.emailVerified, htime]
    exact ⟨v, if_pos heq, (hkeep hverified).trans htime⟩
  · exact ⟨u, by rw [if_neg heq, hu], htime⟩

theorem KeepsVerified.of_update
    {id : UserId} {w : User} (hw : s.users.get? id = some w) (f : User → User)
    (hf : ∀ u, key (f u) = key u)
    (hkeep : w.emailVerified = true → (f w).emailVerifiedAt = w.emailVerifiedAt)
    (h : s'.users = s.users.update id f hf) : KeepsVerified N s s' := by
  obtain ⟨hmem, rfl⟩ := Table.get?_eq_some_iff.mp hw
  exact .of_insert hw (h.trans (Table.update_eq_insert hmem f hf)) (hf w) hkeep

variable (s)

theorem resetPassword_keepsVerified (hash newHash : String) (now : Instant) :
    KeepsVerified N s (s.resetPassword hash newHash now).2 := by
  unfold resetPassword
  split
  · exact .of_eq rfl
  split
  · exact .of_eq rfl
  split
  · exact .of_eq rfl
  split
  · exact .of_eq rfl
  next w hw =>
    split
    · exact .of_eq rfl
    · exact .of_update hw (fun u => { u with updatedAt := now }) (fun _ => rfl)
        (fun _ => rfl) (users_revokeAll ..)

/-- The time of a verification is noted once. -/
theorem verifyEmail_keepsVerified (hash : String) (now : Instant) :
    KeepsVerified N s (s.verifyEmail hash now).2 := by
  unfold verifyEmail
  split
  · exact .of_eq rfl
  split
  · exact .of_eq rfl
  split
  · exact .of_eq rfl
  split
  · exact .of_eq rfl
  next w hw =>
    split
    · exact .of_eq rfl
    split
    · exact .of_eq rfl
    next hunverified =>
      exact .of_update hw
        (fun u => { u with emailVerifiedAt := some now, updatedAt := now })
        (fun _ => rfl) (fun hverified => absurd hverified hunverified) rfl

theorem changePassword_keepsVerified
    (user : UserId) (expected new : String) (keep : Option SessionId)
    (now : Instant) :
    KeepsVerified N s (s.changePassword user expected new keep now).2 := by
  unfold changePassword
  split
  · exact .of_eq rfl
  next w hw =>
    split
    · exact .of_eq rfl
    dsimp only
    split
    · exact .of_update hw (fun u => { u with updatedAt := now }) (fun _ => rfl)
        (fun _ => rfl) rfl
    · exact .of_update hw (fun u => { u with updatedAt := now }) (fun _ => rfl)
        (fun _ => rfl) (users_revokeAll ..)

theorem changeRole_keepsVerified
    (actor : Actor) (target : UserId) (role : Role) (now : Instant)
    (fresh : FreshIds) :
    KeepsVerified N s (s.changeRole actor target role now fresh).2 := by
  unfold changeRole
  split
  · exact .of_eq rfl
  next w hw =>
    split
    · exact .of_eq rfl
    split
    · exact .of_eq rfl
    split
    · exact .of_eq rfl
    · exact .of_insert hw rfl rfl fun _ => rfl

theorem changeStatus_keepsVerified
    (actor : Actor) (target : UserId) (status : Status) (reason : Option String)
    (now : Instant) (fresh : FreshIds) :
    KeepsVerified N s
      (s.changeStatus actor target status reason now fresh).2 := by
  unfold changeStatus
  split
  · exact .of_eq rfl
  next w hw =>
    split
    · exact .of_eq rfl
    split
    · exact .of_eq rfl
    split
    · exact .of_eq rfl
    by_cases hsuspended : status = .suspended
    · simp only [hsuspended, if_true]
      exact .of_insert hw (users_revokeAll ..) rfl fun _ => rfl
    · simp only [hsuspended, if_false]
      exact .of_insert hw rfl rfl fun _ => rfl

theorem requestDeletion_keepsVerified
    (actor : Actor) (target : UserId) (scheduledFor now : Instant)
    (fresh : FreshIds) :
    KeepsVerified N s
      (s.requestDeletion actor target scheduledFor now fresh).2 := by
  unfold requestDeletion
  split
  · exact .of_eq rfl
  next w hw =>
    split
    · exact .of_eq rfl
    split
    · exact .of_eq rfl
    · exact .of_insert hw rfl rfl fun _ => rfl

theorem cancelDeletion_keepsVerified
    (actor : Actor) (target : UserId) (now : Instant) (fresh : FreshIds) :
    KeepsVerified N s (s.cancelDeletion actor target now fresh).2 := by
  unfold cancelDeletion
  split
  · exact .of_eq rfl
  next w hw =>
    split
    · exact .of_eq rfl
    split
    · exact .of_eq rfl
    · exact .of_insert hw rfl rfl fun _ => rfl

/-- Not even a deletion takes the time of a verification away. -/
theorem finalizeDeletion_keepsVerified
    (user : UserId) (trace : Option String) (now : Instant) (fresh : FreshIds) :
    KeepsVerified N s (s.finalizeDeletion user trace now fresh).2 := by
  unfold finalizeDeletion
  split
  · exact .of_eq rfl
  next w hw =>
    split
    · exact .of_eq rfl
    split
    · exact .of_eq rfl
    split
    · exact .of_eq rfl
    dsimp only
    split
    · exact .of_eq rfl
    · exact .of_insert hw rfl rfl fun _ => rfl

end Store

theorem Operation.keepsVerified (op : Operation) (s : Store) :
    KeepsVerified op.newUsers s (op.apply s) := by
  by_cases hleaves : op.request.LeavesAccounts
  · exact .of_eq (op.sameAccounts s hleaves).users
  obtain ⟨r, fresh⟩ := op
  cases r with
  | createUser u hash =>
      simp only [apply, perform, createUser]
      split
      · exact .of_eq rfl
      · exact .of_created (List.mem_singleton_self u.id) rfl
  | createExternalUser u identity =>
      simp only [apply, perform, createExternalUser]
      split
      · exact .of_eq rfl
      split
      · exact .of_eq rfl
      · exact .of_created (List.mem_singleton_self u.id) rfl
  | linkIdentity identity =>
      refine .of_eq ?_
      simp only [apply, perform, linkIdentity]
      repeat' split
      all_goals rfl
  | storeVerificationToken => exact .of_eq rfl
  | resetPassword hash newHash now =>
      exact resetPassword_keepsVerified s hash newHash now
  | verifyEmail hash now => exact verifyEmail_keepsVerified s hash now
  | changePassword user expected new keep now =>
      exact changePassword_keepsVerified s user expected new keep now
  | changeRole actor target role now =>
      exact changeRole_keepsVerified s actor target role now fresh
  | changeStatus actor target status reason now =>
      exact changeStatus_keepsVerified s actor target status reason now fresh
  | requestDeletion actor target scheduledFor now =>
      exact requestDeletion_keepsVerified s actor target scheduledFor now fresh
  | cancelDeletion actor target now =>
      exact cancelDeletion_keepsVerified s actor target now fresh
  | finalizeDeletion user trace now =>
      exact finalizeDeletion_keepsVerified s user trace now fresh
  | _ => exact absurd trivial hleaves

theorem Store.keepsVerified_run
    {s : Store} {ops : List Operation} :
    KeepsVerified (drawnUsers ops) s (s.run ops) := by
  induction ops using List.reverseRecOn with
  | nil => exact .of_eq rfl
  | append_singleton ops op ih =>
      intro id u time hid hu htime
      rw [drawnUsers_concat, List.mem_append, not_or] at hid
      obtain ⟨v, hv, hvtime⟩ := ih id u time hid.1 hu htime
      rw [run_concat]
      exact op.keepsVerified _ id v time hid.2 hv hvtime

/-! ## Tokens are used once -/

namespace Store

/-- What the operations make of verification tokens, in a store and after
further operations. -/
structure TokensUsedOnce (s : Store) (ops : List Operation) : Prop where
  later : ∀ t ∈ s.verificationTokens.rows,
    ∀ u ∈ (s.run ops).verificationTokens.rows, u.id = t.id → t.Later u
  reset : ∀ hash newHash now user,
    (∃ n, (s.resetPassword hash newHash now).1 = .reset user n) ↔
      ∃ t u, s.Usable .passwordReset hash now t u ∧ t.user = user ∧
        u.status = .active
  resetOnce : ∀ hash newHash now user n,
    (s.resetPassword hash newHash now).1 = .reset user n →
      ∀ t ∈ s.verificationTokens.rows, t.user = user → t.purpose = .passwordReset →
        ∀ newHash' now',
          (((s.resetPassword hash newHash now).2.run ops).resetPassword t.hash
            newHash' now').1 = .invalidToken
  verified : ∀ hash now user,
    ((s.verifyEmail hash now).1 = .verified user ∨
        (s.verifyEmail hash now).1 = .alreadyVerified user) ↔
      ∃ t u, s.Usable .emailVerification hash now t u ∧ t.user = user ∧
        u.status ≠ .deleted
  verifiedOnce : ∀ hash now user,
    ((s.verifyEmail hash now).1 = .verified user ∨
        (s.verifyEmail hash now).1 = .alreadyVerified user) →
      ∀ now', (((s.verifyEmail hash now).2.run ops).verifyEmail hash now').1 =
        .invalidToken
  verifiedAt : ∀ id u time, id ∉ drawnUsers ops → s.users.get? id = some u →
    u.emailVerifiedAt = some time →
      ∃ v, (s.run ops).users.get? id = some v ∧ v.emailVerifiedAt = some time

/-- A hash of a token that is there is not drawn again. -/
theorem hash_not_mem_storedTokens
    {ops₀ ops₁ : List Operation}
    (hhashes : ((storedTokens (ops₀ ++ ops₁)).map VerificationToken.hash).Nodup)
    {t : VerificationToken}
    (ht : t ∈ (Store.empty.run ops₀).verificationTokens.rows) :
    t.hash ∉ (storedTokens ops₁).map VerificationToken.hash := by
  rw [storedTokens_append, List.map_append] at hhashes
  obtain ⟨t₀, ht₀, htt⟩ := storedToken_of_mem ht
  intro hmem
  have hdrawn : t.hash ∈ (storedTokens ops₀).map VerificationToken.hash :=
    List.mem_map.mpr ⟨t₀, ht₀, htt.hash.symm⟩
  exact (List.nodup_append.mp hhashes).2.2 _ hdrawn _ hmem rfl

theorem later_of_mem_run
    {ops₀ ops₁ : List Operation}
    (hids : ((storedTokens (ops₀ ++ ops₁)).map VerificationToken.id).Nodup)
    {t u : VerificationToken}
    (ht : t ∈ (Store.empty.run ops₀).verificationTokens.rows)
    (hu : u ∈ ((Store.empty.run ops₀).run ops₁).verificationTokens.rows)
    (hid : u.id = t.id) : t.Later u := by
  rw [storedTokens_append, List.map_append] at hids
  obtain ⟨t₀, ht₀, htt⟩ := storedToken_of_mem ht
  rcases verificationToken_origin_run hu with ⟨v, hv, hvu⟩ | ⟨v, hv, hvu⟩
  · have hsame : t₀.id = v.id := htt.id.symm.trans (hid.symm.trans hvu.id)
    exact absurd hsame ((List.nodup_append.mp hids).2.2 _
      (List.mem_map_of_mem ht₀) _ (List.mem_map_of_mem hv))
  · obtain rfl := Table.eq_of_key_eq hv ht (hvu.id.symm.trans hid)
    exact hvu

/-- When neither an identifier nor a hash is drawn twice, verification tokens are
used once and for their purpose only: a hash is accepted for a usable token of
the right purpose and of a user who may use it, and then never again; a reset
spends all reset tokens that the user has by then; and an address stays verified
since it was verified first. -/
theorem verificationTokens_used_once
    (ops₀ ops₁ : List Operation)
    (hids : ((storedTokens (ops₀ ++ ops₁)).map VerificationToken.id).Nodup)
    (hhashes : ((storedTokens (ops₀ ++ ops₁)).map VerificationToken.hash).Nodup) :
    (Store.empty.run ops₀).TokensUsedOnce ops₁ := by
  have hs : (Store.empty.run ops₀).VerificationHashesDistinct := by
    refine verificationHashesDistinct_run ?_
    rw [storedTokens_append, List.map_append] at hhashes
    exact (List.nodup_append.mp hhashes).1
  constructor
  case later => exact fun t ht u hu hid => later_of_mem_run hids ht hu hid
  case reset =>
    intro hash newHash now user
    constructor
    · rintro ⟨n, hreset⟩
      exact (hs.resetPassword_reset hreset).1
    · rintro ⟨t, u, husable, rfl, hactive⟩
      exact hs.resetPassword_of_usable newHash husable hactive
  case resetOnce =>
    rintro hash newHash now user n hreset t ht rfl hpurpose newHash' now'
    have hused := (usedUp_resetPassword hs ht hreset hpurpose).run
      (hash_not_mem_storedTokens hhashes ht)
    rw [hused.resetPassword]
  case verified =>
    intro hash now user
    constructor
    · intro hverified
      obtain ⟨t, u, husable, huser, hlive, -⟩ := hs.verifyEmail_verified hverified
      exact ⟨t, u, husable, huser, hlive⟩
    · rintro ⟨t, u, husable, rfl, hlive⟩
      exact hs.verifyEmail_of_usable husable hlive
  case verifiedOnce =>
    intro hash now user hverified now'
    obtain ⟨t, u, husable, -, -, htokens⟩ := hs.verifyEmail_verified hverified
    obtain rfl := husable.hash
    have hused := (usedUp_consumeToken hs husable.mem htokens).run
      (hash_not_mem_storedTokens hhashes husable.mem)
    rw [hused.verifyEmail]
  case verifiedAt =>
    intro id u time hid hu htime
    exact keepsVerified_run id u time hid hu htime

end Store

/-- A verification token that is sent to the user of the sample run. -/
def issuedToken (n : BitVec 128) (purpose : TokenPurpose) (hash : String) :
    VerificationToken where
  id := ⟨n⟩
  user := sampleUser.id
  purpose := purpose
  hash := hash
  expiresAt := ⟨100, 0⟩
  createdAt := ⟨0, 0⟩

/-- The user gets two reset tokens and one for the address, and uses the
latter. -/
def issuedTokens : List Operation := [
  ⟨.createUser sampleUser "stored", .zero⟩,
  ⟨.storeVerificationToken (issuedToken 5 .passwordReset "reset"), .zero⟩,
  ⟨.storeVerificationToken (issuedToken 6 .passwordReset "other"), .zero⟩,
  ⟨.storeVerificationToken (issuedToken 7 .emailVerification "address"), .zero⟩,
  ⟨.verifyEmail "address" ⟨10, 0⟩, .zero⟩]

theorem Store.verificationTokens_used_once_issued :
    let s := Store.empty.run issuedTokens
    let suspension : List Operation :=
      [⟨.changeStatus {} sampleUser.id .suspended none ⟨30, 0⟩, .zero⟩]
    s.TokensUsedOnce suspension ∧
      (s.resetPassword "reset" "new" ⟨20, 0⟩).1 = .reset sampleUser.id 0 ∧
      (((s.resetPassword "reset" "new" ⟨20, 0⟩).2.run suspension).resetPassword
        "other" "newer" ⟨40, 0⟩).1 = .invalidToken ∧
      (s.verifyEmail "address" ⟨20, 0⟩).1 = .invalidToken := by
  have honce := verificationTokens_used_once issuedTokens
    [⟨.changeStatus {} sampleUser.id .suspended none ⟨30, 0⟩, .zero⟩]
    (by decide) (by decide)
  have hreset : ((Store.empty.run issuedTokens).resetPassword "reset" "new"
      ⟨20, 0⟩).1 = .reset sampleUser.id 0 := by decide
  have hother : issuedToken 6 .passwordReset "other" ∈
      (Store.empty.run issuedTokens).verificationTokens.rows := by decide
  exact ⟨honce, hreset,
    honce.resetOnce _ _ _ _ _ hreset _ hother rfl rfl "newer" ⟨40, 0⟩, by decide⟩

end AccountAuthority
