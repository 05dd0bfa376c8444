import AccountAuthority.Proofs.FinalRevocation
import AccountAuthority.Proofs.FirstSignIn
import AccountAuthority.Proofs.Instants
import AccountAuthority.Proofs.RefreshTable
import AccountAuthority.Proofs.SessionTerms

/-!
# How long sessions and their tokens last

When a session runs out is settled when it is opened.  A refresh token runs out
with its session at the latest, however often it has been replaced, and never
later than a token that is made at its time may.  A refresh is granted only
before either end, and then the new token can be used at once.
-/

namespace AccountAuthority

open Store

/-! ## Records that keep their times -/

/-- An earlier and a later form of a session, with the same times of opening and
expiry. -/
structure Session.SameTimes (x y : Session) : Prop where
  id : y.id = x.id
  createdAt : y.createdAt = x.createdAt
  expiresAt : y.expiresAt = x.expiresAt

/-- An earlier and a later form of a refresh token, with the same times of
making and expiry. -/
structure RefreshToken.SameTimes (t u : RefreshToken) : Prop where
  id : u.id = t.id
  session : u.session = t.session
  createdAt : u.createdAt = t.createdAt
  expiresAt : u.expiresAt = t.expiresAt

theorem Session.SameTimes.refl (x : Session) : x.SameTimes x :=
  ⟨rfl, rfl, rfl⟩

theorem RefreshToken.SameTimes.refl (t : RefreshToken) : t.SameTimes t :=
  ⟨rfl, rfl, rfl, rfl⟩

theorem Session.SameTimes.trans
    {x y z : Session} (h : x.SameTimes y) (h' : y.SameTimes z) : x.SameTimes z :=
  ⟨h'.id.trans h.id, h'.createdAt.trans h.createdAt, h'.expiresAt.trans h.expiresAt⟩

theorem RefreshToken.SameTimes.trans
    {t u v : RefreshToken} (h : t.SameTimes u) (h' : u.SameTimes v) :
    t.SameTimes v :=
  ⟨h'.id.trans h.id, h'.session.trans h.session, h'.createdAt.trans h.createdAt,
    h'.expiresAt.trans h.expiresAt⟩

namespace SessionStep

variable {N : List Name} {s s' : Store}

/-- A session is new, or has kept its times. -/
theorem session_sameTimes
    (h : SessionStep N s s') {y : Session} (hy : y ∈ s'.sessions.rows) :
    .session y.id ∈ N ∨ ∃ x ∈ s.sessions.rows, x.SameTimes y := by
  refine h.session_origin_of .refl ?_ (fun x reason now _ => ⟨rfl, rfl, rfl⟩)
    (fun x device now => ⟨rfl, rfl, rfl⟩) hy
  rintro x _ ⟨token, platform, at?, rfl⟩
  exact ⟨rfl, rfl, rfl⟩

/-- A refresh token is new, or has kept its times. -/
theorem token_sameTimes
    (h : SessionStep N s s') {u : RefreshToken} (hu : u ∈ s'.tokens.rows) :
    (.token u.id ∈ N ∧ .tokenHash u.hash ∈ N) ∨
      ∃ t ∈ s.tokens.rows, t.SameTimes u := by
  refine h.token_origin_of .refl (fun s p now t => ?_)
    (fun t next now _ => ⟨rfl, rfl, rfl, rfl⟩) hu
  unfold stamped
  split
  · exact ⟨rfl, rfl, rfl, rfl⟩
  · exact .refl t

end SessionStep

/-- Of the tokens that a rotation leaves, only the one that it makes goes by the
identifier that was drawn for it. -/
theorem Store.eq_of_mem_rotate
    {s : Store} {r : Rotation} {newId : TokenId} (hnew : ¬s.Uses (.token newId))
    {u : RefreshToken} (hu : u ∈ (s.rotate r newId).2.tokens.rows)
    (hid : u.id = newId) :
    ∃ x ∈ s.sessions.rows, u = rotatedToken x r newId := by
  -- Where nothing is inserted, the identifier has been there before.
  have hnone {s' : Store} (hstep : SessionStep [] s s')
      (hu : u ∈ s'.tokens.rows) : False := by
    rcases hstep.token_sameTimes hu with ⟨hname, -⟩ | ⟨t, ht, htu⟩
    · exact List.not_mem_nil hname
    · exact hnew ⟨t, ht, htu.id.symm.trans hid⟩
  unfold rotate at hu
  split at hu
  · exact (hnone (.unchanged rfl rfl) hu).elim
  split at hu
  · exact (hnone (.unchanged rfl rfl) hu).elim
  next x hx =>
    split at hu
    · exact (hnone (.unchanged rfl rfl) hu).elim
    split at hu
    · exact (hnone (.unchanged rfl rfl) hu).elim
    split at hu
    · exact (hnone (revoke_sessionStep s x.id .tokenReuse r.now) hu).elim
    · rcases Table.mem_rows_insert.mp hu with rfl | ⟨-, hne⟩
      · exact ⟨x, (Table.get?_eq_some_iff.mp hx).1, rfl⟩
      · exact absurd hid hne

namespace Operation

variable {op : Operation} {s : Store}

/-- A session is the one that an operation was asked to open, or has kept its
times. -/
theorem session_sameTimes
    (hopen : op.request.OpensProperly) {y : Session}
    (hy : y ∈ (op.apply s).sessions.rows) :
    (∃ t now, op.request = .createSession y t now) ∨
      ∃ x ∈ s.sessions.rows, x.SameTimes y :=
  (session_origin_of (R := Session.SameTimes) (fun h h' => h.trans h')
    (fun h _ => h.session_sameTimes) hopen hy).imp_left
      fun hname => opened_of_name hname hy

/-- A refresh token is the first one of a session that an operation was asked to
open, or the one that a rotation has made, or has kept its times. -/
theorem token_sameTimes
    (hopen : op.request.OpensProperly) (hnew : ∀ n ∈ op.names, ¬s.Uses n)
    {u : RefreshToken} (hu : u ∈ (op.apply s).tokens.rows) :
    (∃ x now, op.request = .createSession x u now) ∨
      (∃ r x, op.request = .rotate r ∧ x ∈ s.sessions.rows ∧
        u = rotatedToken x r op.fresh.token) ∨
      ∃ t ∈ s.tokens.rows, t.SameTimes u := by
  rcases token_origin_of (R := RefreshToken.SameTimes) (fun h h' => h.trans h')
    (fun h _ => h.token_sameTimes) hopen hu with ⟨hname, -⟩ | hkept
  · obtain ⟨r, fresh⟩ := op
    cases r with
    | createSession x t now =>
        have hid : u.id = t.id := by simpa [names] using hname
        rcases Table.mem_rows_insert.mp hu with rfl | ⟨-, hne⟩
        · exact Or.inl ⟨x, now, rfl⟩
        · exact absurd hid hne
    | rotate r =>
        have hid : u.id = fresh.token := by simpa [names] using hname
        obtain ⟨x, hx, hmade⟩ := eq_of_mem_rotate
          (hnew (.token fresh.token) (by simp [names])) hu hid
        exact Or.inr (Or.inl ⟨r, x, rfl, hx, hmade⟩)
    | _ => exact absurd hname List.not_mem_nil
  · exact Or.inr (Or.inr hkept)

end Operation

/-! ## The times of a run -/

/-- The sessions of a store run out a fixed time after they have been opened by
one of the operations, and their tokens run out with them at the latest, and a
fixed time after they have been made. -/
structure Store.WithinTerms (c : ServiceSettings) (ops : List Operation) (s : Store) :
    Prop where
  sessions : ∀ y ∈ s.sessions.rows, ∃ x t now fresh,
    (⟨.createSession x t now, fresh⟩ : Operation) ∈ ops ∧ x.id = y.id ∧
      y.createdAt = now ∧ y.expiresAt = now + c.sessionTtl
  tokens : ∀ u ∈ s.tokens.rows, ∃ x ∈ s.sessions.rows, x.id = u.session ∧
    u.expiresAt ≤ x.expiresAt ∧ u.expiresAt ≤ u.createdAt + c.refreshTtl

theorem OpenedOnTerms.token_le
    {c : ServiceSettings} {x : Session} {t : RefreshToken} {now : Instant}
    (h : OpenedOnTerms c x t now) :
    t.session = x.id ∧ t.expiresAt ≤ x.expiresAt ∧
      t.expiresAt ≤ t.createdAt + c.refreshTtl := by
  rw [h.token]
  exact ⟨rfl, Instant.min_le_right .., Instant.min_le_left ..⟩

theorem rotatedToken_le (x : Session) (r : Rotation) (newId : TokenId) :
    (rotatedToken x r newId).expiresAt ≤ x.expiresAt ∧
      (rotatedToken x r newId).expiresAt ≤
        (rotatedToken x r newId).createdAt + r.ttl :=
  ⟨Instant.min_le_right .., Instant.min_le_left ..⟩

/-- One operation on the terms keeps to them. -/
theorem Operation.withinTerms
    {c : ServiceSettings} {ops : List Operation} {op : Operation} {s : Store}
    (hs : s.WithinTerms c ops) (hmem : op ∈ ops) (hterms : op.request.OnTerms c)
    (hnew : ∀ n ∈ op.names, ¬s.Uses n)
    (howned : ∀ u ∈ (op.apply s).tokens.rows,
      ∃ y ∈ (op.apply s).sessions.rows, y.id = u.session) :
    (op.apply s).WithinTerms c ops where
  sessions y hy := by
    rcases op.session_sameTimes hterms.opensProperly hy with
      ⟨t, now, hrequest⟩ | ⟨w, hw, hwy⟩
    · obtain ⟨r, fresh⟩ := op
      obtain rfl : r = .createSession y t now := hrequest
      obtain ⟨hcreated, hexpires⟩ := OpenedOnTerms.expiresAt hterms
      exact ⟨y, t, now, fresh, hmem, rfl, hcreated, hexpires⟩
    · obtain ⟨x, t, now, fresh, hx, hid, hcreated, hexpires⟩ := hs.sessions w hw
      exact ⟨x, t, now, fresh, hx, hid.trans hwy.id.symm,
        hwy.createdAt.trans hcreated, hwy.expiresAt.trans hexpires⟩
  tokens u hu := by
    obtain ⟨y, hy, hyu⟩ := howned u hu
    -- The session of a token that was there is one that was there.
    have hkept {x : Session} (hx : x ∈ s.sessions.rows) (hxy : y.id = x.id) :
        y.expiresAt = x.expiresAt := by
      rcases op.session_sameTimes hterms.opensProperly hy with
        ⟨t, now, hrequest⟩ | ⟨w, hw, hwy⟩
      · have hname : Name.session y.id ∈ op.names := by simp [names, hrequest]
        exact absurd ⟨x, hx, hxy.symm⟩ (hnew _ hname)
      · have hwx : w = x := Table.eq_of_key_eq hw hx (hwy.id.symm.trans hxy)
        exact hwx ▸ hwy.expiresAt
    refine ⟨y, hy, hyu, ?_⟩
    rcases op.token_sameTimes hterms.opensProperly hnew hu with
      ⟨x, now, hrequest⟩ | ⟨r, x, hrequest, hx, rfl⟩ | ⟨t, ht, htu⟩
    · obtain ⟨_, fresh⟩ := op
      obtain rfl : _ = RepositoryRequest.createSession x u now := hrequest
      obtain ⟨hsession, hle⟩ := OpenedOnTerms.token_le hterms
      obtain rfl : y = x := eq_of_mem_createSession hy (hyu.trans hsession)
      exact hle
    · obtain ⟨_, fresh⟩ := op
      obtain rfl : _ = RepositoryRequest.rotate r := hrequest
      have httl : r.ttl = c.refreshTtl := hterms
      rw [hkept hx hyu, ← httl]
      exact rotatedToken_le x r fresh.token
    · obtain ⟨x, hx, hxt, hle⟩ := hs.tokens t ht
      rw [hkept hx (hyu.trans (htu.session.trans hxt.symm)), htu.expiresAt,
        htu.createdAt]
      exact hle

/-- A run on the terms keeps to them. -/
theorem Store.withinTerms_run
    {c : ServiceSettings} {ops : List Operation}
    (hterms : ∀ op ∈ ops, op.request.OnTerms c)
    (hnames : (drawnNames ops).Nodup) :
    (Store.empty.run ops).WithinTerms c ops := by
  refine run_induction (P := fun s => s.WithinTerms c ops) ⟨?_, ?_⟩ ?_
  · exact fun _ hy => absurd hy List.not_mem_nil
  · exact fun _ hu => absurd hu List.not_mem_nil
  intro pre op post hsplit hpre
  have hopen : ∀ op ∈ ops, op.request.OpensProperly :=
    fun op hop => (hterms op hop).opensProperly
  have hmem : op ∈ ops := by simp [hsplit]
  have hchained : (Store.empty.run (pre ++ [op])).Chained := by
    refine chained_empty.run (fun o ho => hopen o ?_) (fun n _ => not_uses_empty n) ?_
    · rw [hsplit]
      simp only [List.mem_append, List.mem_singleton] at ho
      simp only [List.mem_append, List.mem_cons]
      tauto
    · rw [hsplit, show pre ++ op :: post = (pre ++ [op]) ++ post by simp,
        drawnNames_append] at hnames
      exact hnames.of_append_left
  rw [run_concat] at hchained
  exact op.withinTerms hpre hmem (hterms op hmem)
    (not_uses_of_split hsplit hopen (fun n _ => not_uses_empty n) hnames)
    hchained.owned

/-! ## Refreshes that are granted -/

theorem RefreshToken.isExpired_eq_false_iff {t : RefreshToken} {now : Instant} :
    t.isExpired now = false ↔ now < t.expiresAt := by
  rw [isExpired, decide_eq_false_iff_not, Instant.not_le]

theorem Session.isExpired_eq_false_iff {x : Session} {now : Instant} :
    x.isExpired now = false ↔ now < x.expiresAt := by
  rw [isExpired, decide_eq_false_iff_not, Instant.not_le]

/-- A refresh that has been granted at `now` by the store `s` was in time, and
what it has left in `s'` can be used at once. -/
structure GrantedInTime
    (c : ServiceSettings) (raw : String) (now : Instant) (g : Grant) (s s' : Store) :
    Prop where
  token : ∃ t ∈ s.tokens.rows, t.hash = c.tokenHash raw ∧ t.session = g.session ∧
    now < t.expiresAt
  session : ∃ x ∈ s.sessions.rows, x.id = g.session ∧ now < x.expiresAt
  next : ∃ u ∈ s'.tokens.rows, u.hash = c.tokenHash g.refreshToken ∧
    u.session = g.session ∧ now < u.expiresAt
  again : ∀ device (o : Surroundings) fresh, o 0 .now = now → o.Signs →
    ∃ g', ((refreshCall c g.refreshToken device o).runAlone fresh s').1 = .ok g' ∧
      g'.session = g.session

section

variable (c : ServiceSettings) (raw : String) (device : Device)
  (o : Surroundings) (fresh : FreshIds)

/-- A refresh that is granted after it has read has rotated a token. -/
theorem rotated_of_granted
    {found : Option RefreshContext} {s s' : Store} {g : Grant}
    (h : (afterReading c raw device o found).runAlone fresh s = (.ok g, s')) :
    ∃ ctx access x new, found = some ctx ∧
      Service.refreshRefusal ctx (o 0 .now) = none ∧
      s.rotate (refreshRotation c raw device o) fresh.token = (.rotated x new, s') ∧
      g = Service.grant c ctx.user x.id access (nextToken o) := by
  unfold afterReading at h
  split at h
  · cases h
  next ctx =>
    split at h
    · cases h
    next hrefusal =>
      cases hhead : ctx.token.isChainHead with
      | false =>
          rw [refreshWrite_of_not_head c raw device o hhead] at h
          cases h
      | true =>
          cases hsign : o 2 (.signAccess (accessRequest c ctx.user ctx.session.id)) with
          | error text =>
              rw [refreshWrite_of_unsigned c raw device o hhead hsign] at h
              cases h
          | ok access =>
              rw [refreshWrite_of_head c raw device o hhead hsign, runAlone_rotate,
                Prod.mk.injEq] at h
              obtain ⟨hanswer, rfl⟩ := h
              unfold rotationAnswer at hanswer
              split at hanswer
              next x new houtcome =>
                cases hanswer
                exact ⟨ctx, access, x, new, rfl, hrefusal,
                  Prod.ext houtcome rfl, rfl⟩
              all_goals cases hanswer

variable {c raw}

/-- What a rotation in time has made leads to the same session and user. -/
theorem findRefreshContext_rotated
    {s : Store} {ctx : RefreshContext} {r : Rotation} {newId : TokenId}
    (hctx : s.findRefreshContext r.tokenHash = some ctx)
    (hlive : ctx.session.isRevoked = false)
    (htime : ctx.token.isExpired r.now = false ∧ ctx.session.isExpired r.now = false)
    (hhead : ctx.token.isChainHead = true) (hnew : ¬s.Uses (.token newId))
    (hhash : ¬s.Uses (.tokenHash r.newTokenHash)) :
    (s.rotate r newId).2.findRefreshContext r.newTokenHash =
      some ⟨rotatedToken ctx.session r newId, ctx.session.touch r.device r.now,
        ctx.user⟩ := by
  obtain ⟨ht, hx, hu⟩ := findRefreshContext_eq_some_iff.mp hctx
  obtain ⟨-, -, -, hpassed⟩ := passedOn_rotate ht hx hlive htime hhead hnew
  obtain ⟨s', hrotate, husers, hsessions, -⟩ :=
    rotate_of_head newId ht hx hlive htime hhead
  rw [hrotate] at hpassed ⊢
  refine findRefreshContext_eq_some_iff.mpr ⟨?_, ?_, husers ▸ hu⟩
  · have hnone : s.tokens.rows.find? (fun t => t.hash = r.newTokenHash) = none :=
      List.find?_eq_none.mpr fun t ht => by
        simpa using fun hthash => hhash ⟨t, ht, hthash⟩
    change s'.tokens.rows.find? _ = _
    rw [hpassed.tokens, List.find?_append,
      find?_hash_map (by intro t; split <;> rfl), hnone]
    simp [rotatedToken]
  · rw [hsessions, show (rotatedToken ctx.session r newId).session =
      ctx.token.session from id_session_of_findRefreshContext hctx]
    change (s.sessions.map _ _).get? _ = _
    rw [Table.get?_map, hx]
    simp

variable {s : Store} {ctx : RefreshContext}

/-- A rotation by a token that has led to records in time, and still does, has
been granted in time. -/
theorem grantedInTime_of_rotated
    (hplain : (o 0 .now).IsPlain) (hpositive : 0 < c.refreshTtl.nanos)
    (hnew : ¬s.Uses (.token fresh.token))
    (hhash : ¬s.Uses (.tokenHash (c.tokenHash (nextToken o))))
    (hctx : s.findRefreshContext (c.tokenHash raw) = some ctx)
    (hactive : ctx.user.status = .active) {x : Session} {new : RefreshToken}
    {s' : Store}
    (hrotate : s.rotate (refreshRotation c raw device o) fresh.token =
      (.rotated x new, s')) (user : User) (access : String) :
    GrantedInTime c raw (o 0 .now) (Service.grant c user x.id access (nextToken o))
      s s' := by
  obtain ⟨ht, hx, hu⟩ := findRefreshContext_eq_some_iff.mp hctx
  obtain ⟨t, y, ht', hy, hlive, htime, hhead⟩ := rotate_granted
    (r := refreshRotation c raw device o) (congrArg Prod.fst hrotate)
  obtain rfl : ctx.token = t := Option.some.inj (ht.symm.trans ht')
  obtain rfl : ctx.session = y := Option.some.inj (hx.symm.trans hy)
  have hfound := findRefreshContext_rotated (r := refreshRotation c raw device o)
    hctx hlive htime hhead hnew hhash
  have hid : ctx.session.id = x.id := by
    obtain ⟨_, hsame, -⟩ := rotate_of_head (r := refreshRotation c raw device o)
      fresh.token ht hx hlive htime hhead
    cases hrotate.symm.trans hsame
    rfl
  rw [hrotate] at hfound
  obtain ⟨htmem, hthash⟩ := mem_of_tokenByHash? ht
  have hxmem := (Table.get?_eq_some_iff.mp hx).1
  have htoken := RefreshToken.isExpired_eq_false_iff.mp htime.1
  have hsession := Session.isExpired_eq_false_iff.mp htime.2
  -- The new token is neither born dead nor cut off by the session.
  have hnext : o 0 .now < (rotatedToken ctx.session (refreshRotation c raw device o)
      fresh.token).expiresAt :=
    Instant.lt_min (hplain.lt_add hpositive) hsession
  refine ⟨⟨ctx.token, htmem, hthash, ?_, htoken⟩, ⟨ctx.session, hxmem, hid, hsession⟩,
    ⟨_, (mem_of_tokenByHash? (findRefreshContext_eq_some_iff.mp hfound).1).1, rfl,
      hid, hnext⟩, fun device' o' fresh' htime' hsigns => ?_⟩
  · exact (id_session_of_findRefreshContext hctx).symm.trans hid
  · obtain ⟨access', hsign⟩ := hsigns 2 (accessRequest c ctx.user ctx.session.id)
    refine ⟨_, refreshCall_accepts c _ device' o' fresh' hfound hactive hlive ?_ rfl
      hsign, hid⟩
    rw [htime']
    exact ⟨RefreshToken.isExpired_eq_false_iff.mpr hnext, htime.2⟩

end

/-- The end of a session does not change in a run. -/
theorem Store.expiresAt_eq_of_run
    {ops₀ ops₁ : List Operation}
    (hopen : ∀ op ∈ ops₀ ++ ops₁, op.request.OpensProperly)
    (hnames : (drawnNames (ops₀ ++ ops₁)).Nodup) {x y : Session}
    (hx : x ∈ (Store.empty.run ops₀).sessions.rows)
    (hy : y ∈ (Store.empty.run (ops₀ ++ ops₁)).sessions.rows) (hid : y.id = x.id) :
    y.expiresAt = x.expiresAt := by
  rw [run_append] at hy
  have hlater := later_of_mem_sessions_run (fun op hop => hopen op (by simp [hop])) hx
    (fun hname => not_uses_of_append hopen hnames _ hname ⟨x, hx, rfl⟩) hy hid
  exact hlater.expiresAt

/-- Whatever services and others do to a store at the same time, on the terms of
the settings: every session runs out a fixed time after it was opened, and its
tokens with it at the latest; the end of a session never changes; and a refresh,
which may read after one part of the schedule and write after another one, is
granted only before the end of its token and of its session, and its new token
can be used at once. -/
theorem rotation_never_extends
    {ι : Type} [DecidableEq ι] (c : ServiceSettings) (w : WorkerSettings)
    (hpositive : 0 < c.refreshTtl.nanos) (parties : ι → Party)
    (hterms : ∀ i r, parties i = .operation r → r.OnTerms c)
    (pre post : List (Turn ι))
    (hnames : (drawnNames
      ((partyPool c w parties .empty).operations (pre ++ post))).Nodup)
    (husers : (drawnUsers
      ((partyPool c w parties .empty).operations (pre ++ post))).Nodup) :
    let p := partyPool c w parties .empty
    let s₀ := (p.run pre).store
    let s₁ := (p.run (pre ++ post)).store
    s₁.WithinTerms c (p.operations (pre ++ post)) ∧
    (∀ before, before <+: pre ++ post →
      ∀ x ∈ (p.run before).store.sessions.rows, ∀ y ∈ s₁.sessions.rows,
        y.id = x.id → y.expiresAt = x.expiresAt) ∧
    ∀ raw device (o : Surroundings) fresh g s', (o 0 .now).IsPlain →
      ¬s₁.Uses (.token fresh.token) →
      ¬s₁.Uses (.tokenHash (c.tokenHash (nextToken o))) →
      ((refreshCall c raw device o).afterFirst fresh s₀).runAlone fresh s₁ =
        (.ok g, s') →
      GrantedInTime c raw (o 0 .now) g s₁ s' ∧
        ∀ before, before <+: pre ++ post →
          ∀ x ∈ (p.run before).store.sessions.rows, x.id = g.session →
            o 0 .now < x.expiresAt := by
  intro p s₀ s₁
  have hterms' : ∀ op ∈ p.operations (pre ++ post), op.request.OnTerms c :=
    onTerms_operations .empty hterms (pre ++ post)
  have hopen : ∀ op ∈ p.operations (pre ++ post), op.request.OpensProperly :=
    fun op hop => (hterms' op hop).opensProperly
  have hs₁ : s₁ = Store.empty.run (p.operations (pre ++ post)) := p.store_run _
  have hkept : ∀ before, before <+: pre ++ post →
      ∀ x ∈ (p.run before).store.sessions.rows, ∀ y ∈ s₁.sessions.rows,
        y.id = x.id → y.expiresAt = x.expiresAt := by
    rintro before ⟨after, hsplit⟩ x hx y hy hid
    have hops := hsplit ▸ p.operations_append before after
    rw [hs₁, hops] at hy
    rw [hops] at hopen hnames
    rw [p.store_run] at hx
    exact expiresAt_eq_of_run hopen hnames hx hy hid
  refine ⟨hs₁ ▸ withinTerms_run hterms' hnames, hkept, ?_⟩
  intro raw device o fresh g s' hplain hnew hhash hgranted
  rw [refreshCall_afterFirst] at hgranted
  obtain ⟨ctx, access, x, new, hfound, hrefusal, hrotate, rfl⟩ :=
    rotated_of_granted c raw device o fresh hgranted
  -- What was read when the refresh began is still there when it writes.
  have hlater : LaterRecords (c.tokenHash raw) ctx s₁ := by
    have hops := p.operations_append pre post
    have hs₀ : s₀ = Store.empty.run (p.operations pre) := p.store_run _
    rw [hops] at hopen hnames husers hs₁ hterms'
    rw [hs₁, run_append]
    exact laterRecords_run_of_empty hopen hnames husers
      (fun op hop => (hterms' op (by simp [hop])).setsLiveStatus) (hs₀ ▸ hfound)
      (refreshRefusal_eq_none_iff.mp hrefusal).1
  have hin : GrantedInTime c raw (o 0 .now)
      (Service.grant c ctx.user x.id access (nextToken o)) s₁ s' := by
    cases hlater with
    | ended hover =>
        obtain ⟨outcome, hsame, hfails⟩ :=
          hover.rotate (refreshRotation c raw device o) fresh.token rfl
        cases hrotate.symm.trans hsame
        cases hfails c ctx.user access (nextToken o)
    | live now hnow _ _ _ hactive =>
        exact grantedInTime_of_rotated device o fresh hplain hpositive hnew hhash hnow
          hactive hrotate ctx.user access
  refine ⟨hin, fun before hbefore y hy hid => ?_⟩
  obtain ⟨z, hz, hzid, htime⟩ := hin.session
  rw [← hkept before hbefore y hy z hz (hzid.trans hid.symm)]
  exact htime

/-- Settings with which the sample session and its token are opened. -/
def lastingSettings : ServiceSettings :=
  { sampleSettings with
    refreshTtl := ⟨500000000000⟩
    sessionTtl := ⟨1000000000000⟩ }

/-- A session is opened and refreshed, and gets a push token. -/
def lastingParties : Fin 4 → Party
  | 0 => .operation (.createUser sampleUser "stored")
  | 1 => .operation (.createSession sampleSession sampleToken ⟨0, 0⟩)
  | 2 => .service (.refresh "first" {}) (.still ⟨10, 0⟩ [1])
  | 3 => .service (.registerPushToken ⟨0⟩ ⟨1⟩ "push" none) (.still ⟨20, 0⟩ [])

/-- What happens before a second refresh reads. -/
def lastingTurns : List (Turn (Fin 4)) :=
  [⟨0, .zero⟩, ⟨1, .zero⟩, ⟨2, .zero⟩, ⟨2, ⟨⟨3⟩, ⟨0⟩, ⟨0⟩⟩⟩]

theorem lastingParties_onTerms :
    ∀ i r, lastingParties i = .operation r → r.OnTerms lastingSettings := by
  intro i r h
  match i with
  | 0 =>
      obtain rfl := Party.operation.inj h
      exact trivial
  | 1 =>
      obtain rfl := Party.operation.inj h
      exact ⟨⟨[.password], {}, by decide⟩, by decide⟩
  | 2 | 3 => cases h

/-- A session that has been refreshed is refreshed again, while its device
registers for notifications. -/
theorem rotation_never_extends_lasting :
    0 < lastingSettings.refreshTtl.nanos ∧
    (∀ i r, lastingParties i = .operation r → r.OnTerms lastingSettings) ∧
    let p := partyPool lastingSettings sampleWorker lastingParties .empty
    let turns := lastingTurns ++ [⟨3, .zero⟩]
    let o : Surroundings := .still ⟨30, 0⟩ [2]
    let fresh : FreshIds := ⟨⟨4⟩, ⟨0⟩, ⟨0⟩⟩
    let result := ((refreshCall lastingSettings "AQ" {} o).afterFirst fresh
      (p.run lastingTurns).store).runAlone fresh (p.run turns).store
    (drawnNames (p.operations turns)).Nodup ∧
    (drawnUsers (p.operations turns)).Nodup ∧
    (o 0 .now).IsPlain ∧
    ¬(p.run turns).store.Uses (.token fresh.token) ∧
    ¬(p.run turns).store.Uses (.tokenHash (lastingSettings.tokenHash (nextToken o))) ∧
    ∃ g, result.1 = .ok g ∧
      GrantedInTime lastingSettings "AQ" ⟨30, 0⟩ g (p.run turns).store result.2 := by
  have hnames : (drawnNames ((partyPool lastingSettings sampleWorker lastingParties
      .empty).operations (lastingTurns ++ [⟨3, .zero⟩]))).Nodup := by decide +kernel
  have husers : (drawnUsers ((partyPool lastingSettings sampleWorker lastingParties
      .empty).operations (lastingTurns ++ [⟨3, .zero⟩]))).Nodup := by decide +kernel
  obtain ⟨-, -, hgranted⟩ := rotation_never_extends lastingSettings sampleWorker
    (by decide) lastingParties lastingParties_onTerms lastingTurns [⟨3, .zero⟩]
    hnames husers
  have hplain : Instant.IsPlain ⟨30, 0⟩ := Instant.isPlain_iff.mpr (by decide)
  refine ⟨by decide, lastingParties_onTerms, hnames, husers, hplain, by decide +kernel,
    by decide +kernel, Service.grant lastingSettings sampleUser ⟨1⟩ "" "Ag",
    by decide +kernel, ?_⟩
  exact (hgranted "AQ" {} (.still ⟨30, 0⟩ [2]) ⟨⟨4⟩, ⟨0⟩, ⟨0⟩⟩ _ _ hplain
    (by decide +kernel) (by decide +kernel) (by rfl)).1

end AccountAuthority
