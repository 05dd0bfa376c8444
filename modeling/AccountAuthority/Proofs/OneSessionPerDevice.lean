import AccountAuthority.Proofs.Refusals
import AccountAuthority.Proofs.FinalRevocation
import AccountAuthority.Proofs.UuidText
import Mathlib.Data.List.Find

/-!
# One live session for each device

A live session with a device holds an active key, which is written from its user
and its device, and gives it up when it is revoked.  The text of an identifier
has a fixed length, so the key tells user and device apart whatever stands in
the name of the device.  A session that is opened takes its key away from the
only session that holds it, and so no device ever has two live sessions.
-/

namespace AccountAuthority

open Store

/-! ## What an active key says -/

theorem Uuid.length_toString (id : Uuid) : (toString id).toList.length = 36 := by
  rw [show (toString id).toList = id.toChars from String.toList_ofList,
    length_toChars]

theorem activeKey_eq_some_iff
    {user : UserId} {device : Option String} {k : String} :
    activeKey user device = some k ↔
      ∃ d, device = some d ∧ Text.trim d ≠ "" ∧
        toString user ++ ":" ++ Text.trim d = k := by
  unfold activeKey
  cases device with
  | none => simp
  | some d =>
      simp only [Option.map_some]
      split
      next h => simp at h
      next h => simp_all
      next e hblank h =>
        obtain rfl := Option.some.inj h
        have hne : Text.trim d ≠ "" := fun heq => hblank (by rw [heq])
        simp [hne]

/-- A key belongs to one user and to one device, blanks at the ends of its name
apart. -/
theorem eq_of_activeKey_eq_some
    {u v : UserId} {d e : Option String} {k : String}
    (hd : activeKey u d = some k) (he : activeKey v e = some k) :
    u = v ∧ d.map Text.trim = e.map Text.trim := by
  obtain ⟨d, rfl, -, hk⟩ := activeKey_eq_some_iff.mp hd
  obtain ⟨e, rfl, -, hk'⟩ := activeKey_eq_some_iff.mp he
  have hchars := congrArg String.toList (hk.trans hk'.symm)
  simp only [String.toList_append] at hchars
  have hlength : ((toString u).toList ++ ":".toList).length =
      ((toString v).toList ++ ":".toList).length := by
    rw [List.length_append, List.length_append, Uuid.length_toString,
      Uuid.length_toString]
  obtain ⟨huser, hdevice⟩ := List.append_inj hchars hlength
  have huser := List.append_inj_left' huser rfl
  refine ⟨Uuid.toString_injective (String.toList_inj.mp huser), ?_⟩
  rw [Option.map_some, Option.map_some, String.toList_inj.mp hdevice]

/-! ## Which sessions hold keys -/

/-- The same session of the same device: it has its key still, or has been
revoked and given it up. -/
structure Session.KeepsKey (x y : Session) : Prop where
  id : y.id = x.id
  user : y.user = x.user
  deviceId : y.deviceId = x.deviceId
  key : (y.isRevoked = x.isRevoked ∧ y.activeKey = x.activeKey) ∨
    (y.isRevoked = true ∧ y.activeKey = none)

theorem Session.KeepsKey.refl (x : Session) : x.KeepsKey x :=
  ⟨rfl, rfl, rfl, Or.inl ⟨rfl, rfl⟩⟩

theorem Session.KeepsKey.activeKey
    {x y : Session} (h : x.KeepsKey y) {k : String} (hy : y.activeKey = some k) :
    x.activeKey = some k := by
  rcases h.key with ⟨-, hkey⟩ | ⟨-, hnone⟩
  · exact hkey ▸ hy
  · rw [hnone] at hy
    cases hy

/-- Live sessions hold the keys of their devices, and no two of them hold the
same one. -/
structure Store.KeysHeld (s : Store) : Prop where
  live : ∀ x ∈ s.sessions.rows, x.isRevoked = false →
    x.activeKey = activeKey x.user x.deviceId
  revoked : s.RevokedKeyless
  single : ∀ x ∈ s.sessions.rows, ∀ y ∈ s.sessions.rows, ∀ k,
    x.activeKey = some k → y.activeKey = some k → x = y

namespace Store.KeysHeld

variable {s s' : Store}

theorem empty : Store.empty.KeysHeld where
  live _ hx := absurd hx List.not_mem_nil
  revoked := revokedKeyless_empty
  single _ hx := absurd hx List.not_mem_nil

theorem isRevoked_eq_false
    (hs : s.KeysHeld) {x : Session} (hx : x ∈ s.sessions.rows) {k : String}
    (hk : x.activeKey = some k) : x.isRevoked = false := by
  by_contra hrevoked
  rw [hs.revoked x hx (by simpa using hrevoked)] at hk
  cases hk

/-- Only a session of the user and the device holds their key. -/
theorem eq_of_activeKey
    (hs : s.KeysHeld) {x : Session} (hx : x ∈ s.sessions.rows)
    {user : UserId} {device : Option String} {k : String}
    (hk : activeKey user device = some k) (hxk : x.activeKey = some k) :
    x.user = user ∧ x.deviceId.map Text.trim = device.map Text.trim := by
  have hlive := hs.live x hx (hs.isRevoked_eq_false hx hxk)
  exact eq_of_activeKey_eq_some (hlive ▸ hxk) hk

/-- Keys stay held by single sessions as long as no session is added. -/
theorem of_origins
    (hs : s.KeysHeld)
    (h : ∀ y ∈ s'.sessions.rows, ∃ x ∈ s.sessions.rows, x.KeepsKey y) :
    s'.KeysHeld where
  live y hy hlive := by
    obtain ⟨x, hx, hxy⟩ := h y hy
    rcases hxy.key with ⟨hrevoked, hkey⟩ | ⟨hrevoked, -⟩
    · rw [hkey, hxy.user, hxy.deviceId]
      exact hs.live x hx (hrevoked ▸ hlive)
    · rw [hrevoked] at hlive
      cases hlive
  revoked y hy hrevoked := by
    obtain ⟨x, hx, hxy⟩ := h y hy
    rcases hxy.key with ⟨heq, hkey⟩ | ⟨-, hnone⟩
    · rw [hkey]
      exact hs.revoked x hx (heq ▸ hrevoked)
    · exact hnone
  single y hy z hz k hyk hzk := by
    obtain ⟨x, hx, hxy⟩ := h y hy
    obtain ⟨w, hw, hwz⟩ := h z hz
    have hxw : x = w := hs.single x hx w hw k (hxy.activeKey hyk) (hwz.activeKey hzk)
    exact Table.eq_of_key_eq hy hz (hxy.id.trans (hxw ▸ hwz.id.symm))

/-- A session may be put in when no other one holds its key. -/
theorem insert
    (hs : s.KeysHeld) {x : Session} (hsessions : s'.sessions = s.sessions.insert x)
    (hlive : x.isRevoked = false) (hkey : x.activeKey = activeKey x.user x.deviceId)
    (hfree : ∀ y ∈ s.sessions.rows, ∀ k,
      x.activeKey = some k → y.activeKey ≠ some k) :
    s'.KeysHeld where
  live y hy hy' := by
    rw [hsessions] at hy
    rcases Table.mem_rows_insert.mp hy with rfl | ⟨hy, -⟩
    · exact hkey
    · exact hs.live y hy hy'
  revoked y hy hrevoked := by
    rw [hsessions] at hy
    rcases Table.mem_rows_insert.mp hy with rfl | ⟨hy, -⟩
    · rw [hlive] at hrevoked
      cases hrevoked
    · exact hs.revoked y hy hrevoked
  single y hy z hz k hyk hzk := by
    rw [hsessions] at hy hz
    rcases Table.mem_rows_insert.mp hy with hyx | ⟨hy', -⟩ <;>
      rcases Table.mem_rows_insert.mp hz with hzx | ⟨hz', -⟩
    · rw [hyx, hzx]
    · exact absurd hzk (hfree z hz' k (hyx ▸ hyk))
    · exact absurd hyk (hfree y hy' k (hzx ▸ hzk))
    · exact hs.single y hy' z hz' k hyk hzk

end Store.KeysHeld

/-- A step that opens no session leaves every session its device, and its key
unless it is revoked. -/
theorem SessionStep.keepsKey
    {N : List Name} {s s' : Store} (h : SessionStep N s s')
    (hN : ∀ id, .session id ∉ N) {y : Session} (hy : y ∈ s'.sessions.rows) :
    ∃ x ∈ s.sessions.rows, x.KeepsKey y := by
  cases h with
  | unchanged hsessions _ => exact ⟨y, hsessions ▸ hy, .refl y⟩
  | pushed f hsame hsessions _ _ =>
      rw [hsessions] at hy
      obtain ⟨x, hx, rfl⟩ := List.mem_map.mp hy
      obtain ⟨token, platform, at?, hf⟩ := hsame x
      refine ⟨x, hx, ?_⟩
      rw [hf]
      exact ⟨rfl, rfl, rfl, Or.inl ⟨rfl, rfl⟩⟩
  | revoked p reason now _ hsessions _ =>
      rw [hsessions, rows_sessions_revokeWhere] at hy
      obtain ⟨x, hx, rfl⟩ := List.mem_map.mp hy
      refine ⟨x, hx, ?_⟩
      split
      · exact ⟨rfl, rfl, rfl, Or.inr ⟨rfl, rfl⟩⟩
      · exact .refl x
  | opened x t _ hname _ _ _ _ => exact absurd hname (hN x.id)
  | rotated x old new device now _ _ _ _ _ _ _ hsessions _ =>
      rw [hsessions] at hy
      obtain ⟨z, hz, rfl⟩ := List.mem_map.mp hy
      refine ⟨z, hz, ?_⟩
      split
      · exact ⟨rfl, rfl, rfl, Or.inl ⟨rfl, rfl⟩⟩
      · exact .refl z
  | removed user hsessions _ =>
      rw [hsessions] at hy
      exact ⟨y, (List.mem_filter.mp hy).1, .refl y⟩

/-! ## The session that is replaced -/

/-- A session as it is made for a device. -/
def Session.IsNew (x : Session) : Prop :=
  ∃ methods device expiresAt now,
    x = Session.create x.id x.user methods device expiresAt now

theorem Session.IsNew.isRevoked {x : Session} (h : x.IsNew) :
    x.isRevoked = false := by
  obtain ⟨methods, device, expiresAt, now, heq⟩ := h
  rw [heq]
  rfl

theorem Session.IsNew.activeKey {x : Session} (h : x.IsNew) :
    x.activeKey = AccountAuthority.activeKey x.user x.deviceId := by
  obtain ⟨methods, device, expiresAt, now, heq⟩ := h
  rw [heq]
  rfl

/-- Whether a session holds the active key of another one. -/
def Session.sharesKey (x y : Session) : Bool :=
  x.activeKey.isSome && y.activeKey = x.activeKey

theorem Session.sharesKey_iff {x y : Session} :
    x.sharesKey y = true ↔ ∃ k, x.activeKey = some k ∧ y.activeKey = some k := by
  cases hk : x.activeKey <;> simp [sharesKey, hk]

/-- Whether a session is live and is one of the user on the device, blanks at
the ends of its name apart. -/
def Session.liveOn (x : Session) (user : UserId) (device : String) : Bool :=
  !x.isRevoked && x.user = user &&
    x.deviceId.map Text.trim = some (Text.trim device)

theorem Session.liveOn_iff {x : Session} {user : UserId} {device : String} :
    x.liveOn user device = true ↔
      x.isRevoked = false ∧ x.user = user ∧
        x.deviceId.map Text.trim = some (Text.trim device) := by
  simp [liveOn, and_assoc]

namespace Store

variable {s : Store}

/-- The sessions that hold the key of a device are those that are live on
it. -/
theorem KeysHeld.liveOn_iff
    (hs : s.KeysHeld) {x : Session} (hx : x ∈ s.sessions.rows) {user : UserId}
    {device : String} {k : String} (hk : activeKey user (some device) = some k) :
    x.liveOn user device = true ↔ x.activeKey = some k := by
  rw [Session.liveOn_iff]
  constructor
  · rintro ⟨hlive, rfl, hdevice⟩
    obtain ⟨e, he, htrim⟩ := Option.map_eq_some_iff.mp hdevice
    obtain ⟨d, hd, hne, hkd⟩ := activeKey_eq_some_iff.mp hk
    obtain rfl := Option.some.inj hd
    rw [hs.live x hx hlive]
    exact activeKey_eq_some_iff.mpr ⟨e, he, htrim ▸ hne, by rw [htrim, hkd]⟩
  · intro hxk
    obtain ⟨huser, hdevice⟩ := hs.eq_of_activeKey hx hk hxk
    exact ⟨hs.isRevoked_eq_false hx hxk, huser, hdevice⟩

/-- A device whose name is not blank has one live session at most. -/
theorem KeysHeld.eq_of_liveOn
    (hs : s.KeysHeld) {x y : Session} (hx : x ∈ s.sessions.rows)
    (hy : y ∈ s.sessions.rows) {user : UserId} {device : String}
    (hne : Text.trim device ≠ "") (hxd : x.liveOn user device = true)
    (hyd : y.liveOn user device = true) : x = y := by
  have hk : activeKey user (some device) = _ :=
    activeKey_eq_some_iff.mpr ⟨device, rfl, hne, rfl⟩
  exact hs.single x hx y hy _ ((hs.liveOn_iff hx hk).mp hxd)
    ((hs.liveOn_iff hy hk).mp hyd)

end Store

/-! ## Opening a session -/

namespace Store

variable {s : Store}

/-- The session with a key is revoked when one with the same key is opened. -/
theorem KeysHeld.createSession_eq
    (hs : s.KeysHeld) {x : Session} {p : Session → Bool}
    (hp : ∀ y ∈ s.sessions.rows,
      p y = true ↔ ∃ k, x.activeKey = some k ∧ y.activeKey = some k)
    (t : RefreshToken) (now : Instant) :
    s.createSession x t now =
      (⟨x, t, (s.sessions.find? p).map Session.id⟩,
        { s.revokeWhere p .deviceReplaced now with
          sessions := (s.revokeWhere p .deviceReplaced now).sessions.insert x
          tokens := (s.revokeWhere p .deviceReplaced now).tokens.insert t }) := by
  have hnone (h : ∀ y ∈ s.sessions.rows, p y ≠ true) :
      s.sessions.find? p = none ∧ s.revokeWhere p .deviceReplaced now = s := by
    refine ⟨List.find?_eq_none.mpr h, ?_⟩
    rw [revokeWhere_congr (fun y hy => Bool.eq_false_iff.mpr (h y hy)),
      revokeWhere_false]
  unfold createSession
  cases hxk : x.activeKey with
  | none =>
      obtain ⟨hfind, hrevoke⟩ := hnone fun y hy hpy => by
        obtain ⟨k, hk, -⟩ := (hp y hy).mp hpy
        rw [hxk] at hk
        cases hk
      simp [hfind, hrevoke]
  | some k =>
      have hpk : ∀ y ∈ s.sessions.rows, p y = true ↔ y.activeKey = some k := by
        intro y hy
        simp [hp y hy, hxk]
      have hfind : s.sessionByKey? k = s.sessions.find? p := by
        refine List.find?_congr fun y hy => ?_
        rw [Bool.eq_iff_iff, decide_eq_true_eq, hpk y hy]
      cases hz : s.sessions.find? p with
      | none =>
          have hrevoke := (hnone (List.find?_eq_none.mp hz)).2
          simp [hfind, hz, hrevoke]
      | some z =>
          have hmem : z ∈ s.sessions.rows := List.mem_of_find?_eq_some hz
          have hzk := (hpk z hmem).mp (List.find?_some hz)
          have hrevoke : (s.revoke z.id .deviceReplaced now).2 =
              s.revokeWhere p .deviceReplaced now := by
            rw [revoke_of_live (Table.get?_key hmem)
              (hs.isRevoked_eq_false hmem hzk)]
            refine revokeWhere_congr (fun y hy => ?_) _ _
            rw [Bool.eq_iff_iff, decide_eq_true_eq, hpk y hy]
            constructor
            · intro hid
              rwa [Table.eq_of_key_eq hy hmem hid]
            · intro hyk
              rw [hs.single y hy z hmem k hyk hzk]
          simp [hfind, hz, hrevoke]

end Store

/-- What the opening of a session comes to when the sessions in `p` make way for
it: they are revoked with all their tokens, and every other session stays as it
was. -/
structure Store.Replaces
    (s : Store) (x : Session) (t : RefreshToken) (now : Instant)
    (p : Session → Bool) : Prop where
  answer : (s.createSession x t now).1.replaced =
    (s.sessions.find? p).map Session.id
  sessions : (s.createSession x t now).2.sessions.rows =
    (s.sessions.rows.map fun y =>
      if p y then y.revoke .deviceReplaced now else y) ++ [x]
  tokens : ∀ u ∈ (s.createSession x t now).2.tokens.rows, u ≠ t →
    ∀ y ∈ s.sessions.rows, p y = true → y.id = u.session →
      u.revokedAt.isSome = true
  others : ∀ u ∈ s.tokens.rows, u.id ≠ t.id →
    (∀ y ∈ s.sessions.rows, y.id = u.session → p y = false) →
      u ∈ (s.createSession x t now).2.tokens.rows

theorem Store.KeysHeld.replaces
    {s : Store} (hs : s.KeysHeld) {x : Session} {p : Session → Bool}
    (hp : ∀ y ∈ s.sessions.rows,
      p y = true ↔ ∃ k, x.activeKey = some k ∧ y.activeKey = some k)
    (hx : s.sessions.get? x.id = none) (t : RefreshToken) (now : Instant) :
    s.Replaces x t now p where
  answer := by rw [hs.createSession_eq hp]
  sessions := by
    rw [hs.createSession_eq hp, Table.rows_insert_of_get?_eq_none,
      rows_sessions_revokeWhere]
    rw [key_session, get?_session_revokeWhere, hx]
    rfl
  tokens u hu hut y hy hpy hid := by
    rw [hs.createSession_eq hp] at hu
    obtain ⟨hu, -⟩ := (Table.mem_rows_insert.mp hu).resolve_left hut
    obtain ⟨v, -, rfl⟩ := List.mem_map.mp hu
    have hvy : y.id = v.session := hid.trans (stamped_session s p now v)
    change (s.stamped p now v).revokedAt.isSome = true
    rw [stamped_revokedAt_isSome s p now v hy hvy, hpy, Bool.or_true]
  others u hu hut hfree := by
    rw [hs.createSession_eq hp]
    refine Table.mem_rows_insert.mpr (Or.inr ⟨?_, hut⟩)
    have hstill : s.stamped p now u = u := by
      refine if_neg fun ⟨_, hany⟩ => ?_
      obtain ⟨y, hy, hpy⟩ := List.any_eq_true.mp hany
      simp only [Bool.and_eq_true, decide_eq_true_eq] at hpy
      rw [hfree y hy hpy.2] at hpy
      exact absurd hpy.1 Bool.false_ne_true
    rw [rows_tokens_revokeWhere]
    exact List.mem_map.mpr ⟨u, hu, hstill⟩

/-! ## Runs -/

/-- The sessions that a request asks to open. -/
def RepositoryRequest.newSessions : RepositoryRequest → List Session
  | createSession x _ _ => [x]
  | _ => []

/-- Opening a session gives the key to the new session. -/
theorem Store.KeysHeld.createSession
    {s : Store} (hs : s.KeysHeld) {x : Session} (hx : x.IsNew)
    (t : RefreshToken) (now : Instant) : (s.createSession x t now).2.KeysHeld := by
  have hmid : (s.revokeWhere x.sharesKey .deviceReplaced now).KeysHeld := by
    refine hs.of_origins fun y hy => ?_
    obtain ⟨z, hz, rfl⟩ := List.mem_map.mp hy
    refine ⟨z, hz, ?_⟩
    split
    · exact ⟨rfl, rfl, rfl, Or.inr ⟨rfl, rfl⟩⟩
    · exact .refl z
  refine hmid.insert (x := x) ?_ hx.isRevoked hx.activeKey fun y hy k hxk hyk => ?_
  · rw [hs.createSession_eq fun y _ => Session.sharesKey_iff]
  · -- Whoever held the key has been revoked.
    obtain ⟨z, hz, rfl⟩ := List.mem_map.mp hy
    split at hyk
    · cases hyk
    next hkeep => exact hkeep (Session.sharesKey_iff.mpr ⟨k, hxk, hyk⟩)

theorem Operation.keysHeld
    {op : Operation} {s : Store} (hs : s.KeysHeld)
    (hnew : ∀ x ∈ op.request.newSessions, x.IsNew) : (op.apply s).KeysHeld := by
  obtain ⟨request, fresh⟩ := op
  -- Only a request for a new session draws the name of one.
  have other (hopen : request.OpensProperly)
      (hnames : ∀ id, .session id ∉ names ⟨request, fresh⟩) :
      (Operation.apply ⟨request, fresh⟩ s).KeysHeld := by
    obtain ⟨mid, hfirst, hsecond⟩ := apply_sessionSteps ⟨request, fresh⟩ s hopen
    have hmid : mid.KeysHeld :=
      hs.of_origins fun y hy => hfirst.keepsKey (fun _ => List.not_mem_nil) hy
    exact hmid.of_origins fun y hy => hsecond.keepsKey hnames hy
  cases request with
  | createSession x t now =>
      exact hs.createSession (hnew x (List.mem_singleton_self x)) t now
  | _ => exact other trivial (by simp [names])

theorem Store.KeysHeld.run
    {s : Store} {ops : List Operation} (hs : s.KeysHeld)
    (hnew : ∀ op ∈ ops, ∀ x ∈ op.request.newSessions, x.IsNew) :
    (s.run ops).KeysHeld :=
  run_induction hs fun _ op _ hsplit h =>
    Operation.keysHeld h (hnew op (by simp [hsplit]))

/-- In every store that is reached, a device with a name that is not blank has
one live session of each user at most.  A session that is opened on such a
device takes the place of the live session of the same user and device, if there
is one, and of no other; and a session on a device without a name takes the
place of none. -/
theorem Store.one_live_session_per_device
    (ops : List Operation)
    (hnew : ∀ op ∈ ops, ∀ x ∈ op.request.newSessions, x.IsNew) :
    let s := Store.empty.run ops
    (∀ user device, Text.trim device ≠ "" →
      ∀ x ∈ s.sessions.rows, ∀ y ∈ s.sessions.rows,
        x.liveOn user device = true → y.liveOn user device = true → x = y) ∧
    ∀ x t now, x.IsNew → s.sessions.get? x.id = none →
      (∀ device, x.deviceId = some device → Text.trim device ≠ "" →
        s.Replaces x t now fun y => y.liveOn x.user device) ∧
      ((∀ device, x.deviceId = some device → Text.trim device = "") →
        s.Replaces x t now fun _ => false) := by
  intro s
  have hs : s.KeysHeld := KeysHeld.empty.run hnew
  refine ⟨fun user device hne x hx y hy hxd hyd => hs.eq_of_liveOn hx hy hne hxd hyd,
    fun x t now hx hid => ⟨fun device hdevice hne => ?_, fun hblank => ?_⟩⟩
  · obtain ⟨k, hk⟩ : ∃ k, activeKey x.user (some device) = some k :=
      ⟨_, activeKey_eq_some_iff.mpr ⟨device, rfl, hne, rfl⟩⟩
    have hxk : x.activeKey = some k := by rw [hx.activeKey, hdevice, hk]
    refine hs.replaces (fun y hy => ?_) hid t now
    rw [hs.liveOn_iff hy hk, hxk]
    simp
  · refine hs.replaces (fun y hy => ?_) hid t now
    have hxk : x.activeKey = none := by
      rw [hx.activeKey, Option.eq_none_iff_forall_ne_some]
      intro k hk
      obtain ⟨d, hd, hne, -⟩ := activeKey_eq_some_iff.mp hk
      exact hne (hblank d hd)
    simp [hxk]

/-- A new session of a user on a device with a colon in its name. -/
def tabletSession (id : SessionId) (user : UserId) (device : String) : Session :=
  Session.create id user [.password] { id := some device } ⟨1000, 0⟩ ⟨0, 0⟩

/-- The first refresh token of such a session. -/
def tabletToken (id : TokenId) (session : SessionId) (hash : String) :
    RefreshToken where
  id := id
  session := session
  hash := hash
  expiresAt := ⟨500, 0⟩
  createdAt := ⟨0, 0⟩

/-- Two users have the same tablet. -/
def tabletRun : List Operation := [
  ⟨.createSession (tabletSession ⟨1⟩ ⟨0⟩ " a:b ") (tabletToken ⟨2⟩ ⟨1⟩ "first")
    ⟨0, 0⟩, .zero⟩,
  ⟨.createSession (tabletSession ⟨3⟩ ⟨9⟩ "a:b") (tabletToken ⟨4⟩ ⟨3⟩ "second")
    ⟨0, 0⟩, .zero⟩]

theorem tabletSession_isNew (id : SessionId) (user : UserId) (device : String) :
    (tabletSession id user device).IsNew :=
  ⟨_, _, _, _, rfl⟩

theorem Store.one_live_session_per_device_tablet :
    let s := Store.empty.run tabletRun
    let x := tabletSession ⟨5⟩ ⟨0⟩ "a:b"
    let t := tabletToken ⟨6⟩ ⟨5⟩ "third"
    (∀ y ∈ s.sessions.rows, ∀ z ∈ s.sessions.rows,
      y.liveOn ⟨0⟩ "a:b" = true → z.liveOn ⟨0⟩ "a:b" = true → y = z) ∧
    s.Replaces x t ⟨10, 0⟩ (fun y => y.liveOn ⟨0⟩ "a:b") ∧
    (s.createSession x t ⟨10, 0⟩).1.replaced = some ⟨1⟩ := by
  have hnew : ∀ op ∈ tabletRun, ∀ x ∈ op.request.newSessions, x.IsNew := by
    simp only [tabletRun, List.forall_mem_cons, List.not_mem_nil, false_imp_iff,
      implies_true, and_true, RepositoryRequest.newSessions]
    exact ⟨tabletSession_isNew _ _ _, tabletSession_isNew _ _ _⟩
  have hname : Text.trim "a:b" ≠ "" := by decide +kernel
  obtain ⟨hsingle, hopen⟩ := one_live_session_per_device tabletRun hnew
  have hreplaces := (hopen (tabletSession ⟨5⟩ ⟨0⟩ "a:b") (tabletToken ⟨6⟩ ⟨5⟩ "third")
    ⟨10, 0⟩ (tabletSession_isNew _ _ _) (by decide +kernel)).1 "a:b" rfl hname
  refine ⟨hsingle ⟨0⟩ "a:b" hname, hreplaces, ?_⟩
  rw [hreplaces.answer]
  decide +kernel

end AccountAuthority
