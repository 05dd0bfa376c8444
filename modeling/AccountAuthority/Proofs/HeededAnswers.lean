import AccountAuthority.Proofs.Conversations
import AccountAuthority.Proofs.RowReading
import AccountAuthority.Relational.Accounts

/-!
# Programs that heed every answer

A program over a database heeds the answers to its statements if it succeeds just
when all statements do and their rows are as they should be.  If it fails, its
error tells whether that was for a conflict with another transaction.  What
heeds every answer can be put together from pieces that do.
-/

namespace AccountAuthority

/-! ## Conflicts -/

/-- The server has given up the transaction for the sake of another: a
serialization failure, or a deadlock. -/
def DatabaseError.IsConflict (e : DatabaseError) : Prop :=
  ∃ s, e = .server s ∧ (s.state = some "40001" ∨ s.state = some "40P01")

theorem DatabaseError.IsLocal.not_isConflict {e : DatabaseError} (h : e.IsLocal) :
    ¬e.IsConflict :=
  fun ⟨s, hs, _⟩ => h s hs

theorem RepositoryError.isTransient_ofDatabase {e : DatabaseError} :
    (ofDatabase e).isTransient = true ↔ e.IsConflict := by
  cases e with
  | server s =>
      have hstates : (conflictStates.any fun c => s.state = some c) = true ↔
          s.state = some "40001" ∨ s.state = some "40P01" := by
        simp [conflictStates]
      unfold ofDatabase
      simp only [hstates]
      split
      next h => exact ⟨fun _ => ⟨s, rfl, h⟩, fun _ => rfl⟩
      next h =>
        have hnot : ¬(DatabaseError.server s).IsConflict := by
          rintro ⟨_, ⟨⟩, hs⟩
          exact h hs
        split
        all_goals exact ⟨nofun, fun hs => absurd hs hnot⟩
  | _ => exact ⟨nofun, nofun⟩

namespace Message

variable {S : Type}

/-- The statement has succeeded, and its rows are what `D` says. -/
def Settles (D : S → Reply → Prop) : Message S → Prop
  | statement s (.ok reply) => D s reply
  | _ => False

/-- The request was given up for the sake of another transaction.  What becomes
of a rollback does not matter. -/
def Conflicts : Message S → Prop
  | statement _ (.error e) => e.IsConflict
  | control .rollback _ => False
  | control _ (.error e) => e.IsConflict
  | _ => False

theorem Settles.isStatement {D : S → Reply → Prop} {m : Message S}
    (h : m.Settles D) : m.IsStatement := by
  cases m with
  | statement s answer => trivial
  | control c answer => exact absurd h id

theorem Settles.not_conflicts {D : S → Reply → Prop} {m : Message S}
    (h : m.Settles D) : ¬m.Conflicts := by
  cases m with
  | statement s answer =>
      cases answer with
      | ok reply => exact id
      | error e => exact absurd h id
  | control c answer => exact absurd h id

end Message

/-! ## Heeding every answer -/

section

variable {S σ α β : Type} {D : S → Reply → Prop} {P : Prop}

/-- Only statements were sent.  The program has succeeded just if all of them
settle and `P` holds; and its error tells whether there was a conflict. -/
structure Conversation.Heeds (D : S → Reply → Prop) (P : Prop)
    (c : Conversation S σ (Except RepositoryError α)) : Prop where
  isStatement : ∀ m ∈ c.messages, m.IsStatement
  ok_iff : (∃ a, c.result = .ok a) ↔ (∀ m ∈ c.messages, m.Settles D) ∧ P
  isTransient_iff : ∀ e, c.result = .error e →
    (e.isTransient = true ↔ ∃ m ∈ c.messages, m.Conflicts)

/-- Statements that have settled stand before a conversation. -/
theorem Conversation.Heeds.prepend
    {c : Conversation S σ (Except RepositoryError α)} (h : c.Heeds D P)
    {log : List (Message S)} (hlog : ∀ m ∈ log, m.IsStatement)
    (hsettled : ∀ m ∈ log, m.Settles D) :
    Conversation.Heeds D P ⟨log ++ c.messages, c.result, c.state⟩ := by
  refine ⟨?_, h.ok_iff.trans (and_congr_left' ?_), fun e he => ?_⟩
  · exact List.forall_mem_append.mpr ⟨hlog, h.isStatement⟩
  · rw [List.forall_mem_append]
    exact ⟨fun h => ⟨hsettled, h⟩, fun h => h.2⟩
  · refine (h.isTransient_iff e he).trans ?_
    constructor
    · rintro ⟨m, hm, hconflict⟩
      exact ⟨m, List.mem_append_right _ hm, hconflict⟩
    · rintro ⟨m, hm, hconflict⟩
      refine ⟨m, (List.mem_append.mp hm).resolve_left fun hm => ?_, hconflict⟩
      exact (hsettled m hm).not_conflicts hconflict

namespace Sql

/-- The program heeds every answer, whatever the server. -/
def Heeds (D : S → Reply → Prop) (P : Prop) (x : Sql S RepositoryError α) : Prop :=
  ∀ (σ : Type) (server : Server S σ) (t : σ), (x.converse server t).Heeds D P

variable {P : Prop}

theorem heeds_pure (a : α) : Heeds D True (pure a) := fun _ _ _ => {
  isStatement := nofun
  ok_iff := ⟨fun _ => ⟨nofun, trivial⟩, fun _ => ⟨a, rfl⟩⟩
  isTransient_iff := nofun }

theorem heeds_freshId : Heeds D True (freshId (S := S)) := fun _ server t => {
  isStatement := nofun
  ok_iff := ⟨fun _ => ⟨nofun, trivial⟩, fun _ => ⟨(server .freshId t).1, rfl⟩⟩
  isTransient_iff := nofun }

theorem heeds_ofExcept
    {r : Except RepositoryError α} (hr : FailsWith RepositoryError.IsFinal r) :
    Heeds D (∃ a, r = .ok a) (ofExcept r) := fun _ _ _ => {
  isStatement := nofun
  ok_iff := ⟨fun h => ⟨nofun, h⟩, fun h => h.2⟩
  isTransient_iff := by
    intro e he
    have hfinal : e.isTransient = false := hr e he
    rw [hfinal]
    exact ⟨nofun, fun ⟨_, hm, _⟩ => nomatch hm⟩ }

theorem heeds_ofExcept_mapM
    {f : β → Except RepositoryError α}
    (hf : ∀ b, FailsWith RepositoryError.IsFinal (f b)) (o : Option β) :
    Heeds D (∀ b ∈ o, ∃ a, f b = .ok a) (ofExcept (o.mapM f)) := by
  have hok : (∃ l, o.mapM f = .ok l) ↔ ∀ b ∈ o, ∃ a, f b = .ok a := by
    simpa using exists_mapM_option_iff (f := f) (o := o) (φ := fun _ => True)
  rw [← hok]
  exact heeds_ofExcept (failsWith_mapM_option hf o)

theorem Heeds.of_iff
    {Q : Prop} {x : Sql S RepositoryError α} (h : Heeds D P x) (hPQ : P ↔ Q) :
    Heeds D Q x :=
  propext hPQ ▸ h

theorem heeds_seq
    {Q : Prop} {x : Sql S RepositoryError α} {k : α → Sql S RepositoryError β}
    (hx : Heeds D P x) (hk : ∀ a, Heeds D Q (k a)) : Heeds D (P ∧ Q) (x >>= k) := by
  intro σ server t
  have hfirst := hx σ server t
  cases hc : x.converse server t with
  | mk log result t' =>
      rw [hc] at hfirst
      cases result with
      | error e =>
          rw [converse_bind_error hc]
          refine ⟨hfirst.isStatement, ⟨nofun, fun h => ?_⟩, ?_⟩
          · obtain ⟨_, ⟨⟩⟩ := hfirst.ok_iff.mpr ⟨h.1, h.2.1⟩
          · rintro _ ⟨⟩
            exact hfirst.isTransient_iff e rfl
      | ok a =>
          rw [converse_bind_ok hc]
          obtain ⟨hsettled, hP⟩ := hfirst.ok_iff.mp ⟨a, rfl⟩
          have hrest : Heeds D (P ∧ Q) (k a) := (hk a).of_iff (by simp [hP])
          exact (hrest σ server t').prepend hfirst.isStatement hsettled

theorem heeds_bind
    {x : Sql S RepositoryError α} {k : α → Sql S RepositoryError β}
    (hx : Heeds D True x) (hk : ∀ a, Heeds D P (k a)) : Heeds D P (x >>= k) :=
  (heeds_seq hx hk).of_iff (by simp)

theorem heeds_map
    {x : Sql S RepositoryError α} (hx : Heeds D P x) (f : α → β) :
    Heeds D P (x >>= fun a => pure (f a)) :=
  (heeds_seq hx fun a => heeds_pure (f a)).of_iff (by simp)

/-- A statement that is sent for what it gives, which is looked at by `f`. -/
def fetch (s : S) (f : Reply → Except DatabaseError β) : Sql S RepositoryError β :=
  execute s >>= fun reply => lift (f reply)

section

variable {s : S} {f : Reply → Except DatabaseError β}

/-- What becomes of the answer to a statement. -/
def digest (f : Reply → Except DatabaseError β) :
    Except DatabaseError Reply → Except RepositoryError β
  | .ok reply => (f reply).mapError RepositoryError.ofDatabase
  | .error e => .error (.ofDatabase e)

theorem converse_fetch {σ : Type} (server : Server S σ) (t : σ) :
    (fetch s f).converse server t =
      ⟨[.statement s (server (.execute s) t).1], digest f (server (.execute s) t).1,
        (server (.execute s) t).2⟩ := by
  have hsent : (execute s : Sql S RepositoryError Reply).converse server t =
      ⟨[.statement s (server (.execute s) t).1],
        (server (.execute s) t).1.mapError RepositoryError.ofDatabase,
        (server (.execute s) t).2⟩ := rfl
  cases hanswer : (server (.execute s) t).1 with
  | error e =>
      rw [hanswer] at hsent
      exact converse_bind_error hsent
  | ok reply =>
      rw [hanswer] at hsent
      exact converse_bind_ok hsent

/-- What a statement gives is looked at by `f`, and again by what follows, which
succeeds only if `φ` holds of it. -/
theorem heeds_fetch_bind
    {φ : β → Prop} {k : β → Sql S RepositoryError α}
    (hf : ∀ reply, FailsWith DatabaseError.IsLocal (f reply))
    (hk : ∀ b, Heeds D (φ b) (k b))
    (hD : ∀ reply, D s reply ↔ ∃ b, f reply = .ok b ∧ φ b) :
    Heeds D True (fetch s f >>= k) := by
  intro σ server t
  have hsent := converse_fetch (s := s) (f := f) server t
  cases hanswer : (server (.execute s) t).1 with
  | error e =>
      rw [hanswer] at hsent
      rw [converse_bind_error hsent]
      refine ⟨by simp [Message.IsStatement], by simp [Message.Settles], ?_⟩
      rintro _ ⟨⟩
      simpa [Message.Conflicts] using RepositoryError.isTransient_ofDatabase
  | ok reply =>
      rw [hanswer] at hsent
      cases hread : f reply with
      | error e =>
          simp only [digest, hread] at hsent
          rw [converse_bind_error hsent]
          refine ⟨by simp [Message.IsStatement],
            by simp [Message.Settles, hD, hread], ?_⟩
          rintro _ ⟨⟩
          have hfinal : ¬e.IsConflict := (hf reply e hread).not_isConflict
          simpa [Message.Conflicts, RepositoryError.isTransient_ofDatabase] using hfinal
      | ok b =>
          simp only [digest, hread] at hsent
          rw [converse_bind_ok hsent]
          have hrest := hk b σ server (server (.execute s) t).2
          have hsettles : D s reply ↔ φ b := by simp [hD, hread]
          refine ⟨?_, hrest.ok_iff.trans ?_, fun e he => ?_⟩
          · exact List.forall_mem_cons.mpr ⟨trivial, hrest.isStatement⟩
          · simp [Message.Settles, hsettles, and_comm]
          · refine (hrest.isTransient_iff e he).trans ?_
            simp [Message.Conflicts]

theorem heeds_fetch
    (hf : ∀ reply, FailsWith DatabaseError.IsLocal (f reply))
    (hD : ∀ reply, D s reply ↔ ∃ b, f reply = .ok b) :
    Heeds D True (fetch s f) := by
  have hpure : Heeds D True (fetch s f >>= pure) :=
    heeds_fetch_bind (φ := fun _ => True) hf heeds_pure (by simpa using hD)
  intro σ server t
  rw [← converse_bind_pure]
  exact hpure σ server t

end

theorem heeds_affected {s : S} (hD : ∀ reply, D s reply) :
    Heeds D True (affected s) :=
  heeds_fetch (f := fun reply => .ok reply.affected) (fun _ => failsWith_pure)
    fun reply => ⟨fun _ => ⟨_, rfl⟩, fun _ => hD reply⟩

end Sql

end

/-! ## Rows that are read -/

namespace Reply

variable {β : Type}

/-- All rows can be read. -/
def AllRead (reply : Reply) (read : Row → Except DatabaseError β) : Prop :=
  ∀ row ∈ reply.rows, ∃ b, read row = .ok b

/-- The first row, if there is one, can be read and holds what it should. -/
def FirstReads (reply : Reply) (read : Row → Except DatabaseError β) (φ : β → Prop) :
    Prop :=
  ∀ row ∈ reply.rows.head?, ∃ b, read row = .ok b ∧ φ b

/-- There is a first row, which can be read and holds what it should. -/
def OneReads (reply : Reply) (read : Row → Except DatabaseError β) (φ : β → Prop) :
    Prop :=
  ∃ row ∈ reply.rows.head?, ∃ b, read row = .ok b ∧ φ b

variable {reply : Reply} {read : Row → Except DatabaseError β} {φ : β → Prop}

/-- What the row holds that has to be there. -/
def readOne (reply : Reply) (read : Row → Except DatabaseError β) :
    Except DatabaseError β :=
  match reply.rows with
  | row :: _ => read row
  | [] => .error .rowNotFound

theorem failsWith_readOne (hread : ∀ row, FailsWith DatabaseError.IsLocal (read row)) :
    FailsWith DatabaseError.IsLocal (reply.readOne read) := by
  unfold readOne
  split
  · exact hread _
  · rintro _ ⟨⟩
    exact nofun

theorem oneReads_iff :
    reply.OneReads read φ ↔ ∃ b, reply.readOne read = .ok b ∧ φ b := by
  unfold OneReads readOne
  cases reply.rows with
  | nil => simp
  | cons row rows => simp

theorem allRead_iff : reply.AllRead read ↔ ∃ l, reply.rows.mapM read = .ok l := by
  unfold AllRead
  induction reply.rows with
  | nil => exact ⟨fun _ => ⟨[], rfl⟩, fun _ => nofun⟩
  | cons row rows ih =>
      rw [List.forall_mem_cons, ih, List.mapM_cons]
      constructor
      · rintro ⟨⟨b, hb⟩, l, hl⟩
        exact ⟨b :: l, by rw [hb, hl]; rfl⟩
      · rintro ⟨l, hl⟩
        cases hb : read row with
        | error e => rw [hb] at hl; cases hl
        | ok b =>
            cases hrest : rows.mapM read with
            | error e => rw [hb, hrest] at hl; cases hl
            | ok l' => exact ⟨⟨b, rfl⟩, l', rfl⟩

theorem firstReads_iff :
    reply.FirstReads read φ ↔
      ∃ first, reply.rows.head?.mapM read = .ok first ∧ ∀ b ∈ first, φ b :=
  exists_mapM_option_iff.symm

end Reply

namespace Sql

variable {S α β : Type} {D : S → Reply → Prop} {s : S}
  {read : Row → Except DatabaseError β}

theorem fetchOne_eq_fetch :
    (fetchOne s read : Sql S RepositoryError β) =
      fetch s fun reply => reply.readOne read := by
  refine congrArg (execute s >>= ·) (funext fun reply => ?_)
  obtain ⟨rows, affected⟩ := reply
  cases rows <;> rfl

variable (hread : ∀ row, FailsWith DatabaseError.IsLocal (read row))

include hread

theorem heeds_fetchAll
    (hs : ∀ reply, D s reply ↔ reply.AllRead read) : Heeds D True (fetchAll s read) :=
  heeds_fetch (f := fun reply => reply.rows.mapM read)
    (fun reply => failsWith_mapM hread reply.rows)
    fun reply => (hs reply).trans Reply.allRead_iff

theorem heeds_fetchOptional_bind
    {φ : β → Prop} {k : Option β → Sql S RepositoryError α}
    (hs : ∀ reply, D s reply ↔ reply.FirstReads read φ)
    (hk : ∀ first, Heeds D (∀ b ∈ first, φ b) (k first)) :
    Heeds D True (fetchOptional s read >>= k) :=
  heeds_fetch_bind (f := fun reply => reply.rows.head?.mapM read)
    (fun reply => failsWith_mapM_option hread reply.rows.head?) hk
    fun reply => (hs reply).trans Reply.firstReads_iff

theorem heeds_fetchOptional
    (hs : ∀ reply, D s reply ↔ reply.FirstReads read fun _ => True) :
    Heeds D True (fetchOptional s read) :=
  heeds_fetch (f := fun reply => reply.rows.head?.mapM read)
    (fun reply => failsWith_mapM_option hread reply.rows.head?)
    fun reply => (hs reply).trans (Reply.firstReads_iff.trans (by simp))

theorem heeds_fetchOne_bind
    {φ : β → Prop} {k : β → Sql S RepositoryError α}
    (hs : ∀ reply, D s reply ↔ reply.OneReads read φ)
    (hk : ∀ b, Heeds D (φ b) (k b)) : Heeds D True (fetchOne s read >>= k) := by
  rw [fetchOne_eq_fetch]
  exact heeds_fetch_bind (fun _ => Reply.failsWith_readOne hread) hk
    fun reply => (hs reply).trans Reply.oneReads_iff

end Sql

end AccountAuthority
