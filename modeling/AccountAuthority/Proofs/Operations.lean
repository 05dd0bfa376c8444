import AccountAuthority.Proofs.Tables
import AccountAuthority.Store.Perform
import Mathlib.Data.List.Induction

/-!
# Runs of repository operations

An operation is a request to the repository together with the identifiers that
it may give to the records it makes.  Identifiers and token hashes are drawn at
random, so a run never draws the same one twice; what is drawn for a session or
a refresh token is a `Name` here.  Two operations have to be asked for in the
way the services ask for them: a session is opened with a first token made for
it, and the status of a user is set to active or suspended.
-/

namespace AccountAuthority

/-- What is drawn at random for a new session or refresh token. -/
inductive Name where
  | session (id : SessionId)
  | token (id : TokenId)
  | tokenHash (hash : String)
  deriving DecidableEq

/-- A new live session and its first refresh token, as they are made when a
session is opened. -/
structure MadeTogether (x : Session) (t : RefreshToken) : Prop where
  session : ∃ methods device expiresAt now,
    x = Session.create x.id x.user methods device expiresAt now
  token : t =
    { id := t.id, session := x.id, hash := t.hash
      expiresAt := t.expiresAt, createdAt := t.createdAt }

namespace RepositoryRequest

/-- A session is opened only together with a first token made for it. -/
def OpensProperly : RepositoryRequest → Prop
  | createSession x t _ => MadeTogether x t
  | _ => True

/-- The status that a user may get by a request, other than by a deletion. -/
def statuses : RepositoryRequest → List Status
  | changeStatus _ _ status _ _ => [status]
  | _ => []

/-- A user is made active or suspended, never deleted, by a change of
status. -/
def SetsLiveStatus (r : RepositoryRequest) : Prop :=
  .deleted ∉ r.statuses

instance (r : RepositoryRequest) : Decidable r.SetsLiveStatus :=
  inferInstanceAs (Decidable (.deleted ∉ r.statuses))

end RepositoryRequest

/-- The identifiers that are given out first. -/
def FreshIds.zero : FreshIds := ⟨⟨0⟩, ⟨0⟩, ⟨0⟩⟩

/-- A request and the identifiers for the records that it makes. -/
structure Operation where
  request : RepositoryRequest
  fresh : FreshIds

namespace Operation

/-- The store after an operation. -/
def apply (op : Operation) (s : Store) : Store :=
  (s.perform op.request op.fresh).2

/-- The names that are drawn for an operation, whether or not it comes to use
them. -/
def names (op : Operation) : List Name :=
  match op.request with
  | .createSession x t _ => [.session x.id, .token t.id, .tokenHash t.hash]
  | .rotate r => [.token op.fresh.token, .tokenHash r.newTokenHash]
  | _ => []

/-- The identifier that is drawn for the user an operation may make. -/
def newUsers (op : Operation) : List UserId :=
  match op.request with
  | .createUser u _ | .createExternalUser u _ => [u.id]
  | _ => []

end Operation

/-- The names that are drawn in a run. -/
def drawnNames (ops : List Operation) : List Name :=
  ops.flatMap Operation.names

/-- The identifiers that are drawn for users in a run. -/
def drawnUsers (ops : List Operation) : List UserId :=
  ops.flatMap Operation.newUsers

theorem drawnNames_append (ops ops' : List Operation) :
    drawnNames (ops ++ ops') = drawnNames ops ++ drawnNames ops' :=
  List.flatMap_append

theorem drawnNames_concat (ops : List Operation) (op : Operation) :
    drawnNames (ops ++ [op]) = drawnNames ops ++ op.names := by
  rw [drawnNames_append]
  simp [drawnNames]

theorem drawnUsers_append (ops ops' : List Operation) :
    drawnUsers (ops ++ ops') = drawnUsers ops ++ drawnUsers ops' :=
  List.flatMap_append

theorem drawnUsers_concat (ops : List Operation) (op : Operation) :
    drawnUsers (ops ++ [op]) = drawnUsers ops ++ op.newUsers := by
  rw [drawnUsers_append]
  simp [drawnUsers]

namespace Store

/-- The store after a run of operations. -/
def run (s : Store) (ops : List Operation) : Store :=
  ops.foldl (fun s op => op.apply s) s

@[simp] theorem run_nil (s : Store) : s.run [] = s := rfl

theorem run_append (s : Store) (ops ops' : List Operation) :
    s.run (ops ++ ops') = (s.run ops).run ops' :=
  List.foldl_append

theorem run_concat (s : Store) (ops : List Operation) (op : Operation) :
    s.run (ops ++ [op]) = op.apply (s.run ops) := by
  rw [run_append]
  rfl

/-- What holds at first and is kept by every operation of a run holds after
the run. -/
theorem run_induction
    {P : Store → Prop} {s : Store} {ops : List Operation} (hs : P s)
    (hstep : ∀ pre op post, ops = pre ++ op :: post →
      P (s.run pre) → P (op.apply (s.run pre))) :
    P (s.run ops) := by
  induction ops using List.reverseRecOn with
  | nil => exact hs
  | append_singleton ops op ih =>
      rw [run_concat]
      refine hstep ops op [] rfl (ih fun pre o post hsplit => ?_)
      exact hstep pre o (post ++ [op]) (by simp [hsplit])

/-- The names that the sessions and refresh tokens of a store go by. -/
def Uses (s : Store) : Name → Prop
  | .session id => ∃ x ∈ s.sessions.rows, x.id = id
  | .token id => ∃ t ∈ s.tokens.rows, t.id = id
  | .tokenHash hash => ∃ t ∈ s.tokens.rows, t.hash = hash

instance decidableUses (s : Store) : (n : Name) → Decidable (s.Uses n)
  | .session id => inferInstanceAs (Decidable (∃ x ∈ s.sessions.rows, x.id = id))
  | .token id => inferInstanceAs (Decidable (∃ t ∈ s.tokens.rows, t.id = id))
  | .tokenHash hash =>
      inferInstanceAs (Decidable (∃ t ∈ s.tokens.rows, t.hash = hash))

theorem not_uses_empty (n : Name) : ¬Store.empty.Uses n := by
  cases n <;> rintro ⟨_, hmem, -⟩ <;> exact absurd hmem List.not_mem_nil

end Store

end AccountAuthority
