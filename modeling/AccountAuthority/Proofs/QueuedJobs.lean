import AccountAuthority.Job.DeletionPayload
import AccountAuthority.Job.Queue
import AccountAuthority.Proofs.InstantText
import AccountAuthority.Proofs.Tables
import AccountAuthority.Proofs.UuidText

/-!
# The jobs in the queue

Which jobs are there after each operation of the queue.  Whatever order a claim
takes the jobs in, it leases due jobs only, each of them once, and all of them
if its limit is not exceeded.
-/

namespace AccountAuthority

@[simp] theorem key_job (j : Job) : key j = j.id := rfl

namespace Queue

variable {q : Queue}

theorem eq_of_id_eq
    {j j' : Job} (hj : j ∈ q.jobs.rows) (hj' : j' ∈ q.jobs.rows)
    (hid : j.id = j'.id) : j = j' :=
  Table.eq_of_key_eq hj hj' hid

/-! ## Claims -/

section

variable {type : String} {now : Instant} {lease : Span} {limit : ℕ} {j : Job}

theorem mem_dueJobs :
    j ∈ q.dueJobs type now ↔
      j ∈ q.jobs.rows ∧ j.type = type ∧ j.isDue now = true := by
  rw [dueJobs, (List.mergeSort_perm _ _).mem_iff]
  simp

theorem nodup_dueJobs : ((q.dueJobs type now).map Job.id).Nodup := by
  have hperm := (List.mergeSort_perm
    (q.jobs.rows.filter fun j => j.type = type && j.isDue now)
    fun a b => a.runAt ≤ b.runAt).map Job.id
  exact hperm.nodup_iff.mpr (q.jobs.distinct.sublist (List.filter_sublist.map _))

theorem length_dueJobs_le : (q.dueJobs type now).length ≤ q.jobs.rows.length := by
  rw [dueJobs, List.length_mergeSort]
  exact List.length_filter_le _ _

theorem mem_claimed :
    j ∈ (q.claim type now lease limit).1 ↔
      ∃ j' ∈ (q.dueJobs type now).take limit, j'.leased lease now = j :=
  List.mem_map

/-- What is claimed was due before. -/
theorem exists_due_of_mem_claimed (h : j ∈ (q.claim type now lease limit).1) :
    ∃ j' ∈ q.jobs.rows, j'.isDue now = true ∧ j'.leased lease now = j := by
  obtain ⟨j', hj', rfl⟩ := mem_claimed.mp h
  obtain ⟨hrow, -, hdue⟩ := mem_dueJobs.mp (List.mem_of_mem_take hj')
  exact ⟨j', hrow, hdue, rfl⟩

/-- Everything that is due is claimed, if it is not too much. -/
theorem leased_mem_claimed
    (hlimit : (q.dueJobs type now).length ≤ limit) (hj : j ∈ q.jobs.rows)
    (htype : j.type = type) (hdue : j.isDue now = true) :
    j.leased lease now ∈ (q.claim type now lease limit).1 := by
  refine mem_claimed.mpr ⟨j, ?_, rfl⟩
  rw [List.take_of_length_le hlimit]
  exact mem_dueJobs.mpr ⟨hj, htype, hdue⟩

theorem nodup_claimed :
    ((q.claim type now lease limit).1.map Job.id).Nodup := by
  have hids : (q.claim type now lease limit).1.map Job.id =
      ((q.dueJobs type now).take limit).map Job.id := by
    rw [claim, List.map_map]
    rfl
  rw [hids]
  exact nodup_dueJobs.sublist ((List.take_sublist _ _).map _)

theorem mem_claim :
    j ∈ (q.claim type now lease limit).2.jobs.rows ↔
      j ∈ (q.claim type now lease limit).1 ∨
        (j ∈ q.jobs.rows ∧ j.id ∉ (q.claim type now lease limit).1.map Job.id) :=
  Table.mem_rows_foldl_insert nodup_claimed

end

/-! ## Jobs that are put in, and jobs that are done -/

/-- A job that is put in under an identifier waits for its run time, whether or
not the identifier was in use. -/
theorem exists_enqueued
    (q : Queue) (type : String) (payload : Json) (delay : Option Span)
    (id : String) (maxAttempts : Option Int) (now : Instant) (jobId : String) :
    ∃ j, (q.enqueue type payload delay (some id) maxAttempts now jobId).2.jobs =
        q.jobs.insert j ∧
      j.id = id ∧ j.payload = payload ∧ j.state = .pending ∧ j.attempts = 0 ∧
      j.runAt = Job.firstRun delay now ∧
      (j.type = type ∨ ∃ j' ∈ q.jobs.rows, j'.id = id ∧ j.type = j'.type) := by
  unfold enqueue
  dsimp only [Option.getD_some]
  cases h : q.jobs.get? id with
  | none => exact ⟨_, rfl, rfl, rfl, rfl, rfl, rfl, Or.inl rfl⟩
  | some j' =>
      obtain ⟨hj', hid : j'.id = id⟩ := Table.get?_eq_some_iff.mp h
      exact ⟨_, rfl, hid, rfl, rfl, rfl, rfl, Or.inr ⟨j', hj', hid, rfl⟩⟩

theorem mem_change
    {job j : Job} (hjob : job ∈ q.jobs.rows) (f : Job → Job)
    (hf : ∀ j, (f j).id = j.id) :
    j ∈ (q.change job.id f hf).jobs.rows ↔
      j = f job ∨ (j ∈ q.jobs.rows ∧ j.id ≠ job.id) := by
  refine (Table.mem_rows_update hf).trans (or_congr_left ?_)
  constructor
  · rintro ⟨j', hj', hid, rfl⟩
    rw [eq_of_id_eq hj' hjob hid]
  · rintro rfl
    exact ⟨job, hjob, rfl, rfl⟩

end Queue

/-! ## The jobs that delete accounts -/

/-- A payload is read back, as long as its instant is. -/
theorem DeletionPayload.read_toJson
    (user : UserId) {announced : Instant} (hproper : announced.IsProper)
    (hrange : announced.InRange) :
    read (toJson ⟨user, announced⟩) = .ok ⟨user, announced⟩ := by
  have huser : readUser user.toJson = .ok user := by
    simp only [Uuid.toJson, readUser, Uuid.parse_toString]
    rfl
  have htime : readTime announced.toJson = .ok announced := by
    simp only [Instant.toJson, readTime, Instant.parse_toString hproper hrange]
    rfl
  have htimeField : readField "scheduled_for" readTime
      [("user_id", user.toJson), ("scheduled_for", announced.toJson)] =
        .ok (some announced) := by
    simp [readField, htime]
    rfl
  have huserField : readField "user_id" readUser
      [("user_id", user.toJson), ("scheduled_for", announced.toJson)] =
        .ok (some user) := by
    simp [readField, huser]
    rfl
  rw [toJson, read]
  simp only [htimeField, huserField]
  rfl

/-- A job that deletes the account of a user: a worker can read whom it is for,
and no attempt has failed. -/
structure Job.IsFor (j : Job) (user : UserId) : Prop where
  id : j.id = Job.deletionId user
  type : j.type = Job.deletionType
  payload : ∃ announced, DeletionPayload.read j.payload = .ok ⟨user, announced⟩
  attempts : j.attempts = 0

namespace Job

variable {j : Job} {user : UserId}

theorem IsFor.leased (h : j.IsFor user) (lease : Span) (now : Instant) :
    (j.leased lease now).IsFor user where
  __ := h

theorem IsFor.complete (h : j.IsFor user) (now : Instant) :
    (j.complete now).IsFor user := by
  unfold Job.complete
  split
  · exact { h with }
  · exact h

theorem IsFor.reschedule (h : j.IsFor user) (runAt now : Instant) :
    (j.reschedule runAt now).IsFor user := by
  unfold Job.reschedule
  split
  · exact { h with }
  · exact h

theorem complete_state (h : j.state = .running) (now : Instant) :
    (j.complete now).state = .completed := by
  rw [Job.complete, if_pos h]

theorem reschedule_state (h : j.state = .running) (runAt now : Instant) :
    (j.reschedule runAt now).state = .pending := by
  rw [Job.reschedule, if_pos h]

theorem reschedule_runAt (h : j.state = .running) (runAt now : Instant) :
    (j.reschedule runAt now).runAt = runAt := by
  rw [Job.reschedule, if_pos h]

/-- Of the jobs that no worker has, those are due that wait and whose time has
come. -/
theorem isDue_iff (h : j.state ≠ .running) {now : Instant} :
    j.isDue now = true ↔ j.state = .pending ∧ j.runAt ≤ now := by
  unfold isDue
  cases hstate : j.state with
  | pending => simp
  | running => exact absurd hstate h
  | completed | dead => simp

end Job

/-- All jobs are there to delete accounts, and those that are running are just
the ones that a worker has claimed and not handled yet. -/
structure Queue.HoldsDeletions (q : Queue) (claimed : List Job) : Prop where
  isFor : ∀ j ∈ q.jobs.rows, ∃ user, j.IsFor user
  running : ∀ j ∈ q.jobs.rows, j.state = .running → j ∈ claimed
  leased : ∀ j ∈ claimed, j ∈ q.jobs.rows ∧ j.state = .running
  nodup : claimed.Nodup

namespace Queue.HoldsDeletions

variable {q : Queue}

theorem empty : Queue.empty.HoldsDeletions [] where
  isFor := fun _ hj => absurd hj List.not_mem_nil
  running := fun _ hj => absurd hj List.not_mem_nil
  leased := fun _ hj => absurd hj List.not_mem_nil
  nodup := List.nodup_nil

theorem insert
    (h : q.HoldsDeletions []) {j : Job} {user : UserId} (hfor : j.IsFor user)
    (hstate : j.state ≠ .running) :
    Queue.HoldsDeletions { jobs := q.jobs.insert j } [] where
  isFor := by
    intro j' hj'
    rcases Table.mem_rows_insert.mp hj' with rfl | ⟨hj', -⟩
    · exact ⟨user, hfor⟩
    · exact h.isFor j' hj'
  running := by
    intro j' hj' hrunning
    rcases Table.mem_rows_insert.mp hj' with rfl | ⟨hj', -⟩
    · exact absurd hrunning hstate
    · exact h.running j' hj' hrunning
  leased := fun _ hj => absurd hj List.not_mem_nil
  nodup := List.nodup_nil

theorem claim
    (h : q.HoldsDeletions []) (type : String) (now : Instant) (lease : Span)
    (limit : ℕ) :
    (q.claim type now lease limit).2.HoldsDeletions
      (q.claim type now lease limit).1 where
  isFor := by
    intro j hj
    rcases mem_claim.mp hj with hj | ⟨hj, -⟩
    · obtain ⟨j', hj', -, rfl⟩ := exists_due_of_mem_claimed hj
      obtain ⟨user, hfor⟩ := h.isFor j' hj'
      exact ⟨user, hfor.leased lease now⟩
    · exact h.isFor j hj
  running := by
    intro j hj hrunning
    rcases mem_claim.mp hj with hj | ⟨hj, -⟩
    · exact hj
    · exact absurd (h.running j hj hrunning) List.not_mem_nil
  leased := by
    intro j hj
    refine ⟨mem_claim.mpr (Or.inl hj), ?_⟩
    obtain ⟨j', -, -, rfl⟩ := exists_due_of_mem_claimed hj
    rfl
  nodup := nodup_claimed.of_map _

/-- The first of the claimed jobs has been handled. -/
theorem change
    {job : Job} {jobs : List Job} (h : q.HoldsDeletions (job :: jobs))
    {f : Job → Job} (hf : ∀ j, (f j).id = j.id)
    (hfor : ∀ user, job.IsFor user → (f job).IsFor user)
    (hstate : (f job).state ≠ .running) :
    (q.change job.id f hf).HoldsDeletions jobs := by
  obtain ⟨hjob, -⟩ := h.leased job List.mem_cons_self
  obtain ⟨hnot, hnodup⟩ := List.nodup_cons.mp h.nodup
  refine ⟨fun j hj => ?_, fun j hj hrunning => ?_, fun j hj => ?_, hnodup⟩
  · rcases (mem_change hjob f hf).mp hj with rfl | ⟨hj, -⟩
    · obtain ⟨user, huser⟩ := h.isFor job hjob
      exact ⟨user, hfor user huser⟩
    · exact h.isFor j hj
  · rcases (mem_change hjob f hf).mp hj with rfl | ⟨hj, hid⟩
    · exact absurd hrunning hstate
    · refine (List.mem_cons.mp (h.running j hj hrunning)).resolve_left ?_
      rintro rfl
      exact hid rfl
  · obtain ⟨hrow, hrunning⟩ := h.leased j (List.mem_cons_of_mem _ hj)
    refine ⟨(mem_change hjob f hf).mpr (Or.inr ⟨hrow, fun hid => ?_⟩), hrunning⟩
    exact hnot (eq_of_id_eq hrow hjob hid ▸ hj)

end Queue.HoldsDeletions

end AccountAuthority
