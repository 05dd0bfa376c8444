import AccountAuthority.Proofs.QueuedJobs
import Mathlib.Data.List.Induction

/-!
# Leases on jobs

A claim takes the due jobs that run first, as many as it may, and leases them.
As long as nothing else is done with a leased job, no other claim gets it before
its lease lapses.  A claim after that may lease the job once more, and only if
it does so with a negative lease, to a time that has passed, may the job be had
again within the first lease.
-/

namespace AccountAuthority

namespace Instant

variable {a b t : Instant} {d : Span}

theorem le_total (a b : Instant) : a ≤ b ∨ b ≤ a := by
  rw [le_def, le_def]
  omega

/-- A span that is not negative leads to no earlier time, also from inside of a
leap second. -/
theorem le_add (hd : 0 ≤ d.nanos) : t ≤ t + d := by
  by_cases hleap : t.isLeap = true
  · have hnanos : 1000000000 ≤ t.nanos := by simpa [isLeap] using hleap
    have hsplit : 1000000000 * d.wholeSeconds + d.subsecondNanos = d.nanos :=
      Int.mul_tdiv_add_tmod _ _
    have hwhole : 0 ≤ d.wholeSeconds := Int.tdiv_nonneg hd (by decide)
    have hrest : 0 ≤ d.subsecondNanos := Int.tmod_nonneg _ hd
    change t ≤ t.add d
    unfold add
    rw [if_pos hleap]
    by_cases hleaves : 0 < d.wholeSeconds ∨
        (0 < d.subsecondNanos ∧ 2000000000 ≤ t.nanos + d.subsecondNanos)
    · rw [if_pos hleaves]
      simp only [le_def, ofNanos, Span.perSecond]
      omega
    · rw [if_neg hleaves, if_neg (Int.not_lt.mpr hwhole)]
      have hlater : t.nanos ≤ (t.nanos + d.subsecondNanos).toNat := by omega
      exact Or.inr ⟨rfl, hlater⟩
  · exact IsPlain.le_add (isPlain_iff.mpr (by simpa using hleap)) hd

end Instant

theorem Job.id_fail
    (j : Job) (error : String) (retryAt : Option Instant) (now : Instant) :
    (j.fail error retryAt now).id = j.id := by
  unfold Job.fail
  cases retryAt with
  | none => rfl
  | some at_ =>
      dsimp only
      split <;> rfl

/-- A call to the queue: who makes it, what is asked for, and the identifier for
a job that is put in without one. -/
structure QueueCall where
  caller : ℕ
  request : QueueRequest
  freshId : String

namespace QueueCall

/-- The queue after a call. -/
def apply (c : QueueCall) (q : Queue) : Queue :=
  (q.perform c.request c.freshId).2

/-- The job that the call puts in, or puts back to its start. -/
def entered? (c : QueueCall) : Option String :=
  match c.request with
  | .enqueue _ _ _ id _ _ => some (id.getD c.freshId)
  | _ => none

/-- The job that the call reports the outcome of. -/
def reported? (c : QueueCall) : Option String :=
  match c.request with
  | .complete id _ | .reschedule id _ _ | .fail id _ _ _ => some id
  | _ => none

/-- The jobs that the call gets from the queue. -/
def claimed (c : QueueCall) (q : Queue) : List Job :=
  match c.request with
  | .claim type now lease limit => (q.claim type now lease limit).1
  | _ => []

/-- The call gets the job from the queue. -/
def Claims (c : QueueCall) (q : Queue) (id : String) : Prop :=
  id ∈ (c.claimed q).map Job.id

instance (c : QueueCall) (q : Queue) (id : String) : Decidable (c.Claims q id) :=
  inferInstanceAs (Decidable (id ∈ _))

/-- The call gets the job at the end of a lease or later, and its own lease is
negative. -/
def CutsLease (c : QueueCall) (q : Queue) (id : String) (leaseEnd : Instant) :
    Prop :=
  c.Claims q id ∧ ∃ type now lease limit,
    c.request = .claim type now lease limit ∧ leaseEnd ≤ now ∧ lease.nanos < 0

end QueueCall

namespace Queue

/-- The queue after calls, whoever makes them. -/
def run (q : Queue) (calls : List QueueCall) : Queue :=
  calls.foldl (fun q c => c.apply q) q

@[simp] theorem run_nil (q : Queue) : q.run [] = q := rfl

theorem run_append (q : Queue) (calls calls' : List QueueCall) :
    q.run (calls ++ calls') = (q.run calls).run calls' :=
  List.foldl_append

theorem run_concat (q : Queue) (calls : List QueueCall) (c : QueueCall) :
    q.run (calls ++ [c]) = c.apply (q.run calls) := by
  rw [run_append]
  rfl

/-! ## What a call does to one job -/

section

variable {q : Queue} {id : String}

theorem get?_claim_of_not_claimed
    {type : String} {now : Instant} {lease : Span} {limit : ℕ}
    (h : id ∉ (q.claim type now lease limit).1.map Job.id) :
    (q.claim type now lease limit).2.jobs.get? id = q.jobs.get? id := by
  apply Option.ext
  intro j
  rw [Table.get?_eq_some_iff, Table.get?_eq_some_iff, mem_claim, key_job]
  constructor
  · rintro ⟨hj | ⟨hj, -⟩, rfl⟩
    · exact absurd (List.mem_map_of_mem hj) h
    · exact ⟨hj, rfl⟩
  · rintro ⟨hj, rfl⟩
    exact ⟨Or.inr ⟨hj, h⟩, rfl⟩

theorem get?_claim_of_mem
    {type : String} {now : Instant} {lease : Span} {limit : ℕ} {j : Job}
    (h : j ∈ (q.claim type now lease limit).1) :
    (q.claim type now lease limit).2.jobs.get? j.id = some j :=
  Table.get?_eq_some_iff.mpr ⟨mem_claim.mpr (Or.inl h), rfl⟩

theorem get?_change_of_ne
    {id' : String} {f : Job → Job} {hf : ∀ j, (f j).id = j.id} (h : id ≠ id') :
    (q.change id' f hf).jobs.get? id = q.jobs.get? id := by
  rw [change, Table.update, Table.get?_map]
  cases hget : q.jobs.get? id with
  | none => rfl
  | some j =>
      obtain ⟨-, hid : j.id = id⟩ := Table.get?_eq_some_iff.mp hget
      simp [hid, h]

theorem get?_change_self
    {f : Job → Job} {hf : ∀ j, (f j).id = j.id} :
    (q.change id f hf).jobs.get? id = (q.jobs.get? id).map f := by
  rw [change, Table.update, Table.get?_map]
  cases hget : q.jobs.get? id with
  | none => rfl
  | some j =>
      obtain ⟨-, hid : j.id = id⟩ := Table.get?_eq_some_iff.mp hget
      simp [hid]

theorem get?_fail
    (q : Queue) (id' error : String) (retryAt : Option Instant) (now : Instant) :
    (q.fail id' error retryAt now).2.jobs.get? id =
      if id = id' then (q.jobs.get? id).map fun j => j.fail error retryAt now
      else q.jobs.get? id := by
  unfold fail
  cases hget : q.jobs.get? id' with
  | none =>
      by_cases hid : id = id'
      · rw [if_pos hid, hid, hget]
        rfl
      · rw [if_neg hid]
  | some j =>
      obtain ⟨-, hj : j.id = id'⟩ := Table.get?_eq_some_iff.mp hget
      simp only [Table.get?_insert, key_job, Job.id_fail, hj]
      by_cases hid : id = id'
      · rw [if_pos hid, if_pos hid, hid, hget]
        rfl
      · rw [if_neg hid, if_neg hid]

/-- A call that neither puts in a job, nor reports on it, nor gets it, leaves it
as it is. -/
theorem get?_apply_of_untouched
    {c : QueueCall} (hentered : c.entered? ≠ some id)
    (hreported : c.reported? ≠ some id) (hclaimed : ¬c.Claims q id) :
    (c.apply q).jobs.get? id = q.jobs.get? id := by
  obtain ⟨caller, request, freshId⟩ := c
  cases request with
  | enqueue type payload delay id' maxAttempts now =>
      obtain ⟨j, hjobs, hid, -⟩ := exists_enqueued q type payload delay
        (id'.getD freshId) maxAttempts now freshId
      have hne : id ≠ id'.getD freshId := fun heq => hentered (by rw [heq]; rfl)
      change (q.enqueue type payload delay (some (id'.getD freshId)) maxAttempts
        now freshId).2.jobs.get? id = _
      rw [hjobs, Table.get?_insert, key_job, hid, if_neg hne]
  | claim type now lease limit => exact get?_claim_of_not_claimed hclaimed
  | complete id' now => exact get?_change_of_ne fun heq => hreported (by rw [heq]; rfl)
  | reschedule id' runAt now =>
      exact get?_change_of_ne fun heq => hreported (by rw [heq]; rfl)
  | fail id' error retryAt now =>
      have hne : id ≠ id' := fun heq => hreported (by rw [heq]; rfl)
      exact (get?_fail q id' error retryAt now).trans (if_neg hne)
  | find id' => rfl

/-- A call that gets a job has found it due, and leases it. -/
theorem exists_due_of_claims {c : QueueCall} (h : c.Claims q id) :
    ∃ type now lease limit j, c.request = .claim type now lease limit ∧
      q.jobs.get? id = some j ∧ j.isDue now = true ∧
      (c.apply q).jobs.get? id = some (j.leased lease now) := by
  obtain ⟨caller, request, freshId⟩ := c
  cases request with
  | claim type now lease limit =>
      obtain ⟨j', hj', rfl⟩ := List.mem_map.mp h
      obtain ⟨j, hj, hdue, rfl⟩ := exists_due_of_mem_claimed hj'
      exact ⟨type, now, lease, limit, j, rfl, Table.get?_eq_some_iff.mpr ⟨hj, rfl⟩,
        hdue, get?_claim_of_mem hj'⟩
  | _ => exact absurd h List.not_mem_nil

end

end Queue

/-! ## Fair claims -/

/-- A claim may get the job: it has the type, and it waits and its time has come
or its lease has lapsed. -/
def Job.Eligible (j : Job) (type : String) (now : Instant) : Prop :=
  j.type = type ∧
    ((j.state = .pending ∧ j.runAt ≤ now) ∨
      (j.state = .running ∧ ∃ leaseEnd, j.lockedUntil = some leaseEnd ∧ leaseEnd ≤ now))

theorem Job.eligible_iff {j : Job} {type : String} {now : Instant} :
    j.Eligible type now ↔ j.type = type ∧ j.isDue now = true := by
  refine and_congr_right fun _ => ?_
  unfold isDue
  cases hstate : j.state with
  | pending => simp
  | running => cases hlock : j.lockedUntil <;> simp
  | completed | dead => simp

instance (j : Job) (type : String) (now : Instant) : Decidable (j.Eligible type now) :=
  decidable_of_iff _ Job.eligible_iff.symm

/-- A claim has got the eligible jobs that run first, in the order of their run
times and as many as it may, and has leased them; all other jobs are left as
they are. -/
structure Queue.ClaimedFairly (q : Queue) (type : String) (now : Instant)
    (lease : Span) (limit : ℕ) (claimed : List Job) (q' : Queue) : Prop where
  atMost : claimed.length ≤ limit
  distinct : (claimed.map Job.id).Nodup
  eligible : ∀ j ∈ claimed, ∃ j₀ ∈ q.jobs.rows,
    j₀.Eligible type now ∧ j = j₀.leased lease now
  ordered : claimed.Pairwise fun a b => a.runAt ≤ b.runAt
  earliest : ∀ j ∈ q.jobs.rows, j.Eligible type now →
    j.id ∉ claimed.map Job.id → ∀ j' ∈ claimed, ¬j.runAt < j'.runAt
  length : claimed.length =
    min limit (q.jobs.rows.countP fun j => j.Eligible type now)
  leased : ∀ j ∈ claimed, q'.jobs.get? j.id = some j
  others : ∀ id ∉ claimed.map Job.id, q'.jobs.get? id = q.jobs.get? id

namespace Queue

variable {q : Queue} {type : String} {now : Instant} {lease : Span} {limit : ℕ}

theorem mem_dueJobs_iff_eligible {j : Job} :
    j ∈ q.dueJobs type now ↔ j ∈ q.jobs.rows ∧ j.Eligible type now := by
  rw [mem_dueJobs, Job.eligible_iff]

theorem dueJobs_pairwise :
    (q.dueJobs type now).Pairwise fun a b => a.runAt ≤ b.runAt := by
  rw [dueJobs]
  have h := @List.pairwise_mergeSort Job (fun a b => decide (a.runAt ≤ b.runAt))
    (fun a b c hab hbc => by
      simp only [decide_eq_true_eq] at *
      exact Instant.le_trans hab hbc)
    (fun a b => by
      simp only [Bool.or_eq_true, decide_eq_true_eq]
      exact Instant.le_total _ _)
    (q.jobs.rows.filter fun j => j.type = type && j.isDue now)
  simpa only [decide_eq_true_eq] using h

theorem length_dueJobs :
    (q.dueJobs type now).length =
      q.jobs.rows.countP fun j => j.Eligible type now := by
  rw [dueJobs, List.length_mergeSort, List.countP_eq_length_filter]
  congr 2
  funext j
  simp [Job.eligible_iff]

theorem claim_ids :
    (q.claim type now lease limit).1.map Job.id =
      ((q.dueJobs type now).take limit).map Job.id := by
  rw [claim, List.map_map]
  rfl

/-- What is eligible and not claimed comes after what is claimed. -/
theorem runAt_le_of_not_claimed
    {j j' : Job} (hj : j ∈ q.jobs.rows) (helig : j.Eligible type now)
    (hnot : j.id ∉ (q.claim type now lease limit).1.map Job.id)
    (hj' : j' ∈ (q.claim type now lease limit).1) : j'.runAt ≤ j.runAt := by
  have hsorted : (q.dueJobs type now).Pairwise fun a b => a.runAt ≤ b.runAt :=
    dueJobs_pairwise
  rw [← List.take_append_drop limit (q.dueJobs type now), List.pairwise_append]
    at hsorted
  obtain ⟨j₀, hj₀, rfl⟩ := mem_claimed.mp hj'
  have hdue : j ∈ q.dueJobs type now := mem_dueJobs_iff_eligible.mpr ⟨hj, helig⟩
  rw [← List.take_append_drop limit (q.dueJobs type now), List.mem_append] at hdue
  refine hsorted.2.2 j₀ hj₀ j (hdue.resolve_left fun htake => hnot ?_)
  rw [claim_ids]
  exact List.mem_map_of_mem htake

theorem claimedFairly (q : Queue) (type : String) (now : Instant) (lease : Span)
    (limit : ℕ) :
    q.ClaimedFairly type now lease limit (q.claim type now lease limit).1
      (q.claim type now lease limit).2 where
  atMost := by
    rw [claim, List.length_map]
    exact List.length_take_le _ _
  distinct := nodup_claimed
  eligible := by
    intro j hj
    obtain ⟨j₀, hj₀, rfl⟩ := mem_claimed.mp hj
    obtain ⟨hrow, helig⟩ := mem_dueJobs_iff_eligible.mp (List.mem_of_mem_take hj₀)
    exact ⟨j₀, hrow, helig, rfl⟩
  ordered := by
    rw [claim, List.pairwise_map]
    exact dueJobs_pairwise.sublist (List.take_sublist _ _)
  earliest := by
    intro j hj helig hnot j' hj'
    exact Instant.not_lt.mpr (runAt_le_of_not_claimed hj helig hnot hj')
  length := by
    rw [claim, List.length_map, List.length_take, length_dueJobs]
  leased := fun _ => get?_claim_of_mem
  others := fun _ => get?_claim_of_not_claimed

/-! ## Exclusive leases -/

/-- The job is under a lease that ends no earlier than a time. -/
def LeasedUntil (q : Queue) (id : String) (leaseEnd : Instant) : Prop :=
  ∃ j until_, q.jobs.get? id = some j ∧ j.state = .running ∧
    j.lockedUntil = some until_ ∧ leaseEnd ≤ until_

variable {id : String} {leaseEnd : Instant}

theorem LeasedUntil.isDue
    (h : q.LeasedUntil id leaseEnd) {j : Job} (hj : q.jobs.get? id = some j)
    (hdue : j.isDue now = true) : leaseEnd ≤ now := by
  obtain ⟨j', until_, hj', hrunning, hlocked, hle⟩ := h
  obtain rfl := Option.some.inj (hj.symm.trans hj')
  refine Instant.le_trans hle ?_
  simpa [Job.isDue, hrunning, hlocked] using hdue

theorem leasedUntil_of_mem
    {j : Job} (h : j ∈ (q.claim type now lease limit).1) :
    (q.claim type now lease limit).2.LeasedUntil j.id (now + lease) := by
  refine ⟨j, now + lease, get?_claim_of_mem h, ?_⟩
  obtain ⟨j₀, -, rfl⟩ := mem_claimed.mp h
  exact ⟨rfl, rfl, Instant.le_refl _⟩

/-- A claim that gets the job comes after the end of the lease, so that its own
lease ends even later if it is not negative. -/
theorem LeasedUntil.apply
    (h : q.LeasedUntil id leaseEnd) {c : QueueCall} (hentered : c.entered? ≠ some id)
    (hreported : c.reported? ≠ some id) (hcut : ¬c.CutsLease q id leaseEnd) :
    (c.apply q).LeasedUntil id leaseEnd := by
  by_cases hclaims : c.Claims q id
  · obtain ⟨type, now, lease, limit, j, hrequest, hj, hdue, hafter⟩ :=
      exists_due_of_claims hclaims
    have hlapsed : leaseEnd ≤ now := h.isDue hj hdue
    have hlease : 0 ≤ lease.nanos := by
      refine Int.not_lt.mp fun hneg => hcut ?_
      exact ⟨hclaims, type, now, lease, limit, hrequest, hlapsed, hneg⟩
    exact ⟨_, now + lease, hafter, rfl, rfl,
      Instant.le_trans hlapsed (Instant.le_add hlease)⟩
  · obtain ⟨j, until_, hj, hrest⟩ := h
    exact ⟨j, until_,
      (get?_apply_of_untouched hentered hreported hclaims).trans hj, hrest⟩

theorem LeasedUntil.run
    (h : q.LeasedUntil id leaseEnd) {calls : List QueueCall}
    (hothers : ∀ c ∈ calls, c.entered? ≠ some id ∧ c.reported? ≠ some id)
    (hcut : ∀ pre c post, calls = pre ++ c :: post →
      ¬c.CutsLease (q.run pre) id leaseEnd) :
    (q.run calls).LeasedUntil id leaseEnd := by
  induction calls using List.reverseRecOn with
  | nil => exact h
  | append_singleton calls c ih =>
      rw [run_concat]
      obtain ⟨hentered, hreported⟩ := hothers c (by simp)
      refine LeasedUntil.apply (ih (fun c hc => hothers c (by simp [hc])) ?_)
        hentered hreported (hcut calls c [] rfl)
      intro pre c' post hsplit
      exact hcut pre c' (post ++ [c]) (by simp [hsplit])

theorem LeasedUntil.not_mem_claim
    (h : q.LeasedUntil id leaseEnd) (hnow : now < leaseEnd) :
    id ∉ (q.claim type now lease limit).1.map Job.id := by
  intro hid
  obtain ⟨j, hj, rfl⟩ := List.mem_map.mp hid
  obtain ⟨j₀, hj₀, hdue, rfl⟩ := exists_due_of_mem_claimed hj
  have hget : q.jobs.get? (j₀.leased lease now).id = some j₀ :=
    Table.get?_eq_some_iff.mpr ⟨hj₀, rfl⟩
  exact Instant.not_lt.mpr (h.isDue hget hdue) hnow

end Queue

/-- Every claim is fair, whatever the queue.  Afterwards, whoever calls the queue
for what, a job that the claim has got is not had by another claim at a time
within the lease, unless the job has been put in again in between, or reported
on, or leased at the end of the lease or later by a claim with a negative
lease. -/
theorem claims_fair_and_exclusive
    (q : Queue) (type : String) (now : Instant) (lease : Span) (limit : ℕ) :
    q.ClaimedFairly type now lease limit (q.claim type now lease limit).1
        (q.claim type now lease limit).2 ∧
      ∀ j ∈ (q.claim type now lease limit).1, ∀ calls : List QueueCall,
        (∀ c ∈ calls, c.entered? ≠ some j.id ∧ c.reported? ≠ some j.id) →
        (∀ pre c post, calls = pre ++ c :: post → ¬c.CutsLease
          ((q.claim type now lease limit).2.run pre) j.id (now + lease)) →
        ∀ type' now' lease' limit', now' < now + lease →
          j.id ∉ ((((q.claim type now lease limit).2.run calls).claim type' now'
            lease' limit').1.map Job.id) := by
  refine ⟨Queue.claimedFairly q type now lease limit, ?_⟩
  intro j hj calls hothers hcut type' now' lease' limit' hnow
  have hleased := (Queue.leasedUntil_of_mem hj).run hothers hcut
  exact hleased.not_mem_claim hnow

/-! ## A lease to the past -/

/-- A queue with one job, which is due. -/
def oneJobDue : Queue :=
  Queue.empty.run [⟨0, .enqueue "t" .null none (some "a") none ⟨0, 0⟩, ""⟩]

/-- A worker asks for the job at a time, for a while of some seconds. -/
def claimAt (caller : ℕ) (time seconds : ℤ) : QueueCall :=
  ⟨caller, .claim "t" ⟨time, 0⟩ (.seconds seconds) 1, ""⟩

theorem claims_fair_and_exclusive_sample :
    let q := (oneJobDue.claim "t" ⟨0, 0⟩ (.seconds 10) 1).2
    let calls := [claimAt 2 5 10]
    (∃ j ∈ (oneJobDue.claim "t" ⟨0, 0⟩ (.seconds 10) 1).1, j.id = "a") ∧
      (∀ c ∈ calls, c.entered? ≠ some "a" ∧ c.reported? ≠ some "a") ∧
      (∀ pre c post, calls = pre ++ c :: post →
        ¬c.CutsLease (q.run pre) "a" ⟨10, 0⟩) ∧
      "a" ∉ ((q.run calls).claim "t" ⟨9, 0⟩ (.seconds 10) 1).1.map Job.id := by
  intro q calls
  have hclaimed : ∃ j ∈ (oneJobDue.claim "t" ⟨0, 0⟩ (.seconds 10) 1).1,
      j.id = "a" := by decide +kernel
  have hothers : ∀ c ∈ calls, c.entered? ≠ some "a" ∧ c.reported? ≠ some "a" := by
    decide
  have hcut : ∀ pre c post, calls = pre ++ c :: post →
      ¬c.CutsLease (q.run pre) "a" ⟨10, 0⟩ := by
    rintro pre c post hsplit ⟨-, type, now, lease, limit, hrequest, -, hneg⟩
    have hc : c ∈ calls := by simp [hsplit]
    obtain rfl := List.mem_singleton.mp hc
    cases hrequest
    revert hneg
    decide
  refine ⟨hclaimed, hothers, hcut, ?_⟩
  obtain ⟨j, hj, hid⟩ := hclaimed
  rw [← hid] at hothers hcut ⊢
  exact (claims_fair_and_exclusive oneJobDue "t" ⟨0, 0⟩ (.seconds 10) 1).2 j hj
    calls hothers hcut "t" ⟨9, 0⟩ (.seconds 10) 1 (by decide)

/-- A claim with a negative lease, made when the first lease has lapsed, lets
another claim within the first lease get the job. -/
theorem not_leases_exclusive :
    ¬∀ (q : Queue) (type : String) (now : Instant) (lease : Span) (limit : ℕ),
      0 < lease.nanos →
      ∀ j ∈ (q.claim type now lease limit).1, ∀ calls : List QueueCall,
        (∀ c ∈ calls, c.entered? ≠ some j.id ∧ c.reported? ≠ some j.id) →
        ∀ type' now' lease' limit', now ≤ now' → now' < now + lease →
          j.id ∉ ((((q.claim type now lease limit).2.run calls).claim type' now'
            lease' limit').1.map Job.id) := by
  intro h
  have hclaimed : ∃ j ∈ (oneJobDue.claim "t" ⟨0, 0⟩ (.seconds 10) 1).1,
      j.id = "a" := by decide +kernel
  obtain ⟨j, hj, hid⟩ := hclaimed
  have hnot := h oneJobDue "t" ⟨0, 0⟩ (.seconds 10) 1 (by decide) j hj
    [claimAt 2 10 (-10)]
  rw [hid] at hnot
  have hfree := hnot (by decide) "t" ⟨5, 0⟩ (.seconds 10) 1 (by decide) (by decide)
  revert hfree
  decide +kernel

end AccountAuthority
